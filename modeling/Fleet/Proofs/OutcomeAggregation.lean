import Fleet.Pass.Outcome

namespace Fleet.Proofs.OutcomeAggregation

inductive Report where
  | step (name : String) (result : Except Failure Requeue)
  | failed (name : String) (failure : Failure)
  | again
  | after (delay : Delay)

namespace Report

def addTo (outcome : Outcome) : Report → Outcome
  | .step name result => outcome.withStep name result
  | .failed name failure => outcome.withFailure name failure
  | .again => outcome.withSoon
  | .after delay => outcome.withDelay delay

def failure? : Report → Option (String × Failure)
  | .step name (.error failure) => some (name, failure)
  | .failed name failure => some (name, failure)
  | _ => none

/-- The delay that is asked for, where asking for a pass soon counts as asking for `soon`. -/
def delay? (soon : Delay) : Report → Option Delay
  | .step _ (.ok .soon) => some soon
  | .step _ (.ok (.after delay)) => some delay
  | .again => some soon
  | .after delay => some delay
  | _ => none

end Report

/-- What an outcome is gathered from: reports, and parts that are gathered on their own. -/
inductive Item where
  | report (report : Report)
  | part (items : List Item)

mutual

def Item.addTo (outcome : Outcome) : Item → Outcome
  | .report report => report.addTo outcome
  | .part items => outcome.merge (gatherOnto .empty items)

def gatherOnto (outcome : Outcome) : List Item → Outcome
  | [] => outcome
  | item :: rest => gatherOnto (item.addTo outcome) rest

end

def gather (items : List Item) : Outcome := gatherOnto .empty items

mutual

/-- All reports that go into an item, in the order in which they are made. -/
def Item.reports : Item → List Report
  | .report report => [report]
  | .part items => reportsOf items

def reportsOf : List Item → List Report
  | [] => []
  | item :: rest => item.reports ++ reportsOf rest

end

def Shortest (delays : List Delay) (delay : Delay) : Prop :=
  delay ∈ delays ∧ ∀ other ∈ delays, delay.nanoseconds ≤ other.nanoseconds

/-- What some reports decide. -/
structure Decides (soon : Delay) (reports : List Report) (outcome : Outcome) : Prop where
  failedStep : outcome.failedStep = (reports.findSome? Report.failure?).map Prod.fst
  failed : ∀ step failure, reports.findSome? Report.failure? = some (step, failure) →
    outcome.aggregate soon = .error failure
  requeued : reports.findSome? Report.failure? = none →
    reports.filterMap (Report.delay? soon) ≠ [] →
      ∃ delay, Shortest (reports.filterMap (Report.delay? soon)) delay ∧
        outcome.aggregate soon = .ok (.requeue delay)
  idle : reports.findSome? Report.failure? = none →
    reports.filterMap (Report.delay? soon) = [] → outcome.aggregate soon = .ok .awaitChange

def Item.isFine (item : Item) : Bool := (item.addTo .empty).isOk

/-- Items in another order, at any depth. Those that fail have not overtaken each other. -/
inductive Reordered : List Item → List Item → Prop
  | here {items items' : List Item} (h : items.Perm items')
      (hfailing : items.filter (fun item => !item.isFine) =
        items'.filter fun item => !item.isFine) : Reordered items items'
  | inside {items items' : List Item} (before after : List Item) (h : Reordered items items') :
      Reordered (before ++ .part items :: after) (before ++ .part items' :: after)
  | trans {items items' items'' : List Item} (h : Reordered items items')
      (h' : Reordered items' items'') : Reordered items items''

variable {a b c : Outcome} {items items' : List Item} {soon : Delay}

theorem eq_of_nanoseconds {a b : Delay} (h : a.nanoseconds = b.nanoseconds) : a = b := by
  cases a
  cases b
  cases h
  rfl

theorem min_assoc (a b c : Delay) : (a.min b).min c = a.min (b.min c) := by
  unfold Delay.min
  grind

theorem min_comm (a b : Delay) : a.min b = b.min a := by
  unfold Delay.min
  split
  · split
    · exact eq_of_nanoseconds (by omega)
    · rfl
  · rw [if_pos (by omega)]

theorem shorter_assoc (a b c : Option Delay) :
    Outcome.shorter (Outcome.shorter a b) c = Outcome.shorter a (Outcome.shorter b c) := by
  cases a <;> cases b <;> cases c <;> try rfl
  exact congrArg some (min_assoc ..)

theorem shorter_comm (a b : Option Delay) : Outcome.shorter a b = Outcome.shorter b a := by
  cases a <;> cases b <;> try rfl
  exact congrArg some (min_comm ..)

theorem shorter_none (a : Option Delay) : Outcome.shorter a none = a := by
  cases a <;> rfl

theorem merge_assoc (a b c : Outcome) : (a.merge b).merge c = a.merge (b.merge c) := by
  unfold Outcome.merge
  congr 1
  · cases a.failure <;> rfl
  · exact Bool.or_assoc ..
  · exact shorter_assoc ..

theorem merge_empty (a : Outcome) : a.merge .empty = a := by
  obtain ⟨failure, again, delay⟩ := a
  cases failure <;> cases again <;> cases delay <;> rfl

/-- The order matters only between two failures. -/
theorem merge_comm (h : a.isOk = true) (b : Outcome) : a.merge b = b.merge a := by
  have hnone : a.failure = none := Option.isNone_iff_eq_none.mp h
  unfold Outcome.merge
  rw [hnone, Bool.or_comm, shorter_comm]
  cases b.failure <;> rfl

theorem isOk_merge (a b : Outcome) : (a.merge b).isOk = (a.isOk && b.isOk) := by
  unfold Outcome.merge Outcome.isOk
  cases a.failure <;> rfl

theorem addTo_merge (report : Report) (a b : Outcome) :
    report.addTo (a.merge b) = a.merge (report.addTo b) := by
  have hfailure : ∀ name failure,
      (a.merge b).withFailure name failure = a.merge (b.withFailure name failure) := by
    intro name failure
    unfold Outcome.merge Outcome.withFailure
    cases a.failure <;> rfl
  have hsoon : (a.merge b).withSoon = a.merge b.withSoon := by
    simp [Outcome.merge, Outcome.withSoon]
  have hdelay : ∀ delay, (a.merge b).withDelay delay = a.merge (b.withDelay delay) := by
    intro delay
    simp [Outcome.merge, Outcome.withDelay, shorter_assoc]
  cases report with
  | step name result =>
      cases result with
      | error failure => exact hfailure name failure
      | ok requeue =>
          cases requeue with
          | none_ => rfl
          | soon => exact hsoon
          | after delay => exact hdelay delay
  | failed name failure => exact hfailure name failure
  | again => exact hsoon
  | after delay => exact hdelay delay

theorem foldl_addTo_merge (reports : List Report) (a b : Outcome) :
    reports.foldl Report.addTo (a.merge b) = a.merge (reports.foldl Report.addTo b) := by
  induction reports generalizing b with
  | nil => rfl
  | cons report rest ih => rw [List.foldl_cons, addTo_merge, ih, List.foldl_cons]

mutual

theorem addTo_eq_foldl (outcome : Outcome) (item : Item) :
    item.addTo outcome = item.reports.foldl Report.addTo outcome := by
  cases item with
  | report report => rfl
  | part items =>
      rw [Item.addTo, gatherOnto_eq_foldl, Item.reports, ← foldl_addTo_merge, merge_empty]

theorem gatherOnto_eq_foldl (outcome : Outcome) (items : List Item) :
    gatherOnto outcome items = (reportsOf items).foldl Report.addTo outcome := by
  cases items with
  | nil => rfl
  | cons item rest =>
      rw [gatherOnto, gatherOnto_eq_foldl, addTo_eq_foldl, reportsOf, List.foldl_append]

end

theorem gather_eq_foldl (items : List Item) :
    gather items = (reportsOf items).foldl Report.addTo .empty :=
  gatherOnto_eq_foldl .empty items

theorem gather_cons (item : Item) (rest : List Item) :
    gather (item :: rest) = (item.addTo .empty).merge (gather rest) := by
  rw [gather, gatherOnto, gatherOnto_eq_foldl, ← merge_empty (item.addTo .empty),
    foldl_addTo_merge, ← gather_eq_foldl, merge_empty]

theorem gather_append (items items' : List Item) :
    gather (items ++ items') = (gather items).merge (gather items') := by
  induction items with
  | nil => rfl
  | cons item rest ih => rw [List.cons_append, gather_cons, ih, gather_cons, merge_assoc]

theorem orElse_none {α : Type} (found : Option α) : (found <|> none) = found := by
  cases found <;> rfl

theorem failure_addTo (report : Report) (outcome : Outcome) :
    (report.addTo outcome).failure = (outcome.failure <|> report.failure?) := by
  cases report with
  | step name result =>
      cases result with
      | error failure => rfl
      | ok requeue => cases requeue <;> exact (orElse_none outcome.failure).symm
  | failed name failure => rfl
  | again => exact (orElse_none outcome.failure).symm
  | after delay => exact (orElse_none outcome.failure).symm

theorem failure_foldl (reports : List Report) (outcome : Outcome) :
    (reports.foldl Report.addTo outcome).failure =
      (outcome.failure <|> reports.findSome? Report.failure?) := by
  induction reports generalizing outcome with
  | nil => exact (orElse_none outcome.failure).symm
  | cons report rest ih =>
      rw [List.foldl_cons, ih, failure_addTo, List.findSome?_cons]
      cases outcome.failure <;> cases report.failure? <;> rfl

theorem nextDelay_withDelay (outcome : Outcome) (delay soon : Delay) :
    (outcome.withDelay delay).nextDelay soon =
      Outcome.shorter (outcome.nextDelay soon) (some delay) :=
  (shorter_assoc ..).symm

theorem nextDelay_withSoon (outcome : Outcome) (soon : Delay) :
    outcome.withSoon.nextDelay soon = Outcome.shorter (outcome.nextDelay soon) (some soon) := by
  have hsame : Outcome.shorter (some soon) (some soon) = some soon :=
    congrArg some (ite_self _)
  unfold Outcome.nextDelay Outcome.withSoon
  cases outcome.soon with
  | false => exact shorter_comm ..
  | true =>
      change Outcome.shorter (some soon) outcome.delay =
        Outcome.shorter (Outcome.shorter (some soon) outcome.delay) (some soon)
      rw [shorter_comm _ (some soon), ← shorter_assoc, hsame]

theorem nextDelay_addTo (report : Report) (outcome : Outcome) (soon : Delay) :
    (report.addTo outcome).nextDelay soon =
      Outcome.shorter (outcome.nextDelay soon) (report.delay? soon) := by
  cases report with
  | step name result =>
      cases result with
      | error failure => exact (shorter_none _).symm
      | ok requeue =>
          cases requeue with
          | none_ => exact (shorter_none _).symm
          | soon => exact nextDelay_withSoon outcome soon
          | after delay => exact nextDelay_withDelay outcome delay soon
  | failed name failure => exact (shorter_none _).symm
  | again => exact nextDelay_withSoon outcome soon
  | after delay => exact nextDelay_withDelay outcome delay soon

/-- The delay is the shortest one asked for, if any is. -/
def IsLeast (delays : List Delay) : Option Delay → Prop
  | none => delays = []
  | some delay => Shortest delays delay

theorem shortest_concat {delays : List Delay} {delay : Delay} (h : Shortest delays delay)
    (asked : Delay) : Shortest (delays ++ [asked]) (delay.min asked) := by
  obtain ⟨hmem, hleast⟩ := h
  unfold Delay.min
  split
  · refine ⟨List.mem_append_left _ hmem, fun other hother => ?_⟩
    rcases List.mem_append.mp hother with hother | hother
    · exact hleast other hother
    · rwa [List.mem_singleton.mp hother]
  · refine ⟨List.mem_append_right _ (List.mem_singleton_self asked), fun other hother => ?_⟩
    rcases List.mem_append.mp hother with hother | hother
    · have hother := hleast other hother
      omega
    · exact Nat.le_of_eq (congrArg Delay.nanoseconds (List.mem_singleton.mp hother).symm)

theorem isLeast_shorter {delays : List Delay} {delay : Option Delay} (h : IsLeast delays delay)
    (asked : Option Delay) : IsLeast (delays ++ asked.toList) (Outcome.shorter delay asked) := by
  cases asked with
  | none =>
      rw [Option.toList_none, List.append_nil, shorter_none]
      exact h
  | some asked =>
      cases delay with
      | none =>
          have hempty : delays = [] := h
          subst hempty
          exact ⟨List.mem_singleton_self asked, by simp⟩
      | some delay => exact shortest_concat h asked

theorem isLeast_foldl (soon : Delay) (reports : List Report) {outcome : Outcome}
    {delays : List Delay} (h : IsLeast delays (outcome.nextDelay soon)) :
    IsLeast (delays ++ reports.filterMap (Report.delay? soon))
      ((reports.foldl Report.addTo outcome).nextDelay soon) := by
  induction reports generalizing outcome delays with
  | nil => simpa using h
  | cons report rest ih =>
      have hstep := isLeast_shorter h (report.delay? soon)
      rw [← nextDelay_addTo] at hstep
      have hrest := ih hstep
      rw [List.append_assoc] at hrest
      cases hdelay : report.delay? soon <;> simpa [hdelay] using hrest

theorem decides_foldl (soon : Delay) (reports : List Report) :
    Decides soon reports (reports.foldl Report.addTo .empty) := by
  have hfailure := failure_foldl reports .empty
  have hleast : IsLeast (reports.filterMap (Report.delay? soon)) _ :=
    isLeast_foldl soon reports (show IsLeast [] (Outcome.empty.nextDelay soon) from rfl)
  generalize reports.foldl Report.addTo .empty = outcome at hfailure hleast
  have hfailure : outcome.failure = reports.findSome? Report.failure? := hfailure
  refine ⟨congrArg (Option.map Prod.fst) hfailure, ?_, ?_, ?_⟩
  · intro step failure hfirst
    rw [Outcome.aggregate, hfailure, hfirst]
  · intro hnone hasked
    rw [Outcome.aggregate, hfailure, hnone]
    cases hnext : outcome.nextDelay soon with
    | none =>
        rw [hnext] at hleast
        exact absurd hleast hasked
    | some delay =>
        rw [hnext] at hleast
        exact ⟨delay, hleast, rfl⟩
  · intro hnone hasked
    rw [Outcome.aggregate, hfailure, hnone]
    cases hnext : outcome.nextDelay soon with
    | none => rfl
    | some delay =>
        rw [hnext, hasked] at hleast
        exact nomatch hleast.1

theorem isOk_gather (h : ∀ item ∈ items, item.isFine = true) : (gather items).isOk = true := by
  induction items with
  | nil => rfl
  | cons item rest ih =>
      have hrest := ih fun other hother => h other (List.mem_cons_of_mem item hother)
      rw [gather_cons, isOk_merge, Bool.and_eq_true]
      exact ⟨h item List.mem_cons_self, hrest⟩

theorem gather_perm (h : items.Perm items') (hfine : ∀ item ∈ items, item.isFine = true) :
    gather items = gather items' := by
  induction h with
  | nil => rfl
  | cons item _ ih =>
      have hrest := ih fun other hother => hfine other (List.mem_cons_of_mem item hother)
      rw [gather_cons, gather_cons, hrest]
  | swap item other rest =>
      have hother : other.isFine = true := hfine other List.mem_cons_self
      rw [gather_cons, gather_cons, gather_cons, gather_cons, ← merge_assoc, ← merge_assoc,
        merge_comm hother]
  | trans h _ ih ih' =>
      have hrest := ih' fun item hitem => hfine item (h.mem_iff.mpr hitem)
      exact (ih hfine).trans hrest

/-- Items that bring no failure may as well come first. -/
theorem gather_eq_merge_filter (items : List Item) :
    gather items =
      (gather (items.filter Item.isFine)).merge
        (gather (items.filter fun item => !item.isFine)) := by
  induction items with
  | nil => rfl
  | cons item rest ih =>
      have hfine : (gather (rest.filter Item.isFine)).isOk = true :=
        isOk_gather fun other hother => (List.mem_filter.mp hother).2
      cases hitem : item.isFine with
      | true =>
          rw [List.filter_cons_of_pos hitem, List.filter_cons_of_neg (by simpa using hitem),
            gather_cons, gather_cons, ih, merge_assoc]
      | false =>
          rw [List.filter_cons_of_neg (by simp [hitem]), List.filter_cons_of_pos (by simp [hitem]),
            gather_cons, gather_cons, ih, ← merge_assoc, ← merge_assoc, merge_comm hfine]

theorem gather_reordered (h : Reordered items items') : gather items = gather items' := by
  induction h with
  | here hperm hfailing =>
      rw [gather_eq_merge_filter, hfailing, gather_perm (hperm.filter _)]
      · exact (gather_eq_merge_filter _).symm
      · exact fun item hitem => (List.mem_filter.mp hitem).2
  | inside before after _ ih =>
      rw [gather_append, gather_append, gather_cons, gather_cons, Item.addTo, Item.addTo]
      exact congrArg (fun part => (gather before).merge ((Outcome.empty.merge part).merge _)) ih
  | trans _ _ ih ih' => exact ih.trans ih'

/-- Parts may be gathered on their own, at any depth: the outcome is that of all reports in turn,
and it decides by the first failure and the shortest delay. Outcomes can be put together in any way,
and those that bring no failure in any order. -/
theorem gather_eq_foldl_and_decides (soon : Delay) (items : List Item) :
    gather items = (reportsOf items).foldl Report.addTo .empty ∧
      Decides soon (reportsOf items) (gather items) ∧
      (∀ a b c : Outcome, (a.merge b).merge c = a.merge (b.merge c)) ∧
      ∀ items', Reordered items items' → gather items' = gather items :=
  ⟨gather_eq_foldl items, gather_eq_foldl items ▸ decides_foldl soon (reportsOf items),
    merge_assoc, fun _ h => (gather_reordered h).symm⟩

def claimMissing : Failure := .notFound "PersistentVolumeClaim" "rats"

/-- What a pass gathers in which both parts of one step fail. -/
def troubled : List Item :=
  [.report (.step "volume" (.ok (.after (.ofSeconds 30)))),
    .part [.report .again, .part [.report (.step "claim" (.error claimMissing))],
      .report (.failed "pod" (.notFound "Pod" "rats"))],
    .report (.after (.ofSeconds 5))]

/-- The same with the steps and the parts in another order, as far as none of them fails. -/
def troubledOtherwise : List Item :=
  [.part [.part [.report (.step "claim" (.error claimMissing))], .report .again,
      .report (.failed "pod" (.notFound "Pod" "rats"))],
    .report (.step "volume" (.ok (.after (.ofSeconds 30)))),
    .report (.after (.ofSeconds 5))]

theorem gather_eq_foldl_and_decides_of_troubled :
    Reordered troubled troubledOtherwise ∧ gather troubledOtherwise = gather troubled ∧
      Decides (.ofSeconds 1) (reportsOf troubled) (gather troubled) ∧
      (gather troubled).failedStep = some "claim" ∧
      (gather troubled).nextDelay (.ofSeconds 1) = some (.ofSeconds 1) := by
  have hreordered : Reordered troubled troubledOtherwise :=
    .trans (.inside [_] [_] (.here (.swap ..) rfl)) (.here (.swap ..) rfl)
  obtain ⟨-, hdecides, -, hsame⟩ := gather_eq_foldl_and_decides (.ofSeconds 1) troubled
  exact ⟨hreordered, hsame _ hreordered, hdecides, by decide, by decide⟩

end Fleet.Proofs.OutcomeAggregation
