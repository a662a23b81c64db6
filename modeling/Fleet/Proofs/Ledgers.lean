import Fleet.Condition.Ledger

namespace Fleet.Proofs.Ledgers

variable {T : Type} [DecidableEq T]

/-- A condition as it is entered in the place of the entry that its type had before. -/
def enter (previous : Option (Condition T)) (condition : Condition T) : Condition T :=
  match previous with
  | some existing =>
      if existing.status = condition.status then
        { condition with lastTransitionTime := existing.lastTransitionTime }
      else condition
  | none => condition

omit [DecidableEq T] in
theorem enter_eq (previous : Option (Condition T)) (condition : Condition T) :
    ∃ since, enter previous condition = { condition with lastTransitionTime := since } := by
  unfold enter
  split
  · split
    · exact ⟨_, rfl⟩
    · exact ⟨condition.lastTransitionTime, rfl⟩
  · exact ⟨condition.lastTransitionTime, rfl⟩

omit [DecidableEq T] in
theorem enter_of_eq {existing condition : Condition T} (h : existing.status = condition.status) :
    enter (some existing) condition =
      { condition with lastTransitionTime := existing.lastTransitionTime } :=
  if_pos h

omit [DecidableEq T] in
theorem enter_of_ne {existing condition : Condition T} (h : existing.status ≠ condition.status) :
    enter (some existing) condition = condition :=
  if_neg h

theorem find?_record_eq (condition : Condition T) (conditions : List (Condition T)) :
    (Ledger.record condition conditions).find? (fun entry => entry.type = condition.type) =
      some (enter (conditions.find? fun entry => entry.type = condition.type) condition) := by
  induction conditions with
  | nil => simp [Ledger.record, enter]
  | cons existing rest ih =>
      by_cases htype : existing.type = condition.type
      · by_cases hstatus : existing.status = condition.status
        · simp [Ledger.record, enter, htype, hstatus]
        · simp [Ledger.record, enter, htype, hstatus]
      · rw [Ledger.record, if_neg htype, List.find?_cons_of_neg (by simpa using htype),
          List.find?_cons_of_neg (by simpa using htype)]
        exact ih

theorem find?_record_self (condition : Condition T) (conditions : List (Condition T)) :
    ∃ since, (Ledger.record condition conditions).find? (fun entry => entry.type = condition.type) =
      some { condition with lastTransitionTime := since } := by
  obtain ⟨since, hsince⟩ :=
    enter_eq (conditions.find? fun entry => entry.type = condition.type) condition
  exact ⟨since, (find?_record_eq condition conditions).trans (congrArg some hsince)⟩

theorem find?_record_of_ne (condition : Condition T) {type : T} (h : type ≠ condition.type)
    (conditions : List (Condition T)) :
    (Ledger.record condition conditions).find? (fun entry => entry.type = type) =
      conditions.find? fun entry => entry.type = type := by
  have hself : condition.type ≠ type := Ne.symm h
  induction conditions with
  | nil => simp [Ledger.record, hself]
  | cons existing rest ih =>
      by_cases htype : existing.type = condition.type
      · have hexisting : existing.type ≠ type := htype ▸ hself
        by_cases hstatus : existing.status = condition.status
        · simp [Ledger.record, htype, hstatus, hself]
        · simp [Ledger.record, htype, hstatus, hself]
      · rw [Ledger.record, if_neg htype, List.find?_cons, List.find?_cons, ih]

theorem query_set_self_eq (ledger : Ledger T) (type : T) (status : ConditionStatus)
    (reason message : String) (now : Instant) :
    (ledger.set type status reason message now).query type =
      some (enter (ledger.query type) (.at_ type status reason message now)) :=
  find?_record_eq (.at_ type status reason message now) ledger.conditions

theorem query_set_self (ledger : Ledger T) (type : T) (status : ConditionStatus)
    (reason message : String) (now : Instant) :
    ∃ since, (ledger.set type status reason message now).query type =
      some { type, status, reason, message, lastProbeTime := now, lastTransitionTime := since } :=
  find?_record_self (.at_ type status reason message now) ledger.conditions

theorem query_set_of_ne {type other : T} (h : other ≠ type) (ledger : Ledger T)
    (status : ConditionStatus) (reason message : String) (now : Instant) :
    (ledger.set type status reason message now).query other = ledger.query other :=
  find?_record_of_ne (.at_ type status reason message now) h ledger.conditions

theorem query_ensure_of_ne {type other : T} (h : other ≠ type) (ledger : Ledger T)
    (status : ConditionStatus) (reason message : String) (now : Instant) :
    (ledger.ensure type status reason message now).query other = ledger.query other := by
  unfold Ledger.ensure
  split
  · rfl
  · exact query_set_of_ne h ledger status reason message now

/-- One entry is new: it has the given type and status, and takes the place of the first entry of
that type, or stands at the end if there was none. -/
inductive Rewritten (type : T) (status : ConditionStatus) :
    List (Condition T) → List (Condition T) → Prop where
  | replaced (earlier later : List (Condition T)) (old new : Condition T)
      (first : ∀ entry ∈ earlier, entry.type ≠ type) (hold : old.type = type)
      (hnew : new.type = type ∧ new.status = status) :
      Rewritten type status (earlier ++ old :: later) (earlier ++ new :: later)
  | added (earlier : List (Condition T)) (new : Condition T)
      (first : ∀ entry ∈ earlier, entry.type ≠ type)
      (hnew : new.type = type ∧ new.status = status) :
      Rewritten type status earlier (earlier ++ [new])

omit [DecidableEq T] in
theorem rewritten_cons {type : T} {status : ConditionStatus} {before after : List (Condition T)}
    {entry : Condition T} (hentry : entry.type ≠ type) (h : Rewritten type status before after) :
    Rewritten type status (entry :: before) (entry :: after) := by
  cases h with
  | replaced earlier later old new hfirst hold hnew =>
      exact .replaced (entry :: earlier) later old new (List.forall_mem_cons.mpr ⟨hentry, hfirst⟩)
        hold hnew
  | added earlier new hfirst hnew =>
      exact .added (entry :: before) new (List.forall_mem_cons.mpr ⟨hentry, hfirst⟩) hnew

theorem rewritten_record (condition : Condition T) (conditions : List (Condition T)) :
    Rewritten condition.type condition.status conditions
      (Ledger.record condition conditions) := by
  induction conditions with
  | nil => exact .added [] condition (fun _ hmem => nomatch hmem) ⟨rfl, rfl⟩
  | cons existing rest ih =>
      rw [Ledger.record]
      split
      · rename_i htype
        split
        · exact .replaced [] rest existing _ (fun _ hmem => nomatch hmem) htype ⟨rfl, rfl⟩
        · exact .replaced [] rest existing _ (fun _ hmem => nomatch hmem) htype ⟨rfl, rfl⟩
      · rename_i htype
        exact rewritten_cons htype ih

theorem rewritten_set (ledger : Ledger T) (type : T) (status : ConditionStatus)
    (reason message : String) (now : Instant) :
    Rewritten type status ledger.conditions
      (ledger.set type status reason message now).conditions :=
  rewritten_record (.at_ type status reason message now) ledger.conditions

theorem check_set_self (ledger : Ledger T) (type : T) (status : ConditionStatus)
    (reason message : String) (now : Instant) (expected : ConditionStatus) :
    (ledger.set type status reason message now).check type expected = (status == expected) := by
  obtain ⟨since, hsince⟩ := query_set_self ledger type status reason message now
  simp [Ledger.check, hsince]

@[simp]
theorem isTrue_set_self (ledger : Ledger T) (type : T) (status : ConditionStatus)
    (reason message : String) (now : Instant) :
    (ledger.set type status reason message now).isTrue type = (status == .true_) :=
  check_set_self ledger type status reason message now .true_

theorem check_congr {a b : Ledger T} {type : T} (h : a.query type = b.query type)
    (expected : ConditionStatus) : a.check type expected = b.check type expected := by
  simp [Ledger.check, h]

theorem isTrue_congr {a b : Ledger T} {type : T} (h : a.query type = b.query type) :
    a.isTrue type = b.isTrue type :=
  check_congr h .true_

theorem check_of_isTrue {ledger : Ledger T} {type : T} {expected : ConditionStatus}
    (h : ledger.isTrue type = true) (hexpected : expected ≠ .true_) :
    ledger.check type expected = false := by
  unfold Ledger.isTrue Ledger.check at h
  unfold Ledger.check
  split
  · rename_i condition hquery
    rw [hquery] at h
    rw [beq_iff_eq.mp h]
    exact beq_eq_false_iff_ne.mpr (Ne.symm hexpected)
  · rename_i hquery
    rw [hquery] at h
    contradiction

theorem tells_congr {a b : Ledger T} {type : T} (h : a.query type = b.query type)
    (status : ConditionStatus) (reason message : String) :
    a.tells type status reason message = b.tells type status reason message := by
  simp [Ledger.tells, h]

theorem isTrue_of_tells {ledger : Ledger T} {type : T} {status : ConditionStatus}
    {reason message : String} (h : ledger.tells type status reason message) :
    ledger.isTrue type = (status == .true_) := by
  unfold Ledger.tells at h
  unfold Ledger.isTrue Ledger.check
  split at h
  · rename_i existing hquery
    have hstatus : existing.status = status := by
      simp only [Bool.and_eq_true, beq_iff_eq] at h
      exact h.1.1
    rw [hstatus]
  · contradiction

@[simp]
theorem isTrue_ensure_self (ledger : Ledger T) (type : T) (status : ConditionStatus)
    (reason message : String) (now : Instant) :
    (ledger.ensure type status reason message now).isTrue type = (status == .true_) := by
  unfold Ledger.ensure
  split
  · rename_i htells
    exact isTrue_of_tells htells
  · exact isTrue_set_self ledger type status reason message now

theorem isTrue_set_of_ne {type other : T} (h : other ≠ type) (ledger : Ledger T)
    (status : ConditionStatus) (reason message : String) (now : Instant) :
    (ledger.set type status reason message now).isTrue other = ledger.isTrue other :=
  isTrue_congr (query_set_of_ne h ledger status reason message now)

theorem isTrue_ensure_of_ne {type other : T} (h : other ≠ type) (ledger : Ledger T)
    (status : ConditionStatus) (reason message : String) (now : Instant) :
    (ledger.ensure type status reason message now).isTrue other = ledger.isTrue other :=
  isTrue_congr (query_ensure_of_ne h ledger status reason message now)

theorem tells_set_self (ledger : Ledger T) (type : T) (status : ConditionStatus)
    (reason message : String) (now : Instant) :
    (ledger.set type status reason message now).tells type status reason message = true := by
  obtain ⟨since, hsince⟩ := query_set_self ledger type status reason message now
  simp [Ledger.tells, hsince]

theorem tells_ensure_self (ledger : Ledger T) (type : T) (status : ConditionStatus)
    (reason message : String) (now : Instant) :
    (ledger.ensure type status reason message now).tells type status reason message = true := by
  unfold Ledger.ensure
  split
  · assumption
  · exact tells_set_self ledger type status reason message now

theorem tells_ensure_of_ne {type other : T} (h : other ≠ type) (ledger : Ledger T)
    (status told : ConditionStatus) (reason message reasonTold messageTold : String)
    (now : Instant) :
    (ledger.ensure type status reason message now).tells other told reasonTold messageTold =
      ledger.tells other told reasonTold messageTold :=
  tells_congr (query_ensure_of_ne h ledger status reason message now) told reasonTold messageTold

theorem ensure_of_tells {ledger : Ledger T} {type : T} {status : ConditionStatus}
    {reason message : String} (h : ledger.tells type status reason message = true)
    (now : Instant) : ledger.ensure type status reason message now = ledger :=
  if_pos h

end Fleet.Proofs.Ledgers
