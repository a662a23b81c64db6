import Fleet.Proofs.Interference
import Fleet.Proofs.PlanStages

namespace Fleet.Proofs.PlanGuards

open Fleet.Proofs.Contract
open Fleet.Proofs.Convergence
open Fleet.Proofs.Interference
open Fleet.Proofs.PlanStages
open Fleet.Proofs.Stores

variable {C : Type}

/-- What a call of a plan does to the store that it finds, given the object that the plan has seen
in its place at first. -/
inductive Guarded (plan : ResourcePlan C) (seen : Option (Object C)) (turn : Turn C) : Prop where
  | idle : turn.writes = false → turn.left.objects = turn.found.objects → Guarded plan seen turn
  | created (key : ObjectKey) (created : Object C) :
      turn.call.method = .create → turn.writes = true → turn.found.lookup key = none →
        turn.left.objects = turn.found.objects.insert key created → Guarded plan seen turn
  | replaced (actual written : Object C) :
      turn.call.method = .replace → turn.writes = true → seen = some actual →
        wantsRecreate plan actual = false → wantsUpdate plan actual = true →
          turn.found.lookup (home plan) = some actual →
            turn.left.objects = turn.found.objects.insert (home plan) written →
              Guarded plan seen turn
  | deleted (actual : Object C) :
      turn.call.method = .delete → turn.writes = true → seen = some actual →
        wantsRecreate plan actual = true → turn.found.lookup (home plan) = some actual →
          turn.left.objects = turn.found.objects.erase (home plan) → Guarded plan seen turn

def carriedOut (turns : List (Turn C)) : List Store.Method :=
  (turns.filter Turn.writes).map (·.call.method)

/-- What the calls of a plan come to. -/
structure Careful (plan : ResourcePlan C) (turns : List (Turn C)) : Prop where
  looks : ∀ look ∈ turns.head?, look.call = .get (home plan).namespace (home plan).name
  guarded : ∀ look ∈ turns.head?, ∀ turn ∈ turns,
    Guarded plan (look.found.lookup (home plan)) turn
  /-- What others have stored stays. -/
  spares : ∀ look ∈ turns.head?, ∀ turn ∈ turns, ∀ key other,
    turn.found.lookup key = some other → look.found.lookup (home plan) ≠ some other →
      turn.left.lookup key = some other
  writes : carriedOut turns ∈ [[], [.create], [.replace], [.delete], [.delete, .create]]

variable {plan : ResourcePlan C} {seen : Option (Object C)} {turn : Turn C} {store : Store C}
  {found : Store C} {uid : String} {actual object : Object C}

theorem spared_of_guarded {key : ObjectKey} {other : Object C} (h : Guarded plan seen turn)
    (hother : turn.found.lookup key = some other) (hseen : seen ≠ some other) :
    turn.left.lookup key = some other := by
  unfold Store.lookup at hother ⊢
  cases h with
  | idle hwrites hobjects => rw [hobjects, hother]
  | created place created hmethod hwrites hfree hobjects =>
      have hkey : key ≠ place := by
        rintro rfl
        exact nomatch hfree.symm.trans hother
      rw [hobjects, get?_insert_of_ne hkey, hother]
  | replaced actual written hmethod hwrites hactual hkeeps hupdates hstored hobjects =>
      have hkey : key ≠ home plan := by
        rintro rfl
        exact hseen (hactual.trans (hstored.symm.trans hother))
      rw [hobjects, get?_insert_of_ne hkey, hother]
  | deleted actual hmethod hwrites hactual hrecreates hstored hobjects =>
      have hkey : key ≠ home plan := by
        rintro rfl
        exact hseen (hactual.trans (hstored.symm.trans hother))
      rw [hobjects, get?_erase_of_ne hkey, hother]

/-- The object was stored in the plan's place at some time before. -/
def Known (plan : ResourcePlan C) (actual : Object C) (store : Store C) : Prop :=
  ∃ before, Reached before ∧ before.lookup (home plan) = some actual ∧ Later before store

/-- The object that was known is the one that carries its version, and in its place. -/
theorem eq_of_known {key : ObjectKey} {stored : Object C} (h : Known plan actual store)
    (hstored : store.lookup key = some stored)
    (hversion : actual.metadata.resourceVersion = none ∨
      actual.metadata.resourceVersion = stored.metadata.resourceVersion) :
    key = home plan ∧ stored = actual := by
  obtain ⟨before, hreached, hbefore, hlater⟩ := h
  refine eq_of_version_eq hreached hbefore hlater hstored ?_
  rcases hversion with hnone | hsame
  · obtain ⟨n, -, hgiven⟩ := (versioned_of_reached hreached).numbered _ _ hbefore
    exact nomatch hnone.symm.trans hgiven
  · exact hsame.symm

theorem guarded_get (ns : Option String) (name : String) :
    Guarded plan seen ⟨found, uid, .get ns name⟩ :=
  .idle rfl rfl

theorem guarded_create (object : Object C) : Guarded plan seen ⟨found, uid, .create object⟩ := by
  cases hfree : found.lookup (.ofMetadata object.metadata) with
  | some other =>
      refine .idle ?_ ?_
      · change (found.add uid object).1.isOk = false
        rw [add_of_taken uid hfree]
        rfl
      · change (found.add uid object).2.objects = found.objects
        rw [add_of_taken uid hfree]
  | none =>
      refine .created _ (found.stamp (Store.identify object (some uid))) rfl ?_ hfree ?_
      · change (found.add uid object).1.isOk = true
        rw [add_of_free uid hfree]
        rfl
      · change (found.add uid object).2.objects = _
        rw [add_of_free uid hfree]
        rfl

/-- Whatever version a hook leaves on an object, it is written over the version judged. -/
theorem resourceVersion_beforeUpdate {expected : Object C}
    (h : (plan.beforeUpdate expected actual).1 = .ok object) :
    object.metadata.resourceVersion = actual.metadata.resourceVersion := by
  unfold ResourcePlan.beforeUpdate at h
  split at h
  rename_i prepared notes hprepared
  cases prepared with
  | error failure => contradiction
  | ok hooked =>
      cases h
      rfl

theorem guarded_replace (hknown : Known plan actual found)
    (hkeeps : wantsRecreate plan actual = false) (hupdates : wantsUpdate plan actual = true)
    (hprepared : (plan.beforeUpdate plan.stamped actual).1 = .ok object) :
    Guarded plan (some actual) ⟨found, uid, .replace object⟩ := by
  cases hresult : (found.write object Store.countReplace).1 with
  | error failure =>
      refine .idle ?_ (write_error (Prod.ext hresult rfl)).1
      change (found.write object Store.countReplace).1.isOk = false
      rw [hresult]
      rfl
  | ok written =>
      obtain ⟨stored, hstored, hversion, -, hobjects, -⟩ := write_ok (Prod.ext hresult rfl)
      rw [resourceVersion_beforeUpdate hprepared] at hversion
      obtain ⟨hplace, rfl⟩ := eq_of_known hknown hstored hversion
      rw [hplace] at hstored hobjects
      refine .replaced stored written rfl ?_ rfl hkeeps hupdates hstored hobjects
      change (found.write object Store.countReplace).1.isOk = true
      rw [hresult]
      rfl

theorem guarded_delete {ns : Option String} {name : String} (hknown : Known plan actual found)
    (hplace : ⟨ns, name⟩ = home plan) (hrecreates : wantsRecreate plan actual = true) :
    Guarded plan (some actual) ⟨found, uid, .delete ns name (some (.pinned actual.metadata))⟩ := by
  have hidle : ∀ failure after, after.objects = found.objects →
      found.remove ⟨ns, name⟩ (some (.pinned actual.metadata)) = (.error failure, after) →
        Guarded plan (some actual)
          ⟨found, uid, .delete ns name (some (.pinned actual.metadata))⟩ := by
    intro failure after hobjects hremove
    refine .idle ?_ ?_
    · change (found.remove ⟨ns, name⟩ _).1.isOk = false
      rw [hremove]
      rfl
    · change (found.remove ⟨ns, name⟩ _).2.objects = found.objects
      rw [hremove, hobjects]
  cases removal_of found ⟨ns, name⟩ (some (.pinned actual.metadata)) with
  | missing _ hremove => exact hidle _ _ rfl hremove
  | refused _ _ hremove => exact hidle _ found.refuse rfl hremove
  | @removed stored hstored hmeets hremove =>
      have hversion : actual.metadata.resourceVersion = none ∨
          actual.metadata.resourceVersion = stored.metadata.resourceVersion := by
        simp only [Store.meets, Preconditions.pinned, Bool.and_eq_true, Bool.or_eq_true,
          Option.isNone_iff_eq_none, beq_iff_eq] at hmeets
        exact hmeets.2
      obtain ⟨-, rfl⟩ := eq_of_known hknown hstored hversion
      refine .deleted stored rfl ?_ rfl hrecreates (hplace ▸ hstored) ?_
      · change (found.remove ⟨ns, name⟩ _).1.isOk = true
        rw [hremove]
        rfl
      · change (found.remove ⟨ns, name⟩ _).2.objects = _
        rw [hremove, hplace]

/-- What has been seen fits the stage that a plan has reached after it looked. -/
def Fits (plan : ResourcePlan C) (seen : Option (Object C)) (store : Store C) : Stage C → Prop
  | .looking => False
  | .judged actual => seen = some actual ∧ Known plan actual store
  | .vacant => True
  | .finished => True

theorem guarded_turn {stage : Stage C} (hfits : Fits plan seen turn.found stage)
    (hallows : stage.allows plan turn.call) : Guarded plan seen turn := by
  obtain ⟨found, uid, call⟩ := turn
  cases call with
  | get ns name => exact guarded_get ns name
  | list => cases stage <;> contradiction
  | create object =>
      cases stage with
      | vacant => exact guarded_create object
      | looking => contradiction
      | judged actual => contradiction
      | finished => contradiction
  | replace object =>
      cases stage with
      | judged actual =>
          obtain ⟨rfl, hknown⟩ := hfits
          exact guarded_replace hknown hallows.1 hallows.2.1 hallows.2.2
      | looking => contradiction
      | vacant => contradiction
      | finished => contradiction
  | replaceStatus => cases stage <;> contradiction
  | delete ns name preconditions =>
      cases stage with
      | judged actual =>
          obtain ⟨rfl, hknown⟩ := hfits
          obtain ⟨hplace, rfl, hrecreates⟩ := hallows
          exact guarded_delete hknown hplace hrecreates
      | looking => contradiction
      | vacant => contradiction
      | finished => contradiction

/-- Once a plan has looked, nothing that it finds is judged any more. -/
theorem fits_after {stage : Stage C} (hfits : Fits plan seen turn.found stage) :
    Fits plan seen turn.left (stage.after turn.call turn.reply) := by
  obtain ⟨found, uid, call⟩ := turn
  generalize hreply : Turn.reply ⟨found, uid, call⟩ = reply
  cases stage with
  | looking => contradiction
  | vacant => cases call <;> trivial
  | finished => cases call <;> trivial
  | judged actual =>
      cases call with
      | delete ns name preconditions =>
          rcases reply with failure | ⟨⟩
          · change Fits _ _ _ (if failure.isNotFound then Stage.vacant else Stage.finished)
            split <;> trivial
          · trivial
      | get => trivial
      | list => trivial
      | create => trivial
      | replace => trivial
      | replaceStatus => trivial

theorem fits_later {stage : Stage C} {later : Store C} (hfits : Fits plan seen store stage)
    (hlater : Later store later) : Fits plan seen later stage := by
  cases stage with
  | judged actual =>
      obtain ⟨hseen, before, hreached, hbefore, hstore⟩ := hfits
      exact ⟨hseen, before, hreached, hbefore, later_trans hstore hlater⟩
  | looking => exact hfits
  | vacant => exact hfits
  | finished => exact hfits

/-- The writes that can still go through from a stage on. -/
def prospects : Stage C → List (List Store.Method)
  | .looking => [[], [.create], [.replace], [.delete], [.delete, .create]]
  | .judged _ => [[], [.create], [.replace], [.delete], [.delete, .create]]
  | .vacant => [[], [.create]]
  | .finished => [[]]

theorem prospects_subset (stage : Stage C) :
    prospects stage ⊆ prospects (.looking : Stage C) := by
  cases stage <;> simp [prospects]

theorem carriedOut_cons_eq (turn : Turn C) (turns : List (Turn C)) :
    carriedOut (turn :: turns) =
      if turn.writes then turn.call.method :: carriedOut turns else carriedOut turns := by
  unfold carriedOut
  rw [List.filter_cons]
  split <;> rfl

theorem nil_mem_prospects (stage : Stage C) : [] ∈ prospects stage := by
  cases stage <;> exact List.mem_cons_self

theorem carriedOut_cons_delete {turns : List (Turn C)} {ns : Option String} {name : String}
    {preconditions : Option Preconditions}
    (h : carriedOut turns ∈ prospects (Stage.after (.judged actual) (.delete ns name preconditions)
      (Turn.reply ⟨found, uid, .delete ns name preconditions⟩))) :
    carriedOut (⟨found, uid, .delete ns name preconditions⟩ :: turns) ∈
      prospects (.judged actual) := by
  have hvacant : carriedOut turns ∈ prospects (.vacant : Stage C) →
      carriedOut turns = [] ∨ carriedOut turns = [.create] := by
    simp [prospects]
  have hwrites : Turn.writes ⟨found, uid, .delete ns name preconditions⟩ =
      (Turn.reply ⟨found, uid, .delete ns name preconditions⟩).isOk := rfl
  rw [carriedOut_cons_eq, hwrites]
  generalize Turn.reply ⟨found, uid, .delete ns name preconditions⟩ = reply at h ⊢
  rcases reply with failure | ⟨⟩
  · change carriedOut turns ∈ _
    change carriedOut turns ∈
      prospects (if failure.isNotFound then Stage.vacant else Stage.finished) at h
    split at h
    · rcases hvacant h with hnone | hcreate
      · simp [hnone, prospects]
      · simp [hcreate, prospects]
    · simp [List.mem_singleton.mp h, prospects]
  · change .delete :: carriedOut turns ∈ _
    rcases hvacant h with hnone | hcreate
    · simp [hnone, prospects]
    · simp [hcreate, prospects]

theorem carriedOut_cons {turns : List (Turn C)} {stage : Stage C}
    (hfits : Fits plan seen turn.found stage) (hallows : stage.allows plan turn.call)
    (h : carriedOut turns ∈ prospects (stage.after turn.call turn.reply)) :
    carriedOut (turn :: turns) ∈ prospects stage := by
  obtain ⟨found, uid, call⟩ := turn
  cases call with
  | get ns name =>
      have hnone : carriedOut turns = [] := by
        cases stage with
        | looking => contradiction
        | _ => exact List.mem_singleton.mp h
      rw [carriedOut_cons_eq, hnone]
      exact nil_mem_prospects stage
  | list => cases stage <;> contradiction
  | create object =>
      cases stage with
      | vacant =>
          have hnone : carriedOut turns = [] := List.mem_singleton.mp h
          rw [carriedOut_cons_eq, hnone]
          split <;> simp [Store.Call.method, prospects]
      | looking => contradiction
      | judged actual => contradiction
      | finished => contradiction
  | replace object =>
      cases stage with
      | judged actual =>
          have hnone : carriedOut turns = [] := List.mem_singleton.mp h
          rw [carriedOut_cons_eq, hnone]
          split <;> simp [Store.Call.method, prospects]
      | looking => contradiction
      | vacant => contradiction
      | finished => contradiction
  | replaceStatus => cases stage <;> contradiction
  | delete ns name preconditions =>
      cases stage with
      | judged actual => exact carriedOut_cons_delete h
      | looking => contradiction
      | vacant => contradiction
      | finished => contradiction

theorem guarded_of_keeps {α : Type} {program : Store.Access C α} {stage : Stage C}
    (hkeeps : Keeps (rules plan) anyway program stage) (hfits : Fits plan seen store stage)
    (interludes : List (Interlude C)) :
    (∀ turn ∈ (runAmong program interludes store).turns, Guarded plan seen turn) ∧
      carriedOut (runAmong program interludes store).turns ∈ prospects stage := by
  induction program generalizing stage store interludes with
  | done result =>
      exact ⟨fun turn hturn => absurd hturn List.not_mem_nil, nil_mem_prospects stage⟩
  | ask call next ih =>
      let turn := nextTurn interludes store call
      have hfound : Fits plan seen turn.found stage :=
        fits_later hfits (later_nextTurn interludes store call)
      obtain ⟨hguarded, hwrites⟩ :=
        ih turn.reply (hkeeps.2 turn.reply) (fits_after hfound) interludes.tail
      exact ⟨List.forall_mem_cons.mpr ⟨guarded_turn hfound hkeeps.1, hguarded⟩,
        carriedOut_cons hfound hkeeps.1 hwrites⟩

theorem fits_of_look {ns : Option String} {name : String} (hfound : Reached found)
    (hplace : ⟨ns, name⟩ = home plan) :
    Fits plan (found.lookup (home plan)) found
      (Stage.after .looking (.get ns name) (found.fetch ⟨ns, name⟩)) := by
  rw [hplace]
  cases hstored : found.lookup (home plan) with
  | none =>
      rw [fetch_of_missing hstored]
      trivial
  | some actual =>
      rw [fetch_of_stored hstored]
      exact ⟨rfl, found, hfound, hstored, later_refl found⟩

/-- However others interfere, a plan touches only the object that it has judged, at the version
that it has judged, and at most once. -/
theorem reconcile_careful (hstore : Reached store) (plan : ResourcePlan C)
    (interludes : List (Interlude C)) :
    Careful plan (runAmong plan.reconcile interludes store).turns := by
  have hkeeps := keeps_plan plan
  cases hprogram : plan.reconcile with
  | done result =>
      exact ⟨fun look hlook => (nomatch hlook), fun look hlook => (nomatch hlook),
        fun look hlook => (nomatch hlook), List.mem_cons_self⟩
  | ask call next =>
      rw [hprogram] at hkeeps
      obtain ⟨hallows, hnext⟩ := hkeeps
      cases call with
      | get ns name =>
          let look := nextTurn interludes store (.get ns name)
          have hfound : Reached look.found := reached_disturb hstore _
          obtain ⟨hguarded, hwrites⟩ := guarded_of_keeps (hnext look.reply)
            (fits_of_look hfound hallows) interludes.tail
          have hall : ∀ turn ∈ (runAmong (.ask (.get ns name) next) interludes store).turns,
              Guarded plan (look.found.lookup (home plan)) turn :=
            List.forall_mem_cons.mpr ⟨guarded_get ns name, hguarded⟩
          refine ⟨?_, ?_, ?_, ?_⟩
          · rintro _ ⟨⟩
            rw [← hallows]
          · rintro _ ⟨⟩
            exact hall
          · rintro _ ⟨⟩ turn hturn key other hother hseen
            exact spared_of_guarded (hall turn hturn) hother hseen
          · change carriedOut (look :: _) ∈ prospects (.looking : Stage C)
            rw [carriedOut_cons_eq]
            exact prospects_subset _ hwrites
      | list => contradiction
      | create => contradiction
      | replace => contradiction
      | replaceStatus => contradiction
      | delete => contradiction

def lamp : Object String :=
  { metadata := { name := some "lamp", «namespace» := some "lab" }, content := "dim" }

def shelf : Store String := (Store.insert { title := "devices" } "uid-lamp" lamp).2

def brighten : ResourcePlan String where
  title := "lamp"
  expected := { lamp with content := "bright" }
  needRecreate := some fun expected actual => expected.content != actual.content

def tamper : Interlude String :=
  { interventions :=
      [.mutate ⟨some "lab", "lamp"⟩ fun object => { object with content := "broken" }] }

/-- The lamp that was judged is deleted and created again when nobody interferes. -/
example :
    (runAmong brighten.reconcile [] shelf).turns.map
        (fun turn => (turn.call.method, turn.writes)) =
      [(.get, false), (.delete, true), (.create, true), (.get, false)] := by
  decide

/-- The lamp was dim when it was judged, so the broken one is not deleted in its place. -/
theorem reconcile_careful_when_overtaken :
    (runAmong brighten.reconcile [{}, tamper] shelf).turns.map
        (fun turn => (turn.call.method, turn.writes)) =
        [(.get, false), (.delete, false), (.get, false)] ∧
      Careful brighten (runAmong brighten.reconcile [{}, tamper] shelf).turns :=
  ⟨by decide, reconcile_careful (.insert _ _ (.empty _)) brighten [{}, tamper]⟩

end Fleet.Proofs.PlanGuards
