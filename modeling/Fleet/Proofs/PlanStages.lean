import Fleet.Proofs.Contract
import Fleet.Proofs.Convergence

/-!
The stages of a plan. A plan first looks for its object. It may write over the object that it found,
or delete that object and no other version of it, or create an object where it found none. Whether
it does, follows from the object that it found.
-/

namespace Fleet.Proofs.PlanStages

open Fleet.Proofs.Contract
open Fleet.Proofs.Convergence

variable {C : Type}

/-- Whether the plan asks for the actual object to be deleted and created again. -/
def wantsRecreate (plan : ResourcePlan C) (actual : Object C) : Bool :=
  (ResourcePlan.consult plan.needRecreate .needRecreate plan.stamped actual).1

def home (plan : ResourcePlan C) : ObjectKey := .ofMetadata plan.stamped.metadata

inductive Stage (C : Type) where
  | looking
  /-- The object was found. What becomes of it is not decided by anything found later. -/
  | judged (actual : Object C)
  /-- No object was found, or the one that was found is gone. -/
  | vacant
  | finished

namespace Stage

def allows (plan : ResourcePlan C) : Stage C → Store.Call C → Prop
  | _, .get ns name => ⟨ns, name⟩ = home plan
  | .judged actual, .delete ns name preconditions =>
      ⟨ns, name⟩ = home plan ∧ preconditions = some (.pinned actual.metadata) ∧
        wantsRecreate plan actual = true
  | .judged actual, .replace object =>
      wantsRecreate plan actual = false ∧ wantsUpdate plan actual = true ∧
        (plan.beforeUpdate plan.stamped actual).1 = .ok object
  | .vacant, .create object => (plan.beforeCreate plan.stamped).1 = .ok object
  | _, _ => False

def after : Stage C → (call : Store.Call C) → call.Reply → Stage C
  | .looking, .get .., .ok actual => .judged actual
  | .looking, .get .., .error failure => if failure.isNotFound then .vacant else .finished
  | .judged _, .delete .., .ok () => .vacant
  | .judged _, .delete .., .error failure => if failure.isNotFound then .vacant else .finished
  | _, _, _ => .finished

end Stage

def rules (plan : ResourcePlan C) : Rules (Stage C) (Store.Call C) Store.Call.Reply where
  allows := Stage.allows plan
  after := Stage.after

section

variable {plan : ResourcePlan C}

/-- Whatever may have been found out by then. -/
abbrev anyway {α : Type} (_ : Stage C) (_ : α) : Prop := True

theorem home_eq {name : String} (h : plan.expected.metadata.name = some name) :
    home plan = ⟨plan.expected.metadata.namespace, name⟩ := by
  unfold home ObjectKey.ofMetadata Metadata.displayName
  rw [name_stamped, namespace_stamped, h]
  rfl

theorem keeps_createExpected (action : ResourceAction) (notes : List Consultation) :
    Keeps (rules plan) anyway (plan.createExpected plan.stamped action notes) .vacant := by
  unfold ResourcePlan.createExpected
  cases hprepared : plan.beforeCreate plan.stamped with
  | mk prepared hookNotes =>
      cases prepared with
      | error failure => trivial
      | ok object =>
          refine ⟨congrArg Prod.fst hprepared, fun reply => ?_⟩
          cases reply <;> trivial

theorem keeps_recreate {name : String} {actual : Object C} {notes : List Consultation}
    (hname : plan.expected.metadata.name = some name) (h : wantsRecreate plan actual = true) :
    Keeps (rules plan) anyway (plan.recreate name plan.stamped actual notes) (.judged actual) := by
  refine ⟨⟨by rw [home_eq hname, namespace_stamped], rfl, h⟩, fun reply => ?_⟩
  rcases reply with failure | ⟨⟩
  · change Keeps _ _ _ (if failure.isNotFound then Stage.vacant else Stage.finished)
    dsimp only [Program.bind]
    by_cases hgone : failure.isNotFound = true
    · rw [if_pos hgone, if_pos hgone]
      exact keeps_createExpected .recreated notes
    · rw [if_neg hgone, if_neg hgone]
      trivial
  · exact keeps_createExpected .recreated notes

theorem keeps_update {actual : Object C} {notes : List Consultation}
    (hkeeps : wantsRecreate plan actual = false) (h : wantsUpdate plan actual = true) :
    Keeps (rules plan) anyway (plan.update plan.stamped actual notes) (.judged actual) := by
  unfold ResourcePlan.update
  cases hprepared : plan.beforeUpdate plan.stamped actual with
  | mk prepared hookNotes =>
      cases prepared with
      | error failure => trivial
      | ok object =>
          refine ⟨⟨hkeeps, h, congrArg Prod.fst hprepared⟩, fun reply => ?_⟩
          rcases reply with failure | written
          · trivial
          · dsimp only [Program.bind]
            split <;> trivial

theorem keeps_converge (plan : ResourcePlan C) :
    Keeps (rules plan) anyway plan.converge .looking := by
  unfold ResourcePlan.converge
  cases htarget : plan.target with
  | error failure => trivial
  | ok name =>
      have hname := name_of_target htarget
      have hhome : home plan = ⟨plan.stamped.metadata.namespace, name⟩ := by
        rw [home_eq hname, namespace_stamped]
      refine ⟨hhome.symm, fun reply => ?_⟩
      rcases reply with failure | actual
      · change Keeps _ _ _ (if failure.isNotFound then Stage.vacant else Stage.finished)
        dsimp only [Program.bind]
        by_cases hgone : failure.isNotFound = true
        · rw [if_pos hgone, if_pos hgone]
          exact keeps_createExpected .created []
        · rw [if_neg hgone, if_neg hgone]
          trivial
      · change Keeps _ _ (ite (wantsRecreate plan actual = true) _ _) (Stage.judged actual)
        by_cases hrecreates : wantsRecreate plan actual = true
        · rw [if_pos hrecreates]
          exact keeps_recreate hname hrecreates
        · rw [if_neg hrecreates]
          change Keeps _ _ (ite (wantsUpdate plan actual = true) _ _) (Stage.judged actual)
          by_cases hupdates : wantsUpdate plan actual = true
          · rw [if_pos hupdates]
            exact keeps_update (Bool.eq_false_iff.mpr hrecreates) hupdates
          · rw [if_neg hupdates]
            trivial

theorem keeps_refetch (plan : ResourcePlan C) (stage : Stage C) :
    Keeps (rules plan) anyway plan.refetch stage := by
  unfold ResourcePlan.refetch
  cases hname : plan.expected.metadata.name with
  | none => trivial
  | some name =>
      refine ⟨?_, fun reply => ?_⟩
      · cases stage <;> exact (home_eq hname).symm
      · dsimp only [Program.bind]
        generalize Store.absentAsNone reply = absent
        cases absent <;> trivial

/-- Whatever the replies are, a plan goes through its stages. -/
theorem keeps_plan (plan : ResourcePlan C) :
    Keeps (rules plan) anyway plan.reconcile .looking :=
  keeps_bind (keeps_converge plan) fun stage _ _ =>
    keeps_bind (keeps_refetch plan stage) fun _ _ _ => trivial

end

end Fleet.Proofs.PlanStages
