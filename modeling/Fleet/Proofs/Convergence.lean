import Fleet.Proofs.Rehearsals
import Fleet.Proofs.Stores
import Fleet.Resource.Convergence

/-!
Carrying out plans. A plan is satisfied by a store in which it would change nothing. Carrying out a
plan that converges makes the store satisfy it, and after that it only fetches.
-/

namespace Fleet.Proofs.Convergence

open Fleet.Proofs.Rehearsals
open Fleet.Proofs.Stores
open Fleet.Rehearsal

variable {C : Type} {plan : ResourcePlan C} {store : Store C} {drawn : Nat} {name : String}

/-- Whether the plan asks for an update of the actual object. -/
def wantsUpdate (plan : ResourcePlan C) (actual : Object C) : Bool :=
  (ResourcePlan.consult plan.needUpdate .needUpdate plan.stamped actual).1

def place (plan : ResourcePlan C) (name : String) : ObjectKey :=
  ⟨plan.stamped.metadata.namespace, name⟩

/-- The plan would change nothing. A malformed plan never does. -/
def Satisfied (plan : ResourcePlan C) (store : Store C) : Prop :=
  ∀ name, plan.target = .ok name →
    ∃ actual, store.lookup (place plan name) = some actual ∧ wantsUpdate plan actual = false

/-- Every object is stored under its own name and namespace. -/
def SelfKeyed (store : Store C) : Prop :=
  ∀ key object, store.lookup key = some object → ObjectKey.ofMetadata object.metadata = key

/-- What a plan has to be like for one update to be enough: it creates what it expects, updates in
place, and asks for no update of what it has created or updated. Only updates of objects that are
admitted matter. -/
structure Convergent (plan : ResourcePlan C) (admits : Object C → Prop) : Prop where
  recreates : plan.needRecreate = none
  prepares : plan.preCreate = none
  created : ∀ actual, actual.content = plan.stamped.content → wantsUpdate plan actual = false
  updated : ∀ actual, admits actual → wantsUpdate plan actual = true →
    ∃ object, (plan.beforeUpdate plan.stamped actual).1 = .ok object ∧
      ObjectKey.ofMetadata object.metadata = ObjectKey.ofMetadata actual.metadata ∧
        object.metadata.resourceVersion = actual.metadata.resourceVersion ∧
          ∀ after, after.content = object.content → wantsUpdate plan after = false

def found (plan : ResourcePlan C) (store : Store C) : Option (Object C) :=
  plan.expected.metadata.name.bind fun name =>
    store.lookup ⟨plan.expected.metadata.namespace, name⟩

theorem run_refetch (plan : ResourcePlan C) (store : Store C) (drawn : Nat) :
    plan.refetch.run serve (store, drawn) = (found plan store, store, drawn) := by
  unfold ResourcePlan.refetch found
  cases plan.expected.metadata.name with
  | none => rfl
  | some name =>
      change ((Store.find _ name).bind _).run serve (store, drawn) = _
      rw [Program.run_bind, run_find]
      rfl

theorem run_reconcile (plan : ResourcePlan C) (state : Store C × Nat) :
    plan.reconcile.run serve state =
      ({ outcome := (plan.converge.run serve state).1.1
         object := found plan (plan.converge.run serve state).2.1
         consulted := (plan.converge.run serve state).1.2 },
        (plan.converge.run serve state).2) := by
  change (plan.converge.bind _).run serve state = _
  rw [Program.run_bind]
  change (plan.refetch.bind _).run serve _ = _
  rw [Program.run_bind, run_refetch]
  rfl

def notesOf (plan : ResourcePlan C) (actual : Object C) : List Consultation :=
  (ResourcePlan.consult plan.needUpdate .needUpdate plan.stamped actual).2

theorem run_converge_absent (hname : plan.target = .ok name)
    (hlookup : store.lookup (place plan name) = none) :
    plan.converge.run serve (store, drawn) =
      (plan.createExpected plan.stamped .created []).run serve (store, drawn) := by
  have hfetch : store.fetch ⟨plan.stamped.metadata.namespace, name⟩ =
      .error (.notFound store.title name) :=
    fetch_of_missing hlookup
  unfold ResourcePlan.converge
  rw [hname]
  change ((Store.get _ name).bind _).run serve (store, drawn) = _
  rw [Program.run_bind, run_get, hfetch]
  rfl

theorem run_converge_found (hname : plan.target = .ok name) {actual : Object C}
    (hlookup : store.lookup (place plan name) = some actual) :
    plan.converge.run serve (store, drawn) =
      if (ResourcePlan.consult plan.needRecreate .needRecreate plan.stamped actual).1 then
        (plan.recreate name plan.stamped actual
          (ResourcePlan.consult plan.needRecreate .needRecreate plan.stamped actual).2).run serve
            (store, drawn)
      else if wantsUpdate plan actual then
        (plan.update plan.stamped actual
          ((ResourcePlan.consult plan.needRecreate .needRecreate plan.stamped actual).2 ++
            notesOf plan actual)).run serve (store, drawn)
      else
        ((.ok .unchanged,
          (ResourcePlan.consult plan.needRecreate .needRecreate plan.stamped actual).2 ++
            notesOf plan actual), store, drawn) := by
  have hfetch : store.fetch ⟨plan.stamped.metadata.namespace, name⟩ = .ok actual :=
    fetch_of_stored hlookup
  unfold ResourcePlan.converge
  rw [hname]
  change ((Store.get _ name).bind _).run serve (store, drawn) = _
  rw [Program.run_bind, run_get, hfetch]
  dsimp only
  rw [apply_ite (fun program => Program.run serve program (store, drawn)),
    apply_ite (fun program => Program.run serve program (store, drawn))]
  rfl

theorem run_converge_present (hrecreates : plan.needRecreate = none)
    (hname : plan.target = .ok name) {actual : Object C}
    (hlookup : store.lookup (place plan name) = some actual) :
    plan.converge.run serve (store, drawn) =
      if wantsUpdate plan actual then
        (plan.update plan.stamped actual (notesOf plan actual)).run serve (store, drawn)
      else ((.ok .unchanged, notesOf plan actual), store, drawn) := by
  have hconsult : ResourcePlan.consult plan.needRecreate .needRecreate plan.stamped actual =
      (false, []) := by
    rw [hrecreates]
    rfl
  rw [run_converge_found hname hlookup, hconsult]
  rfl

theorem run_converge_of_satisfied (hrecreates : plan.needRecreate = none)
    (h : Satisfied plan store) :
    (plan.converge.run serve (store, drawn)).2 = (store, drawn) := by
  cases hname : plan.target with
  | error failure =>
      unfold ResourcePlan.converge
      rw [hname]
      rfl
  | ok name =>
      obtain ⟨actual, hlookup, hwants⟩ := h name hname
      rw [run_converge_present hrecreates hname hlookup, hwants]
      rfl

theorem satisfied_of_lookup {actual : Object C} (hname : plan.target = .ok name)
    (hlookup : store.lookup (place plan name) = some actual)
    (hwants : wantsUpdate plan actual = false) : Satisfied plan store := by
  intro other hother
  rw [hname] at hother
  cases hother
  exact ⟨actual, hlookup, hwants⟩

theorem name_of_target (h : plan.target = .ok name) :
    plan.expected.metadata.name = some name := by
  unfold ResourcePlan.target at h
  split at h
  · contradiction
  · split at h
    · rename_i expected hexpected
      split at h
      · contradiction
      · rw [hexpected, Except.ok.inj h]
    · contradiction

theorem name_stamped (plan : ResourcePlan C) :
    plan.stamped.metadata.name = plan.expected.metadata.name := by
  unfold ResourcePlan.stamped
  split
  · dsimp only [Metadata.addOwner]
    split <;> rfl
  · rfl

theorem namespace_stamped (plan : ResourcePlan C) :
    plan.stamped.metadata.namespace = plan.expected.metadata.namespace := by
  unfold ResourcePlan.stamped
  split
  · dsimp only [Metadata.addOwner]
    split <;> rfl
  · rfl

theorem ofMetadata_stamped (h : plan.target = .ok name) :
    ObjectKey.ofMetadata plan.stamped.metadata = place plan name := by
  unfold ObjectKey.ofMetadata Metadata.displayName place
  rw [name_stamped, name_of_target h]
  rfl

theorem beforeCreate_of_none (h : plan.preCreate = none) (expected : Object C) :
    (plan.beforeCreate expected).1 = .ok expected := by
  simp only [ResourcePlan.beforeCreate, h]

theorem run_createExpected (h : plan.preCreate = none) (expected : Object C)
    (action : ResourceAction) (notes : List Consultation) :
    ((plan.createExpected expected action notes).run serve (store, drawn)).2.1 =
      (store.add (identity (drawn + 1)) expected).2 := by
  unfold ResourcePlan.createExpected
  dsimp only
  rw [beforeCreate_of_none h]
  change ((Program.bind (Store.create expected) _).run serve (store, drawn)).2.1 = _
  rw [Program.run_bind]
  split <;> rfl

theorem run_update {expected actual object : Object C} (notes : List Consultation)
    (h : (plan.beforeUpdate expected actual).1 = .ok object) :
    ((plan.update expected actual notes).run serve (store, drawn)).2.1 =
      (store.write object Store.countReplace).2 := by
  unfold ResourcePlan.update
  dsimp only
  rw [h]
  change ((Program.bind (Store.replace object) _).run serve (store, drawn)).2.1 = _
  rw [Program.run_bind]
  split
  · rfl
  · split <;> rfl

theorem satisfied_converge {admits : Object C → Prop} (h : Convergent plan admits)
    (hplaced : SelfKeyed store)
    (hadmits : ∀ key object, store.lookup key = some object → admits object) :
    Satisfied plan (plan.converge.run serve (store, drawn)).2.1 := by
  cases hname : plan.target with
  | error failure =>
      intro name hok
      rw [hname] at hok
      contradiction
  | ok name =>
      cases hlookup : store.lookup (place plan name) with
      | none =>
          rw [run_converge_absent hname hlookup, run_createExpected h.prepares]
          have hplace := ofMetadata_stamped hname
          have hcreated := lookup_add_self (identity (drawn + 1)) (hplace.symm ▸ hlookup)
          rw [hplace] at hcreated
          exact satisfied_of_lookup hname hcreated (h.created _ rfl)
      | some actual =>
          rw [run_converge_present h.recreates hname hlookup]
          cases hwants : wantsUpdate plan actual with
          | false => exact satisfied_of_lookup hname hlookup hwants
          | true =>
              obtain ⟨object, hobject, hmetadata, hversion, hafter⟩ :=
                h.updated actual (hadmits _ actual hlookup) hwants
              have hplace : ObjectKey.ofMetadata object.metadata = place plan name :=
                hmetadata.trans (hplaced _ actual hlookup)
              rw [if_pos rfl, run_update _ hobject,
                write_current _ (hplace.symm ▸ hlookup) hversion, hplace]
              exact satisfied_of_lookup hname (lookup_put_self store _ _) (hafter _ rfl)

/-- A step that works towards a goal for the store of one kind. It leaves all other stores alone,
reaches the goal from a store that is admitted, and does nothing once the goal is reached. -/
structure Attains (kind : Kind) (admits goal : Store kind.Content → Prop) (world after : World) :
    Prop where
  only : ∃ state, after = withStore world kind state
  reached : admits (world.inventory.store kind) → goal (after.inventory.store kind)
  idle : goal (world.inventory.store kind) → after = world

theorem attains_self {kind : Kind} {admits goal : Store kind.Content → Prop} {world : World}
    (h : admits (world.inventory.store kind) → goal (world.inventory.store kind)) :
    Attains kind admits goal world world :=
  ⟨⟨_, (withStore_self world kind).symm⟩, h, fun _ => rfl⟩

theorem attains_congr {kind : Kind} {admits goal goal' : Store kind.Content → Prop}
    {world after : World} (h : Attains kind admits goal world after)
    (hgoal : ∀ store, goal store ↔ goal' store) : Attains kind admits goal' world after :=
  ⟨h.only, fun hadmits => (hgoal _).mp (h.reached hadmits),
    fun hidle => h.idle ((hgoal _).mpr hidle)⟩

/-- A store whose objects are all in their place and admitted. -/
def PlacedAll (admits : Object C → Prop) (store : Store C) : Prop :=
  SelfKeyed store ∧ ∀ key object, store.lookup key = some object → admits object

theorem ends_plan {kind : Kind} {plan : ResourcePlan kind.Content}
    {admits : Object kind.Content → Prop} {world : World} (hfaults : world.faults = [])
    (h : Convergent plan admits) :
    Ends (Pass.on kind plan.reconcile) world fun reconciled after =>
      reconciled.object = found plan (after.inventory.store kind) ∧
        Attains kind (PlacedAll admits) (Satisfied plan) world after := by
  refine ends_on hfaults ?_
  rw [run_reconcile]
  refine ⟨?_, ⟨_, rfl⟩, fun hadmits => ?_, fun hsatisfied => ?_⟩
  · simp only [withStore, Inventory.store_setStore]
  · simp only [withStore, Inventory.store_setStore]
    exact satisfied_converge h hadmits.1 hadmits.2
  · dsimp only
    rw [run_converge_of_satisfied h.recreates hsatisfied, withStore_self]

end Fleet.Proofs.Convergence
