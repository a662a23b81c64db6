import Fleet.Proofs.PlanOutcomes

namespace Fleet.Proofs.PlanFailures

open Fleet.Proofs.Convergence
open Fleet.Proofs.PlanOutcomes
open Fleet.Proofs.PlanStages
open Fleet.Proofs.Rehearsals
open Fleet.Proofs.Stores

variable {C : Type} {plan base : ResourcePlan C} {store after : Store C} {drawn : Nat}
  {failure : Failure} {actual : Object C} {kind : Kind} {owner : Object kind.Content}

/-- A plan without a name for its object, or for an owner that cannot be pointed to. -/
inductive Malformed (plan : ResourcePlan C) : Prop where
  | nameless (unnamed : plan.expected.metadata.name = none)
  | blank (unnamed : plan.expected.metadata.name = some "")
  /-- What else is said of the plan before or after its owner makes no difference. -/
  | unowned {base : ResourcePlan C} {kind : Kind} {owner : Object kind.Content}
      (anonymous : owner.metadata.name = none ∨ owner.metadata.uid = none)
      (problems : (base.ownedBy kind owner).problems ⊆ plan.problems)

/-- What a plan was about to do when its hook refused. -/
inductive Path where
  | create
  | recreate
  | update
  deriving DecidableEq

inductive Stop where
  | malformed
  | refused (path : Path) (failure : Failure)

/-- A plan is malformed, or it comes to one of its hooks before a write, which refuses. -/
inductive Stops (plan : ResourcePlan C) (store : Store C) : Stop → Prop where
  | malformed (h : Malformed plan) : Stops plan store .malformed
  | create {name : String} {hook : Object C → Except Failure (Object C)} {failure : Failure}
      (named : plan.target = .ok name) (absent : store.lookup (home plan) = none)
      (hooked : plan.preCreate = some hook) (refuses : hook plan.stamped = .error failure) :
      Stops plan store (.refused .create failure)
  | recreate {name : String} {hook : Object C → Except Failure (Object C)} {failure : Failure}
      {actual : Object C} (named : plan.target = .ok name)
      (found : store.lookup (home plan) = some actual)
      (recreates : wantsRecreate plan actual = true)
      (hooked : plan.preCreate = some hook) (refuses : hook plan.stamped = .error failure) :
      Stops plan store (.refused .recreate failure)
  | update {name : String} {hook : Object C → Object C → Except Failure (Object C)}
      {failure : Failure} {actual : Object C} (named : plan.target = .ok name)
      (found : store.lookup (home plan) = some actual)
      (keeps : wantsRecreate plan actual = false) (updates : wantsUpdate plan actual = true)
      (hooked : plan.preUpdate = some hook) (refuses : hook plan.stamped actual = .error failure) :
      Stops plan store (.refused .update failure)

/-- The failure that tells how a plan was stopped. A hook's own failure is handed on. -/
def Stop.Explains (failure : Failure) : Stop → Prop
  | .malformed => ∃ problem, failure = .configuration "reconciler" problem
  | .refused _ refusal => failure = refusal

/-- The store without the object of a plan, whose deletion is counted. -/
def vacated (plan : ResourcePlan C) (store : Store C) : Store C :=
  { store with
    objects := store.objects.erase (home plan)
    counts := { store.counts with deletes := store.counts.deletes + 1 } }

def Stop.leaves (plan : ResourcePlan C) (store : Store C) : Stop → Store C
  | .refused .recreate _ => vacated plan store
  | _ => store

/-- Carried out, the plan fails and leaves the given store. No identity is drawn. -/
structure Fails (plan : ResourcePlan C) (store : Store C) (drawn : Nat) (failure : Failure)
    (after : Store C) : Prop where
  outcome : (plan.reconcile.run serve (store, drawn)).1.outcome = .error failure
  state : (plan.reconcile.run serve (store, drawn)).2 = (after, drawn)

theorem ownerReference?_eq_none (h : owner.metadata.name = none ∨ owner.metadata.uid = none) :
    kind.ownerReference? owner = none := by
  unfold Kind.ownerReference?
  rcases h with hname | huid
  · rw [hname]
    rfl
  · rw [huid]
    cases owner.metadata.name <;> rfl

theorem problems_ownedBy_ne_nil (h : owner.metadata.name = none ∨ owner.metadata.uid = none) :
    (base.ownedBy kind owner).problems ≠ [] := by
  unfold ResourcePlan.ownedBy
  rw [ownerReference?_eq_none h]
  exact List.append_ne_nil_of_right_ne_nil _ (List.cons_ne_nil _ _)

theorem target_of_malformed (h : Malformed plan) :
    ∃ problem, plan.target = .error (.configuration "reconciler" problem) := by
  unfold ResourcePlan.target
  cases hproblems : plan.problems with
  | cons problem rest => exact ⟨problem, rfl⟩
  | nil =>
      cases h with
      | nameless hname =>
          rw [hname]
          exact ⟨_, rfl⟩
      | blank hname =>
          rw [hname]
          exact ⟨_, rfl⟩
      | unowned hanonymous hsubset =>
          rw [hproblems] at hsubset
          exact absurd (List.subset_nil.mp hsubset) (problems_ownedBy_ne_nil hanonymous)

theorem fails_of_converge (store : Store C) (drawn : Nat)
    (h : (plan.converge.run serve (store, drawn)).1.1 = .error failure ∧
      (plan.converge.run serve (store, drawn)).2 = (after, drawn)) :
    Fails plan store drawn failure after := by
  constructor
  · rw [run_reconcile]
    exact h.1
  · rw [run_reconcile]
    exact h.2

theorem fails_of_target (h : plan.target = .error failure) (store : Store C) (drawn : Nat) :
    Fails plan store drawn failure store := by
  refine fails_of_converge store drawn ?_
  unfold ResourcePlan.converge
  rw [h]
  exact ⟨rfl, rfl⟩

theorem fails_create {name : String} (hname : plan.target = .ok name)
    (habsent : store.lookup (home plan) = none)
    (hrefused : (plan.beforeCreate plan.stamped).1 = .error failure) (drawn : Nat) :
    Fails plan store drawn failure store := by
  refine fails_of_converge store drawn ?_
  rw [run_converge_absent hname (place_eq_home hname ▸ habsent)]
  exact run_createExpected_of_error store drawn hrefused .created []

theorem fails_recreate {name : String} (hname : plan.target = .ok name)
    (hfound : store.lookup (home plan) = some actual)
    (hrecreates : wantsRecreate plan actual = true)
    (hrefused : (plan.beforeCreate plan.stamped).1 = .error failure) (drawn : Nat) :
    Fails plan store drawn failure (vacated plan store) := by
  have hplace : (⟨plan.stamped.metadata.namespace, name⟩ : ObjectKey) = home plan :=
    place_eq_home hname
  have hverdict : (ResourcePlan.consult plan.needRecreate .needRecreate plan.stamped actual).1 =
      true := hrecreates
  refine fails_of_converge store drawn ?_
  rw [run_converge_found hname (place_eq_home hname ▸ hfound), if_pos hverdict,
    run_recreate _ (hplace ▸ hfound), hplace, remove_pinned hfound]
  exact run_createExpected_of_error (vacated plan store) drawn hrefused .recreated _

theorem fails_update {name : String} (hname : plan.target = .ok name)
    (hfound : store.lookup (home plan) = some actual)
    (hkeeps : wantsRecreate plan actual = false) (hupdates : wantsUpdate plan actual = true)
    (hrefused : (plan.beforeUpdate plan.stamped actual).1 = .error failure) (drawn : Nat) :
    Fails plan store drawn failure store := by
  have hverdict : (ResourcePlan.consult plan.needRecreate .needRecreate plan.stamped actual).1 =
      false := hkeeps
  refine fails_of_converge store drawn ?_
  rw [run_converge_found hname (place_eq_home hname ▸ hfound), hverdict,
    if_neg Bool.false_ne_true, if_pos hupdates]
  exact run_update_of_error store drawn _ hrefused

theorem beforeCreate_of_refuses {hook : Object C → Except Failure (Object C)}
    (hhook : plan.preCreate = some hook) (hrefuses : hook plan.stamped = .error failure) :
    (plan.beforeCreate plan.stamped).1 = .error failure := by
  unfold ResourcePlan.beforeCreate
  rw [hhook]
  exact hrefuses

theorem beforeUpdate_of_refuses {hook : Object C → Object C → Except Failure (Object C)}
    (hhook : plan.preUpdate = some hook) (hrefuses : hook plan.stamped actual = .error failure) :
    (plan.beforeUpdate plan.stamped actual).1 = .error failure := by
  unfold ResourcePlan.beforeUpdate
  rw [hhook]
  dsimp only
  rw [hrefuses]
  rfl

theorem lookup_vacated (plan : ResourcePlan C) (store : Store C) :
    (vacated plan store).lookup (home plan) = none :=
  get?_erase_self store.objects (home plan)

/-- A plan that is stopped fails, with the failure that has stopped it. The store is as before,
except that an object to be created again is gone. Nothing more happens when the plan is carried out
once more. -/
theorem fails_of_stops {stop : Stop} (h : Stops plan store stop) (drawn : Nat) :
    ∃ failure, stop.Explains failure ∧
      Fails plan store drawn failure (stop.leaves plan store) ∧
      Fails plan (stop.leaves plan store) drawn failure (stop.leaves plan store) := by
  cases h with
  | malformed hmalformed =>
      obtain ⟨problem, htarget⟩ := target_of_malformed hmalformed
      exact ⟨_, ⟨problem, rfl⟩, fails_of_target htarget store drawn,
        fails_of_target htarget store drawn⟩
  | create hname habsent hhook hrefuses =>
      have hfails := fails_create hname habsent (beforeCreate_of_refuses hhook hrefuses) drawn
      exact ⟨_, rfl, hfails, hfails⟩
  | recreate hname hfound hrecreates hhook hrefuses =>
      have hrefused := beforeCreate_of_refuses hhook hrefuses
      exact ⟨_, rfl, fails_recreate hname hfound hrecreates hrefused drawn,
        fails_create hname (lookup_vacated plan store) hrefused drawn⟩
  | update hname hfound hkeeps hupdates hhook hrefuses =>
      have hfails := fails_update hname hfound hkeeps hupdates
        (beforeUpdate_of_refuses hhook hrefuses) drawn
      exact ⟨_, rfl, hfails, hfails⟩

def vetoed : Failure := .internal "unknown" "hook refused"

def settingsMap (value : String) : ConfigMap :=
  { metadata := { name := some "settings", «namespace» := some "lab" }
    content := { data := some (.ofList [("key", value)]) } }

/-- The settings are to be exchanged for others, which a hook does not let pass. -/
def exchange : ResourcePlan ConfigMapContent where
  title := "ConfigMap"
  expected := settingsMap "new"
  needRecreate := some fun expected actual => decide (expected.content ≠ actual.content)
  preCreate := some fun _ => .error vetoed

def filed : Store ConfigMapContent :=
  (Store.insert { title := "ConfigMap" } "uid-settings" (settingsMap "old")).2

theorem fails_of_stops_of_exchange :
    Stops exchange filed (.refused .recreate vetoed) ∧
      ∃ failure, failure = vetoed ∧ Fails exchange filed 0 failure (vacated exchange filed) ∧
        Fails exchange (vacated exchange filed) 0 failure (vacated exchange filed) := by
  have hstops : Stops exchange filed (.refused .recreate vetoed) :=
    .recreate rfl rfl (by decide) rfl rfl
  exact ⟨hstops, fails_of_stops hstops 0⟩

/-- The hook has refused the new settings, and the old ones are gone. -/
theorem lookup_exchange_eq_none :
    (∃ hook, exchange.preCreate = some hook ∧ hook exchange.stamped = .error vetoed) ∧
      (filed.lookup (home exchange)).isSome = true ∧
      (exchange.reconcile.run serve (filed, 0)).1.outcome = .error vetoed ∧
      (exchange.reconcile.run serve (filed, 0)).2.1.lookup (home exchange) = none := by
  exact ⟨⟨_, rfl, rfl⟩, by decide, rfl, by decide⟩

end Fleet.Proofs.PlanFailures
