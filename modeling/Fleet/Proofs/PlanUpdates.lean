import Fleet.Proofs.PlanOutcomes

namespace Fleet.Proofs.PlanUpdates

open Fleet.Proofs.Convergence
open Fleet.Proofs.PlanGuards
open Fleet.Proofs.PlanOutcomes
open Fleet.Proofs.PlanStages
open Fleet.Proofs.Rehearsals
open Fleet.Proofs.Stores
open Fleet.Rehearsal

variable {C : Type} {plan : ResourcePlan C} {store after : Store C} {drawn : Nat} {name : String}
  {actual object : Object C} {admits : Object C → Prop}

/-- Nothing has been written. A write that was refused does not count. -/
structure Unwritten (store after : Store C) : Prop where
  objects : after.objects = store.objects
  total : after.counts.total = store.counts.total

theorem unwritten_refl (store : Store C) : Unwritten store store := ⟨rfl, rfl⟩

/-- What becomes of an object that a plan finds. -/
inductive Mended (plan : ResourcePlan C) (actual : Object C) (store after : Store C) : Prop where
  | content : wantsUpdate plan actual = false → after = store → Mended plan actual store after
  | updated (object stored : Object C) :
      wantsUpdate plan actual = true → ObjectKey.ofMetadata actual.metadata = home plan →
        (plan.beforeUpdate plan.stamped actual).1 = .ok object →
          Taken store object actual.metadata.uid stored →
            after.objects = store.objects.insert (home plan) stored →
              Mended plan actual store after
  | refused :
      wantsUpdate plan actual = true → ObjectKey.ofMetadata actual.metadata ≠ home plan →
        Unwritten store after → Mended plan actual store after

theorem metadata_of_taken {stored : Object C}
    (h : Taken store object actual.metadata.uid stored)
    (hobject : object.metadata = actual.metadata) :
    { stored.metadata with resourceVersion := actual.metadata.resourceVersion } =
      actual.metadata := by
  have hmetadata := h.metadata
  rw [hobject] at hmetadata
  exact congrArg (fun metadata : Metadata =>
    { metadata with resourceVersion := actual.metadata.resourceVersion }) hmetadata

/-- An object that carries the version of another place is not written: the place of its own name
is free, or holds an object of another version. -/
theorem unwritten_of_astray {key : ObjectKey} (count : WriteCounts → WriteCounts)
    (hreached : Reached store) (hactual : store.lookup key = some actual)
    (hversion : object.metadata.resourceVersion = actual.metadata.resourceVersion)
    (hastray : ObjectKey.ofMetadata object.metadata ≠ key) :
    Unwritten store (store.write object count).2 := by
  have hversioned := versioned_of_reached hreached
  obtain ⟨n, -, hgiven⟩ := hversioned.numbered key actual hactual
  cases replacement_of store object count with
  | missing _ hwrite =>
      rw [hwrite]
      exact unwritten_refl store
  | outdated _ _ _ hwrite =>
      rw [hwrite]
      exact ⟨rfl, rfl⟩
  | @current stored hstored hagrees hwrite =>
      rcases hagrees with hnone | hsame
      · exact nomatch (hversion.trans hgiven).symm.trans hnone
      · exact absurd (hversioned.apart _ key stored actual hstored hactual
          (hsame.symm.trans hversion)) hastray

theorem mended_converge (hreached : Reached store) (h : Convergent plan admits)
    (htarget : plan.target = .ok name) (hactual : store.lookup (home plan) = some actual)
    (hadmits : admits actual) :
    Mended plan actual store (plan.converge.run serve (store, drawn)).2.1 := by
  rw [run_converge_present h.recreates htarget ((place_eq_home htarget).symm ▸ hactual)]
  cases hwants : wantsUpdate plan actual with
  | false => exact .content hwants rfl
  | true =>
      obtain ⟨object, hobject, hplace, hversion, -⟩ := h.updated actual hadmits hwants
      rw [if_pos rfl, run_update _ hobject]
      by_cases hhome : ObjectKey.ofMetadata actual.metadata = home plan
      · have hkey := hplace.trans hhome
        rw [write_current _ (hkey.symm ▸ hactual) hversion, hkey]
        exact .updated object _ hwants hhome hobject (taken_stamp hreached object _) rfl
      · exact .refused hwants hhome
          (unwritten_of_astray _ hreached hactual hversion
            fun hkey => hhome (hplace.symm.trans hkey))

theorem lookup_of_mended {key : ObjectKey} (h : Mended plan actual store after)
    (hkey : key ≠ home plan) : after.lookup key = store.lookup key := by
  unfold Store.lookup
  cases h with
  | content _ hafter => rw [hafter]
  | updated _ _ _ _ _ _ hobjects => rw [hobjects, get?_insert_of_ne hkey]
  | refused _ _ hunwritten => rw [hunwritten.objects]

theorem eq_of_mended (h : Mended plan actual store after)
    (hwants : wantsUpdate plan actual = false) : after = store := by
  cases h with
  | content _ hafter => exact hafter
  | updated _ _ hupdates => exact nomatch hwants.symm.trans hupdates
  | refused hupdates => exact nomatch hwants.symm.trans hupdates

/-- Whether or not the object could be written, it is still there, and what holds of it and of its
update holds of what is stored. -/
theorem stored_of_mended {holds : Object C → Prop}
    (hactual : store.lookup (home plan) = some actual)
    (h : Mended plan actual store after) (hholds : holds actual)
    (hupdates : ∀ object stored, (plan.beforeUpdate plan.stamped actual).1 = .ok object →
      Taken store object actual.metadata.uid stored → holds stored) :
    ∃ stored, after.lookup (home plan) = some stored ∧ holds stored := by
  cases h with
  | content _ hafter =>
      rw [hafter]
      exact ⟨actual, hactual, hholds⟩
  | updated object stored _ _ hobject htaken hobjects =>
      refine ⟨stored, ?_, hupdates object stored hobject htaken⟩
      rw [Store.lookup, hobjects, get?_insert_self]
  | refused _ _ hunwritten =>
      refine ⟨actual, ?_, hholds⟩
      rw [Store.lookup, hunwritten.objects]
      exact hactual

theorem satisfied_of_mended (h : Convergent plan admits) (hadmits : admits actual)
    (htarget : plan.target = .ok name) (hactual : store.lookup (home plan) = some actual)
    (hhome : ObjectKey.ofMetadata actual.metadata = home plan)
    (hmended : Mended plan actual store after) : Satisfied plan after := by
  have hplace := place_eq_home htarget
  cases hmended with
  | content hwants hafter =>
      rw [hafter]
      exact satisfied_of_lookup htarget (hplace.symm ▸ hactual) hwants
  | updated object stored hwants _ hobject htaken hobjects =>
      obtain ⟨updated, hupdated, -, -, hcontent⟩ := h.updated actual hadmits hwants
      cases hupdated.symm.trans hobject
      refine satisfied_of_lookup htarget ?_ (hcontent stored htaken.content)
      rw [hplace, Store.lookup, hobjects, get?_insert_self]
  | refused _ hother _ => exact absurd hhome hother

/-- What a plan that updates in place leaves: only its own place may change, and what is found there
is mended. -/
structure Tended (plan : ResourcePlan C) (store after : Store C) : Prop where
  others : ∀ key, key ≠ home plan → after.lookup key = store.lookup key
  mends : ∀ actual, store.lookup (home plan) = some actual → Mended plan actual store after

theorem unwritten_of_tended (h : Tended plan store after)
    (hactual : store.lookup (home plan) = some actual)
    (hwants : ObjectKey.ofMetadata actual.metadata = home plan → wantsUpdate plan actual = false) :
    Unwritten store after := by
  cases h.mends actual hactual with
  | content _ hafter =>
      rw [hafter]
      exact unwritten_refl store
  | updated _ _ hupdates hhome _ _ _ => exact nomatch (hwants hhome).symm.trans hupdates
  | refused _ _ hunwritten => exact hunwritten

theorem keepsPlace_of_absent (h : plan.preCreate = none)
    (habsent : store.lookup (home plan) = none) : KeepsPlace plan store := by
  constructor
  · intro prepared hprepared
    cases (beforeCreate_of_none h plan.stamped).symm.trans hprepared
    rfl
  · intro actual prepared hactual
    exact nomatch habsent.symm.trans hactual

theorem tended_converge (hreached : Reached store) (h : Convergent plan admits)
    (htarget : plan.target = .ok name)
    (hadmits : ∀ actual, store.lookup (home plan) = some actual → admits actual) :
    Tended plan store (plan.converge.run serve (store, drawn)).2.1 := by
  refine ⟨fun key hkey => ?_, fun actual hactual =>
    mended_converge hreached h htarget hactual (hadmits actual hactual)⟩
  cases hlookup : store.lookup (home plan) with
  | none =>
      exact lookup_of_planEnding
        (endsAsListed_converge hreached (keepsPlace_of_absent h.prepares hlookup)) hkey
  | some actual =>
      exact lookup_of_mended
        (mended_converge hreached h htarget hlookup (hadmits actual hlookup)) hkey

theorem ends_tended {kind : Kind} {plan : ResourcePlan kind.Content}
    {admits : Object kind.Content → Prop} {world : World} (hfaults : world.faults = [])
    (hreached : Reached (world.inventory.store kind)) (h : Convergent plan admits)
    (htarget : plan.target = .ok name)
    (hadmits : ∀ actual, (world.inventory.store kind).lookup (home plan) = some actual →
      admits actual) :
    Ends (Pass.on kind plan.reconcile) world fun _ after =>
      Tended plan (world.inventory.store kind) (after.inventory.store kind) := by
  refine ends_on hfaults ?_
  rw [run_reconcile]
  simp only [withStore, Inventory.store_setStore]
  exact tended_converge hreached h htarget hadmits

end Fleet.Proofs.PlanUpdates
