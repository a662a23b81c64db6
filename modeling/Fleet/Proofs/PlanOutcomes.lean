import Fleet.Proofs.PlanGuards

namespace Fleet.Proofs.PlanOutcomes

open Fleet.Proofs.Convergence
open Fleet.Proofs.PlanGuards
open Fleet.Proofs.PlanStages
open Fleet.Proofs.Rehearsals
open Fleet.Proofs.Stores

def digitValue (digit : Char) : Nat :=
  if digit.toNat < 'a'.toNat then digit.toNat - '0'.toNat else digit.toNat - 'a'.toNat + 10

def readDigits (digits : List Char) : Nat :=
  digits.foldl (fun value digit => 16 * value + digitValue digit) 0

theorem digitValue_digitChar : ∀ digit < 16, digitValue (Nat.digitChar digit) = digit := by
  decide

theorem readDigits_toDigits (number : Nat) : readDigits (Nat.toDigits 16 number) = number := by
  induction number using Nat.strongRecOn with
  | ind number ih =>
      by_cases hsmall : number < 16
      · rw [Nat.toDigits_of_lt_base hsmall]
        simp only [readDigits, List.foldl_cons, List.foldl_nil, Nat.mul_zero, Nat.zero_add]
        exact digitValue_digitChar number hsmall
      · rw [Nat.toDigits_of_base_le (by omega) (Nat.le_of_not_lt hsmall), readDigits,
          List.foldl_append]
        have hrest := ih (number / 16) (by omega)
        rw [readDigits] at hrest
        rw [hrest, List.foldl_cons, List.foldl_nil,
          digitValue_digitChar (number % 16) (by omega)]
        omega

theorem readDigits_padded (zeros : Nat) (digits : List Char) :
    readDigits (List.replicate zeros '0' ++ digits) = readDigits digits := by
  induction zeros with
  | zero => rfl
  | succ zeros ih =>
      have hzero : 16 * 0 + digitValue '0' = 0 := by decide
      rw [List.replicate_succ, List.cons_append, readDigits, List.foldl_cons, hzero]
      exact ih

theorem identity_injective {m n : Nat} (h : identity m = identity n) : m = n := by
  unfold identity at h
  have hdigits := String.ofList_injective (String.append_right_inj _ |>.mp h)
  have hread := congrArg readDigits hdigits
  rwa [readDigits_padded, readDigits_padded, readDigits_toDigits, readDigits_toDigits] at hread

/-- An identity that is drawn after some others, and is none of them. -/
structure FreshIdentity (drawn : Nat) (uid : String) : Prop where
  next : uid = identity (drawn + 1)
  unused : ∀ n ≤ drawn, identity n ≠ uid

theorem freshIdentity_identity (drawn : Nat) : FreshIdentity drawn (identity (drawn + 1)) := by
  refine ⟨rfl, fun n hn heq => ?_⟩
  have hsame := identity_injective heq
  omega

variable {C : Type}

/-- What a store makes of an object that is written to it. Identity and version are the store's to
assign, and the version is one that it has not given before. -/
structure Taken (store : Store C) (prepared : Object C) (uid : Option String)
    (stored : Object C) : Prop where
  content : stored.content = prepared.content
  metadata : { stored.metadata with resourceVersion := none } =
    { prepared.metadata with uid, resourceVersion := none }
  later : ∃ n, store.version < n ∧ stored.metadata.resourceVersion = some (Store.versionText n)
  unseen : ∀ key object, store.lookup key = some object →
    object.metadata.resourceVersion ≠ stored.metadata.resourceVersion

variable {plan : ResourcePlan C} {store after : Store C} {drawn : Nat} {name : String}
  {expected actual prepared stored : Object C}

theorem taken_stamp (hreached : Reached store) (prepared : Object C) (uid : Option String) :
    Taken store prepared uid (store.stamp (Store.identify prepared uid)) := by
  refine ⟨rfl, rfl, ⟨store.version + 1, Nat.lt_succ_self _, rfl⟩, fun key object hobject => ?_⟩
  exact (next_ne_of_numbered ((versioned_of_reached hreached).numbered key object hobject)).symm

theorem run_createExpected_of_error (store : Store C) (drawn : Nat) {failure : Failure}
    (h : (plan.beforeCreate expected).1 = .error failure) (action : ResourceAction)
    (notes : List Consultation) :
    ((plan.createExpected expected action notes).run serve (store, drawn)).1.1 = .error failure ∧
      ((plan.createExpected expected action notes).run serve (store, drawn)).2 =
        (store, drawn) := by
  unfold ResourcePlan.createExpected
  dsimp only
  rw [h]
  exact ⟨rfl, rfl⟩

theorem run_createExpected_of_ok (drawn : Nat) (h : (plan.beforeCreate expected).1 = .ok prepared)
    (hfree : store.lookup (.ofMetadata prepared.metadata) = none) (action : ResourceAction)
    (notes : List Consultation) :
    ((plan.createExpected expected action notes).run serve (store, drawn)).1.1 = .ok action ∧
      ((plan.createExpected expected action notes).run serve (store, drawn)).2 =
        ((store.add (identity (drawn + 1)) prepared).2, drawn + 1) := by
  have hdrawn : store.takesIdentity (.create prepared) = true := by
    change (store.lookup (.ofMetadata prepared.metadata)).isNone = true
    rw [hfree]
    rfl
  have hserved : serve (.create prepared) (store, drawn) =
      ((store.add (identity (drawn + 1)) prepared).1,
        (store.add (identity (drawn + 1)) prepared).2, drawn + 1) := by
    unfold serve
    dsimp only
    rw [if_pos hdrawn]
    rfl
  unfold ResourcePlan.createExpected
  dsimp only
  rw [h]
  change ((Program.ask (.create prepared) _ : Store.Access C ResourcePlan.Converged).run
      serve (store, drawn)).1.1 = _ ∧
    ((Program.ask (.create prepared) _ : Store.Access C ResourcePlan.Converged).run
      serve (store, drawn)).2 = _
  rw [Program.run_ask, hserved, add_of_free _ hfree]
  exact ⟨rfl, rfl⟩

theorem run_recreate (notes : List Consultation)
    (h : store.lookup ⟨expected.metadata.namespace, name⟩ = some actual) :
    (plan.recreate name expected actual notes).run serve (store, drawn) =
      (plan.createExpected expected .recreated notes).run serve
        ((store.remove ⟨expected.metadata.namespace, name⟩
          (some (.pinned actual.metadata))).2, drawn) := by
  have hserved : serve (.delete expected.metadata.namespace name
      (some (.pinned actual.metadata))) (store, drawn) =
      ((store.remove ⟨expected.metadata.namespace, name⟩ (some (.pinned actual.metadata))).1,
        (store.remove ⟨expected.metadata.namespace, name⟩ (some (.pinned actual.metadata))).2,
          drawn) := rfl
  change Program.run serve (.ask (.delete expected.metadata.namespace name _) _) (store, drawn) = _
  rw [Program.run_ask, hserved, remove_pinned h]
  rfl

theorem run_update_of_error (store : Store C) (drawn : Nat) {failure : Failure}
    (notes : List Consultation) (h : (plan.beforeUpdate expected actual).1 = .error failure) :
    ((plan.update expected actual notes).run serve (store, drawn)).1.1 = .error failure ∧
      ((plan.update expected actual notes).run serve (store, drawn)).2 = (store, drawn) := by
  unfold ResourcePlan.update
  dsimp only
  rw [h]
  exact ⟨rfl, rfl⟩

theorem run_update_of_written (drawn : Nat) (notes : List Consultation)
    (h : (plan.beforeUpdate expected actual).1 = .ok prepared)
    (hwritten : store.write prepared Store.countReplace = (.ok stored, after)) :
    ((plan.update expected actual notes).run serve (store, drawn)).1.1 =
        (plan.afterUpdate stored).1.map (fun _ => .updated) ∧
      ((plan.update expected actual notes).run serve (store, drawn)).2 = (after, drawn) := by
  have hserved : serve (.replace prepared) (store, drawn) = (.ok stored, after, drawn) := by
    change ((store.write prepared Store.countReplace).1,
      (store.write prepared Store.countReplace).2, drawn) = _
    rw [hwritten]
  unfold ResourcePlan.update
  dsimp only
  rw [h]
  change ((Program.ask (.replace prepared) _ : Store.Access C ResourcePlan.Converged).run
      serve (store, drawn)).1.1 = _ ∧
    ((Program.ask (.replace prepared) _ : Store.Access C ResourcePlan.Converged).run
      serve (store, drawn)).2 = _
  rw [Program.run_ask, hserved]
  dsimp only [Program.bind]
  cases (plan.afterUpdate stored).1 <;> exact ⟨rfl, rfl⟩

/-- The hooks of a plan leave what they prepare in the plan's place. -/
structure KeepsPlace (plan : ResourcePlan C) (store : Store C) : Prop where
  created : ∀ prepared, (plan.beforeCreate plan.stamped).1 = .ok prepared →
    ObjectKey.ofMetadata prepared.metadata = home plan
  updated : ∀ actual prepared, store.lookup (home plan) = some actual →
    (plan.beforeUpdate plan.stamped actual).1 = .ok prepared →
      ObjectKey.ofMetadata prepared.metadata = home plan

/-- The ways in which a plan ends: what it found in its place, what its predicates and hooks said,
and what it leaves. -/
inductive PlanEnding (plan : ResourcePlan C) (store : Store C) (drawn : Nat) :
    Except Failure ResourceAction → Store C → Nat → Prop where
  | created {prepared stored : Object C} {uid : String} {after : Store C}
      (absent : store.lookup (home plan) = none)
      (prepares : (plan.beforeCreate plan.stamped).1 = .ok prepared)
      (fresh : FreshIdentity drawn uid) (taken : Taken store prepared (some uid) stored)
      (stores : after.objects = store.objects.insert (home plan) stored) :
      PlanEnding plan store drawn (.ok .created) after (drawn + 1)
  | recreated {actual prepared stored : Object C} {uid : String} {after : Store C}
      (found : store.lookup (home plan) = some actual)
      (recreates : wantsRecreate plan actual = true)
      (prepares : (plan.beforeCreate plan.stamped).1 = .ok prepared)
      (fresh : FreshIdentity drawn uid) (taken : Taken store prepared (some uid) stored)
      (stores : after.objects = (store.objects.erase (home plan)).insert (home plan) stored) :
      PlanEnding plan store drawn (.ok .recreated) after (drawn + 1)
  | updated {actual prepared stored : Object C} {after : Store C}
      (found : store.lookup (home plan) = some actual)
      (keeps : wantsRecreate plan actual = false) (updates : wantsUpdate plan actual = true)
      (prepares : (plan.beforeUpdate plan.stamped actual).1 = .ok prepared)
      (taken : Taken store prepared actual.metadata.uid stored)
      (accepts : (plan.afterUpdate stored).1 = .ok ())
      (stores : after.objects = store.objects.insert (home plan) stored) :
      PlanEnding plan store drawn (.ok .updated) after drawn
  | unchanged {actual : Object C}
      (found : store.lookup (home plan) = some actual)
      (keeps : wantsRecreate plan actual = false) (agrees : wantsUpdate plan actual = false) :
      PlanEnding plan store drawn (.ok .unchanged) store drawn
  | malformed {failure : Failure} (refused : plan.target = .error failure) :
      PlanEnding plan store drawn (.error failure) store drawn
  /-- The object is not created, since the hook does not let it. -/
  | withheld {failure : Failure} (absent : store.lookup (home plan) = none)
      (refused : (plan.beforeCreate plan.stamped).1 = .error failure) :
      PlanEnding plan store drawn (.error failure) store drawn
  /-- The object was deleted before the hook did not let it be created again. -/
  | cleared {actual : Object C} {failure : Failure} {after : Store C}
      (found : store.lookup (home plan) = some actual)
      (recreates : wantsRecreate plan actual = true)
      (refused : (plan.beforeCreate plan.stamped).1 = .error failure)
      (stores : after.objects = store.objects.erase (home plan)) :
      PlanEnding plan store drawn (.error failure) after drawn
  | held {actual : Object C} {failure : Failure}
      (found : store.lookup (home plan) = some actual)
      (keeps : wantsRecreate plan actual = false) (updates : wantsUpdate plan actual = true)
      (refused : (plan.beforeUpdate plan.stamped actual).1 = .error failure) :
      PlanEnding plan store drawn (.error failure) store drawn
  /-- The update was written before the last hook found fault with it. -/
  | disowned {actual prepared stored : Object C} {failure : Failure} {after : Store C}
      (found : store.lookup (home plan) = some actual)
      (keeps : wantsRecreate plan actual = false) (updates : wantsUpdate plan actual = true)
      (prepares : (plan.beforeUpdate plan.stamped actual).1 = .ok prepared)
      (taken : Taken store prepared actual.metadata.uid stored)
      (refused : (plan.afterUpdate stored).1 = .error failure)
      (stores : after.objects = store.objects.insert (home plan) stored) :
      PlanEnding plan store drawn (.error failure) after drawn

/-- The run of a plan, before the last look, comes to one of the ends. -/
def EndsAsListed (plan : ResourcePlan C) (store : Store C) (drawn : Nat)
    (run : ResourcePlan.Converged × Store C × Nat) : Prop :=
  PlanEnding plan store drawn run.1.1 run.2.1 run.2.2

theorem lookup_of_planEnding {outcome : Except Failure ResourceAction} {drawn' : Nat}
    {key : ObjectKey} (h : PlanEnding plan store drawn outcome after drawn')
    (hkey : key ≠ home plan) :
    after.lookup key = store.lookup key := by
  unfold Store.lookup
  cases h with
  | created _ _ _ _ hstores => rw [hstores, get?_insert_of_ne hkey]
  | recreated _ _ _ _ _ hstores =>
      rw [hstores, get?_insert_of_ne hkey, get?_erase_of_ne hkey]
  | updated _ _ _ _ _ _ hstores => rw [hstores, get?_insert_of_ne hkey]
  | unchanged => rfl
  | malformed => rfl
  | withheld => rfl
  | cleared _ _ _ hstores => rw [hstores, get?_erase_of_ne hkey]
  | held => rfl
  | disowned _ _ _ _ _ _ hstores => rw [hstores, get?_insert_of_ne hkey]

theorem place_eq_home (h : plan.target = .ok name) : place plan name = home plan :=
  (ofMetadata_stamped h).symm

theorem endsAsListed_create (hreached : Reached store) (hhooks : KeepsPlace plan store)
    (hfree : store.lookup (home plan) = none) (notes : List Consultation) :
    EndsAsListed plan store drawn
      ((plan.createExpected plan.stamped .created notes).run serve (store, drawn)) := by
  unfold EndsAsListed
  cases hprepared : (plan.beforeCreate plan.stamped).1 with
  | error failure =>
      obtain ⟨houtcome, hstate⟩ :=
        run_createExpected_of_error store drawn hprepared .created notes
      rw [houtcome, hstate]
      exact .withheld hfree hprepared
  | ok prepared =>
      have hplace := hhooks.created prepared hprepared
      obtain ⟨houtcome, hstate⟩ :=
        run_createExpected_of_ok drawn hprepared (hplace.symm ▸ hfree) .created notes
      rw [houtcome, hstate, add_of_free _ (hplace.symm ▸ hfree), hplace]
      exact .created hfree hprepared (freshIdentity_identity drawn)
        (taken_stamp hreached prepared _) rfl

theorem endsAsListed_recreate (hreached : Reached store) (hhooks : KeepsPlace plan store)
    (htarget : plan.target = .ok name) (hfound : store.lookup (home plan) = some actual)
    (hrecreates : wantsRecreate plan actual = true) (notes : List Consultation) :
    EndsAsListed plan store drawn
      ((plan.recreate name plan.stamped actual notes).run serve (store, drawn)) := by
  have hplace : (⟨plan.stamped.metadata.namespace, name⟩ : ObjectKey) = home plan :=
    place_eq_home htarget
  rw [run_recreate notes (hplace.symm ▸ hfound), hplace, remove_pinned hfound]
  unfold EndsAsListed
  cases hprepared : (plan.beforeCreate plan.stamped).1 with
  | error failure =>
      obtain ⟨houtcome, hstate⟩ :=
        run_createExpected_of_error _ drawn hprepared .recreated notes
      rw [houtcome, hstate]
      exact .cleared hfound hrecreates hprepared rfl
  | ok prepared =>
      have hkey := hhooks.created prepared hprepared
      have hfree : Store.lookup { store with
          objects := store.objects.erase (home plan)
          counts := { store.counts with deletes := store.counts.deletes + 1 } }
            (.ofMetadata prepared.metadata) = none := by
        rw [hkey]
        exact get?_erase_self store.objects (home plan)
      obtain ⟨houtcome, hstate⟩ :=
        run_createExpected_of_ok drawn hprepared hfree .recreated notes
      rw [houtcome, hstate, add_of_free _ hfree, hkey]
      -- A deletion gives no version, so the next one is the same as before it.
      exact .recreated hfound hrecreates hprepared (freshIdentity_identity drawn)
        (taken_stamp hreached prepared _) rfl

theorem endsAsListed_update (hreached : Reached store) (hhooks : KeepsPlace plan store)
    (hfound : store.lookup (home plan) = some actual)
    (hkeeps : wantsRecreate plan actual = false) (hupdates : wantsUpdate plan actual = true)
    (notes : List Consultation) :
    EndsAsListed plan store drawn
      ((plan.update plan.stamped actual notes).run serve (store, drawn)) := by
  unfold EndsAsListed
  cases hprepared : (plan.beforeUpdate plan.stamped actual).1 with
  | error failure =>
      obtain ⟨houtcome, hstate⟩ := run_update_of_error store drawn notes hprepared
      rw [houtcome, hstate]
      exact .held hfound hkeeps hupdates hprepared
  | ok prepared =>
      have hkey := hhooks.updated actual prepared hfound hprepared
      have hwritten := write_current Store.countReplace (hkey.symm ▸ hfound)
        (resourceVersion_beforeUpdate hprepared)
      obtain ⟨houtcome, hstate⟩ := run_update_of_written drawn notes hprepared hwritten
      rw [houtcome, hstate, hkey]
      have htaken := taken_stamp hreached prepared actual.metadata.uid
      cases hchecked : (plan.afterUpdate
          (store.stamp (Store.identify prepared actual.metadata.uid))).1 with
      | error failure => exact .disowned hfound hkeeps hupdates hprepared htaken hchecked rfl
      | ok _ => exact .updated hfound hkeeps hupdates hprepared htaken hchecked rfl

theorem endsAsListed_converge (hreached : Reached store) (hhooks : KeepsPlace plan store) :
    EndsAsListed plan store drawn (plan.converge.run serve (store, drawn)) := by
  cases htarget : plan.target with
  | error failure =>
      unfold ResourcePlan.converge
      rw [htarget]
      exact .malformed htarget
  | ok name =>
      have hplace := place_eq_home htarget
      cases hlookup : store.lookup (home plan) with
      | none =>
          rw [run_converge_absent htarget (hplace ▸ hlookup)]
          exact endsAsListed_create hreached hhooks hlookup []
      | some actual =>
          rw [run_converge_found htarget (hplace ▸ hlookup)]
          change EndsAsListed plan store drawn (if wantsRecreate plan actual then _ else _)
          cases hrecreates : wantsRecreate plan actual with
          | true => exact endsAsListed_recreate hreached hhooks htarget hlookup hrecreates _
          | false =>
              cases hupdates : wantsUpdate plan actual with
              | true => exact endsAsListed_update hreached hhooks hlookup hrecreates hupdates _
              | false => exact .unchanged hlookup hrecreates hupdates

/-- A notice board: a notice that is torn is put up again, one with another text is rewritten and
keeps its labels. -/
def notice : ResourcePlan String where
  title := "Notice"
  expected := ⟨{ name := some "opening", «namespace» := some "lab" }, "open"⟩
  owner := some { kind := "Board", name := "north", uid := "uid-board" }
  needUpdate := some fun expected actual => decide (expected.content ≠ actual.content)
  needRecreate := some fun _ actual => decide (actual.content = "torn")
  preUpdate := some fun expected actual =>
    .ok { expected with metadata := { expected.metadata with labels := actual.metadata.labels } }

end Fleet.Proofs.PlanOutcomes
