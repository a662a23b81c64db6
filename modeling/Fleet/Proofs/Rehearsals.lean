import Fleet.Proofs.Stores
import Fleet.Rehearsal.World

namespace Fleet.Proofs.Rehearsals

open Fleet.Proofs.Stores
open Fleet.Rehearsal

variable {α β C : Type} {world : World} {kind : Kind}

/-- What holds when a pass has been run in a world, of its result and of the world it leaves. -/
def Ends (pass : Pass α) (world : World) (post : α → World → Prop) : Prop :=
  post (world.perform pass).1 (world.perform pass).2

theorem perform_bind (pass : Pass α) (next : α → Pass β) :
    world.perform (pass >>= next) =
      (world.perform pass).2.perform (next (world.perform pass).1) :=
  Program.run_bind World.answer pass next world

theorem ends_bind {pass : Pass α} {next : α → Pass β} {middle : α → World → Prop}
    {post : β → World → Prop} (h : Ends pass world middle)
    (hnext : ∀ result after, middle result after → Ends (next result) after post) :
    Ends (pass >>= next) world post := by
  unfold Ends
  rw [perform_bind]
  exact hnext _ _ h

theorem ends_mono {pass : Pass α} {post post' : α → World → Prop} (h : Ends pass world post)
    (himp : ∀ result after, post result after → post' result after) : Ends pass world post' :=
  himp _ _ h

theorem ends_and {pass : Pass α} {post post' : α → World → Prop} (h : Ends pass world post)
    (h' : Ends pass world post') :
    Ends pass world fun result after => post result after ∧ post' result after :=
  ⟨h, h'⟩

theorem ok_of_toOption {ε α : Type} {result : Except ε α} {value : α}
    (h : result.toOption = some value) : result = .ok value := by
  cases result with
  | error failure => exact nomatch h
  | ok found => exact congrArg Except.ok (Option.some.inj h)

/-- How a store answers on its own, with a count of the identities drawn so far. -/
def serve (call : Store.Call C) (state : Store C × Nat) : call.Reply × (Store C × Nat) :=
  let (reply, after) := state.1.answer (identity (state.2 + 1)) call
  (reply, after, if state.1.takesIdentity call then state.2 + 1 else state.2)

def withStore (world : World) (kind : Kind) (state : Store kind.Content × Nat) : World :=
  { world with inventory := world.inventory.setStore kind state.1, drawn := state.2 }

@[simp]
theorem withStore_self (world : World) (kind : Kind) :
    withStore world kind (world.inventory.store kind, world.drawn) = world := by
  rw [withStore, Inventory.setStore_store]

theorem mutate_snd (world : World) (kind : Kind) (key : ObjectKey)
    (change : Object kind.Content → Object kind.Content) :
    (world.mutate kind key change).2 =
      world.setStore kind ((world.inventory.store kind).mutate key change).2 := by
  unfold World.mutate
  dsimp only
  split <;> rfl

theorem remove_snd (world : World) (kind : Kind) (key : ObjectKey) :
    (world.remove kind key).2 =
      world.setStore kind ((world.inventory.store kind).remove key none).2 := by
  unfold World.remove
  dsimp only
  split <;> rfl

theorem setStore_setStore (inventory : Inventory) (kind : Kind) (a b : Store kind.Content) :
    (inventory.setStore kind a).setStore kind b = inventory.setStore kind b := by
  cases kind <;> rfl

theorem withStore_withStore (world : World) (kind : Kind) (a b : Store kind.Content × Nat) :
    withStore (withStore world kind a) kind b = withStore world kind b := by
  simp only [withStore, setStore_setStore]

theorem answer_store (h : world.faults = []) (call : Store.Call kind.Content) :
    World.answer (.store kind call) world =
      ((serve call (world.inventory.store kind, world.drawn)).1,
        withStore world kind (serve call (world.inventory.store kind, world.drawn)).2) := by
  have hsame : { world with faults := [] } = world := by
    rw [← h]
  change world.answerCall kind call = _
  unfold World.answerCall
  rw [h]
  change World.callStore { world with faults := [] } kind call = _
  rw [hsame]
  unfold World.callStore serve
  dsimp only
  split <;> rfl

/-- The calls to one store, run on that store alone. -/
theorem perform_on (h : world.faults = []) (access : Store.Access kind.Content α) :
    world.perform (Pass.on kind access) =
      ((access.run serve (world.inventory.store kind, world.drawn)).1,
        withStore world kind (access.run serve (world.inventory.store kind, world.drawn)).2) := by
  -- The rest of the world does not matter to the calls, which hand on store and count alone.
  induction access generalizing world with
  | done result =>
      change (result, world) =
        (result, withStore world kind (world.inventory.store kind, world.drawn))
      rw [withStore_self]
  | ask call next ih =>
      change Program.run World.answer (Program.ask (.store kind call) _) world = _
      rw [Program.run_ask, answer_store h, Program.run_ask]
      have hafter : (withStore world kind
          (serve call (world.inventory.store kind, world.drawn)).2).faults = [] := h
      refine (ih (serve call (world.inventory.store kind, world.drawn)).1 hafter).trans ?_
      rw [withStore_withStore]
      simp only [withStore, Inventory.store_setStore]

theorem on_bind (access : Store.Access kind.Content α) (next : α → Store.Access kind.Content β) :
    Pass.on kind (access >>= next) =
      Pass.on kind access >>= fun result => Pass.on kind (next result) := by
  induction access with
  | done result => rfl
  | ask call answered ih => exact congrArg (Program.ask (Effect.store kind call)) (funext ih)

theorem ends_on (h : world.faults = []) {access : Store.Access kind.Content α}
    {post : α → World → Prop}
    (hpost : post (access.run serve (world.inventory.store kind, world.drawn)).1
      (withStore world kind (access.run serve (world.inventory.store kind, world.drawn)).2)) :
    Ends (Pass.on kind access) world post := by
  unfold Ends
  rw [perform_on h]
  exact hpost

theorem ends_on_of_run (h : world.faults = []) {access : Store.Access kind.Content α}
    {post : α → World → Prop} {result : α} {state : Store kind.Content × Nat}
    (hrun : access.run serve (world.inventory.store kind, world.drawn) = (result, state))
    (hpost : post result (withStore world kind state)) : Ends (Pass.on kind access) world post := by
  refine ends_on h ?_
  rw [hrun]
  exact hpost

theorem reached_run {C : Type} {store : Store C} (h : Reached store) (access : Store.Access C α)
    (drawn : Nat) : Reached (access.run serve (store, drawn)).2.1 := by
  induction access generalizing store drawn with
  | done result => exact h
  | ask call next ih => exact ih _ (.answer (identity (drawn + 1)) call h) _

theorem ends_on_reached (kind : Kind) (hfaults : world.faults = [])
    (hreached : Reached (world.inventory.store kind)) (access : Store.Access kind.Content α) :
    Ends (Pass.on kind access) world fun _ after => Reached (after.inventory.store kind) := by
  refine ends_on hfaults ?_
  simp only [withStore, Inventory.store_setStore]
  exact reached_run hreached access world.drawn

theorem ends_now (h : world.faults = []) (access : Store.Access kind.Content α) :
    Ends (Pass.on kind access) world fun _ after => after.now = world.now :=
  ends_on h rfl

variable {store : Store C} {drawn : Nat}

@[simp]
theorem run_get (ns : Option String) (name : String) :
    (Store.get ns name).run serve (store, drawn) = (store.fetch ⟨ns, name⟩, store, drawn) :=
  rfl

@[simp]
theorem run_replace (object : Object C) :
    (Store.replace object).run serve (store, drawn) =
      ((store.write object Store.countReplace).1, (store.write object Store.countReplace).2,
        drawn) :=
  rfl

@[simp]
theorem run_replaceStatus (object : Object C) :
    (Store.replaceStatus object).run serve (store, drawn) =
      ((store.write object Store.countStatusWrite).1,
        (store.write object Store.countStatusWrite).2, drawn) :=
  rfl

theorem absentAsNone_fetch (store : Store C) (key : ObjectKey) :
    Store.absentAsNone (store.fetch key) = .ok (store.lookup key) := by
  cases hlookup : store.lookup key with
  | none =>
      rw [fetch_of_missing hlookup]
      rfl
  | some object =>
      rw [fetch_of_stored hlookup]
      rfl

@[simp]
theorem run_find (ns : Option String) (name : String) :
    (Store.find ns name).run serve (store, drawn) = (.ok (store.lookup ⟨ns, name⟩), store, drawn) :=
  Prod.ext (absentAsNone_fetch store ⟨ns, name⟩) rfl

theorem run_replace_current {updated stored : Object C}
    (hlookup : store.lookup (.ofMetadata updated.metadata) = some stored)
    (hversion : updated.metadata.resourceVersion = stored.metadata.resourceVersion) :
    (Store.replace updated).run serve (store, drawn) =
      (.ok (store.stamp (Store.identify updated stored.metadata.uid)),
        { store.put (.ofMetadata updated.metadata)
            (store.stamp (Store.identify updated stored.metadata.uid)) with
          counts := Store.countReplace store.counts },
        drawn) := by
  rw [run_replace, write_current Store.countReplace hlookup hversion]

theorem run_persistStatus {Spec Status : Type} {store : Store (Managed Spec Status)} {drawn : Nat}
    {updated stored : Object (Managed Spec Status)}
    (hlookup : store.lookup (.ofMetadata updated.metadata) = some stored)
    (hversion : updated.metadata.resourceVersion = stored.metadata.resourceVersion) :
    (Store.persistStatus updated).run serve (store, drawn) =
      (.ok (store.stamp (Store.identify updated stored.metadata.uid)),
        { store.put (.ofMetadata updated.metadata)
            (store.stamp (Store.identify updated stored.metadata.uid)) with
          counts := Store.countStatusWrite store.counts },
        drawn) := by
  change (Program.bind (Store.replaceStatus updated) _).run serve (store, drawn) = _
  rw [Program.run_bind, run_replaceStatus,
    write_current Store.countStatusWrite hlookup hversion]
  rfl

theorem lookup_persistStatus {Spec Status : Type} {store : Store (Managed Spec Status)}
    {drawn : Nat} {updated stored : Object (Managed Spec Status)}
    (hlookup : store.lookup (.ofMetadata updated.metadata) = some stored)
    (hversion : updated.metadata.resourceVersion = stored.metadata.resourceVersion) :
    ((Store.persistStatus updated).run serve (store, drawn)).2.1.lookup
        (.ofMetadata updated.metadata) =
      some (store.stamp (Store.identify updated stored.metadata.uid)) := by
  rw [run_persistStatus hlookup hversion]
  exact lookup_put_self store _ _

theorem ends_clock (world : World) :
    Ends Pass.clock world fun now after => now = world.now ∧ world = after :=
  ⟨rfl, rfl⟩

theorem ends_publishAll (regarding : ObjectReference) (events : List Event) (world : World) :
    Ends (Pass.publishAll regarding events) world fun _ after =>
      ∃ published, after = { world with published } := by
  induction events generalizing world with
  | nil => exact ⟨world.published, rfl⟩
  | cons event rest ih =>
      obtain ⟨published, hafter⟩ :=
        ih { world with published := world.published ++ [⟨regarding, event⟩] }
      exact ⟨published, hafter⟩

theorem perform_find (h : world.faults = []) (kind : Kind) (ns : Option String) (name : String) :
    world.perform (Pass.on kind (Store.find ns name)) =
      (.ok ((world.inventory.store kind).lookup ⟨ns, name⟩), world) := by
  rw [perform_on h, run_find]
  dsimp only
  rw [withStore_self]

theorem perform_list (h : world.faults = []) (kind : Kind) (ns selector : Option String) :
    world.perform (Pass.on kind (Store.list ns selector)) =
      (.ok ((world.inventory.store kind).select ns selector), world) := by
  rw [perform_on h]
  change (_, withStore world kind (world.inventory.store kind, world.drawn)) = _
  rw [withStore_self]
  rfl

theorem perform_delete (h : world.faults = []) (kind : Kind) (ns : Option String) (name : String)
    (preconditions : Option Preconditions) :
    world.perform (Pass.on kind (Store.delete ns name preconditions)) =
      (((world.inventory.store kind).remove ⟨ns, name⟩ preconditions).1,
        withStore world kind
          (((world.inventory.store kind).remove ⟨ns, name⟩ preconditions).2, world.drawn)) := by
  rw [perform_on h]
  rfl

end Fleet.Proofs.Rehearsals
