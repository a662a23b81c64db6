import Fleet.Proofs.Interleaving
import Fleet.Proofs.Ownership.PassCalls
import Fleet.Store.Inventory

/-!
What passes come to own. Passes over any number of experiments take turns after every question they
ask, in any order; their calls are answered, refused, or carried out while the answer is lost.
Meanwhile others change what the objects contain, remove them, and run pods of their own. Whatever
happens, what is stored has been made by the passes of some experiment, in its place and with its
marks, or is a stranger's pod without the label of an experiment.
-/

namespace Fleet.Proofs.Ownership

open Fleet.Experiment
open Fleet.Proofs.Contract
open Fleet.Proofs.Stores

structure Worker where
  experiment : Experiment
  memory : Memory := []
  program : Pass (Except Failure Action)

abbrev Worker.owner (worker : Worker) : Owner := ownerOf worker.experiment

/-- The stores that hold what passes make, and whoever is at work. -/
structure Scene where
  inventory : Inventory := {}
  /-- Whose pass was the last to make an object in a place. -/
  makers : Kind → ObjectKey → Option Owner := fun _ _ => none
  workers : List Worker := []

def crew : Interleaving.Crew Scene Worker Effect Effect.Reply (Except Failure Action) where
  workers := Scene.workers
  withWorkers scene workers := { scene with workers }
  program := Worker.program
  resume worker effect reply next :=
    { worker with memory := worker.memory.after effect reply, program := next }
  workers_withWorkers _ _ := rfl

/-- What becomes of a call. -/
inductive Fate where
  | answered
  | refused (failure : Failure)
  /-- The call is carried out, but the worker does not learn it. -/
  | lost (failure : Failure)

inductive Move where
  /-- A pass over an experiment begins, whatever is specified and reported by then. -/
  | pass (settings : Settings) (experiment : Experiment)
  /-- A worker takes its turn. What it asks of other stores is answered in any way. -/
  | advance (index : Nat) (uid : String) (fate : Fate) (answer : (effect : Effect) → effect.Reply)
  | edit (kind : Kind) (key : ObjectKey) (change : Object kind.Content → Object kind.Content)
  | remove (kind : Kind) (key : ObjectKey)
  /-- A stranger's pod is created. -/
  | plant (uid : String) (pod : Pod)

def rebind : (kind : Kind) → kind.Content → kind.Content → kind.Content
  | .volume, content, changed =>
      { spec := some { changed.spec.getD {} with
          claimRef := content.spec.bind VolumeSpec.claimRef } }
  | .claim, content, changed =>
      { spec := some { changed.spec.getD {} with
          volumeName := content.spec.bind ClaimSpec.volumeName } }
  | _, _, changed => changed

/-- Nobody changes where an object belongs and to whom. -/
def keepTies (kind : Kind) (object changed : Object kind.Content) : Object kind.Content :=
  { metadata :=
      { changed.metadata with
        name := object.metadata.name, generateName := object.metadata.generateName
        «namespace» := object.metadata.namespace, uid := object.metadata.uid
        labels := object.metadata.labels, ownerReferences := object.metadata.ownerReferences }
    content := rebind kind object.content changed.content }

namespace Scene

/-- The makers after a call, which is to the credit of the owner if it creates an object. -/
def credit (scene : Scene) (owner : Owner) (kind : Kind) :
    Store.Call kind.Content → Kind → ObjectKey → Option Owner
  | .create object, other, key =>
      if other = kind ∧ key = .ofMetadata object.metadata ∧
          ((scene.inventory.store kind).lookup key).isNone then some owner
      else scene.makers other key
  | _, other, key => scene.makers other key

def perform (scene : Scene) (owner : Owner) (uid : String) (kind : Kind)
    (call : Store.Call kind.Content) : call.Reply × Scene :=
  let (reply, store) := (scene.inventory.store kind).answer uid call
  (reply,
    { scene with
      inventory := scene.inventory.setStore kind store
      makers := scene.credit owner kind call })

def answer (scene : Scene) (owner : Owner) (uid : String) (fate : Fate)
    (elsewhere : (effect : Effect) → effect.Reply) : (effect : Effect) → effect.Reply × Scene
  | .store kind call =>
      if isDependent kind then
        match fate with
        | .answered => scene.perform owner uid kind call
        | .refused failure => (call.failed failure, scene)
        | .lost failure => (call.failed failure, (scene.perform owner uid kind call).2)
      else (elsewhere (.store kind call), scene)
  | effect => (elsewhere effect, scene)

def advance (scene : Scene) (index : Nat) (uid : String) (fate : Fate)
    (elsewhere : (effect : Effect) → effect.Reply) : Scene :=
  crew.advance
    (fun worker effect => some (scene.answer worker.owner uid fate elsewhere effect)) scene index

/-- Makes a move. A stranger's pod has no label of an experiment. -/
def move (scene : Scene) : Move → Scene
  | .pass settings experiment =>
      crew.enroll scene { experiment, program := reconcile settings experiment }
  | .advance index uid fate elsewhere => scene.advance index uid fate elsewhere
  | .edit kind key change =>
      let store := ((scene.inventory.store kind).mutate key fun object =>
        keepTies kind object (change object)).2
      { scene with inventory := scene.inventory.setStore kind store }
  | .remove kind key =>
      let store := ((scene.inventory.store kind).remove key none).2
      { scene with inventory := scene.inventory.setStore kind store }
  | .plant uid pod =>
      if (pod.metadata.label? nameLabel).isSome then scene
      else
        let store := ((scene.inventory.store .pod).add uid pod).2
        { scene with inventory := scene.inventory.setStore .pod store }

def run (start : Inventory) (moves : List Move) : Scene := moves.foldl move { inventory := start }

end Scene

namespace Move

/-- Only makers that are admitted are at work. `none` stands for strangers. -/
def By (admits : Option Owner → Prop) : Move → Prop
  | .pass _ experiment => admits (some (ownerOf experiment))
  | .plant .. => admits none
  | _ => True

/-- The templates that workers find have only the given protocols. -/
def Offers (protocols : String → Prop) : Move → Prop
  | .advance _ _ _ elsewhere => ∀ ns name template,
      elsewhere (.store .template (.get ns name)) = .ok template →
        protocols template.content.protocolName
  | _ => True

end Move

/-- A worker takes several turns, and all its calls are answered. -/
def turns (answer : (effect : Effect) → effect.Reply) (index count : Nat) : List Move :=
  List.replicate count (.advance index "uid-made" .answered answer)

theorem by_turns {admits : Option Owner → Prop} (answer : (effect : Effect) → effect.Reply)
    (index count : Nat) : ∀ move ∈ turns answer index count, move.By admits := by
  intro move hmove
  rw [List.eq_of_mem_replicate hmove]
  trivial

theorem offers_turns {protocols : String → Prop} {answer : (effect : Effect) → effect.Reply}
    (h : ∀ ns name template, answer (.store .template (.get ns name)) = .ok template →
      protocols template.content.protocolName) (index count : Nat) :
    ∀ move ∈ turns answer index count, move.Offers protocols := by
  intro move hmove
  rw [List.eq_of_mem_replicate hmove]
  exact h

/-- No pass has made anything yet. -/
def Vacant (start : Inventory) : Prop :=
  ∀ kind, isDependent kind = true → ∀ key, (start.store kind).lookup key = none

theorem vacant_default : Vacant {} := by
  intro kind _ key
  cases kind <;> rfl

/-- Whose the object is. -/
def Stems (protocols : String → Prop) : Option Owner → (kind : Kind) → Object kind.Content → Prop
  | some owner, kind, object => Belongs protocols owner kind object
  | none, kind, object => kind = .pod ∧ object.metadata.label? nameLabel = none

/-- The object is in its place, and a maker's that is admitted. -/
structure Accounted (admits : Option Owner → Prop) (protocols : String → Prop) (kind : Kind)
    (key : ObjectKey) (object : Object kind.Content) : Prop where
  place : ObjectKey.ofMetadata object.metadata = key
  stems : ∃ maker, admits maker ∧ Stems protocols maker kind object

def AllAccounted (admits : Option Owner → Prop) (protocols : String → Prop) (kind : Kind)
    (store : Store kind.Content) : Prop :=
  ∀ key object, store.lookup key = some object → Accounted admits protocols kind key object

section Stored

variable {admits : Option Owner → Prop} {protocols : String → Prop} {maker : Option Owner}
  {kind : Kind} {key : ObjectKey} {object other : Object kind.Content} {store : Store kind.Content}

theorem stems_of_sameTies (h : Stems protocols maker kind object)
    (halike : SameTies kind object other) :
    Stems protocols maker kind other := by
  cases maker with
  | some owner => exact belongs_of_sameTies h halike
  | none =>
      refine ⟨h.1, ?_⟩
      rw [Metadata.label?, halike.labels]
      exact h.2

theorem sameTies_stamp (store : Store kind.Content) (object : Object kind.Content)
    (uid : Option String) : SameTies kind object (store.stamp (Store.identify object uid)) :=
  ⟨rfl, rfl, rfl, rfl, rfl⟩

theorem sameTies_keepTies (kind : Kind) (object changed : Object kind.Content) :
    SameTies kind object (keepTies kind object changed) := by
  refine ⟨rfl, rfl, rfl, rfl, ?_⟩
  cases kind <;> rfl

theorem accounted_add (h : AllAccounted admits protocols kind store) (hadmits : admits maker)
    (hstems : Stems protocols maker kind object) (uid : String) :
    AllAccounted admits protocols kind (store.add uid object).2 := by
  intro key found hfound
  rcases lookup_of_lookup_add hfound with hold | ⟨rfl, rfl⟩
  · exact h key found hold
  · exact ⟨rfl, maker, hadmits, stems_of_sameTies hstems (sameTies_stamp store object (some uid))⟩

theorem accounted_write (h : AllAccounted admits protocols kind store) (hadmits : admits maker)
    (hstems : Stems protocols maker kind object) (count : WriteCounts → WriteCounts) :
    AllAccounted admits protocols kind (store.write object count).2 := by
  intro key found hfound
  cases hresult : (store.write object count).1 with
  | error failure =>
      rw [Store.lookup, (write_error (Prod.ext hresult rfl)).1] at hfound
      exact h key found hfound
  | ok written =>
      obtain ⟨stored, -, -, rfl, hobjects, -⟩ := write_ok (Prod.ext hresult rfl)
      rw [Store.lookup, hobjects] at hfound
      by_cases hkey : key = .ofMetadata object.metadata
      · rw [hkey, get?_insert_self] at hfound
        cases hfound
        exact ⟨hkey.symm, maker, hadmits, stems_of_sameTies hstems (sameTies_stamp store object _)⟩
      · rw [get?_insert_of_ne hkey] at hfound
        exact h key found hfound

theorem accounted_mutate (h : AllAccounted admits protocols kind store) (key : ObjectKey)
    (change : Object kind.Content → Object kind.Content) :
    AllAccounted admits protocols kind
      (store.mutate key fun object => keepTies kind object (change object)).2 := by
  intro other found hfound
  rcases lookup_of_lookup_mutate hfound with hold | ⟨rfl, old, hold, rfl⟩
  · exact h other found hold
  · obtain ⟨hplace, maker, hadmits, hstems⟩ := h other old hold
    obtain ⟨hsame, hname, hlabels, howners, hbond⟩ := sameTies_keepTies kind old (change old)
    exact ⟨hplace, maker, hadmits, stems_of_sameTies hstems ⟨hsame, hname, hlabels, howners, hbond⟩⟩

theorem accounted_remove (h : AllAccounted admits protocols kind store) (key : ObjectKey)
    (preconditions : Option Preconditions) :
    AllAccounted admits protocols kind (store.remove key preconditions).2 :=
  fun other found hfound => h other found (lookup_of_lookup_remove hfound)

end Stored

/-- The call shows the object under the key. -/
def ShownBy {kind : Kind} (key : ObjectKey) (object : Object kind.Content) :
    Store.Call kind.Content → Prop
  | .get ns name => key = ⟨ns, name⟩
  | .list ns selector => Picked ns selector key object
  | _ => False

/-- What was seen is true, or was when it was seen. -/
structure SightTrue (admits : Option Owner → Prop) (protocols : String → Prop) (sight : Sight) :
    Prop where
  accounted : isDependent sight.kind = true →
    ∃ key, Accounted admits protocols sight.kind key sight.object ∧
      ShownBy key sight.object sight.call
  offered : ∀ ns name template, sight = ⟨.template, .get ns name, template⟩ →
    protocols template.content.protocolName

/-- What a worker has been told is true, and its experiment is admitted. -/
structure WorkerInformed (admits : Option Owner → Prop) (protocols : String → Prop)
    (worker : Worker) :
    Prop where
  told : ∀ sight ∈ worker.memory, SightTrue admits protocols sight
  admitted : admits (some worker.owner)

structure Stocked (admits : Option Owner → Prop) (protocols : String → Prop) (scene : Scene) :
    Prop where
  accounted : ∀ kind, isDependent kind = true →
    AllAccounted admits protocols kind (scene.inventory.store kind)
  made : ∀ kind key owner, scene.makers kind key = some owner → InPlace protocols owner kind key

def conduct : Interleaving.Conduct crew Memory where
  rules worker := rules worker.owner
  suits _ _ _ := True
  situation := Worker.memory
  program_resume _ _ _ _ := rfl
  rules_resume _ _ _ _ := rfl
  suits_resume _ _ _ _ := rfl
  situation_resume _ _ _ _ := rfl

def invariant (admits : Option Owner → Prop) (protocols : String → Prop) :
    Interleaving.Invariant crew where
  holds := Stocked admits protocols
  knows _ := WorkerInformed admits protocols
  holds_withWorkers _ _ h := ⟨h.accounted, h.made⟩
  knows_withWorkers _ _ _ h := h

abbrev Sound (admits : Option Owner → Prop) (protocols : String → Prop) : Scene → Prop :=
  Interleaving.Sound conduct (invariant admits protocols)

section Soundness

variable {admits : Option Owner → Prop} {protocols : String → Prop} {scene : Scene}
  {worker : Worker}

theorem offered_of_sightTrue {memory : Memory}
    (h : ∀ sight ∈ memory, SightTrue admits protocols sight)
    (protocol : String) (hoffered : memory.Offers protocol) : protocols protocol := by
  obtain ⟨ns, name, template, hseen, rfl⟩ := hoffered
  exact (h _ hseen).offered ns name template rfl

theorem stocked_setStore (h : Stocked admits protocols scene) {kind : Kind}
    {store : Store kind.Content}
    (hstore : isDependent kind = true → AllAccounted admits protocols kind store) :
    Stocked admits protocols { scene with inventory := scene.inventory.setStore kind store } := by
  refine ⟨fun other hother => ?_, h.made⟩
  by_cases hkind : other = kind
  · subst hkind
    change AllAccounted admits protocols other ((scene.inventory.setStore other store).store other)
    rw [Inventory.store_setStore]
    exact hstore hother
  · change AllAccounted admits protocols other ((scene.inventory.setStore kind store).store other)
    rw [Inventory.store_setStore_of_ne _ _ hkind]
    exact h.accounted other hother

section Turn

variable (h : Stocked admits protocols scene) (hinformed : WorkerInformed admits protocols worker)

include h hinformed

theorem accounted_answer (uid : String) {kind : Kind} {call : Store.Call kind.Content}
    (hkind : isDependent kind = true) (hproper : PermittedCall worker.owner worker.memory call) :
    AllAccounted admits protocols kind ((scene.inventory.store kind).answer uid call).2 := by
  have haccounted := h.accounted kind hkind
  cases call with
  | get => exact haccounted
  | list => exact haccounted
  | create object =>
      have hbelongs : Belongs protocols worker.owner kind object :=
        belongs_mono hproper (offered_of_sightTrue hinformed.told)
      exact accounted_add haccounted hinformed.admitted hbelongs uid
  | replace object =>
      obtain ⟨place, shown, hshown, -, halike⟩ := hproper
      obtain ⟨key, ⟨-, maker, hadmits, hstems⟩, -⟩ := (hinformed.told _ hshown).accounted hkind
      exact accounted_write haccounted hadmits (stems_of_sameTies hstems halike) Store.countReplace
  | replaceStatus => contradiction
  | delete ns name preconditions => exact accounted_remove haccounted _ _

theorem stocked_perform (uid : String) {kind : Kind} {call : Store.Call kind.Content}
    (hkind : isDependent kind = true) (hproper : PermittedCall worker.owner worker.memory call) :
    Stocked admits protocols (scene.perform worker.owner uid kind call).2 := by
  have hstored := stocked_setStore h fun _ => accounted_answer h hinformed uid hkind hproper
  refine ⟨hstored.accounted, fun other key owner hmade => ?_⟩
  change scene.credit worker.owner kind call other key = some owner at hmade
  cases call with
  | create object =>
      unfold Scene.credit at hmade
      dsimp only at hmade
      split at hmade
      · rename_i hcreated
        obtain ⟨rfl, rfl, -⟩ := hcreated
        cases hmade
        exact inPlace_mono hproper.place (offered_of_sightTrue hinformed.told)
      · exact h.made other key owner hmade
  | _ => exact h.made other key owner hmade

theorem stocked_answer (uid : String) (fate : Fate) (elsewhere : (effect : Effect) → effect.Reply)
    {effect : Effect} (hallows : (rules worker.owner).allows worker.memory effect) :
    Stocked admits protocols (scene.answer worker.owner uid fate elsewhere effect).2 := by
  cases effect with
  | store kind call =>
      unfold Scene.answer
      dsimp only
      split
      · rename_i hkind
        cases fate with
        | answered => exact stocked_perform h hinformed uid hkind (hallows.1 hkind)
        | refused failure => exact h
        | lost failure => exact stocked_perform h hinformed uid hkind (hallows.1 hkind)
      · exact h
  | _ => exact h

theorem sightTrue_performed (uid : String) {kind : Kind} {call : Store.Call kind.Content}
    (hkind : isDependent kind = true) :
    ∀ sight ∈ worker.memory.after (.store kind call)
      ((scene.inventory.store kind).answer uid call).1, SightTrue admits protocols sight := by
  have htold := hinformed.told
  have hdependent : ∀ {call : Store.Call kind.Content} {object : Object kind.Content} {key},
      (scene.inventory.store kind).lookup key = some object → ShownBy key object call →
        SightTrue admits protocols ⟨kind, call, object⟩ := by
    intro call object key hstored hshown
    refine ⟨fun _ => ⟨key, h.accounted kind hkind key object hstored, hshown⟩, ?_⟩
    rintro ns name template ⟨⟩
    contradiction
  cases call with
  | get ns name =>
      change ∀ sight ∈ worker.memory.after (.store kind (.get ns name))
        ((scene.inventory.store kind).fetch ⟨ns, name⟩), _
      cases hstored : (scene.inventory.store kind).lookup ⟨ns, name⟩ with
      | none =>
          rw [fetch_of_missing hstored]
          exact htold
      | some object =>
          rw [fetch_of_stored hstored]
          exact List.forall_mem_cons.mpr ⟨hdependent hstored rfl, htold⟩
  | list ns selector =>
      intro sight hsight
      rcases List.mem_append.mp hsight with hnew | hold
      · obtain ⟨object, hobject, rfl⟩ := List.mem_map.mp hnew
        obtain ⟨key, hstored, hpicked⟩ := mem_select.mp hobject
        exact hdependent hstored hpicked
      · exact htold sight hold
  | create => exact htold
  | replace => exact htold
  | replaceStatus => exact htold
  | delete => exact htold

omit h in
theorem sightTrue_elsewhere {elsewhere : (effect : Effect) → effect.Reply} {kind : Kind}
    {call : Store.Call kind.Content} (hkind : ¬ isDependent kind = true)
    (hoffers : ∀ ns name template, elsewhere (.store .template (.get ns name)) = .ok template →
      protocols template.content.protocolName) :
    ∀ sight ∈ worker.memory.after (.store kind call) (elsewhere (.store kind call)),
      SightTrue admits protocols sight := by
  have htold := hinformed.told
  cases call with
  | get ns name =>
      cases hfound : elsewhere (.store kind (.get ns name)) with
      | error failure => exact htold
      | ok object =>
          refine List.forall_mem_cons.mpr ⟨⟨fun hdependent => absurd hdependent hkind, ?_⟩, htold⟩
          rintro ns name template ⟨⟩
          exact hoffers ns name template hfound
  | list ns selector =>
      cases hfound : elsewhere (.store kind (.list ns selector)) with
      | error failure => exact htold
      | ok objects =>
          intro sight hsight
          rcases List.mem_append.mp hsight with hnew | hold
          · obtain ⟨object, -, rfl⟩ := List.mem_map.mp hnew
            exact ⟨fun hdependent => absurd hdependent hkind, fun _ _ _ hsame => nomatch hsame⟩
          · exact htold sight hold
  | create => exact htold
  | replace => exact htold
  | replaceStatus => exact htold
  | delete => exact htold

theorem sightTrue_answer (uid : String) (fate : Fate) {elsewhere : (effect : Effect) → effect.Reply}
    (hoffers : ∀ ns name template, elsewhere (.store .template (.get ns name)) = .ok template →
      protocols template.content.protocolName) (effect : Effect) :
    ∀ sight ∈ worker.memory.after effect
      (scene.answer worker.owner uid fate elsewhere effect).1,
        SightTrue admits protocols sight := by
  have htold := hinformed.told
  cases effect with
  | store kind call =>
      unfold Scene.answer
      dsimp only
      split
      · rename_i hkind
        cases fate with
        | answered => exact sightTrue_performed h hinformed uid hkind
        | refused failure => cases call <;> exact htold
        | lost failure => cases call <;> exact htold
      · rename_i hkind
        exact sightTrue_elsewhere hinformed hkind hoffers
  | _ => exact htold

end Turn

theorem sound_advance (h : Sound admits protocols scene) (index : Nat) (uid : String) (fate : Fate)
    {elsewhere : (effect : Effect) → effect.Reply}
    (hoffers : ∀ ns name template, elsewhere (.store .template (.get ns name)) = .ok template →
      protocols template.content.protocolName) :
    Sound admits protocols (scene.advance index uid fate elsewhere) := by
  refine Interleaving.sound_advance h (fun worker hworker effect reply after hasks hanswer => ?_)
    index
  obtain ⟨rfl, rfl⟩ := Prod.mk.inj (Option.some.inj hanswer)
  have hinformed := h.knows worker hworker
  exact ⟨stocked_answer h.holds hinformed uid fate elsewhere hasks, h.knows, fun _ =>
    ⟨sightTrue_answer h.holds hinformed uid fate hoffers effect, hinformed.admitted⟩⟩

theorem sound_move (h : Sound admits protocols scene) {move : Move} (hby : move.By admits)
    (hoffers : move.Offers protocols) : Sound admits protocols (scene.move move) := by
  cases move with
  | pass settings experiment =>
      exact Interleaving.sound_enroll h (keeps_reconcile settings experiment [])
        ⟨fun _ hsight => absurd hsight List.not_mem_nil, hby⟩
  | advance index uid fate elsewhere => exact sound_advance h index uid fate hoffers
  | edit kind key change =>
      exact ⟨stocked_setStore h.holds fun hkind =>
        accounted_mutate (h.holds.accounted kind hkind) key change, h.follows, h.knows⟩
  | remove kind key =>
      exact ⟨stocked_setStore h.holds fun hkind =>
        accounted_remove (h.holds.accounted kind hkind) key none, h.follows, h.knows⟩
  | plant uid pod =>
      unfold Scene.move
      dsimp only
      split
      · exact h
      · rename_i hlabel
        have hstems : Stems protocols none .pod pod := ⟨rfl, by simpa using hlabel⟩
        exact ⟨stocked_setStore h.holds fun hkind =>
          accounted_add (h.holds.accounted .pod hkind) hby hstems uid, h.follows, h.knows⟩

theorem sound_run {start : Inventory} {moves : List Move} (hstart : Vacant start)
    (hby : ∀ move ∈ moves, move.By admits) (hoffers : ∀ move ∈ moves, move.Offers protocols) :
    Sound admits protocols (Scene.run start moves) := by
  have hstocked : Stocked admits protocols { inventory := start } := by
    refine ⟨fun kind hkind key object hstored => ?_, fun _ _ _ hmade => (nomatch hmade)⟩
    rw [hstart kind hkind key] at hstored
    contradiction
  have hstart : Sound admits protocols { inventory := start } :=
    ⟨hstocked, fun _ hworker => absurd hworker List.not_mem_nil,
      fun _ hworker => absurd hworker List.not_mem_nil⟩
  refine Interleaving.run_induction (motive := fun _ => Sound admits protocols) hstart
    fun earlier move hearly hscene => ?_
  have hmove : move ∈ moves := hearly.subset (List.mem_append_right _ (List.mem_singleton_self _))
  exact sound_move hscene (hby move hmove) (hoffers move hmove)

end Soundness

end Fleet.Proofs.Ownership
