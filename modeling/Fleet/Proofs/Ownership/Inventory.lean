import Fleet.Proofs.Ownership.History

namespace Fleet.Proofs.Ownership

open Fleet.Experiment
open Fleet.Proofs.Experiment.Readiness (labAnswer labExperiment)

/-- The volume is reserved for the claim, and the claim asks for the volume. -/
structure BoundToEachOther (volume : Volume) (claim : Claim) : Prop where
  reserved : ∃ reference, volume.content.spec.bind VolumeSpec.claimRef = some reference ∧
    reference.namespace = claim.metadata.namespace ∧ reference.name = claim.metadata.name
  asked : claim.content.spec.bind ClaimSpec.volumeName = volume.metadata.name
  named : volume.metadata.name.isSome = true ∧ claim.metadata.name.isSome = true

/-- What a stored object of an owner shows. -/
structure Marked (owner : Owner) (key : ObjectKey) (metadata : Metadata) : Prop where
  place : ObjectKey.ofMetadata metadata = key
  label : metadata.label? nameLabel = some owner.home.name
  managed : metadata.label? managedByLabel = some managedByValue
  owned : ∃ uid, owner.uid = some uid ∧ metadata.ownerReferences = some [owner.reference uid]

structure InOrder (owner : Owner) (inventory : Inventory) : Prop where
  marked : ∀ kind, isDependent kind = true → ∀ key object,
    (inventory.store kind).lookup key = some object → Marked owner key object.metadata
  single : ∀ kind, isDependent kind = true → kind ≠ .service → ∀ key key' object object',
    (inventory.store kind).lookup key = some object →
      (inventory.store kind).lookup key' = some object' → key = key'
  bound : ∀ key key' volume claim, inventory.volumes.lookup key = some volume →
    inventory.claims.lookup key' = some claim → BoundToEachOther volume claim

section

variable {protocols : String → Prop} {owner : Owner}

theorem inPlace_unique {kind : Kind} {key key' : ObjectKey} (h : InPlace protocols owner kind key)
    (h' : InPlace protocols owner kind key') (hkind : kind ≠ .service) : key = key' := by
  cases kind with
  | volume =>
      obtain ⟨uid, hgiven, rfl⟩ := h
      obtain ⟨uid', hgiven', rfl⟩ := h'
      rw [Option.some.inj (hgiven.symm.trans hgiven')]
  | claim => exact h.trans h'.symm
  | pod => exact h.trans h'.symm
  | service => contradiction
  | _ => exact h.elim

theorem displayName_of_isSome {metadata : Metadata} (h : metadata.name.isSome = true) :
    metadata.name = some metadata.displayName := by
  obtain ⟨name, hname⟩ := Option.isSome_iff_exists.mp h
  rw [Metadata.displayName, hname]
  rfl

theorem boundToEachOther_of_belongs {volume : Volume} {claim : Claim}
    (hvolume : Belongs protocols owner .volume volume)
    (hclaim : Belongs protocols owner .claim claim) : BoundToEachOther volume claim := by
  obtain ⟨uid, hgiven, hplace⟩ := hvolume.place
  have hnamed := displayName_of_isSome hvolume.named
  have hnamed' := displayName_of_isSome hclaim.named
  have hplace' : ObjectKey.ofMetadata claim.metadata =
      ⟨owner.home.namespace, "data-" ++ owner.home.name⟩ := hclaim.place
  refine ⟨⟨_, hvolume.bond, ?_, ?_⟩, ?_, hvolume.named, hclaim.named⟩
  · exact (congrArg ObjectKey.namespace hplace').symm
  · rw [hnamed']
    exact congrArg some (congrArg ObjectKey.name hplace').symm
  · have hbond : (claim.content.spec.bind ClaimSpec.volumeName).map
        (fun name => ({ name := some name } : ObjectReference)) =
          owner.uid.map fun uid => { name := some ("pv-" ++ uid) } := hclaim.bond
    rw [hgiven] at hbond
    obtain ⟨asked, hasked, hsame⟩ := Option.map_eq_some_iff.mp hbond
    rw [hasked, hnamed]
    have hname : some asked = some ("pv-" ++ uid) := congrArg ObjectReference.name hsame
    rw [hname]
    exact congrArg some (congrArg ObjectKey.name hplace).symm

theorem inOrder_of_accounted {inventory : Inventory}
    (h : ∀ kind, isDependent kind = true →
      AllAccounted (· = some owner) protocols kind (inventory.store kind)) :
    InOrder owner inventory := by
  have hbelongs : ∀ kind, isDependent kind = true → ∀ key object,
      (inventory.store kind).lookup key = some object →
        ObjectKey.ofMetadata object.metadata = key ∧ Belongs protocols owner kind object := by
    intro kind hkind key object hstored
    obtain ⟨hplace, maker, rfl, hstems⟩ := h kind hkind key object hstored
    exact ⟨hplace, hstems⟩
  refine ⟨fun kind hkind key object hstored => ?_,
    fun kind hkind hservice key key' object object' hstored hstored' => ?_,
    fun key key' volume claim hvolume hclaim => ?_⟩
  · obtain ⟨hplace, hobject⟩ := hbelongs kind hkind key object hstored
    exact ⟨hplace, hobject.label, hobject.managed, hobject.owned⟩
  · obtain ⟨rfl, hobject⟩ := hbelongs kind hkind key object hstored
    obtain ⟨rfl, hobject'⟩ := hbelongs kind hkind key' object' hstored'
    exact inPlace_unique hobject.place hobject'.place hservice
  · exact boundToEachOther_of_belongs (hbelongs .volume rfl key volume hvolume).2
      (hbelongs .claim rfl key' claim hclaim).2

/-- After every history in which nobody but the passes of one experiment makes objects, all of them
are marked as its own, there is one of each kind but services, and volume and claim are bound to
each other. -/
theorem inOrder_run {start : Inventory} (hstart : Vacant start) (owner : Owner)
    {moves : List Move} (hby : ∀ move ∈ moves, move.By (· = some owner)) :
    InOrder owner (Scene.run start moves).inventory := by
  have hoffers : ∀ move ∈ moves, move.Offers fun _ => True := by
    intro move _
    cases move with
    | advance => exact fun _ _ _ _ => trivial
    | _ => trivial
  exact inOrder_of_accounted (sound_run hstart hby hoffers).holds.accounted

end

def pausedRats : Experiment :=
  { labExperiment with
    content := { spec := { labExperiment.spec with pause := true } } }

/-- Every port of the service is given a node port. -/
def allocate (service : Service) : Service :=
  let expose (port : ServicePort) : ServicePort := { port with nodePort := some 30022 }
  { service with
    content :=
      { spec := service.content.spec.map fun spec =>
          { spec with ports := spec.ports.map fun ports => ports.map expose } } }

def relocate (volume : Volume) : Volume :=
  { volume with
    content :=
      { spec := volume.content.spec.map fun spec =>
          { spec with hostPath := some { path := "/mnt" } } } }

/-- A pass makes all that its experiment should own. Then the service is given a node port, the
volume is moved, the claim is removed and the experiment is paused. The next pass moves the volume
back, makes the claim once more, and deletes the pod. -/
def upkeep : List Move :=
  [.pass {} labExperiment] ++ turns labAnswer 0 27 ++
    [.edit .service ⟨some "lab", "rats-ssh-service"⟩ allocate,
      .edit .volume ⟨none, "pv-uid-rats"⟩ relocate, .remove .claim ⟨some "lab", "data-rats"⟩,
      .pass {} pausedRats] ++ turns labAnswer 1 21

theorem inOrder_run_upkeep :
    ((Scene.run {} upkeep).inventory.volumes.lookup ⟨none, "pv-uid-rats"⟩).isSome = true ∧
      ((Scene.run {} upkeep).inventory.claims.lookup ⟨some "lab", "data-rats"⟩).isSome = true ∧
        InOrder (ownerOf labExperiment) (Scene.run {} upkeep).inventory := by
  have hby : ∀ move ∈ upkeep, move.By (· = some (ownerOf labExperiment)) := by
    refine List.forall_mem_append.mpr ⟨List.forall_mem_append.mpr
      ⟨List.forall_mem_append.mpr ⟨?_, by_turns labAnswer 0 27⟩, ?_⟩, by_turns labAnswer 1 21⟩
    · exact List.forall_mem_singleton.mpr rfl
    · simp only [List.forall_mem_cons]
      exact ⟨trivial, trivial, trivial, rfl, fun _ hmove => absurd hmove List.not_mem_nil⟩
  exact ⟨by decide +kernel, by decide +kernel,
    inOrder_run vacant_default (ownerOf labExperiment) hby⟩

end Fleet.Proofs.Ownership
