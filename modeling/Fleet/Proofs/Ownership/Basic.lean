import Fleet.Experiment.Controller
import Fleet.Proofs.Experiment.Labels
import Fleet.Proofs.Experiment.Plans
import Fleet.Proofs.PlanStages

/-!
What an experiment owns: the volume, the claim, the service and the pod that its passes make. A pass
makes its objects in places of its own and marks them as its experiment's. Of what is stored
already it writes over what it has found in those places, and deletes what its selector has picked.
-/

namespace Fleet.Proofs.Ownership

open Fleet.Experiment
open Fleet.Proofs.Contract
open Fleet.Proofs.Convergence
open Fleet.Proofs.Experiment.Labels
open Fleet.Proofs.Experiment.Plans
open Fleet.Proofs.PlanStages

/-- An experiment by its place and identity. All else about it may change. -/
structure Owner where
  home : ObjectKey
  uid : Option String
  deriving DecidableEq

def ownerOf (experiment : Experiment) : Owner :=
  ⟨.ofMetadata experiment.metadata, experiment.metadata.uid⟩

def isDependent : Kind → Bool
  | .volume | .claim | .service | .pod => true
  | _ => false

/-- The places in which an owner's objects are made. That of a service depends on the protocol of
the template. -/
def InPlace (protocols : String → Prop) (owner : Owner) : Kind → ObjectKey → Prop
  | .volume, key => ∃ uid, owner.uid = some uid ∧ key = ⟨none, "pv-" ++ uid⟩
  | .claim, key => key = ⟨owner.home.namespace, "data-" ++ owner.home.name⟩
  | .service, key =>
      ∃ protocol, protocols protocol ∧
        key = ⟨owner.home.namespace, serviceName owner.home.name protocol⟩
  | .pod, key => key = owner.home
  | _, _ => False

/-- What an object is bound to: a volume to a claim, and a claim to a volume. -/
def bond? : (kind : Kind) → kind.Content → Option ObjectReference
  | .volume, content => content.spec.bind VolumeSpec.claimRef
  | .claim, content =>
      (content.spec.bind ClaimSpec.volumeName).map fun name => { name := some name }
  | _, _ => none

namespace Owner

/-- What the owner's objects are bound to. -/
def bond? (owner : Owner) : Kind → Option ObjectReference
  | .volume => some
      { apiVersion := some Kind.claim.apiVersion
        kind := some Kind.claim.title
        «namespace» := owner.home.namespace
        name := some ("data-" ++ owner.home.name) }
  | .claim => owner.uid.map fun uid => { name := some ("pv-" ++ uid) }
  | _ => none

def reference (owner : Owner) (uid : String) : OwnerReference :=
  { apiVersion := Kind.experiment.apiVersion, kind := Kind.experiment.title
    name := owner.home.name, uid, controller := some true }

end Owner

/-- The object has been made for the owner, and shows it. -/
structure Belongs (protocols : String → Prop) (owner : Owner) (kind : Kind)
    (object : Object kind.Content) : Prop where
  place : InPlace protocols owner kind (.ofMetadata object.metadata)
  named : object.metadata.name.isSome = true
  label : object.metadata.label? nameLabel = some owner.home.name
  managed : object.metadata.label? managedByLabel = some managedByValue
  owned : ∃ uid, owner.uid = some uid ∧
    object.metadata.ownerReferences = some [owner.reference uid]
  bond : bond? kind object.content = owner.bond? kind

/-- The objects do not differ in whom they belong to. -/
structure SameTies (kind : Kind) (object other : Object kind.Content) : Prop where
  place : ObjectKey.ofMetadata other.metadata = .ofMetadata object.metadata
  name : other.metadata.name = object.metadata.name
  labels : other.metadata.labels = object.metadata.labels
  owners : other.metadata.ownerReferences = object.metadata.ownerReferences
  bond : bond? kind other.content = bond? kind object.content

section

variable {protocols protocols' : String → Prop} {owner : Owner} {kind : Kind}

theorem inPlace_mono {key : ObjectKey} (h : InPlace protocols owner kind key)
    (hprotocols : ∀ protocol, protocols protocol → protocols' protocol) :
    InPlace protocols' owner kind key := by
  cases kind with
  | service =>
      obtain ⟨protocol, hprotocol, hkey⟩ := h
      exact ⟨protocol, hprotocols protocol hprotocol, hkey⟩
  | _ => exact h

theorem isDependent_of_inPlace {key : ObjectKey} (h : InPlace protocols owner kind key) :
    isDependent kind = true := by
  cases kind <;> first | rfl | exact h.elim

theorem belongs_mono {object : Object kind.Content} (h : Belongs protocols owner kind object)
    (hprotocols : ∀ protocol, protocols protocol → protocols' protocol) :
    Belongs protocols' owner kind object :=
  { h with place := inPlace_mono h.place hprotocols }

theorem belongs_of_sameTies {object other : Object kind.Content}
    (h : Belongs protocols owner kind object) (halike : SameTies kind object other) :
    Belongs protocols owner kind other := by
  refine ⟨halike.place ▸ h.place, halike.name ▸ h.named, ?_, ?_, halike.owners ▸ h.owned,
    halike.bond.trans h.bond⟩
  · rw [Metadata.label?, halike.labels]
    exact h.label
  · rw [Metadata.label?, halike.labels]
    exact h.managed

end

/-- An object that a pass was shown, and the call that it was shown by. -/
structure Sight where
  kind : Kind
  call : Store.Call kind.Content
  object : Object kind.Content

abbrev Memory := List Sight

namespace Memory

def after (memory : Memory) : (effect : Effect) → effect.Reply → Memory
  | .store kind (.get ns name), .ok object => ⟨kind, .get ns name, object⟩ :: memory
  | .store kind (.list ns selector), .ok objects =>
      objects.map (⟨kind, .list ns selector, ·⟩) ++ memory
  | _, _ => memory

/-- A template with the protocol was seen. -/
def Offers (memory : Memory) (protocol : String) : Prop :=
  ∃ ns name template, (⟨.template, .get ns name, template⟩ : Sight) ∈ memory ∧
    template.content.protocolName = protocol

end Memory

/-- What a pass for the owner may ask of a store that holds objects of its own. -/
def PermittedCall (owner : Owner) (memory : Memory) {kind : Kind} : Store.Call kind.Content → Prop
  | .get .. => True
  | .list .. => True
  | .create object => Belongs memory.Offers owner kind object
  | .replace object => ∃ key shown, ⟨kind, .get key.namespace key.name, shown⟩ ∈ memory ∧
      InPlace memory.Offers owner kind key ∧ SameTies kind shown object
  | .replaceStatus _ => False
  | .delete ns name _ => kind = .pod ∧ ∃ shown,
      ⟨kind, .list owner.home.namespace (some (selectorOf owner.home.name)), shown⟩ ∈ memory ∧
        ⟨ns, name⟩ = ObjectKey.ofMetadata shown.metadata

/-- What a pass may ask of any other store: it looks, and writes only the status of experiments. -/
def Restrained (kind : Kind) : Store.Call kind.Content → Prop
  | .get .. => True
  | .list .. => True
  | .replaceStatus _ => kind = .experiment
  | _ => False

def rules (owner : Owner) : Rules Memory Effect Effect.Reply where
  allows memory
    | .store kind call =>
        (isDependent kind = true → PermittedCall owner memory call) ∧
          (isDependent kind = false → Restrained kind call)
    | _ => True
  after := Memory.after

variable {α β : Type} {owner : Owner} {memory reached : Memory}

theorem subset_after (memory : Memory) (effect : Effect) (reply : effect.Reply) :
    memory ⊆ memory.after effect reply := by
  unfold Memory.after
  split
  · exact List.subset_cons_self _ _
  · exact List.subset_append_right _ _
  · exact List.Subset.refl _

theorem offers_mono {protocol : String} (h : memory.Offers protocol) (hgrown : memory ⊆ reached) :
    reached.Offers protocol := by
  obtain ⟨ns, name, template, hseen, hprotocol⟩ := h
  exact ⟨ns, name, template, hgrown hseen, hprotocol⟩

theorem keeps_grown {suits : Memory → α → Prop} {program : Pass α}
    (h : Keeps (rules owner) suits program memory) :
    Keeps (rules owner) (fun reached result => memory ⊆ reached ∧ suits reached result) program
      memory := by
  suffices ∀ base : Memory, base ⊆ memory → Keeps (rules owner)
      (fun reached result => base ⊆ reached ∧ suits reached result) program memory from
    this memory (List.Subset.refl _)
  intro base hbase
  induction program generalizing memory with
  | done result => exact ⟨hbase, h⟩
  | ask effect next ih =>
      exact ⟨h.1, fun reply =>
        ih reply (h.2 reply) (List.Subset.trans hbase (subset_after memory effect reply))⟩

theorem keeps_bind_grown {middle : Memory → α → Prop} {suits : Memory → β → Prop}
    {program : Pass α} {next : α → Pass β} (h : Keeps (rules owner) middle program memory)
    (hnext : ∀ reached result, memory ⊆ reached → middle reached result →
      Keeps (rules owner) suits (next result) reached) :
    Keeps (rules owner) suits (program >>= next) memory :=
  keeps_bind (keeps_grown h) fun reached result hmiddle =>
    hnext reached result hmiddle.1 hmiddle.2

theorem allows_get (kind : Kind) (ns : Option String) (name : String) :
    (rules owner).allows memory (.store kind (.get ns name)) :=
  ⟨fun _ => trivial, fun _ => trivial⟩

theorem keeps_persistStatus (updated : Experiment) :
    Keeps (rules owner) (fun _ _ => True) (Pass.on .experiment (Store.persistStatus updated))
      memory := by
  rw [Store.persistStatus_eq]
  refine ⟨⟨nofun, fun _ => rfl⟩, ?_⟩
  rintro (failure | stored)
  · change Keeps _ _ (Pass.on .experiment (if failure.isConflict then _ else _)) memory
    split
    · refine ⟨allows_get .experiment _ _, ?_⟩
      rintro (failure | latest)
      · trivial
      · exact ⟨⟨nofun, fun _ => rfl⟩, fun _ => trivial⟩
    · trivial
  · trivial

section Plans

variable {experiment : Experiment} {kind : Kind} {plan base : ResourcePlan kind.Content}

theorem keeps_refetch_only (plan : ResourcePlan kind.Content) :
    Keeps ((rules owner).onStore kind) (fun _ _ => True) plan.refetch memory := by
  unfold ResourcePlan.refetch
  split
  · trivial
  · refine ⟨allows_get _ _ _, fun reply => ?_⟩
    dsimp only [Program.bind]
    generalize Store.absentAsNone reply = absent
    cases absent <;> trivial

/-- A plan that cannot be carried out only looks for its object. -/
theorem keeps_of_target_error {failure : Failure} (h : plan.target = .error failure) :
    Keeps ((rules owner).onStore kind) (fun _ _ => True) plan.reconcile memory := by
  have hconverged : plan.converge = .done (.error failure, []) := by
    rw [ResourcePlan.converge, h]
  unfold ResourcePlan.reconcile
  rw [hconverged]
  change Keeps _ _ (plan.refetch >>= _) memory
  exact keeps_bind (keeps_refetch_only plan) fun _ _ _ => trivial

/-- What the plan has judged, the pass has been shown in the plan's place. -/
def JudgedIsShown (plan : ResourcePlan kind.Content) : Stage kind.Content → Memory → Prop
  | .judged actual, memory =>
      ⟨kind, .get (home plan).namespace (home plan).name, actual⟩ ∈ memory
  | _, _ => True

/-- The plan has come to a stage since it was begun. -/
def ReachesStage (plan : ResourcePlan kind.Content) (begun : Memory) (stage : Stage kind.Content)
    (reached : Memory) : Prop :=
  begun ⊆ reached ∧ JudgedIsShown plan stage reached

/-- What a plan needs to keep to the rules for its owner. -/
structure Domestic (owner : Owner) (memory : Memory) (kind : Kind)
    (plan : ResourcePlan kind.Content) : Prop where
  recreates : plan.needRecreate = none
  prepares : plan.preCreate = none
  place : InPlace memory.Offers owner kind (home plan)
  makes : ∀ name, plan.target = .ok name → Belongs memory.Offers owner kind plan.stamped
  writes : ∀ actual object, wantsUpdate plan actual = true →
    (plan.beforeUpdate plan.stamped actual).1 = .ok object → SameTies kind actual object

/-- A plan judges nothing but what it has just been shown. -/
theorem reachesStage_after {stage : Stage kind.Content} {call : Store.Call kind.Content}
    (h : ReachesStage plan memory stage reached) (hallows : stage.allows plan call)
    (reply : call.Reply) :
    ReachesStage plan memory (stage.after call reply)
      (Memory.after reached (.store kind call) reply) := by
  refine ⟨List.Subset.trans h.1 (subset_after reached (.store kind call) reply), ?_⟩
  cases stage with
  | looking =>
      cases call with
      | get ns name =>
          rcases reply with failure | found
          · change JudgedIsShown plan
              (if failure.isNotFound then Stage.vacant else Stage.finished) _
            split <;> trivial
          · have hplace : (⟨ns, name⟩ : ObjectKey) = home plan := hallows
            change _ ∈ _
            rw [← hplace]
            exact List.mem_cons_self
      | _ => contradiction
  | judged actual =>
      cases call with
      | delete ns name preconditions =>
          rcases reply with failure | ⟨⟩
          · change JudgedIsShown plan
              (if failure.isNotFound then Stage.vacant else Stage.finished) _
            split <;> trivial
          · trivial
      | _ => trivial
  | vacant => trivial
  | finished => trivial

/-- A plan that can be carried out makes what belongs to the owner, writes over what it was shown
in its place, and deletes nothing. -/
theorem permittedCall_of_allows {name : String} {stage : Stage kind.Content}
    {call : Store.Call kind.Content} (h : Domestic owner memory kind plan)
    (htarget : plan.target = .ok name) (hfollows : ReachesStage plan memory stage reached)
    (hallows : stage.allows plan call) : PermittedCall owner reached call := by
  have hoffers : ∀ protocol, memory.Offers protocol → reached.Offers protocol :=
    fun protocol hoffered => offers_mono hoffered hfollows.1
  cases call with
  | get => trivial
  | list => trivial
  | create object =>
      cases stage with
      | vacant =>
          change (ResourcePlan.beforeCreate _ _).1 = .ok object at hallows
          rw [ResourcePlan.beforeCreate, h.prepares] at hallows
          cases hallows
          exact belongs_mono (h.makes name htarget) hoffers
      | _ => contradiction
  | replace object =>
      cases stage with
      | judged actual =>
          obtain ⟨-, hwants, hprepared⟩ := hallows
          exact ⟨home plan, actual, hfollows.2, inPlace_mono h.place hoffers,
            h.writes actual object hwants hprepared⟩
      | _ => contradiction
  | replaceStatus => cases stage <;> contradiction
  | delete ns name preconditions =>
      cases stage with
      | judged actual =>
          obtain ⟨-, -, hwants⟩ := hallows
          rw [wantsRecreate, h.recreates] at hwants
          contradiction
      | _ => contradiction

theorem keeps_domestic (h : Domestic owner memory kind plan) :
    Keeps (rules owner) (fun _ _ => True) (Pass.on kind plan.reconcile) memory := by
  refine keeps_on ?_
  cases htarget : plan.target with
  | error failure => exact keeps_of_target_error htarget
  | ok name =>
      have hstart : ReachesStage plan memory .looking memory := ⟨List.Subset.refl _, trivial⟩
      refine keeps_mono (keeps_refine (keeps_plan plan) hstart ?_) fun _ _ _ => trivial
      intro stage reached call hfollows hallows
      refine ⟨⟨fun _ => permittedCall_of_allows h htarget hfollows hallows, fun hother => ?_⟩,
        fun reply => reachesStage_after hfollows hallows reply⟩
      exact nomatch hother.symm.trans (isDependent_of_inPlace h.place)

/-- What a plan expects, but for its owner. -/
structure Fitting (protocols : String → Prop) (experiment : Experiment) (kind : Kind)
    (expected : Object kind.Content) : Prop where
  place : InPlace protocols (ownerOf experiment) kind (.ofMetadata expected.metadata)
  named : expected.metadata.name.isSome = true
  labels : expected.metadata.labels = some (dependentLabels experiment)
  owners : expected.metadata.ownerReferences = none
  bond : bond? kind expected.content = (ownerOf experiment).bond? kind

theorem owner_of_target {name : String} (hproblems : base.problems = [])
    (h : (base.ownedBy .experiment experiment).target = .ok name) :
    ∃ uid, experiment.metadata.uid = some uid ∧
      (base.ownedBy .experiment experiment).owner = some ((ownerOf experiment).reference uid) := by
  unfold ResourcePlan.ownedBy at h ⊢
  cases hname : experiment.metadata.name with
  | none => simp [Kind.ownerReference?, hname, ResourcePlan.target, hproblems] at h
  | some given =>
      cases huid : experiment.metadata.uid with
      | none => simp [Kind.ownerReference?, hname, huid, ResourcePlan.target, hproblems] at h
      | some uid =>
          refine ⟨uid, rfl, ?_⟩
          simp [Kind.ownerReference?, hname, huid, Owner.reference, ownerOf, ObjectKey.ofMetadata,
            Metadata.displayName]

theorem ofMetadata_stamped_eq (plan : ResourcePlan kind.Content)
    (h : plan.expected.metadata.name.isSome = true) :
    home plan = .ofMetadata plan.expected.metadata := by
  obtain ⟨name, hname⟩ := Option.isSome_iff_exists.mp h
  rw [home_eq hname, ObjectKey.ofMetadata, Metadata.displayName, hname]
  rfl

theorem belongs_stamped {protocols : String → Prop} {name : String}
    (hproblems : base.problems = []) (hfitting : Fitting protocols experiment kind base.expected)
    (h : (base.ownedBy .experiment experiment).target = .ok name) :
    Belongs protocols (ownerOf experiment) kind (base.ownedBy .experiment experiment).stamped := by
  obtain ⟨uid, huid, howner⟩ := owner_of_target hproblems h
  have hlabels : (base.ownedBy .experiment experiment).stamped.metadata.labels =
      some (dependentLabels experiment) := by
    rw [labels_stamped, expected_ownedBy, hfitting.labels]
  refine ⟨?_, ?_, ?_, ?_, ⟨uid, huid, ?_⟩, ?_⟩
  · change InPlace _ _ _ (home _)
    rw [ofMetadata_stamped_eq _ (by rw [expected_ownedBy]; exact hfitting.named), expected_ownedBy]
    exact hfitting.place
  · rw [name_stamped, expected_ownedBy]
    exact hfitting.named
  · rw [Metadata.label?, hlabels]
    exact get?_dependentLabels_name experiment
  · rw [Metadata.label?, hlabels]
    exact Stores.get?_insert_self _ _ _
  · rw [ResourcePlan.stamped, howner]
    simp [Metadata.addOwner, hfitting.owners]
  · rw [content_stamped, expected_ownedBy]
    exact hfitting.bond

theorem domestic_ownedBy (hproblems : base.problems = []) (hrecreates : base.needRecreate = none)
    (hprepares : base.preCreate = none)
    (hfitting : Fitting memory.Offers experiment kind base.expected)
    (hwrites : ∀ actual object, wantsUpdate (base.ownedBy .experiment experiment) actual = true →
      ((base.ownedBy .experiment experiment).beforeUpdate
        (base.ownedBy .experiment experiment).stamped actual).1 = .ok object →
          SameTies kind actual object) :
    Domestic (ownerOf experiment) memory kind (base.ownedBy .experiment experiment) := by
  refine ⟨by rw [needRecreate_ownedBy, hrecreates], by rw [preCreate_ownedBy, hprepares], ?_,
    fun name htarget => belongs_stamped hproblems hfitting htarget, hwrites⟩
  rw [ofMetadata_stamped_eq _ (by rw [expected_ownedBy]; exact hfitting.named), expected_ownedBy]
  exact hfitting.place

theorem writes_of_needUpdate (h : plan.needUpdate = none) (actual object : Object kind.Content)
    (hwants : wantsUpdate plan actual = true)
    (_ : (plan.beforeUpdate plan.stamped actual).1 = .ok object) : SameTies kind actual object := by
  rw [wantsUpdate_of_needUpdate h] at hwants
  contradiction

theorem writes_of_patch {patch : Object kind.Content → Object kind.Content → Object kind.Content}
    (h : plan.preUpdate = some fun expected actual => .ok (patch expected actual))
    (hpatch : ∀ expected actual, SameTies kind actual (patch expected actual))
    (actual object : Object kind.Content) (_ : wantsUpdate plan actual = true)
    (hwritten : (plan.beforeUpdate plan.stamped actual).1 = .ok object) :
    SameTies kind actual object := by
  unfold ResourcePlan.beforeUpdate at hwritten
  rw [h] at hwritten
  cases hwritten
  have halike := hpatch plan.stamped actual
  exact ⟨halike.place, halike.name, halike.labels, halike.owners, halike.bond⟩

end Plans

end Fleet.Proofs.Ownership
