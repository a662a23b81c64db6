import Fleet.Proofs.Experiment.Readiness
import Fleet.Proofs.Interference
import Fleet.Proofs.Ownership.History

namespace Fleet.Proofs.Ownership

open Fleet.Experiment
open Fleet.Proofs.Contract
open Fleet.Proofs.Experiment.Labels
open Fleet.Proofs.Experiment.Readiness (labExperiment labMetadata)
open Fleet.Proofs.Interference
open Fleet.Proofs.Selectors
open Fleet.Proofs.Stores

def placeOf {C : Type} : Store.Call C → Option ObjectKey
  | .create object => some (.ofMetadata object.metadata)
  | .replace object => some (.ofMetadata object.metadata)
  | .replaceStatus object => some (.ofMetadata object.metadata)
  | .delete ns name _ => some ⟨ns, name⟩
  | .get .. => none
  | .list .. => none

/-- Where a worker is about to create, replace or delete an object. -/
def Scene.writes? (scene : Scene) (worker : Worker) : Option (Kind × ObjectKey) :=
  match worker.program with
  | .ask (.store kind call) _ =>
      if isDependent kind && Turn.writes ⟨scene.inventory.store kind, "", call⟩ then
        (placeOf call).map (kind, ·)
      else none
  | _ => none

/-- A worker is about to write in a place where the object is the work of another owner's pass. -/
def Trespasses (scene : Scene) (worker : Worker) (other : Owner) : Prop :=
  ∃ kind key, scene.writes? worker = some (kind, key) ∧ scene.makers kind key = some other

/-- Two owners' services can come by the same name in the same namespace. -/
def Collide (protocols : String → Prop) (owner other : Owner) : Prop :=
  owner.home.namespace = other.home.namespace ∧
    ∃ protocol protocol', protocols protocol ∧ protocols protocol' ∧
      serviceName owner.home.name protocol = serviceName other.home.name protocol'

variable {protocols : String → Prop} {owner other : Owner}

/-- Households share no place, but for that of a service. -/
theorem collide_of_inPlace {kind : Kind} {key : ObjectKey} (h : InPlace protocols owner kind key)
    (hother : InPlace protocols other kind key) (hhome : other.home ≠ owner.home)
    (huid : other.uid ≠ owner.uid) : Collide protocols owner other := by
  cases kind with
  | volume =>
      obtain ⟨uid, hgiven, rfl⟩ := h
      obtain ⟨uid', hgiven', hkey⟩ := hother
      have hsame : uid = uid' := (String.append_right_inj "pv-").mp (congrArg ObjectKey.name hkey)
      exact absurd (hgiven'.trans (hsame ▸ hgiven.symm)) huid
  | claim =>
      have hkey := h.symm.trans hother
      have hname := (String.append_right_inj "data-").mp (congrArg ObjectKey.name hkey)
      have hns := congrArg ObjectKey.namespace hkey
      exact absurd (congr (congrArg ObjectKey.mk hns) hname).symm hhome
  | service =>
      obtain ⟨protocol, hprotocol, rfl⟩ := h
      obtain ⟨protocol', hprotocol', hkey⟩ := hother
      have hns := congrArg ObjectKey.namespace hkey
      have hname := congrArg ObjectKey.name hkey
      exact ⟨hns, protocol, protocol', hprotocol, hprotocol', hname⟩
  | pod => exact absurd (hother.symm.trans h) hhome
  | _ => exact h.elim

/-- The last dash parts an experiment's name from a protocol without dashes. -/
theorem serviceName_inj {name name' protocol protocol' : String}
    (hdashless : '-' ∉ protocol.toList) (hdashless' : '-' ∉ protocol'.toList)
    (h : serviceName name protocol = serviceName name' protocol') : name = name' := by
  have hjoined : (protocol.toList.reverse ++ '-' :: name.toList.reverse) =
      protocol'.toList.reverse ++ '-' :: name'.toList.reverse := by
    have htext := congrArg List.reverse (congrArg String.toList h)
    simpa [serviceName, String.toList_append] using htext
  have hparted : ∀ {text : String}, '-' ∉ text.toList → ∀ c ∈ text.toList.reverse, c ≠ '-' := by
    rintro text htext c hc rfl
    exact htext (List.mem_reverse.mp hc)
  have hcut := splitOnce_append (hparted hdashless) name.toList.reverse
  rw [hjoined, splitOnce_append (hparted hdashless')] at hcut
  have hreversed := congrArg Prod.snd (Option.some.inj hcut)
  exact String.toList_inj.mp (List.reverse_inj.mp hreversed).symm

/-- Without dashes in the protocols no two experiments come by the same service. -/
theorem not_collide_of_dashless (h : ∀ protocol, protocols protocol → '-' ∉ protocol.toList)
    (hhome : other.home ≠ owner.home) : ¬ Collide protocols owner other := by
  rintro ⟨hns, protocol, protocol', hprotocol, hprotocol', hsame⟩
  have hname := serviceName_inj (h protocol hprotocol) (h protocol' hprotocol') hsame
  exact hhome (congr (congrArg ObjectKey.mk hns) hname).symm

theorem dashless_of_supported {spec : TemplateSpec} (h : spec.protocol?.isSome = true) :
    '-' ∉ spec.protocolName.toList := by
  unfold TemplateSpec.protocol? IngressProtocol.ofName? at h
  dsimp only at h
  unfold TemplateSpec.protocolName
  split at h
  · rename_i hvnc
    rw [eq_of_beq hvnc]
    decide
  · split at h
    · rename_i hssh
      rw [eq_of_beq hssh]
      decide
    · contradiction

section Writes

variable {admits : Option Owner → Prop} {worker : Worker} {kind : Kind} {key : ObjectKey}

theorem inPlace_of_permittedCall {call : Store.Call kind.Content}
    (h : WorkerInformed admits protocols worker)
    (hkind : isDependent kind = true) (hproper : PermittedCall worker.owner worker.memory call)
    (hplain : Plain worker.owner.home.name) (hns : worker.owner.home.namespace.isSome = true)
    (hplace : placeOf call = some key) : InPlace protocols worker.owner kind key := by
  have hoffered := offered_of_sightTrue h.told
  cases call with
  | get => contradiction
  | list => contradiction
  | create object =>
      cases hplace
      exact inPlace_mono hproper.place hoffered
  | replace object =>
      obtain ⟨place, shown, hshown, hmine, halike⟩ := hproper
      obtain ⟨asked, haccounted, rfl⟩ := (h.told _ hshown).accounted hkind
      cases hplace
      rw [halike.place, haccounted.place]
      exact inPlace_mono hmine hoffered
  | replaceStatus => contradiction
  | delete ns name preconditions =>
      obtain ⟨rfl, shown, hshown, hnamed⟩ := hproper
      obtain ⟨stored, ⟨hplaced, maker, -, hstems⟩, hpicked, hselected⟩ :=
        (h.told _ hshown).accounted hkind
      have hlabel : shown.metadata.label? nameLabel = some worker.owner.home.name :=
        (selects_selectorOf hplain _).mp (hselected _ rfl)
      cases hplace
      rw [hnamed, hplaced]
      cases maker with
      | none => exact nomatch hstems.2.symm.trans hlabel
      | some maker =>
          -- The pod is where its maker is at home, and its label is the maker's name.
          have hmaker : stored = maker.home := hplaced.symm.trans hstems.place
          have hname : maker.home.name = worker.owner.home.name :=
            Option.some.inj (hstems.label.symm.trans hlabel)
          have hsame : stored.namespace = worker.owner.home.namespace :=
            hpicked.resolve_left fun hnone => by simp [hnone] at hns
          exact congr (congrArg ObjectKey.mk hsame) ((congrArg ObjectKey.name hmaker).trans hname)

theorem permittedCall_of_writes {scene : Scene} (h : conduct.Follows worker)
    (hwrites : scene.writes? worker = some (kind, key)) :
    isDependent kind = true ∧ ∃ call : Store.Call kind.Content,
      PermittedCall worker.owner worker.memory call ∧ placeOf call = some key := by
  unfold Scene.writes? at hwrites
  split at hwrites
  · rename_i asked call next hprogram
    have hasks : (rules worker.owner).allows worker.memory (.store asked call) :=
      Interleaving.asks_of_follows h hprogram
    split at hwrites
    · rename_i hboth
      have hkind := (Bool.and_eq_true_iff.mp hboth).1
      obtain ⟨place, hplace, hsame⟩ := Option.map_eq_some_iff.mp hwrites
      cases hsame
      exact ⟨hkind, call, hasks.1 hkind, hplace⟩
    · contradiction
  · contradiction

/-- After every history a pass writes in no place where the object was made by a pass of another
experiment, unless the services of the two can come by the same name. -/
theorem not_trespasses_of_not_collide {start : Inventory} {moves : List Move}
    (hstart : Vacant start)
    (hoffers : ∀ move ∈ moves, move.Offers protocols)
    (hworker : worker ∈ (Scene.run start moves).workers) (hplain : Plain worker.owner.home.name)
    (hns : worker.owner.home.namespace.isSome = true) (hhome : other.home ≠ worker.owner.home)
    (huid : other.uid ≠ worker.owner.uid) (hcollide : ¬ Collide protocols worker.owner other) :
    ¬ Trespasses (Scene.run start moves) worker other := by
  rintro ⟨kind, key, hwrites, hmade⟩
  have hby : ∀ move ∈ moves, move.By fun _ => True := by
    intro move _
    cases move <;> trivial
  have hsound := sound_run hstart hby hoffers
  obtain ⟨hkind, call, hproper, hplace⟩ :=
    permittedCall_of_writes (hsound.follows worker hworker) hwrites
  have hmine :=
    inPlace_of_permittedCall (hsound.knows worker hworker) hkind hproper hplain hns hplace
  exact hcollide (collide_of_inPlace hmine (hsound.holds.made kind key other hmade) hhome huid)

end Writes

def ratsVnc : Experiment :=
  { metadata := labMetadata "rats-vnc"
    content := { spec := { template := "wheel", clusterName := "attic" } } }

/-- Two clusters with an address each, and two templates, the first one with the given protocol. -/
def street (protocol : String) : Rehearsal.World :=
  let world : Rehearsal.World := { now := .epoch }
  let world := (world.insert .cluster
    { metadata := labMetadata "cellar", content := { spec := { publicIPs := ["10.0.0.1"] } } }).2
  let world := (world.insert .cluster
    { metadata := labMetadata "attic", content := { spec := { publicIPs := ["10.0.0.2"] } } }).2
  let world := (world.insert .template
    { metadata := labMetadata "maze"
      content :=
        { podTemplate := { image := "maze:1" }, ingressProtocol := protocol
          ingressPort := 22 } }).2
  (world.insert .template
    { metadata := labMetadata "wheel"
      content :=
        { podTemplate := { image := "wheel:1" }, ingressProtocol := "SSH"
          ingressPort := 22 } }).2

/-- Everything but what passes make is as in the street. -/
def elsewhere (protocol : String) (effect : Effect) : effect.Reply :=
  (Rehearsal.World.answer effect (street protocol)).1

/-- A pass has made volume, claim and service of one experiment, and a pass over the other one has
come as far as its service. -/
def sideBySide (protocol : String) : List Move :=
  [.pass {} labExperiment] ++ turns (elsewhere protocol) 0 15 ++ [.pass {} ratsVnc] ++
    turns (elsewhere protocol) 1 14

theorem supported_of_answer {world : Rehearsal.World} (hfaults : world.faults = [])
    (hsupported : ∀ entry ∈ world.inventory.templates.objects.entries,
      entry.2.content.protocol?.isSome = true)
    {ns : Option String} {name : String} {template : Template}
    (h : (Rehearsal.World.answer (.store .template (.get ns name)) world).1 = .ok template) :
    template.content.protocol?.isSome = true := by
  rw [Rehearsals.answer_store hfaults] at h
  change world.inventory.templates.fetch ⟨ns, name⟩ = .ok template at h
  have hentry : (⟨ns, name⟩, template) ∈ world.inventory.templates.objects.entries :=
    get?_eq_some_iff.mp (fetch_ok.mp h)
  exact hsupported (⟨ns, name⟩, template) hentry

theorem not_trespasses_of_sideBySide :
    ∃ worker ∈ (Scene.run {} (sideBySide "VNC")).workers,
      (Scene.run {} (sideBySide "VNC")).writes? worker =
          some (.service, ⟨some "lab", "rats-vnc-ssh-service"⟩) ∧
        ¬ Trespasses (Scene.run {} (sideBySide "VNC")) worker (ownerOf labExperiment) := by
  have hwrites : ((Scene.run {} (sideBySide "VNC")).workers[1]?).map (fun worker =>
      (worker.owner, (Scene.run {} (sideBySide "VNC")).writes? worker)) =
        some (ownerOf ratsVnc, some (.service, ⟨some "lab", "rats-vnc-ssh-service"⟩)) := by
    decide +kernel
  have hfaults : (street "VNC").faults = [] := by
    decide +kernel
  have hsupported : ∀ entry ∈ (street "VNC").inventory.templates.objects.entries,
      entry.2.content.protocol?.isSome = true := by
    decide +kernel
  have hanswers : ∀ ns name template,
      elsewhere "VNC" (.store .template (.get ns name)) = .ok template →
        '-' ∉ template.content.protocolName.toList :=
    fun ns name template hfound =>
      dashless_of_supported (supported_of_answer hfaults hsupported hfound)
  have hoffers : ∀ move ∈ sideBySide "VNC", move.Offers fun protocol => '-' ∉ protocol.toList := by
    refine List.forall_mem_append.mpr ⟨List.forall_mem_append.mpr
      ⟨List.forall_mem_append.mpr ⟨?_, offers_turns hanswers 0 15⟩, ?_⟩, offers_turns hanswers 1 14⟩
    · exact List.forall_mem_singleton.mpr trivial
    · exact List.forall_mem_singleton.mpr trivial
  obtain ⟨worker, hindex, hworker⟩ := Option.map_eq_some_iff.mp hwrites
  obtain ⟨howner, hwrites⟩ := Prod.mk.inj hworker
  have hmem := List.mem_of_getElem? hindex
  refine ⟨worker, hmem, hwrites,
    not_trespasses_of_not_collide vacant_default hoffers hmem ?_ ?_ ?_ ?_ ?_⟩
  all_goals rw [howner]
  · decide
  · decide
  · decide
  · decide
  · exact not_collide_of_dashless (fun _ hdashless => hdashless) (by decide)

/-- With a dash in its protocol the first experiment's service gets the name of the other one's. The
pass over the other experiment takes it for its own, and is about to point it elsewhere. -/
theorem trespasses_of_colliding_services :
    ∃ worker ∈ (Scene.run {} (sideBySide "VNC-SSH")).workers, ∃ other : Owner,
      Plain worker.owner.home.name ∧ Plain other.home.name ∧
        worker.owner.home.namespace.isSome = true ∧ other.home.namespace.isSome = true ∧
          other.home ≠ worker.owner.home ∧ other.uid ≠ worker.owner.uid ∧
            Trespasses (Scene.run {} (sideBySide "VNC-SSH")) worker other := by
  have hwrites : ((Scene.run {} (sideBySide "VNC-SSH")).workers[1]?).map (fun worker =>
      (worker.owner, (Scene.run {} (sideBySide "VNC-SSH")).writes? worker)) =
        some (ownerOf ratsVnc, some (.service, ⟨some "lab", "rats-vnc-ssh-service"⟩)) := by
    decide +kernel
  have hmade : (Scene.run {} (sideBySide "VNC-SSH")).makers .service
      ⟨some "lab", "rats-vnc-ssh-service"⟩ = some (ownerOf labExperiment) := by
    decide +kernel
  obtain ⟨worker, hindex, hworker⟩ := Option.map_eq_some_iff.mp hwrites
  obtain ⟨howner, hwrites⟩ := Prod.mk.inj hworker
  refine ⟨worker, List.mem_of_getElem? hindex, ownerOf labExperiment, ?_, by decide, ?_, by decide,
    ?_, ?_,
    _, _, hwrites, hmade⟩
  all_goals
    rw [howner]
    decide

end Fleet.Proofs.Ownership
