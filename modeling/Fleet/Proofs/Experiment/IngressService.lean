import Fleet.Proofs.Experiment.ConnectionDetails
import Fleet.Proofs.Experiment.Origins
import Fleet.Proofs.PlanUpdates

namespace Fleet.Proofs.Experiment.IngressService

open Fleet.Experiment
open Fleet.Proofs.Convergence
open Fleet.Proofs.Experiment.ConnectionDetails
open Fleet.Proofs.Experiment.Origins
open Fleet.Proofs.Experiment.Plans
open Fleet.Proofs.Experiment.Readiness (labExperiment)
open Fleet.Proofs.Experiment.Steps
open Fleet.Proofs.PlanOutcomes
open Fleet.Proofs.PlanStages
open Fleet.Proofs.PlanUpdates
open Fleet.Proofs.Rehearsals
open Fleet.Proofs.Stores
open Fleet.Rehearsal

variable {experiment : Experiment} {template : Template} {ips : List String}
  {expected actual service stored : Service}

def portNamed? (name : String) (service : Service) : Option ServicePort :=
  (portsOf service).find? fun port => port.name == some name

/-- The service leads where the template says, from the given addresses. A service without a port
under the name of the protocol is not given one. -/
structure Exposes (template : Template) (ips : List String) (service : Service) : Prop where
  type : service.content.spec.bind ServiceSpec.type = some nodePortType
  addresses : externalIPsOf service = ips
  port : ∀ port, portNamed? template.content.protocolName service = some port →
    port.port = template.content.ingressPort ∧
      port.targetPort = some (.number template.content.ingressPort) ∧
        port.protocol = some transport

def wantedPort (template : Template) : ServicePort :=
  { name := some template.content.protocolName
    protocol := some transport
    port := template.content.ingressPort
    targetPort := some (.number template.content.ingressPort) }

theorem samePort_wantedPort (template : Template) (found : ServicePort) :
    (!samePort found (wantedPort template)) = false ↔
      found.port = template.content.ingressPort ∧
        found.targetPort = some (.number template.content.ingressPort) ∧
          found.protocol = some transport := by
  unfold samePort wantedPort
  simp [and_assoc]

theorem head_portsOf_expectedService (experiment : Experiment) (template : Template)
    (ips : List String) :
    (portsOf (expectedService experiment template ips)).head? = some (wantedPort template) := rfl

theorem needsPatch_of_same {wanted : ServicePort} {name : String}
    (hwanted : (portsOf expected).head? = some wanted) (hname : wanted.name = some name)
    (htype : expected.content.spec.bind ServiceSpec.type =
      actual.content.spec.bind ServiceSpec.type)
    (hips : externalIPsOf expected = externalIPsOf actual) :
    needsPatch expected actual =
      (portNamed? name actual).any fun found => !samePort found wanted := by
  have hsame : ¬ (expected.content.spec.bind ServiceSpec.type ≠
      actual.content.spec.bind ServiceSpec.type ∨
        externalIPsOf expected ≠ externalIPsOf actual) := by
    rintro (hdiffers | hdiffers)
    · exact hdiffers htype
    · exact hdiffers hips
  unfold needsPatch portNamed?
  rw [if_neg hsame, hwanted]
  dsimp only
  rw [hname, Option.getD_some]
  cases (portsOf actual).find? fun port => port.name == some name <;> rfl

/-- The test for a patch asks for exactly what the service has to expose. -/
theorem needsPatch_eq_false_iff
    (h : expected.content = (expectedService experiment template ips).content) :
    needsPatch expected actual = false ↔ Exposes template ips actual := by
  rw [needsPatch_congr h rfl]
  by_cases htype : some nodePortType = actual.content.spec.bind ServiceSpec.type
  · by_cases hips : ips = externalIPsOf actual
    · rw [needsPatch_of_same (head_portsOf_expectedService experiment template ips) rfl htype hips]
      cases hport : portNamed? template.content.protocolName actual with
      | none =>
          refine iff_of_true rfl ⟨htype.symm, hips.symm, fun port hsome => ?_⟩
          cases hport.symm.trans hsome
      | some found =>
          refine (samePort_wantedPort template found).trans ⟨fun hleads => ?_, fun hexposes => ?_⟩
          · refine ⟨htype.symm, hips.symm, fun port hsome => ?_⟩
            cases hport.symm.trans hsome
            exact hleads
          · exact hexposes.port found hport
    · rw [needsPatch, if_pos (.inr hips)]
      exact iff_of_false Bool.false_ne_true.symm fun hexposes => hips hexposes.addresses.symm
  · rw [needsPatch, if_pos (.inl htype)]
    exact iff_of_false Bool.false_ne_true.symm fun hexposes => htype hexposes.type.symm

/-- Only the version, the type, the external addresses and the ports under a name differ, and of
those ports neither the name nor the node port. -/
structure SameButIngress (name : String) (before after : Service) : Prop where
  metadata : { after.metadata with resourceVersion := before.metadata.resourceVersion } =
    before.metadata
  selector : selectorIn after = selectorIn before
  clusterIP : after.content.spec.bind ServiceSpec.clusterIP =
    before.content.spec.bind ServiceSpec.clusterIP
  names : (portsOf after).map ServicePort.name = (portsOf before).map ServicePort.name
  nodePorts : (portsOf after).map ServicePort.nodePort =
    (portsOf before).map ServicePort.nodePort
  others : ∀ (index : Nat) (port : ServicePort), (portsOf before)[index]? = some port →
    port.name ≠ some name → (portsOf after)[index]? = some port

theorem sameButIngress_refl (name : String) (service : Service) :
    SameButIngress name service service :=
  ⟨rfl, rfl, rfl, rfl, rfl, fun _ _ hport _ => hport⟩

theorem nodePort_patchPort (wanted port : ServicePort) :
    (patchPort wanted port).nodePort = port.nodePort := by
  unfold patchPort
  split <;> rfl

theorem sameButIngress_patchService {wanted : ServicePort} {name : String}
    (hwanted : (portsOf expected).head? = some wanted) (hname : wanted.name = some name)
    (hmetadata : { stored.metadata with
      resourceVersion := actual.metadata.resourceVersion } = actual.metadata)
    (hcontent : stored.content = (patchService expected actual).content) :
    SameButIngress name actual stored := by
  have hports : portsOf stored = (portsOf actual).map (patchPort wanted) := by
    rw [← portsOf_patchService hwanted actual, portsOf, hcontent, ← portsOf]
  refine ⟨hmetadata, ?_, ?_, ?_, ?_, ?_⟩
  · rw [selectorIn, hcontent]
    exact selectorIn_patchService expected actual
  · rw [hcontent]
    unfold patchService
    cases actual.content.spec <;> rfl
  · rw [hports, List.map_map]
    exact List.map_congr_left fun port _ => name_patchPort wanted port
  · rw [hports, List.map_map]
    exact List.map_congr_left fun port _ => nodePort_patchPort wanted port
  · intro index port hport hother
    have hleft : patchPort wanted port = port := by
      rw [patchPort, hname, if_neg hother]
    rw [hports, List.getElem?_map, hport, Option.map_some, hleft]

section Plan

variable (experiment template ips)

abbrev servicePlan : ResourcePlan ServiceContent :=
  ingressPlan experiment (expectedService experiment template ips)

theorem content_servicePlan :
    (servicePlan experiment template ips).stamped.content =
      (expectedService experiment template ips).content :=
  (content_stamped _).trans (congrArg Object.content (expected_ownedBy ..))

theorem wantsUpdate_servicePlan (actual : Service) :
    wantsUpdate (servicePlan experiment template ips) actual = false ↔
      Exposes template ips actual := by
  have hneeds : (servicePlan experiment template ips).needUpdate = some needsPatch :=
    needUpdate_ownedBy ..
  unfold wantsUpdate
  rw [hneeds]
  exact needsPatch_eq_false_iff (content_servicePlan experiment template ips)

theorem beforeUpdate_servicePlan (actual : Service) :
    ((servicePlan experiment template ips).beforeUpdate
        (servicePlan experiment template ips).stamped actual).1 =
      .ok (patchService (servicePlan experiment template ips).stamped actual) := by
  have hpatches : (servicePlan experiment template ips).preUpdate =
      some fun expected actual => .ok (patchService expected actual) := preUpdate_ownedBy ..
  exact beforeUpdate_of_patch hpatches (fun _ _ => rfl) actual

theorem home_servicePlan {place : ObjectKey} {experiment : Experiment}
    (h : Owns place experiment) (template : Template) (ips : List String) :
    home (servicePlan experiment template ips) =
      servicePlace place template.content.protocolName :=
  (place_eq_home (target_ingressPlan h template ips)).symm.trans (place_ingressPlan h template ips)

variable {experiment template ips} {services after : Store ServiceContent}

theorem retained_of_mended
    (hservice : services.lookup (home (servicePlan experiment template ips)) = some service)
    (h : Mended (servicePlan experiment template ips) service services after) :
    ∃ stored, after.lookup (home (servicePlan experiment template ips)) = some stored ∧
      SameButIngress template.content.protocolName service stored := by
  refine stored_of_mended hservice h (sameButIngress_refl _ service)
    fun object stored hobject htaken => ?_
  cases (beforeUpdate_servicePlan experiment template ips service).symm.trans hobject
  have hwanted : (portsOf (servicePlan experiment template ips).stamped).head? =
      (portsOf (expectedService experiment template ips)).head? := by
    rw [portsOf, content_servicePlan, ← portsOf]
  exact sameButIngress_patchService hwanted rfl (metadata_of_taken htaken rfl) htaken.content

theorem exposed_of_mended {place : ObjectKey} (howns : Owns place experiment)
    (hservice : services.lookup (home (servicePlan experiment template ips)) = some service)
    (hplaced : ObjectKey.ofMetadata service.metadata = home (servicePlan experiment template ips))
    (h : Mended (servicePlan experiment template ips) service services after)
    (hstored : after.lookup (home (servicePlan experiment template ips)) = some stored) :
    Exposes template ips stored := by
  have htarget := target_ingressPlan howns template ips
  obtain ⟨found, hfound, hwants⟩ := satisfied_of_mended (convergent_ingressPlan _ _) trivial
    htarget hservice hplaced h _ htarget
  rw [place_eq_home htarget] at hfound
  cases hfound.symm.trans hstored
  exact (wantsUpdate_servicePlan experiment template ips stored).mp hwants

end Plan

theorem ingressIPs_updateConnection {dependents : Dependents}
    (hingress : dependents.ingress = some service) (hexposes : Exposes template ips service)
    (draft : StatusDraft) (now : Instant) :
    (updateConnection draft dependents now).status.ingressIPs = ips := by
  have hdetails := congrArg Details.ingressIPs (detailsOf_updateConnection draft dependents now)
  refine hdetails.trans ?_
  obtain ⟨spec, hspec, htype⟩ := Option.bind_eq_some_iff.mp hexposes.type
  have hopen : openService? dependents = some spec := by
    simp [openService?, hingress, hspec, htype]
  have hips : spec.externalIPs.getD [] = ips := by
    rw [← hexposes.addresses, externalIPsOf, hspec]
    rfl
  simp only [renew, hopen, Option.map_some, Option.getD_some]
  exact hips

section Step

variable {progress result : Progress} {world after : World} {place : ObjectKey}

/-- What the step for the ingress comes to when it finds a service in its place. One that was given
another name there is left as it is. -/
structure OpensIngress (place : ObjectKey) (service : Service) (progress result : Progress)
    (world after : World) : Prop where
  retains : ∃ stored, after.inventory.services.lookup place = some stored ∧
    SameButIngress progress.dependents.template.content.protocolName service stored
  others : ∀ key, key ≠ place →
    after.inventory.services.lookup key = world.inventory.services.lookup key
  exposes : ObjectKey.ofMetadata service.metadata = place →
    ∃ stored, after.inventory.services.lookup place = some stored ∧
      Exposes progress.dependents.template progress.dependents.cluster.spec.ingressIPs stored
  tells : ObjectKey.ofMetadata service.metadata = place → ∀ draft now,
    (updateConnection draft result.dependents now).status.ingressIPs =
      progress.dependents.cluster.spec.ingressIPs
  again : ∀ next : Progress, next.experiment = progress.experiment →
    next.dependents.cluster = progress.dependents.cluster →
      next.dependents.template = progress.dependents.template →
        Ends (reconcileIngress next) after fun _ final =>
          ∀ kind, Unwritten (after.inventory.store kind) (final.inventory.store kind)

theorem ends_ingress_tended {home : ObjectKey} (hfaults : world.faults = [])
    (hreached : Reached world.inventory.services) (howns : Owns home progress.experiment) :
    Ends (reconcileIngress progress) world fun _ after =>
      Tended (servicePlan progress.experiment progress.dependents.template
          progress.dependents.cluster.spec.ingressIPs)
        world.inventory.services after.inventory.services ∧
      Reached after.inventory.services := by
  exact ends_bind (ends_and (ends_tended hfaults hreached (convergent_ingressPlan _ _)
    (target_ingressPlan howns _ _) fun _ _ => trivial)
      (ends_on_reached .service hfaults hreached _)) fun _ _ htended => htended

theorem ends_ingress_unwritten {home : ObjectKey} (hfaults : world.faults = [])
    (hreached : Reached world.inventory.services) (howns : Owns home progress.experiment)
    (hstored : world.inventory.services.lookup
      (servicePlace home progress.dependents.template.content.protocolName) = some stored)
    (hexposes : ObjectKey.ofMetadata stored.metadata =
        servicePlace home progress.dependents.template.content.protocolName →
      Exposes progress.dependents.template progress.dependents.cluster.spec.ingressIPs stored) :
    Ends (reconcileIngress progress) world fun _ after =>
      ∀ kind, Unwritten (world.inventory.store kind) (after.inventory.store kind) := by
  have hhome := home_servicePlan howns progress.dependents.template
    progress.dependents.cluster.spec.ingressIPs
  refine ends_mono (ends_and (ends_reconcileIngress hfaults)
    (ends_ingress_tended hfaults hreached howns)) ?_
  rintro result after ⟨⟨hattains, -⟩, htended, -⟩ kind
  obtain ⟨state, rfl⟩ := hattains.only
  by_cases hkind : kind = .service
  · subst hkind
    refine unwritten_of_tended htended (hhome.symm ▸ hstored) fun hplaced => ?_
    exact (wantsUpdate_servicePlan _ _ _ stored).mpr (hexposes (hplaced.trans hhome))
  · rw [withStore, Inventory.store_setStore_of_ne _ _ hkind]
    exact unwritten_refl _

/-- Whatever service the step for the ingress finds in its place, it comes to lead where the
template says, and keeps everything else that it has. -/
theorem opensIngress_reconcileIngress {home : ObjectKey} (hfaults : world.faults = [])
    (hreached : Reached world.inventory.services) (howns : Owns home progress.experiment)
    (hservice : world.inventory.services.lookup
      (servicePlace home progress.dependents.template.content.protocolName) = some service) :
    Ends (reconcileIngress progress) world fun result after =>
      OpensIngress
        (servicePlace home progress.dependents.template.content.protocolName) service progress
        result world after := by
  have hhome := home_servicePlan howns progress.dependents.template
    progress.dependents.cluster.spec.ingressIPs
  refine ends_mono (ends_and (ends_reconcileIngress hfaults)
    (ends_ingress_tended hfaults hreached howns)) ?_
  rintro result after ⟨⟨hattains, hgoes⟩, htended, hreached'⟩
  have hmended := htended.mends service (hhome.symm ▸ hservice)
  obtain ⟨stored, hstored, hretains⟩ := retained_of_mended (hhome.symm ▸ hservice) hmended
  have hexposes : ObjectKey.ofMetadata service.metadata =
      servicePlace home progress.dependents.template.content.protocolName →
        Exposes progress.dependents.template progress.dependents.cluster.spec.ingressIPs
          stored := fun hplaced =>
    exposed_of_mended howns (hhome.symm ▸ hservice) (hplaced.trans hhome.symm) hmended hstored
  rw [hhome] at hstored
  have hsame := congrArg ObjectKey.ofMetadata hretains.metadata
  refine ⟨⟨stored, hstored, hretains⟩, fun key hkey => htended.others key (hhome.symm ▸ hkey),
    fun hplaced => ⟨stored, hstored, hexposes hplaced⟩, ?_, ?_⟩
  · intro hplaced draft now
    refine ingressIPs_updateConnection ?_ (hexposes hplaced) draft now
    rw [hgoes.dependents]
    obtain rfl := howns.place
    exact hstored
  · intro next hexperiment hcluster htemplate
    obtain ⟨state, hafter⟩ := hattains.only
    have hnext : after.faults = [] := by
      rw [hafter]
      exact hfaults
    refine ends_ingress_unwritten hnext hreached' (hexperiment.symm ▸ howns)
      (htemplate.symm ▸ hstored) fun hplaced => ?_
    rw [htemplate, hcluster]
    exact hexposes (hsame.symm.trans (hplaced.trans (by rw [htemplate])))

end Step

/-- The yard's cluster has an address, and its template leads to a shell. -/
def yard : Dependents :=
  { overSsh with
    cluster :=
      { overSsh.cluster with content := { spec := { publicIPs := ["10.1.0.1"] } } } }

def opening : Progress := { draft := .start labExperiment, dependents := yard, outcome := .empty }

def gate : ObjectKey := servicePlace ⟨some "lab", "rats"⟩ "ssh"

/-- The service leads elsewhere, and has a port of its own besides. -/
def wicket : Service :=
  { metadata := { name := some "rats-ssh-service", «namespace» := some "lab" }
    content :=
      { spec := some
          { clusterIP := some "10.0.0.7"
            ports := some
              [{ name := some "ssh", port := 2222, nodePort := some 30022 },
                { name := some "web", port := 80 }] } } }

def outside : World := (World.insert { now := .epoch } .service wicket).2

def storedWicket : Service :=
  ((Store.insert { title := Kind.service.title } (identity 1) wicket).1 : Service)

theorem opensIngress_reconcileIngress_in_yard :
    outside.faults = [] ∧ Reached outside.inventory.services ∧
      Owns ⟨some "lab", "rats"⟩ opening.experiment ∧
      outside.inventory.services.lookup gate = some storedWicket ∧
      ObjectKey.ofMetadata storedWicket.metadata = gate ∧
      Ends (reconcileIngress opening) outside fun result after =>
        OpensIngress gate storedWicket opening result outside after := by
  have hreached : Reached outside.inventory.services := .insert _ _ (.empty _)
  have howns : Owns ⟨some "lab", "rats"⟩ opening.experiment := ⟨rfl, rfl, rfl⟩
  have hstored : outside.inventory.services.lookup gate = some storedWicket := by decide
  exact ⟨rfl, hreached, howns, hstored, by decide,
    opensIngress_reconcileIngress rfl hreached howns hstored⟩

/-- The service is renamed in its place. -/
def overgrown : World :=
  (outside.mutate .service gate fun service =>
    { service with metadata := { service.metadata with name := some "hedge" } }).2

/-- A service that goes by another name than it is stored under stays closed. -/
theorem not_nodePort_of_overgrown :
    overgrown.faults = [] ∧ Reached overgrown.inventory.services ∧
      Owns ⟨some "lab", "rats"⟩ opening.experiment ∧
      (overgrown.inventory.services.lookup gate).isSome ∧
      Ends (reconcileIngress opening) overgrown fun _ after =>
        ∀ stored, after.inventory.services.lookup gate = some stored →
          stored.content.spec.bind ServiceSpec.type ≠ some nodePortType := by
  have htype :
      ((overgrown.perform (reconcileIngress opening)).2.inventory.services.lookup gate).bind
        (fun stored => stored.content.spec.bind ServiceSpec.type) = none := by decide
  have hreached : Reached overgrown.inventory.services := by
    rw [overgrown, mutate_snd]
    exact .mutate _ _ (.insert _ _ (.empty _))
  refine ⟨rfl, hreached, ⟨rfl, rfl, rfl⟩, by decide, ?_⟩
  intro stored hstored
  rw [hstored] at htype
  intro hopen
  exact nomatch htype.symm.trans hopen

end Fleet.Proofs.Experiment.IngressService
