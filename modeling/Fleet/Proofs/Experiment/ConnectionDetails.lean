import Fleet.Experiment.Connection
import Fleet.Proofs.Experiment.Readiness

namespace Fleet.Proofs.Experiment.ConnectionDetails

open Fleet.Experiment
open Fleet.Proofs.Experiment.Readiness (labExperiment)

/-- What a status tells its reader about how to connect. -/
@[ext]
structure Details where
  ingressIPs : List String
  ingressPort : Option Int32
  protocol : Option String
  vnc : Option VncConfig
  ssh : Option SshConfig
  deriving DecidableEq

def detailsOf (status : ExperimentStatus) : Details :=
  { ingressIPs := status.ingressIPs
    ingressPort := status.ingressPort
    protocol := status.protocol
    vnc := status.vnc
    ssh := status.ssh }

def openService? (dependents : Dependents) : Option ServiceSpec :=
  (dependents.ingress.bind fun service => service.content.spec).filter fun spec =>
    spec.type = some nodePortType

/-- The port to connect to, if the open service leaves no choice. -/
def solePort? (dependents : Dependents) : Option ServicePort :=
  (openService? dependents).bind fun spec =>
    match spec.ports.getD [] with
    | [port] => some port
    | _ => none

/-- Two statuses' details agree on everything that the dependents do not tell. -/
structure AgreeBeyond (dependents : Dependents) (a b : Details) : Prop where
  addresses : openService? dependents = none → a.ingressIPs = b.ingressIPs
  port : solePort? dependents = none → a.ingressPort = b.ingressPort
  vnc : dependents.template.content.protocol? ≠ some .vnc → a.vnc = b.vnc
  ssh : dependents.template.content.protocol? ≠ some .ssh → a.ssh = b.ssh

/-- What the dependents tell takes the place of what was exposed before. -/
def renew (dependents : Dependents) (former : Details) : Details :=
  let template := dependents.template.content
  { ingressIPs :=
      ((openService? dependents).map fun spec => spec.externalIPs.getD []).getD former.ingressIPs
    ingressPort := ((solePort? dependents).map ServicePort.nodePort).getD former.ingressPort
    protocol := some template.protocolName
    vnc := if template.protocol? = some .vnc then template.vnc else former.vnc
    ssh := if template.protocol? = some .ssh then template.ssh else former.ssh }

theorem detailsOf_copyIngress (draft : StatusDraft) (dependents : Dependents) :
    detailsOf (copyIngress draft dependents.ingress).status =
      { detailsOf draft.status with
        ingressIPs := (renew dependents (detailsOf draft.status)).ingressIPs
        ingressPort := (renew dependents (detailsOf draft.status)).ingressPort } := by
  unfold copyIngress renew solePort? openService?
  cases dependents.ingress.bind fun service => service.content.spec with
  | none => rfl
  | some spec =>
      by_cases htype : spec.type = some nodePortType
      · simp only [htype, if_true, Option.filter_some, decide_true]
        -- The port is copied only from a list of exactly one.
        rcases hports : spec.ports.getD [] with _ | ⟨port, _ | ⟨other, rest⟩⟩
        all_goals simp [hports, detailsOf, Draft.addEvent]
      · simp [Option.filter, htype]

theorem detailsOf_copyCredentials (draft : StatusDraft) (dependents : Dependents) :
    detailsOf (copyCredentials draft dependents.template).status =
      { renew dependents (detailsOf draft.status) with
        ingressIPs := (detailsOf draft.status).ingressIPs
        ingressPort := (detailsOf draft.status).ingressPort } := by
  unfold copyCredentials renew
  cases hprotocol : dependents.template.content.protocol? with
  | none => simp [hprotocol, detailsOf, Draft.addEvent]
  | some protocol => cases protocol <;> simp [hprotocol, detailsOf]

theorem detailsOf_deriveReadiness (draft : StatusDraft) (volumeExists : Bool) (now : Instant) :
    detailsOf (deriveReadiness draft volumeExists now).status = detailsOf draft.status := by
  unfold deriveReadiness
  dsimp only
  split <;> split <;> rfl

theorem detailsOf_updateConnection (draft : StatusDraft) (dependents : Dependents)
    (now : Instant) :
    detailsOf (updateConnection draft dependents now).status =
      renew dependents (detailsOf draft.status) := by
  calc detailsOf (updateConnection draft dependents now).status
    _ = detailsOf (copyCredentials (copyIngress draft dependents.ingress)
          dependents.template).status := detailsOf_deriveReadiness _ _ now
    _ = renew dependents (detailsOf draft.status) := by
        rw [detailsOf_copyCredentials, detailsOf_copyIngress]
        rfl

/-- What takes the place of both of two values leaves nothing to tell them apart. -/
theorem getD_eq_getD_iff {α : Type} {told : Option α} {a b : α} :
    told.getD a = told.getD b ↔ (told = none → a = b) := by
  cases told <;> simp

theorem ite_eq_ite_iff {α : Type} {p : Prop} [Decidable p] {told a b : α} :
    (if p then told else a) = (if p then told else b) ↔ (¬ p → a = b) := by
  by_cases h : p <;> simp [h]

/-- After an update two statuses expose the same exactly if they agreed before on everything that
service and template do not tell. -/
theorem details_updateConnection_eq_iff (a b : StatusDraft) (dependents : Dependents)
    (now : Instant) :
    detailsOf (updateConnection a dependents now).status =
        detailsOf (updateConnection b dependents now).status ↔
      AgreeBeyond dependents (detailsOf a.status) (detailsOf b.status) := by
  rw [detailsOf_updateConnection, detailsOf_updateConnection, Details.ext_iff]
  unfold renew
  simp only [getD_eq_getD_iff, ite_eq_ite_iff, Option.map_eq_none_iff, true_and]
  constructor
  · rintro ⟨haddresses, hport, hvnc, hssh⟩
    exact ⟨haddresses, hport, hvnc, hssh⟩
  · rintro ⟨haddresses, hport, hvnc, hssh⟩
    exact ⟨haddresses, hport, hvnc, hssh⟩

def beside (template : TemplateSpec) : Dependents :=
  { cluster :=
      { metadata := { name := some "cellar", «namespace» := some "lab" }
        content := { spec := {} } }
    template :=
      { metadata := { name := some "maze", «namespace» := some "lab" }, content := template }
    pods := [], volume := none, claim := none, ingress := none }

def overVnc : Dependents := beside
  { podTemplate := { image := "maze:1" }, ingressProtocol := "VNC", ingressPort := 5901
    vnc := some { username := "rat", password := "cheese" } }

def overSsh : Dependents := beside
  { podTemplate := { image := "maze:1" }, ingressProtocol := "SSH", ingressPort := 22
    ssh := some { username := "root" } }

/-- The password of the former protocol is still there after the change. -/
theorem details_updateConnection_ne_after_change :
    let before := updateConnection (.start labExperiment) overVnc .epoch
    detailsOf (updateConnection before overSsh .epoch).status ≠
      detailsOf (updateConnection (.start labExperiment) overSsh .epoch).status := by
  decide

end Fleet.Proofs.Experiment.ConnectionDetails
