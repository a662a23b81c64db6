import Fleet.Experiment.Ingress

namespace Fleet.Experiment

/-- Copies addresses and port of the ingress. A service of another type says nothing; one without
exactly one port leaves the port as it was, with a warning. -/
def copyIngress (draft : StatusDraft) (ingress : Option Service) : StatusDraft :=
  match ingress.bind fun service => service.content.spec with
  | none => draft
  | some spec =>
      if spec.type = some nodePortType then
        let status := { draft.status with ingressIPs := spec.externalIPs.getD [] }
        match spec.ports.getD [] with
        | [port] => { draft with status := { status with ingressPort := port.nodePort } }
        | ports =>
            { draft with status }.addEvent
              (.warning Event.noIngressPortFound
                ("got ingress port: " ++ toString ports.length))
      else draft

/-- Copies the protocol and its credentials. Those of the other protocol stay as they were. -/
def copyCredentials (draft : StatusDraft) (template : Template) : StatusDraft :=
  let spec := template.content
  let status := { draft.status with protocol := some spec.protocolName }
  match spec.protocol? with
  | some .vnc => { draft with status := { status with vnc := spec.vnc } }
  | some .ssh => { draft with status := { status with ssh := spec.ssh } }
  | none =>
      { draft with status }.addEvent
        (.warning Event.noIngressConfig
          ("ingress protocol " ++ spec.ingressProtocol ++ " not supported"))

def copyCluster (draft : StatusDraft) : StatusDraft :=
  { draft with
    status :=
      { draft.status with cluster := draft.observed.spec.clusterName, clusterSync := false } }

def deriveReadiness (draft : StatusDraft) (volumeExists : Bool) (now : Instant) : StatusDraft :=
  let status :=
    if volumeExists then ensureCondition .volumeCreated .true_ "" "" now draft.status
    else
      ensureCondition .volumeCreated .false_ "VolumeMissing" "data volume or claim does not exist"
        now draft.status
  let status :=
    if volumeExists && status.conditions.isTrue .podReady then
      ensureCondition .ready .true_ "" "" now status
    else ensureCondition .ready .false_ "NotReady" "" now status
  { draft with status }

def updateConnection (draft : StatusDraft) (dependents : Dependents) (now : Instant) :
    StatusDraft :=
  let draft := copyIngress draft dependents.ingress
  let draft := copyCluster (copyCredentials draft dependents.template)
  deriveReadiness draft (dependents.volume.isSome && dependents.claim.isSome) now

end Fleet.Experiment
