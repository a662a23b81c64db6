import Fleet.Experiment.Progress
import Fleet.Resource.Convergence

namespace Fleet.Experiment

def nodePortType : String := "NodePort"

def transport : String := "TCP"

def expectedService (experiment : Experiment) (template : Template) (externalIPs : List String) :
    Service :=
  let protocol := template.content.protocolName
  let port := template.content.ingressPort
  { metadata :=
      { name := some (serviceName experiment.name protocol)
        «namespace» := experiment.metadata.namespace
        labels := some (dependentLabels experiment) }
    content :=
      { spec := some
          { type := some nodePortType
            externalIPs := some externalIPs
            selector := some (workloadLabels experiment)
            ports := some
              [{ name := some protocol
                 protocol := some transport
                 port
                 targetPort := some (.number port) }] } } }

def portsOf (service : Service) : List ServicePort :=
  (service.content.spec.bind ServiceSpec.ports).getD []

def externalIPsOf (service : Service) : List String :=
  (service.content.spec.bind ServiceSpec.externalIPs).getD []

def samePort (a b : ServicePort) : Bool :=
  a.port == b.port && decide (a.targetPort = b.targetPort) && a.protocol == b.protocol

/-- Whether the actual service lacks the type, the external addresses or the port of the expected
one. Ports under other names are left to whoever added them. -/
def needsPatch (expected actual : Service) : Bool :=
  if expected.content.spec.bind ServiceSpec.type ≠ actual.content.spec.bind ServiceSpec.type ∨
      externalIPsOf expected ≠ externalIPsOf actual then true
  else
    match (portsOf expected).head? with
    | none => false
    | some wanted =>
        match (portsOf actual).find? fun port => port.name == some (wanted.name.getD "") with
        | some found => !samePort found wanted
        | none => false

/-- Points a port to where the wanted one leads, if it has the same name. -/
def patchPort (wanted port : ServicePort) : ServicePort :=
  if port.name = wanted.name then
    { port with
      protocol := wanted.protocol, port := wanted.port, targetPort := wanted.targetPort }
  else port

/-- The actual service with the type, the external addresses and the port of the expected one. -/
def patchService (expected actual : Service) : Service :=
  let spec := actual.content.spec.getD {}
  let ports :=
    match (portsOf expected).head? with
    | some wanted => spec.ports.map fun ports => ports.map (patchPort wanted)
    | none => spec.ports
  { actual with
    content :=
      { spec := some
          { spec with
            type := some nodePortType
            externalIPs := expected.content.spec.bind ServiceSpec.externalIPs
            ports } } }

def ingressPlan (experiment : Experiment) (expected : Service) : ResourcePlan ServiceContent :=
  let plan : ResourcePlan ServiceContent :=
    { title := Kind.service.title
      expected
      needUpdate := some needsPatch
      preUpdate := some fun expected actual => .ok (patchService expected actual) }
  plan.ownedBy .experiment experiment

def ingressEvents (ips : List String) (existed : Bool) :
    Except Failure ResourceAction → List Event
  | .ok .created =>
      [.normal Event.discoverExternalIp ("use external ip: " ++ ",".intercalate ips),
        .normal Event.created "create ingress service"]
  | .ok _ => []
  | .error failure =>
      if existed then []
      else [.warning Event.created ("create ingress service failed: " ++ failure.message)]

def reconcileIngress (progress : Progress) : Pass Progress := do
  let dependents := progress.dependents
  let ips := dependents.cluster.spec.ingressIPs
  let expected := expectedService progress.experiment dependents.template ips
  let plan := ingressPlan progress.experiment expected
  let reconciled ← Pass.on .service plan.reconcile
  let events := ingressEvents ips dependents.ingress.isSome reconciled.outcome
  let progress := events.foldl Progress.addEvent progress
  return { progress with dependents := { dependents with ingress := reconciled.object } }.withStep
    "ingress-service" reconciled.outcome

end Fleet.Experiment
