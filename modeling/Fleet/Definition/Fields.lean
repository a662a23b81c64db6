import Fleet.Cluster.Basic
import Fleet.Definition.Schema
import Fleet.Experiment.Basic

namespace Fleet.Definition

def texts : Schema := .list .text

def condition (T : Type) [Enumeration T] : Schema :=
  .described "Kubernetes-style condition with probe and transition timestamps"
    (.record
      [Field.required "type" "Type of condition" (.enumeration T),
        Field.required "status" "Status of the condition (True, False, Unknown)"
          (.enumeration ConditionStatus),
        Field.defaulted "reason" "Machine-readable reason for the condition" (.string "") .text,
        Field.defaulted "message" "Human-readable message" (.string "") .text,
        Field.required "lastProbeTime" "Last time the condition was observed" .time,
        Field.required "lastTransitionTime" "Last time the condition status changed" .time])

def conditions (T : Type) [Enumeration T] : Field :=
  Field.defaulted "conditions" "Condition ledger" (.array []) (.list (condition T))

def clusterSpec : Schema :=
  .described "Specification for a Cluster"
    (.record
      [Field.defaulted "clusterTimeoutSeconds"
          "Heartbeat timeout override in seconds. Zero means the operator default."
          (.integer 0) .nat64,
        Field.defaulted "publishIPs" "Public IPs advertised by the cluster" (.array []) texts,
        Field.defaulted "privateIPs" "Private IPs advertised by the cluster" (.array []) texts,
        Field.defaulted "enablePrivateIP"
          "Allow private IPs to be used for ingress when no public IP exists" (.bool false)
          .boolean])

def clusterStatus : Schema :=
  .described "Status for a Cluster"
    (.nullable
      (.record
        [Field.defaulted "status" "Current lifecycle phase" (.ofEnumeration ClusterPhase.unknown)
            (.enumeration ClusterPhase),
          Field.absent "clusterId" "Opaque identifier assigned once at first initialization" .text,
          conditions ClusterConditionType]))

def vncConfig : Schema :=
  .record
    [Field.required "username" "Login name" .text,
      Field.required "password" "Login password" .text]

def sshConfig : Schema :=
  .record
    [Field.required "username" "Login name" .text, Field.absent "password" "Login password" .text,
      Field.absent "key" "Private key" .text]

def experimentSpec : Schema :=
  .described "Specification for an Experiment"
    (.record
      [Field.defaulted "pause" "Stop the workload pod while keeping storage and ingress"
          (.bool false) .boolean,
        Field.required "template" "Name of the Template in the same namespace" .text,
        Field.required "clusterName" "Name of the Cluster in the same namespace" .text])

def experimentStatus : Schema :=
  .described "Status for an Experiment"
    (.nullable
      (.record
        [Field.defaulted "status" "Current lifecycle phase" (.ofEnumeration ExperimentPhase.created)
            (.enumeration ExperimentPhase),
          Field.optional "cluster" "Name of the bound Cluster" .text,
          Field.defaulted "clusterSync"
            "Reserved: whether the experiment is mirrored on a remote cluster" (.bool false)
            .boolean,
          conditions ExperimentConditionType,
          Field.optional "ingressIPs" "External IPs of the ingress Service" texts,
          Field.absent "ingressPort" "Node port of the ingress Service" .int32,
          Field.absent "protocol" "Ingress protocol copied from the Template" .text,
          Field.absent "vnc" "VNC credentials copied from the Template" vncConfig,
          Field.absent "ssh" "SSH credentials copied from the Template" sshConfig]))

def podTemplate : Schema :=
  .record
    [Field.required "image" "Container image" .text,
      Field.defaulted "env" "Environment variables" (.object []) (.map .text),
      Field.optional "command" "Container command override" texts]

def templateSpec : Schema :=
  .described "Template data"
    (.record
      [Field.required "podTemplate" "Workload pod settings" podTemplate,
        Field.required "ingressProtocol" "Protocol users connect with (\x60vnc\x60 or \x60ssh\x60)"
          .text,
        Field.required "ingressPort" "Container port serving the ingress protocol" .int32,
        Field.absent "vnc" "VNC credentials when the protocol is VNC" vncConfig,
        Field.absent "ssh" "SSH credentials when the protocol is SSH" sshConfig])

end Fleet.Definition
