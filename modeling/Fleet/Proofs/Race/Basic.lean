import Fleet.Cluster.Controller
import Fleet.Proofs.Heartbeats
import Fleet.Proofs.Interleaving
import Fleet.Store.Memory

/-!
Races for one cluster. Any number of writers work on the same stored cluster: passes of the
controller, and heartbeats being taken in. They take turns after every question they ask, in any
order, while time goes on. Beside the state a scene keeps its history: every write that landed,
with what its writer had heard until then.
-/

namespace Fleet.Proofs.Race

inductive Task where
  /-- One pass of the controller, over the cluster as it fetches it. -/
  | pass (settings : Settings)
  | heartbeat (sent : Heartbeat) (received : Instant)

inductive TaskEnding where
  /-- The cluster could not be fetched, and there was nothing to pass over. -/
  | vanished
  | passed (result : PassResult)
  | answered (reply : Except Failure HeartbeatResponse)

def TaskEnding.isAcknowledged : TaskEnding → Bool
  | .answered (.ok response) => response.ok
  | _ => false

/-- The program of a writer for the cluster stored under a key. -/
def Task.program (key : ObjectKey) : Task → Pass TaskEnding
  | .pass settings => do
      match ← Pass.on .cluster (Store.find key.namespace key.name) with
      | .ok (some cluster) => return .passed (← Cluster.reconcile settings cluster)
      | _ => return .vanished
  | .heartbeat sent received => do
      return .answered (← Pass.on .cluster (sent.ingest received))

/-- How far a writer has come. -/
inductive Position where
  /-- It has not fetched the cluster. -/
  | idle
  /-- It works with a version. -/
  | holding (seen : Cluster)
  /-- The status that it computed from a version was refused, as another writer was faster. -/
  | refused (seen : Cluster) (offered : ClusterStatus)
  /-- It is about to put the refused status on a later version. -/
  | retrying (seen : Cluster) (offered : ClusterStatus) (latest : Cluster)
  /-- Its status is stored. -/
  | landed

namespace Position

/-- The version that a writer works with, if it has got that far. -/
def seen (position : Position) (otherwise : Cluster) : Cluster :=
  match position with
  | .holding seen => seen
  | .refused seen _ => seen
  | .retrying seen _ _ => seen
  | _ => otherwise

/-- Whether the writer is about to repeat a refused write. -/
def isRetry : Position → Bool
  | .retrying .. => true
  | _ => false

def afterCall (position : Position) :
    (call : Store.Call ClusterContent) → call.Reply → Position
  | .get .., .ok found =>
      match position with
      | .idle => .holding found
      | .refused seen offered => .retrying seen offered found
      | _ => position
  | .replace _, .ok written =>
      match position with
      | .holding _ => .holding written
      | _ => position
  | .replaceStatus object, .error failure =>
      match position with
      | .holding seen =>
          if failure.isConflict then .refused seen (object.status.getD default) else position
      | _ => position
  | .replaceStatus _, .ok _ => .landed
  | _, _ => position

end Position

/-- What a writer has heard. -/
structure Notes where
  position : Position := .idle
  clock : Option Instant := none
  drawn : Option String := none

def Notes.hear (notes : Notes) : (effect : Effect) → effect.Reply → Notes
  | .store .cluster call, reply =>
      { notes with position := notes.position.afterCall call reply }
  | .clock, now => { notes with clock := some now }
  | .freshId, identity => { notes with drawn := some identity }
  | _, _ => notes

/-- The status that a writer computes from a version, given what it has heard. -/
def Task.derive (notes : Notes) (seen : Cluster) : Task → Option ClusterStatus
  | .pass settings =>
      notes.clock.bind fun now =>
        (Cluster.judge settings (notes.drawn.getD "") (Cluster.addWarnings (.start seen)) now).map
          fun judgement => judgement.draft.status
  | .heartbeat sent received => (sent.applyTo received seen).status

structure Writer where
  task : Task
  notes : Notes
  program : Pass TaskEnding

def Writer.isDone (writer : Writer) : Bool :=
  match writer.program with
  | .done _ => true
  | .ask .. => false

/-- When the heartbeat was received that a writer has taken in and acknowledged. -/
def Writer.acknowledged? (writer : Writer) : Option Instant :=
  match writer.task, writer.program with
  | .heartbeat _ received, .done ending => if ending.isAcknowledged then some received else none
  | _, _ => none

/-- A write that landed. -/
structure Landing where
  task : Task
  /-- What the writer had heard before. -/
  notes : Notes
  method : Store.Method
  /-- The version that was written over. -/
  found : Cluster
  written : Cluster

namespace Landing

def seen (landing : Landing) : Cluster := landing.notes.position.seen landing.found

def isRetry (landing : Landing) : Bool := landing.notes.position.isRetry

end Landing

/-- The state of a race and its history. -/
structure Scene where
  origin : Cluster
  store : Store ClusterContent
  now : Instant
  writers : List Writer := []
  /-- The writes that landed, the last one first. -/
  landings : List Landing := []

def crew : Interleaving.Crew Scene Writer Effect Effect.Reply TaskEnding where
  workers := Scene.writers
  withWorkers scene writers := { scene with writers }
  program := Writer.program
  resume writer effect reply next :=
    { writer with notes := writer.notes.hear effect reply, program := next }
  workers_withWorkers _ _ := rfl

inductive Move where
  | pass (settings : Settings)
  | heartbeat (sent : Heartbeat)
  | wait (later : Instant)
  /-- A writer takes its turn. If it draws an identity, it draws this one. -/
  | advance (index : Nat) (identity : String)

def newestOf (origin : Cluster) : List Landing → Cluster
  | [] => origin
  | landing :: _ => landing.written

/-- The versions that some landings have left, the last one first. -/
def versionsOf (origin : Cluster) (landings : List Landing) : List Cluster :=
  landings.map Landing.written ++ [origin]

def written? : (effect : Effect) → effect.Reply → Option (Store.Method × Cluster)
  | .store .cluster (.replace _), .ok written => some (.replace, written)
  | .store .cluster (.replaceStatus _), .ok written => some (.replaceStatus, written)
  | _, _ => none

namespace Scene

def opening (store : Store ClusterContent) (origin : Cluster) (now : Instant) : Scene :=
  { origin, store, now }

def key (scene : Scene) : ObjectKey := .ofMetadata scene.origin.metadata

def newest (scene : Scene) : Cluster := newestOf scene.origin scene.landings

def versions (scene : Scene) : List Cluster := versionsOf scene.origin scene.landings

/-- Whether an identity has neither been assigned nor drawn. -/
def isFresh (scene : Scene) (identity : String) : Bool :=
  scene.versions.all (fun version => version.assignedId? != some identity) &&
    scene.writers.all fun writer => writer.notes.drawn != some identity

/-- Answers a writer. Stores of other kinds are not part of the scene, and an identity that is not
fresh cannot be drawn. -/
def reply? (scene : Scene) (identity : String) :
    (effect : Effect) → Option (effect.Reply × Store ClusterContent)
  | .store .cluster call => some (scene.store.answer identity call)
  | .store _ _ => none
  | .clock => some (scene.now, scene.store)
  | .freshId => if scene.isFresh identity then some (identity, scene.store) else none
  | .publish .. => some ((), scene.store)
  | .notify _ => some ((), scene.store)

def enroll (scene : Scene) (task : Task) : Scene :=
  crew.enroll scene { task, notes := {}, program := task.program scene.key }

def record (scene : Scene) (writer : Writer) (store : Store ClusterContent) (effect : Effect)
    (reply : effect.Reply) : Scene :=
  let landing := (written? effect reply).map fun (method, written) =>
    { task := writer.task, notes := writer.notes, method, found := scene.newest, written }
  { scene with store, landings := landing.toList ++ scene.landings }

def answer? (scene : Scene) (identity : String) (writer : Writer) (effect : Effect) :
    Option (effect.Reply × Scene) :=
  (scene.reply? identity effect).map fun (reply, store) =>
    (reply, scene.record writer store effect reply)

def proceed (scene : Scene) (index : Nat) (writer : Writer) (store : Store ClusterContent)
    (effect : Effect) (reply : effect.Reply) (next : Pass TaskEnding) : Scene :=
  crew.goOn scene index writer effect reply next (scene.record writer store effect reply)

def advance (scene : Scene) (index : Nat) (identity : String) : Scene :=
  crew.advance (scene.answer? identity) scene index

/-- Makes a move. Heartbeats of other clusters are not part of the scene, and time does not go
back. -/
def move (scene : Scene) : Move → Scene
  | .pass settings => scene.enroll (.pass settings)
  | .heartbeat sent =>
      if ⟨some sent.cluster.namespace, sent.cluster.name⟩ = scene.key then
        scene.enroll (.heartbeat sent scene.now)
      else scene
  | .wait later => if later.isBefore scene.now then scene else { scene with now := later }
  | .advance index identity => scene.advance index identity

def run (scene : Scene) (moves : List Move) : Scene := moves.foldl move scene

end Scene

/-- A cluster as it was registered. -/
def newcomer : Cluster :=
  { metadata :=
      { name := some "cellar", «namespace» := some "lab", uid := some "uid-cellar",
        resourceVersion := some "1" }
    content := { spec := { publicIPs := ["10.0.0.1"] } } }

def register : Store ClusterContent :=
  (Store.insert { title := Kind.cluster.title } "uid-cellar" newcomer).2

end Fleet.Proofs.Race
