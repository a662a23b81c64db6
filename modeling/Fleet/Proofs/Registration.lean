import Fleet.Cluster.MetaCluster
import Fleet.Proofs.Interference
import Fleet.Proofs.Interleaving

/-!
Registering the meta cluster by several operators at once. Each of them looks for the meta cluster,
lists the nodes, and creates it from their addresses, so all of them may find it missing before the
first one creates it. The store accepts one of them, and the others take its refusal for an answer.
-/

namespace Fleet.Proofs.Registration

open Fleet.Proofs.Interference
open Fleet.Proofs.Stores

/-- An operator that registers the meta cluster, and tells whether it has created it. -/
abbrev Operator := Pass (Except Failure Bool)

namespace Operator

def isDone : Operator → Bool
  | .done _ => true
  | .ask .. => false

def tellsCreated : Operator → Bool
  | .done (.ok created) => created
  | _ => false

end Operator

def created? : (call : Store.Call ClusterContent) → call.Reply → Option Cluster
  | .create _, .ok created => some created
  | _, _ => none

/-- Operators at work on the same stores, with the same settings. -/
structure Scene where
  settings : MetaClusterSettings
  clusters : Store ClusterContent
  nodes : Store NodeContent
  operators : List Operator
  /-- What the operators have created, the last one first. -/
  created : List Cluster := []

def crew : Interleaving.Crew Scene Operator Effect Effect.Reply (Except Failure Bool) where
  workers := Scene.operators
  withWorkers scene operators := { scene with operators }
  program operator := operator
  resume _ _ _ next := next
  workers_withWorkers _ _ := rfl

inductive Move where
  /-- An operator takes its turn. If it creates an object, the object gets this identity. -/
  | advance (index : Nat) (uid : String)
  /-- Nodes come and go. -/
  | nodes (intervention : Intervention NodeContent)
  /-- Someone else writes to the clusters. -/
  | clusters (intervention : Intervention ClusterContent)

def Move.isTurnOf (index : Nat) : Move → Bool
  | .advance other _ => other == index
  | _ => false

def home (settings : MetaClusterSettings) : ObjectKey := ⟨some settings.namespace, settings.name⟩

namespace Scene

def opening (settings : MetaClusterSettings) (clusters : Store ClusterContent)
    (nodes : Store NodeContent) (count : Nat) : Scene :=
  { settings, clusters, nodes, operators := List.replicate count (Cluster.ensureMeta settings) }

def registered? (scene : Scene) : Option Cluster := scene.clusters.lookup (home scene.settings)

/-- Answers an operator. Other stores than those of clusters and nodes are not part of the scene. -/
def answer? (scene : Scene) (uid : String) : (effect : Effect) → Option (effect.Reply × Scene)
  | .store .cluster call =>
      let (reply, clusters) := scene.clusters.answer uid call
      let created := (created? call reply).toList ++ scene.created
      some (reply, { scene with clusters, created })
  | .store .node call =>
      let (reply, nodes) := scene.nodes.answer uid call
      some (reply, { scene with nodes })
  | _ => none

def advance (scene : Scene) (index : Nat) (uid : String) : Scene :=
  crew.advance (fun _ effect => scene.answer? uid effect) scene index

/-- Makes a move. Nobody but the operators brings the meta cluster, and nobody takes it away. -/
def move (scene : Scene) : Move → Scene
  | .advance index uid => scene.advance index uid
  | .nodes intervention => { scene with nodes := intervention.apply scene.nodes }
  | .clusters intervention =>
      let after := { scene with clusters := intervention.apply scene.clusters }
      if after.registered?.isSome = scene.registered?.isSome then after else scene

def run (scene : Scene) (moves : List Move) : Scene := moves.foldl move scene

end Scene

def register (settings : MetaClusterSettings) (nodes : List Node) : Operator := do
  match ← Pass.on .cluster (Store.create (Cluster.ofNodeAddresses (.ofNodes nodes) settings)) with
  | .ok _ => return .ok true
  | .error (.alreadyExists ..) => return .ok false
  | .error failure => return .error failure

/-- What an operator does once it has missed the meta cluster. -/
def survey (settings : MetaClusterSettings) : Operator := do
  match ← Pass.on .node (Store.list none none) with
  | .error failure => return .error failure
  | .ok nodes => register settings nodes

/-- How far an operator has come, depending on whether the meta cluster is registered, and how many
turns it takes until it is done. -/
inductive Stage (settings : MetaClusterSettings) (registered : Bool) : Nat → Operator → Prop
  | arriving : Stage settings registered 3 (Cluster.ensureMeta settings)
  | surveying : Stage settings registered 2 (survey settings)
  | registering (nodes : List Node) : Stage settings registered 1 (register settings nodes)
  | finished (created : Bool) (h : registered = true) :
      Stage settings registered 0 (.done (.ok created))

variable {settings : MetaClusterSettings} {registered : Bool} {left : Nat} {operator : Operator}

/-- Nothing that an operator has found out is undone by a registration. -/
theorem stage_mono {later : Bool} (h : Stage settings registered left operator)
    (hlater : registered = true → later = true) : Stage settings later left operator := by
  cases h with
  | arriving => exact .arriving
  | surveying => exact .surveying
  | registering nodes => exact .registering nodes
  | finished created hregistered => exact .finished created (hlater hregistered)

theorem finished_of_isDone (h : Stage settings registered left operator)
    (hdone : operator.isDone = true) :
    registered = true ∧ ∃ created, operator = .done (.ok created) := by
  cases h with
  | arriving => contradiction
  | surveying => contradiction
  | registering nodes => contradiction
  | finished created hregistered => exact ⟨hregistered, created, rfl⟩

theorem tellsCreated_of_stage (h : Stage settings registered left operator) (hleft : 0 < left) :
    operator.tellsCreated = false := by
  cases h with
  | arriving => rfl
  | surveying => rfl
  | registering nodes => rfl
  | finished created h => contradiction

/-- What a turn of an operator can do, if it has some turns left. -/
inductive OperatorTurn (scene : Scene) (index left : Nat) : Scene → Prop
  | resting (hleft : left = 0) : OperatorTurn scene index left scene
  /-- The operator goes on, or finds that there is nothing to do. -/
  | quiet {left' : Nat} {next : Operator} (hleft : left' < left)
      (hstage : Stage scene.settings scene.registered?.isSome left' next)
      (htells : next.tellsCreated = false) :
      OperatorTurn scene index left { scene with operators := scene.operators.set index next }
  /-- The operator creates the meta cluster, which has not been registered. -/
  | created {cluster : Cluster} {clusters : Store ClusterContent} (hleft : 0 < left)
      (habsent : scene.registered? = none)
      (hstored : clusters.lookup (home scene.settings) = some cluster) :
      OperatorTurn scene index left
        { scene with
          clusters
          operators := scene.operators.set index (.done (.ok true))
          created := cluster :: scene.created }

variable {scene : Scene} {index : Nat} {uid : String}

theorem advance_of_ask {effect : Effect} {next : effect.Reply → Operator} {reply : effect.Reply}
    {after : Scene} (hoperator : scene.operators[index]? = some (.ask effect next))
    (hanswer : scene.answer? uid effect = some (reply, after)) :
    scene.advance index uid =
      { after with operators := scene.operators.set index (next reply) } :=
  Interleaving.advance_of_answer hoperator rfl hanswer

theorem answer_get (scene : Scene) (uid : String) :
    scene.answer? uid
        (.store .cluster (.get (some scene.settings.namespace) scene.settings.name)) =
      some (scene.clusters.fetch (home scene.settings), scene) := rfl

theorem answer_list (scene : Scene) (uid : String) :
    scene.answer? uid (.store .node (.list none none)) =
      some (.ok (scene.nodes.select none none), scene) := rfl

theorem turn_of_arriving
    (hoperator : scene.operators[index]? = some (Cluster.ensureMeta scene.settings))
    (uid : String) : OperatorTurn scene index 3 (scene.advance index uid) := by
  rw [advance_of_ask hoperator (answer_get scene uid)]
  cases hlookup : scene.clusters.lookup (home scene.settings) with
  | some cluster =>
      rw [fetch_of_stored hlookup]
      have hregistered : scene.registered?.isSome = true := by
        rw [Scene.registered?, hlookup]
        rfl
      exact .quiet (by decide) (.finished false hregistered) rfl
  | none =>
      rw [fetch_of_missing hlookup]
      exact .quiet (by decide) .surveying rfl

theorem turn_of_surveying (hoperator : scene.operators[index]? = some (survey scene.settings))
    (uid : String) : OperatorTurn scene index 2 (scene.advance index uid) := by
  rw [advance_of_ask hoperator (answer_list scene uid)]
  exact .quiet (by decide) (.registering _) rfl

theorem answer_create (scene : Scene) (uid : String) (object : Cluster) :
    scene.answer? uid (.store .cluster (.create object)) =
      some ((scene.clusters.add uid object).1,
        { scene with
          clusters := (scene.clusters.add uid object).2
          created :=
            (created? (.create object) (scene.clusters.add uid object).1).toList ++
              scene.created }) := rfl

/-- The store accepts the meta cluster exactly if it is not registered. -/
theorem turn_of_registering {nodes : List Node}
    (hoperator : scene.operators[index]? = some (register scene.settings nodes)) (uid : String) :
    OperatorTurn scene index 1 (scene.advance index uid) := by
  let object := Cluster.ofNodeAddresses (.ofNodes nodes) scene.settings
  rw [advance_of_ask hoperator (answer_create scene uid object)]
  cases hregistered : scene.registered? with
  | some cluster =>
      -- Another operator was faster, and the refusal of the store says so.
      have hlookup : scene.clusters.lookup (.ofMetadata object.metadata) = some cluster :=
        hregistered
      rw [add_of_taken uid hlookup]
      exact .quiet (by decide) (.finished false (hregistered ▸ rfl)) rfl
  | none =>
      have hlookup : scene.clusters.lookup (.ofMetadata object.metadata) = none := hregistered
      rw [add_of_free uid hlookup]
      exact .created (by decide) hregistered (lookup_put_self _ _ _)

theorem turn_of_stage (hoperator : scene.operators[index]? = some operator)
    (hstage : Stage scene.settings scene.registered?.isSome left operator) (uid : String) :
    OperatorTurn scene index left (scene.advance index uid) := by
  cases hstage with
  | arriving => exact turn_of_arriving hoperator uid
  | surveying => exact turn_of_surveying hoperator uid
  | registering nodes => exact turn_of_registering hoperator uid
  | finished created hregistered =>
      have hrests : scene.advance index uid = scene := Interleaving.advance_of_done hoperator rfl
      rw [hrests]
      exact .resting rfl

theorem registered_of_turn {after : Scene} (hturn : OperatorTurn scene index left after)
    {cluster : Cluster}
    (h : scene.registered? = some cluster) : after.registered? = some cluster := by
  cases hturn with
  | resting hleft => exact h
  | quiet hleft hstage htells => exact h
  | created hleft habsent hstored => exact nomatch habsent.symm.trans h

/-- What holds in every scene that has come about from another one. `patience` bounds the turns that
each operator still takes. -/
structure RegistrationInvariant (start : Scene) (patience : Nat → Nat) (scene : Scene) : Prop where
  staffed : scene.operators.length = start.operators.length
  staged : ∀ index operator, scene.operators[index]? = some operator →
    ∃ left ≤ patience index, Stage scene.settings scene.registered?.isSome left operator
  tally : scene.operators.countP Operator.tellsCreated = scene.created.length
  balance : scene.created.length + start.registered?.isSome.toNat =
    scene.registered?.isSome.toNat

/-- The patience with an operator after a move, which may be one of its turns. -/
def spend (patience : Nat → Nat) (move : Move) (index : Nat) : Nat :=
  patience index - (move.isTurnOf index).toNat

variable {start after : Scene} {patience : Nat → Nat} {other : Nat}

theorem spend_self (patience : Nat → Nat) (index : Nat) (uid : String) :
    spend patience (.advance index uid) index = patience index - 1 := by
  simp [spend, Move.isTurnOf]

theorem spend_of_ne (h : other ≠ index) (patience : Nat → Nat) (uid : String) :
    spend patience (.advance index uid) other = patience other := by
  have hother : (Move.advance index uid).isTurnOf other = false := beq_false_of_ne (Ne.symm h)
  rw [spend, hother]
  rfl

theorem foldl_spend (patience : Nat → Nat) (moves : List Move) (index : Nat) :
    moves.foldl spend patience index =
      patience index - moves.countP (Move.isTurnOf index) := by
  induction moves generalizing patience with
  | nil => rfl
  | cons move rest ih =>
      rw [List.foldl_cons, ih, spend, List.countP_cons]
      cases move.isTurnOf index with
      | false => rfl
      | true =>
          rw [Bool.toNat_true, if_pos rfl]
          omega

theorem registrationInvariant_opening (settings : MetaClusterSettings)
    (clusters : Store ClusterContent)
    (nodes : Store NodeContent) (count : Nat) :
    RegistrationInvariant (.opening settings clusters nodes count) (fun _ => 3)
      (.opening settings clusters nodes count) := by
  refine ⟨rfl, fun index operator hoperator => ?_, ?_, Nat.zero_add _⟩
  · have hmem : operator ∈ List.replicate count (Cluster.ensureMeta settings) :=
      List.mem_of_getElem? hoperator
    rw [List.eq_of_mem_replicate hmem]
    exact ⟨3, Nat.le_refl 3, .arriving⟩
  · change List.countP _ (List.replicate count (Cluster.ensureMeta settings)) = 0
    rw [List.countP_replicate]
    rfl

theorem countP_set_of_unsure (hoperator : scene.operators[index]? = some operator)
    (hunsure : operator.tellsCreated = false) (next : Operator) :
    (scene.operators.set index next).countP Operator.tellsCreated =
      scene.operators.countP Operator.tellsCreated + next.tellsCreated.toNat := by
  obtain ⟨hindex, hget⟩ := List.getElem?_eq_some_iff.mp hoperator
  rw [List.countP_set hindex, hget, hunsure]
  cases next.tellsCreated <;> rfl

theorem staged_set {registered later : Bool} {operators : List Operator} {next : Operator}
    {left : Nat}
    (h : ∀ other operator, operators[other]? = some operator →
      ∃ left ≤ patience other, Stage settings registered left operator)
    (hlater : registered = true → later = true) (hleft : left ≤ patience index - 1)
    (hnext : Stage settings later left next) (uid : String) :
    ∀ other operator, (operators.set index next)[other]? = some operator →
      ∃ left ≤ spend patience (.advance index uid) other, Stage settings later left operator := by
  intro other operator hoperator
  by_cases hsame : other = index
  · subst hsame
    rw [List.getElem?_set] at hoperator
    simp only [if_true] at hoperator
    split at hoperator
    · cases hoperator
      rw [spend_self]
      exact ⟨left, hleft, hnext⟩
    · contradiction
  · rw [List.getElem?_set_ne (Ne.symm hsame)] at hoperator
    obtain ⟨left, hbound, hstage⟩ := h other operator hoperator
    rw [spend_of_ne hsame]
    exact ⟨left, hbound, stage_mono hstage hlater⟩

theorem registrationInvariant_of_resting (h : RegistrationInvariant start patience scene)
    (hrests : ∀ operator, scene.operators[index]? = some operator →
      Stage scene.settings scene.registered?.isSome 0 operator) (uid : String) :
    RegistrationInvariant start (spend patience (.advance index uid)) scene := by
  refine ⟨h.staffed, fun other operator hoperator => ?_, h.tally, h.balance⟩
  by_cases hsame : other = index
  · subst hsame
    exact ⟨0, Nat.zero_le _, hrests operator hoperator⟩
  · rw [spend_of_ne hsame]
    exact h.staged other operator hoperator

theorem registrationInvariant_of_turn (h : RegistrationInvariant start patience scene)
    (hoperator : scene.operators[index]? = some operator)
    (hstage : Stage scene.settings scene.registered?.isSome left operator)
    (hpatience : left ≤ patience index) (hturn : OperatorTurn scene index left after)
    (uid : String) :
    RegistrationInvariant start (spend patience (.advance index uid)) after := by
  have hcount := countP_set_of_unsure hoperator
  cases hturn with
  | resting hleft =>
      subst hleft
      refine registrationInvariant_of_resting h (fun other hother => ?_) uid
      cases hoperator.symm.trans hother
      exact hstage
  | @quiet left' next hleft hnext htells =>
      have hunsure := tellsCreated_of_stage hstage (Nat.zero_lt_of_lt hleft)
      refine ⟨(List.length_set ..).trans h.staffed,
        staged_set h.staged id (by omega) hnext uid, ?_, h.balance⟩
      rw [hcount hunsure, htells]
      exact h.tally
  | @created cluster clusters hleft habsent hstored =>
      have hunsure := tellsCreated_of_stage hstage hleft
      have hlater : ({ scene with clusters } : Scene).registered?.isSome = true := by
        rw [Scene.registered?, hstored]
        rfl
      refine ⟨(List.length_set ..).trans h.staffed,
        staged_set h.staged (fun _ => hlater) (Nat.zero_le _) (.finished true hlater) uid, ?_, ?_⟩
      · rw [hcount hunsure, h.tally]
        rfl
      · have hbalance := h.balance
        rw [habsent] at hbalance
        have hnow : (clusters.lookup (home scene.settings)).isSome.toNat = 1 := by
          rw [hstored]
          rfl
        change _ + 1 + _ = (clusters.lookup (home scene.settings)).isSome.toNat
        simp only [Option.isSome_none, Bool.toNat_false] at hbalance
        omega

theorem registrationInvariant_advance (h : RegistrationInvariant start patience scene) (index : Nat)
    (uid : String) :
    RegistrationInvariant start (spend patience (.advance index uid))
      (scene.advance index uid) := by
  cases hoperator : scene.operators[index]? with
  | none =>
      have hrests : scene.advance index uid = scene := Interleaving.advance_of_none hoperator
      rw [hrests]
      exact registrationInvariant_of_resting h
        (fun operator hsome => nomatch hoperator.symm.trans hsome) uid
  | some operator =>
      obtain ⟨left, hpatience, hstage⟩ := h.staged index operator hoperator
      exact registrationInvariant_of_turn h hoperator hstage hpatience
        (turn_of_stage hoperator hstage uid) uid

theorem registrationInvariant_move (h : RegistrationInvariant start patience scene) (move : Move) :
    RegistrationInvariant start (spend patience move) (scene.move move) := by
  cases move with
  | advance index uid => exact registrationInvariant_advance h index uid
  | nodes intervention => exact ⟨h.staffed, h.staged, h.tally, h.balance⟩
  | clusters intervention =>
      change RegistrationInvariant start patience (if _ then _ else _)
      split
      · rename_i hsame
        refine ⟨h.staffed, ?_, h.tally, ?_⟩
        · rw [hsame]
          exact h.staged
        · rw [hsame]
          exact h.balance
      · exact h

theorem registrationInvariant_run (h : RegistrationInvariant start patience scene)
    (moves : List Move) :
    RegistrationInvariant start (moves.foldl spend patience) (scene.run moves) := by
  refine Interleaving.run_induction
    (motive := fun made => RegistrationInvariant start (made.foldl spend patience)) h
    fun made move _ hreached => ?_
  rw [List.foldl_append]
  exact registrationInvariant_move hreached move

theorem registered_advance (h : RegistrationInvariant start patience scene) {cluster : Cluster}
    (hregistered : scene.registered? = some cluster) (index : Nat) (uid : String) :
    (scene.advance index uid).registered? = some cluster := by
  cases hoperator : scene.operators[index]? with
  | none =>
      have hrests : scene.advance index uid = scene := Interleaving.advance_of_none hoperator
      rw [hrests]
      exact hregistered
  | some operator =>
      obtain ⟨left, -, hstage⟩ := h.staged index operator hoperator
      exact registered_of_turn (turn_of_stage hoperator hstage uid) hregistered

/-- How a registration by several operators turns out. -/
structure RegisteredOnce (start : Scene) (moves : List Move) : Prop where
  succeeds : ∀ operator ∈ (start.run moves).operators, ∀ failure, operator ≠ .done (.error failure)
  /-- Three turns are enough for an operator. -/
  ends : ∀ index < start.operators.length, 3 ≤ moves.countP (Move.isTurnOf index) →
    ∃ created, (start.run moves).operators[index]? = some (.done (.ok created))
  /-- Once all operators are done, one of them has created the meta cluster and tells so, unless it
  was registered before. -/
  once : start.operators ≠ [] →
    (∀ operator ∈ (start.run moves).operators, operator.isDone = true) →
      (start.run moves).created.length = (if start.registered?.isSome then 0 else 1) ∧
        (start.run moves).operators.countP Operator.tellsCreated =
          (if start.registered?.isSome then 0 else 1)
  untouched : ∀ cluster, (start.run moves).registered? = some cluster → ∀ index uid,
    ((start.run moves).advance index uid).registered? = some cluster

theorem created_of_done (h : RegistrationInvariant start patience scene)
    (hstaffed : start.operators ≠ [])
    (hdone : ∀ operator ∈ scene.operators, operator.isDone = true) :
    scene.created.length = if start.registered?.isSome then 0 else 1 := by
  have hsome : 0 < scene.operators.length := h.staffed ▸ List.length_pos_iff.mpr hstaffed
  obtain ⟨left, -, hstage⟩ := h.staged 0 _ (List.getElem?_eq_getElem hsome)
  obtain ⟨hregistered, -⟩ := finished_of_isDone hstage (hdone _ (List.getElem_mem hsome))
  have hbalance := h.balance
  rw [hregistered] at hbalance
  cases hbefore : start.registered?.isSome <;> rw [hbefore] at hbalance
  · exact hbalance
  · exact Nat.succ.inj hbalance

/-- Operators that register the meta cluster at once, in whatever order they take their turns and
whatever becomes of the nodes meanwhile, agree on one of them, unless it was registered before. -/
theorem registeredOnce_opening (settings : MetaClusterSettings) (clusters : Store ClusterContent)
    (nodes : Store NodeContent) (count : Nat) (moves : List Move) :
    RegisteredOnce (.opening settings clusters nodes count) moves := by
  have horderly :=
    registrationInvariant_run (registrationInvariant_opening settings clusters nodes count) moves
  refine ⟨?_, fun index hindex hturns => ?_, fun hstaffed hdone => ?_, ?_⟩
  · rintro operator hoperator failure rfl
    obtain ⟨index, hindex⟩ := List.getElem?_of_mem hoperator
    obtain ⟨left, -, hstage⟩ := horderly.staged index _ hindex
    obtain ⟨-, created, hcreated⟩ := finished_of_isDone hstage rfl
    contradiction
  · rw [← horderly.staffed] at hindex
    obtain ⟨operator, hoperator⟩ : ∃ operator, _ = some operator :=
      ⟨_, List.getElem?_eq_getElem hindex⟩
    obtain ⟨left, hleft, hstage⟩ := horderly.staged index operator hoperator
    rw [foldl_spend, Nat.sub_eq_zero_of_le hturns, Nat.le_zero] at hleft
    subst hleft
    rw [hoperator]
    cases hstage with
    | finished created hregistered => exact ⟨created, rfl⟩
  · have hcreated := created_of_done horderly hstaffed hdone
    exact ⟨hcreated, horderly.tally.trans hcreated⟩
  · exact fun cluster hregistered index uid => registered_advance horderly hregistered index uid

/-- Three operators all miss the meta cluster, and know different nodes when they create it. -/
def deadHeat : List Move :=
  [.advance 0 "", .advance 1 "", .advance 2 "", .advance 1 "",
    .nodes (.insert "uid-node" { metadata := { name := some "rack" }, content := {} }),
    .advance 0 "", .advance 2 "", .advance 2 "uid-2", .advance 0 "uid-0", .advance 1 "uid-1"]

theorem registeredOnce_opening_of_deadHeat :
    let start := Scene.opening {} { title := Kind.cluster.title } { title := Kind.node.title } 3
    (start.run deadHeat).operators.all Operator.isDone = true ∧
      (start.run deadHeat).operators.map Operator.tellsCreated = [false, false, true] ∧
      (start.run deadHeat).created.map (·.metadata.uid) = [some "uid-2"] ∧
      RegisteredOnce start deadHeat :=
  ⟨by decide, by decide, by decide, registeredOnce_opening ..⟩

end Fleet.Proofs.Registration
