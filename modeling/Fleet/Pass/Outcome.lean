import Fleet.Failure
import Fleet.Time.Delay

namespace Fleet

inductive Requeue where
  /-- Nothing; a change of the object brings the next pass. -/
  | none_
  /-- Another pass as soon as possible. -/
  | soon
  | after (delay : Delay)
  deriving DecidableEq, Repr

inductive Action where
  | awaitChange
  | requeue (delay : Delay)
  deriving DecidableEq, Repr

/-- What the steps of a pass have reported so far. -/
structure Outcome where
  /-- The first failure, with the name of the step that met it. -/
  failure : Option (String × Failure) := none
  soon : Bool := false
  /-- The shortest delay that a step asked for. -/
  delay : Option Delay := none
  deriving DecidableEq, Repr

namespace Outcome

def empty : Outcome := {}

/-- Reports a failure; only the first one is kept. -/
def withFailure (outcome : Outcome) (step : String) (failure : Failure) : Outcome :=
  { outcome with failure := outcome.failure <|> some (step, failure) }

def withSoon (outcome : Outcome) : Outcome := { outcome with soon := true }

def shorter : Option Delay → Option Delay → Option Delay
  | some a, some b => some (a.min b)
  | a, b => a <|> b

/-- Asks for another pass after a delay; the shortest delay counts. -/
def withDelay (outcome : Outcome) (delay : Delay) : Outcome :=
  { outcome with delay := shorter outcome.delay (some delay) }

def withStep (outcome : Outcome) (step : String) : Except Failure Requeue → Outcome
  | .ok .none_ => outcome
  | .ok .soon => outcome.withSoon
  | .ok (.after delay) => outcome.withDelay delay
  | .error failure => outcome.withFailure step failure

def merge (outcome other : Outcome) : Outcome :=
  { failure := outcome.failure <|> other.failure
    soon := outcome.soon || other.soon
    delay := shorter outcome.delay other.delay }

def isOk (outcome : Outcome) : Bool := outcome.failure.isNone

def failedStep (outcome : Outcome) : Option String := outcome.failure.map Prod.fst

/-- The delay until the next pass, where asking for one soon counts as asking for `soon`. -/
def nextDelay (outcome : Outcome) (soon : Delay) : Option Delay :=
  shorter (if outcome.soon then some soon else none) outcome.delay

/-- The decision: the first failure, or else when the next pass is due. -/
def aggregate (outcome : Outcome) (soon : Delay) : Except Failure Action :=
  match outcome.failure with
  | some (_, failure) => .error failure
  | none =>
      match outcome.nextDelay soon with
      | some delay => .ok (.requeue delay)
      | none => .ok .awaitChange

end Outcome

end Fleet
