import Fleet.Text.Quoted

namespace Fleet

/-- A failure reported by the API server, or met on the way to it. -/
inductive ServerFailure where
  | response (status message reason : String) (code : Nat)
  /-- There was no usable answer. -/
  | transport (text : String)
  deriving DecidableEq, Repr

namespace ServerFailure

def message : ServerFailure → String
  | .response status message reason code =>
      "ApiError: " ++ message ++ ": " ++ reason ++ " (ErrorResponse \x7b status: " ++
        Text.quote status ++ ", message: " ++ Text.quote message ++ ", reason: " ++
        Text.quote reason ++ ", code: " ++ toString code ++ " \x7d)"
  | .transport text => text

/-- Whether the server refused the request itself, so that repeating it is pointless. -/
def isRefusal : ServerFailure → Bool
  | .response _ _ _ code => 400 ≤ code && code < 500
  | .transport _ => false

end ServerFailure

/-- A failure of a pass or of one of its steps. -/
inductive Failure where
  /-- A failure of the API server without a more specific meaning. -/
  | server (cause : ServerFailure)
  | notFound (kind name : String)
  /-- A write was based on an outdated version, or a delete precondition did not hold. -/
  | conflict (kind name : String)
  | alreadyExists (kind name : String)
  /-- Settings or inputs that cannot work. -/
  | configuration (context message : String)
  /-- An object that the pass depends on is absent. -/
  | dependencyMissing (kind name : String)
  /-- A value could not be written or read. -/
  | serialization (message : String)
  | internal (context message : String)
  deriving DecidableEq, Repr

namespace Failure

def message : Failure → String
  | .server cause => "kubernetes error: " ++ cause.message
  | .notFound kind name => kind ++ " " ++ name ++ " not found"
  | .conflict kind name => "conflict writing " ++ kind ++ " " ++ name ++ ": object was modified"
  | .alreadyExists kind name => kind ++ " " ++ name ++ " already exists"
  | .configuration context message => "configuration error [" ++ context ++ "]: " ++ message
  | .dependencyMissing kind name => kind ++ " " ++ name ++ " not found"
  | .serialization message => "serialization error: " ++ message
  | .internal context message => "internal error [" ++ context ++ "]: " ++ message

def unknownContext : String := "unknown"

/-- Gives a server's failure on an object its specific meaning. -/
def ofServer (kind name : String) (cause : ServerFailure) : Failure :=
  match cause with
  | .response _ _ reason code =>
      if code == 404 then .notFound kind name
      else if code == 409 && reason == "AlreadyExists" then .alreadyExists kind name
      else if code == 409 then .conflict kind name
      else .server cause
  | .transport _ => .server cause

def isNotFound : Failure → Bool
  | .notFound .. => true
  | _ => false

def isConflict : Failure → Bool
  | .conflict .. => true
  | _ => false

/-- Whether a later attempt may succeed without anyone changing settings or code. -/
def isRetryable : Failure → Bool
  | .server cause => !cause.isRefusal
  | .configuration .. | .serialization _ => false
  | .notFound .. | .conflict .. | .alreadyExists .. | .dependencyMissing .. | .internal .. => true

end Failure

end Fleet
