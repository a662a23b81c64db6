import Fleet.Pass.Basic
import Fleet.Server.Recorder

namespace Fleet.Server

/-- What passes share from one to the next. -/
structure Session where
  now : Instant
  drawn : Nat := 0
  recorder : Recorder
  notices : List LifecycleEvent := []

namespace Session

/-- Answers a pass, unless its event cannot be published. -/
def answer (session : Session) : (effect : Effect) → Exchange (Option (effect.Reply × Session))
  | .store kind call => do return some (← perform kind call, session)
  | .clock => .done (some (session.now, session))
  | .freshId =>
      .done (some (identity (session.drawn + 1), { session with drawn := session.drawn + 1 }))
  | .publish regarding event => do
      let recorder ← session.recorder.publish regarding event session.now
      return recorder.map fun recorder => ((), { session with recorder })
  | .notify event =>
      .done (some ((), { session with notices := session.notices ++ [event] }))

/-- Runs a pass. It breaks off without a result at an event that cannot be published. -/
def run {α : Type} : Pass α → Session → Exchange (Option α × Session)
  | .done result, session => .done (some result, session)
  | .ask effect next, session => do
      match ← session.answer effect with
      | some (reply, session) => run (next reply) session
      | none => return (none, session)

end Session

end Fleet.Server
