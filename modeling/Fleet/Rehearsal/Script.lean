import Fleet.Server.Request

namespace Fleet.Rehearsal

structure Script where
  responses : List Network.Response
  requests : List Server.Request := []

namespace Script

def respond (request : Server.Request) (script : Script) :
    Option Network.Response × Script :=
  (script.responses.head?,
    { responses := script.responses.tail, requests := script.requests ++ [request] })

/-- Runs an exchange; returns its result and the requests it has made. -/
def perform {α : Type} (responses : List Network.Response) (exchange : Server.Exchange α) :
    α × List Server.Request :=
  let (result, script) := exchange.run respond { responses }
  (result, script.requests)

end Script

end Fleet.Rehearsal
