import Fleet.Event
import Fleet.Object.Metadata

namespace Fleet

variable {Spec Status : Type}

/-- The working state of a pass over one object. -/
structure Draft (Spec Status : Type) where
  observed : Object (Managed Spec Status)
  status : Status
  events : List Event := []

/-- What is left to do at the end of a pass. -/
structure StatusChange (Spec Status : Type) where
  events : List Event
  persist : Option (Object (Managed Spec Status))

namespace Draft

/-- Starts a pass over an object; a missing status counts as the default one. -/
def start [Inhabited Status] (observed : Object (Managed Spec Status)) : Draft Spec Status :=
  { observed, status := observed.status.getD default }

def addEvent (draft : Draft Spec Status) (event : Event) : Draft Spec Status :=
  { draft with events := draft.events ++ [event] }

def finish [Inhabited Status] [DecidableEq Status] (draft : Draft Spec Status) :
    StatusChange Spec Status :=
  { events := draft.events
    persist :=
      if draft.observed.status.getD default = draft.status then none
      else some (draft.observed.setStatus draft.status) }

end Draft

end Fleet
