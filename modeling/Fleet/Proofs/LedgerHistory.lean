import Fleet.Proofs.Ledgers
import Fleet.Proofs.Occurrences
import Mathlib.Data.List.Nodup

namespace Fleet.Proofs.LedgerHistory

open Fleet.Proofs.Ledgers
open Fleet.Proofs.Occurrences

variable {T : Type} [DecidableEq T]

inductive Recording (T : Type) where
  | upsert (condition : Condition T)
  | set (type : T) (status : ConditionStatus) (reason message : String) (now : Instant)
  | ensure (type : T) (status : ConditionStatus) (reason message : String) (now : Instant)

namespace Recording

def condition : Recording T → Condition T
  | .upsert condition => condition
  | .set type status reason message now => .at_ type status reason message now
  | .ensure type status reason message now => .at_ type status reason message now

def perform (ledger : Ledger T) : Recording T → Ledger T
  | .upsert condition => ledger.upsert condition
  | .set type status reason message now => ledger.set type status reason message now
  | .ensure type status reason message now => ledger.ensure type status reason message now

end Recording

def about (type : T) (written : List (Condition T)) : List (Condition T) :=
  written.filter fun condition => condition.type = type

/-- Whether a recording only ensures what was written for its type the last time. -/
def Recording.isIdle (written : List (Condition T)) : Recording T → Bool
  | .ensure type status reason message _ =>
      match (about type written).getLast? with
      | some last => last.status == status && last.reason == reason && last.message == message
      | none => false
  | _ => false

/-- The conditions that some recordings have written, in their order. -/
def written (recordings : List (Recording T)) : List (Condition T) :=
  recordings.foldl
    (fun written recording =>
      if recording.isIdle written then written else written ++ [recording.condition]) []

variable {writes : List (Condition T)} {ledger : Ledger T}

end Fleet.Proofs.LedgerHistory
