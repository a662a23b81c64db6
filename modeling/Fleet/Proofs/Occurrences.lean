import Mathlib.Data.List.Induction

namespace Fleet.Proofs.Occurrences

variable {α : Type} [DecidableEq α] {elements kept : List α} {element : α}

end Fleet.Proofs.Occurrences
