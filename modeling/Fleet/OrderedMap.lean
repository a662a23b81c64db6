/-!
Finite maps kept as lists of entries in strictly increasing key order. The order is part of the
type, so two maps with the same entries are equal, and listing a map visits every key once in
ascending order.
-/

namespace Fleet

open Std

/-- A finite map whose entries are listed in strictly increasing key order. -/
structure OrderedMap (κ ν : Type) [Ord κ] where
  entries : List (κ × ν)
  sorted : entries.Pairwise fun a b => compare a.1 b.1 = .lt

namespace OrderedMap

variable {κ ν : Type} [Ord κ]

@[ext]
theorem ext {a b : OrderedMap κ ν} (h : a.entries = b.entries) : a = b := by
  cases a
  cases b
  cases h
  rfl

instance [DecidableEq κ] [DecidableEq ν] : DecidableEq (OrderedMap κ ν) := fun a b =>
  decidable_of_iff (a.entries = b.entries) ⟨ext, fun h => h ▸ rfl⟩

def empty : OrderedMap κ ν := ⟨[], .nil⟩

instance : Inhabited (OrderedMap κ ν) := ⟨empty⟩

/-- Walks to the place of `key`, replacing what stands there. -/
def insertEntry (key : κ) (value : ν) : List (κ × ν) → List (κ × ν)
  | [] => [(key, value)]
  | entry :: rest =>
      match compare key entry.1 with
      | .lt => (key, value) :: entry :: rest
      | .eq => (key, value) :: rest
      | .gt => entry :: insertEntry key value rest

theorem mem_insertEntry {key : κ} {value : ν} {entries : List (κ × ν)} {entry : κ × ν}
    (h : entry ∈ insertEntry key value entries) : entry = (key, value) ∨ entry ∈ entries := by
  induction entries with
  | nil => exact .inl (by simpa [insertEntry] using h)
  | cons head rest ih =>
      simp only [insertEntry] at h
      split at h
      · exact (List.mem_cons.mp h).imp id id
      · exact (List.mem_cons.mp h).imp id (List.mem_cons_of_mem head)
      · rcases List.mem_cons.mp h with rfl | hrest
        · exact .inr List.mem_cons_self
        · exact (ih hrest).imp id (List.mem_cons_of_mem head)

theorem insertEntry_sorted [TransOrd κ] {key : κ} {value : ν} {entries : List (κ × ν)}
    (h : entries.Pairwise fun a b => compare a.1 b.1 = .lt) :
    (insertEntry key value entries).Pairwise fun a b => compare a.1 b.1 = .lt := by
  induction entries with
  | nil => simp [insertEntry]
  | cons head rest ih =>
      have hhead := (List.pairwise_cons.mp h).1
      have hrest := (List.pairwise_cons.mp h).2
      simp only [insertEntry]
      split
      · rename_i hlt
        refine List.pairwise_cons.mpr ⟨fun entry hentry => ?_, h⟩
        rcases List.mem_cons.mp hentry with rfl | hmem
        · exact hlt
        · exact TransCmp.lt_trans hlt (hhead entry hmem)
      · rename_i heq
        exact List.pairwise_cons.mpr
          ⟨fun entry hentry => TransCmp.lt_of_eq_of_lt heq (hhead entry hentry), hrest⟩
      · rename_i hgt
        refine List.pairwise_cons.mpr ⟨fun entry hentry => ?_, ih hrest⟩
        rcases mem_insertEntry hentry with rfl | hmem
        · exact OrientedCmp.lt_of_gt hgt
        · exact hhead entry hmem

def get? [DecidableEq κ] (map : OrderedMap κ ν) (key : κ) : Option ν :=
  map.entries.lookup key

def contains [DecidableEq κ] (map : OrderedMap κ ν) (key : κ) : Bool :=
  (map.get? key).isSome

/-- Stores `value` under `key`, replacing the value that was there. -/
def insert [TransOrd κ] (map : OrderedMap κ ν) (key : κ) (value : ν) : OrderedMap κ ν :=
  ⟨insertEntry key value map.entries, insertEntry_sorted map.sorted⟩

def erase [DecidableEq κ] (map : OrderedMap κ ν) (key : κ) : OrderedMap κ ν :=
  ⟨map.entries.filter fun entry => !decide (entry.1 = key), map.sorted.filter _⟩

/-- The map holding the listed entries; of two values for one key the later wins. -/
def ofList [TransOrd κ] (entries : List (κ × ν)) : OrderedMap κ ν :=
  entries.foldl (fun map entry => map.insert entry.1 entry.2) empty

def keys (map : OrderedMap κ ν) : List κ := map.entries.map Prod.fst

def values (map : OrderedMap κ ν) : List ν := map.entries.map Prod.snd

def isEmpty (map : OrderedMap κ ν) : Bool := map.entries.isEmpty

end OrderedMap

abbrev TextMap := OrderedMap String String

end Fleet
