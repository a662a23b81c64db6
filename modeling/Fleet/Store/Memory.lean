import Fleet.Object.Selector
import Fleet.Store.Call

/-!
Stores in memory. A store assigns identities and versions: every write takes the next number of a
counter as the object's new version, so no version is given twice, and a replacement that carries
an outdated version is refused. Successful writes and refused ones are counted.
-/

namespace Fleet

/-- Where an object is stored. Objects without a namespace come first. -/
structure ObjectKey where
  «namespace» : Option String
  name : String
  deriving DecidableEq, Repr

namespace ObjectKey

instance : Ord ObjectKey :=
  ⟨compareLex (compareOn ObjectKey.namespace) (compareOn ObjectKey.name)⟩

instance : Std.TransOrd ObjectKey :=
  inferInstanceAs <| Std.TransCmp <|
    compareLex (compareOn ObjectKey.namespace) (compareOn ObjectKey.name)

def ofMetadata (metadata : Metadata) : ObjectKey :=
  ⟨metadata.namespace, metadata.displayName⟩

def toText (key : ObjectKey) : String :=
  match key.namespace with
  | some ns => ns ++ "/" ++ key.name
  | none => key.name

end ObjectKey

structure WriteCounts where
  creates : Nat := 0
  replaces : Nat := 0
  statusWrites : Nat := 0
  deletes : Nat := 0
  conflicts : Nat := 0
  deriving DecidableEq, Repr

namespace WriteCounts

def total (counts : WriteCounts) : Nat :=
  counts.creates + counts.replaces + counts.statusWrites + counts.deletes

end WriteCounts

/-- A store of objects. `title` is the name of their kind, which appears in failures. -/
structure Store (C : Type) where
  title : String
  objects : OrderedMap ObjectKey (Object C) := .empty
  version : Nat := 0
  counts : WriteCounts := {}

namespace Store

variable {C : Type}

def versionText (version : Nat) : String := toString version

def lookup (store : Store C) (key : ObjectKey) : Option (Object C) := store.objects.get? key

def put (store : Store C) (key : ObjectKey) (object : Object C) : Store C :=
  { store with objects := store.objects.insert key object, version := store.version + 1 }

/-- The object as its next version. -/
def stamp (store : Store C) (object : Object C) : Object C :=
  let version := some (versionText (store.version + 1))
  { object with metadata := { object.metadata with resourceVersion := version } }

def identify (object : Object C) (uid : Option String) : Object C :=
  { object with metadata := { object.metadata with uid } }

/-- Seeds an object, whatever is stored in its place, without counting a write. It keeps its
identity if it has one. -/
def insert (store : Store C) (uid : String) (object : Object C) : Object C × Store C :=
  let stored := store.stamp (identify object (object.metadata.uid <|> some uid))
  (stored, store.put (.ofMetadata object.metadata) stored)

/-- Changes a stored object as another writer would. The object stays in its place even if the
change renames it. -/
def mutate (store : Store C) (key : ObjectKey) (change : Object C → Object C) :
    Except Failure (Object C) × Store C :=
  match store.lookup key with
  -- Even a change of nothing uses up a version.
  | none => (.error (.notFound store.title key.name), { store with version := store.version + 1 })
  | some object =>
      let changed := store.stamp (change object)
      (.ok changed, store.put key changed)

def fetch (store : Store C) (key : ObjectKey) : Except Failure (Object C) :=
  match store.lookup key with
  | some object => .ok object
  | none => .error (.notFound store.title key.name)

/-- The objects of a namespace, or of all, that a selector picks, in the order of their keys. -/
def select (store : Store C) (ns : Option String) (selector : Option String) :
    List (Object C) :=
  let picked := store.objects.entries.filter fun (key, object) =>
    (ns.isNone || key.namespace == ns) &&
      match selector with
      | some text => (Selector.ofText text).selects object.metadata
      | none => true
  picked.map Prod.snd

def add (store : Store C) (uid : String) (object : Object C) :
    Except Failure (Object C) × Store C :=
  let key := ObjectKey.ofMetadata object.metadata
  match store.lookup key with
  | some _ => (.error (.alreadyExists store.title object.name), store)
  | none =>
      let created := store.stamp (identify object (some uid))
      let counts := { store.counts with creates := store.counts.creates + 1 }
      (.ok created, { store.put key created with counts })

def refuse (store : Store C) : Store C :=
  { store with counts := { store.counts with conflicts := store.counts.conflicts + 1 } }

/-- Replaces the object stored in the same place. The stored identity is kept, and a version that
the new object carries has to be the stored one. -/
def write (store : Store C) (object : Object C) (count : WriteCounts → WriteCounts) :
    Except Failure (Object C) × Store C :=
  let key := ObjectKey.ofMetadata object.metadata
  match store.lookup key with
  | none => (.error (.notFound store.title object.name), store)
  | some stored =>
      if object.metadata.resourceVersion.isSome &&
          object.metadata.resourceVersion != stored.metadata.resourceVersion then
        (.error (.conflict store.title object.name), store.refuse)
      else
        let updated := store.stamp (identify object stored.metadata.uid)
        (.ok updated, { store.put key updated with counts := count store.counts })

def countReplace (counts : WriteCounts) : WriteCounts :=
  { counts with replaces := counts.replaces + 1 }

def countStatusWrite (counts : WriteCounts) : WriteCounts :=
  { counts with statusWrites := counts.statusWrites + 1 }

def meets (metadata : Metadata) : Option Preconditions → Bool
  | none => true
  | some preconditions =>
      (preconditions.uid.isNone || preconditions.uid == metadata.uid) &&
        (preconditions.resourceVersion.isNone ||
          preconditions.resourceVersion == metadata.resourceVersion)

def remove (store : Store C) (key : ObjectKey) (preconditions : Option Preconditions) :
    Except Failure Unit × Store C :=
  match store.lookup key with
  | none => (.error (.notFound store.title key.name), store)
  | some stored =>
      if meets stored.metadata preconditions then
        (.ok (),
          { store with
            objects := store.objects.erase key
            counts := { store.counts with deletes := store.counts.deletes + 1 } })
      else (.error (.conflict store.title key.name), store.refuse)

/-- Whether a call creates an object and so takes an identity. -/
def takesIdentity (store : Store C) : Call C → Bool
  | .create object => (store.lookup (.ofMetadata object.metadata)).isNone
  | _ => false

/-- Answers a call. `uid` is the identity that the call takes if it creates an object. -/
def answer (uid : String) : (call : Call C) → Store C → call.Reply × Store C
  | .get ns name, store => (store.fetch ⟨ns, name⟩, store)
  | .list ns selector, store => (.ok (store.select ns selector), store)
  | .create object, store => store.add uid object
  | .replace object, store => store.write object countReplace
  | .replaceStatus object, store => store.write object countStatusWrite
  | .delete ns name preconditions, store => store.remove ⟨ns, name⟩ preconditions

/-- The stored objects under the names they go by, which are not those of their places if an
object was renamed in place. -/
def snapshot (store : Store C) : OrderedMap String (Object C) :=
  .ofList (store.objects.values.map fun object => (object.key, object))

/-- The names under which two states of a store differ, with what goes by them in the later one. -/
def changes [DecidableEq C] (before after : Store C) : List (String × Option (Object C)) :=
  let old := before.snapshot
  let new := after.snapshot
  let written := new.entries.filter fun (key, object) => decide (old.get? key ≠ some object)
  let removed := old.keys.filter fun key => !new.contains key
  written.map (fun (key, object) => (key, some object)) ++ removed.map (·, none)

end Store

end Fleet
