import Fleet.Object.Selector
import Fleet.Proofs.Stores

namespace Fleet.Proofs.Selectors

open Fleet.Proofs.Stores

/-- Text that does not count where it stands around a name or a value. -/
structure Blanks where
  text : List Char
  blank : ∀ c ∈ text, Text.isBlank c = true

def noBlanks : Blanks := ⟨[], List.forall_mem_nil _⟩

/-- A text without blanks at its ends. -/
structure Trimmed (text : List Char) : Prop where
  first : ∀ c ∈ text.head?, Text.isBlank c = false
  last : ∀ c ∈ text.getLast?, Text.isBlank c = false

-- By the two characters at the ends; the search could also choose to go through all there are.
instance (text : List Char) : Decidable (Trimmed text) :=
  decidable_of_iff
    ((text.head?.all fun c => !Text.isBlank c) && text.getLast?.all fun c => !Text.isBlank c) <| by
    rw [Bool.and_eq_true, Option.all_eq_true, Option.all_eq_true]
    exact ⟨fun h => ⟨by simpa using h.1, by simpa using h.2⟩,
      fun h => ⟨by simpa using h.first, by simpa using h.last⟩⟩

/-- A label that can be written into a selector. -/
structure Writable (name value : String) : Prop where
  named : name ≠ ""
  trimmedName : Trimmed name.toList
  trimmedValue : Trimmed value.toList
  undividedName : ',' ∉ name.toList
  undividedValue : ',' ∉ value.toList
  unequal : '=' ∉ name.toList

/-- What stands between two commas: a label, or nothing but blanks. -/
inductive Piece where
  | gap (blanks : Blanks)
  | label (name value : String) (before afterName beforeValue after : Blanks)

namespace Piece

def text : Piece → List Char
  | .gap blanks => blanks.text
  | .label name value before afterName beforeValue after =>
      before.text ++ name.toList ++ afterName.text ++
        '=' :: (beforeValue.text ++ value.toList ++ after.text)

def label? : Piece → Option (String × String)
  | .gap _ => none
  | .label name value .. => some (name, value)

end Piece

def written (pieces : List Piece) : String :=
  String.ofList ([','].intercalate (pieces.map Piece.text))

theorem splitAt_eq_splitOn (separator : Char) (text : List Char) :
    Text.splitAt separator text = text.splitOn separator := by
  induction text with
  | nil => rw [List.splitOn_nil, Text.splitAt]
  | cons c rest ih =>
      obtain ⟨piece, pieces, hrest⟩ :=
        List.exists_cons_of_ne_nil (List.splitOn_ne_nil separator rest)
      rw [Text.splitAt, ih, hrest, List.splitOn_eq_splitOnP,
        List.splitOnP_cons_eq_if_modifyHead, ← List.splitOn_eq_splitOnP, hrest]
      simp only [beq_iff_eq, List.modifyHead_cons]

theorem splitOnce_append {separator : Char} {before : List Char}
    (h : ∀ c ∈ before, c ≠ separator) (after : List Char) :
    Text.splitOnce separator (before ++ separator :: after) = some (before, after) := by
  induction before with
  | nil => exact if_pos rfl
  | cons c rest ih =>
      rw [List.cons_append, Text.splitOnce, if_neg (h c List.mem_cons_self),
        ih fun other hother => h other (List.mem_cons_of_mem c hother)]
      rfl

section Trimming

variable {p : Char → Bool} {text before after : List Char}

theorem dropWhile_of_head (h : ∀ c ∈ text.head?, p c = false) : text.dropWhile p = text := by
  cases text with
  | nil => rfl
  | cons c rest => rw [List.dropWhile_cons, h c rfl, if_neg Bool.false_ne_true]

theorem dropTrailing_of_last (h : ∀ c ∈ text.getLast?, p c = false) :
    Text.dropTrailing p text = text := by
  rw [← List.head?_reverse] at h
  rw [Text.dropTrailing, dropWhile_of_head h, List.reverse_reverse]

theorem dropTrailing_append (h : ∀ c ∈ after, p c = true) (text : List Char) :
    Text.dropTrailing p (text ++ after) = Text.dropTrailing p text := by
  rw [Text.dropTrailing, List.reverse_append,
    List.dropWhile_append_of_pos fun c hc => h c (List.mem_reverse.mp hc), Text.dropTrailing]

theorem dropTrailing_append_cons {c : Char} (h : p c = false) (before after : List Char) :
    Text.dropTrailing p (before ++ c :: after) = before ++ c :: Text.dropTrailing p after := by
  have hdrop : (after.reverse ++ c :: before.reverse).dropWhile p =
      after.reverse.dropWhile p ++ c :: before.reverse := by
    rw [List.dropWhile_append, List.dropWhile_cons, h]
    split <;> simp_all
  rw [Text.dropTrailing, List.reverse_append, List.reverse_cons, List.append_assoc,
    List.singleton_append, hdrop]
  simp [Text.dropTrailing]

theorem dropWhile_of_forall (h : ∀ c ∈ text, p c = true) : text.dropWhile p = [] := by
  have hdrop := @List.dropWhile_append_of_pos _ p text [] h
  rwa [List.append_nil] at hdrop

theorem trim_between (htext : Trimmed text) (hbefore : ∀ c ∈ before, Text.isBlank c = true)
    (hafter : ∀ c ∈ after, Text.isBlank c = true) :
    Text.trim (before ++ text ++ after) = text := by
  rw [Text.trim, Text.trimStart, List.append_assoc, List.dropWhile_append_of_pos hbefore]
  cases text with
  | nil =>
      rw [List.nil_append, dropWhile_of_forall hafter]
      rfl
  | cons c rest =>
      have hfirst : (c :: rest ++ after).dropWhile Text.isBlank = c :: rest ++ after :=
        dropWhile_of_head htext.first
      rw [hfirst, dropTrailing_append hafter, dropTrailing_of_last htext.last]

theorem trim_dropTrailing (htext : Trimmed text) (hbefore : ∀ c ∈ before, Text.isBlank c = true)
    (hafter : ∀ c ∈ after, Text.isBlank c = true) :
    Text.trim (Text.dropTrailing Text.isBlank (before ++ text ++ after)) = text := by
  rw [dropTrailing_append hafter]
  cases text with
  | nil =>
      rw [← List.nil_append (before ++ []), dropTrailing_append (by simpa using hbefore)]
      rfl
  | cons c rest =>
      have hlast : ∀ last ∈ (before ++ c :: rest).getLast?, Text.isBlank last = false := by
        simpa using htext.last
      have htrim := trim_between htext hbefore (List.forall_mem_nil _)
      rwa [dropTrailing_of_last hlast, ← List.append_nil (before ++ c :: rest)]

end Trimming

def AllWritable (pieces : List Piece) : Prop :=
  ∀ label ∈ pieces.filterMap Piece.label?, Writable label.1 label.2

def demand (label : String × String) : Requirement := .equals label.1 label.2

theorem trim_gap (blanks : Blanks) : Text.trim (Piece.gap blanks).text = [] := by
  rw [Piece.text, Text.trim, Text.trimStart, dropWhile_of_forall blanks.blank]
  rfl

section Labels

variable {name value : String} {before afterName beforeValue after : Blanks}

theorem trim_label (h : Writable name value) :
    Text.trim (Piece.label name value before afterName beforeValue after).text =
      name.toList ++ afterName.text ++ '=' ::
        Text.dropTrailing Text.isBlank (beforeValue.text ++ value.toList ++ after.text) := by
  have hname : name.toList ≠ [] := by simpa using h.named
  obtain ⟨c, rest, hcons⟩ := List.exists_cons_of_ne_nil hname
  have hfirst : Text.isBlank c = false := h.trimmedName.first c (by rw [hcons]; rfl)
  rw [Piece.text, Text.trim, Text.trimStart, List.append_assoc, List.append_assoc,
    List.dropWhile_append_of_pos before.blank, hcons, List.cons_append, List.dropWhile_cons, hfirst,
    if_neg Bool.false_ne_true, ← List.cons_append, ← List.append_assoc,
    dropTrailing_append_cons (by decide)]

theorem ofChars_label (h : Writable name value) :
    Requirement.ofChars
        (Text.trim (Piece.label name value before afterName beforeValue after).text) =
      demand (name, value) := by
  have hunequal : ∀ c ∈ name.toList ++ afterName.text, c ≠ '=' := by
    intro c hc
    rcases List.mem_append.mp hc with hc | hc
    · rintro rfl
      exact h.unequal hc
    · rintro rfl
      exact absurd (afterName.blank _ hc) (by decide)
  have hname : Text.trim (name.toList ++ afterName.text) = name.toList :=
    trim_between h.trimmedName (List.forall_mem_nil _) afterName.blank
  have hvalue := trim_dropTrailing h.trimmedValue beforeValue.blank after.blank
  rw [trim_label h, Requirement.ofChars, splitOnce_append hunequal]
  simp only [hname, hvalue, String.ofList_toList, demand]

theorem comma_not_mem_label (h : Writable name value) :
    ',' ∉ (Piece.label name value before afterName beforeValue after).text := by
  have hblanks : ∀ blanks : Blanks, ',' ∉ blanks.text :=
    fun blanks hcomma => absurd (blanks.blank _ hcomma) (by decide)
  simp [Piece.text, hblanks, h.undividedName, h.undividedValue]

end Labels

theorem comma_not_mem_text {piece : Piece} (h : ∀ label ∈ piece.label?, Writable label.1 label.2) :
    ',' ∉ piece.text := by
  cases piece with
  | gap blanks => exact fun hcomma => absurd (blanks.blank _ hcomma) (by decide)
  | label name value before afterName beforeValue after => exact comma_not_mem_label (h _ rfl)

theorem map_ofChars_trim {pieces : List Piece} (h : AllWritable pieces) :
    (((pieces.map Piece.text).map Text.trim).filter (!·.isEmpty)).map Requirement.ofChars =
      (pieces.filterMap Piece.label?).map demand := by
  induction pieces with
  | nil => rfl
  | cons piece rest ih =>
      cases piece with
      | gap blanks =>
          rw [List.map_cons, List.map_cons, trim_gap, List.filter_cons_of_neg (by decide)]
          exact ih h
      | label name value before afterName beforeValue after =>
          obtain ⟨hlabel, hrest⟩ := List.forall_mem_cons.mp h
          have hne : (Text.trim (Piece.label name value before afterName beforeValue after).text) ≠
              [] := by
            rw [trim_label hlabel]
            exact List.append_ne_nil_of_right_ne_nil _ (List.cons_ne_nil _ _)
          rw [List.map_cons, List.map_cons, List.filter_cons_of_pos (by simpa using hne),
            List.map_cons, ofChars_label hlabel, ih hrest]
          rfl

/-- Labels that are written down are read as they were meant. -/
theorem ofText_written {pieces : List Piece} (h : AllWritable pieces) :
    Selector.ofText (written pieces) = (pieces.filterMap Piece.label?).map demand := by
  cases pieces with
  | nil => rfl
  | cons piece rest =>
      have hcommas : ∀ text ∈ (piece :: rest).map Piece.text, ',' ∉ text := by
        intro text htext
        obtain ⟨other, hother, rfl⟩ := List.mem_map.mp htext
        exact comma_not_mem_text fun label hlabel =>
          h label (List.mem_filterMap.mpr ⟨other, hother, hlabel⟩)
      rw [Selector.ofText, written, String.toList_ofList, splitAt_eq_splitOn,
        List.splitOn_intercalate ',' hcommas (List.cons_ne_nil _ _), map_ofChars_trim h]

variable {C : Type} {labels : TextMap} {pieces : List Piece}

def HasLabels (object : Object C) (labels : TextMap) : Prop :=
  ∀ name value, labels.get? name = some value → object.metadata.label? name = some value

theorem isMet_demand_iff (metadata : Metadata) (label : String × String) :
    (demand label).isMet (metadata.labels.getD .empty) = true ↔
      metadata.label? label.1 = some label.2 := by
  unfold demand Requirement.isMet Metadata.label?
  cases metadata.labels <;> simp [OrderedMap.get?, OrderedMap.empty]

theorem selects_written_iff (hproper : AllWritable pieces)
    (hlabels : (pieces.filterMap Piece.label?).Perm labels.entries) (object : Object C) :
    (Selector.ofText (written pieces)).selects object.metadata = true ↔
      HasLabels object labels := by
  rw [ofText_written hproper, Selector.selects, List.all_map, List.all_eq_true]
  constructor
  · intro h name value hget
    exact (isMet_demand_iff _ _).mp (h _ (hlabels.mem_iff.mpr (get?_eq_some_iff.mp hget)))
  · intro h label hlabel
    exact (isMet_demand_iff _ _).mpr
      (h _ _ (get?_eq_some_iff.mpr (hlabels.mem_iff.mp hlabel)))

/-- The objects that are wanted from a store, each of them once, in the order of their keys. -/
def ListsInOrder (store : Store C) (wanted : ObjectKey → Object C → Prop)
    (objects : List (Object C)) :
    Prop :=
  ∃ entries : List (ObjectKey × Object C),
    objects = entries.map Prod.snd ∧
      (entries.Pairwise fun a b => compare a.1 b.1 = .lt) ∧
      ∀ key object, (key, object) ∈ entries ↔ store.lookup key = some object ∧ wanted key object

theorem listsInOrder_select (store : Store C) (ns selector : Option String) :
    ListsInOrder store (Picked ns selector) (store.select ns selector) := by
  refine ⟨_, rfl, store.objects.sorted.filter _, fun key object => ?_⟩
  rw [List.mem_filter, ← get?_eq_some_iff]
  refine and_congr_right fun _ => ?_
  unfold Picked
  cases selector <;> simp

/-- A selector that labels have been written into, in whatever order and with whatever blanks and
empty pieces, lists the objects of a namespace, or of all, that carry all of these labels. -/
theorem list_written_pieces (hwritable : ∀ label ∈ labels.entries, Writable label.1 label.2)
    (hpieces : (pieces.filterMap Piece.label?).Perm labels.entries) (store : Store C)
    (uid : String) (ns : Option String) :
    ∃ objects, store.answer uid (.list ns (some (written pieces))) = (.ok objects, store) ∧
      ListsInOrder store
        (fun key object => (ns = none ∨ key.namespace = ns) ∧ HasLabels object labels)
        objects := by
  have hproper : AllWritable pieces := fun label hlabel =>
    hwritable label (hpieces.mem_iff.mp hlabel)
  obtain ⟨entries, hobjects, hsorted, hentries⟩ :=
    listsInOrder_select store ns (some (written pieces))
  refine ⟨_, rfl, entries, hobjects, hsorted, fun key object => (hentries key object).trans ?_⟩
  simp only [Picked, Option.mem_some_iff, forall_eq', selects_written_iff hproper hpieces]

def oneBlank : Blanks := ⟨[' '], List.forall_mem_singleton.mpr (by decide)⟩

/-- A label without a value, and one whose value looks like a label. -/
def bookLabels : TextMap := .ofList [("owner", ""), ("size", "a=4")]

/-- The same labels in another order, with blanks and with gaps between them. -/
def untidy : List Piece :=
  [.label "size" "a=4" oneBlank noBlanks oneBlank noBlanks, .gap noBlanks, .gap oneBlank,
    .label "owner" "" noBlanks oneBlank noBlanks oneBlank]

def box (ns name : String) (labels : TextMap) : Object String :=
  { metadata := { name := some name, «namespace» := some ns, labels := some labels }
    content := "" }

def shelf : Store String :=
  let empty : Store String := { title := "Box" }
  let one := (empty.insert "uid-1" (box "hall" "books" bookLabels)).2
  let two := (one.insert "uid-2" (box "attic" "books" bookLabels)).2
  (two.insert "uid-3" (box "hall" "tools" (.ofList [("owner", "")]))).2

theorem writable_bookLabels : ∀ label ∈ bookLabels.entries, Writable label.1 label.2 := by
  have hentries : bookLabels.entries = [("owner", ""), ("size", "a=4")] := by decide
  rw [hentries, List.forall_mem_cons, List.forall_mem_singleton]
  constructor <;> exact ⟨by decide, by decide, by decide, by decide, by decide, by decide⟩

theorem list_written_pieces_on_shelf :
    written untidy = " size= a=4,, ,owner = " ∧
      (∀ label ∈ bookLabels.entries, Writable label.1 label.2) ∧
      (untidy.filterMap Piece.label?).Perm bookLabels.entries ∧
      ∃ objects,
        shelf.answer "" (.list (some "hall") (some (written untidy))) = (.ok objects, shelf) ∧
        objects.map (·.metadata.uid) = [some "uid-1"] ∧
        ListsInOrder shelf (fun key object =>
          (some "hall" = none ∨ key.namespace = some "hall") ∧ HasLabels object bookLabels)
          objects := by
  have hpieces : (untidy.filterMap Piece.label?).Perm bookLabels.entries := by decide
  obtain ⟨objects, hanswer, hlists⟩ :=
    list_written_pieces writable_bookLabels hpieces shelf "" (some "hall")
  refine ⟨by decide, writable_bookLabels, hpieces, objects, hanswer, ?_, hlists⟩
  have hobjects : (shelf.answer "" (.list (some "hall") (some (written untidy)))).1 = .ok objects :=
    congrArg Prod.fst hanswer
  cases hobjects
  decide

end Fleet.Proofs.Selectors
