import Fleet.Experiment.Naming
import Fleet.Proofs.Selectors

namespace Fleet.Proofs.Experiment.Labels

open Fleet.Experiment
open Fleet.Proofs.Selectors
open Fleet.Proofs.Stores

/-- A name that a selector can hold as it is, as every name that a server accepts. -/
def Plain (name : String) : Prop :=
  ∀ c ∈ name.toList, c ≠ ',' ∧ Text.isBlank c = false

-- By the characters of the name; the search could also choose to go through all there are.
instance (name : String) : Decidable (Plain name) :=
  List.decidableBAll (fun c => c ≠ ',' ∧ Text.isBlank c = false) name.toList

theorem writable_of_plain {name : String} (h : Plain name) : Writable nameLabel name where
  named := by decide
  trimmedName := by decide
  trimmedValue :=
    ⟨fun c hc => (h c (List.mem_of_mem_head? hc)).2, fun c hc => (h c (List.mem_of_getLast? hc)).2⟩
  undividedName := by decide
  undividedValue := fun hcomma => (h _ hcomma).1 rfl
  unequal := by decide

theorem ofText_selectorOf {name : String} (h : Plain name) :
    Selector.ofText (selectorOf name) = [.equals nameLabel name] := by
  have hwritten : selectorOf name =
      written [.label nameLabel name noBlanks noBlanks noBlanks noBlanks] := by
    simp [selectorOf, written, Piece.text, noBlanks, String.ext_iff]
  have hproper : AllWritable [.label nameLabel name noBlanks noBlanks noBlanks noBlanks] := by
    intro label hlabel
    cases List.mem_singleton.mp hlabel
    exact writable_of_plain h
  rw [hwritten, ofText_written hproper]
  rfl

/-- The selector made of a plain name picks what is labelled with that name. -/
theorem selects_selectorOf {name : String} (h : Plain name) (metadata : Metadata) :
    (Selector.ofText (selectorOf name)).selects metadata = true ↔
      metadata.label? nameLabel = some name := by
  rw [ofText_selectorOf h]
  unfold Selector.selects Metadata.label?
  cases metadata.labels <;> simp [Requirement.isMet, OrderedMap.get?, OrderedMap.empty]

variable {experiment : Experiment}

theorem get?_workloadLabels_name (experiment : Experiment) :
    (workloadLabels experiment).get? nameLabel = some experiment.name :=
  get?_insert_self _ _ _

theorem get?_workloadLabels_cluster (experiment : Experiment) :
    (workloadLabels experiment).get? clusterLabel = some experiment.spec.clusterName := by
  change (OrderedMap.insert (OrderedMap.insert _ _ _) _ _).get? clusterLabel = _
  rw [get?_insert_of_ne (show clusterLabel ≠ nameLabel by decide), get?_insert_self]

theorem get?_workloadLabels {key value : String}
    (h : (workloadLabels experiment).get? key = some value) :
    key = nameLabel ∧ value = experiment.name ∨
      key = clusterLabel ∧ value = experiment.spec.clusterName := by
  by_cases hname : key = nameLabel
  · rw [hname, get?_workloadLabels_name] at h
    exact .inl ⟨hname, (Option.some.inj h).symm⟩
  · by_cases hcluster : key = clusterLabel
    · rw [hcluster, get?_workloadLabels_cluster] at h
      exact .inr ⟨hcluster, (Option.some.inj h).symm⟩
    · change (OrderedMap.insert (OrderedMap.insert _ _ _) _ _).get? key = _ at h
      rw [get?_insert_of_ne hname, get?_insert_of_ne hcluster] at h
      contradiction

theorem get?_dependentLabels_name (experiment : Experiment) :
    (dependentLabels experiment).get? nameLabel = some experiment.name := by
  rw [dependentLabels, get?_insert_of_ne (by decide), get?_workloadLabels_name]

theorem get?_dependentLabels_cluster (experiment : Experiment) :
    (dependentLabels experiment).get? clusterLabel = some experiment.spec.clusterName := by
  rw [dependentLabels, get?_insert_of_ne (by decide), get?_workloadLabels_cluster]

end Fleet.Proofs.Experiment.Labels
