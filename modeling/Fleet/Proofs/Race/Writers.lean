import Fleet.Proofs.Contract
import Fleet.Proofs.Judgements
import Fleet.Proofs.Race.Basic

/-!
The contract of the writers. Passes and heartbeats follow the same rules: a version is fetched, its
status is derived from what was seen, and a refused status is put on the latest version, once.
-/

namespace Fleet.Proofs.Race

open Fleet.Cluster (needsId addWarnings)
open Fleet.Proofs.Contract
open Fleet.Proofs.Judgements

/-- A writer that has to assign an identity has drawn one. -/
def Provided (task : Task) (notes : Notes) (seen : Cluster) : Prop :=
  match task with
  | .pass _ => needsId (addWarnings (.start seen)) = true → notes.drawn.isSome = true
  | .heartbeat .. => True

/-- The status is the one that a writer derives from a version, and it has what it takes. -/
def Derives (task : Task) (notes : Notes) (seen : Cluster) (status : ClusterStatus) : Prop :=
  task.derive notes seen = some status ∧ Provided task notes seen

/-- What a writer may ask, given what it has heard. Only the status that it derives from the version
it holds is ever offered, clock and identity are not asked for again after that, and nothing is
asked any more once the status is stored. -/
def MayAsk (task : Task) (key : ObjectKey) (notes : Notes) : Effect → Prop
  | .store .cluster (.get ns name) =>
      notes.position = .idle ∧ ⟨ns, name⟩ = key ∨
        ∃ seen offered, notes.position = .refused seen offered ∧
          ⟨ns, name⟩ = ObjectKey.ofMetadata seen.metadata
  | .store .cluster (.replace object) =>
      ∃ seen id, notes.position = .holding seen ∧
        object = { seen with metadata := seen.metadata.annotate Cluster.idAnnotation id }
  | .store .cluster (.replaceStatus object) =>
      (∃ seen status, notes.position = .holding seen ∧ Derives task notes seen status ∧
        object = seen.setStatus status) ∨
      (∃ seen offered latest, notes.position = .retrying seen offered latest ∧
        object = latest.setStatus offered)
  | .store _ _ => False
  | .clock => ∃ seen, notes.position = .holding seen
  | .freshId => ∃ seen, notes.position = .holding seen
  | .publish .. => notes.position ≠ .landed
  | .notify _ => notes.position ≠ .landed

def Task.rules (task : Task) (key : ObjectKey) : Rules Notes Effect Effect.Reply where
  allows notes effect := MayAsk task key notes effect
  after notes effect reply := notes.hear effect reply

/-- A heartbeat is acknowledged exactly if its status is stored, and a pass acknowledges nothing. -/
def Suits (task : Task) (notes : Notes) (ending : TaskEnding) : Prop :=
  ending.isAcknowledged = true ↔
    (∃ sent received, task = .heartbeat sent received) ∧ notes.position = .landed

variable {key : ObjectKey} {task : Task} {notes : Notes}

theorem provided_of_drawn {seen : Cluster} (h : notes.drawn.isSome = true) :
    Provided task notes seen := by
  cases task with
  | pass settings => exact fun _ => h
  | heartbeat sent received => trivial

theorem provided_of_not_needsId {seen : Cluster}
    (h : ¬ needsId (addWarnings (.start seen)) = true) : Provided task notes seen := by
  cases task with
  | pass settings => exact fun hneeds => absurd hneeds h
  | heartbeat sent received => trivial

theorem not_mayAsk_of_landed (h : notes.position = .landed) (effect : Effect) :
    ¬ MayAsk task key notes effect := by
  cases effect with
  | store kind call =>
      cases kind with
      | cluster => cases call <;> simp [MayAsk, h]
      | _ => exact id
  | clock => simp [MayAsk, h]
  | freshId => simp [MayAsk, h]
  | publish regarding event => simp [MayAsk, h]
  | notify event => simp [MayAsk, h]

theorem verdict_of_derive {settings : Settings} {seen : Cluster}
    {status : ClusterStatus}
    (h : (Task.pass settings).derive notes seen = some status) :
    ∃ now, notes.clock = some now ∧
      Verdict (notes.drawn.getD "") (Cluster.addWarnings (.start seen)) now status := by
  obtain ⟨now, hclock, hjudge⟩ := Option.bind_eq_some_iff.mp h
  obtain ⟨judgement, hjudgement, rfl⟩ := Option.map_eq_some_iff.mp hjudge
  exact ⟨now, hclock, (judge_cases hjudgement).2⟩

theorem hear_fetched (h : notes.position = .idle) (ns : Option String) (name : String)
    (found : Cluster) :
    (notes.hear (.store .cluster (.get ns name)) (.ok found)).position = .holding found := by
  simp only [Notes.hear, Position.afterCall, h]

theorem hear_stamped {seen : Cluster} (h : notes.position = .holding seen)
    (object written : Cluster) :
    (notes.hear (.store .cluster (.replace object)) (.ok written)).position =
      .holding written := by
  simp only [Notes.hear, Position.afterCall, h]

theorem hear_refused {seen : Cluster} {status : ClusterStatus} {failure : Failure}
    (object : Cluster) (h : notes.position = .holding seen) (hconflict : failure.isConflict = true)
    (hstatus : object.status = some status) :
    (notes.hear (.store .cluster (.replaceStatus object)) (.error failure)).position =
      .refused seen status := by
  simp only [Notes.hear, Position.afterCall, h, hconflict, if_true, hstatus, Option.getD_some]

theorem hear_failed (notes : Notes) (failure : Failure) (object : Cluster)
    (h : failure.isConflict = true → ∀ seen, notes.position ≠ .holding seen) :
    (notes.hear (.store .cluster (.replaceStatus object)) (.error failure)).position =
      notes.position := by
  simp only [Notes.hear, Position.afterCall]
  split
  · rename_i seen hposition
    exact if_neg fun hconflict => h hconflict seen hposition
  · rfl

theorem hear_fetched_again {seen : Cluster} {offered : ClusterStatus}
    (h : notes.position = .refused seen offered) (ns : Option String) (name : String)
    (latest : Cluster) :
    (notes.hear (.store .cluster (.get ns name)) (.ok latest)).position =
      .retrying seen offered latest := by
  simp only [Notes.hear, Position.afterCall, h]

theorem hear_fetched_late (hidle : notes.position ≠ .idle)
    (hrefused : ∀ seen offered, notes.position ≠ .refused seen offered) (ns : Option String)
    (name : String) (found : Cluster) :
    (notes.hear (.store .cluster (.get ns name)) (.ok found)).position = notes.position := by
  simp only [Notes.hear, Position.afterCall]

theorem hear_landed_iff {effect : Effect} {reply : effect.Reply}
    (hwritten : written? effect reply = none) :
    (notes.hear effect reply).position = .landed ↔ notes.position = .landed := by
  unfold Notes.hear
  split
  · rename_i call reply
    change notes.position.afterCall call reply = .landed ↔ _
    unfold Position.afterCall
    split
    · split <;> simp_all
    · split <;> simp_all
    · split
      · split <;> simp_all
      · rfl
    · simp [written?] at hwritten
    · rfl
  · rfl
  · rfl
  · rfl

/-- The writer works with a version and has drawn no identity. -/
structure Holding (seen : Cluster) (notes : Notes) : Prop where
  position : notes.position = .holding seen
  undrawn : notes.drawn = none

/-- What is known after the first fetch. -/
def Fetched (notes : Notes) : Except Failure (Option Cluster) → Prop
  | .ok (some found) => Holding found notes
  | _ => notes.position ≠ .landed

theorem keeps_find :
    Keeps ((task.rules key).onStore .cluster) Fetched (Store.find key.namespace key.name) {} := by
  refine ⟨.inl ⟨rfl, rfl⟩, ?_⟩
  rintro (failure | found)
  · change Fetched _ (if failure.isNotFound then _ else _)
    split
    · exact nofun
    · exact nofun
  · exact ⟨hear_fetched rfl _ _ found, rfl⟩

/-- What is known after the status was to be written. -/
def Persisted (notes : Notes) : Except Failure Cluster → Prop
  | .ok _ => notes.position = .landed
  | .error _ => notes.position ≠ .landed

theorem keeps_persistStatus {seen : Cluster} {status : ClusterStatus}
    (hposition : notes.position = .holding seen) (hderive : Derives task notes seen status) :
    Keeps ((task.rules key).onStore .cluster) Persisted
      (Store.persistStatus (seen.setStatus status)) notes := by
  refine ⟨.inl ⟨seen, status, hposition, hderive, rfl⟩, ?_⟩
  rintro (failure | written)
  · change Keeps _ _ (if _ then _ else _) _
    split
    · rename_i hconflict
      have hrefused : (notes.hear _ _).position = .refused seen status :=
        hear_refused (seen.setStatus status) hposition hconflict rfl
      refine ⟨.inr ⟨seen, status, hrefused, rfl⟩, ?_⟩
      rintro (failure' | latest)
      · exact fun hlanded => nomatch hrefused.symm.trans hlanded
      · have hretrying := hear_fetched_again hrefused seen.metadata.namespace
          seen.metadata.displayName latest
        refine ⟨.inr ⟨seen, status, latest, hretrying, rfl⟩, ?_⟩
        rintro (failure' | written)
        · have hkept := hear_failed _ failure' (latest.setStatus status)
            fun _ held hheld => nomatch hretrying.symm.trans hheld
          exact fun hlanded => nomatch (hkept.trans hretrying).symm.trans hlanded
        · rfl
    · rename_i hconflict
      have hkept := hear_failed notes _ (seen.setStatus status) fun h => absurd h hconflict
      exact fun hlanded => nomatch (hkept.trans hposition).symm.trans hlanded
  · rfl

theorem keeps_stampId {seen : Cluster} (h : Holding seen notes) :
    Keeps ((task.rules key).onStore .cluster)
      (fun reached result => ∀ observed, result = .ok observed → Holding observed reached)
      (Cluster.stampId seen) notes := by
  unfold Cluster.stampId
  split
  · rintro observed ⟨⟩
    exact h
  · rename_i id _
    split
    · rintro observed ⟨⟩
      exact h
    · refine ⟨⟨seen, id, h.position, rfl⟩, ?_⟩
      rintro (failure | written) observed hobserved
      · contradiction
      · cases hobserved
        exact ⟨hear_stamped h.position _ written, h.undrawn⟩

/-- What is known once a version has been observed: the judgement is the one derived from it. -/
def Observed (settings : Settings) (seen : Cluster) (notes : Notes)
    (result : Option Cluster.Judgement) : Prop :=
  notes.position = .holding seen ∧
    ∀ judgement, result = some judgement →
      judgement.draft.observed = seen ∧
        Derives (.pass settings) notes seen judgement.draft.status

theorem observed_of_judge (settings : Settings) {seen : Cluster} {now : Instant}
    (hposition : notes.position = .holding seen) (hclock : notes.clock = some now)
    (hprovided : Provided (.pass settings) notes seen) :
    Observed settings seen notes
      (Cluster.judge settings (notes.drawn.getD "") (Cluster.addWarnings (.start seen)) now) := by
  refine ⟨hposition, fun judgement hjudge => ⟨?_, ?_⟩⟩
  · rw [(judge_cases hjudge).1, observed_addWarnings]
    rfl
  · exact ⟨by simp [Task.derive, hclock, hjudge], hprovided⟩

theorem keeps_observe {settings : Settings} {seen : Cluster} (h : Holding seen notes) :
    Keeps ((Task.pass settings).rules key) (Observed settings seen)
      (Cluster.observe settings seen) notes := by
  refine ⟨⟨seen, h.position⟩, fun now => ?_⟩
  change Keeps _ _ (if Cluster.needsId (Cluster.addWarnings (.start seen)) then _ else _) _
  split
  · exact ⟨⟨seen, h.position⟩, fun identity =>
      observed_of_judge settings h.position rfl (provided_of_drawn rfl)⟩
  · rename_i hnamed
    have hposition : (notes.hear .clock now).position = .holding seen := h.position
    have hobserved :=
      observed_of_judge settings hposition rfl (provided_of_not_needsId hnamed)
    rw [show (notes.hear .clock now).drawn = none from h.undrawn] at hobserved
    exact hobserved

theorem keeps_conclude {settings : Settings} {seen : Cluster} {judgement : Cluster.Judgement}
    (h : Observed settings seen notes (some judgement)) :
    Keeps ((Task.pass settings).rules key) (fun _ _ => True) (Cluster.conclude seen judgement)
      notes := by
  obtain ⟨hposition, hjudgement⟩ := h
  obtain ⟨hobserved, hderive⟩ := hjudgement judgement rfl
  have hunlanded : notes.position ≠ .landed := by simp [hposition]
  refine keeps_bind (keeps_publishAll _ _ fun _ => ⟨hunlanded, rfl⟩) ?_
  rintro reached ⟨⟩ rfl
  dsimp only [Draft.finish]
  split
  · trivial
  · rename_i updated hupdated
    have hwritten : updated = seen.setStatus judgement.draft.status := by
      split at hupdated
      · contradiction
      · rw [← hobserved]
        exact (Option.some.inj hupdated).symm
    rw [hwritten]
    refine keeps_bind (keeps_on (keeps_persistStatus hposition hderive)) ?_
    rintro reached (failure | written) - <;> trivial

theorem keeps_reconcile {settings : Settings} {seen : Cluster} (h : Holding seen notes) :
    Keeps ((Task.pass settings).rules key) (fun _ _ => True) (Cluster.reconcile settings seen)
      notes := by
  unfold Cluster.reconcile
  split
  · have hunlanded : notes.position ≠ .landed := by simp [h.position]
    exact ⟨hunlanded, fun _ => trivial⟩
  · refine keeps_bind (keeps_on (keeps_stampId h)) ?_
    rintro reached (failure | observed) hreached
    · trivial
    refine keeps_bind (keeps_observe (hreached observed rfl)) ?_
    rintro reached (_ | judgement) hjudgement
    · trivial
    exact keeps_bind (keeps_conclude hjudgement) fun _ _ _ => trivial

theorem suits_of_not_landed {ending : TaskEnding} (h : notes.position ≠ .landed)
    (hending : ending.isAcknowledged = false) : Suits task notes ending := by
  rw [Suits, hending]
  exact ⟨nofun, fun hlanded => absurd hlanded.2 h⟩

theorem suits_of_pass {settings : Settings} {ending : TaskEnding}
    (hending : ending.isAcknowledged = false) : Suits (.pass settings) notes ending := by
  rw [Suits, hending]
  exact ⟨nofun, fun ⟨⟨_, _, htask⟩, _⟩ => nomatch htask⟩

theorem keeps_ingest {sent : Heartbeat} {received : Instant}
    (hkey : ⟨some sent.cluster.namespace, sent.cluster.name⟩ = key) :
    Keeps (((Task.heartbeat sent received).rules key).onStore .cluster)
      (fun reached result => Suits (.heartbeat sent received) reached (.answered result))
      (sent.ingest received) {} := by
  subst hkey
  refine keeps_bind keeps_find ?_
  rintro reached (failure | _ | seen) hreached
  · exact suits_of_not_landed hreached rfl
  · exact suits_of_not_landed hreached rfl
  · dsimp only
    split
    · exact suits_of_not_landed (by simp [hreached.position]) rfl
    · refine keeps_bind (keeps_persistStatus hreached.position ⟨rfl, trivial⟩) ?_
      rintro reached (failure | written) hpersisted
      · exact suits_of_not_landed hpersisted rfl
      · exact ⟨fun _ => ⟨⟨sent, received, rfl⟩, hpersisted⟩, fun _ => rfl⟩

/-- Every writer follows the rules. -/
theorem keeps_program (task : Task)
    (hkey : ∀ sent received, task = .heartbeat sent received →
      ⟨some sent.cluster.namespace, sent.cluster.name⟩ = key) :
    Keeps (task.rules key) (Suits task) (task.program key) {} := by
  cases task with
  | pass settings =>
      refine keeps_bind (keeps_on keeps_find) ?_
      rintro reached (failure | _ | seen) hreached
      · exact suits_of_pass rfl
      · exact suits_of_pass rfl
      · exact keeps_bind (keeps_reconcile hreached) fun _ _ _ => suits_of_pass rfl
  | heartbeat sent received =>
      refine keeps_bind (keeps_on (keeps_ingest (hkey sent received rfl))) ?_
      exact fun _ _ hsuits => hsuits

end Fleet.Proofs.Race
