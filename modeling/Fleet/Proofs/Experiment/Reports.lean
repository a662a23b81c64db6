import Fleet.Proofs.Experiment.Readiness

namespace Fleet.Proofs.Experiment.Reports

open Fleet.Experiment
open Fleet.Proofs.Experiment.Readiness
open Fleet.Proofs.Ledgers

/-- The status has been greeted, and follows the pause or the first of the pods. Before there is
a pod, nothing is said about it. -/
structure FollowsWorkload (spec : ExperimentSpec) (pods : List Pod) (status : ExperimentStatus) :
    Prop where
  initialized : status.conditions.isTrue .initialized = true
  paused : spec.pause = true → status.phase = .stopped
  running : spec.pause = false → ∀ pod ∈ pods.head?, pod.content.isReady = true →
    status.phase = .running ∧ status.conditions.tells .podReady .true_ "" "" = true
  waiting : spec.pause = false → ∀ pod ∈ pods.head?, pod.content.isReady = false →
    status.phase ≠ .running ∧ status.conditions.tells .podReady .false_ "PodNotReady" "" = true

structure Connects (spec : ExperimentSpec) (dependents : Dependents)
    (status : ExperimentStatus) : Prop where
  addresses : ∀ service ∈ dependents.ingress.bind fun service => service.content.spec,
    service.type = some nodePortType → status.ingressIPs = service.externalIPs.getD []
  port : ∀ service ∈ dependents.ingress.bind fun service => service.content.spec,
    service.type = some nodePortType →
      ∀ port, service.ports.getD [] = [port] → status.ingressPort = port.nodePort
  protocol : status.protocol = some dependents.template.content.protocolName
  vnc : dependents.template.content.protocol? = some .vnc →
    status.vnc = dependents.template.content.vnc
  ssh : dependents.template.content.protocol? = some .ssh →
    status.ssh = dependents.template.content.ssh
  cluster : status.cluster = spec.clusterName
  clusterSync : status.clusterSync = false

def TellsVolume (volumeExists : Bool) (ledger : Ledger ExperimentConditionType) : Prop :=
  (if volumeExists then ledger.tells .volumeCreated .true_ "" ""
    else ledger.tells .volumeCreated .false_ "VolumeMissing"
      "data volume or claim does not exist") = true

def TellsReady (volumeExists : Bool) (ledger : Ledger ExperimentConditionType) : Prop :=
  (if volumeExists && ledger.isTrue .podReady then ledger.tells .ready .true_ "" ""
    else ledger.tells .ready .false_ "NotReady" "") = true

def volumeExists (dependents : Dependents) : Bool :=
  dependents.volume.isSome && dependents.claim.isSome

/-- The status reports on everything observed. -/
structure TellsAll (spec : ExperimentSpec) (dependents : Dependents) (status : ExperimentStatus) :
    Prop where
  follows : FollowsWorkload spec dependents.pods status
  connects : Connects spec dependents status
  volume : TellsVolume (volumeExists dependents) status.conditions
  ready : TellsReady (volumeExists dependents) status.conditions

theorem initialized_greet (draft : StatusDraft) (now : Instant) :
    (greet draft now).status.conditions.isTrue .initialized = true := by
  unfold greet
  split
  · assumption
  · exact isTrue_set_self ..

/-- What the step for the workload notes when there is nothing to start. -/
def noteWorkload (now : Instant) (progress : Progress) : Progress :=
  if progress.experiment.spec.pause then notePause now progress
  else
    match progress.dependents.pods with
    | [] => progress
    | pod :: _ => followPod now pod progress

variable {progress : Progress} {draft : StatusDraft} {spec : ExperimentSpec}
  {dependents : Dependents}

theorem phase_notePause (now : Instant) (progress : Progress) :
    (notePause now progress).draft.status.phase = .stopped := by
  unfold notePause
  split
  · assumption
  · rfl

theorem kept_notePause (now : Instant) (progress : Progress) :
    (notePause now progress).outcome = progress.outcome ∧
      (notePause now progress).draft.observed = progress.draft.observed := by
  unfold notePause
  split <;> exact ⟨rfl, rfl⟩

theorem kept_followPod (now : Instant) (pod : Pod) (progress : Progress) :
    (followPod now pod progress).outcome = progress.outcome ∧
      (followPod now pod progress).draft.observed = progress.draft.observed := by
  unfold followPod
  dsimp only
  split
  · exact ⟨rfl, rfl⟩
  · split <;> exact ⟨rfl, rfl⟩

theorem running_followPod {pod : Pod} (h : pod.content.isReady = true) (now : Instant)
    (progress : Progress) :
    (followPod now pod progress).draft.status.phase = .running ∧
      (followPod now pod progress).draft.status.conditions.tells .podReady .true_ "" "" = true := by
  unfold followPod
  rw [if_pos h]
  exact ⟨rfl, tells_ensure_self ..⟩

theorem waiting_followPod {pod : Pod} (h : pod.content.isReady = false) (now : Instant)
    (progress : Progress) :
    (followPod now pod progress).draft.status.phase ≠ .running ∧
      (followPod now pod progress).draft.status.conditions.tells .podReady .false_
        "PodNotReady" "" = true := by
  unfold followPod
  rw [if_neg (by simp [h])]
  refine ⟨?_, tells_ensure_self ..⟩
  split
  · exact nofun
  · assumption

theorem followsWorkload_noteWorkload
    (h : progress.draft.status.conditions.isTrue .initialized = true)
    (now : Instant) :
    FollowsWorkload progress.experiment.spec progress.dependents.pods
      (noteWorkload now progress).draft.status := by
  unfold noteWorkload
  cases hpause : progress.experiment.spec.pause with
  | true =>
      exact ⟨initialized_notePause h now, fun _ => phase_notePause now progress,
        by simp [hpause], by simp [hpause]⟩
  | false =>
      rw [if_neg Bool.false_ne_true]
      cases hpods : progress.dependents.pods with
      | nil => exact ⟨h, by simp [hpause], by simp, by simp⟩
      | cons pod rest =>
          refine ⟨initialized_followPod h now pod, by simp [hpause], ?_, ?_⟩
          · rintro - _ ⟨⟩ hready
            exact running_followPod hready now progress
          · rintro - _ ⟨⟩ hready
            exact waiting_followPod hready now progress

theorem noteWorkload_of_followsWorkload
    (h : FollowsWorkload progress.experiment.spec progress.dependents.pods progress.draft.status)
    (now : Instant) : (noteWorkload now progress).draft.status = progress.draft.status := by
  unfold noteWorkload
  split
  · rename_i hpause
    rw [notePause, if_pos (h.paused hpause)]
  · rename_i hpause
    have hpause : progress.experiment.spec.pause = false := by simpa using hpause
    cases hpods : progress.dependents.pods with
    | nil => rfl
    | cons pod rest =>
        have hhead : pod ∈ progress.dependents.pods.head? := by simp [hpods]
        change (followPod now pod progress).draft.status = _
        unfold followPod
        split
        · rename_i hready
          obtain ⟨hphase, htells⟩ := h.running hpause pod hhead hready
          change ensureCondition _ _ _ _ _ (setPhase _ _) = _
          rw [ensureCondition, setPhase, ← hphase, ensure_of_tells htells]
        · rename_i hready
          obtain ⟨hphase, htells⟩ := h.waiting hpause pod hhead (by simpa using hready)
          change ensureCondition _ _ _ _ _ _ = _
          rw [if_neg hphase, ensureCondition, ensure_of_tells htells]

theorem followsWorkload_congr {pods : List Pod} {a b : ExperimentStatus}
    (h : FollowsWorkload spec pods a)
    (hphase : b.phase = a.phase)
    (hinitialized : b.conditions.query .initialized = a.conditions.query .initialized)
    (hpod : b.conditions.query .podReady = a.conditions.query .podReady) :
    FollowsWorkload spec pods b := by
  refine ⟨?_, ?_, ?_, ?_⟩
  · rw [isTrue_congr hinitialized]
    exact h.initialized
  · rw [hphase]
    exact h.paused
  · rw [hphase, tells_congr hpod]
    exact h.running
  · rw [hphase, tells_congr hpod]
    exact h.waiting

theorem copyIngress_keeps (draft : StatusDraft) (ingress : Option Service) :
    (copyIngress draft ingress).status.phase = draft.status.phase ∧
      (copyIngress draft ingress).status.conditions = draft.status.conditions := by
  unfold copyIngress
  split
  · exact ⟨rfl, rfl⟩
  · split
    · split <;> exact ⟨rfl, rfl⟩
    · exact ⟨rfl, rfl⟩

theorem copyCredentials_keeps (draft : StatusDraft) (template : Template) :
    (copyCredentials draft template).status.phase = draft.status.phase ∧
      (copyCredentials draft template).status.conditions = draft.status.conditions := by
  unfold copyCredentials
  dsimp only
  split <;> exact ⟨rfl, rfl⟩

theorem addresses_copyIngress (draft : StatusDraft) {ingress : Option Service}
    {service : ServiceSpec} (hservice : service ∈ ingress.bind fun service => service.content.spec)
    (htype : service.type = some nodePortType) :
    (copyIngress draft ingress).status.ingressIPs = service.externalIPs.getD [] ∧
      ∀ port, service.ports.getD [] = [port] →
        (copyIngress draft ingress).status.ingressPort = port.nodePort := by
  unfold copyIngress
  rw [Option.mem_def.mp hservice]
  dsimp only
  rw [if_pos htype]
  split
  · rename_i port hports
    refine ⟨rfl, fun other hother => ?_⟩
    cases hother.symm.trans hports
    rfl
  · rename_i hports
    exact ⟨rfl, fun port hport => absurd hport (hports port)⟩

theorem credentials_copyCredentials (draft : StatusDraft) (template : Template) :
    (copyCredentials draft template).status.protocol = some template.content.protocolName ∧
      (template.content.protocol? = some .vnc →
        (copyCredentials draft template).status.vnc = template.content.vnc) ∧
      (template.content.protocol? = some .ssh →
        (copyCredentials draft template).status.ssh = template.content.ssh) := by
  unfold copyCredentials
  dsimp only
  cases template.content.protocol? with
  | none => exact ⟨rfl, nofun, nofun⟩
  | some protocol =>
      cases protocol with
      | vnc => exact ⟨rfl, fun _ => rfl, nofun⟩
      | ssh => exact ⟨rfl, nofun, fun _ => rfl⟩

theorem addresses_copyCredentials (draft : StatusDraft) (template : Template) :
    (copyCredentials draft template).status.ingressIPs = draft.status.ingressIPs ∧
      (copyCredentials draft template).status.ingressPort = draft.status.ingressPort := by
  unfold copyCredentials
  dsimp only
  split <;> exact ⟨rfl, rfl⟩

theorem observed_copyIngress (draft : StatusDraft) (ingress : Option Service) :
    (copyIngress draft ingress).observed = draft.observed := by
  unfold copyIngress
  split
  · rfl
  · split
    · split <;> rfl
    · rfl

theorem observed_copyCredentials (draft : StatusDraft) (template : Template) :
    (copyCredentials draft template).observed = draft.observed := by
  unfold copyCredentials
  dsimp only
  split <;> rfl

theorem observed_copyCluster (draft : StatusDraft) :
    (copyCluster draft).observed = draft.observed :=
  rfl

theorem observed_deriveReadiness (draft : StatusDraft) (exists_ : Bool) (now : Instant) :
    (deriveReadiness draft exists_ now).observed = draft.observed :=
  rfl

def copies (draft : StatusDraft) (dependents : Dependents) : StatusDraft :=
  copyCluster (copyCredentials (copyIngress draft dependents.ingress) dependents.template)

theorem copies_keep (draft : StatusDraft) (dependents : Dependents) :
    (copies draft dependents).status.phase = draft.status.phase ∧
      (copies draft dependents).status.conditions = draft.status.conditions := by
  obtain ⟨hphase, hconditions⟩ := copyIngress_keeps draft dependents.ingress
  have hcopied := copyCredentials_keeps (copyIngress draft dependents.ingress) dependents.template
  rw [hphase, hconditions] at hcopied
  unfold copies
  generalize copyCredentials (copyIngress draft dependents.ingress) dependents.template = copied
    at hcopied ⊢
  exact hcopied

theorem connects_copies (draft : StatusDraft) (dependents : Dependents) :
    Connects draft.observed.spec dependents (copies draft dependents).status := by
  obtain ⟨hprotocol, hvnc, hssh⟩ :=
    credentials_copyCredentials (copyIngress draft dependents.ingress) dependents.template
  obtain ⟨hips, hport⟩ :=
    addresses_copyCredentials (copyIngress draft dependents.ingress) dependents.template
  have hobserved := observed_copyCredentials (copyIngress draft dependents.ingress)
    dependents.template
  rw [observed_copyIngress] at hobserved
  unfold copies
  -- Only what is known of the copied draft matters from here on.
  generalize copyCredentials (copyIngress draft dependents.ingress) dependents.template = copied
    at hprotocol hvnc hssh hips hport hobserved ⊢
  refine ⟨?_, ?_, hprotocol, hvnc, hssh, ?_, rfl⟩
  · intro service hservice htype
    exact hips.trans (addresses_copyIngress draft hservice htype).1
  · intro service hservice htype port hports
    exact hport.trans ((addresses_copyIngress draft hservice htype).2 port hports)
  · change copied.observed.spec.clusterName = _
    rw [hobserved]

theorem copyIngress_of_connects (h : Connects spec dependents draft.status) :
    (copyIngress draft dependents.ingress).status = draft.status := by
  unfold copyIngress
  split
  · rfl
  · rename_i service hservice
    split
    · rename_i htype
      have hips := h.addresses service hservice htype
      split
      · rename_i port hports
        have hport := h.port service hservice htype port hports
        dsimp only
        rw [← hips, ← hport]
      · dsimp only [Draft.addEvent]
        rw [← hips]
    · rfl

theorem copyCredentials_of_connects (h : Connects spec dependents draft.status) :
    (copyCredentials draft dependents.template).status = draft.status := by
  have hprotocol := h.protocol
  have hvnc := h.vnc
  have hssh := h.ssh
  unfold copyCredentials
  dsimp only
  cases hknown : dependents.template.content.protocol? with
  | none =>
      dsimp only [Draft.addEvent]
      rw [← hprotocol]
  | some protocol =>
      cases protocol with
      | vnc =>
          dsimp only
          rw [← hprotocol, ← hvnc hknown]
      | ssh =>
          dsimp only
          rw [← hprotocol, ← hssh hknown]

theorem copyCluster_of_connects (h : Connects draft.observed.spec dependents draft.status) :
    (copyCluster draft).status = draft.status := by
  unfold copyCluster
  dsimp only
  rw [← h.cluster, ← h.clusterSync]

theorem copies_of_connects (h : Connects draft.observed.spec dependents draft.status) :
    (copies draft dependents).status = draft.status := by
  have hingress := copyIngress_of_connects h
  have hcredentials :
      (copyCredentials (copyIngress draft dependents.ingress) dependents.template).status =
        draft.status := by
    rw [copyCredentials_of_connects (hingress.symm ▸ h), hingress]
  have hobserved :
      (copyCredentials (copyIngress draft dependents.ingress) dependents.template).observed =
        draft.observed := by
    rw [observed_copyCredentials, observed_copyIngress]
  rw [← hobserved, ← hcredentials] at h
  exact (copyCluster_of_connects h).trans hcredentials

theorem connects_deriveReadiness (h : Connects spec dependents draft.status) (exists_ : Bool)
    (now : Instant) : Connects spec dependents (deriveReadiness draft exists_ now).status := by
  unfold deriveReadiness
  simp only [ensureCondition]
  split <;> split <;>
    exact ⟨h.addresses, h.port, h.protocol, h.vnc, h.ssh, h.cluster, h.clusterSync⟩

theorem tellsVolume_deriveReadiness (draft : StatusDraft) (exists_ : Bool) (now : Instant) :
    TellsVolume exists_ (deriveReadiness draft exists_ now).status.conditions := by
  have hne : ExperimentConditionType.volumeCreated ≠ .ready := by decide
  unfold TellsVolume deriveReadiness
  simp only [ensureCondition]
  cases exists_ with
  | false => simp [tells_ensure_of_ne hne, tells_ensure_self]
  | true =>
      simp only [if_true, Bool.true_and]
      split
      · rw [tells_ensure_of_ne hne]
        exact tells_ensure_self ..
      · rw [tells_ensure_of_ne hne]
        exact tells_ensure_self ..

theorem tellsReady_deriveReadiness (draft : StatusDraft) (exists_ : Bool) (now : Instant) :
    TellsReady exists_ (deriveReadiness draft exists_ now).status.conditions := by
  have hpod : ExperimentConditionType.podReady ≠ .ready := by decide
  have hvolume : ExperimentConditionType.podReady ≠ .volumeCreated := by decide
  unfold TellsReady deriveReadiness
  simp only [ensureCondition]
  cases exists_ with
  | false => simp [tells_ensure_self]
  | true =>
      simp only [if_true, Bool.true_and, isTrue_ensure_of_ne hvolume]
      split
      · rename_i hready
        rw [isTrue_ensure_of_ne hpod, isTrue_ensure_of_ne hvolume, if_pos hready]
        exact tells_ensure_self ..
      · rename_i hready
        rw [isTrue_ensure_of_ne hpod, isTrue_ensure_of_ne hvolume, if_neg hready]
        exact tells_ensure_self ..

theorem deriveReadiness_of_tells {exists_ : Bool}
    (hvolume : TellsVolume exists_ draft.status.conditions)
    (hready : TellsReady exists_ draft.status.conditions) (now : Instant) :
    (deriveReadiness draft exists_ now).status = draft.status := by
  unfold TellsVolume at hvolume
  unfold TellsReady at hready
  unfold deriveReadiness
  simp only [ensureCondition]
  cases exists_ with
  | false =>
      simp only [Bool.false_eq_true, Bool.false_and, if_false] at hvolume hready ⊢
      rw [ensure_of_tells hvolume, ensure_of_tells hready]
  | true =>
      simp only [if_true, Bool.true_and] at hvolume hready ⊢
      rw [ensure_of_tells hvolume]
      split at hready
      · rename_i hpod
        rw [if_pos hpod, ensure_of_tells hready]
      · rename_i hpod
        rw [if_neg hpod, ensure_of_tells hready]

theorem tellsAll_updateConnection
    (h : FollowsWorkload draft.observed.spec dependents.pods draft.status)
    (now : Instant) :
    TellsAll draft.observed.spec dependents (updateConnection draft dependents now).status := by
  have hkept := copies_keep draft dependents
  change TellsAll _ _ (deriveReadiness (copies draft dependents) (volumeExists dependents)
    now).status
  refine ⟨?_, connects_deriveReadiness (connects_copies draft dependents) _ now,
    tellsVolume_deriveReadiness _ _ now, tellsReady_deriveReadiness _ _ now⟩
  refine followsWorkload_congr h ?_ ?_ ?_
  · exact (phase_deriveReadiness _ _ now).trans hkept.1
  · refine (query_deriveReadiness_of_ne (by decide) (by decide) _ _ now).trans ?_
    exact congrArg (Ledger.query · _) hkept.2
  · refine (query_deriveReadiness_of_ne (by decide) (by decide) _ _ now).trans ?_
    exact congrArg (Ledger.query · _) hkept.2

theorem updateConnection_of_tellsAll (h : TellsAll draft.observed.spec dependents draft.status)
    (now : Instant) : (updateConnection draft dependents now).status = draft.status := by
  have hcopies := copies_of_connects h.connects
  change (deriveReadiness (copies draft dependents) (volumeExists dependents) now).status = _
  rw [deriveReadiness_of_tells (hcopies.symm ▸ h.volume) (hcopies.symm ▸ h.ready), hcopies]

end Fleet.Proofs.Experiment.Reports
