import Fleet.Cluster.Basic
import Fleet.Experiment.Basic
import Fleet.Heartbeat.Message
import Fleet.Proofs.Timestamps
import Mathlib.Data.Option.Basic

namespace Fleet.Proofs.JsonRoundTrip

variable {α : Type} {encode : α → Json} {decode? : Json → Option α}

/-- What is written for a value is read as that value. -/
abbrev Recovers (encode : α → Json) (decode? : Json → Option α) : Prop :=
  ∀ value, decode? (encode value) = some value

variable {members : List (String × Option Json)}

/-- The members that have a value. -/
def given (members : List (String × Option Json)) : List (String × Json) :=
  members.filterMap fun (name, value) => value.map (name, ·)

theorem mem_given {entry : String × Json} (h : entry ∈ given members) :
    (entry.1, some entry.2) ∈ members := by
  obtain ⟨⟨name, value⟩, hmem, hgiven⟩ := List.mem_filterMap.mp h
  obtain ⟨json, rfl, rfl⟩ := Option.map_eq_some_iff.mp hgiven
  exact hmem

theorem nodup_given (h : (members.map Prod.fst).Nodup) : ((given members).map Prod.fst).Nodup := by
  induction members with
  | nil => exact List.nodup_nil
  | cons head rest ih =>
      obtain ⟨hfresh, hrest⟩ := List.nodup_cons.mp h
      obtain ⟨name, value⟩ := head
      cases value with
      | none => exact ih hrest
      | some json =>
          refine List.nodup_cons.mpr ⟨fun hmem => hfresh ?_, ih hrest⟩
          obtain ⟨entry, hentry, hname⟩ := List.mem_map.mp hmem
          exact List.mem_map.mpr ⟨_, mem_given hentry, hname⟩

/-- Members with different names are a record, whichever of them are left out. -/
@[simp]
theorem isRecord_ofMembers (h : (members.map Prod.fst).Nodup) (fields : List String)
    (least : Nat) : (Json.ofMembers members).isRecord fields least = true := by
  change fields.all _ = true
  rw [List.all_eq_true]
  intro field _
  have hcount := List.nodup_iff_count.mp (nodup_given h) field
  rw [List.count_eq_countP, List.countP_map, List.countP_eq_length_filter] at hcount
  exact decide_eq_true hcount

@[simp]
theorem field?_ofMembers (h : (members.map Prod.fst).Nodup) (index : Nat) (name : String) :
    (Json.ofMembers members).field? index name = (members.lookup name).join := by
  change ((given members).find? fun entry => entry.1 == name).map Prod.snd = _
  induction members with
  | nil => rfl
  | cons head rest ih =>
      obtain ⟨hfresh, hrest⟩ := List.nodup_cons.mp h
      obtain ⟨other, value⟩ := head
      by_cases hname : name = other
      · subst hname
        rw [List.lookup_cons_self]
        cases value with
        | some json => simp [given]
        | none =>
            -- The member is left out, and its name is not given elsewhere.
            refine Option.map_eq_none_iff.mpr (List.find?_eq_none.mpr fun entry hentry => ?_)
            rw [beq_iff_eq]
            rintro rfl
            exact hfresh (List.mem_map.mpr ⟨_, mem_given hentry, rfl⟩)
      · rw [List.lookup_cons, beq_eq_false_iff_ne.mpr hname]
        cases value with
        | none => exact ih hrest
        | some json =>
            change (((other, json) :: given rest).find? _).map Prod.snd = _
            rw [List.find?_cons_of_neg (by simp [Ne.symm hname])]
            exact ih hrest

@[simp]
theorem guard_true [Decidable True] : (guard True : Option Unit) = some () := if_pos trivial

@[simp]
theorem required_some (json : Json) : Json.required decode? (some json) = decode? json := rfl

@[simp]
theorem defaulted_some (default : α) (json : Json) :
    Json.defaulted default decode? (some json) = decode? json :=
  rfl

/-- An optional field is left out or read as it was written, unless it can be null. -/
theorem optional_map (h : Recovers encode decode?) (hnull : decode? .null = none)
    (value : Option α) : Json.optional decode? (value.map encode) = some value := by
  cases value with
  | none => rfl
  | some value =>
      have hvalue := h value
      rw [Option.map_some]
      unfold Json.optional
      split
      · contradiction
      · rename_i heq
        rw [Option.some.inj heq, hnull] at hvalue
        contradiction
      · rename_i heq
        rw [← Option.some.inj heq, hvalue]
        rfl

theorem defaulted_ite {default value : α} [Decidable (value = default)] (encode : α → Json)
    (h : decode? (encode value) = some value) :
    Json.defaulted default decode? (if value = default then none else some (encode value)) =
      some value := by
  split
  · rename_i habsent
    exact congrArg some habsent.symm
  · exact h

@[simp]
theorem text?_string (text : String) : Json.text? (.string text) = some text := rfl

@[simp]
theorem boolean?_bool (value : Bool) : Json.boolean? (.bool value) = some value := rfl

@[simp]
theorem optional_text (value : Option String) :
    Json.optional Json.text? (value.map .string) = some value :=
  optional_map text?_string rfl value

theorem integerIn?_eq {low high value : Int} (hlow : low ≤ value) (hhigh : value ≤ high) :
    Json.integerIn? low high (.integer value) = some value :=
  if_pos ⟨hlow, hhigh⟩

@[simp]
theorem int32?_toInt (value : Int32) : Json.int32? (.integer value.toInt) = some value := by
  have hlow : Int32.minValue.toInt ≤ value.toInt := value.le_toInt
  have hhigh : value.toInt ≤ Int32.maxValue.toInt := value.toInt_le
  rw [Json.int32?, integerIn?_eq hlow hhigh, Option.map_some, Int32.ofInt_toInt]

@[simp]
theorem int64?_toInt (value : Int64) : Json.int64? (.integer value.toInt) = some value := by
  have hlow : Int64.minValue.toInt ≤ value.toInt := value.le_toInt
  have hhigh : value.toInt ≤ Int64.maxValue.toInt := value.toInt_le
  rw [Json.int64?, integerIn?_eq hlow hhigh, Option.map_some, Int64.ofInt_toInt]

@[simp]
theorem uint64?_toNat (value : UInt64) : Json.uint64? (.integer value.toNat) = some value := by
  have hhigh : (value.toNat : Int) ≤ Int.ofNat UInt64.size - 1 :=
    Int.le_sub_one_of_lt (Int.ofNat_lt.mpr value.toNat_lt)
  rw [Json.uint64?, integerIn?_eq (Int.natCast_nonneg _) hhigh, Option.map_some,
    Int.toNat_natCast, UInt64.ofNat_toNat]

@[simp]
theorem time?_write (instant : Instant) :
    Metadata.time? (.string (Timestamp.write instant)) = some instant := by
  rw [Metadata.time?, text?_string, Option.bind_some]
  exact Timestamps.read?_write instant

/-- The names of an enumeration tell its values apart. -/
class Lawful (α : Type) [Enumeration α] : Prop where
  named : ∀ value : α, Json.named? (Enumeration.name value) = some value

@[simp]
theorem enumeration?_ofEnumeration [Enumeration α] [Lawful α] (value : α) :
    Json.enumeration? (.ofEnumeration value) = some value :=
  Lawful.named value

instance : Lawful ConditionStatus := ⟨fun value => by cases value <;> decide⟩

instance : Lawful ClusterConditionType := ⟨fun value => by cases value <;> decide⟩

instance : Lawful ClusterPhase := ⟨fun value => by cases value <;> decide⟩

instance : Lawful ExperimentConditionType := ⟨fun value => by cases value <;> decide⟩

instance : Lawful ExperimentPhase := ⟨fun value => by cases value <;> decide⟩

instance : Lawful CommandType := ⟨fun value => by cases value <;> decide⟩

theorem mapM_map {β : Type} {encode : α → β} {decode? : β → Option α}
    (h : ∀ value, decode? (encode value) = some value) (values : List α) :
    (values.map encode).mapM decode? = some values := by
  induction values with
  | nil => rfl
  | cons value rest ih => simp [List.mapM_cons, h value, ih]

theorem listOf?_array (h : Recovers encode decode?) (values : List α) :
    Json.listOf? decode? (.array (values.map encode)) = some values :=
  mapM_map h values

@[simp]
theorem listOf?_ofTexts (texts : List String) :
    Json.listOf? Json.text? (.ofTexts texts) = some texts :=
  listOf?_array text?_string texts

theorem defaulted_list (h : Recovers encode decode?) (values : List α) [Decidable (values = [])] :
    Json.defaulted [] (Json.listOf? decode?)
      (if values = [] then none else some (.array (values.map encode))) = some values :=
  defaulted_ite (fun values : List α => .array (values.map encode)) (listOf?_array h values)

@[simp]
theorem defaulted_texts (texts : List String) [Decidable (texts = [])] :
    Json.defaulted [] (Json.listOf? Json.text?)
      (if texts = [] then none else some (.ofTexts texts)) = some texts :=
  defaulted_list text?_string texts

theorem insertEntry_last {κ ν : Type} [Ord κ] [Std.TransOrd κ] {key : κ} (value : ν)
    {entries : List (κ × ν)} (h : ∀ entry ∈ entries, compare entry.1 key = .lt) :
    OrderedMap.insertEntry key value entries = entries ++ [(key, value)] := by
  induction entries with
  | nil => rfl
  | cons head rest ih =>
      have hgt : compare key head.1 = .gt := Std.OrientedCmp.gt_of_lt (h head List.mem_cons_self)
      rw [OrderedMap.insertEntry, hgt]
      exact congrArg (head :: ·) (ih fun entry hentry => h entry (List.mem_cons_of_mem head hentry))

theorem entries_foldl_insert {κ ν : Type} [Ord κ] [Std.TransOrd κ] (rest : List (κ × ν))
    (map : OrderedMap κ ν)
    (h : (map.entries ++ rest).Pairwise fun a b => compare a.1 b.1 = .lt) :
    (rest.foldl (fun map entry => map.insert entry.1 entry.2) map).entries =
      map.entries ++ rest := by
  induction rest generalizing map with
  | nil => exact (List.append_nil _).symm
  | cons head rest ih =>
      have hlast : (map.insert head.1 head.2).entries = map.entries ++ [head] :=
        insertEntry_last head.2 fun entry hentry =>
          (List.pairwise_append.mp h).2.2 entry hentry head List.mem_cons_self
      rw [List.foldl_cons, ih, hlast, List.append_assoc]
      · rfl
      · rw [hlast, List.append_assoc]
        exact h

theorem ofList_entries {κ ν : Type} [Ord κ] [Std.TransOrd κ] (map : OrderedMap κ ν) :
    OrderedMap.ofList map.entries = map :=
  OrderedMap.ext (entries_foldl_insert map.entries .empty map.sorted)

theorem textEntry?_string (entry : String × String) :
    Json.textEntry? (entry.1, .string entry.2) = some entry :=
  rfl

@[simp]
theorem textMap?_ofTextMap (map : TextMap) : Json.textMap? (.ofTextMap map) = some map := by
  change ((map.entries.map fun entry => (entry.1, Json.string entry.2)).mapM Json.textEntry?).map
    OrderedMap.ofList = some map
  rw [mapM_map textEntry?_string, Option.map_some, ofList_entries]

theorem recovers_condition {T : Type} [Enumeration T] [Lawful T] :
    Recovers (Condition.toJson : Condition T → Json) Condition.ofJson? := by
  intro condition
  simp [Condition.ofJson?, Condition.toJson, Condition.fields, Json.isRecord, Json.field?]

@[simp]
theorem recovers_ledger {T : Type} [Enumeration T] [Lawful T] :
    Recovers (Ledger.toJson : Ledger T → Json) Ledger.ofJson? := by
  intro ledger
  rw [Ledger.ofJson?, Ledger.toJson, listOf?_array recovers_condition]
  rfl

theorem recovers_clusterSpec : Recovers ClusterSpec.toJson ClusterSpec.ofJson? := by
  intro spec
  simp [ClusterSpec.ofJson?, ClusterSpec.toJson, ClusterSpec.fields, Json.isRecord, Json.field?]

theorem recovers_clusterStatus : Recovers ClusterStatus.toJson ClusterStatus.ofJson? := by
  intro status
  simp [ClusterStatus.ofJson?, ClusterStatus.toJson, List.lookup_cons]

@[simp]
theorem recovers_vnc : Recovers VncConfig.toJson VncConfig.ofJson? := by
  intro config
  simp [VncConfig.ofJson?, VncConfig.toJson, Json.isRecord, Json.field?]

@[simp]
theorem recovers_ssh : Recovers SshConfig.toJson SshConfig.ofJson? := by
  intro config
  simp [SshConfig.ofJson?, SshConfig.toJson, List.lookup_cons]

@[simp]
theorem optional_vnc (value : Option VncConfig) :
    Json.optional VncConfig.ofJson? (value.map VncConfig.toJson) = some value :=
  optional_map recovers_vnc rfl value

@[simp]
theorem optional_ssh (value : Option SshConfig) :
    Json.optional SshConfig.ofJson? (value.map SshConfig.toJson) = some value :=
  optional_map recovers_ssh rfl value

@[simp]
theorem recovers_podTemplate : Recovers PodTemplate.toJson PodTemplate.ofJson? := by
  intro template
  simp [PodTemplate.ofJson?, PodTemplate.toJson, List.lookup_cons]

theorem recovers_templateSpec : Recovers TemplateSpec.toJson TemplateSpec.ofJson? := by
  intro spec
  simp [TemplateSpec.ofJson?, TemplateSpec.toJson, TemplateSpec.fields, List.lookup_cons]

theorem recovers_experimentSpec : Recovers ExperimentSpec.toJson ExperimentSpec.ofJson? := by
  intro spec
  simp [ExperimentSpec.ofJson?, ExperimentSpec.toJson, Json.isRecord, Json.field?]

theorem recovers_experimentStatus :
    Recovers ExperimentStatus.toJson ExperimentStatus.ofJson? := by
  intro status
  have hcluster : Json.defaulted "" Json.text?
      (if status.cluster = "" then none else some (.string status.cluster)) =
        some status.cluster := defaulted_ite .string (text?_string status.cluster)
  have hport := optional_map int32?_toInt rfl status.ingressPort
  simp [ExperimentStatus.ofJson?, ExperimentStatus.toJson, ExperimentStatus.fields,
    List.lookup_cons, hcluster, hport]

@[simp]
theorem recovers_gvk : Recovers GroupVersionKind.toJson GroupVersionKind.ofJson? := by
  intro gvk
  simp [GroupVersionKind.ofJson?, GroupVersionKind.toJson, Json.isRecord, Json.field?]

@[simp]
theorem recovers_identity : Recovers ClusterIdentity.toJson ClusterIdentity.ofJson? := by
  intro identity
  simp [ClusterIdentity.ofJson?, ClusterIdentity.toJson, Json.isRecord, Json.field?]

theorem recovers_reportedCondition :
    Recovers ReportedCondition.toJson ReportedCondition.ofJson? := by
  intro condition
  simp [ReportedCondition.ofJson?, ReportedCondition.toJson, Json.isRecord, Json.field?]

theorem recovers_resourceReport : Recovers ResourceReport.toJson ResourceReport.ofJson? := by
  intro report
  have hconditions := defaulted_list recovers_reportedCondition report.conditions
  simp [ResourceReport.ofJson?, ResourceReport.toJson, ResourceReport.fields,
    List.lookup_cons, hconditions]

theorem recovers_commandResult : Recovers CommandResult.toJson CommandResult.ofJson? := by
  intro result
  simp [CommandResult.ofJson?, CommandResult.toJson, Json.isRecord, Json.field?]

theorem recovers_command : Recovers Command.toJson Command.ofJson? := by
  intro command
  simp [Command.ofJson?, Command.toJson, Json.isRecord, Json.field?]

theorem recovers_heartbeat : Recovers Heartbeat.toJson Heartbeat.ofJson? := by
  intro heartbeat
  have hresources := defaulted_list recovers_resourceReport heartbeat.resources
  have hresult := optional_map recovers_commandResult rfl heartbeat.commandResult
  simp [Heartbeat.ofJson?, Heartbeat.toJson, Heartbeat.fields, List.lookup_cons, hresources,
    hresult]

theorem recovers_heartbeatResponse :
    Recovers HeartbeatResponse.toJson HeartbeatResponse.ofJson? := by
  intro response
  have hcommand := optional_map recovers_command rfl response.command
  simp [HeartbeatResponse.ofJson?, HeartbeatResponse.toJson, List.lookup_cons, hcommand]

/-- Writing loses nothing, and a value that was read has one written form: reading that and writing
it again changes nothing. -/
structure RoundTrips (encode : α → Json) (decode? : Json → Option α) : Prop where
  recovers : Recovers encode decode?
  settles : ∀ json value, decode? json = some value →
    decode? (encode value) = some value ∧
      (decode? (encode value)).map encode = some (encode value)

theorem roundTrips_of_recovers (h : Recovers encode decode?) : RoundTrips encode decode? := by
  refine ⟨h, fun json value _ => ⟨h value, ?_⟩⟩
  rw [h value, Option.map_some]

/-- What is stored about clusters, templates and experiments, and what agents and operator tell each
other, is written without loss. -/
theorem roundTrips_stored_and_exchanged :
    RoundTrips ClusterSpec.toJson ClusterSpec.ofJson? ∧
      RoundTrips ClusterStatus.toJson ClusterStatus.ofJson? ∧
      RoundTrips ExperimentSpec.toJson ExperimentSpec.ofJson? ∧
      RoundTrips ExperimentStatus.toJson ExperimentStatus.ofJson? ∧
      RoundTrips TemplateSpec.toJson TemplateSpec.ofJson? ∧
      RoundTrips Heartbeat.toJson Heartbeat.ofJson? ∧
      RoundTrips HeartbeatResponse.toJson HeartbeatResponse.ofJson? ∧
      RoundTrips Command.toJson Command.ofJson? :=
  ⟨roundTrips_of_recovers recovers_clusterSpec, roundTrips_of_recovers recovers_clusterStatus,
    roundTrips_of_recovers recovers_experimentSpec,
      roundTrips_of_recovers recovers_experimentStatus,
    roundTrips_of_recovers recovers_templateSpec, roundTrips_of_recovers recovers_heartbeat,
    roundTrips_of_recovers recovers_heartbeatResponse, roundTrips_of_recovers recovers_command⟩

end Fleet.Proofs.JsonRoundTrip
