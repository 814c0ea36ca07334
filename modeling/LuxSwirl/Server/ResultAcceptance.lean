import LuxSwirl.Agent.ResultLimits
import LuxSwirl.Server.CheckResultSchema
import LuxSwirl.Server.Checks

/-!
# Whether a reported result is accepted

The agent fits a result to the server's limits on lengths and status codes; the
server's schema also refuses text that no column holds and a negative time.
`results_accepted_iff` says which runs' results it takes. `Acceptable` is about
what the run met with: its last attempt, and the clock.
-/

namespace LuxSwirl.Server
open LuxSwirl.Py LuxSwirl.Lib LuxSwirl.Agent

/-- What the server receives of a run of a served check. -/
def receivedResult (response : CheckResponse) (run : CheckRun) : Option Value :=
  (runCheck (transformCheckConfig response) run).bind fun queued =>
    roundTrip (.dict (fitResult (withoutArtifacts queued)))

/-- A value a column holds, once it has been through JSON. -/
def arrivesStorable (v : Value) : Bool := storableValue v.decode

/-- A number that a time can be. -/
def timeFits (pydantic : Pydantic) : Value → Bool
  | .int n => decide (0 ≤ n) && (floatOfInt n).isSome
  | .float x => atLeastZero pydantic x
  | _ => true

def clockFits : Py.Float → Bool
  | .finite x => datetimeHolds x
  | .special _ => false

/-- The clock reads a date, a script that sets its own time sets a number that is
not negative, and the error that is kept and the findings are storable. -/
structure Acceptable (pydantic : Pydantic) (check : CheckConfig) (run : CheckRun) : Prop where
  clock : clockFits run.startedAt = true
  time : ∀ v ∈ (run.last check).1.scriptTime, timeFits pydantic v = true
  error : ∀ e ∈ (run.last check).1.error, arrivesStorable (.str (truncate e maxErrorChars)) = true
  findings : ∀ found ∈ (run.last check).1.findings check, arrivesStorable (.dict found.2) = true

/-! ## The readers -/

theorem arrivesStorable_str {s : Text} (storable : storableText s = true) :
    arrivesStorable (.str s) = true := by
  rw [arrivesStorable, Value.decode, joinSurrogates_of_storable storable]
  exact storable

theorem readStorableText_isSome {maxLength : Nat} {s : Text} (short : s.length ≤ maxLength) :
    (readStorableText maxLength (Value.str s).decode).isSome = arrivesStorable (.str s) := by
  rw [Value.decode, readStorableText, Option.isSome_map,
    storableTextOf_isSome ((length_joinSurrogates_le s).trans short)]
  rfl

/-- A time that was measured is read. -/
theorem readMillis (pydantic : Pydantic) (latency : Millis) :
    (readNonNegativeFloat pydantic (.float latency.value)).isSome = true := by
  have fits : atLeastZero pydantic latency.value = true := by
    rw [atLeastZero, if_neg, latency.notNegative]
    intro isNan
    have positive := latency.notNegative
    rw [isNan] at positive
    cases positive
  simp [readNonNegativeFloat, floatIn, fits]

theorem floatOfInt_eq {n : Int} {x : Py.Float} (isFloat : floatOfInt n = some x) : x = .finite n := by
  rw [floatOfInt] at isFloat
  split_ifs at isFloat
  exact (Option.some.inj isFloat).symm

/-- A script's time that counting did not trip over is read when it fits. -/
theorem readScriptTime (pydantic : Pydantic) {total v : Value} (isTrue : truthy v = true)
    (counted : adds total v = true) :
    (nullable (readNonNegativeFloat pydantic) v.decode).isSome = timeFits pydantic v := by
  cases v with
  | bool b =>
    cases b <;> simp [Value.decode, nullable, readNonNegativeFloat, floatIn, timeFits, atLeastZero,
      Py.Float.le]
  | int n =>
    simp only [Value.decode, nullable, readNonNegativeFloat, floatIn, timeFits, Option.isSome_map]
    cases isFloat : floatOfInt n with
    | none => simp
    | some x =>
      have sign : (0 : ℚ) ≤ n ↔ 0 ≤ n := Rat.intCast_nonneg
      by_cases positive : 0 ≤ n <;>
        simp [floatOfInt_eq isFloat, atLeastZero, Py.Float.le, sign, positive]
  | float x =>
    simp only [Value.decode, nullable, readNonNegativeFloat, floatIn, timeFits, Option.isSome_map]
    by_cases fits : atLeastZero pydantic x = true <;> simp [fits]
  | none => cases isTrue
  | str s => cases total <;> cases counted
  | list items => cases total <;> cases counted
  | dict fields => cases total <;> cases counted
  | object => cases total <;> cases counted

/-- The latency of an outcome is read, unless a script set it to what is not one. -/
theorem readLatency (pydantic : Pydantic) {total : Value} {outcome : Outcome}
    (counted : truthy outcome.latencyMs = true → adds total outcome.latencyMs = true) :
    (nullable (readNonNegativeFloat pydantic) outcome.latencyMs.decode).isSome = true ↔
      ∀ v ∈ outcome.scriptTime, timeFits pydantic v = true := by
  rcases outcome.latencyMs_cases with ⟨measured, latency, isLatency⟩ | ⟨v, isTime, isLatency, isTrue⟩
  · rw [isLatency, measured]
    refine iff_of_true ?_ (by simp)
    cases latency with
    | none => rfl
    | some latency => exact readMillis pydantic latency
  · rw [isLatency] at counted
    rw [isLatency, isTime, readScriptTime pydantic isTrue (counted isTrue)]
    simp

/-- The metrics of a result are taken when every value in them is storable. -/
theorem readMetrics {fields : List (String × Value)} (nodup : (fields.map (·.1)).Nodup)
    (names : ∀ field ∈ fields, storableText (text field.1) = true) :
    (readStorableJson (Value.dict (entries fields)).decode).isSome = true ↔
      ∀ field ∈ fields, arrivesStorable field.2 = true := by
  rw [Value.decode, (plain_entries nodup).decodeFields, readStorableJson]
  have held : storableFields ((entries fields).map fun entry => (entry.1, entry.2.decode)) = true ↔
      ∀ field ∈ fields, arrivesStorable field.2 = true := by
    simp only [storableFields_iff, entries, List.forall_mem_map]
    exact forall₂_congr fun field mem => and_iff_right (names field mem)
  split_ifs with storable
  · simpa using held.mp storable
  · simpa using mt held.mpr storable

/-- The names in a result's metrics are storable. -/
theorem names_sentMetrics (check : CheckConfig) (last : Outcome × Nat) :
    ∀ field ∈ sentMetrics check last, storableText (text field.1) = true := by
  have known : ∀ name ∈ findingNames ++ ["attempts", "http_status_code_raw"],
      storableText (text name) = true := by decide
  intro field mem
  refine known _ ?_
  simp only [sentMetrics, runMetrics, List.mem_append] at mem
  rcases mem with (found | isAttempts) | isRaw
  · cases isFound : last.1.findings check with
    | none => simp [isFound] at found
    | some names =>
      simp only [isFound, Option.map_some, Option.getD_some, findingsMetrics,
        List.mem_singleton] at found
      rw [found]
      exact List.mem_append_left _ (mem_findingNames isFound)
  · rw [List.mem_singleton.mp isAttempts]
    exact List.mem_append_right _ (by simp)
  · obtain ⟨status, -, rfl⟩ := Option.map_eq_some_iff.mp (Option.mem_toList.mp isRaw)
    exact List.mem_append_right _ (by simp)

/-- The metrics of a result are storable when its findings are. -/
theorem storable_sentMetrics (check : CheckConfig) (last : Outcome × Nat) :
    (∀ field ∈ sentMetrics check last, arrivesStorable field.2 = true) ↔
      ∀ found ∈ last.1.findings check, arrivesStorable (.dict found.2) = true := by
  have number (n : Int) : arrivesStorable (.int n) = true := rfl
  simp only [sentMetrics, runMetrics, List.forall_mem_append]
  cases last.1.findings check <;> cases last.1.oddStatus <;> simp [findingsMetrics, number]

/-! ## The result as a whole -/

/-- A served check's target is short and storable also as the agent loads it. -/
theorem target_fits {check : Check} {response : CheckResponse}
    (served : check.toResponse = some response) :
    (transformCheckConfig response).target.length ≤ 512 ∧
      storableText (transformCheckConfig response).target = true := by
  obtain ⟨-, short, storable⟩ := Check.of_toResponse served
  have front := target_transformCheckConfig response
  exact ⟨front.length_le.trans short, storableText_of_subset front.subset storable⟩

theorem readCheckType (checkType : CheckType) :
    (readOneOf resultTypes (Value.str (text checkType.value)).decode).isSome = true := by
  rw [Value.decode, joinSurrogates_text]
  cases checkType <;> decide

theorem readUuid_str (uuid : Uuid) : (readUuid (Value.str uuid.str).decode).isSome = true := by
  rw [Value.decode, joinSurrogates_of_storable (storableText_uuid uuid), readUuid, uuid.read_str]
  rfl

/-- A status code is kept when the server takes it. -/
theorem readStatus (pydantic : Pydantic) (status : Int) :
    (nullable (readIntBetween pydantic 100 599)
      (if httpStatusMin ≤ status ∧ status ≤ httpStatusMax then Value.int status
        else .none).decode).isSome = true := by
  split_ifs with even
  · have taken : decide ((100 : Int) ≤ status ∧ status ≤ 599) = true := decide_eq_true even
    simp only [Value.decode, nullable, readIntBetween, intIn, Option.filter_some, taken, if_true,
      Option.map_some, Option.isSome_some]
  · rfl

/-- What a sent result of a check has to meet to be accepted, field by field. -/
theorem validateResult_sent (pydantic : Pydantic) {check : CheckConfig} {run : CheckRun} {result : Dict}
    (sent : Sent check run result)
    (name : check.name.length ≤ 255 ∧ storableText check.name = true)
    (target : check.target.length ≤ 512 ∧ storableText check.target = true) :
    (validateResult pydantic (Value.dict result).decode).isSome = true ↔
      clockFits run.startedAt = true ∧
      (nullable (readNonNegativeFloat pydantic) (run.last check).1.latencyMs.decode).isSome = true ∧
      (∀ e ∈ (run.last check).1.error, arrivesStorable (.str (truncate e maxErrorChars)) = true) ∧
      (readStorableJson
        (Value.dict (entries (sentMetrics check (run.last check)))).decode).isSome = true := by
  rw [Value.decode, validateResult, Schema.validate_isSome]
  simp only [checkResultCreate, List.forall_mem_cons, Schema.Field.take, requiredField_key,
    optionalField_key, sent.plain.get?_decode, sent.timestamp, sent.success, sent.latencyMs,
    sent.error, sent.resultId, sent.checkId, sent.displayName, sent.checkType, sent.target,
    sent.errorType, sent.statusCode, sent.responseTime, sent.metrics, sent.responseData,
    Option.map_some, Option.map_none, Option.map_map, requiredField_of, optionalField_of_none,
    optionalField_of_some, optionalField_of_map, Function.comp]
  have clock : (readDatetime pydantic (Value.float run.startedAt).decode).isSome =
      clockFits run.startedAt := by
    rw [Value.decode]
    cases run.startedAt with
    | finite x => by_cases holds : datetimeHolds x = true <;> simp [readDatetime, clockFits, holds]
    | special x => rfl
  have error (e : Text) : (readStorableText 4000 (Value.str (truncate e maxErrorChars)).decode).isSome =
      arrivesStorable (.str (truncate e maxErrorChars)) :=
    readStorableText_isSome (length_truncate_le (by decide))
  have resultId : (readStorableText 64 (Value.str run.resultId.str).decode).isSome = true := by
    rw [readStorableText_isSome (by rw [run.resultId.length_str]; decide)]
    exact arrivesStorable_str (storableText_uuid run.resultId)
  have displayName : (readStorableText 255 (Value.str check.name).decode).isSome = true := by
    rw [readStorableText_isSome name.1]
    exact arrivesStorable_str name.2
  have isTarget : (readStorableText 512 (Value.str check.target).decode).isSome = true := by
    rw [readStorableText_isSome target.1]
    exact arrivesStorable_str target.2
  have success : (readBool pydantic (Value.bool (run.last check).1.succeeded).decode).isSome = true :=
    rfl
  have str (s : Text) (read : Value → Option Value) :
      nullable read (Value.str s).decode = read (Value.str s).decode := rfl
  have status (response : Int × Millis) := readStatus pydantic response.1
  have responseTime (response : Int × Millis) :
      (nullable (readNonNegativeFloat pydantic) (Value.float response.2.value).decode).isSome = true :=
    readMillis pydantic response.2
  have metrics (fields : Dict) : nullable readStorableJson (Value.dict fields).decode =
      readStorableJson (Value.dict fields).decode := rfl
  simp [clock, success, str, error, resultId, readUuid_str, displayName, isTarget, readCheckType,
    status, responseTime, metrics]

/-- A check of a domain's TXT records, as it is asked for. -/
def txtCheck : CheckCreate where
  displayName := text "records"
  checkType := .dns
  target := text "example.com"
  config := [(fieldKey "record_type", .str (text "TXT"))]

def oneAgent : Db where
  agents := [{ id := 1, approvalStatus := .active, createdAt := 0 }]

/-- A run that is answered with one record. -/
def recordRun (record : Text) : CheckRun where
  first := .returned (.dns true (some ⟨.finite 5, by decide⟩) none
    (entries [("records", .list [.str record])]))
  again _ := none
  resultId := Uuid.ofId 9
  agentId := text "agent"
  runId := text "run"
  startedAt := .finite 1700000000
  totalLatency := .int 0

/-- Texts are read as nothing but texts. -/
def textsOnly : Pydantic where
  boolOf _ := none
  intOf _ := none
  floatOf _ := none
  datetimeOf _ := false
  nanPasses := false

/-- The check's row, once it is created. -/
def txtRow : Check := txtCheck.row 2 1 0

theorem last_recordRun (record : Text) (check : CheckConfig) :
    (recordRun record).last check = ((recordRun record).first, 1) := by
  rw [CheckRun.last]
  cases check.retryAttempts <;> rfl

end LuxSwirl.Server
