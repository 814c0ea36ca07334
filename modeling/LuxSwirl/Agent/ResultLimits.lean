import LuxSwirl.Agent.CheckExecutor

/-!
# Fitting a result to the server's limits

`result_limits.py`, which `reporter.py` puts every result through, and the JSON
it travels in. The artifacts of a script's run go their own way
(`result_processor.py`).
-/

namespace LuxSwirl.Agent
open LuxSwirl.Py LuxSwirl.Lib LuxSwirl.Server

def maxErrorChars : Nat := 4000

def maxResponseDataChars : Nat := 65535

def httpStatusMin : Int := 100

def httpStatusMax : Int := 599

def truncatedMarker : Text := text "... [truncated]"

def truncate (s : Text) (limit : Nat) : Text :=
  if s.length ≤ limit then s else s.take (limit - truncatedMarker.length) ++ truncatedMarker

/-- A field that holds a text, cut to its limit. -/
def truncateField (key : String) (limit : Nat) (result : Dict) : Dict :=
  match Fields.get? (fieldKey key) result with
  | some (.str s) => Fields.set (fieldKey key) (.str (truncate s limit)) result
  | _ => result

/-- The status code of a result, when it is an integer no column takes. -/
def oddStatus (result : Dict) : Option Value :=
  match field "http_status_code" result with
  | .int n => if httpStatusMin ≤ n ∧ n ≤ httpStatusMax then none else some (.int n)
  | .bool b => some (.bool b)
  | _ => none

def fitStatus (result : Dict) : Dict :=
  match oddStatus result with
  | none => result
  | some status =>
    let result := Fields.set (fieldKey "http_status_code") .none result
    let metrics := match field "metrics" result with
      | .dict fields => fields
      | _ => []
    Fields.set (fieldKey "metrics")
      (.dict (Fields.set (fieldKey "http_status_code_raw") status metrics)) result

def fitResult (result : Dict) : Dict :=
  fitStatus (truncateField "response_data" maxResponseDataChars
    (truncateField "error" maxErrorChars result))

/-- A queued result as it is reported: its artifacts are uploaded apart. -/
def withoutArtifacts (result : Dict) : Dict :=
  if truthy (field "artifacts" result) then
    result.filter fun entry => decide (entry.1 ≠ fieldKey "artifacts")
  else result

/-- What `json.loads` gives for `json.dumps(value)`, when the value has a document. -/
def roundTrip (value : Value) : Option Value :=
  if value.dumpable then some value.decode else none

theorem length_truncate_le {s : Text} {limit : Nat} (room : truncatedMarker.length ≤ limit) :
    (truncate s limit).length ≤ limit := by
  simp only [truncate]
  split_ifs with short
  · exact short
  · rw [List.length_append, List.length_take]
    omega

theorem truncateField_of_missing {key : String} {limit : Nat} {result : Dict}
    (missing : Fields.get? (fieldKey key) result = none) : truncateField key limit result = result := by
  rw [truncateField, missing]

theorem get?_truncateField {key other : String} {limit : Nat} {result : Dict} (apart : other ≠ key) :
    Fields.get? (fieldKey other) (truncateField key limit result) =
      Fields.get? (fieldKey other) result := by
  rw [truncateField]
  split
  · rw [Fields.get?_set, if_neg (by simpa using apart.symm)]
  · rfl

theorem plain_truncateField {key : String} {limit : Nat} {result : Dict} (plain : Plain result) :
    Plain (truncateField key limit result) := by
  rw [truncateField]
  split
  · exact plain.set key _
  · exact plain

/-! ## What is sent -/

/-- An HTTP status code that no column takes. -/
def Outcome.oddStatus (outcome : Outcome) : Option Int :=
  (outcome.httpResponse.map (·.1)).filter fun n => !decide (httpStatusMin ≤ n ∧ n ≤ httpStatusMax)

/-- The metrics of a sent result. -/
def sentMetrics (check : CheckConfig) (last : Outcome × Nat) : List (String × Value) :=
  runMetrics check last ++
    (last.1.oddStatus.map fun n => ("http_status_code_raw", Value.int n)).toList

theorem nodup_sentMetrics (check : CheckConfig) (last : Outcome × Nat) :
    ((sentMetrics check last).map (·.1)).Nodup := by
  have attempts : "attempts" ∉ (((last.1.findings check).map findingsMetrics).getD []).map (·.1) :=
    findings_name (by decide)
  have raw : "http_status_code_raw" ∉
      (((last.1.findings check).map findingsMetrics).getD []).map (·.1) := findings_name (by decide)
  have found : ((((last.1.findings check).map findingsMetrics).getD []).map (·.1)).Nodup := by
    cases last.1.findings check <;> simp [findingsMetrics]
  simp only [sentMetrics, runMetrics, List.map_append]
  refine List.Nodup.append (List.Nodup.append found (by simp) ?_) ?_ ?_
  · simpa [List.disjoint_singleton] using attempts
  · cases last.1.oddStatus <;> simp
  · cases last.1.oddStatus with
    | none => simp
    | some status => simpa [List.disjoint_singleton] using raw

/-- What a result sent for a run holds under the keys the server reads. -/
structure Sent (check : CheckConfig) (run : CheckRun) (result : Dict) : Prop where
  plain : Plain result
  resultId : Fields.get? (fieldKey "result_id") result = some (.str run.resultId.str)
  timestamp : Fields.get? (fieldKey "timestamp") result = some (.float run.startedAt)
  checkId : Fields.get? (fieldKey "check_id") result = some (.str check.checkId.str)
  displayName : Fields.get? (fieldKey "display_name") result = some (.str check.name)
  checkType : Fields.get? (fieldKey "check_type") result = some (.str (text check.checkType.value))
  target : Fields.get? (fieldKey "target") result = some (.str check.target)
  success : Fields.get? (fieldKey "success") result = some (.bool (run.last check).1.succeeded)
  latencyMs : Fields.get? (fieldKey "latency_ms") result = some (run.last check).1.latencyMs
  error : Fields.get? (fieldKey "error") result =
    (run.last check).1.error.map fun e => .str (truncate e maxErrorChars)
  statusCode : Fields.get? (fieldKey "http_status_code") result =
    (run.last check).1.httpResponse.map fun response =>
      if httpStatusMin ≤ response.1 ∧ response.1 ≤ httpStatusMax then .int response.1 else .none
  responseTime : Fields.get? (fieldKey "http_response_time_ms") result =
    (run.last check).1.httpResponse.map fun response => .float response.2.value
  metrics : Fields.get? (fieldKey "metrics") result =
    some (.dict (entries (sentMetrics check (run.last check))))
  errorType : Fields.get? (fieldKey "error_type") result = none
  responseData : Fields.get? (fieldKey "response_data") result = none

/-- Taking the artifacts out changes nothing else. -/
theorem get?_withoutArtifacts {key : String} {result : Dict} (apart : key ≠ "artifacts") :
    Fields.get? (fieldKey key) (withoutArtifacts result) = Fields.get? (fieldKey key) result := by
  rw [withoutArtifacts]
  split_ifs
  · exact Fields.get?_filter_ne (by simpa using apart)
  · rfl

theorem plain_withoutArtifacts {result : Dict} (plain : Plain result) :
    Plain (withoutArtifacts result) := by
  rw [withoutArtifacts]
  split_ifs
  · exact plain.filter _
  · exact plain

/-- The status code that is taken out of a result of the outcome. -/
theorem oddStatus_eq {outcome : Outcome} {result : Dict}
    (statusCode : Fields.get? (fieldKey "http_status_code") result =
      outcome.httpResponse.map fun response => .int response.1) :
    oddStatus result = outcome.oddStatus.map .int := by
  rw [oddStatus, field, statusCode, Outcome.oddStatus]
  cases outcome.httpResponse with
  | none => rfl
  | some response =>
    by_cases even : httpStatusMin ≤ response.1 ∧ response.1 ≤ httpStatusMax
    · simp [even]
    · simpa [even] using not_and_or.mp even

theorem fitStatus_of_odd {result metrics : Dict} {status : Value} (odd : oddStatus result = some status)
    (isMetrics : Fields.get? (fieldKey "metrics") result = some (.dict metrics)) :
    fitStatus result =
      Fields.set (fieldKey "metrics") (.dict (Fields.set (fieldKey "http_status_code_raw") status metrics))
        (Fields.set (fieldKey "http_status_code") .none result) := by
  have still : field "metrics" (Fields.set (fieldKey "http_status_code") .none result) =
      .dict metrics := by
    rw [field, Fields.get?_set, if_neg (by simp), isMetrics]
    rfl
  simp only [fitStatus, odd, still]

/-- The keys that fitting a queued result sets or drops. -/
def fittedKeys : List String := ["error", "artifacts", "http_status_code", "metrics"]

/-- A queued result with the other keys as they were is a sent one. -/
theorem sent_of_agree {check : CheckConfig} {run : CheckRun} {queued result : Dict}
    (isQueued : runCheck check run = some queued) (plain : Plain result)
    (agree : ∀ {key}, key ∉ fittedKeys →
      Fields.get? (fieldKey key) result = Fields.get? (fieldKey key) queued)
    (error : Fields.get? (fieldKey "error") result =
      (run.last check).1.error.map fun e => .str (truncate e maxErrorChars))
    (statusCode : Fields.get? (fieldKey "http_status_code") result =
      (run.last check).1.httpResponse.map fun response =>
        if httpStatusMin ≤ response.1 ∧ response.1 ≤ httpStatusMax then .int response.1 else .none)
    (metrics : Fields.get? (fieldKey "metrics") result =
      some (.dict (entries (sentMetrics check (run.last check))))) :
    Sent check run result := by
  obtain ⟨reports, stamped, -⟩ := runCheck_reports isQueued
  exact {
    plain, error, statusCode, metrics
    resultId := (agree (by decide)).trans stamped.resultId
    timestamp := (agree (by decide)).trans stamped.timestamp
    checkId := (agree (by decide)).trans reports.checkId
    displayName := (agree (by decide)).trans reports.displayName
    checkType := (agree (by decide)).trans reports.checkType
    target := (agree (by decide)).trans reports.target
    success := (agree (by decide)).trans reports.success
    latencyMs := (agree (by decide)).trans reports.latencyMs
    responseTime := (agree (by decide)).trans reports.responseTime
    errorType := (agree (by decide)).trans reports.errorType
    responseData := (agree (by decide)).trans reports.responseData }

/-- What a run queues, as it is sent. -/
theorem sent_fitResult {check : CheckConfig} {run : CheckRun} {queued : Dict}
    (isQueued : runCheck check run = some queued) :
    Sent check run (fitResult (withoutArtifacts queued)) := by
  obtain ⟨reports, -, -⟩ := runCheck_reports isQueued
  let cut := truncateField "error" maxErrorChars (withoutArtifacts queued)
  have plain : Plain cut := plain_truncateField (plain_withoutArtifacts reports.plain)
  have same {key : String} (apart : key ≠ "error" ∧ key ≠ "artifacts") :
      Fields.get? (fieldKey key) cut = Fields.get? (fieldKey key) queued :=
    (get?_truncateField apart.1).trans (get?_withoutArtifacts apart.2)
  have error : Fields.get? (fieldKey "error") cut =
      (run.last check).1.error.map fun e => .str (truncate e maxErrorChars) := by
    have given : Fields.get? (fieldKey "error") (withoutArtifacts queued) =
        (run.last check).1.error.map .str := (get?_withoutArtifacts (by decide)).trans reports.error
    cases isError : (run.last check).1.error with
    | none =>
      rw [isError] at given
      simp only [cut, truncateField_of_missing given, given]
      rfl
    | some e =>
      rw [isError] at given
      simp [cut, truncateField, given, Fields.get?_set]
  have statusCode : Fields.get? (fieldKey "http_status_code") cut =
      (run.last check).1.httpResponse.map fun response => .int response.1 :=
    (same (by decide)).trans reports.statusCode
  have metrics : Fields.get? (fieldKey "metrics") cut =
      some (.dict (entries (runMetrics check (run.last check)))) :=
    (same (by decide)).trans reports.metrics
  have fitted : fitResult (withoutArtifacts queued) = fitStatus cut := by
    rw [fitResult, truncateField_of_missing]
    exact (same (by decide)).trans reports.responseData
  have odd := oddStatus_eq statusCode
  rw [fitted]
  -- the code is kept, or moved to the metrics
  cases isOdd : (run.last check).1.oddStatus with
  | none =>
    rw [isOdd] at odd
    have kept : fitStatus cut = cut := by
      rw [fitStatus, odd]
      rfl
    rw [kept]
    refine sent_of_agree isQueued plain (fun other => same (by simp_all [fittedKeys])) error ?_ ?_
    · rw [statusCode]
      cases isResponse : (run.last check).1.httpResponse with
      | none => rfl
      | some response =>
        have even : httpStatusMin ≤ response.1 ∧ response.1 ≤ httpStatusMax := by
          by_contra out
          simp [Outcome.oddStatus, isResponse, out] at isOdd
        simp [even]
    · simp [metrics, sentMetrics, isOdd]
  | some status =>
    rw [isOdd] at odd
    have moved : Fields.set (fieldKey "http_status_code_raw") (.int status)
        (entries (runMetrics check (run.last check))) =
          entries (sentMetrics check (run.last check)) := by
      rw [set_entries]
      · simp [sentMetrics, isOdd]
      · have apart : "http_status_code_raw" ∉
            (((run.last check).1.findings check).map findingsMetrics |>.getD []).map (·.1) :=
          findings_name (by decide)
        simpa [runMetrics] using apart
    rw [fitStatus_of_odd odd metrics, moved]
    refine sent_of_agree isQueued ((plain.set _ _).set _ _) (fun {key} other => ?_) ?_ ?_ ?_
    · simp only [fittedKeys, List.mem_cons, List.not_mem_nil, or_false, not_or] at other
      rw [Fields.get?_set, if_neg (by simpa using Ne.symm other.2.2.2), Fields.get?_set,
        if_neg (by simpa using Ne.symm other.2.2.1), same ⟨other.1, other.2.1⟩]
    · rw [Fields.get?_set, if_neg (by simp), Fields.get?_set, if_neg (by simp), error]
    · rw [Fields.get?_set, if_neg (by simp), Fields.get?_set, if_pos rfl]
      cases isResponse : (run.last check).1.httpResponse with
      | none => simp [Outcome.oddStatus, isResponse] at isOdd
      | some response =>
        have out : ¬(httpStatusMin ≤ response.1 ∧ response.1 ≤ httpStatusMax) := by
          rintro ⟨least, greatest⟩
          simp only [Outcome.oddStatus, isResponse] at isOdd
          obtain ⟨isCode, odd⟩ := Option.filter_eq_some_iff.mp isOdd
          cases isCode
          simp [least, greatest] at odd
        simp [out]
    · rw [Fields.get?_set, if_pos rfl]

end LuxSwirl.Agent
