import LuxSwirl.Agent.CheckConfig

/-!
# Running a check

`check_executor.py`, over what the checks' own classes hand to `create_result`
(`base.py`). What a target, a driver or a script gives is arbitrary: `Returned`
has the fields a class fills in, by kind of check, and `Outcome` the ways an
attempt ends. When a retry still fits the interval is arbitrary as well.
-/

namespace LuxSwirl.Agent
open LuxSwirl.Py LuxSwirl.Lib LuxSwirl.Server

/-- A Python dict with the keys of a result. -/
abbrev Dict := List (Key × Value)

/-- The entries a literal or keyword arguments name. -/
def entries (fields : List (String × Value)) : Dict :=
  fields.map fun field => (fieldKey field.1, field.2)

/-- `fields.update(given)` -/
def update (fields : Dict) (given : List (String × Value)) : Dict :=
  (entries given).foldl (fun fields entry => Fields.set entry.1 entry.2 fields) fields

@[simp] theorem get?_entries_nil (key : String) : Fields.get? (fieldKey key) (entries []) = none := rfl

@[simp] theorem get?_entries_cons (key name : String) (value : Value) (rest : List (String × Value)) :
    Fields.get? (fieldKey key) (entries ((name, value) :: rest)) =
      if name = key then some value else Fields.get? (fieldKey key) (entries rest) := by
  by_cases same : name = key <;> simp [entries, Fields.get?, same]

@[simp] theorem get?_entries_append (key : String) (xs ys : List (String × Value)) :
    Fields.get? (fieldKey key) (entries (xs ++ ys)) =
      (Fields.get? (fieldKey key) (entries xs)).or (Fields.get? (fieldKey key) (entries ys)) := by
  induction xs with
  | nil => rfl
  | cons head rest ih =>
    rw [List.cons_append, get?_entries_cons, get?_entries_cons, ih]
    split_ifs <;> rfl

theorem get?_entries_of_not_mem {key : String} {fields : List (String × Value)}
    (absent : key ∉ fields.map (·.1)) : Fields.get? (fieldKey key) (entries fields) = none := by
  induction fields with
  | nil => rfl
  | cons head rest ih =>
    simp only [List.map_cons, List.mem_cons, not_or] at absent
    rw [get?_entries_cons, if_neg (Ne.symm absent.1), ih absent.2]

/-- The last of the entries with a key is the one an update leaves. -/
theorem get?_update (key : String) (fields : Dict) (given : List (String × Value)) :
    Fields.get? (fieldKey key) (update fields given) =
      (Fields.get? (fieldKey key) (entries given.reverse)).or (Fields.get? (fieldKey key) fields) := by
  induction given generalizing fields with
  | nil => rfl
  | cons head rest ih =>
    have shifted : update fields (head :: rest) = update (Fields.set (fieldKey head.1) head.2 fields) rest := rfl
    rw [shifted, ih, List.reverse_cons, get?_entries_append, Fields.get?_set, Option.or_assoc,
      get?_entries_cons]
    by_cases same : head.1 = key <;> simp [same]

theorem plain_update {fields : Dict} (plain : Plain fields) (given : List (String × Value)) :
    Plain (update fields given) := by
  induction given generalizing fields with
  | nil => exact plain
  | cons head rest ih => exact ih (plain.set head.1 head.2)

theorem plain_entries {fields : List (String × Value)} (nodup : (fields.map (·.1)).Nodup) :
    Plain (entries fields) where
  nodup := by
    have keys : (entries fields).map (·.1) = (fields.map (·.1)).map fieldKey := by
      simp [entries]
    rw [keys]
    exact nodup.map fun a b same => fieldKey_inj.mp same
  strict entry mem := by
    obtain ⟨field, -, rfl⟩ := List.mem_map.mp mem
    exact utf8Encodable_text field.1

/-- A measured time, which is not negative. -/
structure Millis where
  value : Py.Float
  notNegative : Py.Float.le (.finite 0) value = true

def Millis.orNone (latency : Option Millis) : Value :=
  (latency.map fun ms => .float ms.value).getD .none

/-- What a check's `run` makes its result of. -/
inductive Returned where
  /-- An HTTP or JSON check that got no response. -/
  | unanswered (error : Text)
  | http (success : Bool) (latency : Millis) (error : Option Text) (statusCode : Int)
    (response : Dict)
  | json (success : Bool) (latency : Millis) (error : Option Text) (response : Dict)
  | tcp (success : Bool) (connectLatency echoLatency : Option Millis) (error response : Option Text)
  | ping (success : Bool) (average : Option Millis) (error : Option Text)
    (packetLoss statistics : Value)
  | dns (success : Bool) (latency : Option Millis) (error : Option Text) (answer : Dict)
  /-- A MySQL or PostgreSQL check. -/
  | database (success : Bool) (latency : Option Millis) (error : Option Text) (answer : Dict)
  /-- What a script's run collected, with its own fields written over the agent's. -/
  | synthetic (resultData : Dict) (errors : List Text) (artifacts : Value) (totalTime : Millis)

/-- How one attempt ends. -/
inductive Outcome where
  | returned (value : Returned)
  | configError (message : Text)
  | timeout
  | ssrfBlocked (message : Text)
  | exception (message : Text)

/-! ## Results -/

/-- What every result of a check begins with. -/
def resultBase (check : CheckConfig) : List (String × Value) :=
  [("check_id", .str check.checkId.str), ("display_name", .str check.name),
    ("check_type", .str (text check.checkType.value)), ("target", .str check.target)]

def createResult (check : CheckConfig) (success : Bool) (latencyMs : Value) (error : Option Text)
    (kwargs : List (String × Value)) : Dict :=
  let result := entries (resultBase check ++ [("success", .bool success), ("latency_ms", latencyMs)])
  let result := match error.filter fun e => !e.isEmpty with
    | some error => Fields.set (fieldKey "error") (.str error) result
    | none => result
  update result kwargs

def field (key : String) (fields : Dict) : Value := (Fields.get? (fieldKey key) fields).getD .none

namespace Returned

/-- A script's own time, which stands for the latency. -/
def scriptTime (resultData : Dict) : Option Value :=
  (Fields.get? (fieldKey "script_execution_time_ms") resultData).filter truthy

def succeeded (resultData : Dict) : Bool :=
  decide (field "status" resultData = .str (text "success"))

/-- The first three errors of a script that failed. -/
def errorMessage (resultData : Dict) (errors : List Text) : Option Text :=
  if succeeded resultData ∨ errors = [] then none else some (join (text "; ") (errors.take 3))

def result (check : CheckConfig) : Returned → Dict
  | unanswered error => createResult check false .none (some error) []
  | http success latency error statusCode response =>
    createResult check success (.float latency.value) error
      [("http_status_code", .int statusCode), ("http_response_time_ms", .float latency.value),
        ("metrics", .dict (entries [("response", .dict response)]))]
  | json success latency error response =>
    createResult check success (.float latency.value) error [("response", .dict response)]
  | tcp success connectLatency echoLatency error response =>
    createResult check success (Millis.orNone connectLatency) error
      ([("target_host", .str check.target), ("target_port", (check.port.map .int).getD .none)] ++
        (connectLatency.map fun ms => ("connect_latency_ms", Value.float ms.value)).toList ++
        (echoLatency.map fun ms => ("echo_latency_ms", Value.float ms.value)).toList ++
        (response.map fun s => ("response", Value.str s)).toList)
  | ping success average error packetLoss statistics =>
    createResult check success (Millis.orNone average) error
      [("target_host", .str check.target), ("packet_loss", packetLoss),
        ("ping_statistics", statistics)]
  | dns success latency error answer =>
    createResult check success (Millis.orNone latency) error
      [("metrics", .dict (entries [("dns", .dict answer)]))]
  | database success latency error answer =>
    createResult check success (Millis.orNone latency) error
      [("metrics", .dict (entries [(check.checkType.value, .dict answer)]))]
  | synthetic resultData errors artifacts totalTime =>
    createResult check (succeeded resultData)
      ((scriptTime resultData).getD (.float totalTime.value)) (errorMessage resultData errors)
      [("synthetic_status", field "status" resultData), ("steps", field "steps" resultData),
        ("console_errors", field "console_errors" resultData),
        ("request_failures", field "request_failures" resultData),
        ("browser_timing", field "browser_timing" resultData), ("artifacts", artifacts),
        ("metrics", .dict (entries [("synthetic", .dict resultData)]))]

end Returned

def failure (check : CheckConfig) (error : Text) : Dict :=
  entries (resultBase check ++ [("success", .bool false), ("latency_ms", .none), ("error", .str error)])

/-- `_run`: the result of one attempt. -/
def runOnce (check : CheckConfig) : Outcome → Dict
  | .returned value => value.result check
  | .configError message => failure check (text "Invalid configuration: " ++ message)
  | .timeout => failure check (text "timeout")
  | .ssrfBlocked message => failure check message
  | .exception message => failure check message

/-! ## What an attempt reports -/

namespace Outcome

def succeeded : Outcome → Bool
  | .returned (.http success ..) => success
  | .returned (.json success ..) => success
  | .returned (.tcp success ..) => success
  | .returned (.ping success ..) => success
  | .returned (.dns success ..) => success
  | .returned (.database success ..) => success
  | .returned (.synthetic resultData ..) => Returned.succeeded resultData
  | _ => false

/-- The error reported; a check's own empty one is none. -/
def error : Outcome → Option Text
  | .returned value => (match value with
    | .unanswered error => some error
    | .http _ _ error .. => error
    | .json _ _ error _ => error
    | .tcp _ _ _ error _ => error
    | .ping _ _ error .. => error
    | .dns _ _ error _ => error
    | .database _ _ error _ => error
    | .synthetic resultData errors .. => Returned.errorMessage resultData errors).filter fun e =>
      !e.isEmpty
  | .configError message => some (text "Invalid configuration: " ++ message)
  | .timeout => some (text "timeout")
  | .ssrfBlocked message => some message
  | .exception message => some message

def latencyMs : Outcome → Value
  | .returned (.http _ latency ..) => .float latency.value
  | .returned (.json _ latency ..) => .float latency.value
  | .returned (.tcp _ latency ..) => Millis.orNone latency
  | .returned (.ping _ average ..) => Millis.orNone average
  | .returned (.dns _ latency ..) => Millis.orNone latency
  | .returned (.database _ latency ..) => Millis.orNone latency
  | .returned (.synthetic resultData _ _ totalTime) =>
    (Returned.scriptTime resultData).getD (.float totalTime.value)
  | _ => .none

/-- The time a script set itself. -/
def scriptTime : Outcome → Option Value
  | .returned (.synthetic resultData ..) => Returned.scriptTime resultData
  | _ => none

/-- A latency was measured, or is a script's own time. -/
theorem latencyMs_cases (outcome : Outcome) :
    (outcome.scriptTime = none ∧ ∃ latency, outcome.latencyMs = Millis.orNone latency) ∨
      ∃ v, outcome.scriptTime = some v ∧ outcome.latencyMs = v ∧ truthy v = true := by
  cases outcome with
  | returned value =>
    cases value with
    | unanswered error => exact .inl ⟨rfl, none, rfl⟩
    | http success latency => exact .inl ⟨rfl, some latency, rfl⟩
    | json success latency => exact .inl ⟨rfl, some latency, rfl⟩
    | tcp success latency => exact .inl ⟨rfl, latency, rfl⟩
    | ping success average => exact .inl ⟨rfl, average, rfl⟩
    | dns success latency => exact .inl ⟨rfl, latency, rfl⟩
    | database success latency => exact .inl ⟨rfl, latency, rfl⟩
    | synthetic resultData errors artifacts totalTime =>
      simp only [scriptTime, latencyMs]
      cases isTime : Returned.scriptTime resultData with
      | none => exact .inl ⟨rfl, some totalTime, rfl⟩
      | some v => exact .inr ⟨v, rfl, rfl, (Option.filter_eq_some_iff.mp isTime).2⟩
  | _ => exact .inl ⟨rfl, none, rfl⟩

/-- The status code and the time of an HTTP check's response. -/
def httpResponse : Outcome → Option (Int × Millis)
  | .returned (.http _ latency _ statusCode _) => some (statusCode, latency)
  | _ => none

/-- What the attempt found out, under its key of the metrics. -/
def findings (check : CheckConfig) : Outcome → Option (String × Dict)
  | .returned (.http _ _ _ _ response) => some ("response", response)
  | .returned (.dns _ _ _ answer) => some ("dns", answer)
  | .returned (.database _ _ _ answer) => some (check.checkType.value, answer)
  | .returned (.synthetic resultData ..) => some ("synthetic", resultData)
  | _ => none

end Outcome

/-- The metrics of an attempt that has some. -/
def findingsMetrics (findings : String × Dict) : List (String × Value) :=
  [(findings.1, .dict findings.2)]

/-- What a result of the outcome holds under the keys the server reads. -/
structure Reports (check : CheckConfig) (outcome : Outcome) (metrics : Option (List (String × Value)))
    (result : Dict) : Prop where
  plain : Plain result
  checkId : Fields.get? (fieldKey "check_id") result = some (.str check.checkId.str)
  displayName : Fields.get? (fieldKey "display_name") result = some (.str check.name)
  checkType : Fields.get? (fieldKey "check_type") result = some (.str (text check.checkType.value))
  target : Fields.get? (fieldKey "target") result = some (.str check.target)
  success : Fields.get? (fieldKey "success") result = some (.bool outcome.succeeded)
  latencyMs : Fields.get? (fieldKey "latency_ms") result = some outcome.latencyMs
  error : Fields.get? (fieldKey "error") result = outcome.error.map .str
  statusCode : Fields.get? (fieldKey "http_status_code") result =
    outcome.httpResponse.map fun response => .int response.1
  responseTime : Fields.get? (fieldKey "http_response_time_ms") result =
    outcome.httpResponse.map fun response => .float response.2.value
  metrics : Fields.get? (fieldKey "metrics") result = metrics.map fun fields => .dict (entries fields)
  errorType : Fields.get? (fieldKey "error_type") result = none
  responseData : Fields.get? (fieldKey "response_data") result = none

theorem plain_createResult (check : CheckConfig) (success : Bool) (latencyMs : Value)
    (error : Option Text) (kwargs : List (String × Value)) :
    Plain (createResult check success latencyMs error kwargs) := by
  have base : Plain (entries (resultBase check ++
      [("success", .bool success), ("latency_ms", latencyMs)])) :=
    plain_entries (by simp [resultBase])
  refine plain_update ?_ kwargs
  split
  · exact base.set "error" _
  · exact base

theorem get?_createResult (check : CheckConfig) (success : Bool) (latencyMs : Value)
    (error : Option Text) (kwargs : List (String × Value)) (key : String) :
    Fields.get? (fieldKey key) (createResult check success latencyMs error kwargs) =
      (Fields.get? (fieldKey key) (entries kwargs.reverse)).or
        (if key = "error" then (error.filter fun e => !e.isEmpty).map .str
        else Fields.get? (fieldKey key)
          (entries (resultBase check ++ [("success", .bool success), ("latency_ms", latencyMs)]))) := by
  rw [createResult, get?_update]
  congr 1
  cases error.filter fun e => !e.isEmpty with
  | none =>
    by_cases isError : key = "error" <;> simp [isError, resultBase]
  | some e =>
    by_cases isError : key = "error"
    · simp [Fields.get?_set, isError]
    · simp [Fields.get?_set, isError, Ne.symm isError]

/-- The keys of a result that the base class fills in, or nothing does. -/
def baseKeys : List String :=
  ["check_id", "display_name", "check_type", "target", "success", "latency_ms", "error",
    "error_type", "response_data"]

/-- A class whose keywords are about the response and the metrics alone reports those. -/
theorem reports_createResult {check : CheckConfig} {outcome : Outcome} {error : Option Text}
    {kwargs : List (String × Value)} (isError : outcome.error = error.filter fun e => !e.isEmpty)
    (base : ∀ key ∈ baseKeys, key ∉ kwargs.map (·.1))
    (statusCode : Fields.get? (fieldKey "http_status_code") (entries kwargs.reverse) =
      outcome.httpResponse.map fun response => .int response.1)
    (responseTime : Fields.get? (fieldKey "http_response_time_ms") (entries kwargs.reverse) =
      outcome.httpResponse.map fun response => .float response.2.value)
    (metrics : Fields.get? (fieldKey "metrics") (entries kwargs.reverse) =
      ((outcome.findings check).map findingsMetrics).map fun fields => .dict (entries fields)) :
    Reports check outcome ((outcome.findings check).map findingsMetrics)
      (createResult check outcome.succeeded outcome.latencyMs error kwargs) := by
  have own (key : String) (mem : key ∈ baseKeys) :
      Fields.get? (fieldKey key) (entries kwargs.reverse) = none :=
    get?_entries_of_not_mem (by simpa using base key mem)
  simp only [baseKeys, List.forall_mem_cons] at own
  obtain ⟨checkId, displayName, checkType, target, success, latencyMs, ofError, errorType,
    responseData, -⟩ := own
  refine ⟨plain_createResult .., ?_, ?_, ?_, ?_, ?_, ?_, ?_, ?_, ?_, ?_, ?_, ?_⟩
  all_goals rw [get?_createResult]
  · simp [checkId, resultBase]
  · simp [displayName, resultBase]
  · simp [checkType, resultBase]
  · simp [target, resultBase]
  · simp [success, resultBase]
  · simp [latencyMs, resultBase]
  · simp [ofError, isError]
  · simp [statusCode, resultBase]
  · simp [responseTime, resultBase]
  · simp [metrics, resultBase]
  · simp [errorType, resultBase]
  · simp [responseData, resultBase]

/-- An attempt that ends in an exception reports its text and nothing else. -/
theorem reports_failure {check : CheckConfig} {outcome : Outcome} {error : Text}
    (reported : outcome.error = some error) (success : outcome.succeeded = false)
    (latency : outcome.latencyMs = .none) (response : outcome.httpResponse = none)
    (findings : outcome.findings check = none) :
    Reports check outcome ((outcome.findings check).map findingsMetrics) (failure check error) := by
  constructor <;>
    simp [failure, resultBase, reported, success, latency, response, findings, plain_entries]

/-- The result of an attempt reports what came of it. -/
theorem reports_runOnce (check : CheckConfig) (outcome : Outcome) :
    Reports check outcome ((outcome.findings check).map findingsMetrics) (runOnce check outcome) := by
  cases outcome with
  | returned value =>
    cases value with
    | unanswered error => exact reports_createResult (by rfl) (by simp) (by rfl) (by rfl) (by rfl)
    | http success latency error statusCode response =>
      exact reports_createResult (by rfl) (by simp [baseKeys]) (by simp [Outcome.httpResponse])
        (by simp [Outcome.httpResponse]) (by simp [Outcome.findings, findingsMetrics])
    | json success latency error response =>
      exact reports_createResult (by rfl) (by simp [baseKeys]) (by simp [Outcome.httpResponse])
        (by simp [Outcome.httpResponse]) (by simp [Outcome.findings])
    | tcp success connectLatency echoLatency error response =>
      rcases connectLatency with - | connectLatency <;> rcases echoLatency with - | echoLatency <;>
        rcases response with - | response <;>
        exact reports_createResult (by rfl) (by simp [baseKeys]) (by simp [Outcome.httpResponse])
        (by simp [Outcome.httpResponse]) (by simp [Outcome.findings])
    | ping success average error packetLoss statistics =>
      exact reports_createResult (by rfl) (by simp [baseKeys]) (by simp [Outcome.httpResponse])
        (by simp [Outcome.httpResponse]) (by simp [Outcome.findings])
    | dns success latency error answer =>
      exact reports_createResult (by rfl) (by simp [baseKeys]) (by simp [Outcome.httpResponse])
        (by simp [Outcome.httpResponse]) (by simp [Outcome.findings, findingsMetrics])
    | database success latency error answer =>
      exact reports_createResult (by rfl) (by simp [baseKeys]) (by simp [Outcome.httpResponse])
        (by simp [Outcome.httpResponse]) (by simp [Outcome.findings, findingsMetrics])
    | synthetic resultData errors artifacts totalTime =>
      exact reports_createResult (by rfl) (by simp [baseKeys]) (by simp [Outcome.httpResponse])
        (by simp [Outcome.httpResponse]) (by simp [Outcome.findings, findingsMetrics])
  | configError message => exact reports_failure rfl rfl rfl rfl rfl
  | timeout => exact reports_failure rfl rfl rfl rfl rfl
  | ssrfBlocked message => exact reports_failure rfl rfl rfl rfl rfl
  | exception message => exact reports_failure rfl rfl rfl rfl rfl

/-! ## A run -/

/-- One run of a check: how its attempts end, and what stamps its result. -/
structure CheckRun where
  first : Outcome
  /-- The retry after `n` attempts, when it still fits the interval. -/
  again : Nat → Option Outcome
  resultId : Uuid
  agentId : Text
  runId : Text
  startedAt : Py.Float
  /-- The latencies of the check's earlier runs, added up. -/
  totalLatency : Value

/-- The retries left: the result to report and the attempts it took. -/
def retryWhile (check : CheckConfig) (again : Nat → Option Outcome) :
    Nat → Nat → Dict → Dict × Nat
  | 0, attempts, result => (result, attempts)
  | left + 1, attempts, result =>
    if truthy (field "success" result) then (result, attempts)
    else
      match again attempts with
      | none => (result, attempts)
      | some outcome => retryWhile check again left (attempts + 1) (runOnce check outcome)

/-- `total += latency` of two numbers raises nothing; `total` is one. -/
def adds (total latency : Value) : Bool :=
  match total, latency with
  | .float _, .float _ => true
  | .float _, .int n => (floatOfInt n).isSome
  | .int n, .float _ => (floatOfInt n).isSome
  | _, .int _ | _, .bool _ => true
  | _, _ => false

/-- `_record`: the result that is queued, or none when counting it raises. -/
def record (run : CheckRun) (result : Dict) : Option Dict :=
  let latency := field "latency_ms" result
  if truthy latency ∧ !adds run.totalLatency latency then none
  else
    some (update result [("result_id", .str run.resultId.str), ("agent_id", .str run.agentId),
      ("agent_run_id", .str run.runId), ("timestamp", .float run.startedAt)])

/-- The metrics of a result, with the attempts it took. -/
def withAttempts (attempts : Nat) (result : Dict) : Dict :=
  let metrics := match field "metrics" result with
    | .dict fields => fields
    | _ => []
  Fields.set (fieldKey "metrics")
    (.dict (Fields.set (fieldKey "attempts") (.int attempts) metrics)) result

/-- `run_check`: what a run of the check queues. -/
def runCheck (check : CheckConfig) (run : CheckRun) : Option Dict :=
  let (result, attempts) :=
    retryWhile check run.again check.retryAttempts 1 (runOnce check run.first)
  record run (withAttempts attempts result)

/-! ## What a run reports -/

/-- The attempt a run reports, and how many it took. -/
def lastAttempt (again : Nat → Option Outcome) : Nat → Nat → Outcome → Outcome × Nat
  | 0, attempts, outcome => (outcome, attempts)
  | left + 1, attempts, outcome =>
    if outcome.succeeded then (outcome, attempts)
    else
      match again attempts with
      | none => (outcome, attempts)
      | some next => lastAttempt again left (attempts + 1) next

/-- The attempt a run of the check reports. -/
def CheckRun.last (run : CheckRun) (check : CheckConfig) : Outcome × Nat :=
  lastAttempt run.again check.retryAttempts 1 run.first

theorem retryWhile_runOnce (check : CheckConfig) (again : Nat → Option Outcome) (left attempts : Nat)
    (outcome : Outcome) :
    retryWhile check again left attempts (runOnce check outcome) =
      (runOnce check (lastAttempt again left attempts outcome).1,
        (lastAttempt again left attempts outcome).2) := by
  induction left generalizing attempts outcome with
  | zero => rfl
  | succ left ih =>
    have success : field "success" (runOnce check outcome) = .bool outcome.succeeded := by
      rw [field, (reports_runOnce check outcome).success]
      rfl
    simp only [retryWhile, lastAttempt, success, truthy]
    split_ifs
    · rfl
    · cases again attempts with
      | none => rfl
      | some next => exact ih (attempts + 1) next

/-- The keys of a result that nothing after the attempt sets, until it is fitted. -/
def attemptKeys : List String := baseKeys ++ ["http_status_code", "http_response_time_ms"]

/-- A change of other keys leaves what a result reports but its metrics. -/
theorem Reports.of_agree {check : CheckConfig} {outcome : Outcome}
    {metrics changedMetrics : Option (List (String × Value))} {result changed : Dict}
    (reports : Reports check outcome metrics result) (plain : Plain changed)
    (agree : ∀ key ∈ attemptKeys,
      Fields.get? (fieldKey key) changed = Fields.get? (fieldKey key) result)
    (isMetrics : Fields.get? (fieldKey "metrics") changed =
      changedMetrics.map fun fields => .dict (entries fields)) :
    Reports check outcome changedMetrics changed where
  plain
  checkId := (agree _ (by decide)).trans reports.checkId
  displayName := (agree _ (by decide)).trans reports.displayName
  checkType := (agree _ (by decide)).trans reports.checkType
  target := (agree _ (by decide)).trans reports.target
  success := (agree _ (by decide)).trans reports.success
  latencyMs := (agree _ (by decide)).trans reports.latencyMs
  error := (agree _ (by decide)).trans reports.error
  statusCode := (agree _ (by decide)).trans reports.statusCode
  responseTime := (agree _ (by decide)).trans reports.responseTime
  metrics := isMetrics
  errorType := (agree _ (by decide)).trans reports.errorType
  responseData := (agree _ (by decide)).trans reports.responseData

/-- Setting a key that is not there adds it at the end. -/
theorem set_entries {name : String} {value : Value} {fields : List (String × Value)}
    (absent : name ∉ fields.map (·.1)) :
    Fields.set (fieldKey name) value (entries fields) = entries (fields ++ [(name, value)]) := by
  have unknown : fieldKey name ∉ (entries fields).map (·.1) := by
    intro mem
    obtain ⟨entry, isEntry, same⟩ := List.mem_map.mp mem
    obtain ⟨given, isGiven, rfl⟩ := List.mem_map.mp isEntry
    rw [fieldKey_inj] at same
    exact absent (same ▸ List.mem_map_of_mem isGiven)
  rw [Fields.set_of_not_mem unknown]
  simp [entries]

/-- The metrics of a run: what its last attempt found out, and the attempts it took. -/
def runMetrics (check : CheckConfig) (last : Outcome × Nat) : List (String × Value) :=
  ((last.1.findings check).map findingsMetrics).getD [] ++ [("attempts", .int last.2)]

/-- The names findings stand under. -/
def findingNames : List String :=
  ["response", "dns", "synthetic"] ++
    [.ping, .http, .tcp, .json, .dns, .mysql, .postgres, .synthetic].map CheckType.value

theorem mem_findingNames {check : CheckConfig} {outcome : Outcome} {found : String × Dict}
    (isFound : outcome.findings check = some found) : found.1 ∈ findingNames := by
  cases outcome with
  | returned value =>
    cases value with
    | http =>
      cases isFound
      exact (by decide : "response" ∈ findingNames)
    | dns =>
      cases isFound
      exact (by decide : "dns" ∈ findingNames)
    | database =>
      have isType (checkType : CheckType) : checkType.value ∈ findingNames := by
        cases checkType <;> decide
      cases isFound
      exact isType check.checkType
    | synthetic =>
      cases isFound
      exact (by decide : "synthetic" ∈ findingNames)
    | _ => cases isFound
  | _ => cases isFound

/-- An attempt's findings stand under none of the names that are added to its metrics. -/
theorem findings_name {check : CheckConfig} {outcome : Outcome} {name : String}
    (reserved : name ∈ ["attempts", "http_status_code_raw"]) :
    name ∉ (((outcome.findings check).map findingsMetrics).getD []).map (·.1) := by
  have other : ∀ name ∈ ["attempts", "http_status_code_raw"], name ∉ findingNames := by decide
  cases isFound : outcome.findings check with
  | none => simp
  | some found =>
    have apart : name ≠ found.1 := by
      rintro rfl
      exact other _ reserved (mem_findingNames isFound)
    simpa [findingsMetrics] using apart

/-- A run's metrics replace its last attempt's. -/
theorem reports_withAttempts (check : CheckConfig) (last : Outcome × Nat) :
    Reports check last.1 (some (runMetrics check last))
      (withAttempts last.2 (runOnce check last.1)) := by
  have reports := reports_runOnce check last.1
  have metrics : (match field "metrics" (runOnce check last.1) with
      | .dict fields => fields
      | _ => []) = entries (((last.1.findings check).map findingsMetrics).getD []) := by
    rw [field, reports.metrics]
    cases last.1.findings check <;> rfl
  have changed : withAttempts last.2 (runOnce check last.1) =
      Fields.set (fieldKey "metrics") (.dict (entries (runMetrics check last)))
        (runOnce check last.1) := by
    rw [withAttempts, metrics, set_entries (findings_name (by decide))]
    rfl
  rw [changed]
  refine reports.of_agree (reports.plain.set "metrics" _) (fun key mem => ?_) ?_
  · have apart : "metrics" ≠ key := by
      rintro rfl
      revert mem
      decide
    rw [Fields.get?_set, if_neg (by simpa using apart)]
  · rw [Fields.get?_set, if_pos rfl]
    rfl

/-- The stamps of a queued result. -/
structure Stamped (run : CheckRun) (result : Dict) : Prop where
  resultId : Fields.get? (fieldKey "result_id") result = some (.str run.resultId.str)
  timestamp : Fields.get? (fieldKey "timestamp") result = some (.float run.startedAt)

theorem runCheck_eq (check : CheckConfig) (run : CheckRun) :
    runCheck check run =
      record run (withAttempts (run.last check).2 (runOnce check (run.last check).1)) := by
  rw [runCheck, retryWhile_runOnce]
  rfl

/-- What a run queues: its last attempt's report, stamped. -/
theorem runCheck_reports {check : CheckConfig} {run : CheckRun} {queued : Dict}
    (isQueued : runCheck check run = some queued) :
    Reports check (run.last check).1 (some (runMetrics check (run.last check))) queued ∧
      Stamped run queued ∧
      (truthy (run.last check).1.latencyMs = true →
        adds run.totalLatency (run.last check).1.latencyMs = true) := by
  have reports := reports_withAttempts check (run.last check)
  rw [runCheck_eq] at isQueued
  have latency : field "latency_ms" (withAttempts (run.last check).2 (runOnce check (run.last check).1)) =
      (run.last check).1.latencyMs := by
    rw [field, reports.latencyMs]
    rfl
  simp only [record, latency] at isQueued
  split_ifs at isQueued with raises
  cases isQueued
  refine ⟨reports.of_agree (plain_update reports.plain _) (fun key mem => ?_) ?_, ⟨?_, ?_⟩, ?_⟩
  · have unstamped : ∀ key ∈ attemptKeys, key ∉ ["timestamp", "agent_run_id", "agent_id", "result_id"] := by
      decide
    rw [get?_update, get?_entries_of_not_mem (unstamped key mem), Option.none_or]
  · rw [get?_update, reports.metrics]
    simp
  · simp [get?_update]
  · simp [get?_update]
  · intro counted
    simpa [counted] using raises

end LuxSwirl.Agent
