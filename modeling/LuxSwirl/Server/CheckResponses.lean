import LuxSwirl.Server.BaseSchema
import LuxSwirl.Server.Models

/-!
# Checks as the API serves them

`check_api_core_service.py`: a row becomes a `CheckResponse`, the object an agent
reads its checks from, and a row its schema refuses fails the whole list. Of the
object, only what an agent reads is here.

The accessors of `check_model.py` read a setting of a type as none when it is not
of the setting's own type.
-/

namespace LuxSwirl.Server
open LuxSwirl.Py LuxSwirl.Lib

/-! ## Settings of a row -/

namespace Check

def getConfig (check : Check) (key : String) : Option Value :=
  Fields.get? (fieldKey key) (check.checkConfig.getD [])

def configStr (check : Check) (key : String) : Option Text :=
  match check.getConfig key with
  | some (.str s) => some s
  | _ => none

def configInt (check : Check) (key : String) : Option Int :=
  match check.getConfig key with
  | some (.int n) => some n
  | _ => none

def configBool (check : Check) (key : String) : Option Bool :=
  match check.getConfig key with
  | some (.bool b) => some b
  | _ => none

/-- A setting that is one of some words in upper case. -/
def configWord (check : Check) (key : String) (words : List String) : Option Text :=
  let word := upper (strip ((check.configStr key).getD []))
  if word ∈ words.map text then some word else none

def httpMethod (check : Check) : Option Text :=
  check.configWord "http_method"
    ["GET", "HEAD", "POST", "PUT", "PATCH", "DELETE", "OPTIONS", "TRACE", "CONNECT"]

def recordType (check : Check) : Option Text :=
  check.configWord "record_type"
    ["A", "AAAA", "CNAME", "MX", "TXT", "NS", "PTR", "SOA", "SRV", "CAA"]

/-- Only a database check has one. -/
def connectionString (check : Check) : Option Text :=
  if check.checkType = .mysql ∨ check.checkType = .postgres then
    (check.configStr "connection_string").filter fun s => !s.isEmpty
  else none

end Check

/-! ## The response -/

def CheckType.value : CheckType → String
  | .ping => "ping"
  | .http => "http"
  | .tcp => "tcp"
  | .json => "json"
  | .dns => "dns"
  | .mysql => "mysql"
  | .postgres => "postgres"
  | .synthetic => "synthetic"

structure CheckResponse where
  id : Uuid
  displayName : Text
  checkType : CheckType
  target : Text
  description : Option Text
  intervalSeconds : Option Nat
  timeoutSeconds : Option Nat
  enabled : Bool
  expectedStatus : Option Int
  httpMethod : Option Text
  verifySsl : Option Bool
  jsonPath : Option Text
  expectedValue : Option Text
  recordType : Option Text
  nameserver : Option Text
  port : Option Int
  expectValue : Option Text
  connectionString : Option Text
  query : Option Text
  retryAttempts : Option Nat
  retryIntervalSeconds : Option Nat
  scriptCode : Option Text

/-- The description a response takes. -/
def Check.describe : Option Text → Option (Option Text)
  | none => some none
  | some s => (storableTextOf 0 1000 s).map some

/-- The row as the API serves it, or none when the response's schema refuses it. -/
def Check.toResponse (check : Check) : Option CheckResponse := do
  let displayName ← storableTextOf 1 255 check.displayName
  let target ← storableTextOf 1 512 check.target
  let description ← Check.describe check.description
  return {
    id := Uuid.ofId check.id
    displayName
    checkType := check.checkType
    target
    description
    intervalSeconds := check.intervalSeconds
    timeoutSeconds := check.timeoutSeconds
    enabled := check.enabled
    expectedStatus := check.configInt "expected_status"
    httpMethod := check.httpMethod
    verifySsl := check.configBool "verify_ssl"
    jsonPath := (check.configStr "json_path").map trim
    expectedValue := (check.configStr "expected_value").map trim
    recordType := check.recordType
    nameserver := (check.configStr "nameserver").map trim
    port := check.configInt "port"
    expectValue := (check.configStr "expect_value").map trim
    connectionString := check.connectionString.map trim
    query := (check.configStr "query").map trim
    retryAttempts := check.retryAttempts
    retryIntervalSeconds := some check.retryIntervalSeconds
    scriptCode := check.scriptCode.map trim }

/-- What every served check is: its name and target fit a result's. -/
theorem Check.of_toResponse {check : Check} {response : CheckResponse}
    (served : check.toResponse = some response) :
    (response.displayName.length ≤ 255 ∧ storableText response.displayName = true) ∧
      (response.target.length ≤ 512 ∧ storableText response.target = true) := by
  simp only [Check.toResponse, Option.bind_eq_bind, Option.bind_eq_some_iff] at served
  obtain ⟨displayName, name, target, address, description, -, made⟩ := served
  cases made
  exact ⟨of_storableTextOf name, of_storableTextOf address⟩

/-- A target that an update left longer than a response takes is served to no agent. -/
theorem Check.toResponse_of_long {check : Check} (long : 512 < (trim check.target).length) :
    check.toResponse = none := by
  have refused : storableTextOf 1 512 check.target = none := by
    simp only [storableTextOf]
    rw [if_neg]
    rintro ⟨-, short, -⟩
    omega
  simp [Check.toResponse, refused]

end LuxSwirl.Server
