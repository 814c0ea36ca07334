import LuxSwirl.Server.CheckResponses

/-!
# The checks an agent loads

`check_manager.py` turns a check as the server sends it into the settings its
class reads. A TCP check's target ends in its port.
-/

namespace LuxSwirl.Agent
open LuxSwirl.Py LuxSwirl.Lib LuxSwirl.Server

/-- The settings of a loaded check; one that is not set is absent. -/
structure CheckConfig where
  checkId : Uuid
  name : Text
  checkType : CheckType
  target : Text
  interval : Option Nat
  timeout : Nat
  enabled : Bool
  retryAttempts : Nat
  retryInterval : Nat
  method : Option Text
  expectedStatus : Option Int
  jsonPath : Option Text
  expectedValue : Option Text
  recordType : Option Text
  nameserver : Option Text
  expectValue : Option Text
  connectionString : Option Text
  query : Option Text
  scriptCode : Option Text
  port : Option Int
  verifySsl : Option Bool

/-- The host and port of a TCP check's target, when it names a port. -/
def tcpEndpoint (target : Text) : Option (Text × Int) :=
  (rsplitOnce (.scalar ':') target).bind fun (host, port) => (intOf port).map (host, ·)

def transformCheckConfig (checkCfg : CheckResponse) : CheckConfig :=
  let endpoint := if checkCfg.checkType = .tcp then tcpEndpoint checkCfg.target else none
  { checkId := checkCfg.id
    name := checkCfg.displayName
    checkType := checkCfg.checkType
    target := (endpoint.map (·.1)).getD checkCfg.target
    interval := checkCfg.intervalSeconds
    timeout := orDefault checkCfg.timeoutSeconds 5
    enabled := checkCfg.enabled
    retryAttempts := orDefault checkCfg.retryAttempts 0
    retryInterval := orDefault checkCfg.retryIntervalSeconds 30
    method := checkCfg.httpMethod
    expectedStatus := checkCfg.expectedStatus
    jsonPath := checkCfg.jsonPath
    expectedValue := checkCfg.expectedValue
    recordType := checkCfg.recordType
    nameserver := checkCfg.nameserver
    expectValue := checkCfg.expectValue
    connectionString := checkCfg.connectionString
    query := checkCfg.query
    scriptCode := checkCfg.scriptCode
    port := if checkCfg.checkType = .dns then checkCfg.port else endpoint.map (·.2)
    verifySsl := if checkCfg.checkType = .http then checkCfg.verifySsl else none }

/-- A loaded check's target is the served one, or what stands before its port. -/
theorem target_transformCheckConfig (checkCfg : CheckResponse) :
    (transformCheckConfig checkCfg).target <+: checkCfg.target := by
  simp only [transformCheckConfig]
  split_ifs with isTcp
  · cases found : tcpEndpoint checkCfg.target with
    | none => exact List.prefix_refl _
    | some endpoint =>
      simp only [tcpEndpoint, rsplitOnce, Option.bind_eq_some_iff, Option.map_eq_some_iff] at found
      obtain ⟨⟨host, port⟩, split, n, -, rfl⟩ := found
      split_ifs at split
      cases split
      exact List.take_prefix _ _
  · exact List.prefix_refl _

end LuxSwirl.Agent
