import LuxSwirl.Agent.CheckConfig

/-!
# Loading a list of checks

`load_checks` of `check_manager.py` makes a check of each entry of the server's
list. It leaves out a disabled one, and one whose class refuses its settings: what
a class raises is logged, and the other checks are loaded.
-/

namespace LuxSwirl.Agent
open LuxSwirl.Py LuxSwirl.Lib LuxSwirl.Server

/-- The target begins as a web address does. -/
def isWebAddress (target : Text) : Bool :=
  (text "http://").isPrefixOf target || (text "https://").isPrefixOf target

/-- `VALID_RECORD_TYPES` -/
def validRecordTypes : List Text :=
  ["A", "AAAA", "CNAME", "MX", "TXT", "NS", "PTR", "SOA", "SRV", "CAA"].map text

/-- What a database check connects to: its connection string, or its target. -/
def CheckConfig.connection (config : CheckConfig) : Text :=
  (config.connectionString.filter fun s => !s.isEmpty).getD config.target

/-- Whether the class of the check's type takes its settings. `urlScheme` is the
scheme `urlparse` reads, or none when it raises. -/
def validateConfig (urlScheme : Text → Option Text) (config : CheckConfig) : Bool :=
  match config.checkType with
  | .http => isWebAddress config.target
  | .json => isWebAddress config.target && config.jsonPath.isSome && config.expectedValue.isSome
  | .ping => !isWebAddress config.target
  | .tcp => config.port.any fun port => decide (1 ≤ port ∧ port ≤ 65535)
  | .dns => config.recordType.any fun recordType => decide (upper recordType ∈ validRecordTypes)
  | .mysql => decide (urlScheme config.connection ∈ [some (text "mysql"), some (text "mariadb")])
  | .postgres => decide (urlScheme config.connection ∈ [some (text "postgres"), some (text "postgresql")])
  | .synthetic => config.scriptCode.any fun script => !script.isEmpty

/-- The entry is enabled, and its class takes it. -/
def isLoaded (urlScheme : Text → Option Text) (checkCfg : CheckResponse) : Bool :=
  checkCfg.enabled && validateConfig urlScheme (transformCheckConfig checkCfg)

def loadChecks (urlScheme : Text → Option Text) (checkConfigs : List CheckResponse) : List CheckConfig :=
  (checkConfigs.filter (isLoaded urlScheme)).map transformCheckConfig

/-- A loaded check waits for a time when it is run. -/
theorem timeout_pos (checkCfg : CheckResponse) : 0 < (transformCheckConfig checkCfg).timeout :=
  orDefault_pos _ (by decide)

end LuxSwirl.Agent
