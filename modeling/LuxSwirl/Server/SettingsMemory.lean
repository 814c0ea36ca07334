import LuxSwirl.Lib.Interleaving
import LuxSwirl.Lib.Savepoints
import LuxSwirl.Py.Value

/-!
# Settings in the memory of a process

`settings_core_service.py`: the rate limits and the display preferences in effect are
held in memory, and follow their settings' rows. A rate limit that is set or reset waits
on the session until the root transaction commits. A display preference is replaced at
once.

`settings_lawful_iff` is about every sequence of transactions, of savepoints in them and
of calls in those: what is in effect is what the committed rows name, as long as no call
changes a display preference.
-/

namespace LuxSwirl.Server
open LuxSwirl.Py LuxSwirl.Lib

/-! ## The rows -/

inductive SettingValueType where
  | bool
  | int
  | float
  | string
  | list
  | dict
  deriving DecidableEq

/-- `value_type_of` -/
def valueTypeOf : Value → SettingValueType
  | .bool _ => .bool
  | .int _ => .int
  | .float _ => .float
  | .list _ => .list
  | .dict _ => .dict
  | _ => .string

/-- `_fits_type` -/
def fitsType : Value → SettingValueType → Bool
  | .bool _, .bool | .int _, .int | .int _, .float | .float (.finite _), .float => true
  | .str _, .string | .list _, .list | .dict _, .dict => true
  | _, _ => false

/-- A row of `settings`; the type is its value's tag, or that of the value. -/
structure Setting where
  value : Value
  type : SettingValueType
  defaultValue : Value

/-- `set_typed_value` -/
def Setting.setTypedValue (value : Value) (setting : Setting) : Setting :=
  { setting with value, type := valueTypeOf value }

/-- The rows by their keys. -/
abbrev SettingRows := Text → Option Setting

inductive DisplayPreference where
  | timezone
  | dateFormat
  | timeFormat
  deriving DecidableEq

inductive RateLimit where
  | login
  | api
  | registration
  deriving DecidableEq

def DisplayPreference.key : DisplayPreference → Text
  | .timezone => text "general.timezone"
  | .dateFormat => text "general.date_format"
  | .timeFormat => text "general.time_format"

def RateLimit.key : RateLimit → Text
  | .login => text "security.login_rate_limit"
  | .api => text "security.api_rate_limit"
  | .registration => text "security.registration_rate_limit"

/-- `_DISPLAY_KEYS` -/
def displayOf (key : Text) : Option DisplayPreference :=
  [DisplayPreference.timezone, .dateFormat, .timeFormat].find? fun preference => decide (preference.key = key)

/-- `_RATE_LIMIT_KEYS` -/
def rateLimitOf (key : Text) : Option RateLimit :=
  [RateLimit.login, .api, .registration].find? fun limit => decide (limit.key = key)

/-- `GENERATED_KEYS` -/
def generatedKeys : List Text := [text "metrics.bearer_token"]

/-- What a value has to meet: `check_rate_limit`, and the validation rules of its row. -/
structure SettingRules where
  isRateLimit : Text → Bool
  validates : Text → Value → Bool

/-! ## The process -/

inductive SettingsCall where
  | setSetting (key : Text) (newValue : Value)
  | resetSetting (key : Text)

/-- The row a call finds, and the value it is to have; none when the call is refused. -/
def SettingsCall.accepted (rules : SettingRules) (rows : SettingRows) :
    SettingsCall → Option (Text × Setting × Value)
  | .setSetting key newValue =>
    (rows key).bind fun setting =>
      if key ∈ generatedKeys ∨ fitsType newValue setting.type = false then none
      else
        let newValue := match setting.type, newValue with
          | .float, .int n => .float (.finite n)
          | _, value => value
        if rules.validates key newValue then some (key, setting, newValue) else none
  | .resetSetting key => (rows key).map fun setting => (key, setting, setting.defaultValue)

/-- A transaction that is open. `snapshots` are the rows at its savepoints, the innermost
first; after a flush that failed it can only be rolled back. -/
structure OpenTransaction where
  current : SessionTransaction
  rows : SettingRows
  snapshots : List SettingRows := []
  active : Bool := true

/-- The committed rows, what is in effect, and the session with what is deferred on it. -/
structure SettingsProcess where
  committed : SettingRows
  rateLimits : RateLimit → Text
  displaySettings : DisplayPreference → Text
  pending : Deferred (RateLimit × Text) := []
  transaction : Option OpenTransaction := none

namespace SettingsProcess

def active (process : SettingsProcess) : Option OpenTransaction := process.transaction.filter (·.active)

/-- `update_rate_limits` with changes that were checked, one after another. -/
def updateRateLimits (changes : List (RateLimit × Text)) (rateLimits : RateLimit → Text) : RateLimit → Text :=
  changes.foldl (fun limits change => Function.update limits change.1 change.2) rateLimits

/-- `_defer_rate_limit` -/
def deferRateLimit (current : SessionTransaction) (limit : RateLimit) (value : Text) (process : SettingsProcess) :
    SettingsProcess :=
  { process with pending := process.pending ++ [(current, limit, value)] }

/-- `_apply`, or none for a value that is no rate limit. -/
def apply (rules : SettingRules) (current : SessionTransaction) (key : Text) (value : Value)
    (process : SettingsProcess) : Option SettingsProcess :=
  match value with
  | .str value =>
    let process := match displayOf key with
      | some preference =>
        { process with displaySettings := Function.update process.displaySettings preference value }
      | none => process
    match rateLimitOf key with
    | some limit => if rules.isRateLimit value then some (process.deferRateLimit current limit value) else none
    | none => some process
  | _ => some process

/-- A row as the open transaction has written it. -/
def saveSetting (opened : OpenTransaction) (key : Text) (setting : Setting) (process : SettingsProcess) :
    SettingsProcess :=
  { process with
    transaction := some { opened with rows := Function.update opened.rows key (some setting) } }

/-- A call; one that is refused leaves everything. -/
def call (rules : SettingRules) (opened : OpenTransaction) (call : SettingsCall) (process : SettingsProcess) :
    SettingsProcess :=
  match call.accepted rules opened.rows with
  | none => process
  | some (key, setting, value) =>
    match process.apply rules opened.current key value with
    | none => process
    | some process => process.saveSetting opened key (setting.setTypedValue value)

/-! ## The session's events -/

/-- `_apply_committed_rate_limits` -/
def afterCommit (committed : SessionTransaction) (process : SettingsProcess) : SettingsProcess :=
  match committed with
  | .child _ _ _ => { process with pending := process.pending.land committed }
  | .root _ =>
    { process with rateLimits := updateRateLimits process.pending.values process.rateLimits, pending := [] }

/-- `_drop_rolled_back_rate_limits` -/
def afterSoftRollback (previous : SessionTransaction) (process : SettingsProcess) : SettingsProcess :=
  { process with pending := process.pending.dropWithin previous.boundary }

/-- `_forget_unlanded_rate_limits` -/
def afterTransactionEnd (transaction : SessionTransaction) (process : SettingsProcess) : SettingsProcess :=
  match transaction with
  | .root _ => { process with pending := [] }
  | .child _ _ _ => process

/-- A session that is closed ends its transactions without a rollback. -/
def endAll : SessionTransaction → SettingsProcess → SettingsProcess
  | .root id, process => process.afterTransactionEnd (.root id)
  | .child id nested parent, process => endAll parent (process.afterTransactionEnd (.child id nested parent))

end SettingsProcess

inductive SettingsStep where
  | begin (id : Nat)
  | beginNested (id : Nat)
  | call (call : SettingsCall)
  /-- A flush fails, which rolls back to the savepoint or root around it. -/
  | failFlush (id : Nat)
  /-- The innermost transaction commits, -/
  | commit
  /-- or rolls back. -/
  | rollback
  | close

namespace SettingsProcess

def step (rules : SettingRules) : SettingsStep → SettingsProcess → Option SettingsProcess
  | .begin id, process =>
    match process.transaction with
    | some _ => none
    | none => some { process with transaction := some { current := .root id, rows := process.committed } }
  | .beginNested id, process =>
    process.active.map fun opened =>
      { process with
        transaction := some
          { opened with
            current := .child id true opened.current
            snapshots := opened.rows :: opened.snapshots } }
  | .call call, process => process.active.map fun opened => process.call rules opened call
  | .failFlush id, process =>
    process.active.map fun opened =>
      { process.afterSoftRollback (.child id false opened.current) with
        transaction := some { opened with rows := opened.snapshots.headD process.committed, active := false } }
  | .commit, process =>
    process.active.map fun opened =>
      match opened.current with
      | .root id =>
        ({ process with committed := opened.rows, transaction := none }.afterCommit (.root id)).afterTransactionEnd
          (.root id)
      | .child id nested parent =>
        ({ process with
            transaction := some { opened with current := parent, snapshots := opened.snapshots.tail } }.afterCommit
          (.child id nested parent)).afterTransactionEnd (.child id nested parent)
  | .rollback, process =>
    process.transaction.map fun opened =>
      match opened.current with
      | .root id =>
        ({ process with transaction := none }.afterTransactionEnd (.root id)).afterSoftRollback (.root id)
      | .child id nested parent =>
        ({ process with
            transaction := some
              { current := parent
                rows := opened.snapshots.headD process.committed
                snapshots := opened.snapshots.tail } }.afterTransactionEnd
          (.child id nested parent)).afterSoftRollback (.child id nested parent)
  | .close, process =>
    process.transaction.map fun opened => { process with transaction := none }.endAll opened.current

end SettingsProcess

/-! ## What the rows name -/

namespace SettingRows

/-- The preference a row names: a string. -/
def displayPreference (rows : SettingRows) (preference : DisplayPreference) : Option Text :=
  match (rows preference.key).map Setting.value with
  | some (.str value) => some value
  | _ => none

/-- The limit a row names: a string that is a rate limit. -/
def rateLimit (rules : SettingRules) (rows : SettingRows) (limit : RateLimit) : Option Text :=
  match (rows limit.key).map Setting.value with
  | some (.str value) => if rules.isRateLimit value then some value else none
  | _ => none

end SettingRows

/-- What is in effect is what the rows name. -/
structure InEffect (rules : SettingRules) (rows : SettingRows) (rateLimits : RateLimit → Text)
    (displaySettings : DisplayPreference → Text) : Prop where
  rateLimits : ∀ limit value, rows.rateLimit rules limit = some value → rateLimits limit = value
  displaySettings : ∀ preference value, rows.displayPreference preference = some value →
    displaySettings preference = value

namespace SettingsProcess

/-- **The law of the memory**: a step that leaves a transaction open changes nothing that
is in effect, and after one that ends it the committed rows are in effect. -/
structure Lawful (rules : SettingRules) (before after : SettingsProcess) : Prop where
  waits : after.transaction.isSome = true →
    after.rateLimits = before.rateLimits ∧ after.displaySettings = before.displaySettings
  follows : after.transaction = none → InEffect rules after.committed after.rateLimits after.displaySettings

/-- A call that goes through gives a display preference only the value it has. -/
def keepsDisplay (rules : SettingRules) (process : SettingsProcess) : SettingsStep → Bool
  | .call call =>
    (process.active.bind fun opened => call.accepted rules opened.rows).all fun (key, _, value) =>
      match displayOf key, value with
      | some preference, .str value => decide (value = process.displaySettings preference)
      | _, _ => true
  | _ => true

/-- A process before its first transaction. -/
structure Started (rules : SettingRules) (process : SettingsProcess) : Prop where
  transaction : process.transaction = none
  pending : process.pending = []
  inEffect : InEffect rules process.committed process.rateLimits process.displaySettings

end SettingsProcess

/-! ## Keys -/

theorem displayOf_eq_some {key : Text} {preference : DisplayPreference} :
    displayOf key = some preference ↔ preference.key = key := by
  constructor
  · intro found
    simpa using List.find?_some found
  · rintro rfl
    cases preference <;> decide

theorem rateLimitOf_eq_some {key : Text} {limit : RateLimit} : rateLimitOf key = some limit ↔ limit.key = key := by
  constructor
  · intro found
    simpa using List.find?_some found
  · rintro rfl
    cases limit <;> decide

/-- No setting governs both. -/
theorem displayOf_rateLimit (limit : RateLimit) : displayOf limit.key = none := by
  cases limit <;> decide

/-! ## One row -/

section

variable {rules : SettingRules} {rows : SettingRows} {rateLimits : RateLimit → Text}
  {displaySettings : DisplayPreference → Text} {key : Text} {setting : Setting}

theorem SettingRows.displayPreference_eq_some {preference : DisplayPreference} {value : Text} :
    rows.displayPreference preference = some value ↔
      ∃ setting, rows preference.key = some setting ∧ setting.value = .str value := by
  rw [displayPreference]
  constructor
  · intro names
    split at names
    · rename_i isFound
      cases names
      exact Option.map_eq_some_iff.mp isFound
    · cases names
  · rintro ⟨setting, isSetting, isValue⟩
    simp [isSetting, isValue]

theorem SettingRows.rateLimit_eq_some {limit : RateLimit} {value : Text} :
    rows.rateLimit rules limit = some value ↔
      ∃ setting, rows limit.key = some setting ∧ setting.value = .str value ∧ rules.isRateLimit value = true := by
  rw [rateLimit]
  constructor
  · intro names
    split at names
    · rename_i isFound
      obtain ⟨setting, isSetting, isValue⟩ := Option.map_eq_some_iff.mp isFound
      split_ifs at names with valid
      cases names
      exact ⟨setting, isSetting, isValue, valid⟩
    · cases names
  · rintro ⟨setting, isSetting, isValue, valid⟩
    simp [isSetting, isValue, valid]

/-- A row that is written names what is in effect, if its value does. -/
theorem InEffect.update (inEffect : InEffect rules rows rateLimits displaySettings) {after : RateLimit → Text}
    (others : ∀ limit, limit.key ≠ key → after limit = rateLimits limit)
    (limit : ∀ limit value, limit.key = key → setting.value = .str value → rules.isRateLimit value = true →
      after limit = value)
    (display : ∀ preference value, preference.key = key → setting.value = .str value →
      displaySettings preference = value) :
    InEffect rules (Function.update rows key (some setting)) after displaySettings := by
  refine ⟨fun named value names => ?_, fun named value names => ?_⟩
  · obtain ⟨row, isRow, isValue, valid⟩ := SettingRows.rateLimit_eq_some.mp names
    by_cases same : named.key = key
    · rw [same, Function.update_self, Option.some.injEq] at isRow
      exact limit named value same (isRow ▸ isValue) valid
    · rw [Function.update_of_ne same] at isRow
      rw [others named same]
      exact inEffect.rateLimits named value (SettingRows.rateLimit_eq_some.mpr ⟨row, isRow, isValue, valid⟩)
  · obtain ⟨row, isRow, isValue⟩ := SettingRows.displayPreference_eq_some.mp names
    by_cases same : named.key = key
    · rw [same, Function.update_self, Option.some.injEq] at isRow
      exact display named value same (isRow ▸ isValue)
    · rw [Function.update_of_ne same] at isRow
      exact inEffect.displaySettings named value
        (SettingRows.displayPreference_eq_some.mpr ⟨row, isRow, isValue⟩)

end

namespace SettingsProcess

/-! ## What holds at all times -/

variable {rules : SettingRules} {process next : SettingsProcess} {opened : OpenTransaction}

/-- What is known of rows with the changes deferred so far. -/
def Known (rules : SettingRules) (process : SettingsProcess) (rows : SettingRows)
    (changes : List (RateLimit × Text)) : Prop :=
  InEffect rules rows (updateRateLimits changes process.rateLimits) process.displaySettings

/-- An open transaction: its rows, and those of its savepoints, are what the changes
deferred so far will put in effect. -/
structure Opened (rules : SettingRules) (process : SettingsProcess) (opened : OpenTransaction) : Prop where
  rows : Known rules process opened.rows process.pending.values
  covered : process.pending.Covered (Known rules process) opened.current opened.snapshots

structure Sound (rules : SettingRules) (process : SettingsProcess) : Prop where
  inEffect : InEffect rules process.committed process.rateLimits process.displaySettings
  idle : process.transaction = none → process.pending = []
  opened : ∀ opened, process.transaction = some opened → Opened rules process opened

theorem Started.sound (started : process.Started rules) : process.Sound rules where
  inEffect := started.inEffect
  idle _ := started.pending
  opened opened isOpened := by
    rw [started.transaction] at isOpened
    cases isOpened

theorem active_eq_some : process.active = some opened ↔ process.transaction = some opened ∧ opened.active = true :=
  Option.filter_eq_some_iff

/-- The current transaction is a savepoint or the root. -/
theorem Opened.boundary (isOpened : Opened rules process opened) : opened.current.boundary = opened.current := by
  have covered := isOpened.covered
  cases isCurrent : opened.current with
  | root id => rfl
  | child id nested parent =>
    rw [isCurrent] at covered
    obtain rfl := covered.nested
    rfl

/-- What a rollback to the current savepoint or root leaves deferred goes with the rows
it goes back to. -/
theorem Opened.dropWithin (isOpened : Opened rules process opened)
    (committed : Known rules process process.committed []) :
    Known rules process (opened.snapshots.headD process.committed)
        (process.pending.dropWithin opened.current).values ∧
      (process.pending.dropWithin opened.current).Covered (Known rules process) opened.current opened.snapshots := by
  have covered := isOpened.covered
  cases isCurrent : opened.current with
  | root id =>
    rw [isCurrent] at covered
    obtain ⟨none, nothing⟩ := covered.rollback_root
    rw [none, nothing]
    exact ⟨committed, .root id []⟩
  | child id nested parent =>
    rw [isCurrent] at covered
    obtain rfl := covered.nested
    obtain ⟨snapshot, isFirst, held, -, covered⟩ := covered.rollback
    refine ⟨?_, covered⟩
    rw [isFirst]
    exact held

theorem Sound.begin (sound : process.Sound rules) (idle : process.transaction = none) (id : Nat) :
    Sound rules { process with transaction := some { current := .root id, rows := process.committed } } := by
  refine ⟨sound.inEffect, fun none => (nomatch none), fun opened isOpened => ?_⟩
  cases isOpened
  have nothing := sound.idle idle
  refine ⟨?_, ?_⟩
  · show Known rules process process.committed process.pending.values
    rw [nothing]
    exact sound.inEffect
  · show process.pending.Covered (Known rules process) _ _
    rw [nothing]
    exact .root id []

theorem Sound.beginNested (sound : process.Sound rules) (isOpened : process.transaction = some opened) (id : Nat) :
    Sound rules
      { process with
        transaction := some
          { opened with
            current := .child id true opened.current
            snapshots := opened.rows :: opened.snapshots } } := by
  obtain ⟨rows, covered⟩ := sound.opened opened isOpened
  refine ⟨sound.inEffect, fun none => (nomatch none), fun opened isOpened => ?_⟩
  cases isOpened
  exact ⟨rows, covered.beginNested rows id⟩

theorem Sound.failFlush (sound : process.Sound rules) (isOpened : process.transaction = some opened) (id : Nat) :
    Sound rules
      { process.afterSoftRollback (.child id false opened.current) with
        transaction := some { opened with rows := opened.snapshots.headD process.committed, active := false } } := by
  have isOpen := sound.opened opened isOpened
  obtain ⟨rows, covered⟩ := isOpen.dropWithin sound.inEffect
  refine ⟨sound.inEffect, fun none => (nomatch none), fun opened isOpened => ?_⟩
  cases isOpened
  have toCurrent : (SessionTransaction.child id false opened.current).boundary = opened.current := isOpen.boundary
  refine ⟨?_, ?_⟩
  · show Known rules process _ (process.pending.dropWithin _).values
    rw [toCurrent]
    exact rows
  · show (process.pending.dropWithin _).Covered (Known rules process) _ _
    rw [toCurrent]
    exact covered

theorem pending_endAll (transaction : SessionTransaction) (process : SettingsProcess) :
    process.endAll transaction = { process with pending := [] } := by
  induction transaction with
  | root id => rfl
  | child id nested parent ih => exact ih

theorem Sound.commit (sound : process.Sound rules) (isActive : process.active = some opened)
    (committed : process.step rules .commit = some next) : next.Sound rules ∧ process.Lawful rules next := by
  obtain ⟨isOpened, -⟩ := active_eq_some.mp isActive
  obtain ⟨rows, covered⟩ := sound.opened opened isOpened
  rw [step, isActive, Option.map_some, Option.some.injEq] at committed
  cases isCurrent : opened.current with
  | root id =>
    rw [isCurrent] at committed
    subst committed
    exact ⟨⟨rows, fun _ => rfl, fun _ isOpened => (nomatch isOpened)⟩, fun isOpen => (nomatch isOpen), fun _ => rows⟩
  | child id nested parent =>
    rw [isCurrent] at committed covered
    obtain rfl := covered.nested
    dsimp only at committed
    subst committed
    refine ⟨⟨sound.inEffect, fun none => (nomatch none), fun opened isOpened => ?_⟩, fun _ => ⟨rfl, rfl⟩,
      fun none => (nomatch none)⟩
    cases isOpened
    refine ⟨?_, covered.commit⟩
    rw [← Deferred.values_land (.child id true parent)] at rows
    exact rows

theorem Sound.rollback (sound : process.Sound rules) (isOpened : process.transaction = some opened)
    (rolledBack : process.step rules .rollback = some next) : next.Sound rules ∧ process.Lawful rules next := by
  obtain ⟨rows, -⟩ := (sound.opened opened isOpened).dropWithin sound.inEffect
  have before := (sound.opened opened isOpened).covered
  rw [step, isOpened, Option.map_some, Option.some.injEq] at rolledBack
  cases isCurrent : opened.current with
  | root id =>
    rw [isCurrent] at rolledBack
    subst rolledBack
    exact ⟨⟨sound.inEffect, fun _ => rfl, fun _ isOpened => (nomatch isOpened)⟩, fun isOpen => (nomatch isOpen),
      fun _ => sound.inEffect⟩
  | child id nested parent =>
    rw [isCurrent] at rolledBack rows before
    obtain rfl := before.nested
    dsimp only at rolledBack
    subst rolledBack
    obtain ⟨snapshot, isFirst, held, left, -⟩ := before.rollback
    refine ⟨⟨sound.inEffect, fun none => (nomatch none), fun opened isOpened => ?_⟩, fun _ => ⟨rfl, rfl⟩,
      fun none => (nomatch none)⟩
    cases isOpened
    exact ⟨rows, left⟩

theorem Sound.close (sound : process.Sound rules) (transaction : SessionTransaction) :
    Sound rules ({ process with transaction := none }.endAll transaction) ∧
      process.Lawful rules ({ process with transaction := none }.endAll transaction) := by
  rw [pending_endAll]
  exact ⟨⟨sound.inEffect, fun _ => rfl, fun _ isOpened => (nomatch isOpened)⟩, fun isOpen => (nomatch isOpen),
    fun _ => sound.inEffect⟩

/-! ## A call -/

/-- Applying a value that no display preference changes with defers what the rate limits
change with. -/
theorem apply_eq_some {current : SessionTransaction} {key : Text} {value : Value}
    (keeps : ∀ preference chosen, displayOf key = some preference → value = .str chosen →
      chosen = process.displaySettings preference)
    (applied : process.apply rules current key value = some next) :
    ∃ changes : List (RateLimit × Text),
      next = { process with pending := process.pending ++ changes.map (current, ·) } ∧
      (∀ change ∈ changes, change.1.key = key) ∧
      ∀ limit chosen, limit.key = key → value = .str chosen → changes = [(limit, chosen)] := by
  have unchanged : process = { process with pending := process.pending ++ [] } := by
    rw [List.append_nil]
  cases value with
  | str chosen =>
    have display : (match displayOf key with
        | some preference =>
          { process with displaySettings := Function.update process.displaySettings preference chosen }
        | none => process) = process := by
      cases isDisplay : displayOf key with
      | none => rfl
      | some preference =>
        simp only
        rw [keeps preference chosen isDisplay rfl, Function.update_eq_self]
    rw [apply] at applied
    simp only [display] at applied
    cases isLimit : rateLimitOf key with
    | none =>
      rw [isLimit, Option.some.injEq] at applied
      subst applied
      refine ⟨[], unchanged, fun _ mem => (nomatch mem), fun limit _ isKey _ => ?_⟩
      rw [rateLimitOf_eq_some.mpr isKey] at isLimit
      cases isLimit
    | some limit =>
      simp only [isLimit] at applied
      split_ifs at applied with valid
      cases applied
      refine ⟨[(limit, chosen)], rfl, fun change mem => ?_, fun other _ isKey isChosen => ?_⟩
      · rw [List.mem_singleton.mp mem]
        exact rateLimitOf_eq_some.mp isLimit
      · rw [rateLimitOf_eq_some.mpr isKey, Option.some.injEq] at isLimit
        cases isChosen
        rw [isLimit]
  | _ =>
    cases applied
    exact ⟨[], unchanged, fun _ mem => (nomatch mem), fun _ _ _ isChosen => (nomatch isChosen)⟩

theorem updateRateLimits_of_forall_ne {changes : List (RateLimit × Text)} {limit : RateLimit}
    (others : ∀ change ∈ changes, change.1 ≠ limit) (rateLimits : RateLimit → Text) :
    updateRateLimits changes rateLimits limit = rateLimits limit := by
  induction changes generalizing rateLimits with
  | nil => rfl
  | cons change rest ih =>
    rw [updateRateLimits, List.foldl_cons]
    refine (ih (fun later mem => others later (.tail _ mem)) _).trans ?_
    exact Function.update_of_ne (others change (.head _)).symm _ _

theorem updateRateLimits_append (earlier later : List (RateLimit × Text)) (rateLimits : RateLimit → Text) :
    updateRateLimits (earlier ++ later) rateLimits = updateRateLimits later (updateRateLimits earlier rateLimits) :=
  List.foldl_append

/-- The value of a call that goes through changes no display preference. -/
theorem keepsDisplay_call {call : SettingsCall} {key : Text} {setting : Setting} {value : Value}
    (isActive : process.active = some opened) (keeps : process.keepsDisplay rules (.call call) = true)
    (accepted : call.accepted rules opened.rows = some (key, setting, value)) (preference : DisplayPreference)
    (chosen : Text) (isDisplay : displayOf key = some preference) (isChosen : value = .str chosen) :
    chosen = process.displaySettings preference := by
  subst isChosen
  rw [keepsDisplay, isActive, Option.bind_some, accepted, Option.all_some] at keeps
  simp only [isDisplay] at keeps
  exact of_decide_eq_true keeps

theorem Sound.call (sound : process.Sound rules) {call : SettingsCall} (isActive : process.active = some opened)
    (keeps : process.keepsDisplay rules (.call call) = true) :
    Sound rules (process.call rules opened call) ∧ process.Lawful rules (process.call rules opened call) := by
  obtain ⟨isOpened, -⟩ := active_eq_some.mp isActive
  have refused : process.Sound rules ∧ process.Lawful rules process := by
    refine ⟨sound, fun _ => ⟨rfl, rfl⟩, fun none => ?_⟩
    rw [isOpened] at none
    cases none
  rw [SettingsProcess.call]
  cases accepted : call.accepted rules opened.rows with
  | none => exact refused
  | some found =>
    obtain ⟨key, setting, value⟩ := found
    have keeps := keepsDisplay_call isActive keeps accepted
    simp only
    cases applied : process.apply rules opened.current key value with
    | none => exact refused
    | some after =>
      obtain ⟨changes, rfl, sameKey, changed⟩ := apply_eq_some keeps applied
      obtain ⟨rows, covered⟩ := sound.opened opened isOpened
      refine ⟨⟨sound.inEffect, fun none => (nomatch none), fun opened isOpened => ?_⟩, fun _ => ⟨rfl, rfl⟩,
        fun none => (nomatch none)⟩
      cases isOpened
      refine ⟨?_, covered.append changes⟩
      have values : (process.pending ++ changes.map (opened.current, ·)).values =
          process.pending.values ++ changes := by
        rw [Deferred.values_append, Deferred.values, Deferred.values, List.map_map]
        exact congrArg (process.pending.values ++ ·) (List.map_id changes)
      have updated : InEffect rules (Function.update opened.rows key (some (setting.setTypedValue value)))
          (updateRateLimits changes (updateRateLimits process.pending.values process.rateLimits))
          process.displaySettings := by
        refine InEffect.update rows (fun limit apart => ?_) (fun limit chosen isKey isChosen _ => ?_)
          fun preference chosen isKey isChosen => ?_
        · refine updateRateLimits_of_forall_ne (fun change mem same => apart ?_) _
          rw [← same]
          exact sameKey change mem
        · rw [changed limit chosen isKey isChosen]
          exact Function.update_self _ _ _
        · exact (keeps preference chosen (displayOf_eq_some.mpr isKey) isChosen).symm
      rw [← updateRateLimits_append, ← values] at updated
      exact updated

/-- A call that changes a display preference does so before the commit. -/
theorem not_lawful_of_call {call : SettingsCall} (isActive : process.active = some opened)
    (changes : process.keepsDisplay rules (.call call) = false) :
    ¬ process.Lawful rules (process.call rules opened call) := by
  intro lawful
  rw [keepsDisplay, isActive, Option.bind_some] at changes
  cases accepted : call.accepted rules opened.rows with
  | none =>
    rw [accepted] at changes
    cases changes
  | some found =>
    obtain ⟨key, setting, value⟩ := found
    rw [accepted, Option.all_some] at changes
    simp only at changes
    split at changes
    · rename_i preference chosen isDisplay
      have apart := of_decide_eq_false changes
      have noLimit : rateLimitOf key = none := by
        cases isLimit : rateLimitOf key with
        | none => rfl
        | some limit =>
          rw [← rateLimitOf_eq_some.mp isLimit, displayOf_rateLimit] at isDisplay
          cases isDisplay
      have waits := lawful.waits
      rw [SettingsProcess.call, accepted] at waits
      simp only [apply, isDisplay, noLimit] at waits
      have taken : Function.update process.displaySettings preference chosen preference =
          process.displaySettings preference := congrFun (waits rfl).2 preference
      rw [Function.update_self] at taken
      exact apart taken
    · cases changes

/-! ## Runs -/

theorem Sound.step (sound : process.Sound rules) {statement : SettingsStep}
    (keeps : process.keepsDisplay rules statement = true)
    (stepped : process.step rules statement = some next) : next.Sound rules ∧ process.Lawful rules next := by
  cases statement with
  | begin id =>
    rw [SettingsProcess.step] at stepped
    split at stepped
    · cases stepped
    · rename_i idle
      cases stepped
      exact ⟨sound.begin idle id, fun _ => ⟨rfl, rfl⟩, fun none => (nomatch none)⟩
  | beginNested id =>
    obtain ⟨opened, isActive, rfl⟩ := Option.map_eq_some_iff.mp stepped
    exact ⟨sound.beginNested (active_eq_some.mp isActive).1 id, fun _ => ⟨rfl, rfl⟩, fun none => (nomatch none)⟩
  | call call =>
    obtain ⟨opened, isActive, rfl⟩ := Option.map_eq_some_iff.mp stepped
    exact sound.call isActive keeps
  | failFlush id =>
    obtain ⟨opened, isActive, rfl⟩ := Option.map_eq_some_iff.mp stepped
    exact ⟨sound.failFlush (active_eq_some.mp isActive).1 id, fun _ => ⟨rfl, rfl⟩, fun none => (nomatch none)⟩
  | commit =>
    obtain ⟨opened, isActive, -⟩ := Option.map_eq_some_iff.mp stepped
    exact sound.commit isActive stepped
  | rollback =>
    obtain ⟨opened, isOpened, -⟩ := Option.map_eq_some_iff.mp stepped
    exact sound.rollback isOpened stepped
  | close =>
    obtain ⟨opened, isOpened, rfl⟩ := Option.map_eq_some_iff.mp stepped
    exact sound.close opened.current

theorem sound_of_runs {start : SettingsProcess} (started : start.Started rules)
    (run : Runs (SettingsProcess.step rules) (keepsDisplay rules) start process) : process.Sound rules :=
  run.keeps (fun _ _ _ keeps stepped sound => (sound.step keeps stepped).1) started.sound

/-- **What is in effect follows the committed rows** as long as the calls that go through
give the display preferences the values they have, and the first call that does not puts
its value in effect before the commit. -/
theorem settings_lawful_iff {start : SettingsProcess} (started : start.Started rules)
    (run : Runs (SettingsProcess.step rules) (keepsDisplay rules) start process) {statement : SettingsStep}
    (stepped : process.step rules statement = some next) :
    process.Lawful rules next ↔ process.keepsDisplay rules statement = true := by
  constructor
  · intro lawful
    by_contra changes
    cases statement with
    | call call =>
      obtain ⟨opened, isActive, rfl⟩ := Option.map_eq_some_iff.mp stepped
      exact not_lawful_of_call isActive (Bool.eq_false_iff.mpr changes) lawful
    | _ => exact changes rfl
  · intro keeps
    exact ((sound_of_runs started run).step keeps stepped).2

/-! ## A limit and a timezone -/

/-- The rules, where the values are limits and valid. -/
def trusting : SettingRules where
  isRateLimit _ := true
  validates _ _ := true

def stringSetting (value : String) : Setting where
  value := .str (text value)
  type := .string
  defaultValue := .str (text value)

def shippedSettings : SettingRows := fun key =>
  if key = DisplayPreference.timezone.key then some (stringSetting "UTC")
  else if key = RateLimit.login.key then some (stringSetting "5/minute")
  else none

def freshProcess : SettingsProcess where
  committed := shippedSettings
  rateLimits _ := text "5/minute"
  displaySettings _ := text "UTC"

theorem started_freshProcess : freshProcess.Started trusting where
  transaction := rfl
  pending := rfl
  inEffect := by
    have limits (limit : RateLimit) :
        (freshProcess.committed.rateLimit trusting limit).all (fun value => decide (value = text "5/minute")) = true := by
      cases limit <;> decide
    have preferences (preference : DisplayPreference) :
        (freshProcess.committed.displayPreference preference).all (fun value => decide (value = text "UTC")) = true := by
      cases preference <;> decide
    refine ⟨fun limit value names => ?_, fun preference value names => ?_⟩
    · have same := limits limit
      rw [names] at same
      exact (of_decide_eq_true same).symm
    · have same := preferences preference
      rw [names] at same
      exact (of_decide_eq_true same).symm

/-- The root transaction has begun. -/
def begun : SettingsProcess :=
  { freshProcess with transaction := some { current := .root 0, rows := shippedSettings } }

/-- A call in it. -/
def called (newCall : SettingsCall) : SettingsProcess :=
  begun.call trusting { current := .root 0, rows := shippedSettings } newCall

def setLogin : SettingsCall := .setSetting RateLimit.login.key (.str (text "9/minute"))

def setTimezone : SettingsCall := .setSetting DisplayPreference.timezone.key (.str (text "Asia/Tokyo"))

theorem login_committed : ∃ next, (called setLogin).step trusting .commit = some next ∧
    next.rateLimits .login = text "9/minute" ∧
      ((called setLogin).Lawful trusting next ↔ (called setLogin).keepsDisplay trusting .commit = true) := by
  have run : Runs (step trusting) (keepsDisplay trusting) freshProcess (called setLogin) :=
    .head ⟨.begin 0, rfl, rfl⟩ (.single ⟨.call setLogin, by decide, rfl⟩)
  exact ⟨_, rfl, rfl, settings_lawful_iff started_freshProcess run rfl⟩

/-- The timezone is in effect before the commit, and after a rollback. -/
theorem settings_not_lawful : freshProcess.step trusting (.begin 0) = some begun ∧
    begun.step trusting (.call setTimezone) = some (called setTimezone) ∧
    ¬ begun.Lawful trusting (called setTimezone) ∧
    ∃ next, (called setTimezone).step trusting .rollback = some next ∧ ¬ (called setTimezone).Lawful trusting next := by
  refine ⟨rfl, rfl, fun lawful => ?_, _, rfl, fun lawful => ?_⟩
  · have same := congrFun (lawful.waits rfl).2 .timezone
    exact absurd same (by decide)
  · have named := (lawful.follows rfl).displaySettings .timezone (text "UTC") (by decide)
    exact absurd named (by decide)

end SettingsProcess

end LuxSwirl.Server
