import LuxSwirl.Server.CheckCalls
import LuxSwirl.Server.SettingsRoundTrip

/-!
# What calls store of a type's settings

A row's `check_config` through `create_check` and any `update_check` calls, with what
each setting was last set to. A null or an empty text sets nothing and is the form's
"unset"; a type that does not have a setting drops it.
-/

namespace LuxSwirl.Server
open LuxSwirl.Py LuxSwirl.Lib

/-- The settings a call gives, as its schema leaves them; one may be null. -/
def GivenFits (config : List (Key × Value)) : Prop :=
  ∃ settings : TypeSettings, settings.Fits ∧ config ⊆ settings.fields

/-- What a setting was last set to, once a call has left the check with the type. -/
def lastSetAfter (checkType : CheckType) (config : List (Key × Value)) (last : String → Option Value)
    (field : String) : Option Value :=
  if field ∈ typeFields checkType then
    match Fields.get? (fieldKey field) config with
    | none => last field
    | some value => if isSet value then some value else none
  else none

/-- A row that calls on a check left, with what each setting was last set to. A refused
call leaves the row. -/
inductive StoredAs (guards : Guards) : Check → (String → Option Value) → Prop where
  | created {clock : Nat → Time} {id agentId : Id} {data : CheckCreate} {skipConfigUpdate actorIsAdmin : Bool}
      {db created : Db} {check : Check} (given : GivenFits data.config)
      (isCreated : createCheck guards clock id agentId data skipConfigUpdate actorIsAdmin db = .ok created)
      (isNew : created.checks = db.checks ++ [check]) :
      StoredAs guards check (lastSetAfter data.checkType data.config fun _ => none)
  | updated {clock : Nat → Time} {data : CheckUpdate} {actorIsAdmin : Bool} {db updated : Db}
      {check row : Check} {last : String → Option Value} (stored : StoredAs guards check last)
      (found : db.getCheck check.id = some check) (given : GivenFits data.config)
      (isUpdated : updateCheck guards clock check.id data actorIsAdmin db = (updated, none))
      (left : updated.getCheck check.id = some row) :
      StoredAs guards row (lastSetAfter row.checkType data.config last)

/-- A value the schemas take for a setting. -/
def FieldFits (field : String) (value : Value) : Prop :=
  isSet value = true ∧ ∃ settings : TypeSettings, settings.Fits ∧ (fieldKey field, value) ∈ settings.fields

/-- The row holds the settings of its type and no others, each as it was last set. -/
structure Check.Stores (check : Check) (last : String → Option Value) : Prop where
  others : ∀ field ∉ typeFields check.checkType, check.getConfig field = none
  fits : ∀ field value, check.getConfig field = some value → FieldFits field value
  asSet : ∀ field value, last field = some value → check.getConfig field = some value

variable {guards : Guards} {check row : Check} {last : String → Option Value}

theorem fieldKey_mem (field : String) (checkType : CheckType) :
    fieldKey field ∈ (typeFields checkType).map fieldKey ↔ field ∈ typeFields checkType := by
  rw [List.mem_map]
  constructor
  · rintro ⟨other, mem, same⟩
    rwa [← text_inj.mp (Key.text.inj same)]
  · exact fun mem => ⟨field, mem, rfl⟩

theorem typeFields_subset {checkType : CheckType} {field : String} (mem : field ∈ typeFields checkType) :
    fieldKey field ∈ allConfigFields := by
  refine List.mem_map_of_mem (List.mem_flatMap.mpr ⟨checkType, ?_, mem⟩)
  cases checkType <;> first | decide | cases mem

theorem packConfig_keys (given : List (Key × Value)) (checkType : CheckType) :
    ((packConfig given checkType).map (·.1)).Nodup := by
  have within (fields : List String) : ((fields.filterMap fun field =>
      ((Fields.get? (fieldKey field) given).filter isSet).map fun value => (fieldKey field, value)).map
        (·.1)).Sublist (fields.map fieldKey) := by
    induction fields with
    | nil => exact List.Sublist.slnil
    | cons field rest ih =>
      rw [List.filterMap_cons]
      split
      · exact ih.cons _
      · rename_i entry isEntry
        obtain ⟨value, -, rfl⟩ := Option.map_eq_some_iff.mp isEntry
        exact ih.cons_cons _
  refine (within (typeFields checkType)).nodup ?_
  cases checkType <;> decide

/-- What an update leaves of a row's settings. -/
theorem getConfig_of_sets {data : CheckUpdate} (sets : data.Sets check row)
    (others : ∀ field ∉ typeFields check.checkType, check.getConfig field = none) (field : String) :
    row.getConfig field = if field ∈ typeFields row.checkType then
      ((Fields.get? (fieldKey field) data.config).filter isSet).or (check.getConfig field) else none := by
  rw [Check.getConfig, sets.checkConfig]
  simp only [CheckUpdate.config', Option.map_some, Option.getD_some, takeConfigUpdates]
  by_cases isSetting : data.setsConfig (some row.checkType) check
  · rw [if_neg (by simp [isSetting]), Option.getD_some, Fields.get?_foldl_set (packConfig_keys _ _),
      get?_packConfig]
    have kept : Fields.get? (fieldKey field)
        (if decide (some row.checkType ≠ some check.checkType) = true then
          keepTypeFields (check.checkConfig.getD []) row.checkType else check.checkConfig.getD []) =
        if field ∈ typeFields row.checkType then check.getConfig field else none := by
      split_ifs with changes own own
      · rw [keepTypeFields, Fields.get?_filter_key fun key =>
          decide (key ∉ allConfigFields ∨ key ∈ (typeFields row.checkType).map fieldKey)]
        rw [if_pos (decide_eq_true (Or.inr ((fieldKey_mem _ _).mpr own)))]
        rfl
      · rw [keepTypeFields, Fields.get?_filter_key fun key =>
          decide (key ∉ allConfigFields ∨ key ∈ (typeFields row.checkType).map fieldKey)]
        split_ifs with outside
        · refine others field fun mem => ?_
          rcases of_decide_eq_true outside with outside | mem'
          · exact outside (typeFields_subset mem)
          · exact own ((fieldKey_mem _ _).mp mem')
        · rfl
      · rfl
      · have same : row.checkType = check.checkType := by simpa using changes
        exact others field (same ▸ own)
    rw [kept]
    split_ifs
    · rfl
    · rfl
  · have unchanged : packConfig data.config row.checkType = [] ∧ row.checkType = check.checkType := by
      simpa [CheckUpdate.setsConfig, takeConfigUpdates] using isSetting
    rw [if_pos (by simpa using isSetting)]
    have unset := get?_packConfig data.config row.checkType field
    rw [unchanged.1] at unset
    split_ifs at unset ⊢ with own
    · rw [← unset]
      rfl
    · exact others field (unchanged.2 ▸ own)

theorem fits_of_given {config : List (Key × Value)} (given : GivenFits config) {field : String} {value : Value}
    (found : (Fields.get? (fieldKey field) config).filter isSet = some value) : FieldFits field value := by
  obtain ⟨found, isSet⟩ := Option.filter_eq_some_iff.mp found
  obtain ⟨settings, fits, within⟩ := given
  exact ⟨isSet, settings, fits, within (Fields.mem_of_get?_eq_some found)⟩

/-- What a setting was last set to, when a call set it. -/
theorem lastSetAfter_eq_some {checkType : CheckType} {config : List (Key × Value)} {field : String}
    {value : Value} (set : lastSetAfter checkType config last field = some value) :
    field ∈ typeFields checkType ∧
      ((Fields.get? (fieldKey field) config = none ∧ last field = some value) ∨
        (Fields.get? (fieldKey field) config).filter isSet = some value) := by
  unfold lastSetAfter at set
  split_ifs at set with own
  refine ⟨own, ?_⟩
  cases given : Fields.get? (fieldKey field) config with
  | none =>
    rw [given] at set
    exact Or.inl ⟨rfl, set⟩
  | some other =>
    rw [given] at set
    dsimp only at set
    split_ifs at set with isValue
    cases set
    exact Or.inr (by simp [Option.filter, isValue])

theorem stores_created {data : CheckCreate} (given : GivenFits data.config) (id agentId : Id) (now : Time) :
    (data.row id agentId now).Stores (lastSetAfter data.checkType data.config fun _ => none) := by
  have config : ∀ field, (data.row id agentId now).getConfig field =
      if field ∈ typeFields data.checkType then (Fields.get? (fieldKey field) data.config).filter isSet
      else none := by
    intro field
    have packed : (data.row id agentId now).checkConfig.getD [] = packConfig data.config data.checkType := by
      simp only [CheckCreate.row]
      split_ifs with empty
      · exact empty.symm
      · rfl
    rw [Check.getConfig, packed, get?_packConfig]
  refine ⟨fun field other => (config field).trans (if_neg other), fun field value found => ?_,
    fun field value set => ?_⟩
  · rw [config] at found
    split_ifs at found
    exact fits_of_given given found
  · obtain ⟨own, ⟨-, nothing⟩ | found⟩ := lastSetAfter_eq_some set
    · cases nothing
    · rw [config, if_pos own, found]

theorem Check.Stores.updated {data : CheckUpdate} (stores : check.Stores last) (given : GivenFits data.config)
    (sets : data.Sets check row) : row.Stores (lastSetAfter row.checkType data.config last) := by
  have config := getConfig_of_sets sets stores.others
  refine ⟨fun field other => ?_, fun field value found => ?_, fun field value set => ?_⟩
  · rw [config, if_neg other]
  · rw [config] at found
    split_ifs at found
    rcases Option.or_eq_some_iff.mp found with found | ⟨-, found⟩
    · exact fits_of_given given found
    · exact stores.fits field value found
  · obtain ⟨own, ⟨notGiven, set⟩ | found⟩ := lastSetAfter_eq_some set
    · rw [config, if_pos own, notGiven]
      exact stores.asSet field value set
    · rw [config, if_pos own, found]
      rfl

/-- The row that was saved is the one that is read. -/
theorem getCheck_saveCheck {db : Db} (found : db.getCheck row.id = some check) :
    (db.saveCheck row).getCheck row.id = some row := by
  rw [Db.getCheck, Db.saveCheck]
  rw [List.find?_map]
  have sameIds : ((fun check : Check => decide (check.id = row.id)) ∘
      fun check => if check.id = row.id then row else check) = fun check => decide (check.id = row.id) := by
    funext other
    dsimp only [Function.comp_apply]
    split_ifs with same
    · simp [same]
    · rfl
  rw [Db.getCheck] at found
  have same : check.id = row.id := by simpa using List.find?_some found
  rw [sameIds, found, Option.map_some, if_pos same]

/-- Saving a row leaves the other checks. -/
theorem getCheck_saveCheck_of_ne {row : Check} {checkId : Id} (ne : checkId ≠ row.id) (db : Db) :
    (db.saveCheck row).getCheck checkId = db.getCheck checkId := by
  rw [Db.getCheck, Db.saveCheck, Db.getCheck]
  induction db.checks with
  | nil => rfl
  | cons check rest ih =>
    rw [List.map_cons, List.find?_cons, List.find?_cons, ih]
    by_cases isRow : check.id = row.id
    · have notRow : row.id ≠ checkId := fun same => ne same.symm
      simp [isRow, notRow]
    · rw [if_neg isRow]

/-- **A row stores what its settings were last set to**, after any calls on it. -/
theorem StoredAs.stores (stored : StoredAs guards check last) : check.Stores last := by
  induction stored with
  | @created clock id agentId data skipConfigUpdate actorIsAdmin db created check given isCreated isNew =>
    obtain ⟨-, rfl⟩ := createCheck_eq_ok isCreated
    have same : [data.row id agentId (clock 0)] = [check] := by
      refine List.append_cancel_left (Eq.trans ?_ isNew)
      cases skipConfigUpdate <;> rfl
    cases same
    exact stores_created given id agentId (clock 0)
  | @updated clock data actorIsAdmin db updated check row last stored found given isUpdated left ih =>
    obtain ⟨other, saved, isFound, isRow, rfl⟩ := updateCheck_eq_none isUpdated
    rw [found] at isFound
    cases isFound
    have sameId := CheckUpdate.row_id isRow
    have foundRow : (db.touchAgent (clock 1) check.agentId).getCheck saved.id = some check := by
      rw [sameId]
      exact found
    rw [← sameId, getCheck_saveCheck foundRow] at left
    cases left
    exact ih.updated given (CheckUpdate.row_sets isRow)

end LuxSwirl.Server
