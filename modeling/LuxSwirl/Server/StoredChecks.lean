import LuxSwirl.Server.StoredSettings

/-!
# What accepted calls leave of checks

Rows after any calls of `create_check` and `update_check` that the schemas take, in
`Db.Tidy`: within the bounds of the create schema, a target's length apart; with
settings of their own type alone; with a script only when they are synthetic, one that
was judged; and depending only on checks that depend on none.
-/

namespace LuxSwirl.Server
open LuxSwirl.Py LuxSwirl.Lib

/-! ## Accepted data -/

/-- What `CheckUpdate` asks of the fields it is given; the column of a description is as
wide as the create schema allows. -/
structure CheckUpdate.Accepted (data : CheckUpdate) : Prop where
  numbers : data.Fits
  displayName : ∀ s ∈ data.displayName.join, FitsText 1 255 s
  target : ∀ s ∈ data.target.join, StoredText s
  description : ∀ s ∈ data.description.join, FitsText 0 1000 s
  tags : FitsTags data.tags.join
  scriptCode : FitsScript data.scriptCode.join
  config : GivenFits data.config

def CheckCall.Accepted : CheckCall → Prop
  | .create _ _ data _ => data.Fits ∧ GivenFits data.config
  | .update _ data => data.Accepted

/-! ## Rows -/

structure Check.InBounds (guards : Guards) (check : Check) : Prop where
  displayName : FitsText 1 255 check.displayName
  target : StoredText check.target
  description : ∀ s ∈ check.description, FitsText 0 1000 s
  intervalSeconds : FitsNumber 1 86400 check.intervalSeconds
  timeoutSeconds : FitsNumber 1 300 check.timeoutSeconds
  retryAttempts : FitsNumber 0 10 check.retryAttempts
  retryIntervalSeconds : FitsNumber 1 300 (some check.retryIntervalSeconds)
  resendNotificationAfter : FitsNumber 1 100 check.resendNotificationAfter
  tags : FitsTags check.tags
  scriptCode : FitsScript check.scriptCode
  judged : ∀ s ∈ check.scriptCode, s ≠ [] → guards.scriptAllowed s = true
  scriptless : check.checkType ≠ .synthetic → check.scriptCode = none
  settings : ∃ last, check.Stores last

/-- The tables such calls leave. -/
structure Db.Tidy (guards : Guards) (db : Db) : Prop where
  rows : ∀ check ∈ db.checks, check.InBounds guards
  parents : ∀ check ∈ db.checks, ∀ parentId ∈ check.dependsOnCheckId,
    ∃ parent, db.getCheck parentId = some parent ∧ parent.dependsOnCheckId = none

variable {guards : Guards} {clock : Nat → Time} {actorIsAdmin : Bool} {db : Db} {check row : Check}

theorem getD_of_join {α : Type} {P : α → Prop} {given : Option (Option α)} {old : α}
    (set : ∀ x ∈ given.join, P x) (kept : P old) : P (given.join.getD old) := by
  cases isGiven : given.join with
  | none => exact kept
  | some x => exact set x isGiven

theorem forall_getD_of_join {α : Type} {P : α → Prop} {given : Option (Option α)} {old : Option α}
    (set : ∀ x ∈ given.join, P x) (kept : ∀ x ∈ old, P x) : ∀ x ∈ given.getD old, P x := by
  cases given with
  | none => exact kept
  | some x => exact set

theorem join_getD {α : Type} {given : Option (Option α)} {old value : α}
    (set : given.getD (some old) = some value) : value = given.join.getD old := by
  rcases given with _ | _ | given <;> cases set <;> rfl

/-- A new row is within bounds. -/
theorem CheckCreate.row_inBounds {data : CheckCreate} (fits : data.Fits) (given : GivenFits data.config)
    (judged : data.validateSynthetic guards actorIsAdmin = .ok ()) (id agentId : Id) (now : Time) :
    (data.row id agentId now).InBounds guards where
  displayName := fits.displayName
  target := (fitsText_iff.mp fits.target).1
  description := fits.description
  intervalSeconds := fits.intervalSeconds
  timeoutSeconds := fits.timeoutSeconds
  retryAttempts := by
    rintro n ⟨⟩
    cases attempts : data.retryAttempts with
    | none => decide
    | some n => exact fits.retryAttempts n attempts
  retryIntervalSeconds := fits.retryIntervalSeconds
  resendNotificationAfter := fits.resendNotificationAfter
  tags := fits.tags
  scriptCode s isScript := by
    simp only [CheckCreate.row] at isScript
    split_ifs at isScript
    · exact fits.scriptCode s isScript
    · cases isScript
  judged s isScript notEmpty := by
    simp only [CheckCreate.row] at isScript
    split_ifs at isScript with isSynthetic
    · simp only [CheckCreate.validateSynthetic, if_pos isSynthetic] at judged
      obtain ⟨-, -, judged⟩ := except_bind_ok.mp judged
      rw [Option.mem_def.mp isScript] at judged
      dsimp only at judged
      rw [if_neg (by simpa using notEmpty), validateScript] at judged
      split_ifs at judged with allowed
      exact allowed
    · cases isScript
  scriptless other := if_neg other
  settings := ⟨_, stores_created given id agentId now⟩

/-- Only a synthetic row keeps a script. -/
theorem CheckUpdate.Leaves.scriptCode {data : CheckUpdate} {now : Time} (leaves : data.Leaves now check row) :
    row.scriptCode = if row.checkType ≠ .synthetic then none else data.scriptCode.getD check.scriptCode :=
  congrArg Check.scriptCode leaves.row

/-- A script an update leaves was judged, now or before. -/
theorem CheckUpdate.Leaves.judged {data : CheckUpdate} {now : Time} (inBounds : check.InBounds guards)
    (judged : ∀ script ∈ data.script check, guards.scriptAllowed script = true)
    (leaves : data.Leaves now check row) :
    ∀ s ∈ row.scriptCode, s ≠ [] → guards.scriptAllowed s = true := by
  rw [leaves.scriptCode]
  split_ifs with other
  · exact nofun
  · intro s given notEmpty
    have becomes : data.checkType.getD (some check.checkType) = some .synthetic := by
      rw [leaves.checkType, not_not.mp other]
    by_cases asked : data.scriptCode.isSome ∨ check.checkType ≠ .synthetic
    · refine judged s ?_
      rw [CheckUpdate.script, if_pos ⟨becomes, asked⟩, Option.mem_def.mp given]
      simpa [Option.filter] using notEmpty
    · rw [not_or, not_not, Bool.not_eq_true, Option.isSome_eq_false_iff, Option.isNone_iff_eq_none] at asked
      rw [asked.1] at given
      exact inBounds.judged s given notEmpty

/-- An update leaves a row within bounds. -/
theorem Check.InBounds.updated {data : CheckUpdate} {now : Time} (inBounds : check.InBounds guards)
    (accepted : data.Accepted) (judged : ∀ script ∈ data.script check, guards.scriptAllowed script = true)
    (leaves : data.Leaves now check row) : row.InBounds guards where
  displayName := by
    rw [join_getD leaves.displayName]
    exact getD_of_join accepted.displayName inBounds.displayName
  target := by
    rw [join_getD leaves.target]
    exact getD_of_join accepted.target inBounds.target
  description := by
    rw [leaves.row]
    exact forall_getD_of_join accepted.description inBounds.description
  intervalSeconds := by
    rw [leaves.row]
    exact forall_getD_of_join accepted.numbers.1 inBounds.intervalSeconds
  timeoutSeconds := by
    rw [leaves.row]
    exact forall_getD_of_join accepted.numbers.2.1 inBounds.timeoutSeconds
  retryAttempts := by
    rw [leaves.row]
    exact forall_getD_of_join accepted.numbers.2.2.1 inBounds.retryAttempts
  retryIntervalSeconds := by
    rintro n ⟨⟩
    rw [join_getD leaves.retryIntervalSeconds]
    exact getD_of_join accepted.numbers.2.2.2.1 (inBounds.retryIntervalSeconds _ rfl)
  resendNotificationAfter := by
    rw [leaves.row]
    exact forall_getD_of_join accepted.numbers.2.2.2.2 inBounds.resendNotificationAfter
  tags := by
    rw [leaves.row]
    exact forall_getD_of_join accepted.tags inBounds.tags
  scriptCode := by
    rw [FitsScript, leaves.scriptCode]
    split_ifs
    · exact nofun
    · exact forall_getD_of_join accepted.scriptCode inBounds.scriptCode
  judged := leaves.judged inBounds judged
  scriptless other := by rw [leaves.scriptCode, if_pos other]
  settings := by
    obtain ⟨last, stores⟩ := inBounds.settings
    exact ⟨_, stores.updated accepted.config leaves.sets⟩

/-! ## Calls -/

/-- What a new check has passed. -/
theorem createCheck_passed {id agentId : Id} {data : CheckCreate} {skipConfigUpdate : Bool} {created : Db}
    (done : createCheck guards clock id agentId data skipConfigUpdate actorIsAdmin db = .ok created) :
    created.checks = db.checks ++ [data.row id agentId (clock 0)] ∧
      validateDependency data.dependsOnCheckId none db = .ok () ∧
      data.validateSynthetic guards actorIsAdmin = .ok () := by
  obtain ⟨-, isCreated⟩ := createCheck_eq_ok done
  obtain ⟨agent, -, checked⟩ := except_bind_ok.mp done
  obtain ⟨⟨⟩, -, checked⟩ := except_bind_ok.mp checked
  obtain ⟨⟨⟩, dependency, checked⟩ := except_bind_ok.mp checked
  obtain ⟨⟨⟩, synthetic, -⟩ := except_bind_ok.mp checked
  refine ⟨?_, dependency, synthetic⟩
  rw [isCreated]
  cases skipConfigUpdate <;> rfl

/-- A parent that is accepted is another check, has none of its own, and gets its first
child only from checks that are no parents. -/
theorem of_validateDependency {parentId : Id} {own : Option Id}
    (accepted : validateDependency (some parentId) own db = .ok ()) :
    own ≠ some parentId ∧
      (∃ parent, db.getCheck parentId = some parent ∧ parent.dependsOnCheckId = none) ∧
      ∀ checkId ∈ own, ∀ check ∈ db.checks, check.dependsOnCheckId ≠ some checkId := by
  unfold validateDependency at accepted
  dsimp only at accepted
  by_cases isSelf : own = some parentId
  · rw [if_pos isSelf] at accepted
    cases accepted
  · rw [if_neg isSelf] at accepted
    cases found : db.getCheck parentId with
    | none =>
      rw [found] at accepted
      cases accepted
    | some parent =>
      rw [found] at accepted
      dsimp only at accepted
      split_ifs at accepted with hasParent isParent
      refine ⟨isSelf, ⟨parent, rfl, by simpa using hasParent⟩, ?_⟩
      rintro checkId isOwn check isCheck depends
      rw [Option.mem_def.mp isOwn] at isParent
      refine isParent (decide_eq_true ?_)
      exact List.countP_pos_iff.mpr ⟨check, isCheck, decide_eq_true depends⟩

theorem CheckUpdate.validate_dependency {data : CheckUpdate} {dependsOn : Option Id}
    (validated : data.validate guards actorIsAdmin check db = .ok ())
    (given : data.dependsOnCheckId = some dependsOn) :
    validateDependency dependsOn (some check.id) db = .ok () := by
  obtain ⟨⟨⟩, -, validated⟩ := except_bind_ok.mp validated
  rw [given] at validated
  obtain ⟨⟨⟩, dependency, -⟩ := except_bind_ok.mp validated
  exact dependency

/-- Reading an id finds what it found before rows were added. -/
theorem getCheck_append {checkId : Id} {found : Check} {added : List Check} {db' : Db}
    (isFound : db.getCheck checkId = some found) (more : db'.checks = db.checks ++ added) :
    db'.getCheck checkId = some found := by
  rw [Db.getCheck] at isFound ⊢
  rw [more, List.find?_append, isFound]
  rfl

/-- A new check leaves the tables tidy. -/
theorem Db.Tidy.created {id agentId : Id} {data : CheckCreate} {skipConfigUpdate : Bool} {created : Db}
    (tidy : db.Tidy guards) (fits : data.Fits) (given : GivenFits data.config)
    (done : createCheck guards clock id agentId data skipConfigUpdate actorIsAdmin db = .ok created) :
    created.Tidy guards := by
  obtain ⟨added, dependency, synthetic⟩ := createCheck_passed done
  constructor
  · rw [added]
    refine List.forall_mem_append.mpr ⟨tidy.rows, List.forall_mem_singleton.mpr ?_⟩
    exact CheckCreate.row_inBounds fits given synthetic id agentId (clock 0)
  · rw [added]
    refine List.forall_mem_append.mpr ⟨?_, List.forall_mem_singleton.mpr ?_⟩
    · rintro check isCheck parentId isParent
      obtain ⟨parent, found, hasNone⟩ := tidy.parents check isCheck parentId isParent
      exact ⟨parent, getCheck_append found added, hasNone⟩
    · rintro parentId isParent
      have isParent : data.dependsOnCheckId = some parentId := isParent
      rw [isParent] at dependency
      obtain ⟨-, ⟨parent, found, hasNone⟩, -⟩ := of_validateDependency dependency
      exact ⟨parent, getCheck_append found added, hasNone⟩

/-- The parent an update leaves a check is another one, with no parent. -/
theorem CheckUpdate.Leaves.parent {data : CheckUpdate} {now : Time} (tidy : db.Tidy guards)
    (found : db.getCheck check.id = some check) (validated : data.validate guards actorIsAdmin check db = .ok ())
    (leaves : data.Leaves now check row) : ∀ parentId ∈ row.dependsOnCheckId, parentId ≠ check.id ∧
      ∃ parent, db.getCheck parentId = some parent ∧ parent.dependsOnCheckId = none := by
  intro parentId isParent
  rw [leaves.row] at isParent
  cases given : data.dependsOnCheckId with
  | none =>
    rw [given] at isParent
    obtain ⟨parent, isFound, hasNone⟩ := tidy.parents check (id_of_getCheck found).1 parentId isParent
    refine ⟨?_, parent, isFound, hasNone⟩
    rintro rfl
    rw [found] at isFound
    cases isFound
    rw [hasNone] at isParent
    cases isParent
  | some dependsOn =>
    rw [given] at isParent
    have dependency := CheckUpdate.validate_dependency validated given
    have isGiven : dependsOn = some parentId := isParent
    rw [isGiven] at dependency
    obtain ⟨isOther, isParent, -⟩ := of_validateDependency dependency
    exact ⟨fun same => isOther (congrArg some same.symm), isParent⟩

/-- A check that others depend on is left without a parent. -/
theorem CheckUpdate.Leaves.parentless {data : CheckUpdate} {now : Time} (tidy : db.Tidy guards)
    (found : db.getCheck check.id = some check) (validated : data.validate guards actorIsAdmin check db = .ok ())
    (leaves : data.Leaves now check row) {child : Check} (isChild : child ∈ db.checks)
    (depends : child.dependsOnCheckId = some check.id) : row.dependsOnCheckId = none := by
  obtain ⟨parent, isFound, hasNone⟩ := tidy.parents child isChild check.id depends
  rw [found] at isFound
  cases isFound
  rw [leaves.row]
  dsimp only
  rcases given : data.dependsOnCheckId with _ | _ | parentId
  · exact hasNone
  · rfl
  · obtain ⟨-, -, childless⟩ := of_validateDependency (CheckUpdate.validate_dependency validated given)
    exact absurd depends (childless check.id rfl child isChild)

/-- An update leaves the tables tidy. -/
theorem Db.Tidy.updated {checkId : Id} {data : CheckUpdate} {updated : Db} (tidy : db.Tidy guards)
    (accepted : data.Accepted)
    (done : updateCheck guards clock checkId data actorIsAdmin db = (updated, none)) : updated.Tidy guards := by
  obtain ⟨check, row, found, validated, judged, isRow, rfl⟩ := updateCheck_passed done
  obtain ⟨isCheck, rfl⟩ := id_of_getCheck found
  have leaves := CheckUpdate.row_leaves isRow
  have sameId : row.id = check.id := CheckUpdate.row_id isRow
  have saved : ((db.touchAgent (clock 1) check.agentId).saveCheck row).checks =
      db.checks.map fun other => if other.id = check.id then row else other := by
    rw [← sameId]
    rfl
  have others : ∀ other, other ≠ check.id →
      ((db.touchAgent (clock 1) check.agentId).saveCheck row).getCheck other = db.getCheck other :=
    fun other ne => getCheck_saveCheck_of_ne (sameId ▸ ne) (db.touchAgent (clock 1) check.agentId)
  constructor
  · rw [saved]
    rintro _ mem
    obtain ⟨other, isOther, rfl⟩ := List.mem_map.mp mem
    split_ifs
    · exact (tidy.rows check isCheck).updated accepted judged leaves
    · exact tidy.rows other isOther
  · rw [saved]
    rintro _ mem parentId isParent
    obtain ⟨other, isOther, rfl⟩ := List.mem_map.mp mem
    split_ifs at isParent with isSelf
    · obtain ⟨ne, parent, isFound, hasNone⟩ := CheckUpdate.Leaves.parent tidy found validated leaves parentId isParent
      exact ⟨parent, (others parentId ne).trans isFound, hasNone⟩
    · by_cases isRowOf : parentId = check.id
      · subst isRowOf
        have touched : (db.touchAgent (clock 1) check.agentId).getCheck row.id = some check := by
          rw [sameId]
          exact found
        refine ⟨row, ?_, CheckUpdate.Leaves.parentless tidy found validated leaves isOther isParent⟩
        rw [← sameId, getCheck_saveCheck touched]
      · obtain ⟨parent, isFound, hasNone⟩ := tidy.parents other isOther parentId isParent
        exact ⟨parent, (others parentId isRowOf).trans isFound, hasNone⟩

/-- **Accepted calls leave the tables tidy.** -/
theorem tidy_afterRequests {requests : List CheckRequest}
    (accepted : ∀ request ∈ requests, request.call.Accepted) (tidy : db.Tidy guards) :
    (afterRequests guards requests db).Tidy guards := by
  induction requests generalizing db with
  | nil => exact tidy
  | cons request rest ih =>
    obtain ⟨here, later⟩ := List.forall_mem_cons.mp accepted
    refine ih later ?_
    show (request.commit guards db).Tidy guards
    rw [CheckRequest.commit]
    cases done : request.call.operation.run guards request.clock request.actorIsAdmin db with
    | error _ => exact tidy
    | ok committed =>
      cases isCall : request.call with
      | create id agentId data skipConfigUpdate =>
        rw [isCall] at here done
        exact tidy.created here.1 here.2 done
      | update checkId data =>
        rw [isCall] at here done
        rw [CheckCall.operation, Operation.run] at done
        split at done
        · rename_i updated isUpdated
          cases done
          exact tidy.updated here isUpdated
        · cases done

end LuxSwirl.Server
