import LuxSwirl.Server.Assignments
import LuxSwirl.Server.Checks

/-!
# Versions and changes of checks

An operation on checks marks the agents whose rows it thinks of; an agent's version
shows its mark and the ids of its checks. `configVersion_iff` says when that shows
every change of every list: unless an agent the operation does not mark keeps the
very checks it had, one of them edited.
-/

namespace LuxSwirl.Server
open LuxSwirl.Py LuxSwirl.Lib

/-! ## Marking agents -/

/-- The agent with another mark. -/
def Agent.marked (mark : Agent → Option Time) (agent : Agent) : Agent :=
  { agent with checksUpdatedAt := mark agent }

/-- The largest image is the image of the largest. -/
theorem argmax_map {α β γ : Type} [LinearOrder γ] (f : β → γ) (g : α → β) (items : List α) :
    (items.map g).argmax f = (items.argmax (f ∘ g)).map g := by
  induction items with
  | nil => rfl
  | cons item rest ih =>
    rw [List.map_cons, List.argmax_cons, ih, List.argmax_cons]
    cases rest.argmax (f ∘ g) with
    | none => rfl
    | some best =>
      dsimp only [Option.map_some, Function.comp_apply]
      split_ifs <;> rfl

/-- Marks decide nothing about who runs a check. -/
theorem distributeOwner_marked (outside : Outside) (check : Check) (pool : List Agent) (now : Time)
    (mark : Agent → Option Time) :
    distributeOwner outside check (pool.map (Agent.marked mark)) now =
      (distributeOwner outside check pool now).map (Agent.marked mark) := by
  have online : (pool.map (Agent.marked mark)).filter (fun agent => !handedOff outside agent now) =
      (pool.filter fun agent => !handedOff outside agent now).map (Agent.marked mark) := by
    rw [List.filter_map]
    rfl
  have chosen (agents : List Agent) :
      getAssignedAgentForCheck outside check (agents.map (Agent.marked mark)) =
        (getAssignedAgentForCheck outside check agents).map (Agent.marked mark) :=
    argmax_map (hrwScore outside check) (Agent.marked mark) agents
  rw [distributeOwner, distributeOwner, online]
  rcases pool.filter fun agent => !handedOff outside agent now with _ | ⟨first, rest⟩
  · exact chosen pool
  · exact chosen (first :: rest)

theorem goesTo_marked (outside : Outside) (now : Time) (activeAgents : List Agent) (agent : Agent)
    (check : Check) (mark : Agent → Option Time) :
    goesTo outside now (activeAgents.map (Agent.marked mark)) true (agent.marked mark) check =
      goesTo outside now activeAgents true agent check := by
  have pool : filterAgentsBySelector (activeAgents.map (Agent.marked mark)) check.agentSelector =
      (filterAgentsBySelector activeAgents check.agentSelector).map (Agent.marked mark) := by
    rw [filterAgentsBySelector, List.filter_map]
    rfl
  rw [goesTo, goesTo]
  cases check.assignmentMode with
  | manual => rfl
  | replicate => rfl
  | distribute =>
    dsimp only
    rw [pool, distributeOwner_marked]
    cases distributeOwner outside check (filterAgentsBySelector activeAgents check.agentSelector) now <;> rfl

/-- The agents with the ids are marked, at `since` or later, and nothing else of any
agent changes. -/
def Marks (since : Time) (marked : Id → Prop) (db db' : Db) : Prop :=
  ∃ mark : Agent → Option Time, db'.agents = db.agents.map (Agent.marked mark) ∧ ∀ agent,
    (marked agent.id ∧ ∃ time, since ≤ time ∧ mark agent = some time) ∨
      (¬ marked agent.id ∧ mark agent = agent.checksUpdatedAt)

section Marks

variable {since : Time} {marked more : Id → Prop} {db db' last : Db}

theorem Marks.of_agents (same : db'.agents = db.agents) : Marks since (fun _ => False) db db' := by
  refine ⟨Agent.checksUpdatedAt, ?_, fun agent => .inr ⟨id, rfl⟩⟩
  rw [same]
  exact (List.map_id _).symm

theorem Marks.trans (first : Marks since marked db db') (second : Marks since more db' last) :
    Marks since (fun agentId => marked agentId ∨ more agentId) db last := by
  obtain ⟨mark, agents, marks⟩ := first
  obtain ⟨mark', agents', marks'⟩ := second
  refine ⟨fun agent => mark' (agent.marked mark), ?_, fun agent => ?_⟩
  · rw [agents', agents, List.map_map]
    rfl
  · rcases marks' (agent.marked mark) with ⟨isMore, time⟩ | ⟨notMore, same⟩
    · exact .inl ⟨.inr isMore, time⟩
    · have kept : mark' (agent.marked mark) = mark agent := same
      dsimp only
      rw [kept]
      rcases marks agent with ⟨isMarked, time⟩ | ⟨notMarked, old⟩
      · exact .inl ⟨.inl isMarked, time⟩
      · exact .inr ⟨fun either => either.elim notMarked notMore, old⟩

theorem Marks.congr (first : Marks since marked db db') (same : ∀ agentId, marked agentId ↔ more agentId) :
    Marks since more db db' := by
  have isSame : marked = more := funext fun agentId => propext (same agentId)
  exact isSame ▸ first

theorem Marks.touchAgent {now : Time} (le : since ≤ now) (agentId : Id) (db : Db) :
    Marks since (· = agentId) db (db.touchAgent now agentId) := by
  refine ⟨fun agent => if agent.id = agentId then some now else agent.checksUpdatedAt, ?_, fun agent => ?_⟩
  · rw [Db.touchAgent]
    refine List.map_congr_left fun agent _ => ?_
    rw [Agent.marked]
    split_ifs <;> rfl
  · by_cases isIt : agent.id = agentId
    · exact .inl ⟨isIt, now, le, if_pos isIt⟩
    · exact .inr ⟨isIt, if_neg isIt⟩

theorem Marks.touchAgents {clock : Nat → Time} (le : ∀ n, since ≤ clock n) (agentIds : List Id) (db : Db) :
    Marks since (· ∈ agentIds) db (db.touchAgents clock agentIds) := by
  induction agentIds generalizing clock db with
  | nil => exact (Marks.of_agents rfl).congr fun _ => by simp
  | cons agentId rest ih =>
    have first := Marks.touchAgent (le 0) agentId db
    have others := ih (fun n => le (n + 1)) (db.touchAgent (clock 0) agentId)
    exact (first.trans others).congr fun other => List.mem_cons.symm

@[simp] theorem touchAgents_checks (clock : Nat → Time) (agentIds : List Id) (db : Db) :
    (db.touchAgents clock agentIds).checks = db.checks := by
  induction agentIds generalizing clock db with
  | nil => rfl
  | cons agentId rest ih => exact ih _ _

end Marks

/-! ## What an operation does to lists -/

/-- The agent's list differs, in a check or in a field of one. -/
def ListDiffers (outside : Outside) (now later : Time) (agent agent' : Agent) (db db' : Db) : Prop :=
  ∃ check, ¬ (check ∈ getChecksForAgent outside now agent db ↔ check ∈ getChecksForAgent outside later agent' db')

/-- The version moves for every active agent whose list differs. -/
def VersionMoves {Version : Type} (digest : Option Time × List Id → Version) (outside : Outside)
    (now later : Time) (db db' : Db) : Prop :=
  ∀ agent ∈ db.agents, agent.approvalStatus = .active → ∀ agent' ∈ db'.agents, agent'.id = agent.id →
    ListDiffers outside now later agent agent' db db' →
    configVersion digest outside now agent db ≠ configVersion digest outside later agent' db'

/-- An active agent that is not marked keeps the very checks it had, one of them
edited. -/
structure Missed (marked : Id → Prop) (rowAfter : Check → Option Check) (outside : Outside)
    (now later : Time) (agent : Agent) (db : Db) : Prop where
  active : agent.approvalStatus = .active
  unmarked : ¬ marked agent.id
  keeps : ∀ check ∈ db.checks, goesTo outside now db.listActive true agent check =
    (rowAfter check).any (goesTo outside later db.listActive true agent)
  edited : ∃ check ∈ db.checks, goesTo outside now db.listActive true agent check = true ∧
    rowAfter check ≠ some check

/-- What an operation does: it marks agents, and leaves each check's row edited or
deleted, with some new checks. One with new checks edits none. -/
structure Effects (marked : Id → Prop) (rowAfter : Check → Option Check) (since : Time) (db db' : Db) :
    Prop where
  marks : Marks since marked db db'
  sameId : ∀ check ∈ db.checks, ∀ row, rowAfter check = some row → row.id = check.id
  checks : ∃ created, db'.checks = db.checks.filterMap rowAfter ++ created ∧
    (∀ row ∈ created, ∀ check ∈ db.checks, check.id ≠ row.id) ∧
    (created = [] ∨ ∀ check ∈ db.checks, rowAfter check = some check)

/-- Ids are unique, and every mark is older than `since`. -/
structure Configured (since : Time) (db : Db) : Prop where
  agentKeys : (db.agents.map (·.id)).Nodup
  checkKeys : (db.checks.map (·.id)).Nodup
  marks : ∀ agent ∈ db.agents, ∀ time, agent.checksUpdatedAt = some time → time < since

/-- Lists of ids have one order. -/
theorem sorted_eq_iff {ids ids' : List Id} :
    ids.insertionSort (· ≤ ·) = ids'.insertionSort (· ≤ ·) ↔ ids.Perm ids' := by
  constructor
  · intro same
    exact (List.perm_insertionSort _ ids).symm.trans (same ▸ List.perm_insertionSort _ ids')
  · intro perm
    have sorted := ((List.perm_insertionSort (· ≤ ·) ids).trans perm).trans
      (List.perm_insertionSort (· ≤ ·) ids').symm
    exact sorted.eq_of_pairwise' (List.pairwise_insertionSort _ ids) (List.pairwise_insertionSort _ ids')

section Effects

variable {marked : Id → Prop} {rowAfter : Check → Option Check} {since : Time} {db db' : Db}
  {outside : Outside} {now later : Time} {agent : Agent}

/-- A row after an operation is an old one's or new. -/
theorem Effects.of_row (effects : Effects marked rowAfter since db db') {row : Check} (mem : row ∈ db'.checks) :
    (∃ check ∈ db.checks, rowAfter check = some row) ∨ ∀ check ∈ db.checks, check.id ≠ row.id := by
  obtain ⟨created, checks, fresh, -⟩ := effects.checks
  rw [checks] at mem
  rcases List.mem_append.mp mem with old | isNew
  · exact .inl (List.mem_filterMap.mp old)
  · exact .inr (fresh row isNew)

/-- An operation that leaves an agent its checks leaves it their ids, in order. -/
theorem Effects.ids_of_keeps (effects : Effects marked rowAfter since db db')
    (keeps : ∀ check ∈ db.checks, goesTo outside now db.listActive true agent check =
      (rowAfter check).any (goesTo outside later db.listActive true agent))
    (edited : ∃ check ∈ db.checks, rowAfter check ≠ some check) :
    (db'.checks.filter (goesTo outside later db.listActive true agent)).map (·.id) =
      (db.checks.filter (goesTo outside now db.listActive true agent)).map (·.id) := by
  obtain ⟨created, checks, -, none_⟩ := effects.checks
  have noneCreated : created = [] := by
    rcases none_ with none_ | unedited
    · exact none_
    · obtain ⟨check, mem, edited⟩ := edited
      exact absurd (unedited check mem) edited
  rw [checks, noneCreated, List.append_nil]
  have each : ∀ rows : List Check, rows ⊆ db.checks →
      ((rows.filterMap rowAfter).filter (goesTo outside later db.listActive true agent)).map (·.id) =
        (rows.filter (goesTo outside now db.listActive true agent)).map (·.id) := by
    intro rows within
    induction rows with
    | nil => rfl
    | cons check rest ih =>
      have isCheck := within (List.mem_cons_self ..)
      have tail := ih fun other mem => within (List.mem_cons_of_mem _ mem)
      have same := keeps check isCheck
      cases left : rowAfter check with
      | none =>
        rw [left] at same
        rw [List.filterMap_cons_none left, tail, List.filter_cons_of_neg (by rw [same]; simp)]
      | some row =>
        rw [left] at same
        have isId := effects.sameId check isCheck row left
        rw [List.filterMap_cons_some left, List.filter_cons, List.filter_cons, same]
        dsimp only [Option.any_some]
        split_ifs
        · rw [List.map_cons, List.map_cons, tail, isId]
        · exact tail
  exact each db.checks (List.Subset.refl _)

/-- Who runs a check reads no marks. -/
theorem Marks.goesTo {mark : Agent → Option Time} (agents : db'.agents = db.agents.map (Agent.marked mark))
    (agent : Agent) (check : Check) :
    Server.goesTo outside later db'.listActive true (agent.marked mark) check =
      Server.goesTo outside later db.listActive true agent check := by
  have active : db'.listActive = db.listActive.map (Agent.marked mark) := by
    rw [Db.listActive, agents, List.filter_map]
    rfl
  rw [active, goesTo_marked]

/-- A check whose row is left as it was, or has the id of one. -/
theorem Effects.of_id (configured : Configured since db) (effects : Effects marked rowAfter since db db')
    {check row : Check} (isCheck : check ∈ db.checks) (isRow : row ∈ db'.checks) (same : row.id = check.id) :
    rowAfter check = some row := by
  rcases effects.of_row isRow with ⟨other, isOther, left⟩ | isNew
  · have sameId := (effects.sameId other isOther row left).symm.trans same
    have isIt : other = check := List.inj_on_of_nodup_map configured.checkKeys isOther isCheck sameId
    exact isIt ▸ left
  · exact absurd same.symm (isNew check isCheck)

/-- The agent, by its liveness before, is given checks of the same ids. -/
def SameIds (outside : Outside) (now later : Time) (agent : Agent) (db db' : Db) : Prop :=
  ∀ id, (∃ check ∈ db.checks, goesTo outside now db.listActive true agent check = true ∧ check.id = id) ↔
    ∃ row ∈ db'.checks, goesTo outside later db.listActive true agent row = true ∧ row.id = id

/-- An agent with its checks' ids as before keeps those checks. -/
theorem Effects.keeps_of_ids (configured : Configured since db) (effects : Effects marked rowAfter since db db')
    (sameIds : SameIds outside now later agent db db') :
    ∀ check ∈ db.checks, goesTo outside now db.listActive true agent check =
      (rowAfter check).any (goesTo outside later db.listActive true agent) := by
  intro check isCheck
  rw [Bool.eq_iff_iff, Option.any_eq_true]
  constructor
  · intro goes
    obtain ⟨row, isRow, goesOn, same⟩ := (sameIds check.id).mp ⟨check, isCheck, goes, rfl⟩
    exact ⟨row, effects.of_id configured isCheck isRow same, goesOn⟩
  · rintro ⟨row, left, goesOn⟩
    have isRow : row ∈ db'.checks := by
      obtain ⟨created, checks, -⟩ := effects.checks
      rw [checks]
      exact List.mem_append_left _ (List.mem_filterMap.mpr ⟨check, isCheck, left⟩)
    obtain ⟨other, isOther, goes, same⟩ := (sameIds row.id).mpr ⟨row, isRow, goesOn, rfl⟩
    have isIt : other = check := List.inj_on_of_nodup_map configured.checkKeys isOther isCheck
      (same.trans (effects.sameId check isCheck row left))
    exact isIt ▸ goes

/-- An agent that keeps its checks while its list differs has an edited one. -/
theorem Effects.edited_of_differs (configured : Configured since db)
    (effects : Effects marked rowAfter since db db') (sameIds : SameIds outside now later agent db db')
    {check : Check} (differs : ¬ ((check ∈ db.checks ∧ goesTo outside now db.listActive true agent check = true) ↔
      check ∈ db'.checks ∧ goesTo outside later db.listActive true agent check = true)) :
    ∃ check ∈ db.checks, goesTo outside now db.listActive true agent check = true ∧
      rowAfter check ≠ some check := by
  by_contra none_
  have keeps := effects.keeps_of_ids configured sameIds
  have kept : ∀ check ∈ db.checks, goesTo outside now db.listActive true agent check = true →
      rowAfter check = some check := by
    intro check isCheck goes
    by_contra edited
    exact none_ ⟨check, isCheck, goes, edited⟩
  apply differs
  constructor
  · rintro ⟨isCheck, goes⟩
    have left := kept check isCheck goes
    have goesOn := keeps check isCheck
    rw [left, goes] at goesOn
    obtain ⟨created, checks, -⟩ := effects.checks
    refine ⟨?_, goesOn.symm⟩
    rw [checks]
    exact List.mem_append_left _ (List.mem_filterMap.mpr ⟨check, isCheck, left⟩)
  · rintro ⟨isRow, goesOn⟩
    obtain ⟨old, isOld, goes, sameId⟩ := (sameIds check.id).mpr ⟨check, isRow, goesOn, rfl⟩
    have left := effects.of_id configured isOld isRow sameId.symm
    rw [kept old isOld goes] at left
    cases left
    exact ⟨isOld, goes⟩

/-- **The versions move exactly when no agent is missed.** -/
theorem Effects.versionMoves_iff {Version : Type} {digest : Option Time × List Id → Version}
    (injective : Function.Injective digest) (configured : Configured since db)
    (effects : Effects marked rowAfter since db db') :
    VersionMoves digest outside now later db db' ↔
      ∀ agent ∈ db.agents, ¬ Missed marked rowAfter outside now later agent db := by
  obtain ⟨mark, agents, marks⟩ := effects.marks
  have versions (agent agent' : Agent) :
      configVersion digest outside now agent db = configVersion digest outside later agent' db' ↔
        agent.checksUpdatedAt = agent'.checksUpdatedAt ∧
          ((getChecksForAgent outside now agent db).map (·.id)).Perm
            ((getChecksForAgent outside later agent' db').map (·.id)) := by
    rw [configVersion, configVersion, injective.eq_iff, Prod.mk.injEq, sorted_eq_iff]
  have after (agent : Agent) : getChecksForAgent outside later (agent.marked mark) db' =
      db'.checks.filter (goesTo outside later db.listActive true agent) := by
    rw [getChecksForAgent, checksForAgent_eq]
    exact List.filter_congr fun check _ => Marks.goesTo agents agent check
  constructor
  · rintro moves agent isAgent ⟨active, unmarked, keeps, check, isCheck, goes, edited⟩
    have isAgent' : agent.marked mark ∈ db'.agents := by
      rw [agents]
      exact List.mem_map_of_mem isAgent
    have sameMark : agent.checksUpdatedAt = (agent.marked mark).checksUpdatedAt := by
      rcases marks agent with ⟨isMarked, -⟩ | ⟨-, same⟩
      · exact absurd isMarked unmarked
      · exact same.symm
    refine moves agent isAgent active _ isAgent' rfl ⟨check, fun same => ?_⟩ ((versions _ _).mpr ⟨sameMark, ?_⟩)
    · have inList := same.mp (mem_checksForAgent.mpr ⟨isCheck, goes⟩)
      rw [after] at inList
      exact edited (effects.of_id configured isCheck (List.mem_of_mem_filter inList) rfl)
    · rw [after, getChecksForAgent, checksForAgent_eq, effects.ids_of_keeps keeps ⟨check, isCheck, edited⟩]
  · intro unmissed agent isAgent active agent' isAgent' sameId differs sameVersion
    have isIt : agent' = agent.marked mark := by
      rw [agents] at isAgent'
      obtain ⟨other, isOther, rfl⟩ := List.mem_map.mp isAgent'
      rw [List.inj_on_of_nodup_map configured.agentKeys isOther isAgent sameId]
    rw [isIt] at differs sameVersion
    obtain ⟨sameMark, perm⟩ := (versions _ _).mp sameVersion
    have unmarked : ¬ marked agent.id := by
      intro isMarked
      rcases marks agent with ⟨-, time, isLater, isMark⟩ | ⟨notMarked, -⟩
      · have old : agent.checksUpdatedAt = some time := sameMark.trans isMark
        exact absurd isLater (not_le_of_gt (configured.marks agent isAgent time old))
      · exact notMarked isMarked
    have sameIds : SameIds outside now later agent db db' := by
      intro id
      have ofPerm := perm.mem_iff (a := id)
      rw [after, getChecksForAgent, checksForAgent_eq] at ofPerm
      simpa [List.mem_map, List.mem_filter, and_assoc] using ofPerm
    obtain ⟨check, differs⟩ := differs
    rw [after, getChecksForAgent, checksForAgent_eq, List.mem_filter, List.mem_filter] at differs
    exact unmissed agent isAgent ⟨active, unmarked, effects.keeps_of_ids configured sameIds,
      effects.edited_of_differs configured sameIds differs⟩

end Effects

end LuxSwirl.Server
