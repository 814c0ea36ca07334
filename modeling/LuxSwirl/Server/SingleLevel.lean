import LuxSwirl.Lib.Interleaving
import LuxSwirl.Server.Checks

/-!
# Requests on dependencies

`check_dependency_core_service.py`: a request that gives a check a parent reads that
the parent has none and that the check is no parent, and writes later. Each request
is a transaction at READ COMMITTED: its reads see what is committed, and its writes,
by primary key and with values it has settled by then, arrive with its commit.

`dependencies_stay_single_level` is about every run in which no request commits after
another one has broken what it read.
-/

namespace LuxSwirl.Server
open LuxSwirl.Py LuxSwirl.Lib

/-- A request, as far as it concerns dependencies. -/
inductive DependencyRequest where
  /-- `create_check`, of a row -/
  | createCheck (row : Check)
  /-- `update_check`, which may set the parent -/
  | updateCheck (checkId : Id) (dependsOnCheckId : Option (Option Id))
  | setDependents (parentCheckId : Id) (childCheckIds : List Id)

/-- What a request writes: a new row, or the parents of stored ones. -/
structure DependencyWrite where
  created : Option Check := none
  parent : Option Id := none
  attach : List Id := []
  detach : List Id := []

/-- How far a request's transaction is. -/
inductive DependencySession where
  | unopened
  | opened (request : DependencyRequest)
  /-- An update has read its check, -/
  | found (check : Check) (parentId : Id)
  /-- and the parent to be. -/
  | judged (check : Check) (parentId : Id)
  /-- `set_dependents` has read the parent, -/
  | parented (parentId : Id) (childIds : List Id)
  /-- the children to be, -/
  | gathered (parentId : Id) (childIds : List Id) (children : List Check)
  /-- and that none of them is a parent. -/
  | admitted (parentId : Id) (childIds : List Id) (children : List Check)
  | decided (write : DependencyWrite)
  | closed

/-- What a request reads and relies on. -/
inductive DependencyFact where
  | parentless (checkId : Id)
  | childless (checkId : Id)
  deriving DecidableEq

/-- The check is there, and has no parent. -/
def Db.hasNoParent (db : Db) (checkId : Id) : Bool :=
  (db.getCheck checkId).any fun check => check.dependsOnCheckId.isNone

/-- The next read of a request, with what it relies on from then on; a check that
fails refuses the request. -/
def readNext (db : Db) : DependencySession → Option (DependencySession × List DependencyFact)
  | .opened (.createCheck row) =>
    match row.dependsOnCheckId with
    | none => some (.decided { created := some row }, [])
    | some parentId =>
      if db.hasNoParent parentId then some (.decided { created := some row }, [.parentless parentId])
      else some (.closed, [])
  | .opened (.updateCheck checkId dependsOn) =>
    match db.getCheck checkId, dependsOn with
    | none, _ => some (.closed, [])
    | some _, none => some (.decided {}, [])
    | some check, some none =>
      some (.decided { detach := if check.dependsOnCheckId.isSome then [check.id] else [] }, [])
    | some check, some (some parentId) =>
      some (if parentId = check.id then .closed else .found check parentId, [])
  | .found check parentId =>
    if db.hasNoParent parentId then some (.judged check parentId, [.parentless parentId])
    else some (.closed, [])
  | .judged check parentId =>
    if 0 < db.countDependents check.id then some (.closed, [])
    else
      -- an unchanged column is not written
      let attach := if check.dependsOnCheckId = some parentId then [] else [check.id]
      some (.decided { parent := some parentId, attach }, [.childless check.id])
  | .opened (.setDependents parentId childIds) =>
    if db.hasNoParent parentId ∧ parentId ∉ childIds then
      some (.parented parentId childIds, [.parentless parentId])
    else some (.closed, [])
  | .parented parentId childIds =>
    let children := db.checks.filter fun check => decide (check.id ∈ childIds)
    some (if childIds.all fun id => decide (id ∈ children.map (·.id)) then .gathered parentId childIds children
      else .closed, [])
  | .gathered parentId childIds children =>
    if childIds.any fun id => decide (0 < db.countDependents id) then some (.closed, [])
    else some (.admitted parentId childIds children, childIds.map .childless)
  | .admitted parentId childIds children =>
    let current := (db.checks.filter fun check => decide (check.dependsOnCheckId = some parentId)).map (·.id)
    let toAdd := children.filter fun check =>
      decide (check.id ∉ current ∧ check.dependsOnCheckId ≠ some parentId)
    some (.decided
      { parent := some parentId
        attach := toAdd.map (·.id)
        detach := current.filter fun id => decide (id ∉ childIds) }, [])
  | _ => none

namespace DependencyWrite

/-- `set_parent`, on one row. -/
def relink (write : DependencyWrite) (check : Check) : Check :=
  if check.id ∈ write.attach then { check with dependsOnCheckId := write.parent }
  else if check.id ∈ write.detach then { check with dependsOnCheckId := none }
  else check

def apply (write : DependencyWrite) (db : Db) : Db :=
  { db with checks := db.checks.map write.relink ++ write.created.toList }

/-- The primary key of a new row is free. -/
def fresh (write : DependencyWrite) (db : Db) : Bool :=
  write.created.all fun row => (db.getCheck row.id).isNone

/-- The write gives the check a parent, or makes it one. -/
def breaks (write : DependencyWrite) : DependencyFact → Bool
  | .parentless checkId => decide (checkId ∈ write.attach)
  | .childless checkId =>
    decide (write.attach ≠ [] ∧ write.parent = some checkId) ||
      write.created.any fun row => decide (row.dependsOnCheckId = some checkId)

end DependencyWrite

/-- The committed tables, the requests, and what each has read. -/
structure DependencyServer where
  db : Db
  sessions : Id → DependencySession := fun _ => .unopened
  seen : Id → Seen DependencyFact := fun _ => []

inductive DependencyStatement where
  | openSession (id : Id) (request : DependencyRequest)
  | read (id : Id)
  | commit (id : Id)
  | rollback (id : Id)

namespace DependencyServer

/-- The server after a statement, if it can run now. -/
def step : DependencyStatement → DependencyServer → Option DependencyServer
  | .openSession id request, server =>
    match server.sessions id with
    | .unopened => some { server with sessions := Function.update server.sessions id (.opened request) }
    | _ => none
  | .read id, server =>
    (readNext server.db (server.sessions id)).map fun (session, facts) =>
      { server with
        sessions := Function.update server.sessions id session
        seen := Function.update server.seen id (facts.foldr Seen.see (server.seen id)) }
  | .commit id, server =>
    match server.sessions id with
    | .decided write =>
      if write.fresh server.db then
        some
          { db := write.apply server.db
            sessions := Function.update server.sessions id .closed
            seen := fun other => (server.seen other).disturb write.breaks }
      else none
    | _ => none
  | .rollback id, server =>
    match server.sessions id with
    | .unopened | .closed => none
    | _ => some { server with sessions := Function.update server.sessions id .closed }

/-- A request commits with nothing broken of what it read. -/
def commitsUnbroken (server : DependencyServer) : DependencyStatement → Bool
  | .commit id => (server.seen id).unbroken
  | _ => true

end DependencyServer

/-! ## One write -/

/-- No check is its own parent, and no check with a parent is one. -/
structure SingleLevel (checks : List Check) : Prop where
  notOwn : ∀ check ∈ checks, check.dependsOnCheckId ≠ some check.id
  noChain : ∀ check ∈ checks, check.dependsOnCheckId.isSome = true →
    ∀ other ∈ checks, other.dependsOnCheckId ≠ some check.id

/-- The table's primary and foreign keys. -/
structure CheckKeys (checks : List Check) : Prop where
  nodup : (checks.map (·.id)).Nodup
  parents : ∀ check ∈ checks, ∀ parentId ∈ check.dependsOnCheckId, parentId ∈ checks.map (·.id)

def DependencyFact.Holds (db : Db) : DependencyFact → Prop
  | .parentless checkId => checkId ∈ db.checks.map (·.id) ∧
      ∀ check ∈ db.checks, check.id = checkId → check.dependsOnCheckId = none
  | .childless checkId => ∀ check ∈ db.checks, check.dependsOnCheckId ≠ some checkId

namespace DependencyWrite

variable {write : DependencyWrite} {db : Db}

@[simp] theorem id_relink (check : Check) : (write.relink check).id = check.id := by
  rw [relink]
  split_ifs <;> rfl

/-- A parent is the one written, or was there before. -/
theorem parent_relink {check : Check} {parentId : Id}
    (isParent : (write.relink check).dependsOnCheckId = some parentId) :
    (check.id ∈ write.attach ∧ write.parent = some parentId) ∨ check.dependsOnCheckId = some parentId := by
  rw [relink] at isParent
  split_ifs at isParent with attached detached
  · exact .inl ⟨attached, isParent⟩
  · exact .inr isParent

theorem mem_apply {check : Check} : check ∈ (write.apply db).checks ↔
    (∃ old ∈ db.checks, write.relink old = check) ∨ check ∈ write.created := by
  rw [apply, List.mem_append, List.mem_map, Option.mem_toList, Option.mem_def]

theorem map_id_apply : (write.apply db).checks.map (·.id) =
    db.checks.map (·.id) ++ write.created.toList.map (·.id) := by
  rw [apply, List.map_append, List.map_map]
  simp [Function.comp_def]

theorem not_mem_of_fresh (fresh : write.fresh db = true) {row : Check} (created : row ∈ write.created) :
    row.id ∉ db.checks.map (·.id) := by
  rw [DependencyWrite.fresh, created] at fresh
  have missing : db.getCheck row.id = none := Option.isNone_iff_eq_none.mp fresh
  rintro mem
  obtain ⟨check, isCheck, same⟩ := List.mem_map.mp mem
  have other := List.find?_eq_none.mp missing check isCheck
  exact other (decide_eq_true same)

/-- What a write does not break, it keeps. -/
theorem keeps {fact : DependencyFact} (fresh : write.fresh db = true) (spared : write.breaks fact = false)
    (holds : fact.Holds db) : fact.Holds (write.apply db) := by
  cases fact with
  | parentless checkId =>
    obtain ⟨present, none⟩ := holds
    refine ⟨map_id_apply ▸ List.mem_append_left _ present, fun check mem same => ?_⟩
    rcases mem_apply.mp mem with ⟨old, isOld, rfl⟩ | created
    · rw [id_relink] at same
      by_contra given
      obtain ⟨parentId, isParent⟩ := Option.ne_none_iff_exists'.mp given
      rcases parent_relink isParent with ⟨attached, -⟩ | before
      · exact of_decide_eq_false spared (same ▸ attached)
      · rw [none old isOld same] at before
        cases before
    · exact absurd (same ▸ present) (not_mem_of_fresh fresh created)
  | childless checkId =>
    obtain ⟨notParent, notCreated⟩ := Bool.or_eq_false_iff.mp spared
    intro check mem isParent
    rcases mem_apply.mp mem with ⟨old, isOld, rfl⟩ | created
    · rcases parent_relink isParent with ⟨attached, given⟩ | before
      · exact of_decide_eq_false notParent ⟨List.ne_nil_of_mem attached, given⟩
      · exact holds old isOld before
    · rw [created] at notCreated
      exact of_decide_eq_false notCreated isParent

end DependencyWrite

/-- Reads of dependencies and the writes between them. -/
def dependencyReads : Interference Db DependencyFact DependencyWrite where
  holds fact db := fact.Holds db
  apply := DependencyWrite.apply
  valid write db := write.fresh db = true
  breaks := DependencyWrite.breaks
  keeps := DependencyWrite.keeps

/-- What a write relies on is among the facts. -/
structure DependencyWrite.Backed (write : DependencyWrite) (facts : List DependencyFact) : Prop where
  attached : ∀ checkId ∈ write.attach, ∃ parentId, write.parent = some parentId ∧ parentId ≠ checkId ∧
    .parentless parentId ∈ facts ∧ .childless checkId ∈ facts
  created : ∀ row ∈ write.created, write.attach = [] ∧
    ∀ parentId ∈ row.dependsOnCheckId, .parentless parentId ∈ facts

section OneWrite

variable {db : Db} {write : DependencyWrite} {facts : List DependencyFact}

/-- A row that depends on another afterwards: it was given that parent, or had it, or
is new with it. The parent of the first and the last had none before. -/
theorem parent_of_apply (backed : write.Backed facts) {check : Check}
    (mem : check ∈ (write.apply db).checks) {parentId : Id} (isParent : check.dependsOnCheckId = some parentId) :
    (check.id ∈ write.attach ∧ write.parent = some parentId ∧ parentId ≠ check.id ∧
      .parentless parentId ∈ facts ∧ .childless check.id ∈ facts) ∨
    (∃ old ∈ db.checks, old.id = check.id ∧ old.dependsOnCheckId = some parentId) ∨
    (check ∈ write.created ∧ .parentless parentId ∈ facts) := by
  rcases DependencyWrite.mem_apply.mp mem with ⟨old, isOld, rfl⟩ | created
  · rw [DependencyWrite.id_relink]
    rcases DependencyWrite.parent_relink isParent with ⟨attached, given⟩ | before
    · obtain ⟨given', isGiven, apart, parentless, childless⟩ := backed.attached old.id attached
      rw [given] at isGiven
      cases isGiven
      exact .inl ⟨attached, given, apart, parentless, childless⟩
    · exact .inr (.inl ⟨old, isOld, rfl, before⟩)
  · exact .inr (.inr ⟨created, (backed.created check created).2 parentId isParent⟩)

/-- **One write** leaves the checks single-level when what it relies on holds. -/
theorem SingleLevel.apply (single : SingleLevel db.checks) (keyed : CheckKeys db.checks)
    (fresh : write.fresh db = true) (backed : write.Backed facts) (holds : ∀ fact ∈ facts, fact.Holds db) :
    SingleLevel (write.apply db).checks where
  notOwn check mem isOwn := by
    rcases parent_of_apply backed mem isOwn with ⟨-, -, apart, -⟩ | ⟨old, isOld, same, before⟩ |
      ⟨created, parentless⟩
    · exact apart rfl
    · exact single.notOwn old isOld (same ▸ before)
    · exact DependencyWrite.not_mem_of_fresh fresh created (holds _ parentless).1
  noChain check mem hasParent other isOther isChild := by
    obtain ⟨parentId, isParent⟩ := Option.isSome_iff_exists.mp hasParent
    have parents := parent_of_apply backed mem isParent
    -- a check that is given as a parent had none, so it would have to be given one as well
    have notGiven (parentless : .parentless check.id ∈ facts) :
        check.id ∈ write.attach ∧ parentId ≠ check.id ∧ write.parent = some parentId := by
      obtain ⟨present, none⟩ := holds _ parentless
      rcases parents with ⟨attached, given, apart, -⟩ | ⟨old, isOld, same, before⟩ | ⟨created, -⟩
      · exact ⟨attached, apart, given⟩
      · rw [none old isOld same] at before
        cases before
      · exact absurd present (DependencyWrite.not_mem_of_fresh fresh created)
    rcases parent_of_apply backed isOther isChild with ⟨-, given, -, parentless, -⟩ |
      ⟨oldChild, isOldChild, -, before⟩ | ⟨created, parentless⟩
    · obtain ⟨-, apart, alsoGiven⟩ := notGiven parentless
      rw [given] at alsoGiven
      exact apart (Option.some.inj alsoGiven).symm
    · rcases parents with ⟨-, -, -, -, childless⟩ | ⟨old, isOld, same, wasParent⟩ | ⟨created, -⟩
      · exact holds _ childless oldChild isOldChild before
      · exact single.noChain old isOld (by rw [wasParent]; rfl) oldChild isOldChild (same ▸ before)
      · exact DependencyWrite.not_mem_of_fresh fresh created (keyed.parents oldChild isOldChild _ before)
    · obtain ⟨attached, -⟩ := notGiven parentless
      rw [(backed.created other created).1] at attached
      cases attached

/-- It keeps the keys. -/
theorem CheckKeys.apply (keyed : CheckKeys db.checks) (fresh : write.fresh db = true) (backed : write.Backed facts)
    (holds : ∀ fact ∈ facts, fact.Holds db) : CheckKeys (write.apply db).checks where
  nodup := by
    rw [DependencyWrite.map_id_apply, List.nodup_append]
    refine ⟨keyed.nodup, ?_, ?_⟩
    · cases write.created <;> simp
    · rintro id isOld _ isNew rfl
      obtain ⟨row, created, rfl⟩ := List.mem_map.mp isNew
      exact DependencyWrite.not_mem_of_fresh fresh (Option.mem_toList.mp created) isOld
  parents check mem parentId isParent := by
    rw [DependencyWrite.map_id_apply]
    refine List.mem_append_left _ ?_
    rcases parent_of_apply backed mem isParent with ⟨-, -, -, parentless, -⟩ | ⟨old, isOld, -, before⟩ |
      ⟨-, parentless⟩
    · exact (holds _ parentless).1
    · exact keyed.parents old isOld _ before
    · exact (holds _ parentless).1

end OneWrite

/-! ## What a request has read -/

/-- What a request has found so far is among its facts. -/
def DependencySession.Backed (facts : List DependencyFact) : DependencySession → Prop
  | .found check parentId => parentId ≠ check.id
  | .judged check parentId => parentId ≠ check.id ∧ .parentless parentId ∈ facts
  | .parented parentId childIds => parentId ∉ childIds ∧ .parentless parentId ∈ facts
  | .gathered parentId childIds children => parentId ∉ childIds ∧ .parentless parentId ∈ facts ∧
      ∀ check ∈ children, check.id ∈ childIds
  | .admitted parentId childIds children => parentId ∉ childIds ∧ .parentless parentId ∈ facts ∧
      (∀ check ∈ children, check.id ∈ childIds) ∧ ∀ id ∈ childIds, .childless id ∈ facts
  | .decided write => write.Backed facts
  | _ => True

theorem holds_parentless {db : Db} (keyed : CheckKeys db.checks) {checkId : Id}
    (isFree : db.hasNoParent checkId = true) : (DependencyFact.parentless checkId).Holds db := by
  rw [Db.hasNoParent] at isFree
  obtain ⟨check, found⟩ : ∃ check, db.getCheck checkId = some check := by
    cases found : db.getCheck checkId with
    | none => simp [found] at isFree
    | some check => exact ⟨check, rfl⟩
  rw [found] at isFree
  have isCheck := List.mem_of_find?_eq_some found
  have isId : check.id = checkId := by simpa using List.find?_some found
  refine ⟨isId ▸ List.mem_map_of_mem isCheck, fun other isOther same => ?_⟩
  rw [List.inj_on_of_nodup_map keyed.nodup isOther isCheck (same.trans isId.symm)]
  exact Option.isNone_iff_eq_none.mp isFree

theorem holds_childless {db : Db} {checkId : Id} (none : ¬ 0 < db.countDependents checkId) :
    (DependencyFact.childless checkId).Holds db := by
  intro check isCheck isParent
  exact none (List.countP_pos_iff.mpr ⟨check, isCheck, decide_eq_true isParent⟩)

/-- **One read**: what it adds holds, and backs what the request found. -/
theorem readNext_backed {db : Db} (keyed : CheckKeys db.checks) {session next : DependencySession}
    {facts added : List DependencyFact} (isNext : readNext db session = some (next, added))
    (backed : session.Backed facts) :
    (∀ fact ∈ added, fact.Holds db) ∧ next.Backed (added ++ facts) := by
  have refused : ∀ facts : List DependencyFact,
      (∀ fact ∈ ([] : List DependencyFact), fact.Holds db) ∧ DependencySession.closed.Backed facts :=
    fun facts => ⟨by simp, trivial⟩
  cases session with
  | opened request =>
    cases request with
    | createCheck row =>
      simp only [readNext] at isNext
      split at isNext
      · rename_i parentless
        cases isNext
        refine ⟨by simp, ⟨by simp, ?_⟩⟩
        rintro _ ⟨⟩
        exact ⟨rfl, by simp [parentless]⟩
      · rename_i parentId isParent
        split_ifs at isNext with isFree
        · cases isNext
          refine ⟨by simpa using holds_parentless keyed isFree, ⟨by simp, ?_⟩⟩
          rintro _ ⟨⟩
          exact ⟨rfl, by simp [isParent]⟩
        · cases isNext
          exact refused _
    | updateCheck checkId dependsOn =>
      simp only [readNext] at isNext
      split at isNext
      · cases isNext
        exact refused _
      · cases isNext
        exact ⟨by simp, ⟨by simp, by simp⟩⟩
      · cases isNext
        exact ⟨by simp, ⟨by simp, by simp⟩⟩
      · cases isNext
        split_ifs with isOwn
        · exact refused _
        · exact ⟨by simp, isOwn⟩
    | setDependents parentId childIds =>
      simp only [readNext] at isNext
      split_ifs at isNext with isFree
      · cases isNext
        exact ⟨by simpa using holds_parentless keyed isFree.1, isFree.2, by simp⟩
      · cases isNext
        exact refused _
  | found check parentId =>
    simp only [readNext] at isNext
    split_ifs at isNext with isFree
    · cases isNext
      exact ⟨by simpa using holds_parentless keyed isFree, backed, by simp⟩
    · cases isNext
      exact refused _
  | judged check parentId =>
    obtain ⟨apart, parentless⟩ := backed
    simp only [readNext] at isNext
    split at isNext
    · cases isNext
      exact refused _
    · rename_i none
      cases isNext
      refine ⟨by simpa using holds_childless none, ⟨fun checkId attached => ?_, by simp⟩⟩
      have isOwn : checkId = check.id := by
        split_ifs at attached
        · cases attached
        · exact List.mem_singleton.mp attached
      exact ⟨parentId, rfl, isOwn ▸ apart, by simp [parentless], by simp [isOwn]⟩
  | parented parentId childIds =>
    obtain ⟨apart, parentless⟩ := backed
    simp only [readNext] at isNext
    cases isNext
    split_ifs
    · exact ⟨by simp, apart, by simpa using parentless, by simp⟩
    · exact refused _
  | gathered parentId childIds children =>
    obtain ⟨apart, parentless, within⟩ := backed
    simp only [readNext] at isNext
    split_ifs at isNext with isParent
    · cases isNext
      exact refused _
    · cases isNext
      have childless : ∀ id ∈ childIds, (DependencyFact.childless id).Holds db := by
        intro id mem
        refine holds_childless fun positive => isParent ?_
        exact List.any_eq_true.mpr ⟨id, mem, decide_eq_true positive⟩
      exact ⟨by simpa using childless, apart, by simp [parentless], within, fun id mem => by simp [mem]⟩
  | admitted parentId childIds children =>
    obtain ⟨apart, parentless, within, childless⟩ := backed
    simp only [readNext] at isNext
    cases isNext
    refine ⟨by simp, ⟨fun checkId attached => ?_, by simp⟩⟩
    obtain ⟨check, added, rfl⟩ := List.mem_map.mp attached
    have isChild := within check (List.mem_of_mem_filter added)
    exact ⟨parentId, rfl, fun same => apart (same ▸ isChild), by simp [parentless], by simp [childless _ isChild]⟩
  | unopened => cases isNext
  | decided write => cases isNext
  | closed => cases isNext

namespace DependencyServer

/-! ## Runs -/

/-- The checks are single-level, what no write has broken holds, and each request has
read what backs it. -/
structure Consistent (server : DependencyServer) : Prop where
  single : SingleLevel server.db.checks
  keyed : CheckKeys server.db.checks
  sound : ∀ id, dependencyReads.Sound (server.seen id) server.db
  backed : ∀ id, (server.sessions id).Backed (server.seen id).facts

variable {server next : DependencyServer}

/-- A request that goes on without writing. -/
theorem Consistent.goOn (consistent : Consistent server) (id : Id) {session : DependencySession}
    {added : List DependencyFact} (holds : ∀ fact ∈ added, fact.Holds server.db)
    (backed : session.Backed (added ++ (server.seen id).facts)) :
    Consistent { server with
      sessions := Function.update server.sessions id session
      seen := Function.update server.seen id (added.foldr Seen.see (server.seen id)) } := by
  have facts : (added.foldr Seen.see (server.seen id)).facts = added ++ (server.seen id).facts := by
    clear holds backed
    induction added with
    | nil => rfl
    | cons fact rest ih => rw [List.foldr_cons, Seen.facts_see, ih, List.cons_append]
  have sound : dependencyReads.Sound (added.foldr Seen.see (server.seen id)) server.db := by
    clear facts backed
    induction added with
    | nil => exact consistent.sound id
    | cons fact rest ih =>
      obtain ⟨first, holds⟩ := List.forall_mem_cons.mp holds
      exact (ih holds).see first
  refine ⟨consistent.single, consistent.keyed, fun other => ?_, fun other => ?_⟩
  · by_cases same : other = id
    · simpa [same] using sound
    · simpa [same] using consistent.sound other
  · by_cases same : other = id
    · simpa [same, facts] using backed
    · simpa [same] using consistent.backed other

/-- A commit with nothing broken of what its request read. -/
theorem Consistent.commit (consistent : Consistent server) {id : Id} {write : DependencyWrite}
    (decided : server.sessions id = .decided write) (unbroken : (server.seen id).unbroken = true)
    (fresh : write.fresh server.db = true) :
    Consistent
      { db := write.apply server.db
        sessions := Function.update server.sessions id .closed
        seen := fun other => (server.seen other).disturb write.breaks } := by
  have backed : write.Backed (server.seen id).facts := by
    have backed := consistent.backed id
    rwa [decided] at backed
  have holds : ∀ fact ∈ (server.seen id).facts, fact.Holds server.db :=
    fun fact read => (consistent.sound id).holds unbroken read
  refine ⟨consistent.single.apply consistent.keyed fresh backed holds,
    consistent.keyed.apply fresh backed holds, fun other => (consistent.sound other).disturb fresh,
    fun other => ?_⟩
  dsimp only
  rw [Seen.facts_disturb]
  by_cases same : other = id
  · rw [same, Function.update_self]
    trivial
  · rw [Function.update_of_ne same]
    exact consistent.backed other

/-- **One statement** keeps the server consistent. -/
theorem Consistent.step (consistent : Consistent server) {statement : DependencyStatement}
    (allowed : server.commitsUnbroken statement = true) (stepped : server.step statement = some next) :
    Consistent next := by
  have goesOn (id : Id) {session : DependencySession} (backed : session.Backed (server.seen id).facts) :
      Consistent { server with sessions := Function.update server.sessions id session } := by
    have nothing : ∀ fact ∈ ([] : List DependencyFact), fact.Holds server.db := by simp
    have went := consistent.goOn id nothing backed
    rwa [List.foldr_nil, Function.update_eq_self] at went
  cases statement with
  | openSession id request =>
    rw [DependencyServer.step] at stepped
    split at stepped
    · cases stepped
      exact goesOn id trivial
    · cases stepped
  | read id =>
    obtain ⟨⟨session, added⟩, isNext, rfl⟩ := Option.map_eq_some_iff.mp stepped
    obtain ⟨holds, backed⟩ := readNext_backed consistent.keyed isNext (consistent.backed id)
    exact consistent.goOn id holds backed
  | commit id =>
    rw [DependencyServer.step] at stepped
    split at stepped
    · rename_i write decided
      split_ifs at stepped with fresh
      cases stepped
      exact consistent.commit decided allowed fresh
    · cases stepped
  | rollback id =>
    rw [DependencyServer.step] at stepped
    split at stepped
    · cases stepped
    · cases stepped
    · cases stepped
      exact goesOn id trivial

/-- No request was opened yet. -/
structure Fresh (server : DependencyServer) : Prop where
  unopened : ∀ id, server.sessions id = .unopened
  unseen : ∀ id, server.seen id = []

/-- **Dependencies stay single-level** in every run in which no request commits after
another one's commit has broken what it read. -/
theorem stays_single_level {start server : DependencyServer} (fresh : start.Fresh)
    (single : SingleLevel start.db.checks) (keyed : CheckKeys start.db.checks)
    (run : Runs DependencyServer.step commitsUnbroken start server) : SingleLevel server.db.checks := by
  have consistent : Consistent start :=
    { single, keyed
      sound := fun id => fresh.unseen id ▸ Interference.Sound.nil
      backed := fun id => fresh.unopened id ▸ trivial }
  exact (run.keeps (fun _ _ _ allowed stepped consistent => consistent.step allowed stepped) consistent).single

end DependencyServer

/-! ## Two updates -/

/-- Checks with no parents yet. -/
def unrelated : DependencyServer where
  db := { checks := [1, 2, 3].map fun id => { id, agentId := 9, createdAt := 0 } }

theorem unrelated_fresh : unrelated.Fresh := ⟨fun _ => rfl, fun _ => rfl⟩

theorem unrelated_single : SingleLevel unrelated.db.checks := ⟨by decide, by decide⟩

theorem unrelated_keyed : CheckKeys unrelated.db.checks := ⟨by decide, by decide⟩

/-- An update that sets a parent, up to its commit. -/
def readsOf (id checkId parentId : Id) : List DependencyStatement :=
  [.openSession id (.updateCheck checkId (some (some parentId))), .read id, .read id, .read id]

/-- Two updates to one parent, each validated before the other commits. -/
theorem siblings_single_level : ∃ server,
    runAll DependencyServer.step DependencyServer.commitsUnbroken
      (readsOf 11 1 3 ++ readsOf 12 2 3 ++ [.commit 11, .commit 12]) unrelated = some server ∧
    SingleLevel server.db.checks := by
  have stays : ∀ server,
      runAll DependencyServer.step DependencyServer.commitsUnbroken
        (readsOf 11 1 3 ++ readsOf 12 2 3 ++ [.commit 11, .commit 12]) unrelated = some server →
      SingleLevel server.db.checks := fun server ran =>
    DependencyServer.stays_single_level unrelated_fresh unrelated_single unrelated_keyed (.of_runAll ran)
  exact ⟨_, rfl, stays _ rfl⟩

/-- One update makes a check a parent while another gives it one: both are validated,
and the three checks end up in a chain. -/
theorem chained_by_two_updates : SingleLevel unrelated.db.checks ∧ ∃ server,
    runAll DependencyServer.step (fun _ _ => true)
      (readsOf 11 1 2 ++ readsOf 12 2 3 ++ [.commit 11, .commit 12]) unrelated = some server ∧
    ¬ SingleLevel server.db.checks := by
  refine ⟨unrelated_single, _, rfl, fun single => ?_⟩
  have chain := single.noChain
  revert chain
  decide

end LuxSwirl.Server
