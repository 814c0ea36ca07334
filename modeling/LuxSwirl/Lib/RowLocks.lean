import LuxSwirl.Lib.Sessions

/-!
# Sessions on the rows of a table

Each row of a table is held by at most one transaction, which may hold several. As
for one row (`Fit`), what is known of every session is kept for all of them by each
statement of one; a commit installs all the versions its session holds, and leaves
what the others hold.
-/

namespace LuxSwirl.Lib

variable {Id S K Row : Type*}

/-- The rows of a table. -/
abbrev Rows (Id K Row : Type*) := K → Stored Id Row

namespace Rows

def committed (rows : Rows Id K Row) (key : K) : Row := (rows key).committed

section Statements

variable [DecidableEq Id]

def own (id : Id) (rows : Rows Id K Row) (key : K) : Option Row := (rows key).own id

def write [DecidableEq K] (id : Id) (key : K) (row : Row) (rows : Rows Id K Row) : Rows Id K Row :=
  Function.update rows key ((rows key).write id row)

/-- An UPDATE of the rows that match, as the transaction finds them. -/
def updateWhere (id : Id) (set : Row → Option Row) (rows : Rows Id K Row) : Rows Id K Row := fun key =>
  match ((rows key).found id).bind set with
  | some row => (rows key).write id row
  | none => rows key

def commit (id : Id) (rows : Rows Id K Row) : Rows Id K Row := fun key => (rows key).commit id

def rollback (id : Id) (rows : Rows Id K Row) : Rows Id K Row := fun key => (rows key).rollback id

/-- What is committed once the transaction is. -/
def installed (id : Id) (rows : Rows Id K Row) (key : K) : Row := (rows.own id key).getD (rows.committed key)

end Statements

variable {id other : Id} {key : K} {old row : Row} {rows : Rows Id K Row}

theorem committed_write [DecidableEq K] : (rows.write id key row).committed = rows.committed := by
  funext place
  by_cases same : place = key
  · rw [same, committed, committed, write, Function.update_self]
    rfl
  · rw [committed, committed, write, Function.update_of_ne same]

section Rules

variable [DecidableEq Id]

theorem own_write [DecidableEq K] : (rows.write id key row).own id = Function.update (rows.own id) key (some row) := by
  funext place
  by_cases same : place = key
  · rw [same, own, write, Function.update_self, Function.update_self, Stored.own_write]
  · rw [own, write, Function.update_of_ne same, Function.update_of_ne same]
    rfl

theorem own_write_other [DecidableEq K] (found : (rows key).found id = some old) (apart : other ≠ id) :
    (rows.write id key row).own other = rows.own other := by
  funext place
  by_cases same : place = key
  · rw [same, own, own, write, Function.update_self, Stored.own_other (Stored.own_write id row _) apart,
      Stored.own_other_of_found found apart]
  · rw [own, own, write, Function.update_of_ne same]

theorem committed_updateWhere (set : Row → Option Row) : (rows.updateWhere id set).committed = rows.committed := by
  funext place
  rw [committed, updateWhere]
  split <;> rfl

theorem own_updateWhere (set : Row → Option Row) (key : K) :
    (rows.updateWhere id set).own id key = (((rows key).found id).bind set).or (rows.own id key) := by
  rw [own, updateWhere]
  split
  · rename_i row isSet
    rw [isSet, Stored.own_write]
    rfl
  · rename_i unset
    rw [unset]
    rfl

theorem own_updateWhere_other (set : Row → Option Row) (apart : other ≠ id) :
    (rows.updateWhere id set).own other = rows.own other := by
  funext place
  rw [own, updateWhere]
  split
  · rename_i row isSet
    obtain ⟨old, found, -⟩ := Option.bind_eq_some_iff.mp isSet
    rw [Stored.own_other (Stored.own_write id row _) apart, own, Stored.own_other_of_found found apart]
  · rfl

theorem committed_commit : (rows.commit id).committed = rows.installed id := by
  funext place
  rw [installed, own]
  cases own : (rows place).own id with
  | none => rw [committed, commit, Stored.commit_of_own_none own]; rfl
  | some row => rw [committed, commit, Stored.commit_of_own own]; rfl

theorem own_commit : (rows.commit id).own id = fun _ => none := by
  funext place
  exact Stored.own_commit id (rows place)

theorem own_commit_other (apart : other ≠ id) : (rows.commit id).own other = rows.own other := by
  funext place
  exact Stored.own_commit_other apart

theorem committed_rollback : (rows.rollback id).committed = rows.committed := by
  funext place
  exact Stored.rollback_committed id (rows place)

theorem own_rollback : (rows.rollback id).own id = fun _ => none := by
  funext place
  exact Stored.own_rollback id (rows place)

theorem own_rollback_other (apart : other ≠ id) : (rows.rollback id).own other = rows.own other := by
  funext place
  exact Stored.own_rollback_other apart

/-- A row that another transaction holds is not installed. -/
theorem installed_of_held (held : rows.own other key ≠ none) (apart : other ≠ id) :
    rows.installed id key = rows.committed key := by
  rw [installed]
  cases own : rows.own id key with
  | none => rfl
  | some row => exact absurd (Stored.own_other own apart) held

end Rules

end Rows

/-- What is known of each session fits it, what is committed and what it has written. -/
def FitRows [DecidableEq Id] (fits : Id → S → (K → Row) → (K → Option Row) → Prop) (rows : Rows Id K Row)
    (sessions : Id → S) : Prop := ∀ id, fits id (sessions id) rows.committed (rows.own id)

namespace FitRows

variable [DecidableEq Id] {fits : Id → S → (K → Row) → (K → Option Row) → Prop}
  {rows : Rows Id K Row} {sessions : Id → S} {id : Id} {session : S} {key : K} {old row : Row}

theorem of_update (here : fits id session rows.committed (rows.own id))
    (others : ∀ other, other ≠ id → fits other (sessions other) rows.committed (rows.own other)) :
    FitRows fits rows (Function.update sessions id session) := by
  intro other
  by_cases same : other = id
  · subst same
    rw [Function.update_self]
    exact here
  · rw [Function.update_of_ne same]
    exact others other same

theorem goOn (fit : FitRows fits rows sessions) (here : fits id session rows.committed (rows.own id)) :
    FitRows fits rows (Function.update sessions id session) :=
  of_update here fun other _ => fit other

theorem write [DecidableEq K] (fit : FitRows fits rows sessions) (found : (rows key).found id = some old)
    (here : fits id session rows.committed (Function.update (rows.own id) key (some row))) :
    FitRows fits (rows.write id key row) (Function.update sessions id session) := by
  refine of_update ?_ fun other apart => ?_
  · rwa [Rows.committed_write, Rows.own_write]
  · rw [Rows.committed_write, Rows.own_write_other found apart]
    exact fit other

theorem commit (fit : FitRows fits rows sessions) (here : fits id session (rows.installed id) fun _ => none)
    (others : ∀ other, other ≠ id → fits other (sessions other) rows.committed (rows.own other) →
      (∀ key, rows.own other key ≠ none → rows.installed id key = rows.committed key) →
      fits other (sessions other) (rows.installed id) (rows.own other)) :
    FitRows fits (rows.commit id) (Function.update sessions id session) := by
  refine of_update ?_ fun other apart => ?_
  · rwa [Rows.committed_commit, Rows.own_commit]
  · rw [Rows.committed_commit, Rows.own_commit_other apart]
    exact others other apart (fit other) fun key held => Rows.installed_of_held held apart

theorem rollback (fit : FitRows fits rows sessions) (here : fits id session rows.committed fun _ => none) :
    FitRows fits (rows.rollback id) (Function.update sessions id session) := by
  refine of_update ?_ fun other apart => ?_
  · rwa [Rows.committed_rollback, Rows.own_rollback]
  · rw [Rows.committed_rollback, Rows.own_rollback_other apart]
    exact fit other

end FitRows

end LuxSwirl.Lib
