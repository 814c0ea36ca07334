import Mathlib.Logic.Relation
import Mathlib.Tactic.SplitIfs

/-!
# One row at READ COMMITTED

A transaction that writes a row holds it, with a version of its own, until it
commits or rolls back; another one's write waits for that and then finds the newest
version. What every write keeps of the version it finds, runs keep of the committed
one (`Run.committed`).
-/

namespace LuxSwirl.Lib

variable {Txn Row : Type*}

/-- A column of a row that a mapper flushes: written when the copy's value changed. -/
def flushColumn {α : Type*} [DecidableEq α] (read set stored : α) : α := if set = read then stored else set

/-- The committed version, and that of the transaction holding the row. -/
structure Stored (Txn Row : Type*) where
  committed : Row
  held : Option (Txn × Row) := none

namespace Stored

section Statements

variable [DecidableEq Txn]

/-- The version a write of the transaction finds; none while it waits. -/
def found (txn : Txn) (stored : Stored Txn Row) : Option Row :=
  match stored.held with
  | none => some stored.committed
  | some (owner, row) => if owner = txn then some row else none

/-- The version the transaction has written. -/
def own (txn : Txn) (stored : Stored Txn Row) : Option Row :=
  stored.held.bind fun (owner, row) => if owner = txn then some row else none

/-- What the transaction reads: its own version, or the committed one. -/
def view (txn : Txn) (stored : Stored Txn Row) : Row := (stored.own txn).getD stored.committed

def write (txn : Txn) (row : Row) (stored : Stored Txn Row) : Stored Txn Row :=
  { stored with held := some (txn, row) }

def commit (txn : Txn) (stored : Stored Txn Row) : Stored Txn Row :=
  match stored.held with
  | none => stored
  | some (owner, row) => if owner = txn then ⟨row, none⟩ else stored

def rollback (txn : Txn) (stored : Stored Txn Row) : Stored Txn Row :=
  match stored.held with
  | none => stored
  | some (owner, _) => if owner = txn then { stored with held := none } else stored

/-- One statement, whose write keeps something of the version it finds. -/
inductive Change (keeps : Row → Row → Prop) (stored : Stored Txn Row) : Stored Txn Row → Prop
  | read : Change keeps stored stored
  | write {txn : Txn} {old row : Row} : stored.found txn = some old → keeps old row →
      Change keeps stored (stored.write txn row)
  | commit (txn : Txn) : Change keeps stored (stored.commit txn)
  | rollback (txn : Txn) : Change keeps stored (stored.rollback txn)

abbrev Run (keeps : Row → Row → Prop) : Stored Txn Row → Stored Txn Row → Prop :=
  Relation.ReflTransGen (Change keeps)

end Statements

/-- A version not committed keeps what the committed one has. -/
def Sound (keeps : Row → Row → Prop) (stored : Stored Txn Row) : Prop :=
  ∀ txn row, stored.held = some (txn, row) → keeps stored.committed row

theorem sound_of_free {keeps : Row → Row → Prop} {stored : Stored Txn Row} (free : stored.held = none) :
    Sound keeps stored := by
  intro txn row held
  rw [free] at held
  cases held

@[simp] theorem write_held (txn : Txn) (row : Row) (stored : Stored Txn Row) :
    (stored.write txn row).held = some (txn, row) := rfl

@[simp] theorem write_committed (txn : Txn) (row : Row) (stored : Stored Txn Row) :
    (stored.write txn row).committed = stored.committed := rfl

section Own

variable [DecidableEq Txn] {stored : Stored Txn Row} {txn other : Txn} {row old : Row}

theorem own_of_free (free : stored.held = none) (txn : Txn) : stored.own txn = none := by
  rw [own, free, Option.bind_none]

theorem own_eq_some : stored.own txn = some row ↔ stored.held = some (txn, row) := by
  rw [own, Option.bind_eq_some_iff]
  refine ⟨?_, fun held => ⟨_, held, if_pos rfl⟩⟩
  rintro ⟨⟨owner, version⟩, held, isOwn⟩
  obtain ⟨rfl, same⟩ := Option.ite_none_right_eq_some.mp isOwn
  rw [held, Option.some.inj same]

/-- One transaction holds the row. -/
theorem own_other (own : stored.own txn = some row) (apart : other ≠ txn) : stored.own other = none := by
  rw [own_eq_some] at own
  rw [Stored.own, own]
  exact if_neg apart.symm

theorem found_eq_some (found : stored.found txn = some old) :
    stored.own txn = some old ∨ stored.held = none ∧ stored.committed = old := by
  unfold Stored.found at found
  split at found
  · rename_i free
    exact .inr ⟨free, Option.some.inj found⟩
  · rename_i owner version held
    obtain ⟨rfl, same⟩ := Option.ite_none_right_eq_some.mp found
    exact .inl (own_eq_some.mpr (Option.some.inj same ▸ held))

/-- A transaction that has written nothing finds what is committed. -/
theorem found_unwritten (unwritten : stored.own txn = none) (found : stored.found txn = some old) :
    old = stored.committed := by
  rcases found_eq_some found with own | ⟨-, isStored⟩
  · cases unwritten.symm.trans own
  · exact isStored.symm

/-- And one that has, its own version. -/
theorem found_of_own (own : stored.own txn = some row) : stored.found txn = some row := by
  rw [found, own_eq_some.mp own]
  exact if_pos rfl

/-- A transaction that can write is the only one to have written. -/
theorem own_other_of_found (found : stored.found txn = some old) (apart : other ≠ txn) :
    stored.own other = none := by
  rcases found_eq_some found with own | ⟨free, -⟩
  · exact own_other own apart
  · exact own_of_free free other

@[simp] theorem own_write (txn : Txn) (row : Row) (stored : Stored Txn Row) :
    (stored.write txn row).own txn = some row := own_eq_some.mpr rfl

theorem commit_of_own (own : stored.own txn = some row) : stored.commit txn = ⟨row, none⟩ := by
  rw [commit, own_eq_some.mp own]
  exact if_pos rfl

theorem rollback_of_own (own : stored.own txn = some row) :
    stored.rollback txn = ⟨stored.committed, none⟩ := by
  rw [rollback, own_eq_some.mp own]
  exact if_pos rfl

theorem commit_of_own_none (own : stored.own txn = none) : stored.commit txn = stored := by
  unfold commit
  split
  · rfl
  · rename_i owner row held
    refine if_neg fun same => ?_
    cases (own_eq_some.mpr (same ▸ held)).symm.trans own

theorem rollback_of_own_none (own : stored.own txn = none) : stored.rollback txn = stored := by
  unfold rollback
  split
  · rfl
  · rename_i owner row held
    refine if_neg fun same => ?_
    cases (own_eq_some.mpr (same ▸ held)).symm.trans own

@[simp] theorem rollback_committed (txn : Txn) (stored : Stored Txn Row) :
    (stored.rollback txn).committed = stored.committed := by
  cases own : stored.own txn with
  | none => rw [rollback_of_own_none own]
  | some row => rw [rollback_of_own own]

@[simp] theorem own_commit (txn : Txn) (stored : Stored Txn Row) : (stored.commit txn).own txn = none := by
  cases own : stored.own txn with
  | none => rw [commit_of_own_none own, own]
  | some row => rw [commit_of_own own]; rfl

theorem own_commit_other (apart : other ≠ txn) : (stored.commit txn).own other = stored.own other := by
  cases own : stored.own txn with
  | none => rw [commit_of_own_none own]
  | some row => rw [commit_of_own own, own_other own apart]; rfl

@[simp] theorem own_rollback (txn : Txn) (stored : Stored Txn Row) : (stored.rollback txn).own txn = none := by
  cases own : stored.own txn with
  | none => rw [rollback_of_own_none own, own]
  | some row => rw [rollback_of_own own]; rfl

theorem own_rollback_other (apart : other ≠ txn) : (stored.rollback txn).own other = stored.own other := by
  cases own : stored.own txn with
  | none => rw [rollback_of_own_none own]
  | some row => rw [rollback_of_own own, own_other own apart]; rfl

end Own

section Rules

variable [DecidableEq Txn] {keeps : Row → Row → Prop} {stored after : Stored Txn Row} {txn : Txn} {row : Row}

theorem found_of_free (free : stored.held = none) (txn : Txn) : stored.found txn = some stored.committed := by
  rw [found, free]

theorem commit_of_held (held : stored.held = some (txn, row)) : stored.commit txn = ⟨row, none⟩ := by
  rw [commit, held]
  exact if_pos rfl

theorem rollback_of_held (held : stored.held = some (txn, row)) :
    stored.rollback txn = ⟨stored.committed, none⟩ := by
  rw [rollback, held]
  exact if_pos rfl

/-- The version found keeps what the committed one has. -/
theorem Sound.found (refl : ∀ row, keeps row row) (sound : Sound keeps stored)
    (isFound : stored.found txn = some row) : keeps stored.committed row := by
  unfold Stored.found at isFound
  split at isFound
  · cases isFound
    exact refl _
  · rename_i owner own held
    split_ifs at isFound
    cases isFound
    exact sound owner row held

/-- **One statement** keeps what the committed version has, and keeps it sound. -/
theorem Change.committed (refl : ∀ row, keeps row row)
    (trans : ∀ first second third, keeps first second → keeps second third → keeps first third)
    (change : Change keeps stored after) (sound : Sound keeps stored) :
    keeps stored.committed after.committed ∧ Sound keeps after := by
  cases change with
  | read => exact ⟨refl _, sound⟩
  | @write txn old row isFound kept =>
    refine ⟨refl _, fun owner own held => ?_⟩
    rw [write_held, Option.some.injEq, Prod.mk.injEq] at held
    have keptAll : keeps stored.committed row := trans _ old _ (sound.found refl isFound) kept
    exact held.2 ▸ keptAll
  | commit txn =>
    unfold Stored.commit
    split
    · exact ⟨refl _, sound⟩
    · rename_i owner row held
      split_ifs
      · exact ⟨sound owner row held, sound_of_free rfl⟩
      · exact ⟨refl _, sound⟩
  | rollback txn =>
    unfold Stored.rollback
    split
    · exact ⟨refl _, sound⟩
    · split_ifs
      · exact ⟨refl _, sound_of_free rfl⟩
      · exact ⟨refl _, sound⟩

/-- **A run** keeps what the committed version had at its start. -/
theorem Run.committed (refl : ∀ row, keeps row row)
    (trans : ∀ first second third, keeps first second → keeps second third → keeps first third)
    (run : Run keeps stored after) (sound : Sound keeps stored) :
    keeps stored.committed after.committed ∧ Sound keeps after := by
  induction run with
  | refl => exact ⟨refl _, sound⟩
  | tail before change ih =>
    obtain ⟨kept, nowSound⟩ := ih
    obtain ⟨keptOn, nextSound⟩ := change.committed refl trans nowSound
    exact ⟨trans _ _ _ kept keptOn, nextSound⟩

end Rules

end Stored

end LuxSwirl.Lib
