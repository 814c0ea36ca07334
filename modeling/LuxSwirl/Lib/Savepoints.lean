import Mathlib.Data.List.Basic
import Mathlib.Tactic.Common

/-!
# Work deferred to a commit

A session's transactions form a chain: savepoints within savepoints, within a root. What
is deferred in one of them waits for the root's commit: a savepoint that commits hands
its entries to its parent (`land`), one that rolls back drops them (`dropWithin`).

What is to be known of the session's data goes by the values deferred so far. When it
held of each savepoint's snapshot, with the entries from before it, a rollback finds it
again (`Covered.rollback`).
-/

namespace LuxSwirl.Lib

/-- A transaction of a session, with the one around it. A child that is not a savepoint
is one that a flush opens. -/
inductive SessionTransaction where
  | root (id : Nat)
  | child (id : Nat) (nested : Bool) (parent : SessionTransaction)
  deriving DecidableEq

namespace SessionTransaction

/-- The savepoint or root that a rollback of the transaction goes to. -/
def boundary : SessionTransaction → SessionTransaction
  | .root id => .root id
  | .child id nested parent => if nested then .child id nested parent else parent.boundary

/-- It is the ended transaction, or nested inside it. -/
def within : SessionTransaction → SessionTransaction → Bool
  | .root id, ended => decide (.root id = ended)
  | .child id nested parent, ended => decide (.child id nested parent = ended) || parent.within ended

def depth : SessionTransaction → Nat
  | .root _ => 0
  | .child _ _ parent => parent.depth + 1

theorem within_self (transaction : SessionTransaction) : transaction.within transaction = true := by
  cases transaction <;> simp [within]

theorem depth_le_of_within {transaction ended : SessionTransaction} (inside : transaction.within ended = true) :
    ended.depth ≤ transaction.depth := by
  induction transaction with
  | root id =>
    rw [within, decide_eq_true_eq] at inside
    exact inside ▸ Nat.le_refl _
  | child id nested parent ih =>
    rw [within, Bool.or_eq_true, decide_eq_true_eq] at inside
    rcases inside with same | inside
    · exact same ▸ Nat.le_refl _
    · exact Nat.le_succ_of_le (ih inside)

/-- What is around a transaction is not inside it. -/
theorem not_within_child {transaction parent : SessionTransaction} (around : parent.within transaction = true)
    (id : Nat) (nested : Bool) : transaction.within (.child id nested parent) = false := by
  rw [Bool.eq_false_iff]
  intro inside
  have down := depth_le_of_within inside
  have up := depth_le_of_within around
  rw [depth] at down
  omega

end SessionTransaction

/-- Values, each with the transaction it is deferred in, oldest first. -/
abbrev Deferred (α : Type*) := List (SessionTransaction × α)

namespace Deferred

variable {α σ : Type*}

def values (pending : Deferred α) : List α := pending.map (·.2)

/-- A savepoint's entries belong to the transaction around it. -/
def land (committed : SessionTransaction) (pending : Deferred α) : Deferred α :=
  pending.map fun entry =>
    match committed with
    | .root _ => entry
    | .child _ _ parent => if entry.1 = committed then (parent, entry.2) else entry

/-- The entries made in the transaction or inside it are dropped. -/
def dropWithin (ended : SessionTransaction) (pending : Deferred α) : Deferred α :=
  pending.filter fun entry => !entry.1.within ended

theorem values_append (pending more : Deferred α) : values (pending ++ more) = values pending ++ values more :=
  List.map_append

theorem values_land (committed : SessionTransaction) (pending : Deferred α) :
    values (land committed pending) = values pending := by
  rw [values, values, land, List.map_map]
  refine List.map_congr_left fun entry _ => ?_
  cases committed with
  | root id => rfl
  | child id nested parent =>
    simp only [Function.comp_apply]
    split_ifs <;> rfl

/-- The entries are those of the chain of transactions, each savepoint's after those from
before it, which are known of its snapshot. -/
inductive Covered (known : σ → List α → Prop) : SessionTransaction → List σ → Deferred α → Prop
  | root (id : Nat) (own : List α) : Covered known (.root id) [] (own.map (.root id, ·))
  | child (id : Nat) (snapshot : σ) (own : List α) {parent : SessionTransaction} {snapshots : List σ}
      {before : Deferred α} (held : known snapshot before.values) (covered : Covered known parent snapshots before) :
      Covered known (.child id true parent) (snapshot :: snapshots)
        (before ++ own.map (.child id true parent, ·))

variable {known : σ → List α → Prop} {transaction parent : SessionTransaction} {snapshots : List σ}
  {pending : Deferred α} {id : Nat}

theorem Covered.push (covered : Covered known transaction snapshots pending) (value : α) :
    Covered known transaction snapshots (pending ++ [(transaction, value)]) := by
  cases covered with
  | root id own =>
    have more := @Covered.root α σ known id (own ++ [value])
    rwa [List.map_append] at more
  | child id snapshot own held covered =>
    have more := Covered.child id snapshot (own ++ [value]) held covered
    rwa [List.map_append, ← List.append_assoc] at more

theorem Covered.beginNested (covered : Covered known transaction snapshots pending) {snapshot : σ}
    (held : known snapshot pending.values) (id : Nat) :
    Covered known (.child id true transaction) (snapshot :: snapshots) pending := by
  have begun := Covered.child id snapshot [] held covered
  rwa [List.map_nil, List.append_nil] at begun

/-- An entry's transaction is around the current one. -/
theorem Covered.around (covered : Covered known transaction snapshots pending) {entry : SessionTransaction × α}
    (mem : entry ∈ pending) : transaction.within entry.1 = true := by
  induction covered with
  | root id own =>
    obtain ⟨value, -, rfl⟩ := List.mem_map.mp mem
    exact SessionTransaction.within_self _
  | child id snapshot own held covered ih =>
    rcases List.mem_append.mp mem with earlier | isOwn
    · rw [SessionTransaction.within, ih earlier, Bool.or_true]
    · obtain ⟨value, -, rfl⟩ := List.mem_map.mp isOwn
      exact SessionTransaction.within_self _

/-- Entries that all belong to one transaction, handed to its parent. -/
theorem Covered.append (covered : Covered known transaction snapshots pending) (values : List α) :
    Covered known transaction snapshots (pending ++ values.map (transaction, ·)) := by
  induction values generalizing pending with
  | nil => simpa using covered
  | cons value rest ih => simpa using ih (covered.push value)

/-- **A savepoint commits.** -/
theorem Covered.commit (covered : Covered known (.child id true parent) snapshots pending) :
    Covered known parent snapshots.tail (land (.child id true parent) pending) := by
  cases covered with
  | @child id snapshot own _ snapshots before held covered =>
    have outside : land (.child id true parent) before = before := by
      refine List.map_congr_left (fun entry mem => ?_) |>.trans (List.map_id _)
      have apart : entry.1 ≠ .child id true parent := by
        intro same
        have around := SessionTransaction.not_within_child (covered.around mem) id true
        rw [same, SessionTransaction.within_self] at around
        cases around
      simp [apart]
    have handed : land (.child id true parent) (own.map (.child id true parent, ·)) = own.map (parent, ·) := by
      rw [land, List.map_map]
      exact List.map_congr_left fun value _ => by simp
    have both : land (.child id true parent) (before ++ own.map (.child id true parent, ·)) =
        land (.child id true parent) before ++ land (.child id true parent) (own.map (.child id true parent, ·)) :=
      List.map_append
    rw [both, outside, handed]
    exact covered.append own

/-- **A savepoint rolls back**, or a flush inside it does: its snapshot is known again. -/
theorem Covered.rollback (covered : Covered known (.child id true parent) snapshots pending) :
    ∃ snapshot, snapshots = snapshot :: snapshots.tail ∧
      known snapshot (dropWithin (.child id true parent) pending).values ∧
      Covered known parent snapshots.tail (dropWithin (.child id true parent) pending) ∧
      Covered known (.child id true parent) snapshots (dropWithin (.child id true parent) pending) := by
  cases covered with
  | @child id snapshot own _ snapshots before held covered =>
    have kept : dropWithin (.child id true parent) (before ++ own.map (.child id true parent, ·)) = before := by
      rw [dropWithin, List.filter_append, List.filter_eq_self.mpr, List.filter_eq_nil_iff.mpr, List.append_nil]
      · intro entry mem
        obtain ⟨value, -, rfl⟩ := List.mem_map.mp mem
        simp [SessionTransaction.within_self]
      · intro entry mem
        rw [SessionTransaction.not_within_child (covered.around mem)]
        rfl
    rw [kept]
    exact ⟨snapshot, rfl, held, covered, covered.beginNested held id⟩

/-- A root that rolls back drops everything. -/
theorem Covered.rollback_root (covered : Covered known (.root id) snapshots pending) :
    snapshots = [] ∧ dropWithin (.root id) pending = [] := by
  cases covered with
  | root id own =>
    refine ⟨rfl, ?_⟩
    rw [dropWithin, List.filter_eq_nil_iff]
    intro entry mem
    obtain ⟨value, -, rfl⟩ := List.mem_map.mp mem
    simp [SessionTransaction.within_self]

/-- Only savepoints are current. -/
theorem Covered.nested {nested : Bool} (covered : Covered known (.child id nested parent) snapshots pending) :
    nested = true := by
  cases covered
  rfl

end Deferred

end LuxSwirl.Lib
