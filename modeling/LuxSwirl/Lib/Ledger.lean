import LuxSwirl.Lib.Table
import Mathlib.Algebra.BigOperators.Group.List.Basic
import Mathlib.Tactic.Abel

/-!
# Draining a table

A table's rows are worth something, and work on the table takes parts of that
worth out of it by two ways. `Ledger` says, row by row, how much left each way
and what the row was left as: what left and what stayed add up to what was
there, a row survives as a successor of itself, and a row that nothing touched
is unchanged. Ledgers of consecutive work compose.
-/

namespace LuxSwirl.Lib

namespace Table

variable {α M : Type*} [AddCommMonoid M]

/-- A sum over the rows an alteration leaves is a sum over the rows it was made on. -/
theorem sum_alter (f : Nat → α → Option α) (g : Row α → M) (t : Table α) :
    ((t.alter f).rows.map g).sum = (t.rows.map fun row => (alterRow f row).elim 0 g).sum := by
  rw [rows_alter]
  induction t.rows with
  | nil => rfl
  | cons row rest ih =>
    rw [List.map_cons, List.sum_cons, ← ih]
    cases altered : alterRow f row with
    | none => simp [altered]
    | some row' => simp [altered]

/-- A sum that only one row contributes to. -/
theorem sum_single {t : Table α} {row : Row α} (mem : row ∈ t.rows) (m : M) :
    (t.rows.map fun row' => if row'.id = row.id then m else 0).sum = m := by
  have ids := t.nodup_ids
  revert mem ids
  induction t.rows with
  | nil => simp
  | cons head rest ih =>
    intro mem ids
    rw [List.map_cons, List.nodup_cons] at ids
    rw [List.map_cons, List.sum_cons]
    rcases List.mem_cons.mp mem with rfl | mem
    · have others : (rest.map fun row' => if row'.id = row.id then m else 0) = rest.map fun _ => 0 := by
        refine List.map_congr_left fun row' mem' => if_neg fun same => ?_
        exact ids.1 (List.mem_map.mpr ⟨row', mem', same⟩)
      rw [others, if_pos rfl]
      simp
    · have apart : head.id ≠ row.id := fun same => ids.1 (List.mem_map.mpr ⟨row, mem, same.symm⟩)
      rw [if_neg apart, zero_add, ih mem ids.2]

/-- Altering one row. -/
theorem rows_alter_ne {t : Table α} {id : Nat} {g : α → Option α} {row : Row α}
    (mem : row ∈ t.rows) (other : row.id ≠ id) :
    row ∈ (t.alter fun id' data => if id' = id then g data else some data).rows :=
  mem_alter.mpr ⟨row, mem, rfl, by simp [other]⟩

end Table

variable {α M : Type*} [AddCommMonoid M]

/-- What becomes of a row's data `a`: `sent` and `dropped` leave it, and `out` is
what is left, none when the row is deleted. -/
structure Settled (worth : α → M) (succeeds : α → α → Prop) (touched : α → Prop) (a : α)
    (sent dropped : M) (out : Option α) : Prop where
  total : worth a = sent + dropped + out.elim 0 worth
  succeeds : ∀ b, out = some b → succeeds a b
  touched : out = some a ∨ touched a

/-- From `t` to `t'` the rows gave up `sent` and `dropped` between them. -/
structure Ledger (worth : α → M) (succeeds : α → α → Prop) (touched : α → Prop)
    (sent dropped : M) (t t' : Table α) : Prop where
  settled : ∃ (f : Nat → α → Option α) (s d : Row α → M),
    t' = t.alter f ∧ (t.rows.map s).sum = sent ∧ (t.rows.map d).sum = dropped ∧
      ∀ row ∈ t.rows, Settled worth succeeds touched row.data (s row) (d row) (f row.id row.data)

namespace Ledger

variable {worth : α → M} {succeeds : α → α → Prop} {touched touched' : α → Prop}
  {sent sent' dropped dropped' : M} {t t' t'' : Table α}

theorem refl (reflexive : ∀ a, succeeds a a) (t : Table α) :
    Ledger worth succeeds touched 0 0 t t := by
  refine ⟨fun _ data => some data, fun _ => 0, fun _ => 0, t.alter_keep.symm, by simp, by simp, ?_⟩
  intro row _
  refine ⟨by simp, ?_, Or.inl rfl⟩
  rintro b ⟨⟩
  exact reflexive _

theorem mono (weaker : ∀ a, touched a → touched' a)
    (ledger : Ledger worth succeeds touched sent dropped t t') :
    Ledger worth succeeds touched' sent dropped t t' := by
  obtain ⟨f, s, d, altered, sums, sumd, each⟩ := ledger.settled
  refine ⟨f, s, d, altered, sums, sumd, fun row mem => ?_⟩
  have settled := each row mem
  exact ⟨settled.total, settled.succeeds, settled.touched.imp_right (weaker _)⟩

/-- Work on one row. -/
theorem single {row : Row α} (mem : row ∈ t.rows) {out : Option α}
    (reflexive : ∀ a, succeeds a a)
    (settled : Settled worth succeeds touched row.data sent dropped out) :
    Ledger worth succeeds touched sent dropped t
      (t.alter fun id data => if id = row.id then out else some data) := by
  refine ⟨_, fun row' => if row'.id = row.id then sent else 0,
    fun row' => if row'.id = row.id then dropped else 0, rfl, Table.sum_single mem sent,
    Table.sum_single mem dropped, fun row' mem' => ?_⟩
  by_cases same : row'.id = row.id
  · obtain rfl := Table.eq_of_id_eq mem' mem same
    simpa using settled
  · simp only [same, if_false]
    refine ⟨by simp, ?_, Or.inl rfl⟩
    rintro b ⟨⟩
    exact reflexive _

/-- Work after work. -/
theorem trans (transitive : ∀ a b c, succeeds a b → succeeds b c → succeeds a c)
    (first : Ledger worth succeeds touched sent dropped t t')
    (second : Ledger worth succeeds touched sent' dropped' t' t'') :
    Ledger worth succeeds touched (sent + sent') (dropped + dropped') t t'' := by
  obtain ⟨f, s, d, rfl, rfl, rfl, each⟩ := first.settled
  obtain ⟨g, s', d', rfl, rfl, rfl, each'⟩ := second.settled
  refine ⟨fun id data => (f id data).bind (g id),
    fun row => s row + (Table.alterRow f row).elim 0 s',
    fun row => d row + (Table.alterRow f row).elim 0 d', Table.alter_alter f g t, ?_, ?_, ?_⟩
  · rw [Table.sum_alter, ← List.sum_map_add]
  · rw [Table.sum_alter, ← List.sum_map_add]
  · intro row mem
    have before := each row mem
    cases left : f row.id row.data with
    | none =>
      rw [left] at before
      simp only [Table.alterRow, left, Option.map_none, Option.elim_none, add_zero, Option.bind_none]
      exact before
    | some a =>
      rw [left] at before
      have after := each' ⟨row.id, a⟩ (Table.mem_alter.mpr ⟨row, mem, rfl, left⟩)
      simp only [Table.alterRow, left, Option.map_some, Option.elim_some, Option.bind_some]
      refine ⟨?_, fun b isLeft => ?_, ?_⟩
      · rw [before.total, Option.elim_some, after.total]
        abel
      · exact transitive _ _ _ (before.succeeds a rfl) (after.succeeds b isLeft)
      · rcases before.touched with same | was
        · cases same
          exact after.touched
        · exact Or.inr was

/-- What was there left, or stays. -/
theorem total (ledger : Ledger worth succeeds touched sent dropped t t') :
    (t.rows.map fun row => worth row.data).sum =
      sent + dropped + (t'.rows.map fun row => worth row.data).sum := by
  obtain ⟨f, s, d, rfl, rfl, rfl, each⟩ := ledger.settled
  rw [Table.sum_alter, ← List.sum_map_add, ← List.sum_map_add]
  refine congrArg List.sum (List.map_congr_left fun row mem => ?_)
  rw [(each row mem).total]
  cases left : f row.id row.data with
  | none => simp [Table.alterRow, left]
  | some b => simp [Table.alterRow, left]

end Ledger

end LuxSwirl.Lib
