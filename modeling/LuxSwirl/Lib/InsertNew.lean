import Mathlib.Data.List.Nodup
import Mathlib.Tactic.Common

/-!
# Inserting rows that are new

`INSERT … ON CONFLICT (key) DO NOTHING` of some rows in turn, into a table with
a primary key besides the one it names: a row whose key is taken is passed by,
and one that is new by its key and not by its primary key fails the statement.
The rows inserted are `firsts`, in one statement or in several.
-/

namespace LuxSwirl.Lib

variable {ρ σ κ π : Type*} [DecidableEq κ]

/-- The rows whose key is not taken, the first of each key. -/
def firsts (key : ρ → κ) : List κ → List ρ → List ρ
  | _, [] => []
  | taken, row :: rest =>
    if key row ∈ taken then firsts key taken rest else row :: firsts key (key row :: taken) rest

/-- The rows that go in, by the keys and the primary keys in the table; none when a
primary key is violated. -/
def insertNew [DecidableEq π] (key : ρ → κ) (primary : ρ → π) : List κ → List π → List ρ → Option (List ρ)
  | _, _, [] => some []
  | taken, held, row :: rest =>
    if key row ∈ taken then insertNew key primary taken held rest
    else if primary row ∈ held then none
    else (insertNew key primary (key row :: taken) (primary row :: held) rest).map (row :: ·)

/-- No primary key of the rows is held, nor occurs in two of them. -/
structure Apart (primary : ρ → π) (held : List π) (rows : List ρ) : Prop where
  free : ∀ row ∈ rows, primary row ∉ held
  nodup : (rows.map primary).Nodup

section Apart

variable {primary : ρ → π} {held : List π} {rows : List ρ}

theorem apart_cons {row : ρ} :
    Apart primary held (row :: rows) ↔ primary row ∉ held ∧ Apart primary (primary row :: held) rows := by
  constructor
  · rintro ⟨free, nodup⟩
    obtain ⟨fresh, nodup⟩ := List.nodup_cons.mp nodup
    refine ⟨free row (List.mem_cons_self ..), fun other mem isHeld => ?_, nodup⟩
    rcases List.mem_cons.mp isHeld with same | isHeld
    · exact fresh (same ▸ List.mem_map_of_mem mem)
    · exact free other (List.mem_cons_of_mem _ mem) isHeld
  · rintro ⟨absent, free, nodup⟩
    refine ⟨List.forall_mem_cons.mpr ⟨absent, fun other mem isHeld => ?_⟩, List.nodup_cons.mpr ⟨?_, nodup⟩⟩
    · exact free other mem (List.mem_cons_of_mem _ isHeld)
    · intro mem
      obtain ⟨other, isOther, same⟩ := List.mem_map.mp mem
      exact free other isOther (same ▸ List.mem_cons_self ..)

theorem Apart.congr {other : List π} (apart : Apart primary held rows) (same : ∀ k, k ∈ held ↔ k ∈ other) :
    Apart primary other rows where
  free row mem isHeld := apart.free row mem ((same _).mpr isHeld)
  nodup := apart.nodup

/-- Only the primary keys of the rows matter. -/
theorem Apart.of_map {rows : List ρ} {others : List σ} {primary : ρ → π} {other : σ → π}
    (apart : Apart primary held rows) (same : rows.map primary = others.map other) :
    Apart other held others where
  free item mem isHeld := by
    have within : other item ∈ rows.map primary := same ▸ List.mem_map_of_mem mem
    obtain ⟨row, isRow, isSame⟩ := List.mem_map.mp within
    exact apart.free row isRow (isSame ▸ isHeld)
  nodup := same ▸ apart.nodup

theorem apart_append {more : List ρ} :
    Apart primary held (rows ++ more) ↔
      Apart primary held rows ∧ Apart primary ((rows.map primary) ++ held) more := by
  induction rows generalizing held with
  | nil =>
    have apart : Apart primary held ([] : List ρ) := ⟨by simp, by simp⟩
    simp [apart]
  | cons row rest ih =>
    rw [List.cons_append, apart_cons, ih, apart_cons, and_assoc]
    refine and_congr_right fun _ => and_congr_right fun _ => ?_
    have same : ∀ k, k ∈ rest.map primary ++ primary row :: held ↔
        k ∈ (row :: rest).map primary ++ held := by
      intro k
      simp only [List.mem_append, List.map_cons, List.mem_cons]
      tauto
    exact ⟨fun apart => apart.congr same, fun apart => apart.congr fun k => (same k).symm⟩

end Apart

section Firsts

variable {key : ρ → κ} {primary : ρ → π} {taken : List κ} {held : List π} {rows : List ρ}

/-- **What a statement inserts**: the first row of each new key, when the primary
keys of these are new as well. -/
theorem insertNew_eq_some [DecidableEq π] {inserted : List ρ} :
    insertNew key primary taken held rows = some inserted ↔
      inserted = firsts key taken rows ∧ Apart primary held (firsts key taken rows) := by
  induction rows generalizing taken held inserted with
  | nil =>
    have apart : Apart primary held ([] : List ρ) := ⟨by simp, by simp⟩
    simp [insertNew, firsts, apart, eq_comm]
  | cons row rest ih =>
    rw [insertNew, firsts]
    by_cases old : key row ∈ taken
    · rw [if_pos old, if_pos old, ih]
    · rw [if_neg old, if_neg old, apart_cons]
      by_cases isHeld : primary row ∈ held
      · simp [isHeld]
      · rw [if_neg isHeld, Option.map_eq_some_iff]
        simp only [ih]
        constructor
        · rintro ⟨more, ⟨rfl, apart⟩, rfl⟩
          exact ⟨rfl, isHeld, apart⟩
        · rintro ⟨rfl, -, apart⟩
          exact ⟨_, ⟨rfl, apart⟩, rfl⟩

theorem firsts_congr {other : List κ} (same : ∀ k, k ∈ taken ↔ k ∈ other) :
    firsts key taken rows = firsts key other rows := by
  induction rows generalizing taken other with
  | nil => rfl
  | cons row rest ih =>
    have next : ∀ k, k ∈ key row :: taken ↔ k ∈ key row :: other := by simp [same]
    simp only [firsts, same, ih same, ih next]

/-- Rows of taken keys have no firsts. -/
theorem firsts_eq_nil (old : ∀ row ∈ rows, key row ∈ taken) : firsts key taken rows = [] := by
  induction rows with
  | nil => rfl
  | cons row rest ih =>
    rw [firsts, if_pos (old row (List.mem_cons_self ..)), ih fun other mem => old other (List.mem_cons_of_mem _ mem)]

/-- A row's key is taken before, or by one of the firsts. -/
theorem key_mem_firsts (taken : List κ) {row : ρ} (mem : row ∈ rows) :
    key row ∈ taken ∨ key row ∈ (firsts key taken rows).map key := by
  induction rows generalizing taken with
  | nil => cases mem
  | cons first rest ih =>
    rw [firsts]
    split_ifs with old
    · rcases List.mem_cons.mp mem with rfl | mem
      · exact .inl old
      · exact ih taken mem
    · rw [List.map_cons]
      rcases List.mem_cons.mp mem with rfl | mem
      · exact .inr (List.mem_cons_self ..)
      · rcases ih (key first :: taken) mem with isTaken | later
        · rcases List.mem_cons.mp isTaken with same | isTaken
          · exact .inr (same ▸ List.mem_cons_self ..)
          · exact .inl isTaken
        · exact .inr (List.mem_cons_of_mem _ later)

/-- The rows that go in have keys of their own. -/
theorem nodup_firsts : ((firsts key taken rows).map key).Nodup ∧ ∀ row ∈ firsts key taken rows, key row ∉ taken := by
  induction rows generalizing taken with
  | nil => exact ⟨List.nodup_nil, fun row mem => nomatch mem⟩
  | cons first rest ih =>
    rw [firsts]
    split_ifs with old
    · exact ih
    · obtain ⟨nodup, fresh⟩ := @ih (key first :: taken)
      have apart : key first ∉ (firsts key (key first :: taken) rest).map key := by
        intro mem
        obtain ⟨row, isRow, same⟩ := List.mem_map.mp mem
        exact fresh row isRow (same ▸ List.mem_cons_self ..)
      refine ⟨List.nodup_cons.mpr ⟨apart, nodup⟩, List.forall_mem_cons.mpr ⟨old, fun row mem isOld => ?_⟩⟩
      exact fresh row mem (List.mem_cons_of_mem _ isOld)

theorem firsts_sublist : (firsts key taken rows).Sublist rows := by
  induction rows generalizing taken with
  | nil => exact .slnil
  | cons row rest ih =>
    rw [firsts]
    split_ifs
    · exact ih.cons row
    · exact ih.cons_cons row

/-- The firsts of two lists in turn. -/
theorem firsts_append (more : List ρ) :
    firsts key taken (rows ++ more) =
      firsts key taken rows ++ firsts key ((firsts key taken rows).map key ++ taken) more := by
  induction rows generalizing taken with
  | nil => rfl
  | cons row rest ih =>
    rw [List.cons_append, firsts, firsts]
    split_ifs
    · exact ih
    · rw [ih, List.cons_append]
      congr 2
      refine firsts_congr fun k => ?_
      simp only [List.mem_append, List.map_cons, List.mem_cons]
      tauto

/-- Rows made of some things one by one, where not all make one. -/
theorem firsts_filterMap {other : σ → κ} {make : σ → Option ρ} {items : List σ}
    (keeps : ∀ item row, make item = some row → key row = other item) :
    (firsts key taken (items.filterMap make)).map some =
      (firsts other taken (items.filter fun item => (make item).isSome)).map make := by
  induction items generalizing taken with
  | nil => rfl
  | cons item rest ih =>
    rw [List.filterMap_cons, List.filter_cons]
    cases made : make item with
    | none => simpa using ih
    | some row =>
      simp only [Option.isSome_some, if_true, firsts, keeps item row made]
      split_ifs
      · exact ih
      · rw [List.map_cons, List.map_cons, ih, made]

theorem firsts_map {make : σ → ρ} {items : List σ} :
    firsts key taken (items.map make) = (firsts (key ∘ make) taken items).map make := by
  induction items generalizing taken with
  | nil => rfl
  | cons item rest ih =>
    rw [List.map_cons, firsts, firsts, Function.comp]
    split_ifs
    · exact ih
    · rw [List.map_cons, ih]

/-- What is made of items has what they have. -/
theorem map_eq_of_made {make : σ → Option ρ} {items : List σ} {column : ρ → π} {other : σ → π}
    (made : rows.map some = items.map make)
    (keeps : ∀ item row, make item = some row → column row = other item) :
    rows.map column = items.map other := by
  induction items generalizing rows with
  | nil =>
    rw [List.map_nil, List.map_eq_nil_iff] at made
    rw [made, List.map_nil, List.map_nil]
  | cons item rest ih =>
    obtain ⟨row, more, rfl, isRow, made⟩ := List.map_eq_cons_iff.mp made
    rw [List.map_cons, List.map_cons, keeps item row isRow.symm, ih made]

/-- Leaving out what is not first leaves the firsts. -/
theorem firsts_filter {kept : ρ → Bool} (all : ∀ row ∈ firsts key taken rows, kept row = true) :
    firsts key taken (rows.filter kept) = firsts key taken rows := by
  induction rows generalizing taken with
  | nil => rfl
  | cons row rest ih =>
    rw [firsts] at all ⊢
    split_ifs at all ⊢ with old
    · rw [List.filter_cons]
      split_ifs
      · rw [firsts, if_pos old, ih all]
      · exact ih all
    · obtain ⟨isKept, all⟩ := List.forall_mem_cons.mp all
      rw [List.filter_cons, if_pos isKept, firsts, if_neg old, ih all]

end Firsts

/-- Among rows of different keys there is one of each key they have. -/
theorem filter_eq_singleton {key : ρ → κ} {rows : List ρ} (nodup : (rows.map key).Nodup)
    {row : ρ} (mem : row ∈ rows) : rows.filter (fun other => decide (key other = key row)) = [row] := by
  induction rows with
  | nil => cases mem
  | cons first rest ih =>
    obtain ⟨apart, nodupRest⟩ := List.nodup_cons.mp nodup
    rcases List.mem_cons.mp mem with rfl | later
    · have none : rest.filter (fun other => decide (key other = key row)) = [] := by
        refine List.filter_eq_nil_iff.mpr fun other isOther same => ?_
        exact apart (of_decide_eq_true same ▸ List.mem_map_of_mem isOther)
      rw [List.filter_cons, if_pos (decide_eq_true rfl), none]
    · have other : key first ≠ key row := fun same => apart (same ▸ List.mem_map_of_mem later)
      rw [List.filter_cons, if_neg (by simpa using other), ih nodupRest later]

/-! ## Slices -/

/-- `rows[start : start + size]` for each start in `range(0, len(rows), size)`. -/
def slices (size : Nat) (rows : List ρ) : List (List ρ) :=
  (List.range ((rows.length + size - 1) / size)).map fun i => (rows.drop (i * size)).take size

theorem flatten_slices_take (size : Nat) (rows : List ρ) (n : Nat) :
    ((List.range n).map fun i => (rows.drop (i * size)).take size).flatten = rows.take (n * size) := by
  induction n with
  | zero => simp
  | succ n ih =>
    rw [List.range_succ, List.map_append, List.flatten_append, ih, Nat.succ_mul, List.take_add]
    simp

theorem flatten_slices {size : Nat} (pos : 0 < size) (rows : List ρ) : (slices size rows).flatten = rows := by
  rw [slices, flatten_slices_take, List.take_of_length_le]
  have enough := Nat.lt_div_mul_add (a := rows.length + size - 1) pos
  omega

end LuxSwirl.Lib
