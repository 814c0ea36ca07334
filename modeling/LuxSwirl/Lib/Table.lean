import Mathlib.Data.List.Sort
import Mathlib.Data.Prod.Lex

/-!
# Tables with an autoincrement key

A table keeps its rows in the order of their ids. It also keeps everything that
was ever inserted, in order, so an id is a position in that record and is never
given twice: what a delete or a cap removed is gone from the rows and still in
the record.

Every change of rows that are there is an `alter`, and alterations compose.
-/

namespace LuxSwirl.Lib

structure Row (α : Type*) where
  id : Nat
  data : α

/-- Rows by id, under a record of everything inserted. -/
structure Table (α : Type*) where
  rows : List (Row α)
  inserted : List α
  ordered : rows.Pairwise (·.id < ·.id)
  below : ∀ row ∈ rows, row.id < inserted.length

namespace Table

variable {α : Type*}

@[ext] theorem ext {t u : Table α} (rows : t.rows = u.rows) (inserted : t.inserted = u.inserted) :
    t = u := by
  cases t
  cases u
  cases rows
  cases inserted
  rfl

def empty : Table α where
  rows := []
  inserted := []
  ordered := List.Pairwise.nil
  below := by simp

/-- A new row at the end, under the next id. -/
def insert (data : α) (t : Table α) : Table α where
  rows := t.rows ++ [⟨t.inserted.length, data⟩]
  inserted := t.inserted ++ [data]
  ordered := by
    refine List.pairwise_append.mpr ⟨t.ordered, by simp, ?_⟩
    intro row mem new isNew
    rw [List.mem_singleton] at isNew
    exact isNew ▸ t.below row mem
  below := by
    intro row mem
    rw [List.length_append, List.length_singleton]
    rcases List.mem_append.mp mem with old | new
    · exact Nat.lt_succ_of_lt (t.below row old)
    · rw [List.mem_singleton] at new
      exact new ▸ Nat.lt_succ_self _

/-- A row as `f` leaves it; none when `f` deletes it. -/
def alterRow (f : Nat → α → Option α) (row : Row α) : Option (Row α) :=
  (f row.id row.data).map (⟨row.id, ·⟩)

theorem id_of_alterRow {f : Nat → α → Option α} {row row' : Row α}
    (altered : alterRow f row = some row') : row'.id = row.id := by
  simp only [alterRow, Option.map_eq_some_iff] at altered
  obtain ⟨data, -, rfl⟩ := altered
  rfl

/-- Every row updated or deleted by what `f` says of it. -/
def alter (f : Nat → α → Option α) (t : Table α) : Table α where
  rows := t.rows.filterMap (alterRow f)
  inserted := t.inserted
  ordered := by
    refine t.ordered.filterMap _ fun a b before a' fromA b' fromB => ?_
    rw [id_of_alterRow fromA, id_of_alterRow fromB]
    exact before
  below := by
    intro row' mem
    obtain ⟨row, mem, altered⟩ := List.mem_filterMap.mp mem
    rw [id_of_alterRow altered]
    exact t.below row mem

/-- `DELETE … WHERE id IN (ids)`. -/
def deleteIds (ids : List Nat) (t : Table α) : Table α :=
  t.alter fun id data => if id ∈ ids then none else some data

/-- `DELETE … WHERE id = id`. -/
def delete (id : Nat) (t : Table α) : Table α :=
  t.alter fun id' data => if id' = id then none else some data

/-- `UPDATE … WHERE id = id`. -/
def update (id : Nat) (f : α → α) (t : Table α) : Table α :=
  t.alter fun id' data => if id' = id then some (f data) else some data

/-- `SELECT … WHERE id = id`. -/
def get? (id : Nat) (t : Table α) : Option α :=
  (t.rows.find? fun row => decide (row.id = id)).map (·.data)

/-- The order of a column; rows that agree on it are in the order of their ids. -/
def Precedes {τ : Type*} [LinearOrder τ] (column : α → τ) (a b : Row α) : Prop :=
  toLex (column a.data, a.id) ≤ toLex (column b.data, b.id)

instance {τ : Type*} [LinearOrder τ] (column : α → τ) : DecidableRel (Precedes column) :=
  fun a b => inferInstanceAs (Decidable (toLex (column a.data, a.id) ≤ toLex (column b.data, b.id)))

/-- `SELECT … ORDER BY column ASC`. -/
def orderBy {τ : Type*} [LinearOrder τ] (column : α → τ) (t : Table α) : List (Row α) :=
  t.rows.insertionSort (Precedes column)

/-- `DELETE … WHERE id IN (SELECT id … ORDER BY id ASC LIMIT count - cap)`. -/
def keepNewest (cap : Nat) (t : Table α) : Table α :=
  t.deleteIds ((t.rows.take (t.rows.length - cap)).map (·.id))

/-! ## Ids -/

theorem nodup_ids (t : Table α) : (t.rows.map (·.id)).Nodup :=
  List.pairwise_map.mpr (t.ordered.imp Nat.ne_of_lt)

theorem eq_of_id_eq {t : Table α} {row row' : Row α} (mem : row ∈ t.rows) (mem' : row' ∈ t.rows)
    (same : row.id = row'.id) : row = row' :=
  List.inj_on_of_nodup_map t.nodup_ids mem mem' same

theorem get?_of_mem {t : Table α} {row : Row α} (mem : row ∈ t.rows) :
    t.get? row.id = some row.data := by
  have found : (t.rows.find? fun r => decide (r.id = row.id)).isSome = true := by
    rw [List.find?_isSome]
    exact ⟨row, mem, by simp⟩
  obtain ⟨row', found⟩ := Option.isSome_iff_exists.mp found
  have same : row'.id = row.id := by simpa using List.find?_some found
  rw [get?, found, eq_of_id_eq (List.mem_of_find?_eq_some found) mem same]
  rfl

/-! ## Alterations -/

@[simp] theorem inserted_insert (data : α) (t : Table α) :
    (t.insert data).inserted = t.inserted ++ [data] := rfl

@[simp] theorem inserted_alter (f : Nat → α → Option α) (t : Table α) :
    (t.alter f).inserted = t.inserted := rfl

@[simp] theorem inserted_deleteIds (ids : List Nat) (t : Table α) :
    (t.deleteIds ids).inserted = t.inserted := rfl

@[simp] theorem inserted_keepNewest (cap : Nat) (t : Table α) :
    (t.keepNewest cap).inserted = t.inserted := rfl

theorem rows_alter (f : Nat → α → Option α) (t : Table α) :
    (t.alter f).rows = t.rows.filterMap (alterRow f) := rfl

theorem mem_alter {f : Nat → α → Option α} {t : Table α} {row' : Row α} :
    row' ∈ (t.alter f).rows ↔ ∃ row ∈ t.rows, row'.id = row.id ∧ f row.id row.data = some row'.data := by
  rw [rows_alter, List.mem_filterMap]
  constructor
  · rintro ⟨row, mem, altered⟩
    simp only [alterRow, Option.map_eq_some_iff] at altered
    obtain ⟨data, kept, rfl⟩ := altered
    exact ⟨row, mem, rfl, kept⟩
  · rintro ⟨row, mem, same, kept⟩
    refine ⟨row, mem, ?_⟩
    rw [alterRow, kept, Option.map_some, ← same]

theorem get?_eq_some_iff {t : Table α} {id : Nat} {data : α} :
    t.get? id = some data ↔ ⟨id, data⟩ ∈ t.rows := by
  refine ⟨fun found => ?_, fun mem => @get?_of_mem _ t ⟨id, data⟩ mem⟩
  obtain ⟨row, first, rfl⟩ := Option.map_eq_some_iff.mp found
  obtain rfl : row.id = id := by simpa using List.find?_some first
  exact List.mem_of_find?_eq_some first

/-- An altered table's row is the row altered. -/
theorem get?_alter (f : Nat → α → Option α) (id : Nat) (t : Table α) :
    (t.alter f).get? id = (t.get? id).bind (f id) := by
  refine Option.ext fun data => ?_
  rw [get?_eq_some_iff, mem_alter, Option.bind_eq_some_iff]
  constructor
  · rintro ⟨⟨_, old⟩, mem, rfl, kept⟩
    exact ⟨old, get?_eq_some_iff.mpr mem, kept⟩
  · rintro ⟨old, found, kept⟩
    exact ⟨⟨id, old⟩, get?_eq_some_iff.mp found, rfl, kept⟩

theorem get?_delete (id : Nat) (t : Table α) : (t.delete id).get? id = none := by
  rw [delete, get?_alter]
  cases t.get? id with
  | none => rfl
  | some data => exact if_pos rfl

theorem get?_update (id : Nat) (f : α → α) (t : Table α) : (t.update id f).get? id = (t.get? id).map f := by
  rw [update, get?_alter]
  cases t.get? id with
  | none => rfl
  | some data => exact if_pos rfl

theorem alter_alter (f g : Nat → α → Option α) (t : Table α) :
    (t.alter f).alter g = t.alter fun id data => (f id data).bind (g id) := by
  refine Table.ext ?_ rfl
  rw [rows_alter, rows_alter, rows_alter, List.filterMap_filterMap]
  refine congrArg (fun h => t.rows.filterMap h) (funext fun row => ?_)
  rw [alterRow, alterRow]
  cases f row.id row.data with
  | none => rfl
  | some data => rfl

theorem alter_keep (t : Table α) : t.alter (fun _ data => some data) = t := by
  refine Table.ext ?_ rfl
  rw [rows_alter]
  refine (List.filterMap_congr fun row _ => ?_).trans List.filterMap_some
  rfl

/-- Alterations that agree on the rows that are there are one. -/
theorem alter_congr {f g : Nat → α → Option α} {t : Table α}
    (agree : ∀ row ∈ t.rows, f row.id row.data = g row.id row.data) : t.alter f = t.alter g := by
  refine Table.ext ?_ rfl
  refine List.filterMap_congr fun row mem => ?_
  rw [alterRow, alterRow, agree row mem]

theorem get?_deleteIds (ids : List Nat) (id : Nat) (t : Table α) :
    (t.deleteIds ids).get? id = if id ∈ ids then none else t.get? id := by
  rw [deleteIds, get?_alter]
  split_ifs with listed
  · exact Option.bind_fun_none _
  · exact Option.bind_fun_some _

theorem deleteIds_nil (t : Table α) : t.deleteIds [] = t :=
  (alter_congr fun row _ => by simp).trans t.alter_keep

theorem delete_eq_deleteIds (id : Nat) (t : Table α) : t.delete id = t.deleteIds [id] :=
  alter_congr fun row _ => by simp

theorem deleteIds_deleteIds (ids ids' : List Nat) (t : Table α) :
    (t.deleteIds ids).deleteIds ids' = t.deleteIds (ids ++ ids') := by
  rw [deleteIds, deleteIds, alter_alter]
  refine alter_congr fun row _ => ?_
  by_cases first : row.id ∈ ids
  · simp [first]
  · simp [first]

theorem rows_deleteIds (ids : List Nat) (t : Table α) :
    (t.deleteIds ids).rows = t.rows.filter fun row => decide (row.id ∉ ids) := by
  rw [deleteIds, rows_alter, ← List.filterMap_eq_filter]
  refine List.filterMap_congr fun row _ => ?_
  by_cases listed : row.id ∈ ids <;> simp [alterRow, Option.guard, listed]

/-- Rows without the first ones, by their ids. -/
theorem filter_not_mem_take {rows : List (Row α)} (nodup : (rows.map (·.id)).Nodup) (n : Nat) :
    rows.filter (fun row => decide (row.id ∉ (rows.take n).map (·.id))) = rows.drop n := by
  have whole := List.take_append_drop n rows
  have apart : ∀ row ∈ rows.take n, ∀ row' ∈ rows.drop n, row.id ≠ row'.id := by
    rw [← whole, List.map_append, List.nodup_append] at nodup
    exact fun row mem row' mem' =>
      nodup.2.2 _ (List.mem_map_of_mem mem) _ (List.mem_map_of_mem mem')
  calc rows.filter (fun row => decide (row.id ∉ (rows.take n).map (·.id)))
      = (rows.take n ++ rows.drop n).filter
          (fun row => decide (row.id ∉ (rows.take n).map (·.id))) := by rw [whole]
    _ = rows.drop n := by
        rw [List.filter_append, List.filter_eq_nil_iff.mpr, List.filter_eq_self.mpr, List.nil_append]
        · intro row mem
          simp only [List.mem_map, not_exists, not_and, decide_eq_true_eq]
          exact fun earlier within => apart earlier within row mem
        · intro row mem
          simpa only [decide_eq_true_eq, not_not] using List.mem_map_of_mem mem

/-- Deleting the first rows leaves the rest. -/
theorem rows_deleteIds_take (n : Nat) (t : Table α) :
    (t.deleteIds ((t.rows.take n).map (·.id))).rows = t.rows.drop n := by
  rw [rows_deleteIds]
  exact filter_not_mem_take t.nodup_ids n

/-- The cap leaves the last rows. -/
theorem rows_keepNewest (cap : Nat) (t : Table α) :
    (t.keepNewest cap).rows = t.rows.drop (t.rows.length - cap) :=
  rows_deleteIds_take _ t

/-! ## Ordered reads -/

section OrderBy

variable {τ : Type*} [LinearOrder τ] (column : α → τ)

instance : Std.Total (Precedes column) := ⟨fun _ _ => le_total _ _⟩

instance : IsTrans (Row α) (Precedes column) := ⟨fun _ _ _ => le_trans⟩

theorem orderBy_perm (t : Table α) : (t.orderBy column).Perm t.rows :=
  List.perm_insertionSort _ _

theorem mem_orderBy {t : Table α} {row : Row α} : row ∈ t.orderBy column ↔ row ∈ t.rows :=
  (orderBy_perm column t).mem_iff

theorem nodup_ids_orderBy (t : Table α) : ((t.orderBy column).map (·.id)).Nodup :=
  ((orderBy_perm column t).map _).nodup_iff.mpr t.nodup_ids

/-- An ordered read after a delete is the read before it without the deleted rows. -/
theorem orderBy_deleteIds (ids : List Nat) (t : Table α) :
    (t.deleteIds ids).orderBy column =
      (t.orderBy column).filter fun row => decide (row.id ∉ ids) := by
  refine List.Perm.eq_of_pairwise ?_ (List.pairwise_insertionSort _ _)
    ((List.pairwise_insertionSort _ _).filter _) ?_
  · intro a b memA memB ab ba
    have same : a.id = b.id := by
      have := le_antisymm ab ba
      simp only [toLex_inj, Prod.mk.injEq] at this
      exact this.2
    have within : b ∈ (t.deleteIds ids).rows := by
      rw [rows_deleteIds, List.mem_filter, ← mem_orderBy column]
      exact List.mem_filter.mp memB
    exact eq_of_id_eq ((mem_orderBy column).mp memA) within same
  · refine (orderBy_perm column _).trans ?_
    rw [rows_deleteIds]
    exact (orderBy_perm column t).symm.filter _

/-- An ordered read after deleting its first rows is the rest of it. -/
theorem orderBy_deleteIds_take (n : Nat) (t : Table α) :
    (t.deleteIds (((t.orderBy column).take n).map (·.id))).orderBy column =
      (t.orderBy column).drop n := by
  rw [orderBy_deleteIds]
  exact filter_not_mem_take (t.nodup_ids_orderBy column) n

end OrderBy

end Table

end LuxSwirl.Lib
