import LuxSwirl.Lib.Fields
import Mathlib.Data.List.Forall2

/-!
# Lists related item by item

What `List.Forall₂` says of single items, and lists that a partial function makes of
others.
-/

namespace LuxSwirl.Lib

variable {α β : Type*} {R S : α → β → Prop} {xs : List α} {ys : List β}

theorem exists_of_mem_left {x : α} (related : List.Forall₂ R xs ys) (mem : x ∈ xs) : ∃ y ∈ ys, R x y := by
  induction related with
  | nil => cases mem
  | @cons head y xs ys first rest ih =>
    rcases List.mem_cons.mp mem with rfl | mem
    · exact ⟨y, List.mem_cons_self .., first⟩
    · obtain ⟨other, isIn, related⟩ := ih mem
      exact ⟨other, List.mem_cons_of_mem _ isIn, related⟩

theorem exists_of_mem_right {y : β} (related : List.Forall₂ R xs ys) (mem : y ∈ ys) : ∃ x ∈ xs, R x y :=
  exists_of_mem_left related.flip mem

/-- Items that are related stay so when the lists are known. -/
theorem forall₂_imp_mem (related : List.Forall₂ R xs ys) (imp : ∀ x ∈ xs, ∀ y ∈ ys, R x y → S x y) :
    List.Forall₂ S xs ys := by
  induction related with
  | nil => exact List.Forall₂.nil
  | @cons x y xs ys first rest ih =>
    refine List.Forall₂.cons (imp x (List.mem_cons_self ..) y (List.mem_cons_self ..) first) (ih ?_)
    exact fun x' mem y' mem' => imp x' (List.mem_cons_of_mem _ mem) y' (List.mem_cons_of_mem _ mem')

/-- Items with a value in common have it in the lists of them. -/
theorem map_eq_of_forall₂ {γ : Type*} {f : α → γ} {g : β → γ} (related : List.Forall₂ R xs ys)
    (same : ∀ x y, R x y → f x = g y) : xs.map f = ys.map g := by
  induction related with
  | nil => rfl
  | cons first rest ih => rw [List.map_cons, List.map_cons, same _ _ first, ih]

/-- A partial function that has a value at each item has a list of them. -/
theorem forall₂_of_mapM {f : α → Option β} (mapped : xs.mapM f = some ys) :
    List.Forall₂ (fun x y => f x = some y) xs ys := by
  induction xs generalizing ys with
  | nil =>
    cases mapped
    exact List.Forall₂.nil
  | cons x rest ih =>
    simp only [List.mapM_cons, Option.bind_eq_bind, Option.bind_eq_some_iff] at mapped
    obtain ⟨y, isValue, values, areValues, made⟩ := mapped
    cases made
    exact List.Forall₂.cons isValue (ih areValues)

theorem mapM_eq_some_iff {f : α → Option β} : xs.mapM f = some ys ↔ xs.map f = ys.map some := by
  induction xs generalizing ys with
  | nil => cases ys <;> simp
  | cons x rest ih =>
    simp only [List.mapM_cons, Option.bind_eq_bind, Option.bind_eq_some_iff, Option.pure_def, Option.some.injEq]
    constructor
    · rintro ⟨y, isValue, values, areValues, rfl⟩
      rw [List.map_cons, List.map_cons, isValue, ih.mp areValues]
    · intro same
      cases ys with
      | nil => cases same
      | cons y values =>
        obtain ⟨isValue, areValues⟩ := List.cons.inj same
        exact ⟨y, isValue, values, ih.mpr areValues, rfl⟩

theorem exists_mapM (xs : List α) {f : α → Option β} (each : ∀ x ∈ xs, ∃ y, f x = some y ∧ R x y) :
    ∃ ys, xs.mapM f = some ys ∧ List.Forall₂ R xs ys := by
  induction xs with
  | nil => exact ⟨[], rfl, List.Forall₂.nil⟩
  | cons x rest ih =>
    rw [List.forall_mem_cons] at each
    obtain ⟨⟨y, isValue, first⟩, each⟩ := each
    obtain ⟨ys, areValues, related⟩ := ih each
    exact ⟨y :: ys, by simp [List.mapM_cons, isValue, areValues], List.Forall₂.cons first related⟩

theorem forall₂_trans {γ : Type*} {T : β → γ → Prop} {zs : List γ} (related : List.Forall₂ R xs ys)
    (more : List.Forall₂ T ys zs) : List.Forall₂ (fun x z => ∃ y, R x y ∧ T y z) xs zs := by
  induction related generalizing zs with
  | nil =>
    cases more
    exact List.Forall₂.nil
  | @cons x y xs ys first rest ih =>
    cases more with
    | cons second more => exact List.Forall₂.cons ⟨y, first, second⟩ (ih more)

/-! ## Pairs -/

theorem exists_pair_left {x : α} (length : xs.length = ys.length) (mem : x ∈ xs) :
    ∃ y, (x, y) ∈ xs.zip ys := by
  have firsts : (xs.zip ys).map Prod.fst = xs := List.map_fst_zip (Nat.le_of_eq length)
  rw [← firsts, List.mem_map] at mem
  obtain ⟨⟨x', y⟩, isPair, rfl⟩ := mem
  exact ⟨y, isPair⟩

/-- A dictionary of pairs by a key of the first. -/
theorem get?_zip_left {κ γ : Type*} [DecidableEq κ] (key : α → κ) (value : α × β → γ)
    (length : xs.length = ys.length) (nodup : (xs.map key).Nodup) {pair : α × β} (mem : pair ∈ xs.zip ys) :
    Fields.get? (key pair.1) ((xs.zip ys).map fun pair => (key pair.1, value pair)) = some (value pair) := by
  have keys : ((xs.zip ys).map fun pair => (key pair.1, value pair)).map (·.1) = xs.map key := by
    have firsts : (xs.zip ys).map Prod.fst = xs := List.map_fst_zip (Nat.le_of_eq length)
    conv_rhs => rw [← firsts]
    rw [List.map_map, List.map_map]
    rfl
  have held : (key pair.1, value pair) ∈ (xs.zip ys).map fun pair => (key pair.1, value pair) :=
    List.mem_map.mpr ⟨pair, mem, rfl⟩
  exact Fields.get?_of_mem (keys ▸ nodup) held

/-- A dictionary of pairs by a key of the second. -/
theorem get?_zip_right {κ γ : Type*} [DecidableEq κ] (key : β → κ) (value : α × β → γ)
    (length : xs.length = ys.length) (nodup : (ys.map key).Nodup) {pair : α × β} (mem : pair ∈ xs.zip ys) :
    Fields.get? (key pair.2) ((xs.zip ys).map fun pair => (key pair.2, value pair)) = some (value pair) := by
  have keys : ((xs.zip ys).map fun pair => (key pair.2, value pair)).map (·.1) = ys.map key := by
    have seconds : (xs.zip ys).map Prod.snd = ys := List.map_snd_zip (Nat.le_of_eq length.symm)
    conv_rhs => rw [← seconds]
    rw [List.map_map, List.map_map]
    rfl
  have held : (key pair.2, value pair) ∈ (xs.zip ys).map fun pair => (key pair.2, value pair) :=
    List.mem_map.mpr ⟨pair, mem, rfl⟩
  exact Fields.get?_of_mem (keys ▸ nodup) held

end LuxSwirl.Lib
