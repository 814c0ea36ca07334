import Mathlib.Data.List.Nodup

/-!
# Insertion-ordered dictionaries

A dictionary is the list of its entries in the order their keys were first
set. Setting a key that is there replaces its value in place; a new key goes
to the end. `ofPairs` sets the pairs of a list one after another, which is how
a JSON object with repeated keys is read.
-/

namespace LuxSwirl.Lib.Fields

variable {κ α : Type*} [DecidableEq κ]

/-- `fields` with `key` set to `value`. -/
def set (key : κ) (value : α) : List (κ × α) → List (κ × α)
  | [] => [(key, value)]
  | entry :: rest =>
    if entry.1 = key then (key, value) :: rest else entry :: set key value rest

/-- The dictionary a list of pairs leaves, set from left to right. -/
def ofPairs (pairs : List (κ × α)) : List (κ × α) :=
  pairs.foldl (fun fields entry => set entry.1 entry.2 fields) []

/-- The value of `key`, when it is there. -/
def get? (key : κ) (fields : List (κ × α)) : Option α :=
  (fields.find? fun entry => decide (entry.1 = key)).map (·.2)

theorem set_of_not_mem {key : κ} {value : α} {fields : List (κ × α)}
    (absent : key ∉ fields.map (·.1)) : set key value fields = fields ++ [(key, value)] := by
  induction fields with
  | nil => rfl
  | cons entry rest ih =>
    simp only [List.map_cons, List.mem_cons, not_or] at absent
    simp only [set, Ne.symm absent.1, if_false, ih absent.2, List.cons_append]

theorem get?_set {key : κ} {value : α} {fields : List (κ × α)} (other : κ) :
    get? other (set key value fields) = if key = other then some value else get? other fields := by
  simp only [get?]
  induction fields with
  | nil => by_cases same : key = other <;> simp [set, same]
  | cons head rest ih =>
    by_cases here : head.1 = key
    · by_cases same : key = other <;> simp [set, here, same]
    · by_cases first : head.1 = other
      · have other_ne : key ≠ other := fun same => here (first.trans same.symm)
        simp [set, first, if_neg other_ne, Ne.symm other_ne]
      · simp [set, here, first, ih]

theorem get?_filter_ne {key other : κ} {fields : List (κ × α)} (apart : other ≠ key) :
    get? other (fields.filter fun entry => decide (entry.1 ≠ key)) = get? other fields := by
  simp only [get?, List.find?_filter]
  congr 2
  funext entry
  by_cases isOther : entry.1 = other <;> simp [isOther, apart]

theorem get?_cons (key other : κ) (value : α) (rest : List (κ × α)) :
    get? other ((key, value) :: rest) = if key = other then some value else get? other rest := by
  by_cases same : key = other <;> simp [get?, same]

/-- What is left of a dictionary by its keys. -/
theorem get?_filter_key (kept : κ → Bool) (key : κ) (fields : List (κ × α)) :
    get? key (fields.filter fun entry => kept entry.1) = if kept key then get? key fields else none := by
  induction fields with
  | nil => simp [get?]
  | cons head rest ih =>
    obtain ⟨first, value⟩ := head
    rw [List.filter_cons]
    by_cases same : first = key
    · subst same
      cases isKept : kept first with
      | true => simp [get?_cons]
      | false => simpa [isKept] using ih
    · rw [get?_cons, if_neg same, ← ih]
      split_ifs
      · rw [get?_cons, if_neg same]
      · rfl

/-- An entry of a dictionary is what its key gives. -/
theorem get?_of_mem {fields : List (κ × α)} {entry : κ × α} (nodup : (fields.map (·.1)).Nodup)
    (mem : entry ∈ fields) : get? entry.1 fields = some entry.2 := by
  induction fields with
  | nil => cases mem
  | cons head rest ih =>
    obtain ⟨fresh, nodup⟩ := List.nodup_cons.mp nodup
    rw [get?_cons]
    rcases List.mem_cons.mp mem with rfl | mem
    · exact if_pos rfl
    · have apart : head.1 ≠ entry.1 := by
        intro same
        exact fresh (List.mem_map.mpr ⟨entry, mem, same.symm⟩)
      rw [if_neg apart, ih nodup mem]

theorem mem_of_get?_eq_some {key : κ} {value : α} {fields : List (κ × α)}
    (found : get? key fields = some value) : (key, value) ∈ fields := by
  obtain ⟨entry, isFound, rfl⟩ := Option.map_eq_some_iff.mp found
  have isKey : entry.1 = key := of_decide_eq_true (by simpa using List.find?_some isFound)
  rw [← isKey]
  exact List.mem_of_find?_eq_some isFound

/-- A dictionary with others set in it. -/
theorem get?_foldl_set {updates : List (κ × α)} (nodup : (updates.map (·.1)).Nodup) (key : κ)
    (fields : List (κ × α)) :
    get? key (updates.foldl (fun fields entry => set entry.1 entry.2 fields) fields) =
      (get? key updates).or (get? key fields) := by
  induction updates generalizing fields with
  | nil => rfl
  | cons head rest ih =>
    obtain ⟨first, value⟩ := head
    obtain ⟨fresh, nodup⟩ := List.nodup_cons.mp nodup
    rw [List.foldl_cons, ih nodup, get?_set, get?_cons]
    by_cases same : first = key
    · subst same
      have absent : get? first rest = none := by
        by_contra found
        obtain ⟨value', found⟩ := Option.ne_none_iff_exists'.mp found
        exact fresh (List.mem_map.mpr ⟨_, mem_of_get?_eq_some found, rfl⟩)
      rw [if_pos rfl, if_pos rfl, absent]
      rfl
    · rw [if_neg same, if_neg same]

theorem mem_of_mem_set {key : κ} {value : α} {fields : List (κ × α)} {entry : κ × α}
    (mem : entry ∈ set key value fields) : entry = (key, value) ∨ entry ∈ fields := by
  induction fields with
  | nil => simpa [set] using mem
  | cons head rest ih =>
    by_cases same : head.1 = key
    · simp only [set, same, if_true, List.mem_cons] at mem ⊢
      tauto
    · simp only [set, same, if_false, List.mem_cons] at mem ⊢
      rcases mem with rfl | mem
      · exact Or.inr (Or.inl rfl)
      · rcases ih mem with rfl | mem
        · exact Or.inl rfl
        · exact Or.inr (Or.inr mem)

theorem keys_set {key : κ} {value : α} {fields : List (κ × α)} (present : key ∈ fields.map (·.1)) :
    (set key value fields).map (·.1) = fields.map (·.1) := by
  induction fields with
  | nil => simp at present
  | cons head rest ih =>
    by_cases same : head.1 = key
    · simp [set, same]
    · have present' : key ∈ rest.map (·.1) := by
        simpa [Ne.symm same] using present
      simp only [set, same, if_false, List.map_cons, ih present']

theorem nodup_set {key : κ} {value : α} {fields : List (κ × α)}
    (nodup : (fields.map (·.1)).Nodup) : ((set key value fields).map (·.1)).Nodup := by
  by_cases present : key ∈ fields.map (·.1)
  · rw [keys_set present]
    exact nodup
  · rw [set_of_not_mem present, List.map_append]
    refine List.Nodup.append nodup (by simp) ?_
    intro k hk hk'
    simp only [List.map_cons, List.map_nil, List.mem_singleton] at hk'
    exact present (hk' ▸ hk)

/-- A dictionary read from pairs has each key once. -/
theorem nodup_ofPairs (pairs : List (κ × α)) : ((ofPairs pairs).map (·.1)).Nodup := by
  suffices carried : ∀ fields : List (κ × α), (fields.map (·.1)).Nodup →
      ((pairs.foldl (fun fields entry => set entry.1 entry.2 fields) fields).map (·.1)).Nodup from
    carried [] (by simp)
  induction pairs with
  | nil => exact fun fields nodup => nodup
  | cons entry rest ih => exact fun fields nodup => ih _ (nodup_set nodup)

/-- Every entry of a dictionary read from pairs is one of the pairs. -/
theorem mem_of_mem_ofPairs {pairs : List (κ × α)} {entry : κ × α}
    (mem : entry ∈ ofPairs pairs) : entry ∈ pairs := by
  suffices carried : ∀ fields : List (κ × α),
      entry ∈ pairs.foldl (fun fields entry => set entry.1 entry.2 fields) fields →
      entry ∈ fields ∨ entry ∈ pairs by
    simpa using carried [] mem
  clear mem
  induction pairs with
  | nil => exact fun fields mem => Or.inl mem
  | cons head rest ih =>
    intro fields mem
    rcases ih _ mem with mem | mem
    · rcases mem_of_mem_set mem with rfl | mem
      · exact Or.inr (List.mem_cons_self ..)
      · exact Or.inl mem
    · exact Or.inr (List.mem_cons_of_mem _ mem)

/-- Pairs whose keys all differ are already a dictionary. -/
theorem ofPairs_of_nodup {pairs : List (κ × α)} (nodup : (pairs.map (·.1)).Nodup) :
    ofPairs pairs = pairs := by
  suffices carried : ∀ fields : List (κ × α), ((fields ++ pairs).map (·.1)).Nodup →
      pairs.foldl (fun fields entry => set entry.1 entry.2 fields) fields = fields ++ pairs from
    carried [] nodup
  clear nodup
  induction pairs with
  | nil => simp
  | cons entry rest ih =>
    intro fields nodup
    have absent : entry.1 ∉ fields.map (·.1) := by
      rw [List.map_append, List.map_cons] at nodup
      exact fun mem => (List.nodup_append.mp nodup).2.2 _ mem _ (List.mem_cons_self ..) rfl
    rw [List.foldl_cons, set_of_not_mem absent, ih _ (by simpa using nodup), List.append_assoc]
    rfl

/-- A dictionary with a value for each key of a list. -/
theorem get?_ofPairs_map (value : κ → α) (keys : List κ) (key : κ) :
    get? key (ofPairs (keys.map fun key => (key, value key))) = if key ∈ keys then some (value key) else none := by
  have foldl (fields : List (κ × α)) :
      get? key ((keys.map fun key => (key, value key)).foldl (fun fields entry => set entry.1 entry.2 fields) fields) =
        if key ∈ keys then some (value key) else get? key fields := by
    induction keys generalizing fields with
    | nil => simp
    | cons first rest ih =>
      rw [List.map_cons, List.foldl_cons, ih, get?_set]
      by_cases later : key ∈ rest
      · simp [later]
      · by_cases here : first = key
        · simp [here]
        · simp [later, here, Ne.symm here]
  exact foldl []

end LuxSwirl.Lib.Fields
