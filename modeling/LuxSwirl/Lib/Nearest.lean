import LuxSwirl.Lib.Fields
import Mathlib.Data.List.Induction
import Mathlib.Data.Rat.Floor
import Mathlib.Tactic.Linarith

/-!
# The nearest item to each whole number

Items on a line, and for a whole number the nearest of them, the first of several. One
way is to look at all items (`closest`). The other puts each item under the number it
rounds to and keeps the nearest there (`keep`), one pass for all numbers.

A half rounds to the even number, so an item halfway to an odd number is under neither
way of looking at it nearest: where some item rounds to a number, the nearest one does
(`closest_filter`), and both ways give it. Where none does, only the first gives one.
-/

namespace LuxSwirl.Lib.Nearest

/-- The nearest whole number, the even one of two: a half goes up, and back down from an
odd number. -/
def roundHalfEven (x : ℚ) : Int :=
  let up := ⌊x + 1 / 2⌋
  if up - x = 1 / 2 ∧ up % 2 = 1 then up - 1 else up

theorem abs_sub_roundHalfEven_le (x : ℚ) : |x - roundHalfEven x| ≤ 1 / 2 := by
  have lower := Int.floor_le (x + 1 / 2)
  have upper := Int.lt_floor_add_one (x + 1 / 2)
  rw [roundHalfEven, abs_le]
  split_ifs with half
  · push_cast
    constructor
    · linarith [half.1]
    · linarith [half.1]
  · constructor
    · linarith
    · linarith

/-- A whole number less than a half away is the only one. -/
theorem roundHalfEven_of_near {x : ℚ} {n : Int} (near : |x - n| < 1 / 2) : roundHalfEven x = n := by
  have half := abs_sub_roundHalfEven_le x
  rw [abs_lt] at near
  rw [abs_le] at half
  have above : (roundHalfEven x : ℚ) < n + 1 := by linarith
  have below : (n : ℚ) < roundHalfEven x + 1 := by linarith
  have above : roundHalfEven x < n + 1 := by exact_mod_cast above
  have below : n < roundHalfEven x + 1 := by exact_mod_cast below
  omega

/-- Of the two numbers a half away it is the even one. -/
theorem roundHalfEven_of_half {x : ℚ} {n : Int} (half : |x - n| = 1 / 2) : roundHalfEven x = n ↔ n % 2 = 0 := by
  have places : x = n + 1 / 2 ∨ x = (n - 1 : Int) + 1 / 2 := by
    rcases abs_choice (x - n) with same | same
    · left
      linarith
    · right
      push_cast
      linarith
  have rounds (m : Int) : roundHalfEven ((m : ℚ) + 1 / 2) = if (m + 1) % 2 = 1 then m else m + 1 := by
    have whole : (m : ℚ) + 1 / 2 + 1 / 2 = (m + 1 : Int) := by
      push_cast
      ring
    have up : ((m + 1 : Int) : ℚ) - (m + 1 / 2) = 1 / 2 := by
      push_cast
      ring
    rw [roundHalfEven, whole, Int.floor_intCast, up]
    simp only [true_and, add_sub_cancel_right]
  rcases places with rfl | rfl
  · rw [rounds]
    split_ifs
    · omega
    · omega
  · rw [rounds]
    split_ifs
    · omega
    · omega

section Items

variable {α : Type*} (position : α → ℚ)

def distance (target : Int) (item : α) : ℚ := |position item - target|

/-- The item kept of the one so far and the next: the next if it is nearer. -/
def closer (target : Int) (kept : Option α) (item : α) : Option α :=
  match kept with
  | none => some item
  | some best => if distance position target item < distance position target best then some item else some best

/-- The nearest item, the first of several. -/
def closest (target : Int) (items : List α) : Option α := items.foldl (closer position target) none

/-- The items so far by the whole numbers they round to, the nearest one under each,
with one more. Numbers outside `within` are left out. -/
def keep (within : Int → Bool) (kept : List (Int × α)) (item : α) : List (Int × α) :=
  let nearest := roundHalfEven (position item)
  if within nearest then
    match Fields.get? nearest kept with
    | none => Fields.set nearest item kept
    | some existing =>
      if distance position nearest item < distance position nearest existing then Fields.set nearest item kept
      else kept
  else kept

variable {position} {target : Int} {items : List α} {item : α}

theorem closest_append (item : α) :
    closest position target (items ++ [item]) = closer position target (closest position target items) item := by
  rw [closest, List.foldl_append]
  rfl

theorem closest_eq_none_iff : closest position target items = none ↔ items = [] := by
  induction items using List.reverseRecOn with
  | nil => exact iff_of_true rfl rfl
  | append_singleton items item ih =>
    rw [closest_append]
    constructor
    · intro none
      cases kept : closest position target items with
      | none =>
        rw [kept] at none
        cases none
      | some best =>
        rw [kept, closer] at none
        split_ifs at none
    · intro empty
      simp at empty

/-- The nearest item is nearer than those before it and no farther than those after. -/
theorem closest_eq_some_iff : closest position target items = some item ↔
    ∃ before after, items = before ++ item :: after ∧
      (∀ other ∈ before, distance position target item < distance position target other) ∧
      ∀ other ∈ after, distance position target item ≤ distance position target other := by
  induction items using List.reverseRecOn generalizing item with
  | nil =>
    constructor
    · intro found
      cases found
    · rintro ⟨before, after, parts, -⟩
      simp at parts
  | append_singleton items last ih =>
    rw [closest_append]
    constructor
    · intro found
      cases kept : closest position target items with
      | none =>
        rw [kept] at found
        cases found
        rw [closest_eq_none_iff.mp kept]
        exact ⟨[], [], rfl, by simp, by simp⟩
      | some best =>
        obtain ⟨before, after, parts, nearer, noFarther⟩ := ih.mp kept
        rw [kept, closer] at found
        split_ifs at found with isNearer
        · cases found
          refine ⟨items, [], rfl, ?_, by simp⟩
          intro other mem
          rw [parts, List.mem_append, List.mem_cons] at mem
          rcases mem with mem | rfl | mem
          · exact isNearer.trans (nearer other mem)
          · exact isNearer
          · exact isNearer.trans_le (noFarther other mem)
        · cases found
          refine ⟨before, after ++ [last], ?_, nearer, ?_⟩
          · rw [parts, List.append_assoc, List.cons_append]
          · intro other mem
            rcases List.mem_append.mp mem with mem | mem
            · exact noFarther other mem
            · rw [List.mem_singleton.mp mem]
              exact not_lt.mp isNearer
    · rintro ⟨before, after, parts, nearer, noFarther⟩
      induction after using List.reverseRecOn with
      | nil =>
        obtain ⟨rfl, isLast⟩ := List.append_inj' parts rfl
        cases isLast
        cases kept : closest position target items with
        | none => rfl
        | some best =>
          obtain ⟨front, back, rfl, -⟩ := ih.mp kept
          have isNearer := nearer best (by simp)
          rw [closer]
          exact if_pos isNearer
      | append_singleton after other _ =>
        rw [← List.cons_append, ← List.append_assoc] at parts
        obtain ⟨rfl, isLast⟩ := List.append_inj' parts rfl
        cases isLast
        have kept : closest position target (before ++ item :: after) = some item :=
          ih.mpr ⟨before, after, rfl, nearer, fun other mem => noFarther other (List.mem_append_left _ mem)⟩
        rw [kept, closer]
        exact if_neg (not_lt.mpr (noFarther last (by simp)))

theorem distance_le_of_closest (found : closest position target items = some item) :
    ∀ other ∈ items, distance position target item ≤ distance position target other := by
  obtain ⟨before, after, rfl, nearer, noFarther⟩ := closest_eq_some_iff.mp found
  intro other mem
  rw [List.mem_append, List.mem_cons] at mem
  rcases mem with mem | rfl | mem
  · exact (nearer other mem).le
  · exact le_rfl
  · exact noFarther other mem

/-- Where some item rounds to a number, the nearest one does. -/
theorem closest_filter (rounds : ∃ other ∈ items, roundHalfEven (position other) = target) :
    closest position target (items.filter fun item => decide (roundHalfEven (position item) = target)) =
      closest position target items := by
  obtain ⟨other, mem, isRounded⟩ := rounds
  cases found : closest position target items with
  | none =>
    rw [closest_eq_none_iff.mp found] at mem
    cases mem
  | some item =>
    have half : distance position target other ≤ 1 / 2 := by
      have half := abs_sub_roundHalfEven_le (position other)
      rwa [isRounded] at half
    have least := distance_le_of_closest found other mem
    have here : roundHalfEven (position item) = target := by
      rcases lt_or_eq_of_le (least.trans half) with near | tie
      · exact roundHalfEven_of_near near
      · rw [roundHalfEven_of_half tie]
        have otherTie : distance position target other = 1 / 2 := le_antisymm half (tie ▸ least)
        exact (roundHalfEven_of_half otherTie).mp isRounded
    obtain ⟨before, after, rfl, nearer, noFarther⟩ := closest_eq_some_iff.mp found
    rw [closest_eq_some_iff, List.filter_append, List.filter_cons, if_pos (decide_eq_true here)]
    refine ⟨_, _, rfl, ?_, ?_⟩
    · intro other mem
      exact nearer other (List.mem_of_mem_filter mem)
    · intro other mem
      exact noFarther other (List.mem_of_mem_filter mem)

/-- Under each number the pass keeps the nearest of the items that round to it. -/
theorem get?_foldl_keep {within : Int → Bool} (inside : within target = true) (kept : List (Int × α)) :
    Fields.get? target (items.foldl (keep position within) kept) =
      (items.filter fun item => decide (roundHalfEven (position item) = target)).foldl (closer position target)
        (Fields.get? target kept) := by
  induction items generalizing kept with
  | nil => rfl
  | cons item rest ih =>
    rw [List.foldl_cons, ih]
    by_cases here : roundHalfEven (position item) = target
    · rw [List.filter_cons, if_pos (decide_eq_true here), List.foldl_cons]
      congr 1
      rw [keep, here, if_pos inside]
      cases existing : Fields.get? target kept with
      | none =>
        rw [Fields.get?_set, if_pos rfl]
        rfl
      | some best =>
        dsimp only [closer]
        split_ifs with isNearer
        · rw [Fields.get?_set, if_pos rfl]
        · exact existing
    · rw [List.filter_cons, if_neg (by simpa using here)]
      congr 1
      rw [keep]
      split_ifs
      · split
        · rw [Fields.get?_set, if_neg here]
        · split_ifs
          · rw [Fields.get?_set, if_neg here]
          · rfl
      · rfl

theorem get?_keep {within : Int → Bool} (inside : within target = true) :
    Fields.get? target (items.foldl (keep position within) []) =
      closest position target (items.filter fun item => decide (roundHalfEven (position item) = target)) :=
  get?_foldl_keep inside []

end Items

end LuxSwirl.Lib.Nearest
