import Mathlib.Algebra.Order.Group.Defs
import Mathlib.Data.List.Basic

/-!
# A budget of tries

Tries one after another, of which `spent` were made before: once `limit` are made,
every try is followed by a pause. No window shorter than the pause holds more than
`limit` of them (`Paced.countP_le`).
-/

namespace LuxSwirl.Lib

variable {α : Type*} [AddCommGroup α] [LinearOrder α]

/-- Tries with their pauses, the newest first. -/
def Paced (limit spent : Nat) (pause : α) : List α → Prop
  | [] => True
  | [_] => True
  | later :: before :: rest =>
    before ≤ later ∧ (limit ≤ spent + (rest.length + 1) → before + pause ≤ later) ∧
      Paced limit spent pause (before :: rest)

variable {limit spent : Nat} {pause before later : α} {tries : List α}

theorem Paced.tail (paced : Paced limit spent pause (later :: tries)) :
    Paced limit spent pause tries := by
  cases tries with
  | nil => trivial
  | cons before rest => exact paced.2.2

/-- No try came after the newest. -/
theorem Paced.le_newest (paced : Paced limit spent pause (later :: tries)) :
    ∀ try' ∈ tries, try' ≤ later := by
  induction tries generalizing later with
  | nil => simp
  | cons before rest ih =>
    obtain ⟨le, -, paced⟩ := paced
    intro try' mem
    rcases List.mem_cons.mp mem with rfl | mem
    · exact le
    · exact (ih paced try' mem).trans le

/-- A try at `now`, after the pause of the one before if that set one. -/
theorem Paced.cons (paced : Paced limit spent pause tries) (notBefore : ∀ try' ∈ tries, try' ≤ later)
    (paused : limit ≤ spent + tries.length → ∀ last ∈ tries.head?, last + pause ≤ later) :
    Paced limit spent pause (later :: tries) := by
  cases tries with
  | nil => trivial
  | cons last rest =>
    exact ⟨notBefore last List.mem_cons_self, fun full => paused full last rfl, paced⟩

/-- **No window shorter than the pause holds more tries than the limit.** -/
theorem Paced.countP_le [IsOrderedAddMonoid α] (paced : Paced limit spent pause tries)
    (pos : 0 < limit) {start length : α} (short : length ≤ pause) :
    tries.countP (fun try' => decide (start ≤ try' ∧ try' < start + length)) ≤ limit := by
  induction tries with
  | nil => exact Nat.zero_le _
  | cons later tries ih =>
    rw [List.countP_cons]
    by_cases within : start ≤ later ∧ later < start + length
    · simp only [within, and_self, decide_true, if_true]
      by_cases full : limit ≤ spent + tries.length
      · -- The try before set a pause, so it and all before it came before the window.
        have none : tries.countP (fun try' => decide (start ≤ try' ∧ try' < start + length)) = 0 := by
          refine List.countP_eq_zero.mpr fun try' mem => ?_
          cases tries with
          | nil => cases mem
          | cons last rest =>
            have gone : last < start := by
              have paused : last + pause ≤ later := paced.2.1 full
              have before : last + pause < start + pause :=
                lt_of_le_of_lt paused (lt_of_lt_of_le within.2 (by gcongr))
              exact lt_of_add_lt_add_right before
            have le : try' ≤ last := by
              rcases List.mem_cons.mp mem with rfl | mem
              · exact le_rfl
              · exact paced.tail.le_newest try' mem
            simp [not_le.mpr (lt_of_le_of_lt le gone)]
        omega
      · have few := tries.countP_le_length
          (p := fun try' => decide (start ≤ try' ∧ try' < start + length))
        omega
    · simp only [within, decide_false, Bool.false_eq_true, if_false]
      exact ih paced.tail

end LuxSwirl.Lib
