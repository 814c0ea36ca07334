import Mathlib.Data.List.Count
import Mathlib.Data.List.TakeWhile
import Mathlib.Tactic.Linarith

/-!
# Rounds that put refused items behind

A round over a list takes every good item and leaves the bad ones, or it gives up at
two bad ones in front and puts them behind the rest. So the bad ones in front never
hold back a good one for longer than it takes to put them behind in twos:
`Rounds.settled`.
-/

namespace LuxSwirl.Lib

variable {α : Type*} {bad : α → Bool} {items taken left taken' left' : List α} {n : Nat}

inductive Round (bad : α → Bool) : List α → List α → List α → Prop
  | through (items : List α) : Round bad items (items.filter fun x => !bad x) (items.filter bad)
  | stopped {x y : α} (rest : List α) (first : bad x = true) (second : bad y = true) :
      Round bad (x :: y :: rest) [] (rest ++ [x, y])

/-- So many rounds, each over what the one before left. -/
inductive Rounds (bad : α → Bool) : Nat → List α → List α → List α → Prop
  | none (items : List α) : Rounds bad 0 items [] items
  | next {n : Nat} {items taken left taken' left' : List α} (round : Round bad items taken left)
      (rest : Rounds bad n left taken' left') : Rounds bad (n + 1) items (taken ++ taken') left'

/-- How many bad items are in front. -/
def leading (bad : α → Bool) (items : List α) : Nat := (items.takeWhile bad).length

theorem leading_le_countP (items : List α) : leading bad items ≤ items.countP bad := by
  have allBad : (items.takeWhile bad).countP bad = leading bad items :=
    List.countP_eq_length.mpr fun x mem => List.mem_takeWhile_imp mem
  rw [← allBad]
  exact (List.takeWhile_sublist bad).countP_le

theorem leading_append_of_good {x : α} (mem : x ∈ items) (good : bad x = false) (others : List α) :
    leading bad (items ++ others) = leading bad items := by
  induction items with
  | nil => cases mem
  | cons y rest ih =>
    rw [leading, leading, List.cons_append, List.takeWhile_cons, List.takeWhile_cons]
    cases isBad : bad y with
    | false => rfl
    | true =>
      rcases List.mem_cons.mp mem with rfl | mem
      · cases good.symm.trans isBad
      · exact congrArg (· + 1) (ih mem)

namespace Round

theorem perm (round : Round bad items taken left) : (taken ++ left).Perm items := by
  cases round with
  | through =>
    refine List.Perm.trans ?_ (List.filter_append_perm (fun x => !bad x) items)
    simp only [Bool.not_not]
    exact List.Perm.refl _
  | @stopped x y rest first second => exact @List.perm_append_comm _ rest [x, y]

theorem taken_good (round : Round bad items taken left) : ∀ x ∈ taken, bad x = false := by
  intro x mem
  cases round with
  | through => simpa using (List.mem_filter.mp mem).2
  | stopped rest first second => cases mem

/-- A round over good items takes them. -/
theorem of_good (round : Round bad items taken left) (good : ∀ x ∈ items, bad x = false) :
    taken = items ∧ left = [] := by
  cases round with
  | through =>
    constructor
    · exact List.filter_eq_self.mpr fun x mem => by rw [good x mem]; rfl
    · exact List.filter_eq_nil_iff.mpr fun x mem => by rw [good x mem]; decide
  | @stopped x y rest first second => exact absurd first (by rw [good x List.mem_cons_self]; decide)

/-- What a round leaves has a bad item in it. -/
theorem exists_bad (round : Round bad items taken left) (some : left ≠ []) : ∃ x ∈ left, bad x = true := by
  cases round with
  | through =>
    obtain ⟨x, mem⟩ := List.exists_mem_of_ne_nil _ some
    exact ⟨x, mem, (List.mem_filter.mp mem).2⟩
  | @stopped x y rest first second => exact ⟨x, List.mem_append_right _ List.mem_cons_self, first⟩

/-- A round over bad items alone leaves them. -/
theorem left_bad (round : Round bad items taken left) (allBad : ∀ x ∈ items, bad x = true) :
    ∀ x ∈ left, bad x = true := fun x mem =>
  allBad x (round.perm.mem_iff.mp (List.mem_append_right _ mem))

/-- A round that leaves a good item put two of the bad ones in front of it behind. -/
theorem leading_left (round : Round bad items taken left) {x : α} (mem : x ∈ left) (good : bad x = false) :
    leading bad items = leading bad left + 2 := by
  cases round with
  | through => cases good.symm.trans (List.mem_filter.mp mem).2
  | @stopped y z rest first second =>
    have inRest : x ∈ rest := by
      rcases List.mem_append.mp mem with mem | mem
      · exact mem
      · rw [List.mem_cons, List.mem_singleton] at mem
        rcases mem with rfl | rfl
        · cases good.symm.trans first
        · cases good.symm.trans second
    rw [leading_append_of_good inRest good, leading, leading, List.takeWhile_cons_of_pos first,
      List.takeWhile_cons_of_pos second, List.length_cons, List.length_cons]

end Round

namespace Rounds

/-- Rounds over nothing. -/
theorem empty (n : Nat) : Rounds bad n [] [] [] := by
  induction n with
  | zero => exact .none []
  | succ n ih => exact .next (.through []) ih

theorem perm (rounds : Rounds bad n items taken left) : (taken ++ left).Perm items := by
  induction rounds with
  | none => exact List.Perm.refl _
  | next round rest ih =>
    rw [List.append_assoc]
    exact (List.Perm.append_left _ ih).trans round.perm

theorem taken_good (rounds : Rounds bad n items taken left) : ∀ x ∈ taken, bad x = false := by
  induction rounds with
  | none => exact fun x mem => nomatch mem
  | next round rest ih =>
    intro x mem
    rcases List.mem_append.mp mem with mem | mem
    · exact round.taken_good x mem
    · exact ih x mem

/-- Enough rounds for the bad items in front leave no good one. -/
theorem left_bad (rounds : Rounds bad n items taken left) (enough : leading bad items / 2 < n) :
    ∀ x ∈ left, bad x = true := by
  induction rounds with
  | none => exact absurd enough (Nat.not_lt_zero _)
  | @next n items taken left taken' left' round rest ih =>
    by_cases someGood : ∃ x ∈ left, bad x = false
    · obtain ⟨x, mem, good⟩ := someGood
      refine ih ?_
      have fewer := round.leading_left mem good
      omega
    · have allBad : ∀ x ∈ left, bad x = true := fun x mem => by
        by_contra good
        exact someGood ⟨x, mem, Bool.eq_false_iff.mpr good⟩
      exact fun x mem => allBad x (rest.perm.mem_iff.mp (List.mem_append_right _ mem))

/-- **No good item is held back.** After half as many rounds as there are bad items, and
one more, every good item was taken and the bad ones are left. -/
theorem settled (rounds : Rounds bad n items taken left) (enough : (items.countP bad + 1) / 2 + 1 ≤ n) :
    taken.Perm (items.filter fun x => !bad x) ∧ left.Perm (items.filter bad) := by
  have few := @leading_le_countP _ bad items
  have leftBad := rounds.left_bad (by omega)
  have good := rounds.perm.filter fun x => !bad x
  have kept := rounds.perm.filter bad
  rw [List.filter_append] at good kept
  have takenGood : taken.filter (fun x => !bad x) = taken :=
    List.filter_eq_self.mpr fun x mem => by rw [rounds.taken_good x mem]; rfl
  have leftGood : left.filter (fun x => !bad x) = [] :=
    List.filter_eq_nil_iff.mpr fun x mem => by rw [leftBad x mem]; decide
  have takenBad : taken.filter bad = [] :=
    List.filter_eq_nil_iff.mpr fun x mem => by rw [rounds.taken_good x mem]; decide
  have leftKept : left.filter bad = left := List.filter_eq_self.mpr leftBad
  rw [takenGood, leftGood, List.append_nil] at good
  rw [takenBad, leftKept, List.nil_append] at kept
  exact ⟨good, kept⟩

end Rounds

end LuxSwirl.Lib
