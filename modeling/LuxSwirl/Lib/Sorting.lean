import Mathlib.Data.List.Sort
import Mathlib.Order.Lex

/-!
# Sorting where not all compare

A stable sort by a comparison that may fail. Items fall into classes; two of one class
compare by their keys, two of different classes do not compare. Whatever pairs a sort
compares, it fails just when there are two classes, and otherwise its result is the one
stable order; so an insertion sort stands for any.

`pairwise_ordered_iff` is how a stable order is judged: the items in it stand in a
relation just when each two of them do in the order their keys put them.
-/

namespace LuxSwirl.Lib.Sorting

variable {α κ γ : Type*}

/-! ## The sort -/

/-- An item put before the first that is not less. -/
def insertItem (less : α → α → Option Bool) (item : α) : List α → Option (List α)
  | [] => some [item]
  | other :: rest =>
    match less other item with
    | none => none
    | some true => (insertItem less item rest).map (other :: ·)
    | some false => some (item :: other :: rest)

def sort (less : α → α → Option Bool) : List α → Option (List α)
  | [] => some []
  | item :: rest => (sort less rest).bind (insertItem less item)

/-- `sorted(items, reverse=...)`: descending, those of equal key stay in their order. -/
def sorted (less : α → α → Option Bool) (reverse : Bool) (items : List α) : Option (List α) :=
  if reverse then (sort less items.reverse).map List.reverse else sort less items

/-- All items are of one class. -/
def Alike (kind : α → γ) (items : List α) : Prop := ∀ a ∈ items, ∀ b ∈ items, kind a = kind b

theorem alike_reverse {kind : α → γ} {items : List α} : Alike kind items.reverse ↔ Alike kind items := by
  simp only [Alike, List.mem_reverse]

variable [LinearOrder κ] [DecidableEq γ]

/-- Whether the key of the one is less, for two of a class. -/
def lessBy (kind : α → γ) (key : α → κ) (a b : α) : Option Bool :=
  if kind a = kind b then some (decide (key a < key b)) else none

/-- The stable order by a key. -/
def ordered (key : α → κ) (reverse : Bool) (items : List α) : List α :=
  if reverse then (items.reverse.insertionSort fun a b => key a ≤ key b).reverse
  else items.insertionSort fun a b => key a ≤ key b

/-! ## When it fails -/

variable {kind : α → γ} {key : α → κ}

theorem insertItem_of_alike {item : α} {items : List α} (alike : ∀ other ∈ items, kind other = kind item) :
    insertItem (lessBy kind key) item items = some (items.orderedInsert (fun a b => key a ≤ key b) item) := by
  induction items with
  | nil => rfl
  | cons other rest ih =>
    rw [List.forall_mem_cons] at alike
    rw [insertItem, lessBy, if_pos alike.1, List.orderedInsert_cons]
    by_cases less : key other < key item
    · rw [decide_eq_true less, ih alike.2, if_neg (not_le.mpr less)]
      rfl
    · rw [decide_eq_false less, if_pos (not_lt.mp less)]

theorem insertItem_of_unlike {item other : α} {rest : List α} (unlike : kind other ≠ kind item) :
    insertItem (lessBy kind key) item (other :: rest) = none := by
  rw [insertItem, lessBy, if_neg unlike]

theorem sort_of_alike {items : List α} (alike : Alike kind items) :
    sort (lessBy kind key) items = some (items.insertionSort fun a b => key a ≤ key b) := by
  induction items with
  | nil => rfl
  | cons item rest ih =>
    have others : Alike kind rest := fun a memA b memB =>
      alike a (List.mem_cons_of_mem _ memA) b (List.mem_cons_of_mem _ memB)
    rw [sort, ih others, Option.bind_some, List.insertionSort_cons]
    apply insertItem_of_alike
    intro other mem
    rw [List.mem_insertionSort] at mem
    exact alike other (List.mem_cons_of_mem _ mem) item List.mem_cons_self

theorem sort_of_not_alike {items : List α} (unlike : ¬ Alike kind items) : sort (lessBy kind key) items = none := by
  induction items with
  | nil =>
    refine absurd ?_ unlike
    intro a mem
    cases mem
  | cons item rest ih =>
    rw [sort]
    by_cases others : Alike kind rest
    · rw [sort_of_alike others, Option.bind_some]
      cases isSorted : rest.insertionSort fun a b => key a ≤ key b with
      | nil =>
        have empty : rest = [] := by
          rw [← List.length_eq_zero_iff, ← List.length_insertionSort (fun a b => key a ≤ key b), isSorted]
          rfl
        subst empty
        refine absurd ?_ unlike
        intro a memA b memB
        rw [List.mem_singleton] at memA memB
        rw [memA, memB]
      | cons first tail =>
        apply insertItem_of_unlike
        intro same
        apply unlike
        have memFirst : first ∈ rest :=
          (List.mem_insertionSort fun a b => key a ≤ key b).mp (isSorted ▸ List.mem_cons_self)
        have like : ∀ a ∈ item :: rest, kind a = kind item := by
          intro a mem
          rcases List.mem_cons.mp mem with rfl | mem
          · rfl
          · exact (others a mem first memFirst).trans same
        intro a memA b memB
        exact (like a memA).trans (like b memB).symm
    · rw [ih others]
      rfl

theorem sorted_of_alike {items : List α} (alike : Alike kind items) (reverse : Bool) :
    sorted (lessBy kind key) reverse items = some (ordered key reverse items) := by
  cases reverse with
  | true => exact congrArg (Option.map List.reverse) (sort_of_alike (alike_reverse.mpr alike))
  | false => exact sort_of_alike alike

theorem sorted_of_not_alike {items : List α} (unlike : ¬ Alike kind items) (reverse : Bool) :
    sorted (lessBy kind key) reverse items = none := by
  cases reverse with
  | true => exact congrArg (Option.map List.reverse) (sort_of_not_alike (mt alike_reverse.mp unlike))
  | false => exact sort_of_not_alike unlike

/-! ## The stable order -/

theorem ordered_perm (key : α → κ) (reverse : Bool) (items : List α) : (ordered key reverse items).Perm items := by
  cases reverse with
  | true => exact (List.reverse_perm _).trans ((List.perm_insertionSort _ _).trans (List.reverse_perm _))
  | false => exact List.perm_insertionSort _ _

variable {R : α → α → Prop}

/-- An item among others in order: it stands in the relation to each as the keys put them. -/
theorem pairwise_orderedInsert_iff {item : α} {items : List α} (inOrder : items.Pairwise fun a b => key a ≤ key b) :
    (items.orderedInsert (fun a b => key a ≤ key b) item).Pairwise R ↔
      (∀ other ∈ items, if key item ≤ key other then R item other else R other item) ∧ items.Pairwise R := by
  induction items with
  | nil => simp
  | cons other rest ih =>
    obtain ⟨least, inOrder⟩ := List.pairwise_cons.mp inOrder
    rw [List.orderedInsert_cons, List.forall_mem_cons]
    split_ifs with before
    · have beforeAll : ∀ later ∈ rest, key item ≤ key later := fun later mem => before.trans (least later mem)
      have each : (∀ later ∈ rest, if key item ≤ key later then R item later else R later item) ↔
          ∀ later ∈ rest, R item later :=
        forall₂_congr fun later mem => by rw [if_pos (beforeAll later mem)]
      rw [List.pairwise_cons, List.forall_mem_cons, each]
    · rw [List.pairwise_cons, List.pairwise_cons, ih inOrder]
      simp only [List.mem_orderedInsert, forall_eq_or_imp]
      tauto

theorem pairwise_insertionSort_iff {items : List α} :
    (items.insertionSort fun a b => key a ≤ key b).Pairwise R ↔
      items.Pairwise fun a b => if key a ≤ key b then R a b else R b a := by
  induction items with
  | nil => simp
  | cons item rest ih =>
    have transitive : IsTrans α fun a b => key a ≤ key b := ⟨fun _ _ _ => le_trans⟩
    have total : Std.Total fun a b : α => key a ≤ key b := ⟨fun _ _ => le_total _ _⟩
    rw [List.insertionSort_cons, pairwise_orderedInsert_iff (List.pairwise_insertionSort _ rest), ih, List.pairwise_cons]
    simp only [List.mem_insertionSort]

/-- **A stable order is right for each two.** -/
theorem pairwise_ordered_iff {reverse : Bool} {items : List α} :
    (ordered key reverse items).Pairwise R ↔
      items.Pairwise fun a b => if (if reverse then key b ≤ key a else key a ≤ key b) then R a b else R b a := by
  cases reverse with
  | true =>
    show (List.reverse _).Pairwise R ↔ _
    rw [List.pairwise_reverse, pairwise_insertionSort_iff, List.pairwise_reverse]
    rfl
  | false => exact pairwise_insertionSort_iff

/-- A sort gives the items in the relation when they are of one class and each two of them
stand in it as the keys put them. -/
theorem sorted_pairwise_iff {reverse : Bool} {items : List α} :
    (∃ result, sorted (lessBy kind key) reverse items = some result ∧ result.Perm items ∧ result.Pairwise R) ↔
      Alike kind items ∧
        items.Pairwise fun a b => if (if reverse then key b ≤ key a else key a ≤ key b) then R a b else R b a := by
  rw [← pairwise_ordered_iff]
  by_cases alike : Alike kind items
  · rw [sorted_of_alike alike]
    constructor
    · rintro ⟨result, isSorted, -, inOrder⟩
      cases isSorted
      exact ⟨alike, inOrder⟩
    · rintro ⟨-, inOrder⟩
      exact ⟨_, rfl, ordered_perm key reverse items, inOrder⟩
  · rw [sorted_of_not_alike alike]
    simp [alike]

end LuxSwirl.Lib.Sorting
