import Mathlib.Algebra.Order.Group.Defs
import Mathlib.Data.List.Nodup
import Mathlib.Logic.Function.Basic

/-!
# Items started at intervals

Each item has an interval and a key. A pass at a reading of a clock starts, in
order, every item whose interval has passed since its key last started, and its
key has then started at the reading. Items whose keys differ are scheduled apart;
of several with one key only the first can be started at a reading.
-/

namespace LuxSwirl.Lib.Schedule

variable {ι κ τ : Type*} [DecidableEq κ] [AddCommGroup τ] [LinearOrder τ]

def due (interval last now : τ) : Bool := decide (interval ≤ now - last)

/-- Which items a pass starts, and when each key started last. -/
def pass (key : ι → κ) (interval : ι → τ) (now : τ) : List ι → (κ → τ) → List Bool × (κ → τ)
  | [], last => ([], last)
  | item :: rest, last =>
    let isDue := due (interval item) (last (key item)) now
    let after := pass key interval now rest (if isDue then Function.update last (key item) now else last)
    (isDue :: after.1, after.2)

variable {key : ι → κ} {interval : ι → τ} {now : τ} {items : List ι} {last last' : κ → τ}

omit [AddCommGroup τ] [LinearOrder τ] in
theorem update_of_ne (due : Bool) {k k' : κ} (other : k' ≠ k) :
    (if due then Function.update last k now else last) k' = last k' := by
  split_ifs
  · exact Function.update_of_ne other _ _
  · rfl

/-- A key that no item has is left. -/
theorem pass_last_of_not_mem {k : κ} (absent : k ∉ items.map key) :
    (pass key interval now items last).2 k = last k := by
  induction items generalizing last with
  | nil => rfl
  | cons item rest ih =>
    obtain ⟨other, absent⟩ := not_or.mp (List.mem_cons.not.mp absent)
    exact (ih absent).trans (update_of_ne _ other)

/-- What a pass does to items with keys of their own: each is judged by its own. -/
theorem pass_of_nodup (interval : ι → τ) (now : τ) (last : κ → τ) (apart : (items.map key).Nodup) :
    (pass key interval now items last).1 = items.map (fun item => due (interval item) (last (key item)) now) ∧
      ∀ item ∈ items, (pass key interval now items last).2 (key item) =
        if due (interval item) (last (key item)) now then now else last (key item) := by
  induction items generalizing last with
  | nil => exact ⟨rfl, fun item mem => nomatch mem⟩
  | cons first rest ih =>
    obtain ⟨fresh, apart⟩ := List.nodup_cons.mp apart
    obtain ⟨starts, lasts⟩ := ih
      (if due (interval first) (last (key first)) now then Function.update last (key first) now else last) apart
    have others : ∀ item ∈ rest, key item ≠ key first := fun item mem same =>
      fresh (same ▸ List.mem_map_of_mem mem)
    constructor
    · refine congrArg (_ :: ·) (starts.trans (List.map_congr_left fun item mem => ?_))
      rw [update_of_ne _ (others item mem)]
    · intro item mem
      rcases List.mem_cons.mp mem with rfl | mem
      · refine (pass_last_of_not_mem fresh).trans ?_
        split_ifs <;> simp
      · refine (lasts item mem).trans ?_
        rw [update_of_ne _ (others item mem)]

/-- Items that a pass starts all have keys of their own. -/
theorem nodup_of_all_started (positive : ∀ item ∈ items, 0 < interval item)
    (all : ∀ flag ∈ (pass key interval now items last).1, flag = true) :
    (items.map key).Nodup ∧ ∀ item ∈ items, interval item ≤ now - last (key item) := by
  induction items generalizing last with
  | nil => exact ⟨List.nodup_nil, fun item mem => nomatch mem⟩
  | cons first rest ih =>
    obtain ⟨isDue, all⟩ := List.forall_mem_cons.mp all
    obtain ⟨least, positive⟩ := List.forall_mem_cons.mp positive
    rw [isDue] at all
    obtain ⟨apart, areDue⟩ := ih positive all
    have fresh : key first ∉ rest.map key := by
      intro repeated
      obtain ⟨item, mem, same⟩ := List.mem_map.mp repeated
      have isDue := areDue item mem
      rw [same, if_pos rfl, Function.update_self, sub_self] at isDue
      exact absurd (positive item mem) (not_lt.mpr isDue)
    refine ⟨List.nodup_cons.mpr ⟨fresh, apart⟩, List.forall_mem_cons.mpr ⟨of_decide_eq_true isDue, ?_⟩⟩
    intro item mem
    have isDue := areDue item mem
    have other : key item ≠ key first := fun same => fresh (same ▸ List.mem_map_of_mem mem)
    rwa [update_of_ne true other] at isDue

end LuxSwirl.Lib.Schedule
