import Mathlib.Algebra.Order.BigOperators.Group.List
import Mathlib.Data.List.TakeWhile
import Mathlib.Tactic.Ring

/-!
# Greedy packing

Items are packed in order into groups under a capacity: an item that no longer
fits closes the open group and opens the next. An item too big for any group
gets one of its own.

`openGroup` is the group that is open after some items. What an item finds when
it is packed (`companions`) depends on the items before it only through that
group, and packing the companions again finds the same group.
-/

namespace LuxSwirl.Lib.Packing

variable {α : Type*} (capacity : Nat) (size : α → Nat)

/-- The next item does not fit the open group. -/
def closes (group : List α) (next : α) : Bool :=
  !group.isEmpty && decide (capacity < (group.map size).sum + size next)

/-- The group open after packing the items. -/
def openGroup : List α → List α → List α
  | group, [] => group
  | group, item :: rest =>
    if closes capacity size group item then openGroup [item] rest
    else openGroup (group ++ [item]) rest

/-- The groups the items are packed into, after the group that is open. -/
def pack : List α → List α → List (List α)
  | group, [] => if group.isEmpty then [] else [group]
  | group, item :: rest =>
    if closes capacity size group item then group :: pack [item] rest
    else pack (group ++ [item]) rest

/-- The items that share a group with the next one, of those before it. -/
def companions (items : List α) (next : α) : List α :=
  let group := openGroup capacity size [] items
  if closes capacity size group next then [] else group

theorem flatten_pack (group items : List α) :
    (pack capacity size group items).flatten = group ++ items := by
  induction items generalizing group with
  | nil => cases group <;> simp [pack]
  | cons item rest ih =>
    rw [pack]
    split_ifs
    · rw [List.flatten_cons, ih, List.singleton_append]
    · rw [ih, List.append_assoc, List.singleton_append]

/-- Packing goes on after some items from the group they left open. -/
theorem pack_append (group items more : List α) :
    ∃ closed, pack capacity size group (items ++ more) =
        closed ++ pack capacity size (openGroup capacity size group items) more ∧
      closed.flatten ++ openGroup capacity size group items = group ++ items := by
  induction items generalizing group with
  | nil => exact ⟨[], rfl, by simp [openGroup]⟩
  | cons item rest ih =>
    rw [List.cons_append, pack, openGroup]
    split_ifs
    · obtain ⟨closed, packed, whole⟩ := ih [item]
      refine ⟨group :: closed, by rw [packed]; rfl, ?_⟩
      rw [List.flatten_cons, List.append_assoc, whole, List.singleton_append]
    · obtain ⟨closed, packed, whole⟩ := ih (group ++ [item])
      exact ⟨closed, packed, by rw [whole, List.append_assoc, List.singleton_append]⟩

/-- The group an open group becomes part of. -/
theorem pack_open {group : List α} (nonempty : group ≠ []) (items : List α) :
    ∃ more later, pack capacity size group items = (group ++ more) :: later := by
  induction items generalizing group with
  | nil =>
    refine ⟨[], [], ?_⟩
    simp [pack, nonempty]
  | cons item rest ih =>
    rw [pack]
    split_ifs
    · exact ⟨[], _, by rw [List.append_nil]⟩
    · obtain ⟨more, later, packed⟩ := ih (List.append_ne_nil_of_right_ne_nil group (List.cons_ne_nil item []))
      exact ⟨item :: more, later, by rw [packed, List.append_assoc, List.singleton_append]⟩

/-- The groups around an item: those closed before it, its own, and the rest. -/
theorem pack_around (items : List α) (next : α) (rest : List α) :
    ∃ closed more later,
      pack capacity size [] (items ++ next :: rest) =
        closed ++ (companions capacity size items next ++ next :: more) :: later ∧
      closed.flatten ++ companions capacity size items next = items := by
  obtain ⟨closed, packed, whole⟩ := pack_append capacity size [] items (next :: rest)
  rw [packed, pack, companions]
  rw [List.nil_append] at whole
  split_ifs with full
  · obtain ⟨more, later, opened⟩ :=
      pack_open capacity size (List.cons_ne_nil next []) rest
    refine ⟨closed ++ [openGroup capacity size [] items], more, later, ?_, ?_⟩
    · rw [opened, List.append_assoc]
      rfl
    · rw [List.flatten_append, List.flatten_singleton, List.append_nil, whole]
  · obtain ⟨more, later, opened⟩ := pack_open capacity size
      (List.append_ne_nil_of_right_ne_nil (openGroup capacity size [] items) (List.cons_ne_nil next [])) rest
    refine ⟨closed, more, later, ?_, whole⟩
    rw [opened, List.append_assoc]
    rfl

/-- Every item of the group fitted when it was added. -/
def Fits (capacity : Nat) (size : α → Nat) (group : List α) : Prop :=
  ∀ before item after, group = before ++ item :: after → closes capacity size before item = false

theorem fits_snoc {group : List α} {item : α} (fits : Fits capacity size group)
    (open_ : closes capacity size group item = false) : Fits capacity size (group ++ [item]) := by
  intro before next after whole
  rcases List.eq_nil_or_concat after with rfl | ⟨after, last, rfl⟩
  · obtain ⟨rfl, same⟩ := List.append_inj' whole rfl
    cases same
    exact open_
  · rw [List.concat_eq_append, ← List.cons_append, ← List.append_assoc] at whole
    exact fits before next after (List.append_inj' whole rfl).1

theorem fits_openGroup {group : List α} (fits : Fits capacity size group) (items : List α) :
    Fits capacity size (openGroup capacity size group items) := by
  induction items generalizing group with
  | nil => exact fits
  | cons item rest ih =>
    rw [openGroup]
    split_ifs with full
    · refine ih ?_
      intro before next after whole
      have empty : before = [] := by
        cases before with
        | nil => rfl
        | cons _ _ => simp at whole
      rw [empty]
      rfl
    · exact ih (fits_snoc capacity size fits (by simpa using full))

/-- A group that fits is packed into itself. -/
theorem openGroup_of_fits (before items : List α) (fits : Fits capacity size (before ++ items)) :
    openGroup capacity size before items = before ++ items := by
  induction items generalizing before with
  | nil => simp [openGroup]
  | cons item rest ih =>
    have open_ := fits before item rest rfl
    rw [openGroup, open_]
    rw [← List.singleton_append, ← List.append_assoc] at fits
    rw [if_neg (by simp), ih _ fits, List.append_assoc, List.singleton_append]

/-- The companions of an item, packed again, are its companions. -/
theorem companions_companions (items : List α) (next : α) :
    companions capacity size (companions capacity size items next) next =
      companions capacity size items next := by
  have fits : Fits capacity size (openGroup capacity size [] items) :=
    fits_openGroup capacity size (fun before item after whole => by simp at whole) items
  have again := openGroup_of_fits capacity size [] _ fits
  rw [List.nil_append] at again
  by_cases full : closes capacity size (openGroup capacity size [] items) next = true
  · have alone : companions capacity size items next = [] := by simp [companions, full]
    rw [alone]
    rfl
  · have whole : companions capacity size items next = openGroup capacity size [] items := by
      simp [companions, full]
    rw [whole, companions, again]
    simp [full]

theorem companions_suffix (items : List α) (next : α) :
    companions capacity size items next <:+ items := by
  obtain ⟨closed, -, -, -, whole⟩ := pack_around capacity size items next []
  exact ⟨closed.flatten, whole⟩

/-! ## A queue served in windows

Each turn takes the first `window` items of a queue, packs them, and serves the
groups in order up to the first with an item that is not `ok`. -/

section Serving

variable (window : Nat) (ok : α → Bool)

/-- The items one turn serves. -/
def served (queue : List α) : List α :=
  ((pack capacity size [] (queue.take window)).takeWhile (·.all ok)).flatten

/-- The queue after a turn. -/
def turn (queue : List α) : List α := queue.drop (served capacity size window ok queue).length

/-- The items ahead of one that is not `ok` that are never served. -/
def stuck (ahead : List α) (bad : α) : List α :=
  companions capacity size (ahead.drop (window * (ahead.length / window))) bad

/-- The items of a queue that are never served: the first that is not `ok`, those
stuck ahead of it and all behind it. -/
def blocked (queue : List α) : List α :=
  match queue.dropWhile ok with
  | [] => []
  | bad :: behind => stuck capacity size window (queue.takeWhile ok) bad ++ bad :: behind

theorem served_prefix (queue : List α) : served capacity size window ok queue <+: queue := by
  have whole := flatten_pack capacity size [] (queue.take window)
  rw [List.nil_append] at whole
  refine List.IsPrefix.trans ?_ (whole ▸ List.take_prefix window queue)
  obtain ⟨rest, split⟩ := List.takeWhile_prefix (l := pack capacity size [] (queue.take window)) (·.all ok)
  exact ⟨rest.flatten, by rw [served, ← List.flatten_append, split]⟩

theorem served_append_turn (queue : List α) :
    served capacity size window ok queue ++ turn capacity size window ok queue = queue := by
  obtain ⟨rest, whole⟩ := served_prefix capacity size window ok queue
  have rest_eq : turn capacity size window ok queue = rest := by
    rw [turn]
    nth_rewrite 2 [← whole]
    exact List.drop_left
  rw [rest_eq, whole]

theorem ok_of_mem_served {queue : List α} {item : α}
    (mem : item ∈ served capacity size window ok queue) : ok item = true := by
  obtain ⟨group, within, inside⟩ := List.mem_flatten.mp mem
  exact List.all_eq_true.mp (List.mem_takeWhile_imp (p := fun group : List α => group.all ok) within) item inside

theorem served_of_all {queue : List α} (all : ∀ item ∈ queue, ok item = true) :
    served capacity size window ok queue = queue.take window := by
  have whole := flatten_pack capacity size [] (queue.take window)
  rw [served, List.takeWhile_eq_self_iff.mpr, whole, List.nil_append]
  intro group within
  refine List.all_eq_true.mpr fun item inside => all item ?_
  have mem : item ∈ (pack capacity size [] (queue.take window)).flatten :=
    List.mem_flatten.mpr ⟨group, within, inside⟩
  rw [whole, List.nil_append] at mem
  exact List.mem_of_mem_take mem

/-- A queue of items that are all `ok` is served in the end. -/
theorem turn_of_all {queue : List α} (all : ∀ item ∈ queue, ok item = true) :
    turn capacity size window ok queue = queue.drop window := by
  rw [turn, served_of_all capacity size window ok all, List.length_take]
  rcases Nat.le_total window queue.length with le | le
  · rw [Nat.min_eq_left le]
  · rw [Nat.min_eq_right le, List.drop_length, List.drop_eq_nil_of_le le]

theorem turn_iterate_of_all (positive : 0 < window) {queue : List α}
    (all : ∀ item ∈ queue, ok item = true) :
    ∃ n, (turn capacity size window ok)^[n] queue = [] := by
  induction hlen : queue.length using Nat.strong_induction_on generalizing queue with
  | _ len ih =>
    by_cases empty : queue = []
    · exact ⟨0, empty⟩
    · have shorter : (queue.drop window).length < len := by
        have := List.length_pos_iff.mpr empty
        rw [List.length_drop]
        omega
      obtain ⟨n, done⟩ := ih _ shorter
        (fun item mem => all item (List.mem_of_mem_drop mem)) rfl
      exact ⟨n + 1, by rw [Function.iterate_succ_apply, turn_of_all capacity size window ok all, done]⟩

/-- What a turn leaves ahead of an item that is not `ok`. -/
theorem turn_blocked (positive : 0 < window) {ahead behind : List α} {bad : α}
    (all : ∀ item ∈ ahead, ok item = true) (notOk : ok bad = false) :
    ∃ ahead', turn capacity size window ok (ahead ++ bad :: behind) = ahead' ++ bad :: behind ∧
      ahead' <:+ ahead ∧ stuck capacity size window ahead' bad = stuck capacity size window ahead bad ∧
      (ahead'.length < ahead.length ∨ ahead' = stuck capacity size window ahead bad) := by
  by_cases far : window ≤ ahead.length
  · -- the whole window is ahead of the item and is served
    have taken : (ahead ++ bad :: behind).take window = ahead.take window :=
      List.take_append_of_le_length far
    have served_eq : served capacity size window ok (ahead ++ bad :: behind) = ahead.take window := by
      have := served_of_all capacity size window ok all
      rw [served] at this ⊢
      rw [taken, this]
    refine ⟨ahead.drop window, ?_, List.drop_suffix .., ?_, Or.inl ?_⟩
    · rw [turn, served_eq, List.length_take, Nat.min_eq_left far, List.drop_append_of_le_length far]
    · obtain ⟨q, whole⟩ : ∃ q, ahead.length / window = q + 1 :=
        ⟨ahead.length / window - 1, by have := Nat.div_pos far positive; omega⟩
      have fewer : (ahead.length - window) / window = q := by
        have := Nat.sub_mul_div ahead.length window 1
        rw [Nat.mul_one, whole] at this
        omega
      rw [stuck, stuck, List.length_drop, fewer, List.drop_drop, whole]
      congr 2
      ring
    · rw [List.length_drop]
      omega
  · have short : ahead.length < window := Nat.lt_of_not_le far
    have whole : stuck capacity size window ahead bad = companions capacity size ahead bad := by
      rw [stuck, Nat.div_eq_of_lt short, Nat.mul_zero, List.drop_zero]
    obtain ⟨room, more⟩ : ∃ room, window - ahead.length = room + 1 := by
      refine ⟨window - ahead.length - 1, ?_⟩
      omega
    have taken : (ahead ++ bad :: behind).take window = ahead ++ bad :: behind.take room := by
      rw [List.take_append, List.take_of_length_le (Nat.le_of_lt short), more, List.take_succ_cons]
    obtain ⟨closed, rest, later, packed, split⟩ := pack_around capacity size
      ahead bad (behind.take room)
    have closedOk : ∀ group ∈ closed, group.all ok = true := by
      refine fun group within => List.all_eq_true.mpr fun item inside => all item ?_
      rw [← split]
      exact List.mem_append_left _ (List.mem_flatten.mpr ⟨group, within, inside⟩)
    have served_eq : served capacity size window ok (ahead ++ bad :: behind) = closed.flatten := by
      rw [served, taken, packed, List.takeWhile_append_of_pos closedOk, List.takeWhile_cons_of_neg,
        List.append_nil]
      simp [notOk]
    refine ⟨companions capacity size ahead bad, ?_, companions_suffix capacity size .., ?_, Or.inr whole.symm⟩
    · rw [turn, served_eq]
      nth_rewrite 1 [← split]
      rw [List.append_assoc, List.drop_left]
    · have shorter : (companions capacity size ahead bad).length < window :=
        Nat.lt_of_le_of_lt (companions_suffix capacity size ..).length_le short
      rw [whole, stuck, Nat.div_eq_of_lt shorter, Nat.mul_zero, List.drop_zero,
        companions_companions capacity size]

theorem stuck_suffix (ahead : List α) (bad : α) :
    stuck capacity size window ahead bad <:+ ahead :=
  (companions_suffix capacity size ..).trans (List.drop_suffix ..)

/-- After any number of turns the item that is not `ok`, what is behind it and
the items stuck with it are still there. -/
theorem turn_iterate_blocked (positive : 0 < window) {ahead behind : List α} {bad : α}
    (all : ∀ item ∈ ahead, ok item = true) (notOk : ok bad = false) (n : Nat) :
    ∃ ahead', (turn capacity size window ok)^[n] (ahead ++ bad :: behind) = ahead' ++ bad :: behind ∧
      stuck capacity size window ahead bad <:+ ahead' := by
  induction n generalizing ahead with
  | zero => exact ⟨ahead, rfl, stuck_suffix capacity size window ..⟩
  | succ n ih =>
    obtain ⟨ahead', turned, suffix, same, -⟩ := turn_blocked capacity size window ok positive all notOk
    obtain ⟨final, done, kept⟩ := ih (fun item mem => all item (suffix.subset mem))
    exact ⟨final, by rw [Function.iterate_succ_apply, turned, done], same ▸ kept⟩

/-- And in the end nothing else is ahead of it. -/
theorem turn_iterate_stuck (positive : 0 < window) {ahead behind : List α} {bad : α}
    (all : ∀ item ∈ ahead, ok item = true) (notOk : ok bad = false) :
    ∃ n, (turn capacity size window ok)^[n] (ahead ++ bad :: behind) =
      stuck capacity size window ahead bad ++ bad :: behind := by
  induction hlen : ahead.length using Nat.strong_induction_on generalizing ahead with
  | _ len ih =>
    obtain ⟨ahead', turned, suffix, same, progress⟩ := turn_blocked capacity size window ok positive all notOk
    rcases progress with shorter | done
    · obtain ⟨n, done⟩ := ih _ (hlen ▸ shorter) (fun item mem => all item (suffix.subset mem)) rfl
      exact ⟨n + 1, by rw [Function.iterate_succ_apply, turned, done, same]⟩
    · exact ⟨1, by rw [Function.iterate_one, turned, done]⟩

theorem blocked_of_split {ahead behind : List α} {bad : α}
    (all : ∀ item ∈ ahead, ok item = true) (notOk : ok bad = false) :
    blocked capacity size window ok (ahead ++ bad :: behind) =
      stuck capacity size window ahead bad ++ bad :: behind := by
  have first : ¬ ok bad = true := by simp [notOk]
  rw [blocked, List.dropWhile_append_of_pos all, List.dropWhile_cons_of_neg first,
    List.takeWhile_append_of_pos all, List.takeWhile_cons_of_neg first, List.append_nil]

/-- A queue is all `ok`, or has a first item that is not. -/
theorem all_or_split (queue : List α) :
    (∀ item ∈ queue, ok item = true) ∨
      ∃ ahead bad behind, queue = ahead ++ bad :: behind ∧ (∀ item ∈ ahead, ok item = true) ∧
        ok bad = false := by
  have whole := List.takeWhile_append_dropWhile (p := ok) (l := queue)
  rcases rest : queue.dropWhile ok with _ | ⟨bad, behind⟩
  · exact Or.inl (List.dropWhile_eq_nil_iff.mp rest)
  · refine Or.inr ⟨queue.takeWhile ok, bad, behind, by rw [← rest, whole], ?_, ?_⟩
    · exact fun item mem => List.mem_takeWhile_imp mem
    · have := List.head_dropWhile_not ok (show queue.dropWhile ok ≠ [] by simp [rest])
      simpa [rest] using this

/-- **Progress.** Enough turns serve everything but the blocked items. -/
theorem turn_iterate_reaches (positive : 0 < window) (queue : List α) :
    ∃ n, (turn capacity size window ok)^[n] queue = blocked capacity size window ok queue := by
  rcases all_or_split ok queue with all | ⟨ahead, bad, behind, rfl, all, notOk⟩
  · have none_left : blocked capacity size window ok queue = [] := by
      rw [blocked, List.dropWhile_eq_nil_iff.mpr all]
    rw [none_left]
    exact turn_iterate_of_all capacity size window ok positive all
  · rw [blocked_of_split capacity size window ok all notOk]
    exact turn_iterate_stuck capacity size window ok positive all notOk

/-- And no number of turns serves a blocked one. -/
theorem blocked_suffix_iterate (positive : 0 < window) (queue : List α) (n : Nat) :
    blocked capacity size window ok queue <:+ (turn capacity size window ok)^[n] queue := by
  rcases all_or_split ok queue with all | ⟨ahead, bad, behind, rfl, all, notOk⟩
  · rw [blocked, List.dropWhile_eq_nil_iff.mpr all]
    exact List.nil_suffix
  · obtain ⟨ahead', turned, kept⟩ :=
      turn_iterate_blocked capacity size window ok positive all notOk n
    obtain ⟨front, rfl⟩ := kept
    rw [blocked_of_split capacity size window ok all notOk, turned, List.append_assoc]
    exact List.suffix_append ..

end Serving

end LuxSwirl.Lib.Packing
