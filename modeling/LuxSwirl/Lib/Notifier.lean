import Mathlib.Data.List.Basic
import Mathlib.Logic.Basic

/-!
# A notifier with a memory

A notifier sees observations one after another. Some histories fire; each
observation has a key, and the newest key recorded is the memory. A fire under
another key is sent, a fire under the remembered key only as a resend that is
due. While it is held nothing is sent, and while it is masked a fire that is no
recovery only records the mask.

`Policy` is what the notifier is told to do; the results are about runs of any
policy, over any observations, keys and times.
-/

namespace LuxSwirl.Lib

/-- The newest record: its key, its time and how many resends it counts. -/
@[ext] structure Mark (κ τ : Type*) where
  key : κ
  time : τ
  count : Nat
  deriving DecidableEq

/-- A notification: its key, the resends it counts, and what it is. -/
@[ext] structure Sent (κ : Type*) where
  key : κ
  isResend : Bool
  count : Nat
  recovers : Bool

structure Policy (ω κ τ : Type*) where
  /-- Whether a history fires, newest observation first, after the key recorded last. -/
  fires : List ω → Option κ → Bool
  key : ω → κ
  recovers : ω → Bool
  /-- What is recorded while masked. -/
  mask : κ
  /-- The count of the resend due at a time, after the newest record. -/
  resend : τ → Mark κ τ → Option Nat

/-- An observation, when it is made, and whether the notifier is held or masked then. -/
structure Input (ω τ : Type*) where
  seen : ω
  time : τ
  held : Bool := false
  masked : Bool := false

/-- What a notifier remembers: what it has seen, newest first, and its newest record. -/
@[ext] structure Memory (ω κ τ : Type*) where
  history : List ω
  last : Option (Mark κ τ)

namespace Policy

variable {ω κ τ : Type*} [DecidableEq κ] (policy : Policy ω κ τ)

/-- What a fire that is not held back sends. -/
def sends (input : Input ω τ) (last : Option (Mark κ τ)) : Option (Sent κ) :=
  let key := policy.key input.seen
  let recovers := policy.recovers input.seen
  if input.held then none
  else
    match last with
    | none => some ⟨key, false, 0, recovers⟩
    | some mark =>
      if mark.key = key then (policy.resend input.time mark).map fun count => ⟨key, true, count, recovers⟩
      else some ⟨key, false, 0, recovers⟩

/-- The record after a masked fire. -/
def masks (input : Input ω τ) (last : Option (Mark κ τ)) : Option (Mark κ τ) :=
  if last.map (·.key) = some policy.mask then last else some ⟨policy.mask, input.time, 0⟩

/-- One observation. -/
def step (input : Input ω τ) (memory : Memory ω κ τ) : Memory ω κ τ × Option (Sent κ) :=
  let history := input.seen :: memory.history
  if !policy.fires history (memory.last.map (·.key)) then ({ memory with history }, none)
  else if input.masked && !policy.recovers input.seen then
    ({ history, last := policy.masks input memory.last }, none)
  else
    match policy.sends input memory.last with
    | none => ({ memory with history }, none)
    | some sent => ({ history, last := some ⟨sent.key, input.time, sent.count⟩ }, some sent)

/-- The memory after some observations, given newest first. -/
def after (memory : Memory ω κ τ) : List (Input ω τ) → Memory ω κ τ
  | [] => memory
  | input :: earlier => (policy.step input (after memory earlier)).1

@[simp] theorem history_step (input : Input ω τ) (memory : Memory ω κ τ) :
    (policy.step input memory).1.history = input.seen :: memory.history := by
  unfold step
  dsimp only
  split_ifs
  · rfl
  · rfl
  · cases policy.sends input memory.last <;> rfl

@[simp] theorem history_after (memory : Memory ω κ τ) (inputs : List (Input ω τ)) :
    (policy.after memory inputs).history = inputs.map (·.seen) ++ memory.history := by
  induction inputs with
  | nil => rfl
  | cons input earlier ih => rw [after, history_step, ih, List.map_cons, List.cons_append]

section Step

variable {policy} {input : Input ω τ} {memory : Memory ω κ τ}

/-- A history that does not fire leaves the record alone. -/
theorem step_quiet (quiet : policy.fires (input.seen :: memory.history) (memory.last.map (·.key)) = false) :
    policy.step input memory = (⟨input.seen :: memory.history, memory.last⟩, none) := by
  simp [step, quiet]

/-- A fire that nothing masks is what it sends. -/
theorem step_open (fires : policy.fires (input.seen :: memory.history) (memory.last.map (·.key)) = true)
    (unmasked : (input.masked && !policy.recovers input.seen) = false) :
    policy.step input memory =
      match policy.sends input memory.last with
      | none => (⟨input.seen :: memory.history, memory.last⟩, none)
      | some sent =>
        (⟨input.seen :: memory.history, some ⟨sent.key, input.time, sent.count⟩⟩, some sent) := by
  simp [step, fires, unmasked]

/-- While held, a fire that nothing masks leaves the record alone. -/
theorem step_held (held : input.held = true)
    (unmasked : (input.masked && !policy.recovers input.seen) = false) :
    policy.step input memory = (⟨input.seen :: memory.history, memory.last⟩, none) := by
  cases fires : policy.fires (input.seen :: memory.history) (memory.last.map (·.key)) with
  | false => exact step_quiet fires
  | true => simp [step_open fires unmasked, sends, held]

/-- While masked, a fire that is no recovery records the mask. -/
theorem step_masked (fires : policy.fires (input.seen :: memory.history) (memory.last.map (·.key)) = true)
    (masked : (input.masked && !policy.recovers input.seen) = true) :
    policy.step input memory = (⟨input.seen :: memory.history, policy.masks input memory.last⟩, none) := by
  simp [step, fires, masked]

/-- A fire under a new key is sent, and no resend. -/
theorem step_fresh (fires : policy.fires (input.seen :: memory.history) (memory.last.map (·.key)) = true)
    (unheld : input.held = false) (unmasked : (input.masked && !policy.recovers input.seen) = false)
    (fresh : memory.last.map (·.key) ≠ some (policy.key input.seen)) :
    policy.step input memory =
      (⟨input.seen :: memory.history, some ⟨policy.key input.seen, input.time, 0⟩⟩,
        some ⟨policy.key input.seen, false, 0, policy.recovers input.seen⟩) := by
  have sent : policy.sends input memory.last =
      some ⟨policy.key input.seen, false, 0, policy.recovers input.seen⟩ := by
    unfold sends
    rcases last : memory.last with _ | mark
    · simp [unheld]
    · have other : mark.key ≠ policy.key input.seen := by simpa [last] using fresh
      simp [unheld, other]
  rw [step_open fires unmasked, sent]

/-- A fire under the remembered key is the resend that is due, if one is. -/
theorem step_again (fires : policy.fires (input.seen :: memory.history) (memory.last.map (·.key)) = true)
    (unheld : input.held = false) (unmasked : (input.masked && !policy.recovers input.seen) = false)
    {mark : Mark κ τ} (last : memory.last = some mark) (same : mark.key = policy.key input.seen) :
    policy.step input memory =
      match policy.resend input.time mark with
      | none => (⟨input.seen :: memory.history, memory.last⟩, none)
      | some count =>
        (⟨input.seen :: memory.history, some ⟨policy.key input.seen, input.time, count⟩⟩,
          some ⟨policy.key input.seen, true, count, policy.recovers input.seen⟩) := by
  have sent : policy.sends input memory.last = (policy.resend input.time mark).map fun count =>
      ⟨policy.key input.seen, true, count, policy.recovers input.seen⟩ := by
    simp [sends, unheld, last, same]
  rw [step_open fires unmasked, sent]
  cases policy.resend input.time mark <;> rfl

/-- A step that sends is an open fire, and records what it sends. -/
theorem step_sends {sent : Sent κ} (isSent : (policy.step input memory).2 = some sent) :
    policy.fires (input.seen :: memory.history) (memory.last.map (·.key)) = true ∧
      policy.sends input memory.last = some sent ∧
      (policy.step input memory).1.last = some ⟨sent.key, input.time, sent.count⟩ := by
  cases fires : policy.fires (input.seen :: memory.history) (memory.last.map (·.key)) with
  | false =>
    rw [step_quiet fires] at isSent
    cases isSent
  | true =>
    cases masked : input.masked && !policy.recovers input.seen with
    | true =>
      rw [step_masked fires masked] at isSent
      cases isSent
    | false =>
      rw [step_open fires masked] at isSent ⊢
      cases found : policy.sends input memory.last with
      | none =>
        rw [found] at isSent
        cases isSent
      | some other =>
        rw [found] at isSent
        cases isSent
        exact ⟨rfl, rfl, rfl⟩

/-- What is sent has the key of its observation, and recovers as it does. -/
theorem of_sends {sent : Sent κ} {last : Option (Mark κ τ)} (isSent : policy.sends input last = some sent) :
    sent.key = policy.key input.seen ∧ sent.recovers = policy.recovers input.seen := by
  unfold sends at isSent
  dsimp only at isSent
  split_ifs at isSent
  split at isSent
  · cases isSent
    exact ⟨rfl, rfl⟩
  · split_ifs at isSent
    · obtain ⟨count, -, rfl⟩ := Option.map_eq_some_iff.mp isSent
      exact ⟨rfl, rfl⟩
    · cases isSent
      exact ⟨rfl, rfl⟩

/-- What is sent is sent by a fire, and recovers as its observation does. -/
theorem of_sent {sent : Sent κ} (isSent : (policy.step input memory).2 = some sent) :
    policy.fires (input.seen :: memory.history) (memory.last.map (·.key)) = true ∧
      sent.recovers = policy.recovers input.seen := by
  obtain ⟨fires, isOpen, -⟩ := step_sends isSent
  exact ⟨fires, (of_sends isOpen).2⟩

/-- A record that changes though nothing is sent is of the mask, after another. -/
theorem of_silent_change (silent : (policy.step input memory).2 = none)
    (changed : (policy.step input memory).1.last ≠ memory.last) :
    memory.last.map (·.key) ≠ some policy.mask ∧
      (policy.step input memory).1.last = some ⟨policy.mask, input.time, 0⟩ := by
  cases fires : policy.fires (input.seen :: memory.history) (memory.last.map (·.key)) with
  | false =>
    rw [step_quiet fires] at changed
    exact absurd rfl changed
  | true =>
    cases masked : input.masked && !policy.recovers input.seen with
    | true =>
      rw [step_masked fires masked] at changed ⊢
      dsimp only at changed ⊢
      unfold masks at changed ⊢
      split_ifs at changed ⊢ with same
      · exact absurd rfl changed
      · exact ⟨same, rfl⟩
    | false =>
      rw [step_open fires masked] at silent changed
      cases sent : policy.sends input memory.last with
      | none =>
        rw [sent] at changed
        exact absurd rfl changed
      | some sent' =>
        rw [sent] at silent
        cases silent

/-- What is sent is recorded, under the key of its observation. -/
theorem last_of_sent {sent : Sent κ} (isSent : (policy.step input memory).2 = some sent) :
    (policy.step input memory).1.last = some ⟨sent.key, input.time, sent.count⟩ ∧
      sent.key = policy.key input.seen := by
  obtain ⟨-, isOpen, recorded⟩ := step_sends isSent
  exact ⟨recorded, (of_sends isOpen).1⟩

/-- What is sent and no resend is not what was recorded last. -/
theorem fresh_of_sent {sent : Sent κ} (isSent : (policy.step input memory).2 = some sent)
    (fresh : sent.isResend = false) : memory.last.map (·.key) ≠ some sent.key := by
  intro same
  obtain ⟨fires, -⟩ := of_sent isSent
  have isKey := (last_of_sent isSent).2
  cases masked : input.masked && !policy.recovers input.seen with
  | true =>
    rw [step_masked fires masked] at isSent
    cases isSent
  | false =>
    cases held : input.held with
    | true =>
      rw [step_held held masked] at isSent
      cases isSent
    | false =>
      obtain ⟨mark, last, isMark⟩ := Option.map_eq_some_iff.mp same
      rw [step_again fires held masked last (isMark.trans isKey)] at isSent
      split at isSent
      · cases isSent
      · cases isSent
        cases fresh

/-- After a fire that is neither held nor masked its key is the newest recorded. -/
theorem key_of_fire (fires : policy.fires (input.seen :: memory.history) (memory.last.map (·.key)) = true)
    (unheld : input.held = false) (unmasked : (input.masked && !policy.recovers input.seen) = false) :
    (policy.step input memory).1.last.map (·.key) = some (policy.key input.seen) := by
  by_cases fresh : memory.last.map (·.key) = some (policy.key input.seen)
  · obtain ⟨mark, last, same⟩ := Option.map_eq_some_iff.mp fresh
    rw [step_again fires unheld unmasked last same]
    cases policy.resend input.time mark with
    | none => exact fresh
    | some count => rfl
  · rw [step_fresh fires unheld unmasked fresh]
    rfl

/-- Where nothing is sent again, a fire sends when its key is news, and its key is
the newest recorded. -/
theorem step_unrepeated (input : Input ω τ) (memory : Memory ω κ τ)
    (never : ∀ now mark, policy.resend now mark = none) (unheld : input.held = false)
    (unmasked : (input.masked && !policy.recovers input.seen) = false) :
    let fires := policy.fires (input.seen :: memory.history) (memory.last.map (·.key))
    (policy.step input memory).1.last.map (·.key) =
        (if fires then some (policy.key input.seen) else memory.last.map (·.key)) ∧
      (policy.step input memory).2 =
        if fires && decide (memory.last.map (·.key) ≠ some (policy.key input.seen)) then
          some ⟨policy.key input.seen, false, 0, policy.recovers input.seen⟩
        else none := by
  dsimp only
  cases fires : policy.fires (input.seen :: memory.history) (memory.last.map (·.key)) with
  | false =>
    rw [step_quiet fires]
    exact ⟨rfl, rfl⟩
  | true =>
    refine ⟨key_of_fire fires unheld unmasked, ?_⟩
    by_cases news : memory.last.map (·.key) = some (policy.key input.seen)
    · obtain ⟨mark, last, same⟩ := Option.map_eq_some_iff.mp news
      rw [step_again fires unheld unmasked last same, never]
      simp [news]
    · rw [step_fresh fires unheld unmasked news]
      simp [news]

end Step

/-! ## Two policies that tell alike

Policies that differ in their keys only, each with one key for all that fires,
send the same and remember the same, key aside.
-/

/-- What a notification is, its key aside. -/
def outcome (sent : Sent κ) : Bool × Nat × Bool := (sent.isResend, sent.count, sent.recovers)

/-- The policies differ in their keys, and each fires under one, which is no mask. -/
structure Alike (p q : Policy ω κ τ) (k l : κ) : Prop where
  fires : ∀ history last last', p.fires history last = q.fires history last'
  recovers : ∀ seen, p.recovers seen = q.recovers seen
  mask : p.mask = q.mask
  resend : ∀ now key key' time count, p.resend now ⟨key, time, count⟩ = q.resend now ⟨key', time, count⟩
  keyLeft : ∀ seen history last, p.fires (seen :: history) last = true → p.key seen = k
  keyRight : ∀ seen history last, p.fires (seen :: history) last = true → q.key seen = l
  notMaskLeft : k ≠ p.mask
  notMaskRight : l ≠ p.mask

/-- The two newest records are of one fire, or of one mask. -/
def Matching (mask k l : κ) (left right : Option (Mark κ τ)) : Prop :=
  match left, right with
  | none, none => True
  | some a, some b => a.time = b.time ∧ a.count = b.count ∧
      ((a.key = mask ∧ b.key = mask) ∨ (a.key = k ∧ b.key = l))
  | _, _ => False

section Alike

variable {p q : Policy ω κ τ} {k l : κ} {input : Input ω τ}

omit [DecidableEq κ] in
/-- The records agree on whether they are of the mask. -/
theorem Alike.mask_iff (alike : Alike p q k l) {left right : Option (Mark κ τ)}
    (matching : Matching p.mask k l left right) :
    left.map (·.key) = some p.mask ↔ right.map (·.key) = some p.mask := by
  rcases left with _ | a <;> rcases right with _ | b
  · simp
  · exact matching.elim
  · exact matching.elim
  · obtain ⟨-, -, ⟨left, right⟩ | ⟨left, right⟩⟩ := matching
    · simp [left, right]
    · simp [left, right, alike.notMaskLeft, alike.notMaskRight]

omit [DecidableEq κ] in
/-- They agree on whether they are of a fire. -/
theorem Alike.key_iff (alike : Alike p q k l) {left right : Option (Mark κ τ)}
    (matching : Matching p.mask k l left right) :
    left.map (·.key) = some k ↔ right.map (·.key) = some l := by
  rcases left with _ | a <;> rcases right with _ | b
  · simp
  · exact matching.elim
  · exact matching.elim
  · obtain ⟨-, -, ⟨left, right⟩ | ⟨left, right⟩⟩ := matching
    · simp [left, right, alike.notMaskLeft.symm, alike.notMaskRight.symm]
    · simp [left, right]

/-- **One observation.** Memories that match still match after it, and what the
two policies send is the same, its key aside. -/
theorem Alike.step (alike : Alike p q k l) {left right : Memory ω κ τ}
    (history : left.history = right.history) (matching : Matching p.mask k l left.last right.last) :
    Matching p.mask k l (p.step input left).1.last (q.step input right).1.last ∧
      (p.step input left).2.map outcome = (q.step input right).2.map outcome := by
  have sameFires := alike.fires (input.seen :: left.history) (left.last.map (·.key))
    (right.last.map (·.key))
  cases fires : p.fires (input.seen :: left.history) (left.last.map (·.key)) with
  | false =>
    rw [fires, history] at sameFires
    rw [Policy.step_quiet fires, Policy.step_quiet sameFires.symm]
    exact ⟨matching, rfl⟩
  | true =>
    have keyLeft := alike.keyLeft _ _ _ fires
    have keyRight := alike.keyRight _ _ _ fires
    rw [fires, history] at sameFires
    have unmasks := alike.recovers input.seen
    cases masked : input.masked && !p.recovers input.seen with
    | true =>
      rw [Policy.step_masked fires masked, Policy.step_masked sameFires.symm (unmasks ▸ masked)]
      refine ⟨?_, rfl⟩
      dsimp only
      unfold Policy.masks
      rw [← alike.mask]
      by_cases already : left.last.map (·.key) = some p.mask
      · rw [if_pos already, if_pos ((alike.mask_iff matching).mp already)]
        exact matching
      · rw [if_neg already, if_neg fun other => already ((alike.mask_iff matching).mpr other)]
        exact ⟨rfl, rfl, Or.inl ⟨rfl, rfl⟩⟩
    | false =>
      have visible : (input.masked && !q.recovers input.seen) = false := unmasks ▸ masked
      cases held : input.held with
      | true =>
        rw [Policy.step_held held masked, Policy.step_held held visible]
        exact ⟨matching, rfl⟩
      | false =>
        by_cases again : left.last.map (·.key) = some k
        · obtain ⟨a, lastLeft, isLeft⟩ := Option.map_eq_some_iff.mp again
          obtain ⟨b, lastRight, isRight⟩ :=
            Option.map_eq_some_iff.mp ((alike.key_iff matching).mp again)
          have same := matching
          rw [lastLeft, lastRight] at same
          have resend : p.resend input.time a = q.resend input.time b := by
            have := alike.resend input.time a.key b.key a.time a.count
            rwa [show (⟨b.key, a.time, a.count⟩ : Mark κ τ) = b by rw [same.1, same.2.1]] at this
          rw [Policy.step_again fires held masked lastLeft (isLeft.trans keyLeft.symm),
            Policy.step_again sameFires.symm held visible lastRight (isRight.trans keyRight.symm),
            resend, unmasks]
          cases q.resend input.time b with
          | none => exact ⟨matching, rfl⟩
          | some count => exact ⟨⟨rfl, rfl, Or.inr ⟨keyLeft, keyRight⟩⟩, rfl⟩
        · rw [Policy.step_fresh fires held masked (keyLeft ▸ again),
            Policy.step_fresh sameFires.symm held visible
              (keyRight ▸ fun other => again ((alike.key_iff matching).mpr other)), unmasks]
          exact ⟨⟨rfl, rfl, Or.inr ⟨keyLeft, keyRight⟩⟩, rfl⟩

/-- **A run.** The memories of two such policies match after the same observations. -/
theorem Alike.after (alike : Alike p q k l) (inputs : List (Input ω τ)) :
    Matching p.mask k l (p.after ⟨[], none⟩ inputs).last (q.after ⟨[], none⟩ inputs).last := by
  induction inputs with
  | nil => trivial
  | cons input earlier ih =>
    have history : (p.after ⟨[], none⟩ earlier).history = (q.after ⟨[], none⟩ earlier).history := by
      rw [Policy.history_after, Policy.history_after]
    exact (alike.step history ih).1

end Alike

end Policy

end LuxSwirl.Lib
