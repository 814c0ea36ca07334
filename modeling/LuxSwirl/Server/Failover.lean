import LuxSwirl.Lib.Rendezvous
import LuxSwirl.Server.Assignments

/-!
# Failover of distributed checks

`distribute_owner` is a `Chosen` agent, of those not handed off, by a weight that
depends on the agent's id alone. So the owner moves only to the agent that changed or
from it (`distributeOwner_moves_only`), and the checks a pool's best agents handed off
went to their owner when the last of them did (`handedOverAt_law`).
-/

namespace LuxSwirl.Server
open LuxSwirl.Py LuxSwirl.Lib

section Owner

variable {outside : Outside} {check : Check} {pool : List Agent} {now later : Time} {owner agent : Agent}

theorem distributeOwner_chosen (owned : distributeOwner outside check pool now = some owner) :
    Chosen (hrwScore outside check) (fun agent => !handedOff outside agent now) pool owner := by
  rw [distributeOwner, getAssignedAgentForCheck] at owned
  split_ifs at owned with noneUp
  · exact Chosen.of_argmax_all noneUp owned
  · exact Chosen.of_argmax owned

/-- The weight goes by the id, -/
theorem hrwScore_of_id {first second : Agent} (same : first.id = second.id) :
    hrwScore outside check first = hrwScore outside check second := by
  rw [hrwScore, hrwScore, same]

/-- and agents of one weight have one id. -/
theorem id_of_hrwScore {first second : Agent} (same : hrwScore outside check first = hrwScore outside check second) :
    first.id = second.id := congrArg (fun score => (ofLex score).2) same

end Owner

/-- The agents with other ids are the same in both pools, and as many of them handed off. -/
def OthersKept (outside : Outside) (changed : Id) (pool : List Agent) (now : Time) (pool' : List Agent)
    (later : Time) : Prop :=
  Chosen.SameOthers (·.id) changed (fun agent => !handedOff outside agent now)
      (fun agent => !handedOff outside agent later) pool pool' ∧
    Chosen.SameOthers (·.id) changed (fun agent => !handedOff outside agent later)
      (fun agent => !handedOff outside agent now) pool' pool

/-- Pools that differ in one agent alone, none of the others handed off or back. -/
theorem OthersKept.of_filter {outside : Outside} {changed : Id} {pool pool' : List Agent} {now later : Time}
    (same : (pool.filter fun agent => decide (agent.id ≠ changed)) = pool'.filter fun agent => decide (agent.id ≠ changed))
    (still : ∀ agent ∈ pool, agent.id ≠ changed → handedOff outside agent now = handedOff outside agent later) :
    OthersKept outside changed pool now pool' later := by
  have mem_iff : ∀ agent, agent.id ≠ changed → (agent ∈ pool ↔ agent ∈ pool') := by
    intro agent isOther
    have filtered := congrArg (agent ∈ ·) same
    simpa only [List.mem_filter, decide_eq_true_eq, isOther, ne_eq, not_false_eq_true, and_true, eq_iff_iff] using filtered
  refine ⟨fun agent mem isOther => ?_, fun agent mem isOther => ?_⟩
  · exact ⟨agent, (mem_iff agent isOther).mp mem, rfl, congrArg (!·) (still agent mem isOther).symm⟩
  · have isIn := (mem_iff agent isOther).mpr mem
    exact ⟨agent, isIn, rfl, congrArg (!·) (still agent isIn isOther)⟩

theorem OthersKept.symm {outside : Outside} {changed : Id} {pool pool' : List Agent} {now later : Time}
    (kept : OthersKept outside changed pool now pool' later) : OthersKept outside changed pool' later pool now :=
  ⟨kept.2, kept.1⟩

/-- A pool without an owner has no others. -/
theorem OthersKept.moves_of_none {outside : Outside} {check : Check} {changed : Id} {pool pool' : List Agent}
    {now later : Time} (kept : OthersKept outside changed pool now pool' later)
    (unowned : distributeOwner outside check pool now = none) :
    distributeOwner outside check pool' later = none ∨
      (distributeOwner outside check pool' later).map (·.id) = some changed := by
  cases owned : distributeOwner outside check pool' later with
  | none => exact .inl rfl
  | some owner =>
    right
    rw [Option.map_some, Option.some.injEq]
    by_contra isOther
    obtain ⟨copy, isIn, -⟩ := kept.2 owner (distributeOwner_mem owned) isOther
    obtain ⟨other, isOwner⟩ : ∃ other, distributeOwner outside check pool now = some other :=
      distributeOwner_isSome (List.ne_nil_of_mem isIn)
    cases unowned.symm.trans isOwner

/-- **Failover moves only what it must.** Whatever becomes of one agent, the owner
stays the same unless it was or is that agent. -/
theorem distributeOwner_moves_only (outside : Outside) (check : Check) (changed : Id) (pool pool' : List Agent)
    (now later : Time) (kept : OthersKept outside changed pool now pool' later) :
    (distributeOwner outside check pool now).map (·.id) = (distributeOwner outside check pool' later).map (·.id) ∨
      (distributeOwner outside check pool now).map (·.id) = some changed ∨
        (distributeOwner outside check pool' later).map (·.id) = some changed := by
  cases owned : distributeOwner outside check pool now with
  | none =>
    rcases kept.moves_of_none owned with unowned | moved
    · exact .inl (by rw [unowned])
    · exact .inr (.inr moved)
  | some owner =>
    cases owned' : distributeOwner outside check pool' later with
    | none =>
      rcases kept.symm.moves_of_none owned' with unowned | moved
      · cases owned.symm.trans unowned
      · exact .inr (.inl (by rwa [owned] at moved))
    | some owner' =>
      simp only [Option.map_some, Option.some.injEq]
      by_cases isChanged : owner.id = changed
      · exact .inr (.inl isChanged)
      · by_cases isChanged' : owner'.id = changed
        · exact .inr (.inr isChanged')
        · have sameWeight := (distributeOwner_chosen owned).score_eq (fun _ _ => hrwScore_of_id)
            (distributeOwner_chosen owned') kept.1 kept.2 isChanged isChanged'
          exact .inl (id_of_hrwScore sameWeight)

section Witness

/-- Weights that go by the agent's id. -/
def byId : Outside := ⟨fun _ _ _ => true, fun _ agentId => agentId, 60⟩

def poolAgent (id : Id) (status : AgentStatus) (lastSeen : Time) : Agent where
  id
  status := some status
  approvalStatus := .active
  lastSeen := some lastSeen
  createdAt := 0

def pooledCheck : Check where
  id := 1
  agentId := 1
  assignmentMode := .distribute
  createdAt := 0

/-- The whole pool is offline, and then its second agent comes back. -/
theorem distributeOwner_moves_back :
    (distributeOwner byId pooledCheck [poolAgent 1 .offline 0, poolAgent 2 .offline 0, poolAgent 3 .offline 0] 5).map (·.id) =
        some 3 ∧
      (distributeOwner byId pooledCheck [poolAgent 1 .offline 0, poolAgent 2 .online 6, poolAgent 3 .offline 0] 6).map (·.id) =
        some 2 ∧
      ((distributeOwner byId pooledCheck [poolAgent 1 .offline 0, poolAgent 2 .offline 0, poolAgent 3 .offline 0] 5).map (·.id) =
        (distributeOwner byId pooledCheck [poolAgent 1 .offline 0, poolAgent 2 .online 6, poolAgent 3 .offline 0] 6).map (·.id) ∨
      (distributeOwner byId pooledCheck [poolAgent 1 .offline 0, poolAgent 2 .offline 0, poolAgent 3 .offline 0] 5).map (·.id) =
        some 2 ∨
      (distributeOwner byId pooledCheck [poolAgent 1 .offline 0, poolAgent 2 .online 6, poolAgent 3 .offline 0] 6).map (·.id) =
        some 2) :=
  ⟨by decide +kernel, by decide +kernel,
    distributeOwner_moves_only byId pooledCheck 2 [poolAgent 1 .offline 0, poolAgent 2 .offline 0, poolAgent 3 .offline 0]
      [poolAgent 1 .offline 0, poolAgent 2 .online 6, poolAgent 3 .offline 0] 5 6
      (.of_filter (by decide +kernel) (by decide +kernel))⟩

end Witness

/-! ## The hand-over time -/

section HandOver

variable {outside : Outside} {check : Check} {pool : List Agent} {now earlier time : Time} {owner agent : Agent}

theorem handedOff_iff : handedOff outside agent now = true ↔
    agent.status = some .offline ∨ offlineAt outside agent < now := by
  rw [handedOff, agentOffline, Bool.or_eq_true, decide_eq_true_eq, decide_eq_true_eq]

/-- An agent handed off stays so, as long as its row stays. -/
theorem handedOff_mono (off : handedOff outside agent earlier = true) (le : earlier ≤ now) :
    handedOff outside agent now = true := by
  rw [handedOff_iff] at off ⊢
  exact off.imp_right fun missed => missed.trans_le le

/-- It is from its hand-off time on. -/
theorem handedOff_of_after (after : handedOffAt outside agent < now) : handedOff outside agent now = true := by
  rw [handedOff_iff]
  rw [handedOffAt] at after
  split_ifs at after with isOffline
  · exact .inl isOffline
  · exact .inr after

/-- An agent that missed its heartbeats was not handed off before. -/
theorem not_handedOff_at (isMissed : agent.status ≠ some .offline) (isTime : handedOffAt outside agent = time) :
    handedOff outside agent time = false := by
  rw [handedOffAt, if_neg isMissed] at isTime
  rw [← Bool.not_eq_true, handedOff_iff, not_or]
  exact ⟨isMissed, isTime.not_lt⟩

/-- The agents above the owner hand it the check, and the last of them when it moves. -/
theorem handedOverAt_eq_some (moved : handedOverAt outside check pool now = some time) :
    ∃ owner, distributeOwner outside check pool now = some owner ∧ handedOff outside owner now = false ∧
      (∀ agent ∈ pool, hrwScore outside check owner < hrwScore outside check agent →
        handedOff outside agent now = true ∧ handedOffAt outside agent ≤ time) ∧
      ∃ last ∈ pool, hrwScore outside check owner < hrwScore outside check last ∧ handedOffAt outside last = time := by
  unfold handedOverAt at moved
  split at moved
  · cases moved
  · rename_i owner owned
    have chosen := distributeOwner_chosen owned
    obtain ⟨isTime, isMax⟩ := List.max?_eq_some_iff.mp moved
    obtain ⟨last, isAbove, isLast⟩ := List.mem_map.mp isTime
    obtain ⟨isIn, above⟩ := List.mem_filter.mp isAbove
    have isOn : handedOff outside owner now = false := by
      by_contra off
      rw [Bool.not_eq_false] at off
      have best := (chosen.best_of_all (by rw [off]; rfl)).2 last isIn
      exact (of_decide_eq_true above).not_ge best
    refine ⟨owner, owned, isOn, fun agent mem higher => ⟨?_, ?_⟩, last, isIn, of_decide_eq_true above, isLast⟩
    · by_contra on
      rw [Bool.not_eq_true] at on
      exact higher.not_ge (chosen.best_of_up agent mem (by rw [on]; rfl))
    · exact isMax _ (List.mem_map_of_mem (List.mem_filter.mpr ⟨mem, decide_eq_true higher⟩))

/-- Between the hand-over and now the owner is the same. -/
theorem owner_since (owned : distributeOwner outside check pool now = some owner)
    (isOn : handedOff outside owner now = false) (le : earlier ≤ now)
    (off : ∀ agent ∈ pool, hrwScore outside check owner < hrwScore outside check agent →
      handedOff outside agent earlier = true) :
    (distributeOwner outside check pool earlier).map (·.id) = some owner.id := by
  obtain ⟨owner', owned'⟩ : ∃ owner, distributeOwner outside check pool earlier = some owner :=
    distributeOwner_isSome (List.ne_nil_of_mem (distributeOwner_mem owned))
  have chosen' := distributeOwner_chosen owned'
  have wasOn : handedOff outside owner earlier = false := by
    by_contra off
    rw [Bool.not_eq_false] at off
    cases isOn.symm.trans (handedOff_mono off le)
  have isOn' : handedOff outside owner' earlier = false := by
    by_contra off'
    rw [Bool.not_eq_false] at off'
    have allOff := (chosen'.best_of_all (by rw [off']; rfl)).1 owner (distributeOwner_mem owned)
    rw [wasOn] at allOff
    cases allOff
  have ge := chosen'.best_of_up owner (distributeOwner_mem owned) (by rw [wasOn]; rfl)
  have le' : hrwScore outside check owner' ≤ hrwScore outside check owner := by
    by_contra higher
    have wasOff := off owner' (distributeOwner_mem owned') (not_le.mp higher)
    cases isOn'.symm.trans wasOff
  rw [owned', Option.map_some, id_of_hrwScore (le_antisymm le' ge)]

end HandOver

/-- **The hand-over time.** It is not after now, unless it is the last heartbeat of an
agent that shut down, heard after now. From then on the owner is the same; at that time
itself, when the last agent to hand off missed its heartbeats, it was another one of
higher weight. A pool without a hand-over has its highest-weighted agent. -/
theorem handedOverAt_law (outside : Outside) (check : Check) (pool : List Agent) (now : Time) :
    (∀ time, handedOverAt outside check pool now = some time →
      ∃ owner, distributeOwner outside check pool now = some owner ∧
        (time ≤ now ∨ ∃ agent ∈ pool, hrwScore outside check owner < hrwScore outside check agent ∧
          agent.status = some .offline ∧ agent.lastSeen.getD agent.createdAt = time) ∧
        (∀ since, time < since → since ≤ now →
          (distributeOwner outside check pool since).map (·.id) = some owner.id) ∧
        ∀ last ∈ pool, hrwScore outside check owner < hrwScore outside check last → handedOffAt outside last = time →
          last.status ≠ some .offline →
            ∃ before, distributeOwner outside check pool time = some before ∧ before.id ≠ owner.id ∧
              hrwScore outside check owner < hrwScore outside check before) ∧
      (pool ≠ [] → handedOverAt outside check pool now = none →
        ∃ owner, distributeOwner outside check pool now = some owner ∧
          ∀ agent ∈ pool, hrwScore outside check agent ≤ hrwScore outside check owner) := by
  refine ⟨fun time moved => ?_, fun nonempty unmoved => ?_⟩
  · obtain ⟨owner, owned, isOn, above, last, isIn, higher, isLast⟩ := handedOverAt_eq_some moved
    refine ⟨owner, owned, ?_, fun since after le => ?_, fun last isIn higher isLast isMissed => ?_⟩
    · rcases handedOff_iff.mp (above last isIn higher).1 with isOffline | missed
      · right
        rw [handedOffAt, if_pos isOffline] at isLast
        exact ⟨last, isIn, higher, isOffline, isLast⟩
      · by_cases isOffline : last.status = some .offline
        · rw [handedOffAt, if_pos isOffline] at isLast
          exact .inr ⟨last, isIn, higher, isOffline, isLast⟩
        · rw [handedOffAt, if_neg isOffline] at isLast
          exact .inl (isLast ▸ missed.le)
    · exact owner_since owned isOn le fun agent mem higher =>
        handedOff_of_after ((above agent mem higher).2.trans_lt after)
    · obtain ⟨before, ownedBefore⟩ : ∃ owner, distributeOwner outside check pool time = some owner :=
        distributeOwner_isSome (List.ne_nil_of_mem isIn)
      have wasOn := not_handedOff_at isMissed isLast
      have atLeast := (distributeOwner_chosen ownedBefore).best_of_up last isIn (by rw [wasOn]; rfl)
      have higherBefore := higher.trans_le atLeast
      exact ⟨before, ownedBefore, fun sameId => higherBefore.ne (hrwScore_of_id sameId.symm), higherBefore⟩
  · obtain ⟨owner, owned⟩ : ∃ owner, distributeOwner outside check pool now = some owner :=
      distributeOwner_isSome nonempty
    refine ⟨owner, owned, fun agent mem => ?_⟩
    rw [handedOverAt, owned] at unmoved
    have none_above := List.map_eq_nil_iff.mp (List.max?_eq_none_iff.mp unmoved)
    have notAbove := List.filter_eq_nil_iff.mp none_above agent mem
    rw [decide_eq_true_eq, not_lt] at notAbove
    exact notAbove

/-- An agent whose shutdown was heard at 100 handed its check off, as of 50. -/
theorem handedOverAt_after_now :
    handedOverAt byId pooledCheck [poolAgent 2 .offline 100, poolAgent 1 .online 40] 50 = some 100 ∧
      ¬∀ time, handedOverAt byId pooledCheck [poolAgent 2 .offline 100, poolAgent 1 .online 40] 50 = some time →
        time ≤ 50 := by
  have moved : handedOverAt byId pooledCheck [poolAgent 2 .offline 100, poolAgent 1 .online 40] 50 = some 100 := by
    decide +kernel
  refine ⟨moved, fun notAfter => ?_⟩
  exact absurd (notAfter 100 moved) (by decide)

end LuxSwirl.Server
