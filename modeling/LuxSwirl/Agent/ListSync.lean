import LuxSwirl.Py.Builtins
import Mathlib.Logic.Function.Basic

/-!
# Following the server's list of checks

The server answers a heartbeat with the version of the agent's list, and
`_sync_checks` of `heartbeat.py` loads the list again when that is not the version it
knows. The first one it is told it takes for that of the list loaded at start-up.
`load_checks` fetches the list, or falls back to its cache.

A list is its revision: every change of it makes the next, with a version of its own.
`noneMissed_iff` is about every run, with changes between an answer and the fetch it
triggers as anywhere else.
-/

namespace LuxSwirl.Agent
open LuxSwirl.Py

/-- What becomes of a fetch. An answered one is saved to the cache, unless that fails. -/
inductive Fetch where
  | answered (saved : Bool)
  | failed
  deriving DecidableEq

/-- What the agent knows of its list. `checks` is the revision of the list it runs and
`cache` of the one it has saved; an empty cache is as good as none. -/
structure ListAgent where
  configVersion : Option Text := none
  configVersionKnown : Bool := false
  checks : Option Nat := none
  cache : Option Nat := none

/-- `load_checks`, when the server's list is of the revision. -/
def loadList (revision : Nat) (fetch : Fetch) (agent : ListAgent) : ListAgent :=
  match fetch with
  | .answered saved =>
    { agent with checks := some revision, cache := if saved then some revision else agent.cache }
  | .failed => { agent with checks := agent.cache }

/-- The version is not the known one. -/
def ListAgent.reloads (agent : ListAgent) (configVersion : Option Text) : Bool :=
  agent.configVersionKnown && decide (configVersion ≠ agent.configVersion)

/-- `_sync_checks` of an answer, with the list as it is when it is fetched. -/
def syncChecks (configVersion : Option Text) (revision : Nat) (fetch : Fetch) (agent : ListAgent) : ListAgent :=
  if agent.configVersionKnown then
    if configVersion ≠ agent.configVersion then loadList revision fetch { agent with configVersion }
    else agent
  else { agent with configVersion, configVersionKnown := true }

/-- The agent of a new process: its cache, and the list it loads. -/
def startUp (cache : Option Nat) (revision : Nat) (fetch : Fetch) : ListAgent := loadList revision fetch { cache }

/-- What happens to the server's list and the agent's heartbeats. -/
inductive SyncEvent where
  | change
  | unanswered
  /-- A heartbeat that is answered, the changes until its fetch, if it has one, and what
  becomes of that. -/
  | answered (changes : Nat) (fetch : Fetch)

/-- The list that is run was fetched at the revision or later. -/
def ListAgent.RunsSince (agent : ListAgent) (revision : Nat) : Prop := ∃ fetched ∈ agent.checks, revision ≤ fetched

section

variable (digest : Nat → Option Text)

/-- The next heartbeat that is answered triggers a fetch. -/
def NextReloads : Nat → ListAgent → List SyncEvent → Prop
  | _, _, [] => True
  | revision, agent, .change :: rest => NextReloads (revision + 1) agent rest
  | revision, agent, .unanswered :: rest => NextReloads revision agent rest
  | revision, agent, .answered _ _ :: _ => agent.reloads (digest revision) = true

/-- **No change is missed**: after each answer the agent runs the list of its version or
a later one, or fetches at the next. -/
def NoneMissed : Nat → ListAgent → List SyncEvent → Prop
  | _, _, [] => True
  | revision, agent, .change :: rest => NoneMissed (revision + 1) agent rest
  | revision, agent, .unanswered :: rest => NoneMissed revision agent rest
  | revision, agent, .answered changes fetch :: rest =>
    let after := syncChecks (digest revision) (revision + changes) fetch agent
    (after.RunsSince revision ∨ NextReloads digest (revision + changes) after rest) ∧
      NoneMissed (revision + changes) after rest

/-- The next heartbeat that is answered is told another version. -/
def NextTold (version : Option Text) : Nat → List SyncEvent → Prop
  | _, [] => True
  | revision, .change :: rest => NextTold version (revision + 1) rest
  | revision, .unanswered :: rest => NextTold version revision rest
  | revision, .answered _ _ :: _ => digest revision ≠ version

/-- The answer finds the list it is of, or the agent gets it: the first one finds it
loaded, and a fetch is answered, or finds it in the cache. -/
def ListAgent.Learns (agent : ListAgent) (revision : Nat) (fetch : Fetch) : Prop :=
  if agent.configVersionKnown then
    digest revision ≠ agent.configVersion → fetch ≠ .failed ∨ ∃ cached ∈ agent.cache, revision ≤ cached
  else agent.RunsSince revision

def EachLearned : Nat → ListAgent → List SyncEvent → Prop
  | _, _, [] => True
  | revision, agent, .change :: rest => EachLearned (revision + 1) agent rest
  | revision, agent, .unanswered :: rest => EachLearned revision agent rest
  | revision, agent, .answered changes fetch :: rest =>
    (agent.Learns digest revision fetch ∨ NextTold digest (digest revision) (revision + changes) rest) ∧
      EachLearned (revision + changes) (syncChecks (digest revision) (revision + changes) fetch agent) rest

end

variable {digest : Nat → Option Text}

theorem known_syncChecks (version : Option Text) (revision : Nat) (fetch : Fetch) (agent : ListAgent) :
    (syncChecks version revision fetch agent).configVersionKnown = true ∧
      (syncChecks version revision fetch agent).configVersion = version := by
  unfold syncChecks
  split_ifs with known changed
  · cases fetch <;> exact ⟨known, rfl⟩
  · exact ⟨known, (not_ne_iff.mp changed).symm⟩
  · exact ⟨rfl, rfl⟩

theorem nextReloads_iff {agent : ListAgent} (known : agent.configVersionKnown = true) (revision : Nat)
    (events : List SyncEvent) :
    NextReloads digest revision agent events ↔ NextTold digest agent.configVersion revision events := by
  induction events generalizing revision with
  | nil => exact Iff.rfl
  | cons event rest ih =>
    cases event with
    | change => exact ih _
    | unanswered => exact ih _
    | answered changes fetch => simp [NextReloads, NextTold, ListAgent.reloads, known]

/-- An agent that is told the version of its list runs it, when no fetch was due. -/
def Current (digest : Nat → Option Text) (revision : Nat) (agent : ListAgent) (events : List SyncEvent) : Prop :=
  agent.configVersionKnown = true → ∃ told, agent.configVersion = digest told ∧
    (agent.RunsSince told ∨ NextReloads digest revision agent events)

/-- One answer: the agent has its list exactly when it learns it. -/
theorem runsSince_iff (injective : Function.Injective digest) {revision changes : Nat} {fetch : Fetch}
    {agent : ListAgent} {rest : List SyncEvent}
    (current : Current digest revision agent (.answered changes fetch :: rest)) :
    (syncChecks (digest revision) (revision + changes) fetch agent).RunsSince revision ↔
      agent.Learns digest revision fetch := by
  unfold syncChecks ListAgent.Learns
  split_ifs with known changed
  · cases fetch with
    | answered saved =>
      have runs : (loadList (revision + changes) (.answered saved)
          { agent with configVersion := digest revision }).RunsSince revision :=
        ⟨_, rfl, Nat.le_add_right revision changes⟩
      exact iff_of_true runs fun _ => Or.inl nofun
    | failed =>
      constructor
      · exact fun runs _ => Or.inr runs
      · intro learns
        rcases learns changed with answered | cached
        · exact absurd rfl answered
        · exact cached
  · -- the version is the one it was told before, whose list it runs as no fetch was due
    obtain ⟨told, isTold, runs | reloads⟩ := current known
    · have same : revision = told := injective ((not_ne_iff.mp changed).trans isTold)
      exact iff_of_true (same ▸ runs) fun other => absurd other changed
    · exact absurd (by simpa [NextReloads, ListAgent.reloads, known] using reloads) changed
  · exact Iff.rfl

/-- **No change is missed exactly when each is learned.** -/
theorem noneMissed_iff_eachLearned (injective : Function.Injective digest) {revision : Nat} {agent : ListAgent}
    {events : List SyncEvent} (current : Current digest revision agent events) :
    NoneMissed digest revision agent events ↔ EachLearned digest revision agent events := by
  induction events generalizing revision agent with
  | nil => exact Iff.rfl
  | cons event rest ih =>
    cases event with
    | change => exact ih current
    | unanswered => exact ih current
    | answered changes fetch =>
      obtain ⟨known, told⟩ := known_syncChecks (digest revision) (revision + changes) fetch agent
      have learns := runsSince_iff injective current
      have next : NextReloads digest (revision + changes) _ rest ↔ _ := nextReloads_iff known _ rest
      rw [told] at next
      simp only [NoneMissed, EachLearned]
      rw [learns, next]
      refine and_congr_right fun settled => ih fun _ => ⟨revision, told, ?_⟩
      rwa [learns, next]

/-- A run of an agent from its start. -/
theorem noneMissed_iff (injective : Function.Injective digest) (cache : Option Nat) (revision : Nat)
    (fetch : Fetch) (events : List SyncEvent) :
    NoneMissed digest revision (startUp cache revision fetch) events ↔
      EachLearned digest revision (startUp cache revision fetch) events := by
  refine noneMissed_iff_eachLearned injective fun known => ?_
  cases fetch <;> cases known

/-- A version for each revision. -/
def countedDigest (revision : Nat) : Option Text := some (List.replicate revision (.scalar 'a'))

theorem countedDigest_injective : Function.Injective countedDigest := by
  intro revision other same
  have lengths := congrArg List.length (Option.some.inj same)
  rwa [List.length_replicate, List.length_replicate] at lengths

/-- A change between two heartbeats, and one more before its fetch. -/
theorem noneMissed_of_fetched :
    NoneMissed countedDigest 0 (startUp none 0 (.answered true))
      [.answered 0 .failed, .change, .unanswered, .answered 1 (.answered true), .answered 0 (.answered true)] := by
  refine (noneMissed_iff countedDigest_injective _ _ _ _).mpr ⟨?_, ?_, ?_, trivial⟩
  · exact Or.inl ⟨0, rfl, Nat.le_refl 0⟩
  · exact Or.inl fun _ => Or.inl nofun
  · exact Or.inl fun _ => Or.inl nofun

/-- A change between the start-up load and the first heartbeat is missed, and one whose
fetch fails. -/
theorem not_noneMissed :
    ¬ (∀ (digest : Nat → Option Text), Function.Injective digest →
      ∀ (cache : Option Nat) (revision : Nat) (fetch : Fetch) (events : List SyncEvent),
        (∀ cached ∈ cache, cached ≤ revision) →
          NoneMissed digest revision (startUp cache revision fetch) events) ∧
    ¬ NoneMissed countedDigest 0 (startUp none 0 (.answered true))
      [.answered 0 .failed, .change, .answered 0 .failed, .answered 0 (.answered true)] := by
  constructor
  · intro claimed
    have none_missed := claimed countedDigest countedDigest_injective none 0 (.answered true)
      [.change, .answered 0 .failed, .answered 0 (.answered true)] (by rintro _ ⟨⟩)
    rcases none_missed.1 with ⟨fetched, isFetched, late⟩ | reloads
    · cases isFetched
      exact absurd late (by decide)
    · have fetches : false = true := reloads
      cases fetches
  · rintro ⟨-, missed, -⟩
    rcases missed with ⟨fetched, isFetched, late⟩ | reloads
    · cases isFetched
      exact absurd late (by decide)
    · have fetches : false = true := reloads
      cases fetches

end LuxSwirl.Agent
