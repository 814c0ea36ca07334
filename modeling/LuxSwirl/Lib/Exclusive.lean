import Mathlib.Logic.Function.Basic
import Mathlib.Tactic.SplitIfs

/-!
# One lock

Some sessions are inside a section that one lock guards: each of these holds the lock.
A session enters with a free lock (`Exclusive.acquire`), stays (`Exclusive.goOn`) and
leaves (`Exclusive.leave`). No two sessions are inside (`Exclusive.alone`).
-/

namespace LuxSwirl.Lib

variable {Id S : Type*} [DecidableEq Id]

/-- The lock, once its holder has let go of it. -/
def release (id : Id) (lock : Option Id) : Option Id := if lock = some id then none else lock

/-- Whoever is inside holds the lock. -/
def Exclusive (inside : S → Prop) (lock : Option Id) (sessions : Id → S) : Prop :=
  ∀ id, inside (sessions id) → lock = some id

namespace Exclusive

variable {inside : S → Prop} {lock : Option Id} {sessions : Id → S} {id other : Id} {session : S}

omit [DecidableEq Id] in
theorem of_outside (outside : ∀ id, ¬ inside (sessions id)) : Exclusive inside lock sessions :=
  fun id isInside => absurd isInside (outside id)

omit [DecidableEq Id] in
/-- **Mutual exclusion.** -/
theorem alone (exclusive : Exclusive inside lock sessions) (here : inside (sessions id))
    (there : inside (sessions other)) : other = id := by
  have held : lock = some id := exclusive id here
  rw [exclusive other there] at held
  exact Option.some.inj held

omit [DecidableEq Id] in
theorem outside_of_free (exclusive : Exclusive inside none sessions) (id : Id) : ¬ inside (sessions id) := by
  intro isInside
  cases exclusive id isInside

theorem acquire (exclusive : Exclusive inside none sessions) :
    Exclusive inside (some id) (Function.update sessions id session) := by
  intro other isInside
  by_cases same : other = id
  · rw [same]
  · rw [Function.update_of_ne same] at isInside
    exact absurd isInside (exclusive.outside_of_free other)

/-- A session that is inside after a statement was so before it. -/
theorem goOn (exclusive : Exclusive inside lock sessions) (here : inside session → inside (sessions id)) :
    Exclusive inside lock (Function.update sessions id session) := by
  intro other isInside
  by_cases same : other = id
  · subst same
    rw [Function.update_self] at isInside
    exact exclusive other (here isInside)
  · rw [Function.update_of_ne same] at isInside
    exact exclusive other isInside

theorem leave (exclusive : Exclusive inside lock sessions) (outside : ¬ inside session) :
    Exclusive inside (release id lock) (Function.update sessions id session) := by
  intro other isInside
  by_cases same : other = id
  · subst same
    rw [Function.update_self] at isInside
    exact absurd isInside outside
  · rw [Function.update_of_ne same] at isInside
    have held : lock = some other := exclusive other isInside
    rw [release, if_neg]
    · exact held
    · rw [held]
      exact fun holds => same (Option.some.inj holds)

end Exclusive

end LuxSwirl.Lib
