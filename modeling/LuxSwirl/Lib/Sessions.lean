import LuxSwirl.Lib.ReadCommitted
import Mathlib.Logic.Function.Basic

/-!
# Sessions on one row

Many sessions work on one stored row, each in transactions of its own. Let something
be known of every session, with what is committed and the version it has written
(`Fit`). A statement of one session keeps it for all of them: it stays (`Fit.goOn`),
writes (`Fit.write`), commits (`Fit.commit`) or rolls back (`Fit.rollback`). Only a
commit concerns the other sessions.
-/

namespace LuxSwirl.Lib

variable {Id S Row : Type*} [DecidableEq Id]

/-- What is known of a session fits it: of each, as it is, with what is committed and
the version it has written. -/
def Fit (fits : Id → S → Row → Option Row → Prop) (stored : Stored Id Row) (sessions : Id → S) : Prop :=
  ∀ id, fits id (sessions id) stored.committed (stored.own id)

namespace Fit

variable {fits fits' : Id → S → Row → Option Row → Prop} {stored : Stored Id Row} {sessions : Id → S}
  {id : Id} {session : S} {old row : Row}

theorem mono (fit : Fit fits stored sessions)
    (weaker : ∀ id session committed own, fits id session committed own → fits' id session committed own) :
    Fit fits' stored sessions := fun id => weaker _ _ _ _ (fit id)

/-- To fit all sessions, fit the one that moves and the others. -/
theorem of_update {stored : Stored Id Row} (here : fits id session stored.committed (stored.own id))
    (others : ∀ other, other ≠ id → fits other (sessions other) stored.committed (stored.own other)) :
    Fit fits stored (Function.update sessions id session) := by
  intro other
  by_cases same : other = id
  · subst same
    rw [Function.update_self]
    exact here
  · rw [Function.update_of_ne same]
    exact others other same

theorem goOn (fit : Fit fits stored sessions) (here : fits id session stored.committed (stored.own id)) :
    Fit fits stored (Function.update sessions id session) :=
  of_update here fun other _ => fit other

theorem write (fit : Fit fits stored sessions) (found : stored.found id = some old)
    (here : fits id session stored.committed (some row)) :
    Fit fits (stored.write id row) (Function.update sessions id session) := by
  refine of_update (by rwa [Stored.own_write]) fun other apart => ?_
  have before := fit other
  rw [Stored.own_other_of_found found apart] at before
  rw [Stored.own_other (Stored.own_write id row stored) apart]
  exact before

theorem commit (fit : Fit fits stored sessions)
    (idle : stored.own id = none → fits id session stored.committed none)
    (here : ∀ row, stored.own id = some row → fits id session row none)
    (others : ∀ row, stored.own id = some row → ∀ other, other ≠ id →
      fits other (sessions other) stored.committed none → fits other (sessions other) row none) :
    Fit fits (stored.commit id) (Function.update sessions id session) := by
  cases own : stored.own id with
  | none =>
    rw [Stored.commit_of_own_none own]
    refine fit.goOn ?_
    rw [own]
    exact idle own
  | some row =>
    rw [Stored.commit_of_own own]
    refine of_update (here row own) fun other apart => ?_
    have before := fit other
    rw [Stored.own_other own apart] at before
    exact others row own other apart before

theorem rollback (fit : Fit fits stored sessions) (here : fits id session stored.committed none) :
    Fit fits (stored.rollback id) (Function.update sessions id session) := by
  cases own : stored.own id with
  | none =>
    rw [Stored.rollback_of_own_none own]
    refine fit.goOn ?_
    rwa [own]
  | some row =>
    rw [Stored.rollback_of_own own]
    refine of_update here fun other apart => ?_
    have before := fit other
    rw [Stored.own_other own apart] at before
    exact before

end Fit

end LuxSwirl.Lib
