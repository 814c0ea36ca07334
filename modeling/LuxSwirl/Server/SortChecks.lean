import LuxSwirl.Lib.Sorting
import LuxSwirl.Py.Text
import Mathlib.Algebra.Order.Ring.Rat
import Mathlib.Data.List.Lex
import Mathlib.Data.Prod.Lex
import Mathlib.Order.WithBot

/-!
# Sorting a group's checks

`DashboardRender.sort_checks` (`_dashboard_render.py`) sorts the checks of a group by one
criterion and those that are equal in it by a second: the fastest first for the status, a
check that is up first for the others.

One `reverse` turns both, a latency of 0 is taken for none, and a silent check has no
status that compares with another's. `sorts_iff` says which lists come out as they should
all the same. A check without a latency counts as one of 999999 ms, and one without an
uptime as one of -1 %, in the order that is asked for as in the code.
-/

namespace LuxSwirl.Server
open LuxSwirl.Py LuxSwirl.Lib

/-- What of a row the sort reads. -/
structure DashboardCheck where
  displayName : Text
  latestSuccess : Option Bool
  latencyMs : Option ℚ
  uptime24h : Option ℚ
  deriving DecidableEq

inductive SortBy where
  | manual
  | name
  | status
  | latency
  | uptime
  deriving DecidableEq

inductive SortDirection where
  | asc
  | desc
  deriving DecidableEq

/-! ## The sort -/

namespace DashboardCheck

/-- `not c.latest_success` -/
def notUp (check : DashboardCheck) : Bool := decide (check.latestSuccess ≠ some true)

def silent (check : DashboardCheck) : Bool := check.latestSuccess.isNone

/-- The characters of `c.display_name.lower()` as they compare. -/
def nameKey (lower : Text → Text) (check : DashboardCheck) : List Nat := (lower check.displayName).map CodePoint.ord

/-- `c.latency_ms if c.latency_ms else 999999` -/
def latencyKey (check : DashboardCheck) : ℚ :=
  match check.latencyMs with
  | none => 999999
  | some latency => if latency = 0 then 999999 else latency

def uptimeKey (check : DashboardCheck) : ℚ := check.uptime24h.getD (-1)

end DashboardCheck

/-- The branches of `sort_checks`, or none for a `TypeError`: `None` compares with no bool. -/
def sortCriterion (lower : Text → Text) (checks : List DashboardCheck) (reverse : Bool) :
    SortBy → Option (List DashboardCheck)
  | .manual => some checks
  | .name => Sorting.sorted (Sorting.lessBy (fun _ => ()) fun c => toLex (c.nameKey lower, c.notUp)) reverse checks
  | .status =>
    Sorting.sorted (Sorting.lessBy DashboardCheck.silent fun c => toLex (c.latestSuccess.getD false, c.latencyKey))
      reverse checks
  | .latency => Sorting.sorted (Sorting.lessBy (fun _ => ()) fun c => toLex (c.latencyKey, c.notUp)) reverse checks
  | .uptime => Sorting.sorted (Sorting.lessBy (fun _ => ()) fun c => toLex (c.uptimeKey, c.notUp)) reverse checks

def sortChecks (lower : Text → Text) (checks : List DashboardCheck) (sortBy : SortBy) (sortDirection : SortDirection) :
    Option (List DashboardCheck) :=
  if sortBy = .manual ∨ checks = [] then some checks
  else sortCriterion lower checks (decide (sortDirection = .desc)) sortBy

/-! ## The order asked for -/

/-- One row may stand before another: the first criterion in the direction asked, then the
second as it is. -/
def MayPrecede {κ σ : Type*} [LE κ] [LE σ] (direction : SortDirection) (primary : DashboardCheck → κ)
    (secondary : DashboardCheck → σ) (a b : DashboardCheck) : Prop :=
  (match direction with
    | .asc => primary a ≤ primary b
    | .desc => primary b ≤ primary a) ∧
  (primary a = primary b → secondary a ≤ secondary b)

/-- A row's latency, 0 included. -/
def DashboardCheck.latency (check : DashboardCheck) : ℚ := check.latencyMs.getD 999999

/-- A row's status: silent, down, up. -/
def DashboardCheck.status (check : DashboardCheck) : WithBot Bool :=
  match check.latestSuccess with
  | none => ⊥
  | some up => WithBot.some up

/-- The result has the rows in the order asked for. -/
def AsAsked (lower : Text → Text) (sortBy : SortBy) (direction : SortDirection) (checks result : List DashboardCheck) :
    Prop :=
  match sortBy with
  | .manual => result = checks
  | .name => result.Pairwise (MayPrecede direction (DashboardCheck.nameKey lower) DashboardCheck.notUp)
  | .status => result.Pairwise (MayPrecede direction DashboardCheck.status DashboardCheck.latency)
  | .latency => result.Pairwise (MayPrecede direction DashboardCheck.latency DashboardCheck.notUp)
  | .uptime => result.Pairwise (MayPrecede direction DashboardCheck.uptimeKey DashboardCheck.notUp)

/-- The sort raises nothing, keeps the rows and puts them in order. -/
def Sorts (lower : Text → Text) (sortBy : SortBy) (direction : SortDirection) (checks : List DashboardCheck) : Prop :=
  ∃ result, sortChecks lower checks sortBy direction = some result ∧ result.Perm checks ∧
    AsAsked lower sortBy direction checks result

/-! ## The lists that are sorted so -/

/-- The latency is 0, which the code takes for none. -/
def DashboardCheck.zeroLatency (check : DashboardCheck) : Bool := decide (check.latencyMs = some 0)

/-- Of two rows of one status, `a` the earlier in the list, the faster one comes first. -/
def FasterFirst (direction : SortDirection) (a b : DashboardCheck) : Prop :=
  match direction, a.zeroLatency, b.zeroLatency with
  | .asc, true, false => b.latency < 0 ∨ 999999 ≤ b.latency
  | .asc, false, true => a.latency < 0 ∨ 999999 < a.latency
  | .asc, _, _ => True
  | .desc, true, false => 0 < b.latency ∧ b.latency ≤ 999999
  | .desc, false, true => 0 < a.latency ∧ a.latency < 999999
  | .desc, _, _ => a.latency = b.latency

/-- Of two rows, `a` the earlier in the list, the one of less latency comes first, or last. -/
def LatencyFirst (direction : SortDirection) (a b : DashboardCheck) : Prop :=
  match direction, a.zeroLatency, b.zeroLatency with
  | .asc, true, false => b.latency < 0 ∨ 999999 < b.latency ∨ b.latency = 999999 ∧ a.notUp ≤ b.notUp
  | .asc, false, true => a.latency < 0 ∨ 999999 < a.latency ∨ a.latency = 999999 ∧ b.notUp < a.notUp
  | .asc, _, _ => True
  | .desc, true, false => b.latency < 0 ∨ 999999 < b.latency ∨ b.latency = 999999 ∧ a.notUp < b.notUp
  | .desc, false, true => a.latency < 0 ∨ 999999 < a.latency ∨ a.latency = 999999 ∧ b.notUp ≤ a.notUp
  | .desc, _, _ => a.latency = b.latency → a.notUp = b.notUp

/-- Descending, no two rows of one key differ in being up. -/
def UpTogether {κ : Type*} (direction : SortDirection) (key : DashboardCheck → κ) (a b : DashboardCheck) : Prop :=
  match direction with
  | .asc => True
  | .desc => key a = key b → a.notUp = b.notUp

def Sortable (lower : Text → Text) (sortBy : SortBy) (direction : SortDirection) (checks : List DashboardCheck) : Prop :=
  match sortBy with
  | .manual => True
  | .name => checks.Pairwise (UpTogether direction (DashboardCheck.nameKey lower))
  | .status =>
    Sorting.Alike DashboardCheck.silent checks ∧
      checks.Pairwise fun a b => a.latestSuccess = b.latestSuccess → FasterFirst direction a b
  | .latency => checks.Pairwise (LatencyFirst direction)
  | .uptime => checks.Pairwise (UpTogether direction DashboardCheck.uptimeKey)

/-! ## Two rows -/

section Rows

variable {a b : DashboardCheck}

/-- The two readings of a row's latency. -/
theorem latency_cases (check : DashboardCheck) :
    (check.zeroLatency = true ∧ check.latencyKey = 999999 ∧ check.latency = 0) ∨
      (check.zeroLatency = false ∧ check.latencyKey = check.latency ∧ check.latency ≠ 0) := by
  rw [DashboardCheck.zeroLatency, DashboardCheck.latencyKey, DashboardCheck.latency]
  cases known : check.latencyMs with
  | none => exact .inr ⟨rfl, rfl, by decide⟩
  | some latency =>
    by_cases zero : latency = 0
    · subst zero
      exact .inl ⟨rfl, if_pos rfl, rfl⟩
    · exact .inr ⟨decide_eq_false fun same => zero (Option.some.inj same), if_neg zero, zero⟩

/-- A key that is read as it is meant puts two rows right, descending when they do not
differ in the second criterion alone. -/
theorem upTogether_iff {κ : Type*} [LinearOrder κ] (key : DashboardCheck → κ) (direction : SortDirection) :
    (if (if decide (direction = .desc) then toLex (key b, b.notUp) ≤ toLex (key a, a.notUp)
        else toLex (key a, a.notUp) ≤ toLex (key b, b.notUp))
      then MayPrecede direction key DashboardCheck.notUp a b else MayPrecede direction key DashboardCheck.notUp b a) ↔
      UpTogether direction key a b := by
  cases direction with
  | asc =>
    simp only [MayPrecede, UpTogether, Prod.Lex.toLex_le_toLex, reduceCtorEq, decide_false, Bool.false_eq_true, if_false]
    grind
  | desc =>
    simp only [MayPrecede, UpTogether, Prod.Lex.toLex_le_toLex, decide_true, if_true]
    grind

/-- A latency of 0 is read as 999999, and every other as it is. -/
theorem latencyFirst_iff (direction : SortDirection) :
    (if (if decide (direction = .desc) then toLex (b.latencyKey, b.notUp) ≤ toLex (a.latencyKey, a.notUp)
        else toLex (a.latencyKey, a.notUp) ≤ toLex (b.latencyKey, b.notUp))
      then MayPrecede direction DashboardCheck.latency DashboardCheck.notUp a b
      else MayPrecede direction DashboardCheck.latency DashboardCheck.notUp b a) ↔ LatencyFirst direction a b := by
  rcases latency_cases a with ⟨zeroA, keyA, latencyA⟩ | ⟨zeroA, keyA, latencyA⟩
  all_goals rcases latency_cases b with ⟨zeroB, keyB, latencyB⟩ | ⟨zeroB, keyB, latencyB⟩
  all_goals
    cases direction
    all_goals
      simp only [MayPrecede, LatencyFirst, Prod.Lex.toLex_le_toLex, zeroA, zeroB, keyA, keyB, reduceCtorEq,
        decide_false, decide_true, Bool.false_eq_true, if_false, if_true]
      grind

theorem fasterFirst_iff (direction : SortDirection) :
    (if (if decide (direction = .desc) then b.latencyKey ≤ a.latencyKey else a.latencyKey ≤ b.latencyKey)
      then a.latency ≤ b.latency else b.latency ≤ a.latency) ↔ FasterFirst direction a b := by
  rcases latency_cases a with ⟨zeroA, keyA, latencyA⟩ | ⟨zeroA, keyA, latencyA⟩
  all_goals rcases latency_cases b with ⟨zeroB, keyB, latencyB⟩ | ⟨zeroB, keyB, latencyB⟩
  all_goals
    cases direction
    all_goals
      simp only [FasterFirst, zeroA, zeroB, keyA, keyB, reduceCtorEq, decide_false, decide_true, Bool.false_eq_true,
        if_false, if_true]
      grind

/-- Rows that compare have their statuses in the order of what stands for them. -/
theorem status_lt_iff (alike : a.silent = b.silent) :
    (a.status < b.status ↔ a.latestSuccess.getD false < b.latestSuccess.getD false) ∧
      (a.status = b.status ↔ a.latestSuccess.getD false = b.latestSuccess.getD false) ∧
      (a.status = b.status ↔ a.latestSuccess = b.latestSuccess) := by
  rw [DashboardCheck.silent, DashboardCheck.silent] at alike
  rw [DashboardCheck.status, DashboardCheck.status]
  cases isA : a.latestSuccess with
  | none =>
    rw [isA, Option.isNone_none, eq_comm, Option.isNone_iff_eq_none] at alike
    rw [alike]
    exact ⟨iff_of_false (lt_irrefl _) (lt_irrefl _), iff_of_true rfl rfl, iff_of_true rfl rfl⟩
  | some x =>
    cases isB : b.latestSuccess with
    | none =>
      rw [isA, isB] at alike
      cases alike
    | some y => exact ⟨WithBot.coe_lt_coe, WithBot.coe_inj, WithBot.coe_inj.trans Option.some_inj.symm⟩

theorem statusFirst_iff (alike : a.silent = b.silent) (direction : SortDirection) :
    (if (if decide (direction = .desc)
          then toLex (b.latestSuccess.getD false, b.latencyKey) ≤ toLex (a.latestSuccess.getD false, a.latencyKey)
          else toLex (a.latestSuccess.getD false, a.latencyKey) ≤ toLex (b.latestSuccess.getD false, b.latencyKey))
      then MayPrecede direction DashboardCheck.status DashboardCheck.latency a b
      else MayPrecede direction DashboardCheck.status DashboardCheck.latency b a) ↔
      (a.latestSuccess = b.latestSuccess → FasterFirst direction a b) := by
  obtain ⟨below, same, equal⟩ := status_lt_iff alike
  obtain ⟨above, -, -⟩ := status_lt_iff alike.symm
  rw [← fasterFirst_iff]
  cases direction with
  | asc =>
    simp only [MayPrecede, Prod.Lex.toLex_le_toLex, reduceCtorEq, decide_false, Bool.false_eq_true, if_false]
    grind
  | desc =>
    simp only [MayPrecede, Prod.Lex.toLex_le_toLex, decide_true, if_true]
    grind

end Rows

/-! ## The lists -/

section Lists

variable (lower : Text → Text) (direction : SortDirection) (checks : List DashboardCheck)

theorem alike_unit : Sorting.Alike (fun _ => ()) checks := fun _ _ _ _ => rfl

/-- An empty list is sorted as any other is. -/
theorem sortChecks_eq (sortBy : SortBy) :
    sortChecks lower checks sortBy direction = sortCriterion lower checks (decide (direction = .desc)) sortBy := by
  rw [sortChecks]
  split_ifs with asIs
  · rcases asIs with manual | empty
    · rw [manual]
      rfl
    · rw [empty]
      cases direction <;> cases sortBy <;> rfl
  · rfl

end Lists

/-- **The sort raises nothing and puts the rows in the order asked for** by hand, for a
name or an uptime when it is ascending or no two rows of one value differ in being up, and
for a status or a latency as far as `Sortable` says. -/
theorem sorts_iff (lower : Text → Text) (sortBy : SortBy) (direction : SortDirection) (checks : List DashboardCheck) :
    Sorts lower sortBy direction checks ↔ Sortable lower sortBy direction checks := by
  cases sortBy with
  | manual => exact iff_of_true ⟨checks, sortChecks_eq lower direction checks .manual, List.Perm.refl _, rfl⟩ trivial
  | name =>
    rw [Sorts, sortChecks_eq]
    refine Sorting.sorted_pairwise_iff.trans ?_
    rw [and_iff_right (alike_unit checks)]
    simp only [upTogether_iff]
    exact Iff.rfl
  | status =>
    rw [Sorts, sortChecks_eq]
    refine Sorting.sorted_pairwise_iff.trans ?_
    apply and_congr_right
    intro alike
    apply List.Pairwise.iff_of_mem
    intro a b memA memB
    exact statusFirst_iff (alike a memA b memB) direction
  | latency =>
    rw [Sorts, sortChecks_eq]
    refine Sorting.sorted_pairwise_iff.trans ?_
    rw [and_iff_right (alike_unit checks)]
    simp only [latencyFirst_iff]
    exact Iff.rfl
  | uptime =>
    rw [Sorts, sortChecks_eq]
    refine Sorting.sorted_pairwise_iff.trans ?_
    rw [and_iff_right (alike_unit checks)]
    simp only [upTogether_iff]
    exact Iff.rfl

/-- A silent check beside one that is up, and two checks of one name, descending. -/
theorem silent_check_raises :
    sortChecks id [{ displayName := [], latestSuccess := none, latencyMs := none, uptime24h := none },
        { displayName := [], latestSuccess := some true, latencyMs := some 20, uptime24h := some 100 }] .status .asc =
      none ∧
    ¬ Sorts id .name .desc
      [{ displayName := text "web", latestSuccess := some true, latencyMs := some 20, uptime24h := some 100 },
        { displayName := text "web", latestSuccess := some false, latencyMs := none, uptime24h := some 90 }] := by
  constructor
  · rfl
  · rw [sorts_iff]
    intro sortable
    have together := List.rel_of_pairwise_cons sortable List.mem_cons_self rfl
    cases together

end LuxSwirl.Server
