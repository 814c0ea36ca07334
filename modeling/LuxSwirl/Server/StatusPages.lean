import LuxSwirl.Lib.Picked
import LuxSwirl.Lib.Sorting
import LuxSwirl.Py.Uuid
import Mathlib.Data.List.Lex

/-!
# Reordering a status page

`StatusPageCoreService.reorder_all_items` (`status_page_core_service.py`) rebuilds a page's
items from the list its editor sends (`admin_status_page_schema.py`). The ids a page names
are stored as `str(uuid)` and stand here as the UUIDs they are.

An entry without an old index is a new check item, and nothing asks whether the check has
an item already: `reorder_conserves_iff` says when the page is conserved all the same.
-/

namespace LuxSwirl.Server
open LuxSwirl.Py LuxSwirl.Lib

def maxItems : Nat := 500

def maxGroupChecks : Nat := 1000

def maxPageChecks : Nat := 10000

/-- An item of a page's `items`. A group has its name, its sort and a filter in `fields`;
one that lists its checks has these. -/
inductive Item where
  | check (checkId : Uuid) (order : Option Nat)
  | group (fields : List (Key × Value)) (checks : Option (List Uuid)) (order : Option Nat)

inductive ItemType where
  | group
  | check
  deriving DecidableEq

/-- One item of the editor's list, as its schema lets it through. -/
structure EditorReorderItem where
  type : ItemType
  oldIndex : Option Nat
  checks : Option (List Uuid) := none
  checkId : Option Text := none
  fewChecks : (checks.getD []).length ≤ maxGroupChecks := by decide
  shortId : (checkId.getD []).length ≤ 64 := by decide
  /-- `_placed_or_named` -/
  placedOrNamed : oldIndex = none → type = .check ∧ checkId ≠ none := by decide

/-- What of a status page a reorder reads and writes. -/
structure StatusPage where
  items : List Item
  updatedAt : Nat

inductive ReorderError where
  /-- What pydantic refuses of the list. -/
  | invalid
  | notFound
  | stale
  /-- `UUID(...)` of a text that is none. -/
  | noUuid
  | value (message : Text)
  | notSaved

/-! ## The reorder -/

namespace Item

def checkId? : Item → Option Uuid
  | .check checkId _ => some checkId
  | .group .. => none

/-- `item.get("checks") or []` -/
def listed : Item → List Uuid
  | .check .. => []
  | .group _ checks _ => checks.getD []

def order : Item → Option Nat
  | .check _ order => order
  | .group _ _ order => order

def withOrder (order : Nat) : Item → Item
  | .check checkId _ => .check checkId order
  | .group fields checks _ => .group fields checks order

/-- A group that lists its checks takes the ones the editor sent. -/
def relisted (checks : Option (List Uuid)) : Item → Item
  | .group fields (some _) order => .group fields (some (checks.getD []).eraseDups) order
  | item => item

end Item

def checkIds (items : List Item) : List Uuid := items.filterMap Item.checkId?

def listedIds (items : List Item) : List Uuid := items.flatMap Item.listed

/-- `_named_check_ids` -/
def namedCheckIds (items : List Item) : List Uuid := (checkIds items ++ listedIds items).eraseDups

def itemCap (stored : List Item) : Nat := max maxItems stored.length

def checkCap (stored : List Item) : Nat := max maxPageChecks (namedCheckIds stored).length

/-- The item an entry leaves, if it leaves one; none when `UUID` raises. -/
def itemOf (stored : List Item) (entry : EditorReorderItem) : Option (Option Item) :=
  match entry.oldIndex with
  | none => (entry.checkId.bind Uuid.ofText).map fun number => some (.check (.ofId number) none)
  | some oldIndex =>
    some (stored[oldIndex]?.map fun item =>
      if entry.type = .group then item.relisted entry.checks else item)

def newItems (stored : List Item) : List EditorReorderItem → Option (List Item)
  | [] => some []
  | entry :: rest => do
    let item ← itemOf stored entry
    let items ← newItems stored rest
    return item.toList ++ items

/-- `sorted(ids)[0]` of the ids as texts. -/
def leastId (ids : List Uuid) : Option Text :=
  (Sorting.ordered (fun id : Text => id.map CodePoint.ord) false (ids.map Uuid.str)).head?

/-- `_reorder_items` -/
def reorderItems (items : List Item) : List Item := items.mapIdx Item.withOrder

/-- The items of a page whose reorder `reorder_all_items` accepts; `checks` are the ids of
the checks there are. -/
def reorderedItems (checks : List Uuid) (stored : List Item) (reordered : List EditorReorderItem) :
    Except ReorderError (List Item) :=
  let placed := reordered.filterMap (·.oldIndex)
  if itemCap stored < reordered.length then
    .error (.value (text "A page holds at most " ++ strOfNat (itemCap stored) ++ text " items"))
  else if ¬ placed.Nodup then .error (.value (text "An item appears in the reorder more than once"))
  else match newItems stored reordered with
    | none => .error .noUuid
    | some items =>
      let named := namedCheckIds items
      let storedIds := namedCheckIds stored
      let newIds := named.filter fun id => decide (id ∉ storedIds)
      let lostIds := storedIds.filter fun id => decide (id ∉ named)
      if checkCap stored < named.length then
        .error (.value (text "A page names at most " ++ strOfNat (checkCap stored) ++ text " checks"))
      else if ¬ ∀ item ∈ leftOut placed stored, ∃ id, item.checkId? = some id ∧ id ∈ listedIds items then
        .error (.value (text "The reorder leaves out an item of the page"))
      else match leastId (newIds.filter fun id => decide (id ∉ checks)) with
        | some missing => .error (.value (text "No check has the id " ++ missing))
        | none =>
          if ∃ id ∈ lostIds, id ∈ checks then
            .error (.value (text "The reorder leaves out a check of the page"))
          else .ok (reorderItems items)

/-- A call of `reorder_all_items`: the checks there are, the time, whether another change
holds the page or the write fails, and the list, unless pydantic refuses it. -/
structure ReorderCall where
  checks : List Uuid
  now : Nat
  held : Bool := false
  saves : Bool := true
  clientItems : Option (List EditorReorderItem)

namespace ReorderCall

def reorderAllItems (call : ReorderCall) (row : Option StatusPage) : Except ReorderError StatusPage :=
  match call.clientItems with
  | none => .error .invalid
  | some reordered =>
    match row with
    | none => .error .notFound
    | some page =>
      if call.held then .error .stale
      else match reorderedItems call.checks page.items reordered with
        | .error error => .error error
        | .ok items => if call.saves then .ok { items, updatedAt := call.now } else .error .notSaved

/-- The row when the call's transaction is over, which a refusal rolls back. -/
def rowAfter (call : ReorderCall) (row : Option StatusPage) : Option StatusPage :=
  match call.reorderAllItems row with
  | .ok page => some page
  | .error _ => row

end ReorderCall

/-! ## What a reorder is to conserve -/

/-- A group without its checks and its order. -/
def Item.bareGroup? : Item → Option (List (Key × Value) × Bool)
  | .check .. => none
  | .group fields checks _ => some (fields, checks.isSome)

structure Conserved (checks : List Uuid) (stored after : List Item) : Prop where
  groups : (after.filterMap Item.bareGroup?).Perm (stored.filterMap Item.bareGroup?)
  /-- A stored check item is there as often as it was, or a group lists its check. -/
  checkItems : ∀ id ∈ checkIds stored, id ∉ listedIds after →
    (checkIds after).count id = (checkIds stored).count id
  kept : ∀ id ∈ namedCheckIds stored, id ∈ checks → id ∈ namedCheckIds after
  exist : ∀ id ∈ namedCheckIds after, id ∉ namedCheckIds stored → id ∈ checks
  orders : after.map Item.order = (List.range after.length).map some
  fewItems : after.length ≤ max maxItems stored.length
  fewChecks : (namedCheckIds after).length ≤ max maxPageChecks (namedCheckIds stored).length

/-! ## The lists that repeat no item -/

/-- The checks the entries without an old index name. -/
def freshIds (reordered : List EditorReorderItem) : List Uuid :=
  reordered.filterMap fun entry =>
    if entry.oldIndex = none then (entry.checkId.bind Uuid.ofText).map Uuid.ofId else none

/-- The checks a group is to list: those its entry sends, or those it has. -/
def EditorReorderItem.listed (stored : List Item) (entry : EditorReorderItem) : List Uuid :=
  match entry.oldIndex.bind fun oldIndex => stored[oldIndex]? with
  | some (.group _ (some checks) _) => if entry.type = .group then entry.checks.getD [] else checks
  | _ => []

/-- No new check item is for a check that has one, unless a group is to list it. -/
def RepeatsNoItem (stored : List Item) (reordered : List EditorReorderItem) : Prop :=
  ∀ id ∈ freshIds reordered, id ∈ checkIds stored → ∃ entry ∈ reordered, id ∈ entry.listed stored

/-! ## The items -/

namespace Item

@[simp] theorem checkId?_withOrder (order : Nat) (item : Item) : (item.withOrder order).checkId? = item.checkId? := by
  cases item <;> rfl

@[simp] theorem listed_withOrder (order : Nat) (item : Item) : (item.withOrder order).listed = item.listed := by
  cases item <;> rfl

@[simp] theorem bareGroup?_withOrder (order : Nat) (item : Item) :
    (item.withOrder order).bareGroup? = item.bareGroup? := by
  cases item <;> rfl

@[simp] theorem order_withOrder (order : Nat) (item : Item) : (item.withOrder order).order = some order := by
  cases item <;> rfl

@[simp] theorem checkId?_relisted (checks : Option (List Uuid)) (item : Item) :
    (item.relisted checks).checkId? = item.checkId? := by
  rcases item with - | ⟨fields, - | listed, order⟩ <;> rfl

@[simp] theorem bareGroup?_relisted (checks : Option (List Uuid)) (item : Item) :
    (item.relisted checks).bareGroup? = item.bareGroup? := by
  rcases item with - | ⟨fields, - | listed, order⟩ <;> rfl

end Item

/-- Only the order of an item is changed. -/
theorem reorderItems_map {β : Type*} {f : Item → β} (same : ∀ order item, f (item.withOrder order) = f item)
    (items : List Item) : (reorderItems items).map f = items.map f := by
  apply List.ext_getElem
  · simp [reorderItems]
  · intro i less within
    simp [reorderItems, same]

theorem checkIds_reorderItems (items : List Item) : checkIds (reorderItems items) = checkIds items := by
  have same := congrArg (List.filterMap id) (reorderItems_map Item.checkId?_withOrder items)
  rwa [List.filterMap_map, List.filterMap_map] at same

theorem listedIds_reorderItems (items : List Item) : listedIds (reorderItems items) = listedIds items := by
  rw [listedIds, List.flatMap_def, reorderItems_map Item.listed_withOrder, ← List.flatMap_def, listedIds]

theorem namedCheckIds_reorderItems (items : List Item) : namedCheckIds (reorderItems items) = namedCheckIds items := by
  rw [namedCheckIds, checkIds_reorderItems, listedIds_reorderItems, namedCheckIds]

theorem bareGroups_reorderItems (items : List Item) :
    (reorderItems items).filterMap Item.bareGroup? = items.filterMap Item.bareGroup? := by
  have same := congrArg (List.filterMap id) (reorderItems_map Item.bareGroup?_withOrder items)
  rwa [List.filterMap_map, List.filterMap_map] at same

theorem orders_reorderItems (items : List Item) :
    (reorderItems items).map Item.order = (List.range (reorderItems items).length).map some := by
  apply List.ext_getElem
  · simp
  · intro i less within
    simp [reorderItems]

/-! ## What an accepted list holds -/

/-- What `reorder_all_items` has found out when it writes the items. -/
structure Accepts (checks : List Uuid) (stored : List Item) (reordered : List EditorReorderItem)
    (items : List Item) : Prop where
  made : newItems stored reordered = some items
  fewItems : reordered.length ≤ itemCap stored
  placedOnce : (reordered.filterMap (·.oldIndex)).Nodup
  fewChecks : (namedCheckIds items).length ≤ checkCap stored
  placedOrListed : ∀ item ∈ leftOut (reordered.filterMap (·.oldIndex)) stored,
    ∃ id, item.checkId? = some id ∧ id ∈ listedIds items
  exist : ∀ id ∈ namedCheckIds items, id ∉ namedCheckIds stored → id ∈ checks
  kept : ∀ id ∈ namedCheckIds stored, id ∉ namedCheckIds items → id ∉ checks

theorem leastId_eq_none {ids : List Uuid} (none : leastId ids = none) : ids = [] := by
  rw [leastId, List.head?_eq_none_iff] at none
  have nothing := (Sorting.ordered_perm (fun id : Text => id.map CodePoint.ord) false (ids.map Uuid.str)).length_eq
  rw [none, List.length_map] at nothing
  exact List.length_eq_zero_iff.mp nothing.symm

theorem accepts_of_reorderedItems {checks : List Uuid} {stored after : List Item}
    {reordered : List EditorReorderItem} (accepted : reorderedItems checks stored reordered = .ok after) :
    ∃ items, Accepts checks stored reordered items ∧ after = reorderItems items := by
  rw [reorderedItems] at accepted
  split_ifs at accepted with many twice
  cases made : newItems stored reordered with
  | none => simp [made] at accepted
  | some items =>
    simp only [made] at accepted
    split_ifs at accepted with manyChecks left lost
    · split at accepted
      · cases accepted
      · cases accepted
    · split at accepted
      · cases accepted
      · rename_i least
        cases accepted
        have allExist := leastId_eq_none least
        refine ⟨items, ⟨made, not_lt.mp many, by simpa using twice, not_lt.mp manyChecks, by simpa using left, ?_, ?_⟩,
          rfl⟩
        · intro id named fresh
          by_contra unknown
          have mem : id ∈ ((namedCheckIds items).filter fun id => decide (id ∉ namedCheckIds stored)).filter
              fun id => decide (id ∉ checks) := by
            simp [named, fresh, unknown]
          rw [allExist] at mem
          cases mem
        · intro id named gone known
          exact lost ⟨id, by simp [named, gone], known⟩

/-! ## Where its items come from -/

/-- A list that could be read has an item for each entry that leaves one. -/
theorem newItems_cons {stored items : List Item} {entry : EditorReorderItem} {rest : List EditorReorderItem}
    (made : newItems stored (entry :: rest) = some items) : ∃ item others,
      itemOf stored entry = some item ∧ newItems stored rest = some others ∧ items = item.toList ++ others := by
  rw [newItems] at made
  obtain ⟨item, isItem, made⟩ := Option.bind_eq_some_iff.mp made
  obtain ⟨others, areOthers, made⟩ := Option.bind_eq_some_iff.mp made
  cases made
  exact ⟨item, others, isItem, areOthers, rfl⟩

/-- An entry leaves its stored item, changed in its list alone, or a new check item. -/
theorem itemOf_cases {stored : List Item} {entry : EditorReorderItem} {item : Option Item}
    (isItem : itemOf stored entry = some item) :
    (∃ oldIndex, entry.oldIndex = some oldIndex ∧ item = stored[oldIndex]?.map fun item =>
        if entry.type = .group then item.relisted entry.checks else item) ∨
      entry.oldIndex = none ∧ ∃ id, (entry.checkId.bind Uuid.ofText).map Uuid.ofId = some id ∧
        item = some (.check id none) := by
  rw [itemOf] at isItem
  cases old : entry.oldIndex with
  | none =>
    simp only [old] at isItem
    obtain ⟨number, isNumber, rfl⟩ := Option.map_eq_some_iff.mp isItem
    exact Or.inr ⟨rfl, Uuid.ofId number, by rw [isNumber]; rfl, rfl⟩
  | some oldIndex =>
    simp only [old] at isItem
    cases isItem
    exact Or.inl ⟨oldIndex, rfl, rfl⟩

/-- What a relisting leaves of an item is that of the items picked and of the new ones. -/
theorem newItems_perm {β : Type*} {f : Item → Option β} (same : ∀ checks item, f (item.relisted checks) = f item)
    {stored items : List Item} {reordered : List EditorReorderItem} (made : newItems stored reordered = some items) :
    (items.filterMap f).Perm ((picked (reordered.filterMap (·.oldIndex)) stored).filterMap f ++
      (freshIds reordered).filterMap fun id => f (.check id none)) := by
  induction reordered generalizing items with
  | nil =>
    cases made
    exact List.Perm.refl _
  | cons entry rest ih =>
    obtain ⟨item, others, isItem, areOthers, rfl⟩ := newItems_cons made
    rcases itemOf_cases isItem with ⟨oldIndex, old, rfl⟩ | ⟨old, id, isId, rfl⟩
    · have fresh : freshIds (entry :: rest) = freshIds rest := by
        simp [freshIds, old]
      have here : (stored[oldIndex]?.map fun item =>
          if entry.type = .group then item.relisted entry.checks else item).toList.filterMap f =
          stored[oldIndex]?.toList.filterMap f := by
        cases stored[oldIndex]? with
        | none => rfl
        | some item =>
          simp only [Option.map_some, Option.toList_some, List.filterMap_cons, List.filterMap_nil]
          split_ifs
          · rw [same]
          · rfl
      have placed : picked ((entry :: rest).filterMap (·.oldIndex)) stored =
          stored[oldIndex]?.toList ++ picked (rest.filterMap (·.oldIndex)) stored := by
        rw [List.filterMap_cons_some old, picked, List.filterMap_cons, picked]
        cases stored[oldIndex]? <;> rfl
      rw [List.filterMap_append, here, fresh, placed, List.filterMap_append, List.append_assoc]
      exact (ih areOthers).append_left _
    · have fresh : freshIds (entry :: rest) = id :: freshIds rest := by
        rw [freshIds, List.filterMap_cons_some (by rw [if_pos old, isId]), freshIds]
      have placed : (entry :: rest).filterMap (·.oldIndex) = rest.filterMap (·.oldIndex) :=
        List.filterMap_cons_none old
      rw [fresh, placed, show (id :: freshIds rest) = [id] ++ freshIds rest from rfl, List.filterMap_append,
        List.filterMap_append]
      refine ((ih areOthers).append_left _).trans ?_
      rw [← List.append_assoc, ← List.append_assoc]
      exact List.Perm.append_right _ List.perm_append_comm

theorem length_newItems_le {stored items : List Item} {reordered : List EditorReorderItem}
    (made : newItems stored reordered = some items) : items.length ≤ reordered.length := by
  induction reordered generalizing items with
  | nil =>
    cases made
    exact le_rfl
  | cons entry rest ih =>
    obtain ⟨item, others, -, areOthers, rfl⟩ := newItems_cons made
    have fewer := ih areOthers
    have one : item.toList.length ≤ 1 := by cases item <;> simp
    rw [List.length_append, List.length_cons]
    omega

/-- The checks the groups of the result list are those the entries have them list. -/
theorem mem_listedIds_newItems {stored items : List Item} {reordered : List EditorReorderItem}
    (made : newItems stored reordered = some items) (id : Uuid) :
    id ∈ listedIds items ↔ ∃ entry ∈ reordered, id ∈ entry.listed stored := by
  induction reordered generalizing items with
  | nil =>
    cases made
    simp [listedIds]
  | cons entry rest ih =>
    obtain ⟨item, others, isItem, areOthers, rfl⟩ := newItems_cons made
    have here : id ∈ listedIds item.toList ↔ id ∈ entry.listed stored := by
      rcases itemOf_cases isItem with ⟨oldIndex, old, rfl⟩ | ⟨old, checkId, -, rfl⟩
      · simp only [EditorReorderItem.listed, old, Option.bind_some]
        rcases stored[oldIndex]? with - | ⟨- | ⟨fields, - | checks, order⟩⟩
        · simp [listedIds]
        · simp [listedIds, Item.relisted, Item.listed]
        · simp [listedIds, Item.relisted, Item.listed]
        · by_cases isGroup : entry.type = .group <;>
            simp [listedIds, Item.relisted, Item.listed, isGroup, List.mem_eraseDups]
      · simp [EditorReorderItem.listed, old, listedIds, Item.listed]
    rw [listedIds, List.flatMap_append, List.mem_append, List.exists_mem_cons_iff]
    exact or_congr here (ih areOthers)

namespace Accepts

variable {checks : List Uuid} {stored items : List Item} {reordered : List EditorReorderItem}

/-- Every stored group is there once; what is left out is no group. -/
theorem groups (accepts : Accepts checks stored reordered items) :
    (items.filterMap Item.bareGroup?).Perm (stored.filterMap Item.bareGroup?) := by
  have parts := newItems_perm Item.bareGroup?_relisted accepts.made
  have whole := (picked_append_leftOut_perm accepts.placedOnce stored).filterMap Item.bareGroup?
  have noGroup : (leftOut (reordered.filterMap (·.oldIndex)) stored).filterMap Item.bareGroup? = [] := by
    rw [List.filterMap_eq_nil_iff]
    intro item left
    obtain ⟨id, isCheck, -⟩ := accepts.placedOrListed item left
    cases item with
    | check => rfl
    | group => cases isCheck
  have noFresh : ((freshIds reordered).filterMap fun id => Item.bareGroup? (.check id none)) = [] :=
    List.filterMap_eq_nil_iff.mpr fun id mem => rfl
  rw [List.filterMap_append, noGroup, List.append_nil] at whole
  rw [noFresh, List.append_nil] at parts
  exact parts.trans whole

/-- A check no group lists has its stored items, and one more for each new one. -/
theorem count_checkIds (accepts : Accepts checks stored reordered items) {id : Uuid}
    (unlisted : id ∉ listedIds items) :
    (checkIds items).count id = (checkIds stored).count id + (freshIds reordered).count id := by
  have parts := newItems_perm Item.checkId?_relisted accepts.made
  have whole := (picked_append_leftOut_perm accepts.placedOnce stored).filterMap Item.checkId?
  have fresh : ((freshIds reordered).filterMap fun id => Item.checkId? (.check id none)) = freshIds reordered :=
    List.filterMap_some
  have none : id ∉ (leftOut (reordered.filterMap (·.oldIndex)) stored).filterMap Item.checkId? := by
    intro mem
    obtain ⟨item, left, isId⟩ := List.mem_filterMap.mp mem
    obtain ⟨other, isOther, listed⟩ := accepts.placedOrListed item left
    rw [isId] at isOther
    cases isOther
    exact unlisted listed
  have inParts := parts.count_eq id
  have inWhole := whole.count_eq id
  rw [fresh, List.count_append] at inParts
  rw [List.filterMap_append, List.count_append, List.count_eq_zero_of_not_mem none] at inWhole
  rw [checkIds, checkIds, inParts, ← inWhole, add_zero]

/-- All that a reorder conserves but the number of a check's items. -/
theorem conserved_iff (accepts : Accepts checks stored reordered items) :
    Conserved checks stored (reorderItems items) ↔ RepeatsNoItem stored reordered := by
  constructor
  · intro conserved id isFresh isStored
    by_contra unlisted
    rw [← mem_listedIds_newItems accepts.made] at unlisted
    have counts := conserved.checkItems id isStored (by rwa [listedIds_reorderItems])
    rw [checkIds_reorderItems, accepts.count_checkIds unlisted] at counts
    have some := List.count_pos_iff.mpr isFresh
    omega
  · intro repeatsNone
    have few := (length_newItems_le accepts.made).trans accepts.fewItems
    refine ⟨?_, ?_, ?_, ?_, orders_reorderItems items, ?_, ?_⟩
    · rw [bareGroups_reorderItems]
      exact accepts.groups
    · intro id isStored unlisted
      rw [listedIds_reorderItems] at unlisted
      have absent : id ∉ freshIds reordered := by
        intro isFresh
        exact unlisted ((mem_listedIds_newItems accepts.made id).mpr (repeatsNone id isFresh isStored))
      rw [checkIds_reorderItems, accepts.count_checkIds unlisted, List.count_eq_zero_of_not_mem absent, add_zero]
    · intro id named known
      rw [namedCheckIds_reorderItems]
      by_contra gone
      exact accepts.kept id named gone known
    · rw [namedCheckIds_reorderItems]
      exact accepts.exist
    · rw [reorderItems, List.length_mapIdx]
      exact few
    · rw [namedCheckIds_reorderItems]
      exact accepts.fewChecks

end Accepts

/-! ## The call -/

theorem ReorderCall.accepts_of_ok {call : ReorderCall} {page after : StatusPage} {reordered : List EditorReorderItem}
    (isList : call.clientItems = some reordered) (accepted : call.reorderAllItems (some page) = .ok after) :
    ∃ items, Accepts call.checks page.items reordered items ∧ after.items = reorderItems items := by
  simp only [reorderAllItems, isList] at accepted
  cases held : call.held with
  | true => simp [held] at accepted
  | false =>
    cases result : reorderedItems call.checks page.items reordered with
    | error error => simp [held, result] at accepted
    | ok items =>
      simp only [held, result, Bool.false_eq_true, if_false] at accepted
      split_ifs at accepted
      cases accepted
      exact accepts_of_reorderedItems result

/-- **A reorder conserves the page.** A refused one leaves it unchanged; an accepted one
keeps its groups, its check items and its checks, within their bounds, just when none of
its new check items is for a check that has one and is in no group's list. -/
theorem reorder_conserves_iff (call : ReorderCall) (row : Option StatusPage) :
    (∀ error, call.reorderAllItems row = .error error → call.rowAfter row = row) ∧
      ∀ page reordered after, row = some page → call.clientItems = some reordered →
        call.reorderAllItems row = .ok after → call.rowAfter row = some after ∧
          (Conserved call.checks page.items after.items ↔ RepeatsNoItem page.items reordered) := by
  constructor
  · intro error refused
    rw [ReorderCall.rowAfter, refused]
  · rintro page reordered after rfl isList accepted
    obtain ⟨items, accepts, isAfter⟩ := ReorderCall.accepts_of_ok isList accepted
    rw [ReorderCall.rowAfter, accepted, isAfter]
    exact ⟨rfl, accepts.conserved_iff⟩

/-- A page with one check. -/
def oneCheckPage : StatusPage where
  items := [.check (Uuid.ofId 7) (some 0)]
  updatedAt := 0

/-- The page as it is, and its check once more as one dragged out of a group. -/
def repeatedCheck : List EditorReorderItem :=
  [{ type := .check, oldIndex := some 0 },
    { type := .check, oldIndex := none, checkId := some (Uuid.ofId 7).str }]

/-- The check stands on the page twice. -/
theorem check_item_doubled : ∃ (call : ReorderCall) (after : StatusPage), call.clientItems = some repeatedCheck ∧
    call.reorderAllItems (some oneCheckPage) = .ok after ∧
      checkIds after.items = [Uuid.ofId 7, Uuid.ofId 7] ∧
        ¬ Conserved call.checks oneCheckPage.items after.items := by
  refine ⟨{ checks := [Uuid.ofId 7], now := 1, clientItems := some repeatedCheck }, _, rfl, rfl, by decide +kernel, ?_⟩
  intro conserved
  have same := conserved.checkItems (Uuid.ofId 7) (by decide +kernel) (by decide +kernel)
  revert same
  decide +kernel

/-- The page alone is conserved. -/
theorem page_alone_conserved : Conserved [Uuid.ofId 7] oneCheckPage.items [.check (Uuid.ofId 7) (some 0)] :=
  (((reorder_conserves_iff
    { checks := [Uuid.ofId 7], now := 1, clientItems := some [{ type := .check, oldIndex := some 0 }] }
    (some oneCheckPage)).2 oneCheckPage _ ⟨[.check (Uuid.ofId 7) (some 0)], 1⟩ rfl rfl (by rfl)).2.mpr
    (by intro id isFresh; cases isFresh))

end LuxSwirl.Server
