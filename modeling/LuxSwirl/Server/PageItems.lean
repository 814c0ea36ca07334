import LuxSwirl.Lib.Distinct
import LuxSwirl.Server.CheckExports
import LuxSwirl.Server.SortChecks
import LuxSwirl.Server.StatusPages

/-!
# The edits of a status page

What `status_page_core_service.py` and `admin_status_page_core_service.py` make of a page,
each on the row its request has locked: `PageEdit.outcome`. The values of a request are as
its schema lets them through (`admin_status_page_schema.py`).

Whatever is edited, the page holds what a valid list of items stores, within the caps, of
checks that there have been (`WellFormed`).
-/

namespace LuxSwirl.Server
open LuxSwirl.Py LuxSwirl.Lib

/-! ## The schema's items -/

/-- `refuse_control_chars` does not raise. -/
def plainText (s : Text) : Bool := !s.any isRefused

structure GroupName where
  value : Text
  bounds : 1 ≤ value.length ∧ value.length ≤ 255 := by decide
  plain : plainText value = true := by decide

structure GroupFilter where
  agentId : Option Uuid := none
  checkType : Option CheckType := none
  tags : List Text := []
  search : Option Text := none
  fewTags : tags.length ≤ 50 := by decide
  plainTags : ∀ tag ∈ tags, tag.length ≤ maxTagLength ∧ plainText tag = true := by simp
  plainSearch : ∀ asked ∈ search, asked.length ≤ 255 ∧ plainText asked = true := by simp

/-- `_checks_or_filter` -/
inductive GroupShows where
  | checks (ids : List Uuid) (few : ids.length ≤ maxGroupChecks)
  | filter (filter : GroupFilter)

structure GroupItem where
  name : GroupName
  collapsed : Bool := false
  sortBy : SortBy := .manual
  sortDirection : SortDirection := .asc
  shows : GroupShows

inductive StatusPageItem where
  | check (checkId : Uuid)
  | group (group : GroupItem)

/-- `named_check_ids` -/
def schemaCheckIds (items : List StatusPageItem) : List Uuid :=
  (items.flatMap fun
    | .check checkId => [checkId]
    | .group { shows := .checks ids _, .. } => ids
    | .group { shows := .filter _, .. } => []).eraseDups

/-- The agents its filters name. -/
def filterAgentIds (items : List StatusPageItem) : List Uuid :=
  items.filterMap fun
    | .group { shows := .filter filter, .. } => filter.agentId
    | _ => none

/-! ## How they are stored -/

def SortBy.value : SortBy → String
  | .manual => "manual"
  | .name => "name"
  | .status => "status"
  | .latency => "latency"
  | .uptime => "uptime"

def SortDirection.value : SortDirection → String
  | .asc => "asc"
  | .desc => "desc"

/-- `model_dump(mode="json", exclude_none=True)` -/
def GroupFilter.dump (filter : GroupFilter) : Value :=
  .dict ((filter.agentId.map fun id => (fieldKey "agent_id", Value.str id.str)).toList ++
    (filter.checkType.map fun checkType => (fieldKey "check_type", Value.str (text checkType.value))).toList ++
    (fieldKey "tags", Value.list (filter.tags.map .str)) ::
      (filter.search.map fun search => (fieldKey "search", Value.str search)).toList)

/-- What a group is stored with beside its checks and its order. -/
def groupFields (name : GroupName) (collapsed : Bool) (sortBy : SortBy) (sortDirection : SortDirection)
    (filter : Option GroupFilter) : List (Key × Value) :=
  [(fieldKey "name", Value.str name.value), (fieldKey "collapsed", Value.bool collapsed),
      (fieldKey "sort_by", Value.str (text sortBy.value)),
      (fieldKey "sort_direction", Value.str (text sortDirection.value))] ++
    (filter.map fun filter => (fieldKey "filter", filter.dump)).toList

def GroupItem.filter? (group : GroupItem) : Option GroupFilter :=
  match group.shows with
  | .checks .. => none
  | .filter filter => some filter

/-- `dict.fromkeys` of the checks a group lists. -/
def GroupItem.checks? (group : GroupItem) : Option (List Uuid) :=
  match group.shows with
  | .checks ids _ => some ids.eraseDups
  | .filter _ => none

def StatusPageItem.stored (order : Nat) : StatusPageItem → Item
  | .check checkId => .check checkId (some order)
  | .group item =>
    .group (groupFields item.name item.collapsed item.sortBy item.sortDirection item.filter?) item.checks? (some order)

/-- `_stored_items` -/
def storedItems (items : List StatusPageItem) : List Item := items.mapIdx StatusPageItem.stored

/-! ## The row -/

abbrev PageConfig := Option (List (Key × Value))

structure PageRow extends StatusPage where
  name : Text
  slug : Text
  description : Option Text
  isPublic : Bool
  config : PageConfig

/-- `ALLOWED_TIME_RANGES` -/
def allowedTimeRanges : List Int := [30, 60, 120, 240, 480, 1440]

abbrev StatusBarMinutes := { minutes : Int // minutes ∈ allowedTimeRanges }

/-- `_normalize_status_bar_minutes` -/
def normalizeStatusBarMinutes (minutes : Int) : StatusBarMinutes :=
  if allowed : minutes ∈ allowedTimeRanges then ⟨minutes, allowed⟩ else ⟨30, by decide⟩

/-- The page's other config is kept. -/
def withMinutes (config : PageConfig) (minutes : StatusBarMinutes) : PageConfig :=
  some (Fields.set (fieldKey "status_bar_minutes") (.int minutes) (config.getD []))

/-- A new page, of the admin API or the web form, whose pages have no items yet. -/
structure PageCreate where
  name : Text
  slug : Text
  description : Option Text
  isPublic : Bool
  statusBarMinutes : StatusBarMinutes
  items : List StatusPageItem
  fewItems : items.length ≤ maxItems
  fewChecks : (schemaCheckIds items).length ≤ maxPageChecks

def PageCreate.row (now : Nat) (data : PageCreate) : PageRow where
  items := storedItems data.items
  updatedAt := now
  name := data.name
  slug := data.slug
  description := data.description
  isPublic := data.isPublic
  config := withMinutes none data.statusBarMinutes

/-- The fields an update sets. -/
structure PageFields where
  name : Option Text := none
  slug : Option Text := none
  description : Option (Option Text) := none
  isPublic : Option Bool := none

/-! ## The requests -/

/-- The checks and the agents there were when a request looked. -/
structure Lookup where
  checks : List Uuid
  agents : List Uuid

inductive PageRequest where
  | addCheck (checkId : Uuid) (order : Option Nat)
  | addGroup (name : GroupName) (filter : Option GroupFilter) (order : Option Nat) (collapsed : Bool)
  | removeItem (index : Int)
  | reorderAllItems (clientItems : List EditorReorderItem)
  | renameGroup (itemIndex : Int) (newName : GroupName)
  | updateGroupFilters (itemIndex : Int) (filter : GroupFilter)
  | updateGroupSort (itemIndex : Int) (sortBy : SortBy) (sortDirection : SortDirection)
  /-- The web form's update. -/
  | updateStatusPage (fields : PageFields) (statusBarMinutes : Int)
  /-- The admin API's. -/
  | updatePage (fields : PageFields) (statusBarMinutes : Option StatusBarMinutes)
  | replaceItems (items : List StatusPageItem)
  | deleteStatusPage

namespace PageRequest

/-- The routes of these depend on `drawn_page_is_current`. -/
def namesPosition : PageRequest → Bool
  | .removeItem _ | .reorderAllItems _ | .renameGroup .. | .updateGroupFilters .. | .updateGroupSort .. => true
  | _ => false

/-- The page is read before it is locked, for its config. -/
def readsConfig : PageRequest → Bool
  | .updateStatusPage .. => true
  | .updatePage _ minutes => minutes.isSome
  | _ => false

/-- Checks are looked up while the page is locked. -/
def looksUp : PageRequest → Bool
  | .addCheck .. | .reorderAllItems _ | .replaceItems _ => true
  | _ => false

end PageRequest

inductive PageError where
  | notFound
  | stale (message : Text)
  | duplicate (message : Text)
  | value (message : Text)
  | validation (message : Text)
  | reorder (error : ReorderError)

/-- A request with what it knows: the version it was drawn from, and what it has read. -/
structure Editing where
  request : PageRequest
  drawn : Option Nat := none
  config : Option PageConfig := none
  seen : Option Lookup := none

/-- What a request is about to write, at its time; another page may have the slug it sets. -/
structure PageEdit extends Editing where
  now : Nat
  slugTaken : Bool := false

/-! ## What they make of the page -/

namespace PageRow

/-- `if 0 <= index < len(self.items)` -/
def itemAt (index : Int) (page : PageRow) : Option Item := if 0 ≤ index then page.items[index.toNat]? else none

def touch (now : Nat) (items : List Item) (page : PageRow) : PageRow := { page with items, updatedAt := now }

/-- `_room_for_one_more` -/
def roomForOneMore (page : PageRow) : Except PageError Unit :=
  if maxItems ≤ page.items.length then
    .error (.value (text "A page holds at most " ++ strOfNat maxItems ++ text " items"))
  else .ok ()

/-- `add_check_to_page` -/
def addCheck (now : Nat) (seen : Lookup) (checkId : Uuid) (order : Option Nat) (page : PageRow) :
    Except PageError PageRow :=
  let named := namedCheckIds page.items
  if checkId ∈ named then .error (.value (text "The check is already on the page"))
  else match page.roomForOneMore with
  | .error error => .error error
  | .ok () =>
    if maxPageChecks < (named ++ [checkId]).eraseDups.length then
      .error (.value (text "A page names at most " ++ strOfNat maxPageChecks ++ text " checks"))
    else if checkId ∉ seen.checks then .error (.value (text "No check has the id " ++ checkId.str))
    else .ok (page.touch now (reorderItems (page.items ++ [.check checkId (some (order.getD page.items.length))])))

/-- The item `add_group` appends. -/
def newGroup (name : GroupName) (filter : Option GroupFilter) (order : Nat) (collapsed : Bool) : Item :=
  .group (groupFields name collapsed .manual .asc filter) (if filter.isNone then some [] else none) (some order)

/-- `add_group_to_page` -/
def addGroup (now : Nat) (name : GroupName) (filter : Option GroupFilter) (order : Option Nat) (collapsed : Bool)
    (page : PageRow) : Except PageError PageRow :=
  match page.roomForOneMore with
  | .error error => .error error
  | .ok () =>
    let item := newGroup name filter (order.getD page.items.length) collapsed
    .ok (page.touch now (reorderItems (page.items ++ [item])))

/-- `remove_item_from_page` -/
def removeItem (now : Nat) (index : Int) (page : PageRow) : PageRow :=
  page.touch now
    (match page.itemAt index with
    | some _ => reorderItems (page.items.eraseIdx index.toNat)
    | none => page.items)

/-- `reorder_all_items` -/
def reorderAllItems (now : Nat) (seen : Lookup) (clientItems : List EditorReorderItem) (page : PageRow) :
    Except PageError PageRow :=
  match reorderedItems seen.checks page.items clientItems with
  | .ok items => .ok (page.touch now items)
  | .error error => .error (.reorder error)

/-- `rename_group`: a position with no group is left, and the time with it. -/
def renameGroup (now : Nat) (itemIndex : Int) (newName : GroupName) (page : PageRow) : PageRow :=
  match page.itemAt itemIndex with
  | some (.group fields checks order) =>
    page.touch now (page.items.set itemIndex.toNat
      (.group (Fields.set (fieldKey "name") (.str newName.value) fields) checks order))
  | _ => page

/-- `update_group_filters`: so is a group that lists its checks. -/
def updateGroupFilters (now : Nat) (itemIndex : Int) (filter : GroupFilter) (page : PageRow) : PageRow :=
  match page.itemAt itemIndex with
  | some (.group fields checks order) =>
    if fieldKey "filter" ∈ fields.map (·.1) then
      page.touch now (page.items.set itemIndex.toNat
        (.group (Fields.set (fieldKey "filter") filter.dump fields) checks order))
    else page
  | _ => page

/-- `update_group_sort`, which moves the time in any case. -/
def updateGroupSort (now : Nat) (itemIndex : Int) (sortBy : SortBy) (sortDirection : SortDirection)
    (page : PageRow) : PageRow :=
  page.touch now
    (match page.itemAt itemIndex with
    | some (.group fields checks order) =>
      page.items.set itemIndex.toNat
        (.group
          (Fields.set (fieldKey "sort_direction") (.str (text sortDirection.value))
            (Fields.set (fieldKey "sort_by") (.str (text sortBy.value)) fields))
          checks order)
    | _ => page.items)

/-- `update_status_page` of the core service. -/
def update (now : Nat) (slugTaken : Bool) (fields : PageFields) (config : Option PageConfig)
    (items : Option (List Item)) (page : PageRow) : Except PageError PageRow :=
  let slug := fields.slug.getD page.slug
  if slug ≠ page.slug ∧ slugTaken = true then
    .error (.duplicate (text "Status page with slug '" ++ slug ++ text "' already exists"))
  else
    .ok
      { items := items.getD page.items
        updatedAt := now
        name := fields.name.getD page.name
        slug
        description := fields.description.getD page.description
        isPublic := fields.isPublic.getD page.isPublic
        config := config.getD page.config }

end PageRow

/-- `require_within_caps` -/
def requireWithinCaps (items stored : List Item) : Except PageError Unit :=
  if itemCap stored < items.length then
    .error (.validation (text "A page holds at most " ++ strOfNat (itemCap stored) ++ text " items"))
  else if checkCap stored < (namedCheckIds items).length then
    .error (.validation (text "A page names at most " ++ strOfNat (checkCap stored) ++ text " checks"))
  else .ok ()

/-- `_require_references` -/
def requireReferences (seen : Lookup) (items : List StatusPageItem) : Except PageError Unit :=
  match (schemaCheckIds items).find? fun id => decide (id ∉ seen.checks) with
  | some missing => .error (.validation (text "No check has the id " ++ missing.str))
  | none =>
    match (filterAgentIds items).find? fun id => decide (id ∉ seen.agents) with
    | some missing => .error (.validation (text "No agent has the id " ++ missing.str))
    | none => .ok ()

/-- `replace_items` -/
def PageRow.replaceItems (now : Nat) (seen : Lookup) (items : List StatusPageItem) (page : PageRow) :
    Except PageError PageRow :=
  match requireWithinCaps (storedItems items) page.items with
  | .error error => .error error
  | .ok () =>
    match requireReferences seen items with
    | .error error => .error error
    | .ok () => page.update now false {} none (some (storedItems items))

/-- What the request writes over the page that it has locked; none deletes it. -/
def PageEdit.outcome (edit : PageEdit) (page : PageRow) : Except PageError (Option PageRow) :=
  let seen := edit.seen.getD ⟨[], []⟩
  match edit.request with
  | .addCheck checkId order => (page.addCheck edit.now seen checkId order).map some
  | .addGroup name filter order collapsed => (page.addGroup edit.now name filter order collapsed).map some
  | .removeItem index => .ok (some (page.removeItem edit.now index))
  | .reorderAllItems clientItems => (page.reorderAllItems edit.now seen clientItems).map some
  | .renameGroup itemIndex newName => .ok (some (page.renameGroup edit.now itemIndex newName))
  | .updateGroupFilters itemIndex filter => .ok (some (page.updateGroupFilters edit.now itemIndex filter))
  | .updateGroupSort itemIndex sortBy sortDirection =>
    .ok (some (page.updateGroupSort edit.now itemIndex sortBy sortDirection))
  | .updateStatusPage fields minutes =>
    (page.update edit.now edit.slugTaken fields
      (edit.config.map fun read => withMinutes read (normalizeStatusBarMinutes minutes)) none).map some
  | .updatePage fields minutes =>
    (page.update edit.now edit.slugTaken fields
      (minutes.bind fun minutes => edit.config.map fun read => withMinutes read minutes) none).map some
  | .replaceItems items => (page.replaceItems edit.now seen items).map some
  | .deleteStatusPage => .ok none

/-! ## The items there can be -/

/-- The item is one that the schema takes, in whatever place. -/
def Item.Shaped (item : Item) : Prop := ∃ schema : StatusPageItem, ∀ order, item.withOrder order = schema.stored order

namespace Item

@[simp] theorem withOrder_withOrder (first second : Nat) (item : Item) :
    (item.withOrder first).withOrder second = item.withOrder second := by
  cases item <;> rfl

theorem withOrder_of_order {item : Item} {order : Nat} (isOrder : item.order = some order) :
    item.withOrder order = item := by
  cases item with
  | check checkId stored =>
    cases isOrder
    rfl
  | group fields checks stored =>
    cases isOrder
    rfl

theorem Shaped.withOrder {item : Item} (shaped : item.Shaped) (order : Nat) : (item.withOrder order).Shaped := by
  obtain ⟨schema, isStored⟩ := shaped
  refine ⟨schema, fun other => ?_⟩
  rw [withOrder_withOrder, isStored]

theorem shaped_check (checkId : Uuid) (order : Option Nat) : (Item.check checkId order).Shaped :=
  ⟨.check checkId, fun _ => rfl⟩

theorem shaped_stored (schema : StatusPageItem) (order : Nat) : (schema.stored order).Shaped := by
  refine ⟨schema, fun other => ?_⟩
  cases schema <;> rfl

/-- A stored group is one the schema takes. -/
theorem Shaped.group {fields : List (Key × Value)} {checks : Option (List Uuid)} {order : Option Nat}
    (shaped : (Item.group fields checks order).Shaped) : ∃ item : GroupItem, checks = item.checks? ∧
      fields = groupFields item.name item.collapsed item.sortBy item.sortDirection item.filter? := by
  obtain ⟨schema, isStored⟩ := shaped
  have here := isStored 0
  cases schema with
  | check checkId => cases here
  | group item =>
    cases here
    exact ⟨item, rfl, rfl⟩

theorem shaped_group (item : GroupItem) (order : Option Nat) :
    (Item.group (groupFields item.name item.collapsed item.sortBy item.sortDirection item.filter?) item.checks?
      order).Shaped :=
  ⟨.group item, fun _ => rfl⟩

theorem Shaped.relisted {item : Item} (shaped : item.Shaped) {checks : Option (List Uuid)}
    (few : (checks.getD []).length ≤ maxGroupChecks) : (item.relisted checks).Shaped := by
  cases item with
  | check checkId order => exact shaped
  | group fields listed order =>
    obtain ⟨⟨name, collapsed, sortBy, sortDirection, shows⟩, rfl, rfl⟩ := shaped.group
    cases shows with
    | checks ids short =>
      exact shaped_group ⟨name, collapsed, sortBy, sortDirection, .checks (checks.getD []) few⟩ order
    | filter filter => exact shaped

end Item

/-- An item names the check it is for and the ones it lists. -/
theorem mem_namedCheckIds {items : List Item} {id : Uuid} :
    id ∈ namedCheckIds items ↔ ∃ item ∈ items, item.checkId? = some id ∨ id ∈ item.listed := by
  simp only [namedCheckIds, List.mem_eraseDups, List.mem_append, checkIds, listedIds, List.mem_filterMap,
    List.mem_flatMap, and_or_left, exists_or]

/-- The checks that are named are no more than those of a list that has them all. -/
theorem length_namedCheckIds_le {items : List Item} {ids : List Uuid} (all : ∀ id ∈ namedCheckIds items, id ∈ ids) :
    (namedCheckIds items).length ≤ ids.length := by
  apply length_eraseDups_le
  intro id mem
  exact all id (List.mem_eraseDups.mpr mem)

/-! ## Well-formed pages -/

/-- What a page's items are, of the checks that there have been. -/
structure ItemsFit (existed : List Uuid) (items : List Item) : Prop where
  shaped : ∀ item ∈ items, item.Shaped
  orders : items.map Item.order = (List.range items.length).map some
  fewItems : items.length ≤ maxItems
  fewChecks : (namedCheckIds items).length ≤ maxPageChecks
  exist : ∀ id ∈ namedCheckIds items, id ∈ existed

structure WellFormed (existed : List Uuid) (page : PageRow) : Prop where
  items : ItemsFit existed page.items
  config : ∃ minutes : StatusBarMinutes, page.config = withMinutes none minutes

namespace ItemsFit

variable {existed : List Uuid} {items : List Item}

/-- **The page holds what a valid list stores.** -/
theorem stored (fit : ItemsFit existed items) : ∃ schema, items = storedItems schema := by
  have each : ∃ schema, List.Forall₂ (fun item (schema : StatusPageItem) =>
      ∀ order, item.withOrder order = schema.stored order) items schema := by
    have shaped := fit.shaped
    clear fit
    induction items with
    | nil => exact ⟨[], .nil⟩
    | cons item rest ih =>
      obtain ⟨schema, isStored⟩ := shaped item (List.mem_cons_self ..)
      obtain ⟨others, areStored⟩ := ih fun other mem => shaped other (List.mem_cons_of_mem _ mem)
      exact ⟨schema :: others, .cons isStored areStored⟩
  obtain ⟨schema, areStored⟩ := each
  refine ⟨schema, List.ext_getElem ?_ fun i within within' => ?_⟩
  · rw [storedItems, List.length_mapIdx, areStored.length_eq]
  · have isOrder : items[i].order = some i := by
      have same : (items.map Item.order)[i]? = ((List.range items.length).map some)[i]? := by rw [fit.orders]
      simpa [within] using same
    have isStored := (List.forall₂_iff_get.mp areStored).2 i within (by simpa [storedItems] using within')
    simp only [List.get_eq_getElem] at isStored
    simp only [storedItems, List.getElem_mapIdx]
    rw [← isStored, Item.withOrder_of_order isOrder]

theorem mono {more : List Uuid} (fit : ItemsFit existed items) (subset : existed ⊆ more) : ItemsFit more items :=
  { fit with exist := fun id mem => subset (fit.exist id mem) }

/-- What is put in order fits. -/
theorem of_reorderItems (shaped : ∀ item ∈ items, item.Shaped) (fewItems : items.length ≤ maxItems)
    (fewChecks : (namedCheckIds items).length ≤ maxPageChecks) (exist : ∀ id ∈ namedCheckIds items, id ∈ existed) :
    ItemsFit existed (reorderItems items) where
  shaped := by
    intro item mem
    obtain ⟨i, within, rfl⟩ := List.mem_mapIdx.mp mem
    exact (shaped _ (List.getElem_mem within)).withOrder i
  orders := orders_reorderItems items
  fewItems := by rwa [reorderItems, List.length_mapIdx]
  fewChecks := by rwa [namedCheckIds_reorderItems]
  exist := by rwa [namedCheckIds_reorderItems]

/-- One more item, which names at most one more check. -/
theorem append (fit : ItemsFit existed items) {item : Item} (shaped : item.Shaped) (room : items.length < maxItems)
    (fewChecks : (namedCheckIds (items ++ [item])).length ≤ maxPageChecks)
    (exist : ∀ id, item.checkId? = some id ∨ id ∈ item.listed → id ∈ existed) :
    ItemsFit existed (reorderItems (items ++ [item])) := by
  refine of_reorderItems ?_ ?_ fewChecks ?_
  · intro other mem
    rcases List.mem_append.mp mem with old | new
    · exact fit.shaped other old
    · rw [List.mem_singleton.mp new]
      exact shaped
  · rw [List.length_append, List.length_singleton]
    omega
  · intro id named
    obtain ⟨other, mem, names⟩ := mem_namedCheckIds.mp named
    rcases List.mem_append.mp mem with old | new
    · exact fit.exist id (mem_namedCheckIds.mpr ⟨other, old, names⟩)
    · rw [List.mem_singleton.mp new] at names
      exact exist id names

theorem eraseIdx (fit : ItemsFit existed items) (index : Nat) :
    ItemsFit existed (reorderItems (items.eraseIdx index)) := by
  have still : ∀ id ∈ namedCheckIds (items.eraseIdx index), id ∈ namedCheckIds items := by
    intro id named
    obtain ⟨item, mem, names⟩ := mem_namedCheckIds.mp named
    exact mem_namedCheckIds.mpr ⟨item, (List.eraseIdx_sublist items index).subset mem, names⟩
  refine of_reorderItems ?_ ?_ ?_ ?_
  · intro item mem
    exact fit.shaped item ((List.eraseIdx_sublist items index).subset mem)
  · exact (List.eraseIdx_sublist items index).length_le.trans fit.fewItems
  · exact (length_namedCheckIds_le still).trans fit.fewChecks
  · exact fun id named => fit.exist id (still id named)

/-- A group in the place of another that lists the same checks. -/
theorem set (fit : ItemsFit existed items) {index : Nat} {fields fields' : List (Key × Value)}
    {checks : Option (List Uuid)} {order : Option Nat} (isGroup : items[index]? = some (.group fields checks order))
    (shaped : (Item.group fields' checks order).Shaped) :
    ItemsFit existed (items.set index (.group fields' checks order)) := by
  have within : index < items.length := (List.getElem?_eq_some_iff.mp isGroup).1
  have old : items[index] = .group fields checks order := (List.getElem?_eq_some_iff.mp isGroup).2
  have same : ∀ {β : Type} (f : Item → β), f (.group fields' checks order) = f (.group fields checks order) →
      (items.set index (.group fields' checks order)).map f = items.map f := by
    intro β f isSame
    rw [List.map_set, isSame, ← old, ← List.getElem_map f (h := by simpa using within), List.set_getElem_self]
  have sameNames : namedCheckIds (items.set index (.group fields' checks order)) = namedCheckIds items := by
    have first := congrArg (List.filterMap id) (same Item.checkId? rfl)
    have second := same Item.listed rfl
    rw [List.filterMap_map, List.filterMap_map] at first
    rw [namedCheckIds, namedCheckIds, listedIds, List.flatMap_def, second, ← List.flatMap_def, ← listedIds]
    exact congrArg (fun ids => (ids ++ listedIds items).eraseDups) first
  refine ⟨?_, ?_, ?_, ?_, ?_⟩
  · intro item mem
    rcases List.mem_or_eq_of_mem_set mem with old | rfl
    · exact fit.shaped item old
    · exact shaped
  · rw [same Item.order rfl, List.length_set]
    exact fit.orders
  · rw [List.length_set]
    exact fit.fewItems
  · rw [sameNames]
    exact fit.fewChecks
  · rw [sameNames]
    exact fit.exist

end ItemsFit

/-! ## Each edit -/

/-- What a request has read is of a page like this one, and of checks that there have been. -/
structure Editing.Known (fine : PageRow → Prop) (existed : List Uuid) (editing : Editing) : Prop where
  config : ∀ config ∈ editing.config, ∃ page, fine page ∧ page.config = config
  checks : ∀ seen ∈ editing.seen, ∀ id ∈ seen.checks, id ∈ existed

/-- A group that is renamed or sorted is stored as one that has the new name or sort. -/
theorem groupFields_set_name (name newName : GroupName) (collapsed : Bool) (sortBy : SortBy)
    (sortDirection : SortDirection) (filter : Option GroupFilter) :
    Fields.set (fieldKey "name") (.str newName.value) (groupFields name collapsed sortBy sortDirection filter) =
      groupFields newName collapsed sortBy sortDirection filter := rfl

theorem groupFields_set_sort (name : GroupName) (collapsed : Bool) (sortBy sortBy' : SortBy)
    (sortDirection sortDirection' : SortDirection) (filter : Option GroupFilter) :
    Fields.set (fieldKey "sort_direction") (.str (text sortDirection'.value))
        (Fields.set (fieldKey "sort_by") (.str (text sortBy'.value))
          (groupFields name collapsed sortBy sortDirection filter)) =
      groupFields name collapsed sortBy' sortDirection' filter := rfl

/-- A group has a filter or checks. -/
theorem filter_mem_groupFields (name : GroupName) (collapsed : Bool) (sortBy : SortBy)
    (sortDirection : SortDirection) (filter : Option GroupFilter) :
    fieldKey "filter" ∈ (groupFields name collapsed sortBy sortDirection filter).map (·.1) ↔ filter.isSome := by
  cases filter with
  | none =>
    have keys : (groupFields name collapsed sortBy sortDirection none).map (·.1) =
        [fieldKey "name", fieldKey "collapsed", fieldKey "sort_by", fieldKey "sort_direction"] := rfl
    rw [keys]
    exact iff_of_false (by decide) (by simp)
  | some filter => simp [groupFields]

theorem withMinutes_withMinutes (first second : StatusBarMinutes) :
    withMinutes (withMinutes none first) second = withMinutes none second := rfl

theorem shaped_newItems {stored items : List Item} {reordered : List EditorReorderItem}
    (made : newItems stored reordered = some items) (shaped : ∀ item ∈ stored, item.Shaped) :
    ∀ item ∈ items, item.Shaped := by
  induction reordered generalizing items with
  | nil =>
    cases made
    intro item mem
    cases mem
  | cons entry rest ih =>
    obtain ⟨item, others, isItem, areOthers, rfl⟩ := newItems_cons made
    intro other mem
    rcases List.mem_append.mp mem with first | later
    · rcases itemOf_cases isItem with ⟨oldIndex, -, rfl⟩ | ⟨-, id, -, rfl⟩
      · obtain ⟨old, isOld, rfl⟩ := Option.map_eq_some_iff.mp (Option.mem_toList.mp first)
        have wasShaped : old.Shaped := shaped old (List.mem_of_getElem? isOld)
        split_ifs
        · exact wasShaped.relisted entry.fewChecks
        · exact wasShaped
      · cases Option.mem_toList.mp first
        exact Item.shaped_check id none
    · exact ih areOthers other later

theorem PageRow.itemAt_eq_some {page : PageRow} {index : Int} {item : Item} (isItem : page.itemAt index = some item) :
    page.items[index.toNat]? = some item := by
  rw [itemAt] at isItem
  split_ifs at isItem
  exact isItem

/-! ### What an edit that is accepted has found -/

namespace PageRow

variable {page row : PageRow} {now : Nat} {seen : Lookup}

theorem room_of_ok (room : page.roomForOneMore = .ok ()) : page.items.length < maxItems := by
  rw [roomForOneMore] at room
  split_ifs at room with full
  omega

theorem addCheck_eq_ok {checkId : Uuid} {order : Option Nat} (added : page.addCheck now seen checkId order = .ok row) :
    page.items.length < maxItems ∧ (namedCheckIds page.items ++ [checkId]).eraseDups.length ≤ maxPageChecks ∧
      checkId ∈ seen.checks ∧
      row = page.touch now (reorderItems (page.items ++ [.check checkId (some (order.getD page.items.length))])) := by
  rw [addCheck] at added
  cases room : page.roomForOneMore with
  | error error =>
    simp only [room] at added
    split_ifs at added
  | ok _ =>
    simp only [room] at added
    split_ifs at added with named many unknown
    cases added
    exact ⟨room_of_ok room, not_lt.mp many, by simpa using unknown, rfl⟩

theorem addGroup_eq_ok {name : GroupName} {filter : Option GroupFilter} {order : Option Nat} {collapsed : Bool}
    (added : page.addGroup now name filter order collapsed = .ok row) :
    page.items.length < maxItems ∧ row = page.touch now
      (reorderItems (page.items ++ [newGroup name filter (order.getD page.items.length) collapsed])) := by
  rw [addGroup] at added
  split at added
  · cases added
  · rename_i room
    cases added
    exact ⟨room_of_ok room, rfl⟩

theorem reorderAllItems_eq_ok {clientItems : List EditorReorderItem}
    (reordered : page.reorderAllItems now seen clientItems = .ok row) :
    ∃ items, Accepts seen.checks page.items clientItems items ∧ row = page.touch now (reorderItems items) := by
  rw [reorderAllItems] at reordered
  cases result : reorderedItems seen.checks page.items clientItems with
  | error error => simp [result] at reordered
  | ok after =>
    rw [result] at reordered
    cases reordered
    obtain ⟨items, accepts, rfl⟩ := accepts_of_reorderedItems result
    exact ⟨items, accepts, rfl⟩

theorem update_eq_ok {slugTaken : Bool} {fields : PageFields} {config : Option PageConfig} {items : Option (List Item)}
    (updated : page.update now slugTaken fields config items = .ok row) :
    row.items = items.getD page.items ∧ row.updatedAt = now ∧ row.config = config.getD page.config := by
  rw [update] at updated
  split_ifs at updated
  cases updated
  exact ⟨rfl, rfl, rfl⟩

end PageRow

theorem requireWithinCaps_eq_ok {items stored : List Item} (within : requireWithinCaps items stored = .ok ()) :
    items.length ≤ itemCap stored ∧ (namedCheckIds items).length ≤ checkCap stored := by
  rw [requireWithinCaps] at within
  split_ifs at within with many manyChecks
  exact ⟨not_lt.mp many, not_lt.mp manyChecks⟩

theorem requireReferences_eq_ok {seen : Lookup} {items : List StatusPageItem}
    (references : requireReferences seen items = .ok ()) : ∀ id ∈ schemaCheckIds items, id ∈ seen.checks := by
  rw [requireReferences] at references
  split at references
  · cases references
  · rename_i known
    intro id named
    by_contra unknown
    simpa [unknown] using List.find?_eq_none.mp known id named

theorem PageRow.replaceItems_eq_ok {page row : PageRow} {now : Nat} {seen : Lookup} {items : List StatusPageItem}
    (replaced : page.replaceItems now seen items = .ok row) :
    requireWithinCaps (storedItems items) page.items = .ok () ∧ requireReferences seen items = .ok () ∧
      row.items = storedItems items ∧ row.updatedAt = now ∧ row.config = page.config := by
  rw [replaceItems] at replaced
  split at replaced
  · cases replaced
  · rename_i caps
    split at replaced
    · cases replaced
    · rename_i references
      exact ⟨caps, references, update_eq_ok replaced⟩

/-! ### Its items fit -/

theorem reorderItems_storedItems (items : List StatusPageItem) :
    reorderItems (storedItems items) = storedItems items := by
  apply List.ext_getElem
  · simp [reorderItems]
  · intro i within within'
    have inside : i < items.length := by simpa [storedItems] using within'
    simp only [reorderItems, storedItems, List.getElem_mapIdx]
    cases items[i] <;> rfl

/-- What is stored names the checks the schema's items do. -/
theorem mem_schemaCheckIds {items : List StatusPageItem} {id : Uuid} (named : id ∈ namedCheckIds (storedItems items)) :
    id ∈ schemaCheckIds items := by
  obtain ⟨item, mem, names⟩ := mem_namedCheckIds.mp named
  obtain ⟨i, within, rfl⟩ := List.mem_mapIdx.mp mem
  rw [schemaCheckIds, List.mem_eraseDups, List.mem_flatMap]
  refine ⟨items[i], List.getElem_mem within, ?_⟩
  generalize items[i] = schema at names
  rcases schema with checkId | ⟨name, collapsed, sortBy, sortDirection, ids | filter⟩
  · simpa [StatusPageItem.stored, Item.checkId?, Item.listed, eq_comm] using names
  · simpa [StatusPageItem.stored, Item.checkId?, Item.listed, GroupItem.checks?] using names
  · simp [StatusPageItem.stored, Item.checkId?, Item.listed, GroupItem.checks?] at names

namespace ItemsFit

variable {existed : List Uuid} {page row : PageRow}

theorem addCheck (fit : ItemsFit existed page.items) {now : Nat} {seen : Lookup} {checkId : Uuid} {order : Option Nat}
    (exist : ∀ id ∈ seen.checks, id ∈ existed) (added : page.addCheck now seen checkId order = .ok row) :
    ItemsFit existed row.items ∧ row.config = page.config := by
  obtain ⟨room, fewChecks, isCheck, rfl⟩ := PageRow.addCheck_eq_ok added
  have names : ∀ id, (Item.check checkId (some (order.getD page.items.length))).checkId? = some id ∨
      id ∈ (Item.check checkId (some (order.getD page.items.length))).listed → id = checkId := by
    intro id names
    rcases names with itself | listed
    · exact (Option.some.inj itself).symm
    · cases listed
  refine ⟨fit.append (Item.shaped_check checkId _) room ?_ ?_, rfl⟩
  · refine (length_namedCheckIds_le fun id isNamed => ?_).trans fewChecks
    rw [List.mem_eraseDups, List.mem_append, List.mem_singleton]
    obtain ⟨item, mem, itNames⟩ := mem_namedCheckIds.mp isNamed
    rcases List.mem_append.mp mem with old | new
    · exact Or.inl (mem_namedCheckIds.mpr ⟨item, old, itNames⟩)
    · rw [List.mem_singleton.mp new] at itNames
      exact Or.inr (names id itNames)
  · intro id itNames
    rw [names id itNames]
    exact exist checkId isCheck

theorem addGroup (fit : ItemsFit existed page.items) {now : Nat} {name : GroupName} {filter : Option GroupFilter}
    {order : Option Nat} {collapsed : Bool} (added : page.addGroup now name filter order collapsed = .ok row) :
    ItemsFit existed row.items ∧ row.config = page.config := by
  obtain ⟨room, rfl⟩ := PageRow.addGroup_eq_ok added
  have lists : ∀ id, ¬ ((PageRow.newGroup name filter (order.getD page.items.length) collapsed).checkId? = some id ∨
      id ∈ (PageRow.newGroup name filter (order.getD page.items.length) collapsed).listed) := by
    intro id
    cases filter <;> simp [PageRow.newGroup, Item.checkId?, Item.listed]
  refine ⟨fit.append ?_ room ?_ fun id names => absurd names (lists id), rfl⟩
  · cases filter with
    | none => exact Item.shaped_group ⟨name, collapsed, .manual, .asc, .checks [] (Nat.zero_le _)⟩ _
    | some filter => exact Item.shaped_group ⟨name, collapsed, .manual, .asc, .filter filter⟩ _
  · refine (length_namedCheckIds_le fun id isNamed => ?_).trans fit.fewChecks
    obtain ⟨item, mem, names⟩ := mem_namedCheckIds.mp isNamed
    rcases List.mem_append.mp mem with old | new
    · exact mem_namedCheckIds.mpr ⟨item, old, names⟩
    · rw [List.mem_singleton.mp new] at names
      exact absurd names (lists id)

theorem removeItem (fit : ItemsFit existed page.items) (now : Nat) (index : Int) :
    ItemsFit existed (page.removeItem now index).items := by
  rw [PageRow.removeItem, PageRow.touch]
  dsimp only
  split
  · exact fit.eraseIdx index.toNat
  · exact fit

theorem itemCap_eq (fit : ItemsFit existed page.items) : itemCap page.items = maxItems := max_eq_left fit.fewItems

theorem checkCap_eq (fit : ItemsFit existed page.items) : checkCap page.items = maxPageChecks :=
  max_eq_left fit.fewChecks

theorem reorderAllItems (fit : ItemsFit existed page.items) {now : Nat} {seen : Lookup}
    {clientItems : List EditorReorderItem} (exist : ∀ id ∈ seen.checks, id ∈ existed)
    (reordered : page.reorderAllItems now seen clientItems = .ok row) :
    ItemsFit existed row.items ∧ row.config = page.config := by
  obtain ⟨items, accepts, rfl⟩ := PageRow.reorderAllItems_eq_ok reordered
  refine ⟨of_reorderItems (shaped_newItems accepts.made fit.shaped) ?_ ?_ ?_, rfl⟩
  · exact (length_newItems_le accepts.made).trans (fit.itemCap_eq ▸ accepts.fewItems)
  · exact fit.checkCap_eq ▸ accepts.fewChecks
  · intro id named
    by_cases wasNamed : id ∈ namedCheckIds page.items
    · exact fit.exist id wasNamed
    · exact exist id (accepts.exist id named wasNamed)

theorem renameGroup (fit : ItemsFit existed page.items) (now : Nat) (itemIndex : Int) (newName : GroupName) :
    ItemsFit existed (page.renameGroup now itemIndex newName).items ∧
      (page.renameGroup now itemIndex newName).config = page.config := by
  rw [PageRow.renameGroup]
  split
  · rename_i fields checks order isGroup
    obtain ⟨item, rfl, rfl⟩ := (fit.shaped _ (List.mem_of_getElem? (PageRow.itemAt_eq_some isGroup))).group
    rw [groupFields_set_name]
    exact ⟨fit.set (PageRow.itemAt_eq_some isGroup) (Item.shaped_group { item with name := newName } order), rfl⟩
  · exact ⟨fit, rfl⟩

theorem updateGroupFilters (fit : ItemsFit existed page.items) (now : Nat) (itemIndex : Int) (filter : GroupFilter) :
    ItemsFit existed (page.updateGroupFilters now itemIndex filter).items ∧
      (page.updateGroupFilters now itemIndex filter).config = page.config := by
  rw [PageRow.updateGroupFilters]
  split
  · rename_i fields checks order isGroup
    obtain ⟨⟨name, collapsed, sortBy, sortDirection, shows⟩, rfl, rfl⟩ :=
      (fit.shaped _ (List.mem_of_getElem? (PageRow.itemAt_eq_some isGroup))).group
    cases shows with
    | checks ids few =>
      -- A group that lists its checks has no filter to set.
      rw [if_neg (by simp [filter_mem_groupFields, GroupItem.filter?])]
      exact ⟨fit, rfl⟩
    | filter old =>
      rw [if_pos (by simp [filter_mem_groupFields, GroupItem.filter?])]
      exact ⟨fit.set (PageRow.itemAt_eq_some isGroup)
        (Item.shaped_group ⟨name, collapsed, sortBy, sortDirection, .filter filter⟩ order), rfl⟩
  · exact ⟨fit, rfl⟩

theorem updateGroupSort (fit : ItemsFit existed page.items) (now : Nat) (itemIndex : Int) (sortBy : SortBy)
    (sortDirection : SortDirection) :
    ItemsFit existed (page.updateGroupSort now itemIndex sortBy sortDirection).items := by
  rw [PageRow.updateGroupSort, PageRow.touch]
  dsimp only
  split
  · rename_i fields checks order isGroup
    obtain ⟨item, rfl, rfl⟩ := (fit.shaped _ (List.mem_of_getElem? (PageRow.itemAt_eq_some isGroup))).group
    rw [groupFields_set_sort]
    exact fit.set (PageRow.itemAt_eq_some isGroup)
      (Item.shaped_group { item with sortBy := sortBy, sortDirection := sortDirection } order)
  · exact fit

/-- Items the schema takes, once their checks are there. -/
theorem of_schema {items : List StatusPageItem} (few : items.length ≤ maxItems)
    (fewChecks : (namedCheckIds (storedItems items)).length ≤ maxPageChecks)
    (exist : ∀ id ∈ schemaCheckIds items, id ∈ existed) : ItemsFit existed (storedItems items) := by
  rw [← reorderItems_storedItems]
  refine of_reorderItems ?_ (by rwa [storedItems, List.length_mapIdx]) fewChecks ?_
  · intro item mem
    obtain ⟨i, within, rfl⟩ := List.mem_mapIdx.mp mem
    exact Item.shaped_stored _ i
  · exact fun id named => exist id (mem_schemaCheckIds named)

theorem replaceItems (fit : ItemsFit existed page.items) {now : Nat} {seen : Lookup} {items : List StatusPageItem}
    (exist : ∀ id ∈ seen.checks, id ∈ existed) (replaced : page.replaceItems now seen items = .ok row) :
    ItemsFit existed row.items ∧ row.config = page.config := by
  obtain ⟨caps, references, isItems, -, isConfig⟩ := PageRow.replaceItems_eq_ok replaced
  obtain ⟨few, fewChecks⟩ := requireWithinCaps_eq_ok caps
  rw [fit.itemCap_eq, storedItems, List.length_mapIdx] at few
  rw [fit.checkCap_eq] at fewChecks
  rw [isItems]
  exact ⟨of_schema few fewChecks fun id named => exist id (requireReferences_eq_ok references id named), isConfig⟩

end ItemsFit

namespace WellFormed

variable {existed : List Uuid} {page row : PageRow}

theorem mono {more : List Uuid} (fine : WellFormed existed page) (subset : existed ⊆ more) : WellFormed more page :=
  ⟨fine.items.mono subset, fine.config⟩

/-- A page starts well formed. -/
theorem of_create (now : Nat) (data : PageCreate) (exist : ∀ id ∈ schemaCheckIds data.items, id ∈ existed) :
    WellFormed existed (data.row now) where
  items := ItemsFit.of_schema data.fewItems
    ((length_namedCheckIds_le fun _ => mem_schemaCheckIds).trans data.fewChecks) exist
  config := ⟨data.statusBarMinutes, rfl⟩

/-- An update with the minutes it sets, if it does, in the config that was read. -/
theorem update (fine : WellFormed existed page) {now : Nat} {slugTaken : Bool} {fields : PageFields}
    {config : Option PageConfig} (minutes : ∀ config' ∈ config, ∃ minutes, config' = withMinutes none minutes)
    (updated : page.update now slugTaken fields config none = .ok row) : WellFormed existed row := by
  obtain ⟨isItems, -, isConfig⟩ := PageRow.update_eq_ok updated
  refine ⟨isItems ▸ fine.items, ?_⟩
  rw [isConfig]
  cases config with
  | none => exact fine.config
  | some config => exact minutes config rfl

/-- **Every edit leaves the page well formed.** -/
theorem outcome (fine : WellFormed existed page) {edit : PageEdit}
    (known : edit.toEditing.Known (WellFormed existed) existed) (made : edit.outcome page = .ok (some row)) :
    WellFormed existed row := by
  have exist : ∀ id ∈ (edit.seen.getD ⟨[], []⟩).checks, id ∈ existed := by
    intro id mem
    cases isSeen : edit.seen with
    | none =>
      rw [isSeen] at mem
      cases mem
    | some seen =>
      rw [isSeen] at mem
      exact known.checks seen isSeen id mem
  have rewritten : ∀ read ∈ edit.config, ∀ minutes, withMinutes read minutes = withMinutes none minutes := by
    intro read isRead minutes
    obtain ⟨other, otherFine, rfl⟩ := known.config read isRead
    obtain ⟨before, isConfig⟩ := otherFine.config
    rw [isConfig, withMinutes_withMinutes]
  have some_of {result : Except PageError PageRow} (isResult : result.map some = .ok (some row)) :
      result = .ok row := by
    cases result with
    | error error => cases isResult
    | ok other =>
      cases isResult
      rfl
  rw [PageEdit.outcome] at made
  split at made
  · obtain ⟨items, config⟩ := fine.items.addCheck exist (some_of made)
    exact ⟨items, config ▸ fine.config⟩
  · obtain ⟨items, config⟩ := fine.items.addGroup (some_of made)
    exact ⟨items, config ▸ fine.config⟩
  · cases made
    exact ⟨fine.items.removeItem _ _, fine.config⟩
  · obtain ⟨items, config⟩ := fine.items.reorderAllItems exist (some_of made)
    exact ⟨items, config ▸ fine.config⟩
  · cases made
    obtain ⟨items, config⟩ := fine.items.renameGroup edit.now _ _
    exact ⟨items, config ▸ fine.config⟩
  · cases made
    obtain ⟨items, config⟩ := fine.items.updateGroupFilters edit.now _ _
    exact ⟨items, config ▸ fine.config⟩
  · cases made
    exact ⟨fine.items.updateGroupSort _ _ _ _, fine.config⟩
  · refine fine.update ?_ (some_of made)
    intro config isConfig
    obtain ⟨read, isRead, rfl⟩ := Option.map_eq_some_iff.mp isConfig
    exact ⟨_, rewritten read isRead _⟩
  · refine fine.update ?_ (some_of made)
    intro config isConfig
    obtain ⟨minutes, -, isSet⟩ := Option.bind_eq_some_iff.mp isConfig
    obtain ⟨read, isRead, rfl⟩ := Option.map_eq_some_iff.mp isSet
    exact ⟨_, rewritten read isRead _⟩
  · obtain ⟨items, config⟩ := fine.items.replaceItems exist (some_of made)
    exact ⟨items, config ▸ fine.config⟩
  · cases made

end WellFormed

end LuxSwirl.Server
