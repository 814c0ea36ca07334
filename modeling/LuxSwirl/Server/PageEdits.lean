import LuxSwirl.Lib.Interleaving
import LuxSwirl.Lib.Sessions
import LuxSwirl.Lib.Versions
import LuxSwirl.Server.PageItems
import Mathlib

/-!
# Edits of one status page at the same time

Any number of requests edit a page, each in a transaction of its own that locks the row
(`get_status_page_for_update`), looks its checks up, writes and commits. A request refuses a
page that another one holds; the delete job waits for it. An edit that names an item by its
position also brings the version it was drawn from (`require_drawn_version`), and an update
reads the page's config before it locks the page.

In every order of these statements, with any request lost at any point, what is committed
goes by versions, each edit made on the one before it. So an edit by position changes the
items it was drawn with (`edits_on_drawn_page`), and the page stays well formed
(`pages_stay_well_formed`).
-/

namespace LuxSwirl.Server
open LuxSwirl.Py LuxSwirl.Lib

/-! ## The requests' statements -/

inductive PageSession where
  | absent
  | opened (editing : Editing)
  | locked (editing : Editing)
  | written (edit : PageEdit)
  | committed
  | refused (error : PageError)
  /-- Its transaction ended before it could commit. -/
  | lost

/-- The page, the requests on it, the checks and agents there are, the checks there have
been, and the committed edits with the page each found. -/
structure PageServer where
  stored : Stored Id (Option PageRow)
  sessions : Id → PageSession := fun _ => .absent
  checks : List Uuid := []
  agents : List Uuid := []
  existed : List Uuid := checks
  done : List (PageEdit × Option PageRow) := []

inductive PageStatement where
  | openRequest (id : Id) (request : PageRequest) (drawn : Option Nat)
  | readConfig (id : Id)
  | lock (id : Id)
  | lookUp (id : Id)
  | write (id : Id) (now : Nat) (slugTaken : Bool)
  | commit (id : Id)
  | rollBack (id : Id)
  /-- Other requests leave these checks and agents. -/
  | others (checks agents : List Uuid)

/-- `require_drawn_version`, where the route asks for it. -/
def Editing.requireDrawnVersion (editing : Editing) (page : PageRow) : Except PageError Unit :=
  if editing.request.namesPosition = true ∧ editing.drawn ≠ some page.updatedAt then
    .error (.stale (text
      "The page changed since it was drawn, so nothing was changed. It has been redrawn; try again."))
  else .ok ()

/-- The delete job has no statement timeout. -/
def PageRequest.waits : PageRequest → Bool
  | .deleteStatusPage => true
  | _ => false

namespace PageServer

def setSession (id : Id) (session : PageSession) (server : PageServer) : PageServer :=
  { server with sessions := Function.update server.sessions id session }

/-- An error ends the request, and its transaction rolls back. -/
def refuse (id : Id) (error : PageError) (server : PageServer) : PageServer :=
  { server.setSession id (.refused error) with stored := server.stored.rollback id }

def openRequest (id : Id) (request : PageRequest) (drawn : Option Nat) (server : PageServer) : Option PageServer :=
  match server.sessions id with
  | .absent => some (server.setSession id (.opened { request, drawn }))
  | _ => none

/-- `get_status_page`, without a lock. -/
def readConfig (id : Id) (server : PageServer) : Option PageServer :=
  match server.sessions id with
  | .opened editing =>
    if editing.request.readsConfig = true ∧ editing.config.isNone = true then
      match server.stored.committed with
      | some page => some (server.setSession id (.opened { editing with config := some page.config }))
      | none => some (server.refuse id .notFound)
    else none
  | _ => none

/-- `get_status_page_for_update` -/
def lock (id : Id) (server : PageServer) : Option PageServer :=
  match server.sessions id with
  | .opened editing =>
    if editing.request.readsConfig = true ∧ editing.config.isNone = true then none
    else match server.stored.found id with
    | none =>
      if editing.request.waits then none
      else some (server.refuse id (.stale (text
        "Another change of this page is in progress, so nothing was changed. Try again.")))
    | some none => some (server.refuse id .notFound)
    | some (some page) =>
      match editing.requireDrawnVersion page with
      | .error error => some (server.refuse id error)
      | .ok () => some { server.setSession id (.locked editing) with stored := server.stored.write id (some page) }
  | _ => none

def lookUp (id : Id) (server : PageServer) : Option PageServer :=
  match server.sessions id with
  | .locked editing =>
    if editing.request.looksUp = true ∧ editing.seen.isNone = true then
      some (server.setSession id (.locked { editing with seen := some ⟨server.checks, server.agents⟩ }))
    else none
  | _ => none

/-- The page is rewritten, from the row that the request holds. -/
def write (id : Id) (now : Nat) (slugTaken : Bool) (server : PageServer) : Option PageServer :=
  match server.sessions id with
  | .locked editing =>
    if editing.request.looksUp = true ∧ editing.seen.isNone = true then none
    else match server.stored.own id with
    | some (some page) =>
      let edit : PageEdit := { editing with now, slugTaken }
      match edit.outcome page with
      | .error error => some (server.refuse id error)
      | .ok row => some { server.setSession id (.written edit) with stored := server.stored.write id row }
    | _ => none
  | _ => none

def commit (id : Id) (server : PageServer) : Option PageServer :=
  match server.sessions id with
  | .written edit =>
    some
      { server.setSession id .committed with
        stored := server.stored.commit id
        done := server.done ++ [(edit, server.stored.committed)] }
  | _ => none

def rollBack (id : Id) (server : PageServer) : Option PageServer :=
  match server.sessions id with
  | .opened _ | .locked _ | .written _ =>
    some { server.setSession id .lost with stored := server.stored.rollback id }
  | _ => none

def step : PageStatement → PageServer → Option PageServer
  | .openRequest id request drawn, server => server.openRequest id request drawn
  | .readConfig id, server => server.readConfig id
  | .lock id, server => server.lock id
  | .lookUp id, server => server.lookUp id
  | .write id now slugTaken, server => server.write id now slugTaken
  | .commit id, server => server.commit id
  | .rollBack id, server => server.rollBack id
  | .others checks agents, server =>
    some { server with checks, agents, existed := server.existed ++ checks }

/-- A write comes at a later time than the page's last one. -/
def clockMoves (server : PageServer) : PageStatement → Bool
  | .write _ now _ => server.stored.committed.all fun page => decide (page.updatedAt < now)
  | _ => true

/-- Nothing has come yet. -/
structure Fresh (server : PageServer) : Prop where
  free : server.stored.held = none
  absent : ∀ id, server.sessions id = .absent
  existed : server.existed = server.checks
  done : server.done = []

/-- All that the page has been. -/
def versions (server : PageServer) : List (Option PageRow) := versionsOf server.done server.stored.committed

end PageServer

/-! ## What edits do to the time -/

/-- An edit that changes the page leaves its own time in it. -/
theorem PageEdit.outcome_time {edit : PageEdit} {page : PageRow} {new : Option PageRow}
    (made : edit.outcome page = .ok new) : new = some page ∨ ∀ row, new = some row → row.updatedAt = edit.now := by
  have of_map {result : Except PageError PageRow} (timed : ∀ row, result = .ok row → row.updatedAt = edit.now)
      (isResult : result.map some = .ok new) : ∀ row, new = some row → row.updatedAt = edit.now := by
    cases result with
    | error error => cases isResult
    | ok other =>
      cases isResult
      intro row isRow
      exact Option.some.inj isRow ▸ timed other rfl
  rw [outcome] at made
  split at made
  · refine Or.inr (of_map (fun row added => ?_) made)
    obtain ⟨-, -, -, rfl⟩ := PageRow.addCheck_eq_ok added
    rfl
  · refine Or.inr (of_map (fun row added => ?_) made)
    obtain ⟨-, rfl⟩ := PageRow.addGroup_eq_ok added
    rfl
  · cases made
    exact Or.inr fun row isRow => Option.some.inj isRow ▸ rfl
  · refine Or.inr (of_map (fun row reordered => ?_) made)
    obtain ⟨items, -, rfl⟩ := PageRow.reorderAllItems_eq_ok reordered
    rfl
  · cases made
    rw [PageRow.renameGroup]
    split
    · exact Or.inr fun row isRow => Option.some.inj isRow ▸ rfl
    · exact Or.inl rfl
  · cases made
    rw [PageRow.updateGroupFilters]
    split
    · split_ifs
      · exact Or.inr fun row isRow => Option.some.inj isRow ▸ rfl
      · exact Or.inl rfl
    · exact Or.inl rfl
  · cases made
    exact Or.inr fun row isRow => Option.some.inj isRow ▸ rfl
  · exact Or.inr (of_map (fun row updated => (PageRow.update_eq_ok updated).2.1) made)
  · exact Or.inr (of_map (fun row updated => (PageRow.update_eq_ok updated).2.1) made)
  · refine Or.inr (of_map (fun row replaced => ?_) made)
    obtain ⟨-, -, -, isTime, -⟩ := PageRow.replaceItems_eq_ok replaced
    exact isTime
  · cases made
    exact Or.inr fun row isRow => by cases isRow

/-! ## What is known of a session -/

/-- What every edit keeps of the page, by the checks that there have been. -/
structure PageRule where
  fine : List Uuid → PageRow → Prop
  mono : ∀ {existed more page}, existed ⊆ more → fine existed page → fine more page
  keeps : ∀ {existed page row} {edit : PageEdit}, fine existed page → edit.toEditing.Known (fine existed) existed →
    edit.outcome page = .ok (some row) → fine existed row

theorem Editing.Known.mono {rule : PageRule} {existed more : List Uuid} {editing : Editing}
    (known : editing.Known (rule.fine existed) existed) (subset : existed ⊆ more) :
    editing.Known (rule.fine more) more where
  config := fun config isConfig => by
    obtain ⟨page, fine, isRead⟩ := known.config config isConfig
    exact ⟨page, rule.mono subset fine, isRead⟩
  checks := fun seen isSeen id mem => subset (known.checks seen isSeen id mem)

/-- The edit makes the new row of the old one. With `moving`, its time is a later one. -/
structure PageEdit.Makes (rule : PageRule) (moving : Bool) (existed : List Uuid) (edit : PageEdit)
    (old new : Option PageRow) : Prop where
  row : ∃ page, old = some page ∧ edit.requireDrawnVersion page = .ok () ∧ edit.outcome page = .ok new ∧
    (moving = true → page.updatedAt < edit.now)
  known : edit.toEditing.Known (rule.fine existed) existed

/-- What is known of a session from what is committed and its own version. -/
def PageSession.Fits (rule : PageRule) (moving : Bool) (existed : List Uuid) (session : PageSession)
    (committed : Option PageRow) (own : Option (Option PageRow)) : Prop :=
  match session with
  | .opened editing => own = none ∧ editing.Known (rule.fine existed) existed
  | .locked editing => own = some committed ∧ editing.Known (rule.fine existed) existed ∧
      ∃ page, committed = some page ∧ editing.requireDrawnVersion page = .ok ()
  | .written edit => ∃ new, own = some new ∧ edit.Makes rule moving existed committed new
  | _ => own = none

namespace PageServer

variable {rule : PageRule} {moving : Bool} {start : Option PageRow} {server after : PageServer} {id : Id}

/-- The committed page goes by edits, and the sessions fit it. -/
structure Sound (rule : PageRule) (moving : Bool) (start : Option PageRow) (server : PageServer) : Prop where
  versions : Versions (PageEdit.Makes rule moving server.existed) start server.done server.stored.committed
  fine : ∀ page, start = some page → rule.fine server.existed page
  fit : Fit (fun _ => PageSession.Fits rule moving server.existed) server.stored server.sessions
  exist : server.checks ⊆ server.existed

/-- Every version keeps the rule. -/
theorem Sound.allFine (sound : server.Sound rule moving start) :
    ∀ version ∈ server.versions, ∀ page, version = some page → rule.fine server.existed page := by
  refine sound.versions.keeps ?_ sound.fine
  rintro edit old new ⟨⟨page, rfl, -, made, -⟩, known⟩ wasFine row rfl
  exact rule.keeps (wasFine page rfl) known made

theorem Sound.committedFine (sound : server.Sound rule moving start) {page : PageRow}
    (isPage : server.stored.committed = some page) : rule.fine server.existed page :=
  sound.allFine _ (last_mem_versionsOf _ _) page isPage

/-- A session whose version is rolled back. -/
theorem Sound.giveUp (sound : server.Sound rule moving start) {session : PageSession}
    (ended : ∀ committed, session.Fits rule moving server.existed committed none) :
    ({ server.setSession id session with stored := server.stored.rollback id } : PageServer).Sound
      rule moving start where
  versions := by
    show Versions _ start server.done (server.stored.rollback id).committed
    rw [Stored.rollback_committed]
    exact sound.versions
  fine := sound.fine
  fit := sound.fit.rollback (ended _)
  exist := sound.exist

theorem Sound.setSession (sound : server.Sound rule moving start) {session : PageSession}
    (fits : session.Fits rule moving server.existed server.stored.committed (server.stored.own id)) :
    (server.setSession id session).Sound rule moving start :=
  ⟨sound.versions, sound.fine, sound.fit.goOn fits, sound.exist⟩

theorem Sound.refuse (sound : server.Sound rule moving start) (error : PageError) :
    (server.refuse id error).Sound rule moving start := sound.giveUp fun _ => rfl

theorem Sound.openRequest (sound : server.Sound rule moving start) {request : PageRequest} {drawn : Option Nat}
    (opened : server.openRequest id request drawn = some after) : after.Sound rule moving start := by
  rw [PageServer.openRequest] at opened
  split at opened
  · rename_i absent
    cases opened
    have unwritten := sound.fit id
    rw [absent] at unwritten
    refine sound.setSession ⟨unwritten, ?_, ?_⟩
    · intro config isConfig
      cases isConfig
    · intro seen isSeen
      cases isSeen
  · cases opened

theorem Sound.readConfig (sound : server.Sound rule moving start) (read : server.readConfig id = some after) :
    after.Sound rule moving start := by
  rw [PageServer.readConfig] at read
  split at read
  · rename_i editing opened
    split_ifs at read
    obtain ⟨unwritten, known⟩ := opened ▸ sound.fit id
    split at read
    · rename_i page isPage
      cases read
      refine sound.setSession ⟨unwritten, ?_, known.checks⟩
      intro config isConfig
      cases Option.some.inj isConfig
      exact ⟨page, sound.committedFine isPage, rfl⟩
    · cases read
      exact sound.refuse _
  · cases read

theorem Sound.lock (sound : server.Sound rule moving start) (locked : server.lock id = some after) :
    after.Sound rule moving start := by
  rw [PageServer.lock] at locked
  split at locked
  · rename_i editing opened
    obtain ⟨unwritten, known⟩ := opened ▸ sound.fit id
    cases found : server.stored.found id with
    | none =>
      simp only [found] at locked
      split_ifs at locked
      cases locked
      exact sound.refuse _
    | some row =>
      have isRow : row = server.stored.committed := Stored.found_unwritten unwritten found
      cases row with
      | none =>
        simp only [found] at locked
        split_ifs at locked
        cases locked
        exact sound.refuse _
      | some page =>
        cases current : editing.requireDrawnVersion page with
        | error error =>
          simp only [found, current] at locked
          split_ifs at locked
          cases locked
          exact sound.refuse _
        | ok _ =>
          simp only [found, current] at locked
          split_ifs at locked
          cases locked
          refine ⟨sound.versions, sound.fine, sound.fit.write found ?_, sound.exist⟩
          exact ⟨congrArg some isRow, known, page, isRow.symm, current⟩
  · cases locked

theorem Sound.lookUp (sound : server.Sound rule moving start) (looked : server.lookUp id = some after) :
    after.Sound rule moving start := by
  rw [PageServer.lookUp] at looked
  split at looked
  · rename_i editing locked
    split_ifs at looked
    cases looked
    obtain ⟨own, known, page, isPage, current⟩ := locked ▸ sound.fit id
    refine sound.setSession ⟨own, ⟨known.config, ?_⟩, page, isPage, current⟩
    intro seen isSeen other mem
    cases Option.some.inj isSeen
    exact sound.exist mem
  · cases looked

theorem Sound.write (sound : server.Sound rule moving start) {now : Nat} {slugTaken : Bool}
    (later : moving = true → server.clockMoves (.write id now slugTaken) = true)
    (written : server.write id now slugTaken = some after) : after.Sound rule moving start := by
  rw [PageServer.write] at written
  split at written
  · rename_i editing locked
    split_ifs at written
    obtain ⟨own, known, page, isPage, current⟩ := locked ▸ sound.fit id
    rw [own, isPage] at written
    dsimp only at written
    split at written
    · cases written
      exact sound.refuse _
    · rename_i row made
      cases written
      refine ⟨sound.versions, sound.fine, sound.fit.write (Stored.found_of_own own) ?_, sound.exist⟩
      refine ⟨row, rfl, ⟨page, isPage, current, made, fun moves => ?_⟩, known⟩
      simpa [clockMoves, isPage] using later moves
  · cases written

theorem Sound.commit (sound : server.Sound rule moving start) (committed : server.commit id = some after) :
    after.Sound rule moving start := by
  rw [PageServer.commit] at committed
  split at committed
  · rename_i edit written
    cases committed
    obtain ⟨new, own, makes⟩ := written ▸ sound.fit id
    refine ⟨?_, sound.fine, sound.fit.commit (fun _ => rfl) (fun _ _ => rfl) ?_, sound.exist⟩
    · show Versions _ start _ (server.stored.commit id).committed
      rw [Stored.commit_of_own own]
      exact .edit sound.versions makes
    · -- Nobody else holds the row, so what is known of the others does not speak of it.
      intro row isOwn other apart fits
      generalize server.sessions other = session at fits ⊢
      cases session with
      | opened editing => exact fits
      | locked editing => cases fits.1
      | written edit =>
        obtain ⟨new, held, -⟩ := fits
        cases held
      | _ => rfl
  · cases committed

theorem Sound.rollBack (sound : server.Sound rule moving start) (rolled : server.rollBack id = some after) :
    after.Sound rule moving start := by
  rw [PageServer.rollBack] at rolled
  split at rolled
  · cases rolled
    exact sound.giveUp fun _ => rfl
  · cases rolled
    exact sound.giveUp fun _ => rfl
  · cases rolled
    exact sound.giveUp fun _ => rfl
  · cases rolled

theorem Sound.others (sound : server.Sound rule moving start) (checks agents : List Uuid) :
    ({ server with checks, agents, existed := server.existed ++ checks } : PageServer).Sound rule moving start := by
  have more : server.existed ⊆ server.existed ++ checks := List.subset_append_left ..
  have makes : ∀ edit old new, PageEdit.Makes rule moving server.existed edit old new →
      PageEdit.Makes rule moving (server.existed ++ checks) edit old new :=
    fun edit old new made => ⟨made.row, made.known.mono more⟩
  refine ⟨sound.versions.mono makes, fun page isStart => rule.mono more (sound.fine page isStart), ?_,
    List.subset_append_right ..⟩
  refine sound.fit.mono fun other session committed own fits => ?_
  cases session with
  | opened editing => exact ⟨fits.1, fits.2.mono more⟩
  | locked editing => exact ⟨fits.1, fits.2.1.mono more, fits.2.2⟩
  | written edit =>
    obtain ⟨new, isOwn, made⟩ := fits
    exact ⟨new, isOwn, makes _ _ _ made⟩
  | _ => exact fits

/-- **One statement.** -/
theorem Sound.step (sound : server.Sound rule moving start) {statement : PageStatement}
    (later : moving = true → server.clockMoves statement = true)
    (stepped : PageServer.step statement server = some after) : after.Sound rule moving start := by
  cases statement with
  | openRequest id request drawn => exact sound.openRequest stepped
  | readConfig id => exact sound.readConfig stepped
  | lock id => exact sound.lock stepped
  | lookUp id => exact sound.lookUp stepped
  | write id now slugTaken => exact sound.write later stepped
  | commit id => exact sound.commit stepped
  | rollBack id => exact sound.rollBack stepped
  | others checks agents =>
    cases stepped
    exact sound.others checks agents

theorem Fresh.sound (fresh : server.Fresh)
    (fine : ∀ page, server.stored.committed = some page → rule.fine server.existed page) :
    server.Sound rule moving server.stored.committed where
  versions := by
    rw [fresh.done]
    exact .start
  fine := fine
  fit := by
    intro id
    rw [fresh.absent id]
    exact Stored.own_of_free fresh.free id
  exist := by
    rw [fresh.existed]
    exact List.Subset.refl _

/-! ## Whole runs -/

/-- The version a page shows; a page that is gone shows none and changes no more. -/
def stamp (version : Option PageRow) : WithTop Nat := version.elim ⊤ fun page => page.updatedAt

/-- A later edit moves it. -/
theorem stamp_moves {existed : List Uuid} {edit : PageEdit} {old new : Option PageRow}
    (makes : edit.Makes rule true existed old new) : new = old ∨ stamp old < stamp new := by
  obtain ⟨page, rfl, -, made, later⟩ := makes.row
  rcases edit.outcome_time made with unchanged | timed
  · exact Or.inl unchanged
  · refine Or.inr ?_
    cases new with
    | none => exact WithTop.coe_lt_top _
    | some row =>
      show (page.updatedAt : WithTop Nat) < (row.updatedAt : WithTop Nat)
      rw [timed row rfl]
      exact WithTop.coe_lt_coe.mpr (later rfl)

/-- Nothing is asked of the page. -/
def noRule : PageRule where
  fine := fun _ _ => True
  mono := fun _ _ => trivial
  keeps := fun _ _ _ => trivial

def wellFormedRule : PageRule where
  fine := WellFormed
  mono := fun subset fine => fine.mono subset
  keeps := fun fine known made => fine.outcome known made

/-- What an edit leaves of the page it found. -/
def Changes (edit : PageEdit) (old new : Option PageRow) : Prop :=
  ∃ page, old = some page ∧ edit.outcome page = .ok new

/-- **Edits change the page they were drawn from.** In every order of the requests' statements
in which the clock moves on from one write of the page to the next, the page comes of the
committed edits, each made on what the one before it left. One that names an item by its
position is made on the very page that was drawn with the version it brings: whatever else
the page has been, with that version it was this one. -/
theorem edits_on_drawn_page {start : PageServer} (fresh : start.Fresh) (run : Runs step clockMoves start after) :
    Versions Changes start.stored.committed after.done after.stored.committed ∧
      ∀ edit found, (edit, found) ∈ after.done → edit.request.namesPosition = true →
        ∃ page, found = some page ∧ edit.drawn = some page.updatedAt ∧
          ∀ version, some version ∈ after.versions → edit.drawn = some version.updatedAt → version = page := by
  have sound : after.Sound noRule true start.stored.committed :=
    run.keeps (fun _ _ _ allowed stepped sound => sound.step (fun _ => allowed) stepped)
      (fresh.sound fun _ _ => trivial)
  constructor
  · apply sound.versions.mono
    rintro edit old new ⟨⟨page, isPage, -, made, -⟩, -⟩
    exact ⟨page, isPage, made⟩
  · intro edit found mem positional
    obtain ⟨new, ⟨page, rfl, current, -, -⟩, -⟩ := sound.versions.made mem
    have drawn : edit.drawn = some page.updatedAt := by
      by_contra other
      rw [Editing.requireDrawnVersion, if_pos ⟨positional, other⟩] at current
      cases current
    refine ⟨page, rfl, drawn, fun version isVersion same => ?_⟩
    have here : some page ∈ after.versions :=
      List.mem_append_left _ (List.mem_map.mpr ⟨_, mem, rfl⟩)
    have sameStamp : stamp (some version) = stamp (some page) :=
      congrArg ((↑) : Nat → WithTop Nat) (Option.some.inj (same.symm.trans drawn))
    exact Option.some.inj
      (sound.versions.eq_of_stamp (fun _ _ _ => stamp_moves) _ isVersion _ here sameStamp)

/-- **Pages stay well formed.** Whatever requests edit a page after its creation, in whatever
order their statements come, all that is ever committed holds what a valid list of items
stores, in its order, within the caps, of checks that there have been, and its config is the
window alone. -/
theorem pages_stay_well_formed {start : PageServer} {data : PageCreate} {now : Nat} (fresh : start.Fresh)
    (created : start.stored.committed = some (data.row now))
    (references : ∀ id ∈ schemaCheckIds data.items, id ∈ start.checks)
    (run : Runs step (fun _ _ => true) start after) :
    ∀ page, some page ∈ after.versions →
      WellFormed after.existed page ∧ ∃ items, page.items = storedItems items := by
  have startFine : ∀ page, start.stored.committed = some page → WellFormed start.existed page := by
    intro page isPage
    rw [created] at isPage
    cases isPage
    rw [fresh.existed]
    exact .of_create now data references
  have sound : after.Sound wellFormedRule false start.stored.committed :=
    run.keeps (fun _ _ _ _ stepped sound => sound.step (fun moves => by cases moves) stepped)
      (fresh.sound startFine)
  intro page isVersion
  have fine : WellFormed after.existed page := sound.allFine _ isVersion page rfl
  exact ⟨fine, fine.items.stored⟩

/-! ## Two editors of one drawing -/

def twoChecks : PageCreate where
  name := text "Production"
  slug := text "production"
  description := none
  isPublic := false
  statusBarMinutes := normalizeStatusBarMinutes 30
  items := [.check (Uuid.ofId 7), .check (Uuid.ofId 8)]
  fewItems := by decide
  fewChecks := by decide +kernel

def drawnPage : PageServer where
  stored := ⟨some (twoChecks.row 1), none⟩
  checks := [Uuid.ofId 7, Uuid.ofId 8]

theorem drawnPage_fresh : drawnPage.Fresh := ⟨rfl, fun _ => rfl, rfl, rfl⟩

/-- Two editors remove the first item, each by the page it was shown; so does a third one once
the first is gone. A check is made and added, and the window changed. -/
def editors : List PageStatement :=
  [.openRequest 1 (.removeItem 0) (some 1), .lock 1, .openRequest 2 (.removeItem 0) (some 1), .lock 2,
    .write 1 5 false, .commit 1, .openRequest 3 (.removeItem 0) (some 1), .lock 3,
    .openRequest 4 (.addCheck (Uuid.ofId 9) none) none, .openRequest 5 (.updateStatusPage {} 60) none, .readConfig 5,
    .others [Uuid.ofId 7, Uuid.ofId 8, Uuid.ofId 9] [], .lock 4, .lookUp 4, .write 4 6 false, .commit 4,
    .lock 5, .write 5 7 false, .commit 5]

theorem removed_once : ∃ server, runAll step clockMoves editors drawnPage = some server ∧
    server.done.map (fun entry => entry.1.now) = [5, 6, 7] ∧
      Versions Changes drawnPage.stored.committed server.done server.stored.committed ∧
        ∀ edit found, (edit, found) ∈ server.done → edit.request.namesPosition = true →
          ∃ page, found = some page ∧ edit.drawn = some page.updatedAt ∧
            ∀ version, some version ∈ server.versions → edit.drawn = some version.updatedAt → version = page :=
  ⟨_, rfl, rfl, edits_on_drawn_page drawnPage_fresh (@Runs.of_runAll _ _ step clockMoves drawnPage _ editors rfl)⟩

theorem production_well_formed : ∃ server, runAll step (fun _ _ => true) editors drawnPage = some server ∧
    (server.stored.committed.map fun page => namedCheckIds page.items) = some [Uuid.ofId 8, Uuid.ofId 9] ∧
      ∀ page, some page ∈ server.versions → WellFormed server.existed page ∧ ∃ items, page.items = storedItems items :=
  ⟨_, rfl, by decide +kernel, pages_stay_well_formed drawnPage_fresh rfl (by decide +kernel)
    (@Runs.of_runAll _ _ step (fun _ _ => true) drawnPage _ editors rfl)⟩

end PageServer

end LuxSwirl.Server
