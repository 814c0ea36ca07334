import LuxSwirl.Agent.JobProcessor
import LuxSwirl.Server.Jobs

/-!
# A job is run once

A job at the server and the agent that it is for. The agent has one heartbeat under way at a
time. It may give one up and send the next while the server is still at the first; then both
of their transactions may dispatch the job. The answer to the one that was given up goes
nowhere, and the next one's is the only one to arrive. Once an answer with the job has
arrived, no later heartbeat finds it pending.

So the agent receives a job at most once, and runs it and submits its result at most once
(`run_at_most_once`).
-/

namespace LuxSwirl.System.JobRuns
open LuxSwirl.Py LuxSwirl.Lib
open Server (Job JobServer JobStatus JobMove Session Statement Answer)
open Agent.JobProcessor (Processor JobDispatch Registry)

/-! ## What a statement does -/

/-- How a session goes on without writing. -/
inductive Goes (enrich : Value → Value) (server : JobServer) : Session → Session → Prop
  | openSession (request : Server.Request) : Goes enrich server .unopened (.opened request)
  | assign (now : Server.Time) (pending : server.stored.committed.status = .pending) :
      Goes enrich server (.opened .heartbeat) (.assigned now)
  | nothing : Goes enrich server (.opened .heartbeat) (.unchanged .heartbeat)
  | wait {request : Server.Request} {move : JobMove} (isMove : request.move enrich = some move) :
      Goes enrich server (.opened request) (.waiting request)
  | unmatched {request : Server.Request} {move : JobMove} (isMove : request.move enrich = some move) :
      Goes enrich server (.opened request) (.unchanged request)
  | stale {request : Server.Request} {move : JobMove} (isMove : request.move enrich = some move) :
      Goes enrich server (.waiting request) (.unchanged request)
  | finish (request : Server.Request) : Goes enrich server (.unchanged request) .closed

/-- What a session writes over the version it finds. -/
inductive Writes (enrich : Value → Value) (old : Job) : Session → Server.Request → Job → Prop
  | move {request : Server.Request} {move : JobMove} {now : Server.Time} {job : Job}
      (isMove : request.move enrich = some move) (moved : Server.moveOpenJob move now old = some job) :
      Writes enrich old (.waiting request) request job
  | assign (assignedAt : Server.Time) : Writes enrich old (.assigned assignedAt) .heartbeat (old.assign assignedAt)

/-- What one statement does. -/
inductive Serves (enrich : Value → Value) (server : JobServer) (id : Server.Id) : JobServer → Prop
  | goOn {session : Session} (goes : Goes enrich server (server.sessions id) session) :
      Serves enrich server id (server.setSession id session)
  | write {old job : Job} {request : Server.Request} (found : server.stored.found id = some old)
      (writes : Writes enrich old (server.sessions id) request job) :
      Serves enrich server id { server.setSession id (.wrote request) with stored := server.stored.write id job }
  | commit {request : Server.Request} (wrote : server.sessions id = .wrote request) :
      Serves enrich server id { server.setSession id .closed with
        stored := server.stored.commit id
        answers := request.answers id ++ server.answers }
  | rollback (live : server.sessions id ≠ .unopened) (atWork : server.sessions id ≠ .closed) :
      Serves enrich server id { server.setSession id .closed with stored := server.stored.rollback id }

def session : Statement → Server.Id
  | .openSession id _ | .select id _ _ | .issue id | .execute id _ | .flush id | .commit id | .rollback id => id

section Statements

variable {enrich : Value → Value} {server next : JobServer} {statement : Statement}

theorem serves_of_step (stepped : server.step enrich statement = some next) :
    Serves enrich server (session statement) next := by
  cases statement with
  | openSession id request =>
    rw [JobServer.step] at stepped
    split at stepped <;> cases stepped
    rename_i unopened
    exact .goOn (by rw [session, unopened]; exact .openSession request)
  | select id listed now =>
    rw [JobServer.step, JobServer.select] at stepped
    split at stepped <;> cases stepped
    rename_i opened
    refine .goOn ?_
    rw [session, opened]
    split_ifs with listed
    · exact .assign now listed.2
    · exact .nothing
  | issue id =>
    rw [JobServer.step, JobServer.issue] at stepped
    split at stepped
    · rename_i request opened
      obtain ⟨move, isMove, rfl⟩ := Option.map_eq_some_iff.mp stepped
      refine .goOn ?_
      rw [session, opened]
      split_ifs
      · exact .wait isMove
      · exact .unmatched isMove
    · cases stepped
  | execute id now =>
    rw [JobServer.step, JobServer.execute] at stepped
    split at stepped
    · rename_i request waiting
      split at stepped
      · rename_i move job isMove found
        split at stepped <;> cases stepped
        · rename_i moved isMoved
          exact .write found (by rw [session, waiting]; exact .move isMove isMoved)
        · exact .goOn (by rw [session, waiting]; exact .stale isMove)
      · cases stepped
    · cases stepped
  | flush id =>
    rw [JobServer.step, JobServer.flush] at stepped
    split at stepped <;> cases stepped
    rename_i assignedAt job assigned found
    exact .write found (by rw [session, assigned]; exact .assign assignedAt)
  | commit id =>
    rw [JobServer.step, JobServer.commit] at stepped
    split at stepped <;> cases stepped
    · rename_i request wrote
      exact .commit wrote
    · rename_i request unchanged
      exact .goOn (by rw [session, unchanged]; exact .finish request)
  | rollback id =>
    rw [JobServer.step, JobServer.rollback] at stepped
    split at stepped <;> cases stepped
    rename_i atWork live
    exact .rollback atWork live

/-- A session is open right after it was opened. -/
theorem opened_of_step (stepped : server.step enrich statement = some next) {request : Server.Request}
    (opened : next.sessions (session statement) = .opened request) :
    statement = .openSession (session statement) request := by
  have unopened : server.sessions (session statement) = .unopened := by
    cases serves_of_step stepped with
    | goOn goes =>
      rw [JobServer.setSession_same] at opened
      rw [opened] at goes
      generalize server.sessions (session statement) = before at goes
      cases goes
      rfl
    | _ => cases (JobServer.setSession_same ..).symm.trans opened
  cases statement with
  | openSession id given =>
    rw [JobServer.step] at stepped
    split at stepped <;> cases stepped
    cases (JobServer.setSession_same ..).symm.trans opened
    rfl
  | select id listed now => simp_all [session, JobServer.step, JobServer.select]
  | issue id => simp_all [session, JobServer.step, JobServer.issue]
  | execute id now => simp_all [session, JobServer.step, JobServer.execute]
  | flush id => simp_all [session, JobServer.step, JobServer.flush]
  | commit id => simp_all [session, JobServer.step, JobServer.commit]
  | rollback id => simp_all [session, JobServer.step, JobServer.rollback]

end Statements

/-! ## No job is pending again -/

/-- The requests there are: a status is only set to running, by the notice of a start. -/
def routed : Server.Request → Bool
  | .updateJobStatus status => decide (status = .running)
  | _ => true

/-- The request a session is of. -/
def requestOf : Session → Option Server.Request
  | .opened request | .waiting request | .wrote request | .unchanged request => some request
  | .assigned _ => some .heartbeat
  | .unopened | .closed => none

/-- Nothing writes a pending job, and a job that was dispatched is not pending. -/
structure Told (server : JobServer) : Prop where
  proper : ∀ id request, requestOf (server.sessions id) = some request → routed request = true
  wrote : ∀ id request, server.sessions id = .wrote request → ∃ job, server.stored.own id = some job
  owned : ∀ id job, server.stored.own id = some job → job.status ≠ .pending
  told : ∀ id, .dispatched id ∈ server.answers →
    server.sessions id = .closed ∧ server.stored.committed.status ≠ .pending

section Server

variable {enrich : Value → Value} {server next : JobServer} {id : Server.Id}

theorem status_of_move {request : Server.Request} {move : JobMove} (isMove : request.move enrich = some move)
    (isRouted : routed request = true) : move.status ≠ .pending := by
  cases request with
  | heartbeat => cases isMove
  | updateJobStatus status =>
    cases isMove
    rw [of_decide_eq_true isRouted]
    simp
  | submitJobResult data =>
    rw [Server.Request.move] at isMove
    split_ifs at isMove <;> cases isMove <;> simp
  | cancelJob =>
    cases isMove
    simp

theorem goes_request {before after : Session} (goes : Goes enrich server before after) :
    (∀ request, after ≠ .wrote request) ∧ (∀ request, before ≠ .wrote request) ∧ before ≠ .closed ∧
      ((∃ request, after = .opened request) ∨ ∀ request, requestOf after = some request →
        requestOf before = some request) := by
  cases goes <;> refine ⟨fun _ same => ?_, fun _ same => ?_, fun same => ?_, ?_⟩ <;> first
    | cases same
    | exact .inl ⟨_, rfl⟩
    | exact .inr fun _ same => same
    | exact .inr fun _ same => by cases same

theorem request_of_writes {old job : Job} {session : Session} {request : Server.Request}
    (writes : Writes enrich old session request job) : requestOf session = some request := by
  cases writes <;> rfl

theorem status_of_writes {old job : Job} {session : Session} {request : Server.Request}
    (writes : Writes enrich old session request job) (isRouted : routed request = true) : job.status ≠ .pending := by
  cases writes with
  | move isMove moved =>
    rw [(Server.moveOpenJob_keeps moved).2]
    exact status_of_move isMove isRouted
  | assign assignedAt => simp [Job.assign]

/-- A session other than the one that goes on is as it was. -/
theorem sessions_of_serves (serves : Serves enrich server id next) {other : Server.Id} (apart : other ≠ id) :
    next.sessions other = server.sessions other := by
  cases serves <;> exact JobServer.setSession_other apart ..

/-- A job that is not pending is not written pending. -/
theorem Told.stays (told : Told server) (serves : Serves enrich server id next)
    (moved : server.stored.committed.status ≠ .pending) : next.stored.committed.status ≠ .pending := by
  cases serves with
  | goOn goes => exact moved
  | write found writes => exact moved
  | @commit request wrote =>
    obtain ⟨job, own⟩ := told.wrote id request wrote
    show (server.stored.commit id).committed.status ≠ .pending
    rw [Stored.commit_of_own own]
    exact told.owned id job own
  | rollback live atWork =>
    show (server.stored.rollback id).committed.status ≠ .pending
    rw [Stored.rollback_committed]
    exact moved

theorem Told.step (told : Told server) (serves : Serves enrich server id next)
    (opens : ∀ request, next.sessions id = .opened request → routed request = true) : Told next := by
  have stays := told.stays serves
  have others {other : Server.Id} (apart : other ≠ id) := sessions_of_serves serves apart
  cases serves with
  | @goOn session goes =>
    obtain ⟨notWrote, -, live, from_⟩ := goes_request goes
    refine ⟨fun other request isRequest => ?_, fun other request wrote => ?_, told.owned,
      fun other dispatched => ?_⟩
    · by_cases same : other = id
      · subst same
        rw [JobServer.setSession_same] at isRequest
        rcases from_ with ⟨opened, rfl⟩ | before
        · cases isRequest
          exact opens _ (JobServer.setSession_same ..)
        · exact told.proper other request (before request isRequest)
      · rw [others same] at isRequest
        exact told.proper other request isRequest
    · by_cases same : other = id
      · rw [same, JobServer.setSession_same] at wrote
        exact absurd wrote (notWrote request)
      · rw [others same] at wrote
        exact told.wrote other request wrote
    · obtain ⟨closed, moved⟩ := told.told other dispatched
      have apart : other ≠ id := fun same => live (same ▸ closed)
      exact ⟨(others apart).trans closed, moved⟩
  | @write old job request found writes =>
    have isRequest := request_of_writes writes
    have isRouted := told.proper id request isRequest
    have ownOther {other : Server.Id} (apart : other ≠ id) : (server.stored.write id job).own other = none :=
      Stored.own_other (Stored.own_write id job server.stored) apart
    refine ⟨fun other again isAgain => ?_, fun other again wrote => ?_, fun other row own => ?_,
      fun other dispatched => ?_⟩
    · by_cases same : other = id
      · subst same
        rw [JobServer.setSession_same] at isAgain
        cases isAgain
        exact isRouted
      · rw [others same] at isAgain
        exact told.proper other again isAgain
    · by_cases same : other = id
      · exact ⟨job, same ▸ Stored.own_write ..⟩
      · rw [others same] at wrote
        obtain ⟨row, own⟩ := told.wrote other again wrote
        rw [Stored.own_other_of_found found same] at own
        cases own
    · by_cases same : other = id
      · subst same
        cases own.symm.trans (Stored.own_write ..)
        exact status_of_writes writes isRouted
      · cases own.symm.trans (ownOther same)
    · obtain ⟨closed, moved⟩ := told.told other dispatched
      have apart : other ≠ id := by
        rintro rfl
        rw [closed] at isRequest
        cases isRequest
      exact ⟨(others apart).trans closed, moved⟩
  | @commit request wrote =>
    obtain ⟨job, own⟩ := told.wrote id request wrote
    have stored : server.stored.commit id = ⟨job, none⟩ := Stored.commit_of_own own
    refine ⟨fun other again isAgain => ?_, fun other again isWriter => ?_, fun other row isOwn => ?_,
      fun other dispatched => ?_⟩
    · by_cases same : other = id
      · rw [same, JobServer.setSession_same] at isAgain
        cases isAgain
      · rw [others same] at isAgain
        exact told.proper other again isAgain
    · by_cases same : other = id
      · rw [same, JobServer.setSession_same] at isWriter
        cases isWriter
      · rw [others same] at isWriter
        obtain ⟨row, ownsToo⟩ := told.wrote other again isWriter
        rw [Stored.own_other own same] at ownsToo
        cases ownsToo
    · rw [stored] at isOwn
      cases isOwn
    · have moved : (server.stored.commit id).committed.status ≠ .pending := by
        rw [stored]
        exact told.owned id job own
      rcases List.mem_append.mp dispatched with isNew | before
      · have same : other = id := by
          cases request <;> simp [Server.Request.answers] at isNew
          exact isNew
        rw [same]
        exact ⟨JobServer.setSession_same .., moved⟩
      · obtain ⟨closed, -⟩ := told.told other before
        have apart : other ≠ id := by
          rintro rfl
          rw [closed] at wrote
          cases wrote
        exact ⟨(others apart).trans closed, moved⟩
  | rollback live atWork =>
    refine ⟨fun other again isAgain => ?_, fun other again isWriter => ?_, fun other row isOwn => ?_,
      fun other dispatched => ?_⟩
    · by_cases same : other = id
      · rw [same, JobServer.setSession_same] at isAgain
        cases isAgain
      · rw [others same] at isAgain
        exact told.proper other again isAgain
    · by_cases same : other = id
      · rw [same, JobServer.setSession_same] at isWriter
        cases isWriter
      · rw [others same] at isWriter
        obtain ⟨row, own⟩ := told.wrote other again isWriter
        exact ⟨row, (Stored.own_rollback_other same).trans own⟩
    · by_cases same : other = id
      · rw [same, Stored.own_rollback] at isOwn
        cases isOwn
      · rw [Stored.own_rollback_other same] at isOwn
        exact told.owned other row isOwn
    · obtain ⟨closed, moved⟩ := told.told other dispatched
      have apart : other ≠ id := fun same => atWork (same ▸ closed)
      exact ⟨(others apart).trans closed, stays moved⟩

/-- The heartbeat of a session tells of no dispatch, and will not. -/
structure Quiet (server : JobServer) (id : Server.Id) : Prop where
  session : server.sessions id ∈ [.opened .heartbeat, .unchanged .heartbeat, .closed]
  untold : .dispatched id ∉ server.answers

/-- It stays so once the job is not pending. -/
theorem Quiet.step {beat : Server.Id} (quiet : Quiet server beat) (serves : Serves enrich server id next)
    (moved : server.stored.committed.status ≠ .pending) : Quiet next beat := by
  obtain ⟨atRest, untold⟩ := quiet
  by_cases same : beat = id
  · subst same
    simp only [List.mem_cons, List.not_mem_nil, or_false] at atRest
    cases serves with
    | @goOn session goes =>
      refine ⟨?_, untold⟩
      rw [JobServer.setSession_same]
      rcases atRest with opened | unchanged | closed
      · rw [opened] at goes
        cases goes with
        | assign now pending => exact absurd pending moved
        | nothing => simp
        | wait isMove => cases isMove
        | unmatched isMove => cases isMove
      · rw [unchanged] at goes
        cases goes
        simp
      · rw [closed] at goes
        cases goes
    | write found writes =>
      rcases atRest with other | other | other <;> rw [other] at writes <;> cases writes
    | commit wrote =>
      rcases atRest with other | other | other <;> cases other.symm.trans wrote
    | rollback live atWork => exact ⟨by simp, untold⟩
  · rw [← sessions_of_serves serves same] at atRest
    refine ⟨atRest, ?_⟩
    cases serves with
    | @commit request wrote =>
      refine fun told => (List.mem_append.mp told).elim (fun isNew => ?_) untold
      cases request <;> simp [Server.Request.answers] at isNew
      exact same isNew
    | _ => exact untold

end Server

/-! ## The agent -/

/-- The server, the heartbeat under way, the processor, and how many answers with the job have
arrived. -/
structure Deployment where
  server : JobServer
  beat : Option Server.Id := none
  processor : Processor := {}
  received : Nat := 0

inductive Event where
  /-- A statement at the server, of a heartbeat that was sent or of any other request. -/
  | server (statement : Statement)
  /-- The agent sends a heartbeat. -/
  | send (id : Server.Id)
  /-- Its answer arrives, with some other jobs. -/
  | arrive (before after : List JobDispatch)
  /-- It gives the heartbeat up. -/
  | giveUp
  | worker (event : Agent.JobProcessor.Event)

/-- No request of another agent's is a heartbeat of this one, and a notice sets running. -/
def foreign : Statement → Bool
  | .openSession _ .heartbeat => false
  | .openSession _ request => routed request
  | _ => true

def ofWorker : Agent.JobProcessor.Event → Bool
  | .enqueueJobs _ => false
  | _ => true

def step (enrich : Value → Value) (registry : Registry) (job : JobDispatch) :
    Event → Deployment → Option Deployment
  | .server statement, deployment =>
    if foreign statement then
      (deployment.server.step enrich statement).map fun server => { deployment with server }
    else none
  | .send id, deployment =>
    if deployment.beat = none then
      (deployment.server.step enrich (.openSession id .heartbeat)).map fun server =>
        { deployment with server, beat := some id }
    else none
  | .arrive before after, deployment =>
    match deployment.beat with
    | none => none
    | some id =>
      match deployment.server.sessions id with
      | .closed =>
        if (before ++ after).all fun other => decide (other.jobId ≠ job.jobId) then
          let told := .dispatched id ∈ deployment.server.answers
          some { deployment with
            beat := none
            processor := deployment.processor.enqueueJobs (before ++ (if told then job :: after else after))
            received := if told then deployment.received + 1 else deployment.received }
        else none
      | _ => none
  | .giveUp, deployment => some { deployment with beat := none }
  | .worker event, deployment =>
    if ofWorker event then
      (Agent.JobProcessor.step registry event deployment.processor).map fun processor => { deployment with processor }
    else none

section Agent

variable {enrich : Value → Value} {registry : Registry} {job : JobDispatch} {deployment next : Deployment}
  {event : Event}

/-- How many of the jobs are this one. -/
def times (job : JobDispatch) (jobs : List JobDispatch) : Nat :=
  jobs.countP fun other => decide (other.jobId = job.jobId)

theorem times_append (job : JobDispatch) (jobs more : List JobDispatch) :
    times job (jobs ++ more) = times job jobs + times job more := List.countP_append ..

theorem times_eq_zero {jobs : List JobDispatch} (others : ∀ other ∈ jobs, other.jobId ≠ job.jobId) :
    times job jobs = 0 := by
  rw [times, List.countP_eq_zero]
  exact fun other mem same => others other mem (of_decide_eq_true same)

theorem accepted_enqueueJobs (job : JobDispatch) (jobs : List JobDispatch) (processor : Processor) :
    times job (processor.enqueueJobs jobs).accepted ≤ times job processor.accepted + times job jobs := by
  induction jobs generalizing processor with
  | nil => exact Nat.le_refl _
  | cons first rest ih =>
    rw [Processor.enqueueJobs]
    cases first.priority with
    | none => exact Nat.le_add_right ..
    | some priority =>
      refine (ih (processor.put first priority)).trans ?_
      have isPut : times job (processor.put first priority).accepted =
          times job processor.accepted + times job [first] := List.countP_append ..
      have both : times job (first :: rest) = times job [first] + times job rest := times_append job [first] rest
      omega

theorem accepted_worker {event : Agent.JobProcessor.Event} {processor after : Processor} (own : ofWorker event = true)
    (stepped : Agent.JobProcessor.step registry event processor = some after) :
    after.accepted = processor.accepted := by
  cases event with
  | enqueueJobs jobs => cases own
  | getStats => cases stepped; rfl
  | take => obtain ⟨-, entry, queue, -, rfl⟩ := Agent.JobProcessor.take_eq_some stepped; rfl
  | started => obtain ⟨job, -, rfl⟩ := Agent.JobProcessor.started_eq_some stepped; rfl
  | ended outcome => obtain ⟨job, -, rfl⟩ := Agent.JobProcessor.ended_eq_some stepped; rfl
  | submitted => obtain ⟨job, result, first, -, rfl⟩ := Agent.JobProcessor.submit_eq_some stepped; rfl
  | stop => cases stepped; rfl

/-- The job arrived at most once, and once it has, the job is not pending and the heartbeat
under way tells of none. -/
structure Once (job : JobDispatch) (deployment : Deployment) : Prop where
  told : Told deployment.server
  accounted : deployment.processor.Accounted
  accepted : times job deployment.processor.accepted ≤ deployment.received
  bound : deployment.received ≤ 1
  moved : deployment.received = 1 → deployment.server.stored.committed.status ≠ .pending
  quiet : deployment.received = 1 → ∀ id, deployment.beat = some id → Quiet deployment.server id

namespace Once

theorem server (once : Once job deployment) {server : JobServer} {id : Server.Id}
    (serves : Serves enrich deployment.server id server)
    (opens : ∀ request, server.sessions id = .opened request → routed request = true) :
    Once job { deployment with server } := by
  refine ⟨once.told.step serves opens, once.accounted, once.accepted, once.bound, fun arrived => ?_,
    fun arrived beat isBeat => ?_⟩
  · exact once.told.stays serves (once.moved arrived)
  · exact (once.quiet arrived beat isBeat).step serves (once.moved arrived)

theorem send (once : Once job deployment) {id : Server.Id} {server : JobServer}
    (stepped : deployment.server.step enrich (.openSession id .heartbeat) = some server) :
    Once job { deployment with server, beat := some id } := by
  have unopened : deployment.server.sessions id = .unopened ∧
      server = deployment.server.setSession id (.opened .heartbeat) := by
    rw [JobServer.step] at stepped
    split at stepped <;> cases stepped
    exact ⟨‹_›, rfl⟩
  obtain ⟨isNew, rfl⟩ := unopened
  have served := once.server (serves_of_step stepped) fun request opened => ?_
  · refine ⟨served.told, served.accounted, served.accepted, served.bound, served.moved, fun _ other same => ?_⟩
    cases same
    refine ⟨by simp, fun dispatched => ?_⟩
    cases isNew.symm.trans (once.told.told id dispatched).1
  · cases (JobServer.setSession_same id (.opened .heartbeat) deployment.server).symm.trans opened
    rfl

theorem arrive (once : Once job deployment) {id : Server.Id} (isBeat : deployment.beat = some id)
    {before after : List JobDispatch} (others : ∀ other ∈ before ++ after, other.jobId ≠ job.jobId) :
    Once job { deployment with
      beat := none
      processor := deployment.processor.enqueueJobs
        (before ++ (if .dispatched id ∈ deployment.server.answers then job :: after else after))
      received := if .dispatched id ∈ deployment.server.answers then deployment.received + 1
        else deployment.received } := by
  obtain ⟨fewBefore, fewAfter⟩ := List.forall_mem_append.mp others
  have accounted (jobs : List JobDispatch) : (deployment.processor.enqueueJobs jobs).Accounted :=
    Agent.JobProcessor.enqueueJobs_keeps (fun _ job priority kept => kept.put job priority) jobs once.accounted
  have accepted := once.accepted
  by_cases dispatched : .dispatched id ∈ deployment.server.answers
  · -- the first answer with the job: a second one would be of a quiet heartbeat
    have first : deployment.received = 0 := by
      have bound := once.bound
      by_contra some
      exact (once.quiet (by omega) id isBeat).untold dispatched
    have moved := (once.told.told id dispatched).2
    simp only [if_pos dispatched]
    refine ⟨once.told, accounted _, ?_, ?_, fun _ => moved, fun _ _ none => by cases none⟩
    on_goal 2 =>
      show deployment.received + 1 ≤ 1
      omega
    have put := accepted_enqueueJobs job (before ++ job :: after) deployment.processor
    have isOne : times job (job :: after) = 1 + times job after := by
      rw [← List.singleton_append, times_append]
      simp [times]
    rw [times_append, times_eq_zero fewBefore, isOne, times_eq_zero fewAfter] at put
    show times job (deployment.processor.enqueueJobs _).accepted ≤ deployment.received + 1
    omega
  · simp only [if_neg dispatched]
    refine ⟨once.told, accounted _, ?_, once.bound, once.moved, fun _ _ none => by cases none⟩
    have put := accepted_enqueueJobs job (before ++ after) deployment.processor
    rw [times_append, times_eq_zero fewBefore, times_eq_zero fewAfter] at put
    show times job (deployment.processor.enqueueJobs _).accepted ≤ deployment.received
    omega

end Once

theorem Once.step (once : Once job deployment) (stepped : step enrich registry job event deployment = some next) :
    Once job next := by
  cases event with
  | server statement =>
    rw [JobRuns.step] at stepped
    split_ifs at stepped with isForeign
    obtain ⟨server, served, rfl⟩ := Option.map_eq_some_iff.mp stepped
    refine once.server (serves_of_step served) fun request opened => ?_
    rw [opened_of_step served opened] at isForeign
    cases request with
    | heartbeat => cases isForeign
    | _ => exact isForeign
  | send id =>
    rw [JobRuns.step] at stepped
    split_ifs at stepped
    obtain ⟨server, served, rfl⟩ := Option.map_eq_some_iff.mp stepped
    exact once.send served
  | arrive before after =>
    rw [JobRuns.step] at stepped
    split at stepped
    · cases stepped
    · rename_i id isBeat
      split at stepped
      · split_ifs at stepped with others
        cases stepped
        refine once.arrive isBeat fun other mem => ?_
        exact of_decide_eq_true (List.all_eq_true.mp others other mem)
      · cases stepped
  | giveUp =>
    cases stepped
    exact ⟨once.told, once.accounted, once.accepted, once.bound, once.moved, fun _ _ none => by cases none⟩
  | worker event =>
    rw [JobRuns.step] at stepped
    split_ifs at stepped with own
    obtain ⟨processor, worked, rfl⟩ := Option.map_eq_some_iff.mp stepped
    refine ⟨once.told, once.accounted.step worked, ?_, once.bound, once.moved, once.quiet⟩
    rw [accepted_worker own worked]
    exact once.accepted

/-- A server with a new job, and an agent that has received nothing. -/
def start (server : JobServer) : Deployment := { server }

theorem once_start {server : JobServer} (fresh : server.Fresh) (job : JobDispatch) : Once job (start server) where
  told :=
    { proper id request isRequest := by
        rw [start, fresh.unopened] at isRequest
        cases isRequest
      wrote id request wrote := by
        rw [start, fresh.unopened] at wrote
        cases wrote
      owned id job own := by
        rw [start, Stored.own_of_free fresh.free] at own
        cases own
      told id dispatched := by
        rw [start, fresh.unanswered] at dispatched
        cases dispatched }
  accounted := .nil
  accepted := Nat.le_refl _
  bound := Nat.zero_le _
  moved received := by cases received
  quiet received := by cases received

end Agent

/-! ## A heartbeat that is given up -/

/-- The server is at the first heartbeat when the agent gives it up and sends the second; both
find the job pending. -/
def twoBeats : List Event :=
  [.send 1, .server (.select 1 true 5), .giveUp, .send 2, .server (.select 2 true 6), .server (.flush 1),
    .server (.commit 1), .server (.flush 2), .server (.commit 2), .arrive [] [], .worker .take, .worker .started,
    .worker (.ended (.executed .none)), .worker .submitted, .send 3, .server (.select 3 true 9),
    .server (.commit 3), .arrive [] []]

end LuxSwirl.System.JobRuns
