import HumanoidMotion.Motion.Epoch
import HumanoidMotion.Node.MoveAction
/-
# The account of a Move

A worker opens its mailbox before it submits, and shuts it when it takes a message or
has canceled its session. So each Move can be accounted for at every step of every
thread: how often it has been admitted, where its last event is, and whether it still
has a session.

* `exec_unstored`, `insertedId_storesId` — a call stores a session under one id at most.
* `Aloof` — what the steps of others leave to a Move.
* `Custody` — the account of one Move, by the stage of its worker.
* `Custody.alone`, `.waits`, `.discards`, `.takes`, `.calls` — the step of the worker.
-/

namespace HumanoidMotion

open Tick

variable {β : Type} {B : Platform β} {lib : MathLib}

/-! ## Who stores a session -/

/-- The id under which a call may store a session. -/
def Op.storesId : Op → Option String
  | .submitMove _ request _ _ => some (requestId request)
  | .updateServo endpoint .. => some (servoId endpoint)
  | _ => none

theorem Created.storesId {p : CommandPipeline β} {op : Op} {session : Session} (hsound : Sound p)
    (h : Created p op session) : op.storesId = some session.sessionId := by
  cases h with
  | submitMove endpoint request now generation policy session hpolicy hvalid =>
    exact congrArg some ((madeFor_of_valid hsound hpolicy hvalid).chosen rfl).symm
  | updateServo endpoint request receivedAt now generation policy session hpolicy hvalid =>
    exact congrArg some ((madeFor_of_valid hsound hpolicy hvalid).derived rfl).symm

/-- A session is stored under no other id than that of the call. -/
theorem Elem.unstored {op : Op} {s s' : TickState β} (hstep : Elem B op s s') (hsound : Sound s.pipeline)
    {id : String} (hid : op.storesId ≠ some id) (h : s.pipeline.sessions[id]? = none) :
    s'.pipeline.sessions[id]? = none := by
  have hinsert : ∀ (k : String) (stored new : Session), s.pipeline.sessions[k]? = some stored →
      (s.pipeline.sessions.insert k new)[id]? = none := by
    intro k stored new hk
    have hne : k ≠ id := by
      rintro rfl
      rw [h] at hk
      cases hk
    simpa [Std.TreeMap.getElem?_insert, hne] using h
  cases hstep with
  | silent p hs => simpa [TickState.withPipeline, hs.sessions] using h
  | terminate k state status preserve =>
    simp only [TickState.withPipeline, CommandPipeline.terminate_sessions]
    split
    · rfl
    · exact h
  | create session servos _ _ hnew =>
    have hne : session.sessionId ≠ id := fun heq => hid (heq ▸ hnew.storesId hsound)
    simpa [TickState.withPipeline, Std.TreeMap.getElem?_insertIfNew, hne] using h
  | retarget k old new hold => exact hinsert k old _ hold
  | progress k session session' hfound => exact hinsert k session _ hfound
  | flush => exact h
  | _ => exact h

variable (B lib) in
theorem exec_unstored {s : CommandPipeline β} (hsound : Sound s) {op : Op} {id : String}
    (hid : op.storesId ≠ some id) (h : s.sessions[id]? = none) :
    (exec B lib s op).2.sessions[id]? = none := by
  obtain ⟨t, helems, hpipeline, -, -⟩ := exec_elems B lib s hsound op
  rw [hpipeline]
  exact (helems.invariant
    (I := fun t => Sound t.pipeline ∧ t.pipeline.sessions[id]? = none)
    (fun _ _ hstep h => ⟨hstep.sound h.1, hstep.unstored h.1 hid h.2⟩) ⟨hsound, h⟩).2

variable (B lib) in
/-- A call that inserts a session inserts it under its id. -/
theorem insertedId_storesId {s : CommandPipeline β} (hsound : Sound s) {op : Op} {id : String}
    (h : insertedId ⟨s, op, (exec B lib s op).1, (exec B lib s op).2⟩ = some id) :
    op.storesId = some id := by
  cases op with
  | submitMove endpoint request now generation =>
    have hout := submitMove_outcome B s endpoint request now generation
    simp only [insertedId, exec] at h
    generalize s.submitMove B endpoint request now generation = answer at h hout
    obtain ⟨result, p⟩ := answer
    simp only at h hout
    cases hout with
    | refused _ hrefused => simp [hrefused] at h
    | lost _ _ _ _ _ _ _ _ _ hrefused => simp [hrefused] at h
    | admitted policy arbPolicy session _ arbitration hvalid _ _ _ settled _ hresult =>
      subst hresult
      have hname := (madeFor_of_valid hsound hvalid.registered hvalid.checked).chosen rfl
      simpa [Op.storesId, hname] using h
  | updateServo endpoint request receivedAt now generation =>
    have hout := updateServo_outcome B s endpoint request receivedAt now generation
    simp only [insertedId, exec] at h
    generalize s.updateServo B endpoint request receivedAt now generation = answer at h hout
    obtain ⟨result, p⟩ := answer
    simp only at h hout
    cases hout with
    | refused _ hrefused => simp [hrefused] at h
    | rejected _ base _ _ _ _ _ _ hbase _ hrefused => simp [hrefused] at h
    | accepted policy arbPolicy session existing base settled _ hupdated hsettled hresult =>
      subst hresult
      have hvalid := hupdated.valid
      have hname := (madeFor_of_valid hsound hvalid.registered hvalid.checked).derived rfl
      obtain ⟨-, hid⟩ := Option.ite_none_right_eq_some.1 h
      exact congrArg some (hname.symm.trans (Option.some.inj hid))
  | _ => simp [insertedId] at h

/-! ## Where a worker stands -/

namespace MoveAt

/-- Nothing has been admitted for the Move yet. -/
def unsubmitted : MoveAt → Bool
  | preparing | checking _ | registering _ | submitting _ | refusing _ => true
  | _ => false

/-- The Move has been admitted and its last event is waited for. -/
def awaits : MoveAt → Bool
  | polling _ | canceling | timing _ | expiring | taking _ | reporting _ | leaving => true
  | _ => false

/-- The pipeline has no session of the Move, and will have none. -/
def gone : MoveAt → Bool
  | dropping | clearing | finishing _ | aborting _ | failDropping _ | failAborting _ | ended _ => true
  | stage => stage.unsubmitted

/-- The mailbox is open, is shut. -/
def opened : MoveAt → Bool
  | submitting _ | refusing _ | dropping | clearing => true
  | stage => stage.awaits

def shut : MoveAt → Bool
  | preparing | checking _ | registering _ | finishing _ | aborting _ | failAborting _ | ended _ => true
  | _ => false

def request? : MoveAt → Option SessionRequest
  | checking request | registering request | submitting request => some request
  | _ => none

/-- Neither an event nor a report goes with the stage. -/
def bare : MoveAt → Bool
  | finishing _ | ended (some _) => false
  | _ => true

/-- What is known at a stage is enough at the next. -/
def leadsTo (stage next : MoveAt) : Bool :=
  (!next.unsubmitted || stage.unsubmitted) && (!next.awaits || stage.awaits) &&
    (!next.gone || stage.gone) && (!next.opened || stage.opened) && (!next.shut || stage.shut)

section
variable {stage next : MoveAt}

theorem ne_finishing_of_bare (h : stage.bare = true) (event : SessionEvent) :
    stage ≠ .finishing event := by
  rintro rfl
  cases h

theorem ne_ended_of_bare (h : stage.bare = true) (report : MoveReport) :
    stage ≠ .ended (some report) := by
  rintro rfl
  cases h

theorem leadsTo_failing (stage : MoveAt) (message : String) :
    stage.leadsTo (.failing message) = true := by
  simp [leadsTo, unsubmitted, awaits, gone, opened, shut]

theorem of_leadsTo (h : stage.leadsTo next = true) :
    (next.unsubmitted = true → stage.unsubmitted = true) ∧
      (next.awaits = true → stage.awaits = true) ∧ (next.gone = true → stage.gone = true) ∧
      (next.opened = true → stage.opened = true) ∧ (next.shut = true → stage.shut = true) := by
  simp only [leadsTo, Bool.and_eq_true, Bool.or_eq_true, Bool.not_eq_true'] at h
  obtain ⟨⟨⟨⟨hunsubmitted, hawaits⟩, hgone⟩, hopened⟩, hshut⟩ := h
  refine ⟨fun hnext => ?_, fun hnext => ?_, fun hnext => ?_, fun hnext => ?_, fun hnext => ?_⟩ <;>
    simp_all

end

end MoveAt

/-- The last events of the sessions of an id. -/
def finals (id : String) (events : List SessionEvent) : List SessionEvent :=
  Mailboxes.addressed SessionEvent.sessionId SessionEvent.isFinal id events

theorem countP_eventsOf (id : String) (events : List SessionEvent) :
    (eventsOf id events).countP SessionEvent.isFinal = (finals id events).length := by
  rw [List.countP_eq_length_filter, eventsOf, List.filter_filter, finals, Mailboxes.addressed]
  refine congrArg List.length (List.filter_congr fun event _ => ?_)
  rw [Bool.and_comm]
  rfl

/-- The mailbox of the id has what has been delivered of its events. -/
def Awaited (past : List (PipelineStage β)) (s : MoveThreads β) (id : String) : Prop :=
  ∃ told, s.mailboxes.Holds id told ∧
    finals id (returned past) = told ++ finals id (s.control.getD [])

/-- An abort, or what the only last event of the session stands for. -/
def Certified (past : List (PipelineStage β)) (id : String) (report : MoveReport) : Prop :=
  report.verdict = .abort ∨ ∃ event, finals id (returned past) = [event] ∧
    (report.verdict, report.status) = verdictOf event

/-- What is known of the Move of a worker. -/
structure Custody (past : List (PipelineStage β)) (s : MoveThreads β) (id : String) (stage : MoveAt) :
    Prop where
  request : ∀ request, stage.request? = some request → requestId request = id
  once : insertions id past ≤ 1
  unsubmitted : stage.unsubmitted = true → insertions id past = 0
  awaits : stage.awaits = true → insertions id past = 1
  gone : stage.gone = true → s.pipeline.sessions[id]? = none
  opened : stage.opened = true → Awaited past s id
  shut : stage.shut = true → s.mailboxes.Closed id
  between : Awaited past s id ∨ s.mailboxes.Closed id
  event : ∀ event, stage = .finishing event → finals id (returned past) = [event]
  report : ∀ report, stage = .ended (some report) → Certified past id report

theorem Accounted.balance {past : List (PipelineStage β)} {s : CommandPipeline β} (h : Accounted past s)
    (id : String) : (finals id (returned past)).length + (finals id s.pendingEvents).length +
      (s.sessions.contains id).toNat = insertions id past := by
  have hcount := (h.told id).count SessionEvent.isFinal_of_isNews
  rwa [List.countP_append, countP_eventsOf, countP_eventsOf] at hcount

theorem Accounted.unstored {past : List (PipelineStage β)} {s : CommandPipeline β}
    (h : Accounted past s) {id : String} (hnone : insertions id past = 0) :
    s.sessions[id]? = none := by
  have hbalance := h.balance id
  rw [hnone] at hbalance
  refine Std.TreeMap.getElem?_eq_none fun hmem => ?_
  have hcontains : s.sessions.contains id = true := hmem
  rw [hcontains] at hbalance
  cases hbalance

/-! ## What a step leaves as it is -/

section
variable {past more : List (PipelineStage β)} {s s' : MoveThreads β} {id : String} {stage : MoveAt}

/-- A step of others, as a Move sees it: the sessions of its id are no more than they were, and its
mailbox gets what is delivered. -/
structure Aloof (past more : List (PipelineStage β)) (s s' : MoveThreads β) (id : String) : Prop where
  insertions : insertions id more = 0
  sessions : s.pipeline.sessions[id]? = none → s'.pipeline.sessions[id]? = none
  awaited : Awaited past s id → Awaited (past ++ more) s' id
  closed : s.mailboxes.Closed id → s'.mailboxes.Closed id

theorem insertions_append (id : String) (past more : List (PipelineStage β)) :
    insertions id (past ++ more) = insertions id past + insertions id more :=
  List.countP_append

theorem finals_append (id : String) (events more : List SessionEvent) :
    finals id (events ++ more) = finals id events ++ finals id more :=
  Mailboxes.addressed_append events more

theorem returned_append (past more : List (PipelineStage β)) :
    returned (past ++ more) = returned past ++ returned more :=
  List.flatMap_append

/-- What the only last event says stays so. -/
theorem finals_single {p : CommandPipeline β} (h : Accounted (past ++ more) p)
    (honce : insertions id (past ++ more) ≤ 1) {event : SessionEvent}
    (hevent : finals id (returned past) = [event]) :
    finals id (returned (past ++ more)) = [event] := by
  have hbalance := h.balance id
  rw [returned_append, finals_append, hevent] at hbalance ⊢
  rw [List.length_append] at hbalance
  have hnil : finals id (returned more) = [] := by
    rw [← List.length_eq_zero_iff]
    simp only [List.length_singleton] at hbalance
    omega
  rw [hnil, List.append_nil]

/-- Steps of others leave all that is known of a Move. -/
theorem Custody.aloof (h : Custody past s id stage) (ha : Aloof past more s s' id)
    (hafter : Accounted (past ++ more) s'.pipeline) : Custody (past ++ more) s' id stage := by
  have hsame : insertions id (past ++ more) = insertions id past := by
    rw [insertions_append, ha.insertions, Nat.add_zero]
  have honce : insertions id (past ++ more) ≤ 1 := hsame.trans_le h.once
  have hsingle : ∀ event, finals id (returned past) = [event] →
      finals id (returned (past ++ more)) = [event] := fun event => finals_single hafter honce
  refine ⟨h.request, honce, fun hstage => hsame.trans (h.unsubmitted hstage),
    fun hstage => hsame.trans (h.awaits hstage), fun hstage => ha.sessions (h.gone hstage),
    fun hstage => ha.awaited (h.opened hstage), fun hstage => ha.closed (h.shut hstage),
    h.between.imp ha.awaited ha.closed, fun event hstage => hsingle event (h.event event hstage),
    fun report hstage => ?_⟩
  exact (h.report report hstage).imp_right fun ⟨event, hevent, hverdict⟩ =>
    ⟨event, hsingle event hevent, hverdict⟩

/-- A step of the worker that touches nothing shared. -/
theorem Custody.moves {next : MoveAt} (h : Custody past s id stage)
    (hleads : stage.leadsTo next = true)
    (hrequest : ∀ request, next.request? = some request → requestId request = id)
    (hbare : next.bare = true) : Custody past s id next := by
  obtain ⟨hunsubmitted, hawaits, hgone, hopened, hshut⟩ := MoveAt.of_leadsTo hleads
  exact ⟨hrequest, h.once, fun hnext => h.unsubmitted (hunsubmitted hnext),
    fun hnext => h.awaits (hawaits hnext), fun hnext => h.gone (hgone hnext),
    fun hnext => h.opened (hopened hnext), fun hnext => h.shut (hshut hnext), h.between,
    fun event hnext => absurd hnext (MoveAt.ne_finishing_of_bare hbare event),
    fun report hnext => absurd hnext (MoveAt.ne_ended_of_bare hbare report)⟩

theorem Custody.goes {next : MoveAt} (h : Custody past s id stage)
    (hleads : stage.leadsTo next = true) (hrequest : next.request? = none) (hbare : next.bare = true) :
    Custody past s id next :=
  h.moves hleads (fun request hsome => by rw [hrequest] at hsome; cases hsome) hbare

/-- The session is over, and the mailbox is shut. -/
theorem Custody.closes {next : MoveAt} (h : Custody past s id stage)
    (hgone : s.pipeline.sessions[id]? = none) {mailboxes : Mailboxes String SessionEvent}
    (hclosed : mailboxes.Closed id) (hrequest : next.request? = none)
    (hunsubmitted : next.unsubmitted = false) (hawaits : next.awaits = false)
    (hopened : next.opened = false)
    (hevent : ∀ event, next = .finishing event → finals id (returned past) = [event])
    (hreport : ∀ report, next = .ended (some report) → Certified past id report) :
    Custody past { s with mailboxes } id next where
  request request hsome := by rw [hrequest] at hsome; cases hsome
  once := h.once
  unsubmitted hnext := by rw [hunsubmitted] at hnext; cases hnext
  awaits hnext := by rw [hawaits] at hnext; cases hnext
  gone _ := hgone
  opened hnext := by rw [hopened] at hnext; cases hnext
  shut _ := hclosed
  between := .inr hclosed
  event := hevent
  report := hreport

end

/-! ## One call of the pipeline -/

section
variable {past : List (PipelineStage β)} {s : MoveThreads β} {id : String} {op : Op}

theorem insertions_stageOf (p : CommandPipeline β) : insertions id [stageOf B lib p op] =
    if insertedId (stageOf B lib p op) = some id then 1 else 0 := by
  simp [insertions, List.countP_singleton]

theorem returned_stageOf (p : CommandPipeline β) :
    returned [stageOf B lib p op] = (exec B lib p op).1.events := by
  simp [returned, stageOf]

theorem exec_events_nil (p : CommandPipeline β) (htick : op.isTick = false) :
    (exec B lib p op).1.events = [] := by
  cases op <;> first | rfl | cases htick

theorem insertions_none {p : CommandPipeline β} (hsound : Sound p) (hid : op.storesId ≠ some id) :
    insertions id [stageOf B lib p op] = 0 := by
  rw [insertions_stageOf]
  exact if_neg fun h => hid (insertedId_storesId B lib hsound h)

/-- A call for another id, which is no tick. -/
theorem call_aloof (hsound : Sound s.pipeline) (hid : op.storesId ≠ some id)
    (htick : op.isTick = false) : Aloof past [stageOf B lib s.pipeline op] s
      { s with pipeline := (exec B lib s.pipeline op).2 } id where
  insertions := insertions_none hsound hid
  sessions := exec_unstored B lib hsound hid
  awaited := by
    rintro ⟨told, hholds, htold⟩
    refine ⟨told, hholds, ?_⟩
    rw [returned_append, returned_stageOf, exec_events_nil _ htick, List.append_nil]
    exact htold
  closed := fun h => h

theorem tick_aloof (hsound : Sound s.pipeline) (hidle : s.control = none) (feedback : JointFeedback)
    (now : SteadyTime) : Aloof past [stageOf B lib s.pipeline (.tick feedback now)] s
      { s with
        pipeline := (exec B lib s.pipeline (.tick feedback now)).2
        control := some (exec B lib s.pipeline (.tick feedback now)).1.events } id where
  insertions := insertions_none hsound nofun
  sessions := exec_unstored B lib hsound nofun
  awaited := by
    rintro ⟨told, hholds, htold⟩
    refine ⟨told, hholds, ?_⟩
    rw [hidle] at htold
    rw [returned_append, returned_stageOf, finals_append, htold]
    simp [finals, Mailboxes.addressed]
  closed := fun h => h

theorem deliver_aloof {events : List SessionEvent} (hcontrol : s.control = some events) :
    Aloof past [] s
      { s with
        mailboxes := s.mailboxes.deliver SessionEvent.sessionId SessionEvent.isFinal events
        control := none } id where
  insertions := rfl
  sessions := fun h => h
  awaited := by
    rintro ⟨told, hholds, htold⟩
    refine ⟨told ++ finals id events, hholds.deliver events, ?_⟩
    rw [hcontrol] at htold
    rw [List.append_nil, htold]
    simp [finals, Mailboxes.addressed]
  closed := fun h => h.deliver events

/-- Another mailbox is opened or shut. -/
theorem mailbox_aloof {mailboxes : Mailboxes String SessionEvent}
    (hholds : ∀ told, s.mailboxes.Holds id told → mailboxes.Holds id told)
    (hclosed : s.mailboxes.Closed id → mailboxes.Closed id) :
    Aloof past [] s { s with mailboxes } id where
  insertions := rfl
  sessions := fun h => h
  awaited := by
    rintro ⟨told, h, htold⟩
    exact ⟨told, hholds told h, by rw [List.append_nil]; exact htold⟩
  closed := hclosed

end

/-! ## The step of a worker -/

section
open MoveWorker

variable {past : List (PipelineStage β)} {s : MoveThreads β} {id : String} {w : MoveWorker}
  {settings : MoveSettings} {answers : MoveAnswers} {now : SteadyTime}

theorem certified_abort {status : RosStatus} {report : MoveReport}
    (h : abortReport settings answers status = .ok report) : Certified past id report := by
  obtain ⟨final, -, h⟩ := Checked.bind_ok h
  split at h <;> cases h
  exact .inl rfl

theorem Custody.reports {stage : MoveAt} (h : Custody past s id stage) (hgone : stage.gone = true)
    (hshut : stage.shut = true) {report : MoveReport} (hreport : Certified past id report) :
    Custody past s id (.ended (some report)) :=
  h.closes (h.gone hgone) (h.shut hshut) rfl rfl rfl rfl (fun event hevent => by cases hevent)
    fun r hr => by cases hr; exact hreport

/-- The end of a goal, or the handler, needs no more than that the session is over. -/
theorem Custody.ends {stage : MoveAt} (h : Custody past s id stage)
    (hgone : stage.gone = true) (hshut : stage.shut = true) {result : Except String MoveReport}
    (hreport : ∀ report, result = .ok report → Certified past id report) :
    Custody past s id (endOr result) := by
  cases result with
  | error exception => exact h.goes (MoveAt.leadsTo_failing _ _) rfl rfl
  | ok report => exact h.reports hgone hshut (hreport report rfl)

/-- A step that touches nothing shared. -/
theorem Custody.alone (h : Custody past s id w.stage) (haction : w.action id now = .none) :
    Custody past s id (w.next settings answers id .none).stage := by
  obtain ⟨channel, goal, generation, started, nextFeedback, stage⟩ := w
  cases stage with
  | preparing =>
    simp only [MoveWorker.next]
    cases hrequest : settings.moveRequest answers.moment channel id goal with
    | error message => exact h.goes rfl rfl rfl
    | ok request =>
      refine h.moves rfl (fun r hr => ?_) rfl
      obtain rfl : request = r := Option.some.inj hr
      exact MoveSettings.requestId_moveRequest hrequest
  | checking request =>
    simp only [MoveWorker.next]
    split
    · exact h.moves rfl h.request rfl
    · exact h.goes rfl rfl rfl
  | polling cancelRequested =>
    simp only [MoveWorker.next]
    split
    · exact h.goes rfl rfl rfl
    · split
      · exact h.goes rfl rfl rfl
      · exact h.goes rfl rfl rfl
  | timing cancelRequested =>
    simp only [MoveWorker.next]
    split
    · exact h.goes rfl rfl rfl
    · exact h.goes rfl rfl rfl
  | finishing event =>
    simp only [MoveWorker.next]
    refine h.ends rfl rfl fun report hreport => ?_
    obtain ⟨final, -, hreport⟩ := Checked.bind_ok hreport
    simp only at hreport
    split at hreport <;> cases hreport
    exact .inr ⟨event, h.event event rfl, rfl⟩
  | reporting cancelRequested =>
    simp only [MoveWorker.next]
    split
    · exact h.goes rfl rfl rfl
    · split
      · exact h.goes rfl rfl rfl
      · exact h.goes rfl rfl rfl
  | aborting status =>
    simp only [MoveWorker.next]
    exact h.ends rfl rfl fun report hreport => certified_abort hreport
  | failAborting message =>
    simp only [MoveWorker.next]
    split
    · cases hreport : abortReport settings answers ⟨.internalError, message⟩ with
      | error exception => exact h.goes rfl rfl rfl
      | ok report => exact h.reports rfl rfl (certified_abort hreport)
    · exact h.goes rfl rfl rfl
  | ended report =>
    simp only [MoveWorker.next]
    exact h
  | _ => cases haction

/-- The mailbox is opened before anything is submitted, so nothing has been missed. -/
theorem Custody.waits (hacc : Accounted past s.pipeline)
    (hhanded : ∃ delivered, returned past = delivered ++ s.control.getD [])
    (h : Custody past s id w.stage) (haction : w.action id now = .wait) :
    Custody past { s with mailboxes := s.mailboxes.wait id } id
      (w.next settings answers id .none).stage := by
  obtain ⟨channel, goal, generation, started, nextFeedback, stage⟩ := w
  cases stage with
  | registering request =>
    have hnone : finals id (returned past) = [] := by
      have hbalance := hacc.balance id
      rw [h.unsubmitted rfl] at hbalance
      exact List.length_eq_zero_iff.1 (by omega)
    have hawaited : Awaited past { s with mailboxes := s.mailboxes.wait id } id := by
      refine ⟨[], (h.shut rfl).wait, ?_⟩
      obtain ⟨delivered, hdelivered⟩ := hhanded
      rw [hdelivered, finals_append] at hnone ⊢
      rw [(List.append_eq_nil_iff.1 hnone).1]
    refine ⟨h.request, h.once, fun _ => h.unsubmitted rfl, fun hnext => ?_, fun _ => h.gone rfl,
      fun _ => hawaited, fun hnext => ?_, .inl hawaited, fun event hnext => ?_, fun report hnext => ?_⟩
    · cases hnext
    · cases hnext
    · cases hnext
    · cases hnext
  | _ => cases haction

/-- The mailbox is shut once the session is over. -/
theorem Custody.discards (h : Custody past s id w.stage) (haction : w.action id now = .discard) :
    Custody past { s with mailboxes := s.mailboxes.discard id } id
      (w.next settings answers id .none).stage := by
  have hclosed := s.mailboxes.discard_closed id
  obtain ⟨channel, goal, generation, started, nextFeedback, stage⟩ := w
  cases stage with
  | refusing status | dropping | clearing | failDropping message =>
    simp only [MoveWorker.next]
    refine h.closes (h.gone rfl) hclosed rfl rfl rfl rfl (fun event hnext => ?_) fun report hnext => ?_
    · cases hnext
    · cases hnext
  | _ => cases haction

/-- A message that is taken is the only last event of the session, which is over by then. -/
theorem Custody.takes (hacc : Accounted past s.pipeline) (h : Custody past s id w.stage)
    (haction : w.action id now = .take) :
    Custody past { s with mailboxes := (s.mailboxes.take id).2 } id
      (w.next settings answers id (.taken (s.mailboxes.take id).1)).stage := by
  obtain ⟨channel, goal, generation, started, nextFeedback, stage⟩ := w
  cases stage with
  | taking cancelRequested =>
    simp only [MoveWorker.next]
    cases htaken : (s.mailboxes.take id).1 with
    | none =>
      rw [Mailboxes.take_none htaken]
      exact h.goes rfl rfl rfl
    | some event =>
      rw [Mailboxes.take_some htaken]
      obtain ⟨told, hholds, htold⟩ := h.opened rfl
      have hlast : told.getLast? = some event := by
        rw [← hholds.last, ← Mailboxes.take_fst, htaken]
      obtain ⟨before, rfl⟩ := List.getLast?_eq_some_iff.1 hlast
      have hbalance := hacc.balance id
      have honce := h.once
      rw [htold, List.length_append, List.length_append, List.length_singleton] at hbalance
      have hbefore : before = [] := List.length_eq_zero_iff.1 (by omega)
      have hrest : finals id (s.control.getD []) = [] := List.length_eq_zero_iff.1 (by omega)
      rw [hbefore, hrest] at htold
      have hgone : s.pipeline.sessions[id]? = none := by
        refine Std.TreeMap.getElem?_eq_none fun hmem => ?_
        have hcontains : s.pipeline.sessions.contains id = true := hmem
        rw [hcontains, Bool.toNat_true] at hbalance
        omega
      refine h.closes hgone (s.mailboxes.discard_closed id) rfl rfl rfl rfl (fun found hfound => ?_)
        fun report hnext => ?_
      · cases hfound
        exact htold
      · cases hnext
  | _ => cases haction

variable (B lib) in
theorem exec_cancel (p : CommandPipeline β) (id : String) :
    (exec B lib p (.cancel id)).2.sessions[id]? = none := by
  simp only [exec, CommandPipeline.cancel]
  split <;> simp

theorem Awaited.call {op : Op} (h : Awaited past s id) (htick : op.isTick = false) :
    Awaited (past ++ [stageOf B lib s.pipeline op])
      { s with pipeline := (exec B lib s.pipeline op).2 } id := by
  obtain ⟨told, hholds, htold⟩ := h
  refine ⟨told, hholds, ?_⟩
  rw [returned_append, returned_stageOf, exec_events_nil _ htick, List.append_nil]
  exact htold

variable (B lib) in
/-- Once canceled, the session is over. -/
theorem Custody.cancels {stage next : MoveAt} (hsound : Sound s.pipeline)
    (h : Custody past s id stage) (hrequest : next.request? = none)
    (hunsubmitted : next.unsubmitted = false) (hawaits : next.awaits = true → stage.awaits = true)
    (hopened : next.opened = true → stage.opened = true) (hshut : next.shut = false)
    (hbare : next.bare = true) :
    Custody (past ++ [stageOf B lib s.pipeline (.cancel id)])
      { s with pipeline := (exec B lib s.pipeline (.cancel id)).2 } id next := by
  have hsame : insertions id (past ++ [stageOf B lib s.pipeline (.cancel id)]) =
      insertions id past := by
    rw [insertions_append, insertions_none hsound (by simp [Op.storesId]), Nat.add_zero]
  exact {
    request := fun request hsome => by
      rw [hrequest] at hsome
      cases hsome
    once := hsame.trans_le h.once
    unsubmitted := fun hnext => by
      rw [hunsubmitted] at hnext
      cases hnext
    awaits := fun hnext => hsame.trans (h.awaits (hawaits hnext))
    gone := fun _ => exec_cancel B lib _ id
    opened := fun hnext => (h.opened (hopened hnext)).call rfl
    shut := fun hnext => by
      rw [hshut] at hnext
      cases hnext
    between := h.between.imp (fun hopen => hopen.call rfl) fun hclosed => hclosed
    event := fun event hnext => absurd hnext (MoveAt.ne_finishing_of_bare hbare event)
    report := fun report hnext => absurd hnext (MoveAt.ne_ended_of_bare hbare report) }

variable (B lib) in
/-- A call of the worker submits the Move, or cancels it. -/
theorem Custody.calls (hacc : Accounted past s.pipeline) (h : Custody past s id w.stage) {op : Op}
    (haction : w.action id now = .call op) :
    Custody (past ++ [stageOf B lib s.pipeline op])
      { s with pipeline := (exec B lib s.pipeline op).2 } id
      (w.next settings answers id (.called (exec B lib s.pipeline op).1)).stage := by
  have hsound := hacc.sound
  obtain ⟨channel, goal, generation, started, nextFeedback, stage⟩ := w
  cases stage with
  | submitting request =>
    obtain rfl := MoveAction.call.inj haction
    have hid : requestId request = id := h.request request rfl
    have hopen : Awaited (past ++ [stageOf B lib s.pipeline (.submitMove
        (policyId channel (groupName request)) request now generation)])
        { s with pipeline := (exec B lib s.pipeline (.submitMove (policyId channel (groupName request))
          request now generation)).2 } id := (h.opened rfl).call rfl
    have hnone := h.unsubmitted rfl
    have hinserted : insertions id (past ++ [stageOf B lib s.pipeline (.submitMove
        (policyId channel (groupName request)) request now generation)]) =
        if insertedId (stageOf B lib s.pipeline (.submitMove
          (policyId channel (groupName request)) request now generation)) = some id then 1 else 0 := by
      rw [insertions_append, hnone, insertions_stageOf, Nat.zero_add]
    obtain ⟨result, hresult⟩ : ∃ result, (exec B lib s.pipeline (.submitMove
        (policyId channel (groupName request)) request now generation)).1 = .submission result :=
      ⟨_, rfl⟩
    have hafter : Accounted (past ++ [stageOf B lib s.pipeline (.submitMove
        (policyId channel (groupName request)) request now generation)])
        (exec B lib s.pipeline (.submitMove (policyId channel (groupName request)) request now
          generation)).2 := hacc.step _
    simp only [MoveWorker.next, hresult]
    split
    · rename_i hok
      -- the session that is inserted is the one of the request
      have hsome : insertedId (stageOf B lib s.pipeline (.submitMove
          (policyId channel (groupName request)) request now generation)) = some result.sessionId := by
        simp [insertedId, stageOf, hresult, hok]
      have hown : result.sessionId = id := by
        have hstores := insertedId_storesId B lib hsound hsome
        exact (Option.some.inj hstores).symm.trans hid
      rw [hsome, if_pos (by rw [hown])] at hinserted
      refine ⟨fun request hnext => ?_, hinserted.le, fun hnext => ?_, fun _ => hinserted,
        fun hnext => ?_, fun _ => hopen, fun hnext => ?_, .inl hopen, fun event hnext => ?_,
        fun report hnext => ?_⟩ <;> cases hnext
    · rename_i hrefused
      have hnone' : insertedId (stageOf B lib s.pipeline (.submitMove
          (policyId channel (groupName request)) request now generation)) = none := by
        simp [insertedId, stageOf, hresult, hrefused]
      rw [hnone', if_neg (Option.some_ne_none id).symm] at hinserted
      refine ⟨fun request hnext => ?_, hinserted.trans_le (Nat.zero_le 1), fun _ => hinserted,
        fun hnext => ?_, fun _ => hafter.unstored hinserted, fun _ => hopen, fun hnext => ?_,
        .inl hopen, fun event hnext => ?_, fun report hnext => ?_⟩ <;> cases hnext
  | canceling =>
    obtain rfl := MoveAction.call.inj haction
    simp only [MoveWorker.next]
    exact h.cancels B lib hsound rfl rfl (fun _ => rfl) (fun _ => rfl) rfl rfl
  | expiring =>
    obtain rfl := MoveAction.call.inj haction
    simp only [MoveWorker.next]
    exact h.cancels B lib hsound rfl rfl (fun _ => rfl) (fun _ => rfl) rfl rfl
  | leaving =>
    obtain rfl := MoveAction.call.inj haction
    simp only [MoveWorker.next]
    exact h.cancels B lib hsound rfl rfl (fun _ => rfl) (fun _ => rfl) rfl rfl
  | failing message =>
    obtain rfl := MoveAction.call.inj haction
    simp only [MoveWorker.next]
    exact h.cancels B lib hsound rfl rfl (fun hnext => by cases hnext) (fun hnext => by cases hnext)
      rfl rfl
  | _ => cases haction

end

end HumanoidMotion
