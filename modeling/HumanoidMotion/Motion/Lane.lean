import HumanoidMotion.Lib.Lockstep
import HumanoidMotion.Motion.Terminate
import HumanoidMotion.Motion.Turn
/-
# What one session sees of a tick

A `Lane` is what belongs to one session: its id, its group, its endpoint and the
joints it may read. `Alike` relates two states of a tick that a lane cannot tell
apart, and `turn_lockstep` proves that the turn of its session keeps them so:
every part of the winner loop reads and writes the lane only.

* `SameView` — the part of the state that belongs to the lane is the same.
* `CallFor`, `Paired` — the calls of the lane, and a platform that answers them alike.
* `SameInputs` — two contexts with the same clock whose feedback the lane cannot
  tell apart.
* `checkTime_inLane`, `stopAndFail_inLane`, … — one lemma for each part.
-/

namespace HumanoidMotion

open Prog (Lockstep)

structure Lane where
  id : String
  group : String
  endpoint : String
  joints : String → Prop

/-- The command but for its token: the tokens count the commands of all sessions. -/
def JointCommand.untokened (command : JointCommand) : JointCommand :=
  { command with publicationToken := 0 }

def commandsOf (id : String) (commands : List JointCommand) : List JointCommand :=
  (commands.filter fun command => command.sessionId == id).map JointCommand.untokened

def eventsOf (id : String) (events : List SessionEvent) : List SessionEvent :=
  events.filter fun event => event.sessionId == id

namespace Lane

variable {β : Type}

/-- The session belongs to the lane, and so do the joints it names. -/
structure Drives (L : Lane) (session : Session) : Prop where
  key : session.sessionId = L.id
  group : session.groupName = L.group
  endpoint : session.endpointName = L.endpoint
  joints : ∀ joint ∈ session.jointNames, L.joints joint
  target : ∀ joint ∈ (terminalJointGoal session.request).jointNames, L.joints joint

/-- The two states agree on what belongs to the lane. -/
structure SameView (L : Lane) (s s' : TickState β) : Prop where
  session : s'.pipeline.sessions[L.id]? = s.pipeline.sessions[L.id]?
  goal : s'.pipeline.monitor.goals[L.id]? = s.pipeline.monitor.goals[L.id]?
  monitorConfig : s'.pipeline.monitor.config = s.pipeline.monitor.config
  retry : s'.pipeline.servoRetryAfter[L.endpoint]? = s.pipeline.servoRetryAfter[L.endpoint]?
  fixed : Tick.Fixed s.pipeline s'.pipeline
  commands : commandsOf L.id s'.commands = commandsOf L.id s.commands
  events : eventsOf L.id s'.events = eventsOf L.id s.events
  pending : eventsOf L.id s'.pipeline.pendingEvents = eventsOf L.id s.pipeline.pendingEvents

/-- The lane cannot tell the two states apart, and they are in order for it. -/
structure Alike (L : Lane) (ρ : β → β → Prop) (s s' : TickState β) : Prop
    extends SameView L s s' where
  backend : ρ s.pipeline.backend s'.pipeline.backend
  drives : ∀ session, s.pipeline.sessions[L.id]? = some session → L.Drives session
  inside : ∀ goal, s.pipeline.monitor.goals[L.id]? = some goal →
    ∀ joint ∈ goal.jointGoal.jointNames, L.joints joint
  model : ∀ group, s.pipeline.groups[L.group]? = some group →
    ∀ joint ∈ group.jointNames, L.joints joint

end Lane

/-! ## The platform and the feedback -/

section
variable {β : Type} (B : Platform β) (lib : MathLib)

/-- A call that answers alike in the two runs and keeps the relation of their backends. -/
def InStep {α : Type} (ρ : β → β → Prop) (f : β → α × β) : Prop :=
  ∀ e e', ρ e e' → (f e').1 = (f e).1 ∧ ρ (f e).2 (f e').2

/-- The calls the pipeline makes for session `id` of `group`. -/
inductive CallFor (id group : String) : (α : Type) → (β → α × β) → Prop
  | startSession (request : SessionRequest) (feedback : JointFeedback) (period : Rat) :
      CallFor id group _ fun e => B.startSession e id request feedback period
  | tickSession (target : DynamicTarget) (period : Rat) :
      CallFor id group _ fun e => B.tickSession e id target period
  | stopSession : CallFor id group _ fun e => B.stopSession e id
  | reset (feedback : JointFeedback) :
      CallFor id group _ fun e => B.resetFinalJointTarget e group feedback
  | rebase (state : JointTarget) :
      CallFor id group _ fun e => B.rebaseFinalJointTarget e group state
  | update (candidate : JointCommand) (period : Rat) :
      CallFor id group _ fun e => B.updateFinalJointTarget e group candidate period
  | kinematics (request : ForwardKinematicsRequest) (h : request.groupName = group) :
      CallFor id group _ fun e => B.forwardKinematics e request

/-- The calls for session `id` of `group` are answered alike, and the clock reads the same. -/
structure Paired (id group : String) (ρ : β → β → Prop) : Prop where
  own : ∀ {α : Type} {f : β → α × β}, CallFor B id group α f → InStep ρ f
  steadyNow : InStep ρ B.steadyNow

/-- The two contexts have one clock, and their feedback is the same for anyone who reads the joints
`joints` only. -/
structure SameInputs (joints : String → Prop) (ctx ctx' : TickContext) : Prop where
  now : ctx'.now = ctx.now
  enteredAt : ctx'.enteredAt = ctx.enteredAt
  cycleDeadline : ctx'.cycleDeadline = ctx.cycleDeadline
  receivedAt : ctx'.feedback.receivedAt = ctx.feedback.receivedAt
  validate : ∀ config (group : JointGroupModel) time, (∀ joint ∈ group.jointNames, joints joint) →
    validateFeedback lib config ctx'.feedback group time =
      validateFeedback lib config ctx.feedback group time
  select : ∀ names, (∀ joint ∈ names, joints joint) →
    selectFeedback ctx'.feedback names = selectFeedback ctx.feedback names
  judge : ∀ config (goal : GoalState) pose,
    (∀ joint ∈ goal.jointGoal.jointNames, joints joint) →
    GoalMonitor.judge lib config goal ctx'.feedback pose =
      GoalMonitor.judge lib config goal ctx.feedback pose

end

namespace Tick

variable {β : Type} {B : Platform β} {lib : MathLib} {ctx ctx' : TickContext} {L : Lane}
  {ρ : β → β → Prop}

/-- The two programs keep states alike that the lane cannot tell apart. -/
def InLane {α : Type} (L : Lane) (ρ : β → β → Prop) (m m' : TickM β α) : Prop :=
  Lockstep (L.Alike ρ) (fun _ => L.Alike ρ) (fun _ => L.Alike ρ) m m'

/-! ## Steps of the state -/

section
variable {s s' : TickState β} (h : L.Alike ρ s s')
include h

theorem alike_withBackend {e e' : β} (he : ρ e e') : L.Alike ρ (s.withBackend e) (s'.withBackend e') where
  session := h.session
  goal := h.goal
  monitorConfig := h.monitorConfig
  retry := h.retry
  fixed := ⟨h.fixed.groups, h.fixed.endpoints, h.fixed.config, h.fixed.period⟩
  commands := h.commands
  events := h.events
  pending := h.pending
  backend := he
  drives := h.drives
  inside := h.inside
  model := h.model

theorem alike_withMonitor {m m' : GoalMonitor} (hc : m'.config = m.config)
    (hgoal : m'.goals[L.id]? = m.goals[L.id]?)
    (hin : ∀ goal, m.goals[L.id]? = some goal → ∀ joint ∈ goal.jointGoal.jointNames, L.joints joint) :
    L.Alike ρ (withMonitor s m) (withMonitor s' m') where
  session := h.session
  goal := hgoal
  monitorConfig := hc
  retry := h.retry
  fixed := ⟨h.fixed.groups, h.fixed.endpoints, h.fixed.config, h.fixed.period⟩
  commands := h.commands
  events := h.events
  pending := h.pending
  backend := h.backend
  drives := h.drives
  inside := hin
  model := h.model

theorem alike_noteRetry (retry : SteadyTime) :
    L.Alike ρ (noteRetry s L.endpoint (some retry)) (noteRetry s' L.endpoint (some retry)) where
  session := h.session
  goal := h.goal
  monitorConfig := h.monitorConfig
  retry := by simp [noteRetry, TickState.withPipeline]
  fixed := ⟨h.fixed.groups, h.fixed.endpoints, h.fixed.config, h.fixed.period⟩
  commands := h.commands
  events := h.events
  pending := h.pending
  backend := h.backend
  drives := h.drives
  inside := h.inside
  model := h.model

theorem alike_pushEvent (message : String) :
    L.Alike ρ (s.pushEvent L.id message) (s'.pushEvent L.id message) where
  session := h.session
  goal := h.goal
  monitorConfig := h.monitorConfig
  retry := h.retry
  fixed := h.fixed
  commands := h.commands
  events := by
    have hevents := h.events
    simp only [eventsOf] at hevents
    simp [TickState.pushEvent, eventsOf, hevents]
  pending := h.pending
  backend := h.backend
  drives := h.drives
  inside := h.inside
  model := h.model

theorem alike_markStarted {started : Session} (hs : L.Drives started) :
    L.Alike ρ (markStarted s L.id started) (markStarted s' L.id started) := by
  refine alike_pushEvent (?_ : L.Alike ρ (s.withPipeline _) (s'.withPipeline _)) _
  exact
    { session := by simp [TickState.withPipeline]
      goal := h.goal
      monitorConfig := h.monitorConfig
      retry := h.retry
      fixed := ⟨h.fixed.groups, h.fixed.endpoints, h.fixed.config, h.fixed.period⟩
      commands := h.commands
      events := h.events
      pending := h.pending
      backend := h.backend
      drives := fun session hf => by
        obtain rfl : started = session := by simpa [TickState.withPipeline] using hf
        exact hs
      inside := h.inside
      model := h.model }

theorem alike_recordFinal {session : Session} (hs : L.Drives session) :
    L.Alike ρ (recordFinal s L.id session) (recordFinal s' L.id session) where
  session := by simp [recordFinal, TickState.withPipeline]
  goal := h.goal
  monitorConfig := h.monitorConfig
  retry := by simp [recordFinal, TickState.withPipeline, hs.endpoint]
  fixed := ⟨h.fixed.groups, h.fixed.endpoints, h.fixed.config, h.fixed.period⟩
  commands := h.commands
  events := h.events
  pending := h.pending
  backend := h.backend
  drives := fun stored hf => by
    obtain rfl : session = stored := by simpa [recordFinal, TickState.withPipeline] using hf
    exact hs
  inside := h.inside
  model := h.model

theorem alike_issue (limit : SteadyTime) (command : JointCommand) :
    L.Alike ρ (s.issue L.id limit command) (s'.issue L.id limit command) where
  session := h.session
  goal := h.goal
  monitorConfig := h.monitorConfig
  retry := h.retry
  fixed := ⟨h.fixed.groups, h.fixed.endpoints, h.fixed.config, h.fixed.period⟩
  commands := by
    have hcommands := h.commands
    simp only [commandsOf] at hcommands
    simp [TickState.issue, commandsOf, JointCommand.untokened, hcommands]
  events := h.events
  pending := h.pending
  backend := h.backend
  drives := h.drives
  inside := h.inside
  model := h.model

theorem alike_terminate (hstop : InStep ρ fun e => B.stopSession e L.id) (state : SessionState)
    (status : MotionStatus) (preserve : Bool) :
    L.Alike ρ (s.withPipeline (s.pipeline.terminate B L.id state status preserve))
      (s'.withPipeline (s'.pipeline.terminate B L.id state status preserve)) := by
  have hmem : L.id ∈ s'.pipeline.sessions ↔ L.id ∈ s.pipeline.sessions := by
    rw [Std.TreeMap.mem_iff_isSome_getElem?, Std.TreeMap.mem_iff_isSome_getElem?, h.session]
  have hretry : ∀ p : CommandPipeline β,
      (p.terminate B L.id state status preserve).servoRetryAfter = p.servoRetryAfter := fun p =>
    CommandPipeline.terminate_frame p L.id state status preserve (fun q => q.servoRetryAfter)
      (fun _ => rfl) (fun _ _ => rfl)
  exact
    { session := by simp [TickState.withPipeline]
      goal := by
        simp only [TickState.withPipeline, CommandPipeline.terminate_goals, true_and, hmem, h.goal]
      monitorConfig := by simp [TickState.withPipeline, h.monitorConfig]
      retry := by simp [TickState.withPipeline, hretry, h.retry]
      fixed := ⟨by simp [TickState.withPipeline, h.fixed.groups],
        by simp [TickState.withPipeline, h.fixed.endpoints],
        by simp [TickState.withPipeline, h.fixed.config],
        by simp [TickState.withPipeline, h.fixed.period]⟩
      commands := h.commands
      events := h.events
      pending := by
        have hpending := h.pending
        simp only [eventsOf] at hpending
        simp [TickState.withPipeline, CommandPipeline.terminate_pending, eventsOf, hpending, hmem]
      backend := by
        simp only [TickState.withPipeline, CommandPipeline.terminate_backend, hmem]
        split
        · exact (hstop _ _ h.backend).2
        · exact h.backend
      drives := fun session hf => by simp [TickState.withPipeline] at hf
      inside := fun goal hf => by
        simp only [TickState.withPipeline, CommandPipeline.terminate_goals, true_and] at hf
        split at hf
        · cases hf
        · exact h.inside goal hf
      model := fun group hf => h.model group (by simpa [TickState.withPipeline] using hf) }

end

/-! ## The lambdas of the tick -/

/-- A lookup that throws throws in both runs; otherwise both go on with what it found. -/
theorem at?_then {α γ : Type} {Q : γ → TickState β → TickState β → Prop} {value : Option α}
    {f f' : α → TickM β γ}
    (hf : ∀ a, value = some a → Lockstep (L.Alike ρ) Q (fun _ => L.Alike ρ) (f a) (f' a)) :
    Lockstep (L.Alike ρ) Q (fun _ => L.Alike ρ) (at? value >>= f) (at? value >>= f') := by
  cases value with
  | none => exact .seq (M := fun _ _ _ => False) (.raise fun _ _ h => h) fun _ _ _ h => h.elim
  | some a => exact hf a rfl

theorem liftExcept_from {α γ : Type} {P : TickState β → TickState β → Prop}
    {Q : γ → TickState β → TickState β → Prop} {value : Except OutOfRange α} {f f' : α → TickM β γ}
    (hP : ∀ s s', P s s' → L.Alike ρ s s')
    (hf : ∀ a, value = .ok a → Lockstep P Q (fun _ => L.Alike ρ) (f a) (f' a)) :
    Lockstep P Q (fun _ => L.Alike ρ) (liftExcept value >>= f) (liftExcept value >>= f') := by
  cases value with
  | error => exact .seq (M := fun _ _ _ => False) (.raise fun _ _ h => hP _ _ h) fun _ _ _ h => h.elim
  | ok a => exact hf a rfl

theorem liftExcept_then {α γ : Type} {Q : γ → TickState β → TickState β → Prop}
    {value : Except OutOfRange α} {f f' : α → TickM β γ}
    (hf : ∀ a, value = .ok a → Lockstep (L.Alike ρ) Q (fun _ => L.Alike ρ) (f a) (f' a)) :
    Lockstep (L.Alike ρ) Q (fun _ => L.Alike ρ) (liftExcept value >>= f)
      (liftExcept value >>= f') := liftExcept_from (fun _ _ h => h) hf

theorem continueIf_inLane (condition : Bool) :
    InLane L ρ (continueIf condition) (continueIf condition) :=
  .branch (fun _ => .raise fun _ _ h => h) fun _ => .ret fun _ _ h => h

theorem call_inLane {α : Type} {f : β → α × β} (hf : InStep ρ f) : InLane L ρ (call f) (call f) :=
  .updateGet fun _ _ h => ⟨(hf _ _ h.backend).1, alike_withBackend h (hf _ _ h.backend).2⟩

/-! ## The session while it runs -/

theorem drives_started {session : Session} (hs : L.Drives session) (group : JointGroupModel)
    (selected : JointFeedback) : L.Drives (startedSession session group selected) :=
  ⟨hs.key, hs.group, hs.endpoint, hs.joints, hs.target⟩

section
variable (hB : Paired B L.id L.group ρ)
include hB

theorem terminate_inLane (state : SessionState) (status : MotionStatus) (preserve : Bool) :
    InLane L ρ (terminate B L.id state status preserve) (terminate B L.id state status preserve) :=
  .update fun _ _ h => alike_terminate h (hB.own .stopSession) state status preserve

variable (hctx : SameInputs lib L.joints ctx ctx')
include hctx

theorem currentTime_inLane : InLane L ρ (currentTime B ctx) (currentTime B ctx') := by
  unfold currentTime
  rw [hctx.now, hctx.enteredAt]
  exact (call_inLane hB.steadyNow).seq fun _ => .ret fun _ _ h => h

omit hB in
theorem deadline_inLane (session : Session) :
    InLane L ρ (deadline ctx session) (deadline ctx' session) := by
  unfold deadline
  refine .read fun s s' h => ?_
  rw [hctx.receivedAt, hctx.cycleDeadline, h.fixed.config, h.fixed.endpoints]
  exact .branch (fun _ => at?_then fun _ _ => .ret fun _ _ h => h) fun _ => .ret fun _ _ h => h

theorem checkTime_inLane : InLane L ρ (checkTime B ctx L.id) (checkTime B ctx' L.id) := by
  unfold checkTime
  refine .read fun s s' h => ?_
  rw [h.session]
  cases s.pipeline.sessions[L.id]? with
  | none => exact .raise fun _ _ h => h
  | some session =>
    refine (currentTime_inLane hB hctx).seq fun time => (deadline_inLane hctx session).seq fun limit => ?_
    exact .branch
      (fun _ => (terminate_inLane hB _ _ _).seq fun _ => .raise fun _ _ h => h)
      fun _ => .ret fun _ _ h => h

/-- The last command of the tick so far is one of the lane. -/
def EndsIn (L : Lane) (s : TickState β) : Prop :=
  ∃ commands command, s.commands = commands ++ [command] ∧ command.sessionId = L.id

/-- Alike, and the last command of both is one of the lane. -/
structure AlikeLast (L : Lane) (ρ : β → β → Prop) (s s' : TickState β) : Prop where
  alike : L.Alike ρ s s'
  left : EndsIn L s
  right : EndsIn L s'

omit hB in
theorem appendCommand_inLane {session : Session} (hs : L.Drives session) (command : JointCommand) :
    Lockstep (L.Alike ρ) (fun _ => AlikeLast L ρ) (fun _ => L.Alike ρ)
      (appendCommand ctx session command) (appendCommand ctx' session command) := by
  unfold appendCommand
  rw [hs.key]
  exact (deadline_inLane hctx session).seq fun limit => .update fun s s' h =>
    ⟨alike_issue h limit command, ⟨s.commands, _, rfl, rfl⟩, ⟨s'.commands, _, rfl, rfl⟩⟩

theorem failBackend_inLane (status : MotionStatus) :
    InLane L ρ (failBackend B ctx L.id status) (failBackend B ctx' L.id status) := by
  unfold failBackend
  refine .read fun s s' h => ?_
  rw [h.session]
  refine at?_then fun session hfound => ?_
  have hend := terminate_inLane hB .aborted status true
  refine .branch (fun _ => ?_) fun _ => hend
  refine (currentTime_inLane hB hctx).seq fun time => .seq (M := fun _ => L.Alike ρ) ?_ fun _ => hend
  refine .update fun t t' ht => ?_
  rw [(h.drives session hfound).endpoint, ht.fixed.config]
  exact alike_noteRetry ht _

omit hctx in
/-- The answer of a controlled stop depends on what the lane sees. -/
theorem controlledStop_inStep {s s' : TickState β} (h : L.Alike ρ s s') {session : Session}
    (hs : L.Drives session) (selected : JointFeedback) :
    (s'.pipeline.controlledStop B lib session selected).1 =
        (s.pipeline.controlledStop B lib session selected).1 ∧
      ρ (s.pipeline.controlledStop B lib session selected).2
        (s'.pipeline.controlledStop B lib session selected).2 := by
  unfold CommandPipeline.controlledStop
  rw [h.fixed.groups, h.fixed.period, hs.group]
  split
  · exact ⟨rfl, h.backend⟩
  · rename_i measured _
    obtain ⟨hreset, hρ⟩ := hB.own (.reset measured) _ _ h.backend
    simp only [hreset]
    split
    · exact ⟨rfl, hρ⟩
    · obtain ⟨hupdate, hρ'⟩ := hB.own (.update
        (CommandPipeline.holdRequest session measured) s.pipeline.currentPeriodSec) _ _ hρ
      exact ⟨by rw [hupdate], hρ'⟩

section
variable {session : Session} (hs : L.Drives session) (selected : JointFeedback)
include hs

theorem stopSession_inLane :
    InLane L ρ (stopSession B lib ctx session selected) (stopSession B lib ctx' session selected) := by
  unfold stopSession
  refine .seq (M := fun _ => L.Alike ρ) (.updateGet fun s s' h => ?_) fun stop => ?_
  · obtain ⟨hstop, hρ⟩ := controlledStop_inStep hB h hs selected
    exact ⟨hstop, alike_withBackend h hρ⟩
  · cases stop with
    | none => exact .ret fun _ _ h => h
    | some hold =>
      exact (appendCommand_inLane hctx hs hold).imp (fun _ _ h => h) (fun _ _ _ h => h.alike)
        fun _ _ _ h => h

theorem stopAndFail_inLane {α : Type} {Q : α → TickState β → TickState β → Prop}
    (status : MotionStatus) :
    Lockstep (L.Alike ρ) Q (fun _ => L.Alike ρ) (stopAndFail B lib ctx L.id session selected status)
      (stopAndFail B lib ctx' L.id session selected status) :=
  (stopSession_inLane hB hctx hs selected).seq fun _ =>
    (failBackend_inLane hB hctx status).seq fun _ => .raise fun _ _ h => h

theorem stopAndTerminate_inLane {α : Type} {Q : α → TickState β → TickState β → Prop}
    (status : MotionStatus) :
    Lockstep (L.Alike ρ) Q (fun _ => L.Alike ρ)
      (stopAndTerminate B lib ctx L.id session selected status)
      (stopAndTerminate B lib ctx' L.id session selected status) :=
  (stopSession_inLane hB hctx hs selected).seq fun _ =>
    (terminate_inLane hB _ status true).seq fun _ => .raise fun _ _ h => h

end

/-! ## The parts of the loop body -/

theorem awaitRetry_inLane {session : Session} (hs : L.Drives session) :
    InLane L ρ (awaitRetry B ctx session) (awaitRetry B ctx' session) := by
  unfold awaitRetry
  refine .read fun s s' h => ?_
  rw [hs.endpoint, h.retry]
  cases s.pipeline.servoRetryAfter[L.endpoint]? with
  | none => exact .ret fun _ _ h => h
  | some retry =>
    exact .branch (fun _ => (currentTime_inLane hB hctx).seq fun _ => continueIf_inLane _)
      fun _ => .ret fun _ _ h => h

/-- A winner that is admitted drives the lane. -/
theorem admitWinner_inLane :
    Lockstep (L.Alike ρ) (fun r s s' => L.Drives r.1 ∧ L.Alike ρ s s') (fun _ => L.Alike ρ)
      (admitWinner B lib ctx L.id) (admitWinner B lib ctx' L.id) := by
  unfold admitWinner
  refine .read fun s s' h => ?_
  rw [h.session]
  rcases hfound : s.pipeline.sessions[L.id]? with _ | found
  · exact .raise fun _ _ h => h
  · have hs := h.drives found hfound
    simp only [h.fixed.groups, h.fixed.config]
    refine at?_then fun group hgroup => (currentTime_inLane hB hctx).seq fun time => ?_
    rw [hctx.validate _ _ _ (h.model group (hs.group ▸ hgroup)), hctx.select _ hs.joints, hctx.now]
    refine .branch (fun _ => (terminate_inLane hB _ _ _).seq fun _ => .raise fun _ _ h => h)
      fun _ => (checkTime_inLane hB hctx).seq fun _ => liftExcept_then fun selected _ =>
        (awaitRetry_inLane hB hctx hs).seq fun _ => ?_
    exact .branch (fun _ => stopAndTerminate_inLane hB hctx hs selected _)
      fun _ => .ret fun _ _ h => ⟨hs, h⟩

omit hctx in
/-- `P` is `Alike`, or `Alike` with a condition on the commands, which the monitor does not touch. -/
theorem beginGoal_from {P : TickState β → TickState β → Prop}
    (hP : ∀ s s', P s s' → L.Alike ρ s s')
    (hkeep : ∀ s s' m m', P s s' → L.Alike ρ (withMonitor s m) (withMonitor s' m') →
      P (withMonitor s m) (withMonitor s' m'))
    {goal : JointTarget} (hin : ∀ joint ∈ goal.jointNames, L.joints joint)
    (cartesian : Option Pose) (startedAt : SteadyTime) :
    Lockstep P (fun _ => P) (fun _ => L.Alike ρ) (beginGoal B L.id goal cartesian startedAt)
      (beginGoal B L.id goal cartesian startedAt) := by
  have hterminate : ∀ status, InLane L ρ (terminate B L.id .aborted status false)
      (terminate B L.id .aborted status false) := fun status => terminate_inLane hB _ status _
  unfold beginGoal
  refine .seq (M := fun _ => P) (.updateGet fun s s' hs => ?_) fun status =>
    .branch (fun _ => ((hterminate status).imp hP (fun _ _ _ h => h) fun _ _ _ h => h).seq fun _ =>
      .raise fun _ _ h => h) fun _ => .ret fun _ _ h => h
  have h := hP s s' hs
  have hstatus : (s'.pipeline.monitor.begin L.id goal cartesian startedAt).1 =
      (s.pipeline.monitor.begin L.id goal cartesian startedAt).1 := by
    unfold GoalMonitor.begin
    rw [h.monitorConfig]
    split_ifs <;> rfl
  refine ⟨hstatus, hkeep s s' _ _ hs ?_⟩
  cases hok : (s.pipeline.monitor.begin L.id goal cartesian startedAt).1.ok with
  | true =>
    rw [GoalMonitor.begin_ok hok, GoalMonitor.begin_ok (hstatus ▸ hok)]
    refine alike_withMonitor h h.monitorConfig (by simp [GoalMonitor.setGoal]) fun stored hf => ?_
    simp only [GoalMonitor.setGoal, Std.TreeMap.getElem?_insert_self, Option.some.injEq] at hf
    exact hf ▸ hin
  | false =>
    rw [GoalMonitor.begin_refused hok, GoalMonitor.begin_refused (hstatus ▸ hok)]
    exact alike_withMonitor h h.monitorConfig h.goal h.inside

theorem startWinner_inLane {session : Session} (hs : L.Drives session) (selected : JointFeedback) :
    Lockstep (L.Alike ρ) (fun started s s' => L.Drives started ∧ L.Alike ρ s s')
      (fun _ => L.Alike ρ) (startWinner B lib ctx L.id session selected)
      (startWinner B lib ctx' L.id session selected) := by
  unfold startWinner
  refine .branch (fun _ => .ret fun _ _ h => ⟨hs, h⟩) fun _ => .read fun s s' h => ?_
  rw [h.fixed.period, hs.group]
  have hcheck := checkTime_inLane hB hctx
  refine (call_inLane (hB.own (.startSession _ _ _))).seq fun start => hcheck.seq fun _ =>
    .branch (fun _ => stopAndFail_inLane hB hctx hs selected _) fun _ =>
      (call_inLane (hB.own (.reset _))).seq fun reset => hcheck.seq fun _ =>
        .branch (fun _ => stopAndFail_inLane hB hctx hs selected _) fun _ => .read fun t t' ht => ?_
  rw [ht.fixed.groups]
  refine at?_then fun model _ => .seq (M := fun _ => L.Alike ρ)
    (.update fun _ _ h => alike_markStarted h (drives_started hs model selected)) fun _ => ?_
  have hstarted := drives_started hs model selected
  exact .branch
    (fun _ => (beginGoal_from hB (fun _ _ h => h) (fun _ _ _ _ _ h => h) hs.target _ _).seq fun _ => .ret fun _ _ h => ⟨hstarted, h⟩)
    fun _ => .ret fun _ _ h => ⟨hstarted, h⟩

/-- A candidate that is accepted names the joints of the group. -/
theorem candidateOf_inLane {session : Session} (hs : L.Drives session) (selected : JointFeedback)
    {group : JointGroupModel} (hgroup : ∀ joint ∈ group.jointNames, L.joints joint) :
    Lockstep (L.Alike ρ)
      (fun r s s' => (∀ joint ∈ r.candidate.jointNames, L.joints joint) ∧ L.Alike ρ s s')
      (fun _ => L.Alike ρ) (candidateOf B lib ctx L.id session selected group)
      (candidateOf B lib ctx' L.id session selected group) := by
  unfold candidateOf
  refine .read fun s s' h => ?_
  rw [h.fixed.period]
  refine (call_inLane (hB.own (.tickSession _ _))).seq fun backendTick =>
    (checkTime_inLane hB hctx).seq fun _ =>
      .branch (fun _ => stopAndFail_inLane hB hctx hs selected _) fun _ =>
        liftExcept_then fun status hstatus =>
          .branch (fun _ => stopAndFail_inLane hB hctx hs selected _) fun hok => .ret fun _ _ h => ⟨?_, h⟩
  have hw := validateCandidate_ok hstatus (by simpa using hok)
  rw [((wellFormed_iff backendTick.candidate group).1 hw).2.1]
  exact hgroup

omit hctx in
theorem rebaseAndRetry_inLane {session : Session} (hs : L.Drives session) (selected : JointFeedback)
    (group : JointGroupModel) (candidate : JointCommand) (finalTick : BackendTick)
    (status : MotionStatus) :
    InLane L ρ (rebaseAndRetry B lib session selected group candidate finalTick status)
      (rebaseAndRetry B lib session selected group candidate finalTick status) := by
  unfold rebaseAndRetry
  refine .read fun s s' h => ?_
  rw [h.fixed.config, h.fixed.period, hs.group]
  cases limitRecoverySeed s.pipeline.config s.pipeline.currentPeriodSec group session
      finalTick.candidate selected with
  | none => exact .ret fun _ _ h => h
  | some seed =>
    exact (call_inLane (hB.own (.rebase _))).seq fun rebased =>
      .branch (fun _ => .ret fun _ _ h => h) fun _ =>
        (call_inLane (hB.own (.update _ _))).seq fun retried =>
          .branch (fun _ => .ret fun _ _ h => h) fun _ =>
            liftExcept_then fun _ _ => .ret fun _ _ h => h

theorem finalRtc_inLane {session : Session} (hs : L.Drives session) (selected : JointFeedback)
    (group : JointGroupModel) (candidate : JointCommand) :
    InLane L ρ (finalRtc B lib ctx L.id session selected group candidate)
      (finalRtc B lib ctx' L.id session selected group candidate) := by
  unfold finalRtc
  refine .read fun s s' h => ?_
  rw [h.fixed.period, hs.group]
  refine (call_inLane (hB.own (.update _ _))).seq fun finalTick =>
    (checkTime_inLane hB hctx).seq fun _ =>
      .branch (fun _ => stopAndFail_inLane hB hctx hs selected _) fun _ =>
        liftExcept_then fun status _ => ?_
  have hrest : ∀ r : BackendTick × MotionStatus, InLane L ρ
      (if !r.2.ok then stopAndFail B lib ctx L.id session selected r.2
        else if !r.1.candidate.passedFinalSdkRtc then
          stopAndFail B lib ctx L.id session selected bypassStatus
        else pure r.1.candidate : TickM β JointCommand)
      (if !r.2.ok then stopAndFail B lib ctx' L.id session selected r.2
        else if !r.1.candidate.passedFinalSdkRtc then
          stopAndFail B lib ctx' L.id session selected bypassStatus
        else pure r.1.candidate : TickM β JointCommand) := fun r =>
    .branch (fun _ => stopAndFail_inLane hB hctx hs selected _) fun _ =>
      .branch (fun _ => stopAndFail_inLane hB hctx hs selected _) fun _ => .ret fun _ _ h => h
  exact .branch
    (fun _ => (rebaseAndRetry_inLane hB hs selected group candidate finalTick status).seq hrest)
    fun _ => hrest (finalTick, status)

/-! ## Emission and the goal -/

omit hB in
/-- The command issued is the last one of both ticks. -/
theorem emitFinal_inLane {session : Session} (hs : L.Drives session) (group : JointGroupModel)
    (command : JointCommand) :
    Lockstep (L.Alike ρ) (fun updated s s' => L.Drives updated ∧ AlikeLast L ρ s s')
      (fun _ => L.Alike ρ) (emitFinal lib ctx L.id session group command)
      (emitFinal lib ctx' L.id session group command) := by
  unfold emitFinal
  refine (appendCommand_inLane hctx hs command).seq fun _ =>
    liftExcept_from (fun _ _ h => h.alike) fun plain _ => ?_
  set updated := { session with
    lastFinalTarget := lastTarget command
    recoveringLimits := session.recoveringLimits && !plain.ok } with hupdated
  have hdrives : L.Drives updated := ⟨hs.key, hs.group, hs.endpoint, hs.joints, hs.target⟩
  refine .seq (M := fun _ => AlikeLast L ρ) (.update fun s s' h =>
    ⟨alike_recordFinal h.alike hdrives, h.left, h.right⟩) fun _ => .branch (fun _ => ?_) fun _ =>
      .ret fun _ _ h => ⟨hdrives, h⟩
  exact .seq (M := fun _ => AlikeLast L ρ)
    (.update fun s s' h => ⟨alike_pushEvent h.alike _, h.left, h.right⟩)
    fun _ => .ret fun _ _ h => ⟨hdrives, h⟩

omit hB hctx in
theorem commandsOf_endsIn {commands : List JointCommand} {command : JointCommand}
    (h : command.sessionId = L.id) :
    commandsOf L.id (commands ++ [command]) = commandsOf L.id commands ++ [command.untokened] := by
  simp [commandsOf, h]

omit hB hctx in
/-- Both ticks take back the command that the lane issued last. -/
theorem AlikeLast.pop {s s' : TickState β} (h : AlikeLast L ρ s s') :
    L.Alike ρ s.popCommand s'.popCommand := by
  obtain ⟨halike, ⟨commands, command, hlast, hid⟩, ⟨commands', command', hlast', hid'⟩⟩ := h
  have hboth := halike.commands
  rw [hlast, hlast', commandsOf_endsIn hid, commandsOf_endsIn hid'] at hboth
  exact
    { session := halike.session
      goal := halike.goal
      monitorConfig := halike.monitorConfig
      retry := halike.retry
      fixed := halike.fixed
      commands := by
        simp only [TickState.popCommand, hlast, hlast', List.dropLast_concat]
        exact (List.append_inj' hboth rfl).1
      events := halike.events
      pending := halike.pending
      backend := halike.backend
      drives := halike.drives
      inside := halike.inside
      model := halike.model }

section
variable {session : Session} (hs : L.Drives session) (selected : JointFeedback)
include hs

theorem failGoal_inLane {α : Type} {Q : α → TickState β → TickState β → Prop}
    (status : MotionStatus) :
    Lockstep (AlikeLast L ρ) Q (fun _ => L.Alike ρ)
      (modify TickState.popCommand >>= fun _ =>
        stopAndTerminate B lib ctx L.id session selected status : TickM β α)
      (modify TickState.popCommand >>= fun _ =>
        stopAndTerminate B lib ctx' L.id session selected status : TickM β α) :=
  .seq (M := fun _ => L.Alike ρ) (.update fun _ _ h => h.pop) fun _ =>
    stopAndTerminate_inLane hB hctx hs selected status

theorem goalPose_inLane :
    Lockstep (AlikeLast L ρ) (fun _ => AlikeLast L ρ) (fun _ => L.Alike ρ)
      (goalPose B lib ctx L.id session selected) (goalPose B lib ctx' L.id session selected) := by
  unfold goalPose
  cases terminalCartesianGoal session.request with
  | none => exact .ret fun _ _ h => h
  | some _ =>
    rw [hctx.select _ hs.joints]
    refine liftExcept_from (fun _ _ h => h.alike) fun joints _ => ?_
    have hrequest : (feedbackPoseRequest session joints).groupName = L.group := by
      unfold feedbackPoseRequest
      split <;> exact hs.group
    refine .seq (M := fun _ => AlikeLast L ρ) (.updateGet fun s s' h => ?_) fun fk =>
      .branch (fun _ => failGoal_inLane hB hctx hs selected _) fun _ => .ret fun _ _ h => h
    obtain ⟨hanswer, hρ⟩ := hB.own (.kinematics _ hrequest) _ _ h.alike.backend
    exact ⟨hanswer, alike_withBackend h.alike hρ, h.left, h.right⟩

theorem concludeGoal_inLane (observation : GoalObservationResult) :
    Lockstep (AlikeLast L ρ) (fun _ => L.Alike ρ) (fun _ => L.Alike ρ)
      (concludeGoal B lib ctx L.id session selected observation)
      (concludeGoal B lib ctx' L.id session selected observation) := by
  unfold concludeGoal
  cases observation.observation with
  | reached => exact (terminate_inLane hB _ _ _).imp (fun _ _ h => h.alike) (fun _ _ _ h => h) fun _ _ _ h => h
  | timedOut => exact failGoal_inLane hB hctx hs selected _
  | invalidFeedback => exact failGoal_inLane hB hctx hs selected _
  | running => exact .ret fun _ _ h => h.alike

omit hB hs in
/-- An observation judges the goal of the lane by the joints of the lane. -/
theorem observe_inLane {s s' : TickState β} (h : AlikeLast L ρ s s') (pose : Option Pose) :
    (s'.pipeline.monitor.observe lib L.id ctx'.feedback pose ctx'.now).1 =
        (s.pipeline.monitor.observe lib L.id ctx.feedback pose ctx.now).1 ∧
      AlikeLast L ρ
        (withMonitor s (s.pipeline.monitor.observe lib L.id ctx.feedback pose ctx.now).2)
        (withMonitor s' (s'.pipeline.monitor.observe lib L.id ctx'.feedback pose ctx'.now).2) := by
  have halike := h.alike
  have hsame : L.Alike ρ (withMonitor s s.pipeline.monitor) (withMonitor s' s'.pipeline.monitor) :=
    alike_withMonitor halike halike.monitorConfig halike.goal halike.inside
  unfold GoalMonitor.observe
  rw [hctx.now, halike.goal, halike.monitorConfig]
  rcases hgoal : s.pipeline.monitor.goals[L.id]? with _ | goal
  · exact ⟨rfl, hsame, h.left, h.right⟩
  · have hset : ∀ stored : GoalState, stored.jointGoal = goal.jointGoal →
        AlikeLast L ρ (withMonitor s (s.pipeline.monitor.setGoal L.id stored))
          (withMonitor s' (s'.pipeline.monitor.setGoal L.id stored)) := by
      intro stored hjoint
      refine ⟨alike_withMonitor halike halike.monitorConfig (by simp [GoalMonitor.setGoal])
        fun found hf => ?_, h.left, h.right⟩
      simp only [GoalMonitor.setGoal, Std.TreeMap.getElem?_insert_self, Option.some.injEq] at hf
      rw [← hf, hjoint]
      exact halike.inside goal hgoal
    simp only [hctx.judge _ goal _ (halike.inside goal hgoal)]
    split
    · exact ⟨rfl, hsame, h.left, h.right⟩
    · split
      · exact ⟨rfl, hset _ rfl⟩
      · refine ⟨rfl, hset _ ?_⟩
        unfold GoalMonitor.window
        split <;> rfl

theorem observeGoal_inLane :
    Lockstep (AlikeLast L ρ) (fun _ => L.Alike ρ) (fun _ => L.Alike ρ)
      (observeGoal B lib ctx L.id session selected)
      (observeGoal B lib ctx' L.id session selected) := by
  unfold observeGoal
  exact (goalPose_inLane hB hctx hs selected).seq fun pose =>
    .seq (M := fun _ => AlikeLast L ρ) (.updateGet fun _ _ h => observe_inLane hctx h pose)
      (concludeGoal_inLane hB hctx hs selected)

theorem monitorGoal_inLane {backendTick : BackendTick}
    (hjoints : ∀ joint ∈ backendTick.candidate.jointNames, L.joints joint) :
    Lockstep (AlikeLast L ρ) (fun _ => L.Alike ρ) (fun _ => L.Alike ρ)
      (monitorGoal B lib ctx L.id session selected backendTick)
      (monitorGoal B lib ctx' L.id session selected backendTick) := by
  have hcontinue : ∀ condition, Lockstep (AlikeLast L ρ) (fun _ => AlikeLast L ρ)
      (fun _ => L.Alike ρ) (continueIf condition) (continueIf condition) := fun condition =>
    .branch (fun _ => .raise fun _ _ h => h.alike) fun _ => .ret fun _ _ h => h
  unfold monitorGoal
  refine (hcontinue _).seq fun _ => .read fun s s' h => ?_
  have hcontains : ∀ {s s' : TickState β}, AlikeLast L ρ s s' →
      s'.pipeline.monitor.contains L.id = s.pipeline.monitor.contains L.id := by
    intro s s' h
    unfold GoalMonitor.contains
    rw [Std.TreeMap.contains_eq_isSome_getElem?, Std.TreeMap.contains_eq_isSome_getElem?,
      h.alike.goal]
  rw [hcontains h]
  refine .branch (fun _ => ?_) fun _ => .read fun t t' ht => ?_
  · exact (beginGoal_from hB (fun _ _ h => h.alike)
      (fun _ _ _ _ h halike => ⟨halike, h.left, h.right⟩) hjoints _ _).seq fun _ =>
        observeGoal_inLane hB hctx hs selected
  · rw [hcontains ht]
    exact (hcontinue _).seq fun _ => observeGoal_inLane hB hctx hs selected

end

/-! ## The whole turn -/

theorem winnerTurn_inLane :
    InLane L ρ (winnerTurn B lib ctx L.id) (winnerTurn B lib ctx' L.id) := by
  unfold winnerTurn
  refine (admitWinner_inLane hB hctx).seq fun ⟨session, selected⟩ => .knowing fun hs =>
    (startWinner_inLane hB hctx hs selected).seq fun started => .knowing fun hs' =>
      .read fun s s' h => ?_
  rw [h.fixed.groups]
  refine at?_then fun group hgroup => ?_
  refine (candidateOf_inLane hB hctx hs' selected (h.model group (hs'.group ▸ hgroup))).seq
    fun backendTick => .knowing fun hjoints =>
      (finalRtc_inLane hB hctx hs' selected group _).seq fun command =>
        (emitFinal_inLane hctx hs' group command).seq fun updated => .knowing fun hu =>
          monitorGoal_inLane hB hctx hu selected hjoints

/-- The turn of the lane's session reads and writes the lane only. -/
theorem turn_inLane : InLane L ρ (turn B lib ctx L.id) (turn B lib ctx' L.id) := by
  refine .catchExit .next () ((winnerTurn_inLane hB hctx).imp (fun _ _ h => h) (fun _ _ _ h => h) ?_)
  intro e s s' h
  split
  · exact h
  · exact h

end

end Tick

end HumanoidMotion
