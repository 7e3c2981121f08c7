import HumanoidMotion.Lib.Wp
import HumanoidMotion.Motion.Pipeline
/-
# `CommandPipeline::tick` (`motion/command_pipeline.cpp:811`)

The body of the winner loop is cut at the points where the source has its
blank lines; each part leaves through `Exit.next` where the source says
`continue` and through `Exit.outOfRange` where an `.at()` throws.

| here | there |
| --- | --- |
| `currentTime`, `deadline`, `checkTime` | the lambdas at `:815`, `:856`, `:864` |
| `appendCommand`, `failBackend` | the lambdas at `:876`, `:885` |
| `startTick`      | `:814`-`:837`: clock, period, expired leases |
| `gapStep`        | the scheduling-gap loop (`:841`) |
| `deactivate`     | the loop over `deactivate` (`:906`) |
| `admitWinner`    | `:920`-`:952` |
| `startWinner`    | `:954`-`:1006` |
| `candidateOf`    | `:1008`-`:1030` |
| `finalRtc`, `rebaseAndRetry` | `:1032`-`:1074` |
| `emitFinal`      | `:1075`-`:1093` |
| `monitorGoal`    | `:1095`-`:1140` |
| `finishTick`     | `:1145`-`:1158` |
-/

namespace HumanoidMotion

/-- How a part of the winner loop is left early. -/
inductive Exit where
  | next
  | outOfRange
deriving DecidableEq, Repr

/-- The pipeline together with the `result` the tick is building. -/
structure TickState (β : Type) where
  pipeline : CommandPipeline β
  commands : List JointCommand := []
  events : List SessionEvent := []

/-- What stays fixed during one tick. -/
structure TickContext where
  feedback : JointFeedback
  now : SteadyTime
  enteredAt : SteadyTime
  cycleDeadline : SteadyTime

abbrev TickM (β : Type) := Prog (TickState β) Exit

namespace TickState

variable {β : Type}

def withPipeline (s : TickState β) (p : CommandPipeline β) : TickState β := { s with pipeline := p }

def withBackend (s : TickState β) (e : β) : TickState β :=
  s.withPipeline { s.pipeline with backend := e }

def pushEvent (s : TickState β) (id : String) (message : String) : TickState β :=
  { s with events := s.events ++ [{ sessionId := id, state := .running, status := { message } }] }

/-- `result.commands.pop_back()`. -/
def popCommand (s : TickState β) : TickState β := { s with commands := s.commands.dropLast }

/-- Move the queued terminal events into the result (`:894`, `:1155`). -/
def flush (s : TickState β) : TickState β :=
  { s with events := s.events ++ s.pipeline.pendingEvents
           pipeline := { s.pipeline with pendingEvents := [] } }

/-- Issue a command: stamp it, give its joints to it alone, and add it to the result (`:876`). -/
def issue (s : TickState β) (sessionId : String) (validUntil : SteadyTime)
    (command : JointCommand) : TickState β :=
  let token := s.pipeline.nextPublicationToken
  { s with
    pipeline := { s.pipeline with
      nextPublicationToken := token + 1
      publicationPermits := command.jointNames.foldl
        (fun permits joint => permits.insert joint (sessionId, token))
        s.pipeline.publicationPermits }
    commands := s.commands ++ [{ command with
      sessionId, validUntil := some validUntil, publicationToken := token }] }

end TickState

namespace Tick

variable {β : Type} (B : Platform β) (lib : MathLib) (ctx : TickContext)

/-! ## The lambdas -/

/-- One call of the platform. -/
def call {α : Type} (f : β → α × β) : TickM β α :=
  modifyGet fun s => ((f s.pipeline.backend).1, s.withBackend (f s.pipeline.backend).2)

def at? {α : Type} (value : Option α) : TickM β α :=
  match value with
  | some a => pure a
  | none => throw .outOfRange

/-- A computation that may throw `std::out_of_range`. -/
def liftExcept {α : Type} (value : Except OutOfRange α) : TickM β α :=
  match value with
  | .ok a => pure a
  | .error _ => throw .outOfRange

/-- `if (condition) continue;`. -/
def continueIf (condition : Bool) : TickM β Unit :=
  if condition then throw .next else pure ()

def currentTime : TickM β SteadyTime := do
  let reading ← call B.steadyNow
  pure (ctx.now + (reading - ctx.enteredAt))

def deadline (session : Session) : TickM β SteadyTime := do
  let s ← get
  let until_ := min (ctx.feedback.receivedAt + s.pipeline.config.feedbackMaxAge) ctx.cycleDeadline
  if isServo session.kind then do
    let policy ← at? s.pipeline.endpoints[session.endpointName]?
    pure (min until_ (session.submittedAt + policy.servoLease))
  else pure until_

def terminate (id : String) (state : SessionState) (status : MotionStatus)
    (preserveOutput : Bool := false) : TickM β Unit :=
  modify fun s => s.withPipeline (s.pipeline.terminate B id state status preserveOutput)

def deadlineStatus : MotionStatus :=
  { code := .timeout, message := "control computation exceeded input/output deadline" }

/-- `if (!check_time(id)) continue;`. -/
def checkTime (id : String) : TickM β Unit := do
  let s ← get
  match s.pipeline.sessions[id]? with
  | none => throw .next
  | some session => do
    let time ← currentTime B ctx
    let limit ← deadline ctx session
    if limit ≤ time then do
      terminate B id .aborted deadlineStatus
      throw .next
    else pure ()

def appendCommand (session : Session) (command : JointCommand) : TickM β Unit := do
  let limit ← deadline ctx session
  modify fun s => s.issue session.sessionId limit command

def failBackend (id : String) (status : MotionStatus) : TickM β Unit := do
  let s ← get
  let session ← at? s.pipeline.sessions[id]?
  if isServo session.kind then do
    let time ← currentTime B ctx
    modify fun s => s.withPipeline { s.pipeline with
      servoRetryAfter := s.pipeline.servoRetryAfter.insert session.endpointName
        (time + s.pipeline.config.servoRetryInterval) }
    terminate B id .aborted status true
  else terminate B id .aborted status true

/-- `const auto stop = controlledStop(…); if (stop) append_command(…, *stop);`. -/
def stopSession (session : Session) (selected : JointFeedback) : TickM β Unit := do
  let stop ← modifyGet fun s =>
    ((s.pipeline.controlledStop B lib session selected).1,
      s.withBackend (s.pipeline.controlledStop B lib session selected).2)
  match stop with
  | some hold => appendCommand ctx session hold
  | none => pure ()

/-- A failure of the SDK or of its output: hold, end the session, go on with the next. -/
def stopAndFail {α : Type} (id : String) (session : Session) (selected : JointFeedback)
    (status : MotionStatus) : TickM β α := do
  stopSession B lib ctx session selected
  failBackend B ctx id status
  throw .next

/-- The same without a retry interval, for the ends of a Move (`:945`, `:1118`, `:1134`). -/
def stopAndTerminate {α : Type} (id : String) (session : Session) (selected : JointFeedback)
    (status : MotionStatus) : TickM β α := do
  stopSession B lib ctx session selected
  terminate B id .aborted status true
  throw .next

/-! ## The body of the winner loop -/

def moveTimeoutStatus : MotionStatus :=
  { code := .timeout, message := "Move exceeded its steady-clock timeout" }

/-- `is_servo && !backend_started && retry != end && current_time() < retry->second` (`:936`): the
clock is read only when the first three hold. -/
def awaitRetry (session : Session) : TickM β Unit := do
  let s ← get
  match s.pipeline.servoRetryAfter[session.endpointName]? with
  | none => pure ()
  | some retry =>
    if isServo session.kind && !session.backendStarted then do
      let time ← currentTime B ctx
      continueIf (decide (time < retry))
    else pure ()

def admitWinner (id : String) : TickM β (Session × JointFeedback) := do
  let s ← get
  match s.pipeline.sessions[id]? with
  | none => throw .next
  | some found => do
    let group ← at? s.pipeline.groups[found.groupName]?
    let time ← currentTime B ctx
    let status := validateFeedback lib s.pipeline.config ctx.feedback group time
    if !status.ok then do
      terminate B id .aborted status
      throw .next
    else do
      checkTime B ctx id
      let selected ← liftExcept (selectFeedback ctx.feedback found.jointNames)
      awaitRetry B ctx found
      if isMove found.kind &&
          decide (s.pipeline.config.goalMonitor.moveTimeout < ctx.now - found.submittedAt) then
        stopAndTerminate B lib ctx id found selected moveTimeoutStatus
      else pure (found, selected)

/-- The joints of the feedback that lie outside their model limits (`:988`). -/
def outsideLimits (model : JointGroupModel) (selected : JointFeedback) : Bool :=
  (List.range model.jointNames.length).any fun i =>
    decide (valueAt selected.positionsRad i < valueAt model.lowerPositionRad i) ||
      decide (valueAt model.upperPositionRad i < valueAt selected.positionsRad i)

/-- The session once the SDK runs it: the final RTC stands at the measured joints (`:981`). -/
def startedSession (session : Session) (model : JointGroupModel) (selected : JointFeedback) :
    Session :=
  { session with
    backendStarted := true
    lastFinalTarget :=
      { jointNames := selected.jointNames
        positionsRad := selected.positionsRad
        velocitiesRadS := selected.velocitiesRadS
        accelerationsRadS2 := selected.jointNames.map fun _ => 0 }
    recoveringLimits := outsideLimits model selected }

/-- The message of the RUNNING event of a start (`:995`). -/
def startMessage (session : Session) : String :=
  if session.recoveringLimits then "joint limit recovery started" else ""

/-- Everything a successful start records (`:981`-`:996`). -/
def markStarted (s : TickState β) (id : String) (started : Session) : TickState β :=
  (s.withPipeline { s.pipeline with
    sessions := s.pipeline.sessions.insert id started
    activeBackendSessions := s.pipeline.activeBackendSessions.insert id
    lastSourceByGroup := s.pipeline.lastSourceByGroup.insert started.groupName id }).pushEvent
    id (startMessage started)

/-- `monitor_.begin(…)`, and the end of the session when it refuses (`:997`, `:1102`). -/
def beginGoal (id : String) (goal : JointTarget) (cartesian : Option Pose)
    (startedAt : SteadyTime) : TickM β Unit := do
  let status ← modifyGet fun s =>
    ((s.pipeline.monitor.begin id goal cartesian startedAt).1,
      s.withPipeline { s.pipeline with
        monitor := (s.pipeline.monitor.begin id goal cartesian startedAt).2 })
  if !status.ok then do
    terminate B id .aborted status
    throw .next
  else pure ()

def startWinner (id : String) (session : Session) (selected : JointFeedback) :
    TickM β Session :=
  if session.backendStarted then pure session
  else do
    let period := (← get).pipeline.currentPeriodSec
    let start ← call fun e => B.startSession e id session.request selected period
    checkTime B ctx id
    if !start.ok then stopAndFail B lib ctx id session selected start
    else do
      let reset ← call fun e => B.resetFinalJointTarget e session.groupName selected
      checkTime B ctx id
      if !reset.ok then stopAndFail B lib ctx id session selected reset
      else do
        let model ← at? (← get).pipeline.groups[session.groupName]?
        let started := startedSession session model selected
        modify fun s => markStarted s id started
        if session.kind = .moveJ then do
          beginGoal B id (terminalJointGoal session.request) none session.submittedAt
          pure started
        else pure started

def candidateOf (id : String) (session : Session) (selected : JointFeedback)
    (group : JointGroupModel) : TickM β BackendTick := do
  let period := (← get).pipeline.currentPeriodSec
  let backendTick ← call fun e => B.tickSession e id (dynamicTarget session.request) period
  checkTime B ctx id
  if !backendTick.status.ok then stopAndFail B lib ctx id session selected backendTick.status
  else do
    let status ← liftExcept (validateCandidate lib backendTick.candidate group)
    if !status.ok then stopAndFail B lib ctx id session selected status
    else pure backendTick

/-- The one rebase of a rejected recovery output, and its one retry (`:1049`). -/
def rebaseAndRetry (session : Session) (selected : JointFeedback) (group : JointGroupModel)
    (candidate : JointCommand) (finalTick : BackendTick) (status : MotionStatus) :
    TickM β (BackendTick × MotionStatus) := do
  let s ← get
  match limitRecoverySeed s.pipeline.config s.pipeline.currentPeriodSec group session
      finalTick.candidate selected with
  | none => pure (finalTick, status)
  | some seed => do
    let rebased ← call fun e => B.rebaseFinalJointTarget e session.groupName seed
    if !rebased.ok then pure (finalTick, rebased)
    else do
      let retried ← call fun e =>
        B.updateFinalJointTarget e session.groupName candidate s.pipeline.currentPeriodSec
      if !retried.status.ok then pure (retried, retried.status)
      else do
        let status ← liftExcept (validateFinalCommand lib retried.candidate group
          (some (seed.positionsRad, selected)))
        pure (retried, status)

def bypassStatus : MotionStatus :=
  { code := .internalError, message := "backend output bypassed final SDK RTC" }

/-- The only path to a normal publishable command. -/
def finalRtc (id : String) (session : Session) (selected : JointFeedback)
    (group : JointGroupModel) (candidate : JointCommand) : TickM β JointCommand := do
  let period := (← get).pipeline.currentPeriodSec
  let finalTick ← call fun e =>
    B.updateFinalJointTarget e session.groupName candidate period
  checkTime B ctx id
  if !finalTick.status.ok then stopAndFail B lib ctx id session selected finalTick.status
  else do
    let status ← liftExcept (validateFinalCommand lib finalTick.candidate group
      (some (session.lastFinalTarget.positionsRad, selected)))
    let (finalTick, status) ←
      if status.code = .limitViolation then
        rebaseAndRetry B lib session selected group candidate finalTick status
      else pure (finalTick, status)
    if !status.ok then stopAndFail B lib ctx id session selected status
    else if !finalTick.candidate.passedFinalSdkRtc then
      stopAndFail B lib ctx id session selected bypassStatus
    else pure finalTick.candidate

/-- The last output as the next reference, missing arrays filled with zeros (`:1077`). -/
def lastTarget (command : JointCommand) : JointTarget where
  jointNames := command.jointNames
  positionsRad := command.positionsRad
  velocitiesRadS :=
    if command.velocitiesRadS.isEmpty then command.jointNames.map fun _ => 0
    else command.velocitiesRadS
  accelerationsRadS2 :=
    if command.accelerationsRadS2.isEmpty then command.jointNames.map fun _ => 0
    else command.accelerationsRadS2

def recordFinal (s : TickState β) (id : String) (session : Session) : TickState β :=
  s.withPipeline { s.pipeline with
    sessions := s.pipeline.sessions.insert id session
    servoRetryAfter := s.pipeline.servoRetryAfter.erase session.endpointName }

def emitFinal (id : String) (session : Session) (group : JointGroupModel)
    (command : JointCommand) : TickM β Session := do
  appendCommand ctx session command
  let plain ← liftExcept (validateFinalCommand lib command group none)
  let recovered := session.recoveringLimits && plain.ok
  let updated := { session with
    lastFinalTarget := lastTarget command
    recoveringLimits := session.recoveringLimits && !plain.ok }
  modify fun s => recordFinal s id updated
  if recovered then do
    modify fun s => s.pushEvent id "joint limit recovery completed"
    pure updated
  else pure updated

/-- `feedbackPose` (`:719`): the FK request of a Cartesian Move. -/
def feedbackPoseRequest (session : Session) (selected : JointFeedback) : ForwardKinematicsRequest :=
  let joints : JointTarget :=
    { jointNames := session.jointNames, positionsRad := selected.positionsRad }
  match session.request with
  | .moveL r => { groupName := session.groupName, baseLink := r.baseLink, linkName := r.linkName, joints }
  | .moveP r => { groupName := session.groupName, baseLink := r.baseLink, linkName := r.linkName, joints }
  | _ => { groupName := session.groupName, joints }

/-- The pose the goal is judged by, when it has a Cartesian part (`:1113`). -/
def goalPose (id : String) (session : Session) (selected : JointFeedback) :
    TickM β (Option Pose) :=
  match terminalCartesianGoal session.request with
  | none => pure none
  | some _ => do
    let joints ← liftExcept (selectFeedback ctx.feedback session.jointNames)
    let fk ← call fun e => B.forwardKinematics e (feedbackPoseRequest session joints)
    if !fk.status.ok then do
      modify TickState.popCommand
      stopAndTerminate B lib ctx id session selected fk.status
    else pure (some fk.pose)

/-- The verdict of the goal monitor on this tick (`:1128`). -/
def concludeGoal (id : String) (session : Session) (selected : JointFeedback)
    (observation : GoalObservationResult) : TickM β Unit :=
  match observation.observation with
  | .reached => terminate B id .succeeded .Ok true
  | .timedOut | .invalidFeedback => do
    modify TickState.popCommand
    stopAndTerminate B lib ctx id session selected observation.status
  | .running => pure ()

def observeGoal (id : String) (session : Session) (selected : JointFeedback) : TickM β Unit := do
  let pose ← goalPose B lib ctx id session selected
  let observation ← modifyGet fun s =>
    ((s.pipeline.monitor.observe lib id ctx.feedback pose ctx.now).1,
      s.withPipeline { s.pipeline with
        monitor := (s.pipeline.monitor.observe lib id ctx.feedback pose ctx.now).2 })
  concludeGoal B lib ctx id session selected observation

def monitorGoal (id : String) (session : Session) (selected : JointFeedback)
    (backendTick : BackendTick) : TickM β Unit := do
  continueIf (isServo session.kind)
  if !(← get).pipeline.monitor.contains id && backendTick.pathReached then do
    let goal : JointTarget :=
      { jointNames := backendTick.candidate.jointNames
        positionsRad := backendTick.candidate.positionsRad }
    beginGoal B id goal (terminalCartesianGoal session.request) session.submittedAt
    observeGoal B lib ctx id session selected
  else do
    continueIf (!(← get).pipeline.monitor.contains id)
    observeGoal B lib ctx id session selected

def winnerTurn (id : String) : TickM β Unit := do
  let (session, selected) ← admitWinner B lib ctx id
  let session ← startWinner B lib ctx id session selected
  let group ← at? (← get).pipeline.groups[session.groupName]?
  let backendTick ← candidateOf B lib ctx id session selected group
  let command ← finalRtc B lib ctx id session selected group backendTick.candidate
  let session ← emitFinal lib ctx id session group command
  monitorGoal B lib ctx id session selected backendTick

/-- One turn of the loop: `continue` ends it, an exception ends the tick. -/
def turn (id : String) : TickM β Unit := Prog.catchExit (winnerTurn B lib ctx id) .next ()

/-! ## Around the winner loop -/

def gapStatus : MotionStatus :=
  { code := .timeout, message := "control scheduling gap exceeded maximum period" }

/-- A servo session stopped by a scheduling gap: it is restarted from measured joints when it wins
again (`:847`). -/
def pauseServo (p : CommandPipeline β) (id : String) (session : Session) : CommandPipeline β :=
  { p with
    backend := (B.stopSession p.backend id).2
    activeBackendSessions := p.activeBackendSessions.erase id
    lastSourceByGroup := p.lastSourceByGroup.erase session.groupName
    sessions := p.sessions.insert id { session with backendStarted := false } }

/-- One active session after a scheduling gap (`:841`). -/
def gapStep (id : String) : TickM β Unit := do
  let session ← at? (← get).pipeline.sessions[id]?
  if isMove session.kind then terminate B id .aborted gapStatus
  else modify fun s => s.withPipeline (pauseServo B s.pipeline id session)

/-- Stop the SDK session of a claim that no longer wins; the claim stays (`:906`). -/
def deactivate (p : CommandPipeline β) (id : String) : CommandPipeline β :=
  let stopped := { p with
    backend := (B.stopSession p.backend id).2
    activeBackendSessions := p.activeBackendSessions.erase id }
  match p.sessions[id]? with
  | none => stopped
  | some session =>
    { stopped with
      sessions := p.sessions.insert id { session with backendStarted := false }
      lastSourceByGroup := CommandPipeline.eraseEntry p.lastSourceByGroup session.groupName id }

def expiredWhileComputing : MotionStatus :=
  { code := .timeout, message := "command expired while computing another session" }

/-- A command whose deadline has passed by `finishedAt` (`:1147`). -/
def commandLate (finishedAt : SteadyTime) (command : JointCommand) : Bool :=
  command.validUntil.any fun limit => decide (limit ≤ finishedAt)

/-- The recheck of the whole batch (`:1146`): late commands go, and their sessions end. -/
def dropLate (s : TickState β) (finishedAt : SteadyTime) : TickState β :=
  { s with
    pipeline := (s.commands.filter (commandLate finishedAt)).foldl
      (fun p command => p.terminate B command.sessionId .aborted expiredWhileComputing) s.pipeline
    commands := s.commands.filter fun command => !commandLate finishedAt command }

def finishTick : TickM β Unit := do
  let finishedAt ← currentTime B ctx
  modify fun s => (dropLate B s finishedAt).flush

def activeOutside (p : CommandPipeline β) (winners : List String) : List String :=
  p.activeBackendSessions.toList.filter fun id => !winners.contains id

def gapLoop (schedulingGap : Bool) : TickM β Unit := do
  let active := (← get).pipeline.activeBackendSessions.toList
  if schedulingGap then active.forM (gapStep B) else pure ()

/-- Everything after the expired leases have been processed. -/
def mainLoop (schedulingGap : Bool) (winners : List String) : TickM β Unit := do
  gapLoop B schedulingGap
  modify TickState.flush
  modify fun s => s.withPipeline
    ((activeOutside s.pipeline winners).foldl (deactivate B) s.pipeline)
  winners.forM (turn B lib ctx)
  finishTick B ctx

end Tick

namespace CommandPipeline

variable {β : Type} (B : Platform β) (lib : MathLib)

/-- `max(period_sec_, max_control_period)` (`:818`). -/
def maxPeriodSec (self : CommandPipeline β) : Rat :=
  max self.periodSec (seconds self.config.maxControlPeriod)

/-- Seconds since the previous tick, when there was one and time has moved on (`:822`). -/
def elapsedSec (self : CommandPipeline β) (now : SteadyTime) : Option Rat :=
  match self.lastTickTime with
  | some last => if last < now then some (seconds (now - last)) else none
  | none => none

def schedulingGap (self : CommandPipeline β) (now : SteadyTime) : Bool :=
  (self.elapsedSec now).any fun elapsed => decide (self.maxPeriodSec < elapsed)

/-- The period this tick hands to the SDK (`:820`). -/
def tickPeriod (self : CommandPipeline β) (now : SteadyTime) : Rat :=
  match self.elapsedSec now with
  | some elapsed => if self.maxPeriodSec < elapsed then self.periodSec else elapsed
  | none => self.periodSec

/-- The time base of a tick: the reading on entry, and `started_at` from the reading under the
lock (`:814`). -/
structure TickStart (β : Type) where
  enteredAt : SteadyTime
  startedAt : SteadyTime
  pipeline : CommandPipeline β

def startTick (self : CommandPipeline β) (now : SteadyTime) : TickStart β :=
  let entered := self.readClock B
  let reading := entered.2.readClock B
  { enteredAt := entered.1
    startedAt := now + (reading.1 - entered.1)
    pipeline := { reading.2 with
      currentPeriodSec := self.tickPeriod now
      lastTickTime := some now
      pendingEvents := [] } }

/-- The fixed data of the tick (`:854`). -/
def tickContext (self : CommandPipeline β) (feedback : JointFeedback) (now : SteadyTime) :
    TickContext where
  feedback := feedback
  now := now
  enteredAt := (self.startTick B now).enteredAt
  cycleDeadline := (self.startTick B now).startedAt + durationCast self.maxPeriodSec

/-- The arbitration of the tick (`:832`). -/
def tickArbitration (self : CommandPipeline β) (now : SteadyTime) : ArbitrationResult :=
  ((self.startTick B now).pipeline.arbiter.evaluate (self.startTick B now).startedAt).1

/-- The state in which the main part of the tick starts: expired leases are processed, and the
events queued before the tick open the result (`:830`). -/
def tickOpening (self : CommandPipeline β) (now : SteadyTime) : TickState β :=
  let start := self.startTick B now
  let evaluated := start.pipeline.arbiter.evaluate start.startedAt
  { pipeline := { start.pipeline with arbiter := evaluated.2 }.processExpired B
      evaluated.1.expiredServoIds
    events := self.pendingEvents }

def tick (self : CommandPipeline β) (feedback : JointFeedback) (now : SteadyTime) :
    Except Exit PipelineTick × CommandPipeline β :=
  let run := Prog.exec (Tick.mainLoop B lib (self.tickContext B feedback now)
    (self.schedulingGap now) (self.tickArbitration B now).winnerSessionIds)
    (self.tickOpening B now)
  match run with
  | (.ok _, s) => (.ok { commands := s.commands, events := s.events }, s.pipeline)
  | (.error e, s) => (.error e, s.pipeline)

end CommandPipeline

end HumanoidMotion
