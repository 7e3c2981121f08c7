import HumanoidMotion.Motion.Platform
import HumanoidMotion.Motion.Validation
/-
# The command pipeline outside `tick` (`motion/command_pipeline.cpp`)

| here | there |
| --- | --- |
| `CommandPipeline`     | the members of `CommandPipeline` (`command_pipeline.hpp:134`) |
| `create`              | the constructor (`:145`) |
| `registerEndpoint`    | `CommandPipeline::registerEndpoint` (`:216`) |
| `submitMove`, `updateServo` | `CommandPipeline::submitMove`, `updateServo` (`:296`, `:335`) |
| `validatePublicationLocked`, `publishCommand`, `publishCommands` | the publication side (`:410`-`:461`) |
| `setOutputPermit`, `cancel` | `:463`, `:478` |
| `terminate`, `processPreemptions` | `:750`, `:740` |
| `controlledStop`      | `CommandPipeline::controlledStop` (`:783`) |

Every public function holds the mutex from its first statement on, so each one
is a single step here. The backend and the clock are never null
(`validatePipelineConfig` refuses every endpoint otherwise).
-/

namespace HumanoidMotion

structure CommandPipeline (β : Type) where
  outputEnabled : Bool := true
  outputGeneration : Nat := 0
  /-- The state of the SDK behind `backend_` and of the clock behind `steady_now_`. -/
  backend : β
  groups : StringMap JointGroupModel := ∅
  endpoints : StringMap EndpointPolicy := ∅
  config : CommandPipelineConfig := {}
  configurationStatus : MotionStatus := .Ok
  periodSec : Rat := 1 / 100
  currentPeriodSec : Rat := 1 / 100
  lastTickTime : Option SteadyTime := none
  arbiter : ControlArbiter := {}
  monitor : GoalMonitor := {}
  sessions : StringMap Session := ∅
  servoSessionByEndpoint : StringMap String := ∅
  servoRetryAfter : StringMap SteadyTime := ∅
  lastSourceByGroup : StringMap String := ∅
  activeBackendSessions : StringSet := ∅
  pendingEvents : List SessionEvent := []
  /-- At most one permit for a joint: the session and the token it was issued to. -/
  publicationPermits : StringMap (String × Nat) := ∅
  nextPublicationToken : Nat := 1

structure SubmissionResult where
  status : MotionStatus := {}
  sessionId : String := ""
deriving DecidableEq, Repr

/-- A command handed to the sink, with the time at which its permit was checked. -/
structure Publication where
  command : JointCommand
  checkedAt : SteadyTime
deriving DecidableEq, Repr

/-! ## Construction and configuration -/

/-- A group model the constructor accepts (`:157`). -/
def JointGroupModel.valid (group : JointGroupModel) : Bool :=
  !group.name.isEmpty && !group.jointNames.isEmpty && uniqueNonEmpty group.jointNames &&
    group.lowerPositionRad.length == group.jointNames.length &&
    group.upperPositionRad.length == group.jointNames.length &&
    finite group.lowerPositionRad && finite group.upperPositionRad

/-- One turn of the constructor's loop over the group models (`:155`). -/
def addGroup (state : StringMap JointGroupModel × MotionStatus) (group : JointGroupModel) :
    StringMap JointGroupModel × MotionStatus :=
  if !group.valid || state.1.contains group.name then
    (state.1, { code := .invalidArgument,
                message := "joint group models must have unique names/joints and complete finite limits" })
  else
    (state.1.insert group.name group,
      if (List.range group.jointNames.length).any fun i =>
          decide (valueAt group.upperPositionRad i < valueAt group.lowerPositionRad i) then
        { code := .invalidArgument, message := "joint group lower limit exceeds upper limit" }
      else state.2)

/-- `config_.control_frequency_hz > 0.0 && std::isfinite(…)` decides the nominal period (`:151`). -/
def nominalPeriod (config : CommandPipelineConfig) : Rat :=
  if config.controlFrequencyHz.isPositive then 1 / config.controlFrequencyHz.val else 1 / 100

/-- `std::chrono::duration<double>(d).count()`. -/
def seconds (d : Duration) : Rat := d / 1000000000

/-- `std::chrono::duration_cast<SteadyClock::duration>(std::chrono::duration<double>(s))`:
truncation towards zero. -/
def durationCast (s : Rat) : Duration :=
  let ns := s * 1000000000
  ns.num.tdiv ns.den

namespace CommandPipeline

variable {β : Type}

def create (backend : β) (jointGroups : List JointGroupModel) (config : CommandPipelineConfig) :
    CommandPipeline β :=
  let built := jointGroups.foldl addGroup (∅, .Ok)
  { backend, config
    groups := built.1
    configurationStatus := built.2
    periodSec := nominalPeriod config
    currentPeriodSec := nominalPeriod config
    monitor := { config := config.goalMonitor } }

def validatePipelineConfig (self : CommandPipeline β) : MotionStatus :=
  if !self.configurationStatus.ok then self.configurationStatus
  else if !self.config.controlFrequencyHz.isPositive ||
      decide (self.config.feedbackMaxAge ≤ 0) || decide (self.config.maxControlPeriod ≤ 0) ||
      decide (self.config.servoRetryInterval ≤ 0) ||
      !self.config.feedbackLimitRecoveryMarginRad.isNonNegative ||
      !self.config.feedbackRebaseToleranceRad.isNonNegative then
    { code := .invalidArgument,
      message := "pipeline rate/feedback age/recovery settings are invalid" }
  else if self.groups.isEmpty then
    { code := .notConfigured, message := "no joint groups configured" }
  else if !self.config.goalMonitor.valid then
    { code := .invalidArgument, message := "goal monitor configuration is invalid" }
  else .Ok

def registerEndpoint (self : CommandPipeline β) (policy : EndpointPolicy) :
    MotionStatus × CommandPipeline β :=
  let pipeline := self.validatePipelineConfig
  if !pipeline.ok then (pipeline, self)
  else if !self.groups.contains policy.groupName then
    ({ code := .notConfigured,
       message := "endpoint references unknown group: " ++ policy.groupName }, self)
  else
    let registered := self.arbiter.registerEndpoint policy
    if registered.1.ok then
      (registered.1, { self with
        arbiter := registered.2
        endpoints := self.endpoints.insertIfNew policy.endpointName policy })
    else (registered.1, { self with arbiter := registered.2 })

/-! ## Permits and termination -/

section
variable (B : Platform β)

def revokeOutputs (self : CommandPipeline β) (joints : List String) : CommandPipeline β :=
  { self with
    publicationPermits := joints.foldl (fun permits joint => permits.erase joint)
      self.publicationPermits }

/-- Drop every permit of one session (`:755`). -/
def revokeSession (self : CommandPipeline β) (sessionId : String) : CommandPipeline β :=
  { self with
    publicationPermits := self.publicationPermits.filter fun _ permit => permit.1 != sessionId }

/-- `map.erase(key)` when the entry under `key` is `value`. -/
def eraseEntry (map : StringMap String) (key value : String) : StringMap String :=
  if map[key]? = some value then map.erase key else map

/-- Take a stored session out of every table and queue its terminal event (`:767`). -/
def removeSession (self : CommandPipeline β) (sessionId : String) (found : Session)
    (state : SessionState) (status : MotionStatus) : CommandPipeline β :=
  { self with
    backend := (B.stopSession self.backend sessionId).2
    activeBackendSessions := self.activeBackendSessions.erase sessionId
    arbiter := self.arbiter.release sessionId
    monitor := self.monitor.erase sessionId
    lastSourceByGroup := eraseEntry self.lastSourceByGroup found.groupName sessionId
    servoSessionByEndpoint := eraseEntry self.servoSessionByEndpoint found.endpointName sessionId
    pendingEvents := self.pendingEvents ++ [{ sessionId, state, status }]
    sessions := self.sessions.erase sessionId }

def terminate (self : CommandPipeline β) (sessionId : String) (state : SessionState)
    (status : MotionStatus) (preserveOutput : Bool := false) : CommandPipeline β :=
  let kept := if preserveOutput then self else self.revokeSession sessionId
  match self.sessions[sessionId]? with
  | none => kept
  | some found => kept.removeSession B sessionId found state status

def preemptedStatus : MotionStatus :=
  { code := .preempted, message := "Move was preempted and will not resume" }

def leaseExpiredStatus : MotionStatus := { code := .staleFeedback, message := "Servo lease expired" }

def processPreemptions (self : CommandPipeline β) (sessionIds : List String) : CommandPipeline β :=
  sessionIds.foldl (fun p id => p.terminate B id .preempted preemptedStatus) self

/-- The loop over `expired_servo_ids` (`:322`, `:383`, `:833`). -/
def processExpired (self : CommandPipeline β) (sessionIds : List String) : CommandPipeline β :=
  sessionIds.foldl (fun p id => p.terminate B id .aborted leaseExpiredStatus) self

/-! ## Submissions -/

def refuse (self : CommandPipeline β) (status : MotionStatus) (sessionId : String := "") :
    SubmissionResult × CommandPipeline β :=
  ({ status, sessionId }, self)

/-- The claim a session makes. -/
def claimOf (endpointName : String) (session : Session) : CommandClaim where
  sessionId := session.sessionId
  endpointName := endpointName
  groupName := session.groupName
  kind := session.kind
  jointNames := session.jointNames

def revokedStatus : MotionStatus :=
  { code := .rejected, message := "execution permission revoked" }

/-- `submitMove` once its request is known to be valid (`:316`). -/
def arbitrateMove (self : CommandPipeline β) (endpointName : String) (session : Session)
    (now : SteadyTime) : SubmissionResult × CommandPipeline β :=
  let claim := claimOf endpointName session
  let arbitration := self.arbiter.submitMove claim now
  let result := arbitration.1
  let p := { self with arbiter := arbitration.2 }
  let p := p.processPreemptions B result.preemptedMoveIds
  let p := p.processExpired B result.expiredServoIds
  if !result.status.ok || !result.admitted then p.refuse result.status session.sessionId
  else
    let p := { p with
      sessions := p.sessions.insertIfNew session.sessionId { session with submittedAt := now } }
    ({ status := .Ok, sessionId := claim.sessionId }, p.revokeOutputs claim.jointNames)

def submitMove (self : CommandPipeline β) (endpointName : String) (request : SessionRequest)
    (now : SteadyTime) (generation : Nat := 0) : SubmissionResult × CommandPipeline β :=
  if !self.outputEnabled || generation ≠ self.outputGeneration then self.refuse revokedStatus
  else match self.endpoints[endpointName]? with
    | none =>
      self.refuse { code := .notConfigured, message := "unknown endpoint: " ++ endpointName }
    | some policy =>
      match validateRequest self.groups policy request false with
      | .error status => self.refuse status
      | .ok session =>
        if self.sessions.contains session.sessionId then
          self.refuse { code := .invalidArgument,
                        message := "duplicate session id: " ++ session.sessionId }
        else self.arbitrateMove B endpointName session now

/-- The stored session of an accepted servo target: the old one with the new request, or a new
one (`:375`). -/
def storeServo (self : CommandPipeline β) (endpointName : String) (updated : Session)
    (existing : Option Session) (receivedAt : SteadyTime) : CommandPipeline β :=
  match existing with
  | some session =>
    { self with
      sessions := self.sessions.insert updated.sessionId
        { session with request := updated.request, submittedAt := receivedAt } }
  | none =>
    { self with
      sessions := self.sessions.insertIfNew updated.sessionId
        { updated with submittedAt := receivedAt }
      servoSessionByEndpoint := self.servoSessionByEndpoint.insert endpointName updated.sessionId }

/-- `updateServo` once its target is known to be valid, live and in order (`:368`). -/
def arbitrateServo (self : CommandPipeline β) (endpointName : String) (updated : Session)
    (existing : Option Session) (receivedAt now : SteadyTime) :
    SubmissionResult × CommandPipeline β :=
  let claim := claimOf endpointName updated
  let arbitration := self.arbiter.updateServo claim receivedAt now
  let result := arbitration.1
  let p := { self with arbiter := arbitration.2 }
  if !result.status.ok then p.refuse result.status updated.sessionId
  else
    let p := p.storeServo endpointName updated existing receivedAt
    let p := p.processPreemptions B result.preemptedMoveIds
    let p := p.processExpired B (result.expiredServoIds.filter (· != updated.sessionId))
    let p := if result.admitted then p.revokeOutputs claim.jointNames else p
    ({ status := result.status, sessionId := updated.sessionId }, p)

/-- A stored session whose last target is older than the lease (`:360`). -/
def leaseOver (policy : EndpointPolicy) (session : Session) (now : SteadyTime) : Bool :=
  decide (policy.servoLease ≤ now - session.submittedAt)

def updateServo (self : CommandPipeline β) (endpointName : String) (request : SessionRequest)
    (receivedAt now : SteadyTime) (generation : Nat := 0) :
    SubmissionResult × CommandPipeline β :=
  if !self.outputEnabled || generation ≠ self.outputGeneration then self.refuse revokedStatus
  else match self.endpoints[endpointName]? with
    | none =>
      self.refuse { code := .notConfigured, message := "unknown endpoint: " ++ endpointName }
    | some policy =>
      match validateRequest self.groups policy request true with
      | .error status => self.refuse status
      | .ok updated =>
        if now < receivedAt || policy.servoLease ≤ now - receivedAt then
          self.refuse { code := .rejected, message := "Servo target expired before arbitration" }
        else match self.sessions[updated.sessionId]? with
          | none => self.arbitrateServo B endpointName updated none receivedAt now
          | some existing =>
            if receivedAt < existing.submittedAt then
              self.refuse { code := .rejected, message := "out-of-order Servo target" }
            else if leaseOver policy existing now then
              -- reacquired from measured joints, never from an old RTC
              (self.terminate B updated.sessionId .aborted leaseExpiredStatus).arbitrateServo B
                endpointName updated none receivedAt now
            else self.arbitrateServo B endpointName updated (some existing) receivedAt now

/-! ## Publication -/

/-- Every joint of the command carries the command's own permit (`:416`). -/
def holdsPermits (self : CommandPipeline β) (command : JointCommand) : Bool :=
  command.jointNames.all fun joint =>
    self.publicationPermits[joint]? == some (command.sessionId, command.publicationToken)

def commandExpiredStatus : MotionStatus :=
  { code := .timeout, message := "command expired before publication" }

def validatePublicationLocked (self : CommandPipeline β) (command : JointCommand)
    (now : SteadyTime) : Bool × CommandPipeline β :=
  if !self.outputEnabled || command.publicationToken == 0 || command.jointNames.isEmpty ||
      !self.holdsPermits command then (false, self)
  else if command.validUntil.any fun until_ => decide (now < until_) then (true, self)
  else (false, self.terminate B command.sessionId .aborted commandExpiredStatus)

/-- `steady_now_()`. -/
def readClock (self : CommandPipeline β) : SteadyTime × CommandPipeline β :=
  ((B.steadyNow self.backend).1, { self with backend := (B.steadyNow self.backend).2 })

def publishCommand (self : CommandPipeline β) (command : JointCommand) (now : SteadyTime) :
    Bool × List Publication × CommandPipeline β :=
  let entered := self.readClock B
  let reading := entered.2.readClock B
  let at_ := now + (reading.1 - entered.1)
  let valid := reading.2.validatePublicationLocked B command at_
  if !valid.1 then (false, [], valid.2)
  else (true, [⟨command, at_⟩], valid.2.revokeOutputs command.jointNames)

/-- One turn of the approval loop of `publishCommands` (`:452`). -/
def approve (enteredAt now : SteadyTime) (state : List Publication × CommandPipeline β)
    (command : JointCommand) : List Publication × CommandPipeline β :=
  let reading := state.2.readClock B
  let at_ := now + (reading.1 - enteredAt)
  let valid := reading.2.validatePublicationLocked B command at_
  (if valid.1 then state.1 ++ [⟨command, at_⟩] else state.1, valid.2)

def publishCommands (self : CommandPipeline β) (commands : List JointCommand) (now : SteadyTime) :
    Bool × List Publication × CommandPipeline β :=
  let entered := self.readClock B
  let checked := commands.foldl (approve B entered.1 now) ([], entered.2)
  if checked.1.isEmpty then (false, [], checked.2)
  else
    (true, checked.1,
      checked.1.foldl (fun p approved => p.revokeOutputs approved.command.jointNames) checked.2)

/-! ## Permission and cancellation -/

def canceledStatus : MotionStatus := { code := .canceled, message := "session canceled" }

def permissionRevokedStatus : MotionStatus :=
  { code := .canceled, message := "execution permission revoked" }

/-- The `while (!sessions_.empty())` loop of `setOutputPermit` (`:467`): terminating the first
session takes exactly its key away, so the loop visits the keys in order. -/
def cancelAll (self : CommandPipeline β) : CommandPipeline β :=
  self.sessions.keys.foldl (fun p id => p.terminate B id .canceled permissionRevokedStatus) self

def setOutputPermit (self : CommandPipeline β) (enabled : Bool) (generation : Nat) :
    CommandPipeline β :=
  let p := if !enabled || generation ≠ self.outputGeneration then
      { self.cancelAll B with publicationPermits := ∅ }
    else self
  { p with outputEnabled := enabled, outputGeneration := generation }

def cancel (self : CommandPipeline β) (sessionId : String) : MotionStatus × CommandPipeline β :=
  let p := self.terminate B sessionId .canceled canceledStatus
  if self.sessions.contains sessionId then (.Ok, p)
  else
    let stopped := B.stopSession p.backend sessionId
    (stopped.1, { p with backend := stopped.2 })

/-! ## The controlled stop -/

/-- The hold command `controlledStop` asks the final RTC to shape (`:793`). -/
def holdRequest (session : Session) (selected : JointFeedback) : JointCommand where
  groupName := session.groupName
  jointNames := session.jointNames
  positionsRad := selected.positionsRad
  velocitiesRadS := session.jointNames.map fun _ => 0
  accelerationsRadS2 := session.jointNames.map fun _ => 0

/-- A hold is kept only when it passed the final RTC and every limit without recovery (`:801`). An
`.at()` that throws ends in the `catch`, with no hold. -/
def acceptHold (lib : MathLib) (group : Option JointGroupModel) (shaped : BackendTick) :
    Option JointCommand :=
  if !shaped.status.ok || !shaped.candidate.passedFinalSdkRtc then none
  else match group with
    | none => none
    | some group => match validateFinalCommand lib shaped.candidate group none with
      | .ok status => if status.ok then some shaped.candidate else none
      | .error _ => none

/-- The answer and the backend it leaves behind; `feedback` is the tick's selected feedback. -/
def controlledStop (lib : MathLib) (self : CommandPipeline β) (session : Session)
    (feedback : JointFeedback) : Option JointCommand × β :=
  match selectFeedback feedback session.jointNames with
  | .error _ => (none, self.backend)
  | .ok selected =>
    let reset := B.resetFinalJointTarget self.backend session.groupName selected
    if !reset.1.ok then (none, reset.2)
    else
      let shaped := B.updateFinalJointTarget reset.2 session.groupName
        (holdRequest session selected) self.currentPeriodSec
      (acceptHold lib self.groups[session.groupName]? shaped.1, shaped.2)

end

end CommandPipeline

end HumanoidMotion
