import HumanoidMotion.Arbitration.ControlArbiter
import HumanoidMotion.Motion.GoalMonitor
/-
# What the pipeline checks (`motion/command_pipeline.cpp`)

| here | there |
| --- | --- |
| `validateJointTarget`  | `validate_joint_target` (`:63`) |
| `validateLimits`       | `validate_limits` (`:105`) |
| `Session`              | `CommandPipeline::Session` (`command_pipeline.hpp:84`) |
| `validateRequest`      | `CommandPipeline::validateRequest` (`:233`) |
| `validateFeedback`     | `CommandPipeline::validateFeedback` (`:493`) |
| `validateFinalCommand` | `CommandPipeline::validateFinalCommand` (`:546`) |
| `limitRecoverySeed`    | `CommandPipeline::limitRecoverySeed` (`:614`) |
| `selectFeedback`       | `CommandPipeline::selectFeedback` (`:665`) |

`std::map::at` and `std::vector::at` throw; a function that uses one answers in
`Except OutOfRange`. Plain indexing `v[i]` is `getD`, which is `v[i]` wherever
the index is in range.
-/

namespace HumanoidMotion

/-- `std::out_of_range`, thrown by `.at()`. -/
inductive OutOfRange where
  | outOfRange
deriving DecidableEq, Repr

structure CommandPipelineConfig where
  controlFrequencyHz : Double := 100
  feedbackMaxAge : Duration := milliseconds 100
  goalMonitor : GoalMonitorConfig := {}
  feedbackLimitRecoveryMarginRad : Double := .fin (1 / 10)
  feedbackRebaseToleranceRad : Double := .fin (1 / 1000)
  maxControlPeriod : Duration := milliseconds 100
  servoRetryInterval : Duration := milliseconds 50
deriving DecidableEq, Repr

structure Session where
  endpointName : String
  sessionId : String
  groupName : String
  jointNames : List String
  request : SessionRequest
  submittedAt : SteadyTime := 0
  backendStarted : Bool := false
  /-- Where the final RTC of the session stands: the last output, or the measured start. -/
  lastFinalTarget : JointTarget := {}
  recoveringLimits : Bool := false
deriving DecidableEq, Repr

def Session.kind (session : Session) : MotionKind := motionKind session.request

/-- The session id the pipeline derives for a servo endpoint (`:289`). -/
def servoId (endpoint : String) : String := "servo:" ++ endpoint

/-- `names` is missing or has one entry for each of the `n` joints. -/
def optionalLength (values : List Double) (n : Nat) : Bool :=
  values.isEmpty || values.length == n

/-! ## Requests -/

/-- The position a joint target gives to a joint (`positions.at(name)`, `:90`). -/
def JointTarget.positionOf (target : JointTarget) (name : String) : Rat :=
  valueAt target.positionsRad (target.jointNames.idxOf name)

def validateJointTarget (target : JointTarget) (group : JointGroupModel) : MotionStatus :=
  if target.jointNames.length ≠ group.jointNames.length ||
      target.positionsRad.length ≠ target.jointNames.length ||
      !optionalLength target.velocitiesRadS target.jointNames.length ||
      !optionalLength target.accelerationsRadS2 target.jointNames.length then
    { code := .invalidArgument, message := "joint target array lengths do not match the group" }
  else if !(target.jointNames.all group.jointNames.contains &&
      group.jointNames.all target.jointNames.contains) ||
      !uniqueNonEmpty target.jointNames then
    { code := .invalidArgument,
      message := "joint target names must exactly match the configured group" }
  else if !finite target.positionsRad || !finite target.velocitiesRadS ||
      !finite target.accelerationsRadS2 then
    { code := .invalidArgument, message := "joint target contains a non-finite value" }
  else match (List.range group.jointNames.length).find? fun i =>
      let position := target.positionOf (group.jointNames.getD i "")
      decide (position < valueAt group.lowerPositionRad i) ||
        decide (valueAt group.upperPositionRad i < position) with
    | some i =>
      { code := .limitViolation,
        message := "joint target violates model limit: " ++ group.jointNames.getD i "" }
    | none => .Ok

def validateLimits (limits : MotionLimits) (jointCount : Nat) : MotionStatus :=
  let vectorValid (values : List Double) : Bool :=
    optionalLength values jointCount && values.all Double.isNonNegative
  if !vectorValid limits.jointMaxVelocityRadS || !vectorValid limits.jointMaxAccelerationRadS2 ||
      !vectorValid limits.jointMaxJerkRadS3 then
    { code := .invalidArgument, message := "joint motion limits have invalid length/value" }
  else if !([limits.cartesianMaxLinearVelocityMS, limits.cartesianMaxLinearAccelerationMS2,
      limits.cartesianMaxLinearJerkMS3, limits.cartesianMaxAngularVelocityRadS,
      limits.cartesianMaxAngularAccelerationRadS2, limits.cartesianMaxAngularJerkRadS3].all
        Double.isNonNegative) then
    { code := .invalidArgument, message := "Cartesian motion limits must be finite and non-negative" }
  else .Ok

def validateCartesian (baseLink linkName : String) (target : Pose) : MotionStatus :=
  if baseLink.isEmpty || linkName.isEmpty || !finitePose target then
    { code := .invalidArgument,
      message := "Cartesian request requires frames and a finite non-zero quaternion pose" }
  else .Ok

/-- The part of `validateRequest` that depends on the kind (`:258`). -/
def validateTarget (request : SessionRequest) (group : JointGroupModel) : MotionStatus :=
  match request with
  | .moveJ r => validateJointTarget r.target group
  | .servoJ r => validateJointTarget r.target group
  | .moveL r => validateCartesian r.baseLink r.linkName r.target
  | .servoP r => validateCartesian r.baseLink r.linkName r.target
  | .moveP r =>
    if r.baseLink.isEmpty || r.linkName.isEmpty || r.waypoints.isEmpty ||
        !r.waypoints.all finitePose then
      { code := .invalidArgument, message := "MoveP requires frames and at least one finite waypoint" }
    else .Ok

/-- The session a valid request describes, or the status that refuses it. -/
def validateRequest (groups : StringMap JointGroupModel) (policy : EndpointPolicy)
    (request : SessionRequest) (expectServo : Bool) : Except MotionStatus Session :=
  let kind := motionKind request
  if isServo kind ≠ expectServo || policy.kind ≠ kind || policy.groupName ≠ groupName request then
    .error { code := .invalidArgument,
             message := "request kind/group does not match endpoint policy" }
  else match groups[groupName request]? with
    | none => .error { code := .notConfigured, message := "unknown request group" }
    | some group =>
      if !expectServo && (requestId request).isEmpty then
        .error { code := .invalidArgument, message := "Move request_id must be non-empty" }
      else
        let limits := validateLimits (requestLimits request) group.jointNames.length
        let target := validateTarget request group
        if !limits.ok then .error limits
        else if !target.ok then .error target
        else .ok
          { endpointName := policy.endpointName
            sessionId := if expectServo then servoId policy.endpointName else requestId request
            groupName := groupName request
            jointNames := group.jointNames
            request }

/-! ## Feedback -/

/-- The measured position of a joint. -/
def JointFeedback.positionOf (feedback : JointFeedback) (name : String) : Rat :=
  valueAt feedback.positionsRad (feedback.jointNames.idxOf name)

def validateFeedback (lib : MathLib) (config : CommandPipelineConfig) (feedback : JointFeedback)
    (group : JointGroupModel) (now : SteadyTime) : MotionStatus :=
  if feedback.jointNames.length ≠ feedback.positionsRad.length ||
      feedback.jointNames.length ≠ feedback.velocitiesRadS.length ||
      !finite feedback.positionsRad || !finite feedback.velocitiesRadS then
    { code := .invalidArgument, message := "real feedback names/positions/velocities are invalid" }
  else if !uniqueNonEmpty feedback.jointNames then
    { code := .invalidArgument, message := "real feedback names must be non-empty and unique" }
  else if now < feedback.receivedAt || config.feedbackMaxAge ≤ now - feedback.receivedAt then
    { code := .staleFeedback, message := "real joint feedback is stale" }
  else if !group.jointNames.all feedback.jointNames.contains then
    { code := .invalidArgument, message := "real feedback is missing commanded joints" }
  else
    let margin := config.feedbackLimitRecoveryMarginRad.val
    match (List.range group.jointNames.length).find? fun i =>
        let q := feedback.positionOf (group.jointNames.getD i "")
        decide (q < valueAt group.lowerPositionRad i - margin) ||
          decide (valueAt group.upperPositionRad i + margin < q) with
    | none => .Ok
    | some i =>
      let show9 := lib.setprecision9
      { code := .limitViolation,
        message := "measured joint outside limit recovery range: " ++ group.jointNames.getD i "" ++
          " measured=" ++ show9 (.fin (feedback.positionOf (group.jointNames.getD i ""))) ++
          " limits=[" ++ show9 (group.lowerPositionRad.getD i 0) ++ "," ++
          show9 (group.upperPositionRad.getD i 0) ++ "] recovery_margin=" ++
          show9 config.feedbackLimitRecoveryMarginRad }

/-- The feedback of the joints `names`, in that order; `.at()` throws for a joint it lacks. -/
def selectFeedback (feedback : JointFeedback) (names : List String) :
    Except OutOfRange JointFeedback :=
  if names.all feedback.jointNames.contains then
    .ok
      { jointNames := names
        positionsRad := names.map fun name =>
          feedback.positionsRad.getD (feedback.jointNames.idxOf name) 0
        velocitiesRadS := names.map fun name =>
          feedback.velocitiesRadS.getD (feedback.jointNames.idxOf name) 0
        receivedAt := feedback.receivedAt }
  else .error .outOfRange

/-! ## SDK output -/

/-- `std::numeric_limits<double>::epsilon()`. -/
def epsilon : Rat := 1 / 2 ^ 52

/-- The machine roundoff allowed at a boundary (`:568`). -/
def roundoff (lower upper : Rat) : Rat := 16 * epsilon * max 1 (max |lower| |upper|)

/-- Lengths, names and finiteness (`:551`). -/
def wellFormed (command : JointCommand) (group : JointGroupModel) : Bool :=
  command.groupName == group.name && command.jointNames == group.jointNames &&
    command.positionsRad.length == group.jointNames.length &&
    optionalLength command.velocitiesRadS group.jointNames.length &&
    optionalLength command.accelerationsRadS2 group.jointNames.length &&
    finite command.positionsRad && finite command.velocitiesRadS &&
    finite command.accelerationsRadS2

/-- Joint `i` of the command lies within its limits up to roundoff (`:571`). -/
def withinLimits (command : JointCommand) (group : JointGroupModel) (i : Nat) : Bool :=
  let lower := valueAt group.lowerPositionRad i
  let upper := valueAt group.upperPositionRad i
  let position := valueAt command.positionsRad i
  decide (lower - roundoff lower upper ≤ position) &&
    decide (position ≤ upper + roundoff lower upper)

/-- Joint `i` moves inward from outside a limit, behind both the previous output and the
measurement (`:579`). -/
def movesInward (command : JointCommand) (group : JointGroupModel) (previous : List Double)
    (feedback : JointFeedback) (i : Nat) : Bool :=
  let position := valueAt command.positionsRad i
  let before := valueAt previous i
  let measured := valueAt feedback.positionsRad i
  let velocity := if command.velocitiesRadS.isEmpty then 0 else valueAt command.velocitiesRadS i
  let lower := valueAt group.lowerPositionRad i
  let upper := valueAt group.upperPositionRad i
  (decide (position < lower) && decide (before < lower) && decide (measured < lower) &&
      decide (before ≤ position) && decide (measured ≤ position) && decide (0 ≤ velocity)) ||
    (decide (upper < position) && decide (upper < before) && decide (upper < measured) &&
      decide (position ≤ before) && decide (position ≤ measured) && decide (velocity ≤ 0))

/-- Joint `i` passes: within its limits, or a final RTC output that recovers inward. -/
def jointAccepted (command : JointCommand) (group : JointGroupModel)
    (recovery : Option (List Double × JointFeedback)) (i : Nat) : Bool :=
  withinLimits command group i ||
    (command.passedFinalSdkRtc && recovery.any fun (previous, feedback) =>
      previous.length == command.positionsRad.length &&
        feedback.positionsRad.length == command.positionsRad.length &&
        movesInward command group previous feedback i)

/-- `v.at(i)`. -/
def atIndex (values : List Double) (i : Nat) : Except OutOfRange Double :=
  match values[i]? with
  | some value => .ok value
  | none => .error .outOfRange

/-- `recovery` holds `previous_positions` and `feedback`, which are passed together or not at all. -/
def validateFinalCommand (lib : MathLib) (command : JointCommand) (group : JointGroupModel)
    (recovery : Option (List Double × JointFeedback)) : Except OutOfRange MotionStatus :=
  if !wellFormed command group then
    .ok { code := .invalidArgument, message := "SDK command names/lengths/values are invalid" }
  else match (List.range command.positionsRad.length).find? fun i =>
      !jointAccepted command group recovery i with
    | none => .ok .Ok
    | some i => do
      let show9 := lib.setprecision9
      let suffix ← match recovery with
        | none => pure ""
        | some (previous, feedback) => do
          let before ← atIndex previous i
          let measured ← atIndex feedback.positionsRad i
          pure (" previous=" ++ show9 before ++ " measured=" ++ show9 measured)
      pure
        { code := .limitViolation,
          message := "SDK command violates model limit: " ++ group.jointNames.getD i "" ++
            " stage=" ++ (if command.passedFinalSdkRtc then "final_rtc" else "candidate") ++
            " position=" ++ show9 (command.positionsRad.getD i 0) ++ " limits=[" ++
            show9 (group.lowerPositionRad.getD i 0) ++ "," ++
            show9 (group.upperPositionRad.getD i 0) ++ "]" ++ suffix }

def validateCandidate (lib : MathLib) (command : JointCommand) (group : JointGroupModel) :
    Except OutOfRange MotionStatus :=
  if command.passedFinalSdkRtc then
    .ok { code := .internalError, message := "candidate was incorrectly marked as final RTC output" }
  else validateFinalCommand lib command group none

/-! ## The recovery seed -/

/-- The data `limitRecoverySeed` reads for one joint (`:628`). -/
structure RecoveryJoint where
  q : Rat
  previous : Rat
  measured : Rat
  velocity : Rat
  lower : Rat
  upper : Rat

namespace RecoveryJoint

def lowerRecovery (j : RecoveryJoint) : Bool :=
  decide (j.q < j.lower) && decide (j.previous < j.lower) && decide (j.previous ≤ j.q) &&
    decide (0 ≤ j.velocity)

def upperRecovery (j : RecoveryJoint) : Bool :=
  decide (j.upper < j.q) && decide (j.upper < j.previous) && decide (j.q ≤ j.previous) &&
    decide (j.velocity ≤ 0)

def feedbackAhead (j : RecoveryJoint) : Bool :=
  if j.lowerRecovery then decide (j.q < j.measured) else decide (j.measured < j.q)

/-- The bounds on a measurement that may replace the last output (`:648`). -/
def outOfReach (j : RecoveryJoint) (maxStep margin : Rat) : Bool :=
  decide (maxStep < |j.measured - j.previous|) || decide (j.measured < j.lower - margin) ||
    decide (j.upper + margin < j.measured) ||
    (j.lowerRecovery && decide (j.upper < j.measured)) ||
    (j.upperRecovery && decide (j.measured < j.lower))

end RecoveryJoint

/-- What the loop of `limitRecoverySeed` does with one joint: give up, leave it, or re-seed it. -/
inductive SeedVerdict where
  | refuse | keep | reseed
deriving DecidableEq, Repr

def seedVerdict (j : RecoveryJoint) (maxStep margin : Rat) : SeedVerdict :=
  if decide (j.lower ≤ j.q) && decide (j.q ≤ j.upper) then .keep
  else if !j.lowerRecovery && !j.upperRecovery then .refuse
  else if !j.feedbackAhead then .keep
  else if j.outOfReach maxStep margin then .refuse
  else .reseed

def recoveryJoint (group : JointGroupModel) (seed : JointTarget) (output : JointCommand)
    (feedback : JointFeedback) (i : Nat) : RecoveryJoint where
  q := valueAt output.positionsRad i
  previous := valueAt seed.positionsRad i
  measured := valueAt feedback.positionsRad i
  velocity := if output.velocitiesRadS.isEmpty then 0 else valueAt output.velocitiesRadS i
  lower := valueAt group.lowerPositionRad i
  upper := valueAt group.upperPositionRad i

/-- Joint `i` of the seed takes the measured position and velocity and no acceleration (`:657`). -/
def reseedJoint (seed : JointTarget) (feedback : JointFeedback) (i : Nat) : JointTarget :=
  { seed with
    positionsRad := seed.positionsRad.set i (feedback.positionsRad.getD i 0)
    velocitiesRadS := seed.velocitiesRadS.set i (feedback.velocitiesRadS.getD i 0)
    accelerationsRadS2 := seed.accelerationsRadS2.set i 0 }

/-- One turn of the loop; `none` is the `return std::nullopt` in its body. -/
def seedStep (config : CommandPipelineConfig) (period : Rat) (group : JointGroupModel)
    (velocityLimits : List Double) (output : JointCommand) (feedback : JointFeedback)
    (state : JointTarget × Bool) (i : Nat) : Option (JointTarget × Bool) :=
  let maxStep := config.feedbackRebaseToleranceRad.val +
    (if velocityLimits.isEmpty then 0 else valueAt velocityLimits i * period)
  match seedVerdict (recoveryJoint group state.1 output feedback i) maxStep
      config.feedbackLimitRecoveryMarginRad.val with
  | .refuse => none
  | .keep => some state
  | .reseed => some (reseedJoint state.1 feedback i, true)

def limitRecoverySeed (config : CommandPipelineConfig) (period : Rat) (group : JointGroupModel)
    (session : Session) (output : JointCommand) (feedback : JointFeedback) : Option JointTarget :=
  if !output.passedFinalSdkRtc || !session.recoveringLimits then none
  else
    let velocityLimits := (requestLimits session.request).jointMaxVelocityRadS
    match (List.range group.jointNames.length).foldlM
        (seedStep config period group velocityLimits output feedback)
        (session.lastFinalTarget, false) with
    | some (seed, true) => some seed
    | _ => none

/-! ## Goals -/

/-- `dynamicTarget` (`:683`). -/
def dynamicTarget : SessionRequest → DynamicTarget
  | .moveJ r => .joints r.target
  | .servoJ r => .joints r.target
  | .moveP r => .pose (r.waypoints.getLastD {})
  | .moveL r => .pose r.target
  | .servoP r => .pose r.target

/-- `terminalJointGoal` (`:700`). -/
def terminalJointGoal : SessionRequest → JointTarget
  | .moveJ r => r.target
  | _ => {}

/-- `terminalCartesianGoal` (`:708`). -/
def terminalCartesianGoal : SessionRequest → Option Pose
  | .moveL r => some r.target
  | .moveP r => some (r.waypoints.getLastD {})
  | _ => none

end HumanoidMotion
