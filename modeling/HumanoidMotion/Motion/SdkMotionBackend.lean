import HumanoidMotion.Kinematics.SdkKinematics
/-
# The backend's sessions (`motion/sdk_motion_backend.cpp`, `move_p_waypoint_resolver.hpp`)

| here | there |
| --- | --- |
| `MotionSdk`             | `robo_manip`'s tasks, Eigen and the kinematics adapter: every answer may depend on all the calls before, and may be a throw |
| `TaskCall`              | one call of them; a tick with its answer |
| `resolveMovePWaypoints` | the joint waypoints of a MoveP, each solved from the one before |
| `BackendSession`        | `Impl::Session` |
| `startSession`, `tickSession`, `stopSession` | the calls of the same name |

A throw inside a call is an `Except.error` with the text of `what()`. The final
RTC of each group is no part of a session; it is in `FinalRtc.lean`.
-/

namespace HumanoidMotion

/-! ## Units (`sdk_units.hpp`) -/

def kPi : Rat := 3.14159265358979323846

def kRadToDeg : Rat := 180 / kPi

def kDegToRad : Rat := kPi / 180

def kMToMm : Rat := 1000

/-- `scaled`. -/
def scaled (values : List Double) (factor : Rat) : List Double :=
  values.map (Kinematics.scale factor)

/-- `motion_control::types::MotionLimits`: millimetres and degrees for the joints. -/
structure SdkLimits where
  jointMaxVelocity : List Double := []
  jointMaxAcceleration : List Double := []
  jointMaxJerk : List Double := []
  cartesianMaxLinearVelocity : Double := 0
  cartesianMaxLinearAcceleration : Double := 0
  cartesianMaxLinearJerk : Double := 0
  cartesianMaxAngularVelocity : Double := 0
  cartesianMaxAngularAcceleration : Double := 0
  cartesianMaxAngularJerk : Double := 0
deriving DecidableEq, Repr

def toSdkLimits (input : MotionLimits) : SdkLimits where
  jointMaxVelocity := scaled input.jointMaxVelocityRadS kRadToDeg
  jointMaxAcceleration := scaled input.jointMaxAccelerationRadS2 kRadToDeg
  jointMaxJerk := scaled input.jointMaxJerkRadS3 kRadToDeg
  cartesianMaxLinearVelocity := Kinematics.scale kMToMm input.cartesianMaxLinearVelocityMS
  cartesianMaxLinearAcceleration := Kinematics.scale kMToMm input.cartesianMaxLinearAccelerationMS2
  cartesianMaxLinearJerk := Kinematics.scale kMToMm input.cartesianMaxLinearJerkMS3
  cartesianMaxAngularVelocity := input.cartesianMaxAngularVelocityRadS
  cartesianMaxAngularAcceleration := input.cartesianMaxAngularAccelerationRadS2
  cartesianMaxAngularJerk := input.cartesianMaxAngularJerkRadS3

/-! ## The SDK -/

/-- `motion_control::types::RobotState`: one joint group, in degrees. -/
structure RobotState where
  groupName : String
  positions : List Double
  velocities : List Double := []
deriving DecidableEq, Repr

/-- `MoveJoint::JointRequest`. -/
structure JointRequest where
  requestId : String
  groupName : String
  waypointsDeg : List (List Double)
  limits : SdkLimits
deriving DecidableEq, Repr

/-- `MoveLine::LineRequest`, with the IK options of the context. -/
structure LineRequest (ι : Type) where
  requestId : String
  groupName : String
  baseLink : String
  linkName : String
  goalPose : Kinematics.SdkPose
  ikOptions : ι
  limits : SdkLimits

/-- What a tick of a task writes: the command and whether the target is reached. -/
structure TaskTick where
  groupName : String := ""
  jointNames : List String := []
  positions : List Double := []
  velocities : List Double := []
  reached : Bool := false
deriving DecidableEq, Repr

/-- What a tick of a task returns: false, or true with what it wrote; or it throws. -/
abbrev TickAnswer := Except String (Option TaskTick)

inductive TaskCall (ι : Type) where
  | inverseKinematics (request : Kinematics.InverseKinematicsRequest)
  | startMoveJoint (state : RobotState) (request : JointRequest) (dtSec : Rat)
  | tickMoveJoint (sessionId : String) (targetDeg : List Double) (dtSec : Rat) (answer : TickAnswer)
  | stopMoveJoint (sessionId : String)
  | startMoveLine (state : RobotState) (request : LineRequest ι) (dtSec : Rat)
  | tickMoveLine (sessionId : String) (target : Kinematics.SdkPose) (ikOptions : ι) (dtSec : Rat)
      (answer : TickAnswer)
  | stopMoveLine (sessionId : String)

/-- What `IKinematics::inverseKinematics` answers. -/
abbrev InverseAnswer := Except String (Kinematics.Result Kinematics.InverseKinematicsResult)

structure MotionSdk (ι : Type) where
  /-- The kinematics adapter; it may be null. -/
  kinematics : Option (List (TaskCall ι) → Kinematics.InverseKinematicsRequest → InverseAnswer)
  startMoveJoint : List (TaskCall ι) → RobotState → JointRequest → Rat → Except String Bool
  tickMoveJoint : List (TaskCall ι) → String → List Double → Rat → TickAnswer
  startMoveLine : List (TaskCall ι) → RobotState → LineRequest ι → Rat → Except String Bool
  tickMoveLine : List (TaskCall ι) → String → Kinematics.SdkPose → ι → Rat → TickAnswer
  /-- `resolveIkOptions(context, {})`. -/
  ikOptions : ι
  /-- `sdk_units::toSdkPose`, through Eigen. -/
  toSdkPose : Pose → Kinematics.SdkPose

/-! ## Values by name -/

section
variable {ε : Type}

/-- The loop that fills a map and objects to a name that comes twice. -/
def emplaceAll (duplicate : String → ε) (joints : List (String × Double)) :
    Except ε (StringMap Double) :=
  joints.foldlM (fun values joint =>
    if values.contains joint.1 then .error (duplicate joint.1)
    else .ok (values.insertIfNew joint.1 joint.2)) ∅

/-- The loop that reads a map by name and objects to a name it lacks. -/
def readAll (missing : String → ε) (values : StringMap Double) (names : List String) :
    Except ε (List Double) :=
  names.mapM fun name =>
    match values[name]? with
    | none => .error (missing name)
    | some value => .ok value

end

/-- `reorder` (`sdk_motion_backend.cpp:49`). -/
def reorder (sourceNames : List String) (sourceValues : List Double) (targetNames : List String) :
    Except String (List Double) :=
  if sourceNames.length ≠ sourceValues.length then .error "joint names/value length mismatch"
  else do
    let values ← emplaceAll (fun name => "duplicate joint name: " ++ name)
      (sourceNames.zip sourceValues)
    readAll (fun name => "missing joint: " ++ name) values targetNames

/-- An optional column, absent when empty. -/
def reorderOptional (sourceNames : List String) (sourceValues : List Double)
    (targetNames : List String) : Except String (List Double) :=
  if sourceValues.isEmpty then .ok [] else reorder sourceNames sourceValues targetNames

/-- `to_sdk_state`. -/
def toSdkState (feedback : JointFeedback) (group : JointGroupModel) : Except String RobotState := do
  let positions ← reorder feedback.jointNames feedback.positionsRad group.jointNames
  let velocities ← reorderOptional feedback.jointNames feedback.velocitiesRadS group.jointNames
  return ⟨group.name, scaled positions kRadToDeg, scaled velocities kRadToDeg⟩

/-- `feedback_target`. -/
def feedbackTarget (feedback : JointFeedback) (group : JointGroupModel) :
    Except String JointTarget := do
  let positions ← reorder feedback.jointNames feedback.positionsRad group.jointNames
  let velocities ← reorderOptional feedback.jointNames feedback.velocitiesRadS group.jointNames
  return { jointNames := group.jointNames, positionsRad := positions, velocitiesRadS := velocities }

/-! ## `resolveMovePWaypoints` -/

/-- `static_cast<std::int64_t>(status.code)`. -/
def Kinematics.ErrorCode.toInt : Kinematics.ErrorCode → Int
  | .ok => 0
  | .notConfigured => 1
  | .invalidArgument => 2
  | .invalidGroup => 3
  | .invalidFrame => 4
  | .invalidTool => 5
  | .invalidJointState => 6
  | .sdkInitializationFailed => 7
  | .sdkModelLoadFailed => 8
  | .sdkFailure => 9
  | .internalError => 10

def ikFailure (message : String) (code : Int) : MotionStatus :=
  ⟨.sdkError, message, "humanoid_motion_server::kinematics::IKinematics::inverseKinematics", code⟩

def toKinematicsPose (input : Pose) : Kinematics.Pose where
  positionM := ⟨input.positionM[0], input.positionM[1], input.positionM[2]⟩
  orientation := ⟨input.orientationXyzw[0], input.orientationXyzw[1], input.orientationXyzw[2],
    input.orientationXyzw[3]⟩

/-- What is asked for one waypoint. -/
def ikRequest (request : MovePRequest) (seed : JointTarget) (waypoint : Pose) :
    Kinematics.InverseKinematicsRequest where
  kinematics := ⟨request.groupName, request.baseLink, request.linkName⟩
  targetPose := toKinematicsPose waypoint
  seed := some ⟨seed.jointNames, seed.positionsRad⟩

/-- A solution in the expected joint order (`:63`–`:91`). -/
def orderedSolution (expectedJointNames : List String) (solution : Kinematics.JointState) :
    Except MotionStatus JointTarget :=
  if solution.jointNames.length ≠ solution.positionsRad.length then
    .error (ikFailure "SDK kinematics adapter returned a joint name/value length mismatch" (-1))
  else do
    let positions ← emplaceAll
      (fun _ => ikFailure "SDK kinematics adapter returned duplicate joint names" (-1))
      (solution.jointNames.zip solution.positionsRad)
    let values ← readAll
      (fun name => ikFailure ("SDK kinematics adapter solution is missing joint: " ++ name) (-1))
      positions expectedJointNames
    return { jointNames := expectedJointNames, positionsRad := values }

/-- What one answer makes of a waypoint. -/
def solvedWaypoint (expectedJointNames : List String)
    (answer : Kinematics.Result Kinematics.InverseKinematicsResult) : Except MotionStatus JointTarget :=
  match answer.ok, answer.value with
  | true, some result => orderedSolution expectedJointNames result.solution
  | _, _ => .error (ikFailure answer.status.message answer.status.code.toInt)

structure MovePWaypointResolution where
  status : MotionStatus
  jointWaypoints : List JointTarget
deriving DecidableEq, Repr

section
variable {ι : Type}

/-- The loop over the waypoints; `solved` are those behind it. -/
def resolveLoop (inverseKinematics : List (TaskCall ι) → Kinematics.InverseKinematicsRequest →
      InverseAnswer) (request : MovePRequest) (expectedJointNames : List String) :
    List (TaskCall ι) → JointTarget → List JointTarget → List Pose →
      Except String MovePWaypointResolution × List (TaskCall ι)
  | calls, _, solved, [] => (.ok ⟨.Ok, solved⟩, calls)
  | calls, seed, solved, waypoint :: rest =>
    let asked := ikRequest request seed waypoint
    let answer := inverseKinematics calls asked
    let calls := calls ++ [.inverseKinematics asked]
    match answer with
    | .error what => (.error what, calls)
    | .ok result =>
      match solvedWaypoint expectedJointNames result with
      | .error status => (.ok ⟨status, solved⟩, calls)
      | .ok ordered =>
        resolveLoop inverseKinematics request expectedJointNames calls ordered (solved ++ [ordered]) rest

def resolveMovePWaypoints (inverseKinematics : List (TaskCall ι) →
      Kinematics.InverseKinematicsRequest → InverseAnswer) (calls : List (TaskCall ι))
    (request : MovePRequest) (seed : JointTarget) (expectedJointNames : List String) :
    Except String MovePWaypointResolution × List (TaskCall ι) :=
  resolveLoop inverseKinematics request expectedJointNames calls seed [] request.waypoints

end

/-! ## `SdkMotionBackend` -/

/-- `Impl::Session`; the two tasks are named by the session, so a flag says which there is. -/
structure BackendSession (ι : Type) where
  kind : MotionKind
  groupName : String
  jointNames : List String
  moveJoint : Bool := false
  moveLine : Bool := false
  jointWaypointsDeg : List (List Double) := []
  waypointIndex : Nat := 0
  cartesianTarget : Kinematics.SdkPose := {}
  ikOptions : Option ι := none

structure SdkMotionBackend (ι : Type) where
  groupModels : StringMap JointGroupModel
  teleopIkOptions : StringMap ι
  sessions : StringMap (BackendSession ι) := ∅
  stoppedSessions : StringSet := ∅
  /-- Every call of the SDK so far. -/
  calls : List (TaskCall ι) := []

def sdkBoolFailure (api : String) : MotionStatus := ⟨.sdkError, api ++ " returned false", api, -1⟩

namespace SdkMotionBackend

variable {ι : Type} (sdk : MotionSdk ι)

/-- `period_sec <= 0.0 || !std::isfinite(period_sec)`. -/
def badPeriod (periodSec : Double) : Bool := !periodSec.isPositive

/-- The last lines of `startSession`. -/
def store (self : SdkMotionBackend ι) (sessionId : String) (session : BackendSession ι) :
    MotionStatus × SdkMotionBackend ι :=
  (.Ok, { self with
    stoppedSessions := self.stoppedSessions.erase sessionId
    sessions := self.sessions.insert sessionId session })

def startFailure (what : String) : MotionStatus :=
  ⟨.sdkError, what, "SdkMotionBackend::startSession", -1⟩

/-- The waypoints of a MoveJ or a MoveP, in degrees, and the calls it took to find them. -/
def jointWaypoints (self : SdkMotionBackend ι) (request : SessionRequest) (feedback : JointFeedback)
    (group : JointGroupModel) : Except MotionStatus (List (List Double)) × List (TaskCall ι) :=
  match request with
  | .moveP move =>
    match sdk.kinematics with
    | none => (.error { code := .notConfigured, message := "MoveP requires SDK kinematics adapter" },
        self.calls)
    | some inverseKinematics =>
      match feedbackTarget feedback group with
      | .error what => (.error (startFailure what), self.calls)
      | .ok seed =>
        let (resolution, calls) :=
          resolveMovePWaypoints inverseKinematics self.calls move seed group.jointNames
        match resolution with
        | .error what => (.error (startFailure what), calls)
        | .ok resolution =>
          if !resolution.status.ok then (.error resolution.status, calls)
          else (.ok (resolution.jointWaypoints.map fun solution =>
            scaled solution.positionsRad kRadToDeg), calls)
  | .moveJ move =>
    match reorder move.target.jointNames move.target.positionsRad group.jointNames with
    | .error what => (.error (startFailure what), self.calls)
    | .ok positions => (.ok [scaled positions kRadToDeg], self.calls)
  -- not reached: the other kinds have no joint waypoints
  | _ => (.ok [], self.calls)

/-- `startSession` of a MoveJ or a MoveP (`:227`). -/
def startMoveJoint (self : SdkMotionBackend ι) (sessionId : String) (request : SessionRequest)
    (feedback : JointFeedback) (periodSec : Rat) (group : JointGroupModel) (state : RobotState) :
    MotionStatus × SdkMotionBackend ι :=
  match self.jointWaypoints sdk request feedback group with
  | (.error status, calls) => (status, { self with calls })
  | (.ok waypointsDeg, calls) =>
    let sdkRequest : JointRequest :=
      ⟨sessionId, group.name, waypointsDeg, toSdkLimits (requestLimits request)⟩
    let answer := sdk.startMoveJoint calls state sdkRequest periodSec
    let calls := calls ++ [.startMoveJoint state sdkRequest periodSec]
    match answer with
    | .error what => (startFailure what, { self with calls })
    | .ok false => (sdkBoolFailure "robo_manip::tasks::MoveJoint::StartRealtimeMoveJoint",
        { self with calls := calls ++ [.stopMoveJoint sessionId] })
    | .ok true => { self with calls }.store sessionId
        { kind := motionKind request
          groupName := group.name
          jointNames := group.jointNames
          moveJoint := true
          jointWaypointsDeg := waypointsDeg }

/-- The links and the target of a MoveL or a ServoP. -/
def lineGoal : SessionRequest → String × String × Pose
  | .moveL move => (move.baseLink, move.linkName, move.target)
  | .servoP servo => (servo.baseLink, servo.linkName, servo.target)
  | _ => ("", "", {})

/-- `startSession` of a MoveL or a ServoP (`:273`). -/
def startMoveLine (self : SdkMotionBackend ι) (sessionId : String) (request : SessionRequest)
    (periodSec : Rat) (group : JointGroupModel) (state : RobotState) :
    MotionStatus × SdkMotionBackend ι :=
  let (baseLink, linkName, target) := lineGoal request
  let goalPose := sdk.toSdkPose target
  let ikOptions :=
    if motionKind request = .servoP then (self.teleopIkOptions[group.name]?).getD sdk.ikOptions
    else sdk.ikOptions
  let sdkRequest : LineRequest ι := ⟨sessionId, group.name, baseLink, linkName, goalPose, ikOptions,
    toSdkLimits (requestLimits request)⟩
  let answer := sdk.startMoveLine self.calls state sdkRequest periodSec
  let calls := self.calls ++ [.startMoveLine state sdkRequest periodSec]
  match answer with
  | .error what => (startFailure what, { self with calls })
  | .ok false => (sdkBoolFailure "robo_manip::tasks::MoveLine::StartRealtimeMoveLine",
      { self with calls := calls ++ [.stopMoveLine sessionId] })
  | .ok true => { self with calls }.store sessionId
      { kind := motionKind request
        groupName := group.name
        jointNames := group.jointNames
        moveLine := true
        cartesianTarget := goalPose
        ikOptions := some ikOptions }

def startSession (self : SdkMotionBackend ι) (sessionId : String) (request : SessionRequest)
    (feedback : JointFeedback) (periodSec : Double) : MotionStatus × SdkMotionBackend ι :=
  if sessionId.isEmpty || badPeriod periodSec then
    ({ code := .invalidArgument, message := "session id and period must be valid" }, self)
  else if self.sessions.contains sessionId then
    ({ code := .invalidArgument, message := "session is already active: " ++ sessionId }, self)
  else match self.groupModels[groupName request]? with
    | none => ({ code := .notConfigured, message := "unknown joint group: " ++ groupName request }, self)
    | some group =>
      match toSdkState feedback group with
      | .error what => (startFailure what, self)
      | .ok state =>
        match motionKind request with
        | .servoJ => self.store sessionId
            { kind := .servoJ, groupName := group.name, jointNames := group.jointNames }
        | .moveJ | .moveP => self.startMoveJoint sdk sessionId request feedback periodSec.val group state
        | .moveL | .servoP => self.startMoveLine sdk sessionId request periodSec.val group state

/-- `sdk_units::fromSdkJointCommand`, for the session's group unless the task names one. -/
def fromTaskTick (session : BackendSession ι) (tick : TaskTick) : JointCommand where
  groupName := if tick.groupName.isEmpty then session.groupName else tick.groupName
  jointNames := tick.jointNames
  positionsRad := scaled tick.positions kDegToRad
  velocitiesRadS := scaled tick.velocities kDegToRad

def tickFailure (what : String) : BackendTick :=
  { status := ⟨.sdkError, what, "SdkMotionBackend::tickSession", -1⟩ }

/-- The target a joint task is given: the dynamic one, or the waypoint at the index. -/
def moveJointTarget (session : BackendSession ι) (dynamicTarget : Option DynamicTarget) :
    Except String (List Double) :=
  match session.kind, dynamicTarget with
  | .moveP, _ | _, none | _, some (.pose _) =>
    match session.jointWaypointsDeg[session.waypointIndex]? with
    | none => .error "vector::_M_range_check"
    | some waypoint => .ok waypoint
  | _, some (.joints target) => do
    let positions ← reorder target.jointNames target.positionsRad session.jointNames
    return scaled positions kRadToDeg

/-- `tickSession` of a joint task (`:330`). -/
def tickMoveJoint (self : SdkMotionBackend ι) (sessionId : String) (session : BackendSession ι)
    (dynamicTarget : Option DynamicTarget) (periodSec : Rat) : BackendTick × SdkMotionBackend ι :=
  match moveJointTarget session dynamicTarget with
  | .error what => (tickFailure what, self)
  | .ok targetDeg =>
    let answer := sdk.tickMoveJoint self.calls sessionId targetDeg periodSec
    let self := { self with
      calls := self.calls ++ [.tickMoveJoint sessionId targetDeg periodSec answer] }
    match answer with
    | .error what => (tickFailure what, self)
    | .ok none =>
      ({ status := sdkBoolFailure "robo_manip::tasks::MoveJoint::TickRealtimeMoveJoint" }, self)
    | .ok (some tick) =>
      if session.kind = .moveP && tick.reached &&
          decide (session.waypointIndex + 1 < session.jointWaypointsDeg.length) then
        let advanced := { session with waypointIndex := session.waypointIndex + 1 }
        ({ status := .Ok, candidate := fromTaskTick session tick, pathReached := false },
          { self with sessions := self.sessions.insert sessionId advanced })
      else
        ({ status := .Ok, candidate := fromTaskTick session tick, pathReached := tick.reached }, self)

/-- `tickSession` of a line task (`:372`). -/
def tickMoveLine (self : SdkMotionBackend ι) (sessionId : String) (session : BackendSession ι)
    (dynamicTarget : Option DynamicTarget) (periodSec : Rat) : BackendTick × SdkMotionBackend ι :=
  let target := match dynamicTarget with
    | some (.pose pose) => sdk.toSdkPose pose
    | _ => session.cartesianTarget
  let ikOptions := session.ikOptions.getD sdk.ikOptions
  let answer := sdk.tickMoveLine self.calls sessionId target ikOptions periodSec
  let self := { self with
    sessions := self.sessions.insert sessionId { session with cartesianTarget := target }
    calls := self.calls ++ [.tickMoveLine sessionId target ikOptions periodSec answer] }
  match answer with
  | .error what => (tickFailure what, self)
  | .ok none =>
    ({ status := sdkBoolFailure "robo_manip::tasks::MoveLine::TickRealtimeMoveLine" }, self)
  | .ok (some tick) =>
    ({ status := .Ok, candidate := fromTaskTick session tick, pathReached := tick.reached }, self)

/-- `tickSession` of a ServoJ, which has no task (`:317`). -/
def tickServoJ (session : BackendSession ι) : Option DynamicTarget → BackendTick
  | some (.joints target) =>
    match reorder target.jointNames target.positionsRad session.jointNames with
    | .error what => tickFailure what
    | .ok positions =>
      { status := .Ok
        candidate :=
          { groupName := session.groupName, jointNames := session.jointNames, positionsRad := positions } }
  | _ => { status := { code := .invalidArgument, message := "ServoJ requires a joint target" } }

def tickSession (self : SdkMotionBackend ι) (sessionId : String)
    (dynamicTarget : Option DynamicTarget) (periodSec : Double) : BackendTick × SdkMotionBackend ι :=
  match self.sessions[sessionId]? with
  | none =>
    ({ status := { code := .notConfigured, message := "session is not active: " ++ sessionId } }, self)
  | some session =>
    if badPeriod periodSec then
      ({ status := { code := .invalidArgument, message := "period must be positive and finite" } }, self)
    else if session.kind = .servoJ then (tickServoJ session dynamicTarget, self)
    else if session.moveJoint then
      self.tickMoveJoint sdk sessionId session dynamicTarget periodSec.val
    else self.tickMoveLine sdk sessionId session dynamicTarget periodSec.val

def stopSession (self : SdkMotionBackend ι) (sessionId : String) : MotionStatus × SdkMotionBackend ι :=
  match self.sessions[sessionId]? with
  | none => (.Ok, { self with stoppedSessions := self.stoppedSessions.insert sessionId })
  | some session =>
    (.Ok, { self with
      calls := self.calls ++ (if session.moveJoint then [.stopMoveJoint sessionId] else []) ++
        (if session.moveLine then [.stopMoveLine sessionId] else [])
      sessions := self.sessions.erase sessionId
      stoppedSessions := self.stoppedSessions.insert sessionId })

end SdkMotionBackend

end HumanoidMotion
