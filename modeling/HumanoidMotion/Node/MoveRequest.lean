import HumanoidMotion.Lib.Checked
import HumanoidMotion.Motion.FinalRtc
import HumanoidMotion.Node.PublicJointMapping
/-
# From a Move goal to a request (`humanoid_motion_control_node.cpp`)

| here | there |
| --- | --- |
| `MotionOptions`, `MoveGoal` | the goals of the three actions; the pose of a Cartesian goal as it comes |
| `MoveSettings`              | the parameters read here, finite and positive by `validate_parameters` (`:523`) |
| `sessionIdOf`               | `session_id` (`:960`) |
| `completeJointTarget`       | `complete_joint_target` (`:819`) |
| `validateStamp`             | `validate_stamp` (`:875`) |
| `validateOptions`           | `validate_options` (`:903`) |
| `motionLimits`              | `motion_limits` (`:932`) |
| `moveRequest`               | `execute_move_j`, `_l`, `_p` (`:1266`, `:1292`, `:1322`) up to `execute_move` |
| `feedbackPose`              | `feedback_pose` (`:1778`), with `to_ros_pose` (`:172`) |

`MoveMoment.transform` is `transformPose` of the frames followed by `to_core_pose`.
The text of the exception of `rclcpp::Time` is a parameter, and so is the kinematics.
-/

namespace HumanoidMotion

/-- `humanoid_motion_interfaces::msg::MotionOptions`. -/
structure MotionOptions where
  velocityScale : Double := 0
  accelerationScale : Double := 0
  jerkScale : Double := 0
  timeoutSec : Double := 0
deriving DecidableEq, Repr

/-- The pose of a Cartesian goal, with the numbers of its message. -/
structure StampedTarget where
  header : Header
  pose : Pose
deriving DecidableEq, Repr

inductive MoveGoal where
  | moveJ (groupName : String) (target : JointState) (options : MotionOptions)
  | moveL (groupName tipFrame : String) (targetPose : StampedTarget) (options : MotionOptions)
  | moveP (groupName tipFrame : String) (targetPose : StampedTarget) (options : MotionOptions)
deriving DecidableEq, Repr

namespace MoveGoal

def groupName : MoveGoal → String
  | moveJ groupName .. | moveL groupName .. | moveP groupName .. => groupName

def options : MoveGoal → MotionOptions
  | moveJ _ _ options | moveL _ _ _ options | moveP _ _ _ options => options

def kind : MoveGoal → MotionKind
  | moveJ .. => .moveJ
  | moveL .. => .moveL
  | moveP .. => .moveP

end MoveGoal

/-- The members of the node that do not change once it runs. -/
structure MoveSettings where
  groups : StringMap JointGroupModel
  mapping : PublicJointMapping := {}
  defaultMoveTimeoutS : Rat := 60
  inputStampMaxAgeS : Rat := 1 / 2
  inputStampFutureToleranceS : Rat := 1 / 10
  feedbackLimitRecoveryMarginRad : Rat := 1 / 10
  jointMaxVelocityRadS : Rat := 1
  jointMaxAccelerationRadS2 : Rat := 2
  jointMaxJerkRadS3 : Rat := 10
  cartesianMaxLinearVelocityMS : Rat := 3 / 10
  cartesianMaxLinearAccelerationMS2 : Rat := 6 / 10
  cartesianMaxLinearJerkMS3 : Rat := 3
  cartesianMaxAngularVelocityRadS : Rat := 1
  cartesianMaxAngularAccelerationRadS2 : Rat := 2
  cartesianMaxAngularJerkRadS3 : Rat := 10
  negativeTime : String := "cannot store a negative time point in rclcpp::Time"
  forwardKinematics : Kinematics.ForwardKinematicsRequest → Kinematics.Result Kinematics.Pose

/-- What is found while a goal is made into a request. -/
structure MoveMoment where
  rosNowNs : Int
  permitCutoffNs : Int
  /-- `feedback_snapshot(true)`, where it is valid. -/
  feedback : Option JointFeedback
  transform : StampedTarget → String → Except String Pose

/-! ## The session id -/

def hexByte (byte : UInt8) : List Char :=
  [Nat.digitChar (byte.toNat / 16), Nat.digitChar (byte.toNat % 16)]

def sessionIdOf (channelName : String) (goalId : Vector UInt8 16) : String :=
  channelName ++ ":" ++ String.ofList (goalId.toList.flatMap hexByte)

/-! ## The checks -/

/-- The map of `positions.emplace(name, position)` over the joints: the first entry of a name. -/
def positionsByName (names : List String) (positions : List Double) : StringMap Double :=
  (List.range names.length).foldl
    (fun map i => map.insertIfNew (names.getD i "") (positions.getD i 0)) ∅

/-- Nanoseconds of `rclcpp::Time(stamp)`, which only refuses a negative second. -/
def rclcppTime (stamp : Stamp) : Int := stamp.sec * 1000000000 + stamp.nanosec

namespace MoveSettings

def validateStamp (self : MoveSettings) (moment : MoveMoment) (stamp : Stamp) : Except String Unit :=
  if self.mapping.enabled && decide (sourceStampNs stamp ≤ moment.permitCutoffNs) then
    .error "input predates current control permission"
  else if stamp.sec = 0 ∧ stamp.nanosec = 0 then
    if self.mapping.enabled then .error "unified API requires a source timestamp" else .ok ()
  else if stamp.sec < 0 then .error ("invalid input timestamp: " ++ self.negativeTime)
  else
    let age : Rat := ((moment.rosNowNs - rclcppTime stamp : Int) : Rat) / 1000000000
    if self.inputStampMaxAgeS < age then .error "input timestamp is stale or invalid"
    else if age < -self.inputStampFutureToleranceS then
      .error "input timestamp is too far in the future"
    else .ok ()

/-- One turn of the loop over the joints of the message (`:843`). -/
def requestJoint (model : JointGroupModel) (input : JointState) (requested : StringMap Double)
    (i : Nat) : Except String (StringMap Double) :=
  let name := input.name.getD i ""
  if name.isEmpty || !model.jointNames.contains name || requested.contains name then
    .error "joint target contains an empty, duplicate, or out-of-group name"
  else .ok (requested.insert name (input.position.getD i 0))

/-- One turn of the loop over the joints of the group (`:860`). -/
def completeJoint (requested actual : StringMap Double) (positions : List Double) (joint : String) :
    Except String (List Double) :=
  match requested[joint]?, actual[joint]? with
  | some position, _ => .ok (positions ++ [position])
  | none, some position => .ok (positions ++ [position])
  | none, none => .error
    ("real feedback is missing joint '" ++ joint ++ "' needed to complete the group")

def completeJointTarget (self : MoveSettings) (moment : MoveMoment) (groupName : String)
    (publicInput : JointState) : Except String JointTarget := do
  let input ← self.mapping.convert publicInput true
  match self.groups[groupName]? with
  | none => .error "group_name is empty or unknown"
  | some model =>
    self.validateStamp moment input.header.stamp
    if input.name.isEmpty || input.position.length ≠ input.name.length || !finite input.position then
      .error "joint target names/positions are empty, mismatched, or non-finite"
    else
      let requested ← (List.range input.name.length).foldlM (requestJoint model input) ∅
      match moment.feedback with
      | none => .error "real JointState feedback is missing or stale"
      | some state =>
        let actual := positionsByName state.jointNames state.positionsRad
        let positionsRad ← model.jointNames.foldlM (completeJoint requested actual) []
        return { jointNames := model.jointNames, positionsRad }

end MoveSettings

def MotionOptions.scales (options : MotionOptions) : List Double :=
  [options.velocityScale, options.accelerationScale, options.jerkScale]

def validateOptions (options : MotionOptions) : Except String Unit :=
  if !finite options.scales || !options.timeoutSec.isNonNegative then
    .error "motion options contain a non-finite or negative timeout"
  else if options.scales.any fun scale => decide (scale.val < 0) || decide (1 < scale.val) then
    .error "motion option scales must be zero/default or in (0, 1]"
  else .ok ()

/-- The lambda `scale` of `motion_limits`. -/
def scaleOrOne (value : Double) : Rat := if value.val = 0 then 1 else value.val

namespace MoveSettings

def motionLimits (self : MoveSettings) (options : MotionOptions) (jointCount : Nat) :
    MotionLimits where
  jointMaxVelocityRadS := List.replicate jointCount
    (.fin (self.jointMaxVelocityRadS * scaleOrOne options.velocityScale))
  jointMaxAccelerationRadS2 := List.replicate jointCount
    (.fin (self.jointMaxAccelerationRadS2 * scaleOrOne options.accelerationScale))
  jointMaxJerkRadS3 := List.replicate jointCount
    (.fin (self.jointMaxJerkRadS3 * scaleOrOne options.jerkScale))
  cartesianMaxLinearVelocityMS :=
    .fin (self.cartesianMaxLinearVelocityMS * scaleOrOne options.velocityScale)
  cartesianMaxLinearAccelerationMS2 :=
    .fin (self.cartesianMaxLinearAccelerationMS2 * scaleOrOne options.accelerationScale)
  cartesianMaxLinearJerkMS3 :=
    .fin (self.cartesianMaxLinearJerkMS3 * scaleOrOne options.jerkScale)
  cartesianMaxAngularVelocityRadS :=
    .fin (self.cartesianMaxAngularVelocityRadS * scaleOrOne options.velocityScale)
  cartesianMaxAngularAccelerationRadS2 :=
    .fin (self.cartesianMaxAngularAccelerationRadS2 * scaleOrOne options.accelerationScale)
  cartesianMaxAngularJerkRadS3 :=
    .fin (self.cartesianMaxAngularJerkRadS3 * scaleOrOne options.jerkScale)

/-- `effective_timeout` (`:972`). -/
def effectiveTimeout (self : MoveSettings) (options : MotionOptions) : Rat :=
  if options.timeoutSec.val = 0 then self.defaultMoveTimeoutS else options.timeoutSec.val

/-! ## The request -/

/-- What `execute_move_l` and `execute_move_p` check and transform alike. -/
def cartesianTarget (self : MoveSettings) (moment : MoveMoment) (channel : ChannelConfig)
    (groupName tipFrame : String) (targetPose : StampedTarget) (options : MotionOptions) :
    Except String (JointGroupModel × Pose) :=
  let notPermitted := "group_name or tip_frame is not permitted by this channel"
  match self.groups[groupName]? with
  | none => .error notPermitted
  | some model =>
    if tipFrame.isEmpty || (!channel.group.isEmpty && groupName ≠ channel.group) ||
        (!channel.tipFrame.isEmpty && tipFrame ≠ channel.tipFrame) then .error notPermitted
    else do
      validateOptions options
      self.validateStamp moment targetPose.header.stamp
      return (model, ← moment.transform targetPose channel.baseFrame)

/-- The request of a goal, or the text it is aborted with as an invalid request. -/
def moveRequest (self : MoveSettings) (moment : MoveMoment) (channel : ChannelConfig)
    (requestId : String) : MoveGoal → Except String SessionRequest
  | .moveJ groupName target options =>
    if !channel.group.isEmpty && groupName ≠ channel.group then
      .error "group_name is not permitted by this channel"
    else do
      validateOptions options
      let target ← self.completeJointTarget moment groupName target
      return .moveJ { requestId, groupName, target
                      limits := self.motionLimits options target.jointNames.length }
  | .moveL groupName tipFrame targetPose options => do
    let found ← self.cartesianTarget moment channel groupName tipFrame targetPose options
    return .moveL { requestId, groupName, baseLink := channel.baseFrame, linkName := tipFrame
                    target := found.2
                    limits := self.motionLimits options found.1.jointNames.length }
  | .moveP groupName tipFrame targetPose options => do
    let found ← self.cartesianTarget moment channel groupName tipFrame targetPose options
    return .moveP { requestId, groupName, baseLink := channel.baseFrame, linkName := tipFrame
                    waypoints := [found.2]
                    limits := self.motionLimits options found.1.jointNames.length }

theorem requestId_moveRequest {self : MoveSettings} {moment : MoveMoment} {channel : ChannelConfig}
    {id : String} {goal : MoveGoal} {request : SessionRequest}
    (h : self.moveRequest moment channel id goal = .ok request) : requestId request = id := by
  cases goal with
  | moveJ groupName target options =>
    simp only [moveRequest] at h
    split at h
    · cases h
    · obtain ⟨_, -, h⟩ := Checked.bind_ok h
      obtain ⟨found, -, h⟩ := Checked.bind_ok h
      cases h
      rfl
  | moveL groupName tipFrame targetPose options =>
    simp only [moveRequest] at h
    obtain ⟨found, -, h⟩ := Checked.bind_ok h
    cases h
    rfl
  | moveP groupName tipFrame targetPose options =>
    simp only [moveRequest] at h
    obtain ⟨found, -, h⟩ := Checked.bind_ok h
    cases h
    rfl

/-! ## The measured pose -/

/-- The positions of the joints of the group, each within its limits and the margin. -/
def measuredPositions (self : MoveSettings) (positions : StringMap Double) (model : JointGroupModel) :
    Option (List Double) :=
  (List.range model.jointNames.length).mapM fun i =>
    (positions[model.jointNames.getD i ""]?).filter fun position =>
      !decide (position.val < valueAt model.lowerPositionRad i - self.feedbackLimitRecoveryMarginRad) &&
        !decide (valueAt model.upperPositionRad i + self.feedbackLimitRecoveryMarginRad < position.val)

def feedbackPose (self : MoveSettings) (message : JointState) (groupName baseFrame tipFrame : String) :
    Option StampedTarget := do
  let model ← self.groups[groupName]?
  let positions ← self.measuredPositions (positionsByName message.name message.position) model
  let result := self.forwardKinematics
    { kinematics := ⟨groupName, baseFrame, tipFrame⟩, jointState := ⟨model.jointNames, positions⟩ }
  if result.ok then
    let pose ← result.value
    return { header := ⟨message.header.stamp, baseFrame⟩, pose := fromKinematicsPose pose }
  else none

end MoveSettings

end HumanoidMotion
