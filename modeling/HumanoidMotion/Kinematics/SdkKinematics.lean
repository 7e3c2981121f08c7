import HumanoidMotion.Types
/-
# The kinematics adapter (`kinematics/sdk_kinematics.cpp`)

| here | there |
| --- | --- |
| `Result`                | `Result<T>`: a status and, perhaps, a value |
| `Libm`                  | the functions of `<cmath>`, on numbers |
| `SdkApi`                | the injected SDK; an answer may depend on every call before |
| `SdkCall`               | one call of it |
| `reorderJointPositions` | the values of a joint state in the order of a group |
| `forwardKinematics`, `inverseKinematics` | the two requests |

Lengths in metres and angles in radians outside, millimetres and degrees inside.
-/

namespace HumanoidMotion.Kinematics

/-! ## The data (`kinematics/types.hpp`) -/

inductive ErrorCode where
  | ok | notConfigured | invalidArgument | invalidGroup | invalidFrame | invalidTool
  | invalidJointState | sdkInitializationFailed | sdkModelLoadFailed | sdkFailure | internalError
deriving DecidableEq, Repr

structure Status where
  code : ErrorCode := .ok
  message : String := ""
deriving DecidableEq, Repr

namespace Status

def Ok : Status := {}

def Error (code : ErrorCode) (message : String) : Status := ⟨code, message⟩

def ok (status : Status) : Bool := status.code == .ok

end Status

structure Result (α : Type) where
  status : Status
  value : Option α
deriving DecidableEq, Repr

namespace Result

variable {α : Type}

def ok (result : Result α) : Bool := result.status.ok && result.value.isSome

def Success (value : α) : Result α := ⟨.Ok, some value⟩

def Failure (error : Status) : Result α := ⟨error, none⟩

end Result

structure Vector3 where
  x : Double := 0
  y : Double := 0
  z : Double := 0
deriving DecidableEq, Repr

structure Quaternion where
  x : Double := 0
  y : Double := 0
  z : Double := 0
  w : Double := 1
deriving DecidableEq, Repr

structure Pose where
  positionM : Vector3 := {}
  orientation : Quaternion := {}
deriving DecidableEq, Repr

structure JointState where
  jointNames : List String := []
  positionsRad : List Double := []
deriving DecidableEq, Repr

structure KinematicsRequest where
  groupName : String
  baseLink : String := "base_link"
  linkName : String
deriving DecidableEq, Repr

structure ForwardKinematicsRequest where
  kinematics : KinematicsRequest
  jointState : JointState
deriving DecidableEq, Repr

structure IkParameters where
  enableJointTask : Bool := false
  redundancyPreference : Option JointState := none
  enableArmAngleConstraint : Bool := false
  armAngleShoulderFrame : String := ""
  armAngleElbowFrame : String := ""
  armAngleWristFrame : String := ""
  armAngleElbowHintAxis : Vector3 := ⟨0, 0, 1⟩
  positionToleranceM : Double := .fin (5 / 10000)
  orientationToleranceRad : Double := .fin (1 / 1000)
  tracIkTimeoutSec : Double := .fin (2 / 100)
  placoMaxIterations : Int := 1000
  retryPositionToleranceM : Double := .fin (1 / 1000)
  retryOrientationToleranceRad : Double := .fin (1 / 100)
  retryInterpolationSteps : Int := 80
  retryMinPositionDistanceM : Double := .fin (5 / 1000)
  retryMinOrientationDistanceRad : Double := .fin (25 / 1000)
  placoJointTaskWeight : Double := .fin (1 / 1000)
deriving DecidableEq, Repr

structure InverseKinematicsRequest where
  kinematics : KinematicsRequest
  targetPose : Pose := {}
  seed : Option JointState := none
  currentState : Option JointState := none
  parameters : IkParameters := {}
deriving DecidableEq, Repr

structure InverseKinematicsResult where
  solution : JointState := {}
  positionErrorM : Double := 0
  orientationErrorRad : Double := 0
deriving DecidableEq, Repr

/-! ## The SDK's side (`kinematics/sdk_api.hpp`) -/

structure SdkPose where
  positionMm : Vector3 := {}
  orientation : Quaternion := {}
  eulerZyxDeg : Vector3 := {}
deriving DecidableEq, Repr

structure SdkIkParameters where
  planOnly : Bool := false
  planningStartJointDeg : List Double := []
  enableJointTask : Bool := false
  redundancyPreferencePositionsDeg : List Double := []
  enableArmAngleConstraint : Bool := false
  armAngleShoulderFrame : String := ""
  armAngleElbowFrame : String := ""
  armAngleWristFrame : String := ""
  armAngleElbowHintAxis : Vector3 := ⟨0, 0, 1⟩
  positionToleranceMm : Double := .fin (1 / 2)
  orientationToleranceRad : Double := .fin (1 / 1000)
  tracIkTimeoutSec : Double := .fin (2 / 100)
  placoMaxIterations : Int := 1000
  retryPositionToleranceMm : Double := 1
  retryOrientationToleranceRad : Double := .fin (1 / 100)
  retryInterpolationSteps : Int := 80
  retryMinPositionDistanceMm : Double := 5
  retryMinOrientationDistanceRad : Double := .fin (25 / 1000)
  placoJointTaskWeight : Double := .fin (1 / 1000)
deriving DecidableEq, Repr

structure SdkInverseKinematicsRequest where
  kinematics : KinematicsRequest
  targetPose : SdkPose := {}
  q0Deg : List Double := []
  parameters : SdkIkParameters := {}
deriving DecidableEq, Repr

structure SdkInverseKinematicsResult where
  success : Bool := false
  message : String := ""
  jointNames : List String := []
  positionsDeg : List Double := []
  positionErrorMm : Double := 0
  orientationErrorRad : Double := 0
deriving DecidableEq, Repr

/-- One call of the SDK, with what it was given. -/
inductive SdkCall where
  | jointGroup (groupName : String)
  | validateFrames (request : KinematicsRequest) (jointNames : List String) (jointsDeg : List Double)
  | forwardKinematics (request : KinematicsRequest) (jointsDeg : List Double)
  | inverseKinematics (request : SdkInverseKinematicsRequest)
deriving DecidableEq, Repr

/-- The SDK answers from all it was asked before. -/
structure SdkApi where
  jointGroup : List SdkCall → String → Result (List String)
  validateFrames : List SdkCall → KinematicsRequest → List String → List Double → Status
  forwardKinematics : List SdkCall → KinematicsRequest → List Double → Result SdkPose
  inverseKinematics : List SdkCall → SdkInverseKinematicsRequest → SdkInverseKinematicsResult

/-- `<cmath>` on numbers. -/
structure Libm where
  sqrt : Rat → Rat
  sin : Rat → Rat
  cos : Rat → Rat
  asin : Rat → Rat
  atan2 : Rat → Rat → Rat

/-! ## Units and rotations -/

def kDegreesPerRadian : Rat := 57.295779513082320876798154814105

def kRadiansPerDegree : Rat := 0.01745329251994329576923690768489

def kMillimetresPerMetre : Rat := 1000

def kQuaternionNormEpsilon : Rat := 1 / 10 ^ 12

/-- `x * factor`. -/
def scale (factor : Rat) : Double → Double
  | .fin q => .fin (q * factor)
  | .nonFinite => .nonFinite

@[simp] theorem scale_isFinite (factor : Rat) (x : Double) :
    (scale factor x).isFinite = x.isFinite := by
  cases x <;> rfl

def Vector3.finite (v : Vector3) : Bool := v.x.isFinite && v.y.isFinite && v.z.isFinite

def Vector3.scaled (v : Vector3) (factor : Rat) : Vector3 :=
  ⟨scale factor v.x, scale factor v.y, scale factor v.z⟩

def Quaternion.finite (q : Quaternion) : Bool :=
  q.x.isFinite && q.y.isFinite && q.z.isFinite && q.w.isFinite

section
variable (libm : Libm)

def normalizedQuaternion (input : Quaternion) : Result Quaternion :=
  if !input.finite then
    .Failure (.Error .invalidArgument "orientation quaternion is not finite")
  else
    let (x, y, z, w) := (input.x.val, input.y.val, input.z.val, input.w.val)
    let squaredNorm := x * x + y * y + z * z + w * w
    -- `!finite(squared_norm)` is a case of rounding: without it the sum of finite squares is finite
    if squaredNorm < kQuaternionNormEpsilon then
      .Failure (.Error .invalidArgument "orientation quaternion has zero norm")
    else
      let inverseNorm := 1 / libm.sqrt squaredNorm
      .Success ⟨.fin (x * inverseNorm), .fin (y * inverseNorm), .fin (z * inverseNorm),
        .fin (w * inverseNorm)⟩

def quaternionToEulerZyxDeg (q : Quaternion) : Vector3 :=
  let (x, y, z, w) := (q.x.val, q.y.val, q.z.val, q.w.val)
  let roll := libm.atan2 (2 * (w * x + y * z)) (1 - 2 * (x * x + y * y))
  let sinPitch := 2 * (w * y - z * x)
  let pitch := libm.asin (max (-1) (min sinPitch 1))
  let yaw := libm.atan2 (2 * (w * z + x * y)) (1 - 2 * (y * y + z * z))
  ⟨.fin (roll * kDegreesPerRadian), .fin (pitch * kDegreesPerRadian), .fin (yaw * kDegreesPerRadian)⟩

def eulerZyxDegToQuaternion (eulerDeg : Vector3) : Quaternion :=
  let half := fun angle : Double => angle.val * kRadiansPerDegree * (1 / 2)
  let (cr, sr) := (libm.cos (half eulerDeg.x), libm.sin (half eulerDeg.x))
  let (cp, sp) := (libm.cos (half eulerDeg.y), libm.sin (half eulerDeg.y))
  let (cy, sy) := (libm.cos (half eulerDeg.z), libm.sin (half eulerDeg.z))
  ⟨.fin (sr * cp * cy - cr * sp * sy), .fin (cr * sp * cy + sr * cp * sy),
    .fin (cr * cp * sy - sr * sp * cy), .fin (cr * cp * cy + sr * sp * sy)⟩

def toSdkPose (pose : Pose) : Result SdkPose :=
  if !pose.positionM.finite then
    .Failure (.Error .invalidArgument "target position is not finite")
  else
    let orientation := normalizedQuaternion libm pose.orientation
    match orientation.value with
    | none => .Failure orientation.status
    | some quaternion => .Success
      { positionMm := pose.positionM.scaled kMillimetresPerMetre
        orientation := quaternion
        eulerZyxDeg := quaternionToEulerZyxDeg libm quaternion }

def toPublicPose (sdkPose : SdkPose) : Result Pose :=
  if !sdkPose.positionMm.finite || !sdkPose.eulerZyxDeg.finite then
    .Failure (.Error .sdkFailure "SDK FK returned a non-finite pose")
  else .Success
    { positionM := sdkPose.positionMm.scaled (1 / kMillimetresPerMetre)
      orientation := eulerZyxDegToQuaternion libm sdkPose.eulerZyxDeg }

end

def radiansToDegrees (radians : List Double) : List Double := radians.map (scale kDegreesPerRadian)

def degreesToRadians (degrees : List Double) : List Double := degrees.map (scale kRadiansPerDegree)

/-! ## Names -/

/-- One turn of `validateNames`' loop. -/
def noteName (errorCode : ErrorCode) (label : String) (uniqueNames : StringSet) (name : String) :
    Except Status StringSet :=
  if name.isEmpty then .error (.Error errorCode (label ++ " contains an empty name"))
  else if uniqueNames.contains name then
    .error (.Error errorCode (label ++ " contains duplicate name '" ++ name ++ "'"))
  else .ok (uniqueNames.insert name)

def validateNames (names : List String) (errorCode : ErrorCode) (label : String) : Status :=
  match names.foldlM (noteName errorCode label) ∅ with
  | .error status => status
  | .ok _ => .Ok

def validateRequestNames (request : KinematicsRequest) : Status :=
  if request.groupName.isEmpty then .Error .invalidGroup "group_name is empty"
  else if request.baseLink.isEmpty then .Error .invalidFrame "base_link is empty"
  else if request.linkName.isEmpty then .Error .invalidFrame "link_name is empty"
  else .Ok

/-- One turn of the loop over a joint state (`:135`). -/
def notePosition (byName : StringMap Double) (joint : String × Double) :
    Except Status (StringMap Double) :=
  if !joint.2.isFinite then
    .error (.Error .invalidJointState ("joint position for '" ++ joint.1 ++ "' is not finite"))
  else .ok (byName.insertIfNew joint.1 joint.2)

/-- One turn of the loop over the group's joints (`:153`). -/
def positionOf (byName : StringMap Double) (jointName : String) : Except Status Double :=
  match byName[jointName]? with
  | none => .error (.Error .invalidJointState
      ("joint state is missing configured joint '" ++ jointName ++ "'"))
  | some position => .ok position

def reorderJointPositions (state : JointState) (orderedJointNames : List String) :
    Result (List Double) :=
  if state.jointNames.length ≠ state.positionsRad.length then
    .Failure (.Error .invalidJointState "joint_names and positions_rad have different lengths")
  else
    let namesStatus := validateNames state.jointNames .invalidJointState "joint state"
    if !namesStatus.ok then .Failure namesStatus
    else match (state.jointNames.zip state.positionsRad).foldlM notePosition ∅ with
      | .error status => .Failure status
      | .ok byName =>
        if byName.size ≠ orderedJointNames.length then
          .Failure (.Error .invalidJointState
            "joint state does not contain exactly the configured group joints")
        else match orderedJointNames.mapM (positionOf byName) with
          | .error status => .Failure status
          | .ok reordered => .Success reordered

/-! ## `SdkKinematics` -/

/-- The adapter; the injected SDK may be null. -/
structure SdkKinematics where
  sdkApi : Option SdkApi
  libm : Libm

namespace SdkKinematics

/-- `Impl::group`. -/
def group (self : SdkKinematics) (calls : List SdkCall) (groupName : String) :
    Result (List String) × List SdkCall :=
  match self.sdkApi with
  | none => (.Failure (.Error .internalError "SDK API injection is null"), calls)
  | some api =>
    if groupName.isEmpty then (.Failure (.Error .invalidGroup "group_name is empty"), calls)
    else
      let result := api.jointGroup calls groupName
      let calls := calls ++ [.jointGroup groupName]
      if !result.ok then (result, calls)
      else
        let names := result.value.getD []
        if names.isEmpty then
          (.Failure (.Error .invalidGroup
            ("SDK joint group '" ++ groupName ++ "' is not registered")), calls)
        else
          let namesStatus := validateNames names .invalidGroup "SDK joint group"
          if !namesStatus.ok then (.Failure namesStatus, calls) else (result, calls)

/-- `forwardKinematics` once the group is known. -/
def forwardInGroup (api : SdkApi) (libm : Libm) (calls : List SdkCall) (group : List String)
    (request : ForwardKinematicsRequest) : Result Pose × List SdkCall :=
  let positions := reorderJointPositions request.jointState group
  match positions.value with
  | none => (.Failure positions.status, calls)
  | some radians =>
    let jointsDeg := radiansToDegrees radians
    let frameStatus := api.validateFrames calls request.kinematics group jointsDeg
    let calls := calls ++ [.validateFrames request.kinematics group jointsDeg]
    if !frameStatus.ok then (.Failure frameStatus, calls)
    else
      let sdkResult := api.forwardKinematics calls request.kinematics jointsDeg
      let calls := calls ++ [.forwardKinematics request.kinematics jointsDeg]
      if !sdkResult.ok then (.Failure sdkResult.status, calls)
      else (toPublicPose libm (sdkResult.value.getD {}), calls)

/-- How both requests begin: the names of the request, then the group. -/
def inGroup {α : Type} (self : SdkKinematics) (calls : List SdkCall) (request : KinematicsRequest)
    (answer : SdkApi → List SdkCall → List String → Result α × List SdkCall) :
    Result α × List SdkCall :=
  let requestStatus := validateRequestNames request
  if !requestStatus.ok then (.Failure requestStatus, calls)
  else
    let (group, calls) := self.group calls request.groupName
    if !group.ok then (.Failure group.status, calls)
    else match self.sdkApi, group.value with
      | some api, some names => answer api calls names
      -- not reached: a group that was found came from the SDK
      | _, _ => (.Failure group.status, calls)

def forwardKinematics (self : SdkKinematics) (calls : List SdkCall)
    (request : ForwardKinematicsRequest) : Result Pose × List SdkCall :=
  self.inGroup calls request.kinematics fun api calls group =>
    forwardInGroup api self.libm calls group request

/-- The parameters handed on (`:382`). -/
def toSdkParameters (parameters : IkParameters) (planOnly : Bool) (preference : List Double) :
    SdkIkParameters :=
  { planOnly
    enableJointTask := parameters.enableJointTask
    redundancyPreferencePositionsDeg := preference
    enableArmAngleConstraint := parameters.enableArmAngleConstraint
    armAngleShoulderFrame := parameters.armAngleShoulderFrame
    armAngleElbowFrame := parameters.armAngleElbowFrame
    armAngleWristFrame := parameters.armAngleWristFrame
    armAngleElbowHintAxis := parameters.armAngleElbowHintAxis
    positionToleranceMm := scale kMillimetresPerMetre parameters.positionToleranceM
    orientationToleranceRad := parameters.orientationToleranceRad
    tracIkTimeoutSec := parameters.tracIkTimeoutSec
    placoMaxIterations := parameters.placoMaxIterations
    retryPositionToleranceMm := scale kMillimetresPerMetre parameters.retryPositionToleranceM
    retryOrientationToleranceRad := parameters.retryOrientationToleranceRad
    retryInterpolationSteps := parameters.retryInterpolationSteps
    retryMinPositionDistanceMm := scale kMillimetresPerMetre parameters.retryMinPositionDistanceM
    retryMinOrientationDistanceRad := parameters.retryMinOrientationDistanceRad
    placoJointTaskWeight := parameters.placoJointTaskWeight }

/-- A joint state that may be absent, in the order of the group and in degrees. -/
def optionalDegrees (state : Option JointState) (group : List String) : Except Status (List Double) :=
  match state with
  | none => .ok []
  | some state =>
    let positions := reorderJointPositions state group
    match positions.value with
    | none => .error positions.status
    | some radians => .ok (radiansToDegrees radians)

/-- What `inverseKinematics` asks the SDK (`:361`–`:425`). -/
def toSdkRequest (libm : Libm) (group : List String) (request : InverseKinematicsRequest) :
    Except Status SdkInverseKinematicsRequest :=
  let target := toSdkPose libm request.targetPose
  let selectedSeed := request.seed.or request.currentState
  match target.value with
  | none => .error target.status
  | some targetPose =>
    match optionalDegrees selectedSeed group with
    | .error status => .error status
    | .ok q0Deg =>
      match optionalDegrees request.parameters.redundancyPreference group with
      | .error status => .error status
      | .ok preference =>
        .ok ⟨request.kinematics, targetPose, q0Deg,
          toSdkParameters request.parameters selectedSeed.isSome preference⟩

/-- What `inverseKinematics` makes of the SDK's answer (`:429`). -/
def fromSdkResult (group : List String) (sdkResult : SdkInverseKinematicsResult) :
    Result InverseKinematicsResult :=
  if !sdkResult.success then .Failure (.Error .sdkFailure sdkResult.message)
  else if sdkResult.jointNames.length ≠ sdkResult.positionsDeg.length then
    .Failure (.Error .sdkFailure "SDK IK returned joint_names/positions with different lengths")
  else
    let resultNames := validateNames sdkResult.jointNames .sdkFailure "SDK IK result"
    if !resultNames.ok then .Failure resultNames
    else if sdkResult.jointNames.length ≠ group.length then
      .Failure (.Error .sdkFailure
        "SDK IK result does not contain the complete requested joint group")
    else match sdkResult.jointNames.find? (fun jointName => !group.contains jointName) with
      | some jointName => .Failure (.Error .sdkFailure
          ("SDK IK returned a joint outside the requested group: '" ++ jointName ++ "'"))
      | none =>
        if !finite sdkResult.positionsDeg then
          .Failure (.Error .sdkFailure "SDK IK returned a non-finite joint position")
        else if !sdkResult.positionErrorMm.isFinite || !sdkResult.orientationErrorRad.isFinite then
          .Failure (.Error .sdkFailure "SDK IK returned a non-finite error")
        else .Success
          { solution := ⟨sdkResult.jointNames, degreesToRadians sdkResult.positionsDeg⟩
            positionErrorM := scale (1 / kMillimetresPerMetre) sdkResult.positionErrorMm
            orientationErrorRad := sdkResult.orientationErrorRad }

/-- `inverseKinematics` once the group is known. -/
def inverseInGroup (api : SdkApi) (libm : Libm) (calls : List SdkCall) (group : List String)
    (request : InverseKinematicsRequest) : Result InverseKinematicsResult × List SdkCall :=
  match toSdkRequest libm group request with
  | .error status => (.Failure status, calls)
  | .ok sdkRequest =>
    (fromSdkResult group (api.inverseKinematics calls sdkRequest),
      calls ++ [.inverseKinematics sdkRequest])

def inverseKinematics (self : SdkKinematics) (calls : List SdkCall)
    (request : InverseKinematicsRequest) : Result InverseKinematicsResult × List SdkCall :=
  self.inGroup calls request.kinematics fun api calls group =>
    inverseInGroup api self.libm calls group request

end SdkKinematics

end HumanoidMotion.Kinematics
