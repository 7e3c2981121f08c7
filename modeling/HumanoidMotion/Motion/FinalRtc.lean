import HumanoidMotion.Motion.Platform
import HumanoidMotion.Motion.SdkMotionBackend
/-
# The backend as a platform (`motion/sdk_motion_backend.cpp`)

Beside the tasks of its sessions the backend keeps one RTC of the SDK for each
joint group. Every command passes through it before it is published: it is given
degrees in the joint order of the model, and answers in degrees.

| here | there |
| --- | --- |
| `RtcSdk`         | `motion_control::Rtc`: every answer may depend on all the calls before, and may be a throw |
| `RtcCall`        | one call of an RTC, by the name of its group, with its answer |
| `SdkAdapter`     | `Impl`: the sessions and the RTCs |
| `rtcTarget`      | the `RtcJointTarget` of `rebaseFinalJointTarget` and `updateFinalJointTarget` |
| `resetFinalJointTarget`, `rebaseFinalJointTarget`, `updateFinalJointTarget`, `forwardKinematics` | the calls of the same name (`:409`-`:544`) |
| `sdkBackend`     | `ISdkMotionBackend`, and the clock beside it |

The constructor makes an RTC for every group model, so a group without a model
is a group without an RTC. `kinematics` and the field of that name in
`MotionSdk` are one pointer in the source.
-/

namespace HumanoidMotion

/-! ## The RTCs of the SDK -/

/-- `motion_control::RtcJointTarget`, in degrees. -/
structure RtcJointTarget where
  jointNames : List String
  positions : List Double := []
  velocities : List Double := []
  accelerations : List Double := []
deriving DecidableEq, Repr

/-- `motion_control::RtcStatus`: the two that are no failure, or another by its number. -/
inductive RtcStatus where
  | running
  | reached
  | other (code : Int)
deriving DecidableEq, Repr

structure RtcJointState where
  status : RtcStatus
  message : String := ""
  jointNames : List String := []
  positions : List Double := []
  velocities : List Double := []
  accelerations : List Double := []
deriving DecidableEq, Repr

inductive RtcCall where
  | reset (group : String) (target : RtcJointTarget) (answer : Except String Unit)
  | update (group : String) (target : RtcJointTarget) (dtSec : Rat)
      (answer : Except String RtcJointState)

structure RtcSdk where
  resetJointTarget : List RtcCall → String → RtcJointTarget → Except String Unit
  updateJointTarget : List RtcCall → String → RtcJointTarget → Rat → Except String RtcJointState

structure SdkAdapter (ι : Type) where
  sessions : SdkMotionBackend ι
  /-- Every call of an RTC so far. -/
  finalCalls : List RtcCall := []

/-! ## The final targets -/

/-- The target of an RTC: the joints of the model in its order, in degrees. -/
def rtcTarget (group : JointGroupModel) (jointNames : List String)
    (positions velocities accelerations : List Double) : Except String RtcJointTarget := do
  let positions ← reorder jointNames positions group.jointNames
  let velocities ← reorderOptional jointNames velocities group.jointNames
  let accelerations ← reorderOptional jointNames accelerations group.jointNames
  return ⟨group.jointNames, scaled positions kRadToDeg, scaled velocities kRadToDeg,
    scaled accelerations kRadToDeg⟩

def noFinalRtc (groupName : String) : MotionStatus :=
  { code := .notConfigured, message := "no final RTC for group: " ++ groupName }

def rtcFailure (api what : String) (code : Int := -1) : MotionStatus := ⟨.sdkError, what, api, code⟩

/-- The command in a state that is no failure. -/
def fromRtcState (groupName : String) (state : RtcJointState) : JointCommand where
  groupName := groupName
  jointNames := state.jointNames
  positionsRad := scaled state.positions kDegToRad
  velocitiesRadS := scaled state.velocities kDegToRad
  accelerationsRadS2 := scaled state.accelerations kDegToRad
  passedFinalSdkRtc := true

/-- What the backend makes of the answer of an RTC. -/
def finalTick (groupName : String) : Except String RtcJointState → BackendTick
  | .error what => { status := rtcFailure "motion_control::Rtc::updateJointTarget" what }
  | .ok state => match state.status with
    | .running => { status := .Ok, candidate := fromRtcState groupName state, pathReached := false }
    | .reached => { status := .Ok, candidate := fromRtcState groupName state, pathReached := true }
    | .other code =>
      { status := rtcFailure "motion_control::Rtc::updateJointTarget" state.message code }

namespace SdkAdapter

variable {ι : Type} (rtc : RtcSdk)

def rebaseFinalJointTarget (self : SdkAdapter ι) (groupName : String) (current : JointTarget) :
    MotionStatus × SdkAdapter ι :=
  if !finite current.positionsRad || !finite current.velocitiesRadS ||
      !finite current.accelerationsRadS2 then
    ({ code := .invalidArgument, message := "final RTC state contains a non-finite value" }, self)
  else match self.sessions.groupModels[groupName]? with
    | none => (noFinalRtc groupName, self)
    | some group =>
      match rtcTarget group current.jointNames current.positionsRad current.velocitiesRadS
          current.accelerationsRadS2 with
      | .error what => (rtcFailure "motion_control::Rtc::resetJointTarget" what, self)
      | .ok target =>
        let answer := rtc.resetJointTarget self.finalCalls groupName target
        let self := { self with finalCalls := self.finalCalls ++ [.reset groupName target answer] }
        match answer with
        | .error what => (rtcFailure "motion_control::Rtc::resetJointTarget" what, self)
        | .ok _ => (.Ok, self)

def resetFinalJointTarget (self : SdkAdapter ι) (groupName : String) (feedback : JointFeedback) :
    MotionStatus × SdkAdapter ι :=
  match self.sessions.groupModels[groupName]? with
  | none => (noFinalRtc groupName, self)
  | some group =>
    match feedbackTarget feedback group with
    | .error what => (rtcFailure "SdkMotionBackend::resetFinalJointTarget" what, self)
    | .ok current => self.rebaseFinalJointTarget rtc groupName current

def updateFinalJointTarget (self : SdkAdapter ι) (groupName : String) (candidate : JointCommand)
    (periodSec : Double) : BackendTick × SdkAdapter ι :=
  match self.sessions.groupModels[groupName]? with
  | none => ({ status := noFinalRtc groupName }, self)
  | some group =>
    if SdkMotionBackend.badPeriod periodSec then
      ({ status := { code := .invalidArgument, message := "period must be positive and finite" } },
        self)
    else match rtcTarget group candidate.jointNames candidate.positionsRad candidate.velocitiesRadS
        candidate.accelerationsRadS2 with
      | .error what =>
        ({ status := rtcFailure "motion_control::Rtc::updateJointTarget" what }, self)
      | .ok target =>
        let answer := rtc.updateJointTarget self.finalCalls groupName target periodSec.val
        (finalTick groupName answer, { self with
          finalCalls := self.finalCalls ++ [.update groupName target periodSec.val answer] })

end SdkAdapter

/-! ## Forward kinematics -/

/-- What `IKinematics::forwardKinematics` answers. -/
abbrev ForwardAnswer := Except String (Kinematics.Result Kinematics.Pose)

/-- `from_kinematics_pose`. -/
def fromKinematicsPose (input : Kinematics.Pose) : Pose where
  positionM := #v[input.positionM.x, input.positionM.y, input.positionM.z]
  orientationXyzw :=
    #v[input.orientation.x, input.orientation.y, input.orientation.z, input.orientation.w]

def toKinematicsRequest (request : ForwardKinematicsRequest) : Kinematics.ForwardKinematicsRequest where
  kinematics := ⟨request.groupName, request.baseLink, request.linkName⟩
  jointState := ⟨request.joints.jointNames, request.joints.positionsRad⟩

def fkFailure (message : String) (code : Int) : ForwardKinematicsResult :=
  { status :=
    ⟨.sdkError, message, "humanoid_motion_server::kinematics::IKinematics::forwardKinematics", code⟩ }

/-- `forwardKinematics` of the backend. -/
def adaptedForwardKinematics (kinematics : Option (Kinematics.ForwardKinematicsRequest → ForwardAnswer))
    (request : ForwardKinematicsRequest) : ForwardKinematicsResult :=
  match kinematics with
  | none =>
    { status := { code := .notConfigured, message := "SDK kinematics adapter is not configured" } }
  | some forward =>
    match forward (toKinematicsRequest request) with
    | .error what => fkFailure what (-1)
    | .ok result =>
      match result.ok, result.value with
      | true, some pose => { status := .Ok, pose := fromKinematicsPose pose }
      | _, _ => fkFailure result.status.message result.status.code.toInt

/-! ## The platform -/

section
variable {ι γ : Type} (sdk : MotionSdk ι) (rtc : RtcSdk)
  (kinematics : Option (Kinematics.ForwardKinematicsRequest → ForwardAnswer))
  (steadyNow : γ → SteadyTime × γ)

/-- The backend beside the clock, as the pipeline reaches the two. -/
def sdkBackend : Platform (SdkAdapter ι × γ) where
  steadyNow e := ((steadyNow e.2).1, (e.1, (steadyNow e.2).2))
  startSession e id request feedback period :=
    let r := e.1.sessions.startSession sdk id request feedback (.fin period)
    (r.1, ({ e.1 with sessions := r.2 }, e.2))
  tickSession e id target period :=
    let r := e.1.sessions.tickSession sdk id (some target) (.fin period)
    (r.1, ({ e.1 with sessions := r.2 }, e.2))
  stopSession e id :=
    let r := e.1.sessions.stopSession id
    (r.1, ({ e.1 with sessions := r.2 }, e.2))
  resetFinalJointTarget e group feedback :=
    let r := e.1.resetFinalJointTarget rtc group feedback
    (r.1, (r.2, e.2))
  rebaseFinalJointTarget e group current :=
    let r := e.1.rebaseFinalJointTarget rtc group current
    (r.1, (r.2, e.2))
  updateFinalJointTarget e group candidate period :=
    let r := e.1.updateFinalJointTarget rtc group candidate (.fin period)
    (r.1, (r.2, e.2))
  forwardKinematics e request := (adaptedForwardKinematics kinematics request, e)

end

end HumanoidMotion
