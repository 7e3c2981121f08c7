import Mathlib.Data.Rat.Defs
import Mathlib.Algebra.Order.Ring.Rat
import Std.Data.TreeMap
import Std.Data.TreeSet
/-
# The data of the motion layer (`motion/types.hpp`, `control_arbiter.hpp`)

| here | there |
| --- | --- |
| `SteadyTime`, `Duration` | `std::chrono::steady_clock::time_point` and durations, in nanoseconds |
| `Double`                 | `double` in exact arithmetic: a rational, or a value `std::isfinite` rejects |
| `StringMap`              | `std::map<std::string, T>`: ordered by key |
| `MotionStatus`           | `MotionStatus` (`types.hpp:45`) |
| `SessionRequest`         | the variant of the five requests (`types.hpp:163`) |
| `JointCommand`           | `JointCommand` (`types.hpp:167`) |
| `SessionEvent`           | `SessionEvent` (`types.hpp:199`) |

Counters (`next_sequence_`, `next_publication_token_`) are unbounded: a 64-bit
counter stepped once per command does not wrap in the life of a process.
-/

namespace HumanoidMotion

/-- Nanoseconds of the steady clock. -/
abbrev SteadyTime := Int

abbrev Duration := Int

def milliseconds (n : Int) : Duration := n * 1000000

abbrev StringMap (α : Type) := Std.TreeMap String α

abbrev StringSet := Std.TreeSet String

/-! ## Numbers -/

/-- A C++ `double` in exact arithmetic. NaN and the infinities are one value: the code asks
`std::isfinite` before it computes with a number it was given. -/
inductive Double where
  | fin (q : Rat)
  | nonFinite
deriving DecidableEq, Repr

namespace Double

def isFinite : Double → Bool
  | fin _ => true
  | nonFinite => false

/-- The rational behind a finite double; read only after `isFinite`. -/
def val : Double → Rat
  | fin q => q
  | nonFinite => 0

@[simp] theorem val_fin (q : Rat) : (fin q).val = q := rfl

@[simp] theorem isFinite_fin (q : Rat) : (fin q).isFinite = true := rfl

/-- `x > 0.0`, false of NaN. An infinity is not told apart from NaN: where the source compares
a number that may be infinite it also asks `isfinite`. -/
def isPositive (x : Double) : Bool := x.isFinite && decide (0 < x.val)

/-- `std::isfinite(x) && x >= 0.0`. -/
def isNonNegative (x : Double) : Bool := x.isFinite && decide (0 ≤ x.val)

end Double

instance : OfNat Double n := ⟨.fin (OfNat.ofNat n)⟩

/-- `finite` (`command_pipeline.cpp:38`). -/
def finite (values : List Double) : Bool := values.all Double.isFinite

/-- `values[i]` as a number. -/
def valueAt (values : List Double) (i : Nat) : Rat := (values.getD i 0).val

/-- `unique.size() == names.size() && unique.count("") == 0`. -/
def uniqueNonEmpty (names : List String) : Bool := decide names.Nodup && !names.contains ""

/-! ## Kinds and statuses -/

inductive MotionKind where
  | moveJ | moveL | moveP | servoJ | servoP
deriving DecidableEq, Repr

def isServo : MotionKind → Bool
  | .servoJ | .servoP => true
  | _ => false

def isMove (kind : MotionKind) : Bool := !isServo kind

inductive StatusCode where
  | ok | invalidArgument | notConfigured | rejected | preempted | canceled | timeout
  | staleFeedback | sdkError | limitViolation | controlledStop | internalError
deriving DecidableEq, Repr

structure MotionStatus where
  code : StatusCode := .ok
  message : String := ""
  /-- The SDK entry point behind `sdkCode`, when there is one. -/
  sdkApi : String := ""
  sdkCode : Int := -1
deriving DecidableEq, Repr

namespace MotionStatus

def Ok : MotionStatus := {}

def ok (status : MotionStatus) : Bool := status.code == .ok

@[simp] theorem ok_Ok : Ok.ok = true := rfl

end MotionStatus

/-! ## Targets, feedback and limits -/

def origin : Vector Double 3 := #v[0, 0, 0]

def noRotation : Vector Double 4 := #v[0, 0, 0, 1]

structure Pose where
  positionM : Vector Double 3 := origin
  orientationXyzw : Vector Double 4 := noRotation
deriving DecidableEq, Repr

structure JointTarget where
  jointNames : List String := []
  positionsRad : List Double := []
  velocitiesRadS : List Double := []
  accelerationsRadS2 : List Double := []
deriving DecidableEq, Repr

structure JointFeedback where
  jointNames : List String := []
  positionsRad : List Double := []
  velocitiesRadS : List Double := []
  receivedAt : SteadyTime := 0
deriving DecidableEq, Repr

structure MotionLimits where
  jointMaxVelocityRadS : List Double := []
  jointMaxAccelerationRadS2 : List Double := []
  jointMaxJerkRadS3 : List Double := []
  cartesianMaxLinearVelocityMS : Double := 0
  cartesianMaxLinearAccelerationMS2 : Double := 0
  cartesianMaxLinearJerkMS3 : Double := 0
  cartesianMaxAngularVelocityRadS : Double := 0
  cartesianMaxAngularAccelerationRadS2 : Double := 0
  cartesianMaxAngularJerkRadS3 : Double := 0
deriving DecidableEq, Repr

structure JointGroupModel where
  name : String
  jointNames : List String
  lowerPositionRad : List Double
  upperPositionRad : List Double
deriving DecidableEq, Repr

/-! ## Requests -/

structure MoveJRequest where
  requestId : String
  groupName : String
  target : JointTarget
  limits : MotionLimits := {}
deriving DecidableEq, Repr

structure MoveLRequest where
  requestId : String
  groupName : String
  baseLink : String := "base_link"
  linkName : String
  target : Pose
  limits : MotionLimits := {}
deriving DecidableEq, Repr

structure MovePRequest where
  requestId : String
  groupName : String
  baseLink : String := "base_link"
  linkName : String
  waypoints : List Pose
  limits : MotionLimits := {}
deriving DecidableEq, Repr

structure ServoJRequest where
  requestId : String
  groupName : String
  target : JointTarget
  limits : MotionLimits := {}
deriving DecidableEq, Repr

structure ServoPRequest where
  requestId : String
  groupName : String
  baseLink : String := "base_link"
  linkName : String
  target : Pose
  limits : MotionLimits := {}
deriving DecidableEq, Repr

inductive SessionRequest where
  | moveJ (request : MoveJRequest)
  | moveL (request : MoveLRequest)
  | moveP (request : MovePRequest)
  | servoJ (request : ServoJRequest)
  | servoP (request : ServoPRequest)
deriving DecidableEq, Repr

inductive DynamicTarget where
  | joints (target : JointTarget)
  | pose (target : Pose)
deriving DecidableEq, Repr

def motionKind : SessionRequest → MotionKind
  | .moveJ _ => .moveJ
  | .moveL _ => .moveL
  | .moveP _ => .moveP
  | .servoJ _ => .servoJ
  | .servoP _ => .servoP

/-- `request_id` (`command_pipeline.cpp:26`). -/
def requestId : SessionRequest → String
  | .moveJ r => r.requestId
  | .moveL r => r.requestId
  | .moveP r => r.requestId
  | .servoJ r => r.requestId
  | .servoP r => r.requestId

/-- `group_name` (`command_pipeline.cpp:32`). -/
def groupName : SessionRequest → String
  | .moveJ r => r.groupName
  | .moveL r => r.groupName
  | .moveP r => r.groupName
  | .servoJ r => r.groupName
  | .servoP r => r.groupName

/-- `request_limits` (`command_pipeline.cpp:137`). -/
def requestLimits : SessionRequest → MotionLimits
  | .moveJ r => r.limits
  | .moveL r => r.limits
  | .moveP r => r.limits
  | .servoJ r => r.limits
  | .servoP r => r.limits

/-! ## Commands and events -/

structure JointCommand where
  groupName : String := ""
  jointNames : List String := []
  positionsRad : List Double := []
  velocitiesRadS : List Double := []
  accelerationsRadS2 : List Double := []
  /-- Set by the final RTC of the SDK only. -/
  passedFinalSdkRtc : Bool := false
  -- assigned by the pipeline when it issues the command, checked again at publication
  sessionId : String := ""
  validUntil : Option SteadyTime := none
  publicationToken : Nat := 0
deriving DecidableEq, Repr

structure BackendTick where
  status : MotionStatus := {}
  candidate : JointCommand := {}
  pathReached : Bool := false
deriving DecidableEq, Repr

inductive SessionState where
  | pending | running | succeeded | preempted | canceled | aborted
deriving DecidableEq, Repr

/-- The states in which a session has ended. -/
def SessionState.isTerminal : SessionState → Bool
  | .pending | .running => false
  | _ => true

structure SessionEvent where
  sessionId : String
  state : SessionState := .pending
  status : MotionStatus := {}
deriving DecidableEq, Repr

structure PipelineTick where
  commands : List JointCommand := []
  events : List SessionEvent := []
deriving DecidableEq, Repr

end HumanoidMotion
