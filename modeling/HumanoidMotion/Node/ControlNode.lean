import HumanoidMotion.Motion.InputTimestamp
import HumanoidMotion.Motion.Pipeline
/-
# The control node (`humanoid_motion_control_node.cpp`)

The node feeds the pipeline: it decides who may move (`permit_*_`,
`ownership_*_`), keeps the latest servo target of each endpoint
(`latest_servos_`) and reserves joints for Moves (`move_owners_`).

| here | there |
| --- | --- |
| `Header`, `sourceStampNs` | `std_msgs::msg::Header`, `source_stamp_ns` (`:69`) |
| `ChannelConfig`           | `ChannelConfig` (`channel_config.hpp:23`), what the node reads of it |
| `PendingServo`            | `PendingServo` (`:1561`) |
| `ControlNode`             | the members at `:1815`-`:1883` that the permission, the servo inputs and the reservations use |
-/

namespace HumanoidMotion

/-- `builtin_interfaces::msg::Time`. -/
structure Stamp where
  sec : Int
  nanosec : Nat
deriving DecidableEq, Repr

/-- A header; `frameId` is any sequence of bytes, one character for each. -/
structure Header where
  stamp : Stamp
  frameId : String
deriving DecidableEq, Repr

def sourceStampNs (stamp : Stamp) : Int :=
  if stamp.sec < 0 || 1000000000 ≤ stamp.nanosec then -1
  else stamp.sec * 1000000000 + stamp.nanosec

structure ChannelConfig where
  name : String
  kind : MotionKind
  group : String
  baseFrame : String := ""
  tipFrame : String := ""
  source : String := "motion"
deriving DecidableEq, Repr

/-- `policy_id` (`:751`): the endpoint a channel's requests go to. -/
def policyId (channel : ChannelConfig) (group : String) : String := channel.name ++ "@" ++ group

structure PendingServo where
  request : SessionRequest
  freshAt : SteadyTime
  generation : Nat
deriving DecidableEq, Repr

/-- The phases of an ownership handshake. -/
inductive OwnershipPhase where
  | revoke | grant | off
deriving DecidableEq, Repr

structure ControlNode (β : Type) where
  pipeline : CommandPipeline β
  groups : StringMap JointGroupModel := ∅
  channels : List ChannelConfig := []
  /-- `public_mapping_.enabled()`. -/
  publicMapping : Bool := false
  -- who may move
  permitEpoch : String := ""
  permitSourceStamp : Int := 0
  /-- Steady nanoseconds of the last accepted permit. -/
  permitReceived : Int := 0
  permitCutoffNs : Int := 0
  permitGeneration : Nat := 0
  permitEnabled : Bool := true
  permitNormal : Bool := true
  interventionActive : Bool := false
  ownershipInstance : String := ""
  ownershipKey : String := ""
  /-- `none` before the first handshake, where the source has the empty string. -/
  ownershipPhase : Option OwnershipPhase := none
  ownershipAckKey : String := ""
  ownershipAckPhase : Option OwnershipPhase := none
  -- what is to be moved
  /-- The owner of each reserved joint. -/
  moveOwners : StringMap String := ∅
  servoCutoffs : StringMap Int := ∅
  latestServos : StringMap PendingServo := ∅
  servoTimestamps : StringMap InputTimestamp := ∅

namespace ControlNode

variable {β : Type}

def setOutputPermit (B : Platform β) (self : ControlNode β) (enabled : Bool) (generation : Nat) :
    ControlNode β :=
  { self with pipeline := self.pipeline.setOutputPermit B enabled generation }

/-- A node that waits for permission: what the constructor does when there is a permit topic
(`:423`). -/
def awaitPermit (B : Platform β) (self : ControlNode β) : ControlNode β :=
  setOutputPermit B { self with permitEnabled := false } false self.permitGeneration

end ControlNode

end HumanoidMotion
