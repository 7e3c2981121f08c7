import HumanoidMotion.Node.ControlNode
/-
# Permission to move (`humanoid_motion_control_node.cpp`)

Two protocols share the permit topic. A legacy permit names an epoch
(`motion:…` or `vr:…`) and renews it. The ownership handshake names a key
(`hc1:…`), revokes what was going on and then grants the key; while it is in
force legacy permits are ignored.

| here | there |
| --- | --- |
| `getlines`               | the loops over `std::getline` (`:1079`, `:1089`) |
| `ownershipPermit`, `acceptOwnership` | `receive_ownership_permit` (`:1073`) up to its checks, and after them |
| `ownershipAck`           | `publish_ownership_ack` (`:1059`) |
| `legacyPermit`, `acceptLegacy` | the rest of the subscription's callback (`:432`) |
| `receivePermit`          | the callback of the permit subscription (`:427`) |
| `expirePermit`           | the expiry check of `control_tick` (`:1605`) |

`nowNs` is the ROS time, `steadyNs` the steady clock; each call reads them once.
-/

namespace HumanoidMotion

/-! ## Fields of a frame id -/

/-- The stretches between the delimiters, at least one. -/
def splitFields (delimiter : Char) : List Char → List (List Char)
  | [] => [[]]
  | c :: cs =>
    if c = delimiter then [] :: splitFields delimiter cs
    else match splitFields delimiter cs with
      | [] => [[c]]
      | field :: fields => (c :: field) :: fields

/-- What repeated `std::getline` reads: the fields, without an empty one at the end of the input. -/
def getlines (delimiter : Char) (input : String) : List String :=
  let fields := splitFields delimiter input.toList
  (if fields.getLast? = some [] then fields.dropLast else fields).map String.ofList

/-- The parts of a key; an AUTO or HOLD token may end with the empty intervention id (`:1091`). -/
def keyParts (key : String) : List String :=
  getlines ':' key ++ if key.toList.getLast? = some ':' then [""] else []

def parsePhase (phase : String) : Option OwnershipPhase :=
  if phase = "revoke" then some .revoke
  else if phase = "grant" then some .grant
  else if phase = "off" then some .off
  else none

/-- `age < -50000000 || age > 300000000`. -/
def outOfDate (age : Int) : Bool := decide (age < -50000000) || decide (300000000 < age)

/-! ## Permits that pass the checks -/

/-- A handshake message that passed every check. -/
structure OwnershipPermit where
  key : String
  phase : OwnershipPhase
  source : String
  stamp : Int
deriving DecidableEq, Repr

/-- A legacy permit that passed every check. -/
structure LegacyPermit where
  epoch : String
  normal : Bool
  stamp : Int
deriving DecidableEq, Repr

/-- What the node answers to a handshake message. -/
structure OwnershipAck where
  instanceId : String
  token : String
  phase : Option OwnershipPhase
  success : Bool
deriving DecidableEq, Repr

namespace ControlNode

variable {β : Type}

/-- The message is newer than every accepted one, and neither old nor from the future. -/
def freshStamp (self : ControlNode β) (stamp nowNs : Int) : Bool :=
  decide (self.permitSourceStamp < stamp) && !outOfDate (nowNs - stamp)

/-- A grant is accepted for the key of the last accepted message only, and not once the handshake
is off (`:1098`). -/
def mayGrant (self : ControlNode β) (key : String) (phase : OwnershipPhase) : Bool :=
  !(phase == .grant && (key != self.ownershipKey || self.ownershipPhase == some .off))

/-- Sources that may be granted (`:1095`). -/
def grantable (phase : OwnershipPhase) (source : String) : Bool :=
  phase != .grant || source == "motion" || source == "vr"

def ownershipPermit (self : ControlNode β) (message : Header) (nowNs : Int) :
    Option OwnershipPermit :=
  let stamp := sourceStampNs message.stamp
  match getlines '#' message.frameId with
  | [key, phase, instanceId, _] =>
    if instanceId != self.ownershipInstance || !self.freshStamp stamp nowNs then none
    else match parsePhase phase, keyParts key with
      | some phase, [kind, _, _, _, source, _] =>
        if kind == "hc1" && grantable phase source && self.mayGrant key phase then
          some { key, phase, source, stamp }
        else none
      | _, _ => none
  | _ => none

/-- The checks of a legacy permit; `frame_id.substr(0, frame_id.find(':'))` is its mode. -/
def legacyPermit (self : ControlNode β) (message : Header) (nowNs : Int) : Option LegacyPermit :=
  let stamp := sourceStampNs message.stamp
  let mode := String.ofList (message.frameId.toList.takeWhile (· != ':'))
  if self.interventionActive || !self.freshStamp stamp nowNs || (mode != "vr" && mode != "motion") ||
      !message.frameId.toList.contains ':' then none
  else some { epoch := message.frameId, normal := mode == "motion", stamp }

/-! ## What accepted permits do -/

/-- The handshake moves on: another key or another phase (`:1099`). -/
def ownershipChanges (self : ControlNode β) (permit : OwnershipPermit) : Bool :=
  permit.key != self.ownershipKey || some permit.phase != self.ownershipPhase

/-- A handshake that moves on revokes publication before any SDK wait (`:1101`). -/
def beginOwnership (self : ControlNode β) (permit : OwnershipPermit) : ControlNode β :=
  { self with
    permitEnabled := false
    permitGeneration := self.permitGeneration + 1
    ownershipKey := permit.key
    ownershipPhase := some permit.phase
    ownershipAckKey := ""
    permitCutoffNs := permit.stamp }

/-- Every accepted handshake message is in force from now on (`:1109`). -/
def renewOwnership (self : ControlNode β) (permit : OwnershipPermit) (steadyNs : Int) :
    ControlNode β :=
  { self with
    permitSourceStamp := permit.stamp
    interventionActive := permit.phase != .off
    permitNormal := permit.source == "motion"
    permitReceived := steadyNs }

section
variable (B : Platform β)

/-- The pipeline follows (`:1115`). -/
def concludeOwnership (self : ControlNode β) (permit : OwnershipPermit) : ControlNode β :=
  let node := { self.setOutputPermit B false self.permitGeneration with latestServos := ∅ }
  let node := if permit.phase = .grant then
      { node.setOutputPermit B true node.permitGeneration with permitEnabled := true }
    else node
  { node with ownershipAckKey := permit.key, ownershipAckPhase := some permit.phase }

def acceptOwnership (self : ControlNode β) (permit : OwnershipPermit) (steadyNs : Int) :
    ControlNode β :=
  if self.ownershipChanges permit then
    ((self.beginOwnership permit).renewOwnership permit steadyNs).concludeOwnership B permit
  else self.renewOwnership permit steadyNs

def ownershipAck (self : ControlNode β) : OwnershipAck where
  instanceId := self.ownershipInstance
  token := self.ownershipAckKey
  phase := self.ownershipAckPhase
  success := self.ownershipAckPhase != some .grant || self.permitEnabled

/-- Another epoch, or one that has run out, begins afresh (`:440`). -/
def rearms (self : ControlNode β) (permit : LegacyPermit) : Bool :=
  self.permitEpoch != permit.epoch || !self.permitEnabled

/-- The permission and the pipeline are closed for a new generation (`:442`). -/
def rearm (self : ControlNode β) (permit : LegacyPermit) : ControlNode β :=
  { setOutputPermit B
      { self with permitEnabled := false, permitGeneration := self.permitGeneration + 1 } false
      (self.permitGeneration + 1) with
    permitEpoch := permit.epoch
    permitCutoffNs := permit.stamp }

def renewLegacy (self : ControlNode β) (permit : LegacyPermit) (steadyNs : Int) : ControlNode β :=
  { self with
    permitSourceStamp := permit.stamp, permitNormal := permit.normal, permitReceived := steadyNs }

def acceptLegacy (self : ControlNode β) (permit : LegacyPermit) (steadyNs : Int) : ControlNode β :=
  if self.rearms permit then
    let node := (self.rearm B permit).renewLegacy permit steadyNs
    { node.setOutputPermit B true node.permitGeneration with permitEnabled := true }
  else { self.renewLegacy permit steadyNs with permitEnabled := true }

/-! ## The callback and the expiry -/

/-- `frame_id.rfind("hc1:", 0) == 0`. -/
def isOwnership (message : Header) : Bool := "hc1:".toList.isPrefixOf message.frameId.toList

def receiveOwnershipPermit (self : ControlNode β) (message : Header) (nowNs steadyNs : Int) :
    Option OwnershipAck × ControlNode β :=
  match self.ownershipPermit message nowNs with
  | none => (none, self)
  | some permit =>
    let node := self.acceptOwnership B permit steadyNs
    (some node.ownershipAck, node)

def receivePermit (self : ControlNode β) (message : Header) (nowNs steadyNs : Int) :
    Option OwnershipAck × ControlNode β :=
  if isOwnership message then self.receiveOwnershipPermit B message nowNs steadyNs
  else match self.legacyPermit message nowNs with
    | none => (none, self)
    | some permit => (none, self.acceptLegacy B permit steadyNs)

/-- `steady_ns - permit_received_.load() > 300000000`. -/
def permitStale (self : ControlNode β) (steadyNs : Int) : Bool :=
  decide (300000000 < steadyNs - self.permitReceived)

def expirePermit (self : ControlNode β) (steadyNs : Int) : ControlNode β :=
  if self.permitStale steadyNs && self.permitEnabled then
    setOutputPermit B
      { self with permitEnabled := false, permitGeneration := self.permitGeneration + 1 } false
      (self.permitGeneration + 1)
  else self

end

end ControlNode

end HumanoidMotion
