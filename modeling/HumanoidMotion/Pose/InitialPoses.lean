import HumanoidMotion.Lib.ExactCover
import HumanoidMotion.Node.ControlNode
import HumanoidMotion.Pose.MoveJPose
import HumanoidMotion.Pose.PoseRuntime
import Mathlib.Data.String.Basic
import Mathlib.Data.Finset.Max
import Mathlib.Data.Finset.Sort
/-
# Named poses (`python/humanoid_motion_server/poses.py`, `channel_config.cpp`)

The node and the pose tools read one YAML list of channels. The node's loader
says which lists there are; the pose tools look into the items again.

| here | there |
| --- | --- |
| `YamlField`, `ChannelItem`  | an item of `channels`, as parsed |
| `loadChannelConfig`         | `load_channel_config` (`channel_config.cpp:127`) |
| `poseFromJointPositions`    | `pose_from_joint_positions` (`poses.py:11`) |
| `validateInitialPoses`      | `validate_initial_poses` (`:44`) |
| `resolveInitialPose`        | `resolve_initial_pose` (`:131`) |

A dictionary of the schema is a record, so the checks that a value is a
dictionary, a list or a number are its types. A channel's priority is what the
YAML library reads there, if it is an integer. An error that quotes numbers
carries them instead of a text.
-/

namespace HumanoidMotion

/-! ## Channels -/

/-- The node under a key: none, a scalar, or something else. -/
inductive YamlField where
  | absent
  | text (value : String)
  | other
deriving DecidableEq, Repr

structure ChannelItem where
  name : YamlField
  kind : YamlField
  endpoint : YamlField
  priority : Option Int := some 0
  group : YamlField := .absent
  baseFrame : YamlField := .absent
  tipFrame : YamlField := .absent
  fkPoseTopic : YamlField := .absent
  source : YamlField := .absent
deriving DecidableEq, Repr

/-- What the loader makes of an item. -/
structure LoadedChannel extends ChannelConfig where
  endpoint : String
  fkPoseTopic : String
  priority : Int
deriving DecidableEq, Repr

/-- `required_string`. -/
def requiredString (field : YamlField) (key context : String) : Except String String :=
  match field with
  | .text value =>
    if value.isEmpty then .error (context ++ "." ++ key ++ " must be a non-empty string") else .ok value
  | _ => .error (context ++ "." ++ key ++ " must be a non-empty string")

/-- `optional_string`. -/
def optionalString (field : YamlField) (key context : String) : Except String String :=
  match field with
  | .absent => .ok ""
  | .text value => .ok value
  | .other => .error (context ++ "." ++ key ++ " must be a string")

/-- `parse_kind`. -/
def parseKind (value context : String) : Except String MotionKind :=
  if value = "move_j" then .ok .moveJ
  else if value = "move_l" then .ok .moveL
  else if value = "move_p" then .ok .moveP
  else if value = "servo_j" then .ok .servoJ
  else if value = "servo_p" then .ok .servoP
  else .error (context ++ ".kind must be one of move_j, move_l, move_p, servo_j, servo_p")

def isCartesian : MotionKind → Bool
  | .moveL | .moveP | .servoP => true
  | _ => false

/-- `item["priority"].as<std::int64_t>()`. -/
def parsePriority (field : Option Int) (context : String) : Except String Int :=
  match field with
  | some priority => .ok priority
  | none => .error (context ++ ".priority must be an integer")

/-- `source`, `"motion"` where it is not given. -/
def readSource (field : YamlField) (context : String) : Except String String :=
  if field = .absent then .ok "motion" else requiredString field "source" context

/-- What the loader reads in one item, and the checks it makes there (`:151`–`:194`). -/
def readChannel (item : ChannelItem) (context : String) : Except String LoadedChannel := do
  let name ← requiredString item.name "name" context
  let kind ← parseKind (← requiredString item.kind "kind" context) context
  let endpoint ← requiredString item.endpoint "endpoint" context
  let group ← optionalString item.group "group" context
  let baseFrame ← optionalString item.baseFrame "base_frame" context
  let tipFrame ← optionalString item.tipFrame "tip_frame" context
  let fkPoseTopic ← optionalString item.fkPoseTopic "fk_pose_topic" context
  let source ← readSource item.source context
  if source ≠ "motion" ∧ source ≠ "vr" then .error (context ++ ".source must be motion or vr")
  else if source = "vr" ∧ ¬ endpoint.startsWith "/internal/vr/" then
    .error "VR channels require a separate /internal/vr/ endpoint"
  else do
    let priority ← parsePriority item.priority context
    if isServo kind && group.isEmpty then
      .error (context ++ ".group is required for Servo channels")
    else if isCartesian kind && (baseFrame.isEmpty || tipFrame.isEmpty) then
      .error (context ++ ".base_frame and tip_frame are required for Cartesian channels")
    else if !fkPoseTopic.isEmpty && (!isCartesian kind || group.isEmpty) then
      .error (context ++ ".fk_pose_topic requires a Cartesian channel with a group")
    else .ok { name, kind, group, baseFrame, tipFrame, source, endpoint, fkPoseTopic, priority }

/-- One turn of the loop: the item, then whether its names are new. -/
def loadChannel (loaded : List LoadedChannel) (item : ChannelItem × Nat) :
    Except String (List LoadedChannel) := do
  let channel ← readChannel item.1 ("channels[" ++ toString item.2 ++ "]")
  if loaded.any (·.name == channel.name) then
    .error ("duplicate channel name '" ++ channel.name ++ "'")
  else if loaded.any (·.endpoint == channel.endpoint) then
    .error ("duplicate channel endpoint '" ++ channel.endpoint ++ "'")
  else if !channel.fkPoseTopic.isEmpty && loaded.any (·.fkPoseTopic == channel.fkPoseTopic) then
    .error ("duplicate FK pose topic '" ++ channel.fkPoseTopic ++ "'")
  else .ok (loaded ++ [channel])

def loadChannelConfig (items : List ChannelItem) : Except String (List LoadedChannel) :=
  if items.isEmpty then .error "channel config root.channels must be a non-empty sequence"
  else items.zipIdx.foldlM loadChannel []

/-! ## Resources and poses -/

/-- `document["resources"]`: the channels and the motion parameters of the groups. -/
structure PoseResources where
  channels : List ChannelItem
  groups : StringMap (List String)
  groupLowerLimits : StringMap (List Rat)
  groupUpperLimits : StringMap (List Rat)

structure RawTarget where
  channel : String
  positionsRad : List Double
deriving DecidableEq, Repr

/-- The four numbers of a pose, where they are given. -/
structure PoseOptions where
  velocityScale : Option Double := none
  accelerationScale : Option Double := none
  jerkScale : Option Double := none
  timeoutSec : Option Double := none
deriving DecidableEq, Repr

structure RawPose where
  id : String
  name : String
  targets : List RawTarget
  options : PoseOptions := {}
deriving DecidableEq, Repr

structure PoseTarget where
  channel : String
  positionsRad : List Rat
deriving DecidableEq, Repr

/-- A pose that was validated. -/
structure NamedPose where
  id : String
  name : String
  targets : List PoseTarget
  velocityScale : Rat
  accelerationScale : Rat
  jerkScale : Rat
  timeoutSec : Rat
deriving DecidableEq, Repr

def PoseTarget.raw (target : PoseTarget) : RawTarget :=
  ⟨target.channel, target.positionsRad.map .fin⟩

/-- The pose as it stands in a document. -/
def NamedPose.raw (pose : NamedPose) : RawPose where
  id := pose.id
  name := pose.name
  targets := pose.targets.map PoseTarget.raw
  options := ⟨some (.fin pose.velocityScale), some (.fin pose.accelerationScale),
    some (.fin pose.jerkScale), some (.fin pose.timeoutSec)⟩

/-- The texts of `PoseConfigurationError`, with what they quote. -/
inductive PoseConfigurationError where
  /-- 初始姿态必须是列表，且最多 32 个 -/
  | tooMany
  /-- 初始姿态 ID 需以小写字母开头，只允许小写字母、数字和下划线 -/
  | badId
  /-- 初始姿态 ID 重复 -/
  | duplicateId (id : String)
  /-- 初始姿态名称需为 1–100 个字符 -/
  | badName (id : String)
  /-- 必须在 0–1（不含 0）范围内, or 0–600 秒 -/
  | badNumber (id key : String)
  /-- 至少需要一个初始姿态目标，最多 16 个 -/
  | badTargets (id : String)
  /-- 不是带关节组的 MoveJ 通道 -/
  | notMoveJ (id channel : String)
  /-- MoveJ 通道重复 -/
  | duplicateChannel (id channel : String)
  /-- 的关节组或限位不完整 -/
  | incompleteGroup (id channel : String)
  /-- 多个目标包含相同关节 -/
  | overlap (id : String) (joints : List String)
  /-- 需要 n 个关节位置 -/
  | positionCount (id group : String) (count : Nat)
  /-- 初始位置必须是有限数值 -/
  | notFinite (id joint : String)
  /-- 超出限位 -/
  | outsideLimits (id joint : String) (position low high : Rat)
  /-- 初始姿态不存在 -/
  | unknownPose
deriving DecidableEq, Repr

/-- What the functions raise. -/
inductive PoseRaise where
  /-- `KeyError`. -/
  | keyError (key : String)
  /-- Pose requires disjoint MoveJ channels covering all requested joints -/
  | notCovered
  | configuration (error : PoseConfigurationError)
deriving DecidableEq, Repr

/-! ## `validate_initial_poses` -/

/-- `re.fullmatch(r"[a-z][a-z0-9_]{0,63}", ident)`. -/
def isIdentifier (ident : String) : Bool :=
  match ident.toList with
  | [] => false
  | first :: rest =>
    first.isLower && decide (rest.length ≤ 63) &&
      rest.all fun c => c.isLower || c.isDigit || c == '_'

/-- `str.isspace`, of one character. -/
def isSpace (c : Char) : Bool :=
  let n := c.toNat
  (decide (9 ≤ n) && decide (n ≤ 13)) || (decide (28 ≤ n) && decide (n ≤ 32)) ||
    n == 0x85 || n == 0xa0 || n == 0x1680 || (decide (0x2000 ≤ n) && decide (n ≤ 0x200a)) ||
    n == 0x2028 || n == 0x2029 || n == 0x202f || n == 0x205f || n == 0x3000

def stripList (chars : List Char) : List Char :=
  ((chars.dropWhile isSpace).reverse.dropWhile isSpace).reverse

/-- `str.strip`. -/
def strip (name : String) : String := String.ofList (stripList name.toList)

def checkName (ident name : String) : Except PoseConfigurationError String :=
  if (strip name).isEmpty || decide (100 < name.length) then .error (.badName ident)
  else .ok (strip name)

/-- One turn of the loop over `defaults`. -/
def checkNumber (ident key : String) (default upper : Rat) (number : Option Double) :
    Except PoseConfigurationError Rat :=
  match number.getD (.fin default) with
  | .fin q => if 0 < q ∧ q ≤ upper then .ok q else .error (.badNumber ident key)
  | .nonFinite => .error (.badNumber ident key)

/-- `channel.get("group")`, where it is not empty. -/
def namedGroup (channel : ChannelItem) : Option String :=
  match channel.group with
  | .text group => if group.isEmpty then none else some group
  | _ => none

def noteChannel (map : StringMap ChannelItem) (channel : ChannelItem) : StringMap ChannelItem :=
  match channel.name with
  | .text name => map.insert name channel
  | _ => map

/-- `channel_map`: a later channel of the same name wins. -/
def channelMap (channels : List ChannelItem) : StringMap ChannelItem := channels.foldl noteChannel ∅

/-- One turn of the loop over a target's joints. -/
def checkPosition (ident : String) (joint : String × Double × Rat × Rat) :
    Except PoseConfigurationError Rat :=
  match joint with
  | (name, .fin position, low, high) =>
    if position < low ∨ high < position then .error (.outsideLimits ident name position low high)
    else .ok position
  | (name, .nonFinite, _, _) => .error (.notFinite ident name)

structure TargetState where
  targets : List PoseTarget := []
  usedChannels : List String := []
  usedJoints : Finset String := ∅

/-- One turn of the loop over the targets. -/
def noteTarget (resources : PoseResources) (ident : String) (state : TargetState)
    (raw : RawTarget) : Except PoseConfigurationError TargetState :=
  match ((channelMap resources.channels)[raw.channel]?).filter (·.kind = .text "move_j") with
  | none => .error (.notMoveJ ident raw.channel)
  | some channel =>
    match namedGroup channel with
    | none => .error (.notMoveJ ident raw.channel)
    | some group =>
      if state.usedChannels.contains raw.channel then
        .error (.duplicateChannel ident raw.channel)
      else
        match resources.groups[group]?, resources.groupLowerLimits[group]?,
            resources.groupUpperLimits[group]? with
        | some joints, some lower, some upper =>
          if joints.length ≠ lower.length ∨ lower.length ≠ upper.length ∨ joints = [] then
            .error (.incompleteGroup ident raw.channel)
          else
            let overlap := state.usedJoints ∩ joints.toFinset
            if overlap ≠ ∅ then .error (.overlap ident (overlap.sort (· ≤ ·)))
            else if raw.positionsRad.length ≠ joints.length then
              .error (.positionCount ident group joints.length)
            else
              match (joints.zip (raw.positionsRad.zip (lower.zip upper))).mapM
                  (checkPosition ident) with
              | .error error => .error error
              | .ok positions => .ok
                { targets := state.targets ++ [⟨raw.channel, positions⟩]
                  usedChannels := raw.channel :: state.usedChannels
                  usedJoints := state.usedJoints ∪ joints.toFinset }
        | _, _, _ => .error (.incompleteGroup ident raw.channel)

def validateTargets (resources : PoseResources) (ident : String) (targets : List RawTarget) :
    Except PoseConfigurationError (List PoseTarget) :=
  if targets.isEmpty || decide (16 < targets.length) then .error (.badTargets ident)
  else match targets.foldlM (noteTarget resources ident) {} with
    | .error error => .error error
    | .ok state => .ok state.targets

/-- One turn of the loop over the poses. -/
def validatePose (resources : PoseResources) (identifiers : List String) (raw : RawPose) :
    Except PoseConfigurationError NamedPose := do
  let id := raw.id
  if !isIdentifier id then .error .badId
  else if identifiers.contains id then .error (.duplicateId id)
  else do
    let name ← checkName id raw.name
    let velocityScale ← checkNumber id "velocity_scale" (15 / 100) 1 raw.options.velocityScale
    let accelerationScale ←
      checkNumber id "acceleration_scale" (15 / 100) 1 raw.options.accelerationScale
    let jerkScale ← checkNumber id "jerk_scale" (15 / 100) 1 raw.options.jerkScale
    let timeoutSec ← checkNumber id "timeout_sec" 60 600 raw.options.timeoutSec
    let targets ← validateTargets resources id raw.targets
    return { id, name, targets, velocityScale, accelerationScale, jerkScale, timeoutSec }

def notePose (resources : PoseResources) (result : List NamedPose) (raw : RawPose) :
    Except PoseConfigurationError (List NamedPose) := do
  let pose ← validatePose resources (result.map (·.id)) raw
  return result ++ [pose]

def validateInitialPoses (value : List RawPose) (resources : PoseResources) :
    Except PoseConfigurationError (List NamedPose) :=
  if 32 < value.length then .error .tooMany
  else value.foldlM (notePose resources) []

/-! ## `pose_from_joint_positions` -/

/-- The keys of `positions`. -/
def jointSet (positions : StringMap Double) : Finset String := positions.keys.toFinset

abbrev Candidate := Finset String × RawTarget

/-- One turn of the loop over the channels: the candidates, and the sets that were seen. -/
def noteCandidate (resources : PoseResources) (positions : StringMap Double)
    (candidates : List Candidate) (channel : ChannelItem) : Except PoseRaise (List Candidate) :=
  if channel.kind = .absent then .error (.keyError "kind")
  else if channel.kind ≠ .text "move_j" then .ok candidates
  else match channel.group with
    | .text group =>
      match resources.groups[group]? with
      | none => .error (.keyError ("groups." ++ group))
      | some names =>
        let key := names.toFinset
        if key ≠ ∅ ∧ key ⊆ jointSet positions ∧ key ∉ candidates.map Prod.fst then
          match channel.name with
          | .text name => .ok (candidates ++
              [(key, ⟨name, names.map fun n => (positions[n]?).getD 0⟩)])
          | _ => .error (.keyError "name")
        else .ok candidates
    -- `channel['group']`, without a default
    | _ => .error (.keyError "group")

/-- `min(remaining)`. -/
def minJoint (remaining : Finset String) : String :=
  if h : remaining.Nonempty then remaining.min' h else ""

def poseFromJointPositions (resources : PoseResources) (positions : StringMap Double)
    (poseId name : String) (options : PoseOptions) : Except PoseRaise NamedPose :=
  match resources.channels.foldlM (noteCandidate resources positions) [] with
  | .error error => .error error
  | .ok candidates =>
    let candidates := candidates.mergeSort fun a b => decide (b.1.card ≤ a.1.card)
    match ExactCover.cover minJoint candidates (jointSet positions) with
    | none | some [] => .error .notCovered
    | some targets =>
      match validateInitialPoses [{ id := poseId, name, targets, options }] resources with
      | .error error => .error (.configuration error)
      | .ok [] => .error (.keyError "0")
      | .ok (pose :: _) => .ok pose

/-! ## `resolve_initial_pose` -/

structure PoseDocument where
  initialPoses : List RawPose
  resources : PoseResources

/-- The goal of one target (`:142`). -/
def poseGoal (resources : PoseResources) (pose : NamedPose) (target : PoseTarget) :
    Except PoseRaise PoseGoal :=
  match (channelMap resources.channels)[target.channel]? with
  | none => .error (.keyError target.channel)
  | some channel =>
    match channel.group, channel.endpoint with
    | .text group, .text endpoint =>
      match resources.groups[group]? with
      | none => .error (.keyError ("groups." ++ group))
      | some joints => .ok
        { channel := target.channel
          endpoint
          group
          jointNames := joints
          positionsRad := target.positionsRad
          velocityScale := pose.velocityScale
          accelerationScale := pose.accelerationScale
          jerkScale := pose.jerkScale
          timeoutSec := pose.timeoutSec }
    | .text _, _ => .error (.keyError "endpoint")
    | _, _ => .error (.keyError "group")

def resolveInitialPose (document : PoseDocument) (poseId : String) : Except PoseRaise ResolvedPose :=
  match validateInitialPoses document.initialPoses document.resources with
  | .error error => .error (.configuration error)
  | .ok poses =>
    match poses.find? (·.id == poseId) with
    | none => .error (.configuration .unknownPose)
    | some pose => do
      let goals ← pose.targets.mapM (poseGoal document.resources pose)
      return ⟨pose.id, pose.name, goals⟩

end HumanoidMotion
