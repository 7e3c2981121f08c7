import Mathlib.Algebra.Order.Field.Basic
import HumanoidMotion.Node.PublicJointMapping
/-
# Measured frames (`tf/tf_runtime.cpp`)

| here | there |
| --- | --- |
| `Segment`, `Forest`, `SegmentTree` | the segments of a `KDL::Tree` with their children, in order |
| `ToolFrame`          | an entry of `tool_frames_` |
| `measuredPositions`  | the map of `publishFeedback` (`:102`) |
| `collectSegments`    | `TfRuntime::collectSegments` (`:185`), its dynamic segments |
| `collectFramePoses`  | `TfRuntime::collectFramePoses` (`:203`); its answer is always `true` |
| `addTools`           | the loop over the tools (`:129`) |
| `publishFeedback`    | `TfRuntime::publishFeedback` (`:97`), with the transforms it broadcasts |
| `transformPose`      | `TfRuntime::transformPose` (`:140`); `output` and `error` are passed on |

`F` is the type of `KDL::Frame`, with `operator*` and `Inverse()`. `Kdl` has what else the code
takes from KDL and from `<cmath>`, over numbers `K`, with what it relies on.
-/

namespace HumanoidMotion

/-! ## The tree and the tools -/

/-- A segment with its joint; `pose` is `KDL::Segment::pose`. -/
structure Segment (F : Type) where
  name : String
  joint : String
  /-- `getType() == KDL::Joint::None`. -/
  fixed : Bool
  pose : Double → F

/-- The children of a segment, each with its own children. -/
inductive Forest (F : Type) where
  | nil
  | cons (segment : Segment F) (children siblings : Forest F)

def Forest.names {F : Type} : Forest F → List String
  | .nil => []
  | .cons segment children siblings => segment.name :: (children.names ++ siblings.names)

/-- A tree keeps its segments in a map by name, so no two have one name. -/
structure SegmentTree (F : Type) where
  root : String
  children : Forest F
  distinct : (root :: children.names).Nodup

structure ToolFrame (F : Type) where
  parent : String
  child : String
  frame : F

structure TfRuntime (F : Type) where
  tree : SegmentTree F
  toolFrames : List (ToolFrame F)
  framePoses : StringMap F := ∅

section
variable {F : Type}

/-! ## `publishFeedback` -/

/-- The first position of every joint. -/
def measuredPositions (feedback : JointState) : StringMap Double :=
  (feedback.name.zip feedback.position).foldl (fun positions joint =>
    positions.insertIfNew joint.1 joint.2) ∅

/-- The position to take a segment at: `0.0` behind a fixed joint. -/
def Segment.position (segment : Segment F) (positions : StringMap Double) : Option Double :=
  if segment.fixed then some 0 else positions[segment.joint]?

/-- The segments behind movable joints, with the names of their parents. -/
def collectSegments (parent : String) : Forest F → List (String × Segment F)
  | .nil => []
  | .cons segment children siblings =>
    (if segment.fixed then [] else [(parent, segment)]) ++
      (collectSegments segment.name children ++ collectSegments parent siblings)

/-- The transforms that are broadcast: parent, child and frame. -/
def measuredTransforms (tree : SegmentTree F) (positions : StringMap Double) : List (String × String × F) :=
  (collectSegments tree.root tree.children).filterMap fun entry =>
    (positions[entry.2.joint]?).map fun position =>
      (entry.1, entry.2.name, entry.2.pose position)

variable [Mul F]

def collectFramePoses (positions : StringMap Double) : Forest F → F → StringMap F → StringMap F
  | .nil, _, framePoses => framePoses
  | .cons segment children siblings, parentPose, framePoses =>
    match segment.position positions with
    | none => collectFramePoses positions siblings parentPose framePoses
    | some position =>
      let pose := parentPose * segment.pose position
      collectFramePoses positions siblings parentPose
        (collectFramePoses positions children pose (framePoses.insert segment.name pose))

def addTool (poses : StringMap F) (tool : ToolFrame F) : StringMap F :=
  match poses[tool.parent]? with
  | none => poses
  | some parentPose => poses.insert tool.child (parentPose * tool.frame)

def addTools (poses : StringMap F) (tools : List (ToolFrame F)) : StringMap F := tools.foldl addTool poses

variable [One F]

/-- The poses of the root and of the measured segments. -/
def segmentPoses (tree : SegmentTree F) (positions : StringMap Double) : StringMap F :=
  collectFramePoses positions tree.children 1 ((∅ : StringMap F).insertIfNew tree.root 1)

def TfRuntime.publishFeedback (self : TfRuntime F) (feedback : JointState) :
    List (String × String × F) × TfRuntime F :=
  if feedback.name.length ≠ feedback.position.length then ([], self)
  else
    let positions := measuredPositions feedback
    (measuredTransforms self.tree positions,
      { self with framePoses := addTools (segmentPoses self.tree positions) self.toolFrames })

end

/-! ## `transformPose` -/

section
variable {K F : Type} [Field K] [LinearOrder K]

/-- `geometry_msgs::msg::PoseStamped`; the orientation is `x, y, z, w`. -/
structure PoseStamped (K : Type) where
  frameId : String
  stamp : Int := 0
  position : Vector K 3
  orientation : Vector K 4

/-- The sum of the squares. -/
def squaredNorm (q : Vector K 4) : K :=
  q.get 0 * q.get 0 + q.get 1 * q.get 1 + q.get 2 * q.get 2 + q.get 3 * q.get 3

/-- `KDL::Frame` of a quaternion and a vector, and back. A frame reads as a quaternion of unit length,
which is one of the two of its rotation. -/
structure Kdl (K F : Type) [Field K] [LinearOrder K] where
  isfinite : K → Bool
  sqrt : K → K
  frame : Vector K 4 → Vector K 3 → F
  position : F → Vector K 3
  quaternion : F → Vector K 4
  sqrt_nonneg : ∀ x, 0 ≤ x → 0 ≤ sqrt x
  sqrt_mul_self : ∀ x, 0 ≤ x → sqrt x * sqrt x = x
  isfinite_one : isfinite 1 = true
  isfinite_position : ∀ f, (position f).toList.all isfinite = true
  squaredNorm_quaternion : ∀ f, squaredNorm (quaternion f) = 1
  frame_read : ∀ f, frame (quaternion f) (position f) = f
  position_frame : ∀ q p, squaredNorm q = 1 → position (frame q p) = p
  quaternion_frame : ∀ q p, squaredNorm q = 1 →
    quaternion (frame q p) = q ∨ quaternion (frame q p) = q.map (- ·)

variable (kdl : Kdl K F)

def Kdl.norm (q : Vector K 4) : K := kdl.sqrt (squaredNorm q)

def Kdl.normalized (q : Vector K 4) : Vector K 4 := q.map (· / kdl.norm q)

/-- The pose has finite numbers and a quaternion that can be normalised (`:149`). -/
def Kdl.accepts (pose : PoseStamped K) : Bool :=
  pose.position.toList.all kdl.isfinite && kdl.isfinite (kdl.norm pose.orientation) &&
    !decide (kdl.norm pose.orientation < 1 / 10 ^ 9)

/-- `source_pose` (`:155`). -/
def Kdl.sourcePose (pose : PoseStamped K) : F :=
  kdl.frame (kdl.normalized pose.orientation) pose.position

/-- The answer: `output` and `error` as they are after the call. -/
structure Transformed (K : Type) where
  ok : Bool
  output : PoseStamped K
  error : String

def emptyFrames : String := "pose source and target frames must be non-empty"

def badPose : String := "pose contains a non-finite value or non-normalizable quaternion"

def unavailable (source target : String) : String :=
  "measured transform from '" ++ source ++ "' to '" ++ target ++ "' is unavailable"

/-- The input's header with the target frame, and the pose. -/
def Kdl.poseOf (input : PoseStamped K) (target : String) (transformed : F) : PoseStamped K :=
  { input with
    frameId := target
    position := kdl.position transformed
    orientation := kdl.quaternion transformed }

def TfRuntime.transformPose [Group F] (self : TfRuntime F) (input : PoseStamped K) (target : String)
    (output : PoseStamped K) (error : String) : Transformed K :=
  if input.frameId.isEmpty || target.isEmpty then ⟨false, output, emptyFrames⟩
  else if !kdl.accepts input then ⟨false, output, badPose⟩
  else if input.frameId = target then
    ⟨true, kdl.poseOf input target (kdl.sourcePose input), error⟩
  else match self.framePoses[input.frameId]?, self.framePoses[target]? with
    | some source, some destination =>
      ⟨true, kdl.poseOf input target (destination⁻¹ * source * kdl.sourcePose input), error⟩
    | _, _ => ⟨false, output, unavailable input.frameId target⟩

end

end HumanoidMotion
