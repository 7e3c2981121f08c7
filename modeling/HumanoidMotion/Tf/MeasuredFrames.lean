import Mathlib.Algebra.Group.MinimalAxioms
import Mathlib.Analysis.Real.Sqrt
import Mathlib.Tactic.Group
import Mathlib.Tactic.IntervalCases
import Mathlib.Tactic.LinearCombination
import Mathlib.Tactic.Linarith
import Mathlib.Tactic.Positivity
import Mathlib.Tactic.Ring
import HumanoidMotion.Simulation.Viewer
import HumanoidMotion.Tf.FrameTable
/-
# The measured frames, as they are used

* `transform_back` — a pose is the same after the way there and back.
* `measured_frames` — the table of a sample is right exactly if the tools are in order.
-/

namespace HumanoidMotion

/-! ## There and back -/

section
variable {F K : Type} [Field K] [LinearOrder K] [IsStrictOrderedRing K] (kdl : Kdl K F)

theorem squaredNorm_nonneg (q : Vector K 4) : 0 ≤ squaredNorm q := by
  unfold squaredNorm
  have h := fun x : K => mul_self_nonneg x
  exact add_nonneg (add_nonneg (add_nonneg (h _) (h _)) (h _)) (h _)

theorem Kdl.sqrt_one : kdl.sqrt 1 = 1 := by
  have hsquare := kdl.sqrt_mul_self 1 zero_le_one
  have hpos := kdl.sqrt_nonneg 1 zero_le_one
  nlinarith [mul_self_nonneg (kdl.sqrt 1 - 1)]

theorem squaredNorm_div (q : Vector K 4) (c : K) :
    squaredNorm (q.map (· / c)) = squaredNorm q / (c * c) := by
  have hget : ∀ i, (q.map (· / c)).get i = q.get i / c := fun i => Vector.getElem_map (· / c) i.2
  simp only [squaredNorm, hget]
  ring

variable {kdl}

/-- A quaternion that the check lets through is normalised to unit length. -/
theorem Kdl.squaredNorm_normalized {input : PoseStamped K} (h : kdl.accepts input = true) :
    squaredNorm (kdl.normalized input.orientation) = 1 := by
  have hpos : (0 : K) < kdl.norm input.orientation := by
    simp only [Kdl.accepts, Bool.and_eq_true, Bool.not_eq_true', decide_eq_false_iff_not, not_lt] at h
    exact lt_of_lt_of_le (by positivity) h.2
  unfold Kdl.normalized
  rw [squaredNorm_div, Kdl.norm, kdl.sqrt_mul_self _ (squaredNorm_nonneg _)]
  refine div_self fun hzero => ?_
  rw [Kdl.norm, hzero] at hpos
  have hsqrt := kdl.sqrt_mul_self 0 le_rfl
  exact absurd (mul_self_eq_zero.1 hsqrt) hpos.ne'

/-- What a frame reads as is accepted, and is that frame again. -/
theorem Kdl.accepts_poseOf (kdl : Kdl K F) (input : PoseStamped K) (target : String) (f : F) :
    kdl.accepts (kdl.poseOf input target f) = true ∧
      kdl.sourcePose (kdl.poseOf input target f) = f := by
  have hnorm : kdl.norm (kdl.quaternion f) = 1 := by
    rw [Kdl.norm, kdl.squaredNorm_quaternion, kdl.sqrt_one]
  constructor
  · have hlarge : ((10 : K) ^ 9)⁻¹ ≤ 1 := by norm_num
    simp [Kdl.accepts, Kdl.poseOf, kdl.isfinite_position, hnorm, kdl.isfinite_one, hlarge]
  · have hsame : kdl.normalized (kdl.quaternion f) = kdl.quaternion f := by
      rw [Kdl.normalized, hnorm]
      simp
    rw [Kdl.sourcePose, Kdl.poseOf]
    dsimp only
    rw [hsame, kdl.frame_read]

variable {input : PoseStamped K} {target : String} [Group F] {self : TfRuntime F}

omit [IsStrictOrderedRing K] in
/-- A pose from one frame to another, both in the table. -/
theorem transformPose_measured (hname : input.frameId ≠ "") (hne : input.frameId ≠ target)
    (htarget : target ≠ "") (haccepts : kdl.accepts input = true) {source destination : F}
    (hsource : self.framePoses[input.frameId]? = some source)
    (hdestination : self.framePoses[target]? = some destination) (output : PoseStamped K)
    (error : String) : self.transformPose kdl input target output error =
      ⟨true, kdl.poseOf input target (destination⁻¹ * source * kdl.sourcePose input), error⟩ := by
  simp [TfRuntime.transformPose, hname, htarget, haccepts, hne, hsource, hdestination]

/-- The pose is the one that was sent, its quaternion normalised: one of the two of its rotation. -/
structure Restored (kdl : Kdl K F) (input back : PoseStamped K) : Prop where
  frameId : back.frameId = input.frameId
  stamp : back.stamp = input.stamp
  position : back.position = input.position
  orientation : back.orientation = kdl.normalized input.orientation ∨
    back.orientation = (kdl.normalized input.orientation).map (- ·)

theorem transform_back (hname : input.frameId ≠ "") (htarget : target ≠ "")
    (hne : input.frameId ≠ target) (haccepts : kdl.accepts input = true) {source destination : F}
    (hsource : self.framePoses[input.frameId]? = some source)
    (hdestination : self.framePoses[target]? = some destination) (output : PoseStamped K)
    (error : String) :
    (self.transformPose kdl input target output error).ok = true ∧
      let there := (self.transformPose kdl input target output error).output
      (self.transformPose kdl there input.frameId output error).ok = true ∧
        Restored kdl input (self.transformPose kdl there input.frameId output error).output := by
  rw [transformPose_measured hname hne htarget haccepts hsource hdestination]
  refine ⟨rfl, ?_⟩
  obtain ⟨haccepts', hsame⟩ := kdl.accepts_poseOf input target
    (destination⁻¹ * source * kdl.sourcePose input)
  intro there
  have hback : self.transformPose kdl there input.frameId output error = ⟨true,
      kdl.poseOf there input.frameId (source⁻¹ * destination * kdl.sourcePose there), error⟩ :=
    transformPose_measured htarget (Ne.symm hne) hname haccepts' hdestination hsource output error
  have hpose : source⁻¹ * destination * kdl.sourcePose there = kdl.sourcePose input := by
    rw [hsame]
    group
  rw [hback, hpose]
  have hunit := Kdl.squaredNorm_normalized haccepts
  exact ⟨rfl, ⟨rfl, rfl, kdl.position_frame _ _ hunit, kdl.quaternion_frame _ _ hunit⟩⟩

omit [IsStrictOrderedRing K] in
theorem transformPose_missing (hne : input.frameId ≠ target)
    (hmissing : self.framePoses[input.frameId]? = none ∨ self.framePoses[target]? = none)
    (output : PoseStamped K) (error : String) :
    (self.transformPose kdl input target output error).ok = false ∧
      (self.transformPose kdl input target output error).output = output := by
  unfold TfRuntime.transformPose
  split
  · exact ⟨rfl, rfl⟩
  · split
    · exact ⟨rfl, rfl⟩
    · split
      · rename_i source destination hsource hdestination
        rw [hsource, hdestination] at hmissing
        simp at hmissing
      · exact ⟨rfl, rfl⟩

end

/-! ## The table and its use -/

/-- After a sample of any tree and any tools with names of their own: the table has exactly the frames
that can be placed, where the sample puts them, and what the viewer finds, and a pose comes back from
every other frame of the table or is refused, exactly if no tool that can be placed is listed before
the one it hangs on. -/
theorem measured_frames {F K : Type} [Group F] [Field K] [LinearOrder K] [IsStrictOrderedRing K]
    (kdl : Kdl K F) (tree : SegmentTree F) (tools : List (ToolFrame F)) (hnames : ToolNames tree tools)
    (framePoses : StringMap F) (feedback : JointState)
    (hlength : feedback.name.length = feedback.position.length) :
    let self := ((⟨tree, tools, framePoses⟩ : TfRuntime F).publishFeedback feedback).2
    let positions := measuredPositions feedback
    let viewer := MeshcatNode.create (segmentPoses tree positions) tools
    ((∀ name pose, self.framePoses[name]? = some pose ↔ FramePose tree tools positions name pose) ∧
        (∀ name pose, self.framePoses[name]? = some pose ↔ viewer.frameTransform name [] = .ok pose) ∧
        ∀ (input : PoseStamped K) (target : String) (output : PoseStamped K) (error : String),
          input.frameId ≠ target →
          let there := self.transformPose kdl input target output error
          let back := self.transformPose kdl there.output input.frameId output error
          (input.frameId ≠ "" → target ≠ "" → kdl.accepts input = true →
            input.frameId ∈ self.framePoses ∧ target ∈ self.framePoses →
            there.ok = true ∧ back.ok = true ∧ Restored kdl input back.output) ∧
          (input.frameId ∉ self.framePoses ∨ target ∉ self.framePoses →
            there.ok = false ∧ there.output = output)) ↔
      ToolsInOrder tree tools positions := by
  intro self positions viewer
  have htable : self.framePoses = addTools (segmentPoses tree positions) tools := by
    simp only [self, TfRuntime.publishFeedback, hlength, ne_eq, not_true_eq_false, if_false, positions]
  constructor
  · rintro ⟨hframes, -⟩
    rw [htable] at hframes
    exact (table_iff hnames).1 hframes
  · intro horder
    have hframes : ∀ name pose, self.framePoses[name]? = some pose ↔
        FramePose tree tools positions name pose := by
      rw [htable]
      exact (table_iff hnames).2 horder
    refine ⟨hframes, fun name pose => ?_, ?_⟩
    · rw [hframes, framePose_iff hnames, MeshcatNode.frameTransform_iff,
        MeshcatNode.create_link hnames.distinct]
      rfl
    · intro input target output error hne there back
      constructor
      · rintro hname htarget haccepts ⟨hsource, hdestination⟩
        obtain ⟨source, hsource⟩ := Option.isSome_iff_exists.1
          (Std.TreeMap.mem_iff_isSome_getElem?.1 hsource)
        obtain ⟨destination, hdestination⟩ := Option.isSome_iff_exists.1
          (Std.TreeMap.mem_iff_isSome_getElem?.1 hdestination)
        exact transform_back hname htarget hne haccepts hsource hdestination output error
      · intro hmissing
        refine transformPose_missing hne ?_ output error
        exact hmissing.imp (Std.TreeMap.getElem?_eq_none) (Std.TreeMap.getElem?_eq_none)

namespace Fixture

/-- A base with one link fixed to it. -/
def armTree (F : Type) [One F] : SegmentTree F where
  root := "base_link"
  children := .cons ⟨"wrist", "wrist_joint", true, fun _ => 1⟩ .nil .nil
  distinct := by simp [Forest.names]

/-- A mount on the wrist. -/
def mount {F : Type} (frame : F) : ToolFrame F := ⟨"wrist", "mount", frame⟩

/-- A camera on the mount. -/
def camera {F : Type} (frame : F) : ToolFrame F := ⟨"mount", "camera", frame⟩

theorem camera_names {F : Type} [One F] (f g : F) : ToolNames (armTree F) [camera f, mount g] := by
  constructor
  · simp [camera, mount]
  · simp [camera, mount, armTree, Forest.names]

/-- A base with one link behind a joint that moves. -/
def movedTree {F : Type} (pose : Double → F) : SegmentTree F where
  root := "base_link"
  children := .cons ⟨"wrist", "wrist_joint", false, pose⟩ .nil .nil
  distinct := by simp [Forest.names]

theorem mount_names {F : Type} (pose : Double → F) (f g : F) :
    ToolNames (movedTree pose) [mount f, camera g] := by
  constructor
  · simp [camera, mount]
  · simp [camera, mount, movedTree, Forest.names]

/-- Frames that move along one axis only. -/
abbrev Slide := Multiplicative Int

def slide (n : Int) : Slide := Multiplicative.ofAdd n

end Fixture

open Fixture in
/-- A camera that is listed before its mount has a place, and the viewer finds it, but the table has
no pose of it. -/
theorem measured_frames_camera :
    let tools := [camera (slide 2), mount (slide 1)]
    let self := ((⟨armTree Slide, tools, ∅⟩ : TfRuntime Slide).publishFeedback {}).2
    let viewer := MeshcatNode.create (segmentPoses (armTree Slide) (measuredPositions {})) tools
    ToolNames (armTree Slide) tools ∧
      FramePose (armTree Slide) tools (measuredPositions {}) "camera" (slide 1 * slide 2) ∧
      viewer.frameTransform "camera" [] = .ok (slide 1 * slide 2) ∧
      self.framePoses["camera"]? = none := by
  intro tools self viewer
  have hnames : ToolNames (armTree Slide) tools := camera_names _ _
  have hwrist : FramePose (armTree Slide) tools (measuredPositions {}) "wrist" 1 :=
    .segment "wrist" 1 (.here ⟨"wrist", "wrist_joint", true, fun _ => 1⟩ .nil .nil 1 0 rfl)
  have hmount : FramePose (armTree Slide) tools (measuredPositions {}) "mount" (slide 1) :=
    .tool (mount (slide 1)) 1 (by simp [tools]) hwrist
  have hcamera : FramePose (armTree Slide) tools (measuredPositions {}) "camera"
      (slide 1 * slide 2) := .tool (camera (slide 2)) (slide 1) (by simp [tools]) hmount
  refine ⟨hnames, hcamera, ?_, by decide⟩
  rw [MeshcatNode.frameTransform_iff, MeshcatNode.create_link hnames.distinct]
  exact (framePose_iff hnames).1 hcamera

namespace Fixture

/-- A turn, as a quaternion of unit length, and a way. -/
@[ext]
structure Rigid where
  x : ℝ
  y : ℝ
  z : ℝ
  w : ℝ
  shift : ℝ × ℝ × ℝ
  unit : x * x + y * y + z * z + w * w = 1

namespace Rigid

/-- `v` turned by the quaternion. -/
noncomputable def turn (x y z w : ℝ) (v : ℝ × ℝ × ℝ) : ℝ × ℝ × ℝ :=
  ((w * w + x * x - y * y - z * z) * v.1 + 2 * (x * y - w * z) * v.2.1 + 2 * (x * z + w * y) * v.2.2,
   2 * (x * y + w * z) * v.1 + (w * w - x * x + y * y - z * z) * v.2.1 + 2 * (y * z - w * x) * v.2.2,
   2 * (x * z - w * y) * v.1 + 2 * (y * z + w * x) * v.2.1 + (w * w - x * x - y * y + z * z) * v.2.2)

theorem turn_add (x y z w : ℝ) (u v : ℝ × ℝ × ℝ) :
    turn x y z w (u + v) = turn x y z w u + turn x y z w v := by
  ext <;> simp only [turn, Prod.fst_add, Prod.snd_add] <;> ring

noncomputable instance : Mul Rigid where
  mul f g :=
    { x := f.w * g.x + f.x * g.w + f.y * g.z - f.z * g.y
      y := f.w * g.y - f.x * g.z + f.y * g.w + f.z * g.x
      z := f.w * g.z + f.x * g.y - f.y * g.x + f.z * g.w
      w := f.w * g.w - f.x * g.x - f.y * g.y - f.z * g.z
      shift := f.shift + turn f.x f.y f.z f.w g.shift
      unit := by
        have hf := f.unit
        have hg := g.unit
        linear_combination (g.x * g.x + g.y * g.y + g.z * g.z + g.w * g.w) * hf + hg }

noncomputable instance : One Rigid where
  one := ⟨0, 0, 0, 1, 0, by norm_num⟩

noncomputable instance : Inv Rigid where
  inv f := ⟨-f.x, -f.y, -f.z, f.w, -turn (-f.x) (-f.y) (-f.z) f.w f.shift, by linear_combination f.unit⟩

theorem one_shift : (1 : Rigid).shift = 0 := rfl

theorem mul_shift (f g : Rigid) : (f * g).shift = f.shift + turn f.x f.y f.z f.w g.shift := rfl

theorem mul_x (f g : Rigid) : (f * g).x = f.w * g.x + f.x * g.w + f.y * g.z - f.z * g.y := rfl

theorem mul_y (f g : Rigid) : (f * g).y = f.w * g.y - f.x * g.z + f.y * g.w + f.z * g.x := rfl

theorem mul_z (f g : Rigid) : (f * g).z = f.w * g.z + f.x * g.y - f.y * g.x + f.z * g.w := rfl

theorem mul_w (f g : Rigid) : (f * g).w = f.w * g.w - f.x * g.x - f.y * g.y - f.z * g.z := rfl

theorem turn_mul (f g : Rigid) (v : ℝ × ℝ × ℝ) : turn (f * g).x (f * g).y (f * g).z (f * g).w v =
    turn f.x f.y f.z f.w (turn g.x g.y g.z g.w v) := by
  ext <;> simp only [turn, mul_x, mul_y, mul_z, mul_w] <;> ring

theorem mul_assoc (f g h : Rigid) : f * g * h = f * (g * h) := by
  ext
  case shift.fst | shift.snd.fst | shift.snd.snd =>
    simp only [mul_shift, turn_mul, turn_add, add_assoc]
  all_goals
    simp only [mul_x, mul_y, mul_z, mul_w]
    ring

theorem one_mul (f : Rigid) : 1 * f = f := by
  have hx : (1 : Rigid).x = 0 := rfl
  have hy : (1 : Rigid).y = 0 := rfl
  have hz : (1 : Rigid).z = 0 := rfl
  have hw : (1 : Rigid).w = 1 := rfl
  ext
  case shift.fst | shift.snd.fst | shift.snd.snd =>
    simp [mul_shift, one_shift, turn, hx, hy, hz, hw]
  all_goals
    simp [mul_x, mul_y, mul_z, mul_w, hx, hy, hz, hw]

theorem inv_mul (f : Rigid) : f⁻¹ * f = 1 := by
  have hx : f⁻¹.x = -f.x := rfl
  have hy : f⁻¹.y = -f.y := rfl
  have hz : f⁻¹.z = -f.z := rfl
  have hw : f⁻¹.w = f.w := rfl
  have hunit := f.unit
  have hone : (f⁻¹ * f).w = 1 := by
    rw [mul_w, hx, hy, hz, hw]
    linear_combination hunit
  refine Rigid.ext ?_ ?_ ?_ hone (neg_add_cancel _)
  · rw [mul_x, hx, hy, hz, hw]
    change _ = (0 : ℝ)
    ring
  · rw [mul_y, hx, hy, hz, hw]
    change _ = (0 : ℝ)
    ring
  · rw [mul_z, hx, hy, hz, hw]
    change _ = (0 : ℝ)
    ring

noncomputable instance : Group Rigid := Group.ofLeftAxioms mul_assoc one_mul inv_mul

end Rigid

theorem squaredNorm_parts (q : Vector ℝ 4) :
    squaredNorm q = q[0]! * q[0]! + q[1]! * q[1]! + q[2]! * q[2]! + q[3]! * q[3]! := rfl

open Classical in
/-- The rigid motions of space. -/
noncomputable def rigid : Kdl ℝ Rigid where
  isfinite _ := true
  sqrt := Real.sqrt
  frame q p :=
    if h : squaredNorm q = 1 then
      ⟨q[0]!, q[1]!, q[2]!, q[3]!, (p[0]!, p[1]!, p[2]!), squaredNorm_parts q ▸ h⟩
    else 1
  position f := #v[f.shift.1, f.shift.2.1, f.shift.2.2]
  quaternion f := #v[f.x, f.y, f.z, f.w]
  sqrt_nonneg x _ := Real.sqrt_nonneg x
  sqrt_mul_self _ h := Real.mul_self_sqrt h
  isfinite_one := rfl
  isfinite_position f := by simp
  squaredNorm_quaternion f := f.unit
  frame_read f := dif_pos f.unit
  position_frame q p h := by
    rw [dif_pos h]
    ext i hi
    interval_cases i <;> rfl
  quaternion_frame q p h := by
    rw [dif_pos h]
    refine .inl ?_
    ext i hi
    interval_cases i <;> rfl

theorem mount_inOrder {F : Type} [Group F] (pose : Double → F) (f g : F)
    (positions : StringMap Double) : ToolsInOrder (movedTree pose) [mount f, camera g] positions := by
  rintro pre tool post htools - other hother
  have hpairs : [mount f, camera g].Pairwise fun early late => late.child ≠ early.parent := by
    simp [mount, camera]
  rw [htools, List.pairwise_append, List.pairwise_cons] at hpairs
  rcases List.mem_cons.1 hother with rfl | hlate
  · have hother : other ∈ [mount f, camera g] := by simp [htools]
    rcases List.mem_pair.1 hother with rfl | rfl <;> simp [mount, camera]
  · exact hpairs.2.1.1 other hlate

end Fixture

namespace Fixture

/-- A slide to the left, by as much as is measured. -/
noncomputable def slid (position : Double) : Rigid := rigid.frame #v[0, 0, 0, 1] #v[0, position.val, 0]

/-- The wrist joint a quarter of a metre out. -/
def wristSample : JointState := { name := ["wrist_joint"], position := [.fin (1 / 4)] }

end Fixture

open Fixture in
/-- A camera that is listed after its mount: one up from it, two ahead of the wrist, which is where
its joint was measured. -/
theorem measured_frames_mounted :
    let ahead : Rigid := rigid.frame #v[0, 0, 0, 1] #v[2, 0, 0]
    let up : Rigid := rigid.frame #v[0, 0, 0, 1] #v[0, 0, 1]
    let self := ((⟨movedTree slid, [mount ahead, camera up], ∅⟩ : TfRuntime Rigid).publishFeedback
      wristSample).2
    self.framePoses["camera"]? = some (slid (.fin (1 / 4)) * ahead * up) := by
  intro ahead up self
  have htable := (measured_frames rigid (movedTree slid) [mount ahead, camera up] (mount_names _ _ _) ∅
    wristSample rfl).2 (mount_inOrder _ _ _ _)
  have hmeasured : (measuredPositions wristSample)["wrist_joint"]? = some (.fin (1 / 4)) := by
    decide +kernel
  have hwrist : FramePose (movedTree slid) [mount ahead, camera up] (measuredPositions wristSample)
      "wrist" (1 * slid (.fin (1 / 4))) :=
    .segment "wrist" (1 * slid (.fin (1 / 4)))
      (.here ⟨"wrist", "wrist_joint", false, slid⟩ .nil .nil 1 (.fin (1 / 4)) hmeasured)
  have hmount : FramePose (movedTree slid) [mount ahead, camera up] (measuredPositions wristSample)
      "mount" (1 * slid (.fin (1 / 4)) * ahead) :=
    .tool (mount ahead) (1 * slid (.fin (1 / 4))) (by simp) hwrist
  have hcamera : FramePose (movedTree slid) [mount ahead, camera up] (measuredPositions wristSample)
      "camera" (1 * slid (.fin (1 / 4)) * ahead * up) :=
    .tool (camera up) (1 * slid (.fin (1 / 4)) * ahead) (by simp) hmount
  rw [one_mul] at hcamera
  exact (htable.1 "camera" _).2 hcamera

end HumanoidMotion
