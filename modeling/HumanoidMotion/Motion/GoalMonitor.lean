import HumanoidMotion.Types
/-
# Closed-loop goal completion (`motion/goal_monitor.cpp`)

| here | there |
| --- | --- |
| `finitePose`             | `finite_pose` (`:16`, and `command_pipeline.cpp:45`) |
| `orientationDistance`    | `orientation_distance` (`:31`) |
| `MathLib`                | what the code takes from `<cmath>` and `<iomanip>`: `acos` of a root, and the `setprecision(9)` rendering |
| `GoalMonitor.begin`      | `GoalMonitor::begin` (`:56`) |
| `GoalMonitor.observe`    | `GoalMonitor::observe` (`:94`) |

The roots are taken out. `std::sqrt(squared_distance) <= tolerance` is read as
`squared_distance <= tolerance * tolerance`, the same test for the non-negative
tolerance `begin` insists on; and the argument of `acos`, which is
`|dot| / sqrt(left_norm_sq * right_norm_sq)`, is handed over as its square.
-/

namespace HumanoidMotion

/-- The library functions whose value is not rational arithmetic. Nothing is assumed of them. -/
structure MathLib where
  /-- `std::acos(std::sqrt(x))`. -/
  acosSqrt : Rat → Double
  setprecision9 : Double → String

/-- A finite pose with a quaternion that can be normalised. -/
def finitePose (pose : Pose) : Bool :=
  pose.positionM.toList.all Double.isFinite && pose.orientationXyzw.toList.all Double.isFinite &&
    decide (1 / 10 ^ 12 < (pose.orientationXyzw.toList.map fun v => v.val * v.val).sum)

/-- The sum of `left[index] * right[index]`. -/
def vectorDot {n : Nat} (left right : Vector Double n) : Rat :=
  ((left.toList.zip right.toList).map fun p => p.1.val * p.2.val).sum

/-- `2.0 * x`. -/
def doubled : Double → Double
  | .fin q => .fin (2 * q)
  | .nonFinite => .nonFinite

def orientationDistance (lib : MathLib) (left right : Pose) : Double :=
  let leftNormSq := vectorDot left.orientationXyzw left.orientationXyzw
  let rightNormSq := vectorDot right.orientationXyzw right.orientationXyzw
  let dot := vectorDot left.orientationXyzw right.orientationXyzw
  -- infinity in the source, which is within no tolerance either
  if leftNormSq ≤ 0 ∨ rightNormSq ≤ 0 then .nonFinite
  else
    -- `std::clamp(std::abs(dot), 0.0, 1.0)`, squared
    doubled (lib.acosSqrt (min 1 (dot * dot / (leftNormSq * rightNormSq))))

structure GoalMonitorConfig where
  jointPositionToleranceRad : Double := .fin (1 / 100)
  jointVelocityToleranceRadS : Double := .fin (2 / 100)
  stableDuration : Duration := milliseconds 200
  moveTimeout : Duration := milliseconds 60000
  cartesianPositionToleranceM : Double := .fin (1 / 1000)
  cartesianOrientationToleranceRad : Double := .fin (1 / 100)
deriving DecidableEq, Repr

/-- The test of `begin` (`:60`), which `validatePipelineConfig` makes as well
(`command_pipeline.cpp:200`). -/
def GoalMonitorConfig.valid (config : GoalMonitorConfig) : Bool :=
  [config.jointPositionToleranceRad, config.jointVelocityToleranceRadS,
    config.cartesianPositionToleranceM, config.cartesianOrientationToleranceRad].all
      Double.isNonNegative &&
    decide (0 ≤ config.stableDuration) && decide (0 < config.moveTimeout)

inductive GoalObservation where
  | running | reached | timedOut | invalidFeedback
deriving DecidableEq, Repr

structure GoalObservationResult where
  observation : GoalObservation := .running
  status : MotionStatus := {}
deriving DecidableEq, Repr

structure GoalState where
  jointGoal : JointTarget
  cartesianGoal : Option Pose
  startedAt : SteadyTime
  stableSince : Option SteadyTime
deriving DecidableEq, Repr

structure GoalMonitor where
  config : GoalMonitorConfig := {}
  goals : StringMap GoalState := ∅

namespace GoalMonitor

def contains (self : GoalMonitor) (sessionId : String) : Bool := self.goals.contains sessionId

def erase (self : GoalMonitor) (sessionId : String) : GoalMonitor :=
  { self with goals := self.goals.erase sessionId }

def setGoal (self : GoalMonitor) (sessionId : String) (goal : GoalState) : GoalMonitor :=
  { self with goals := self.goals.insert sessionId goal }

def begin (self : GoalMonitor) (sessionId : String) (jointGoal : JointTarget)
    (cartesianGoal : Option Pose) (now : SteadyTime) : MotionStatus × GoalMonitor :=
  if !self.config.valid then
    ({ code := .invalidArgument, message := "goal monitor configuration is invalid" }, self)
  else if sessionId.isEmpty || jointGoal.jointNames.isEmpty ||
      jointGoal.jointNames.length ≠ jointGoal.positionsRad.length then
    ({ code := .invalidArgument, message := "goal identity/names/positions are invalid" }, self)
  else if !uniqueNonEmpty jointGoal.jointNames || !finite jointGoal.positionsRad then
    ({ code := .invalidArgument, message := "goal joints must be unique and finite" }, self)
  else if cartesianGoal.any fun pose => !finitePose pose then
    ({ code := .invalidArgument, message := "Cartesian goal is not finite" }, self)
  else
    (.Ok, self.setGoal sessionId ⟨jointGoal, cartesianGoal, now, none⟩)

/-- One joint of the goal against the feedback; `none` when the feedback lacks it (`:134`). -/
def jointWithin (config : GoalMonitorConfig) (feedback : JointFeedback) (name : String)
    (position : Double) : Option Bool :=
  if feedback.jointNames.contains name then
    let index := feedback.jointNames.idxOf name
    some (decide (|valueAt feedback.positionsRad index - position.val| ≤
        config.jointPositionToleranceRad.val) &&
      decide (|valueAt feedback.velocitiesRadS index| ≤ config.jointVelocityToleranceRadS.val))
  else none

/-- The Cartesian part of the tolerance test (`:157`). -/
def poseWithin (lib : MathLib) (config : GoalMonitorConfig) (fkPose goal : Pose) : Bool :=
  let squaredDistance := ((fkPose.positionM.toList.zip goal.positionM.toList).map fun p =>
    (p.1.val - p.2.val) * (p.1.val - p.2.val)).sum
  let distance := orientationDistance lib fkPose goal
  decide (squaredDistance ≤
      config.cartesianPositionToleranceM.val * config.cartesianPositionToleranceM.val) &&
    (distance.isFinite && decide (distance.val ≤ config.cartesianOrientationToleranceRad.val))

/-- What one observation says of the goal: a status when the data cannot be judged, otherwise
whether everything is within tolerance (`:110`-`:166`). -/
def judge (lib : MathLib) (config : GoalMonitorConfig) (goal : GoalState)
    (feedback : JointFeedback) (fkPose : Option Pose) : Except MotionStatus Bool :=
  if feedback.jointNames.length ≠ feedback.positionsRad.length ||
      feedback.jointNames.length ≠ feedback.velocitiesRadS.length then
    .error { code := .invalidArgument,
             message := "feedback names/positions/velocities length mismatch" }
  else if !uniqueNonEmpty feedback.jointNames || !finite feedback.positionsRad ||
      !finite feedback.velocitiesRadS then
    .error { code := .invalidArgument, message := "feedback joint data is duplicate or non-finite" }
  else
    let joints := (goal.jointGoal.jointNames.zip goal.jointGoal.positionsRad).map fun joint =>
      jointWithin config feedback joint.1 joint.2
    if joints.contains none then
      .error { code := .invalidArgument, message := "feedback is missing a goal joint" }
    else
      let within := joints.all (· == some true)
      match goal.cartesianGoal with
      | none => .ok within
      | some cartesian =>
        match fkPose.filter finitePose with
        | none => .error { code := .sdkError,
                           message := "Cartesian Move requires a valid original-SDK FK result" }
        | some pose => .ok (within && poseWithin lib config pose cartesian)

/-- The stability window after one judged observation (`:168`-`:178`). -/
def window (config : GoalMonitorConfig) (goal : GoalState) (within : Bool) (now : SteadyTime) :
    GoalObservation × GoalState :=
  if !within then (.running, { goal with stableSince := none })
  else
    let since := goal.stableSince.getD now
    (if config.stableDuration ≤ now - since then .reached else .running,
      { goal with stableSince := some since })

def observe (lib : MathLib) (self : GoalMonitor) (sessionId : String) (feedback : JointFeedback)
    (fkPose : Option Pose) (now : SteadyTime) : GoalObservationResult × GoalMonitor :=
  match self.goals[sessionId]? with
  | none =>
    ({ observation := .invalidFeedback,
       status := { code := .internalError,
                   message := "goal monitor has no session: " ++ sessionId } }, self)
  | some goal =>
    if self.config.moveTimeout < now - goal.startedAt then
      ({ observation := .timedOut,
         status := { code := .timeout, message := "Move exceeded its steady-clock timeout" } },
        self)
    else match judge lib self.config goal feedback fkPose with
      | .error status =>
        ({ observation := .invalidFeedback, status },
          self.setGoal sessionId { goal with stableSince := none })
      | .ok within =>
        ({ observation := (window self.config goal within now).1 },
          self.setGoal sessionId (window self.config goal within now).2)

/-! ## What the operations do to the table of goals -/

/-- An accepted goal is stored under its session, with an empty stability window. -/
theorem begin_ok {m : GoalMonitor} {id : String} {joint : JointTarget} {pose : Option Pose}
    {now : SteadyTime} (h : (m.begin id joint pose now).1.ok = true) :
    (m.begin id joint pose now).2 = m.setGoal id ⟨joint, pose, now, none⟩ := by
  unfold begin at h ⊢
  split_ifs at h ⊢ <;> first | rfl | cases h

/-- An accepted Cartesian goal is a finite pose. -/
theorem begin_pose {m : GoalMonitor} {id : String} {joint : JointTarget} {pose : Option Pose}
    {now : SteadyTime} (h : (m.begin id joint pose now).1.ok = true) :
    ∀ cartesian ∈ pose, finitePose cartesian = true := by
  intro cartesian hcartesian
  unfold begin at h
  split_ifs at h with hconfig hidentity hjoints hpose
  iterate 4 cases h
  subst hcartesian
  simpa using hpose

theorem begin_refused {m : GoalMonitor} {id : String} {joint : JointTarget} {pose : Option Pose}
    {now : SteadyTime} (h : (m.begin id joint pose now).1.ok = false) :
    (m.begin id joint pose now).2 = m := by
  unfold begin at h ⊢
  split_ifs at h ⊢ <;> first | rfl | cases h

/-- `begin` accepts every well-formed goal of a valid configuration. -/
theorem begin_accepts {m : GoalMonitor} {id : String} {joint : JointTarget} {pose : Option Pose}
    {now : SteadyTime} (hc : m.config.valid = true) (hid : id.isEmpty = false)
    (hne : joint.jointNames.isEmpty = false)
    (hlen : joint.jointNames.length = joint.positionsRad.length)
    (hu : uniqueNonEmpty joint.jointNames = true) (hf : finite joint.positionsRad = true)
    (hp : ∀ p ∈ pose, finitePose p = true) : (m.begin id joint pose now).1.ok = true := by
  have hpose : (pose.any fun p => !finitePose p) = false := by
    cases pose with
    | none => rfl
    | some p => simp [hp p rfl]
  simp [begin, hc, hid, hne, hlen, hu, hf, hpose]

/-- Observing changes no goal but the one observed, and never adds one. -/
theorem observe_goals (lib : MathLib) (m : GoalMonitor) (id : String) (fb : JointFeedback)
    (fk : Option Pose) (now : SteadyTime) :
    (m.observe lib id fb fk now).2 = m ∨
      ∃ goal, id ∈ m.goals ∧ (m.observe lib id fb fk now).2 = m.setGoal id goal := by
  unfold observe
  split
  · exact .inl rfl
  · rename_i goal hgoal
    have hmem : id ∈ m.goals := by
      rw [Std.TreeMap.mem_iff_isSome_getElem?, hgoal]; rfl
    split_ifs
    · exact .inl rfl
    · split
      · exact .inr ⟨_, hmem, rfl⟩
      · exact .inr ⟨_, hmem, rfl⟩

end GoalMonitor

end HumanoidMotion
