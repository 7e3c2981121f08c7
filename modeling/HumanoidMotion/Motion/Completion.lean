import Mathlib.Algebra.Order.BigOperators.Ring.Finset
import Mathlib.Algebra.BigOperators.Fin
import Mathlib.Tactic.NormNum
import HumanoidMotion.Lib.Streak
import HumanoidMotion.Motion.GoalMonitor
/-
# A goal is reached when it has been met for long enough

`GoalMonitor` keeps one optional time for each goal, and five ways out of
`observe` clear it. Over any calls, for this goal and for others, that time is
where the current streak of observations within tolerance began.

* `Structural`, `OnTarget`, `OnPose`, `InTolerance` — what a good observation is: distances, and the
  angle between two rotations up to the library's `acos`.
* `poseWithin_iff` — what the code tests of a measured pose.
* `judge_iff` — `observe` recognises exactly those.
* `observe_goal` — one call on the goal, `observe_other` — a call on another one.
* `completion_is_stability` — when a goal is reached, over every sequence of calls.
-/

namespace HumanoidMotion

open Streak

/-- Equal lengths, unique non-empty names, finite values. -/
structure JointFeedback.Structural (feedback : JointFeedback) : Prop where
  positions : feedback.jointNames.length = feedback.positionsRad.length
  velocities : feedback.jointNames.length = feedback.velocitiesRadS.length
  nodup : feedback.jointNames.Nodup
  named : "" ∉ feedback.jointNames
  positionsFinite : ∀ value ∈ feedback.positionsRad, value.isFinite = true
  velocitiesFinite : ∀ value ∈ feedback.velocitiesRadS, value.isFinite = true

namespace JointFeedback.Structural

variable {feedback : JointFeedback} (h : feedback.Structural)
include h

theorem unique : uniqueNonEmpty feedback.jointNames = true := by
  simp [uniqueNonEmpty, h.nodup, h.named]

theorem finitePositions : finite feedback.positionsRad = true :=
  List.all_eq_true.2 h.positionsFinite

theorem finiteVelocities : finite feedback.velocitiesRadS = true :=
  List.all_eq_true.2 h.velocitiesFinite

end JointFeedback.Structural

/-! ## Poses -/

/-- Every component is finite, and the quaternion is far enough from zero to be normalised. -/
structure Pose.Valid (pose : Pose) : Prop where
  position : ∀ i : Fin 3, (pose.positionM[i]).isFinite = true
  orientation : ∀ i : Fin 4, (pose.orientationXyzw[i]).isFinite = true
  norm : 1 / 10 ^ 12 < ∑ i : Fin 4, (pose.orientationXyzw[i]).val ^ 2

/-- A loop over the components of a vector is a sum over its indices. -/
theorem sum_map {α : Type} {n : Nat} (f : α → Rat) (values : Vector α n) :
    (values.toList.map f).sum = ∑ i : Fin n, f values[i] := by
  rw [← List.sum_ofFn]
  congr 1
  apply List.ext_getElem
  · simp
  · intro i hi hi'
    simp

theorem sum_zip {n : Nat} (f : Double → Double → Rat) (left right : Vector Double n) :
    ((left.toList.zip right.toList).map fun p => f p.1 p.2).sum =
      ∑ i : Fin n, f left[i] right[i] := by
  rw [← Vector.toList_zip, sum_map]
  simp

theorem vectorDot_eq {n : Nat} (left right : Vector Double n) :
    vectorDot left right = ∑ i : Fin n, (left[i]).val * (right[i]).val :=
  sum_zip (fun l r => l.val * r.val) left right

theorem all_components {n : Nat} (values : Vector Double n) :
    values.toList.all Double.isFinite = true ↔ ∀ i : Fin n, (values[i]).isFinite = true := by
  rw [List.all_eq_true]
  constructor
  · intro h i
    exact h _ (by simp)
  · intro h value hvalue
    obtain ⟨i, hi, rfl⟩ := List.mem_iff_getElem.1 hvalue
    simpa using h ⟨i, by simpa using hi⟩

theorem finitePose_iff (pose : Pose) : finitePose pose = true ↔ pose.Valid := by
  have hnorm : (pose.orientationXyzw.toList.map fun v => v.val * v.val).sum =
      ∑ i : Fin 4, (pose.orientationXyzw[i]).val ^ 2 := by
    rw [sum_map]
    exact Finset.sum_congr rfl fun i _ => (sq _).symm
  unfold finitePose
  rw [Bool.and_eq_true, Bool.and_eq_true, all_components, all_components, decide_eq_true_eq, hnorm]
  exact ⟨fun h => ⟨h.1.1, h.1.2, h.2⟩, fun h => ⟨⟨h.position, h.orientation⟩, h.norm⟩⟩

namespace GoalMonitor

variable {lib : MathLib} {config : GoalMonitorConfig} {goal : GoalState}

/-! ## Observations within tolerance -/

/-- The arguments of one `observe` call, without the session. -/
structure Observation where
  feedback : JointFeedback
  fkPose : Option Pose
  now : SteadyTime

/-- The joint is measured, close to `position` and slow enough. -/
structure OnTarget (config : GoalMonitorConfig) (feedback : JointFeedback) (name : String)
    (position : Double) : Prop where
  measured : name ∈ feedback.jointNames
  close : |valueAt feedback.positionsRad (feedback.jointNames.idxOf name) - position.val| ≤
    config.jointPositionToleranceRad.val
  slow : |valueAt feedback.velocitiesRadS (feedback.jointNames.idxOf name)| ≤
    config.jointVelocityToleranceRadS.val

/-- The square of the cosine of half the angle by which two rotations differ: the scalar product of
their normalised quaternions, which is the same for a quaternion and its negative. -/
def cosSquared (left right : Pose) : Rat :=
  (∑ i : Fin 4, (left.orientationXyzw[i]).val * (right.orientationXyzw[i]).val) ^ 2 /
    ((∑ i : Fin 4, (left.orientationXyzw[i]).val ^ 2) *
      ∑ i : Fin 4, (right.orientationXyzw[i]).val ^ 2)

/-- The pose is close to the goal and turned away from it by little enough. -/
structure OnPose (lib : MathLib) (config : GoalMonitorConfig) (cartesian pose : Pose) : Prop where
  close : ∑ i : Fin 3, ((pose.positionM[i]).val - (cartesian.positionM[i]).val) ^ 2 ≤
    config.cartesianPositionToleranceM.val ^ 2
  turned : ∃ halfAngle, lib.acosSqrt (cosSquared pose cartesian) = .fin halfAngle ∧
    2 * halfAngle ≤ config.cartesianOrientationToleranceRad.val

/-- The observation is valid and meets the goal. -/
structure InTolerance (lib : MathLib) (config : GoalMonitorConfig) (goal : GoalState)
    (o : Observation) : Prop where
  structural : o.feedback.Structural
  joints : ∀ joint ∈ goal.jointGoal.jointNames.zip goal.jointGoal.positionsRad,
    OnTarget config o.feedback joint.1 joint.2
  pose : ∀ cartesian ∈ goal.cartesianGoal, ∃ pose ∈ o.fkPose,
    pose.Valid ∧ OnPose lib config cartesian pose

/-- The cosine of an angle is at most one, so `std::clamp` has nothing to clamp. -/
theorem cosSquared_le_one (left right : Pose) : cosSquared left right ≤ 1 :=
  div_le_one_of_le₀ (Finset.sum_mul_sq_le_sq_mul_sq _ _ _)
    (mul_nonneg (Finset.sum_nonneg fun _ _ => sq_nonneg _) (Finset.sum_nonneg fun _ _ => sq_nonneg _))

theorem orientationDistance_eq (lib : MathLib) {left right : Pose} (hleft : left.Valid)
    (hright : right.Valid) :
    orientationDistance lib left right = doubled (lib.acosSqrt (cosSquared left right)) := by
  have hnorm : ∀ {pose : Pose}, pose.Valid →
      ¬ vectorDot pose.orientationXyzw pose.orientationXyzw ≤ 0 := by
    intro pose hpose
    rw [vectorDot_eq, Finset.sum_congr rfl fun i _ => (sq _).symm, not_le]
    exact lt_trans (by norm_num) hpose.norm
  have hcos : vectorDot left.orientationXyzw right.orientationXyzw *
      vectorDot left.orientationXyzw right.orientationXyzw /
        (vectorDot left.orientationXyzw left.orientationXyzw *
          vectorDot right.orientationXyzw right.orientationXyzw) = cosSquared left right := by
    simp only [vectorDot_eq, cosSquared, sq]
  unfold orientationDistance
  dsimp only
  rw [if_neg (not_or.2 ⟨hnorm hleft, hnorm hright⟩), hcos, min_eq_right (cosSquared_le_one left right)]

theorem poseWithin_iff {pose cartesian : Pose} (hpose : pose.Valid) (hcartesian : cartesian.Valid) :
    poseWithin lib config pose cartesian = true ↔ OnPose lib config cartesian pose := by
  have hdistance : ((pose.positionM.toList.zip cartesian.positionM.toList).map fun p =>
      (p.1.val - p.2.val) * (p.1.val - p.2.val)).sum =
        ∑ i : Fin 3, ((pose.positionM[i]).val - (cartesian.positionM[i]).val) ^ 2 := by
    rw [sum_zip fun l r => (l.val - r.val) * (l.val - r.val)]
    exact Finset.sum_congr rfl fun i _ => (sq _).symm
  unfold poseWithin
  dsimp only
  rw [hdistance, orientationDistance_eq lib hpose hcartesian, ← sq, Bool.and_eq_true,
    decide_eq_true_eq]
  constructor
  · rintro ⟨hclose, hturned⟩
    refine ⟨hclose, ?_⟩
    cases hangle : lib.acosSqrt (cosSquared pose cartesian) with
    | fin halfAngle => exact ⟨halfAngle, rfl, by simpa [hangle, doubled] using hturned⟩
    | nonFinite => simp [hangle, doubled, Double.isFinite] at hturned
  · rintro ⟨hclose, halfAngle, hangle, hturned⟩
    exact ⟨hclose, by simpa [hangle, doubled] using hturned⟩

theorem jointWithin_iff (feedback : JointFeedback) (name : String) (position : Double) :
    jointWithin config feedback name position = some true ↔
      OnTarget config feedback name position := by
  unfold jointWithin
  constructor
  · intro h
    split at h
    · rename_i hname
      simp only [Option.some.injEq, Bool.and_eq_true, decide_eq_true_eq] at h
      exact ⟨by simpa using hname, h.1, h.2⟩
    · cases h
  · intro h
    simp [h.measured, h.close, h.slow]

/-- The code's judgement of an observation, as a test. -/
def good (lib : MathLib) (config : GoalMonitorConfig) (goal : GoalState) (o : Observation) : Bool :=
  match judge lib config goal o.feedback o.fkPose with
  | .ok within => within
  | .error _ => false

/-- The goal joints are all within tolerance, in the code's words and in ours. -/
theorem joints_iff (config : GoalMonitorConfig) (feedback : JointFeedback) (joints : List (String × Double)) :
    ((joints.map fun joint => jointWithin config feedback joint.1 joint.2).contains none = false ∧
      (joints.map fun joint => jointWithin config feedback joint.1 joint.2).all
        (· == some true) = true) ↔
      ∀ joint ∈ joints, OnTarget config feedback joint.1 joint.2 := by
  constructor
  · rintro ⟨-, hall⟩ joint hjoint
    refine (jointWithin_iff feedback joint.1 joint.2).1 ?_
    simp only [List.all_map, List.all_eq_true, Function.comp_apply, beq_iff_eq] at hall
    exact hall joint hjoint
  · intro h
    have hsome : ∀ joint ∈ joints, jointWithin config feedback joint.1 joint.2 = some true :=
      fun joint hjoint => (jointWithin_iff feedback joint.1 joint.2).2 (h joint hjoint)
    constructor
    · rw [Bool.eq_false_iff]
      intro hnone
      obtain ⟨joint, hjoint, hnot⟩ := List.mem_map.1 (List.contains_iff_mem.1 hnone)
      rw [hsome joint hjoint] at hnot
      cases hnot
    · simpa using hsome

theorem structural_iff (feedback : JointFeedback) : feedback.Structural ↔
    (feedback.jointNames.length ≠ feedback.positionsRad.length ||
      feedback.jointNames.length ≠ feedback.velocitiesRadS.length) = false ∧
    (!uniqueNonEmpty feedback.jointNames || !finite feedback.positionsRad ||
      !finite feedback.velocitiesRadS) = false := by
  constructor
  · intro h
    simp [← h.positions, ← h.velocities, h.unique, h.finitePositions, h.finiteVelocities]
  · rintro ⟨hlengths, hvalues⟩
    simp only [Bool.or_eq_false_iff, decide_eq_false_iff_not, not_not, Bool.not_eq_false'] at hlengths hvalues
    obtain ⟨⟨hunique, hpositions⟩, hvelocities⟩ := hvalues
    simp only [uniqueNonEmpty, Bool.and_eq_true, decide_eq_true_eq, Bool.not_eq_true',
      List.contains_eq_mem, decide_eq_false_iff_not] at hunique
    exact ⟨hlengths.1, hlengths.2, hunique.1, hunique.2, List.all_eq_true.1 hpositions,
      List.all_eq_true.1 hvelocities⟩

/-- `observe` finds an observation within tolerance exactly when it is. -/
theorem judge_iff (hvalid : ∀ cartesian ∈ goal.cartesianGoal, cartesian.Valid) (o : Observation) :
    good lib config goal o = true ↔ InTolerance lib config goal o := by
  have hjoints := joints_iff config o.feedback
    (goal.jointGoal.jointNames.zip goal.jointGoal.positionsRad)
  constructor
  · intro h
    unfold good judge at h
    split at h
    rotate_left
    · cases h
    rename_i within hjudge
    subst h
    split at hjudge
    · cases hjudge
    rename_i hlengths
    split at hjudge
    · cases hjudge
    rename_i hvalues
    have hstructural : o.feedback.Structural :=
      (structural_iff o.feedback).2 ⟨by simpa using hlengths, by simpa using hvalues⟩
    dsimp only at hjudge
    split at hjudge
    · cases hjudge
    rename_i hnone
    rw [Bool.not_eq_true] at hnone
    split at hjudge
    · rename_i hcartesian
      refine ⟨hstructural, hjoints.1 ⟨hnone, by simpa using hjudge⟩, ?_⟩
      simp [hcartesian]
    · rename_i cartesian hcartesian
      split at hjudge
      · cases hjudge
      · rename_i pose hpose
        obtain ⟨hsome, hfinite⟩ := Option.filter_eq_some_iff.1 hpose
        simp only [Except.ok.injEq, Bool.and_eq_true] at hjudge
        refine ⟨hstructural, hjoints.1 ⟨hnone, hjudge.1⟩, ?_⟩
        intro c hc
        rw [hcartesian] at hc
        cases hc
        have hpose := (finitePose_iff pose).1 hfinite
        exact ⟨pose, hsome, hpose, (poseWithin_iff hpose (hvalid cartesian hcartesian)).1 hjudge.2⟩
  · intro h
    obtain ⟨hlengths, hvalues⟩ := (structural_iff o.feedback).1 h.structural
    obtain ⟨hnone, hall⟩ := hjoints.2 h.joints
    unfold good judge
    rw [if_neg (by rw [hlengths]; simp), if_neg (by rw [hvalues]; simp)]
    dsimp only
    rw [if_neg (by rw [hnone]; simp)]
    cases hcartesian : goal.cartesianGoal with
    | none => simpa using hall
    | some cartesian =>
      obtain ⟨pose, hpose, hfinite, hon⟩ := h.pose cartesian hcartesian
      have hwithin := (poseWithin_iff hfinite (hvalid cartesian hcartesian)).2 hon
      have hfilter : o.fkPose.filter finitePose = some pose :=
        Option.filter_eq_some_iff.2 ⟨hpose, (finitePose_iff pose).2 hfinite⟩
      simp only [hfilter, hwithin, Bool.and_true]
      exact hall

/-! ## One call -/

/-- The answer to one observation of the goal. -/
def answer (lib : MathLib) (config : GoalMonitorConfig) (goal : GoalState) (o : Observation) :
    GoalObservationResult :=
  if config.moveTimeout < o.now - goal.startedAt then
    { observation := .timedOut,
      status := { code := .timeout, message := "Move exceeded its steady-clock timeout" } }
  else match judge lib config goal o.feedback o.fkPose with
    | .error status => { observation := .invalidFeedback, status }
    | .ok within => { observation := (window config goal within o.now).1 }

/-- The goal after one observation: its time is a latch on the good ones, until the timeout. -/
def after (lib : MathLib) (config : GoalMonitorConfig) (goal : GoalState) (o : Observation) :
    GoalState :=
  if config.moveTimeout < o.now - goal.startedAt then goal
  else { goal with
    stableSince := latch (good lib config goal) Observation.now goal.stableSince o }

theorem observe_goal (lib : MathLib) {m : GoalMonitor} {id : String}
    (hgoal : m.goals[id]? = some goal) (o : Observation) :
    (m.observe lib id o.feedback o.fkPose o.now).1 = answer lib m.config goal o ∧
    (m.observe lib id o.feedback o.fkPose o.now).2.config = m.config ∧
    (m.observe lib id o.feedback o.fkPose o.now).2.goals[id]? =
      some (after lib m.config goal o) := by
  unfold observe answer after
  simp only [hgoal]
  split
  · exact ⟨rfl, rfl, hgoal⟩
  · cases hjudge : judge lib m.config goal o.feedback o.fkPose with
    | error status =>
      exact ⟨rfl, rfl, by simp [setGoal, latch, good, hjudge]⟩
    | ok within =>
      refine ⟨rfl, rfl, ?_⟩
      cases within <;> simp [setGoal, latch, good, hjudge, window]

/-- Observing another session changes nothing for this one. -/
theorem observe_other (lib : MathLib) {m : GoalMonitor} {id other : String} (hne : other ≠ id)
    (o : Observation) :
    (m.observe lib other o.feedback o.fkPose o.now).2.config = m.config ∧
    (m.observe lib other o.feedback o.fkPose o.now).2.goals[id]? = m.goals[id]? := by
  unfold observe
  split
  · exact ⟨rfl, rfl⟩
  · split
    · exact ⟨rfl, rfl⟩
    · split <;> exact ⟨rfl, by simp [setGoal, Std.TreeMap.getElem?_insert, hne]⟩

/-! ## Runs of calls -/

/-- One `observe` call. -/
structure Call extends Observation where
  sessionId : String

/-- The calls on `id`, in order. -/
def callsOn (id : String) (calls : List Call) : List Observation :=
  (calls.filter fun call => call.sessionId == id).map Call.toObservation

/-- The answers to the calls on `id`, in order. -/
def answersTo (lib : MathLib) (id : String) : GoalMonitor → List Call → List GoalObservationResult
  | _, [] => []
  | m, call :: calls =>
    let (result, next) := m.observe lib call.sessionId call.feedback call.fkPose call.now
    if call.sessionId = id then result :: answersTo lib id next calls
    else answersTo lib id next calls

/-- The answers to the observations of one goal. -/
def answers (lib : MathLib) (config : GoalMonitorConfig) :
    GoalState → List Observation → List GoalObservationResult
  | _, [] => []
  | goal, o :: os => answer lib config goal o :: answers lib config (after lib config goal o) os

/-- The goals do not interfere. -/
theorem answersTo_eq (lib : MathLib) (id : String) (calls : List Call) : ∀ {m : GoalMonitor}
    {goal : GoalState}, m.goals[id]? = some goal →
    answersTo lib id m calls = answers lib m.config goal (callsOn id calls) := by
  induction calls with
  | nil => exact fun _ => rfl
  | cons call calls ih =>
    intro m goal hgoal
    by_cases hid : call.sessionId = id
    · obtain ⟨hanswer, hconfig, hnext⟩ := observe_goal lib hgoal call.toObservation
      simp only [answersTo, callsOn, hid, if_true, beq_self_eq_true, List.filter_cons_of_pos,
        List.map_cons, answers, hanswer]
      rw [ih hnext, hconfig]
      rfl
    · obtain ⟨hconfig, hnext⟩ := observe_other lib hid call.toObservation (m := m)
      rw [hgoal] at hnext
      simp only [answersTo, callsOn, hid, if_false, beq_iff_eq, not_false_eq_true,
        List.filter_cons_of_neg]
      rw [ih hnext, hconfig]
      rfl

@[simp] theorem startedAt_after (o : Observation) :
    (after lib config goal o).startedAt = goal.startedAt := by
  unfold after
  split <;> rfl

/-- The answer to the `k`-th observation is given on the latch after those before it. -/
theorem answers_at (os : List Observation) : ∀ {goal : GoalState} (k : Nat),
    (answers lib config goal os)[k]? =
      os[k]?.map (answer lib config ((os.take k).foldl (after lib config) goal)) := by
  induction os with
  | nil => simp [answers]
  | cons o os ih =>
    intro goal k
    cases k with
    | zero => simp [answers]
    | succ k => simp [answers, ih]

theorem length_answers (os : List Observation) : ∀ {goal : GoalState},
    (answers lib config goal os).length = os.length := by
  induction os with
  | nil => exact rfl
  | cons o os ih => simp [answers, ih]

/-- Before the timeout the goal keeps the latch and nothing else changes. -/
theorem fold_after (os : List Observation) (hempty : goal.stableSince = none) : ∀ k : Nat,
    (∀ o ∈ os.take k, o.now - goal.startedAt ≤ config.moveTimeout) →
    (os.take k).foldl (after lib config) goal =
      { goal with stableSince := latched (good lib config goal) Observation.now os k } := by
  intro k
  induction k with
  | zero => intro _; simp [← hempty]
  | succ k ih =>
    intro hin
    cases hk : os[k]? with
    | none =>
      have hlen : os.length ≤ k := List.getElem?_eq_none_iff.1 hk
      have htake : os.take (k + 1) = os.take k := by
        rw [List.take_of_length_le hlen, List.take_of_length_le (Nat.le_succ_of_le hlen)]
      rw [htake] at hin ⊢
      rw [ih hin]
      simp only [latched, htake]
    | some o =>
      have htake : os.take (k + 1) = os.take k ++ [o] := by simp [List.take_add_one, hk]
      rw [latched_succ hk]
      rw [htake] at hin ⊢
      have hnow := hin o (by simp)
      rw [List.foldl_append, ih fun o ho => hin o (List.mem_append_left _ ho)]
      simp only [List.foldl_cons, List.foldl_nil, after, not_lt.2 hnow, if_false]
      rfl

@[simp] theorem startedAt_fold (os : List Observation) :
    (os.foldl (after lib config) goal).startedAt = goal.startedAt := by
  induction os generalizing goal with
  | nil => rfl
  | cons o os ih => simp [ih]

/-- A good observation answers `REACHED` when its streak is long enough. -/
theorem answer_reached (o : Observation) : (answer lib config goal o).observation = .reached ↔
    o.now - goal.startedAt ≤ config.moveTimeout ∧ good lib config goal o = true ∧
      config.stableDuration ≤ o.now - goal.stableSince.getD o.now := by
  unfold answer good
  split
  · rename_i hlate
    simp [not_le.2 hlate]
  · rename_i htime
    have htime := not_lt.1 htime
    cases judge lib config goal o.feedback o.fkPose with
    | error status => simp
    | ok within =>
      cases within with
      | false => simp [window]
      | true => simp [window, htime]

theorem answer_timedOut (o : Observation) : (answer lib config goal o).observation = .timedOut ↔
    config.moveTimeout < o.now - goal.startedAt := by
  unfold answer
  split
  · simp_all
  · rename_i htime
    simp only [htime, iff_false]
    split
    · simp
    · unfold window
      split_ifs
      · simp
      · dsimp only
        split <;> simp

section
variable {os : List Observation} (hmono : os.Pairwise fun o o' => o.now ≤ o'.now)
include hmono

theorem now_le {i k : Nat} {o o' : Observation} (hle : i ≤ k) (hi : os[i]? = some o)
    (hk : os[k]? = some o') : o.now ≤ o'.now := by
  rcases Nat.lt_or_eq_of_le hle with hlt | rfl
  · obtain ⟨hi', rfl⟩ := List.getElem?_eq_some_iff.1 hi
    obtain ⟨hk', rfl⟩ := List.getElem?_eq_some_iff.1 hk
    exact List.pairwise_iff_getElem.1 hmono i k hi' hk' hlt
  · rw [hi] at hk
    cases hk
    exact le_rfl

/-- When the `k`-th answer is `REACHED`. -/
theorem reached_iff (hvalid : ∀ cartesian ∈ goal.cartesianGoal, cartesian.Valid)
    (hempty : goal.stableSince = none) {k : Nat} {o : Observation}
    (hk : os[k]? = some o) :
    (answer lib config ((os.take k).foldl (after lib config) goal) o).observation = .reached ↔
      o.now - goal.startedAt ≤ config.moveTimeout ∧ InTolerance lib config goal o ∧
        ∃ j first, StreakAt (InTolerance lib config goal) os j k ∧ os[j]? = some first ∧
          config.stableDuration ≤ o.now - first.now := by
  have hgood : (fun o => good lib config goal o = true) = InTolerance lib config goal :=
    funext fun o => propext (judge_iff hvalid o)
  rw [answer_reached, startedAt_fold]
  refine and_congr_right fun htime => ?_
  -- the goal has not timed out before, so it carries the latch
  have hbefore : ∀ o' ∈ os.take k, o'.now - goal.startedAt ≤ config.moveTimeout := by
    intro o' ho'
    obtain ⟨i, hi⟩ := List.mem_iff_getElem?.1 ho'
    have hik : i < k := by
      have := (List.getElem?_eq_some_iff.1 hi).1
      simp only [List.length_take] at this
      omega
    rw [List.getElem?_take_of_lt hik] at hi
    exact (sub_le_sub_right (now_le hmono (Nat.le_of_lt hik) hi hk) _).trans htime
  rw [fold_after os hempty k hbefore]
  have hsame : good lib config
      { goal with stableSince := latched (good lib config goal) Observation.now os k } o =
        good lib config goal o := rfl
  rw [hsame, judge_iff hvalid]
  refine and_congr_right fun hin => ?_
  have hin' : good lib config goal o = true := (judge_iff hvalid o).2 hin
  have hlatch := latch_take (good lib config goal) Observation.now hk
  rw [latched_succ hk, hgood] at hlatch
  simp only [latch, hin', if_true, Option.some.injEq, reduceCtorEq, and_false, or_false] at hlatch
  obtain ⟨j, first, hstreak, hfirst, hsince⟩ := hlatch
  constructor
  · intro h
    exact ⟨j, first, hstreak, hfirst, hsince ▸ h⟩
  · rintro ⟨j', first', hstreak', hfirst', h⟩
    obtain rfl := hstreak.unique hstreak' (List.getElem?_eq_some_iff.1 hk).1
    rw [hfirst] at hfirst'
    cases hfirst'
    exact hsince ▸ h

end

/-- A goal is reached on the calls that have met it, without a break, for the stable duration; a
bad observation starts the wait afresh, and a timeout is final. -/
theorem completion_is_stability (lib : MathLib) (m : GoalMonitor) (id : String)
    (jointGoal : JointTarget) (cartesianGoal : Option Pose) (startedAt : SteadyTime)
    (calls : List Call)
    (hbegin : (m.begin id jointGoal cartesianGoal startedAt).1.ok = true)
    (hmono : (callsOn id calls).Pairwise fun o o' => o.now ≤ o'.now) :
    let Good := InTolerance lib m.config ⟨jointGoal, cartesianGoal, startedAt, none⟩
    let os := callsOn id calls
    let results := answersTo lib id (m.begin id jointGoal cartesianGoal startedAt).2 calls
    results.length = os.length ∧
    (∀ k o r, os[k]? = some o → results[k]? = some r →
      (r.observation = .reached ↔
        o.now - startedAt ≤ m.config.moveTimeout ∧ Good o ∧
          ∃ j first, StreakAt Good os j k ∧ os[j]? = some first ∧
            m.config.stableDuration ≤ o.now - first.now)) ∧
    (∀ i k bad next o r, i < k → os[i]? = some bad → ¬ Good bad → os[i + 1]? = some next →
      os[k]? = some o → results[k]? = some r → r.observation = .reached →
        m.config.stableDuration ≤ o.now - next.now) ∧
    (∀ (k n : Nat) (r r' : GoalObservationResult), k ≤ n → results[k]? = some r → r.observation = .timedOut →
      results[n]? = some r' → r'.observation = .timedOut) := by
  intro Good os results
  have hstored := begin_ok hbegin
  have hresults : results = answers lib m.config ⟨jointGoal, cartesianGoal, startedAt, none⟩ os := by
    have hgoal : (m.begin id jointGoal cartesianGoal startedAt).2.goals[id]? =
        some ⟨jointGoal, cartesianGoal, startedAt, none⟩ := by
      rw [hstored]
      simp [setGoal]
    have := answersTo_eq lib id calls hgoal
    rw [hstored] at this
    rw [show results = answersTo lib id _ calls from rfl, hstored]
    exact this
  have hvalid : ∀ cartesian ∈ cartesianGoal, cartesian.Valid := fun cartesian hcartesian =>
    (finitePose_iff cartesian).1 (begin_pose hbegin cartesian hcartesian)
  have hat : ∀ k r, results[k]? = some r → ∃ o, os[k]? = some o ∧
      answer lib m.config ((os.take k).foldl (after lib m.config)
        ⟨jointGoal, cartesianGoal, startedAt, none⟩) o = r := by
    intro k r hr
    rw [hresults, answers_at] at hr
    simpa using hr
  have hreached : ∀ k o r, os[k]? = some o → results[k]? = some r →
      (r.observation = .reached ↔
        o.now - startedAt ≤ m.config.moveTimeout ∧ Good o ∧
          ∃ j first, StreakAt Good os j k ∧ os[j]? = some first ∧
            m.config.stableDuration ≤ o.now - first.now) := by
    intro k o r ho hr
    obtain ⟨o', ho', rfl⟩ := hat k r hr
    rw [ho] at ho'
    cases ho'
    exact reached_iff hmono hvalid rfl ho
  refine ⟨?_, hreached, ?_, ?_⟩
  · rw [hresults, length_answers]
  · intro i k bad next o r hik hbad hnot hnext ho hr hreach
    obtain ⟨-, -, j, first, hstreak, hfirst, hlong⟩ := (hreached k o r ho hr).1 hreach
    have hj := hstreak.restart (Nat.le_of_lt hik) hbad hnot
    exact hlong.trans (sub_le_sub_left (now_le hmono hj hnext hfirst) _)
  · intro k n r r' hkn hr htimed hr'
    obtain ⟨o, ho, rfl⟩ := hat k r hr
    obtain ⟨o', ho', rfl⟩ := hat n r' hr'
    rw [answer_timedOut, startedAt_fold] at htimed ⊢
    exact lt_of_lt_of_le htimed (sub_le_sub_right (now_le hmono hkn ho ho') _)

/-! `RequiresPositionVelocityAndContinuousStableDuration` (`test_goal_monitor.cpp:29`) with a Cartesian
goal: one fast joint at 100 ms, half a turn off at 120 ms, then at rest on the goal from 150 ms to
350 ms, where the measured quaternion is the negative of the goal's. -/

/-- `acos` at the two cosines that occur, 0 and 1. -/
def restLib : MathLib := ⟨fun x => if x = 0 then .fin (15707963267948966 / 10 ^ 16) else 0, fun _ => ""⟩

def restGoal : JointTarget := { jointNames := ["j1", "j2"], positionsRad := [.fin (1 / 2), .fin (-1 / 2)] }

def restPose : Pose := { positionM := #v[.fin (3 / 10), 0, .fin (4 / 10)] }

/-- The measured pose, half a millimetre off. -/
def restFk (orientationXyzw : Vector Double 4) : Pose where
  positionM := #v[.fin (3005 / 10000), 0, .fin (4 / 10)]
  orientationXyzw := orientationXyzw

def restCall (velocity : Rat) (orientationXyzw : Vector Double 4) (now : Int) : Call where
  feedback := ⟨["j2", "j1"], [.fin (-1 / 2), .fin (1 / 2)], [0, .fin velocity], 0⟩
  fkPose := some (restFk orientationXyzw)
  now := milliseconds now
  sessionId := "move"

def restCalls : List Call :=
  [restCall 0 noRotation 0, restCall (3 / 100) noRotation 100, restCall 0 #v[1, 0, 0, 0] 120,
    restCall 0 #v[0, 0, 0, .fin (-1)] 150, restCall 0 #v[0, 0, 0, .fin (-1)] 350]

theorem completion_is_stability_rest :
    (answersTo restLib "move" (({} : GoalMonitor).begin "move" restGoal (some restPose) 0).2
      restCalls).map GoalObservationResult.observation =
        [.running, .running, .running, .running, .reached] ∧
    ∃ j first, StreakAt (InTolerance restLib {} ⟨restGoal, some restPose, 0, none⟩)
        (callsOn "move" restCalls) j 4 ∧
      (callsOn "move" restCalls)[j]? = some first ∧
      milliseconds 200 ≤ milliseconds 350 - first.now :=
  ⟨by decide +kernel,
    (((completion_is_stability restLib {} "move" restGoal (some restPose) 0 restCalls
      (by decide +kernel) (by decide +kernel)).2.1 4
        (restCall 0 #v[0, 0, 0, .fin (-1)] 350).toObservation { observation := .reached } rfl
          (by decide +kernel)).1 rfl).2.2⟩

end GoalMonitor

end HumanoidMotion
