import HumanoidMotion.Motion.System
/-
# The test double of the SDK (`test/fake_sdk_motion_backend.hpp`)

`FakeSdk` answers as `FakeSdkMotionBackend` does: a session is active from a
successful start to its stop, a joint target is its own candidate, and the
final RTC passes its candidate on unless an override says otherwise. The
counters of the C++ double are not kept here: `Platform.recorded` writes every
call down. Its clock does not move.

`Fixture` is the set-up of the pipeline's tests: two arms, and a group of all
joints that overlaps both.
-/

namespace HumanoidMotion

structure FakeSdk where
  active : StringMap (SessionRequest × JointFeedback) := ∅
  startStatus : MotionStatus := .Ok
  resetStatus : MotionStatus := .Ok
  rebaseStatus : MotionStatus := .Ok
  finalStatus : MotionStatus := .Ok
  fkStatus : MotionStatus := .Ok
  fkPose : Pose := {}
  pathReached : Bool := true
  bypassFinalRtc : Bool := false
  failTickIds : List String := []
  candidateOverrides : StringMap JointCommand := ∅
  finalOverrides : StringMap JointCommand := ∅
  rebasedFinalOverrides : StringMap JointCommand := ∅
  clock : SteadyTime := 0

namespace FakeSdk

def startSession (e : FakeSdk) (id : String) (request : SessionRequest) (feedback : JointFeedback) :
    MotionStatus × FakeSdk :=
  if !e.startStatus.ok then (e.startStatus, e)
  else (.Ok, { e with active := e.active.insert id (request, feedback) })

/-- The candidate of an active session before overrides (`:70`). -/
def candidate (request : SessionRequest) (feedback : JointFeedback) (target : DynamicTarget) :
    JointCommand :=
  match target with
  | .joints t =>
    { groupName := groupName request, jointNames := t.jointNames, positionsRad := t.positionsRad,
      velocitiesRadS := t.jointNames.map fun _ => 0 }
  | .pose _ =>
    { groupName := groupName request, jointNames := feedback.jointNames,
      positionsRad := feedback.positionsRad,
      velocitiesRadS := feedback.jointNames.map fun _ => 0 }

def tickSession (e : FakeSdk) (id : String) (target : DynamicTarget) : BackendTick × FakeSdk :=
  if e.failTickIds.contains id then
    ({ status := { code := .sdkError, message := "native fake failure", sdkApi := "FakeSdk::Tick",
                   sdkCode := 73 } }, e)
  else match e.active[id]? with
    | none => ({ status := { code := .notConfigured, message := "not active" } }, e)
    | some (request, feedback) =>
      let command := candidate request feedback target
      ({ candidate := e.candidateOverrides[command.groupName]?.getD command,
         pathReached := e.pathReached }, e)

def rebaseFinalJointTarget (e : FakeSdk) (group : String) : MotionStatus × FakeSdk :=
  match e.rebasedFinalOverrides[group]? with
  | some command =>
    if e.rebaseStatus.ok then
      (e.rebaseStatus, { e with finalOverrides := e.finalOverrides.insert group command })
    else (e.rebaseStatus, e)
  | none => (e.rebaseStatus, e)

def updateFinalJointTarget (e : FakeSdk) (group : String) (command : JointCommand) :
    BackendTick × FakeSdk :=
  if !e.finalStatus.ok then ({ status := e.finalStatus }, e)
  else
    let result := e.finalOverrides[group]?.getD command
    ({ candidate := { result with passedFinalSdkRtc := !e.bypassFinalRtc }, pathReached := true }, e)

/-- The double as a platform that keeps its contract on live sessions. -/
def platform : SessionPlatform FakeSdk where
  steadyNow e := (e.clock, e)
  startSession e id request feedback _ := e.startSession id request feedback
  tickSession e id target _ := e.tickSession id target
  stopSession e id := (.Ok, { e with active := e.active.erase id })
  resetFinalJointTarget e _ _ := (e.resetStatus, e)
  rebaseFinalJointTarget e group _ := e.rebaseFinalJointTarget group
  updateFinalJointTarget e group command _ := e.updateFinalJointTarget group command
  forwardKinematics e _ := ({ status := e.fkStatus, pose := e.fkPose }, e)
  alive e id := id ∈ e.active
  alive_startSession e id request feedback _ id' := by
    unfold startSession
    split
    · rename_i h
      simp only [Bool.not_eq_true'] at h
      simp [h]
    · simp [Std.TreeMap.mem_insert, or_comm, eq_comm (a := id)]
  alive_stopSession e id id' := by
    simp [Std.TreeMap.mem_erase, and_comm, eq_comm (a := id)]
  alive_quietCall e e' id h := by
    cases h with
    | tickSession id' target period =>
      simp only [tickSession]
      split
      · rfl
      · split <;> rfl
    | rebaseFinalJointTarget group state =>
      simp only [rebaseFinalJointTarget]
      split
      · split <;> rfl
      · rfl
    | updateFinalJointTarget group command period =>
      simp only [updateFinalJointTarget]
      split <;> rfl
    | _ => rfl

/-! ## A double that grants what it is asked for -/

/-- Nothing is refused, overridden or passed by. -/
structure Obliging (e : FakeSdk) : Prop where
  reset : e.resetStatus.ok = true
  final : e.finalStatus.ok = true
  rtc : e.bypassFinalRtc = false
  finals : e.finalOverrides.isEmpty = true
  rebased : e.rebasedFinalOverrides.isEmpty = true

theorem Obliging.call {e e' : FakeSdk} (h : Obliging e) (hcall : AnyCall platform.toPlatform e e') :
    Obliging e' := by
  obtain ⟨hreset, hfinal, hrtc, hfinals, hrebased⟩ := h
  cases hcall with
  | quiet _ hquiet =>
    cases hquiet with
    | tickSession id target period =>
      simp only [platform, tickSession]
      split
      · exact ⟨hreset, hfinal, hrtc, hfinals, hrebased⟩
      · split <;> exact ⟨hreset, hfinal, hrtc, hfinals, hrebased⟩
    | rebaseFinalJointTarget group state =>
      simp only [platform, rebaseFinalJointTarget, Std.TreeMap.getElem?_of_isEmpty hrebased]
      exact ⟨hreset, hfinal, hrtc, hfinals, hrebased⟩
    | updateFinalJointTarget group command period =>
      simp only [platform, updateFinalJointTarget, hfinal, Bool.not_true, Bool.false_eq_true, if_false]
      exact ⟨hreset, hfinal, hrtc, hfinals, hrebased⟩
    | _ => exact ⟨hreset, hfinal, hrtc, hfinals, hrebased⟩
  | startSession id request feedback period =>
    simp only [platform, startSession]
    split <;> exact ⟨hreset, hfinal, hrtc, hfinals, hrebased⟩
  | stopSession id => exact ⟨hreset, hfinal, hrtc, hfinals, hrebased⟩

theorem Obliging.calls {e e' : FakeSdk} (h : Obliging e) (hcalls : Calls platform.toPlatform e e') :
    Obliging e' := by
  induction hcalls with
  | refl => exact h
  | tail _ hcall ih => exact ih.call hcall

theorem Obliging.shaped {e : FakeSdk} (h : Obliging e) (group : String) (command : JointCommand) :
    (e.updateFinalJointTarget group command).1 =
      { candidate := { command with passedFinalSdkRtc := true }, pathReached := true } := by
  simp [updateFinalJointTarget, h.final, h.rtc, Std.TreeMap.getElem?_of_isEmpty h.finals]

end FakeSdk

/-! ## The set-up of the tests (`test/test_command_pipeline.cpp:20`) -/

namespace Fixture

def group (name : String) (joints : List String) : JointGroupModel :=
  ⟨name, joints, joints.map fun _ => .fin (-2), joints.map fun _ => .fin 2⟩

def leftJoints : List String := ["l1", "l2"]

def rightJoints : List String := ["r1", "r2"]

def allGroups : List JointGroupModel :=
  [group "left" leftJoints, group "right" rightJoints, group "whole" (leftJoints ++ rightJoints)]

/-- Feedback of every joint at rest in `0`, received at `received` milliseconds. -/
def feedback (received : Int) : JointFeedback :=
  ⟨leftJoints ++ rightJoints, [0, 0, 0, 0], [0, 0, 0, 0], milliseconds received⟩

def target (joints : List String) (value : Rat) : JointTarget :=
  { jointNames := joints, positionsRad := joints.map fun _ => .fin value }

def endpoint (name : String) (kind : MotionKind) (group : String) (priority : Int) : Op :=
  .registerEndpoint { endpointName := name, kind, groupName := group, priority }

def moveJ (endpoint id group : String) (joints : List String) (now : Int) : Op :=
  .submitMove endpoint (.moveJ ⟨id, group, target joints (1 / 10), {}⟩) (milliseconds now) 0

def servoJ (endpoint group : String) (joints : List String) (now : Int) : Op :=
  .updateServo endpoint (.servoJ ⟨"", group, target joints (1 / 10), {}⟩) (milliseconds now)
    (milliseconds now) 0

def tick (now : Int) : Op := .tick (feedback now) (milliseconds now)

/-- No Cartesian goal is judged in the runs below. -/
def mathLib : MathLib := ⟨fun _ => 0, fun _ => ""⟩

/-- The command a tick returns for a joint target of the fixture. -/
def command (id group : String) (joints : List String) (validUntil : Int) (token : Nat) :
    JointCommand :=
  { groupName := group, jointNames := joints, positionsRad := joints.map fun _ => .fin (1 / 10),
    velocitiesRadS := joints.map fun _ => 0, passedFinalSdkRtc := true, sessionId := id,
    validUntil := some (milliseconds validUntil), publicationToken := token }

def start : CommandPipeline FakeSdk := CommandPipeline.create {} allGroups {}

def fake : Machine (CommandPipeline FakeSdk) Op Reply := machine FakeSdk.platform.toPlatform mathLib

/-- The stage of call number `n` of a run. -/
def stage (ops : List Op) (n : Nat) : Machine.Stage (CommandPipeline FakeSdk) Op Reply :=
  (fake.trace start ops).getD n ⟨start, .cancel "", .done, start⟩

theorem stage_eq {ops : List Op} {n : Nat} (h : n < ops.length) :
    (fake.trace start ops)[n]? = some (stage ops n) := by
  simp [stage, h]

theorem start_initial : Initial start := ⟨_, _, _, rfl⟩

end Fixture

end HumanoidMotion
