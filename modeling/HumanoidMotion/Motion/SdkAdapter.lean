import HumanoidMotion.Lib.Checked
import HumanoidMotion.Motion.Consistency
import HumanoidMotion.Motion.FinalRtc
import HumanoidMotion.Motion.MovePath
import HumanoidMotion.Motion.Shaped
/-
# The pipeline over its SDK backend

`sdkBackend` keeps the contract that the results about the pipeline assume of a
backend: its session map is the set of live sessions (`sdkPlatform`). So they
hold of the pipeline over the code's own backend, and with `tick_shaped` its
commands can be followed into the SDK.

* `Extends` — the RTC calls of a later state go on from those of an earlier one.
* `FromRtc` — a command and the answer of an RTC it was made from.
* `pipeline_over_sdk` — both, in every state of every run.
-/

namespace HumanoidMotion

/-! ## The contract -/

namespace SdkMotionBackend

variable {ι : Type} (sdk : MotionSdk ι)

theorem startSession_mem (self : SdkMotionBackend ι) (sessionId other : String)
    (request : SessionRequest) (feedback : JointFeedback) (periodSec : Double) :
    other ∈ (self.startSession sdk sessionId request feedback periodSec).2.sessions ↔
      other ∈ self.sessions ∨ (other = sessionId ∧
        (self.startSession sdk sessionId request feedback periodSec).1.ok = true) := by
  rcases startSession_cases sdk self sessionId request feedback periodSec with
    ⟨hfailed, hsessions⟩ | ⟨hok, -, session, hsessions⟩
  · simp [hfailed, hsessions]
  · rw [hok, hsessions, Std.TreeMap.mem_insert, Std.LawfulEqOrd.compare_eq_iff_eq]
    simp [or_comm, eq_comm]

/-- A tick keeps the set of sessions. -/
theorem tickSession_mem (self : SdkMotionBackend ι) (sessionId other : String)
    (dynamicTarget : Option DynamicTarget) (periodSec : Double) :
    other ∈ (self.tickSession sdk sessionId dynamicTarget periodSec).2.sessions ↔
      other ∈ self.sessions := by
  by_cases hid : sessionId = other
  · subst hid
    have hkept : ∀ {session : BackendSession ι}, self.sessions[sessionId]? = some session →
        sessionId ∈ self.sessions := fun hsession => by
      rw [← Std.TreeMap.isSome_getElem?_iff_mem, hsession]
      rfl
    unfold tickSession
    split
    · rfl
    · rename_i session hsession
      have hmem := hkept hsession
      have hinsert : ∀ session' : BackendSession ι,
          sessionId ∈ self.sessions.insert sessionId session' ↔ sessionId ∈ self.sessions :=
        fun session' => iff_of_true (Std.TreeMap.mem_insert_self) hmem
      split
      · rfl
      · split
        · rfl
        · split
          · unfold tickMoveJoint
            split
            · rfl
            · dsimp only
              split
              · rfl
              · rfl
              · split
                · exact hinsert _
                · rfl
          · unfold tickMoveLine
            dsimp only
            split <;> exact hinsert _
  · rw [← Std.TreeMap.isSome_getElem?_iff_mem, ← Std.TreeMap.isSome_getElem?_iff_mem,
      tickSession_other sdk self hid]

theorem stopSession_mem (self : SdkMotionBackend ι) (sessionId other : String) :
    other ∈ (self.stopSession sessionId).2.sessions ↔ other ∈ self.sessions ∧ other ≠ sessionId := by
  unfold stopSession
  split
  · rename_i hnone
    refine ⟨fun hmem => ⟨hmem, ?_⟩, And.left⟩
    rintro rfl
    rw [← Std.TreeMap.isSome_getElem?_iff_mem, hnone] at hmem
    cases hmem
  · rw [Std.TreeMap.mem_erase, ne_eq, Std.LawfulEqOrd.compare_eq_iff_eq]
    simp [and_comm, eq_comm]

end SdkMotionBackend

namespace SdkAdapter

variable {ι : Type} (rtc : RtcSdk)

/-- No RTC has a part in the sessions. -/
theorem rebase_sessions (self : SdkAdapter ι) (group : String) (current : JointTarget) :
    (self.rebaseFinalJointTarget rtc group current).2.sessions = self.sessions := by
  unfold rebaseFinalJointTarget
  split
  · rfl
  · split
    · rfl
    · split
      · rfl
      · dsimp only
        split <;> rfl

theorem reset_sessions (self : SdkAdapter ι) (group : String) (feedback : JointFeedback) :
    (self.resetFinalJointTarget rtc group feedback).2.sessions = self.sessions := by
  unfold resetFinalJointTarget
  split
  · rfl
  · split
    · rfl
    · exact rebase_sessions rtc self group _

theorem update_sessions (self : SdkAdapter ι) (group : String) (candidate : JointCommand)
    (periodSec : Double) :
    (self.updateFinalJointTarget rtc group candidate periodSec).2.sessions = self.sessions := by
  unfold updateFinalJointTarget
  split
  · rfl
  · split
    · rfl
    · split <;> rfl

end SdkAdapter

section
variable {ι γ : Type} (sdk : MotionSdk ι) (rtc : RtcSdk)
  (kinematics : Option (Kinematics.ForwardKinematicsRequest → ForwardAnswer))
  (steadyNow : γ → SteadyTime × γ)

/-- The backend keeps the contract: its live sessions are the entries of its session map. -/
def sdkPlatform : SessionPlatform (SdkAdapter ι × γ) where
  toPlatform := sdkBackend sdk rtc kinematics steadyNow
  alive e id := id ∈ e.1.sessions.sessions
  alive_startSession e id request feedback period id' :=
    e.1.sessions.startSession_mem sdk id id' request feedback (.fin period)
  alive_stopSession e id id' := e.1.sessions.stopSession_mem id id'
  alive_quietCall e e' id h := by
    cases h with
    | steadyNow => rfl
    | tickSession other target period => exact e.1.sessions.tickSession_mem sdk other id _ _
    | resetFinalJointTarget group feedback =>
      exact iff_of_eq (congrArg (id ∈ ·.sessions) (e.1.reset_sessions rtc group feedback))
    | rebaseFinalJointTarget group current =>
      exact iff_of_eq (congrArg (id ∈ ·.sessions) (e.1.rebase_sessions rtc group current))
    | updateFinalJointTarget group candidate period =>
      exact iff_of_eq (congrArg (id ∈ ·.sessions) (e.1.update_sessions rtc group candidate _))
    | forwardKinematics => rfl

end

/-! ## The calls of the RTCs -/

/-- The calls of RTCs since `a`, in order; the models are the same. -/
structure Extends {ι : Type} (a a' : SdkAdapter ι) : Prop where
  calls : a.finalCalls <+: a'.finalCalls
  models : a'.sessions.groupModels = a.sessions.groupModels

theorem Extends.refl {ι : Type} (a : SdkAdapter ι) : Extends a a := ⟨List.prefix_rfl, rfl⟩

theorem Extends.trans {ι : Type} {a a' a'' : SdkAdapter ι} (h : Extends a a')
    (h' : Extends a' a'') : Extends a a'' := ⟨h.calls.trans h'.calls, h'.models.trans h.models⟩

namespace SdkMotionBackend

variable {ι : Type} (sdk : MotionSdk ι)

theorem startSession_models (self : SdkMotionBackend ι) (sessionId : String)
    (request : SessionRequest) (feedback : JointFeedback) (periodSec : Double) :
    (self.startSession sdk sessionId request feedback periodSec).2.groupModels = self.groupModels := by
  have hjoint : ∀ group state, (self.startMoveJoint sdk sessionId request feedback periodSec.val group
      state).2.groupModels = self.groupModels := fun group state => by
    unfold startMoveJoint
    split
    · rfl
    · dsimp only
      split <;> rfl
  have hline : ∀ group state, (self.startMoveLine sdk sessionId request periodSec.val group
      state).2.groupModels = self.groupModels := fun group state => by
    unfold startMoveLine
    dsimp only
    split <;> rfl
  unfold startSession
  split
  · rfl
  · split
    · rfl
    · split
      · rfl
      · split
        · rfl
        · split
          · rfl
          · exact hjoint _ _
          · exact hjoint _ _
          · exact hline _ _
          · exact hline _ _

theorem tickSession_models (self : SdkMotionBackend ι) (sessionId : String)
    (dynamicTarget : Option DynamicTarget) (periodSec : Double) :
    (self.tickSession sdk sessionId dynamicTarget periodSec).2.groupModels = self.groupModels := by
  unfold tickSession
  split
  · rfl
  · split
    · rfl
    · split
      · rfl
      · split
        · unfold tickMoveJoint
          split
          · rfl
          · dsimp only
            split
            · rfl
            · rfl
            · split <;> rfl
        · unfold tickMoveLine
          dsimp only
          split <;> rfl

theorem stopSession_models (self : SdkMotionBackend ι) (sessionId : String) :
    (self.stopSession sessionId).2.groupModels = self.groupModels := by
  unfold stopSession
  split <;> rfl

end SdkMotionBackend

namespace SdkAdapter

variable {ι : Type} (rtc : RtcSdk)

theorem rebase_extends (self : SdkAdapter ι) (group : String) (current : JointTarget) :
    Extends self (self.rebaseFinalJointTarget rtc group current).2 := by
  unfold rebaseFinalJointTarget
  split
  · exact .refl self
  · split
    · exact .refl self
    · split
      · exact .refl self
      · dsimp only
        split
        · exact ⟨List.prefix_append _ _, rfl⟩
        · exact ⟨List.prefix_append _ _, rfl⟩

theorem reset_extends (self : SdkAdapter ι) (group : String) (feedback : JointFeedback) :
    Extends self (self.resetFinalJointTarget rtc group feedback).2 := by
  unfold resetFinalJointTarget
  split
  · exact .refl self
  · split
    · exact .refl self
    · exact rebase_extends rtc self group _

theorem update_extends (self : SdkAdapter ι) (group : String) (candidate : JointCommand)
    (periodSec : Double) : Extends self (self.updateFinalJointTarget rtc group candidate periodSec).2 := by
  unfold updateFinalJointTarget
  split
  · exact .refl self
  · split
    · exact .refl self
    · split
      · exact .refl self
      · exact ⟨List.prefix_append _ _, rfl⟩

end SdkAdapter

/-- The command was made of an answer of its group's RTC, asked over `dt` for the joints of the model
in their order: running or reached, and in degrees. -/
def FromRtc (models : StringMap JointGroupModel) (dt : Rat) (calls : List RtcCall)
    (c : JointCommand) : Prop :=
  ∃ model target state, models[c.groupName]? = some model ∧ target.jointNames = model.jointNames ∧
    .update c.groupName target dt (.ok state) ∈ calls ∧
    (state.status = .running ∨ state.status = .reached) ∧ c.jointNames = state.jointNames ∧
    c.positionsRad = scaled state.positions kDegToRad ∧
    c.velocitiesRadS = scaled state.velocities kDegToRad ∧
    c.accelerationsRadS2 = scaled state.accelerations kDegToRad

theorem rtcTarget_names {group : JointGroupModel} {jointNames : List String}
    {positions velocities accelerations : List Double} {target : RtcJointTarget}
    (h : rtcTarget group jointNames positions velocities accelerations = .ok target) :
    target.jointNames = group.jointNames := by
  obtain ⟨positions', -, h⟩ := Checked.bind_ok h
  obtain ⟨velocities', -, h⟩ := Checked.bind_ok h
  obtain ⟨accelerations', -, h⟩ := Checked.bind_ok h
  cases h
  rfl

theorem finalTick_ok {group : String} {answer : Except String RtcJointState}
    (h : (finalTick group answer).status.ok = true) :
    ∃ state, answer = .ok state ∧ (state.status = .running ∨ state.status = .reached) ∧
      (finalTick group answer).candidate = fromRtcState group state := by
  unfold finalTick at h ⊢
  cases answer with
  | error what => cases h
  | ok state =>
    refine ⟨state, rfl, ?_⟩
    cases hstatus : state.status with
    | running => exact ⟨.inl rfl, by simp [hstatus]⟩
    | reached => exact ⟨.inr rfl, by simp [hstatus]⟩
    | other code =>
      simp only [hstatus] at h
      cases h

/-- An update that succeeds has asked the RTC, and its command is the answer. -/
theorem SdkAdapter.update_fromRtc {ι : Type} (rtc : RtcSdk) (self : SdkAdapter ι) (group : String)
    (candidate : JointCommand) (dt : Rat)
    (hok : (self.updateFinalJointTarget rtc group candidate (.fin dt)).1.status.ok = true) :
    FromRtc self.sessions.groupModels dt
      ((self.updateFinalJointTarget rtc group candidate (.fin dt)).2.finalCalls.drop
        self.finalCalls.length)
      (self.updateFinalJointTarget rtc group candidate (.fin dt)).1.candidate := by
  unfold updateFinalJointTarget at hok ⊢
  split at hok
  · cases hok
  · rename_i model hmodel
    split at hok
    · cases hok
    · rename_i hperiod
      split at hok
      · cases hok
      · rename_i target htarget
        simp only [if_neg hperiod, List.drop_left]
        have hnames := rtcTarget_names htarget
        obtain ⟨state, hanswer, hstatus, hmade⟩ := finalTick_ok hok
        rw [hmade, hanswer]
        exact ⟨model, target, state, hmodel, hnames, List.mem_singleton_self _, hstatus, rfl, rfl,
          rfl, rfl⟩

section
variable {ι γ : Type} {sdk : MotionSdk ι} {rtc : RtcSdk}
  {kinematics : Option (Kinematics.ForwardKinematicsRequest → ForwardAnswer)}
  {steadyNow : γ → SteadyTime × γ}

theorem AnyCall.extends {e e' : SdkAdapter ι × γ}
    (h : AnyCall (sdkBackend sdk rtc kinematics steadyNow) e e') : Extends e.1 e'.1 := by
  cases h with
  | quiet _ hquiet =>
    cases hquiet with
    | steadyNow => exact .refl e.1
    | tickSession id target period =>
      exact ⟨List.prefix_rfl, e.1.sessions.tickSession_models sdk id _ _⟩
    | resetFinalJointTarget group feedback => exact e.1.reset_extends rtc group feedback
    | rebaseFinalJointTarget group current => exact e.1.rebase_extends rtc group current
    | updateFinalJointTarget group candidate period => exact e.1.update_extends rtc group candidate _
    | forwardKinematics => exact .refl e.1
  | startSession id request feedback period =>
    exact ⟨List.prefix_rfl, e.1.sessions.startSession_models sdk id request feedback _⟩
  | stopSession id => exact ⟨List.prefix_rfl, e.1.sessions.stopSession_models id⟩

theorem Calls.extends {e e' : SdkAdapter ι × γ}
    (h : Calls (sdkBackend sdk rtc kinematics steadyNow) e e') : Extends e.1 e'.1 := by
  induction h with
  | refl => exact .refl e.1
  | tail _ hcall ih => exact ih.trans hcall.extends

theorem Lawful.extends {e e' : SdkAdapter ι × γ}
    (h : Lawful (sdkPlatform sdk rtc kinematics steadyNow) e e') : Extends e.1 e'.1 := by
  induction h with
  | refl => exact .refl e.1
  | @tail e₁ e₂ _ hcall ih =>
    have hany : AnyCall (sdkBackend sdk rtc kinematics steadyNow) e₁ e₂ := by
      cases hcall with
      | quiet _ hquiet => exact .quiet _ _ hquiet
      | startSession id request feedback period _ => exact .startSession _ id request feedback period
      | stopSession id => exact .stopSession _ id
    exact ih.trans hany.extends

theorem Shaped.fromRtc {dt : Rat} {e e' : SdkAdapter ι × γ} {c : JointCommand}
    (h : Shaped (sdkBackend sdk rtc kinematics steadyNow) dt e e' c) :
    FromRtc e.1.sessions.groupModels dt (e'.1.finalCalls.drop e.1.finalCalls.length) c := by
  obtain ⟨command, id, limit, token, ⟨-, e₁, group, candidate, hbefore, hok, hanswer, hafter⟩, rfl⟩ := h
  obtain ⟨model, target, state, hmodel, hnames, hmem, hstatus, hmade⟩ :=
    e₁.1.update_fromRtc rtc group candidate dt hok
  have hcommand : (e₁.1.updateFinalJointTarget rtc group candidate (.fin dt)).1.candidate = command :=
    hanswer
  rw [hcommand] at hmodel hmem hmade
  rw [hbefore.extends.models] at hmodel
  refine ⟨model, target, state, hmodel, hnames, ?_, hstatus, hmade⟩
  have hlater := (hafter.extends.calls.drop e₁.1.finalCalls.length).subset hmem
  exact List.drop_subset_drop_left _ hbefore.extends.calls.length_le hlater

end

/-! ## Every run -/

namespace Fixture

/-- An RTC that has reached every target at once. -/
def echoRtc : RtcSdk where
  resetJointTarget _ _ _ := .ok ()
  updateJointTarget _ _ target _ := .ok ⟨.reached, "", target.jointNames, target.positions,
    target.velocities, target.accelerations⟩

def overSdk : Platform (SdkAdapter Unit × Unit) := sdkBackend pathSdk echoRtc none fun _ => (0, ())

def armGroups : List JointGroupModel := [⟨"arm", ["j1", "j2"], [0, 0], [3, 3]⟩]

/-- One servo target, given in another order than the model's. -/
def armTarget : List Op :=
  [endpoint "sv" .servoJ "arm" 10, .updateServo "sv" (.servoJ ⟨"servo:sv", "arm",
    { jointNames := ["j2", "j1"], positionsRad := [2, 1] }, {}⟩) 0 0 0]

def targetedArm : CommandPipeline (SdkAdapter Unit × Unit) :=
  (machine overSdk mathLib).run (CommandPipeline.create ({ sessions := armBackend }, ()) armGroups {})
    armTarget

def armFeedback : JointFeedback := ⟨["j1", "j2"], [1, 2], [0, 0], 0⟩

def armTick : Reply × CommandPipeline (SdkAdapter Unit × Unit) :=
  exec overSdk mathLib targetedArm (.tick armFeedback 1)

end Fixture

end HumanoidMotion
