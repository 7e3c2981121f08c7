import HumanoidMotion.Motion.TickRun
/-
# What the pipeline asks of the platform

Over the recorded platform, every part of the winner loop appends to the record.
Only two parts start or step a session of the SDK, and each does it once.

* `Logs P` — the record has grown by calls that satisfy `P`.
* `Call.plain period` — no start and no step, and a final RTC over `period`.
* `Grows` — a part of the tick that makes plain calls only.
* `TurnLog` — the calls of one turn (`turn_log`).
-/

namespace HumanoidMotion

/-! ## Records -/

/-- The record has grown by calls that satisfy `P`. -/
def Logs (P : Call → Prop) (calls calls' : List Call) : Prop :=
  ∃ more, calls' = calls ++ more ∧ ∀ call ∈ more, P call

section
variable {P Q : Call → Prop} {calls calls' calls'' : List Call}

theorem Logs.refl (P : Call → Prop) (calls : List Call) : Logs P calls calls :=
  ⟨[], by simp, by simp⟩

theorem Logs.trans (h : Logs P calls calls') (h' : Logs P calls' calls'') : Logs P calls calls'' := by
  obtain ⟨more, rfl, hmore⟩ := h
  obtain ⟨rest, rfl, hrest⟩ := h'
  refine ⟨more ++ rest, by simp, fun call hcall => ?_⟩
  rcases List.mem_append.1 hcall with h | h
  · exact hmore call h
  · exact hrest call h

theorem Logs.one (call : Call) (h : P call) (calls : List Call) : Logs P calls (calls ++ [call]) :=
  ⟨[call], rfl, by simpa using h⟩

end

/-- Neither a start nor a step of a session; a final RTC is over `period`. -/
def Call.plain (period : Rat) : Call → Prop
  | .startSession .. | .tickSession .. => False
  | .updateFinalJointTarget _ _ p => p = period
  | _ => True

theorem Call.plain_update (group : String) (candidate : JointCommand) (period : Rat) :
    (Call.updateFinalJointTarget group candidate period).plain period := rfl

namespace Tick

variable {β : Type} {B : Platform β} {lib : MathLib} {ctx : TickContext}

/-- The calls made so far. -/
abbrev callsOf (s : TickState (β × List Call)) : List Call := s.pipeline.backend.2

/-- The time of the last tick, and what the period of the next one is computed from. -/
def timesOf {γ : Type} (p : CommandPipeline γ) : Option SteadyTime × Rat × CommandPipelineConfig :=
  (p.lastTickTime, p.periodSec, p.config)

def clockOf {γ : Type} (s : TickState γ) :
    Rat × Option SteadyTime × Rat × CommandPipelineConfig :=
  (s.pipeline.currentPeriodSec, timesOf s.pipeline)

/-- A part of the tick that makes plain calls only. -/
structure Grows (s s' : TickState (β × List Call)) : Prop where
  logs : Logs (Call.plain s.pipeline.currentPeriodSec) (callsOf s) (callsOf s')
  clock : clockOf s' = clockOf s

theorem Grows.period {s s' : TickState (β × List Call)} (h : Grows s s') :
    s'.pipeline.currentPeriodSec = s.pipeline.currentPeriodSec := congrArg Prod.fst h.clock

theorem Grows.refl (s : TickState (β × List Call)) : Grows s s := ⟨.refl _ _, rfl⟩

theorem Grows.trans (a b c : TickState (β × List Call)) (h : Grows a b) (h' : Grows b c) :
    Grows a c := ⟨h.logs.trans (h.period ▸ h'.logs), h'.clock.trans h.clock⟩

/-- Nothing but the rest of the state has changed. -/
theorem Grows.of_eq {s s' : TickState (β × List Call)}
    (hbackend : s'.pipeline.backend = s.pipeline.backend)
    (hclock : clockOf s' = clockOf s) : Grows s s' :=
  ⟨by rw [callsOf, callsOf, hbackend]; exact .refl _ _, hclock⟩

theorem Grows.backend (s : TickState (β × List Call)) {e : β × List Call}
    (h : Logs (Call.plain s.pipeline.currentPeriodSec) (callsOf s) e.2) : Grows s (s.withBackend e) :=
  ⟨h, rfl⟩

/-! ## Relations that the admission of a winner respects -/

/-- A preorder that every action of the admission respects. -/
structure Respected (B : Platform β) (R : TickState β → TickState β → Prop) : Prop where
  refl : ∀ s, R s s
  trans : ∀ a b c, R a b → R b c → R a c
  read : ∀ s, R s (s.withBackend (B.steadyNow s.pipeline.backend).2)
  stop : ∀ s lib session selected,
    R s (s.withBackend (s.pipeline.controlledStop B lib session selected).2)
  terminate : ∀ s id state status preserve,
    R s (s.withPipeline (s.pipeline.terminate B id state status preserve))
  issue : ∀ s id limit command, R s (s.issue id limit command)

section
variable {α : Type} {R : TickState β → TickState β → Prop}

theorem liftExcept_relates (hrefl : ∀ s, R s s) (value : Except OutOfRange α) :
    Prog.Relates R (liftExcept value : TickM β α) := by
  cases value with
  | error => exact Prog.relates_throw hrefl _
  | ok a => exact Prog.relates_pure hrefl a

theorem at?_relates (hrefl : ∀ s, R s s) (value : Option α) :
    Prog.Relates R (at? value : TickM β α) := by
  cases value with
  | none => exact Prog.relates_throw hrefl _
  | some a => exact Prog.relates_pure hrefl a

theorem continueIf_relates (hrefl : ∀ s, R s s) (condition : Bool) :
    Prog.Relates R (continueIf condition : TickM β Unit) :=
  Prog.relates_ite (Prog.relates_throw hrefl _) (Prog.relates_pure hrefl _)

theorem deadline_relates (hrefl : ∀ s, R s s) (htrans : ∀ a b c, R a b → R b c → R a c)
    (session : Session) : Prog.Relates R (deadline ctx session : TickM β SteadyTime) :=
  Prog.relates_bind htrans (Prog.relates_get hrefl) fun _ =>
    Prog.relates_ite
      (Prog.relates_bind htrans (at?_relates hrefl _) fun _ => Prog.relates_pure hrefl _)
      (Prog.relates_pure hrefl _)

theorem appendCommand_relates (hrefl : ∀ s, R s s) (htrans : ∀ a b c, R a b → R b c → R a c)
    (hissue : ∀ s id limit command, R s (s.issue id limit command)) (session : Session)
    (command : JointCommand) :
    Prog.Relates R (appendCommand ctx session command : TickM β Unit) :=
  Prog.relates_bind htrans (deadline_relates hrefl htrans _) fun _ =>
    Prog.relates_modify fun s => hissue s _ _ command

namespace Respected

variable (h : Respected B R)
include h

theorem currentTime : Prog.Relates R (currentTime B ctx) :=
  Prog.relates_bind h.trans (Prog.relates_modifyGet h.read) fun _ => Prog.relates_pure h.refl _

theorem ending (id : String) (state : SessionState) (status : MotionStatus) (preserve : Bool) :
    Prog.Relates R (Tick.terminate B id state status preserve) :=
  Prog.relates_modify fun s => h.terminate s id state status preserve

theorem checkTime (id : String) : Prog.Relates R (checkTime B ctx id) := by
  refine Prog.relates_bind h.trans (Prog.relates_get h.refl) fun s => ?_
  split
  · exact Prog.relates_throw h.refl _
  · exact Prog.relates_bind h.trans h.currentTime fun _ =>
      Prog.relates_bind h.trans (deadline_relates h.refl h.trans _) fun _ =>
        Prog.relates_ite
          (Prog.relates_bind h.trans (h.ending _ _ _ _) fun _ => Prog.relates_throw h.refl _)
          (Prog.relates_pure h.refl _)

theorem stopSession (session : Session) (selected : JointFeedback) :
    Prog.Relates R (stopSession B lib ctx session selected) := by
  refine Prog.relates_bind h.trans
    (Prog.relates_modifyGet fun s => h.stop s lib session selected) fun stop => ?_
  cases stop with
  | none => exact Prog.relates_pure h.refl _
  | some hold => exact appendCommand_relates h.refl h.trans h.issue session hold

theorem stopAndTerminate (id : String) (session : Session) (selected : JointFeedback)
    (status : MotionStatus) :
    Prog.Relates R (stopAndTerminate B lib ctx id session selected status : TickM β α) :=
  Prog.relates_bind h.trans (h.stopSession _ _) fun _ =>
    Prog.relates_bind h.trans (h.ending _ _ _ _) fun _ => Prog.relates_throw h.refl _

theorem awaitRetry (session : Session) : Prog.Relates R (awaitRetry B ctx session) := by
  refine Prog.relates_bind h.trans (Prog.relates_get h.refl) fun s => ?_
  split
  · exact Prog.relates_pure h.refl _
  · exact Prog.relates_ite
      (Prog.relates_bind h.trans h.currentTime fun _ => continueIf_relates h.refl _)
      (Prog.relates_pure h.refl _)

theorem admitWinner (id : String) : Prog.Relates R (admitWinner B lib ctx id) := by
  refine Prog.relates_bind h.trans (Prog.relates_get h.refl) fun s => ?_
  split
  · exact Prog.relates_throw h.refl _
  · refine Prog.relates_bind h.trans (at?_relates h.refl _) fun _ =>
      Prog.relates_bind h.trans h.currentTime fun _ => Prog.relates_ite
        (Prog.relates_bind h.trans (h.ending _ _ _ _) fun _ => Prog.relates_throw h.refl _)
        (Prog.relates_bind h.trans (h.checkTime _) fun _ =>
          Prog.relates_bind h.trans (liftExcept_relates h.refl _) fun _ =>
            Prog.relates_bind h.trans (h.awaitRetry _) fun _ =>
              Prog.relates_ite (h.stopAndTerminate _ _ _ _) (Prog.relates_pure h.refl _))

end Respected

end

/-- The admission leaves the retry times alone. -/
theorem retries_respected : Respected B fun s s' : TickState β =>
    s'.pipeline.servoRetryAfter = s.pipeline.servoRetryAfter where
  refl _ := rfl
  trans _ _ _ h h' := h'.trans h
  read _ := rfl
  stop _ _ _ _ := rfl
  terminate s id state status preserve := CommandPipeline.terminate_frame s.pipeline id state status
    preserve (fun q => q.servoRetryAfter) (fun _ => rfl) fun _ _ => rfl
  issue _ _ _ _ := rfl

theorem Respected.and {R' : TickState β → TickState β → Prop} {R : TickState β → TickState β → Prop}
    (h : Respected B R) (h' : Respected B R') : Respected B fun s s' => R s s' ∧ R' s s' where
  refl s := ⟨h.refl s, h'.refl s⟩
  trans a b c hab hbc := ⟨h.trans a b c hab.1 hbc.1, h'.trans a b c hab.2 hbc.2⟩
  read s := ⟨h.read s, h'.read s⟩
  stop s lib session selected := ⟨h.stop s lib session selected, h'.stop s lib session selected⟩
  terminate s id state status preserve :=
    ⟨h.terminate s id state status preserve, h'.terminate s id state status preserve⟩
  issue s id limit command := ⟨h.issue s id limit command, h'.issue s id limit command⟩

/-! ## Parts that make plain calls -/

theorem controlledStop_logs (p : CommandPipeline (β × List Call)) (session : Session)
    (selected : JointFeedback) :
    Logs (Call.plain p.currentPeriodSec) p.backend.2
      (p.controlledStop B.recorded lib session selected).2.2 := by
  unfold CommandPipeline.controlledStop
  split
  · exact .refl _ _
  · rename_i measured _
    have hreset := Logs.one (P := Call.plain p.currentPeriodSec)
      (.resetFinalJointTarget session.groupName measured) trivial p.backend.2
    dsimp only
    split
    · exact hreset
    · exact hreset.trans (.one _ (Call.plain_update _ _ _) _)

variable (B) in
theorem grows_respected : Respected B.recorded Grows where
  refl := .refl
  trans := .trans
  read s := .backend s (.one (.steadyNow _) trivial _)
  stop s _ session selected := .backend s (controlledStop_logs s.pipeline session selected)
  terminate s id state status preserve := by
    refine ⟨?_, CommandPipeline.terminate_frame s.pipeline id state status preserve
      (fun q => (q.currentPeriodSec, timesOf q)) (fun _ => rfl) fun _ _ => rfl⟩
    simp only [callsOf, TickState.withPipeline, CommandPipeline.terminate_backend]
    split
    · exact .one (.stopSession id) trivial _
    · exact .refl _ _
  issue _ _ _ _ := .of_eq rfl rfl

/-- Plain calls, and the retry times as they were. -/
def Waits (s s' : TickState (β × List Call)) : Prop :=
  Grows s s' ∧ s'.pipeline.servoRetryAfter = s.pipeline.servoRetryAfter

variable (B) in
theorem waits_respected : Respected B.recorded Waits := (grows_respected B).and retries_respected

/-- A reading has been taken since that lies past the retry time of a servo. -/
def RetryRead (ctx : TickContext) (s s' : TickState (β × List Call)) (session : Session) : Prop :=
  isServo session.kind = true → ∀ retry,
    s.pipeline.servoRetryAfter[session.endpointName]? = some retry →
    ∃ more reading, callsOf s' = callsOf s ++ more ∧ .steadyNow reading ∈ more ∧
      retry ≤ ctx.now + (reading - ctx.enteredAt)

theorem awaitRetry_read (s : TickState (β × List Call)) (session : Session)
    (hidle : session.backendStarted = false) :
    Prog.wp (awaitRetry B.recorded ctx session) (fun _ s' => RetryRead ctx s s' session)
      (fun _ _ => True) s := by
  unfold awaitRetry
  simp only [Prog.wp_bind, Prog.wp_get]
  split
  · rename_i hnone
    intro _ retry hretry
    rw [hnone] at hretry
    cases hretry
  · rename_i retry hretry
    rw [Prog.wp_ite]
    split
    · simp only [Prog.wp_bind, wp_currentTime, wp_continueIf, decide_eq_true_eq]
      split
      · trivial
      · rename_i hpast
        intro _ retry' hretry'
        cases hretry.symm.trans hretry'
        exact ⟨_, _, rfl, List.mem_singleton_self _, not_lt.1 hpast⟩
    · rename_i hnot
      intro hservo
      simp [hservo, hidle] at hnot

/-- A winner is admitted for a start only past its retry time. -/
theorem admitWinner_read (id : String) (s : TickState (β × List Call)) :
    Prog.wp (admitWinner B.recorded lib ctx id)
      (fun r s' => r.1.backendStarted = false → RetryRead ctx s s' r.1) (fun _ _ => True) s := by
  have hkept := waits_respected B
  unfold admitWinner
  simp only [Prog.wp_bind, Prog.wp_get]
  split
  · trivial
  · rename_i found _
    simp only [Prog.wp_bind]
    refine (at?_relates hkept.refl _ s).imp (fun _ s₁ h₁ => ?_) fun _ _ _ => trivial
    refine (hkept.currentTime s₁).imp (fun _ s₂ h₂ => ?_) fun _ _ _ => trivial
    rw [Prog.wp_ite]
    split
    · simp only [Prog.wp_bind, wp_terminate, Prog.wp_throw]
    · rw [Prog.wp_bind]
      refine (hkept.checkTime id s₂).imp (fun _ s₃ h₃ => ?_) fun _ _ _ => trivial
      rw [Prog.wp_bind]
      refine (liftExcept_relates hkept.refl _ s₃).imp (fun selected s₄ h₄ => ?_) fun _ _ _ => trivial
      have hbefore := hkept.trans _ _ _ (hkept.trans _ _ _ (hkept.trans _ _ _ h₁ h₂) h₃) h₄
      obtain ⟨early, hearly, -⟩ := hbefore.1.logs
      rw [Prog.wp_bind]
      by_cases hidle : found.backendStarted = false
      · refine (awaitRetry_read s₄ found hidle).imp (fun _ s₅ hread => ?_) fun _ _ _ => trivial
        rw [Prog.wp_ite]
        split
        · simp only [stopAndTerminate, Prog.wp_bind]
          exact (hkept.stopSession found selected s₅).imp (fun _ _ _ => trivial) fun _ _ _ => trivial
        · intro _ hservo retry hretry
          obtain ⟨more, reading, hmore, hin, hle⟩ := hread hservo retry (hbefore.2 ▸ hretry)
          exact ⟨early ++ more, reading, by rw [hmore, hearly, List.append_assoc],
            List.mem_append_right _ hin, hle⟩
      · refine (hkept.awaitRetry found s₄).imp (fun _ s₅ _ => ?_) fun _ _ _ => trivial
        rw [Prog.wp_ite]
        split
        · simp only [stopAndTerminate, Prog.wp_bind]
          exact (hkept.stopSession found selected s₅).imp (fun _ _ _ => trivial) fun _ _ _ => trivial
        · exact fun hno => absurd hno hidle

section
variable {α : Type}

theorem failBackend_grows (id : String) (status : MotionStatus) :
    Prog.Relates Grows (failBackend B.recorded ctx id status) :=
  Prog.relates_bind Grows.trans (Prog.relates_get .refl) fun _ =>
    Prog.relates_bind Grows.trans (at?_relates .refl _) fun _ =>
      Prog.relates_ite
        (Prog.relates_bind Grows.trans (grows_respected B).currentTime fun _ =>
          Prog.relates_bind Grows.trans (Prog.relates_modify fun _ => .of_eq rfl rfl) fun _ =>
            (grows_respected B).ending _ _ _ _)
        ((grows_respected B).ending _ _ _ _)

theorem stopAndFail_leaves (id : String) (session : Session) (selected : JointFeedback)
    (status : MotionStatus) (s : TickState (β × List Call)) :
    Prog.wp (stopAndFail B.recorded lib ctx id session selected status :
      TickM (β × List Call) α) (fun _ _ => False) (fun _ s' => Grows s s') s := by
  unfold stopAndFail
  refine (Prog.wp_bind _ _).2 (((grows_respected B).stopSession session selected s).imp (fun _ s₁ h₁ => ?_)
    fun _ _ h => h)
  refine (Prog.wp_bind _ _).2 ((failBackend_grows id status s₁).imp (fun _ s₂ h₂ => ?_)
    fun _ _ h => h₁.trans _ _ _ h)
  exact h₁.trans _ _ _ h₂

theorem stopAndFail_grows (id : String) (session : Session) (selected : JointFeedback)
    (status : MotionStatus) :
    Prog.Relates Grows (stopAndFail B.recorded lib ctx id session selected status :
      TickM (β × List Call) α) := fun s =>
  (stopAndFail_leaves id session selected status s).imp (fun _ _ h => h.elim) fun _ _ h => h

theorem beginGoal_grows (id : String) (goal : JointTarget) (cartesian : Option Pose)
    (startedAt : SteadyTime) :
    Prog.Relates Grows (beginGoal B.recorded id goal cartesian startedAt) :=
  Prog.relates_bind Grows.trans (Prog.relates_modifyGet fun _ => .of_eq rfl rfl) fun _ =>
    Prog.relates_ite
      (Prog.relates_bind Grows.trans ((grows_respected B).ending _ _ _ _) fun _ => Prog.relates_throw .refl _)
      (Prog.relates_pure .refl _)

theorem emitFinal_grows (id : String) (session : Session) (group : JointGroupModel)
    (command : JointCommand) :
    Prog.Relates Grows (emitFinal lib ctx id session group command :
      TickM (β × List Call) Session) :=
  Prog.relates_bind Grows.trans
    (appendCommand_relates .refl .trans (fun _ _ _ _ => .of_eq rfl rfl) _ _) fun _ =>
    Prog.relates_bind Grows.trans (liftExcept_relates .refl _) fun _ =>
      Prog.relates_bind Grows.trans (Prog.relates_modify fun _ => .of_eq rfl rfl) fun _ =>
        Prog.relates_ite
          (Prog.relates_bind Grows.trans (Prog.relates_modify fun _ => .of_eq rfl rfl) fun _ =>
            Prog.relates_pure .refl _)
          (Prog.relates_pure .refl _)

theorem goalPose_grows (id : String) (session : Session) (selected : JointFeedback) :
    Prog.Relates Grows (goalPose B.recorded lib ctx id session selected) := by
  unfold goalPose
  split
  · exact Prog.relates_pure .refl _
  · exact Prog.relates_bind Grows.trans (liftExcept_relates .refl _) fun _ =>
      Prog.relates_bind Grows.trans
        (Prog.relates_modifyGet fun s => .backend s (.one (.forwardKinematics _) trivial _))
        fun _ => Prog.relates_ite
          (Prog.relates_bind Grows.trans (Prog.relates_modify fun _ => .of_eq rfl rfl) fun _ =>
            (grows_respected B).stopAndTerminate _ _ _ _)
          (Prog.relates_pure .refl _)

theorem concludeGoal_grows (id : String) (session : Session) (selected : JointFeedback)
    (observation : GoalObservationResult) :
    Prog.Relates Grows (concludeGoal B.recorded lib ctx id session selected observation) := by
  unfold concludeGoal
  split
  · exact (grows_respected B).ending _ _ _ _
  · exact Prog.relates_bind Grows.trans (Prog.relates_modify fun _ => .of_eq rfl rfl) fun _ =>
      (grows_respected B).stopAndTerminate _ _ _ _
  · exact Prog.relates_bind Grows.trans (Prog.relates_modify fun _ => .of_eq rfl rfl) fun _ =>
      (grows_respected B).stopAndTerminate _ _ _ _
  · exact Prog.relates_pure .refl _

theorem observeGoal_grows (id : String) (session : Session) (selected : JointFeedback) :
    Prog.Relates Grows (observeGoal B.recorded lib ctx id session selected) :=
  Prog.relates_bind Grows.trans (goalPose_grows _ _ _) fun _ =>
    Prog.relates_bind Grows.trans (Prog.relates_modifyGet fun _ => .of_eq rfl rfl) fun _ =>
      concludeGoal_grows _ _ _ _

theorem monitorGoal_grows (id : String) (session : Session) (selected : JointFeedback)
    (backendTick : BackendTick) :
    Prog.Relates Grows (monitorGoal B.recorded lib ctx id session selected backendTick) :=
  Prog.relates_bind Grows.trans (continueIf_relates .refl _) fun _ =>
    Prog.relates_bind Grows.trans (Prog.relates_get .refl) fun _ => Prog.relates_ite
      (Prog.relates_bind Grows.trans (beginGoal_grows _ _ _ _) fun _ => observeGoal_grows _ _ _)
      (Prog.relates_bind Grows.trans (Prog.relates_get .refl) fun _ =>
        Prog.relates_bind Grows.trans (continueIf_relates .refl _) fun _ => observeGoal_grows _ _ _)

theorem rebaseAndRetry_grows (session : Session) (selected : JointFeedback)
    (group : JointGroupModel) (candidate : JointCommand) (finalTick : BackendTick)
    (status : MotionStatus) :
    Prog.Relates Grows
      (rebaseAndRetry B.recorded lib session selected group candidate finalTick status) := by
  intro s
  unfold rebaseAndRetry
  simp only [Prog.wp_bind, Prog.wp_get]
  split
  · exact .refl s
  · rename_i seed hseed
    simp only [Prog.wp_bind, wp_call]
    have hrebase : Grows s (s.withBackend
        (B.recorded.rebaseFinalJointTarget s.pipeline.backend session.groupName seed).2) :=
      .backend s (.one (.rebaseFinalJointTarget _ _) trivial _)
    rw [Prog.wp_ite]
    split
    · exact hrebase
    · simp only [Prog.wp_bind, wp_call]
      have hretry := hrebase.trans _ _ _ (.backend _ (e := (B.recorded.updateFinalJointTarget
        (s.withBackend (B.recorded.rebaseFinalJointTarget s.pipeline.backend session.groupName
          seed).2).pipeline.backend session.groupName candidate s.pipeline.currentPeriodSec).2)
        (.one _ (Call.plain_update _ _ _) _))
      rw [Prog.wp_ite]
      split
      · exact hretry
      · exact (Prog.relates_bind Grows.trans (liftExcept_relates .refl _) (fun _ =>
          Prog.relates_pure .refl _) _).imp (fun _ _ h => hretry.trans _ _ _ h)
            fun _ _ h => hretry.trans _ _ _ h

theorem finalRtc_grows (id : String) (session : Session) (selected : JointFeedback)
    (group : JointGroupModel) (candidate : JointCommand) :
    Prog.Relates Grows (finalRtc B.recorded lib ctx id session selected group candidate) := by
  intro s
  unfold finalRtc
  rw [Prog.wp_bind, Prog.wp_get, Prog.wp_bind, wp_call]
  set answer := B.recorded.updateFinalJointTarget s.pipeline.backend session.groupName candidate
    s.pipeline.currentPeriodSec with hanswer
  have hupdate : Grows s (s.withBackend answer.2) :=
    .backend s (.one _ (Call.plain_update _ _ _) _)
  -- the last two tests, whatever the first output has led to
  have hrest : ∀ r : BackendTick × MotionStatus, Prog.Relates Grows
      (if !r.2.ok then stopAndFail B.recorded lib ctx id session selected r.2
        else if !r.1.candidate.passedFinalSdkRtc then
          stopAndFail B.recorded lib ctx id session selected bypassStatus
        else pure r.1.candidate : TickM (β × List Call) JointCommand) := fun r =>
    Prog.relates_ite (stopAndFail_grows _ _ _ _)
      (Prog.relates_ite (stopAndFail_grows _ _ _ _) (Prog.relates_pure .refl _))
  refine (Prog.relates_bind Grows.trans ((grows_respected B).checkTime id) (fun _ => Prog.relates_ite
    (stopAndFail_grows _ _ _ _) (Prog.relates_bind Grows.trans (liftExcept_relates .refl _) fun status =>
      Prog.relates_ite ?_ (hrest (answer.1, status)))) _).imp
    (fun _ _ h => hupdate.trans _ _ _ h) fun _ _ h => hupdate.trans _ _ _ h
  exact Prog.relates_bind Grows.trans (rebaseAndRetry_grows _ _ _ _ _ _) fun r => hrest r

end

/-! ## Starts and steps -/

/-- The session has been started, and plain calls have followed. -/
def Began (id : String) (session : Session) (selected : JointFeedback)
    (s s' : TickState (β × List Call)) : Prop :=
  ∃ answer, Logs (Call.plain s.pipeline.currentPeriodSec) (callsOf s ++
      [.startSession id session.request selected s.pipeline.currentPeriodSec answer]) (callsOf s') ∧
    clockOf s' = clockOf s

/-- The session has been stepped, and plain calls have followed. -/
def Stepped (id : String) (session : Session) (s s' : TickState (β × List Call)) : Prop :=
  Logs (Call.plain s.pipeline.currentPeriodSec) (callsOf s ++
      [.tickSession id (dynamicTarget session.request) s.pipeline.currentPeriodSec]) (callsOf s') ∧
    clockOf s' = clockOf s

theorem Began.grows {id : String} {session : Session} {selected : JointFeedback}
    {s s' s'' : TickState (β × List Call)} (h : Began id session selected s s') (h' : Grows s' s'') :
    Began id session selected s s'' := by
  obtain ⟨answer, hlogs, hclock⟩ := h
  have hperiod : s'.pipeline.currentPeriodSec = s.pipeline.currentPeriodSec :=
    congrArg Prod.fst hclock
  exact ⟨answer, hlogs.trans (hperiod ▸ h'.logs), h'.clock.trans hclock⟩

theorem Stepped.grows {id : String} {session : Session} {s s' s'' : TickState (β × List Call)}
    (h : Stepped id session s s') (h' : Grows s' s'') : Stepped id session s s'' := by
  obtain ⟨hlogs, hclock⟩ := h
  have hperiod : s'.pipeline.currentPeriodSec = s.pipeline.currentPeriodSec :=
    congrArg Prod.fst hclock
  exact ⟨hlogs.trans (hperiod ▸ h'.logs), h'.clock.trans hclock⟩

theorem startWinner_log (id : String) (session : Session) (selected : JointFeedback)
    (s : TickState (β × List Call)) :
    Prog.wp (startWinner B.recorded lib ctx id session selected)
      (fun session' s' => (session.backendStarted = true ∧ session' = session ∧ s' = s) ∨
        (session.backendStarted = false ∧ session'.request = session.request ∧
          Began id session selected s s'))
      (fun _ s' => session.backendStarted = false ∧ Began id session selected s s') s := by
  unfold startWinner
  split
  · rename_i hstarted
    exact .inl ⟨hstarted, rfl, rfl⟩
  · rename_i hidle
    simp only [Bool.not_eq_true] at hidle
    simp only [Prog.wp_bind, Prog.wp_get, wp_call]
    set answer := B.recorded.startSession s.pipeline.backend id session.request selected
      s.pipeline.currentPeriodSec with hanswer
    have hbegan : Began id session selected s (s.withBackend answer.2) :=
      ⟨answer.1, .refl _ _, rfl⟩
    have hcheck : Prog.wp (checkTime B.recorded ctx id) (fun _ => Grows (s.withBackend answer.2))
        (fun _ => Grows (s.withBackend answer.2)) (s.withBackend answer.2) :=
      (grows_respected B).checkTime id (s.withBackend answer.2)
    refine hcheck.imp (fun _ s₁ h₁ => ?_) fun _ _ h => ⟨hidle, hbegan.grows h⟩
    have hbegan₁ := hbegan.grows h₁
    rw [Prog.wp_ite]
    split
    · exact (stopAndFail_leaves id session selected answer.1 s₁).imp (fun _ _ h => h.elim)
        fun _ _ h => ⟨hidle, hbegan₁.grows h⟩
    · rw [Prog.wp_bind, wp_call]
      have hreset := hbegan₁.grows (.backend s₁ (e := (B.recorded.resetFinalJointTarget
        s₁.pipeline.backend session.groupName selected).2)
        (.one (.resetFinalJointTarget session.groupName selected) trivial _))
      rw [Prog.wp_bind]
      refine ((grows_respected B).checkTime id _).imp (fun _ s₂ h₂ => ?_) fun _ _ h => ⟨hidle, hreset.grows h⟩
      have hbegan₂ := hreset.grows h₂
      rw [Prog.wp_ite]
      split
      · exact (stopAndFail_leaves id session selected _ s₂).imp (fun _ _ h => h.elim)
          fun _ _ h => ⟨hidle, hbegan₂.grows h⟩
      · rw [Prog.wp_bind, Prog.wp_get, Prog.wp_bind]
        refine (at?_relates .refl _ s₂).imp (fun model s₃ h₃ => ?_) fun _ _ h => ⟨hidle, hbegan₂.grows h⟩
        have hmark : Grows s₃ (markStarted s₃ id (startedSession session model selected)) :=
          .of_eq rfl rfl
        have hmarked := (hbegan₂.grows h₃).grows hmark
        simp only [Prog.wp_bind, Prog.wp_modify]
        rw [Prog.wp_ite]
        split
        · rw [Prog.wp_bind]
          exact (beginGoal_grows id _ _ _ _).imp
            (fun _ s₄ h₄ => .inr ⟨hidle, rfl, hmarked.grows h₄⟩)
            fun _ _ h => ⟨hidle, hmarked.grows h⟩
        · exact .inr ⟨hidle, rfl, hmarked⟩

theorem candidateOf_log (id : String) (session : Session) (selected : JointFeedback)
    (group : JointGroupModel) (s : TickState (β × List Call)) :
    Prog.wp (candidateOf B.recorded lib ctx id session selected group)
      (fun _ s' => Stepped id session s s') (fun _ s' => Stepped id session s s') s := by
  unfold candidateOf
  rw [Prog.wp_bind, Prog.wp_get, Prog.wp_bind, wp_call]
  set answer := B.recorded.tickSession s.pipeline.backend id (dynamicTarget session.request)
    s.pipeline.currentPeriodSec with hanswer
  have hstep : Stepped id session s (s.withBackend answer.2) := ⟨.refl _ _, rfl⟩
  refine (Prog.relates_bind Grows.trans ((grows_respected B).checkTime id) (fun _ => Prog.relates_ite
    (stopAndFail_grows _ _ _ _) (Prog.relates_bind Grows.trans (liftExcept_relates .refl _) fun _ =>
      Prog.relates_ite (stopAndFail_grows _ _ _ _) (Prog.relates_pure .refl _))) _).imp
    (fun _ _ h => hstep.grows h) fun _ _ h => hstep.grows h

/-! ## One turn -/

/-- The SDK does not run the session, if there is one. -/
def Unstarted (id : String) {γ : Type} (s : TickState γ) : Prop :=
  ∀ session, s.pipeline.sessions[id]? = some session → session.backendStarted = false

section
variable {γ : Type} {P : Platform γ} {id : String} {session : Session} {selected : JointFeedback}
  {s s' : TickState γ}

theorem Unstarted.of_none (h : s.pipeline.sessions[id]? = none) : Unstarted id s := by
  intro stored hstored
  rw [h] at hstored
  cases hstored

theorem Stopped.unstarted (h : Stopped P lib ctx id session selected s s') : Unstarted id s' := by
  cases h
  exact .of_none (by simp [TickState.withPipeline])

theorem Ended.unstarted (h : Ended P lib ctx id session selected s s') : Unstarted id s' := by
  cases h with
  | dropped => exact .of_none (by simp [TickState.withPipeline])
  | stopped _ hstop => exact hstop.unstarted

/-- A winner that is not admitted is not run by the SDK afterwards. -/
theorem admitWinner_unstarted (hsound : ∀ session, s.pipeline.sessions[id]? = some session →
      SessionOk s.pipeline id session) :
    Prog.wp (admitWinner P lib ctx id) (fun _ _ => True) (fun _ s' => Unstarted id s') s := by
  unfold admitWinner
  simp only [Prog.wp_bind, Prog.wp_get]
  split
  · rename_i hnone
    exact .of_none hnone
  · rename_i found hfound
    have hstored : Stored s id found := ⟨hfound, hsound found hfound⟩
    obtain ⟨group, hgroup, hnames, -⟩ := hstored.ok.group
    simp only [Prog.wp_bind, wp_at? hgroup, wp_currentTime]
    have hm₁ : Moved P s (s.withBackend (P.steadyNow s.pipeline.backend).2) := .call (.steadyNow _)
    rw [Prog.wp_ite]
    split
    · simp only [Prog.wp_bind, wp_terminate, Prog.wp_throw]
      exact .of_none (by simp [TickState.withPipeline])
    · rename_i hvalid
      simp only [Bool.not_eq_true', Bool.not_eq_false] at hvalid
      obtain ⟨selected, hselected⟩ := selectFeedback_total ctx.feedback found.jointNames
        (hnames ▸ (validateFeedback_ok hvalid).2.2)
      rw [Prog.wp_bind]
      refine wp_checkTime (hstored.moved hm₁) (fun s₂ hm₂ => ?_)
        fun s' (h : Ended P lib ctx id found selected _ s') => h.unstarted
      simp only [Prog.wp_bind, wp_liftExcept hselected]
      refine (awaitRetry_spec s₂ found).imp ?_ ?_
      · rintro _ s₃ ⟨hm₃, -⟩
        rw [Prog.wp_ite]
        split
        · exact wp_stopAndTerminate (hstored.moved ((hm₁.trans hm₂).trans hm₃)) hselected
            fun s' h => h.unstarted
        · trivial
      · rintro x s₃ ⟨-, -, hidle, hm₃⟩ stored hstored'
        rw [((hm₁.trans hm₂).trans hm₃).sessions, hfound] at hstored'
        cases hstored'
        exact hidle

end

/-- What the turn of `id` asks of the platform, and whether the SDK runs the session then. -/
inductive TurnLog (B : Platform β) (ctx : TickContext) (id : String)
    (s s' : TickState (β × List Call)) : Prop
  | still (hgrows : Grows s s')
      (hretries : s'.pipeline.servoRetryAfter = s.pipeline.servoRetryAfter)
      (hidle : Unstarted id s')
  | began (session : Session) (selected : JointFeedback) (s₁ : TickState (β × List Call))
      (hfound : s.pipeline.sessions[id]? = some session) (hstopped : session.backendStarted = false)
      (hselected : selectFeedback ctx.feedback session.jointNames = .ok selected)
      (hgrows : Grows s s₁) (hmoved : Moved B.recorded s s₁)
      (hretry : RetryRead ctx s s₁ session)
      (hbegan : Began id session selected s₁ s') (hidle : Unstarted id s')
  | stepped (session : Session) (s₁ : TickState (β × List Call))
      (hfound : s.pipeline.sessions[id]? = some session) (hstarted : session.backendStarted = true)
      (hgrows : Grows s s₁) (hstep : Stepped id session s₁ s')
  | both (session session' : Session) (selected : JointFeedback)
      (s₁ s₂ : TickState (β × List Call))
      (hfound : s.pipeline.sessions[id]? = some session) (hstopped : session.backendStarted = false)
      (hselected : selectFeedback ctx.feedback session.jointNames = .ok selected)
      (hgrows : Grows s s₁) (hmoved : Moved B.recorded s s₁)
      (hretry : RetryRead ctx s s₁ session)
      (hbegan : Began id session selected s₁ s₂) (hstep : Stepped id session' s₂ s')

/-- The calls of a turn, over sound lookups. -/
theorem winnerTurn_log {id : String} {s : TickState (β × List Call)}
    (hsound : ∀ session, s.pipeline.sessions[id]? = some session →
      SessionOk s.pipeline id session) :
    Prog.wp (winnerTurn B.recorded lib ctx id) (fun _ s' => TurnLog B ctx id s s')
      (fun _ s' => TurnLog B ctx id s s') s := by
  unfold winnerTurn
  rw [Prog.wp_bind]
  refine (((admitWinner_spec hsound).and (admitWinner_unstarted hsound)).and
    (((waits_respected B).admitWinner id s).and
      (admitWinner_read id s))).imp ?_ fun _ _ h => .still h.2.1.1 h.2.1.2 h.1.2
  rintro ⟨session, selected⟩ s₁ ⟨⟨⟨group, h, hm₁, hmeasured, hretry⟩, -⟩, ⟨hgrows, -⟩, hread⟩
  dsimp only at h hmeasured hretry ⊢
  rw [Prog.wp_bind]
  refine ((startWinner_spec (h.moved hm₁) (hmeasured.fixed hm₁.fixed) hretry).and
    (startWinner_log id session selected s₁)).imp ?_ ?_
  · rintro session' s₂ ⟨hrun, hlog⟩
    -- what is left of the turn once the session has been stepped
    have hrest : Prog.wp (do
          let group ← at? (← get).pipeline.groups[session'.groupName]?
          let backendTick ← candidateOf B.recorded lib ctx id session' selected group
          let command ← finalRtc B.recorded lib ctx id session' selected group backendTick.candidate
          let session ← emitFinal lib ctx id session' group command
          monitorGoal B.recorded lib ctx id session selected backendTick)
        (fun _ s' => Stepped id session' s₂ s') (fun _ s' => Stepped id session' s₂ s') s₂ := by
      obtain ⟨-, -, hmeasured₂⟩ := hrun.stored (h.moved hm₁) (hmeasured.fixed hm₁.fixed)
      rw [Prog.wp_bind, Prog.wp_get, Prog.wp_bind, wp_at? hmeasured₂.found, Prog.wp_bind]
      refine (candidateOf_log id session' selected group s₂).imp (fun backendTick s₃ h₃ => ?_)
        fun _ _ h => h
      exact (Prog.relates_bind Grows.trans (finalRtc_grows _ _ _ _ _) (fun _ =>
        Prog.relates_bind Grows.trans (emitFinal_grows _ _ _ _) fun _ =>
          monitorGoal_grows _ _ _ _) s₃).imp (fun _ _ h => h₃.grows h) fun _ _ h => h₃.grows h
    rcases hlog with ⟨hstarted, rfl, rfl⟩ | ⟨hidle, -, hbegan⟩
    · exact hrest.imp (fun _ _ hs => .stepped session' _ h.found hstarted hgrows hs)
        fun _ _ hs => .stepped session' _ h.found hstarted hgrows hs
    · exact hrest.imp
        (fun _ _ hs => .both session session' selected s₁ s₂ h.found hidle hmeasured.selected hgrows
          hm₁ (hread hidle) hbegan hs)
        fun _ _ hs => .both session session' selected s₁ s₂ h.found hidle hmeasured.selected hgrows
          hm₁ (hread hidle) hbegan hs
  · rintro x s' ⟨⟨-, -, hended⟩, hidle, hbegan⟩
    exact .began session selected s₁ h.found hidle hmeasured.selected hgrows hm₁ (hread hidle) hbegan
      hended.unstarted

theorem turn_log {E : Exit → TickState (β × List Call) → Prop} {id : String}
    {s : TickState (β × List Call)}
    (hsound : ∀ session, s.pipeline.sessions[id]? = some session →
      SessionOk s.pipeline id session) :
    Prog.wp (turn B.recorded lib ctx id)
      (fun _ s' => TurnLog B ctx id s s' ∧ Turn B.recorded lib ctx id s s') E s := by
  unfold turn
  rw [Prog.wp_catchExit]
  refine ((winnerTurn_turn hsound).and (winnerTurn_log hsound)).imp (fun _ _ h => ⟨h.2, h.1⟩) ?_
  rintro x s' ⟨⟨rfl, h⟩, hlog⟩
  exact ⟨hlog, h⟩

end Tick

end HumanoidMotion
