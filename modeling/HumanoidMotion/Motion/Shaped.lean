import HumanoidMotion.Motion.Elapsed
import HumanoidMotion.Motion.Emission
/-
# Every command of a tick is an output of the final RTC

The source calls its final RTC "the only path to a normal publishable command",
and a hold takes the same path. So every command that a tick returns is what the
backend answered, in this tick and over its period, to `updateFinalJointTarget`.

* `Output` — an answer of the final RTC between two states of the backend.
* `Delivers` — how a part of the tick moves the backend and the commands; the
  parts that issue a command are given its `Output`.
* `tick_shaped` — the commands of a whole tick.
-/

namespace HumanoidMotion

open Tick

variable {β : Type} (B : Platform β)

/-- Between the states `e` and `e'` of the backend, the final RTC of a group was updated over
`dt`, and answered with this command. -/
structure Output (dt : Rat) (e e' : β) (command : JointCommand) : Prop where
  rtc : command.passedFinalSdkRtc = true
  asked : ∃ e₁ group candidate, Calls B e e₁ ∧
    (B.updateFinalJointTarget e₁ group candidate dt).1.status.ok = true ∧
    (B.updateFinalJointTarget e₁ group candidate dt).1.candidate = command ∧
    Calls B (B.updateFinalJointTarget e₁ group candidate dt).2 e'

/-- An output, as a tick returns it. -/
def Shaped (dt : Rat) (e e' : β) (c : JointCommand) : Prop :=
  ∃ command id limit token, Output B dt e e' command ∧ c = command.stamp id limit token

namespace Tick

/-- Since `e` the tick has issued nothing but outputs of the final RTC. -/
structure Delivering (e : β) (dt : Rat) (s : TickState β) : Prop where
  calls : Calls B e s.pipeline.backend
  period : s.pipeline.currentPeriodSec = dt
  commands : ∀ c ∈ s.commands, Shaped B dt e s.pipeline.backend c

/-- A part of the tick that issues nothing else. -/
def Delivers (e : β) (dt : Rat) (s s' : TickState β) : Prop :=
  Delivering B e dt s → Delivering B e dt s' ∧ Calls B s.pipeline.backend s'.pipeline.backend

end Tick

section
variable {B} {lib : MathLib} {ctx : TickContext} {dt : Rat} {e e' e'' : β} {command : JointCommand}

theorem Output.later (h : Output B dt e e' command) (hcalls : Calls B e' e'') :
    Output B dt e e'' command := by
  obtain ⟨hrtc, e₁, group, candidate, hbefore, hok, hanswer, hafter⟩ := h
  exact ⟨hrtc, e₁, group, candidate, hbefore, hok, hanswer, hafter.trans hcalls⟩

theorem Output.earlier (h : Output B dt e' e'' command) (hcalls : Calls B e e') :
    Output B dt e e'' command := by
  obtain ⟨hrtc, e₁, group, candidate, hbefore, hok, hanswer, hafter⟩ := h
  exact ⟨hrtc, e₁, group, candidate, hcalls.trans hbefore, hok, hanswer, hafter⟩

/-- The answer to an update that has just been made. -/
theorem Output.fresh {e₁ : β} {group : String} {candidate : JointCommand} (hcalls : Calls B e e₁)
    (hok : (B.updateFinalJointTarget e₁ group candidate dt).1.status.ok = true)
    (hrtc : (B.updateFinalJointTarget e₁ group candidate dt).1.candidate.passedFinalSdkRtc = true) :
    Output B dt e (B.updateFinalJointTarget e₁ group candidate dt).2
      (B.updateFinalJointTarget e₁ group candidate dt).1.candidate :=
  ⟨hrtc, e₁, group, candidate, hcalls, hok, rfl, .refl _⟩

theorem Shaped.later {c : JointCommand} (h : Shaped B dt e e' c) (hcalls : Calls B e' e'') :
    Shaped B dt e e'' c := by
  obtain ⟨command, id, limit, token, houtput, rfl⟩ := h
  exact ⟨command, id, limit, token, houtput.later hcalls, rfl⟩

theorem Shaped.earlier {c : JointCommand} (h : Shaped B dt e' e'' c) (hcalls : Calls B e e') :
    Shaped B dt e e'' c := by
  obtain ⟨command, id, limit, token, houtput, rfl⟩ := h
  exact ⟨command, id, limit, token, houtput.earlier hcalls, rfl⟩

namespace Tick

/-! ## The steps that issue nothing -/

theorem Delivers.refl (s : TickState β) : Delivers B e dt s s := fun h => ⟨h, .refl _⟩

theorem Delivers.trans (a b c : TickState β) (h : Delivers B e dt a b)
    (h' : Delivers B e dt b c) : Delivers B e dt a c := fun ha =>
  ⟨(h' (h ha).1).1, (h ha).2.trans (h' (h ha).1).2⟩

/-- The commands stay, or some go. -/
theorem Delivers.quiet {s s' : TickState β} (hcalls : Calls B s.pipeline.backend s'.pipeline.backend)
    (hperiod : s'.pipeline.currentPeriodSec = s.pipeline.currentPeriodSec)
    (hcommands : ∀ c ∈ s'.commands, c ∈ s.commands) : Delivers B e dt s s' :=
  fun h => ⟨⟨h.calls.trans hcalls, hperiod.trans h.period,
    fun c hc => (h.commands c (hcommands c hc)).later hcalls⟩, hcalls⟩

theorem Delivers.of_eq {s s' : TickState β} (hbackend : s'.pipeline.backend = s.pipeline.backend)
    (hperiod : s'.pipeline.currentPeriodSec = s.pipeline.currentPeriodSec)
    (hcommands : s'.commands = s.commands) : Delivers B e dt s s' :=
  .quiet (hbackend ▸ .refl _) hperiod fun _ hc => hcommands ▸ hc

theorem Delivers.call {s : TickState β} {b : β} (h : AnyCall B s.pipeline.backend b) :
    Delivers B e dt s (s.withBackend b) := .quiet h.calls rfl fun _ hc => hc

theorem Delivers.quietCall {s : TickState β} {b : β} (h : QuietCall B s.pipeline.backend b) :
    Delivers B e dt s (s.withBackend b) := .call (.quiet _ _ h)

theorem Delivers.terminate (s : TickState β) (id : String) (state : SessionState)
    (status : MotionStatus) (preserve : Bool) :
    Delivers B e dt s (s.withPipeline (s.pipeline.terminate B id state status preserve)) := by
  refine .quiet ?_ (CommandPipeline.terminate_period ..) fun _ hc => hc
  simp only [TickState.withPipeline, CommandPipeline.terminate_backend]
  split
  · exact (AnyCall.stopSession _ id).calls
  · exact .refl _

theorem Delivers.issue {s : TickState β} (h : Output B dt e s.pipeline.backend command)
    (id : String) (limit : SteadyTime) : Delivers B e dt s (s.issue id limit command) := by
  refine fun hs => ⟨⟨hs.calls, hs.period, fun c hc => ?_⟩, .refl _⟩
  rcases List.mem_append.1 hc with hold | hnew
  · exact hs.commands c hold
  · exact ⟨command, id, limit, _, h, List.mem_singleton.1 hnew⟩

/-- The program does whatever `Delivers` allows, wherever it is left. -/
abbrev Sends (B : Platform β) (e : β) (dt : Rat) {α : Type} (m : TickM β α) : Prop :=
  Prog.Relates (Delivers B e dt) m

section
variable {α : Type}

theorem currentTime_sends : Sends B e dt (currentTime B ctx) :=
  Prog.relates_bind Delivers.trans (Prog.relates_modifyGet fun _ => .quietCall (.steadyNow _))
    fun _ => Prog.relates_pure .refl _

theorem terminate_sends (id : String) (state : SessionState) (status : MotionStatus)
    (preserve : Bool) : Sends B e dt (terminate B id state status preserve) :=
  Prog.relates_modify fun s => .terminate s id state status preserve

theorem terminate_throws (id : String) (state : SessionState) (status : MotionStatus)
    (preserve : Bool) (x : Exit) :
    Sends B e dt (do terminate B id state status preserve; throw x : TickM β α) :=
  Prog.relates_bind Delivers.trans (terminate_sends _ _ _ _) fun _ => Prog.relates_throw .refl _

theorem checkTime_sends (id : String) : Sends B e dt (checkTime B ctx id) := by
  refine Prog.relates_bind Delivers.trans (Prog.relates_get .refl) fun s => ?_
  split
  · exact Prog.relates_throw .refl _
  · exact Prog.relates_bind Delivers.trans currentTime_sends fun _ =>
      Prog.relates_bind Delivers.trans (deadline_relates .refl .trans _) fun _ =>
        Prog.relates_ite (terminate_throws _ _ _ _ _) (Prog.relates_pure .refl _)

theorem awaitRetry_sends (session : Session) : Sends B e dt (awaitRetry B ctx session) := by
  refine Prog.relates_bind Delivers.trans (Prog.relates_get .refl) fun s => ?_
  split
  · exact Prog.relates_pure .refl _
  · exact Prog.relates_ite
      (Prog.relates_bind Delivers.trans currentTime_sends fun _ => continueIf_relates .refl _)
      (Prog.relates_pure .refl _)

theorem failBackend_sends (id : String) (status : MotionStatus) :
    Sends B e dt (failBackend B ctx id status) :=
  Prog.relates_bind Delivers.trans (Prog.relates_get .refl) fun _ =>
    Prog.relates_bind Delivers.trans (at?_relates .refl _) fun _ =>
      Prog.relates_ite
        (Prog.relates_bind Delivers.trans currentTime_sends fun _ =>
          Prog.relates_bind Delivers.trans (Prog.relates_modify fun _ => .of_eq rfl rfl rfl) fun _ =>
            terminate_sends _ _ _ _)
        (terminate_sends _ _ _ _)

theorem beginGoal_sends (id : String) (goal : JointTarget) (cartesian : Option Pose)
    (startedAt : SteadyTime) : Sends B e dt (beginGoal B id goal cartesian startedAt) :=
  Prog.relates_bind Delivers.trans (Prog.relates_modifyGet fun _ => .of_eq rfl rfl rfl) fun _ =>
    Prog.relates_ite (terminate_throws _ _ _ _ _) (Prog.relates_pure .refl _)

/-! ## The steps that issue a command -/

/-- It is enough to look at starts from which only outputs have been issued. -/
theorem sends_of {m : TickM β α} (h : ∀ s, Delivering B e dt s →
    Prog.wp m (fun _ s' => Delivers B e dt s s') (fun _ s' => Delivers B e dt s s') s) :
    Sends B e dt m := by
  intro s
  by_cases hs : Delivering B e dt s
  · exact h s hs
  · unfold Prog.wp
    split
    · exact fun hs' => absurd hs' hs
    · exact fun hs' => absurd hs' hs

theorem appendCommand_sends (session : Session) {s : TickState β} (hs : Delivering B e dt s)
    (h : Output B dt e s.pipeline.backend command) :
    Prog.wp (appendCommand ctx session command : TickM β Unit) (fun _ s' => Delivers B e dt s s')
      (fun _ s' => Delivers B e dt s s') s := by
  refine (Prog.wp_bind _ _).2 ((deadline_relates (R := Delivers B e dt) .refl .trans session
    s).imp (fun limit s₁ hs₁ => ?_) fun _ _ h => h)
  exact hs₁.trans _ _ _ (.issue (h.later (hs₁ hs).2) session.sessionId limit)

/-- A hold is an output of the final RTC. -/
theorem controlledStop_output {p : CommandPipeline β} {session : Session} {selected : JointFeedback}
    {hold : JointCommand} (h : (p.controlledStop B lib session selected).1 = some hold) :
    Output B p.currentPeriodSec p.backend (p.controlledStop B lib session selected).2 hold := by
  unfold CommandPipeline.controlledStop at h ⊢
  split at h
  · cases h
  · rename_i measured hselected
    dsimp only at h ⊢
    split at h
    · cases h
    · rename_i hreset
      rw [if_neg hreset]
      have hcalls : Calls B p.backend
          (B.resetFinalJointTarget p.backend session.groupName measured).2 :=
        (AnyCall.quiet _ _ (.resetFinalJointTarget _ _ _)).calls
      unfold CommandPipeline.acceptHold at h
      split at h
      · cases h
      · rename_i hgood
        simp only [Bool.or_eq_true, Bool.not_eq_true', not_or, Bool.not_eq_false] at hgood
        split at h
        · cases h
        · split at h
          · split at h
            · obtain rfl := Option.some.inj h
              exact .fresh hcalls hgood.1 hgood.2
            · cases h
          · cases h

theorem stopSession_sends (session : Session) (selected : JointFeedback) :
    Sends B e dt (stopSession B lib ctx session selected) := by
  refine sends_of fun s hs => ?_
  have hmoved : Delivers B e dt s
      (s.withBackend (s.pipeline.controlledStop B lib session selected).2) :=
    .quiet (controlledStop_quiet B lib s.pipeline session selected).calls rfl fun _ hc => hc
  refine (Prog.wp_bind _ _).2 ?_
  rw [Prog.wp_modifyGet]
  split
  · rename_i hold hhold
    refine (appendCommand_sends session (hmoved hs).1 ?_).imp (fun _ _ h => hmoved.trans _ _ _ h)
      fun _ _ h => hmoved.trans _ _ _ h
    have hout := controlledStop_output hhold
    rw [hs.period] at hout
    exact hout.earlier hs.calls
  · exact hmoved

/-- A failure ends the turn. -/
theorem stopAndFail_throws (id : String) (session : Session) (selected : JointFeedback)
    (status : MotionStatus) (s : TickState β) :
    Prog.wp (stopAndFail B lib ctx id session selected status : TickM β α) (fun _ _ => False)
      (fun _ s' => Delivers B e dt s s') s := by
  refine (Prog.wp_bind _ _).2 ((stopSession_sends session selected s).imp (fun _ s₁ h₁ => ?_)
    fun _ _ h => h)
  exact (Prog.wp_bind _ _).2 ((failBackend_sends id status s₁).imp
    (fun _ _ h₂ => h₁.trans _ _ _ h₂) fun _ _ h => h₁.trans _ _ _ h)

theorem stopAndFail_sends (id : String) (session : Session) (selected : JointFeedback)
    (status : MotionStatus) :
    Sends B e dt (stopAndFail B lib ctx id session selected status : TickM β α) := fun s =>
  (stopAndFail_throws id session selected status s).imp (fun _ _ h => h.elim) fun _ _ h => h

theorem stopAndTerminate_sends (id : String) (session : Session) (selected : JointFeedback)
    (status : MotionStatus) :
    Sends B e dt (stopAndTerminate B lib ctx id session selected status : TickM β α) :=
  Prog.relates_bind Delivers.trans (stopSession_sends _ _) fun _ => terminate_throws _ _ _ _ _

/-! ## One turn -/

theorem admitWinner_sends (id : String) : Sends B e dt (admitWinner B lib ctx id) := by
  refine Prog.relates_bind Delivers.trans (Prog.relates_get .refl) fun s => ?_
  split
  · exact Prog.relates_throw .refl _
  · exact Prog.relates_bind Delivers.trans (at?_relates .refl _) fun _ =>
      Prog.relates_bind Delivers.trans currentTime_sends fun _ => Prog.relates_ite
        (terminate_throws _ _ _ _ _)
        (Prog.relates_bind Delivers.trans (checkTime_sends _) fun _ =>
          Prog.relates_bind Delivers.trans (liftExcept_relates .refl _) fun _ =>
            Prog.relates_bind Delivers.trans (awaitRetry_sends _) fun _ =>
              Prog.relates_ite (stopAndTerminate_sends _ _ _ _) (Prog.relates_pure .refl _))

theorem startWinner_sends (id : String) (session : Session) (selected : JointFeedback) :
    Sends B e dt (startWinner B lib ctx id session selected) := by
  refine Prog.relates_ite (Prog.relates_pure .refl _) ?_
  refine Prog.relates_bind Delivers.trans (Prog.relates_get .refl) fun s => ?_
  refine Prog.relates_bind Delivers.trans
    (Prog.relates_modifyGet fun t => .call (.startSession _ id session.request selected
      s.pipeline.currentPeriodSec)) fun start => ?_
  refine Prog.relates_bind Delivers.trans (checkTime_sends _) fun _ =>
    Prog.relates_ite (stopAndFail_sends _ _ _ _) ?_
  refine Prog.relates_bind Delivers.trans
    (Prog.relates_modifyGet fun t => .quietCall (.resetFinalJointTarget _ session.groupName selected))
    fun reset => ?_
  refine Prog.relates_bind Delivers.trans (checkTime_sends _) fun _ =>
    Prog.relates_ite (stopAndFail_sends _ _ _ _) ?_
  refine Prog.relates_bind Delivers.trans (Prog.relates_get .refl) fun s' =>
    Prog.relates_bind Delivers.trans (at?_relates .refl _) fun model => ?_
  refine Prog.relates_bind Delivers.trans (Prog.relates_modify fun _ => .of_eq rfl rfl rfl) fun _ => ?_
  exact Prog.relates_ite
    (Prog.relates_bind Delivers.trans (beginGoal_sends _ _ _ _) fun _ => Prog.relates_pure .refl _)
    (Prog.relates_pure .refl _)

theorem candidateOf_sends (id : String) (session : Session) (selected : JointFeedback)
    (group : JointGroupModel) : Sends B e dt (candidateOf B lib ctx id session selected group) := by
  refine Prog.relates_bind Delivers.trans (Prog.relates_get .refl) fun s => ?_
  refine Prog.relates_bind Delivers.trans (Prog.relates_modifyGet fun t =>
    .quietCall (.tickSession _ id (dynamicTarget session.request) s.pipeline.currentPeriodSec))
    fun _ => ?_
  exact Prog.relates_bind Delivers.trans (checkTime_sends _) fun _ =>
    Prog.relates_ite (stopAndFail_sends _ _ _ _)
      (Prog.relates_bind Delivers.trans (liftExcept_relates .refl _) fun _ =>
        Prog.relates_ite (stopAndFail_sends _ _ _ _) (Prog.relates_pure .refl _))

/-- A value that may be an exception. -/
theorem wp_value {γ : Type} {value : Except OutOfRange γ} {Q : γ → TickState β → Prop}
    {E : Exit → TickState β → Prop} {s : TickState β} (hthrow : E .outOfRange s)
    (h : ∀ a, Q a s) : Prog.wp (liftExcept value : TickM β γ) Q E s := by
  cases value with
  | error => exact hthrow
  | ok a => exact h a

/-- An output, once it is known to have been accepted. -/
def Offered (B : Platform β) (e : β) (dt : Rat) (r : BackendTick × MotionStatus)
    (s : TickState β) : Prop :=
  r.2.ok = true → r.1.candidate.passedFinalSdkRtc = true →
    Output B dt e s.pipeline.backend r.1.candidate

theorem rebaseAndRetry_sends (session : Session) (selected : JointFeedback) (group : JointGroupModel)
    (candidate : JointCommand) (finalTick : BackendTick) {status : MotionStatus}
    (hbad : status.ok = false) {s : TickState β} (hs : Delivering B e dt s) :
    Prog.wp (rebaseAndRetry B lib session selected group candidate finalTick status)
      (fun r s' => Delivers B e dt s s' ∧ Offered B e dt r s') (fun _ s' => Delivers B e dt s s') s := by
  obtain rfl := hs.period
  unfold rebaseAndRetry
  simp only [Prog.wp_bind, Prog.wp_get]
  split
  · exact ⟨.refl s, fun hok => by rw [hbad] at hok; cases hok⟩
  · rename_i seed hseed
    simp only [Prog.wp_bind, wp_call]
    have hrebase : Delivers B e s.pipeline.currentPeriodSec s (s.withBackend
        (B.rebaseFinalJointTarget s.pipeline.backend session.groupName seed).2) :=
      .quietCall (.rebaseFinalJointTarget _ _ _)
    rw [Prog.wp_ite]
    split
    · rename_i hno
      simp only [Bool.not_eq_true'] at hno
      exact ⟨hrebase, fun hok => by simp only [hno] at hok; cases hok⟩
    · simp only [Prog.wp_bind, wp_call]
      set e₁ := (B.rebaseFinalJointTarget s.pipeline.backend session.groupName seed).2 with he₁
      have hcalls : Calls B e e₁ := hs.calls.trans (hrebase hs).2
      have hretry : Delivers B e s.pipeline.currentPeriodSec s ((s.withBackend e₁).withBackend (B.updateFinalJointTarget e₁
          session.groupName candidate s.pipeline.currentPeriodSec).2) :=
        hrebase.trans _ _ _ (.quietCall (.updateFinalJointTarget _ _ _ _))
      rw [Prog.wp_ite]
      split
      · rename_i hno
        simp only [Bool.not_eq_true'] at hno
        exact ⟨hretry, fun hok => absurd (hno.symm.trans hok) Bool.false_ne_true⟩
      · rename_i hok
        simp only [Bool.not_eq_true', Bool.not_eq_false] at hok
        simp only [Prog.wp_bind]
        refine wp_value hretry fun status => ⟨hretry, fun _ hrtc => ?_⟩
        exact .fresh hcalls hok hrtc

theorem finalRtc_sends (id : String) (session : Session) (selected : JointFeedback)
    (group : JointGroupModel) (candidate : JointCommand) {s : TickState β}
    (hs : Delivering B e dt s) :
    Prog.wp (finalRtc B lib ctx id session selected group candidate)
      (fun command s' => Delivers B e dt s s' ∧ Output B dt e s'.pipeline.backend command)
      (fun _ s' => Delivers B e dt s s') s := by
  obtain rfl := hs.period
  unfold finalRtc
  simp only [Prog.wp_bind, Prog.wp_get, wp_call]
  set e₁ := s.pipeline.backend with he₁
  set answer := B.updateFinalJointTarget e₁ session.groupName candidate
    s.pipeline.currentPeriodSec with hanswer
  have hupdate : Delivers B e s.pipeline.currentPeriodSec s (s.withBackend answer.2) :=
    .quietCall (.updateFinalJointTarget _ _ _ _)
  have hfail : ∀ {s₁} status, Delivers B e s.pipeline.currentPeriodSec s s₁ → Prog.wp
      (stopAndFail B lib ctx id session selected status : TickM β JointCommand)
      (fun command s' => Delivers B e s.pipeline.currentPeriodSec s s' ∧
        Output B s.pipeline.currentPeriodSec e s'.pipeline.backend command)
      (fun _ s' => Delivers B e s.pipeline.currentPeriodSec s s') s₁ := fun status hs₁ =>
    (stopAndFail_throws id session selected status _).imp (fun _ _ h => h.elim)
      fun _ _ h => hs₁.trans _ _ _ h
  -- the last two tests, of the first output or of the retried one
  have hrest : ∀ (r : BackendTick × MotionStatus) s₁,
      Delivers B e s.pipeline.currentPeriodSec s s₁ → Offered B e s.pipeline.currentPeriodSec r s₁ →
      Prog.wp
        (if !r.2.ok then stopAndFail B lib ctx id session selected r.2
          else if !r.1.candidate.passedFinalSdkRtc then
            stopAndFail B lib ctx id session selected bypassStatus
          else pure r.1.candidate : TickM β JointCommand)
        (fun command s' => Delivers B e s.pipeline.currentPeriodSec s s' ∧
          Output B s.pipeline.currentPeriodSec e s'.pipeline.backend command)
        (fun _ s' => Delivers B e s.pipeline.currentPeriodSec s s') s₁ := by
    intro r s₁ hs₁ hoffered
    rw [Prog.wp_ite, Prog.wp_ite]
    split
    · exact hfail _ hs₁
    · rename_i hok
      split
      · exact hfail _ hs₁
      · rename_i hrtc
        exact ⟨hs₁, hoffered (by simpa using hok) (by simpa using hrtc)⟩
  refine (checkTime_sends id _).imp (fun _ s₂ hs₂ => ?_) fun _ _ h => hupdate.trans _ _ _ h
  have hmoved := hupdate.trans _ _ _ hs₂
  rw [Prog.wp_ite]
  split
  · exact hfail _ hmoved
  · rename_i hok
    simp only [Bool.not_eq_true', Bool.not_eq_false] at hok
    simp only [Prog.wp_bind]
    refine wp_value hmoved fun status => ?_
    rw [Prog.wp_ite]
    split
    · rename_i hcode
      have hbad : status.ok = false := by simp [MotionStatus.ok, hcode]
      refine (Prog.wp_bind _ _).2 ((rebaseAndRetry_sends session selected group candidate answer.1
        hbad (hmoved hs).1).imp (fun r s₃ h => ?_) fun _ _ h => hmoved.trans _ _ _ h)
      exact hrest r s₃ (hmoved.trans _ _ _ h.1) h.2
    · refine hrest (answer.1, status) s₂ hmoved fun _ hrtc => ?_
      have hfresh : Output B s.pipeline.currentPeriodSec e answer.2 answer.1.candidate :=
        .fresh hs.calls hok hrtc
      exact hfresh.later (hs₂ (hupdate hs).1).2

theorem emitFinal_sends (id : String) (session : Session) (group : JointGroupModel) {s : TickState β}
    (hs : Delivering B e dt s) (h : Output B dt e s.pipeline.backend command) :
    Prog.wp (emitFinal lib ctx id session group command : TickM β Session)
      (fun _ s' => Delivers B e dt s s') (fun _ s' => Delivers B e dt s s') s := by
  refine (Prog.wp_bind _ _).2 ((appendCommand_sends session hs h).imp (fun _ s₁ h₁ => ?_) fun _ _ h => h)
  refine (Prog.relates_bind (R := Delivers B e dt) Delivers.trans (liftExcept_relates .refl _)
    (fun plain => ?_) s₁).imp (fun _ _ h => h₁.trans _ _ _ h) fun _ _ h => h₁.trans _ _ _ h
  exact Prog.relates_bind Delivers.trans (Prog.relates_modify fun _ => .of_eq rfl rfl rfl) fun _ =>
    Prog.relates_ite
      (Prog.relates_bind Delivers.trans (Prog.relates_modify fun _ => .of_eq rfl rfl rfl) fun _ =>
        Prog.relates_pure .refl _)
      (Prog.relates_pure .refl _)

/-- `result.commands.pop_back()`. -/
theorem Delivers.pop (s : TickState β) : Delivers B e dt s s.popCommand :=
  .quiet (.refl _) rfl fun _ hc => List.mem_of_mem_dropLast hc

theorem goalPose_sends (id : String) (session : Session) (selected : JointFeedback) :
    Sends B e dt (goalPose B lib ctx id session selected) := by
  unfold goalPose
  split
  · exact Prog.relates_pure .refl _
  · exact Prog.relates_bind Delivers.trans (liftExcept_relates .refl _) fun _ =>
      Prog.relates_bind Delivers.trans
        (Prog.relates_modifyGet fun s => .quietCall (.forwardKinematics _ _)) fun _ =>
        Prog.relates_ite
          (Prog.relates_bind Delivers.trans (Prog.relates_modify Delivers.pop) fun _ =>
            stopAndTerminate_sends _ _ _ _)
          (Prog.relates_pure .refl _)

theorem concludeGoal_sends (id : String) (session : Session) (selected : JointFeedback)
    (observation : GoalObservationResult) :
    Sends B e dt (concludeGoal B lib ctx id session selected observation) := by
  have hfail : Sends B e dt (do
      modify TickState.popCommand
      stopAndTerminate B lib ctx id session selected observation.status : TickM β Unit) :=
    Prog.relates_bind Delivers.trans (Prog.relates_modify Delivers.pop) fun _ =>
      stopAndTerminate_sends _ _ _ _
  unfold concludeGoal
  split
  · exact terminate_sends _ _ _ _
  · exact hfail
  · exact hfail
  · exact Prog.relates_pure .refl _

theorem observeGoal_sends (id : String) (session : Session) (selected : JointFeedback) :
    Sends B e dt (observeGoal B lib ctx id session selected) :=
  Prog.relates_bind Delivers.trans (goalPose_sends _ _ _) fun _ =>
    Prog.relates_bind Delivers.trans (Prog.relates_modifyGet fun _ => .of_eq rfl rfl rfl) fun _ =>
      concludeGoal_sends _ _ _ _

theorem monitorGoal_sends (id : String) (session : Session) (selected : JointFeedback)
    (backendTick : BackendTick) :
    Sends B e dt (monitorGoal B lib ctx id session selected backendTick) :=
  Prog.relates_bind Delivers.trans (continueIf_relates .refl _) fun _ =>
    Prog.relates_bind Delivers.trans (Prog.relates_get .refl) fun _ => Prog.relates_ite
      (Prog.relates_bind Delivers.trans (beginGoal_sends _ _ _ _) fun _ => observeGoal_sends _ _ _)
      (Prog.relates_bind Delivers.trans (Prog.relates_get .refl) fun _ =>
        Prog.relates_bind Delivers.trans (continueIf_relates .refl _) fun _ =>
          observeGoal_sends _ _ _)

/-- The command of a turn is the output of the final RTC in that turn. -/
theorem winnerTurn_sends (id : String) : Sends B e dt (winnerTurn B lib ctx id) := by
  refine Prog.relates_bind Delivers.trans (admitWinner_sends id) fun admitted =>
    Prog.relates_bind Delivers.trans (startWinner_sends id admitted.1 admitted.2) fun session =>
    Prog.relates_bind Delivers.trans (Prog.relates_get .refl) fun _ =>
    Prog.relates_bind Delivers.trans (at?_relates .refl _) fun group =>
    Prog.relates_bind Delivers.trans (candidateOf_sends id session _ group) fun backendTick =>
    sends_of fun s hs => ?_
  refine (Prog.wp_bind _ _).2 ((finalRtc_sends id session admitted.2 group backendTick.candidate
    hs).imp (fun command s₁ h₁ => ?_) fun _ _ h => h)
  refine (Prog.wp_bind _ _).2 ((emitFinal_sends id session group (h₁.1 hs).1 h₁.2).imp
    (fun updated s₂ h₂ => ?_) fun _ _ h => h₁.1.trans _ _ _ h)
  have hmoved := h₁.1.trans _ _ _ h₂
  exact (monitorGoal_sends id updated admitted.2 backendTick s₂).imp
    (fun _ _ h => hmoved.trans _ _ _ h) fun _ _ h => hmoved.trans _ _ _ h

theorem turn_sends (id : String) : Sends B e dt (turn B lib ctx id) := fun s =>
  (Prog.wp_catchExit ..).2 ((winnerTurn_sends id s).imp (fun _ _ h => h) fun x s' h => by
    split <;> exact h)

end

end Tick

/-! ## The whole tick -/

theorem AsideCall.calls (h : AsideCall B e e') : Calls B e e' := by
  cases h with
  | steadyNow => exact (AnyCall.quiet _ _ (.steadyNow e)).calls
  | stopSession id => exact (AnyCall.stopSession e id).calls

/-- Outside the turns the backend is called, too. -/
theorem calls_outside : Outside B fun p p' => Calls B p.backend p'.backend where
  refl _ := .refl _
  trans := .trans
  beside h := by
    rcases h.backend with hsame | hcall
    · exact hsame ▸ .refl _
    · exact hcall.calls
  terminate p id state status preserve := by
    rw [CommandPipeline.terminate_backend]
    split
    · exact (AnyCall.stopSession _ id).calls
    · exact .refl _

theorem tickOpened_calls (s : CommandPipeline β) (now : SteadyTime) :
    Calls B s.backend (s.tickOpened B now).pipeline.backend := by
  have hread : Calls B s.backend (s.startTick B now).pipeline.backend :=
    (AsideCall.steadyNow (e := s.backend)).calls.trans AsideCall.steadyNow.calls
  have hexpired := (calls_outside (B := B)).expired s now
  refine hread.trans (hexpired.trans ((calls_outside (B := B)).opened _ _ _ (fun p id => ?_)
    fun p id => ?_))
  · unfold gapped
    split
    · exact .refl _
    · split
      · exact calls_outside.terminate p id _ _ _
      · exact (AsideCall.stopSession id).calls
  · unfold deactivate
    split
    · exact (AsideCall.stopSession id).calls
    · exact (AsideCall.stopSession id).calls

theorem tickOpened_commands (s : CommandPipeline β) (now : SteadyTime) :
    (s.tickOpened B now).commands = [] := rfl

/-- Every command that a tick returns is an output of the final RTC in this tick, over its period. -/
theorem tick_shaped (lib : MathLib) {s : CommandPipeline β} (h : Sound s) (feedback : JointFeedback)
    (now : SteadyTime) :
    ∀ c ∈ (exec B lib s (.tick feedback now)).1.commands,
      Shaped B (s.tickPeriod now) s.backend (exec B lib s (.tick feedback now)).2.backend c := by
  obtain ⟨s₂, hturned, htick⟩ := tick_turned B lib s feedback now h
  have hstart : Delivering B (s.tickOpened B now).pipeline.backend (s.tickPeriod now)
      (s.tickOpened B now) :=
    ⟨.refl _, tickOpened_period s now, by simp [tickOpened_commands]⟩
  have hturns : Delivering B (s.tickOpened B now).pipeline.backend (s.tickPeriod now) s₂ := by
    refine (Prog.wp_forM (E := fun _ _ => True) (turn B lib (s.tickContext B feedback now))
      (fun _ t => Delivering B (s.tickOpened B now).pipeline.backend (s.tickPeriod now) t)
      (fun id _ t ht => ?_) _ _ hstart).exec_ok hturned
    exact (turn_sends id t).imp (fun _ _ h' => (h' ht).1) fun _ _ _ => trivial
  have hclosed := (calls_outside (B := B)).closed (s.tickContext B feedback now) s₂
  simp only [exec, htick, Reply.commands]
  intro c hc
  have hkept : c ∈ s₂.commands := List.mem_of_mem_filter hc
  exact ((hturns.commands c hkept).later hclosed).earlier (tickOpened_calls s now)

end

end HumanoidMotion
