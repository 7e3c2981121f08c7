import HumanoidMotion.Motion.CallLog
/-
# Failures of a turn

| here | there |
| --- | --- |
| `StartFails.start`, `.reset`   | the two answers before a session runs (`command_pipeline.cpp:960`, `:973`) |
| `OutputFails.tick`             | the status of the SDK's tick (`:1013`) |
| `OutputFails.candidate`        | the candidate does not fit its group (`:1023`) |
| `OutputFails.final`            | the status of the final RTC (`:1038`) |
| `OutputFails.output`           | the final check: a limit violation, and the rebase or the retry it led to (`:1065`) |
| `OutputFails.bypass`           | an output that did not pass the final RTC (`:1065`) |

Each of them is read off the parts of the turn that come before it; `Fails.exec`
says that the turn then is `stopAndFail`.
-/

namespace HumanoidMotion

namespace Tick

variable {β : Type} (B : Platform β) (lib : MathLib) (ctx : TickContext)

/-- A call of the SDK, and the check of the time after it. -/
def ask {α : Type} (id : String) (f : β → α × β) : TickM β α := do
  let answer ← call f
  checkTime B ctx id
  pure answer

/-- The check of a final output against the last one, with the rebase of a violated limit. -/
def checkFinal (session : Session) (selected : JointFeedback) (group : JointGroupModel)
    (candidate : JointCommand) (finalTick : BackendTick) : TickM β (BackendTick × MotionStatus) := do
  let status ← liftExcept (validateFinalCommand lib finalTick.candidate group
    (some (session.lastFinalTarget.positionsRad, selected)))
  if status.code = .limitViolation then
    rebaseAndRetry B lib session selected group candidate finalTick status
  else pure (finalTick, status)

/-- The SDK does not start the session, or does not take its measured joints. -/
inductive StartFails (id : String) (session : Session) (selected : JointFeedback)
    (s : TickState β) : MotionStatus → TickState β → Prop
  | start (status : MotionStatus) (s' : TickState β)
      (h : (ask B ctx id fun e => B.startSession e id session.request selected
        s.pipeline.currentPeriodSec).exec s = (.ok status, s'))
      (hfail : status.ok = false) : StartFails id session selected s status s'
  | reset (start status : MotionStatus) (s₁ s' : TickState β)
      (hstart : (ask B ctx id fun e => B.startSession e id session.request selected
        s.pipeline.currentPeriodSec).exec s = (.ok start, s₁)) (hok : start.ok = true)
      (h : (ask B ctx id fun e => B.resetFinalJointTarget e session.groupName selected).exec s₁ =
        (.ok status, s'))
      (hfail : status.ok = false) : StartFails id session selected s status s'

/-- A session that runs gives no output that may be published. -/
inductive OutputFails (id : String) (session : Session) (selected : JointFeedback)
    (group : JointGroupModel) (s : TickState β) : MotionStatus → TickState β → Prop
  | tick (answer : BackendTick) (s' : TickState β)
      (h : (ask B ctx id fun e => B.tickSession e id (dynamicTarget session.request)
        s.pipeline.currentPeriodSec).exec s = (.ok answer, s'))
      (hfail : answer.status.ok = false) : OutputFails id session selected group s answer.status s'
  | candidate (answer : BackendTick) (status : MotionStatus) (s' : TickState β)
      (h : (ask B ctx id fun e => B.tickSession e id (dynamicTarget session.request)
        s.pipeline.currentPeriodSec).exec s = (.ok answer, s'))
      (hok : answer.status.ok = true)
      (hstatus : validateCandidate lib answer.candidate group = .ok status)
      (hfail : status.ok = false) : OutputFails id session selected group s status s'
  | final (backendTick answer : BackendTick) (s₁ s' : TickState β)
      (hcandidate : (candidateOf B lib ctx id session selected group).exec s = (.ok backendTick, s₁))
      (h : (ask B ctx id fun e => B.updateFinalJointTarget e session.groupName
        backendTick.candidate s₁.pipeline.currentPeriodSec).exec s₁ = (.ok answer, s'))
      (hfail : answer.status.ok = false) : OutputFails id session selected group s answer.status s'
  | output (backendTick answer final : BackendTick) (status : MotionStatus) (s₁ s₂ s' : TickState β)
      (hcandidate : (candidateOf B lib ctx id session selected group).exec s = (.ok backendTick, s₁))
      (hanswer : (ask B ctx id fun e => B.updateFinalJointTarget e session.groupName
        backendTick.candidate s₁.pipeline.currentPeriodSec).exec s₁ = (.ok answer, s₂))
      (hok : answer.status.ok = true)
      (h : (checkFinal B lib session selected group backendTick.candidate answer).exec s₂ =
        (.ok (final, status), s'))
      (hfail : status.ok = false) : OutputFails id session selected group s status s'
  | bypass (backendTick answer final : BackendTick) (status : MotionStatus) (s₁ s₂ s' : TickState β)
      (hcandidate : (candidateOf B lib ctx id session selected group).exec s = (.ok backendTick, s₁))
      (hanswer : (ask B ctx id fun e => B.updateFinalJointTarget e session.groupName
        backendTick.candidate s₁.pipeline.currentPeriodSec).exec s₁ = (.ok answer, s₂))
      (hok : answer.status.ok = true)
      (h : (checkFinal B lib session selected group backendTick.candidate answer).exec s₂ =
        (.ok (final, status), s'))
      (hstatus : status.ok = true) (hrtc : final.candidate.passedFinalSdkRtc = false) :
      OutputFails id session selected group s bypassStatus s'

/-- The turn of `id` meets a failure of the SDK or of its output: its session, the feedback selected
for it, the status of the failure and the state in which it is met. -/
inductive Fails (id : String) (s : TickState β) :
    Session → JointFeedback → MotionStatus → TickState β → Prop
  | starting (session : Session) (selected : JointFeedback) (status : MotionStatus)
      (s₁ s' : TickState β)
      (hgate : (admitWinner B lib ctx id).exec s = (.ok (session, selected), s₁))
      (hidle : session.backendStarted = false)
      (h : StartFails B ctx id session selected s₁ status s') : Fails id s session selected status s'
  | running (session session' : Session) (selected : JointFeedback) (group : JointGroupModel)
      (status : MotionStatus) (s₁ s₂ s' : TickState β)
      (hgate : (admitWinner B lib ctx id).exec s = (.ok (session, selected), s₁))
      (hrun : (startWinner B lib ctx id session selected).exec s₁ = (.ok session', s₂))
      (hgroup : s₂.pipeline.groups[session'.groupName]? = some group)
      (h : OutputFails B lib ctx id session' selected group s₂ status s') :
      Fails id s session' selected status s'

variable {B lib ctx} {id : String} {session : Session} {selected : JointFeedback}
  {group : JointGroupModel} {status : MotionStatus} {s s' : TickState β}

/-! ## The turn is a stop and a failure -/

theorem ask_exec {α : Type} {f : β → α × β} {a : α}
    (h : (ask B ctx id f).exec s = (.ok a, s')) : (f s.pipeline.backend).1 = a ∧
      (checkTime B ctx id).exec (s.withBackend (f s.pipeline.backend).2) = (.ok (), s') := by
  unfold ask at h
  rw [Prog.exec_bind, show (call f : TickM β α).exec s = (.ok (f s.pipeline.backend).1,
    s.withBackend (f s.pipeline.backend).2) from rfl] at h
  dsimp only at h
  rw [Prog.exec_bind] at h
  rcases hcheck : (checkTime B ctx id).exec (s.withBackend (f s.pipeline.backend).2)
    with ⟨_ | _, t⟩
  · rw [hcheck] at h
    cases h
  · rw [hcheck] at h
    cases h
    exact ⟨rfl, rfl⟩

/-- Nothing follows a failure. -/
theorem stopAndFail_bind {α γ : Type} (k : α → TickM β γ) :
    ((stopAndFail B lib ctx id session selected status : TickM β α) >>= k).exec s =
      (stopAndFail B lib ctx id session selected status : TickM β γ).exec s := by
  unfold stopAndFail
  rw [Prog.exec_bind, Prog.exec_bind, Prog.exec_bind]
  rcases (stopSession B lib ctx session selected).exec s with ⟨_ | _, s₁⟩
  · rfl
  · dsimp only
    rw [Prog.exec_bind, Prog.exec_bind]
    rcases (failBackend B ctx id status).exec s₁ with ⟨_ | _, s₂⟩ <;> rfl

/-- What follows the call and its check. -/
theorem ask_bind {α γ : Type} {f : β → α × β} {a : α} (k : α → TickM β γ)
    (h : (ask B ctx id f).exec s = (.ok a, s')) :
    (call f >>= fun answer => checkTime B ctx id >>= fun _ => k answer : TickM β γ).exec s =
      (k a).exec s' := by
  obtain ⟨rfl, hcheck⟩ := ask_exec h
  rw [Prog.exec_bind, show (call f : TickM β α).exec s = (.ok (f s.pipeline.backend).1,
    s.withBackend (f s.pipeline.backend).2) from rfl]
  dsimp only
  rw [Prog.exec_bind, hcheck]

theorem StartFails.exec (hidle : session.backendStarted = false)
    (h : StartFails B ctx id session selected s status s') :
    (startWinner B lib ctx id session selected).exec s =
      (stopAndFail B lib ctx id session selected status : TickM β Session).exec s' := by
  unfold startWinner
  rw [hidle, if_neg Bool.false_ne_true, Prog.exec_bind]
  cases h with
  | start _ _ h hfail =>
    refine (ask_bind _ h).trans ?_
    rw [hfail]
    rfl
  | reset start _ s₁ _ hstart hok h hfail =>
    refine (ask_bind _ hstart).trans ?_
    rw [hok, Bool.not_true, if_neg Bool.false_ne_true]
    refine (ask_bind _ h).trans ?_
    rw [hfail]
    rfl

/-- The candidate of a session, as the next part of the turn sees it. -/
theorem candidateOf_exec {answer : BackendTick}
    (h : (ask B ctx id fun e => B.tickSession e id (dynamicTarget session.request)
      s.pipeline.currentPeriodSec).exec s = (.ok answer, s')) :
    (candidateOf B lib ctx id session selected group).exec s =
      (if !answer.status.ok then stopAndFail B lib ctx id session selected answer.status
        else do
          let status ← liftExcept (validateCandidate lib answer.candidate group)
          if !status.ok then stopAndFail B lib ctx id session selected status
          else pure answer : TickM β BackendTick).exec s' := by
  unfold candidateOf
  rw [Prog.exec_bind]
  exact ask_bind _ h

/-- The final RTC with its check, as the rest of the turn sees it. -/
theorem finalRtc_exec {candidate : JointCommand} {answer final : BackendTick} {s₁ : TickState β}
    (hanswer : (ask B ctx id fun e => B.updateFinalJointTarget e session.groupName candidate
      s.pipeline.currentPeriodSec).exec s = (.ok answer, s₁)) (hok : answer.status.ok = true)
    (h : (checkFinal B lib session selected group candidate answer).exec s₁ =
      (.ok (final, status), s')) :
    (finalRtc B lib ctx id session selected group candidate).exec s =
      (if !status.ok then stopAndFail B lib ctx id session selected status
        else if !final.candidate.passedFinalSdkRtc then
          stopAndFail B lib ctx id session selected bypassStatus
        else pure final.candidate : TickM β JointCommand).exec s' := by
  unfold finalRtc
  rw [Prog.exec_bind]
  refine (ask_bind _ hanswer).trans ?_
  rw [hok, Bool.not_true, if_neg Bool.false_ne_true]
  unfold checkFinal at h
  rw [Prog.exec_bind] at h ⊢
  rcases hchecked : (liftExcept (validateFinalCommand lib answer.candidate group
    (some (session.lastFinalTarget.positionsRad, selected))) : TickM β MotionStatus).exec s₁
    with ⟨_ | first, t⟩
  · rw [hchecked] at h
    cases h
  · rw [hchecked] at h
    dsimp only at h ⊢
    by_cases hlimit : first.code = .limitViolation
    · rw [if_pos hlimit] at h ⊢
      rw [Prog.exec_bind, h]
    · rw [if_neg hlimit] at h ⊢
      rw [Prog.exec_bind, h]

theorem OutputFails.exec (h : OutputFails B lib ctx id session selected group s status s') :
    (candidateOf B lib ctx id session selected group >>= fun backendTick =>
      finalRtc B lib ctx id session selected group backendTick.candidate).exec s =
      (stopAndFail B lib ctx id session selected status : TickM β JointCommand).exec s' := by
  -- a failure before the final RTC
  have hearly : (candidateOf B lib ctx id session selected group).exec s =
        (stopAndFail B lib ctx id session selected status : TickM β BackendTick).exec s' →
      (candidateOf B lib ctx id session selected group >>= fun backendTick =>
        finalRtc B lib ctx id session selected group backendTick.candidate).exec s =
        (stopAndFail B lib ctx id session selected status : TickM β JointCommand).exec s' := by
    intro hcandidate
    rw [Prog.exec_bind, hcandidate, ← Prog.exec_bind, stopAndFail_bind]
  cases h with
  | tick answer _ h hfail =>
    refine hearly ((candidateOf_exec h).trans ?_)
    rw [hfail]
    rfl
  | candidate answer _ _ h hok hstatus hfail =>
    refine hearly ((candidateOf_exec h).trans ?_)
    rw [hok, Bool.not_true, if_neg Bool.false_ne_true, hstatus, Prog.exec_bind]
    dsimp only [liftExcept]
    change (if !status.ok then _ else _ : TickM β BackendTick).exec s' = _
    rw [hfail]
    rfl
  | final backendTick answer s₁ _ hcandidate h hfail =>
    rw [Prog.exec_bind, hcandidate]
    dsimp only
    unfold finalRtc
    rw [Prog.exec_bind]
    refine (ask_bind _ h).trans ?_
    rw [hfail]
    rfl
  | output backendTick answer final _ s₁ s₂ _ hcandidate hanswer hok h hfail =>
    rw [Prog.exec_bind, hcandidate]
    dsimp only
    rw [finalRtc_exec hanswer hok h, hfail]
    rfl
  | bypass backendTick answer final status s₁ s₂ _ hcandidate hanswer hok h hstatus hrtc =>
    rw [Prog.exec_bind, hcandidate]
    dsimp only
    rw [finalRtc_exec hanswer hok h, hstatus, hrtc]
    rfl

/-- The turn ends in the stop and the failure of the session. -/
theorem Fails.exec (h : Fails B lib ctx id s session selected status s') :
    (winnerTurn B lib ctx id).exec s =
      (stopAndFail B lib ctx id session selected status : TickM β Unit).exec s' := by
  unfold winnerTurn
  rw [Prog.exec_bind]
  cases h with
  | starting _ _ _ s₁ _ hgate hidle h =>
    rw [hgate]
    dsimp only
    rw [Prog.exec_bind, h.exec hidle, ← Prog.exec_bind, stopAndFail_bind]
  | running session₀ _ _ group _ s₁ s₂ _ hgate hrun hgroup h =>
    rw [hgate]
    dsimp only
    rw [Prog.exec_bind, hrun]
    dsimp only
    rw [Prog.exec_bind, show (get : TickM β (TickState β)).exec s₂ = (.ok s₂, s₂) from rfl]
    dsimp only
    rw [Prog.exec_bind, hgroup, show (at? (some group) : TickM β JointGroupModel).exec s₂ =
      (.ok group, s₂) from rfl]
    dsimp only
    have hstop := h.exec
    rw [Prog.exec_bind] at hstop ⊢
    rcases hcandidate : (candidateOf B lib ctx id session selected group).exec s₂ with ⟨x | tick, t⟩
    · rw [hcandidate] at hstop
      dsimp only at hstop ⊢
      rw [← stopAndFail_bind fun _ : JointCommand => (pure () : TickM β Unit), Prog.exec_bind, ← hstop]
    · rw [hcandidate] at hstop
      dsimp only at hstop ⊢
      rw [Prog.exec_bind, hstop, ← Prog.exec_bind, stopAndFail_bind]

/-! ## The session that fails -/

/-- The session is stored as it was when its call has been answered. -/
theorem ask_stored {α : Type} {f : β → α × β} {a : α} (h : Stored s id session)
    (hask : (ask B ctx id f).exec s = (.ok a, s')) : Stored s' id session := by
  obtain ⟨-, hcheck⟩ := ask_exec hask
  have hspec : Prog.wp (checkTime B ctx id)
      (fun _ s' => Moved B (s.withBackend (f s.pipeline.backend).2) s') (fun _ _ => True) _ :=
    wp_checkTime (h.withBackend _) (fun _ hm => hm)
      fun _ (_ : Ended B ⟨fun _ => 0, fun _ => ""⟩ ctx id session ⟨[], [], [], 0⟩ _ _) => trivial
  exact (h.withBackend _).moved (hspec.exec_ok hcheck)

theorem moved_call {α : Type} {f : β → α × β} (hf : ∀ e, QuietCall B e (f e).2) :
    Prog.Relates (Moved B) (call f : TickM β α) :=
  Prog.relates_modifyGet fun _ => .call (hf _)

theorem checkFinal_moved (candidate : JointCommand) (finalTick : BackendTick) :
    Prog.Relates (Moved B) (checkFinal B lib session selected group candidate finalTick) := by
  have htrans : ∀ a b c : TickState β, Moved B a b → Moved B b c → Moved B a c :=
    fun _ _ _ h h' => h.trans h'
  refine Prog.relates_bind htrans (liftExcept_relates .refl _) fun status =>
    Prog.relates_ite ?_ (Prog.relates_pure .refl _)
  refine Prog.relates_bind htrans (Prog.relates_get .refl) fun s => ?_
  split
  · exact Prog.relates_pure .refl _
  · refine Prog.relates_bind htrans (moved_call fun _ => .rebaseFinalJointTarget _ _ _) fun _ =>
      Prog.relates_ite (Prog.relates_pure .refl _) (Prog.relates_bind htrans
        (moved_call fun _ => .updateFinalJointTarget _ _ _ _) fun _ => Prog.relates_ite
          (Prog.relates_pure .refl _) (Prog.relates_bind htrans (liftExcept_relates .refl _) fun _ =>
            Prog.relates_pure .refl _))

theorem StartFails.stored (h : Stored s id session)
    (hfails : StartFails B ctx id session selected s status s') : Stored s' id session := by
  cases hfails with
  | start _ _ hask => exact ask_stored h hask
  | reset _ _ s₁ _ hstart _ hask => exact ask_stored (ask_stored h hstart) hask

theorem OutputFails.stored (h : Stored s id session)
    (hselected : selectFeedback ctx.feedback session.jointNames = .ok selected)
    (hfails : OutputFails B lib ctx id session selected group s status s') : Stored s' id session := by
  have hcandidate : ∀ {tick : BackendTick} {s₁ : TickState β},
      (candidateOf B lib ctx id session selected group).exec s = (.ok tick, s₁) →
        Stored s₁ id session :=
    fun hexec => h.moved ((candidateOf_spec group h hselected).exec_ok hexec).1
  cases hfails with
  | tick answer _ hask => exact ask_stored h hask
  | candidate answer _ _ hask => exact ask_stored h hask
  | final tick answer s₁ _ hexec hask => exact ask_stored (hcandidate hexec) hask
  | output tick answer final _ s₁ s₂ _ hexec hask _ hchecked =>
    have hmoved : Moved B s₂ s' := (checkFinal_moved _ _ s₂).exec_ok hchecked
    exact (ask_stored (hcandidate hexec) hask).moved hmoved
  | bypass tick answer final _ s₁ s₂ _ hexec hask _ hchecked =>
    have hmoved : Moved B s₂ s' := (checkFinal_moved _ _ s₂).exec_ok hchecked
    exact (ask_stored (hcandidate hexec) hask).moved hmoved

/-- The failing session is the one found, with what the SDK has done since. -/
theorem Fails.stored (hsound : ∀ session, s.pipeline.sessions[id]? = some session →
      SessionOk s.pipeline id session) (h : Fails B lib ctx id s session selected status s') :
    Stored s' id session ∧ ∃ found, s.pipeline.sessions[id]? = some found ∧ found.SameClient session := by
  cases h with
  | starting _ _ _ s₁ _ hgate hidle h =>
    obtain ⟨group, hstored, hmoved, -⟩ := (admitWinner_spec hsound).exec_ok hgate
    exact ⟨h.stored (hstored.moved hmoved), session, hstored.found, .refl _⟩
  | running session₀ _ _ group _ s₁ s₂ _ hgate hrun hgroup h =>
    obtain ⟨group', hstored, hmoved, hmeasured, hretry⟩ := (admitWinner_spec hsound).exec_ok hgate
    have hrunning := (startWinner_spec (hstored.moved hmoved) (hmeasured.fixed hmoved.fixed)
      hretry).exec_ok hrun
    obtain ⟨hstored', -, hmeasured'⟩ :=
      hrunning.stored (hstored.moved hmoved) (hmeasured.fixed hmoved.fixed)
    refine ⟨h.stored hstored' hmeasured'.selected, session₀, hstored.found, ?_⟩
    cases hrunning with
    | kept => exact .refl _
    | launched => exact ⟨rfl, rfl, rfl, rfl, rfl, rfl⟩

end Tick

end HumanoidMotion
