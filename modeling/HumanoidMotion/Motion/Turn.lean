import HumanoidMotion.Motion.TickRules
/-
# What one winner's turn can do

Every invariant of the pipeline is proved from one inversion of the winner
loop. `Turn id s s'` lists the ways in which the turn of winner `id` can take
the tick from `s` to `s'`; `winnerTurn_turn` proves that the code takes no other
and, where the lookups are sound, never leaves by an exception.

* `Measured` — the feedback passed its check and was selected.
* `Running` — the session runs in the SDK, from before or from now on.
* `Approved` — what is known of a command that is issued as a normal output.
* `Concluded` — how the goal monitor ends the turn of a command just issued.
-/

namespace HumanoidMotion

namespace Tick

variable {β : Type} (B : Platform β) (lib : MathLib) (ctx : TickContext)

/-- The feedback of the tick passed its check for the session's group, and was selected. -/
structure Measured (p : CommandPipeline β) (session : Session) (group : JointGroupModel)
    (selected : JointFeedback) : Prop where
  found : p.groups[session.groupName]? = some group
  model : group.valid = true
  names : group.jointNames = session.jointNames
  valid : ∃ time, (validateFeedback lib p.config ctx.feedback group time).ok = true
  selected : selectFeedback ctx.feedback session.jointNames = .ok selected

/-- A servo endpoint with a retry time is started only once that time has passed. -/
def RetryOver (s : TickState β) (session : Session) : Prop :=
  isServo session.kind = true → ∀ retry,
    s.pipeline.servoRetryAfter[session.endpointName]? = some retry →
    ∃ time, ReadBefore B ctx s.pipeline.backend time ∧ retry ≤ time

/-- The answer of the SDK to the start of a session, and the backend it leaves behind. -/
def startAnswer (s : TickState β) (id : String) (session : Session) (selected : JointFeedback) :
    MotionStatus × β :=
  B.startSession s.pipeline.backend id session.request selected s.pipeline.currentPeriodSec

/-- The session runs in the SDK: it did before, or the SDK has just started it. -/
inductive Running (id : String) (session : Session) (group : JointGroupModel)
    (selected : JointFeedback) (s : TickState β) : Session → TickState β → Prop
  | kept (hstarted : session.backendStarted = true) :
      Running id session group selected s session s
  | launched (s₁ s' : TickState β) (hidle : session.backendStarted = false)
      (hretry : RetryOver B ctx s session)
      (hanswer : (startAnswer B s id session selected).1.ok = true)
      (hmoved : Moved B (s.withBackend (startAnswer B s id session selected).2) s₁)
      (hgoal : Watched B id session
        (markStarted s₁ id (startedSession session group selected)) s') :
      Running id session group selected s (startedSession session group selected) s'

/-- What is known of a command issued as a normal output: it went through the final RTC, and it
passed the final check, against the last output or against the seed of a rebase. -/
structure Approved (p : CommandPipeline β) (session : Session) (group : JointGroupModel)
    (selected : JointFeedback) (command : JointCommand) : Prop where
  rtc : command.passedFinalSdkRtc = true
  checked : ∃ previous status,
    validateFinalCommand lib command group (some (previous, selected)) = .ok status ∧
    status.ok = true ∧ (previous = session.lastFinalTarget.positionsRad ∨
      ∃ rejected seed, wellFormed rejected group = true ∧ previous = seed.positionsRad ∧
        limitRecoverySeed p.config p.currentPeriodSec group session rejected selected = some seed)

/-- The session after its command has been issued (`:1077`). -/
def updatedSession (session : Session) (group : JointGroupModel) (command : JointCommand) :
    Session :=
  { session with
    lastFinalTarget := lastTarget command
    recoveringLimits := session.recoveringLimits && !plainlyOk lib command group }

/-- The tick after a command has been issued and recorded. -/
def emitted (s : TickState β) (id : String) (session : Session) (group : JointGroupModel)
    (limit : SteadyTime) (command : JointCommand) : TickState β :=
  let recorded := recordFinal (s.issue session.sessionId limit command) id
    (updatedSession lib session group command)
  if session.recoveringLimits && plainlyOk lib command group then
    recorded.pushEvent id "joint limit recovery completed"
  else recorded

/-- How the turn goes on after its command: the session continues, its Move is judged to have
failed and the command is taken back for a hold, or its Move has reached its goal. -/
inductive Concluded (id : String) (session : Session) (selected : JointFeedback)
    (s : TickState β) : TickState β → Prop
  | goesOn (s' : TickState β) (hw : Watched B id session s s') :
      Concluded id session selected s s'
  | failed (s₁ s' : TickState β) (hw : Watched B id session s s₁)
      (hmove : isServo session.kind = false)
      (hstop : Stopped B lib ctx id session selected s₁.popCommand s') :
      Concluded id session selected s s'
  | succeeded (s₁ : TickState β) (hw : Watched B id session s s₁)
      (hmove : isServo session.kind = false) :
      Concluded id session selected s
        (s₁.withPipeline (s₁.pipeline.terminate B id .succeeded .Ok true))

/-- Every way in which the turn of winner `id` can take the tick from `s` to `s'`. -/
inductive Turn (id : String) (s : TickState β) : TickState β → Prop
  | missing (h : s.pipeline.sessions[id]? = none) : Turn id s s
  | waits (session : Session) (s' : TickState β) (h : Stored s id session)
      (hservo : isServo session.kind = true) (hidle : session.backendStarted = false)
      (hmoved : Moved B s s') : Turn id s s'
  | refused (session : Session) (selected : JointFeedback) (s' : TickState β)
      (h : Stored s id session) (hended : Ended B lib ctx id session selected s s') : Turn id s s'
  | startEnds (session : Session) (group : JointGroupModel) (selected : JointFeedback)
      (s₁ s' : TickState β) (h : Stored s id session) (hmoved : Moved B s s₁)
      (hmeasured : Measured lib ctx s.pipeline session group selected)
      (hidle : session.backendStarted = false) (hretry : RetryOver B ctx s₁ session)
      (hended : Ended B lib ctx id session selected
        (s₁.withBackend (startAnswer B s₁ id session selected).2) s') : Turn id s s'
  | runEnds (session session' : Session) (group : JointGroupModel) (selected : JointFeedback)
      (s₁ s₂ s' : TickState β) (h : Stored s id session) (hmoved : Moved B s s₁)
      (hmeasured : Measured lib ctx s.pipeline session group selected)
      (hrun : Running B ctx id session group selected s₁ session' s₂)
      (hended : Ended B lib ctx id session' selected s₂ s') : Turn id s s'
  | emits (session session' : Session) (group : JointGroupModel) (selected : JointFeedback)
      (s₁ s₂ s₃ s' : TickState β) (limit : SteadyTime) (command : JointCommand)
      (h : Stored s id session) (hmoved : Moved B s s₁)
      (hmeasured : Measured lib ctx s.pipeline session group selected)
      (hrun : Running B ctx id session group selected s₁ session' s₂)
      (hmoved' : Moved B s₂ s₃)
      (happroved : Approved lib s.pipeline session' group selected command)
      (hlimit : deadlineOf ctx s.pipeline session' = some limit)
      (hconcluded : Concluded B lib ctx id (updatedSession lib session' group command) selected
        (emitted lib s₃ id session' group limit command) s') : Turn id s s'

variable {B lib ctx}

section
variable {s : TickState β} {id : String} {session : Session} {selected : JointFeedback}
  {group : JointGroupModel}

/-! ## What no turn changes -/

/-- The configuration and the period of the tick. -/
structure Fixed (p p' : CommandPipeline β) : Prop where
  groups : p'.groups = p.groups
  endpoints : p'.endpoints = p.endpoints
  config : p'.config = p.config
  period : p'.currentPeriodSec = p.currentPeriodSec

theorem Fixed.trans {p p' p'' : CommandPipeline β} (h : Fixed p p') (h' : Fixed p' p'') :
    Fixed p p'' where
  groups := h'.groups.trans h.groups
  endpoints := h'.endpoints.trans h.endpoints
  config := h'.config.trans h.config
  period := h'.period.trans h.period

theorem Watched.fixed {s' : TickState β} (h : Watched B id session s s') :
    Fixed s.pipeline s'.pipeline := by
  obtain ⟨e, m, -, -, -, -, rfl⟩ := h
  exact ⟨rfl, rfl, rfl, rfl⟩

theorem Moved.fixed {s' : TickState β} (h : Moved B s s') : Fixed s.pipeline s'.pipeline := by
  obtain ⟨e, -, rfl⟩ := h
  exact ⟨rfl, rfl, rfl, rfl⟩

theorem Running.fixed {session' : Session} {s' : TickState β}
    (h : Running B ctx id session group selected s session' s') :
    Fixed s.pipeline s'.pipeline := by
  cases h with
  | kept => exact ⟨rfl, rfl, rfl, rfl⟩
  | launched s₁ s' _ _ _ hmoved hgoal =>
    obtain ⟨e, -, rfl⟩ := hmoved
    obtain ⟨e', m, -, -, -, -, rfl⟩ := hgoal
    exact ⟨rfl, rfl, rfl, rfl⟩

theorem Watched.calls {s' : TickState β} (h : Watched B id session s s') :
    Calls B s.pipeline.backend s'.pipeline.backend := by
  obtain ⟨e, m, he, -, -, -, rfl⟩ := h
  exact he.calls

theorem Moved.calls {s' : TickState β} (h : Moved B s s') :
    Calls B s.pipeline.backend s'.pipeline.backend := by
  obtain ⟨e, he, rfl⟩ := h
  exact he.calls

theorem Running.calls {session' : Session} {s' : TickState β}
    (h : Running B ctx id session group selected s session' s') :
    Calls B s.pipeline.backend s'.pipeline.backend := by
  cases h with
  | kept => exact .refl _
  | launched s₁ s' _ _ _ hmoved hgoal =>
    exact ((AnyCall.startSession _ _ _ _ _).calls.trans hmoved.calls).trans hgoal.calls

theorem deadlineOf_fixed {p p' : CommandPipeline β} (h : Fixed p p') (session : Session) :
    deadlineOf ctx p' session = deadlineOf ctx p session := by
  unfold deadlineOf
  rw [h.config, h.endpoints]

theorem Approved.fixed {p p' : CommandPipeline β} {command : JointCommand} (h : Fixed p p')
    (h' : Approved lib p' session group selected command) :
    Approved lib p session group selected command where
  rtc := h'.rtc
  checked := h.config ▸ h.period ▸ h'.checked

theorem Measured.fixed {p p' : CommandPipeline β} (h : Fixed p p')
    (hm : Measured lib ctx p session group selected) :
    Measured lib ctx p' session group selected where
  found := h.groups ▸ hm.found
  model := hm.model
  names := hm.names
  valid := h.config ▸ hm.valid
  selected := hm.selected

/-! ## Admission -/

theorem awaitRetry_spec (s : TickState β) (session : Session) :
    Prog.wp (awaitRetry B ctx session)
      (fun _ s' => Moved B s s' ∧ (session.backendStarted = false → RetryOver B ctx s' session))
      (fun x s' => x = .next ∧ isServo session.kind = true ∧ session.backendStarted = false ∧
        Moved B s s') s := by
  unfold awaitRetry
  simp only [Prog.wp_bind, Prog.wp_get]
  split
  · rename_i hnone
    exact ⟨.refl _, fun _ _ retry h => by rw [hnone] at h; cases h⟩
  · rename_i retry hretry
    rw [Prog.wp_ite]
    split
    · rename_i hc
      simp only [Bool.and_eq_true, Bool.not_eq_true'] at hc
      simp only [Prog.wp_bind, wp_currentTime, wp_continueIf, decide_eq_true_eq]
      have hmoved : Moved B s (s.withBackend (B.steadyNow s.pipeline.backend).2) :=
        .call (.steadyNow _)
      split
      · exact ⟨trivial, hc.1, hc.2, hmoved⟩
      · rename_i hle
        refine ⟨hmoved, fun _ _ retry' h => ⟨_, ⟨s.pipeline.backend, .refl _, rfl⟩, ?_⟩⟩
        obtain ⟨rfl⟩ : retry = retry' := Option.some.inj (hretry.symm.trans h)
        exact not_lt.1 hle
    · rename_i hc
      refine ⟨.refl _, fun hidle hservo => ?_⟩
      simp [hidle, hservo] at hc

/-- The opening of the turn: the session waits, ends, or is measured and may go on. -/
theorem admitWinner_spec (hsound : ∀ session, s.pipeline.sessions[id]? = some session →
      SessionOk s.pipeline id session) :
    Prog.wp (admitWinner B lib ctx id)
      (fun r s' => ∃ group, Stored s id r.1 ∧ Moved B s s' ∧
        Measured lib ctx s.pipeline r.1 group r.2 ∧
        (r.1.backendStarted = false → RetryOver B ctx s' r.1))
      (fun x s' => x = .next ∧ Turn B lib ctx id s s') s := by
  unfold admitWinner
  simp only [Prog.wp_bind, Prog.wp_get]
  split
  · rename_i hnone
    exact ⟨rfl, .missing hnone⟩
  · rename_i found hfound
    have hstored : Stored s id found := ⟨hfound, hsound found hfound⟩
    obtain ⟨group, hgroup, hnames, hmodel⟩ := hstored.ok.group
    simp only [Prog.wp_bind, wp_at? hgroup, wp_currentTime]
    set s₁ := s.withBackend (B.steadyNow s.pipeline.backend).2 with hs₁
    have hm₁ : Moved B s s₁ := .call (.steadyNow _)
    rw [Prog.wp_ite]
    split
    · simp only [Prog.wp_bind, wp_terminate, Prog.wp_throw]
      exact ⟨trivial, .refused found {} _ hstored (.dropped _ _ hm₁)⟩
    · rename_i hvalid
      simp only [Bool.not_eq_true', Bool.not_eq_false] at hvalid
      obtain ⟨selected, hselected⟩ := selectFeedback_total ctx.feedback found.jointNames
        (hnames ▸ (validateFeedback_ok hvalid).2.2)
      have hmeasured : Measured lib ctx s.pipeline found group selected :=
        ⟨hgroup, hmodel, hnames, ⟨_, hvalid⟩, hselected⟩
      rw [Prog.wp_bind]
      refine wp_checkTime (hstored.moved hm₁) (fun s₂ hm₂ => ?_)
        (fun s' h => ⟨rfl, .refused found selected _ hstored (h.moved hm₁)⟩)
      simp only [Prog.wp_bind, wp_liftExcept hselected]
      refine (awaitRetry_spec s₂ found).imp ?_ ?_
      · rintro _ s₃ ⟨hm₃, hretry⟩
        have hm := (hm₁.trans hm₂).trans hm₃
        rw [Prog.wp_ite]
        split
        · exact wp_stopAndTerminate (hstored.moved hm) hselected fun s' h =>
            ⟨rfl, .refused found selected _ hstored (.stopped _ (h.moved hm))⟩
        · exact ⟨group, hstored, hm, hmeasured, hretry⟩
      · rintro x s₃ ⟨hx, hservo, hidle, hm₃⟩
        exact ⟨hx, .waits found _ hstored hservo hidle ((hm₁.trans hm₂).trans hm₃)⟩

/-! ## Start -/

theorem Stored.withBackend (h : Stored s id session) (e : β) : Stored (s.withBackend e) id session :=
  ⟨h.found, SessionOk.congr h.ok rfl rfl rfl⟩

theorem Measured.moveTo {p : CommandPipeline β} {session' : Session}
    (h : Measured lib ctx p session group selected) (hname : session'.groupName = session.groupName)
    (hjoints : session'.jointNames = session.jointNames) :
    Measured lib ctx p session' group selected where
  found := hname ▸ h.found
  model := h.model
  names := hjoints ▸ h.names
  valid := h.valid
  selected := hjoints ▸ h.selected

/-- A goal the monitor can take is taken, and nothing else changes. -/
theorem wp_beginGoal {goal : JointTarget} {pose : Option Pose} {startedAt : SteadyTime}
    {Q : Unit → TickState β → Prop} {E : Exit → TickState β → Prop}
    (hc : s.pipeline.monitor.config.valid = true) (hid : id.isEmpty = false)
    (hne : goal.jointNames.isEmpty = false)
    (hlen : goal.jointNames.length = goal.positionsRad.length)
    (hu : uniqueNonEmpty goal.jointNames = true) (hf : finite goal.positionsRad = true)
    (hp : ∀ p ∈ pose, finitePose p = true)
    (hgo : Q () (withMonitor s (s.pipeline.monitor.setGoal id ⟨goal, pose, startedAt, none⟩))) :
    Prog.wp (beginGoal B id goal pose startedAt) Q E s := by
  have hok : (s.pipeline.monitor.begin id goal pose startedAt).1.ok = true :=
    GoalMonitor.begin_accepts hc hid hne hlen hu hf hp
  unfold beginGoal
  simp only [Prog.wp_bind, Prog.wp_modifyGet, hok, Bool.not_true, Bool.false_eq_true, if_false,
    Prog.wp_pure, GoalMonitor.begin_ok hok]
  exact hgo

/-- Storing a goal under `id` is a change the monitor makes for a Move. -/
theorem watched_setGoal (hmove : isServo session.kind = false) (goal : GoalState) :
    Watched B id session s (withMonitor s (s.pipeline.monitor.setGoal id goal)) := by
  refine ⟨_, s.pipeline.monitor.setGoal id goal, .refl _, rfl, fun h => ?_, fun k hk => ?_, rfl⟩
  · rw [hmove] at h; cases h
  · simp [GoalMonitor.setGoal, Std.TreeMap.getElem?_insert, Ne.symm hk]

theorem markStarted_found (s : TickState β) (id : String) (started : Session) :
    (markStarted s id started).pipeline.sessions[id]? = some started := by
  simp [markStarted, TickState.withPipeline, TickState.pushEvent]

/-- The session that the SDK has just started is as sound as it was. -/
theorem Stored.started (h : Stored s id session)
    (hmeasured : Measured lib ctx s.pipeline session group selected) :
    Stored (markStarted s id (startedSession session group selected)) id
      (startedSession session group selected) where
  found := markStarted_found s id _
  ok :=
    { key := h.ok.key
      nonempty := h.ok.nonempty
      endpoint := h.ok.endpoint
      group := h.ok.group
      last := fun _ => (selectFeedback_ok hmeasured.selected).2
      goal := h.ok.goal
      monitor := h.ok.monitor }

theorem Running.stored {session' : Session} {s' : TickState β} (h : Stored s id session)
    (hmeasured : Measured lib ctx s.pipeline session group selected)
    (hrun : Running B ctx id session group selected s session' s') :
    Stored s' id session' ∧ session'.backendStarted = true ∧
      Measured lib ctx s'.pipeline session' group selected := by
  cases hrun with
  | kept hstarted => exact ⟨h, hstarted, hmeasured⟩
  | launched s₁ s' hidle hretry hanswer hmoved hgoal =>
    have h₁ : Stored s₁ id session := (h.withBackend _).moved hmoved
    have hm₁ : Measured lib ctx s₁.pipeline session group selected := by
      obtain ⟨e, -, rfl⟩ := hmoved
      exact ⟨hmeasured.found, hmeasured.model, hmeasured.names, hmeasured.valid, hmeasured.selected⟩
    refine ⟨(h₁.started hm₁).watched hgoal, rfl, ?_⟩
    exact (hmeasured.fixed (Running.launched s₁ s' hidle hretry hanswer hmoved hgoal).fixed).moveTo
      rfl rfl

theorem startWinner_spec (h : Stored s id session)
    (hmeasured : Measured lib ctx s.pipeline session group selected)
    (hretry : session.backendStarted = false → RetryOver B ctx s session) :
    Prog.wp (startWinner B lib ctx id session selected)
      (fun session' s' => Running B ctx id session group selected s session' s')
      (fun x s' => x = .next ∧ session.backendStarted = false ∧
        Ended B lib ctx id session selected
          (s.withBackend (startAnswer B s id session selected).2) s') s := by
  unfold startWinner
  rw [Prog.wp_ite]
  split
  · rename_i hstarted
    exact .kept hstarted
  · rename_i hidle
    simp only [Bool.not_eq_true] at hidle
    simp only [Prog.wp_bind, Prog.wp_get, wp_call]
    set started := s.withBackend (startAnswer B s id session selected).2 with hstarted
    have h₀ : Stored started id session := h.withBackend _
    refine wp_checkTime h₀ (fun s₁ hm₁ => ?_) (fun s' hend => ⟨rfl, hidle, hend⟩)
    rw [Prog.wp_ite]
    split
    · exact wp_stopAndFail (h₀.moved hm₁) hmeasured.selected fun s' hend => ⟨rfl, hidle, hend.moved hm₁⟩
    · rename_i hanswer
      simp only [Bool.not_eq_true', Bool.not_eq_false] at hanswer
      simp only [Prog.wp_bind, wp_call]
      have hm₂ : Moved B started (s₁.withBackend
          (B.resetFinalJointTarget s₁.pipeline.backend session.groupName selected).2) :=
        hm₁.trans (.call (.resetFinalJointTarget _ _ _))
      refine wp_checkTime (h₀.moved hm₂) (fun s₂ hm₃ => ?_)
        (fun s' hend => ⟨rfl, hidle, hend.moved hm₂⟩)
      have hm := hm₂.trans hm₃
      have h₂ := h₀.moved hm
      rw [Prog.wp_ite]
      split
      · exact wp_stopAndFail h₂ hmeasured.selected fun s' hend => ⟨rfl, hidle, hend.moved hm⟩
      · have hgroup : s₂.pipeline.groups[session.groupName]? = some group := by
          obtain ⟨e, -, rfl⟩ := hm
          exact hmeasured.found
        simp only [Prog.wp_bind, Prog.wp_get, wp_at? hgroup, Prog.wp_modify]
        have hlaunched : ∀ s', Watched B id session
              (markStarted s₂ id (startedSession session group selected)) s' →
            Running B ctx id session group selected s (startedSession session group selected) s' :=
          fun s' hgoal => .launched s₂ s' hidle (hretry hidle) hanswer hm hgoal
        rw [Prog.wp_ite]
        split
        · rename_i hkind
          have hmove : isServo session.kind = false := by rw [hkind]; rfl
          obtain ⟨r, hr⟩ : ∃ r, session.request = .moveJ r := by
            unfold Session.kind at hkind
            cases hreq : session.request <;> simp only [hreq, motionKind] at hkind <;> simp_all
          have hgoal := h.ok.goal
          rw [hr] at hgoal
          obtain ⟨hne, hlen, hu, hf⟩ := hgoal
          rw [Prog.wp_bind, hr]
          exact wp_beginGoal h₂.ok.monitor h.ok.nonempty hne hlen hu hf (by simp)
            (hlaunched _ (watched_setGoal hmove _))
        · exact hlaunched _ (.refl _ _ _)

/-! ## Candidate and final RTC -/

theorem candidateOf_spec (group : JointGroupModel) (h : Stored s id session)
    (hselected : selectFeedback ctx.feedback session.jointNames = .ok selected) :
    Prog.wp (candidateOf B lib ctx id session selected group)
      (fun r s' => Moved B s s' ∧ wellFormed r.candidate group = true)
      (fun x s' => x = .next ∧ Ended B lib ctx id session selected s s') s := by
  unfold candidateOf
  simp only [Prog.wp_bind, Prog.wp_get, wp_call]
  set answer := B.tickSession s.pipeline.backend id (dynamicTarget session.request)
    s.pipeline.currentPeriodSec with hanswer
  have hm₁ : Moved B s (s.withBackend answer.2) := .call (.tickSession _ _ _ _)
  refine wp_checkTime (h.moved hm₁) (fun s₂ hm₂ => ?_) (fun s' hend => ⟨rfl, hend.moved hm₁⟩)
  have hm := hm₁.trans hm₂
  rw [Prog.wp_ite]
  split
  · exact wp_stopAndFail (h.moved hm) hselected fun s' hend => ⟨rfl, hend.moved hm⟩
  · obtain ⟨status, hstatus⟩ := validateCandidate_total lib answer.1.candidate group
    simp only [Prog.wp_bind, wp_liftExcept hstatus]
    rw [Prog.wp_ite]
    split
    · exact wp_stopAndFail (h.moved hm) hselected fun s' hend => ⟨rfl, hend.moved hm⟩
    · rename_i hok
      exact ⟨hm, validateCandidate_ok hstatus (by simpa using hok)⟩

/-- The final status, with the output it is about: of the first output, or of the retried one. -/
def Checked (lib : MathLib) (p : CommandPipeline β) (session : Session) (group : JointGroupModel)
    (selected : JointFeedback) (r : BackendTick × MotionStatus) : Prop :=
  r.2.ok = true → r.1.candidate.passedFinalSdkRtc = true →
    Approved lib p session group selected r.1.candidate

theorem rebaseAndRetry_spec {E : Exit → TickState β → Prop}
    (hlast : session.lastFinalTarget.positionsRad.length = group.jointNames.length)
    (hselected : selected.positionsRad.length = group.jointNames.length) {candidate : JointCommand}
    {finalTick : BackendTick} {status : MotionStatus}
    (hw : wellFormed finalTick.candidate group = true) (hbad : status.ok = false) :
    Prog.wp (rebaseAndRetry B lib session selected group candidate finalTick status)
      (fun r s' => Moved B s s' ∧ Checked lib s.pipeline session group selected r)
      E s := by
  unfold rebaseAndRetry
  simp only [Prog.wp_bind, Prog.wp_get]
  split
  · exact ⟨.refl _, fun hok => by rw [hbad] at hok; cases hok⟩
  · rename_i seed hseed
    simp only [Prog.wp_bind, wp_call]
    set rebased := B.rebaseFinalJointTarget s.pipeline.backend session.groupName seed with hrebased
    have hm₁ : Moved B s (s.withBackend rebased.2) := .call (.rebaseFinalJointTarget _ _ _)
    rw [Prog.wp_ite]
    split
    · rename_i hno
      simp only [Bool.not_eq_true'] at hno
      exact ⟨hm₁, fun hok => by simp only [hno] at hok; cases hok⟩
    · simp only [Prog.wp_bind, wp_call]
      set retried := B.updateFinalJointTarget (s.withBackend rebased.2).pipeline.backend
        session.groupName candidate s.pipeline.currentPeriodSec with hretried
      have hm₂ : Moved B s ((s.withBackend rebased.2).withBackend retried.2) :=
        hm₁.trans (.call (.updateFinalJointTarget _ _ _ _))
      rw [Prog.wp_ite]
      split
      · rename_i hno
        simp only [Bool.not_eq_true'] at hno
        exact ⟨hm₂, fun hok => by simp only [hno] at hok; cases hok⟩
      · have hlen := (limitRecoverySeed_length hseed).trans hlast
        obtain ⟨final, hfinal⟩ := validateFinalCommand_total lib retried.1.candidate group
          (some (seed.positionsRad, selected)) (by rintro _ ⟨rfl⟩; exact ⟨hlen, hselected⟩)
        simp only [Prog.wp_bind, wp_liftExcept hfinal, Prog.wp_pure]
        exact ⟨hm₂, fun hok hrtc => ⟨hrtc, _, final, hfinal, hok,
          .inr ⟨finalTick.candidate, seed, hw, rfl, hseed⟩⟩⟩

theorem finalRtc_spec (h : Stored s id session) (hstarted : session.backendStarted = true)
    (hmeasured : Measured lib ctx s.pipeline session group selected) {candidate : JointCommand} :
    Prog.wp (finalRtc B lib ctx id session selected group candidate)
      (fun command s' => Moved B s s' ∧ Approved lib s.pipeline session group selected command)
      (fun x s' => x = .next ∧ Ended B lib ctx id session selected s s') s := by
  have hlast : session.lastFinalTarget.positionsRad.length = group.jointNames.length := by
    rw [h.ok.last hstarted, hmeasured.names]
  have hselected : selected.positionsRad.length = group.jointNames.length := by
    rw [(selectFeedback_ok hmeasured.selected).2, hmeasured.names]
  unfold finalRtc
  simp only [Prog.wp_bind, Prog.wp_get, wp_call]
  set answer := B.updateFinalJointTarget s.pipeline.backend session.groupName candidate
    s.pipeline.currentPeriodSec with hanswer
  have hm₁ : Moved B s (s.withBackend answer.2) := .call (.updateFinalJointTarget _ _ _ _)
  refine wp_checkTime (h.moved hm₁) (fun s₂ hm₂ => ?_) (fun s' hend => ⟨rfl, hend.moved hm₁⟩)
  have hm := hm₁.trans hm₂
  rw [Prog.wp_ite]
  split
  · exact wp_stopAndFail (h.moved hm) hmeasured.selected fun s' hend => ⟨rfl, hend.moved hm⟩
  · obtain ⟨status, hstatus⟩ := validateFinalCommand_total lib answer.1.candidate group
      (some (session.lastFinalTarget.positionsRad, selected))
      (by rintro _ ⟨rfl⟩; exact ⟨hlast, hselected⟩)
    simp only [Prog.wp_bind, wp_liftExcept hstatus]
    -- the last two tests, for the first output and for the one retry of a rejected one
    have hrest : ∀ (r : BackendTick × MotionStatus) s₃, Moved B s s₃ →
        Checked lib s.pipeline session group selected r →
        Prog.wp
          (if !r.2.ok then stopAndFail B lib ctx id session selected r.2
            else if !r.1.candidate.passedFinalSdkRtc then
              stopAndFail B lib ctx id session selected bypassStatus
            else pure r.1.candidate : TickM β JointCommand)
          (fun command s' => Moved B s s' ∧
            Approved lib s.pipeline session group selected command)
          (fun x s' => x = .next ∧ Ended B lib ctx id session selected s s') s₃ := by
      intro r s₃ hm₃ hchecked
      simp only [Prog.wp_ite]
      split
      · exact wp_stopAndFail (h.moved hm₃) hmeasured.selected fun s' hend => ⟨rfl, hend.moved hm₃⟩
      · rename_i hok
        split
        · exact wp_stopAndFail (h.moved hm₃) hmeasured.selected fun s' hend => ⟨rfl, hend.moved hm₃⟩
        · rename_i hrtc
          exact ⟨hm₃, hchecked (by simpa using hok) (by simpa using hrtc)⟩
    rw [Prog.wp_ite]
    split
    · rename_i hcode
      have hw := validateFinalCommand_wellFormed hstatus (by simp [hcode])
      refine (rebaseAndRetry_spec hlast hselected hw (by simp [MotionStatus.ok, hcode])).bind ?_
      rintro r s₃ ⟨hm₃, hr⟩
      refine hrest r s₃ (hm.trans hm₃) fun hok hrtc => ?_
      obtain ⟨e, he, rfl⟩ := hm
      exact ⟨(hr hok hrtc).rtc, (hr hok hrtc).checked⟩
    · exact hrest _ _ hm fun hok hrtc => ⟨hrtc, _, status, hstatus, hok, .inl rfl⟩

/-! ## Emission and the goal -/

theorem Approved.wellFormed {p : CommandPipeline β} {command : JointCommand}
    (h : Approved lib p session group selected command) : wellFormed command group = true := by
  obtain ⟨_, _, hcheck, hok, -⟩ := h.checked
  exact (validateFinalCommand_ok hcheck hok).1

theorem plainlyOk_eq {command : JointCommand} {status : MotionStatus}
    (h : validateFinalCommand lib command group none = .ok status) :
    plainlyOk lib command group = status.ok := by
  simp [plainlyOk, h]

theorem emitFinal_spec {E : Exit → TickState β → Prop} {limit : SteadyTime}
    {command : JointCommand} (hlimit : deadlineOf ctx s.pipeline session = some limit) :
    Prog.wp (emitFinal lib ctx id session group command)
      (fun r s' => r = updatedSession lib session group command ∧
        s' = emitted lib s id session group limit command) E s := by
  obtain ⟨status, hstatus⟩ := validateFinalCommand_total lib command group none (by simp)
  have hplain := plainlyOk_eq hstatus
  unfold emitFinal appendCommand
  simp only [Prog.wp_bind, wp_deadline hlimit, Prog.wp_modify, wp_liftExcept hstatus, Prog.wp_ite,
    Prog.wp_pure, ← hplain]
  unfold emitted updatedSession
  split
  · exact ⟨rfl, rfl⟩
  · exact ⟨rfl, rfl⟩

theorem emitted_pipeline (s : TickState β) (id : String) (session : Session)
    (group : JointGroupModel) (limit : SteadyTime) (command : JointCommand) :
    (emitted lib s id session group limit command).pipeline =
      (recordFinal (s.issue session.sessionId limit command) id
        (updatedSession lib session group command)).pipeline := by
  unfold emitted
  split <;> rfl

theorem Stored.emitted {limit : SteadyTime} {command : JointCommand} (h : Stored s id session)
    (hnames : group.jointNames = session.jointNames) (hw : wellFormed command group = true) :
    Stored (emitted lib s id session group limit command) id
      (updatedSession lib session group command) where
  found := by simp [emitted_pipeline, recordFinal, TickState.withPipeline]
  ok :=
    { key := h.ok.key
      nonempty := h.ok.nonempty
      endpoint := by rw [emitted_pipeline]; exact h.ok.endpoint
      group := by rw [emitted_pipeline]; exact h.ok.group
      last := fun _ => ((wellFormed_iff command group).1 hw).2.2.1.trans (congrArg _ hnames)
      goal := h.ok.goal
      monitor := by rw [emitted_pipeline]; exact h.ok.monitor }

theorem GoalOk.cartesian {request : SessionRequest} (h : GoalOk request) :
    ∀ pose ∈ terminalCartesianGoal request, finitePose pose = true := by
  cases request with
  | moveJ r => simp [terminalCartesianGoal]
  | _ => exact h

theorem Watched.pop {s₁ : TickState β} (h : Watched B id session s s₁) :
    Watched B id session s.popCommand s₁.popCommand := by
  obtain ⟨e, m, he, hc, hs, hk, rfl⟩ := h
  exact ⟨e, m, he, hc, hs, hk, rfl⟩

theorem Stored.pop (h : Stored s id session) : Stored s.popCommand id session := ⟨h.found, h.ok⟩

section
variable (h : Stored s id session) (hmove : isServo session.kind = false)
  (hselected : selectFeedback ctx.feedback session.jointNames = .ok selected)
include h hmove hselected

theorem concludeGoal_spec {s₀ : TickState β} {observation : GoalObservationResult}
    (hw : Watched B id session s₀ s) :
    Prog.wp (concludeGoal B lib ctx id session selected observation)
      (fun _ s' => Concluded B lib ctx id session selected s₀ s')
      (fun x s' => x = .next ∧ Concluded B lib ctx id session selected s₀ s') s := by
  unfold concludeGoal
  split
  · exact .succeeded s hw hmove
  · simp only [Prog.wp_bind, Prog.wp_modify]
    exact wp_stopAndTerminate h.pop hselected fun s' hstop => ⟨rfl, .failed s s' hw hmove hstop⟩
  · simp only [Prog.wp_bind, Prog.wp_modify]
    exact wp_stopAndTerminate h.pop hselected fun s' hstop => ⟨rfl, .failed s s' hw hmove hstop⟩
  · exact .goesOn s hw

theorem goalPose_spec {s₀ : TickState β}
    (hw : Watched B id session s₀ s) :
    Prog.wp (goalPose B lib ctx id session selected)
      (fun _ s' => Moved B s s')
      (fun x s' => x = .next ∧ Concluded B lib ctx id session selected s₀ s') s := by
  unfold goalPose
  split
  · exact .refl s
  · simp only [Prog.wp_bind, wp_liftExcept hselected, wp_call, Prog.wp_ite]
    have hm : Moved B s (s.withBackend (B.forwardKinematics s.pipeline.backend
        (feedbackPoseRequest session selected)).2) := .call (.forwardKinematics _ _)
    split
    · simp only [Prog.wp_modify]
      exact wp_stopAndTerminate (h.moved hm).pop hselected fun s' hstop =>
        ⟨rfl, .failed _ s' (hw.trans hm.watched) hmove hstop⟩
    · exact hm

omit h hselected in
theorem observe_watched (lib : MathLib) (ctx : TickContext) (pose : Option Pose) :
    Watched B id session s (withMonitor s
      (s.pipeline.monitor.observe lib id ctx.feedback pose ctx.now).2) := by
  rcases GoalMonitor.observe_goals lib s.pipeline.monitor id ctx.feedback pose ctx.now with
    heq | ⟨goal, -, heq⟩
  · rw [heq]; exact .refl _ _ _
  · rw [heq]; exact watched_setGoal hmove goal

theorem observeGoal_spec {s₀ : TickState β}
    (hw : Watched B id session s₀ s) :
    Prog.wp (observeGoal B lib ctx id session selected)
      (fun _ s' => Concluded B lib ctx id session selected s₀ s')
      (fun x s' => x = .next ∧ Concluded B lib ctx id session selected s₀ s') s := by
  unfold observeGoal
  refine (goalPose_spec h hmove hselected hw).bind ?_
  rintro pose s₁ hm
  simp only [Prog.wp_bind, Prog.wp_modifyGet]
  have hobs : Watched B id session s₁ _ := observe_watched hmove lib ctx pose
  exact concludeGoal_spec ((h.moved hm).watched hobs) hmove hselected
    ((hw.trans hm.watched).trans hobs)

end

theorem monitorGoal_spec (h : Stored s id session)
    (hmeasured : Measured lib ctx s.pipeline session group selected) {backendTick : BackendTick}
    (hcandidate : wellFormed backendTick.candidate group = true) :
    Prog.wp (monitorGoal B lib ctx id session selected backendTick)
      (fun _ s' => Concluded B lib ctx id session selected s s')
      (fun x s' => x = .next ∧ Concluded B lib ctx id session selected s s') s := by
  unfold monitorGoal
  simp only [Prog.wp_bind, wp_continueIf, Prog.wp_get]
  split
  · exact ⟨trivial, .goesOn s (.refl _ _ _)⟩
  · rename_i hmove
    simp only [Bool.not_eq_true] at hmove
    simp only [Prog.wp_ite, Prog.wp_bind, wp_continueIf, Prog.wp_get]
    split
    · have hgoal : ∀ goal, Watched B id session s
          (withMonitor s (s.pipeline.monitor.setGoal id goal)) := watched_setGoal hmove
      obtain ⟨-, hnames, hlen, -, -, hf, -⟩ :=
        (wellFormed_iff backendTick.candidate group).1 hcandidate
      obtain ⟨-, hne, hu, -⟩ := group.valid_iff.1 hmeasured.model
      exact wp_beginGoal h.ok.monitor h.ok.nonempty (by rw [hnames]; exact hne)
        (by rw [hnames, hlen]) (by rw [hnames]; exact hu) hf (GoalOk.cartesian h.ok.goal)
        (observeGoal_spec (h.watched (hgoal _)) hmove hmeasured.selected (hgoal _))
    · split
      · exact ⟨trivial, .goesOn s (.refl _ _ _)⟩
      · exact observeGoal_spec h hmove hmeasured.selected (.refl _ _ _)

/-! ## The whole turn -/

/-- The turn of a winner whose session is sound takes one of the ways of `Turn`, and no `.at()` in
it throws. -/
theorem winnerTurn_turn (hsound : ∀ session, s.pipeline.sessions[id]? = some session →
      SessionOk s.pipeline id session) :
    Prog.wp (winnerTurn B lib ctx id) (fun _ s' => Turn B lib ctx id s s')
      (fun x s' => x = .next ∧ Turn B lib ctx id s s') s := by
  unfold winnerTurn
  refine (admitWinner_spec hsound).bind ?_
  rintro ⟨session, selected⟩ s₁ ⟨group, h, hm₁, hmeasured, hretry⟩
  simp only at h hmeasured hretry ⊢
  have h₁ := h.moved hm₁
  have hmeasured₁ := hmeasured.fixed hm₁.fixed
  rw [Prog.wp_bind]
  refine (startWinner_spec h₁ hmeasured₁ hretry).imp ?_ ?_
  · rintro session' s₂ hrun
    obtain ⟨h₂, hstarted, hmeasured₂⟩ := hrun.stored h₁ hmeasured₁
    simp only [Prog.wp_bind, Prog.wp_get, wp_at? hmeasured₂.found]
    refine (candidateOf_spec group h₂ hmeasured₂.selected).imp ?_ ?_
    · rintro backendTick s₃ ⟨hm₃, hcandidate⟩
      have hmeasured₃ := hmeasured₂.fixed hm₃.fixed
      refine (finalRtc_spec (h₂.moved hm₃) hstarted hmeasured₃).imp ?_ ?_
      · rintro command s₄ ⟨hm₄, happroved⟩
        have hm := hm₃.trans hm₄
        have h₄ := h₂.moved hm
        obtain ⟨limit, hlimit⟩ := deadlineOf_isSome ctx h₄.ok
        refine (emitFinal_spec hlimit).imp ?_ (fun _ _ h => h)
        rintro _ _ ⟨rfl, rfl⟩
        have hfixed := hm₁.fixed.trans hrun.fixed
        have hturn : ∀ s', Concluded B lib ctx id (updatedSession lib session' group command)
              selected (emitted lib s₄ id session' group limit command) s' →
            Turn B lib ctx id s s' := fun s' hc =>
          .emits session session' group selected s₁ s₂ s₄ s' limit command h hm₁ hmeasured hrun hm
            (happroved.fixed (hfixed.trans hm₃.fixed))
            (deadlineOf_fixed (hfixed.trans hm.fixed) session' ▸ hlimit) hc
        have hmeasured₄ : Measured lib ctx (emitted lib s₄ id session' group limit command).pipeline
            (updatedSession lib session' group command) group selected := by
          refine (hmeasured₂.fixed (hm.fixed.trans ?_)).moveTo rfl rfl
          rw [emitted_pipeline]
          exact ⟨rfl, rfl, rfl, rfl⟩
        exact (monitorGoal_spec (h₄.emitted hmeasured₃.names happroved.wellFormed) hmeasured₄
          hcandidate).imp (fun _ s' hc => hturn s' hc) fun x s' hc => ⟨hc.1, hturn s' hc.2⟩
      · rintro x s' ⟨hx, hend⟩
        exact ⟨hx, .runEnds session session' group selected s₁ s₂ s' h hm₁ hmeasured hrun
          (hend.moved hm₃)⟩
    · rintro x s' ⟨hx, hend⟩
      exact ⟨hx, .runEnds session session' group selected s₁ s₂ s' h hm₁ hmeasured hrun hend⟩
  · rintro x s' ⟨hx, hidle, hend⟩
    exact ⟨hx, .startEnds session group selected s₁ s' h hm₁ hmeasured hidle (hretry hidle) hend⟩

/-- One turn of the winner loop never throws. -/
theorem turn_turn {E : Exit → TickState β → Prop}
    (hsound : ∀ session, s.pipeline.sessions[id]? = some session →
      SessionOk s.pipeline id session) :
    Prog.wp (turn B lib ctx id) (fun _ s' => Turn B lib ctx id s s') E s := by
  unfold turn
  rw [Prog.wp_catchExit]
  refine (winnerTurn_turn hsound).imp (fun _ _ h => h) ?_
  rintro x s' ⟨rfl, h⟩
  exact h

end

end Tick

end HumanoidMotion
