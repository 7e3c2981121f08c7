import HumanoidMotion.Motion.Accepted
import HumanoidMotion.Motion.Tick
/-
# Rules for the parts of the winner loop

* `SessionOk` — what the `.at()` lookups and the goal monitor rely on.
* `Moved`, `Watched` — only the platform has moved; it and the goal of `id`.
* `Ended` — how a turn ends its session: dropped with its permits revoked, or
  stopped, with a hold or without one, its permits left in place.
* `wp_checkTime`, `wp_stopAndFail`, … — one rule for each lambda of the tick.
-/

namespace HumanoidMotion

/-! ## Sound lookups -/

/-- A stored session agrees with the tables it points into. -/
structure SessionOk {β : Type} (p : CommandPipeline β) (id : String) (session : Session) :
    Prop where
  key : session.sessionId = id
  nonempty : id.isEmpty = false
  endpoint : ∃ policy, p.endpoints[session.endpointName]? = some policy ∧
    policy.groupName = session.groupName
  group : ∃ group, p.groups[session.groupName]? = some group ∧
    group.jointNames = session.jointNames ∧ group.valid = true
  last : session.backendStarted = true →
    session.lastFinalTarget.positionsRad.length = session.jointNames.length
  goal : GoalOk session.request
  monitor : p.monitor.config.valid = true

namespace Tick

variable {β : Type} {B : Platform β} {lib : MathLib} {ctx : TickContext}

/-! ## The primitive steps -/

section
variable {α : Type} {Q : α → TickState β → Prop} {E : Exit → TickState β → Prop} {s : TickState β}

@[simp] theorem wp_call (f : β → α × β) :
    Prog.wp (call f : TickM β α) Q E s ↔
      Q (f s.pipeline.backend).1 (s.withBackend (f s.pipeline.backend).2) := Iff.rfl

theorem wp_at? {value : Option α} {a : α} (h : value = some a) :
    Prog.wp (at? value : TickM β α) Q E s ↔ Q a s := by
  subst h; rfl

theorem wp_liftExcept {value : Except OutOfRange α} {a : α} (h : value = .ok a) :
    Prog.wp (liftExcept value : TickM β α) Q E s ↔ Q a s := by
  subst h; rfl

@[simp] theorem wp_continueIf {Q : Unit → TickState β → Prop} (c : Bool) :
    Prog.wp (continueIf c : TickM β Unit) Q E s ↔ if c then E .next s else Q () s := by
  cases c <;> rfl

@[simp] theorem wp_terminate {Q : Unit → TickState β → Prop} (id : String) (state : SessionState)
    (status : MotionStatus) (preserve : Bool) :
    Prog.wp (terminate B id state status preserve) Q E s ↔
      Q () (s.withPipeline (s.pipeline.terminate B id state status preserve)) := Iff.rfl

@[simp] theorem wp_currentTime {Q : SteadyTime → TickState β → Prop} :
    Prog.wp (currentTime B ctx) Q E s ↔
      Q (ctx.now + ((B.steadyNow s.pipeline.backend).1 - ctx.enteredAt))
        (s.withBackend (B.steadyNow s.pipeline.backend).2) := Iff.rfl

end

@[simp] theorem withBackend_backend (s : TickState β) (e : β) :
    (s.withBackend e).pipeline.backend = e := rfl

@[simp] theorem withBackend_withBackend (s : TickState β) (e e' : β) :
    (s.withBackend e).withBackend e' = s.withBackend e' := rfl

@[simp] theorem withBackend_sessions (s : TickState β) (e : β) :
    (s.withBackend e).pipeline.sessions = s.pipeline.sessions := rfl

@[simp] theorem withBackend_groups (s : TickState β) (e : β) :
    (s.withBackend e).pipeline.groups = s.pipeline.groups := rfl

@[simp] theorem withBackend_endpoints (s : TickState β) (e : β) :
    (s.withBackend e).pipeline.endpoints = s.pipeline.endpoints := rfl

@[simp] theorem withBackend_config (s : TickState β) (e : β) :
    (s.withBackend e).pipeline.config = s.pipeline.config := rfl

@[simp] theorem withBackend_monitor (s : TickState β) (e : β) :
    (s.withBackend e).pipeline.monitor = s.pipeline.monitor := rfl

@[simp] theorem withBackend_self (s : TickState β) : s.withBackend s.pipeline.backend = s := rfl

/-- The tick with another goal monitor. -/
def withMonitor (s : TickState β) (m : GoalMonitor) : TickState β :=
  s.withPipeline { s.pipeline with monitor := m }

theorem SessionOk.congr {p p' : CommandPipeline β} {id : String} {session : Session}
    (h : SessionOk p id session) (hg : p'.groups = p.groups) (he : p'.endpoints = p.endpoints)
    (hm : p'.monitor.config = p.monitor.config) : SessionOk p' id session where
  key := h.key
  nonempty := h.nonempty
  endpoint := he ▸ h.endpoint
  group := hg ▸ h.group
  last := h.last
  goal := h.goal
  monitor := hm ▸ h.monitor

/-! ## Steps of the platform and of the monitor -/

/-- Only the platform has moved, and without a start or a stop. -/
def Moved (B : Platform β) (s s' : TickState β) : Prop :=
  ∃ e, Quiet B s.pipeline.backend e ∧ s' = s.withBackend e

theorem Moved.refl (s : TickState β) : Moved B s s := ⟨_, .refl _, rfl⟩

theorem Moved.trans {s s' s'' : TickState β} (h : Moved B s s') (h' : Moved B s' s'') :
    Moved B s s'' := by
  obtain ⟨e, he, rfl⟩ := h
  obtain ⟨e', he', rfl⟩ := h'
  exact ⟨e', he.trans he', rfl⟩

theorem Moved.call {s : TickState β} {e : β} (h : QuietCall B s.pipeline.backend e) :
    Moved B s (s.withBackend e) := ⟨e, h.quiet, rfl⟩

/-- Only the platform and, for a Move, the goal of `id` have changed. -/
def Watched (B : Platform β) (id : String) (session : Session) (s s' : TickState β) : Prop :=
  ∃ e m, Quiet B s.pipeline.backend e ∧ m.config = s.pipeline.monitor.config ∧
    (isServo session.kind = true → m = s.pipeline.monitor) ∧
    (∀ k, k ≠ id → m.goals[k]? = s.pipeline.monitor.goals[k]?) ∧
    s' = withMonitor (s.withBackend e) m

theorem Watched.refl (id : String) (session : Session) (s : TickState β) :
    Watched B id session s s := ⟨_, _, .refl _, rfl, fun _ => rfl, fun _ _ => rfl, rfl⟩

theorem Watched.trans {id : String} {session : Session} {s s' s'' : TickState β}
    (h : Watched B id session s s') (h' : Watched B id session s' s'') :
    Watched B id session s s'' := by
  obtain ⟨e, m, he, hc, hs, hk, rfl⟩ := h
  obtain ⟨e', m', he', hc', hs', hk', rfl⟩ := h'
  exact ⟨e', m', he.trans he', hc'.trans hc, fun h => (hs' h).trans (hs h),
    fun k hne => (hk' k hne).trans (hk k hne), rfl⟩

theorem Moved.watched {id : String} {session : Session} {s s' : TickState β} (h : Moved B s s') :
    Watched B id session s s' := by
  obtain ⟨e, he, rfl⟩ := h
  exact ⟨e, _, he, rfl, fun _ => rfl, fun _ _ => rfl, rfl⟩

theorem Watched.sessions {s s' : TickState β} {id : String} {session : Session}
    (h : Watched B id session s s') : s'.pipeline.sessions = s.pipeline.sessions := by
  obtain ⟨e, m, -, -, -, -, rfl⟩ := h
  rfl

theorem Moved.sessions {s s' : TickState β} (h : Moved B s s') :
    s'.pipeline.sessions = s.pipeline.sessions := by
  obtain ⟨e, -, rfl⟩ := h
  rfl

/-- The session of the turn, as the parts of the loop body find it. -/
structure Stored (s : TickState β) (id : String) (session : Session) : Prop where
  found : s.pipeline.sessions[id]? = some session
  ok : SessionOk s.pipeline id session

theorem Stored.watched {s s' : TickState β} {id : String} {session session' : Session}
    (h : Stored s id session) (hm : Watched B id session' s s') : Stored s' id session := by
  obtain ⟨e, m, -, hc, -, -, rfl⟩ := hm
  exact ⟨h.found, SessionOk.congr h.ok rfl rfl hc⟩

theorem Stored.moved {s s' : TickState β} {id : String} {session : Session}
    (h : Stored s id session) (hm : Moved B s s') : Stored s' id session :=
  h.watched (hm.watched : Watched B id session s s')

/-! ## Deadlines and holds -/

/-- The deadline of a session's commands (`:856`), when its endpoint is registered. -/
def deadlineOf (ctx : TickContext) (p : CommandPipeline β) (session : Session) :
    Option SteadyTime :=
  let until_ := min (ctx.feedback.receivedAt + p.config.feedbackMaxAge) ctx.cycleDeadline
  if isServo session.kind then
    (p.endpoints[session.endpointName]?).map fun policy =>
      min until_ (session.submittedAt + policy.servoLease)
  else some until_

theorem deadlineOf_isSome (ctx : TickContext) {p : CommandPipeline β} {id : String} {session : Session}
    (h : SessionOk p id session) : ∃ limit, deadlineOf ctx p session = some limit := by
  obtain ⟨policy, hp, -⟩ := h.endpoint
  unfold deadlineOf
  split
  · exact ⟨_, by rw [hp]; rfl⟩
  · exact ⟨_, rfl⟩

theorem wp_deadline {Q : SteadyTime → TickState β → Prop} {E : Exit → TickState β → Prop}
    {s : TickState β} {session : Session} {limit : SteadyTime}
    (h : deadlineOf ctx s.pipeline session = some limit) :
    Prog.wp (deadline ctx session) Q E s ↔ Q limit s := by
  unfold deadlineOf at h
  unfold deadline
  simp only [Prog.wp_bind, Prog.wp_get, Prog.wp_ite]
  split
  · rename_i hs
    rw [if_pos hs] at h
    obtain ⟨policy, hp, hl⟩ := Option.map_eq_some_iff.1 h
    simp only [wp_at? hp, Prog.wp_pure, hl]
  · rename_i hs
    rw [if_neg hs] at h
    simp only [Prog.wp_pure, Option.some.inj h]

/-- Issue the hold, if there is one. -/
def issueHold (s : TickState β) (session : Session) (limit : SteadyTime) :
    Option JointCommand → TickState β
  | none => s
  | some hold => s.issue session.sessionId limit hold

/-- Note the retry time of a failed servo endpoint, if there is one. -/
def noteRetry (s : TickState β) (endpoint : String) : Option SteadyTime → TickState β
  | none => s
  | some retry => s.withPipeline { s.pipeline with
      servoRetryAfter := s.pipeline.servoRetryAfter.insert endpoint retry }

theorem noteRetry_sessions (s : TickState β) (endpoint : String) (retry : Option SteadyTime) :
    (noteRetry s endpoint retry).pipeline.sessions = s.pipeline.sessions := by
  cases retry <;> rfl

/-- A hold the SDK gave, or its refusal, in some later state of the backend. -/
def HoldOf (B : Platform β) (lib : MathLib) (p : CommandPipeline β) (session : Session)
    (selected : JointFeedback) (hold : Option JointCommand) : Prop :=
  ∃ e, Calls B p.backend e ∧
    hold = (CommandPipeline.controlledStop B lib { p with backend := e } session selected).1

/-- A time read from the clock during the turn, before the backend was in state `e`. -/
def ReadBefore (B : Platform β) (ctx : TickContext) (e : β) (time : SteadyTime) : Prop :=
  ∃ e₀, Quiet B (B.steadyNow e₀).2 e ∧ time = ctx.now + ((B.steadyNow e₀).1 - ctx.enteredAt)

/-! ## Ends of a session -/

/-- The session is terminated with its permits kept, after the attempt at a hold. -/
inductive Stopped (B : Platform β) (lib : MathLib) (ctx : TickContext) (id : String)
    (session : Session) (selected : JointFeedback) (s : TickState β) : TickState β → Prop
  | mk (s₁ s₂ : TickState β) (hold : Option JointCommand) (limit : SteadyTime)
      (retry : Option SteadyTime) (status : MotionStatus) (hmoved : Moved B s s₁)
      (hselected : selectFeedback ctx.feedback session.jointNames = .ok selected)
      (hhold : HoldOf B lib s.pipeline session selected hold)
      (hlimit : deadlineOf ctx s.pipeline session = some limit)
      (hmoved' : Moved B (issueHold s₁ session limit hold) s₂)
      (hretry : ∀ time, retry = some time → isServo session.kind = true ∧
        ∃ read, ReadBefore B ctx s₂.pipeline.backend read ∧
          time = read + s.pipeline.config.servoRetryInterval) :
      Stopped B lib ctx id session selected s
        ((noteRetry s₂ session.endpointName retry).withPipeline
          ((noteRetry s₂ session.endpointName retry).pipeline.terminate B id .aborted status true))

/-- The two ways in which a turn ends its session without success. -/
inductive Ended (B : Platform β) (lib : MathLib) (ctx : TickContext) (id : String)
    (session : Session) (selected : JointFeedback) (s : TickState β) : TickState β → Prop
  /-- At a deadline or for bad feedback: the permits of the session go with it. -/
  | dropped (s₁ : TickState β) (status : MotionStatus) (hmoved : Moved B s s₁) :
      Ended B lib ctx id session selected s
        (s₁.withPipeline (s₁.pipeline.terminate B id .aborted status))
  /-- After a failure: a hold may have been issued, and the permits stay as they are. -/
  | stopped (s' : TickState β) (h : Stopped B lib ctx id session selected s s') :
      Ended B lib ctx id session selected s s'

theorem Stopped.moved {id : String} {session : Session} {selected : JointFeedback}
    {s s' t : TickState β} (h : Moved B s s') (h' : Stopped B lib ctx id session selected s' t) :
    Stopped B lib ctx id session selected s t := by
  obtain ⟨s₁, s₂, hold, limit, retry, status, hm, hsel, ⟨e', he', hh⟩, hl, hm', hr⟩ := h'
  obtain ⟨e, he, rfl⟩ := h
  exact ⟨s₁, s₂, hold, limit, retry, status, .trans ⟨e, he, rfl⟩ hm, hsel,
    ⟨e', he.calls.trans he', hh⟩, hl, hm', hr⟩

theorem Ended.moved {id : String} {session : Session} {selected : JointFeedback}
    {s s' t : TickState β} (h : Moved B s s') (h' : Ended B lib ctx id session selected s' t) :
    Ended B lib ctx id session selected s t := by
  cases h' with
  | dropped s₁ status hm => exact .dropped s₁ status (h.trans hm)
  | stopped t hs => exact .stopped t (hs.moved h)

section
variable {s : TickState β} {id : String} {session : Session} {selected : JointFeedback}

/-- `check_time`: the platform moves on, or the session is dropped at its deadline. -/
theorem wp_checkTime {Q : Unit → TickState β → Prop} {E : Exit → TickState β → Prop}
    (h : Stored s id session) (hgo : ∀ s', Moved B s s' → Q () s')
    (hend : ∀ s', Ended B lib ctx id session selected s s' → E .next s') :
    Prog.wp (checkTime B ctx id) Q E s := by
  obtain ⟨limit, hlimit⟩ := deadlineOf_isSome ctx h.ok
  unfold checkTime
  simp only [Prog.wp_bind, Prog.wp_get, h.found, wp_currentTime]
  have hmoved : Moved B s (s.withBackend (B.steadyNow s.pipeline.backend).2) :=
    .call (.steadyNow _)
  have hlimit' : deadlineOf ctx (s.withBackend (B.steadyNow s.pipeline.backend).2).pipeline
      session = some limit := hlimit
  rw [wp_deadline hlimit']
  simp only [Prog.wp_ite, Prog.wp_bind, wp_terminate, Prog.wp_throw, Prog.wp_pure]
  split
  · exact hend _ (.dropped _ _ hmoved)
  · exact hgo _ hmoved

theorem controlledStop_quiet (B : Platform β) (lib : MathLib) (p : CommandPipeline β) (session : Session)
    (selected : JointFeedback) :
    Quiet B p.backend (p.controlledStop B lib session selected).2 := by
  unfold CommandPipeline.controlledStop
  split
  · exact .refl _
  · simp only
    split_ifs
    · exact (QuietCall.resetFinalJointTarget _ _ _).quiet
    · exact (QuietCall.resetFinalJointTarget _ _ _).quiet.trans
        (QuietCall.updateFinalJointTarget _ _ _ _).quiet

/-- The hold of a controlled stop: only the platform has moved, and the hold is issued. -/
theorem stopSession_spec {E : Exit → TickState β → Prop} (h : Stored s id session) :
    Prog.wp (stopSession B lib ctx session selected)
      (fun _ s' => ∃ s₁ hold limit, Moved B s s₁ ∧ HoldOf B lib s.pipeline session selected hold ∧
        deadlineOf ctx s.pipeline session = some limit ∧ s' = issueHold s₁ session limit hold)
      E s := by
  obtain ⟨limit, hlimit⟩ := deadlineOf_isSome ctx h.ok
  have hquiet := controlledStop_quiet B lib s.pipeline session selected
  have hhold : HoldOf B lib s.pipeline session selected
      (s.pipeline.controlledStop B lib session selected).1 := ⟨s.pipeline.backend, .refl _, rfl⟩
  unfold stopSession
  simp only [Prog.wp_bind, Prog.wp_modifyGet]
  rcases hstop : (s.pipeline.controlledStop B lib session selected).1 with _ | hold
  · exact ⟨_, none, limit, ⟨_, hquiet, rfl⟩, hstop ▸ hhold, hlimit, rfl⟩
  · simp only [appendCommand, Prog.wp_bind, Prog.wp_modify]
    have hlimit' : deadlineOf ctx (s.withBackend (s.pipeline.controlledStop B lib session
        selected).2).pipeline session = some limit := hlimit
    rw [wp_deadline hlimit']
    exact ⟨_, some hold, limit, ⟨_, hquiet, rfl⟩, hstop ▸ hhold, hlimit, rfl⟩

theorem issueHold_sessions (s : TickState β) (session : Session) (limit : SteadyTime)
    (hold : Option JointCommand) :
    (issueHold s session limit hold).pipeline.sessions = s.pipeline.sessions := by
  cases hold <;> rfl

theorem issueHold_config (s : TickState β) (session : Session) (limit : SteadyTime)
    (hold : Option JointCommand) :
    (issueHold s session limit hold).pipeline.config = s.pipeline.config := by
  cases hold <;> rfl

/-- A failure ends the session: a hold if the SDK gives one, and a retry time for a servo. -/
theorem wp_stopAndFail {α : Type} {Q : α → TickState β → Prop} {E : Exit → TickState β → Prop}
    (h : Stored s id session)
    (hselected : selectFeedback ctx.feedback session.jointNames = .ok selected)
    {status : MotionStatus}
    (hend : ∀ s', Ended B lib ctx id session selected s s' → E .next s') :
    Prog.wp (stopAndFail B lib ctx id session selected status) Q E s := by
  unfold stopAndFail
  refine (stopSession_spec h).bind ?_
  rintro _ _ ⟨s₁, hold, limit, hm, hh, hl, rfl⟩
  have hfound : (issueHold s₁ session limit hold).pipeline.sessions[id]? = some session := by
    rw [issueHold_sessions]; exact (h.moved hm).found
  simp only [failBackend, Prog.wp_bind, Prog.wp_get, wp_at? hfound]
  rw [Prog.wp_ite]
  split
  · rename_i hs
    simp only [Prog.wp_bind, wp_currentTime, Prog.wp_modify, wp_terminate, Prog.wp_throw]
    refine hend _ (.stopped _
      (.mk s₁ _ hold limit (some _) status hm hselected hh hl (.call (.steadyNow _)) ?_))
    rintro _ ⟨rfl⟩
    refine ⟨hs, _, ⟨_, .refl _, rfl⟩, ?_⟩
    obtain ⟨e, -, rfl⟩ := hm
    simp [issueHold_config, TickState.withBackend, TickState.withPipeline]
  · simp only [wp_terminate, Prog.wp_throw]
    exact hend _ (.stopped _ (.mk s₁ _ hold limit none status hm hselected hh hl (.refl _) (by simp)))

theorem wp_stopAndTerminate {α : Type} {Q : α → TickState β → Prop}
    {E : Exit → TickState β → Prop} (h : Stored s id session)
    (hselected : selectFeedback ctx.feedback session.jointNames = .ok selected)
    {status : MotionStatus}
    (hend : ∀ s', Stopped B lib ctx id session selected s s' → E .next s') :
    Prog.wp (stopAndTerminate B lib ctx id session selected status) Q E s := by
  unfold stopAndTerminate
  refine (stopSession_spec h).bind ?_
  rintro _ _ ⟨s₁, hold, limit, hm, hh, hl, rfl⟩
  simp only [Prog.wp_bind, wp_terminate, Prog.wp_throw]
  exact hend _ (.mk s₁ _ hold limit none status hm hselected hh hl (.refl _) (by simp))

end

end Tick

end HumanoidMotion
