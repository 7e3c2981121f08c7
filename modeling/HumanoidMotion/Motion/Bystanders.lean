import HumanoidMotion.Motion.Holds
import HumanoidMotion.Motion.Lane
/-
# What a turn leaves of the other lanes

The turn of one session changes nothing of a lane with another id and another
endpoint: no session, goal, retry time, command or event of it
(`Turn.sameView`). On a platform that keeps sessions and groups apart it does
not change what that lane can learn from the SDK either (`turn_view`).

* `Separate` — a platform whose answers to a session depend on the calls made for
  that session and its group only.
* `ClockStands` — no call moves the clock.
-/

namespace HumanoidMotion

open Tick

variable {β : Type} {B : Platform β} {lib : MathLib} {ctx : TickContext} {L : Lane}

namespace Lane

theorem SameView.refl (s : TickState β) : L.SameView s s :=
  ⟨rfl, rfl, rfl, rfl, ⟨rfl, rfl, rfl, rfl⟩, rfl, rfl, rfl⟩

theorem SameView.symm {s s' : TickState β} (h : L.SameView s s') : L.SameView s' s where
  session := h.session.symm
  goal := h.goal.symm
  monitorConfig := h.monitorConfig.symm
  retry := h.retry.symm
  fixed := ⟨h.fixed.groups.symm, h.fixed.endpoints.symm, h.fixed.config.symm, h.fixed.period.symm⟩
  commands := h.commands.symm
  events := h.events.symm
  pending := h.pending.symm

theorem SameView.trans {s s' s'' : TickState β} (h : L.SameView s s') (h' : L.SameView s' s'') :
    L.SameView s s'' where
  session := h'.session.trans h.session
  goal := h'.goal.trans h.goal
  monitorConfig := h'.monitorConfig.trans h.monitorConfig
  retry := h'.retry.trans h.retry
  fixed := h.fixed.trans h'.fixed
  commands := h'.commands.trans h.commands
  events := h'.events.trans h.events
  pending := h'.pending.trans h.pending

end Lane

namespace Tick

variable {s s' : TickState β} {id : String} {session : Session} {selected : JointFeedback}

/-! ## Steps of another session -/

theorem Watched.sameView (h : Watched B id session s s') (hid : L.id ≠ id) : L.SameView s s' := by
  obtain ⟨e, m, -, hc, -, hgoals, rfl⟩ := h
  exact ⟨rfl, hgoals L.id hid, hc, rfl, ⟨rfl, rfl, rfl, rfl⟩, rfl, rfl, rfl⟩

theorem Moved.sameView (h : Moved B s s') : L.SameView s s' := by
  obtain ⟨e, -, rfl⟩ := h
  exact ⟨rfl, rfl, rfl, rfl, ⟨rfl, rfl, rfl, rfl⟩, rfl, rfl, rfl⟩

theorem terminate_sameView (s : TickState β) (hid : L.id ≠ id) (state : SessionState)
    (status : MotionStatus) (preserve : Bool) :
    L.SameView s (s.withPipeline (s.pipeline.terminate B id state status preserve)) where
  session := by simp [TickState.withPipeline, hid]
  goal := by simp [TickState.withPipeline, CommandPipeline.terminate_goals, hid]
  monitorConfig := by simp [TickState.withPipeline]
  retry := congrArg (·[L.endpoint]?) (CommandPipeline.terminate_frame s.pipeline id state status
    preserve (fun q => q.servoRetryAfter) (fun _ => rfl) fun _ _ => rfl)
  fixed := terminate_fixed _ _ _ _ _
  commands := rfl
  events := rfl
  pending := by
    simp only [TickState.withPipeline, CommandPipeline.terminate_pending, eventsOf]
    split
    · simp [Ne.symm hid]
    · simp

theorem issue_sameView (s : TickState β) (hid : L.id ≠ id) (limit : SteadyTime)
    (command : JointCommand) : L.SameView s (s.issue id limit command) where
  session := rfl
  goal := rfl
  monitorConfig := rfl
  retry := rfl
  fixed := ⟨rfl, rfl, rfl, rfl⟩
  commands := by simp [TickState.issue, commandsOf, Ne.symm hid]
  events := rfl
  pending := rfl

theorem pushEvent_sameView (s : TickState β) (hid : L.id ≠ id) (message : String) :
    L.SameView s (s.pushEvent id message) where
  session := rfl
  goal := rfl
  monitorConfig := rfl
  retry := rfl
  fixed := ⟨rfl, rfl, rfl, rfl⟩
  commands := rfl
  events := by simp [TickState.pushEvent, eventsOf, Ne.symm hid]
  pending := rfl

/-- Another session is stored, and the retry time of its endpoint is set or dropped. -/
theorem stored_sameView (s : TickState β) (hid : L.id ≠ id) (session : Session)
    (active : StringSet) (sources : StringMap String) :
    L.SameView s (s.withPipeline { s.pipeline with
      sessions := s.pipeline.sessions.insert id session
      activeBackendSessions := active
      lastSourceByGroup := sources }) where
  session := by
    simp [TickState.withPipeline, Std.TreeMap.getElem?_insert, Ne.symm hid]
  goal := rfl
  monitorConfig := rfl
  retry := rfl
  fixed := ⟨rfl, rfl, rfl, rfl⟩
  commands := rfl
  events := rfl
  pending := rfl

theorem retry_sameView (s : TickState β) {retries : StringMap SteadyTime}
    (h : retries[L.endpoint]? = s.pipeline.servoRetryAfter[L.endpoint]?) :
    L.SameView s (s.withPipeline { s.pipeline with servoRetryAfter := retries }) :=
  ⟨rfl, rfl, rfl, h, ⟨rfl, rfl, rfl, rfl⟩, rfl, rfl, rfl⟩

/-! ## The turn of another session -/

section
variable (hid : L.id ≠ id) (hkey : session.sessionId = id) (hendpoint : session.endpointName ≠ L.endpoint)
include hid hkey hendpoint

theorem Stopped.sameView (h : Stopped B lib ctx id session selected s s') : L.SameView s s' := by
  obtain ⟨s₁, s₂, hold, limit, retry, status, hm, -, -, -, hm', -⟩ := h
  have hissue : L.SameView s₁ (issueHold s₁ session limit hold) := by
    cases hold with
    | none => exact .refl _
    | some hold => exact issue_sameView s₁ (hkey ▸ hid) limit hold
  have hnote : L.SameView s₂ (noteRetry s₂ session.endpointName retry) := by
    cases retry with
    | none => exact .refl _
    | some retry =>
      exact retry_sameView s₂ (by simp [Std.TreeMap.getElem?_insert, hendpoint])
  exact (((hm.sameView.trans hissue).trans hm'.sameView).trans hnote).trans
    (terminate_sameView _ hid _ _ _)

theorem Ended.sameView (h : Ended B lib ctx id session selected s s') : L.SameView s s' := by
  cases h with
  | dropped s₁ status hm => exact hm.sameView.trans (terminate_sameView _ hid _ _ _)
  | stopped s' hs => exact hs.sameView hid hkey hendpoint

omit hkey hendpoint in
theorem markStarted_sameView (s : TickState β) (started : Session) :
    L.SameView s (markStarted s id started) :=
  (stored_sameView s hid started _ _).trans (pushEvent_sameView _ hid _)

omit hkey hendpoint in
theorem Running.sameView {session' : Session} {group : JointGroupModel}
    (h : Running B ctx id session group selected s session' s') : L.SameView s s' := by
  cases h with
  | kept => exact .refl _
  | launched s₁ s' _ _ _ hmoved hgoal =>
    have hanswer : L.SameView s (s.withBackend (startAnswer B s id session selected).2) :=
      ⟨rfl, rfl, rfl, rfl, ⟨rfl, rfl, rfl, rfl⟩, rfl, rfl, rfl⟩
    exact ((hanswer.trans hmoved.sameView).trans (markStarted_sameView hid s₁ _)).trans
      (hgoal.sameView hid)

variable (lib) in
/-- The command is issued and recorded; taken back, it leaves nothing of it to the lane. -/
theorem emitted_sameView {group : JointGroupModel} (s : TickState β) (limit : SteadyTime)
    (command : JointCommand) : L.SameView s (emitted lib s id session group limit command) ∧
      L.SameView s (emitted lib s id session group limit command).popCommand := by
  have hissue : L.SameView s (s.issue session.sessionId limit command) :=
    issue_sameView s (hkey ▸ hid) limit command
  set issued := s.issue session.sessionId limit command with hissued
  set updated := updatedSession lib session group command with hupdated
  have hrecord : L.SameView issued (recordFinal issued id updated) :=
    (stored_sameView issued hid updated issued.pipeline.activeBackendSessions
      issued.pipeline.lastSourceByGroup).trans
      (retry_sameView _ (by simp [TickState.withPipeline, Std.TreeMap.getElem?_erase, updatedSession,
        hupdated, hendpoint]))
  have hboth : ∀ message, L.SameView s (recordFinal issued id updated) ∧
      L.SameView s ((recordFinal issued id updated).pushEvent id message) := fun message =>
    ⟨hissue.trans hrecord, (hissue.trans hrecord).trans (pushEvent_sameView _ hid message)⟩
  have hpop : ∀ t : TickState β, t.commands = issued.commands → L.SameView s t →
      L.SameView s t.popCommand := by
    intro t ht h
    refine ⟨h.session, h.goal, h.monitorConfig, h.retry, h.fixed, ?_, h.events, h.pending⟩
    simp [TickState.popCommand, ht, hissued, TickState.issue]
  unfold emitted
  simp only
  split
  · exact ⟨(hboth _).2, hpop _ rfl (hboth _).2⟩
  · exact ⟨(hboth "").1, hpop _ rfl (hboth "").1⟩

theorem Concluded.sameView {s₀ : TickState β} (hs : L.SameView s₀ s)
    (hpop : L.SameView s₀ s.popCommand) (h : Concluded B lib ctx id session selected s s') :
    L.SameView s₀ s' := by
  cases h with
  | goesOn s' hw => exact hs.trans (hw.sameView hid)
  | failed s₁ s' hw _ hstop =>
    exact (hpop.trans (hw.pop.sameView hid)).trans (hstop.sameView hid hkey hendpoint)
  | succeeded s₁ hw _ => exact (hs.trans (hw.sameView hid)).trans (terminate_sameView _ hid _ _ _)

end

theorem Running.client {session' : Session} {group : JointGroupModel}
    (h : Running B ctx id session group selected s session' s') :
    session'.sessionId = session.sessionId ∧ session'.endpointName = session.endpointName := by
  cases h <;> exact ⟨rfl, rfl⟩

/-- The turn of a session leaves every lane with another id and another endpoint as it is. -/
theorem Turn.sameView (ht : Turn B lib ctx id s s') (hid : L.id ≠ id)
    (hendpoint : ∀ session, s.pipeline.sessions[id]? = some session →
      session.endpointName ≠ L.endpoint) : L.SameView s s' := by
  cases ht with
  | missing => exact .refl _
  | waits _ s' _ _ _ hmoved => exact hmoved.sameView
  | refused session _ s' h hended => exact hended.sameView hid h.ok.key (hendpoint _ h.found)
  | startEnds session _ selected s₁ s' h hmoved _ _ _ hended =>
    have hanswer : L.SameView s₁ (s₁.withBackend (startAnswer B s₁ id session selected).2) :=
      ⟨rfl, rfl, rfl, rfl, ⟨rfl, rfl, rfl, rfl⟩, rfl, rfl, rfl⟩
    exact (hmoved.sameView.trans hanswer).trans (hended.sameView hid h.ok.key (hendpoint _ h.found))
  | runEnds session session' _ _ s₁ s₂ s' h hmoved _ hrun hended =>
    obtain ⟨hkey, hname⟩ := hrun.client
    exact (hmoved.sameView.trans (hrun.sameView hid)).trans
      (hended.sameView hid (hkey.trans h.ok.key) (hname ▸ hendpoint _ h.found))
  | emits session session' _ _ s₁ s₂ s₃ s' _ _ h hmoved _ hrun hmoved' _ _ hconcluded =>
    obtain ⟨hkey, hname⟩ := hrun.client
    have hname' : session'.endpointName ≠ L.endpoint := hname ▸ hendpoint _ h.found
    have hbefore : L.SameView s s₃ := (hmoved.sameView.trans (hrun.sameView hid)).trans hmoved'.sameView
    obtain ⟨hissued, hpopped⟩ := emitted_sameView lib hid (hkey.trans h.ok.key) hname' s₃ _ _
    refine Concluded.sameView hid ?_ ?_ (hbefore.trans hissued) (hbefore.trans hpopped) hconcluded
    · exact hkey.trans h.ok.key
    · exact hname'

end Tick

/-! ## Platforms that keep sessions and groups apart -/

section
variable {ν : Type} (B)

/-- A call that does not touch what `view` shows. -/
def Unseen {α : Type} (view : β → ν) (f : β → α × β) : Prop := ∀ e, view (f e).2 = view e

/-- The answers to the calls for session `id` of `group` depend on `view` only, and no call for
another session of another group changes it. -/
structure Separate (id group : String) (view : β → ν) : Prop where
  own : ∀ {α : Type} {f : β → α × β}, CallFor B id group α f →
    InStep (fun e e' => view e' = view e) f
  others : ∀ {k g : String} {α : Type} {f : β → α × β}, k ≠ id → g ≠ group → CallFor B k g α f →
    Unseen view f
  steadyNow : Unseen view B.steadyNow

/-- The clock stands still from `e` on: no call moves it. -/
def ClockStands (e : β) : Prop :=
  ∀ e', Calls B e e' → (B.steadyNow e').1 = (B.steadyNow e).1

variable {B} {id group : String} {view : β → ν}

/-- Two backends that came from `e₀` and show the lane the same. -/
def Shows (B : Platform β) (view : β → ν) (e₀ : β) (e e' : β) : Prop :=
  Calls B e₀ e ∧ Calls B e₀ e' ∧ view e' = view e

theorem CallFor.calls {α : Type} {f : β → α × β} (h : CallFor B id group α f) (e : β) :
    Calls B e (f e).2 := by
  cases h with
  | startSession => exact (AnyCall.startSession ..).calls
  | tickSession => exact (QuietCall.tickSession ..).quiet.calls
  | stopSession => exact (AnyCall.stopSession ..).calls
  | reset => exact (QuietCall.resetFinalJointTarget ..).quiet.calls
  | rebase => exact (QuietCall.rebaseFinalJointTarget ..).quiet.calls
  | update => exact (QuietCall.updateFinalJointTarget ..).quiet.calls
  | kinematics => exact (QuietCall.forwardKinematics ..).quiet.calls

/-- Calls that the view answers alike, while the clock stands. -/
theorem paired_of_shows (hown : ∀ {α : Type} {f : β → α × β}, CallFor B id group α f →
      InStep (fun e e' => view e' = view e) f)
    (hread : Unseen view B.steadyNow) {e₀ : β} (hclock : ClockStands B e₀) :
    Paired B id group (Shows B view e₀) where
  own hcall e e' he := by
    obtain ⟨hanswer, hview⟩ := hown hcall e e' he.2.2
    exact ⟨hanswer, he.1.trans (hcall.calls e), he.2.1.trans (hcall.calls e'), hview⟩
  steadyNow e e' he := by
    have hcalls : ∀ e, Calls B e₀ e → Calls B e₀ (B.steadyNow e).2 := fun e he =>
      he.trans (QuietCall.steadyNow e).quiet.calls
    exact ⟨(hclock e' he.2.1).trans (hclock e he.1).symm, hcalls e he.1, hcalls e' he.2.1,
      by rw [hread, hread, he.2.2]⟩

/-- Calls that leave the view: one run, set beside itself. -/
theorem paired_diagonal (hothers : ∀ {α : Type} {f : β → α × β}, CallFor B id group α f →
      Unseen view f) (hread : Unseen view B.steadyNow) (v : ν) :
    Paired B id group fun e e' => e' = e ∧ view e = v where
  own hcall e e' he := by
    obtain ⟨rfl, hv⟩ := he
    exact ⟨rfl, rfl, (hothers hcall e').trans hv⟩
  steadyNow e e' he := by
    obtain ⟨rfl, hv⟩ := he
    exact ⟨rfl, rfl, (hread e').trans hv⟩

/-! ## Sessions that share a group -/

/-- What the platform shows of each of the sessions `D`. -/
def shownOf (D : Session → Prop) (view : String → β → ν) (e : β) : { driver // D driver } → ν :=
  fun driver => view driver.1.sessionId e

/-- A call is for the group, or for the session alone. -/
theorem CallFor.shared {α : Type} {f : β → α × β} (h : CallFor B id group α f) (k : String) :
    CallFor B k group α f ∨ ∀ other, CallFor B id other α f := by
  cases h with
  | startSession request feedback period => exact .inr fun _ => .startSession request feedback period
  | tickSession target period => exact .inr fun _ => .tickSession target period
  | stopSession => exact .inr fun _ => .stopSession
  | reset feedback => exact .inl (.reset feedback)
  | rebase state => exact .inl (.rebase state)
  | update candidate period => exact .inl (.update candidate period)
  | kinematics request h => exact .inl (.kinematics request h)

section
variable {D : Session → Prop} {view : String → β → ν}
  (hsep : ∀ driver, D driver → Separate B driver.sessionId group (view driver.sessionId))
include hsep

theorem shownOf_steadyNow : Unseen (shownOf D view) B.steadyNow :=
  fun e => funext fun driver => (hsep driver.1 driver.2).steadyNow e

/-- A call for one of the sessions, as all of them see it. -/
theorem shownOf_own {driver : Session} (hdriver : D driver) {α : Type} {f : β → α × β}
    (hcall : CallFor B driver.sessionId group α f) :
    InStep (fun e e' => shownOf D view e' = shownOf D view e) f := by
  intro e e' he
  have hview : ∀ other, D other → view other.sessionId e' = view other.sessionId e :=
    fun other hother => congrFun he ⟨other, hother⟩
  refine ⟨((hsep driver hdriver).own hcall e e' (hview driver hdriver)).1, funext ?_⟩
  rintro ⟨other, hother⟩
  have hs := hsep other hother
  change view other.sessionId (f e').2 = view other.sessionId (f e).2
  by_cases hid : driver.sessionId = other.sessionId
  · exact (hs.own (hid ▸ hcall) e e' (hview other hother)).2
  · rcases hcall.shared other.sessionId with hgroup | halone
    · exact (hs.own hgroup e e' (hview other hother)).2
    · -- a call for the one session, which another does not see
      obtain ⟨foreign, hforeign⟩ := exists_ne group
      rw [hs.others hid hforeign (halone foreign), hs.others hid hforeign (halone foreign)]
      exact hview other hother

/-- A call for a session of another group, as none of them sees it. -/
theorem shownOf_others {k g : String} (hk : ∀ driver, D driver → k ≠ driver.sessionId)
    (hg : g ≠ group) {α : Type} {f : β → α × β} (hcall : CallFor B k g α f) :
    Unseen (shownOf D view) f :=
  fun e => funext fun driver => (hsep driver.1 driver.2).others (hk driver.1 driver.2) hg hcall e

end

end

end HumanoidMotion
