import HumanoidMotion.Pose.PoseRuntime
/-
# A pause against earlier resumes

A pause sets the cancellation event, and the event stays set as long as the pose
is on its worker; so the automatic resume of that pose is not decided on any
more. A resume that has been decided on is beyond its reach.

* `ResumeUnderWay` — a resume has been decided on and the receiver has not handled it.
* `Paused` — no resume of a request before the pause can come any more.
* `step_paused` — every step keeps it, whichever party takes it.
* `pause_dominates` — a pause with no resume under way dominates the earlier requests.
* `resume_outlives_refused_pause`, `automatic_resume_overtakes_pause` — one with a
  resume under way does not.
-/

namespace HumanoidMotion

open PoseRuntime

variable {config : PoseConfig} {s s' : PoseRuntime} {n : Nat}

abbrev PoseStage := Machine.Stage PoseRuntime PoseStep (List PoseEvent)

/-- A valid pause request is handled. -/
def PausedBy (config : PoseConfig) (g : PoseStage) (request : PoseRequest) : Prop :=
  ∃ message headset clock, g.input = .request message headset clock ∧
    g.before.validRequest config message headset clock = some request ∧ request.action = .pause

/-- The receiver handles a call that enables. -/
def Enabling (g : PoseStage) (call : ServiceCall) : Prop :=
  ∃ index answer, g.input = .serve index answer ∧ g.before.pending[index]? = some call ∧
    call.service = .setEnabled true

/-- No pause is followed by an enabling call of an earlier request. -/
def PauseDominates (config : PoseConfig) (s : PoseRuntime) (steps : List PoseStep) : Prop :=
  ∀ (k j : Nat) (g g' : PoseStage) (request : PoseRequest) (call : ServiceCall),
    ((runtimeMachine config).trace s steps)[k]? = some g → PausedBy config g request → k < j →
    ((runtimeMachine config).trace s steps)[j]? = some g' → Enabling g' call →
    g.before.received ≤ call.origin

/-- A resume has been decided on, and the receiver has not handled it. -/
def ResumeUnderWay (s : PoseRuntime) : Prop :=
  (∃ call ∈ s.pending, call.service = .setEnabled true) ∨
  (∃ job, s.controlFuture = some job ∧ job.action = .resume ∧ job.stage = .starting) ∨
  ∃ job outcome, s.future = some job ∧ job.stage = .resuming outcome .starting

/-- No resume of a request before the `n`th can come any more. -/
structure Paused (n : Nat) (s : PoseRuntime) : Prop where
  received : n ≤ s.received
  pending : ∀ call ∈ s.pending, call.service = .setEnabled true → n ≤ call.origin
  control : ∀ job, s.controlFuture = some job → job.action = .resume → job.stage = .starting →
    n ≤ job.origin
  pose : ∀ job, s.future = some job → n ≤ job.origin ∨
    (s.cancelMotion = true ∧ ∀ outcome, job.stage ≠ .resuming outcome .starting)

/-! ## The workers -/

/-- A step of a call sends the call at most, and only from its start. -/
theorem callStep_sends (s : PoseRuntime) (service : ReceiverService) (origin : Nat)
    (input : WorkerInput) (call : CallAt) :
    (s.callStep service origin input call).1 ≠ .starting ∧
    ((s.callStep service origin input call).2 = s ∨ (call = .starting ∧
      (s.callStep service origin input call).2 =
        { s with calls := s.calls + 1, pending := s.pending ++ [⟨s.calls, service, origin⟩] })) := by
  cases call with
  | starting =>
    simp only [callStep]
    split
    · exact ⟨by simp, .inl rfl⟩
    · exact ⟨by simp, .inr ⟨trivial, rfl⟩⟩
  | waiting number =>
    simp only [callStep]
    split
    · exact ⟨by simp, .inl rfl⟩
    · split
      · exact ⟨by simp, .inl rfl⟩
      · exact ⟨by simp, .inl rfl⟩
      · split <;> exact ⟨by simp, .inl rfl⟩
  | ended result => exact ⟨by simp [callStep], .inl rfl⟩

/-- A call keeps what a pause has reached, unless it is a resume of before that starts now. -/
theorem callStep_paused (h : Paused n s) (service : ReceiverService) (origin : Nat)
    (input : WorkerInput) (call : CallAt)
    (hstart : service = .setEnabled true → call = .starting → n ≤ origin) :
    Paused n (s.callStep service origin input call).2 := by
  rcases (callStep_sends s service origin input call).2 with heq | ⟨hstarting, heq⟩
  · rw [heq]
    exact h
  · rw [heq]
    refine ⟨h.received, fun sent hsent henables => ?_, h.control, h.pose⟩
    rcases List.mem_append.1 hsent with hold | hnew
    · exact h.pending sent hold henables
    · rw [List.mem_singleton.1 hnew] at henables ⊢
      exact hstart henables hstarting

theorem callStep_frame (s : PoseRuntime) (service : ReceiverService) (origin : Nat)
    (input : WorkerInput) (call : CallAt) :
    (s.callStep service origin input call).2.cancelMotion = s.cancelMotion ∧
    (s.callStep service origin input call).2.future = s.future ∧
    (s.callStep service origin input call).2.controlFuture = s.controlFuture := by
  rcases (callStep_sends s service origin input call).2 with heq | ⟨-, heq⟩
  · rw [heq]
    exact ⟨rfl, rfl, rfl⟩
  · rw [heq]
    exact ⟨rfl, rfl, rfl⟩

theorem CallAt.next_eq (call : CallAt) (ok : PoseAt) (failed : PoseError → PoseAt)
    (going : CallAt → PoseAt) :
    call.next ok failed going = ok ∨ (∃ error, call.next ok failed going = failed error) ∨
      call.next ok failed going = going call := by
  cases call with
  | starting => exact .inr (.inr rfl)
  | waiting number => exact .inr (.inr rfl)
  | ended result =>
    cases result with
    | ok message => exact .inl rfl
    | error error => exact .inr (.inl ⟨error, rfl⟩)

theorem PoseAt.leave_ne (acquired : Bool) (outcome outcome' : Except PoseError (List PoseOutput)) :
    PoseAt.leave acquired outcome ≠ .resuming outcome' .starting := by
  cases acquired <;> simp [PoseAt.leave]

/-- A step of a pose decides on its resume only where the event is not set. -/
theorem PoseJob.step_decides (job : PoseJob) (s : PoseRuntime) (input : WorkerInput)
    {outcome : Except PoseError (List PoseOutput)}
    (h : (job.step config s input).1 = .resuming outcome .starting) : s.cancelMotion = false := by
  unfold PoseJob.step at h
  split at h
  · split at h
    · cases h
    · split at h <;> cases h
  · rcases CallAt.next_eq (s.callStep (ControlAction.service .acquire) job.origin input _).1
      .leasing (fun error => .done (.error error)) .acquiring with heq | ⟨error, heq⟩ | heq <;>
      cases heq.symm.trans h
  · cases h
  · split at h
    · exact absurd h (PoseAt.leave_ne _ _ _)
    · cases h
  · split at h
    · cases h
    · exact absurd h (PoseAt.leave_ne _ _ _)
    · exact absurd h (PoseAt.leave_ne _ _ _)
  · rename_i given call _
    rcases CallAt.next_eq (s.callStep (ControlAction.service .release) job.origin input call).1
      (.deciding given) _ (.releasing given) with heq | ⟨error, heq⟩ | heq <;>
      cases heq.symm.trans h
  · split at h
    · rename_i hdecide
      simp only [Bool.and_eq_true, Bool.not_eq_true'] at hdecide
      exact hdecide.2
    · cases h
  · rename_i given call _
    have hsent := (callStep_sends s (ControlAction.service .resume) job.origin input call).1
    rcases CallAt.next_eq (s.callStep (ControlAction.service .resume) job.origin input call).1
      (.done given) (fun error => .done (.error error)) (.resuming given) with heq | ⟨error, heq⟩ | heq
    · cases heq.symm.trans h
    · cases heq.symm.trans h
    · exact absurd (PoseAt.resuming.inj (heq.symm.trans h)).2 hsent
  · cases h

variable (config) in
/-- What a step of a pose leaves of the rest. -/
theorem PoseJob.step_paused (h : Paused n s) {job : PoseJob} (hjob : s.future = some job)
    (input : WorkerInput) :
    Paused n (job.step config s input).2 ∧
      (job.step config s input).2.cancelMotion = s.cancelMotion := by
  have hother {action : ControlAction} (haction : action ≠ .resume) (call : CallAt) :
      Paused n (s.callStep action.service job.origin input call).2 ∧
        (s.callStep action.service job.origin input call).2.cancelMotion = s.cancelMotion := by
    refine ⟨callStep_paused h _ _ _ _ fun hservice => ?_, (callStep_frame _ _ _ _ _).1⟩
    cases action <;> simp_all [ControlAction.service]
  unfold PoseJob.step
  split
  · exact ⟨h, rfl⟩
  · exact hother (by decide) _
  · exact ⟨h, rfl⟩
  · exact ⟨h, rfl⟩
  · exact ⟨h, rfl⟩
  · exact hother (by decide) _
  · exact ⟨h, rfl⟩
  · rename_i outcome call hstage
    refine ⟨callStep_paused h _ _ _ _ fun _ hstarting => ?_, (callStep_frame _ _ _ _ _).1⟩
    rcases h.pose job hjob with hlate | ⟨-, hnot⟩
    · exact hlate
    · exact absurd (hstarting ▸ hstage) (hnot outcome)
  · exact ⟨h, rfl⟩

theorem poseStep_paused (h : Paused n s) (input : WorkerInput) : Paused n (s.poseStep config input) := by
  unfold poseStep
  split
  · exact h
  · rename_i job hjob
    obtain ⟨hrest, hcancel⟩ := PoseJob.step_paused config h hjob input
    refine ⟨hrest.received, hrest.pending, hrest.control, fun job' hjob' => ?_⟩
    obtain rfl := Option.some.inj hjob'
    rcases h.pose job hjob with hlate | ⟨hset, -⟩
    · exact .inl hlate
    · refine .inr ⟨hcancel.trans hset, fun outcome hdecided => ?_⟩
      rw [PoseJob.step_decides job s input hdecided] at hset
      cases hset

theorem controlStep_paused (h : Paused n s) (input : WorkerInput) : Paused n (s.controlStep input) := by
  unfold PoseRuntime.controlStep
  split
  · exact h
  · rename_i job hjob
    have hrest := callStep_paused h job.action.service job.origin input job.stage fun hservice hstarting =>
      h.control job hjob (by cases haction : job.action <;> simp_all [ControlAction.service]) hstarting
    refine ⟨hrest.received, hrest.pending, fun job' hjob' _ hstarting => ?_, hrest.pose⟩
    obtain rfl := Option.some.inj hjob'
    exact absurd hstarting (callStep_sends s _ _ _ _).1

/-! ## The callbacks -/

/-- What a callback other than a request does to the jobs: they stay or are cleared, and the event
is set or stays. -/
theorem Paused.cleared (h : Paused n s) (hreceived : s'.received = s.received)
    (hpending : s'.pending = s.pending)
    (hcontrol : s'.controlFuture = s.controlFuture ∨ s'.controlFuture = none)
    (hpose : s'.future = s.future ∨ s'.future = none)
    (hcancel : s'.cancelMotion = s.cancelMotion ∨ s'.cancelMotion = true) : Paused n s' where
  received := hreceived ▸ h.received
  pending := hpending ▸ h.pending
  control job hjob := by
    rcases hcontrol with heq | heq
    · exact h.control job (heq ▸ hjob)
    · rw [heq] at hjob
      cases hjob
  pose job hjob := by
    rcases hpose with heq | heq
    · refine (h.pose job (heq ▸ hjob)).imp id fun hset => ⟨?_, hset.2⟩
      rcases hcancel with heq | heq
      · exact heq.trans hset.1
      · exact heq
    · rw [heq] at hjob
      cases hjob

theorem tick_paused (h : Paused n s) (monotonic : Rat) : Paused n (s.tick config monotonic).2 := by
  have hcontrol : Paused n s.reportControl.2 := by
    unfold reportControl
    split
    · exact h.cleared rfl rfl (.inr rfl) (.inl rfl) (.inl rfl)
    · exact h.cleared rfl rfl (.inr rfl) (.inl rfl) (.inl rfl)
    · exact h
  change Paused n (s.reportControl.2.reportPose config monotonic).2
  revert hcontrol
  generalize s.reportControl.2 = s
  intro h
  unfold reportPose
  split
  · exact h
  · have hfresh : Paused n (if s.fresh config monotonic then s else { s with cancelMotion := true }) := by
      split
      · exact h
      · exact h.cleared rfl rfl (.inl rfl) (.inl rfl) (.inr rfl)
    revert hfresh
    generalize (if s.fresh config monotonic then s else { s with cancelMotion := true }) = s
    intro h
    dsimp only
    split
    · exact h.cleared rfl rfl (.inl rfl) (.inr rfl) (.inl rfl)
    · exact h.cleared rfl rfl (.inl rfl) (.inr rfl) (.inl rfl)
    · exact h

/-- A control request comes after the pause, or is no resume. -/
theorem requestControl_paused (h : Paused n s) (request : PoseRequest) {action : ControlAction}
    {origin : Nat} (hlater : action = .resume → n ≤ origin) (clock : PoseClock) :
    Paused n (s.requestControl config request action origin clock).2 := by
  unfold requestControl
  split
  · exact h
  · split
    · exact h
    · split
      · exact h
      · refine ⟨h.received, h.pending, fun job hjob hresume _ => ?_, h.pose⟩
        obtain rfl := Option.some.inj hjob
        exact hlater hresume

theorem requestPose_paused (h : Paused n s) (request : PoseRequest) {origin : Nat} (hlater : n ≤ origin)
    (clock : PoseClock) : Paused n (s.requestPose config request origin clock).2 := by
  unfold requestPose
  generalize (if request.action = .home then config.homePoseId else request.poseId.getD "") = ident
  dsimp only
  split
  · exact h
  · split
    · exact h
    · split
      · exact h
      · split
        · exact h
        · refine ⟨h.received, h.pending, h.control, fun job hjob => .inl ?_⟩
          obtain rfl := Option.some.inj hjob
          exact hlater

theorem stop_paused (h : Paused n s) (nowNs : Int) : Paused n (s.stop nowNs) :=
  h.cleared rfl rfl (.inl rfl) (.inl rfl) (.inr rfl)

theorem request_paused (h : Paused n s) (message : Option PoseRequest) (headset : Bool)
    (clock : PoseClock) : Paused n (s.request config message headset clock).2 := by
  unfold request
  split
  · exact h
  · rename_i request _
    have hcounted : Paused n { s with
        seen := remember s.seen request.id, received := s.received + 1 } :=
      ⟨Nat.le_succ_of_le h.received, h.pending, h.control, h.pose⟩
    dsimp only
    split
    · exact hcounted
    · split
      · exact requestControl_paused (stop_paused hcounted _) _ (by simp) _
      · split
        · exact hcounted
        · exact requestControl_paused hcounted _ (fun _ => h.received) _
      · split
        · exact hcounted
        · exact requestControl_paused hcounted _ (fun _ => h.received) _
      all_goals
        split
        · exact hcounted
        · exact requestPose_paused hcounted _ h.received _

/-- A step of any party keeps what a pause has reached. -/
theorem step_paused (h : Paused n s) (step : PoseStep) :
    Paused n ((runtimeMachine config).step s step).2 := by
  cases step with
  | request message headset clock => exact request_paused h message headset clock
  | receiverStatus status monotonic =>
    simp only [runtimeMachine, PoseRuntime.step, receiverStatus]
    split
    · exact h.cleared rfl rfl (.inl rfl) (.inl rfl) (.inl rfl)
    · exact h
  | feedback message clock =>
    simp only [runtimeMachine, PoseRuntime.step, feedback]
    split
    · exact h
    · exact h.cleared rfl rfl (.inl rfl) (.inl rfl) (.inl rfl)
  | stop data nowNs =>
    simp only [runtimeMachine, PoseRuntime.step]
    split
    · exact stop_paused h nowNs
    · exact h
  | tick monotonic => exact tick_paused h monotonic
  | pose input => exact poseStep_paused h input
  | control input => exact controlStep_paused h input
  | stopSeen =>
    simp only [runtimeMachine, PoseRuntime.step]
    split
    · exact h.cleared rfl rfl (.inl rfl) (.inl rfl) (.inr rfl)
    · exact h
  | serve index answer =>
    simp only [runtimeMachine, PoseRuntime.step, serve]
    split
    · exact h
    · exact ⟨h.received, fun call hcall => h.pending call (List.mem_of_mem_eraseIdx hcall),
        h.control, h.pose⟩

/-! ## The pause -/

theorem pause_step {g : PoseStage} {request : PoseRequest} (hpause : PausedBy config g request)
    (hstep : (runtimeMachine config).step g.before g.input = (g.output, g.after)) :
    ∃ clock : PoseClock, (g.output, g.after) = ({ g.before with
        seen := remember g.before.seen request.id
        received := g.before.received + 1
        stopBeforeNs := clock.stopNs
        cancelMotion := true } : PoseRuntime).requestControl config request .pause g.before.received clock := by
  obtain ⟨message, headset, clock, hinput, hvalid, haction⟩ := hpause
  refine ⟨clock, hstep.symm.trans ?_⟩
  rw [hinput]
  simp only [runtimeMachine, PoseRuntime.step, PoseRuntime.request, hvalid, haction, reduceCtorEq,
    or_self, and_false, if_false, PoseRuntime.stop]

/-- With no resume under way, none of a request before the pause can come after it. -/
theorem pause_paused {g : PoseStage} {request : PoseRequest} (hpause : PausedBy config g request)
    (hstep : (runtimeMachine config).step g.before g.input = (g.output, g.after))
    (hclear : ¬ ResumeUnderWay g.before) : Paused g.before.received g.after := by
  obtain ⟨clock, heq⟩ := pause_step hpause hstep
  rw [show g.after = (requestControl config _ request .pause g.before.received clock).2 from
    congrArg Prod.snd heq]
  refine requestControl_paused ⟨Nat.le_succ _, fun call hcall henables => ?_,
    fun job hjob hresume hstarting => ?_, fun job hjob => .inr ⟨rfl, fun outcome hdecided => ?_⟩⟩ _
    (by simp) _
  · exact absurd (.inl ⟨call, hcall, henables⟩) hclear
  · exact absurd (.inr (.inl ⟨job, hjob, hresume, hstarting⟩)) hclear
  · exact absurd (.inr (.inr ⟨job, outcome, hjob, hdecided⟩)) hclear

/-- A pause dominates the requests before it unless a resume is under way, and it is refused, with
nothing sent, while a control request is pending. -/
theorem pause_dominates (config : PoseConfig) (receiver : Receiver) (steps : List PoseStep)
    (request : PoseRequest) {k : Nat} {g : PoseStage}
    (hk : ((runtimeMachine config).trace { receiver } steps)[k]? = some g)
    (hpause : PausedBy config g request) :
    (¬ ResumeUnderWay g.before → ∀ (j : Nat) (g' : PoseStage) (call : ServiceCall), k < j →
      ((runtimeMachine config).trace { receiver } steps)[j]? = some g' → Enabling g' call →
      g.before.received ≤ call.origin) ∧
    (config.receiverPresent = true → g.before.controlFuture.isSome = true →
      g.output = [{ request, ok := false, message := "控制请求仍在执行" }] ∧
        g.after.controlFuture = g.before.controlFuture ∧ g.after.pending = g.before.pending) := by
  have hstep := Machine.trace_step (List.mem_of_getElem? hk)
  constructor
  · intro hclear j g' call hkj hj henabling
    have hbefore : Paused g.before.received g'.before :=
      Machine.trace_later_invariant (I := Paused g.before.received) (fun s step h _ => step_paused h step)
        (Machine.meets_true _ _) hkj hk hj (pause_paused hpause hstep hclear)
    obtain ⟨index, answer, -, hcall, henables⟩ := henabling
    exact hbefore.pending call (List.mem_of_getElem? hcall) henables
  · intro hpresent hpending
    obtain ⟨clock, heq⟩ := pause_step hpause hstep
    simp only [requestControl, hpresent, hpending, Bool.not_true, Bool.false_eq_true, if_false,
      if_true, Prod.mk.injEq] at heq
    rw [heq.1, heq.2]
    exact ⟨rfl, rfl, rfl⟩

namespace PauseFixture

def paused : PoseConfig where
  receiverPresent := true
  resolveInitialPose id := .ok ⟨id, "home", []⟩
  resolveJointJog _ _ := .error "点动关节名不能为空"

def clock : PoseClock := ⟨1000, 1000, 0⟩

def asked (action : PoseAction) (id : String) : PoseRequest :=
  { id, action, robotId := "", stampNs := 1000, revision := some "" }

def ask (action : PoseAction) (id : String) : PoseStep :=
  .request (some (asked action id)) false clock

/-- The receiver is there and reports that it is enabled. -/
def online : List PoseStep :=
  [.receiverStatus ⟨"", "", true⟩ 0, .feedback ⟨1000, [], []⟩ clock]

def firstId : String := "00000000000000000000000000000001"
def pauseId : String := "00000000000000000000000000000002"
def laterId : String := "00000000000000000000000000000003"

def served : PoseStep := .serve 0 (.ok "")

/-- A pause is handled by the receiver, and a resume after it. -/
def resumed : List PoseStep := online ++
  [ask .pause pauseId, .control {}, served, .control {}, .tick 0, ask .resume laterId, .control {}, served]

/-- A resume is sent; a pause comes; the receiver handles the resume. -/
def refused : List PoseStep := online ++ [ask .resume firstId, .control {}, ask .pause pauseId, served]

def poseSteps (count : Nat) : List PoseStep := List.replicate count (.pose {})

/-- A pose runs to its end and its worker finds the event unset; a pause comes and the receiver
handles it; the worker resumes. -/
def overtaken : List PoseStep := online ++
  ask .home firstId :: poseSteps 2 ++ [served] ++ poseSteps 3 ++ [.pose { executed := some (.ok []) }] ++
  poseSteps 1 ++ [served] ++ poseSteps 2 ++
  [ask .pause pauseId, .control {}, served, .control {}, .tick 0, .pose {}, served]

end PauseFixture

theorem idle_clear (hpending : s.pending = []) (hcontrol : s.controlFuture = none)
    (hpose : s.future = none) : ¬ ResumeUnderWay s := by
  rintro (⟨call, hcall, -⟩ | ⟨job, hjob, -⟩ | ⟨job, outcome, hjob, -⟩)
  · rw [hpending] at hcall
    cases hcall
  · cases hcontrol.symm.trans hjob
  · cases hpose.symm.trans hjob

open PauseFixture in
theorem pause_dominates_resumed :
    ∃ g g' : PoseStage, ∃ call, ((runtimeMachine paused).trace {} resumed)[2]? = some g ∧
      ((runtimeMachine paused).trace {} resumed)[9]? = some g' ∧ Enabling g' call ∧
      g.before.received ≤ call.origin := by
  have hdominates := (pause_dominates paused {} resumed (asked .pause pauseId)
    (k := 2) rfl ⟨some (asked .pause pauseId), false, clock, rfl, by decide +kernel, rfl⟩).1
    (idle_clear (by decide +kernel) (by decide +kernel) (by decide +kernel))
  have henabling := hdominates 9 _ ⟨1, .setEnabled true, 1⟩ (by decide) rfl
    ⟨0, .ok "", rfl, by decide +kernel, rfl⟩
  exact ⟨_, _, ⟨1, .setEnabled true, 1⟩, rfl, rfl, ⟨0, .ok "", rfl, by decide +kernel, rfl⟩, henabling⟩

open PauseFixture in
/-- The pause is refused while the resume is on its way, and the resume takes effect. -/
theorem resume_outlives_refused_pause : ¬ PauseDominates paused {} refused := by
  intro hdominates
  have hlate := hdominates 4 5 _ _ (asked .pause pauseId) ⟨0, .setEnabled true, 0⟩ rfl
    ⟨some (asked .pause pauseId), false, clock, rfl, by decide +kernel, rfl⟩ (by decide) rfl
    ⟨0, .ok "", rfl, by decide +kernel, rfl⟩
  exact absurd hlate (by decide +kernel)

open PauseFixture in
/-- The worker has found the event unset when the pause comes; the pause is handled and reported, and
the automatic resume takes effect after it. -/
theorem automatic_resume_overtakes_pause : ¬ PauseDominates paused {} overtaken ∧
    ((runtimeMachine paused).run {} overtaken).receiver.enabled = true := by
  refine ⟨fun hdominates => ?_, by decide +kernel⟩
  have hlate := hdominates 14 20 _ _ (asked .pause pauseId) ⟨3, .setEnabled true, 0⟩ rfl
    ⟨some (asked .pause pauseId), false, clock, rfl, by decide +kernel, rfl⟩ (by decide) rfl
    ⟨0, .ok "", rfl, by decide +kernel, rfl⟩
  exact absurd hlate (by decide +kernel)

end HumanoidMotion
