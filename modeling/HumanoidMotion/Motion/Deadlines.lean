import HumanoidMotion.Motion.Targets
/-
# The deadline of a command

A command is handed out before its `valid_until`, which the tick took from the
feedback, from its own start and, for a servo session, from the target that was
last accepted for the endpoint (`command_pipeline.cpp:854-884`).

* `exec_checked` — a command is handed out before its deadline only.
* `tick_deadline` — the deadline a tick gives to a command.
* `InTime` — the bounds that are left of it when the command is handed out.
-/

namespace HumanoidMotion

open Tick

variable {β : Type} {B : Platform β} {lib : MathLib}

/-! ## The check at the publication -/

/-- The command's time had not passed when it was checked. -/
def Publication.Checked (pub : Publication) : Prop :=
  ∃ limit, pub.command.validUntil = some limit ∧ pub.checkedAt < limit

theorem approve_checked {enteredAt now : SteadyTime} {state : List Publication × CommandPipeline β}
    (h : ∀ pub ∈ state.1, pub.Checked) (command : JointCommand) :
    ∀ pub ∈ (CommandPipeline.approve B enteredAt now state command).1, pub.Checked := by
  unfold CommandPipeline.approve
  simp only
  split
  · rename_i hvalid
    obtain ⟨-, hlimit, -⟩ := validatePublication_accepted hvalid
    intro pub hpub
    rcases List.mem_append.1 hpub with hpub | hpub
    · exact h pub hpub
    · rw [List.mem_singleton.1 hpub]
      exact hlimit
  · exact h

theorem foldl_approve_checked (enteredAt now : SteadyTime) :
    ∀ (commands : List JointCommand) (state : List Publication × CommandPipeline β),
      (∀ pub ∈ state.1, pub.Checked) →
      ∀ pub ∈ (commands.foldl (CommandPipeline.approve B enteredAt now) state).1, pub.Checked
  | [], _, h => h
  | c :: cs, _, h => foldl_approve_checked enteredAt now cs _ (approve_checked h c)

variable (B lib) in
/-- Whatever is handed out was checked in time. -/
theorem exec_checked (s : CommandPipeline β) (op : Op) :
    ∀ pub ∈ (exec B lib s op).1.handed, pub.Checked := by
  cases op with
  | publishCommand command now =>
    simp only [exec, Reply.handed]
    unfold CommandPipeline.publishCommand
    simp only
    split
    · simp
    · rename_i hvalid
      simp only [Bool.not_eq_true', Bool.not_eq_false] at hvalid
      obtain ⟨-, hlimit, -⟩ := validatePublication_accepted hvalid
      intro pub hpub
      rw [List.mem_singleton.1 hpub]
      exact hlimit
  | publishCommands commands now =>
    simp only [exec, Reply.handed]
    unfold CommandPipeline.publishCommands
    simp only
    split
    · simp
    · exact foldl_approve_checked _ _ commands _ (by simp)
  | tick feedback now =>
    simp only [exec]
    split <;> simp [Reply.handed]
  | _ => simp [exec, Reply.handed]

/-! ## The deadline a tick gives -/

section
variable {e₀ : β × List Call} {names : List String} {s : CommandPipeline (β × List Call)}
  {feedback : JointFeedback} {now : SteadyTime}

variable (lib) in
/-- A command of a tick is of a session stored before it, and carries the deadline of that session. -/
theorem tick_deadline (hissuing : Issuing s) (h : Tables True B.logged e₀ s)
    (feedback : JointFeedback) (now : SteadyTime) :
    ∀ c ∈ (exec B.recorded lib s (.tick feedback now)).1.commands, ∃ session limit,
      s.sessions[c.sessionId]? = some session ∧ c.validUntil = some limit ∧
        deadlineOf (s.tickContext B.recorded feedback now) s session = some limit := by
  obtain ⟨opening, s₂, hopening, -, hbatch, hexec⟩ := tick_batch (S := B.logged) lib hissuing h feedback now
  have hexec' : exec B.recorded lib s (.tick feedback now) = _ := hexec
  rw [hexec']
  intro c hc
  obtain ⟨-, -, session, hsession, -, -, hlimit, hsome⟩ := hbatch.source c (hbatch.closed hc).1
  obtain ⟨old, hold, hsame⟩ := hopening.descends rfl c.sessionId session hsession
  obtain ⟨hconfig, hendpoints⟩ := hopening.configured rfl
  obtain ⟨limit, hsome⟩ := Option.isSome_iff_exists.1 hsome
  refine ⟨old, limit, hold, hsome, ?_⟩
  rw [← hsome, hlimit, deadlineOf_sameClient hsame]
  unfold deadlineOf
  rw [hconfig, hendpoints]
  rfl

end

/-- At `time` the command of the tick at stage `g` is in time: the feedback it was computed from is
fresh, its cycle is not over, and the lease of the target last accepted for its endpoint still runs. -/
structure InTime (B : Platform β) (past : List (PipelineStage (β × List Call)))
    (g : PipelineStage (β × List Call)) (feedback : JointFeedback) (now : SteadyTime)
    (command : JointCommand) (time : SteadyTime) : Prop where
  feedback : time < feedback.receivedAt + g.before.config.feedbackMaxAge
  cycle : time < (g.before.startTick B.recorded now).startedAt + durationCast g.before.maxPeriodSec
  stored : command.sessionId ∈ g.before.sessions
  lease : ∀ session, g.before.sessions[command.sessionId]? = some session →
    isServo session.kind = true → ∃ policy freshAt,
      g.before.endpoints[session.endpointName]? = some policy ∧
      lastWith (fun _ receivedAt => receivedAt) session.endpointName past = some freshAt ∧
      time < freshAt + policy.servoLease

/-- The bounds of a deadline. -/
theorem deadlineOf_bounds {ctx : TickContext} {p : CommandPipeline β} {session : Session}
    {limit : SteadyTime} (h : deadlineOf ctx p session = some limit) :
    limit ≤ ctx.feedback.receivedAt + p.config.feedbackMaxAge ∧ limit ≤ ctx.cycleDeadline ∧
      (isServo session.kind = true → ∃ policy, p.endpoints[session.endpointName]? = some policy ∧
        limit ≤ session.submittedAt + policy.servoLease) := by
  unfold deadlineOf at h
  simp only at h
  split at h
  · obtain ⟨policy, hpolicy, rfl⟩ := Option.map_eq_some_iff.1 h
    exact ⟨(min_le_left _ _).trans (min_le_left _ _), (min_le_left _ _).trans (min_le_right _ _),
      fun _ => ⟨policy, hpolicy, min_le_right _ _⟩⟩
  · rename_i hmove
    obtain rfl := Option.some.inj h
    exact ⟨min_le_left _ _, min_le_right _ _, fun hservo => absurd hservo hmove⟩

variable (B lib) in
/-- Where a stage of a run starts, the pipeline is in order, and the servo sessions carry the targets
last accepted for their endpoints. -/
theorem trace_carries {γ : Type} (take : SessionRequest → SteadyTime → γ) (e : β)
    (groups : List JointGroupModel) (config : CommandPipelineConfig) {ops : List Op}
    (hfree : MoveIdsFree ops) {j : Nat} {g : PipelineStage (β × List Call)}
    (hj : ((machine B.recorded lib).trace (CommandPipeline.create (e, []) groups config) ops)[j]? = some g) :
    InOrder B.logged (e, []) (endpointNames ops) g.before ∧ Issuing g.before ∧
      ∀ name ∈ endpointNames ops, Carries take name (((machine B.recorded lib).trace
        (CommandPipeline.create (e, []) groups config) ops).take j) g.before := by
  have hinit : Initial (CommandPipeline.create (e, ([] : List Call)) groups config) := ⟨_, _, _, rfl⟩
  have hkeeps := hfree.keeps
  obtain ⟨pre, post, hops, hlength, hbefore, -⟩ := Machine.trace_split hj
  have hpast : ((machine B.recorded lib).trace (CommandPipeline.create (e, []) groups config) ops).take j =
      (machine B.recorded lib).trace (CommandPipeline.create (e, []) groups config) pre := by
    rw [hops, Machine.trace_append, List.take_left' (by rw [Machine.length_trace, hlength])]
  have hstart : InOrder B.logged (e, []) (endpointNames ops)
      (CommandPipeline.create (e, []) groups config) ∧ ∀ name ∈ endpointNames ops,
        Carries take name [] (CommandPipeline.create (e, ([] : List Call)) groups config) := by
    refine ⟨create_inOrder _ groups config (B.logged_fresh e), fun name _ session hfound => ?_⟩
    simp [CommandPipeline.create] at hfound
  have hpre : ∀ op ∈ pre, op.Keeps (endpointNames ops) := by
    intro op hop
    exact hkeeps op (by rw [hops]; exact List.mem_append_left _ hop)
  obtain ⟨horder, hcarries⟩ := Machine.history_meets (M := machine B.recorded lib)
    (H := fun past s => InOrder B.logged (e, []) (endpointNames ops) s ∧
      ∀ name ∈ endpointNames ops, Carries take name past s)
    (fun past s op hop h => ⟨h.1.exec lib hop, fun name hname =>
      (h.2 name hname).step B.recorded lib h.1.sound fun id hid => hop.moveFree id hid name hname⟩)
    hstart hpre
  rw [hpast, hbefore]
  exact ⟨horder, hinit.run_issuing pre, by simpa using hcarries⟩

variable (B lib) in
/-- In every run: a command that a tick returned is handed out in time only. -/
theorem handed_in_time (e : β) (groups : List JointGroupModel) (config : CommandPipelineConfig)
    {ops : List Op} (hfree : MoveIdsFree ops) {j : Nat} {gj gk : PipelineStage (β × List Call)}
    (hj : ((machine B.recorded lib).trace (CommandPipeline.create (e, []) groups config) ops)[j]? =
      some gj)
    (hk : gk ∈ (machine B.recorded lib).trace (CommandPipeline.create (e, []) groups config) ops)
    {feedback : JointFeedback} {now : SteadyTime} (htick : gj.input = .tick feedback now)
    {pub : Publication} (hreturned : pub.command ∈ gj.output.commands)
    (hhanded : pub ∈ gk.output.handed) :
    InTime B (((machine B.recorded lib).trace (CommandPipeline.create (e, []) groups config) ops).take j)
      gj feedback now pub.command pub.checkedAt := by
  have hstepj : exec B.recorded lib gj.before gj.input = (gj.output, gj.after) :=
    Machine.trace_step (List.mem_of_getElem? hj)
  have hstepk : exec B.recorded lib gk.before gk.input = (gk.output, gk.after) := Machine.trace_step hk
  obtain ⟨limit, hlimit, htime⟩ := exec_checked B.recorded lib gk.before gk.input pub (by
    rw [hstepk]; exact hhanded)
  obtain ⟨horder, hissuing, hcarries⟩ := trace_carries B lib (fun _ receivedAt => receivedAt) e groups
    config hfree hj
  obtain ⟨session, limit', hstored, hlimit', hdeadline⟩ := tick_deadline lib hissuing horder.tables
    feedback now pub.command (by rw [← htick, hstepj]; exact hreturned)
  obtain rfl : limit = limit' := Option.some.inj (hlimit.symm.trans hlimit')
  obtain ⟨hfeedback, hcycle, hlease⟩ := deadlineOf_bounds hdeadline
  refine ⟨htime.trans_le hfeedback, htime.trans_le hcycle,
    (CommandPipeline.mem_sessions_iff _ _).2 ⟨session, hstored⟩, fun stored hs hservo => ?_⟩
  obtain rfl : session = stored := Option.some.inj (hstored.symm.trans hs)
  obtain ⟨policy, hpolicy, hover⟩ := hlease hservo
  have hid := ((horder.tables.rows _).identity trivial session hstored).servo hservo
  have hname := horder.ids.named.registered _ policy hpolicy
  exact ⟨policy, session.submittedAt, hpolicy, hcarries _ hname session (hid ▸ hstored),
    htime.trans_le hover⟩

end HumanoidMotion
