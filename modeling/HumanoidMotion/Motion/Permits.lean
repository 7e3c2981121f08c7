import HumanoidMotion.Arbitration.Winners
import HumanoidMotion.Motion.Calls
/-
# Publication permits over runs

A joint carries at most one permit, and every token is issued once. So a permit
that a step takes away, or overwrites, never comes back: `Revoked` is kept by
every step (`Revoked.exec`), and a command that is revoked is not handed out.

* `Evolves` — what any call may do to the permits: drop old ones, issue new ones.
* `Issued` — tokens in use, and tokens of the commands of a tick.
* `Revokes` — the events after which a command may not be published any more.
-/

namespace HumanoidMotion

open Tick

variable {β : Type} {B : Platform β} {lib : MathLib} {op : Op}

abbrev PipelineStage (β : Type) := Machine.Stage (CommandPipeline β) Op Reply

/-! ## What a step may do to the permits -/

/-- Every permit is an old one or carries a token issued since. -/
structure Evolves (p p' : CommandPipeline β) : Prop where
  token : p.nextPublicationToken ≤ p'.nextPublicationToken
  permit : ∀ (joint : String) x, p'.publicationPermits[joint]? = some x →
    p.publicationPermits[joint]? = some x ∨ p.nextPublicationToken ≤ x.2

theorem Evolves.refl (p : CommandPipeline β) : Evolves p p := ⟨le_refl _, fun _ _ h => .inl h⟩

theorem Evolves.trans {p p' p'' : CommandPipeline β} (h : Evolves p p') (h' : Evolves p' p'') :
    Evolves p p'' where
  token := h.token.trans h'.token
  permit joint x hx := by
    rcases h'.permit joint x hx with hx | hx
    · exact h.permit joint x hx
    · exact .inr (h.token.trans hx)

@[simp] theorem issue_permits (s : TickState β) (id : String) (limit : SteadyTime)
    (command : JointCommand) (joint : String) :
    (s.issue id limit command).pipeline.publicationPermits[joint]? =
      if joint ∈ command.jointNames then some (id, s.pipeline.nextPublicationToken)
      else s.pipeline.publicationPermits[joint]? := by
  unfold TickState.issue
  simp only
  generalize s.pipeline.publicationPermits = permits
  generalize command.jointNames = joints
  induction joints generalizing permits with
  | nil => simp
  | cons j joints ih =>
    simp only [List.foldl_cons, ih, Std.TreeMap.getElem?_insert, Std.LawfulEqOrd.compare_eq_iff_eq,
      List.mem_cons]
    by_cases hj : joint ∈ joints
    · simp [hj]
    · simp [hj, eq_comm (a := joint)]

theorem Elem.evolves {s s' : TickState β} (h : Elem B op s s') :
    Evolves s.pipeline s'.pipeline := by
  cases h with
  | silent p h => exact ⟨h.token.ge, fun joint x hx => .inl (h.permits ▸ hx)⟩
  | terminate id state status preserve _ _ =>
    refine ⟨by simp [TickState.withPipeline], fun joint x hx => .inl ?_⟩
    simp only [TickState.withPipeline, CommandPipeline.terminate_permits] at hx
    exact (Option.filter_eq_some_iff.1 hx).1
  | revoke permits h => exact ⟨le_refl _, fun joint x hx => .inl (h joint x hx)⟩
  | issue id session limit command _ _ =>
    refine ⟨Nat.le_succ _, fun joint x hx => ?_⟩
    rw [issue_permits] at hx
    split at hx
    · cases hx; exact .inr (le_refl _)
    · exact .inl hx
  | _ => exact ⟨le_refl _, fun joint x hx => .inl hx⟩

theorem Elems.evolves {s s' : TickState β} (h : Elems B op s s') :
    Evolves s.pipeline s'.pipeline :=
  h.invariant (I := fun t => Evolves s.pipeline t.pipeline)
    (fun _ _ hstep hs => hs.trans hstep.evolves) (.refl _)

variable (B lib) in
theorem exec_evolves {s : CommandPipeline β} (h : Sound s) (op : Op) :
    Evolves s (exec B lib s op).2 := by
  obtain ⟨t, helems, hpipeline, -, -⟩ := exec_elems B lib s h op
  rw [hpipeline]
  exact helems.evolves

/-! ## Revoked commands -/

/-- The command was issued, and some joint of it no longer carries its permit. -/
def Revoked (p : CommandPipeline β) (command : JointCommand) : Prop :=
  command.publicationToken < p.nextPublicationToken ∧
    (command.jointNames.isEmpty = true ∨ p.holdsPermits command = false)

theorem holdsPermits_iff (p : CommandPipeline β) (command : JointCommand) :
    p.holdsPermits command = true ↔ ∀ joint ∈ command.jointNames,
      p.publicationPermits[joint]? = some (command.sessionId, command.publicationToken) := by
  simp [CommandPipeline.holdsPermits]

/-- A lost permit does not come back: a new one would carry a new token. -/
theorem Revoked.evolves {p p' : CommandPipeline β} {command : JointCommand} (h : Revoked p command)
    (he : Evolves p p') : Revoked p' command := by
  obtain ⟨htoken, hlost⟩ := h
  refine ⟨htoken.trans_le he.token, hlost.imp_right fun hlost => ?_⟩
  rw [← Bool.not_eq_true, holdsPermits_iff] at hlost ⊢
  refine fun hall => hlost fun joint hj => ?_
  rcases he.permit joint _ (hall joint hj) with hold | hnew
  · exact hold
  · simp only at hnew; omega

/-- A command whose joint lost its permit in a step, or got a permit issued in that step. -/
theorem Revoked.of_joint {p p' : CommandPipeline β} {command : JointCommand} {joint : String}
    (htoken : command.publicationToken < p.nextPublicationToken) (he : Evolves p p')
    (hj : joint ∈ command.jointNames)
    (hlost : ∀ x, p'.publicationPermits[joint]? = some x → x.1 = command.sessionId →
      p.nextPublicationToken ≤ x.2) : Revoked p' command := by
  refine ⟨htoken.trans_le he.token, .inr ?_⟩
  rw [← Bool.not_eq_true, holdsPermits_iff]
  intro hall
  have := hlost _ (hall joint hj) rfl
  simp only at this
  omega

/-- A command whose joints lost their permits. -/
theorem Revoked.of_joints {p p' : CommandPipeline β} {command : JointCommand}
    (htoken : command.publicationToken < p.nextPublicationToken) (he : Evolves p p')
    (hlost : ∀ joint ∈ command.jointNames, ∀ x, p'.publicationPermits[joint]? = some x →
      x.1 = command.sessionId → p.nextPublicationToken ≤ x.2) : Revoked p' command := by
  cases hjoints : command.jointNames with
  | nil => exact ⟨htoken.trans_le he.token, .inl (by simp [hjoints])⟩
  | cons joint _ =>
    have hj : joint ∈ command.jointNames := by simp [hjoints]
    exact .of_joint htoken he hj (hlost joint hj)

/-- A command of a session whose old permits are all gone. -/
theorem Revoked.of_session {p p' : CommandPipeline β} {command : JointCommand}
    (htoken : command.publicationToken < p.nextPublicationToken) (he : Evolves p p')
    (hlost : ∀ (joint : String) x, p'.publicationPermits[joint]? = some x →
      x.1 = command.sessionId → p.nextPublicationToken ≤ x.2) : Revoked p' command :=
  .of_joints htoken he fun joint _ x hx => hlost joint x hx

/-- A revoked command is not accepted. -/
theorem Revoked.refused {p : CommandPipeline β} {command : JointCommand} (h : Revoked p command)
    (now : SteadyTime) : (p.validatePublicationLocked B command now).1 = false := by
  unfold CommandPipeline.validatePublicationLocked
  rw [if_pos]
  rcases h.2 with hempty | hlost
  · simp [hempty]
  · simp [hlost]

theorem Revoked.exec {s : CommandPipeline β} {command : JointCommand} (h : Revoked s command)
    (hs : Sound s) (op : Op) : Revoked (exec B lib s op).2 command := h.evolves (exec_evolves B lib hs op)

/-! ## Tokens -/

/-- Every permit carries a token that has been issued, and the commands gathered so far carry
tokens issued since `first`. -/
structure Issued (first : Nat) (s : TickState β) : Prop where
  permits : ∀ (joint : String) x, s.pipeline.publicationPermits[joint]? = some x →
    x.2 < s.pipeline.nextPublicationToken
  commands : ∀ c ∈ s.commands, first ≤ c.publicationToken ∧
    c.publicationToken < s.pipeline.nextPublicationToken
  since : first ≤ s.pipeline.nextPublicationToken
  /-- A joint of a gathered command carries no permit from before. -/
  renewed : ∀ c ∈ s.commands, ∀ joint ∈ c.jointNames, ∀ x,
    s.pipeline.publicationPermits[joint]? = some x → first ≤ x.2

/-- The commands are as they were, and so are the permits that are left. -/
theorem Issued.keep {first : Nat} {s s' : TickState β} (h : Issued first s)
    (hcommands : ∀ c ∈ s'.commands, c ∈ s.commands)
    (htoken : s'.pipeline.nextPublicationToken = s.pipeline.nextPublicationToken)
    (hpermits : ∀ (joint : String) x, s'.pipeline.publicationPermits[joint]? = some x →
      s.pipeline.publicationPermits[joint]? = some x) : Issued first s' where
  permits joint x hx := htoken ▸ h.permits joint x (hpermits joint x hx)
  commands c hc := htoken ▸ h.commands c (hcommands c hc)
  since := htoken ▸ h.since
  renewed c hc joint hj x hx := h.renewed c (hcommands c hc) joint hj x (hpermits joint x hx)

theorem Elem.issued {first : Nat} {s s' : TickState β} (hstep : Elem B op s s')
    (h : Issued first s) : Issued first s' := by
  cases hstep with
  | silent p hs =>
    exact h.keep (fun _ hc => hc) hs.token fun _ _ hx =>
      (congrArg (fun m : StringMap _ => m[_]?) hs.permits).symm.trans hx
  | terminate id state status preserve _ _ =>
    refine h.keep (fun _ hc => hc) (CommandPipeline.terminate_token ..) fun joint x hx => ?_
    simp only [TickState.withPipeline, CommandPipeline.terminate_permits] at hx
    exact (Option.filter_eq_some_iff.1 hx).1
  | revoke permits hp => exact h.keep (fun _ hc => hc) rfl hp
  | drop commands hsub => exact h.keep (fun _ hc => hsub.subset hc) rfl fun _ _ hx => hx
  | issue id session limit command _ _ =>
    have hnext : (s.issue id limit command).pipeline.nextPublicationToken =
        s.pipeline.nextPublicationToken + 1 := rfl
    have hsince := h.since
    refine ⟨fun joint x hx => ?_, fun c hc => ?_, by omega, fun c hc joint hj x hx => ?_⟩
    · rw [issue_permits] at hx
      split at hx
      · cases hx; simp [hnext]
      · have := h.permits joint x hx
        omega
    · rcases List.mem_append.1 hc with hc | hc
      · have := h.commands c hc
        omega
      · obtain rfl := List.mem_singleton.1 hc
        exact ⟨hsince, Nat.lt_succ_self _⟩
    · rw [issue_permits] at hx
      split at hx
      · cases hx; exact hsince
      · rename_i hnot
        rcases List.mem_append.1 hc with hc | hc
        · exact h.renewed c hc joint hj x hx
        · obtain rfl := List.mem_singleton.1 hc
          exact absurd hj hnot
  | _ => exact h.keep (fun _ hc => hc) rfl fun _ _ hx => hx

theorem Elems.issued {first : Nat} {s s' : TickState β} (hsteps : Elems B op s s')
    (h : Issued first s) : Issued first s' := hsteps.invariant (fun _ _ => Elem.issued) h

/-- Every permit of the state carries a token that has been issued. -/
def PermitsIssued (p : CommandPipeline β) : Prop :=
  Issued p.nextPublicationToken { pipeline := p }

theorem PermitsIssued.of_issued {first : Nat} {s : TickState β} (h : Issued first s) :
    PermitsIssued s.pipeline :=
  ⟨h.permits, by simp, le_refl _, by simp⟩

theorem exec_issued {s : CommandPipeline β} (hs : Sound s) (h : PermitsIssued s) (op : Op) :
    PermitsIssued (exec B lib s op).2 := by
  obtain ⟨t, helems, hpipeline, -, -⟩ := exec_elems B lib s hs op
  rw [hpipeline]
  exact .of_issued (helems.issued h)

variable (B lib) in
/-- The commands a call returns carry tokens issued by that call, and no joint of them carries an
older permit. -/
theorem returned_issued {s : CommandPipeline β} (hs : Sound s) (h : PermitsIssued s) (op : Op)
    {c : JointCommand} (hc : c ∈ (exec B lib s op).1.commands) :
    s.nextPublicationToken ≤ c.publicationToken ∧
      c.publicationToken < (exec B lib s op).2.nextPublicationToken ∧
      ∀ joint ∈ c.jointNames, ∀ x, (exec B lib s op).2.publicationPermits[joint]? = some x →
        s.nextPublicationToken ≤ x.2 := by
  obtain ⟨t, helems, hpipeline, hcommands, -⟩ := exec_elems B lib s hs op
  have ht : Issued s.nextPublicationToken t := helems.issued h
  rw [hcommands] at hc
  rw [hpipeline]
  exact ⟨(ht.commands c hc).1, (ht.commands c hc).2, ht.renewed c hc⟩

/-! ## What takes a permit away -/

/-- No permit of the session is older than `first`. -/
def Silenced (first : Nat) (p : CommandPipeline β) (id : String) : Prop :=
  ∀ (joint : String) x, p.publicationPermits[joint]? = some x → x.1 = id → first ≤ x.2

theorem Silenced.evolves {first : Nat} {p p' : CommandPipeline β} {id : String}
    (h : Silenced first p id) (hfirst : first ≤ p.nextPublicationToken) (he : Evolves p p') :
    Silenced first p' id := by
  intro joint x hx hid
  rcases he.permit joint x hx with hx | hnew
  · exact h joint x hx hid
  · exact hfirst.trans hnew

theorem terminate_silenced (first : Nat) (p : CommandPipeline β) (id : String)
    (state : SessionState) (status : MotionStatus) :
    Silenced first (p.terminate B id state status) id := by
  intro joint x hx hid
  rw [CommandPipeline.terminate_permits] at hx
  have hne := (Option.filter_eq_some_iff.1 hx).2
  simp [hid] at hne

/-- The call queued one more event `e`: it is in the answer or waits for the next tick. -/
def Queued (g : PipelineStage β) (e : SessionEvent) : Prop :=
  g.before.pendingEvents.count e < (g.output.events ++ g.after.pendingEvents).count e

/-- The events that are only queued together with a revocation: preemptions, and outside `tick`
every end of a session. -/
def Revoking (op : Op) (e : SessionEvent) : Prop :=
  e.state = .preempted ∨ (op.isTick = false ∧ e.state.isTerminal = true)

/-- One more revoking event is queued only when the permits of its session are gone. -/
def QueuedSilenced (op : Op) (first : Nat) (queued : List SessionEvent) (s : TickState β) : Prop :=
  ∀ e, Revoking op e → queued.count e < (s.events ++ s.pipeline.pendingEvents).count e →
    Silenced first s.pipeline e.sessionId

/-- Events that are not new leave the old ones to the revocation that queued them. -/
theorem QueuedSilenced.keep {first : Nat} {queued : List SessionEvent} {s s' : TickState β}
    (h : QueuedSilenced op first queued s) (hfirst : first ≤ s.pipeline.nextPublicationToken)
    (he : Evolves s.pipeline s'.pipeline)
    (hcount : ∀ e, Revoking op e → (s'.events ++ s'.pipeline.pendingEvents).count e ≤
      (s.events ++ s.pipeline.pendingEvents).count e) : QueuedSilenced op first queued s' :=
  fun e hrev hq => (h e hrev (hq.trans_le (hcount e hrev))).evolves hfirst he

theorem Elem.queuedSilenced {first : Nat} {queued : List SessionEvent} {s s' : TickState β}
    (hstep : Elem B op s s') (hfirst : first ≤ s.pipeline.nextPublicationToken)
    (h : QueuedSilenced op first queued s) : QueuedSilenced op first queued s' := by
  have he := hstep.evolves
  cases hstep with
  | silent p hs => exact h.keep hfirst he fun e _ => by simp [TickState.withPipeline, hs.pending]
  | terminate id state status preserve hstate hkeep =>
    intro e hrev hq
    by_cases hnew : e = { sessionId := id, state, status }
    · -- a revoking event: the permits of its session went with it
      obtain rfl : preserve = false := by
        rw [← Bool.not_eq_true]
        intro hp
        obtain ⟨hne, htick⟩ := hkeep hp
        rcases hrev with hpre | ⟨hop, -⟩
        · exact hne (by rw [hnew] at hpre; exact hpre)
        · rw [hop] at htick; cases htick
      rw [hnew]
      exact terminate_silenced first s.pipeline id state status
    · refine (h e hrev ?_).evolves hfirst he
      simp only [TickState.withPipeline, CommandPipeline.terminate_pending, List.count_append] at hq
      split at hq
      · simp only [List.count_singleton, beq_iff_eq, Ne.symm hnew, if_false] at hq
        simpa [List.count_append] using hq
      · simpa [List.count_append] using hq
  | running id session message _ =>
    refine h.keep hfirst he fun e hrev => ?_
    have hne : ({ sessionId := id, state := .running, status := { message } } : SessionEvent) ≠ e := by
      rintro rfl
      rcases hrev with hpre | ⟨-, hterm⟩
      · cases hpre
      · cases hterm
    simp [TickState.pushEvent, List.count_append, hne]
  | flush => exact h.keep hfirst he fun e _ => by simp [TickState.flush]
  | _ => exact h.keep hfirst he fun e _ => le_refl _

variable (B lib) in
/-- A call that queues a revoking event leaves no older permit to its session. -/
theorem queued_silenced {s : CommandPipeline β} (hs : Sound s) (op : Op) {e : SessionEvent}
    (hrev : Revoking op e) (hq : Queued ⟨s, op, (exec B lib s op).1, (exec B lib s op).2⟩ e) :
    Silenced s.nextPublicationToken (exec B lib s op).2 e.sessionId := by
  obtain ⟨t, helems, hpipeline, -, hevents⟩ := exec_elems B lib s hs op
  have hinv : s.nextPublicationToken ≤ t.pipeline.nextPublicationToken ∧
      QueuedSilenced op s.nextPublicationToken s.pendingEvents t := by
    refine helems.invariant (I := fun t => s.nextPublicationToken ≤
      t.pipeline.nextPublicationToken ∧ QueuedSilenced op s.nextPublicationToken s.pendingEvents t)
      (fun a b hstep h => ⟨h.1.trans hstep.evolves.token, hstep.queuedSilenced h.1 h.2⟩)
      ⟨le_refl _, fun e _ hq => by simp at hq⟩
  unfold Queued at hq
  simp only [hevents, hpipeline] at hq
  rw [hpipeline]
  exact hinv.2 e hrev hq

variable (B lib) in
/-- A tick leaves no older permit to a session whose lease it finds run out. -/
theorem tick_silenced {s : CommandPipeline β} (hs : Sound s) (feedback : JointFeedback)
    {now : SteadyTime} {id : String}
    (hexp : id ∈ (s.tickArbitration B now).expiredServoIds) :
    Silenced s.nextPublicationToken (exec B lib s (.tick feedback now)).2 id := by
  obtain ⟨s₂, hrun, htick⟩ := tick_run B lib s feedback now hs
  have hopening : Elems B (.tick feedback now) { pipeline := s } (s.tickOpening B now) :=
    tickOpening_elems s now
  have hlater : Elems B (.tick feedback now) (s.tickOpening B now)
      (closed B (s.tickContext B feedback now) s₂) :=
    ((opened_elems (s.schedulingGap now) _ _ (hopening.sound hs)).trans
      (hrun.turns.elems rfl)).trans (closed_elems s₂)
  have hended : Silenced s.nextPublicationToken (s.tickOpening B now).pipeline id := by
    intro joint x hx hid
    change (CommandPipeline.endAll B .aborted CommandPipeline.leaseExpiredStatus _
      _).publicationPermits[joint]? = some x at hx
    rw [CommandPipeline.endAll_permits] at hx
    have hkept := (Option.filter_eq_some_iff.1 hx).2
    simp only [hid, Bool.not_eq_true', List.contains_eq_mem, decide_eq_false_iff_not] at hkept
    exact absurd hexp hkept
  simp only [exec, htick]
  exact hended.evolves hopening.evolves.token hlater.evolves

/-! ## What revokes a command -/

/-- A submission was admitted: its claim is stored and wins at the time of the submission. -/
structure Admission (g : PipelineStage β) (id : String) (state : ClaimState) : Prop where
  replied : g.output = .submission { status := .Ok, sessionId := id }
  stored : g.after.arbiter.claims[id]? = some state
  wins : ∃ now, g.input.arbitratedAt = some now ∧ id ∈ g.after.arbiter.winners now

/-- What happens to a command in a call. -/
inductive Revokes (B : Platform β) (g : PipelineStage β) (command : JointCommand) : Prop
  | canceled (h : g.input = .cancel command.sessionId)
  | admission (id : String) (state : ClaimState) (joint : String) (h : Admission g id state)
      (hclaim : joint ∈ state.claim.jointNames) (hj : joint ∈ command.jointNames)
  | epoch (enabled : Bool) (generation : Nat) (h : g.input = .setOutputPermit enabled generation)
      (hchange : enabled = false ∨ generation ≠ g.before.outputGeneration)
  | preempted (status : MotionStatus)
      (h : Queued g { sessionId := command.sessionId, state := .preempted, status })
  | leaseExpired (hop : g.input.isTick = false) (h : Queued g
      { sessionId := command.sessionId, state := .aborted,
        status := CommandPipeline.leaseExpiredStatus })
  | leaseExpiredAtTick (feedback : JointFeedback) (now : SteadyTime) (h : g.input = .tick feedback now)
      (hexp : command.sessionId ∈ (g.before.tickArbitration B now).expiredServoIds)
  /-- A tick returned another command for one of the joints. -/
  | reissued (other : JointCommand) (joint : String) (h : other ∈ g.output.commands)
      (hother : joint ∈ other.jointNames) (hj : joint ∈ command.jointNames)
  /-- A tick issued another command for one of the joints and took it back. -/
  | reserved (joint : String) (permit : String × Nat) (hj : joint ∈ command.jointNames)
      (h : g.after.publicationPermits[joint]? = some permit)
      (hnew : g.before.nextPublicationToken ≤ permit.2)

/-- An admitted submission takes the permits of its claim's joints. -/
theorem Admission.permits {g : PipelineStage β} {id : String} {state : ClaimState}
    (h : Admission g id state) (hexec : exec B lib g.before g.input = (g.output, g.after))
    {joint : String} (hj : joint ∈ state.claim.jointNames) :
    g.after.publicationPermits[joint]? = none := by
  obtain ⟨s, op, output, p⟩ := g
  obtain ⟨hreplied, hstored, now, htime, hwins⟩ := h
  simp only at hreplied hstored htime hwins hexec ⊢
  subst hreplied
  cases op with
  | submitMove endpoint request now' generation =>
    obtain rfl : now' = now := Option.some.inj htime
    obtain ⟨hresult, rfl⟩ := Prod.mk.inj hexec
    have hout := submitMove_outcome B s endpoint request now' generation
    obtain ⟨policy, arbPolicy, session, -, -, -, -, hres, -, hclaims, hpermits⟩ :=
      hout.stored (by rw [Reply.submission.inj hresult]; rfl)
    obtain rfl : id = session.sessionId := by
      have := (Reply.submission.inj hresult).symm.trans hres
      simpa using this
    refine hpermits joint ?_
    rw [ControlArbiter.displace_submitted _ _ _ _ _ ((hclaims _).symm.trans hstored)] at hj
    exact hj
  | updateServo endpoint request receivedAt now' generation =>
    obtain rfl : now' = now := Option.some.inj htime
    obtain ⟨hresult, rfl⟩ := Prod.mk.inj hexec
    have hout := updateServo_outcome B s endpoint request receivedAt now' generation
    obtain ⟨policy, arbPolicy, session, existing, base, -, hres, hclaims, hpermits⟩ :=
      hout.stored (by rw [Reply.submission.inj hresult]; rfl)
    obtain rfl : id = session.sessionId := by
      have := (Reply.submission.inj hresult).symm.trans hres
      simpa using this
    refine hpermits (ControlArbiter.computeWinners_congr hclaims ▸ hwins) joint ?_
    rw [ControlArbiter.displace_submitted _ _ _ _ _ ((hclaims _).symm.trans hstored)] at hj
    exact hj
  | _ => cases htime

theorem Silenced.revoked {p p' : CommandPipeline β} {command : JointCommand}
    (h : Silenced p.nextPublicationToken p' command.sessionId)
    (htoken : command.publicationToken < p.nextPublicationToken) (he : Evolves p p') :
    Revoked p' command := .of_session htoken he h

/-- Each of these events revokes the command. -/
theorem Revokes.revoked {g : PipelineStage β} {command : JointCommand} (h : Revokes B g command)
    (hs : Sound g.before) (hissued : PermitsIssued g.before)
    (hexec : exec B lib g.before g.input = (g.output, g.after))
    (htoken : command.publicationToken < g.before.nextPublicationToken) :
    Revoked g.after command := by
  have he : Evolves g.before g.after := by
    have := exec_evolves B lib hs g.input
    rwa [hexec] at this
  cases h with
  | canceled h =>
    refine Silenced.revoked ?_ htoken he
    rw [h] at hexec
    obtain ⟨-, hafter⟩ := Prod.mk.inj hexec
    have hsil : Silenced g.before.nextPublicationToken
        (g.before.terminate B command.sessionId .canceled CommandPipeline.canceledStatus)
        command.sessionId := terminate_silenced _ _ _ _ _
    rw [← hafter]
    unfold CommandPipeline.cancel
    simp only
    split
    · exact hsil
    · exact hsil
  | admission id state joint hadm hclaim hj =>
    exact .of_joint htoken he hj fun x hx => by rw [hadm.permits hexec hclaim] at hx; cases hx
  | epoch enabled generation h hchange =>
    refine Silenced.revoked (fun joint x hx _ => ?_) htoken he
    rw [h] at hexec
    obtain ⟨-, hafter⟩ := Prod.mk.inj hexec
    rw [← hafter] at hx
    unfold CommandPipeline.setOutputPermit at hx
    rw [if_pos (by rcases hchange with rfl | hne <;> simp [*])] at hx
    simp at hx
  | preempted status h =>
    have hsil := queued_silenced B lib hs g.input (.inl rfl) (by rw [hexec]; exact h)
    rw [hexec] at hsil
    exact hsil.revoked htoken he
  | leaseExpired hop h =>
    have hsil := queued_silenced B lib hs g.input (.inr ⟨hop, rfl⟩)
      (by rw [hexec]; exact h)
    rw [hexec] at hsil
    exact hsil.revoked htoken he
  | leaseExpiredAtTick feedback now h hexp =>
    have hsil := tick_silenced B lib hs feedback hexp
    rw [← h, hexec] at hsil
    exact hsil.revoked htoken he
  | reissued other joint h hother hj =>
    have hret := returned_issued B lib hs hissued g.input (by rw [hexec]; exact h)
    rw [hexec] at hret
    exact .of_joint htoken he hj fun x hx _ => hret.2.2 joint hother x hx
  | reserved joint permit hj h hnew =>
    refine .of_joint htoken he hj fun x hx _ => ?_
    obtain rfl : permit = x := Option.some.inj (h.symm.trans hx)
    exact hnew

end HumanoidMotion
