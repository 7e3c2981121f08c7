import HumanoidMotion.Motion.Publication
import HumanoidMotion.Motion.TickOutput
/-
# Commands of a session that has ended

A controlled stop keeps the permits of the session it ends, for the hold to be
published. When the SDK gives no hold, what is kept are the permits of an older
command.

* `GrantsHold` — the answers of the SDK with which a controlled stop has a hold.
* `HoldsGranted` — it gives them for every session that a tick finds with a
  permit.
* `Guarded` — the session of a command is stored, or the command is revoked;
  `exec_guarded` keeps it, tick by tick and call by call.
* `ended_session_refused` — then nothing of an ended session can be published.
-/

namespace HumanoidMotion

open Tick

variable {β : Type} {B : Platform β} {lib : MathLib} {op : Op}

/-! ## The hold of a controlled stop -/

/-- The session holds the permit of some joint. -/
def Outstanding (p : CommandPipeline β) (id : String) : Prop :=
  ∃ (joint : String) (permit : String × Nat),
    p.publicationPermits[joint]? = some permit ∧ permit.1 = id

variable (B lib) in
/-- Asked in state `e` to stand still at the measured joints, the SDK answers with a command that
passed its RTC and lies within every limit. -/
def GrantsHold (p : CommandPipeline β) (period : Rat) (session : Session)
    (measured : JointFeedback) (e : β) : Prop :=
  let reset := B.resetFinalJointTarget e session.groupName measured
  let shaped := (B.updateFinalJointTarget reset.2 session.groupName
    (CommandPipeline.holdRequest session measured) period).1
  reset.1.ok = true ∧ shaped.status.ok = true ∧ shaped.candidate.passedFinalSdkRtc = true ∧
    ∃ group status, p.groups[session.groupName]? = some group ∧
      validateFinalCommand lib shaped.candidate group none = .ok status ∧ status.ok = true

variable (B lib) in
/-- The SDK has a hold for the session at the joints of `feedback`, whatever calls come before. -/
def HoldReady (p : CommandPipeline β) (period : Rat) (feedback : JointFeedback)
    (session : Session) : Prop :=
  ∀ measured, selectFeedback feedback session.jointNames = .ok measured → ∀ e,
    Calls B p.backend e → GrantsHold B lib p period session measured e

variable (B lib) in
/-- During a tick the SDK has a hold for every stored session with a permit. -/
def HoldsGranted (s : CommandPipeline β) : Op → Prop
  | .tick feedback now => ∀ (id : String) session, s.sessions[id]? = some session →
      Outstanding s id → HoldReady B lib s (s.tickPeriod now) feedback session
  | _ => True

theorem GrantsHold.transfer {p p' : CommandPipeline β} {period : Rat} {session session' : Session}
    {measured : JointFeedback} {e : β} (h : GrantsHold B lib p period session measured e)
    (hgroups : p'.groups = p.groups) (hsame : session.SameClient session') :
    GrantsHold B lib p' period session' measured e := by
  have hrequest : CommandPipeline.holdRequest session' measured =
      CommandPipeline.holdRequest session measured := by
    simp only [CommandPipeline.holdRequest, hsame.groupName, hsame.jointNames]
  unfold GrantsHold at h ⊢
  rw [hsame.groupName, hgroups, hrequest]
  exact h

theorem HoldReady.transfer {p p' : CommandPipeline β} {period : Rat} {feedback : JointFeedback}
    {session session' : Session} (h : HoldReady B lib p period feedback session)
    (hgroups : p'.groups = p.groups) (hcalls : Calls B p.backend p'.backend)
    (hsame : session.SameClient session') : HoldReady B lib p' period feedback session' :=
  fun measured hselected e he =>
    (h measured (hsame.jointNames ▸ hselected) e (hcalls.trans he)).transfer hgroups hsame

theorem Tick.HoldOf.granted {p : CommandPipeline β} {session : Session} {measured : JointFeedback}
    {hold : Option JointCommand}
    (hgrants : ∀ e, Calls B p.backend e → GrantsHold B lib p p.currentPeriodSec session measured e)
    (hselected : selectFeedback measured session.jointNames = .ok measured)
    (h : HoldOf B lib p session measured hold) : ∃ command, hold = some command := by
  obtain ⟨e, he, rfl⟩ := h
  obtain ⟨hreset, hshaped, hrtc, group, status, hgroup, hstatus, hok⟩ := hgrants e he
  simp only [CommandPipeline.controlledStop, hselected, hreset, Bool.not_true, Bool.false_eq_true,
    if_false, CommandPipeline.acceptHold, hshaped, hrtc, Bool.or_self, hgroup, hstatus, hok,
    if_true]
  exact ⟨_, rfl⟩

/-! ## Stored or revoked -/

/-- The command was issued; its session is stored with its joints, or it is revoked. -/
structure Guarded (p : CommandPipeline β) (command : JointCommand) : Prop where
  token : command.publicationToken < p.nextPublicationToken
  kept : (∃ session, p.sessions[command.sessionId]? = some session ∧
    session.jointNames = command.jointNames) ∨ Revoked p command

section
variable {p p' : CommandPipeline β} {command : JointCommand}

theorem Guarded.keep (h : Guarded p command) (he : Evolves p p')
    (hs : ∀ session, p.sessions[command.sessionId]? = some session →
      (∃ session', p'.sessions[command.sessionId]? = some session' ∧
        session'.jointNames = session.jointNames) ∨ Revoked p' command) : Guarded p' command := by
  refine ⟨h.token.trans_le he.token, ?_⟩
  rcases h.kept with ⟨session, hstored, hjoints⟩ | hr
  · rcases hs session hstored with ⟨session', hstored', hsame⟩ | hr
    · exact .inl ⟨session', hstored', hsame.trans hjoints⟩
    · exact .inr hr
  · exact .inr (hr.evolves he)

theorem Guarded.keep_eq (h : Guarded p command) (he : Evolves p p')
    (hs : p'.sessions[command.sessionId]? = p.sessions[command.sessionId]?) :
    Guarded p' command :=
  h.keep he fun session hstored => .inl ⟨session, hs.trans hstored, rfl⟩

/-- A session that ends takes the permits of its commands with it. -/
theorem Guarded.terminate (h : Guarded p command) (id : String) (state : SessionState)
    (status : MotionStatus)
    (he : Evolves p (p.terminate B id state status)) :
    Guarded (p.terminate B id state status) command := by
  by_cases hid : command.sessionId = id
  · subst hid
    have hsilent := terminate_silenced (B := B) p.nextPublicationToken p command.sessionId state status
    exact ⟨h.token.trans_le he.token, .inr (hsilent.revoked h.token he)⟩
  · exact h.keep_eq he (by rw [CommandPipeline.terminate_sessions, if_neg hid])

end

/-- Outside the winners' turns every step keeps it. -/
theorem Elem.guarded (hop : op.isTick = false) {s s' : TickState β} {command : JointCommand}
    (hstep : Elem B op s s') (h : Guarded s.pipeline command) : Guarded s'.pipeline command := by
  have he := hstep.evolves
  cases hstep with
  | silent p hs => exact h.keep_eq he (congrArg (·[command.sessionId]?) hs.sessions)
  | terminate id state status preserve hstate hkeep =>
    obtain rfl : preserve = false := by
      rw [← Bool.not_eq_true]
      intro hp
      rw [(hkeep hp).2] at hop
      cases hop
    exact h.terminate id state status he
  | create session servos hnone _ _ _ _ _ =>
    refine h.keep he fun stored hstored => .inl ⟨stored, ?_, rfl⟩
    simp only [TickState.withPipeline, Std.TreeMap.getElem?_insertIfNew,
      Std.LawfulEqOrd.compare_eq_iff_eq]
    rw [if_neg, hstored]
    rintro ⟨heq, -⟩
    rw [heq, hstored] at hnone
    cases hnone
  | retarget id old new hold _ _ _ _ =>
    refine h.keep he fun session hstored => .inl ?_
    simp only [TickState.withPipeline, Std.TreeMap.getElem?_insert,
      Std.LawfulEqOrd.compare_eq_iff_eq]
    split
    · rename_i heq
      obtain rfl : old = session := Option.some.inj (hold.symm.trans (heq ▸ hstored))
      exact ⟨_, rfl, rfl⟩
    · exact ⟨session, hstored, rfl⟩
  | progress id old new hold hsame _ =>
    refine h.keep he fun session hstored => .inl ?_
    simp only [TickState.withPipeline, Std.TreeMap.getElem?_insert,
      Std.LawfulEqOrd.compare_eq_iff_eq]
    split
    · rename_i heq
      obtain rfl : old = session := Option.some.inj (hold.symm.trans (heq ▸ hstored))
      exact ⟨_, rfl, hsame.jointNames⟩
    · exact ⟨session, hstored, rfl⟩
  | _ => exact h.keep_eq he rfl

theorem Elems.guarded (hop : op.isTick = false) {s s' : TickState β} {command : JointCommand}
    (hsteps : Elems B op s s') (h : Guarded s.pipeline command) : Guarded s'.pipeline command :=
  hsteps.invariant (I := fun t => Guarded t.pipeline command)
    (fun _ _ hstep ht => hstep.guarded hop ht) h

/-! ## One turn -/

namespace Tick

variable {ctx : TickContext} {s s' : TickState β} {id k : String} {session : Session}
  {selected : JointFeedback}

/-! A turn leaves the other sessions as they are. -/

theorem Stopped.others (hs : Stopped B lib ctx id session selected s s') (hk : k ≠ id) :
    s'.pipeline.sessions[k]? = s.pipeline.sessions[k]? := by
  obtain ⟨s₁, s₂, hold, limit, retry, status, hm, -, -, -, hm', -⟩ := hs
  simp only [TickState.withPipeline, CommandPipeline.terminate_sessions, if_neg hk]
  rw [noteRetry_sessions, hm'.sessions, issueHold_sessions, hm.sessions]

theorem Ended.others (he : Ended B lib ctx id session selected s s') (hk : k ≠ id) :
    s'.pipeline.sessions[k]? = s.pipeline.sessions[k]? := by
  cases he with
  | dropped s₁ status hm =>
    simp only [TickState.withPipeline, CommandPipeline.terminate_sessions, if_neg hk]
    rw [hm.sessions]
  | stopped s' hs => exact hs.others hk

theorem Running.others {session' : Session} {group : JointGroupModel}
    (hrun : Running B ctx id session group selected s session' s') (hk : k ≠ id) :
    s'.pipeline.sessions[k]? = s.pipeline.sessions[k]? := by
  cases hrun with
  | kept => rfl
  | launched s₁ s' _ _ _ hmoved hgoal =>
    rw [hgoal.sessions]
    simp only [markStarted, TickState.pushEvent, TickState.withPipeline,
      Std.TreeMap.getElem?_insert, Std.LawfulEqOrd.compare_eq_iff_eq, if_neg (Ne.symm hk),
      hmoved.sessions, withBackend_sessions]

theorem emitted_others {group : JointGroupModel} {limit : SteadyTime} {command : JointCommand}
    (hk : k ≠ id) : (emitted lib s id session group limit command).pipeline.sessions[k]? =
      s.pipeline.sessions[k]? := by
  rw [emitted_pipeline]
  simp only [recordFinal, TickState.withPipeline, TickState.issue, Std.TreeMap.getElem?_insert,
    Std.LawfulEqOrd.compare_eq_iff_eq, if_neg (Ne.symm hk)]

theorem Concluded.others (hc : Concluded B lib ctx id session selected s s') (hk : k ≠ id) :
    s'.pipeline.sessions[k]? = s.pipeline.sessions[k]? := by
  cases hc with
  | goesOn s' hw => rw [hw.sessions]
  | failed s₁ s' hw _ hstop => exact (hstop.others hk).trans (congrArg (·[k]?) hw.sessions)
  | succeeded s₁ hw _ =>
    simp only [TickState.withPipeline, CommandPipeline.terminate_sessions, if_neg hk, hw.sessions]

theorem Turn.others (ht : Turn B lib ctx id s s') (hk : k ≠ id) :
    s'.pipeline.sessions[k]? = s.pipeline.sessions[k]? := by
  cases ht with
  | missing => rfl
  | waits _ s' _ _ _ hmoved => rw [hmoved.sessions]
  | refused _ _ s' _ hended => exact hended.others hk
  | startEnds _ _ _ s₁ s' _ hmoved _ _ _ hended =>
    exact (hended.others hk).trans (congrArg (·[k]?) hmoved.sessions)
  | runEnds _ _ _ _ s₁ s₂ s' _ hmoved _ hrun hended =>
    rw [hended.others hk, hrun.others hk, hmoved.sessions]
  | emits _ _ _ _ s₁ s₂ s₃ s' _ _ _ hmoved _ hrun hmoved' _ _ hconcluded =>
    rw [hconcluded.others hk, emitted_others hk, hmoved'.sessions, hrun.others hk, hmoved.sessions]

/-! The turn of the session itself. -/

/-- A controlled stop that gets its hold revokes what the session issued before. -/
theorem Stopped.revoked {s₀ : TickState β} {session session' : Session} {command : JointCommand}
    (hbegun : Begun B id session.jointNames s₀ s) (h : Stored s₀ id session)
    (hsame : session.SameClient session') (hjoints : session.jointNames = command.jointNames)
    (htoken : command.publicationToken < s₀.pipeline.nextPublicationToken)
    (he : Evolves s₀.pipeline s'.pipeline)
    (hready : HoldReady B lib s₀.pipeline s₀.pipeline.currentPeriodSec ctx.feedback session)
    (hs : Stopped B lib ctx id session' selected s s') : Revoked s'.pipeline command := by
  obtain ⟨s₁, s₂, hold, limit, retry, status, hm, hselected, hhold, hlimit, hm', -⟩ := hs
  rw [← hbegun.fixed.period] at hready
  obtain ⟨hold, rfl⟩ := hhold.granted
    ((hready.transfer hbegun.fixed.groups hbegun.calls hsame) selected hselected)
    (selectFeedback_again hselected)
  have hid : session'.sessionId = id := hsame.sessionId.trans h.ok.key
  -- the hold drives the joints of the session, so its permits replace the old ones
  have hsource : Source B lib ctx id s₀ (hold.stamp id limit 0) :=
    .hold session session' selected hold limit 0 h hsame (hhold.fixed hbegun.calls hbegun.fixed)
      (deadlineOf_fixed hbegun.fixed session' ▸ hlimit) rfl
  obtain ⟨stored, hstored, hnames, -⟩ := hsource.session
  obtain rfl : session = stored := Option.some.inj (h.found.symm.trans hstored.found)
  refine .of_joints htoken he fun joint hj x hx _ => ?_
  have hnew : (issueHold s₁ session' limit (some hold)).pipeline.publicationPermits[joint]? =
      some (session'.sessionId, s₁.pipeline.nextPublicationToken) := by
    rw [← hjoints, ← hnames] at hj
    exact (issue_permits s₁ session'.sessionId limit hold joint).trans (if_pos hj)
  have hkept : x = (session'.sessionId, s₁.pipeline.nextPublicationToken) := by
    have hterminated : (noteRetry s₂ session'.endpointName retry).pipeline.publicationPermits[joint]? =
        some x := (terminate_kept_permits _ .aborted status joint).symm.trans hx
    rw [(noteRetry_sameOutputs _ _ _).permits, hm'.sameOutputs.permits, hnew] at hterminated
    exact (Option.some.inj hterminated).symm
  rw [hkept, hm.sameOutputs.token]
  exact hbegun.token

theorem Ended.revoked {s₀ : TickState β} {session session' : Session} {command : JointCommand}
    (hbegun : Begun B id session.jointNames s₀ s) (h : Stored s₀ id session)
    (hsame : session.SameClient session') (hid : command.sessionId = id)
    (hjoints : session.jointNames = command.jointNames)
    (htoken : command.publicationToken < s₀.pipeline.nextPublicationToken)
    (he : Evolves s₀.pipeline s'.pipeline)
    (hready : HoldReady B lib s₀.pipeline s₀.pipeline.currentPeriodSec ctx.feedback session)
    (hended : Ended B lib ctx id session' selected s s') : Revoked s'.pipeline command := by
  cases hended with
  | dropped s₁ status hm =>
    subst hid
    exact (terminate_silenced _ s₁.pipeline command.sessionId .aborted status).revoked htoken he
  | stopped s' hs => exact hs.revoked hbegun h hsame hjoints htoken he hready

/-- A command that is issued replaces what the session issued before. -/
theorem emitted_revoked {s₀ : TickState β} {session' : Session} {group : JointGroupModel}
    {limit : SteadyTime} {issued command : JointCommand} (hout : SameOutputs s₀ s)
    (he : Evolves s₀.pipeline (emitted lib s id session' group limit issued).pipeline)
    (hjoints : issued.jointNames = command.jointNames)
    (htoken : command.publicationToken < s₀.pipeline.nextPublicationToken) :
    Revoked (emitted lib s id session' group limit issued).pipeline command := by
  refine .of_joints htoken he fun joint hj x hx _ => ?_
  rw [emitted_pipeline] at hx
  have hissued := (issue_permits s session'.sessionId limit issued joint).symm.trans hx
  rw [if_pos (hjoints ▸ hj)] at hissued
  rw [← Option.some.inj hissued, hout.token]

theorem Turn.guarded {command : JointCommand} (ht : Turn B lib ctx id s s')
    (h : Guarded s.pipeline command) (hready : ¬ Revoked s.pipeline command → ∀ session,
      s.pipeline.sessions[command.sessionId]? = some session →
      HoldReady B lib s.pipeline s.pipeline.currentPeriodSec ctx.feedback session) :
    Guarded s'.pipeline command := by
  have helems : Elems B (.tick ctx.feedback ctx.now) s s' := ht.elems rfl
  have he := helems.evolves
  by_cases hr : Revoked s.pipeline command
  · exact ⟨h.token.trans_le he.token, .inr (hr.evolves he)⟩
  by_cases hid : command.sessionId = id
  case neg => exact h.keep_eq he (ht.others hid)
  obtain ⟨session, hfound, hjoints⟩ := h.kept.resolve_right hr
  have hholds := hready hr session hfound
  rw [hid] at hfound
  have hself : Begun B id session.jointNames s s :=
    ⟨rfl, .refl _, ⟨rfl, rfl, rfl, rfl⟩, le_refl _, fun _ _ hx _ _ => hx⟩
  have hrefl := Session.SameClient.refl session
  have hunique : ∀ {stored : Session}, Stored s id stored → session = stored := fun hs =>
    Option.some.inj (hfound.symm.trans hs.found)
  refine ⟨h.token.trans_le he.token, ?_⟩
  cases ht with
  | missing hnone => rw [hfound] at hnone; cases hnone
  | waits stored s' hs _ _ hmoved =>
    exact .inl ⟨session, by rw [hid, hmoved.sessions]; exact hfound, hjoints⟩
  | refused stored selected s' hs hended =>
    obtain rfl := hunique hs
    exact .inr (hended.revoked hself hs hrefl hid hjoints h.token he hholds)
  | startEnds stored group selected s₁ s' hs hmoved _ _ _ hended =>
    obtain rfl := hunique hs
    have hout : SameOutputs s (s₁.withBackend (startAnswer B s₁ id session selected).2) :=
      hmoved.sameOutputs.trans ⟨rfl, rfl, rfl⟩
    have hcalls := hmoved.calls.trans
      (AnyCall.startSession _ id session.request selected s₁.pipeline.currentPeriodSec).calls
    exact .inr (hended.revoked
      (hout.begun hcalls (hmoved.fixed.trans ⟨rfl, rfl, rfl, rfl⟩)) hs hrefl hid hjoints h.token he
      hholds)
  | runEnds stored session' group selected s₁ s₂ s' hs hmoved _ hrun hended =>
    obtain rfl := hunique hs
    have hbegun : Begun B id session.jointNames s s₂ :=
      (hmoved.sameOutputs.trans hrun.sameOutputs).begun (hmoved.calls.trans hrun.calls)
        (hmoved.fixed.trans hrun.fixed)
    exact .inr (hended.revoked hbegun hs hrun.sameClient hid hjoints h.token he hholds)
  | emits stored session' group selected s₁ s₂ s₃ s' limit issued hs hmoved hmeasured hrun hmoved'
      happroved hlimit hconcluded =>
    obtain rfl := hunique hs
    have hmeasured₁ := hmeasured.fixed hmoved.fixed
    obtain ⟨h₂, -, hmeasured₂⟩ := hrun.stored (hs.moved hmoved) hmeasured₁
    have hw := happroved.wellFormed
    have hissue : Elems B (.tick ctx.feedback ctx.now) s
        (emitted lib s₃ id session' group limit issued) :=
      ((hmoved.elems.trans (hrun.elems (hs.moved hmoved) hmeasured₁)).trans hmoved'.elems).trans
        (emitted_elems rfl (h₂.moved hmoved') hmeasured₂.names hw)
    have hrest : Elems B (.tick ctx.feedback ctx.now)
        (emitted lib s₃ id session' group limit issued) s' :=
      hconcluded.elems rfl ((h₂.moved hmoved').emitted hmeasured₂.names hw)
    have hnames : issued.jointNames = command.jointNames :=
      (((wellFormed_iff issued group).1 hw).2.1.trans hmeasured.names).trans hjoints
    have hout : SameOutputs s s₃ :=
      (hmoved.sameOutputs.trans hrun.sameOutputs).trans hmoved'.sameOutputs
    exact .inr ((emitted_revoked hout hissue.evolves hnames h.token).evolves hrest.evolves)

/-! ## One tick -/

theorem terminate_fixed (p : CommandPipeline β) (id : String) (state : SessionState)
    (status : MotionStatus) (preserve : Bool) :
    Fixed p (p.terminate B id state status preserve) := ⟨by simp, by simp, by simp, by simp⟩

theorem Ended.fixed (he : Ended B lib ctx id session selected s s') :
    Fixed s.pipeline s'.pipeline := by
  cases he with
  | dropped s₁ status hm => exact hm.fixed.trans (terminate_fixed _ _ _ _ _)
  | stopped s' hs =>
    obtain ⟨s₁, s₂, hold, limit, retry, status, hm, -, -, -, hm', -⟩ := hs
    have hissue : Fixed s₁.pipeline (issueHold s₁ session limit hold).pipeline := by
      cases hold <;> exact ⟨rfl, rfl, rfl, rfl⟩
    have hnote : Fixed s₂.pipeline (noteRetry s₂ session.endpointName retry).pipeline := by
      cases retry <;> exact ⟨rfl, rfl, rfl, rfl⟩
    exact (((hm.fixed.trans hissue).trans hm'.fixed).trans hnote).trans (terminate_fixed _ _ _ _ _)

theorem Concluded.fixed (hc : Concluded B lib ctx id session selected s s') :
    Fixed s.pipeline s'.pipeline := by
  cases hc with
  | goesOn s' hw => exact hw.fixed
  | failed s₁ s' hw _ hstop => exact hw.fixed.trans (Ended.stopped s' hstop).fixed
  | succeeded s₁ hw _ => exact hw.fixed.trans (terminate_fixed _ _ _ _ _)

theorem Turn.fixed (ht : Turn B lib ctx id s s') : Fixed s.pipeline s'.pipeline := by
  cases ht with
  | missing => exact ⟨rfl, rfl, rfl, rfl⟩
  | waits _ s' _ _ _ hmoved => exact hmoved.fixed
  | refused _ _ s' _ hended => exact hended.fixed
  | startEnds _ _ _ s₁ s' _ hmoved _ _ _ hended =>
    exact hmoved.fixed.trans ⟨hended.fixed.groups, hended.fixed.endpoints, hended.fixed.config,
      hended.fixed.period⟩
  | runEnds _ _ _ _ s₁ s₂ s' _ hmoved _ hrun hended =>
    exact (hmoved.fixed.trans hrun.fixed).trans hended.fixed
  | emits _ session' group _ s₁ s₂ s₃ s' limit issued _ hmoved _ hrun hmoved' _ _ hconcluded =>
    have hemit : Fixed s₃.pipeline (emitted lib s₃ id session' group limit issued).pipeline := by
      rw [emitted_pipeline]
      exact ⟨rfl, rfl, rfl, rfl⟩
    exact (((hmoved.fixed.trans hrun.fixed).trans hmoved'.fixed).trans hemit).trans hconcluded.fixed

/-- What each round of a loop leaves alone, the loop leaves alone. -/
theorem foldl_frame {γ : Type} (g : CommandPipeline β → γ)
    {f : CommandPipeline β → String → CommandPipeline β} (hf : ∀ p id, g (f p id) = g p)
    (ids : List String) (p : CommandPipeline β) : g (ids.foldl f p) = g p := by
  induction ids generalizing p with
  | nil => rfl
  | cons id ids ih => exact (ih _).trans (hf p id)

theorem opened_period (gap : Bool) (winners : List String) (s : TickState β) :
    (opened B gap winners s).pipeline.currentPeriodSec = s.pipeline.currentPeriodSec := by
  have hgapped : ∀ (p : CommandPipeline β) id,
      (gapped B p id).currentPeriodSec = p.currentPeriodSec := fun p id => by
    unfold gapped
    split
    · rfl
    · split
      · exact CommandPipeline.terminate_period ..
      · rfl
  have hdeactivate : ∀ (p : CommandPipeline β) id,
      (deactivate B p id).currentPeriodSec = p.currentPeriodSec := fun p id => by
    unfold deactivate
    split <;> rfl
  refine (foldl_frame (·.currentPeriodSec) hdeactivate _ _).trans ?_
  change (afterGap B gap s.pipeline).currentPeriodSec = _
  unfold afterGap
  split
  · exact foldl_frame (·.currentPeriodSec) hgapped _ _
  · rfl

/-- A command that is not revoked holds a permit from before. -/
theorem outstanding_of_guarded {p p' : CommandPipeline β} {command : JointCommand}
    (hr : ¬ Revoked p' command) (htoken : command.publicationToken < p.nextPublicationToken)
    (he : Evolves p p') : Outstanding p command.sessionId := by
  have hnot : ¬ (command.jointNames.isEmpty = true ∨ p'.holdsPermits command = false) :=
    fun hlost => hr ⟨htoken.trans_le he.token, hlost⟩
  simp only [not_or, Bool.not_eq_true, Bool.not_eq_false] at hnot
  obtain ⟨joint, hj⟩ := List.isEmpty_eq_false_iff_exists_mem.1 hnot.1
  have hpermit := (holdsPermits_iff p' command).1 hnot.2 joint hj
  rcases he.permit joint _ hpermit with hold | hnew
  · exact ⟨joint, _, hold, rfl⟩
  · exact absurd hnew (not_le.2 htoken)

theorem turns_guarded {s : CommandPipeline β} {ids : List String} {t t' : TickState β} {period : Rat}
    {command : JointCommand} (hturns : Turns B lib ctx ids t t')
    (hfrom : Elems B (.tick ctx.feedback ctx.now) { pipeline := s } t)
    (hperiod : t.pipeline.currentPeriodSec = period)
    (htoken : command.publicationToken < s.nextPublicationToken)
    (hready : ∀ (id : String) session, s.sessions[id]? = some session → Outstanding s id →
      HoldReady B lib s period ctx.feedback session)
    (h : Guarded t.pipeline command) : Guarded t'.pipeline command := by
  refine (hturns.invariant (I := fun t => Elems B (.tick ctx.feedback ctx.now) { pipeline := s } t ∧
    t.pipeline.currentPeriodSec = period ∧ Guarded t.pipeline command) ?_
    ⟨hfrom, hperiod, h⟩).2.2
  rintro id a b hturn ⟨ha, hperiod, hguarded⟩
  refine ⟨ha.trans (hturn.elems rfl), hturn.fixed.period.trans hperiod,
    hturn.guarded hguarded fun hr session hfound => ?_⟩
  obtain ⟨old, hold, hsame⟩ := ha.descends rfl command.sessionId session hfound
  rw [hperiod]
  exact (hready _ old hold (outstanding_of_guarded hr htoken ha.evolves)).transfer ha.groups
    ha.calls hsame

/-- The commands gathered so far drive the joints of their sessions. -/
theorem turns_ownJoints {s : CommandPipeline β} {ids : List String} {t t' : TickState β}
    (hturns : Turns B lib ctx ids t t')
    (hfrom : Elems B (.tick ctx.feedback ctx.now) { pipeline := s } t) (hsound : Sound s)
    (hnone : t.commands = []) : ∀ c ∈ t'.commands, ∃ session,
      s.sessions[c.sessionId]? = some session ∧ c.jointNames = session.jointNames := by
  refine (hturns.invariant (I := fun t => Elems B (.tick ctx.feedback ctx.now) { pipeline := s } t ∧
    ∀ c ∈ t.commands, ∃ session, s.sessions[c.sessionId]? = some session ∧
      c.jointNames = session.jointNames) ?_ ⟨hfrom, by simp [hnone]⟩).2
  rintro id a b hturn ⟨ha, hall⟩
  refine ⟨ha.trans (hturn.elems rfl), ?_⟩
  cases hfound : a.pipeline.sessions[id]? with
  | none => rwa [hturn.eq_of_none hfound]
  | some session =>
    have hstored : Stored a id session :=
      ⟨hfound, (ha.sound hsound).sessionOk id session hfound⟩
    rcases (hturn.effect hstored).commands with hcommands | ⟨c, hcommands, hsource, -⟩
    · rwa [hcommands]
    · rw [hcommands]
      intro c' hc'
      rcases List.mem_append.1 hc' with hc' | hc'
      · exact hall c' hc'
      · obtain rfl := List.mem_singleton.1 hc'
        obtain ⟨stored, hs, hjoints, -⟩ := hsource.session
        obtain ⟨old, hold, hsame⟩ := ha.descends rfl id stored hs.found
        exact ⟨old, hsource.sessionId ▸ hold, hjoints.trans hsame.jointNames⟩

end Tick

theorem tick_guarded {s : CommandPipeline β} (hs : Sound s) {feedback : JointFeedback}
    {now : SteadyTime} {command : JointCommand} (h : Guarded s command)
    (hholds : HoldsGranted B lib s (.tick feedback now)) :
    Guarded (exec B lib s (.tick feedback now)).2 command := by
  obtain ⟨s₂, hrun, htick⟩ := tick_run B lib s feedback now hs
  have hopening : Elems B (.tick feedback now) { pipeline := s } (s.tickOpening B now) :=
    tickOpening_elems s now
  have hopened := hopening.trans (opened_elems (s.schedulingGap now)
    (s.tickArbitration B now).winnerSessionIds _ (hopening.sound hs))
  -- no call but a tick keeps the permits of a session it ends, and neither does this part of one
  have hquiet : Elems B (.cancel "") { pipeline := s } (opened B (s.schedulingGap now)
      (s.tickArbitration B now).winnerSessionIds (s.tickOpening B now)) :=
    (tickOpening_elems s now).trans (opened_elems _ _ _ (hopening.sound hs))
  have hperiod : (opened B (s.schedulingGap now) (s.tickArbitration B now).winnerSessionIds
      (s.tickOpening B now)).pipeline.currentPeriodSec = s.tickPeriod now := by
    rw [opened_period]
    exact foldl_frame (·.currentPeriodSec) (fun p id => CommandPipeline.terminate_period ..) _ _
  have hturns : Guarded s₂.pipeline command :=
    turns_guarded hrun.turns hopened hperiod h.token hholds (hquiet.guarded rfl h)
  have hclosed : Elems B (.cancel "") s₂ (closed B (s.tickContext B feedback now) s₂) :=
    closed_elems s₂
  simp only [exec, htick]
  exact hclosed.guarded rfl hturns

theorem exec_guarded {s : CommandPipeline β} (hs : Sound s) {command : JointCommand}
    (h : Guarded s command) (hholds : HoldsGranted B lib s op) :
    Guarded (exec B lib s op).2 command := by
  cases hop : op.isTick with
  | false =>
    obtain ⟨t, helems, hpipeline, -, -⟩ := exec_elems B lib s hs op
    rw [hpipeline]
    exact helems.guarded hop h
  | true =>
    obtain ⟨feedback, now, rfl⟩ : ∃ feedback now, op = .tick feedback now := by
      cases op <;> first | exact ⟨_, _, rfl⟩ | cases hop
    exact tick_guarded hs h hholds

/-- A command whose session outlives the tick that returned it is guarded from then on. -/
theorem returned_guarded {s : CommandPipeline β} (h : Publishable s) {command : JointCommand}
    (hreturned : command ∈ (exec B lib s op).1.commands)
    (hstored : ∃ session, (exec B lib s op).2.sessions[command.sessionId]? = some session) :
    Guarded (exec B lib s op).2 command := by
  refine ⟨(returned_issued B lib h.sound h.issued op hreturned).2.1, .inl ?_⟩
  obtain ⟨session, hsession⟩ := hstored
  refine ⟨session, hsession, ?_⟩
  cases op with
  | tick feedback now =>
    obtain ⟨s₂, hrun, htick⟩ := tick_run B lib s feedback now h.sound
    have hopening : Elems B (.tick feedback now) { pipeline := s } (s.tickOpening B now) :=
      tickOpening_elems s now
    have hopened := hopening.trans (opened_elems (s.schedulingGap now)
      (s.tickArbitration B now).winnerSessionIds _ (hopening.sound h.sound))
    have hclosed : Elems B (.tick feedback now) s₂ (closed B (s.tickContext B feedback now) s₂) :=
      closed_elems s₂
    have hwhole := (hopened.trans (hrun.turns.elems rfl)).trans hclosed
    simp only [exec, htick, Reply.commands] at hreturned hsession
    obtain ⟨old, hold, hjoints⟩ := turns_ownJoints hrun.turns hopened h.sound rfl command
      (List.mem_filter.1 hreturned).1
    obtain ⟨old', hold', hsame⟩ := hwhole.descends rfl command.sessionId session hsession
    obtain rfl : old = old' := Option.some.inj (hold.symm.trans hold')
    exact hsame.jointNames.trans hjoints.symm
  | _ => simp [exec, Reply.commands] at hreturned

/-- In every run whose SDK has a hold for every session a tick finds with a permit: once a session
has ended, no command that an earlier tick returned for it is accepted any more. -/
theorem ended_session_refused {s₀ : CommandPipeline β} (hinit : Initial s₀) {ops : List Op}
    (hholds : (machine B lib).Meets (HoldsGranted B lib) s₀ ops) {j k : Nat}
    {gj gk : PipelineStage β} (hjk : j < k) (hj : ((machine B lib).trace s₀ ops)[j]? = some gj)
    (hk : ((machine B lib).trace s₀ ops)[k]? = some gk) {command : JointCommand}
    (hreturned : command ∈ gj.output.commands)
    (hstored : ∃ session, gj.after.sessions[command.sessionId]? = some session)
    (hended : gk.after.sessions[command.sessionId]? = none) :
    (∀ now, (gk.after.validatePublicationLocked B command now).1 = false) ∧
      ∀ (l : Nat) (gl : PipelineStage β), k < l → ((machine B lib).trace s₀ ops)[l]? = some gl →
        ∀ now, (gl.before.validatePublicationLocked B command now).1 = false := by
  have hstepj : exec B lib gj.before gj.input = (gj.output, gj.after) :=
    Machine.trace_step (List.mem_of_getElem? hj)
  have hstepk : exec B lib gk.before gk.input = (gk.output, gk.after) :=
    Machine.trace_step (List.mem_of_getElem? hk)
  have hguardedj : Guarded gj.after command := by
    have := returned_guarded (hinit.trace_publishable (List.mem_of_getElem? hj))
      (by rw [hstepj]; exact hreturned) (by rw [hstepj]; exact hstored)
    rwa [hstepj] at this
  have hbefore : Publishable gk.before ∧ Guarded gk.before command :=
    Machine.trace_later_invariant (M := machine B lib)
      (I := fun s => Publishable s ∧ Guarded s command)
      (fun s op hs hop => ⟨hs.1.exec B lib op, exec_guarded hs.1.sound hs.2 hop⟩) hholds hjk hj hk
      ⟨hinit.trace_publishable_after (List.mem_of_getElem? hj), hguardedj⟩
  have hafter : Guarded gk.after command := by
    have := exec_guarded hbefore.1.sound hbefore.2 (hholds gk (List.mem_of_getElem? hk))
    rwa [hstepk] at this
  have hrevoked : Revoked gk.after command := by
    refine hafter.kept.resolve_left ?_
    rintro ⟨session, hsession, -⟩
    rw [hended] at hsession
    cases hsession
  exact ⟨hrevoked.refused, fun l gl hkl hl => (hinit.revoked_later hkl hk hl hrevoked).refused⟩

/-! ## The test double and a timeout -/

namespace FakeSdk

/-- The session may stand still where the feedback finds it. -/
def standsWithin (lib : MathLib) (p : CommandPipeline FakeSdk) (feedback : JointFeedback)
    (session : Session) : Bool :=
  match p.groups[session.groupName]?, selectFeedback feedback session.jointNames with
  | some group, .ok measured => plainlyOk lib
      { CommandPipeline.holdRequest session measured with passedFinalSdkRtc := true } group
  | _, _ => false

theorem Obliging.holdsGranted {s : CommandPipeline FakeSdk} (h : Obliging s.backend)
    {feedback : JointFeedback} {now : SteadyTime}
    (hstand : ∀ x ∈ s.sessions.toList, standsWithin lib s feedback x.2 = true) :
    HoldsGranted platform.toPlatform lib s (.tick feedback now) := by
  intro id session hsession _ measured hmeasured e he
  have hwithin := hstand (id, session) (by simpa using hsession)
  have hobliging := h.calls he
  unfold standsWithin at hwithin
  rw [hmeasured] at hwithin
  split at hwithin
  · rename_i group measured' hgroup heq
    obtain rfl : measured = measured' := Except.ok.inj heq
    obtain ⟨status, hstatus⟩ := validateFinalCommand_total lib
      { CommandPipeline.holdRequest session measured with passedFinalSdkRtc := true } group none
      (by simp)
    rw [plainlyOk_eq hstatus] at hwithin
    have hshaped := hobliging.shaped session.groupName (CommandPipeline.holdRequest session measured)
    unfold GrantsHold
    simp only [platform, hshaped]
    exact ⟨hobliging.reset, rfl, trivial, group, status, hgroup, hstatus, hwithin⟩
  · cases hwithin

end FakeSdk

namespace Fixture

/-- A pipeline that gives a Move two milliseconds. -/
def briefStart : CommandPipeline FakeSdk :=
  CommandPipeline.create {} allGroups { goalMonitor := { moveTimeout := milliseconds 2 } }

/-- A Move issues a command and times out in the next tick, which finds a joint of it at `l1`. -/
def timedOut (l1 : Rat) : List Op :=
  [endpoint "mv" .moveJ "left" 10, moveJ "mv" "m" "left" leftJoints 0, tick 1,
    .tick ⟨leftJoints, [.fin l1, 0], [0, 0], milliseconds 3⟩ (milliseconds 3)]

def timedOutStage (l1 : Rat) (n : Nat) : PipelineStage FakeSdk :=
  (fake.trace briefStart (timedOut l1)).getD n ⟨briefStart, .cancel "", .done, briefStart⟩

theorem timedOutStage_eq (l1 : Rat) {n : Nat} (h : n < 4) :
    (fake.trace briefStart (timedOut l1))[n]? = some (timedOutStage l1 n) := by
  have hlength : (fake.trace briefStart (timedOut l1)).length = 4 := by
    rw [Machine.length_trace]; rfl
  simp [timedOutStage, hlength, h]

/-- Inside its limits the joint can be held. -/
theorem timedOut_holdsGranted :
    fake.Meets (HoldsGranted FakeSdk.platform.toPlatform mathLib) briefStart (timedOut (19 / 10)) := by
  intro g hg
  obtain ⟨n, hn⟩ := List.mem_iff_getElem?.1 hg
  have hlt : n < 4 := by
    have hlength := (List.getElem?_eq_some_iff.1 hn).1
    rwa [Machine.length_trace] at hlength
  obtain rfl : g = timedOutStage (19 / 10) n :=
    Option.some.inj (hn.symm.trans (timedOutStage_eq _ hlt))
  have hcases : n = 0 ∨ n = 1 ∨ n = 2 ∨ n = 3 := by omega
  rcases hcases with rfl | rfl | rfl | rfl
  · trivial
  · trivial
  · exact FakeSdk.Obliging.holdsGranted (by constructor <;> decide +kernel) (by decide +kernel)
  · exact FakeSdk.Obliging.holdsGranted (by constructor <;> decide +kernel) (by decide +kernel)

end Fixture

open Fixture in
theorem ended_session_refused_held :
    ((timedOutStage (19 / 10) 3).after.validatePublicationLocked FakeSdk.platform.toPlatform
      (command "m" "left" leftJoints 101 1) (milliseconds 4)).1 = false :=
  (ended_session_refused ⟨_, _, _, rfl⟩ timedOut_holdsGranted (by decide)
    (timedOutStage_eq (19 / 10) (n := 2) (by decide)) (timedOutStage_eq (19 / 10) (n := 3) (by decide))
    (by decide +kernel) (Option.isSome_iff_exists.1 (by decide +kernel)) (by decide +kernel)).1 _

open Fixture in
/-- The joint was pushed out of its limits, so there is no hold: the command of the tick before is
still accepted. -/
theorem timed_out_command_accepted :
    let before := (timedOutStage (201 / 100) 2).output.commands
    let ended := timedOutStage (201 / 100) 3
    command "m" "left" leftJoints 101 1 ∈ before ∧
      ended.before.sessions["m"]?.isSome = true ∧ ended.after.sessions["m"]? = none ∧
      ended.output.commands = [] ∧
      (ended.after.validatePublicationLocked FakeSdk.platform.toPlatform
        (command "m" "left" leftJoints 101 1) (milliseconds 4)).1 = true := by
  decide +kernel

end HumanoidMotion
