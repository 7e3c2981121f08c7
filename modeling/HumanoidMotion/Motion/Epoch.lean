import HumanoidMotion.Motion.Publication
import HumanoidMotion.Motion.TickOutput
/-
# Epochs of permission

`setOutputPermit` opens the gate for a generation and closes it again; a call
that closes it, or opens it for another generation, ends every session and
drops every permit. Submissions name the generation they were made for. So
what passes the gate was asked for while the gate stood open as it does now.

* `Op.closesEpoch` — the calls that end an epoch.
* `Submitted`, `Driven` — the submission behind a stored session, and no end of
  an epoch since.
* `Backed` — the tick that issued a permit, and the submission behind it.
* `Epoch` — every session is driven and every permit backed within this epoch.
* `epoch_isolation` — what reaches the sink, over every run.
-/

namespace HumanoidMotion

open Tick

variable {β : Type} {B : Platform β} {lib : MathLib} {op : Op}

/-! ## What a call may add to the sessions and the permits -/

/-- A submission leaves every session as it is, except the one it names in its answer. -/
def Submits (s : CommandPipeline β) (request : SessionRequest) (time : SteadyTime)
    (generation : Nat) (result : SubmissionResult) (id : String) (session : Session) : Prop :=
  result = { status := .Ok, sessionId := id } ∧ generation = s.outputGeneration ∧
    session.request = request ∧ session.submittedAt = time

theorem MoveOutcome.origin {s p : CommandPipeline β} {endpoint : String} {request : SessionRequest}
    {now : SteadyTime} {generation : Nat} {result : SubmissionResult}
    (hout : MoveOutcome B s endpoint request now generation result p) {id : String}
    {session : Session} (hfound : p.sessions[id]? = some session) :
    s.sessions[id]? = some session ∨ Submits s request now generation result id session := by
  cases hout with
  | refused => exact .inl hfound
  | lost =>
    rw [CommandPipeline.settle_sessions] at hfound
    split at hfound
    · cases hfound
    · exact .inl hfound
  | admitted policy arbPolicy made _ arbitration hvalid hfresh harb hwon settled hsettled hresult =>
    have hnew : (settled.sessions.insertIfNew made.sessionId { made with submittedAt := now })[id]? =
        some session := hfound
    rw [Std.TreeMap.getElem?_insertIfNew] at hnew
    split at hnew
    · rename_i heq
      obtain rfl := Std.LawfulEqOrd.compare_eq_iff_eq.1 heq.1
      obtain rfl := Option.some.inj hnew
      refine .inr ⟨hresult, hvalid.generation, ?_, rfl⟩
      have := (validateRequest_ok hvalid.checked).session
      rw [this]
    · rw [hsettled, CommandPipeline.settle_sessions] at hnew
      split at hnew
      · cases hnew
      · exact .inl hnew

theorem ServoBase.origin {s base : CommandPipeline β} {policy : EndpointPolicy} {sid id : String}
    {receivedAt now : SteadyTime} {existing : Option Session} {session : Session}
    (h : ServoBase B s policy sid receivedAt now existing base)
    (hfound : base.sessions[id]? = some session) : s.sessions[id]? = some session := by
  cases h with
  | fresh => exact hfound
  | kept => exact hfound
  | renewed =>
    rw [CommandPipeline.terminate_sessions] at hfound
    split at hfound
    · cases hfound
    · exact hfound

theorem ServoOutcome.origin {s p : CommandPipeline β} {endpoint : String}
    {request : SessionRequest} {receivedAt now : SteadyTime} {generation : Nat}
    {result : SubmissionResult}
    (hout : ServoOutcome B s endpoint request receivedAt now generation result p) {id : String}
    {session : Session} (hfound : p.sessions[id]? = some session) :
    s.sessions[id]? = some session ∨
      Submits s request receivedAt generation result id session := by
  cases hout with
  | refused => exact .inl hfound
  | rejected _ _ _ _ _ _ _ _ hbase => exact .inl (hbase.origin hfound)
  | accepted policy arbPolicy made existing base settled _ hupdated hsettled hresult =>
    have hkept : settled.sessions[id]? = some session := by
      split at hfound
      · exact hfound
      · exact hfound
    rw [hsettled, CommandPipeline.settle_sessions] at hkept
    split at hkept
    · cases hkept
    by_cases hid : id = made.sessionId
    · subst hid
      obtain ⟨-, -, hstart⟩ := hupdated.start.tables
      have hbefore : (base.withArbiter (base.arbiter.displace (CommandPipeline.claimOf endpoint made)
          arbPolicy receivedAt now)).sessions[made.sessionId]? = existing := hstart
      obtain ⟨hrequest, htime⟩ := CommandPipeline.storeServo_self _ _ _ _ _ hbefore hkept
      refine .inr ⟨hresult, hupdated.valid.generation, hrequest.trans ?_, htime⟩
      have := (validateRequest_ok hupdated.valid.checked).session
      rw [this]
    · rw [CommandPipeline.storeServo_other _ _ _ _ _ hid] at hkept
      exact .inl (hupdated.start.origin hkept)

/-- Outside `tick` no permit is issued. -/
theorem Elem.unissued (hop : op.isTick = false) {s s' : TickState β} (h : Elem B op s s') :
    s'.pipeline.nextPublicationToken = s.pipeline.nextPublicationToken ∧
      ∀ (joint : String) x, s'.pipeline.publicationPermits[joint]? = some x →
        s.pipeline.publicationPermits[joint]? = some x := by
  cases h with
  | silent p hs =>
    refine ⟨hs.token, fun joint x hx => ?_⟩
    exact (congrArg (fun m : StringMap _ => m[joint]?) hs.permits).symm.trans hx
  | terminate id state status preserve _ _ =>
    refine ⟨by simp [TickState.withPipeline], fun joint x hx => ?_⟩
    simp only [TickState.withPipeline, CommandPipeline.terminate_permits] at hx
    exact (Option.filter_eq_some_iff.1 hx).1
  | revoke permits hp => exact ⟨rfl, hp⟩
  | issue id session limit command htick _ => rw [hop] at htick; cases htick
  | _ => exact ⟨rfl, fun _ _ hx => hx⟩

theorem Elems.unissued (hop : op.isTick = false) {s s' : TickState β} (h : Elems B op s s') :
    s'.pipeline.nextPublicationToken = s.pipeline.nextPublicationToken ∧
      ∀ (joint : String) x, s'.pipeline.publicationPermits[joint]? = some x →
        s.pipeline.publicationPermits[joint]? = some x := by
  refine h.invariant (I := fun t => t.pipeline.nextPublicationToken =
    s.pipeline.nextPublicationToken ∧ ∀ (joint : String) x,
      t.pipeline.publicationPermits[joint]? = some x →
        s.pipeline.publicationPermits[joint]? = some x) ?_ ⟨rfl, fun _ _ hx => hx⟩
  rintro t t' hstep ⟨htoken, hpermits⟩
  obtain ⟨htoken', hpermits'⟩ := hstep.unissued hop
  exact ⟨htoken'.trans htoken, fun joint x hx => hpermits joint x (hpermits' joint x hx)⟩

/-- Every permit is an old one, or one of a session that was stored before the call. -/
def PermitsOfStored (s p : CommandPipeline β) : Prop :=
  ∀ (joint : String) x, p.publicationPermits[joint]? = some x →
    s.publicationPermits[joint]? = some x ∨
      ∃ session, s.sessions[x.1]? = some session ∧ s.nextPublicationToken ≤ x.2

theorem Elem.permitsOfStored {s : CommandPipeline β} {t t' : TickState β} (h : Elem B op t t')
    (hdescends : Descends s t.pipeline) (htoken : s.nextPublicationToken ≤ t.pipeline.nextPublicationToken)
    (ht : PermitsOfStored s t.pipeline) : PermitsOfStored s t'.pipeline := by
  intro joint x hx
  cases h with
  | issue id session limit command _ hfound =>
    rw [issue_permits] at hx
    split at hx
    · obtain rfl := Option.some.inj hx
      obtain ⟨old, hold, -⟩ := hdescends id session hfound
      exact .inr ⟨old, hold, htoken⟩
    · exact ht joint x hx
  | silent p hs => exact ht joint x (hs.permits ▸ hx)
  | terminate id state status preserve _ _ =>
    simp only [TickState.withPipeline, CommandPipeline.terminate_permits] at hx
    exact ht joint x (Option.filter_eq_some_iff.1 hx).1
  | revoke permits hp => exact ht joint x (hp joint x hx)
  | _ => exact ht joint x hx

theorem Elems.permitsOfStored (hop : op.arbitratedAt = none) {s t : TickState β}
    (h : Elems B op s t) : PermitsOfStored s.pipeline t.pipeline := by
  refine (h.invariant (I := fun t => (Descends s.pipeline t.pipeline ∧
    s.pipeline.nextPublicationToken ≤ t.pipeline.nextPublicationToken) ∧
      PermitsOfStored s.pipeline t.pipeline) ?_ ⟨⟨.of_eq rfl, le_refl _⟩, fun _ _ => .inl⟩).2
  rintro t t' hstep ⟨⟨hdescends, htoken⟩, hpermits⟩
  exact ⟨⟨hdescends.trans (hstep.descends hop), htoken.trans hstep.evolves.token⟩,
    hstep.permitsOfStored hdescends htoken hpermits⟩

/-! ## Epochs -/

/-- The call ends the epoch of the generation: it disables output, or enables it for another
generation. -/
def Op.closesEpoch (generation : Nat) : Op → Bool
  | setOutputPermit enabled generation' => !enabled || generation' != generation
  | _ => false

/-- The stage ends the epoch it starts in. -/
def ClosesEpoch (g : PipelineStage β) : Prop :=
  g.input.closesEpoch g.before.outputGeneration = true

/-- The stage is a successful submission of the request for the session; `time` is the time the
session carries. -/
inductive Submitted (g : PipelineStage β) (id : String) (request : SessionRequest)
    (time : SteadyTime) (generation : Nat) : Prop
  | submitMove (endpoint : String) (h : g.input = .submitMove endpoint request time generation)
      (hreply : g.output = .submission { status := .Ok, sessionId := id }) :
      Submitted g id request time generation
  | updateServo (endpoint : String) (now : SteadyTime)
      (h : g.input = .updateServo endpoint request time now generation)
      (hreply : g.output = .submission { status := .Ok, sessionId := id }) :
      Submitted g id request time generation

/-- The request of the session was submitted at stage `i`, for the generation, and the epoch has
not ended since. -/
structure Driven (past : List (PipelineStage β)) (id : String) (session : Session)
    (generation : Nat) (i : Nat) : Prop where
  submitted : ∃ g, past[i]? = some g ∧
    Submitted g id session.request session.submittedAt generation
  since : ∀ (l : Nat) g, i < l → past[l]? = some g → ¬ ClosesEpoch g

/-- The permit was issued by the tick at stage `j` to a session that was driven from stage `i` on. -/
structure Backed (past : List (PipelineStage β)) (permit : String × Nat) (generation : Nat)
    (i j : Nat) : Prop where
  earlier : i < j
  issued : ∃ g session, past[j]? = some g ∧ g.input.isTick = true ∧
    g.before.nextPublicationToken ≤ permit.2 ∧ permit.2 < g.after.nextPublicationToken ∧
    g.before.sessions[permit.1]? = some session ∧ Driven past permit.1 session generation i

/-- Where a run stands: every session is driven and every permit backed within this epoch. -/
structure Epoch (past : List (PipelineStage β)) (s : CommandPipeline β) : Prop where
  publishable : Publishable s
  gated : Gated s
  driven : ∀ (id : String) session, s.sessions[id]? = some session →
    ∃ i, Driven past id session s.outputGeneration i
  backed : ∀ (joint : String) x, s.publicationPermits[joint]? = some x →
    s.outputEnabled = true ∧ ∃ i j, Backed past x s.outputGeneration i j

section
variable {past : List (PipelineStage β)} {g : PipelineStage β} {id : String} {session : Session}
  {generation i j : Nat}

theorem getElem?_snoc {γ : Type} {past : List γ} {g x : γ} {i : Nat} (h : past[i]? = some x) :
    (past ++ [g])[i]? = some x := by
  rw [List.getElem?_append_left (List.getElem?_eq_some_iff.1 h).1, h]

theorem Driven.snoc (h : Driven past id session generation i) (hg : ¬ ClosesEpoch g) :
    Driven (past ++ [g]) id session generation i := by
  obtain ⟨⟨stage, hstage, hsubmitted⟩, hsince⟩ := h
  refine ⟨⟨stage, getElem?_snoc hstage, hsubmitted⟩, fun l stage' hl hstage' => ?_⟩
  rcases List.getElem?_eq_some_iff.1 hstage' with ⟨hlength, hget⟩
  by_cases hlast : l < past.length
  · rw [List.getElem?_append_left hlast] at hstage'
    exact hsince l stage' hl hstage'
  · have : l = past.length := by simp at hlength; omega
    subst this
    simp only [List.getElem?_concat_length, Option.some.injEq] at hstage'
    exact hstage' ▸ hg

theorem Driven.congr {session' : Session} (h : Driven past id session generation i)
    (hsame : session.SameClient session') : Driven past id session' generation i := by
  refine ⟨?_, h.since⟩
  rw [hsame.request, hsame.submittedAt]
  exact h.submitted

/-- A submission drives its session from its own stage on. -/
theorem Driven.first (hg : Submitted g id session.request session.submittedAt generation) :
    Driven (past ++ [g]) id session generation past.length := by
  refine ⟨⟨g, by simp, hg⟩, fun l stage hl hstage => ?_⟩
  have := (List.getElem?_eq_some_iff.1 hstage).1
  simp only [List.length_append, List.length_singleton] at this
  omega

theorem Backed.snoc {permit : String × Nat} (h : Backed past permit generation i j)
    (hg : ¬ ClosesEpoch g) : Backed (past ++ [g]) permit generation i j := by
  obtain ⟨hij, stage, stored, hstage, htick, hlow, hhigh, hstored, hdriven⟩ := h
  exact ⟨hij, stage, stored, getElem?_snoc hstage, htick, hlow, hhigh, hstored, hdriven.snoc hg⟩

/-- The submission comes before the end of the past. -/
theorem Driven.lt (h : Driven past id session generation i) : i < past.length := by
  obtain ⟨⟨stage, hstage, -⟩, -⟩ := h
  exact (List.getElem?_eq_some_iff.1 hstage).1

end

/-! ## One call -/

section
variable {s : CommandPipeline β} {past : List (PipelineStage β)}

/-- The call as the last stage of the past. -/
def stageOf (B : Platform β) (lib : MathLib) (s : CommandPipeline β) (op : Op) : PipelineStage β :=
  ⟨s, op, (exec B lib s op).1, (exec B lib s op).2⟩

variable (B lib) in
theorem Gated.exec (hs : Sound s) (h : Gated s) (op : Op) : Gated (exec B lib s op).2 := by
  obtain ⟨t, helems, hpipeline, -, -⟩ := exec_elems B lib s hs op
  rw [hpipeline]
  exact helems.invariant (I := fun t => Gated t.pipeline) (fun _ _ hstep ht => hstep.gated ht) h

variable (B lib) in
/-- Outside the gate a call keeps generation and permission, and issues permits to sessions that
were stored, in a tick. -/
theorem exec_kept (hs : Sound s) (hgate : op.isGate = false) :
    (exec B lib s op).2.gate = s.gate ∧
      ∀ (joint : String) x, (exec B lib s op).2.publicationPermits[joint]? = some x →
        s.publicationPermits[joint]? = some x ∨ (op.isTick = true ∧
          ∃ session, s.sessions[x.1]? = some session ∧ s.nextPublicationToken ≤ x.2) := by
  obtain ⟨t, helems, hpipeline, -, -⟩ := exec_elems B lib s hs op
  rw [hpipeline]
  refine ⟨helems.gate_eq hgate, fun joint x hx => ?_⟩
  cases htick : op.isTick with
  | false => exact .inl ((helems.unissued htick).2 joint x hx)
  | true =>
    have hop : op.arbitratedAt = none := by
      cases op with
      | tick feedback now => rfl
      | _ => cases htick
    rcases helems.permitsOfStored hop joint x hx with hold | hnew
    · exact .inl hold
    · exact .inr ⟨rfl, hnew⟩

/-- Every stored session is a version of one stored before, or the one just submitted. -/
theorem exec_origin (hs : Sound s) (op : Op) {id : String} {session : Session}
    (hfound : (exec B lib s op).2.sessions[id]? = some session) :
    (∃ old, s.sessions[id]? = some old ∧ old.SameClient session) ∨
      Submitted (stageOf B lib s op) id session.request session.submittedAt s.outputGeneration := by
  have hdescends : op.arbitratedAt = none →
      ∃ old, s.sessions[id]? = some old ∧ old.SameClient session := by
    intro hop
    obtain ⟨t, helems, hpipeline, -, -⟩ := exec_elems B lib s hs op
    rw [hpipeline] at hfound
    exact helems.descends hop id session hfound
  cases op with
  | submitMove endpoint request now generation =>
    rcases (submitMove_outcome B s endpoint request now generation).origin hfound with
      hold | ⟨hresult, hgeneration, hrequest, htime⟩
    · exact .inl ⟨session, hold, .refl session⟩
    · subst hrequest htime hgeneration
      exact .inr (.submitMove endpoint rfl (congrArg Reply.submission hresult))
  | updateServo endpoint request receivedAt now generation =>
    rcases (updateServo_outcome B s endpoint request receivedAt now generation).origin hfound with
      hold | ⟨hresult, hgeneration, hrequest, htime⟩
    · exact .inl ⟨session, hold, .refl session⟩
    · subst hrequest htime hgeneration
      exact .inr (.updateServo endpoint now rfl (congrArg Reply.submission hresult))
  | _ => exact .inl (hdescends rfl)

/-- Closing an epoch leaves nothing of it. -/
theorem setOutputPermit_closes {enabled : Bool} {generation : Nat}
    (hclose : Op.closesEpoch s.outputGeneration (.setOutputPermit enabled generation) = true) :
    (∀ id : String, (s.setOutputPermit B enabled generation).sessions[id]? = none) ∧
      ∀ joint : String, (s.setOutputPermit B enabled generation).publicationPermits[joint]? =
        none := by
  have hcond : (!enabled || generation ≠ s.outputGeneration) = true := by
    simpa [Op.closesEpoch, bne_iff_ne] using hclose
  unfold CommandPipeline.setOutputPermit
  rw [if_pos hcond]
  exact ⟨s.endAll_keys_sessions .canceled CommandPipeline.permissionRevokedStatus, by simp⟩

/-- Opening the gate for the generation it is open for changes nothing. -/
theorem setOutputPermit_keeps {enabled : Bool} {generation : Nat}
    (hkeep : ¬ Op.closesEpoch s.outputGeneration (.setOutputPermit enabled generation) = true) :
    s.setOutputPermit B enabled generation = { s with outputEnabled := true } := by
  obtain ⟨rfl, rfl⟩ : enabled = true ∧ generation = s.outputGeneration := by
    simpa [Op.closesEpoch] using hkeep
  unfold CommandPipeline.setOutputPermit
  simp

/-- Every call carries the epoch on. -/
theorem Epoch.step (h : Epoch past s) (op : Op) :
    Epoch (past ++ [stageOf B lib s op]) (exec B lib s op).2 := by
  have hs := h.publishable.sound
  have hpublishable := h.publishable.exec B lib op
  have hgated := h.gated.exec B lib hs op
  by_cases hclose : ClosesEpoch (stageOf B lib s op)
  · -- nothing is left to drive or to back
    obtain ⟨enabled, generation, rfl⟩ : ∃ enabled generation, op = .setOutputPermit enabled generation := by
      cases op with
      | setOutputPermit enabled generation => exact ⟨enabled, generation, rfl⟩
      | _ => cases hclose
    obtain ⟨hsessions, hpermits⟩ := setOutputPermit_closes (B := B) hclose
    refine ⟨hpublishable, hgated, fun id session hfound => ?_, fun joint x hx => ?_⟩
    · cases (hsessions id).symm.trans hfound
    · cases (hpermits joint).symm.trans hx
  -- the generation is the one it was, and what was driven or backed still is
  have hdriven : ∀ (id : String) session, s.sessions[id]? = some session →
      ∃ i, Driven (past ++ [stageOf B lib s op]) id session s.outputGeneration i :=
    fun id session hfound => (h.driven id session hfound).imp fun _ hd => hd.snoc hclose
  have hbacked : ∀ (joint : String) x, s.publicationPermits[joint]? = some x →
      s.outputEnabled = true ∧
        ∃ i j, Backed (past ++ [stageOf B lib s op]) x s.outputGeneration i j := by
    intro joint x hx
    obtain ⟨henabled, i, j, hback⟩ := h.backed joint x hx
    exact ⟨henabled, i, j, hback.snoc hclose⟩
  cases hgate : op.isGate with
  | true =>
    obtain ⟨enabled, generation, rfl⟩ : ∃ enabled generation, op = .setOutputPermit enabled generation := by
      cases op with
      | setOutputPermit enabled generation => exact ⟨enabled, generation, rfl⟩
      | _ => cases hgate
    have hafter : (exec B lib s (.setOutputPermit enabled generation)).2 =
        { s with outputEnabled := true } := setOutputPermit_keeps hclose
    rw [hafter] at hpublishable hgated ⊢
    exact ⟨hpublishable, hgated, hdriven, fun joint x hx => ⟨rfl, (hbacked joint x hx).2⟩⟩
  | false =>
    obtain ⟨hsame, hpermits⟩ := exec_kept B lib hs hgate
    obtain ⟨henabled, hgeneration⟩ := Prod.mk.inj hsame
    refine ⟨hpublishable, hgated, fun id session hfound => ?_, fun joint x hx => ?_⟩
    · rw [hgeneration]
      rcases exec_origin hs op hfound with ⟨old, hold, hclient⟩ | hnew
      · exact (hdriven id old hold).imp fun _ hd => hd.congr hclient
      · exact ⟨past.length, .first hnew⟩
    · rw [henabled, hgeneration]
      rcases hpermits joint x hx with hold | ⟨htick, session, hfound, htoken⟩
      · exact hbacked joint x hold
      · obtain ⟨i, hd⟩ := h.driven x.1 session hfound
        refine ⟨h.gated x.1 session hfound, i, past.length, hd.lt, stageOf B lib s op, session,
          by simp, htick, htoken, ?_, hfound, hd.snoc hclose⟩
        exact hpublishable.issued.permits joint x hx

end

theorem Initial.epoch {s : CommandPipeline β} (h : Initial s) : Epoch [] s := by
  refine ⟨h.publishable, h.issuing.gated, ?_, ?_⟩
  · obtain ⟨backend, groups, config, rfl⟩ := h
    simp [CommandPipeline.create]
  · obtain ⟨backend, groups, config, rfl⟩ := h
    simp [CommandPipeline.create]

/-! ## Runs -/

variable (lib) in
/-- What a call hands out held its permits when the call began. -/
theorem handed_held {s : CommandPipeline β} (h : Publishable s) (op : Op) {command : JointCommand}
    (hhanded : command ∈ (exec B lib s op).1.handedCommands) : Held s command := by
  have htick : op.isTick = false := by
    cases op with
    | tick feedback now =>
      simp only [exec] at hhanded
      split at hhanded
      · simp [Reply.handedCommands, Reply.handed] at hhanded
      · simp [Reply.handedCommands, Reply.handed] at hhanded
    | _ => rfl
  obtain ⟨hbefore, hafter⟩ := (exec_handed B lib h.issued op).2 command hhanded
  obtain ⟨t, helems, hpipeline, -, -⟩ := exec_elems B lib s h.sound op
  have htoken : command.publicationToken < s.nextPublicationToken := by
    rw [← (helems.unissued htick).1, ← hpipeline]
    exact hafter.1
  have hheld : ¬ (command.jointNames.isEmpty = true ∨ s.holdsPermits command = false) :=
    fun hlost => hbefore ⟨htoken, hlost⟩
  rw [not_or, Bool.not_eq_true, Bool.not_eq_false] at hheld
  exact hheld

/-- A command handed out at stage `k`: output was enabled, the tick at stage `j` had issued the
command to a session that ran the request submitted at stage `i` for the generation that was
enabled at stage `k`, and no epoch ended in between. -/
structure WithinEpoch (stages : List (PipelineStage β)) (k : Nat) (command : JointCommand) :
    Prop where
  passed : ∃ g, stages[k]? = some g ∧ g.before.outputEnabled = true ∧
    ∃ i j gi gj session, i < j ∧ j < k ∧ stages[i]? = some gi ∧ stages[j]? = some gj ∧
      gj.input.isTick = true ∧ gj.before.nextPublicationToken ≤ command.publicationToken ∧
      command.publicationToken < gj.after.nextPublicationToken ∧
      gj.before.sessions[command.sessionId]? = some session ∧
      Submitted gi command.sessionId session.request session.submittedAt
        g.before.outputGeneration ∧
      ∀ (l : Nat) gl, i < l → l < k → stages[l]? = some gl → ¬ ClosesEpoch gl

theorem Epoch.within {stages : List (PipelineStage β)} {k : Nat} {g : PipelineStage β}
    (h : Epoch (stages.take k) g.before) (hk : stages[k]? = some g) {command : JointCommand}
    (hheld : Held g.before command) : WithinEpoch stages k command := by
  obtain ⟨joint, hj⟩ := List.isEmpty_eq_false_iff_exists_mem.1 hheld.1
  obtain ⟨henabled, i, j, hij, gj, session, hgj, htick, hlow, hhigh, hstored, hdriven⟩ :=
    h.backed joint _ ((holdsPermits_iff g.before command).1 hheld.2 joint hj)
  obtain ⟨⟨gi, hgi, hsubmitted⟩, hsince⟩ := hdriven
  rw [List.getElem?_take] at hgi hgj
  split at hgi
  · split at hgj
    · rename_i hik hjk
      refine ⟨g, hk, henabled, i, j, gi, gj, session, hij, hjk, hgi, hgj, htick, hlow, hhigh,
        hstored, hsubmitted, fun l gl hl hlk hgl => hsince l gl hl ?_⟩
      rw [List.getElem?_take, if_pos hlk]
      exact hgl
    · cases hgj
  · cases hgi

/-- Nothing is left that could move a joint. -/
structure Idle (S : SessionPlatform β) (p : CommandPipeline β) : Prop where
  sessions : ∀ id : String, p.sessions[id]? = none
  claims : ∀ id : String, p.arbiter.claims[id]? = none
  active : ∀ id : String, id ∉ p.activeBackendSessions
  alive : ∀ id : String, ¬ S.alive p.backend id
  permits : ∀ joint : String, p.publicationPermits[joint]? = none

theorem Epoch.idle {S : SessionPlatform β} {e₀ : β} {past : List (PipelineStage β)}
    {p : CommandPipeline β} (h : Epoch past p) (htables : Tables False S e₀ p)
    (hclosed : p.outputEnabled = false) : Idle S p := by
  have hsessions : ∀ id : String, p.sessions[id]? = none := by
    intro id
    rw [Option.eq_none_iff_forall_ne_some]
    intro session hfound
    rw [h.gated id session hfound] at hclosed
    cases hclosed
  have hidle : ∀ id : String, (rowAt S p id).active = false ∧ ¬ (rowAt S p id).alive :=
    fun id => (htables.rows id).idle fun session hs => by cases (hsessions id).symm.trans hs
  refine ⟨hsessions, fun id => (htables.rows id).unclaimed (hsessions id), fun id => ?_,
    fun id => (hidle id).2, fun joint => ?_⟩
  · rw [← Std.TreeSet.contains_iff_mem, Bool.not_eq_true]
    exact (hidle id).1
  · rw [Option.eq_none_iff_forall_ne_some]
    intro permit hpermit
    rw [(h.backed joint permit hpermit).1] at hclosed
    cases hclosed

/-- In every run, over any SDK, whose calls are written down, and whatever generations the callers
name: what reaches the sink was asked for and computed in the epoch in which it is published, and
while output is disabled nothing is left that could move a joint. -/
theorem epoch_isolation (B : Platform β) (lib : MathLib) (e : β) (groups : List JointGroupModel)
    (config : CommandPipelineConfig) (ops : List Op) :
    (∀ (k : Nat) g, ((machine B.recorded lib).trace (CommandPipeline.create (e, []) groups config)
        ops)[k]? = some g → ∀ command ∈ g.output.handedCommands,
      WithinEpoch ((machine B.recorded lib).trace (CommandPipeline.create (e, []) groups config) ops)
        k command) ∧
    (((machine B.recorded lib).run (CommandPipeline.create (e, []) groups config)
        ops).outputEnabled = false →
      Idle B.logged ((machine B.recorded lib).run (CommandPipeline.create (e, []) groups config)
        ops)) := by
  have hinit : Initial (CommandPipeline.create (e, ([] : List Call)) groups config) :=
    ⟨_, _, _, rfl⟩
  have hstep : ∀ past s op, Epoch past s →
      Epoch (past ++ [stageOf B.recorded lib s op]) (exec B.recorded lib s op).2 :=
    fun past s op h => h.step op
  constructor
  · intro k g hk command hhanded
    have hepoch := Machine.trace_history (M := machine B.recorded lib) hstep hinit.epoch hk
    have hexec : exec B.recorded lib g.before g.input = (g.output, g.after) :=
      Machine.trace_step (List.mem_of_getElem? hk)
    refine hepoch.within hk (handed_held lib hepoch.publishable g.input (B := B.recorded) ?_)
    rw [hexec]
    exact hhanded
  · intro hclosed
    have hrun := Machine.history_invariant (M := machine B.recorded lib) hstep hinit.epoch ops
    exact hrun.idle (run_tables groups config (B.logged_fresh e) ops).2 hclosed

open Fixture in
/-- The published command of the run that is canceled later. -/
theorem epoch_isolation_published :
    WithinEpoch ((machine FakeSdk.platform.toPlatform.recorded mathLib).trace
      (CommandPipeline.create ({}, []) allGroups {}) canceledMove) 3
      (command "m" "left" leftJoints 101 1) := by
  have hhanded : (((machine FakeSdk.platform.toPlatform.recorded mathLib).trace
      (CommandPipeline.create ({}, []) allGroups {}) canceledMove)[3]?).map
        (fun g => g.output.handedCommands) = some [command "m" "left" leftJoints 101 1] := by
    decide +kernel
  obtain ⟨g, hk, hg⟩ := Option.map_eq_some_iff.1 hhanded
  exact (epoch_isolation FakeSdk.platform.toPlatform mathLib {} allGroups {} canceledMove).1 3 g hk _
    (by simp [hg])

end HumanoidMotion
