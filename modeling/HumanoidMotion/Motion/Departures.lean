import HumanoidMotion.Arbitration.Shadows
import HumanoidMotion.Motion.Consistency
import HumanoidMotion.Motion.Outside
/-
# The claims that a call takes away

Every call but a submission only takes claims away. A submission stores one claim, and
the Moves that it displaces are reported as preempted.

* `Turn.fewer`, `exec_fewer` — a turn, and a call.
* `Stays` — what a submission leaves of a stored Move: its claim, or an event.
* `exec_movesWin` — over shadowless claims every Move wins after the call.
* `exec_entered` — where a new claim comes from.
-/

namespace HumanoidMotion

open Tick
open ControlArbiter (Fewer fewer_live)

variable {β : Type} {B : Platform β} {lib : MathLib}

/-! ## Outside the submissions -/

theorem terminate_fewer (p : CommandPipeline β) (id : String) (state : SessionState)
    (status : MotionStatus) (preserve : Bool) :
    Fewer p.arbiter (p.terminate B id state status preserve).arbiter := by
  intro k claim hk
  rw [CommandPipeline.terminate_claims] at hk
  split at hk
  · cases hk
  · exact hk

variable (B) in
theorem outside_fewer : Outside B fun p p' => Fewer p.arbiter p'.arbiter where
  refl p := .refl p.arbiter
  trans := .trans
  beside h := .of_eq h.claims
  terminate := terminate_fewer

namespace Tick

section
variable {ctx : TickContext} {id : String} {session session' : Session} {selected : JointFeedback}
  {group : JointGroupModel} {s s' : TickState β}

theorem Moved.arbiter (h : Moved B s s') : s'.pipeline.arbiter = s.pipeline.arbiter := by
  obtain ⟨e, -, rfl⟩ := h
  rfl

theorem Watched.arbiter (h : Watched B id session s s') :
    s'.pipeline.arbiter = s.pipeline.arbiter := by
  obtain ⟨e, m, -, -, -, -, rfl⟩ := h
  rfl

theorem Stopped.fewer (h : Stopped B lib ctx id session selected s s') :
    Fewer s.pipeline.arbiter s'.pipeline.arbiter := by
  obtain ⟨s₁, s₂, hold, limit, retry, status, hm, -, -, -, hm', -⟩ := h
  have hissue : (issueHold s₁ session limit hold).pipeline.arbiter = s₁.pipeline.arbiter := by
    cases hold <;> rfl
  have hnoted : (noteRetry s₂ session.endpointName retry).pipeline.arbiter = s₂.pipeline.arbiter := by
    cases retry <;> rfl
  rw [← hm.arbiter, ← hissue, ← hm'.arbiter, ← hnoted]
  exact terminate_fewer _ id _ _ _

theorem Ended.fewer (h : Ended B lib ctx id session selected s s') :
    Fewer s.pipeline.arbiter s'.pipeline.arbiter := by
  cases h with
  | dropped s₁ status hm =>
    rw [← hm.arbiter]
    exact terminate_fewer _ id _ _ _
  | stopped _ hs => exact hs.fewer

theorem Running.arbiter (h : Running B ctx id session group selected s session' s') :
    s'.pipeline.arbiter = s.pipeline.arbiter := by
  cases h with
  | kept => rfl
  | launched s₁ _ _ _ _ hm hw => exact hw.arbiter.trans hm.arbiter

theorem Concluded.fewer (h : Concluded B lib ctx id session selected s s') :
    Fewer s.pipeline.arbiter s'.pipeline.arbiter := by
  cases h with
  | goesOn _ hw => rw [hw.arbiter]; exact .refl _
  | failed s₁ _ hw _ hs =>
    rw [← hw.arbiter]
    exact hs.fewer
  | succeeded s₁ hw _ =>
    rw [← hw.arbiter]
    exact terminate_fewer _ id _ _ _

/-- A turn takes claims away only. -/
theorem Turn.fewer (h : Turn B lib ctx id s s') : Fewer s.pipeline.arbiter s'.pipeline.arbiter := by
  cases h with
  | missing => exact .refl _
  | waits session _ _ _ _ hm => rw [hm.arbiter]; exact .refl _
  | refused session _ _ _ hended => exact hended.fewer
  | startEnds session _ _ s₁ _ _ hm _ _ _ hended =>
    rw [← hm.arbiter]
    exact hended.fewer
  | runEnds session session' _ _ s₁ s₂ _ _ hm _ hrun hended =>
    rw [← hm.arbiter, ← hrun.arbiter]
    exact hended.fewer
  | emits session session' group _ s₁ s₂ s₃ _ limit command _ hm _ hrun hm' _ _ hconcluded =>
    have hissued : (emitted lib s₃ id session' group limit command).pipeline.arbiter =
        s₃.pipeline.arbiter := by
      rw [emitted_pipeline]
      rfl
    rw [← hm.arbiter, ← hrun.arbiter, ← hm'.arbiter, ← hissued]
    exact hconcluded.fewer

end

theorem gapped_fewer (p : CommandPipeline β) (id : String) :
    Fewer p.arbiter (gapped B p id).arbiter := by
  unfold gapped
  split
  · exact .refl _
  · split
    · exact terminate_fewer p id _ _ _
    · exact .refl _

theorem deactivate_fewer (p : CommandPipeline β) (id : String) :
    Fewer p.arbiter (deactivate B p id).arbiter := by
  unfold deactivate
  split <;> exact .refl _

end Tick

theorem tickOpening_fewer (p : CommandPipeline β) (now : SteadyTime) :
    Fewer p.arbiter (p.tickOpening B now).pipeline.arbiter := by
  have hlive : Fewer p.arbiter
      ((p.startTick B now).pipeline.arbiter.evaluate (p.startTick B now).startedAt).2 :=
    fewer_live p.arbiter (p.startTick B now).startedAt
  exact hlive.trans ((outside_fewer B).expired p now)

theorem tick_fewer {p : CommandPipeline β} (hsound : Sound p) (feedback : JointFeedback)
    (now : SteadyTime) : Fewer p.arbiter (p.tick B lib feedback now).2.arbiter := by
  obtain ⟨s₂, hturned, htick⟩ := tick_turned B lib p feedback now hsound
  have hopened := (outside_fewer B).opened (p.schedulingGap now)
    (p.tickArbitration B now).winnerSessionIds (p.tickOpening B now) gapped_fewer deactivate_fewer
  have hturns := (hturned.turns (tickStarted_sound hsound feedback now _)).invariant
    (I := fun s => Fewer p.arbiter s.pipeline.arbiter) (fun _ _ _ hturn h => h.trans hturn.fewer)
    ((tickOpening_fewer p now).trans hopened)
  rw [htick]
  exact hturns.trans ((outside_fewer B).closed _ s₂)

variable (lib) in
/-- A call that is no submission takes claims away only. -/
theorem exec_fewer {p : CommandPipeline β} (hsound : Sound p) {op : Op}
    (hop : op.arbitratedAt = none) : Fewer p.arbiter (exec B lib p op).2.arbiter := by
  cases op with
  | tick feedback now =>
    have htick : Fewer p.arbiter (p.tick B lib feedback now).2.arbiter :=
      tick_fewer hsound feedback now
    obtain ⟨s₂, -, heq⟩ := tick_turned B lib p feedback now hsound
    simp only [exec, heq] at htick ⊢
    exact htick
  | submitMove | updateServo => cases hop
  | _ => exact (outside_fewer B).quietly lib p rfl rfl

/-! ## Submissions -/

theorem ClaimState.move_live {state : ClaimState} (h : isMove state.claim.kind = true)
    (now : SteadyTime) : state.expired now = false := by
  simp only [isMove, Bool.not_eq_true'] at h
  simp [ClaimState.expired, h]

/-- The event that reports the preemption of a Move. -/
def preemption (id : String) : SessionEvent :=
  { sessionId := id, state := .preempted, status := CommandPipeline.preemptedStatus }

/-- A stored Move keeps its claim, or its preemption is reported. -/
def Stays (p p' : CommandPipeline β) : Prop :=
  ∀ (k : String) state, p.arbiter.claims[k]? = some state → isMove state.claim.kind = true →
    p'.arbiter.claims[k]? = some state ∨ preemption k ∈ p'.pendingEvents

theorem ControlArbiter.displaced_or_kept {a : ControlArbiter} (claim : CommandClaim)
    (policy : EndpointPolicy) (receivedAt now : SteadyTime) {k : String} {state : ClaimState}
    (hk : a.claims[k]? = some state) (hmove : isMove state.claim.kind = true)
    (hne : k ≠ claim.sessionId) : k ∈ a.displaced claim policy receivedAt now ∨
      (a.displace claim policy receivedAt now).claims[k]? = some state := by
  by_cases hd : k ∈ a.displaced claim policy receivedAt now
  · exact .inl hd
  · refine .inr ((a.displace_kept _ _ _ _ hne ?_).trans hk)
    rintro (hin | hexpired)
    · exact hd hin
    · obtain ⟨other, hother, hover⟩ := (a.mem_expiredServos now).1 hexpired
      obtain rfl := Option.some.inj (hk.symm.trans hother)
      rw [ClaimState.move_live hmove now] at hover
      cases hover

section
variable {S : SessionPlatform β} {e₀ : β} {names : List String} {p p' : CommandPipeline β}
  {endpoint : String} {request : SessionRequest} {receivedAt now : SteadyTime} {generation : Nat}
  {result : SubmissionResult}

/-- A claim belongs to a session of its kind. -/
theorem Tables.claimant (h : Tables True S e₀ p) {k : String} {state : ClaimState}
    (hk : p.arbiter.claims[k]? = some state) :
    ∃ session, p.sessions[k]? = some session ∧ session.kind = state.claim.kind := by
  have hrow := h.rows k
  cases hfound : p.sessions[k]? with
  | none =>
    have hnone := hrow.unclaimed hfound
    rw [show (rowAt S p k).claim = some state from hk] at hnone
    cases hnone
  | some session =>
    obtain ⟨stored, hstored, hkind, -⟩ := hrow.claimed session hfound
    obtain rfl : state = stored := Option.some.inj (hk.symm.trans hstored)
    exact ⟨session, rfl, hkind.symm⟩

/-- What is settled as preempted is reported. -/
theorem CommandPipeline.settle_reports {q : CommandPipeline β} {preempted : List String}
    (expired : List String) {k : String} {session : Session} (hfound : q.sessions[k]? = some session)
    (hk : k ∈ preempted) : preemption k ∈ (q.settle B preempted expired).pendingEvents :=
  endAll_pending_mono _ _ _ _ (mem_endAll_pending _ _ _ hfound hk)

theorem MoveOutcome.stays (h : InOrder S e₀ names p)
    (hout : MoveOutcome S.toPlatform p endpoint request now generation result p') :
    Stays p p' := by
  intro k state hk hmove
  obtain ⟨session, hfound, -⟩ := h.tables.claimant hk
  cases hout with
  | refused => exact .inl hk
  | lost policy arbPolicy new _ arbitration hvalid hfresh harb hlost _ =>
    left
    have hnew : p.arbiter.claims[new.sessionId]? = none :=
      Std.TreeMap.getElem?_eq_none harb.fresh
    have hservo : isServo (CommandPipeline.claimOf endpoint new).kind = true →
        now - now < arbPolicy.servoLease := by
      intro hservo
      rw [show (CommandPipeline.claimOf endpoint new).kind = new.kind from rfl,
        (madeFor_of_valid h.sound hvalid.registered hvalid.checked).kind] at hservo
      cases hservo
    have hleft := ControlArbiter.release_lost h.tables.arbiter hnew hservo hlost
    rw [CommandPipeline.settle_claims_eq]
    · refine (hleft k).trans ?_
      rw [ControlArbiter.live_claims, hk, Option.filter_some, if_pos]
      simp [ClaimState.move_live hmove now]
    · intro j hj
      rw [harb.preempted, harb.expired] at hj
      change (ControlArbiter.release _ _).claims[j]? = none
      rw [ControlArbiter.release_claims]
      split
      · rfl
      · rename_i hne
        exact p.arbiter.displace_gone _ _ _ _ (hj.imp_right fun hexp => ⟨hexp, hne⟩)
  | admitted policy arbPolicy new _ arbitration hvalid hfresh harb _ settled hsettled _ =>
    have hne : k ≠ new.sessionId := by
      rintro rfl
      rw [hfound] at hfresh
      cases hfresh
    rw [hsettled]
    rcases ControlArbiter.displaced_or_kept (CommandPipeline.claimOf endpoint new) arbPolicy now now
      hk hmove hne with hd | hkept
    · exact .inr (CommandPipeline.settle_reports _ hfound (harb.preempted ▸ hd))
    · exact .inl ((CommandPipeline.settledMove_claims S.toPlatform p harb k).trans hkept)

theorem ServoBase.stays {policy : EndpointPolicy} {id : String} {existing : Option Session}
    (hbase : ServoBase S.toPlatform p policy id receivedAt now existing p') {k : String}
    (hne : k ≠ id) : p'.arbiter.claims[k]? = p.arbiter.claims[k]? ∧
      p'.sessions[k]? = p.sessions[k]? := by
  cases hbase with
  | fresh | kept => exact ⟨rfl, rfl⟩
  | renewed =>
    rw [CommandPipeline.terminate_claims, CommandPipeline.terminate_sessions, if_neg hne,
      if_neg fun hk => hne hk.1]
    exact ⟨rfl, rfl⟩

theorem ServoBase.fewer {policy : EndpointPolicy} {id : String} {existing : Option Session}
    (hbase : ServoBase S.toPlatform p policy id receivedAt now existing p') :
    Fewer p.arbiter p'.arbiter := by
  cases hbase with
  | fresh | kept => exact .refl _
  | renewed => exact terminate_fewer p id _ _ _

/-- A stored Move does not stand under the id of a servo session. -/
theorem InOrder.move_ne (h : InOrder S e₀ names p) {policy : EndpointPolicy} {session : Session}
    (hvalid : Validated p endpoint request generation true policy session) {k : String}
    {state : ClaimState} (hk : p.arbiter.claims[k]? = some state)
    (hmove : isMove state.claim.kind = true) : k ≠ session.sessionId := by
  obtain ⟨stored, hfound, hkind⟩ := h.tables.claimant hk
  rw [(madeFor_of_valid h.sound hvalid.registered hvalid.checked).derived rfl]
  refine h.ids.named.move k stored hfound ?_ endpoint
    (h.ids.named.registered endpoint policy hvalid.registered)
  simpa [isMove, hkind] using hmove

/-- What a settled servo target leaves of the claims and the queued events. -/
theorem settledServo_kept {settled : CommandPipeline β} {joints : List String} {won : Prop}
    [Decidable won] : (if won then settled.revokeOutputs joints else settled).arbiter =
      settled.arbiter ∧
    (if won then settled.revokeOutputs joints else settled).pendingEvents =
      settled.pendingEvents := by
  split <;> exact ⟨rfl, rfl⟩

theorem ServoOutcome.stays (h : InOrder S e₀ names p)
    (hout : ServoOutcome S.toPlatform p endpoint request receivedAt now generation result p') :
    Stays p p' := by
  intro k state hk hmove
  obtain ⟨session, hfound, -⟩ := h.tables.claimant hk
  cases hout with
  | refused => exact .inl hk
  | rejected _ base policy new existing hvalid _ _ hbase =>
    exact .inl ((hbase.stays (h.move_ne hvalid hk hmove)).1.trans hk)
  | accepted policy arbPolicy new existing base settled _ hupdated hsettled _ =>
    have hne := h.move_ne hupdated.valid hk hmove
    obtain ⟨hclaims, hsessions⟩ := hupdated.start.stays hne
    have hstored : ((base.withArbiter (base.arbiter.displace
        (CommandPipeline.claimOf endpoint new) arbPolicy receivedAt now)).storeServo endpoint new
          existing receivedAt).sessions[k]? = some session := by
      rw [CommandPipeline.storeServo_other _ _ _ _ _ hne]
      exact hsessions.trans hfound
    rw [settledServo_kept.1, settledServo_kept.2, hsettled]
    rcases ControlArbiter.displaced_or_kept (CommandPipeline.claimOf endpoint new) arbPolicy
      receivedAt now (hclaims.trans hk) hmove hne with hd | hkept
    · exact .inr (CommandPipeline.settle_reports _ hstored hd)
    · exact .inl ((CommandPipeline.settled_claims S.toPlatform base endpoint new existing arbPolicy
        receivedAt now k).trans hkept)

/-! ## The Moves win after every call -/

theorem MoveOutcome.movesWin (h : InOrder S e₀ names p) (h' : p'.arbiter.Ok)
    (hapart : p.arbiter.MovesApart) (hs : p.arbiter.shadowless now = true)
    (hout : MoveOutcome S.toPlatform p endpoint request now generation result p') :
    p'.arbiter.MovesWin now := by
  cases hout with
  | refused => exact hapart.movesWin h' hs
  | lost policy arbPolicy new _ arbitration hvalid hfresh harb hlost _ =>
    have hkept : Fewer p.arbiter ((p.arbiter.displace (CommandPipeline.claimOf endpoint new) arbPolicy
        now now).release new.sessionId) := by
      intro k state hk
      rw [ControlArbiter.release_claims] at hk
      split at hk
      · cases hk
      · rename_i hne
        exact fewer_live p.arbiter now k state (ControlArbiter.displace_stored hk hne)
    have hfewer := hkept.trans ((outside_fewer S.toPlatform).settle
      (p.withArbiter ((p.arbiter.displace (CommandPipeline.claimOf endpoint new) arbPolicy
        now now).release new.sessionId)) arbitration.preemptedMoveIds arbitration.expiredServoIds)
    exact (hfewer.movesApart hapart).movesWin h' (hfewer.shadowless hs)
  | admitted policy arbPolicy new _ arbitration hvalid hfresh harb hwon settled hsettled _ =>
    refine (ControlArbiter.displace_movesWin h.tables.arbiter hapart hs fun _ => hwon).congr ?_
    change ∀ k : String, settled.arbiter.claims[k]? = _
    rw [hsettled]
    exact CommandPipeline.settledMove_claims S.toPlatform p harb

theorem ServoOutcome.movesWin (h : InOrder S e₀ names p) (h' : p'.arbiter.Ok)
    (hapart : p.arbiter.MovesApart) (hs : p.arbiter.shadowless now = true)
    (hout : ServoOutcome S.toPlatform p endpoint request receivedAt now generation result p') :
    p'.arbiter.MovesWin now := by
  cases hout with
  | refused => exact hapart.movesWin h' hs
  | rejected _ base policy new existing _ _ _ hbase =>
    exact (hbase.fewer.movesApart hapart).movesWin h' (hbase.fewer.shadowless hs)
  | accepted policy arbPolicy new existing base settled _ hupdated hsettled _ =>
    have hfewer := hupdated.start.fewer
    have hservo : isMove (CommandPipeline.claimOf endpoint new).kind = true → False := by
      intro hmove
      rw [show (CommandPipeline.claimOf endpoint new).kind = new.kind from rfl, isMove,
        (madeFor_of_valid h.sound hupdated.valid.registered hupdated.valid.checked).kind] at hmove
      cases hmove
    have hbase : Tables True S e₀ base := hupdated.start.tables_ok h.tables
    have hwin : (base.arbiter.displace (CommandPipeline.claimOf endpoint new) arbPolicy receivedAt
        now).MovesWin now :=
      ControlArbiter.displace_movesWin hbase.arbiter (hfewer.movesApart hapart)
        (hfewer.shadowless hs) fun hmove => (hservo hmove).elim
    refine hwin.congr ?_
    rw [settledServo_kept.1, hsettled]
    exact CommandPipeline.settled_claims S.toPlatform base endpoint new existing arbPolicy receivedAt
      now

variable {op : Op}

variable (lib) in
/-- Every call, over shadowless claims: the stored Moves win. -/
theorem exec_movesWin (h : InOrder S e₀ names p) (hkeeps : op.Keeps names)
    (hapart : p.arbiter.MovesApart) (hs : p.arbiter.shadowless now = true)
    (hat : ∀ time, op.arbitratedAt = some time → now = time) :
    (exec S.toPlatform lib p op).2.arbiter.MovesWin now := by
  have hok := (h.exec lib hkeeps).tables.arbiter
  have hquiet : op.arbitratedAt = none → (exec S.toPlatform lib p op).2.arbiter.MovesWin now := by
    intro hop
    have hfewer := exec_fewer (B := S.toPlatform) lib h.sound hop
    exact (hfewer.movesApart hapart).movesWin hok (hfewer.shadowless hs)
  cases op with
  | submitMove endpoint request time generation =>
    obtain rfl := hat time rfl
    exact (submitMove_outcome S.toPlatform p endpoint request now generation).movesWin h hok hapart hs
  | updateServo endpoint request receivedAt time generation =>
    obtain rfl := hat time rfl
    exact (updateServo_outcome S.toPlatform p endpoint request receivedAt now
      generation).movesWin h hok hapart hs
  | _ => exact hquiet rfl

variable (lib) in
/-- A submission keeps a stored Move, or reports its preemption. -/
theorem exec_stays (h : InOrder S e₀ names p) (hop : op.arbitratedAt.isSome = true) :
    Stays p (exec S.toPlatform lib p op).2 := by
  cases op with
  | submitMove endpoint request time generation =>
    exact (submitMove_outcome S.toPlatform p endpoint request time generation).stays h
  | updateServo endpoint request receivedAt time generation =>
    exact (updateServo_outcome S.toPlatform p endpoint request receivedAt time generation).stays h
  | _ => cases hop

/-! ## Where a claim comes from -/

/-- The call admits a Move under the id. -/
def Op.admits (op : Op) (reply : Reply) (id : String) : Bool :=
  op.moveId? == some id && reply.accepted

theorem MoveOutcome.entered (h : InOrder S e₀ names p)
    (hout : MoveOutcome S.toPlatform p endpoint request now generation result p') {k : String}
    (hk : p.arbiter.claims[k]? = none) (hnot : requestId request = k → result.status.ok = false) :
    p'.arbiter.claims[k]? = none := by
  cases hout with
  | refused => exact hk
  | lost policy arbPolicy new _ arbitration hvalid hfresh harb hlost _ =>
    have hreleased : ((p.arbiter.displace (CommandPipeline.claimOf endpoint new) arbPolicy now
        now).release new.sessionId).claims[k]? = none := by
      rw [ControlArbiter.release_claims]
      split
      · rfl
      · rename_i hne
        exact ControlArbiter.displace_none hk hne
    exact ((outside_fewer S.toPlatform).settle (p.withArbiter _) _ _).none hreleased
  | admitted policy arbPolicy new _ arbitration hvalid hfresh harb hwon settled hsettled hresult =>
    have hne : k ≠ new.sessionId := by
      rintro rfl
      have hid := (madeFor_of_valid h.sound hvalid.registered hvalid.checked).chosen rfl
      rw [hresult] at hnot
      cases hnot hid.symm
    change settled.arbiter.claims[k]? = none
    rw [hsettled, CommandPipeline.settledMove_claims S.toPlatform p harb]
    exact ControlArbiter.displace_none hk hne

theorem ServoOutcome.entered (h : InOrder S e₀ names p)
    (hout : ServoOutcome S.toPlatform p endpoint request receivedAt now generation result p')
    {k : String} (hk : p.arbiter.claims[k]? = none) (hfree : ∀ name ∈ names, k ≠ servoId name) :
    p'.arbiter.claims[k]? = none := by
  cases hout with
  | refused => exact hk
  | rejected _ _ _ _ _ _ _ _ hbase => exact hbase.fewer.none hk
  | accepted policy arbPolicy new existing base settled _ hupdated hsettled _ =>
    have hne : k ≠ new.sessionId := by
      have hvalid := hupdated.valid
      rw [(madeFor_of_valid h.sound hvalid.registered hvalid.checked).derived rfl]
      exact hfree endpoint (h.ids.named.registered endpoint policy hvalid.registered)
    rw [settledServo_kept.1, hsettled, CommandPipeline.settled_claims S.toPlatform]
    exact ControlArbiter.displace_none (hupdated.start.fewer.none hk) hne

variable (lib) in
/-- No call but its admission stores a claim of a Move. -/
theorem exec_entered (h : InOrder S e₀ names p) {k : String}
    (hfree : ∀ name ∈ names, k ≠ servoId name) (hk : p.arbiter.claims[k]? = none)
    (hnot : op.admits (exec S.toPlatform lib p op).1 k = false) :
    (exec S.toPlatform lib p op).2.arbiter.claims[k]? = none := by
  have hquiet : op.arbitratedAt = none →
      (exec S.toPlatform lib p op).2.arbiter.claims[k]? = none := fun hop =>
    (exec_fewer (B := S.toPlatform) lib h.sound hop).none hk
  cases op with
  | submitMove endpoint request time generation =>
    refine (submitMove_outcome S.toPlatform p endpoint request time generation).entered h hk ?_
    intro hid
    simpa [Op.admits, Op.moveId?, hid, exec, Reply.accepted] using hnot
  | updateServo endpoint request receivedAt time generation =>
    exact (updateServo_outcome S.toPlatform p endpoint request receivedAt time
      generation).entered h hk hfree
  | _ => exact hquiet rfl

end

end HumanoidMotion
