import HumanoidMotion.Motion.Publication
import HumanoidMotion.Motion.Refusals
/-
# What an admission silences

An admitted submission takes the permits of its claim's joints, and those of the
sessions it ends (`command_pipeline.cpp:321-331`, `:376-391`).

* `Silences` — the permits that are left after an admission, and the sessions it ends.
* `Displaces` — the commands whose place an admission takes.
* `admission_silences` — these are refused for good; a command of a session that had
  already ended is not judged anew.
-/

namespace HumanoidMotion

open Tick

variable {β : Type} {B : Platform β} {lib : MathLib} {e₀ : β × List Call} {names : List String}
  {p q : CommandPipeline (β × List Call)} {now : SteadyTime}

/-! ## The permits after an arbitration -/

theorem CommandPipeline.settle_permits {γ : Type} {P : Platform γ} (r : CommandPipeline γ)
    (preempted expired : List String) (joint : String) :
    (r.settle P preempted expired).publicationPermits[joint]? =
      (r.publicationPermits[joint]?).filter fun permit => !(preempted ++ expired).contains permit.1 := by
  unfold CommandPipeline.settle
  rw [endAll_permits, endAll_permits, Option.filter_filter]
  congr 1
  funext permit
  simp

/-- A Move that wins among the live claims and not beside the new one is displaced. -/
theorem ControlArbiter.displaced_of_lost {a : ControlArbiter} {claim : CommandClaim}
    {policy : EndpointPolicy} {receivedAt : SteadyTime} {k : String} {state : ClaimState} (h : a.Ok)
    (hk : a.claims[k]? = some state) (hmove : isServo state.claim.kind = false)
    (hne : k ≠ claim.sessionId) (hwon : k ∈ a.winners now)
    (hlost : k ∉ (a.displace claim policy receivedAt now).winners now) :
    k ∈ a.displaced claim policy receivedAt now := by
  have hlive : state.expired now = false := by
    simp [ClaimState.expired, hmove]
  rw [mem_displaced]
  refine ⟨(winners_live h k).2 hwon, fun hj => hlost ((computeWinners_displace h k).2 hj), state, ?_, ?_⟩
  · rw [joined_claims, if_neg hne, live_claims, hk]
    simp [Option.filter, hlive]
  · simp [isMove, hmove]

/-- Between `p` and `q` a submission was admitted at `now`, with a claim on `joints`: these carry no
permit any more, nor do the sessions of `ended`. -/
structure Silences (now : SteadyTime) (joints ended : List String)
    (p q : CommandPipeline (β × List Call)) : Prop where
  permits : ∀ joint : String, q.publicationPermits[joint]? = if joint ∈ joints then none
    else (p.publicationPermits[joint]?).filter fun permit => !ended.contains permit.1
  enabled : q.outputEnabled = p.outputEnabled
  stored : ∀ id ∈ ended, id ∈ p.sessions
  moves : ∀ (id : String) session, p.sessions[id]? = some session → isServo session.kind = false →
    id ∈ p.arbiter.winners now → id ∉ q.arbiter.winners now → id ∈ ended
  leases : ∀ id, LeaseOver p now id → id ∉ q.arbiter.winners now → id ∈ ended

/-- The claim of a stored Move is a Move's. -/
theorem Tables.move_claim (h : Tables True B.logged e₀ p) {id : String} {session : Session}
    (hs : p.sessions[id]? = some session) (hmove : isServo session.kind = false) :
    ∃ state, p.arbiter.claims[id]? = some state ∧ isServo state.claim.kind = false := by
  have hrow := h.rows id
  obtain ⟨state, hstate, -⟩ := hrow.claimed session hs
  obtain ⟨hclaim, -⟩ := hrow.paired hs hstate
  exact ⟨state, hstate, by rw [hclaim]; exact hmove⟩

theorem Tables.expired_stored (h : Tables True B.logged e₀ p) {id : String}
    (hid : id ∈ p.arbiter.expiredServos now) : id ∈ p.sessions := by
  obtain ⟨session, -, hs, -⟩ := h.expired_iff.1 hid
  exact (p.mem_sessions_iff id).2 ⟨session, hs⟩

theorem Tables.claim_stored (h : Tables True B.logged e₀ p) {id : String} {state : ClaimState}
    (hc : p.arbiter.claims[id]? = some state) : id ∈ p.sessions := by
  cases hs : p.sessions[id]? with
  | some session => exact (p.mem_sessions_iff id).2 ⟨session, hs⟩
  | none =>
    have hnone := (h.rows id).unclaimed hs
    rw [show (rowAt B.logged p id).claim = some state from hc] at hnone
    cases hnone

/-- What `displace` displaces was stored under another id than the claim's. -/
theorem Tables.displaced_stored (h : Tables True B.logged e₀ p) {claim : CommandClaim}
    {policy : EndpointPolicy} {receivedAt : SteadyTime} {id : String}
    (hid : id ∈ p.arbiter.displaced claim policy receivedAt now) : id ∈ p.sessions := by
  obtain ⟨hwon, -⟩ := (p.arbiter.mem_displaced claim policy receivedAt now).1 hid
  obtain ⟨state, hstate, -⟩ := ControlArbiter.winner_stored h.arbiter
    ((ControlArbiter.winners_live h.arbiter id).1 hwon)
  exact h.claim_stored hstate

section
variable {endpoint : String} {request : SessionRequest} {generation : Nat} {result : SubmissionResult}

theorem MoveOutcome.silences (h : Tables True B.logged e₀ p)
    (hout : MoveOutcome B.recorded p endpoint request now generation result q)
    (hok : result.status.ok = true) {state : ClaimState}
    (hstate : q.arbiter.claims[result.sessionId]? = some state) :
    ∃ ended, Silences now state.claim.jointNames ended p q := by
  cases hout with
  | refused _ hno => rw [hno] at hok; cases hok
  | lost _ _ _ _ _ _ _ _ _ hno => rw [hno] at hok; cases hok
  | admitted policy arbPolicy session _ arbitration hvalid hfresh harb hwon settled hsettled hresult =>
    have hclaims : ∀ k : String, settled.arbiter.claims[k]? = (p.arbiter.displace
        (CommandPipeline.claimOf endpoint session) arbPolicy now now).claims[k]? := by
      rw [hsettled]
      exact CommandPipeline.settledMove_claims B.recorded p harb
    have hwinners : settled.arbiter.winners now = (p.arbiter.displace
        (CommandPipeline.claimOf endpoint session) arbPolicy now now).winners now :=
      ControlArbiter.computeWinners_congr hclaims
    subst hresult
    have hsubmitted := ControlArbiter.displace_submitted _ _ _ _ _ ((hclaims _).symm.trans hstate)
    subst hsubmitted
    have hnew : session.sessionId ∈ settled.arbiter.winners now := by
      rw [hwinners]
      exact hwon
    refine ⟨arbitration.preemptedMoveIds ++ arbitration.expiredServoIds, ⟨fun joint => ?_, ?_, ?_, ?_, ?_⟩⟩
    · rw [CommandPipeline.revokeOutputs_permits]
      refine if_congr Iff.rfl rfl ?_
      change settled.publicationPermits[joint]? = _
      rw [hsettled, CommandPipeline.settle_permits]
      rfl
    · change settled.outputEnabled = _
      rw [hsettled]
      exact CommandPipeline.settle_frame B.recorded (·.outputEnabled)
        (fun _ _ _ _ => CommandPipeline.terminate_outputEnabled ..) _ _ _
    · rw [harb.preempted, harb.expired]
      intro id hid
      rcases List.mem_append.1 hid with hid | hid
      · exact h.displaced_stored hid
      · exact h.expired_stored hid
    · intro id moved hmoved hmove hbefore hafter
      obtain ⟨old, hold, hkind⟩ := h.move_claim hmoved hmove
      have hne : id ≠ session.sessionId := fun heq => hafter (heq ▸ hnew)
      refine List.mem_append_left _ (harb.preempted ▸ ?_)
      exact ControlArbiter.displaced_of_lost h.arbiter hold hkind hne hbefore (hwinners ▸ hafter)
    · intro id hover _
      exact List.mem_append_right _ (harb.expired ▸ h.expired_iff.2 hover)

/-- The arbitration of a target that wins, from the state it starts from. -/
theorem arbitrated_silences {receivedAt : SteadyTime} {policy : EndpointPolicy} {session : Session}
    {existing : Option Session} (h : Tables True B.logged e₀ p)
    (hwon : session.sessionId ∈ (p.arbiter.displace (CommandPipeline.claimOf endpoint session) policy
      receivedAt now).winners now)
    (hq : q = ((p.withArbiter (p.arbiter.displace (CommandPipeline.claimOf endpoint session) policy
      receivedAt now)).storeServo endpoint session existing receivedAt).settle B.recorded
        (p.arbiter.displaced (CommandPipeline.claimOf endpoint session) policy receivedAt now)
        ((p.arbiter.expiredServos now).filter (· != session.sessionId))) :
    session.sessionId ∈ q.arbiter.winners now ∧
      (∀ state, q.arbiter.claims[session.sessionId]? = some state →
        state.claim.jointNames = session.jointNames) ∧
      ∃ ended, Silences now session.jointNames ended p (q.revokeOutputs session.jointNames) := by
  have hclaims : ∀ k : String, q.arbiter.claims[k]? = (p.arbiter.displace
      (CommandPipeline.claimOf endpoint session) policy receivedAt now).claims[k]? := by
    rw [hq]
    exact CommandPipeline.settled_claims B.recorded p endpoint session existing policy receivedAt now
  have hwinners : q.arbiter.winners now = (p.arbiter.displace
      (CommandPipeline.claimOf endpoint session) policy receivedAt now).winners now :=
    ControlArbiter.computeWinners_congr hclaims
  have hnew : session.sessionId ∈ q.arbiter.winners now := by
    rw [hwinners]
    exact hwon
  have hother : ∀ {id : String}, id ∉ q.arbiter.winners now → id ≠ session.sessionId := by
    rintro id hlost rfl
    exact hlost hnew
  refine ⟨hnew, fun state hstate => ?_, p.arbiter.displaced (CommandPipeline.claimOf endpoint session)
    policy receivedAt now ++ (p.arbiter.expiredServos now).filter (· != session.sessionId),
    fun joint => ?_, ?_, ?_, ?_, ?_⟩
  · rw [ControlArbiter.displace_submitted _ _ _ _ _ ((hclaims _).symm.trans hstate)]
    rfl
  · rw [CommandPipeline.revokeOutputs_permits, hq, CommandPipeline.settle_permits,
      CommandPipeline.storeServo_permits]
    rfl
  · change q.outputEnabled = _
    rw [hq]
    refine (CommandPipeline.settle_frame B.recorded (·.outputEnabled)
      (fun _ _ _ _ => CommandPipeline.terminate_outputEnabled ..) _ _ _).trans ?_
    rw [CommandPipeline.storeServo_enabled]
    rfl
  · intro id hid
    rcases List.mem_append.1 hid with hid | hid
    · exact h.displaced_stored hid
    · exact h.expired_stored (List.mem_filter.1 hid).1
  · intro id moved hmoved hmove hbefore hafter
    obtain ⟨old, hold, hkind⟩ := h.move_claim hmoved hmove
    refine List.mem_append_left _ ?_
    refine ControlArbiter.displaced_of_lost h.arbiter hold hkind (hother hafter) hbefore ?_
    rw [← hwinners]
    exact hafter
  · intro id hover hafter
    refine List.mem_append_right _ (List.mem_filter.2 ⟨h.expired_iff.2 hover, ?_⟩)
    simpa using hother hafter

/-- The session of the target itself may have ended first. -/
theorem Silences.after {r : CommandPipeline (β × List Call)} {own : String}
    {first joints ended : List String} (hp : p.arbiter.Ok)
    (hfirst : OnlyLeasesEnd B now (some own) first p r) (h : Silences now joints ended r q)
    (hown : own ∈ q.arbiter.winners now) (henabled : r.outputEnabled = p.outputEnabled)
    (hendpoints : r.endpoints = p.endpoints)
    (hsame : ∀ id, id ≠ own → r.sessions[id]? = p.sessions[id]?)
    (hleft : ∀ id, id ∈ r.sessions → id ∈ p.sessions) :
    Silences now joints (first ++ ended) p q := by
  have hother : ∀ {id : String}, id ∉ q.arbiter.winners now → r.sessions[id]? = p.sessions[id]? := by
    intro id hlost
    apply hsame
    rintro rfl
    exact hlost hown
  refine ⟨fun joint => ?_, h.enabled.trans henabled, fun id hid => ?_, ?_, ?_⟩
  · rw [h.permits, hfirst.permits, Option.filter_filter]
    refine if_congr Iff.rfl rfl ?_
    congr 1
    funext permit
    simp
  · rcases List.mem_append.1 hid with hid | hid
    · obtain ⟨stored, -, hs, -⟩ := hfirst.overdue id hid
      exact (p.mem_sessions_iff id).2 ⟨stored, hs⟩
    · exact hleft id (h.stored id hid)
  · intro id moved hmoved hmove hbefore hafter
    have hwon : id ∈ r.arbiter.winners now :=
      (hfirst.winners id).2 ((ControlArbiter.winners_live hp id).2 hbefore)
    exact List.mem_append_right _ (h.moves id moved ((hother hafter).trans hmoved) hmove hwon hafter)
  · rintro id ⟨stored, policy, hs, hservo, hpolicy, hover⟩ hafter
    have hbase : LeaseOver r now id :=
      ⟨stored, policy, (hother hafter).trans hs, hservo, hendpoints ▸ hpolicy, hover⟩
    exact List.mem_append_right _ (h.leases id hbase hafter)

theorem ServoBase.leaves {receivedAt : SteadyTime} {policy : EndpointPolicy} {id : String}
    {existing : Option Session} (hbase : ServoBase B.recorded p policy id receivedAt now existing q) :
    q.outputEnabled = p.outputEnabled ∧ (∀ k : String, k ≠ id → q.sessions[k]? = p.sessions[k]?) ∧
      ∀ k, k ∈ q.sessions → k ∈ p.sessions := by
  cases hbase with
  | fresh => exact ⟨rfl, fun _ _ => rfl, fun _ hk => hk⟩
  | kept => exact ⟨rfl, fun _ _ => rfl, fun _ hk => hk⟩
  | renewed =>
    refine ⟨CommandPipeline.terminate_outputEnabled .., fun k hk => ?_, fun k hk => ?_⟩
    · rw [CommandPipeline.terminate_sessions, if_neg hk]
    · obtain ⟨stored, hs⟩ := (CommandPipeline.mem_sessions_iff _ k).1 hk
      rw [CommandPipeline.terminate_sessions] at hs
      split at hs
      · cases hs
      · exact (p.mem_sessions_iff k).2 ⟨stored, hs⟩

theorem ServoOutcome.silences {receivedAt : SteadyTime} (h : InOrder B.logged e₀ names p)
    (hout : ServoOutcome B.recorded p endpoint request receivedAt now generation result q)
    (hok : result.status.ok = true) (hwins : result.sessionId ∈ q.arbiter.winners now)
    {state : ClaimState} (hstate : q.arbiter.claims[result.sessionId]? = some state) :
    ∃ ended, Silences now state.claim.jointNames ended p q := by
  cases hout with
  | refused _ hno => rw [hno] at hok; cases hok
  | rejected _ _ _ _ _ _ _ _ _ _ hno => rw [hno] at hok; cases hok
  | accepted policy arbPolicy session existing base settled _ hupdated hsettled hresult =>
    subst hresult
    have hbase : Tables True B.logged e₀ base :=
      ServoBase.tables_ok (S := B.logged) h.tables hupdated.start
    -- the verdict of the arbiter is that of the state it leaves
    have hwon : session.sessionId ∈ (base.arbiter.displace (CommandPipeline.claimOf endpoint session)
        arbPolicy receivedAt now).computeWinners now := by
      by_contra hlost
      rw [if_neg hlost, hsettled] at hwins
      refine hlost ?_
      rw [← ControlArbiter.computeWinners_congr (CommandPipeline.settled_claims B.recorded base endpoint
        session existing arbPolicy receivedAt now)]
      exact hwins
    rw [if_pos hwon] at hstate ⊢
    obtain ⟨hnew, hjoints, ended, hsilences⟩ := arbitrated_silences hbase hwon hsettled
    obtain ⟨first, hfirst, -⟩ := hupdated.start.onlyLeasesEnd h.tables fun old hold horder => by
      obtain ⟨hservo, hname⟩ := h.stored_servo hupdated.valid hupdated.past hupdated.live hold horder
      exact ⟨hservo, hname ▸ hupdated.valid.registered⟩
    obtain ⟨henabled, hsame, hleft⟩ := hupdated.start.leaves
    rw [hjoints state hstate]
    exact ⟨first ++ ended, hsilences.after h.tables.arbiter hfirst hnew henabled
      hupdated.start.tables.2.1 hsame hleft⟩

end

/-- Every admission silences the sessions it ends and the joints of its claim. -/
theorem Admission.silences {g : PipelineStage (β × List Call)} {id : String} {state : ClaimState}
    (h : Admission g id state) (horder : InOrder B.logged e₀ names g.before)
    (hexec : exec B.recorded lib g.before g.input = (g.output, g.after)) :
    ∃ now ended, g.input.arbitratedAt = some now ∧ id ∈ g.after.arbiter.winners now ∧
      Silences now state.claim.jointNames ended g.before g.after := by
  obtain ⟨s, op, output, p⟩ := g
  obtain ⟨hreplied, hstored, now, htime, hwins⟩ := h
  simp only at hreplied hstored htime hwins hexec horder ⊢
  subst hreplied
  cases op with
  | submitMove endpoint request now' generation =>
    obtain rfl : now' = now := Option.some.inj htime
    obtain ⟨hresult, rfl⟩ := Prod.mk.inj hexec
    have hout := submitMove_outcome B.recorded s endpoint request now' generation
    rw [Reply.submission.inj hresult] at hout
    obtain ⟨ended, hsilences⟩ := hout.silences horder.tables rfl hstored
    exact ⟨now', ended, rfl, hwins, hsilences⟩
  | updateServo endpoint request receivedAt now' generation =>
    obtain rfl : now' = now := Option.some.inj htime
    obtain ⟨hresult, rfl⟩ := Prod.mk.inj hexec
    have hout := updateServo_outcome B.recorded s endpoint request receivedAt now' generation
    rw [Reply.submission.inj hresult] at hout
    obtain ⟨ended, hsilences⟩ := hout.silences horder rfl hwins hstored
    exact ⟨now', ended, rfl, hwins, hsilences⟩
  | _ => cases htime

/-! ## What is refused after an admission -/

/-- An admission at `now` takes the place of a command: it names one of its joints, its session is a
Move that has won so far, or a servo session whose lease has run out. -/
inductive Displaces (g : PipelineStage (β × List Call)) (state : ClaimState) (command : JointCommand) :
    Prop
  | joint (joint : String) (hclaim : joint ∈ state.claim.jointNames) (hj : joint ∈ command.jointNames)
  | move (now : SteadyTime) (session : Session) (htime : g.input.arbitratedAt = some now)
      (hstored : g.before.sessions[command.sessionId]? = some session)
      (hmove : isServo session.kind = false) (hwon : command.sessionId ∈ g.before.arbiter.winners now)
      (hlost : command.sessionId ∉ g.after.arbiter.winners now)
  | lease (now : SteadyTime) (htime : g.input.arbitratedAt = some now)
      (hover : LeaseOver g.before now command.sessionId)
      (hlost : command.sessionId ∉ g.after.arbiter.winners now)

/-- A session that an admission ends has no permit afterwards. -/
theorem Silences.silenced {joints ended : List String} (h : Silences now joints ended p q) {id : String}
    (hid : id ∈ ended) (first : Nat) : Silenced first q id := by
  intro joint x hx hown
  rw [h.permits] at hx
  split at hx
  · cases hx
  · have hkept := (Option.filter_eq_some_iff.1 hx).2
    simp [hown, hid] at hkept

theorem Displaces.revoked {g : PipelineStage (β × List Call)} {id : String} {state : ClaimState}
    {command : JointCommand} (h : Displaces g state command) (hadmitted : Admission g id state)
    (horder : InOrder B.logged e₀ names g.before)
    (hexec : exec B.recorded lib g.before g.input = (g.output, g.after))
    (htoken : command.publicationToken < g.before.nextPublicationToken) :
    Revoked g.after command := by
  have he : Evolves g.before g.after := by
    have := exec_evolves B.recorded lib horder.sound g.input
    rwa [hexec] at this
  obtain ⟨now, ended, htime, -, hsilences⟩ := hadmitted.silences horder hexec
  have hended : command.sessionId ∈ ended → Revoked g.after command := fun hid =>
    (hsilences.silenced hid g.before.nextPublicationToken).revoked htoken he
  cases h with
  | joint joint hclaim hj =>
    exact .of_joint htoken he hj fun x hx => by rw [hadmitted.permits hexec hclaim] at hx; cases hx
  | move now' session htime' hstored hmove hwon hlost =>
    obtain rfl : now = now' := Option.some.inj (htime.symm.trans htime')
    exact hended (hsilences.moves _ session hstored hmove hwon hlost)
  | lease now' htime' hover hlost =>
    obtain rfl : now = now' := Option.some.inj (htime.symm.trans htime')
    exact hended (hsilences.leases _ hover hlost)

/-- An admission does not judge a command of a session that had already ended, unless it names one of
its joints. -/
theorem Silences.verdict {joints ended : List String} (h : Silences now joints ended p q)
    {command : JointCommand} (hended : command.sessionId ∉ p.sessions)
    (hjoints : ∀ joint ∈ command.jointNames, joint ∉ joints) (t : SteadyTime) :
    (q.validatePublicationLocked B.recorded command t).1 =
      (p.validatePublicationLocked B.recorded command t).1 := by
  have hid : command.sessionId ∉ ended := fun hid => hended (h.stored _ hid)
  have hheld : q.holdsPermits command = p.holdsPermits command := by
    rw [Bool.eq_iff_iff, holdsPermits_iff, holdsPermits_iff]
    refine forall₂_congr fun joint hj => ?_
    rw [h.permits, if_neg (hjoints joint hj), Option.filter_eq_some_iff]
    simp [hid]
  unfold CommandPipeline.validatePublicationLocked
  rw [h.enabled, hheld]
  split
  · rfl
  · split
    · rfl
    · rfl

variable (B lib) in
/-- In every run whose Moves have ids of their own, whatever the SDK does: after an admission a command
of an earlier tick is refused for good when the admission displaces it, and a command of a session that
had already ended is judged as before. -/
theorem admission_silences (e : β) (groups : List JointGroupModel) (config : CommandPipelineConfig)
    {ops : List Op} (hfree : MoveIdsFree ops) {j k : Nat} (hjk : j < k)
    {gj gk : PipelineStage (β × List Call)}
    (hj : ((machine B.recorded lib).trace (CommandPipeline.create (e, []) groups config) ops)[j]? = some gj)
    (hk : ((machine B.recorded lib).trace (CommandPipeline.create (e, []) groups config) ops)[k]? = some gk)
    {command : JointCommand} (hreturned : command ∈ gj.output.commands) {id : String}
    {state : ClaimState} (hadmitted : Admission gk id state) :
    (Displaces gk state command → ∀ later : List Op,
      (∀ t, (((machine B.recorded lib).run gk.after later).validatePublicationLocked B.recorded command
        t).1 = false) ∧
      command ∉ handedOver ((machine B.recorded lib).trace gk.after later)) ∧
    (command.sessionId ∉ gk.before.sessions →
      (∀ joint ∈ command.jointNames, joint ∉ state.claim.jointNames) → ∀ t,
        (gk.after.validatePublicationLocked B.recorded command t).1 =
          (gk.before.validatePublicationLocked B.recorded command t).1) := by
  have hinit : Initial (CommandPipeline.create (e, ([] : List Call)) groups config) := ⟨_, _, _, rfl⟩
  have hstepj : exec B.recorded lib gj.before gj.input = (gj.output, gj.after) :=
    Machine.trace_step (List.mem_of_getElem? hj)
  have hstepk : exec B.recorded lib gk.before gk.input = (gk.output, gk.after) :=
    Machine.trace_step (List.mem_of_getElem? hk)
  have horder : InOrder B.logged (e, []) (endpointNames ops) gk.before :=
    (trace_inOrder groups config (B.logged_fresh e) hfree gk (List.mem_of_getElem? hk)).1
  have hpubj := hinit.trace_publishable (List.mem_of_getElem? hj)
  have hissued := returned_issued B.recorded lib hpubj.sound hpubj.issued gj.input
    (by rw [hstepj]; exact hreturned)
  rw [hstepj] at hissued
  -- the token was issued by an earlier tick, so it is an old one when the submission is admitted
  have hold : Publishable gk.before ∧ command.publicationToken < gk.before.nextPublicationToken :=
    Machine.trace_later_invariant (M := machine B.recorded lib)
      (I := fun s => Publishable s ∧ command.publicationToken < s.nextPublicationToken)
      (fun s op hs _ =>
        ⟨hs.1.exec B.recorded lib op, hs.2.trans_le (exec_evolves B.recorded lib hs.1.sound op).token⟩)
      (Machine.meets_true _ ops) hjk hj hk
      ⟨hinit.trace_publishable_after (List.mem_of_getElem? hj), hissued.2.1⟩
  constructor
  · intro hdisplaced later
    have hrevoked := hdisplaced.revoked hadmitted horder hstepk hold.2
    have hafter := hinit.trace_publishable_after (List.mem_of_getElem? hk)
    have hlater : Publishable ((machine B.recorded lib).run gk.after later) ∧
        Revoked ((machine B.recorded lib).run gk.after later) command :=
      Machine.run_invariant (M := machine B.recorded lib)
        (I := fun s => Publishable s ∧ Revoked s command)
        (fun _ op hs _ => ⟨hs.1.exec B.recorded lib op, hs.2.exec hs.1.sound op⟩) ⟨hafter, hrevoked⟩
        (Machine.meets_true _ later)
    exact ⟨hlater.2.refused, revoked_not_handed hafter hrevoked later⟩
  · obtain ⟨now, ended, -, -, hsilences⟩ := hadmitted.silences horder hstepk
    exact hsilences.verdict

namespace Fixture

/-- Groups that overlap in a chain, and one that stands apart. -/
def chainGroups : List JointGroupModel :=
  [group "tip" ["l1"], group "left" leftJoints, group "middle" ["l2", "r1"], group "right" rightJoints,
    group "head" ["h1"]]

def chainStart : CommandPipeline (FakeSdk × List Call) := CommandPipeline.create ({}, []) chainGroups {}

/-- The stage of call number `n` of a run whose SDK calls are written down. -/
def loggedStage (ops : List Op) (n : Nat) : PipelineStage (FakeSdk × List Call) :=
  ((machine FakeSdk.platform.toPlatform.recorded mathLib).trace chainStart ops).getD n
    ⟨chainStart, .cancel "", .done, chainStart⟩

theorem loggedStage_eq {ops : List Op} {n : Nat} (h : n < ops.length) :
    ((machine FakeSdk.platform.toPlatform.recorded mathLib).trace chainStart ops)[n]? =
      some (loggedStage ops n) := by
  simp [loggedStage, h]

/-- A servo target of the tip displaces the Move of the left arm, which has held back a servo in the
middle; that servo wins now, and the Move of the right arm loses to it. -/
def chainedMove : List Op :=
  [endpoint "ml" .moveJ "left" 25, endpoint "mr" .moveJ "right" 10, endpoint "ws" .servoJ "middle" 20,
    endpoint "sv" .servoJ "tip" 40, moveJ "ml" "m" "left" leftJoints 0,
    moveJ "mr" "n" "right" rightJoints 0, servoJ "ws" "middle" ["l2", "r1"] 0, tick 1,
    servoJ "sv" "tip" ["l1"] 2]

/-- A Move of the right arm comes between the last command of a Move of the left arm, a hold at its
timeout, and the publication of that command. -/
def heldBeside : List Op :=
  [endpoint "ml" .moveJ "left" 10, endpoint "mr" .moveJ "right" 10, moveJ "ml" "m" "left" leftJoints 0,
    tick 60001, moveJ "mr" "n" "right" rightJoints 60002]

/-- The Move of the left arm stands under the id of a servo endpoint: a target of this endpoint ends
it first, as a servo session whose lease has run out, and the servo in the middle wins unseen. -/
def leaseOfMove : List Op :=
  [endpoint "ml" .moveJ "left" 25, endpoint "mr" .moveJ "right" 10, endpoint "ws" .servoJ "middle" 20,
    endpoint "sv" .servoJ "head" 5, moveJ "ml" (servoId "sv") "left" leftJoints 0,
    moveJ "mr" "n" "right" rightJoints 0, servoJ "ws" "middle" ["l2", "r1"] 150, tick 151,
    servoJ "sv" "head" ["h1"] 152]

end Fixture

open Fixture in
/-- The Move of the left arm shares a joint with the target of the tip, that of the right arm does not. -/
theorem admission_silences_chained :
    (loggedStage chainedMove 7).output.commands.map (·.jointNames) = [leftJoints, rightJoints] ∧
      ∀ command ∈ (loggedStage chainedMove 7).output.commands, ∀ t,
        ((loggedStage chainedMove 8).after.validatePublicationLocked
          FakeSdk.platform.toPlatform.recorded command t).1 = false := by
  have hboth : (loggedStage chainedMove 7).output.commands =
      [command "m" "left" leftJoints 101 1, command "n" "right" rightJoints 101 2] := by
    decide +kernel
  have hclaim : ((loggedStage chainedMove 8).after.arbiter.claims[servoId "sv"]?).map
      (·.claim.jointNames) = some ["l1"] := by decide +kernel
  obtain ⟨state, hstate, hjoints⟩ := Option.map_eq_some_iff.1 hclaim
  have hadmitted : Admission (loggedStage chainedMove 8) (servoId "sv") state :=
    ⟨by decide +kernel, hstate, milliseconds 2, rfl, by decide +kernel⟩
  have hmoved : ((loggedStage chainedMove 8).before.sessions["n"]?).map (isServo ·.kind) =
      some false := by decide +kernel
  obtain ⟨moved, hfound, hmove⟩ := Option.map_eq_some_iff.1 hmoved
  refine ⟨by rw [hboth]; rfl, fun command hreturned => ?_⟩
  refine ((admission_silences FakeSdk.platform.toPlatform mathLib {} chainGroups {}
    (show MoveIdsFree chainedMove by decide) (show 7 < 8 by decide) (loggedStage_eq (by decide))
    (loggedStage_eq (by decide)) hreturned hadmitted).1 ?_ []).1
  rw [hboth] at hreturned
  rcases List.mem_pair.1 hreturned with rfl | rfl
  · refine .joint "l1" ?_ (by decide)
    rw [hjoints]
    decide
  · exact .move (milliseconds 2) moved rfl hfound hmove (by decide +kernel) (by decide +kernel)

open Fixture in
/-- The hold of a Move that has ended is accepted beside the new Move of the other arm. And a Move
that loses to a servo is not silenced when a Move under the id of the admitted servo endpoint had held
that servo back. -/
theorem held_command_survives_admission :
    (∃ command ∈ (loggedStage heldBeside 3).output.commands, ∃ state,
      Admission (loggedStage heldBeside 4) "n" state ∧
      command.sessionId ∉ (loggedStage heldBeside 4).after.arbiter.winners (milliseconds 60002) ∧
      ((loggedStage heldBeside 4).after.validatePublicationLocked
        FakeSdk.platform.toPlatform.recorded command (milliseconds 60003)).1 = true) ∧
    ∃ command ∈ (loggedStage leaseOfMove 7).output.commands, ∃ state,
      Admission (loggedStage leaseOfMove 8) (servoId "sv") state ∧
      command.sessionId ∈ (loggedStage leaseOfMove 8).before.arbiter.winners (milliseconds 152) ∧
      command.sessionId ∉ (loggedStage leaseOfMove 8).after.arbiter.winners (milliseconds 152) ∧
      ((loggedStage leaseOfMove 8).after.validatePublicationLocked
        FakeSdk.platform.toPlatform.recorded command (milliseconds 153)).1 = true := by
  constructor
  · have hclaim : ((loggedStage heldBeside 4).after.arbiter.claims["n"]?).isSome = true := by
      decide +kernel
    obtain ⟨state, hstate⟩ := Option.isSome_iff_exists.1 hclaim
    have hall : ∃ command ∈ (loggedStage heldBeside 3).output.commands,
        command.sessionId ∉ (loggedStage heldBeside 4).after.arbiter.winners (milliseconds 60002) ∧
        ((loggedStage heldBeside 4).after.validatePublicationLocked
          FakeSdk.platform.toPlatform.recorded command (milliseconds 60003)).1 = true := by
      decide +kernel
    obtain ⟨command, hmem, hlost, haccepted⟩ := hall
    exact ⟨command, hmem, state, ⟨by decide +kernel, hstate, milliseconds 60002, rfl,
      by decide +kernel⟩, hlost, haccepted⟩
  · have hclaim : ((loggedStage leaseOfMove 8).after.arbiter.claims[servoId "sv"]?).isSome = true := by
      decide +kernel
    obtain ⟨state, hstate⟩ := Option.isSome_iff_exists.1 hclaim
    have hall : ∃ command ∈ (loggedStage leaseOfMove 7).output.commands,
        command.sessionId ∈ (loggedStage leaseOfMove 8).before.arbiter.winners (milliseconds 152) ∧
        command.sessionId ∉ (loggedStage leaseOfMove 8).after.arbiter.winners (milliseconds 152) ∧
        ((loggedStage leaseOfMove 8).after.validatePublicationLocked
          FakeSdk.platform.toPlatform.recorded command (milliseconds 153)).1 = true := by
      decide +kernel
    obtain ⟨command, hmem, hwon, hlost, haccepted⟩ := hall
    exact ⟨command, hmem, state, ⟨by decide +kernel, hstate, milliseconds 152, rfl,
      by decide +kernel⟩, hwon, hlost, haccepted⟩

end HumanoidMotion
