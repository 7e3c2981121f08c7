import HumanoidMotion.Arbitration.Losers
import HumanoidMotion.Motion.Consistency
/-
# What a refused or losing submission leaves behind

The pipeline ends sessions before it knows whether the submission is taken
(`command_pipeline.cpp:320`, `:360`, `:382`). Where Moves have ids of their own,
only servo sessions whose lease has run out are ended, and a servo target that
has ended its own expired session is never refused.

* `LeaseOver` — the lease of a servo session has run out.
* `OnlyLeasesEnd` — nothing but such sessions has gone, with everything they held.
* `Background` — the caller's own claim and target, stored without a win.
* `submission_harmless` — every reachable state, every submission.
-/

namespace HumanoidMotion

open Tick

variable {β : Type} {B : Platform β} {S : SessionPlatform β} {lib : MathLib} {e₀ : β}
  {names : List String} {p q : CommandPipeline β} {now : SteadyTime}

/-- The lease of the servo session under `id` has run out at `now`. -/
def LeaseOver (p : CommandPipeline β) (now : SteadyTime) (id : String) : Prop :=
  ∃ session policy, p.sessions[id]? = some session ∧ isServo session.kind = true ∧
    p.endpoints[session.endpointName]? = some policy ∧
    policy.servoLease ≤ now - session.submittedAt

/-- The session and the claim of one id speak of one endpoint and one time. -/
theorem RowOk.paired {id : String} {session : Session} {state : ClaimState}
    (h : RowOk True p id (rowAt S p id)) (hs : p.sessions[id]? = some session)
    (hc : p.arbiter.claims[id]? = some state) :
    state.claim = CommandPipeline.claimOf session.endpointName session ∧
      state.receivedAt = session.submittedAt ∧
      ∃ policy, p.endpoints[session.endpointName]? = some policy ∧
        state.priority = policy.priority ∧ state.lease = policy.servoLease := by
  obtain ⟨own, hown, -, hagrees⟩ := h.claimed session hs
  obtain rfl : state = own := Option.some.inj (hc.symm.trans hown)
  obtain ⟨policy, hpolicy, -, hpriority, hlease⟩ := (h.leased state hc).policy
  have hclaim := (hagrees trivial).claim
  refine ⟨hclaim, (hagrees trivial).time, policy, ?_, hpriority, hlease⟩
  rw [hclaim] at hpolicy
  exact hpolicy

/-- The claims that have expired are those of the sessions whose lease has run out. -/
theorem Tables.expired_iff (h : Tables True S e₀ p) {id : String} :
    id ∈ p.arbiter.expiredServos now ↔ LeaseOver p now id := by
  have hrow := h.rows id
  rw [p.arbiter.mem_expiredServos]
  constructor
  · rintro ⟨state, hstate, hexpired⟩
    cases hsession : p.sessions[id]? with
    | none =>
      have hnone := hrow.unclaimed hsession
      rw [show (rowAt S p id).claim = some state from hstate] at hnone
      cases hnone
    | some session =>
      obtain ⟨hclaim, htime, policy, hpolicy, -, hlease⟩ := hrow.paired hsession hstate
      simp only [ClaimState.expired, Bool.and_eq_true, decide_eq_true_eq, hclaim, htime,
        hlease] at hexpired
      exact ⟨session, policy, hsession, hexpired.1, hpolicy, hexpired.2⟩
  · rintro ⟨session, policy, hsession, hservo, hpolicy, hover⟩
    obtain ⟨state, hstate, -⟩ := hrow.claimed session hsession
    obtain ⟨hclaim, htime, policy', hpolicy', -, hlease⟩ := hrow.paired hsession hstate
    obtain rfl : policy = policy' := Option.some.inj (hpolicy.symm.trans hpolicy')
    refine ⟨state, hstate, ?_⟩
    simp only [ClaimState.expired, Bool.and_eq_true, decide_eq_true_eq, hclaim, htime, hlease]
    exact ⟨hservo, hover⟩

/-! ## Ending a list of stored sessions -/

/-- The event that reports an end. -/
def endEvent (state : SessionState) (status : MotionStatus) (sessionId : String) : SessionEvent where
  sessionId := sessionId
  state := state
  status := status

section
variable {state : SessionState} {status : MotionStatus}

/-- Ending the first session of a list leaves the others stored. -/
theorem stored_tail {id : String} {ids : List String} {p : CommandPipeline β}
    (hstored : ∀ k ∈ id :: ids, k ∈ p.sessions) (hnodup : (id :: ids).Nodup) :
    ∀ k ∈ ids, k ∈ (p.terminate B id state status).sessions := by
  intro k hk
  have hne : k ≠ id := fun heq => (List.nodup_cons.1 hnodup).1 (heq ▸ hk)
  have hmem := hstored k (List.mem_cons_of_mem _ hk)
  rw [Std.TreeMap.mem_iff_isSome_getElem?] at hmem ⊢
  rw [CommandPipeline.terminate_sessions, if_neg hne]
  exact hmem

/-- Every session of the list is reported once, in order. -/
theorem endAll_pending (ids : List String) (p : CommandPipeline β)
    (hstored : ∀ id ∈ ids, id ∈ p.sessions) (hnodup : ids.Nodup) :
    (p.endAll B state status ids).pendingEvents =
      p.pendingEvents ++ ids.map (endEvent state status) := by
  induction ids generalizing p with
  | nil => simp [CommandPipeline.endAll]
  | cons id ids ih =>
    have hcons : p.endAll B state status (id :: ids) =
        (p.terminate B id state status).endAll B state status ids := rfl
    rw [hcons, ih _ (stored_tail hstored hnodup) hnodup.of_cons, CommandPipeline.terminate_pending,
      if_pos (hstored id List.mem_cons_self)]
    simp [endEvent]

/-- Every session of the list is stopped once, in order. -/
theorem endAll_calls (ids : List String) (p : CommandPipeline (β × List Call))
    (hstored : ∀ id ∈ ids, id ∈ p.sessions) (hnodup : ids.Nodup) :
    (p.endAll B.recorded state status ids).backend.2 = p.backend.2 ++ ids.map Call.stopSession := by
  induction ids generalizing p with
  | nil => simp [CommandPipeline.endAll]
  | cons id ids ih =>
    have hcons : p.endAll B.recorded state status (id :: ids) =
        (p.terminate B.recorded id state status).endAll B.recorded state status ids := rfl
    rw [hcons, ih _ (stored_tail hstored hnodup) hnodup.of_cons, CommandPipeline.terminate_backend,
      if_pos (hstored id List.mem_cons_self)]
    simp [Platform.recorded]

end

theorem expiredServos_nodup (a : ControlArbiter) (now : SteadyTime) : (a.expiredServos now).Nodup := by
  have hkeys : (a.claims.toList.map Prod.fst).Nodup := by
    rw [List.Nodup, List.pairwise_map]
    exact a.claims.distinct_keys_toList.imp fun h heq => h (by simp [heq])
  exact hkeys.sublist (List.Sublist.map _ List.filter_sublist)

/-! ## Only expired leases end -/

/-- Between `p` and `q` the sessions of `ended` have gone, whose leases had run out, and each with its
claim, its SDK session and its permits; nothing else has changed but the row of `own`, and the winners
are those of the live claims. -/
structure OnlyLeasesEnd (B : Platform β) (now : SteadyTime) (own : Option String)
    (ended : List String) (p q : CommandPipeline (β × List Call)) : Prop where
  overdue : ∀ id ∈ ended, LeaseOver p now id
  rows : ∀ id, some id ≠ own →
    rowAt B.logged q id = if id ∈ ended then Row.cleared else rowAt B.logged p id
  permits : ∀ joint : String, q.publicationPermits[joint]? =
    (p.publicationPermits[joint]?).filter fun permit => !ended.contains permit.1
  events : q.pendingEvents =
    p.pendingEvents ++ ended.map (endEvent .aborted CommandPipeline.leaseExpiredStatus)
  calls : q.backend.2 = p.backend.2 ++ ended.map Call.stopSession
  winners : ∀ id, id ∈ q.arbiter.winners now ↔ id ∈ (p.arbiter.live now).winners now

section
variable {p q r : CommandPipeline (β × List Call)} {e₀ : β × List Call} {own : Option String}
  {ended ended' : List String}

theorem OnlyLeasesEnd.refl (h : p.arbiter.Ok) : OnlyLeasesEnd B now own [] p p where
  overdue := by simp
  rows := by simp
  permits joint := by cases h : p.publicationPermits[joint]? <;> simp [Option.filter]
  events := by simp
  calls := by simp
  winners id := (ControlArbiter.winners_live h id).symm

theorem OnlyLeasesEnd.trans (h : OnlyLeasesEnd B now own ended p q)
    (h' : OnlyLeasesEnd B now own ended' q r) (hq : q.arbiter.Ok)
    (hover : ∀ id, LeaseOver q now id → LeaseOver p now id) :
    OnlyLeasesEnd B now own (ended ++ ended') p r where
  overdue id hid := by
    rcases List.mem_append.1 hid with hid | hid
    · exact h.overdue id hid
    · exact hover id (h'.overdue id hid)
  rows id hne := by
    rw [h'.rows id hne, h.rows id hne]
    by_cases hid : id ∈ ended
    · simp [hid]
    · simp [hid]
  permits joint := by
    rw [h'.permits, h.permits, Option.filter_filter]
    congr 1
    funext permit
    simp only [List.contains_eq_mem, List.mem_append, Bool.decide_or, Bool.not_or]
  events := by rw [h'.events, h.events, List.map_append, List.append_assoc]
  calls := by rw [h'.calls, h.calls, List.map_append, List.append_assoc]
  winners id := (h'.winners id).trans ((ControlArbiter.winners_live hq id).trans (h.winners id))

/-- The loop over the expired ids, from a state `q` in which only `own` has a new row. -/
theorem settled_onlyLeasesEnd (hover : ∀ id ∈ ended, LeaseOver p now id) (hnodup : ended.Nodup)
    (hstored : ∀ id ∈ ended, id ∈ q.sessions)
    (hkept : ∀ id, some id ≠ own → id ∉ ended → rowAt B.logged q id = rowAt B.logged p id)
    (hpermits : q.publicationPermits = p.publicationPermits)
    (hevents : q.pendingEvents = p.pendingEvents) (hbackend : q.backend = p.backend)
    (hwinners : ∀ id, id ∈ (q.settle B.recorded [] ended).arbiter.winners now ↔
      id ∈ (p.arbiter.live now).winners now) :
    OnlyLeasesEnd B now own ended p (q.settle B.recorded [] ended) where
  overdue := hover
  rows id hne := by
    have hrow : rowAt B.logged (q.settle B.recorded [] ended) id = _ :=
      rowAt_settle (S := B.logged) q [] ended id
    rw [hrow]
    by_cases hid : id ∈ ended
    · obtain ⟨session, hsession⟩ := (q.mem_sessions_iff id).1 (hstored id hid)
      rw [if_pos (.inr hid), if_pos hid, Row.ended_of_some hsession]
    · rw [if_neg (by simp [hid]), if_neg hid]
      exact hkept id hne hid
  permits joint := by
    have hsettle : q.settle B.recorded [] ended =
        q.endAll B.recorded .aborted CommandPipeline.leaseExpiredStatus ended := rfl
    rw [hsettle, CommandPipeline.endAll_permits, hpermits]
  events := by
    rw [← hevents]
    exact endAll_pending ended q hstored hnodup
  calls := by
    rw [← hbackend]
    exact endAll_calls ended q hstored hnodup
  winners := hwinners

/-- Ending sessions whose claims are gone leaves the winners as they are. -/
theorem settle_winners (hgone : ∀ id ∈ ended, q.arbiter.claims[id]? = none) :
    (q.settle B.recorded [] ended).arbiter.winners now = q.arbiter.winners now := by
  apply ControlArbiter.computeWinners_congr
  apply CommandPipeline.settle_claims_eq
  intro k hk
  exact hgone k (hk.resolve_left (by simp))

/-! ## A Move that is refused -/

/-- A Move that is not taken has ended expired servo sessions at most. -/
theorem MoveOutcome.harmless {endpoint : String} {request : SessionRequest} {generation : Nat}
    {result : SubmissionResult} (h : Tables True B.logged e₀ p)
    (hout : MoveOutcome B.recorded p endpoint request now generation result q)
    (hrefused : result.status.ok = false) : ∃ ended, OnlyLeasesEnd B now none ended p q := by
  cases hout with
  | refused => exact ⟨[], .refl h.arbiter⟩
  | admitted _ _ _ _ _ _ _ _ _ _ _ hresult =>
    rw [hresult] at hrefused
    cases hrefused
  | lost policy arbPolicy session _ arbitration hvalid hfresh harb hlost _ =>
    have hmove : isServo (CommandPipeline.claimOf endpoint session).kind = false :=
      (p.arbiter.validateClaim_policy _ harb.valid).choose_spec.2.2.2.symm
    have hlive : isServo (CommandPipeline.claimOf endpoint session).kind = true →
        now - now < arbPolicy.servoLease := by
      intro hservo
      rw [hmove] at hservo
      cases hservo
    have hfresh' : p.arbiter.claims[(CommandPipeline.claimOf endpoint session).sessionId]? = none :=
      Std.TreeMap.getElem?_eq_none harb.fresh
    have hnil : p.arbiter.displaced (CommandPipeline.claimOf endpoint session) arbPolicy now now = [] := by
      apply ControlArbiter.displaced_nil_of_lost h.arbiter hlive _ hlost
      intro old hold
      rw [ControlArbiter.live_claims, hfresh'] at hold
      cases hold
    have hclaims := ControlArbiter.release_lost h.arbiter hfresh' hlive hlost
    rw [harb.preempted, harb.expired, hnil]
    change ∀ k : String, ((p.arbiter.displace _ arbPolicy now now).release
      session.sessionId).claims[k]? = _ at hclaims
    generalize (p.arbiter.displace (CommandPipeline.claimOf endpoint session) arbPolicy now
      now).release session.sessionId = final at hclaims
    refine ⟨p.arbiter.expiredServos now, settled_onlyLeasesEnd (fun id hid => h.expired_iff.1 hid)
      (expiredServos_nodup p.arbiter now) ?_ ?_ rfl rfl rfl ?_⟩
    · intro id hid
      obtain ⟨own, -, hown, -⟩ := h.expired_iff.1 hid
      exact (p.mem_sessions_iff id).2 ⟨own, hown⟩
    · intro id _ hid
      have hsame : final.claims[id]? = p.arbiter.claims[id]? := by
        rw [hclaims, ControlArbiter.live_claims]
        cases hstate : p.arbiter.claims[id]? with
        | none => rfl
        | some state =>
          have hunexpired : state.expired now = false :=
            Bool.eq_false_iff.2 fun hexp =>
              hid ((p.arbiter.mem_expiredServos now).2 ⟨state, hstate, hexp⟩)
          simp [Option.filter, hunexpired]
      simp only [rowAt, CommandPipeline.withArbiter, hsame]
    · intro id
      rw [settle_winners]
      · change id ∈ final.computeWinners now ↔ _
        rw [ControlArbiter.computeWinners_congr hclaims]
        rfl
      · intro k hk
        obtain ⟨state, hstate, hexp⟩ := (p.arbiter.mem_expiredServos now).1 hk
        change final.claims[k]? = none
        rw [hclaims, ControlArbiter.live_claims, hstate]
        simp [Option.filter, hexp]

/-! ## A servo target that is not admitted -/

/-- The stored session of a target, and the state in which it is arbitrated. -/
theorem ServoBase.onlyLeasesEnd {policy : EndpointPolicy} {id : String} {receivedAt : SteadyTime}
    {existing : Option Session} (h : Tables True B.logged e₀ p)
    (hpolicy : ∀ old, p.sessions[id]? = some old → old.submittedAt ≤ receivedAt →
      isServo old.kind = true ∧ p.endpoints[old.endpointName]? = some policy)
    (hbase : ServoBase B.recorded p policy id receivedAt now existing q) :
    ∃ ended, OnlyLeasesEnd B now (some id) ended p q ∧ (∀ k ∈ ended, k = id) ∧
      rowAt B.logged q id = (if id ∈ ended then Row.cleared else rowAt B.logged p id) ∧
      ∀ k, LeaseOver q now k → LeaseOver p now k := by
  cases hbase with
  | fresh hnone => exact ⟨[], .refl h.arbiter, by simp, by simp, fun _ hk => hk⟩
  | kept old hold _ _ => exact ⟨[], .refl h.arbiter, by simp, by simp, fun _ hk => hk⟩
  | renewed old hold horder hlease =>
    obtain ⟨hservo, hregistered⟩ := hpolicy old hold horder
    have hover : LeaseOver p now id := ⟨old, policy, hold, hservo, hregistered, hlease⟩
    have hmem : id ∈ p.sessions := (p.mem_sessions_iff id).2 ⟨old, hold⟩
    have hsettle : p.settle B.recorded [] [id] =
        p.terminate B.recorded id .aborted CommandPipeline.leaseExpiredStatus := rfl
    have hclaims : ∀ k : String, (p.settle B.recorded [] [id]).arbiter.claims[k]? =
        if k = id then none else p.arbiter.claims[k]? := by
      intro k
      rw [hsettle, CommandPipeline.terminate_claims]
      simp [hmem]
    have hwinners : ∀ k, k ∈ (p.settle B.recorded [] [id]).arbiter.winners now ↔
        k ∈ (p.arbiter.live now).winners now := by
      intro k
      refine Iff.trans ?_ (ControlArbiter.winners_live h.arbiter k).symm
      have hok : (p.settle B.recorded [] [id]).arbiter.Ok :=
        terminate_arbiterOk (S := B.logged) h.arbiter id _ _ _
      refine ControlArbiter.wins_of_removed h.arbiter hok ?_ ?_ k
      · intro j state hj _
        rw [hclaims] at hj
        split at hj
        · cases hj
        · exact hj
      · intro j hj
        rw [hclaims, if_neg]
        rintro rfl
        obtain ⟨state, hstate, hlive⟩ := ControlArbiter.winner_stored h.arbiter hj
        obtain ⟨state', hstate', hexpired⟩ :=
          (p.arbiter.mem_expiredServos now).1 (h.expired_iff.2 hover)
        obtain rfl : state = state' := Option.some.inj (hstate.symm.trans hstate')
        rw [hlive] at hexpired
        cases hexpired
    have hended : OnlyLeasesEnd B now none [id] p (p.settle B.recorded [] [id]) :=
      settled_onlyLeasesEnd (by simpa using hover) (by simp) (by simpa using hmem)
        (fun _ _ _ => rfl) rfl rfl rfl hwinners
    refine ⟨[id], ⟨hended.overdue, fun k _ => hended.rows k (by simp), hended.permits, hended.events,
      hended.calls, hended.winners⟩, by simp, hended.rows id (by simp), ?_⟩
    rintro k ⟨session, policy', hsession, hrest⟩
    rw [CommandPipeline.terminate_sessions] at hsession
    split at hsession
    · cases hsession
    · rw [CommandPipeline.terminate_endpoints] at hrest
      exact ⟨session, policy', hsession, hrest⟩

/-- Two sessions of one endpoint have the same joints. -/
theorem Identity.same_joints {id id' : String} {session session' : Session}
    (h : Identity p id session) (h' : Identity p id' session')
    (hname : session.endpointName = session'.endpointName) :
    session.jointNames = session'.jointNames := by
  obtain ⟨policy, hpolicy, -, hgroup⟩ := h.policy
  obtain ⟨policy', hpolicy', -, hgroup'⟩ := h'.policy
  rw [hname, hpolicy'] at hpolicy
  obtain rfl := Option.some.inj hpolicy
  obtain ⟨model, hmodel, hjoints⟩ := h.group
  obtain ⟨model', hmodel', hjoints'⟩ := h'.group
  rw [← hgroup, hgroup', hmodel'] at hmodel
  obtain rfl := Option.some.inj hmodel
  exact hjoints.symm.trans hjoints'

/-- What stands under the derived id of a target is a servo session of its endpoint. -/
theorem InOrder.stored_servo {endpoint : String} {request : SessionRequest}
    {receivedAt : SteadyTime} {generation : Nat} {policy : EndpointPolicy} {session old : Session}
    (h : InOrder B.logged e₀ names p)
    (hvalid : Validated p endpoint request generation true policy session)
    (hpast : receivedAt ≤ now) (hlive : now - receivedAt < policy.servoLease)
    (hold : p.sessions[session.sessionId]? = some old) (horder : old.submittedAt ≤ receivedAt) :
    isServo old.kind = true ∧ old.endpointName = endpoint := by
  have hmade := madeFor_of_valid h.sound hvalid.registered hvalid.checked
  have hid := hmade.derived rfl
  have hmeets := h.ids.named.servoMeetsServo (.updateServo endpoint request receivedAt now generation)
  have hservo : isServo old.kind = true :=
    hmeets policy session hvalid hpast hlive old (hid ▸ hold) horder
  refine ⟨hservo, servoId_injective ?_⟩
  rw [← ((h.tables.rows _).identity trivial old hold).servo hservo, hid]

/-- The claim that a target replaces is one of its own endpoint. -/
theorem InOrder.servo_replaces {endpoint : String} {request : SessionRequest}
    {receivedAt : SteadyTime} {generation : Nat} {policy : EndpointPolicy} {session old : Session}
    {state : ClaimState} (h : InOrder B.logged e₀ names p)
    (hvalid : Validated p endpoint request generation true policy session)
    (hold : p.sessions[session.sessionId]? = some old) (horder : old.submittedAt ≤ receivedAt)
    (hname : old.endpointName = endpoint)
    (hstate : p.arbiter.claims[session.sessionId]? = some state) :
    ControlArbiter.Replaces (CommandPipeline.claimOf endpoint session) policy receivedAt state := by
  have hrow := h.tables.rows session.sessionId
  have hmade := madeFor_of_valid h.sound hvalid.registered hvalid.checked
  have hidentity := identity_of_valid h.sound hvalid.registered hvalid.checked receivedAt
  obtain ⟨hclaim, htime, policy', hpolicy', hpriority, -⟩ := hrow.paired hold hstate
  rw [hname, hvalid.registered] at hpolicy'
  obtain rfl := Option.some.inj hpolicy'
  refine ⟨?_, hpriority, htime ▸ horder⟩
  have hjoints := (hrow.identity trivial old hold).same_joints hidentity
    (hname.trans hmade.endpointEq.symm)
  rw [hclaim]
  exact hjoints

/-- The claim that a target finds when it is arbitrated. -/
theorem ServoBase.replaces {endpoint : String} {request : SessionRequest} {receivedAt : SteadyTime}
    {generation : Nat} {policy : EndpointPolicy} {session : Session} {existing : Option Session}
    (h : InOrder B.logged e₀ names p)
    (hvalid : Validated p endpoint request generation true policy session)
    (hpast : receivedAt ≤ now) (hlive : now - receivedAt < policy.servoLease)
    (hbase : ServoBase B.recorded p policy session.sessionId receivedAt now existing q)
    (htables : Tables True B.logged e₀ q) {state : ClaimState}
    (hstate : q.arbiter.claims[session.sessionId]? = some state) :
    ControlArbiter.Replaces (CommandPipeline.claimOf endpoint session) policy receivedAt state := by
  -- without a session there is no claim
  have habsent : q.sessions[session.sessionId]? = none → False := by
    intro hnone
    have hclaim := (htables.rows session.sessionId).unclaimed hnone
    rw [show (rowAt B.logged q session.sessionId).claim = some state from hstate] at hclaim
    cases hclaim
  cases hbase with
  | fresh hnone => exact (habsent hnone).elim
  | renewed old _ _ _ => exact (habsent (by simp)).elim
  | kept old hold horder _ =>
    obtain ⟨-, hname⟩ := h.stored_servo hvalid hpast hlive hold horder
    exact h.servo_replaces hvalid hold horder hname hstate

/-- The arbitration of a target that does not win. -/
theorem arbitrated_onlyLeasesEnd {endpoint : String} {policy : EndpointPolicy} {session : Session}
    {existing : Option Session} {receivedAt : SteadyTime} (h : Tables True B.logged e₀ p)
    (hfound : p.sessions[session.sessionId]? = existing)
    (hlive : now - receivedAt < policy.servoLease)
    (hreplaces : ∀ old, p.arbiter.claims[session.sessionId]? = some old →
      ControlArbiter.Replaces (CommandPipeline.claimOf endpoint session) policy receivedAt old)
    (hlost : session.sessionId ∉ (p.arbiter.displace (CommandPipeline.claimOf endpoint session) policy
      receivedAt now).computeWinners now)
    (hsettled : q = ((p.withArbiter (p.arbiter.displace (CommandPipeline.claimOf endpoint session)
      policy receivedAt now)).storeServo endpoint session existing receivedAt).settle B.recorded
        (p.arbiter.displaced (CommandPipeline.claimOf endpoint session) policy receivedAt now)
        ((p.arbiter.expiredServos now).filter (· != session.sessionId))) :
    OnlyLeasesEnd B now (some session.sessionId)
        ((p.arbiter.expiredServos now).filter (· != session.sessionId)) p q ∧
      rowAt B.logged q session.sessionId = { rowAt B.logged p session.sessionId with
        session := some (servoSession session existing receivedAt)
        claim := q.arbiter.claims[session.sessionId]? } := by
  have hlive' : isServo (CommandPipeline.claimOf endpoint session).kind = true →
      now - receivedAt < policy.servoLease := fun _ => hlive
  have hold : ∀ old, (p.arbiter.live now).claims[session.sessionId]? = some old →
      ControlArbiter.Replaces (CommandPipeline.claimOf endpoint session) policy receivedAt old := by
    intro old hold
    rw [ControlArbiter.live_claims, Option.filter_eq_some_iff] at hold
    exact hreplaces old hold.1
  have hnil := ControlArbiter.displaced_nil_of_lost h.arbiter hlive' hold hlost
  have hclaims := CommandPipeline.settled_claims B.recorded p endpoint session existing policy
    receivedAt now
  rw [← hsettled] at hclaims
  rw [hnil] at hsettled
  -- `stored` is the state before the loop
  generalize hstored : (p.withArbiter (p.arbiter.displace (CommandPipeline.claimOf endpoint session)
    policy receivedAt now)).storeServo endpoint session existing receivedAt = stored at hsettled
  have hrow : ∀ k, rowAt B.logged stored k = if k = session.sessionId
      then { rowAt B.logged p k with
        session := some (servoSession session existing receivedAt)
        claim := (p.arbiter.displace (CommandPipeline.claimOf endpoint session) policy receivedAt
          now).claims[k]? }
      else { rowAt B.logged p k with
        claim := (p.arbiter.displace (CommandPipeline.claimOf endpoint session) policy receivedAt
          now).claims[k]? } := by
    intro k
    have hstart : (p.withArbiter (p.arbiter.displace (CommandPipeline.claimOf endpoint session) policy
        receivedAt now)).sessions[session.sessionId]? = existing := hfound
    rw [← hstored]
    exact rowAt_storeServo hstart k
  have hpermits : stored.publicationPermits = p.publicationPermits := by
    rw [← hstored, CommandPipeline.storeServo_permits]
    exact CommandPipeline.withArbiter_frame (fun q => q.publicationPermits) (fun _ _ => rfl) p _
  have hevents : stored.pendingEvents = p.pendingEvents := by
    rw [← hstored, CommandPipeline.storeServo_pending]
    exact CommandPipeline.withArbiter_frame (fun q => q.pendingEvents) (fun _ _ => rfl) p _
  have hbackend : stored.backend = p.backend := by
    rw [← hstored, CommandPipeline.storeServo_backend]
    exact CommandPipeline.withArbiter_frame (fun q => q.backend) (fun _ _ => rfl) p _
  constructor
  · rw [hsettled]
    refine settled_onlyLeasesEnd ?_ ((expiredServos_nodup p.arbiter now).filter _) ?_ ?_ hpermits
      hevents hbackend ?_
    · intro id hid
      exact h.expired_iff.1 (List.mem_filter.1 hid).1
    · intro id hid
      obtain ⟨hexp, hne⟩ := List.mem_filter.1 hid
      obtain ⟨own, -, hown, -⟩ := h.expired_iff.1 hexp
      have hsession := congrArg Row.session (hrow id)
      rw [if_neg (by simpa using hne)] at hsession
      exact (stored.mem_sessions_iff id).2 ⟨own, hsession.trans hown⟩
    · intro id hne hid
      have hne' : id ≠ session.sessionId := by simpa using hne
      rw [hrow, if_neg hne', p.arbiter.displace_kept _ _ _ _ hne']
      · rfl
      · simpa [hnil, hne'] using hid
    · intro id
      rw [← hsettled]
      refine Iff.trans ?_ (ControlArbiter.wins_of_lost h.arbiter hlive' hold hlost id)
      rw [ControlArbiter.winners, ControlArbiter.computeWinners_congr hclaims]
  · have hkept := rowAt_settle (S := B.logged) stored []
      ((p.arbiter.expiredServos now).filter (· != session.sessionId)) session.sessionId
    rw [if_neg (by simp), hrow, if_pos rfl, ← hclaims] at hkept
    rw [hsettled] at hkept ⊢
    exact hkept

/-- The caller's own claim and target, stored in the background. -/
structure Background (B : Platform β) (endpoint : String) (request : SessionRequest)
    (receivedAt : SteadyTime) (id : String) (ended : List String)
    (p q : CommandPipeline (β × List Call)) (session : Session) (state : ClaimState) : Prop where
  row : rowAt B.logged q id = { (if id ∈ ended then Row.cleared else rowAt B.logged p id) with
    session := some session, claim := some state }
  endpointEq : session.endpointName = endpoint
  requestEq : session.request = request
  submittedEq : session.submittedAt = receivedAt
  kept : id ∉ ended → ∀ old, p.sessions[id]? = some old →
    session = { old with request, submittedAt := receivedAt }
  claimEq : state.claim = CommandPipeline.claimOf endpoint session
  receivedEq : state.receivedAt = receivedAt

/-- A target that is not admitted has ended expired servo sessions at most, and is stored. -/
theorem ServoOutcome.background {endpoint : String} {request : SessionRequest}
    {receivedAt : SteadyTime} {generation : Nat} {result : SubmissionResult}
    (h : InOrder B.logged e₀ names p)
    (hout : ServoOutcome B.recorded p endpoint request receivedAt now generation result q)
    (hok : result.status.ok = true) (hlost : result.sessionId ∉ q.arbiter.winners now) :
    ∃ ended session state, OnlyLeasesEnd B now (some result.sessionId) ended p q ∧
      Background B endpoint request receivedAt result.sessionId ended p q session state := by
  have hmeets := h.ids.named.servoMeetsServo
    (.updateServo endpoint request receivedAt now generation)
  have hafter : Tables True B.logged e₀ q :=
    ServoOutcome.tables (S := B.logged) h.sound h.tables (fun _ => hmeets) hout
  cases hout with
  | refused _ hno => rw [hno] at hok; cases hok
  | rejected _ _ _ _ _ _ _ _ _ _ hno => rw [hno] at hok; cases hok
  | accepted policy arbPolicy session existing base settled _ hupdated hsettled hresult =>
    subst hresult
    simp only at hlost ⊢
    have hvalid := hupdated.valid
    have hmade := madeFor_of_valid h.sound hvalid.registered hvalid.checked
    obtain ⟨hg, he, hfound⟩ := hupdated.start.tables
    have hbase : Tables True B.logged e₀ base :=
      ServoBase.tables_ok (S := B.logged) h.tables hupdated.start
    have helems : Elems B.recorded (.updateServo endpoint request receivedAt now generation)
        { pipeline := p } { pipeline := base } := hupdated.start.elems
    obtain rfl : policy = arbPolicy := by
      have hpolicy := hupdated.found
      rw [(helems.sound h.sound).policies, he, hvalid.registered] at hpolicy
      exact Option.some.inj hpolicy
    have hreplaces : ∀ old, base.arbiter.claims[session.sessionId]? = some old →
        ControlArbiter.Replaces (CommandPipeline.claimOf endpoint session) policy receivedAt old :=
      fun old hold => hupdated.start.replaces h hvalid hupdated.past hupdated.live hbase hold
    -- the target did not win, whatever the permits of its joints
    have hout : session.sessionId ∉ (base.arbiter.displace (CommandPipeline.claimOf endpoint session)
        policy receivedAt now).computeWinners now := by
      intro hwon
      rw [if_pos hwon] at hlost
      apply hlost
      change session.sessionId ∈ settled.arbiter.computeWinners now
      rw [hsettled, ControlArbiter.computeWinners_congr
        (CommandPipeline.settled_claims B.recorded base endpoint session existing policy receivedAt now)]
      exact hwon
    rw [if_neg hout] at hafter ⊢
    obtain ⟨ended, hstart, hown, hrow, hover⟩ := hupdated.start.onlyLeasesEnd h.tables
      fun old hold horder => by
        obtain ⟨hservo, hname⟩ := h.stored_servo hvalid hupdated.past hupdated.live hold horder
        rw [hname]
        exact ⟨hservo, hvalid.registered⟩
    obtain ⟨harb, hnew⟩ := arbitrated_onlyLeasesEnd hbase hfound hupdated.live hreplaces hout
      hsettled
    have hsession : rowAt B.logged settled session.sessionId = { (if session.sessionId ∈ ended
        then Row.cleared else rowAt B.logged p session.sessionId) with
        session := some (servoSession session existing receivedAt)
        claim := settled.arbiter.claims[session.sessionId]? } := by
      rw [← hrow]
      exact hnew
    have hfinal : settled.sessions[session.sessionId]? =
        some (servoSession session existing receivedAt) := congrArg Row.session hsession
    obtain ⟨state, hstate, -⟩ := (hafter.rows _).claimed _ hfinal
    obtain ⟨hclaim, htime, -⟩ := (hafter.rows _).paired hfinal hstate
    have hexisting : ∀ old, existing = some old →
        p.sessions[session.sessionId]? = some old ∧ old.submittedAt ≤ receivedAt := by
      rintro old rfl
      cases hupdated.start with
      | kept _ hold horder _ => exact ⟨hold, horder⟩
    have hendpoint : (servoSession session existing receivedAt).endpointName = endpoint := by
      cases existing with
      | none => exact hmade.endpointEq
      | some old =>
        obtain ⟨hold, horder⟩ := hexisting old rfl
        exact (h.stored_servo hvalid hupdated.past hupdated.live hold horder).2
    have hrequest : (servoSession session existing receivedAt).request = request ∧
        (servoSession session existing receivedAt).submittedAt = receivedAt := by
      cases existing with
      | none => exact ⟨hmade.requestEq, rfl⟩
      | some old => exact ⟨hmade.requestEq, rfl⟩
    rw [hendpoint] at hclaim
    rw [hrequest.2] at htime
    -- the session itself is among the ended ones iff its own lease had run out
    have hmem : session.sessionId ∈
        ended ++ (base.arbiter.expiredServos now).filter (· != session.sessionId) ↔
        session.sessionId ∈ ended := by
      simp
    refine ⟨_, _, state, hstart.trans harb hbase.arbiter hover, ?_, hendpoint, hrequest.1,
      hrequest.2, ?_, hclaim, htime⟩
    · have hclaimed : settled.arbiter.claims[session.sessionId]? = some state := hstate
      simp only [hmem]
      rw [hsession, hclaimed]
    · intro hnot old hold
      rw [hmem] at hnot
      rw [if_neg hnot] at hrow
      have hsame : existing = some old := by
        rw [← hfound, ← hold]
        exact congrArg Row.session hrow
      rw [hsame, servoSession, hmade.requestEq]

/-- The claim of a checked request is valid for the arbiter. -/
theorem claim_valid {endpoint : String} {request : SessionRequest} {policy : EndpointPolicy}
    {servo : Bool} {session : Session} (hsound : Sound p)
    (hpolicy : p.endpoints[endpoint]? = some policy)
    (hvalid : validateRequest p.groups policy request servo = .ok session) :
    (p.arbiter.validateClaim (CommandPipeline.claimOf endpoint session) servo).ok = true := by
  have hadm := validateRequest_ok hvalid
  have hmade := madeFor_of_valid hsound hpolicy hvalid
  have hok := sessionOk_of_valid hsound hpolicy hvalid 0
  obtain ⟨group, hgroup, hjoints, hgroupOk⟩ := hok.group
  obtain ⟨hname, hjointNames, hunique, -⟩ := group.valid_iff.1 hgroupOk
  have hendpoint := (hsound.endpointOk endpoint policy hpolicy).2.1
  have hgroupName : session.groupName.isEmpty = false := by
    rw [← (hsound.groupOk _ group hgroup).1]
    exact hname
  have hkind : policy.kind = session.kind := by
    rw [hadm.kind, Session.kind, hmade.requestEq]
  have hsame : policy.groupName = session.groupName := by
    rw [hadm.group, hadm.session]
  have hsid : session.sessionId.isEmpty = false := hok.nonempty
  have hjoints' : group.jointNames = session.jointNames := hjoints
  rw [hjoints'] at hjointNames hunique
  have hfound : p.arbiter.policies[endpoint]? = some policy := (hsound.policies endpoint).trans hpolicy
  unfold ControlArbiter.validateClaim
  simp [CommandPipeline.claimOf, hsid, hendpoint, hgroupName, hjointNames, hunique, hfound, hkind,
    hsame, hmade.kind]

/-- A refused target changes nothing: the arbiter takes what the pipeline has checked. -/
theorem ServoOutcome.unchanged {endpoint : String} {request : SessionRequest}
    {receivedAt : SteadyTime} {generation : Nat} {result : SubmissionResult}
    (h : InOrder B.logged e₀ names p)
    (hout : ServoOutcome B.recorded p endpoint request receivedAt now generation result q)
    (hrefused : result.status.ok = false) : q = p := by
  cases hout with
  | refused => rfl
  | accepted _ _ _ _ _ _ _ _ _ hresult => rw [hresult] at hrefused; cases hrefused
  | rejected _ _ policy session existing hvalid hlive hpast hbase harb _ =>
    exfalso
    have htables : Tables True B.logged e₀ q :=
      ServoBase.tables_ok (S := B.logged) h.tables hbase
    have helems : Elems B.recorded (.updateServo endpoint request receivedAt now generation)
        { pipeline := p } { pipeline := q } := hbase.elems
    have hsound : Sound q := helems.sound h.sound
    obtain ⟨hg, he, -⟩ := hbase.tables
    have hregistered : q.endpoints[endpoint]? = some policy := he ▸ hvalid.registered
    rw [ControlArbiter.updateServo_accepts] at harb
    · cases harb
    · exact claim_valid hsound hregistered (hg ▸ hvalid.checked)
    · exact (hsound.policies endpoint).trans hregistered
    · exact hpast
    · exact hlive
    · intro state hstate
      exact (hbase.replaces h hvalid hpast hlive htables hstate).2.2

end

/-! ## Every reachable state -/

/-- In every state that a run reaches whose Moves have ids of their own: a Move that is refused, and
a servo target that is stored without a win, end servo sessions whose lease has run out and nothing
else, and the winners are those of the live claims; a refused target changes nothing. -/
theorem submission_harmless (B : Platform β) (lib : MathLib) (e : β) (groups : List JointGroupModel)
    (config : CommandPipelineConfig) {ops : List Op} (hfree : MoveIdsFree ops) :
    let p := (machine B.recorded lib).run (CommandPipeline.create (e, []) groups config) ops
    (∀ endpoint request now generation,
      (p.submitMove B.recorded endpoint request now generation).1.status.ok = false →
      ∃ ended, OnlyLeasesEnd B now none ended p
        (p.submitMove B.recorded endpoint request now generation).2) ∧
    ∀ endpoint request receivedAt now generation,
      let r := p.updateServo B.recorded endpoint request receivedAt now generation
      (r.1.status.ok = false → r.2 = p) ∧
      (r.1.status.ok = true → r.1.sessionId ∉ r.2.arbiter.winners now →
        ∃ ended session state, OnlyLeasesEnd B now (some r.1.sessionId) ended p r.2 ∧
          Background B endpoint request receivedAt r.1.sessionId ended p r.2 session state) := by
  intro p
  have hrun : InOrder B.logged (e, []) (endpointNames ops) p :=
    run_inOrder groups config (B.logged_fresh e) hfree
  constructor
  · intro endpoint request now generation hrefused
    exact (submitMove_outcome B.recorded p endpoint request now generation).harmless hrun.tables
      hrefused
  · intro endpoint request receivedAt now generation
    have hout := updateServo_outcome B.recorded p endpoint request receivedAt now generation
    constructor
    · intro hrefused
      exact hout.unchanged hrun hrefused
    · intro hok hlost
      exact hout.background hrun hok hlost

namespace Fixture

/-- A servo session of the left arm outranks everything; another one, of the right arm, has run out
when a Move of both arms comes. -/
def outranked : List Op :=
  [endpoint "mv" .moveJ "whole" 10, endpoint "sv" .servoJ "left" 20, endpoint "sw" .servoJ "right" 5,
    servoJ "sw" "right" rightJoints 0, servoJ "sv" "left" leftJoints 90]

/-- The pipeline in which that Move arrives. -/
def outrankedState : CommandPipeline (FakeSdk × List Call) :=
  (machine FakeSdk.platform.toPlatform.recorded mathLib).run
    (CommandPipeline.create ({}, []) allGroups {}) outranked

def wholeMove : SessionRequest := .moveJ ⟨"m", "whole", target (leftJoints ++ rightJoints) (1 / 10), {}⟩

end Fixture

open Fixture in
theorem submission_harmless_outranked :
    ∃ ended, OnlyLeasesEnd FakeSdk.platform.toPlatform (milliseconds 110) none ended outrankedState
      (outrankedState.submitMove FakeSdk.platform.toPlatform.recorded "mv" wholeMove
        (milliseconds 110) 0).2 :=
  (submission_harmless FakeSdk.platform.toPlatform mathLib {} allGroups {}
    (show MoveIdsFree outranked by decide)).1 "mv" wholeMove (milliseconds 110) 0 (by decide +kernel)

end HumanoidMotion
