import HumanoidMotion.Arbitration.Claims
import HumanoidMotion.Motion.Accepted
import HumanoidMotion.Motion.Terminate
/-
# What a submission can do

`MoveOutcome` and `ServoOutcome` list the ways in which `submitMove` and
`updateServo` can end, with the arbitration behind each of them;
`submitMove_outcome` and `updateServo_outcome` prove that there are no others.
-/

namespace HumanoidMotion

variable {β : Type} (B : Platform β)

/-- The sessions an arbitration has ended: preempted Moves, then the expired servos `expired`. -/
def CommandPipeline.settle (p : CommandPipeline β) (preempted expired : List String) :
    CommandPipeline β :=
  (p.endAll B .preempted CommandPipeline.preemptedStatus preempted).endAll B .aborted
    CommandPipeline.leaseExpiredStatus expired

/-- Settling touches nothing that no termination touches. -/
theorem CommandPipeline.settle_frame {γ : Type} (f : CommandPipeline β → γ)
    (hf : ∀ (p : CommandPipeline β) id state status, f (p.terminate B id state status) = f p)
    (p : CommandPipeline β) (preempted expired : List String) :
    f (p.settle B preempted expired) = f p :=
  (endAll_frame _ _ _ f (fun p id => hf p id _ _) expired).trans
    (endAll_frame _ _ _ f (fun p id => hf p id _ _) preempted)

theorem CommandPipeline.settle_sessions (p : CommandPipeline β) (preempted expired : List String)
    (k : String) : (p.settle B preempted expired).sessions[k]? =
      if k ∈ preempted ∨ k ∈ expired then none else p.sessions[k]? := by
  unfold settle
  rw [endAll_sessions, endAll_sessions]
  by_cases h : k ∈ expired <;> by_cases h' : k ∈ preempted <;> simp [h, h']

/-- Ending sessions whose claims are gone already leaves the claims as they are. -/
theorem CommandPipeline.endAll_claims_eq {state : SessionState} {status : MotionStatus}
    (ids : List String) (p : CommandPipeline β)
    (h : ∀ k ∈ ids, p.arbiter.claims[k]? = none) (k : String) :
    (p.endAll B state status ids).arbiter.claims[k]? = p.arbiter.claims[k]? := by
  induction ids generalizing p with
  | nil => rfl
  | cons id ids ih =>
    have hterm : ∀ j : String, (p.terminate B id state status).arbiter.claims[j]? =
        p.arbiter.claims[j]? := by
      intro j
      rw [terminate_claims]
      split
      · rename_i hj
        rw [hj.1, h id List.mem_cons_self]
      · rfl
    exact (ih (p.terminate B id state status) fun j hj => by
      rw [hterm]; exact h j (List.mem_cons_of_mem _ hj)).trans (hterm k)

theorem CommandPipeline.settle_claims_eq (p : CommandPipeline β) (preempted expired : List String)
    (h : ∀ k : String, k ∈ preempted ∨ k ∈ expired → p.arbiter.claims[k]? = none) (k : String) :
    (p.settle B preempted expired).arbiter.claims[k]? = p.arbiter.claims[k]? := by
  have hfirst : ∀ j : String,
      (p.endAll B .preempted preemptedStatus preempted).arbiter.claims[j]? =
        p.arbiter.claims[j]? :=
    endAll_claims_eq B preempted p fun k hk => h k (.inl hk)
  unfold settle
  rw [endAll_claims_eq B expired _ fun k hk => by rw [hfirst]; exact h k (.inr hk), hfirst]

def CommandPipeline.withArbiter (p : CommandPipeline β) (arbiter : ControlArbiter) :
    CommandPipeline β := { p with arbiter }

/-- Nothing else but the arbiter is new. -/
theorem CommandPipeline.withArbiter_frame {γ : Type} (f : CommandPipeline β → γ)
    (hf : ∀ (p : CommandPipeline β) arbiter, f { p with arbiter } = f p) (p : CommandPipeline β)
    (arbiter : ControlArbiter) : f (p.withArbiter arbiter) = f p := hf p arbiter

def CommandPipeline.withNew (p : CommandPipeline β) (session : Session) : CommandPipeline β :=
  { p with sessions := p.sessions.insertIfNew session.sessionId session }

/-! ## Storing a servo session -/

section
variable (p : CommandPipeline β) (endpoint : String) (session : Session) (existing : Option Session)
  (receivedAt : SteadyTime)

@[simp] theorem CommandPipeline.storeServo_arbiter :
    (p.storeServo endpoint session existing receivedAt).arbiter = p.arbiter := by
  cases existing <;> rfl

@[simp] theorem CommandPipeline.storeServo_groups :
    (p.storeServo endpoint session existing receivedAt).groups = p.groups := by
  cases existing <;> rfl

@[simp] theorem CommandPipeline.storeServo_endpoints :
    (p.storeServo endpoint session existing receivedAt).endpoints = p.endpoints := by
  cases existing <;> rfl

@[simp] theorem CommandPipeline.storeServo_backend :
    (p.storeServo endpoint session existing receivedAt).backend = p.backend := by
  cases existing <;> rfl

@[simp] theorem CommandPipeline.storeServo_permits :
    (p.storeServo endpoint session existing receivedAt).publicationPermits = p.publicationPermits := by
  cases existing <;> rfl

@[simp] theorem CommandPipeline.storeServo_enabled :
    (p.storeServo endpoint session existing receivedAt).outputEnabled = p.outputEnabled := by
  cases existing <;> rfl

@[simp] theorem CommandPipeline.storeServo_pending :
    (p.storeServo endpoint session existing receivedAt).pendingEvents = p.pendingEvents := by
  cases existing <;> rfl

/-- Storing the updated session leaves the other ids alone. -/
theorem CommandPipeline.storeServo_other {id : String} (hne : id ≠ session.sessionId) :
    (p.storeServo endpoint session existing receivedAt).sessions[id]? = p.sessions[id]? := by
  cases existing with
  | none => simp [CommandPipeline.storeServo, Std.TreeMap.getElem?_insertIfNew, Ne.symm hne]
  | some old => simp [CommandPipeline.storeServo, Std.TreeMap.getElem?_insert, Ne.symm hne]

/-- The stored session carries the request of the target, whatever session it was before. -/
theorem CommandPipeline.storeServo_self {stored : Session}
    (hstart : p.sessions[session.sessionId]? = existing)
    (hfound : (p.storeServo endpoint session existing receivedAt).sessions[session.sessionId]? =
      some stored) : stored.request = session.request ∧ stored.submittedAt = receivedAt := by
  cases existing with
  | none =>
    have hfree : session.sessionId ∉ p.sessions := by
      rw [Std.TreeMap.mem_iff_isSome_getElem?, hstart]
      simp
    simp only [CommandPipeline.storeServo, Std.TreeMap.getElem?_insertIfNew,
      Std.LawfulEqOrd.compare_eq_iff_eq, hfree, not_false_eq_true, and_self, if_true,
      Option.some.injEq] at hfound
    subst hfound
    exact ⟨rfl, rfl⟩
  | some old =>
    simp only [CommandPipeline.storeServo, Std.TreeMap.getElem?_insert_self,
      Option.some.injEq] at hfound
    subst hfound
    exact ⟨rfl, rfl⟩

end

/-- A request that passed every check before the arbiter. -/
structure Validated (s : CommandPipeline β) (endpoint : String) (request : SessionRequest)
    (generation : Nat) (servo : Bool) (policy : EndpointPolicy) (session : Session) : Prop where
  enabled : s.outputEnabled = true
  generation : generation = s.outputGeneration
  registered : s.endpoints[endpoint]? = some policy
  checked : validateRequest s.groups policy request servo = .ok session

/-- The ways in which `submitMove` can end. -/
inductive MoveOutcome (s : CommandPipeline β) (endpoint : String) (request : SessionRequest)
    (now : SteadyTime) (generation : Nat) : SubmissionResult → CommandPipeline β → Prop
  | refused (result : SubmissionResult) (h : result.status.ok = false) :
      MoveOutcome s endpoint request now generation result s
  /-- The Move did not win: it is taken back, and expired servos have gone. -/
  | lost (policy arbPolicy : EndpointPolicy) (session : Session) (result : SubmissionResult)
      (arbitration : ArbitrationResult)
      (hvalid : Validated s endpoint request generation false policy session)
      (hfresh : s.sessions[session.sessionId]? = none)
      (harb : s.arbiter.MoveSubmitted (CommandPipeline.claimOf endpoint session) now arbitration
        arbPolicy)
      (hlost : session.sessionId ∉ (s.arbiter.displace (CommandPipeline.claimOf endpoint session)
        arbPolicy now now).computeWinners now)
      (h : result.status.ok = false) :
      MoveOutcome s endpoint request now generation result
        ((s.withArbiter ((s.arbiter.displace (CommandPipeline.claimOf endpoint session)
          arbPolicy now now).release session.sessionId)).settle B
          arbitration.preemptedMoveIds arbitration.expiredServoIds)
  | admitted (policy arbPolicy : EndpointPolicy) (session : Session) (result : SubmissionResult)
      (arbitration : ArbitrationResult)
      (hvalid : Validated s endpoint request generation false policy session)
      (hfresh : s.sessions[session.sessionId]? = none)
      (harb : s.arbiter.MoveSubmitted (CommandPipeline.claimOf endpoint session) now arbitration
        arbPolicy)
      (hwon : session.sessionId ∈ (s.arbiter.displace (CommandPipeline.claimOf endpoint session)
        arbPolicy now now).computeWinners now)
      (settled : CommandPipeline β)
      (hsettled : settled = (s.withArbiter (s.arbiter.displace
        (CommandPipeline.claimOf endpoint session) arbPolicy now now)).settle B
        arbitration.preemptedMoveIds arbitration.expiredServoIds)
      (h : result = { status := .Ok, sessionId := session.sessionId }) :
      MoveOutcome s endpoint request now generation result
        ((settled.withNew { session with submittedAt := now }).revokeOutputs session.jointNames)

theorem submitMove_outcome (s : CommandPipeline β) (endpoint : String) (request : SessionRequest)
    (now : SteadyTime) (generation : Nat) :
    MoveOutcome B s endpoint request now generation
      (s.submitMove B endpoint request now generation).1
      (s.submitMove B endpoint request now generation).2 := by
  unfold CommandPipeline.submitMove
  split
  · exact .refused _ rfl
  · rename_i hopen
    simp only [ne_eq, decide_not, Bool.or_eq_true, Bool.not_eq_true', decide_eq_false_iff_not,
      not_or, Bool.not_eq_false, not_not] at hopen
    split
    · exact .refused _ rfl
    · rename_i policy hpolicy
      split
      · rename_i status hstatus
        exact .refused _ (validateRequest_error hstatus)
      · rename_i session hvalid
        split
        · exact .refused _ rfl
        · rename_i hnew
          have hfresh : s.sessions[session.sessionId]? = none :=
            Std.TreeMap.getElem?_eq_none_of_contains_eq_false (Bool.eq_false_iff.2 hnew)
          have hpre : Validated s endpoint request generation false policy session :=
            ⟨hopen.1, hopen.2, hpolicy, hvalid⟩
          unfold CommandPipeline.arbitrateMove
          simp only [CommandPipeline.processPreemptions_eq, CommandPipeline.processExpired_eq]
          rcases s.arbiter.submitMove_cases (CommandPipeline.claimOf endpoint session) now with
            ⟨hstatus, hadm, hpreempted, hexpired, harb⟩ | ⟨arbPolicy, hsub, hwon, hstatus, hadm, harb⟩ |
            ⟨arbPolicy, hsub, hlost, hstatus, hadm, harb⟩
          · rw [hpreempted, hexpired, harb, if_pos (by simp [hstatus])]
            exact .refused _ hstatus
          · rw [harb, if_neg (by simp [hstatus, hadm])]
            exact .admitted policy arbPolicy session _ _ hpre hfresh hsub hwon _ rfl rfl
          · rw [harb, if_pos (by simp [hstatus])]
            exact .lost policy arbPolicy session _ _ hpre hfresh hsub hlost hstatus

/-- Settling a submitted Move leaves the claims that `displace` left. -/
theorem CommandPipeline.settledMove_claims (s : CommandPipeline β) {claim : CommandClaim}
    {policy : EndpointPolicy} {now : SteadyTime} {arbitration : ArbitrationResult}
    (harb : s.arbiter.MoveSubmitted claim now arbitration policy) (k : String) :
    ((s.withArbiter (s.arbiter.displace claim policy now now)).settle B
        arbitration.preemptedMoveIds arbitration.expiredServoIds).arbiter.claims[k]? =
      (s.arbiter.displace claim policy now now).claims[k]? := by
  refine settle_claims_eq B _ _ _ (fun k hk => ?_) k
  rw [harb.preempted, harb.expired] at hk
  refine s.arbiter.displace_gone _ _ _ _ (hk.imp_right fun hexp => ⟨hexp, ?_⟩)
  obtain ⟨state, hstate, -⟩ := (s.arbiter.mem_expiredServos now).1 hexp
  rintro rfl
  exact harb.fresh (Std.TreeMap.mem_iff_isSome_getElem?.2 (by rw [hstate]; rfl))

variable {B} in
/-- After an admission the arbiter stores what `displace` left, and the joints of the claim carry
no permit. -/
theorem MoveOutcome.stored {s p : CommandPipeline β} {endpoint : String}
    {request : SessionRequest} {now : SteadyTime} {generation : Nat} {result : SubmissionResult}
    (hout : MoveOutcome B s endpoint request now generation result p)
    (hok : result.status.ok = true) : ∃ (policy arbPolicy : EndpointPolicy) (session : Session),
      Validated s endpoint request generation false policy session ∧
      s.sessions[session.sessionId]? = none ∧ session.sessionId ∉ s.arbiter.claims ∧
      s.arbiter.policies[endpoint]? = some arbPolicy ∧
      result = { status := .Ok, sessionId := session.sessionId } ∧
      session.sessionId ∈ (s.arbiter.displace (CommandPipeline.claimOf endpoint session) arbPolicy
        now now).computeWinners now ∧
      (∀ k : String, p.arbiter.claims[k]? = (s.arbiter.displace
        (CommandPipeline.claimOf endpoint session) arbPolicy now now).claims[k]?) ∧
      ∀ joint ∈ session.jointNames, p.publicationPermits[joint]? = none := by
  cases hout with
  | refused _ h => rw [h] at hok; cases hok
  | lost _ _ _ _ _ _ _ _ _ h => rw [h] at hok; cases hok
  | admitted policy arbPolicy session _ arbitration hvalid hfresh harb hwon settled hsettled h =>
    refine ⟨policy, arbPolicy, session, hvalid, hfresh, harb.fresh, harb.found, h, hwon,
      fun k => ?_, fun joint hj => by simp [hj]⟩
    change settled.arbiter.claims[k]? = _
    rw [hsettled, CommandPipeline.settledMove_claims B s harb]

/-- The state and the session an accepted servo target starts from: a session whose lease has run
out is ended first, and the target starts a new one. -/
inductive ServoBase (s : CommandPipeline β) (policy : EndpointPolicy) (id : String)
    (receivedAt now : SteadyTime) : Option Session → CommandPipeline β → Prop
  | fresh (h : s.sessions[id]? = none) : ServoBase s policy id receivedAt now none s
  | kept (existing : Session) (h : s.sessions[id]? = some existing)
      (horder : existing.submittedAt ≤ receivedAt)
      (hlease : now - existing.submittedAt < policy.servoLease) :
      ServoBase s policy id receivedAt now (some existing) s
  | renewed (existing : Session) (h : s.sessions[id]? = some existing)
      (horder : existing.submittedAt ≤ receivedAt)
      (hlease : policy.servoLease ≤ now - existing.submittedAt) :
      ServoBase s policy id receivedAt now none
        (s.terminate B id .aborted CommandPipeline.leaseExpiredStatus)

/-- What an accepted `updateServo` has established before it ends sessions. -/
structure ServoUpdated (s base : CommandPipeline β) (endpoint : String) (request : SessionRequest)
    (receivedAt now : SteadyTime) (generation : Nat) (policy arbPolicy : EndpointPolicy)
    (session : Session) (existing : Option Session) : Prop where
  valid : Validated s endpoint request generation true policy session
  live : now - receivedAt < policy.servoLease
  past : receivedAt ≤ now
  start : ServoBase B s policy session.sessionId receivedAt now existing base
  found : base.arbiter.policies[endpoint]? = some arbPolicy
  claimValid : (base.arbiter.validateClaim (CommandPipeline.claimOf endpoint session) true).ok = true

/-- The ways in which `updateServo` can end. -/
inductive ServoOutcome (s : CommandPipeline β) (endpoint : String) (request : SessionRequest)
    (receivedAt now : SteadyTime) (generation : Nat) :
    SubmissionResult → CommandPipeline β → Prop
  | refused (result : SubmissionResult) (h : result.status.ok = false) :
      ServoOutcome s endpoint request receivedAt now generation result s
  /-- The arbiter refused the target. -/
  | rejected (result : SubmissionResult) (base : CommandPipeline β) (policy : EndpointPolicy)
      (session : Session) (existing : Option Session)
      (hvalid : Validated s endpoint request generation true policy session)
      (hlive : now - receivedAt < policy.servoLease) (hpast : receivedAt ≤ now)
      (hbase : ServoBase B s policy session.sessionId receivedAt now existing base)
      (harb : (base.arbiter.updateServo (CommandPipeline.claimOf endpoint session) receivedAt
        now).1.status.ok = false)
      (h : result.status.ok = false) :
      ServoOutcome s endpoint request receivedAt now generation result base
  | accepted (policy arbPolicy : EndpointPolicy) (session : Session) (existing : Option Session)
      (base settled : CommandPipeline β) (result : SubmissionResult)
      (hupdated : ServoUpdated B s base endpoint request receivedAt now generation policy arbPolicy
        session existing)
      (hsettled : settled = ((base.withArbiter (base.arbiter.displace
        (CommandPipeline.claimOf endpoint session) arbPolicy receivedAt now)).storeServo endpoint
          session existing receivedAt).settle B
        (base.arbiter.displaced (CommandPipeline.claimOf endpoint session) arbPolicy receivedAt now)
        ((base.arbiter.expiredServos now).filter (· != session.sessionId)))
      (h : result = { status := .Ok, sessionId := session.sessionId }) :
      ServoOutcome s endpoint request receivedAt now generation result
        (if session.sessionId ∈ (base.arbiter.displace (CommandPipeline.claimOf endpoint session)
            arbPolicy receivedAt now).computeWinners now
          then settled.revokeOutputs session.jointNames else settled)

theorem arbitrateServo_outcome {s base : CommandPipeline β} {endpoint : String}
    {request : SessionRequest} {receivedAt now : SteadyTime} {generation : Nat}
    {policy : EndpointPolicy} {session : Session} {existing : Option Session}
    (hvalid : Validated s endpoint request generation true policy session)
    (hlive : now - receivedAt < policy.servoLease) (hpast : receivedAt ≤ now)
    (hbase : ServoBase B s policy session.sessionId receivedAt now existing base) :
    ServoOutcome B s endpoint request receivedAt now generation
      (base.arbitrateServo B endpoint session existing receivedAt now).1
      (base.arbitrateServo B endpoint session existing receivedAt now).2 := by
  unfold CommandPipeline.arbitrateServo
  simp only [CommandPipeline.processPreemptions_eq, CommandPipeline.processExpired_eq]
  rcases base.arbiter.updateServo_cases (CommandPipeline.claimOf endpoint session) receivedAt now
    with ⟨hstatus, harb⟩ | ⟨arbPolicy, hfound, hclaim, -, -, -, hstatus, hpre, hexp, hadm, harb⟩
  · rw [harb, if_pos (by simp [hstatus])]
    exact .rejected _ base policy session existing hvalid hlive hpast hbase hstatus hstatus
  · rw [harb, hpre, hexp, hstatus, if_neg (by simp)]
    have hupdated : ServoUpdated B s base endpoint request receivedAt now generation policy arbPolicy
        session existing := ⟨hvalid, hlive, hpast, hbase, hfound, hclaim⟩
    have hacc := ServoOutcome.accepted policy arbPolicy session existing base _ _ hupdated rfl rfl
    by_cases hwon : session.sessionId ∈ (base.arbiter.displace
        (CommandPipeline.claimOf endpoint session) arbPolicy receivedAt now).computeWinners now
    · rw [if_pos hwon] at hacc
      rw [hadm.2 hwon]
      exact hacc
    · rw [if_neg hwon] at hacc
      rw [Bool.eq_false_iff.2 fun h => hwon (hadm.1 h)]
      exact hacc

theorem updateServo_outcome (s : CommandPipeline β) (endpoint : String) (request : SessionRequest)
    (receivedAt now : SteadyTime) (generation : Nat) :
    ServoOutcome B s endpoint request receivedAt now generation
      (s.updateServo B endpoint request receivedAt now generation).1
      (s.updateServo B endpoint request receivedAt now generation).2 := by
  unfold CommandPipeline.updateServo
  split
  · exact .refused _ rfl
  · rename_i hopen
    simp only [ne_eq, decide_not, Bool.or_eq_true, Bool.not_eq_true', decide_eq_false_iff_not,
      not_or, Bool.not_eq_false, not_not] at hopen
    split
    · exact .refused _ rfl
    · rename_i policy hpolicy
      split
      · rename_i status hstatus
        exact .refused _ (validateRequest_error hstatus)
      · rename_i session hvalid
        have hpre : Validated s endpoint request generation true policy session :=
          ⟨hopen.1, hopen.2, hpolicy, hvalid⟩
        split
        · exact .refused _ rfl
        · rename_i hlive
          simp only [Bool.or_eq_true, decide_eq_true_eq, not_or, not_lt, not_le] at hlive
          split
          · rename_i hnone
            exact arbitrateServo_outcome B hpre hlive.2 hlive.1 (.fresh hnone)
          · rename_i existing hfound
            split
            · exact .refused _ rfl
            · rename_i horder
              simp only [not_lt] at horder
              split
              · rename_i hover
                exact arbitrateServo_outcome B hpre hlive.2 hlive.1
                  (.renewed existing hfound horder (by simpa [CommandPipeline.leaseOver] using hover))
              · rename_i hover
                exact arbitrateServo_outcome B hpre hlive.2 hlive.1
                  (.kept existing hfound horder (by simpa [CommandPipeline.leaseOver] using hover))

/-- Settling an accepted target leaves the claims that `displace` left. -/
theorem CommandPipeline.settled_claims (base : CommandPipeline β) (endpoint : String)
    (session : Session) (existing : Option Session) (policy : EndpointPolicy)
    (receivedAt now : SteadyTime) (k : String) :
    (((base.withArbiter (base.arbiter.displace (claimOf endpoint session) policy receivedAt
      now)).storeServo endpoint session existing receivedAt).settle B
        (base.arbiter.displaced (claimOf endpoint session) policy receivedAt now)
        ((base.arbiter.expiredServos now).filter (· != session.sessionId))).arbiter.claims[k]? =
      (base.arbiter.displace (claimOf endpoint session) policy receivedAt now).claims[k]? := by
  rw [settle_claims_eq B, storeServo_arbiter]
  · rfl
  · intro k hk
    rw [storeServo_arbiter]
    refine base.arbiter.displace_gone _ _ _ _ (hk.imp_right fun hexp => ?_)
    have hkept : k ∈ base.arbiter.expiredServos now ∧ ¬k = session.sessionId := by
      simpa using hexp
    exact hkept

variable {B} in
/-- After an accepted target the arbiter stores what `displace` left; an admitted one takes the
permits of its joints. -/
theorem ServoOutcome.stored {s p : CommandPipeline β} {endpoint : String}
    {request : SessionRequest} {receivedAt now : SteadyTime} {generation : Nat}
    {result : SubmissionResult}
    (hout : ServoOutcome B s endpoint request receivedAt now generation result p)
    (hok : result.status.ok = true) : ∃ (policy arbPolicy : EndpointPolicy) (session : Session)
      (existing : Option Session) (base : CommandPipeline β),
      ServoUpdated B s base endpoint request receivedAt now generation policy arbPolicy session
        existing ∧
      result = { status := .Ok, sessionId := session.sessionId } ∧
      (∀ k : String, p.arbiter.claims[k]? = (base.arbiter.displace
        (CommandPipeline.claimOf endpoint session) arbPolicy receivedAt now).claims[k]?) ∧
      (session.sessionId ∈ (base.arbiter.displace (CommandPipeline.claimOf endpoint session)
          arbPolicy receivedAt now).computeWinners now →
        ∀ joint ∈ session.jointNames, p.publicationPermits[joint]? = none) := by
  cases hout with
  | refused _ h => rw [h] at hok; cases hok
  | rejected _ _ _ _ _ _ _ _ _ _ h => rw [h] at hok; cases hok
  | accepted policy arbPolicy session existing base settled _ hupdated hsettled h =>
    refine ⟨policy, arbPolicy, session, existing, base, hupdated, h, fun k => ?_, fun hwon joint hj =>
      by rw [if_pos hwon]; simp [hj]⟩
    have harb : ∀ k : String, settled.arbiter.claims[k]? = (base.arbiter.displace
        (CommandPipeline.claimOf endpoint session) arbPolicy receivedAt now).claims[k]? := by
      intro k
      rw [hsettled, CommandPipeline.settled_claims]
    split
    · exact harb k
    · exact harb k

end HumanoidMotion
