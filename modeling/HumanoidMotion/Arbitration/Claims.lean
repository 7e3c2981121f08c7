import HumanoidMotion.Arbitration.ControlArbiter
/-
# What the arbiter's operations do to its claims

`submitMove` and `updateServo` share their middle part: expired servos go, the
claim is stored, and the Moves that no longer win go. `displace` names it;
`submitMove_cases` and `updateServo_cases` say what each operation makes of it.
The other lemmas look a claim up after each step.
-/

namespace HumanoidMotion

namespace ControlArbiter

variable (a : ControlArbiter) (claim : CommandClaim) (policy : EndpointPolicy)
  (receivedAt now : SteadyTime)

/-- The claims whose lease has not run out. -/
def live : ControlArbiter := (a.removeExpiredServos now).2

/-- The live claims together with the submitted one. -/
def joined : ControlArbiter := (a.live now).store claim policy receivedAt

/-- The Moves that win before the submission and do not win after it. -/
def displaced : List String :=
  (a.joined claim policy receivedAt now).preemptedMoves ((a.live now).computeWinners now)
    ((a.joined claim policy receivedAt now).computeWinners now)

/-- The arbiter once those Moves have been removed. -/
def displace : ControlArbiter :=
  (a.joined claim policy receivedAt now).eraseClaims (a.displaced claim policy receivedAt now)

/-! ## The two submissions -/

theorem validateClaim_policy {servo : Bool} (h : (a.validateClaim claim servo).ok = true) :
    ∃ policy, a.policies[claim.endpointName]? = some policy ∧ policy.kind = claim.kind ∧
      policy.groupName = claim.groupName ∧ servo = isServo claim.kind := by
  unfold validateClaim at h
  cases hpolicy : a.policies[claim.endpointName]? with
  | none =>
    simp only [hpolicy] at h
    split_ifs at h <;> cases h
  | some policy =>
    simp only [hpolicy] at h
    split_ifs at h with _ _ _ hmatch hservo <;> try cases h
    simp only [ne_eq, decide_not, Bool.or_eq_true, Bool.not_eq_true', decide_eq_false_iff_not,
      not_or, not_not] at hmatch hservo
    exact ⟨policy, rfl, hmatch.1, hmatch.2, hservo⟩

/-- A valid new Move, in terms of `displace`. -/
theorem submitMove_eq (hvalid : (a.validateClaim claim false).ok = true)
    (hfresh : a.claims.contains claim.sessionId = false)
    (hpolicy : a.policies[claim.endpointName]? = some policy) :
    a.submitMove claim now =
      let kept := a.displace claim policy now now
      if !(kept.computeWinners now).contains claim.sessionId then
        ((kept.release claim.sessionId).snapshot
            { code := .rejected, message := "Move conflicts with an equal or higher priority command" }
            false (a.displaced claim policy now now) (a.expiredServos now) now,
          kept.release claim.sessionId)
      else (kept.snapshot .Ok true (a.displaced claim policy now now) (a.expiredServos now) now,
        kept) := by
  unfold submitMove
  simp only [hvalid, hfresh, hpolicy, Bool.not_true, Bool.false_eq_true, if_false]
  rfl

/-- What both outcomes of a valid `submitMove` share. -/
structure MoveSubmitted (result : ArbitrationResult) (policy : EndpointPolicy) : Prop where
  found : a.policies[claim.endpointName]? = some policy
  valid : (a.validateClaim claim false).ok = true
  fresh : claim.sessionId ∉ a.claims
  preempted : result.preemptedMoveIds = a.displaced claim policy now now
  expired : result.expiredServoIds = a.expiredServos now

/-- `submitMove` refuses and changes nothing, or displaces and keeps a claim that wins, or
displaces and takes back a claim that does not. -/
theorem submitMove_cases :
    ((a.submitMove claim now).1.status.ok = false ∧ (a.submitMove claim now).1.admitted = false ∧
      (a.submitMove claim now).1.preemptedMoveIds = [] ∧
      (a.submitMove claim now).1.expiredServoIds = [] ∧ (a.submitMove claim now).2 = a) ∨
    (∃ policy, a.MoveSubmitted claim now (a.submitMove claim now).1 policy ∧
      claim.sessionId ∈ (a.displace claim policy now now).computeWinners now ∧
      (a.submitMove claim now).1.status = .Ok ∧ (a.submitMove claim now).1.admitted = true ∧
      (a.submitMove claim now).2 = a.displace claim policy now now) ∨
    ∃ policy, a.MoveSubmitted claim now (a.submitMove claim now).1 policy ∧
      claim.sessionId ∉ (a.displace claim policy now now).computeWinners now ∧
      (a.submitMove claim now).1.status.ok = false ∧
      (a.submitMove claim now).1.admitted = false ∧
      (a.submitMove claim now).2 = (a.displace claim policy now now).release claim.sessionId := by
  by_cases hvalid : (a.validateClaim claim false).ok = true
  · obtain ⟨policy, hpolicy, -⟩ := a.validateClaim_policy claim hvalid
    by_cases hdup : a.claims.contains claim.sessionId = true
    · left
      unfold submitMove
      simp only [hvalid, hdup, Bool.not_true, Bool.false_eq_true, if_false, if_true]
      exact ⟨rfl, rfl, rfl, rfl, trivial⟩
    · right
      simp only [Bool.not_eq_true] at hdup
      have hfresh : claim.sessionId ∉ a.claims := by
        rw [← Std.TreeMap.contains_iff_mem, hdup]
        simp
      have heq := a.submitMove_eq claim policy now hvalid hdup hpolicy
      simp only at heq
      by_cases hwon : claim.sessionId ∈ (a.displace claim policy now now).computeWinners now
      · rw [List.contains_iff_mem.2 hwon] at heq
        left
        rw [heq]
        exact ⟨policy, ⟨hpolicy, hvalid, hfresh, rfl, rfl⟩, hwon, rfl, rfl, rfl⟩
      · rw [Bool.eq_false_iff.2 fun h => hwon (List.contains_iff_mem.1 h)] at heq
        right
        rw [heq]
        exact ⟨policy, ⟨hpolicy, hvalid, hfresh, rfl, rfl⟩, hwon, rfl, rfl, rfl⟩
  · left
    simp only [Bool.not_eq_true] at hvalid
    unfold submitMove
    simp only [hvalid, Bool.not_false, if_true]
    exact ⟨hvalid, rfl, rfl, rfl, trivial⟩

/-- `updateServo` refuses and changes nothing, or displaces and keeps the claim. -/
theorem updateServo_cases :
    ((a.updateServo claim receivedAt now).1.status.ok = false ∧
      (a.updateServo claim receivedAt now).2 = a) ∨
    ∃ policy, a.policies[claim.endpointName]? = some policy ∧
      (a.validateClaim claim true).ok = true ∧ receivedAt ≤ now ∧
      now - receivedAt < policy.servoLease ∧
      (∀ state, a.claims[claim.sessionId]? = some state → state.receivedAt ≤ receivedAt) ∧
      (a.updateServo claim receivedAt now).1.status = .Ok ∧
      (a.updateServo claim receivedAt now).1.preemptedMoveIds =
        a.displaced claim policy receivedAt now ∧
      (a.updateServo claim receivedAt now).1.expiredServoIds = a.expiredServos now ∧
      ((a.updateServo claim receivedAt now).1.admitted = true ↔
        claim.sessionId ∈ (a.displace claim policy receivedAt now).computeWinners now) ∧
      (a.updateServo claim receivedAt now).2 = a.displace claim policy receivedAt now := by
  unfold updateServo
  simp only
  by_cases hvalid : (a.validateClaim claim true).ok = true
  · obtain ⟨policy, hpolicy, -⟩ := a.validateClaim_policy claim hvalid
    simp only [hvalid, hpolicy, Bool.not_true, Bool.false_eq_true, if_false]
    split
    · exact .inl ⟨rfl, rfl⟩
    · rename_i hfresh
      simp only [Bool.or_eq_true, decide_eq_true_eq, not_or, not_lt, not_le, Option.any_eq_true,
        not_exists, not_and] at hfresh
      obtain ⟨⟨hnow, hlease⟩, horder⟩ := hfresh
      right
      refine ⟨policy, rfl, trivial, hnow, hlease, fun state hstate => horder state hstate, rfl, rfl,
        rfl, ?_, rfl⟩
      simp only [snapshot, List.contains_iff_mem]
      rfl
  · left
    simp only [Bool.not_eq_true] at hvalid
    simp only [hvalid, Bool.not_false, if_true]
    exact ⟨hvalid, trivial⟩

/-! ## Looking a claim up -/

@[simp] theorem live_claims (k : String) :
    (a.live now).claims[k]? = (a.claims[k]?).filter fun state => !state.expired now := by
  simp [live, removeExpiredServos]

@[simp] theorem joined_claims (k : String) :
    (a.joined claim policy receivedAt now).claims[k]? =
      if k = claim.sessionId then
        some { claim, priority := policy.priority, receiveSequence := a.nextSequence, receivedAt,
               lease := policy.servoLease }
      else (a.live now).claims[k]? := by
  simp only [joined, store, Std.TreeMap.getElem?_insert, Std.LawfulEqOrd.compare_eq_iff_eq,
    eq_comm (a := k)]
  rfl

theorem eraseClaims_claims (ids : List String) (k : String) :
    (a.eraseClaims ids).claims[k]? = if k ∈ ids then none else a.claims[k]? := by
  unfold eraseClaims
  simp only
  generalize a.claims = claims
  induction ids generalizing claims with
  | nil => simp
  | cons id ids ih =>
    simp only [List.foldl_cons, ih, Std.TreeMap.getElem?_erase, Std.LawfulEqOrd.compare_eq_iff_eq]
    by_cases hk : k = id
    · simp [hk]
    · simp [hk, Ne.symm hk]

@[simp] theorem displace_claims (k : String) :
    (a.displace claim policy receivedAt now).claims[k]? =
      if k ∈ a.displaced claim policy receivedAt now then none
      else (a.joined claim policy receivedAt now).claims[k]? :=
  eraseClaims_claims _ _ k

/-- The submitted claim is stored as it was submitted, or it was displaced itself. -/
theorem displace_submitted {state : ClaimState}
    (h : (a.displace claim policy receivedAt now).claims[claim.sessionId]? = some state) :
    state = { claim, priority := policy.priority, receiveSequence := a.nextSequence, receivedAt,
              lease := policy.servoLease } := by
  rw [displace_claims] at h
  split at h
  · cases h
  · simpa using h.symm

@[simp] theorem release_claims (id k : String) :
    (a.release id).claims[k]? = if k = id then none else a.claims[k]? := by
  simp [release, Std.TreeMap.getElem?_erase, eq_comm (a := k)]

theorem mem_displaced {k : String} : k ∈ a.displaced claim policy receivedAt now ↔
    k ∈ (a.live now).computeWinners now ∧
      k ∉ (a.joined claim policy receivedAt now).computeWinners now ∧
      ∃ state, (a.joined claim policy receivedAt now).claims[k]? = some state ∧
        isMove state.claim.kind = true := by
  simp [displaced, preemptedMoves, Option.any_eq_true]

theorem mem_expiredServos {k : String} : k ∈ a.expiredServos now ↔
    ∃ state, a.claims[k]? = some state ∧ state.expired now = true := by
  simp [expiredServos, Std.TreeMap.mem_toList_iff_getElem?_eq_some]

/-- What an arbitration reports as preempted or expired is no longer stored. -/
theorem displace_gone {k : String} (h : k ∈ a.displaced claim policy receivedAt now ∨
    k ∈ a.expiredServos now ∧ k ≠ claim.sessionId) :
    (a.displace claim policy receivedAt now).claims[k]? = none := by
  rw [displace_claims]
  split
  · rfl
  · rename_i hkept
    obtain ⟨hexp, hne⟩ := h.resolve_left hkept
    obtain ⟨state, hk, hexpired⟩ := (a.mem_expiredServos now).1 hexp
    simp [hne, hk, hexpired]

/-- A submitted servo claim is no Move, so it is not displaced. -/
theorem displace_servo (hservo : isServo claim.kind = true) :
    claim.sessionId ∉ a.displaced claim policy receivedAt now ∧
      (a.displace claim policy receivedAt now).claims[claim.sessionId]? =
        some { claim, priority := policy.priority, receiveSequence := a.nextSequence, receivedAt,
               lease := policy.servoLease } := by
  have hnot : claim.sessionId ∉ a.displaced claim policy receivedAt now := by
    intro hd
    obtain ⟨-, -, state, hstate, hmove⟩ := (a.mem_displaced claim policy receivedAt now).1 hd
    rw [joined_claims, if_pos rfl] at hstate
    obtain rfl := Option.some.inj hstate
    simp only [isMove, hservo] at hmove
    cases hmove
  refine ⟨hnot, ?_⟩
  rw [displace_claims, if_neg hnot, joined_claims, if_pos rfl]

/-- Every other claim stays as it is. -/
theorem displace_kept {k : String} (hne : k ≠ claim.sessionId)
    (h : ¬ (k ∈ a.displaced claim policy receivedAt now ∨ k ∈ a.expiredServos now)) :
    (a.displace claim policy receivedAt now).claims[k]? = a.claims[k]? := by
  rw [not_or, mem_expiredServos] at h
  rw [displace_claims, if_neg h.1, joined_claims, if_neg hne, live_claims]
  cases hk : a.claims[k]? with
  | none => rfl
  | some state =>
    have hlive : state.expired now = false := Bool.eq_false_iff.2 fun hexp => h.2 ⟨state, hk, hexp⟩
    simp [Option.filter, hlive]

/-! ## The policies stay -/

/-- A registration that succeeds adds one policy under a new name and touches no claim. -/
theorem registerEndpoint_ok (h : (a.registerEndpoint policy).1.ok = true) :
    policy.endpointName.isEmpty = false ∧ (isServo policy.kind = true → 0 < policy.servoLease) ∧
      a.policies[policy.endpointName]? = none ∧
      (a.registerEndpoint policy).2 =
        { a with policies := a.policies.insert policy.endpointName policy } := by
  unfold registerEndpoint at h ⊢
  split_ifs at h ⊢ with hname hlease hdup <;> try cases h
  simp only [Bool.or_eq_true, not_or, Bool.not_eq_true, Bool.and_eq_true, decide_eq_true_eq,
    not_and, not_le] at hname hlease
  exact ⟨hname.1, hlease,
    Std.TreeMap.getElem?_eq_none_of_contains_eq_false (Bool.eq_false_iff.2 hdup), rfl⟩

theorem registerEndpoint_refused (h : (a.registerEndpoint policy).1.ok = false) :
    (a.registerEndpoint policy).2 = a := by
  unfold registerEndpoint at h ⊢
  split_ifs at h ⊢ <;> first | rfl | cases h

end ControlArbiter

end HumanoidMotion
