import Mathlib.Tactic.Linarith
import HumanoidMotion.Motion.InputTimestamp
import HumanoidMotion.Motion.Consistency
/-
# Stamped inputs are taken once and in order

* `strictly_newer` — between two regressions of the ROS clock the accepted stamps grow.
* `fresh_eq` — when an accepted input is fresh, and by how little that precedes its receipt.
* `fresh_mono` — while the two clocks advance together, so do the fresh times.
* `in_order` — a pipeline that is fed with such times refuses none of them as out of order.
* `source_times` — all of it, over every sequence of calls and every run of the pipeline.

Two refusals speak of the order: the one of the session table, and the one of the arbiter.
-/

namespace HumanoidMotion

/-! ## One call -/

namespace InputTimestamp

/-- The arguments of one `accept` call, with what the caller's variables hold before it. -/
structure Input where
  stampNs : Int
  rosNowNs : Int
  receivedAt : SteadyTime
  maxAge : Duration
  futureTolerance : Duration
  requireStamp : Bool
  freshAt : SteadyTime
  error : String

def take (self : InputTimestamp) (input : Input) : Answer × InputTimestamp :=
  self.acceptInto input.stampNs input.rosNowNs input.receivedAt input.maxAge input.futureTolerance
    input.requireStamp input.freshAt input.error

/-- The answers to a sequence of calls. -/
def answers : InputTimestamp → List Input → List Answer
  | _, [] => []
  | self, input :: inputs => (self.take input).1 :: answers (self.take input).2 inputs

/-- The fresh times of the stamped inputs that are accepted. -/
def freshTimes : InputTimestamp → List Input → List SteadyTime
  | _, [] => []
  | self, input :: inputs =>
    if (self.take input).1.accepted && input.stampNs ≠ 0 then
      (self.take input).1.freshAt :: freshTimes (self.take input).2 inputs
    else freshTimes (self.take input).2 inputs

variable {self : InputTimestamp} {input : Input}

/-- What one call does: it is ignored, it is refused once the clock is noted, it takes an unstamped
input, or it takes a stamped one. -/
inductive Taken (self : InputTimestamp) (input : Input) : Answer × InputTimestamp → Prop
  | negative (error : String) : Taken self input (⟨false, input.freshAt, error⟩, self)
  | refused (error : String) :
      Taken self input (⟨false, input.freshAt, error⟩, self.observed input.rosNowNs)
  | unstamped (hstamp : input.stampNs = 0) :
      Taken self input (⟨true, input.receivedAt, input.error⟩, self.observed input.rosNowNs)
  | stamped (hage : input.rosNowNs - input.stampNs < input.maxAge)
      (hnewer : (self.observed input.rosNowNs).lastStampNs < input.stampNs) :
      Taken self input
        (⟨true, input.receivedAt - max (input.rosNowNs - input.stampNs) 0, input.error⟩,
          ⟨input.stampNs, input.rosNowNs⟩)

theorem take_taken (self : InputTimestamp) (input : Input) : Taken self input (self.take input) := by
  unfold take acceptInto
  split
  · exact .negative _
  · dsimp only
    split
    · rename_i hstamp
      split
      · exact .refused _
      · exact .unstamped hstamp
    · split
      · exact .refused _
      · rename_i hage
        simp only [Bool.or_eq_true, decide_eq_true_eq, not_or, not_le] at hage
        split
        · exact .refused _
        · rename_i hnewer
          exact .stamped hage.1 (not_le.1 hnewer)

/-- A rejected call leaves `fresh_at` untouched. -/
theorem take_rejected (h : (self.take input).1.accepted = false) :
    (self.take input).1.freshAt = input.freshAt := by
  have htaken := take_taken self input
  revert htaken h
  generalize self.take input = taken
  intro h htaken
  cases htaken with
  | negative | refused => rfl
  | unstamped | stamped => cases h

/-- When an accepted stamped input is fresh. -/
theorem fresh_eq (h : (self.take input).1.accepted = true) (hstamp : input.stampNs ≠ 0) :
    (self.take input).1.freshAt =
        min input.receivedAt (input.receivedAt - (input.rosNowNs - input.stampNs)) ∧
      (0 < input.maxAge → input.receivedAt - (self.take input).1.freshAt < input.maxAge) := by
  have htaken := take_taken self input
  revert htaken h
  generalize self.take input = taken
  intro h htaken
  cases htaken with
  | negative | refused => cases h
  | unstamped hzero => exact absurd hzero hstamp
  | stamped hage _ =>
    dsimp only
    constructor
    · rcases le_total (input.rosNowNs - input.stampNs) 0 with h | h
      · rw [max_eq_right h, min_eq_left (by linarith), sub_zero]
      · rw [max_eq_left h, min_eq_right (by linarith)]
    · intro hpos
      have : max (input.rosNowNs - input.stampNs) 0 < input.maxAge := max_lt hage hpos
      linarith

/-! ## Runs of calls -/

/-- The tracker has seen stamp `stamp`, and no clock beyond `clock`. -/
structure Past (stamp clock : Int) (tracker : InputTimestamp) : Prop where
  newest : stamp ≤ tracker.lastStampNs
  latest : tracker.lastRosNowNs ≤ clock

/-- A call whose clock has not gone back keeps the past, and takes newer stamps only. -/
theorem Past.take {stamp clock : Int} (h : Past stamp clock self) (hclock : clock ≤ input.rosNowNs) :
    Past stamp input.rosNowNs (self.take input).2 ∧
      ((self.take input).1.accepted = true → input.stampNs ≠ 0 → stamp < input.stampNs) := by
  have hback : ¬ input.rosNowNs < self.lastRosNowNs := not_lt.2 (h.latest.trans hclock)
  have hobserved : (self.observed input.rosNowNs).lastStampNs = self.lastStampNs := by
    simp [observed, hback]
  have htaken := take_taken self input
  revert htaken
  generalize self.take input = taken
  intro htaken
  cases htaken with
  | negative => exact ⟨⟨h.newest, h.latest.trans hclock⟩, by simp⟩
  | refused => exact ⟨⟨hobserved ▸ h.newest, le_rfl⟩, by simp⟩
  | unstamped hzero => exact ⟨⟨hobserved ▸ h.newest, le_rfl⟩, fun _ hne => absurd hzero hne⟩
  | stamped _ hnewer =>
    rw [hobserved] at hnewer
    exact ⟨⟨(h.newest.trans_lt hnewer).le, le_rfl⟩, fun _ _ => h.newest.trans_lt hnewer⟩

/-- The call that takes a stamp leaves it in the past. -/
theorem past_of_taken (h : (self.take input).1.accepted = true) (hstamp : input.stampNs ≠ 0) :
    Past input.stampNs input.rosNowNs (self.take input).2 := by
  have htaken := take_taken self input
  revert htaken h
  generalize self.take input = taken
  intro h htaken
  cases htaken with
  | negative | refused => cases h
  | unstamped hzero => exact absurd hzero hstamp
  | stamped => exact ⟨le_rfl, le_rfl⟩

/-- The `k`-th answer is that of some tracker. -/
theorem answer_at (inputs : List Input) : ∀ {self : InputTimestamp} {k : Nat} {input : Input}
    {answer : Answer}, inputs[k]? = some input → (answers self inputs)[k]? = some answer →
    ∃ tracker : InputTimestamp, (tracker.take input).1 = answer := by
  induction inputs with
  | nil => simp
  | cons first inputs ih =>
    intro self k input answer hin hanswer
    cases k with
    | zero =>
      simp only [List.getElem?_cons_zero, Option.some.injEq, answers] at hin hanswer
      exact ⟨self, hin ▸ hanswer⟩
    | succ k => exact ih hin hanswer

/-- Until the clock goes back, the stamps accepted after `stamp` are newer. -/
theorem newer_than_past (inputs : List Input) : ∀ {self : InputTimestamp} {stamp clock : Int}
    {k : Nat} {input : Input} {answer : Answer}, Past stamp clock self →
    inputs[k]? = some input → (answers self inputs)[k]? = some answer →
    answer.accepted = true → input.stampNs ≠ 0 →
    (∀ x ∈ inputs.head?, clock ≤ x.rosNowNs) →
    (∀ n x y, n < k → inputs[n]? = some x → inputs[n + 1]? = some y → x.rosNowNs ≤ y.rosNowNs) →
    stamp < input.stampNs := by
  induction inputs with
  | nil => simp
  | cons first inputs ih =>
    intro self stamp clock k input answer hpast hin hanswer haccepted hstamp hclock hmono
    obtain ⟨hnext, hnewer⟩ := hpast.take (hclock first rfl)
    cases k with
    | zero =>
      simp only [List.getElem?_cons_zero, Option.some.injEq, answers] at hin hanswer
      subst hin hanswer
      exact hnewer haccepted hstamp
    | succ k =>
      refine ih hnext hin hanswer haccepted hstamp ?_
        fun n x y hn hx hy => hmono (n + 1) x y (Nat.succ_lt_succ hn) hx hy
      intro x hx
      rw [List.head?_eq_getElem?] at hx
      exact hmono 0 first x (Nat.succ_pos k) rfl hx

/-- Between two regressions of the ROS clock the accepted stamps are strictly increasing. -/
theorem strictly_newer (inputs : List Input) : ∀ {self : InputTimestamp} {i j : Nat} {a b : Input}
    {answer answer' : Answer}, i < j → inputs[i]? = some a → inputs[j]? = some b →
    (answers self inputs)[i]? = some answer → (answers self inputs)[j]? = some answer' →
    answer.accepted = true → answer'.accepted = true → a.stampNs ≠ 0 → b.stampNs ≠ 0 →
    (∀ n x y, i ≤ n → n < j → inputs[n]? = some x → inputs[n + 1]? = some y →
      x.rosNowNs ≤ y.rosNowNs) →
    a.stampNs < b.stampNs := by
  induction inputs with
  | nil => simp
  | cons first inputs ih =>
    intro self i j a b answer answer' hij ha hb hanswer hanswer' hacc hacc' hne hne' hmono
    obtain ⟨j, rfl⟩ : ∃ n, j = n + 1 := ⟨j - 1, by omega⟩
    cases i with
    | zero =>
      simp only [List.getElem?_cons_zero, Option.some.injEq, answers] at ha hanswer
      subst ha hanswer
      refine newer_than_past inputs (past_of_taken hacc hne) hb hanswer' hacc' hne' ?_
        fun n x y hn hx hy => hmono (n + 1) x y (Nat.zero_le _) (Nat.succ_lt_succ hn) hx hy
      intro x hx
      rw [List.head?_eq_getElem?] at hx
      exact hmono 0 first x le_rfl (Nat.succ_pos j) rfl hx
    | succ i =>
      exact ih (Nat.lt_of_succ_lt_succ hij) ha hb hanswer hanswer' hacc hacc' hne hne'
        fun n x y hn hn' hx hy =>
          hmono (n + 1) x y (Nat.succ_le_succ hn) (Nat.succ_lt_succ hn') hx hy

/-- Between the two calls both clocks have advanced, by the same amount. -/
def Together (a b : Input) : Prop :=
  b.receivedAt - a.receivedAt = b.rosNowNs - a.rosNowNs ∧ a.rosNowNs ≤ b.rosNowNs

/-- While the clocks advance together, a later accepted input is fresh no earlier. -/
theorem fresh_mono {inputs : List Input} (hclocks : inputs.Pairwise Together) {i j : Nat}
    {a b : Input} {answer answer' : Answer} (hij : i < j) (ha : inputs[i]? = some a)
    (hb : inputs[j]? = some b) (hanswer : (answers self inputs)[i]? = some answer)
    (hanswer' : (answers self inputs)[j]? = some answer') (hacc : answer.accepted = true)
    (hacc' : answer'.accepted = true) (hne : a.stampNs ≠ 0) (hne' : b.stampNs ≠ 0) :
    answer.freshAt ≤ answer'.freshAt := by
  have htogether : ∀ {m n : Nat} {x y : Input}, m < n → inputs[m]? = some x → inputs[n]? = some y →
      Together x y := by
    intro m n x y hmn hx hy
    obtain ⟨hm, rfl⟩ := List.getElem?_eq_some_iff.1 hx
    obtain ⟨hn, rfl⟩ := List.getElem?_eq_some_iff.1 hy
    exact List.pairwise_iff_getElem.1 hclocks m n hm hn hmn
  have hnewer : a.stampNs < b.stampNs :=
    strictly_newer inputs hij ha hb hanswer hanswer' hacc hacc' hne hne'
      fun n x y _ _ hx hy => (htogether (Nat.lt_succ_self n) hx hy).2
  obtain ⟨heq, hle⟩ := htogether hij ha hb
  obtain ⟨tracker, rfl⟩ := answer_at inputs ha hanswer
  obtain ⟨tracker', rfl⟩ := answer_at inputs hb hanswer'
  rw [(fresh_eq hacc hne).1, (fresh_eq hacc' hne').1]
  exact min_le_min (by linarith) (by linarith)

/-- Every fresh time is that of an accepted stamped input. -/
theorem mem_freshTimes (inputs : List Input) : ∀ {self : InputTimestamp} {time : SteadyTime},
    time ∈ freshTimes self inputs → ∃ (k : Nat) (input : Input) (answer : Answer),
      inputs[k]? = some input ∧ (answers self inputs)[k]? = some answer ∧
      answer.accepted = true ∧ input.stampNs ≠ 0 ∧ answer.freshAt = time := by
  induction inputs with
  | nil => simp [freshTimes]
  | cons first inputs ih =>
    intro self time hmem
    have hlater : time ∈ freshTimes (self.take first).2 inputs → ∃ (k : Nat) (input : Input)
        (answer : Answer), (first :: inputs)[k]? = some input ∧
          (answers self (first :: inputs))[k]? = some answer ∧
          answer.accepted = true ∧ input.stampNs ≠ 0 ∧ answer.freshAt = time := by
      intro h
      obtain ⟨k, input, answer, hk⟩ := ih h
      exact ⟨k + 1, input, answer, hk⟩
    unfold freshTimes at hmem
    split at hmem
    · rename_i htaken
      simp only [ne_eq, decide_not, Bool.and_eq_true, Bool.not_eq_true',
        decide_eq_false_iff_not] at htaken
      rcases List.mem_cons.1 hmem with rfl | h
      · exact ⟨0, first, _, rfl, rfl, htaken.1, htaken.2, rfl⟩
      · exact hlater h
    · exact hlater hmem

theorem freshTimes_sorted (inputs : List Input) : ∀ {self : InputTimestamp},
    inputs.Pairwise Together → (freshTimes self inputs).Pairwise (· ≤ ·) := by
  induction inputs with
  | nil => exact fun _ => .nil
  | cons first inputs ih =>
    intro self hclocks
    have htail : (freshTimes (self.take first).2 inputs).Pairwise (· ≤ ·) :=
      ih (List.pairwise_cons.1 hclocks).2
    unfold freshTimes
    split
    · rename_i htaken
      simp only [ne_eq, decide_not, Bool.and_eq_true, Bool.not_eq_true',
        decide_eq_false_iff_not] at htaken
      refine List.pairwise_cons.2 ⟨fun time htime => ?_, htail⟩
      obtain ⟨k, input, answer, hin, hanswer, hacc, hne, rfl⟩ := mem_freshTimes inputs htime
      have hhead : (answers self (first :: inputs))[0]? = some (self.take first).1 := rfl
      exact fresh_mono hclocks (Nat.succ_pos k) rfl hin hhead hanswer htaken.1 hacc htaken.2 hne
    · exact htail

end InputTimestamp

/-! ## The pipeline that is fed with the fresh times -/

variable {β : Type} {B : Platform β}

/-- The time that a call passes to `updateServo` for the endpoint. -/
def Op.servoTime (endpoint : String) : Op → Option SteadyTime
  | updateServo name _ receivedAt _ _ => if name = endpoint then some receivedAt else none
  | _ => none

def servoTimes (endpoint : String) (ops : List Op) : List SteadyTime :=
  ops.filterMap (Op.servoTime endpoint)

/-- The two refusals that blame the order of the targets. -/
def OutOfOrder (status : MotionStatus) : Prop :=
  status = { code := .rejected, message := "out-of-order Servo target" } ∨
  status = { code := .rejected,
             message := "Servo target is expired, future-dated or out of order" }

theorem OutOfOrder.code {status : MotionStatus} (h : OutOfOrder status) : status.code = .rejected := by
  rcases h with rfl | rfl <;> rfl

theorem validateLimits_code (limits : MotionLimits) (n : Nat) :
    (validateLimits limits n).code ≠ .rejected := by
  unfold validateLimits
  dsimp only
  split_ifs <;> simp [MotionStatus.Ok]

theorem validateTarget_code (request : SessionRequest) (group : JointGroupModel) :
    (validateTarget request group).code ≠ .rejected := by
  have hjoints : ∀ target, (validateJointTarget target group).code ≠ .rejected := by
    intro target
    unfold validateJointTarget
    split_ifs <;> try simp
    split <;> simp [MotionStatus.Ok]
  have hpose : ∀ base link target, (validateCartesian base link target).code ≠ .rejected := by
    intro base link target
    unfold validateCartesian
    split <;> simp [MotionStatus.Ok]
  unfold validateTarget
  split
  · exact hjoints _
  · exact hjoints _
  · exact hpose _ _ _
  · exact hpose _ _ _
  · split <;> simp [MotionStatus.Ok]

/-- A request is refused for what it says, never for its order. -/
theorem validateRequest_code {groups : StringMap JointGroupModel} {policy : EndpointPolicy}
    {request : SessionRequest} {expectServo : Bool} {status : MotionStatus}
    (h : validateRequest groups policy request expectServo = .error status) :
    status.code ≠ .rejected := by
  unfold validateRequest at h
  dsimp only at h
  split at h
  · cases h; simp
  · split at h
    · cases h; simp
    · split at h
      · cases h; simp
      · split at h
        · cases h; exact validateLimits_code _ _
        · split at h
          · cases h; exact validateTarget_code _ _
          · cases h

namespace ControlArbiter

theorem validateClaim_code (a : ControlArbiter) (claim : CommandClaim) (servo : Bool) :
    (a.validateClaim claim servo).code ≠ .rejected := by
  unfold validateClaim
  split
  · simp
  · split
    · simp
    · split
      · simp
      · split
        · simp
        · split
          · simp
          · split
            · simp
            · simp [MotionStatus.Ok]

/-- The arbiter takes a live target that is no older than the claim it stores. -/
theorem updateServo_code (a : ControlArbiter) (claim : CommandClaim) {receivedAt now : SteadyTime}
    (hpast : receivedAt ≤ now)
    (hlive : ∀ policy, a.policies[claim.endpointName]? = some policy →
      now - receivedAt < policy.servoLease)
    (hclaim : ∀ state, a.claims[claim.sessionId]? = some state → state.receivedAt ≤ receivedAt) :
    (a.updateServo claim receivedAt now).1.status.code ≠ .rejected := by
  unfold updateServo
  dsimp only
  split
  · exact a.validateClaim_code claim true
  · split
    · exact a.validateClaim_code claim true
    · rename_i policy hpolicy
      have hfresh : (decide (now < receivedAt) || decide (policy.servoLease ≤ now - receivedAt) ||
          (a.claims[claim.sessionId]?).any fun state => decide (receivedAt < state.receivedAt)) =
          false := by
        simp only [Bool.or_eq_false_iff, decide_eq_false_iff_not, not_lt, not_le]
        refine ⟨⟨hpast, hlive policy hpolicy⟩, ?_⟩
        cases hstate : a.claims[claim.sessionId]? with
        | none => rfl
        | some state => simpa using hclaim state hstate
      rw [if_neg (by rw [hfresh]; simp)]
      simp [snapshot, MotionStatus.Ok]

end ControlArbiter

/-- A target that is no older than what the tables hold for its endpoint is not refused as out of
order. -/
theorem updateServo_in_order {s : CommandPipeline β} (hsound : Sound s) {endpoint : String}
    {request : SessionRequest} {receivedAt now : SteadyTime} {generation : Nat}
    (hsession : ∀ session, s.sessions[servoId endpoint]? = some session →
      session.submittedAt ≤ receivedAt)
    (hclaim : ∀ state, s.arbiter.claims[servoId endpoint]? = some state →
      state.receivedAt ≤ receivedAt) :
    ¬ OutOfOrder (s.updateServo B endpoint request receivedAt now generation).1.status := by
  have hliteral : ∀ status : MotionStatus, status.code = .rejected →
      status.message = "execution permission revoked" ∨
        status.message = "Servo target expired before arbitration" → ¬ OutOfOrder status := by
    rintro status - (hmessage | hmessage) (rfl | rfl) <;> revert hmessage <;> decide
  unfold CommandPipeline.updateServo
  split
  · exact hliteral _ rfl (.inl rfl)
  · split
    · exact fun h => by cases h.code
    · rename_i policy hpolicy
      split
      · rename_i status hstatus
        exact fun h => validateRequest_code hstatus h.code
      · rename_i session hvalid
        have hmade := madeFor_of_valid hsound hpolicy hvalid
        have hid := hmade.derived rfl
        split
        · exact hliteral _ rfl (.inr rfl)
        · rename_i hlive
          simp only [Bool.or_eq_true, decide_eq_true_eq, not_or, not_lt, not_le] at hlive
          -- the arbiter reads the policy and the claim that were checked here
          have harb : ∀ (base : CommandPipeline β) (existing : Option Session),
              base.arbiter.policies = s.arbiter.policies →
              (∀ state, base.arbiter.claims[servoId endpoint]? = some state →
                state.receivedAt ≤ receivedAt) →
              ¬ OutOfOrder (base.arbitrateServo B endpoint session existing receivedAt now).1.status := by
            intro base existing hpolicies hclaims h
            have hcode := base.arbiter.updateServo_code (CommandPipeline.claimOf endpoint session)
              hlive.1 (fun found hfound => by
                rw [hpolicies, hsound.policies] at hfound
                obtain rfl : policy = found := Option.some.inj (hpolicy.symm.trans hfound)
                exact hlive.2) (fun state hstate => hclaims state (hid ▸ hstate))
            unfold CommandPipeline.arbitrateServo at h
            dsimp only at h
            split at h
            · exact hcode h.code
            · exact hcode h.code
          rw [hid]
          split
          · exact harb s none rfl hclaim
          · rename_i existing hfound
            split
            · rename_i horder
              exact absurd (hsession existing hfound) (not_le.2 horder)
            · split
              · refine harb _ none (CommandPipeline.terminate_policies _ _ _ _ _) fun state hstate => ?_
                rw [CommandPipeline.terminate_claims] at hstate
                split at hstate
                · cases hstate
                · exact hclaim state hstate
              · exact harb s (some existing) rfl hclaim

/-! ## Runs -/

section
variable {endpoint : String} {lib : MathLib}

/-- What one call stores under the derived id carries the time of the call. -/
theorem Created.servoTime {p : CommandPipeline β} {op : Op} {session : Session} (hsound : Sound p)
    (hnew : Created p op session) (hfree : ∀ id, op.moveId? = some id → id ≠ servoId endpoint)
    (hid : session.sessionId = servoId endpoint) :
    op.servoTime endpoint = some session.submittedAt := by
  cases hnew with
  | submitMove name request now generation policy made hpolicy hvalid =>
    have hmade := madeFor_of_valid hsound hpolicy hvalid
    exact absurd hid (hmade.chosen rfl ▸ hfree _ rfl)
  | updateServo name request receivedAt now generation policy made hpolicy hvalid =>
    have hmade := madeFor_of_valid hsound hpolicy hvalid
    obtain rfl : name = endpoint := servoId_injective ((hmade.derived rfl).symm.trans hid)
    simp [Op.servoTime]

/-- The stored servo session of the endpoint is no newer than the targets to come. -/
def Ahead (endpoint : String) (ops : List Op) (id : String) (session : Session) : Prop :=
  id = servoId endpoint → ∀ time ∈ servoTimes endpoint ops, session.submittedAt ≤ time

theorem ahead_kept {op : Op} {ops : List Op}
    (hsorted : (servoTimes endpoint (op :: ops)).Pairwise (· ≤ ·))
    (hfree : ∀ id, op.moveId? = some id → id ≠ servoId endpoint) :
    Kept (Ahead endpoint ops) β op := by
  have hnew : ∀ (p : CommandPipeline β) session, Sound p → Created p op session →
      Ahead endpoint ops session.sessionId session := by
    intro p session hsound hnew hid time htime
    have hop := hnew.servoTime hsound hfree hid
    simp only [servoTimes, List.filterMap_cons, hop] at hsorted
    exact (List.pairwise_cons.1 hsorted).1 time htime
  exact ⟨hnew, fun p old new hsound hcreated _ _ => hnew p new hsound hcreated,
    fun id session session' hsame h hid time htime => hsame.submittedAt ▸ h hid time htime⟩

/-- At each target of the endpoint, the session stored for it is no newer. -/
theorem trace_ahead (ops : List Op) : ∀ {s : CommandPipeline β}, Sound s →
    (∀ id ∈ ops.filterMap Op.moveId?, id ≠ servoId endpoint) →
    (servoTimes endpoint ops).Pairwise (· ≤ ·) → Stores (Ahead endpoint ops) s →
    ∀ g ∈ (machine B lib).trace s ops, ∀ time, g.input.servoTime endpoint = some time →
      ∀ session, g.before.sessions[servoId endpoint]? = some session → session.submittedAt ≤ time := by
  induction ops with
  | nil => exact fun _ _ _ _ g hg => by cases hg
  | cons op ops ih =>
    intro s hsound hfree hsorted hstores g hg time htime session hsession
    rcases List.mem_cons.1 hg with rfl | hg
    · refine hstores _ session hsession rfl time ?_
      exact List.mem_filterMap.2 ⟨op, List.mem_cons_self, htime⟩
    · have hop : ∀ id, op.moveId? = some id → id ≠ servoId endpoint :=
        fun id hid => hfree id (List.mem_filterMap.2 ⟨op, List.mem_cons_self, hid⟩)
      have htail : (servoTimes endpoint ops).Pairwise (· ≤ ·) :=
        hsorted.sublist ((List.sublist_cons_self op ops).filterMap _)
      have hnext : Stores (Ahead endpoint ops) (exec B lib s op).2 := by
        obtain ⟨t, helems, hpipeline, -, -⟩ := exec_elems B lib s hsound op
        rw [hpipeline]
        refine helems.stores (ahead_kept hsorted hop) hsound ?_
        intro id stored hid hderived later hlater
        refine hstores id stored hid hderived later ?_
        exact ((List.sublist_cons_self op ops).filterMap _).subset hlater
      refine ih (exec_sound s hsound op) (fun id hid => hfree id ?_) htail hnext g hg time htime
        session hsession
      exact ((List.sublist_cons_self op ops).filterMap _).subset hid

end

open InputTimestamp in
/-- Over every sequence of calls on a tracker: accepted stamps grow until the clock goes back, a
refused call leaves `fresh_at` alone, an accepted stamp is fresh no later than its receipt and less
than the maximal age before it. While the clocks advance together the fresh times do not go back,
and no run of a pipeline that is fed with them refuses one as out of order. -/
theorem source_times (B : Platform β) (lib : MathLib) (e : β) (groups : List JointGroupModel)
    (config : CommandPipelineConfig) (tracker : InputTimestamp) (inputs : List Input)
    (hage : ∀ input ∈ inputs, 0 < input.maxAge) :
    (∀ (i j : Nat) (a b : Input) (r r' : Answer), i < j →
      inputs[i]? = some a → inputs[j]? = some b →
      (answers tracker inputs)[i]? = some r → (answers tracker inputs)[j]? = some r' →
      r.accepted = true → r'.accepted = true → a.stampNs ≠ 0 → b.stampNs ≠ 0 →
      (∀ n x y, i ≤ n → n < j → inputs[n]? = some x → inputs[n + 1]? = some y →
        x.rosNowNs ≤ y.rosNowNs) →
      a.stampNs < b.stampNs) ∧
    (∀ (i : Nat) (a : Input) (r : Answer), inputs[i]? = some a →
      (answers tracker inputs)[i]? = some r →
      (r.accepted = false → r.freshAt = a.freshAt) ∧
      (r.accepted = true → a.stampNs ≠ 0 →
        r.freshAt = min a.receivedAt (a.receivedAt - (a.rosNowNs - a.stampNs)) ∧
        a.receivedAt - r.freshAt < a.maxAge)) ∧
    (inputs.Pairwise Together →
      (∀ (i j : Nat) (a b : Input) (r r' : Answer), i < j →
        inputs[i]? = some a → inputs[j]? = some b →
        (answers tracker inputs)[i]? = some r → (answers tracker inputs)[j]? = some r' →
        r.accepted = true → r'.accepted = true → a.stampNs ≠ 0 → b.stampNs ≠ 0 →
        r.freshAt ≤ r'.freshAt) ∧
      ∀ (endpoint : String) (ops : List Op), MoveIdsFree ops →
        (servoTimes endpoint ops).Sublist (freshTimes tracker inputs) →
        ∀ g ∈ (machine B.recorded lib).trace (CommandPipeline.create (e, []) groups config) ops,
        ∀ request receivedAt now generation result,
          g.input = .updateServo endpoint request receivedAt now generation →
          g.output = .submission result → ¬ OutOfOrder result.status) := by
  refine ⟨fun i j a b r r' hij ha hb hr hr' hacc hacc' hne hne' hmono =>
    strictly_newer inputs hij ha hb hr hr' hacc hacc' hne hne' hmono, ?_, ?_⟩
  · intro i a r ha hr
    obtain ⟨self, rfl⟩ := answer_at inputs ha hr
    refine ⟨take_rejected, fun hacc hne => ?_⟩
    obtain ⟨hfresh, hlate⟩ := fresh_eq hacc hne
    exact ⟨hfresh, hlate (hage a (List.mem_of_getElem? ha))⟩
  · intro hclocks
    refine ⟨fun i j a b r r' hij ha hb hr hr' hacc hacc' hne hne' =>
      fresh_mono hclocks hij ha hb hr hr' hacc hacc' hne hne', ?_⟩
    intro endpoint ops hfree hfed g hg request receivedAt now generation result hinput houtput
    have hinit : Initial (CommandPipeline.create (e, ([] : List Call)) groups config) :=
      ⟨_, _, _, rfl⟩
    have hbefore : InOrder B.logged (e, []) (endpointNames ops) g.before :=
      (trace_inOrder groups config (B.logged_fresh e) hfree g hg).1
    have hstep : (exec B.recorded lib g.before g.input).1 = g.output :=
      congrArg Prod.fst (Machine.trace_step hg)
    rw [hinput, houtput] at hstep
    have hresult : (g.before.updateServo B.recorded endpoint request receivedAt now generation).1 =
        result := Reply.submission.inj hstep
    rw [← hresult]
    cases hregistered : g.before.endpoints[endpoint]? with
    | none =>
      -- an endpoint that is not registered
      unfold CommandPipeline.updateServo
      split
      · rintro (h | h) <;>
          simp [CommandPipeline.refuse, CommandPipeline.revokedStatus] at h
      · simp only [hregistered]
        exact fun h => by cases h.code
    | some policy =>
      have hname := hbefore.ids.named.registered endpoint policy hregistered
      have hahead := trace_ahead (B := B.recorded) ops hinit.sound
        (fun id hid => hfree id hid endpoint hname)
        ((freshTimes_sorted inputs hclocks).sublist hfed)
        (fun id session hs => by simp [CommandPipeline.create] at hs) g hg receivedAt
        (by rw [hinput]; simp [Op.servoTime])
      refine updateServo_in_order hbefore.sound hahead fun state hstate => ?_
      have hconsistent := consistent_of_rows hbefore.tables hbefore.ids
      have hstored : servoId endpoint ∈ g.before.sessions :=
        (hconsistent.claimed _).2 (Std.TreeMap.mem_iff_isSome_getElem?.2 (by rw [hstate]; rfl))
      obtain ⟨session, hsession⟩ := (CommandPipeline.mem_sessions_iff _ _).1 hstored
      rw [← hconsistent.submitted _ session state hsession hstate]
      exact hahead session hsession

namespace Fixture

/-- A target that is 50 ms old on receipt, and 10 ms later one from 5 ms in the future. -/
def stampedInputs : List InputTimestamp.Input :=
  [⟨milliseconds 950, milliseconds 1000, milliseconds 2000, milliseconds 100, milliseconds 10, false,
      0, ""⟩,
    ⟨milliseconds 1015, milliseconds 1010, milliseconds 2010, milliseconds 100, milliseconds 10,
      false, 0, ""⟩]

def stampedTarget (receivedAt now : Int) : Op :=
  .updateServo "sv" (.servoJ ⟨"", "left", target leftJoints (1 / 10), {}⟩) (milliseconds receivedAt)
    (milliseconds now) 0

def stampedTargets : List Op :=
  [endpoint "sv" .servoJ "left" 20, stampedTarget 1950 2001, stampedTarget 2010 2011]

end Fixture

open Fixture in
theorem source_times_fed :
    let s := (machine FakeSdk.platform.toPlatform.recorded mathLib).run
      (CommandPipeline.create ({}, []) allGroups {})
      [endpoint "sv" .servoJ "left" 20, stampedTarget 1950 2001]
    ¬ OutOfOrder (s.updateServo FakeSdk.platform.toPlatform.recorded "sv"
      (.servoJ ⟨"", "left", target leftJoints (1 / 10), {}⟩) (milliseconds 2010)
      (milliseconds 2011) 0).1.status :=
  ((source_times FakeSdk.platform.toPlatform mathLib {} allGroups {} {} stampedInputs
    (by decide)).2.2 (by simp [stampedInputs, InputTimestamp.Together, milliseconds])).2 "sv"
      stampedTargets (by decide) (by decide) _ (.tail _ (.tail _ (.head _))) _ _ _ _ _ rfl rfl

namespace Fixture

/-- A Move takes the id that is derived from the servo endpoint, between the time at which the first
target is fresh and its arrival. -/
def takenTargets : List Op :=
  [endpoint "mv" .moveJ "left" 10, endpoint "sv" .servoJ "left" 20,
    moveJ "mv" (servoId "sv") "left" leftJoints 2000, stampedTarget 1950 2001]

end Fixture

open Fixture in
/-- An accepted target is refused as out of order: the Move under its id is newer. -/
theorem move_id_out_of_order :
    stampedInputs.Pairwise InputTimestamp.Together ∧ (∀ input ∈ stampedInputs, 0 < input.maxAge) ∧
      (servoTimes "sv" takenTargets).Sublist (InputTimestamp.freshTimes {} stampedInputs) ∧
      ∃ g ∈ (machine FakeSdk.platform.toPlatform.recorded mathLib).trace
          (CommandPipeline.create ({}, []) allGroups {}) takenTargets,
        g.input = stampedTarget 1950 2001 ∧ ∃ result, g.output = .submission result ∧
          OutOfOrder result.status := by
  refine ⟨by simp [stampedInputs, InputTimestamp.Together, milliseconds], by decide, by decide, ?_⟩
  exact ⟨_, .tail _ (.tail _ (.tail _ (.head _))), rfl, _, rfl, .inl (by decide +kernel)⟩

end HumanoidMotion
