import Mathlib.Tactic.Linarith
import Mathlib.Tactic.Positivity
import HumanoidMotion.Motion.Accepted
import HumanoidMotion.Motion.FakeSdk
/-
# The rebase of a limit recovery against the limit validator

`validateFinalCommand` allows machine roundoff at a boundary; `limitRecoverySeed`
compares strictly. A joint in between, outside its limit by no more than the
roundoff, is accepted by the first and can end the recovery of another joint in
the second.

* `SeedAgrees` — what the rebase should do, in the validator's terms.
* `InwardInBand` — no joint that the loop comes to is in between, unless it moves inward.
* `seed_agrees_iff` — the two are the same.
* `boundary_joint_refuses` — a recovery that a joint at its boundary ends.
-/

namespace HumanoidMotion

/-! ## Specification -/

/-- A joint of two targets. -/
structure SameJoint (target target' : JointTarget) (i : Nat) : Prop where
  position : target.positionsRad[i]? = target'.positionsRad[i]?
  velocity : target.velocitiesRadS[i]? = target'.velocitiesRadS[i]?
  acceleration : target.accelerationsRadS2[i]? = target'.accelerationsRadS2[i]?

/-- The joint takes the measured position and velocity, and no acceleration. -/
structure TakesMeasured (feedback : JointFeedback) (target : JointTarget) (i : Nat) : Prop where
  position : target.positionsRad[i]? = feedback.positionsRad[i]?
  velocity : target.velocitiesRadS[i]? = feedback.velocitiesRadS[i]?
  acceleration : target.accelerationsRadS2[i]? = some 0

theorem SameJoint.valueAt {target target' : JointTarget} {i : Nat} (h : SameJoint target target' i) :
    valueAt target.positionsRad i = valueAt target'.positionsRad i := by
  simp only [HumanoidMotion.valueAt, List.getD_eq_getElem?_getD, h.position]

theorem SameJoint.trans {first second third : JointTarget} {i : Nat} (h : SameJoint first second i)
    (h' : SameJoint second third i) : SameJoint first third i :=
  ⟨h.position.trans h'.position, h.velocity.trans h'.velocity,
    h.acceleration.trans h'.acceleration⟩

theorem TakesMeasured.of_same {feedback : JointFeedback} {target target' : JointTarget}
    {i : Nat} (h : SameJoint target' target i) (h' : TakesMeasured feedback target i) :
    TakesMeasured feedback target' i :=
  ⟨h.position.trans h'.position, h.velocity.trans h'.velocity, h.acceleration.trans h'.acceleration⟩

/-- The data of one call. -/
structure RecoveryCall where
  config : CommandPipelineConfig
  period : Rat
  group : JointGroupModel
  session : Session
  output : JointCommand
  feedback : JointFeedback

namespace RecoveryCall

variable (c : RecoveryCall)

def last : JointTarget := c.session.lastFinalTarget

def seed : Option JointTarget :=
  limitRecoverySeed c.config c.period c.group c.session c.output c.feedback

/-- One turn of the loop of `limitRecoverySeed`. -/
def turn (state : JointTarget × Bool) (i : Nat) : Option (JointTarget × Bool) :=
  seedStep c.config c.period c.group (requestLimits c.session.request).jointMaxVelocityRadS
    c.output c.feedback state i

/-- What joint `i` may move in one period, and the tolerance (`:646`). -/
def maxStep (i : Nat) : Rat :=
  let velocityLimits := (requestLimits c.session.request).jointMaxVelocityRadS
  c.config.feedbackRebaseToleranceRad.val +
    (if velocityLimits.isEmpty then 0 else valueAt velocityLimits i * c.period)

/-- A recovering session with its last output, a structurally valid final RTC output and the
feedback of the group's joints. The limits are ordered: a configuration in which they are not
registers no endpoint (`:172`). -/
structure WellFormed : Prop where
  recovering : c.session.recoveringLimits = true
  final : c.output.passedFinalSdkRtc = true
  output : wellFormed c.output c.group = true
  lastPositions : c.last.positionsRad.length = c.group.jointNames.length
  lastVelocities : c.last.velocitiesRadS.length = c.group.jointNames.length
  lastAccelerations : c.last.accelerationsRadS2.length = c.group.jointNames.length
  positions : c.feedback.positionsRad.length = c.group.jointNames.length
  velocities : c.feedback.velocitiesRadS.length = c.group.jointNames.length
  ordered : ∀ i < c.group.jointNames.length,
    valueAt c.group.lowerPositionRad i ≤ valueAt c.group.upperPositionRad i

/-- Joint `i` passes `validateFinalCommand`. -/
def accepts (i : Nat) : Bool :=
  jointAccepted c.output c.group (some (c.last.positionsRad, c.feedback)) i

/-- The measurement may replace the last output: near it, within the recovery margin, and ahead of
the rejected output. -/
structure Ahead (i : Nat) : Prop where
  near : |valueAt c.feedback.positionsRad i - valueAt c.last.positionsRad i| ≤ c.maxStep i
  lower : valueAt c.group.lowerPositionRad i - c.config.feedbackLimitRecoveryMarginRad.val ≤
    valueAt c.feedback.positionsRad i
  upper : valueAt c.feedback.positionsRad i ≤
    valueAt c.group.upperPositionRad i + c.config.feedbackLimitRecoveryMarginRad.val
  ahead : (valueAt c.output.positionsRad i < valueAt c.group.lowerPositionRad i ∧
      valueAt c.output.positionsRad i < valueAt c.feedback.positionsRad i) ∨
    (valueAt c.group.upperPositionRad i < valueAt c.output.positionsRad i ∧
      valueAt c.feedback.positionsRad i < valueAt c.output.positionsRad i)

/-- The rebase agrees with the validator: where the loop comes to a joint within the roundoff, the joint
neither ends the loop nor is re-seeded, and a seed differs from the last output at the rejected joints,
which take the measurement. -/
structure SeedAgrees : Prop where
  tolerated : ∀ i < c.group.jointNames.length, withinLimits c.output c.group i = true →
    ∀ state, (List.range i).foldlM c.turn (c.last, false) = some state → c.turn state i = some state
  seeded : ∀ seed, c.seed = some seed → ∀ i < c.group.jointNames.length,
    (c.accepts i = true → SameJoint seed c.last i) ∧
    (c.accepts i = false → TakesMeasured c.feedback seed i ∧ c.Ahead i)

/-- Joint `i` lies within its limits without roundoff. -/
def inside (i : Nat) : Bool :=
  decide (valueAt c.group.lowerPositionRad i ≤ valueAt c.output.positionsRad i) &&
    decide (valueAt c.output.positionsRad i ≤ valueAt c.group.upperPositionRad i)

/-- The data the loop reads for joint `i`, while the seed holds the last output there. -/
def joint (i : Nat) : RecoveryJoint := recoveryJoint c.group c.last c.output c.feedback i

/-- Joint `i` does not end the loop: it is within its limits, or it recovers to one of them and its
measurement is not ahead of it or within reach. -/
def passes (i : Nat) : Bool :=
  c.inside i || (((c.joint i).lowerRecovery || (c.joint i).upperRecovery) &&
    (!(c.joint i).feedbackAhead ||
      !(c.joint i).outOfReach (c.maxStep i) c.config.feedbackLimitRecoveryMarginRad.val))

/-- Where no joint before it ends the loop, a joint outside its limit by no more than the roundoff moves
inward, behind both the previous output and the measurement. -/
def InwardInBand : Prop :=
  ∀ i < c.group.jointNames.length, (∀ j < i, c.passes j = true) →
    withinLimits c.output c.group i = true → c.inside i = false →
    movesInward c.output c.group c.last.positionsRad c.feedback i = true

instance : Decidable c.InwardInBand := by
  unfold InwardInBand
  infer_instance

/-! ## One turn -/

def verdict (i : Nat) : SeedVerdict :=
  seedVerdict (c.joint i) (c.maxStep i) c.config.feedbackLimitRecoveryMarginRad.val

variable {c} {i : Nat}

theorem turn_eq {state : JointTarget × Bool}
    (h : valueAt state.1.positionsRad i = valueAt c.last.positionsRad i) :
    c.turn state i = match c.verdict i with
      | .refuse => none
      | .keep => some state
      | .reseed => some (reseedJoint state.1 c.feedback i, true) := by
  have hjoint : recoveryJoint c.group state.1 c.output c.feedback i = c.joint i := by
    simp only [joint, recoveryJoint, h]
  simp only [turn, seedStep, hjoint]
  rfl

theorem roundoff_pos (lower upper : Rat) : 0 < roundoff lower upper := by
  unfold roundoff epsilon
  have : (0 : Rat) < max 1 (max |lower| |upper|) := lt_max_of_lt_left one_pos
  positivity

/-- A joint within its limits is within them up to roundoff. -/
theorem withinLimits_of_inside (h : c.inside i = true) : withinLimits c.output c.group i = true := by
  simp only [inside, withinLimits, Bool.and_eq_true, decide_eq_true_eq] at h ⊢
  have := roundoff_pos (valueAt c.group.lowerPositionRad i) (valueAt c.group.upperPositionRad i)
  exact ⟨by linarith [h.1], by linarith [h.2]⟩

theorem inside_iff : c.inside i = true ↔ (c.joint i).lower ≤ (c.joint i).q ∧
    (c.joint i).q ≤ (c.joint i).upper := by
  simp [inside, joint, recoveryJoint]

theorem passes_iff : c.passes i = true ↔ c.verdict i ≠ .refuse := by
  have hin : c.inside i = (decide ((c.joint i).lower ≤ (c.joint i).q) &&
      decide ((c.joint i).q ≤ (c.joint i).upper)) := rfl
  unfold passes verdict seedVerdict
  rw [← hin]
  cases c.inside i <;> cases (c.joint i).lowerRecovery <;> cases (c.joint i).upperRecovery <;>
    cases (c.joint i).feedbackAhead <;>
    cases (c.joint i).outOfReach (c.maxStep i) c.config.feedbackLimitRecoveryMarginRad.val <;> simp

theorem lowerRecovery_iff (j : RecoveryJoint) : j.lowerRecovery = true ↔
    j.q < j.lower ∧ j.previous < j.lower ∧ j.previous ≤ j.q ∧ 0 ≤ j.velocity := by
  simp [RecoveryJoint.lowerRecovery, and_assoc]

theorem upperRecovery_iff (j : RecoveryJoint) : j.upperRecovery = true ↔
    j.upper < j.q ∧ j.upper < j.previous ∧ j.q ≤ j.previous ∧ j.velocity ≤ 0 := by
  simp [RecoveryJoint.upperRecovery, and_assoc]

/-- The exemption of the validator, in the words of the loop. -/
theorem movesInward_iff : movesInward c.output c.group c.last.positionsRad c.feedback i = true ↔
    ((c.joint i).lowerRecovery = true ∧ (c.joint i).measured ≤ (c.joint i).q) ∨
    ((c.joint i).upperRecovery = true ∧ (c.joint i).q ≤ (c.joint i).measured) := by
  have hdata : movesInward c.output c.group c.last.positionsRad c.feedback i = true ↔
      ((c.joint i).q < (c.joint i).lower ∧ (c.joint i).previous < (c.joint i).lower ∧
        (c.joint i).measured < (c.joint i).lower ∧ (c.joint i).previous ≤ (c.joint i).q ∧
        (c.joint i).measured ≤ (c.joint i).q ∧ 0 ≤ (c.joint i).velocity) ∨
      ((c.joint i).upper < (c.joint i).q ∧ (c.joint i).upper < (c.joint i).previous ∧
        (c.joint i).upper < (c.joint i).measured ∧ (c.joint i).q ≤ (c.joint i).previous ∧
        (c.joint i).q ≤ (c.joint i).measured ∧ (c.joint i).velocity ≤ 0) := by
    simp only [movesInward, Bool.or_eq_true, Bool.and_eq_true, decide_eq_true_eq, and_assoc]
    rfl
  rw [hdata, lowerRecovery_iff, upperRecovery_iff]
  constructor
  · rintro (⟨hq, hbefore, -, hstep, hmeasured, hv⟩ | ⟨hq, hbefore, -, hstep, hmeasured, hv⟩)
    · exact .inl ⟨⟨hq, hbefore, hstep, hv⟩, hmeasured⟩
    · exact .inr ⟨⟨hq, hbefore, hstep, hv⟩, hmeasured⟩
  · rintro (⟨⟨hq, hbefore, hstep, hv⟩, hmeasured⟩ | ⟨⟨hq, hbefore, hstep, hv⟩, hmeasured⟩)
    · exact .inl ⟨hq, hbefore, hmeasured.trans_lt hq, hstep, hmeasured, hv⟩
    · exact .inr ⟨hq, hbefore, hq.trans_le hmeasured, hstep, hmeasured, hv⟩

section
variable (hordered : valueAt c.group.lowerPositionRad i ≤ valueAt c.group.upperPositionRad i)
include hordered

/-- A joint is on one side of its limits at most. -/
theorem lower_or_upper (hlower : (c.joint i).lowerRecovery = true) :
    (c.joint i).upperRecovery = false := by
  rw [Bool.eq_false_iff]
  intro hupper
  have hq := ((lowerRecovery_iff _).1 hlower).1
  have hq' := ((upperRecovery_iff _).1 hupper).1
  exact absurd (hq.trans_le hordered) (not_lt.2 hq'.le)

/-- The loop leaves a joint alone that is within its limits or that the exemption covers. -/
theorem verdict_keep_iff : c.verdict i = .keep ↔
    c.inside i = true ∨ movesInward c.output c.group c.last.positionsRad c.feedback i = true := by
  rw [inside_iff, movesInward_iff]
  unfold verdict seedVerdict
  by_cases hin : (c.joint i).lower ≤ (c.joint i).q ∧ (c.joint i).q ≤ (c.joint i).upper
  · simp [hin.1, hin.2]
  · rw [if_neg (by simpa using hin)]
    have hreach : ∀ b : Bool, (if b then SeedVerdict.refuse else .reseed) ≠ .keep := by decide
    cases hl : (c.joint i).lowerRecovery with
    | true =>
      have hu := lower_or_upper hordered hl
      by_cases hahead : (c.joint i).q < (c.joint i).measured
      · simp [RecoveryJoint.feedbackAhead, hl, hu, hahead, hin, hreach, not_le.2 hahead]
      · simp [RecoveryJoint.feedbackAhead, hl, hu, hahead, not_lt.1 hahead]
    | false =>
      cases hu : (c.joint i).upperRecovery with
      | true =>
        by_cases hahead : (c.joint i).measured < (c.joint i).q
        · simp [RecoveryJoint.feedbackAhead, hl, hahead, hin, hreach, not_le.2 hahead]
        · simp [RecoveryJoint.feedbackAhead, hl, hahead, not_lt.1 hahead]
      | false => simp [hin]

end

/-- A joint that is re-seeded has its measurement ahead of the output, and within reach; it is not where
the last output was. -/
theorem verdict_reseed (h : c.verdict i = .reseed) :
    c.Ahead i ∧ (c.joint i).measured ≠ (c.joint i).previous := by
  unfold verdict seedVerdict at h
  split at h
  · cases h
  split at h
  · cases h
  rename_i hside
  split at h
  · cases h
  rename_i hahead
  split at h
  · cases h
  rename_i hreach
  have hbounds : |(c.joint i).measured - (c.joint i).previous| ≤ c.maxStep i ∧
      (c.joint i).lower - c.config.feedbackLimitRecoveryMarginRad.val ≤ (c.joint i).measured ∧
      (c.joint i).measured ≤ (c.joint i).upper + c.config.feedbackLimitRecoveryMarginRad.val := by
    simp only [RecoveryJoint.outOfReach, Bool.or_eq_true, decide_eq_true_eq, not_or, not_lt] at hreach
    exact ⟨hreach.1.1.1.1, hreach.1.1.1.2, hreach.1.1.2⟩
  rw [Bool.not_eq_true, Bool.not_eq_false'] at hahead
  cases hl : (c.joint i).lowerRecovery with
  | true =>
    rw [RecoveryJoint.feedbackAhead, hl, if_pos rfl, decide_eq_true_eq] at hahead
    obtain ⟨hout, -, hbehind, -⟩ := (lowerRecovery_iff _).1 hl
    exact ⟨⟨hbounds.1, hbounds.2.1, hbounds.2.2, .inl ⟨hout, hahead⟩⟩, (hbehind.trans_lt hahead).ne'⟩
  | false =>
    have hu : (c.joint i).upperRecovery = true := by simpa [hl] using hside
    rw [RecoveryJoint.feedbackAhead, hl, if_neg (by simp), decide_eq_true_eq] at hahead
    obtain ⟨hout, -, hbehind, -⟩ := (upperRecovery_iff _).1 hu
    exact ⟨⟨hbounds.1, hbounds.2.1, hbounds.2.2, .inr ⟨hout, hahead⟩⟩, (hahead.trans_le hbehind).ne⟩

/-! ## The loop -/

/-- What the seed holds for joint `i` once the loop has passed it. -/
def entry (c : RecoveryCall) (seed : JointTarget) (i : Nat) : Prop :=
  (c.verdict i = .keep → SameJoint seed c.last i) ∧
  (c.verdict i = .reseed → TakesMeasured c.feedback seed i)

/-- The loop after `k` turns: every joint passed has its entry and did not end the loop, the others
hold the last output. -/
structure After (c : RecoveryCall) (k : Nat) (state : JointTarget × Bool) : Prop where
  passed : ∀ j < k, c.verdict j ≠ .refuse ∧ entry c state.1 j
  rest : ∀ j, k ≤ j → SameJoint state.1 c.last j

/-- A turn at joint `i` touches no other joint. -/
theorem reseedJoint_other (seed : JointTarget) (feedback : JointFeedback) {j : Nat} (hne : i ≠ j) :
    SameJoint (reseedJoint seed feedback i) seed j where
  position := by simp [reseedJoint, List.getElem?_set_ne hne]
  velocity := by simp [reseedJoint, List.getElem?_set_ne hne]
  acceleration := by simp [reseedJoint, List.getElem?_set_ne hne]

/-- A re-seeded joint of a seed that has it takes the measurement. -/
theorem reseedJoint_takes (hc : c.WellFormed) (hi : i < c.group.jointNames.length)
    {seed : JointTarget} (hsame : SameJoint seed c.last i) :
    TakesMeasured c.feedback (reseedJoint seed c.feedback i) i := by
  have hlt : ∀ {values values' : List Double}, values[i]? = values'[i]? →
      values'.length = c.group.jointNames.length → i < values.length := by
    intro values values' heq hlen
    rw [← hlen] at hi
    rw [List.getElem?_eq_getElem hi] at heq
    exact (List.getElem?_eq_some_iff.1 heq).1
  have hp : i < c.feedback.positionsRad.length := hc.positions ▸ hi
  have hv : i < c.feedback.velocitiesRadS.length := hc.velocities ▸ hi
  refine ⟨?_, ?_, ?_⟩
  · simp [reseedJoint, hlt hsame.position hc.lastPositions, hp]
  · simp [reseedJoint, hlt hsame.velocity hc.lastVelocities, hv]
  · simp [reseedJoint, hlt hsame.acceleration hc.lastAccelerations]

theorem entry.of_same {seed seed' : JointTarget} (h : SameJoint seed' seed i) (he : entry c seed i) :
    entry c seed' i :=
  ⟨fun hkeep => h.trans (he.1 hkeep), fun hreseed => (he.2 hreseed).of_same h⟩

/-- One turn. -/
theorem After.turn (hc : c.WellFormed) {k : Nat} {state state' : JointTarget × Bool}
    (h : After c k state) (hk : k < c.group.jointNames.length) (hturn : c.turn state k = some state') :
    After c (k + 1) state' := by
  have hsame := h.rest k le_rfl
  rw [turn_eq hsame.valueAt] at hturn
  cases hverdict : c.verdict k with
  | refuse => simp [hverdict] at hturn
  | keep =>
    simp only [hverdict, Option.some.injEq] at hturn
    subst hturn
    refine ⟨fun j hj => ?_, fun j hj => h.rest j (by omega)⟩
    rcases Nat.lt_succ_iff_lt_or_eq.1 hj with hlt | rfl
    · exact h.passed j hlt
    · exact ⟨by simp [hverdict], fun _ => hsame, by simp [hverdict]⟩
  | reseed =>
    simp only [hverdict, Option.some.injEq] at hturn
    subst hturn
    refine ⟨fun j hj => ?_, fun j hj => (reseedJoint_other _ _ (by omega)).trans (h.rest j (by omega))⟩
    rcases Nat.lt_succ_iff_lt_or_eq.1 hj with hlt | rfl
    · obtain ⟨hpassed, hentry⟩ := h.passed j hlt
      exact ⟨hpassed, hentry.of_same (reseedJoint_other _ _ (by omega))⟩
    · exact ⟨by simp [hverdict], by simp [hverdict], fun _ => reseedJoint_takes hc hk hsame⟩

theorem after_loop (hc : c.WellFormed) : ∀ (k : Nat) (state : JointTarget × Bool),
    k ≤ c.group.jointNames.length →
    (List.range k).foldlM c.turn (c.last, false) = some state → After c k state := by
  intro k
  induction k with
  | zero =>
    intro state _ h
    obtain rfl : (c.last, false) = state := by simpa using h
    exact ⟨fun j hj => absurd hj (Nat.not_lt_zero j), fun j _ => ⟨rfl, rfl, rfl⟩⟩
  | succ k ih =>
    intro state hk h
    rw [List.range_succ, List.foldlM_append] at h
    obtain ⟨mid, hmid, hlast⟩ := Option.bind_eq_some_iff.1 h
    refine (ih mid (Nat.le_of_succ_le hk) hmid).turn hc hk ?_
    simpa using hlast

/-- The loop goes on as long as no joint ends it. -/
theorem loop_goes_on (hc : c.WellFormed) : ∀ (k : Nat), k ≤ c.group.jointNames.length →
    (∀ j < k, c.passes j = true) →
      ∃ state, (List.range k).foldlM c.turn (c.last, false) = some state := by
  intro k
  induction k with
  | zero => exact fun _ _ => ⟨_, rfl⟩
  | succ k ih =>
    intro hk hpasses
    obtain ⟨mid, hmid⟩ := ih (Nat.le_of_succ_le hk) fun j hj => hpasses j (Nat.lt_succ_of_lt hj)
    have hsame := ((after_loop hc k mid (Nat.le_of_succ_le hk) hmid).rest k le_rfl).valueAt
    rw [List.range_succ, List.foldlM_append, hmid]
    have hgoes : ∃ state, c.turn mid k = some state := by
      rw [turn_eq hsame]
      cases hverdict : c.verdict k with
      | refuse => exact absurd hverdict (passes_iff.1 (hpasses k (Nat.lt_succ_self k)))
      | keep => exact ⟨_, rfl⟩
      | reseed => exact ⟨_, rfl⟩
    obtain ⟨state, hstate⟩ := hgoes
    exact ⟨state, by simp [hstate]⟩

theorem after_seed (hc : c.WellFormed) {seed : JointTarget} (h : c.seed = some seed) :
    After c c.group.jointNames.length (seed, true) := by
  unfold RecoveryCall.seed limitRecoverySeed at h
  rw [if_neg (by simp [hc.final, hc.recovering])] at h
  dsimp only at h
  split at h
  · rename_i found hfold
    cases h
    exact after_loop hc _ _ le_rfl hfold
  · cases h

/-! ## Agreement -/

/-- The validator accepts what is within the roundoff, and what its exemption covers. -/
theorem accepts_iff (hc : c.WellFormed) : c.accepts i = true ↔
    withinLimits c.output c.group i = true ∨
      movesInward c.output c.group c.last.positionsRad c.feedback i = true := by
  have hlen := ((wellFormed_iff c.output c.group).1 hc.output).2.2.1
  simp [accepts, jointAccepted, hc.final, hlen, hc.lastPositions, hc.positions]

/-- Where the rebase agrees, a joint in the roundoff band moves inward. -/
theorem SeedAgrees.inward (hc : c.WellFormed) (h : c.SeedAgrees) : c.InwardInBand := by
  intro i hi hpasses hwithin hout
  -- the loop comes to this joint, and its turn leaves the loop as it is
  obtain ⟨state, hstate⟩ := loop_goes_on hc i hi.le hpasses
  have hturn := h.tolerated i hi hwithin state hstate
  rw [turn_eq ((after_loop hc i state hi.le hstate).rest i le_rfl).valueAt] at hturn
  have hkeep : c.verdict i = .keep := by
    cases hverdict : c.verdict i with
    | keep => rfl
    | refuse => simp [hverdict] at hturn
    | reseed =>
      -- the seed would hold the measurement, which is not the last output
      simp only [hverdict, Option.some.injEq] at hturn
      have hsame := (after_loop hc i state hi.le hstate).rest i le_rfl
      have htakes := (reseedJoint_takes hc hi hsame).position
      rw [show reseedJoint state.1 c.feedback i = state.1 from congrArg Prod.fst hturn,
        hsame.position] at htakes
      refine absurd ?_ (verdict_reseed hverdict).2
      simp only [joint, recoveryJoint, valueAt, List.getD_eq_getElem?_getD, htakes]
  rcases (verdict_keep_iff (hc.ordered i hi)).1 hkeep with hin | hinward
  · rw [hin] at hout
    cases hout
  · exact hinward

/-- A seed differs from the last output exactly at the joints the validator rejects. -/
theorem seed_at (hc : c.WellFormed) {seed : JointTarget} (hseed : c.seed = some seed)
    (hi : i < c.group.jointNames.length)
    (hkeep : withinLimits c.output c.group i = true → c.verdict i = .keep) :
    (c.accepts i = true → SameJoint seed c.last i) ∧
    (c.accepts i = false → TakesMeasured c.feedback seed i ∧ c.Ahead i) := by
  obtain ⟨hpassed, hsame, htakes⟩ := (after_seed hc hseed).passed i hi
  constructor
  · intro haccepts
    refine hsame ?_
    rcases (accepts_iff hc).1 haccepts with hwithin | hinward
    · exact hkeep hwithin
    · exact (verdict_keep_iff (hc.ordered i hi)).2 (.inr hinward)
  · intro hrejected
    -- a rejected joint is not left alone
    have hreseed : c.verdict i = .reseed := by
      cases hverdict : c.verdict i with
      | refuse => exact absurd hverdict hpassed
      | reseed => rfl
      | keep =>
        rcases (verdict_keep_iff (hc.ordered i hi)).1 hverdict with hin | hinward
        · rw [(accepts_iff hc).2 (.inl (withinLimits_of_inside hin))] at hrejected
          cases hrejected
        · rw [(accepts_iff hc).2 (.inr hinward)] at hrejected
          cases hrejected
    exact ⟨htakes hreseed, (verdict_reseed hreseed).1⟩

end RecoveryCall

open RecoveryCall in
/-- The rebase agrees with the validator on every call but those in which the loop comes to a joint that
lies in the roundoff band of its limit and does not move inward. -/
theorem seed_agrees_iff {c : RecoveryCall} (hc : c.WellFormed) : c.SeedAgrees ↔ c.InwardInBand := by
  refine ⟨fun h => h.inward hc, fun h => ?_⟩
  have hkeep : ∀ i < c.group.jointNames.length, (∀ j < i, c.passes j = true) →
      withinLimits c.output c.group i = true → c.verdict i = .keep := by
    intro i hi hpasses hwithin
    rw [verdict_keep_iff (hc.ordered i hi)]
    cases hin : c.inside i with
    | true => exact .inl rfl
    | false => exact .inr (h i hi hpasses hwithin hin)
  have hpassed : ∀ {k : Nat} {state : JointTarget × Bool}, After c k state →
      ∀ j < k, c.passes j = true := fun hafter j hj => passes_iff.2 (hafter.passed j hj).1
  refine ⟨fun i hi hwithin state hstate => ?_, fun seed hseed i hi => ?_⟩
  · have hafter := after_loop hc i state hi.le hstate
    rw [turn_eq (hafter.rest i le_rfl).valueAt, hkeep i hi (hpassed hafter) hwithin]
  · refine seed_at hc hseed hi (hkeep i hi fun j hj => ?_)
    exact hpassed (after_seed hc hseed) j (hj.trans hi)

/-! ## A joint at its boundary -/

namespace Fixture

/-- The recovery of `QuantizedBoundaryFeedbackRebasesOnlyRecoveringJointWithoutRestart`
(`test_command_pipeline.cpp:285`) on `l1`, with `l2` at a lower limit of zero. -/
def boundaryCall (position : Rat) : RecoveryCall where
  config := {}
  period := 1 / 100
  group := ⟨"left", leftJoints, [.fin (-2), 0], [2, 2]⟩
  session :=
    { endpointName := "servo", sessionId := servoId "servo", groupName := "left"
      jointNames := leftJoints, backendStarted := true, recoveringLimits := true
      request := .servoP
        { requestId := "", groupName := "left", baseLink := "base", linkName := "tool", target := {} }
      lastFinalTarget := ⟨leftJoints, [.fin (200019 / 100000), 0], [.fin (-1 / 1000), 0], [0, 0]⟩ }
  output :=
    { groupName := "left", jointNames := leftJoints
      positionsRad := [.fin (200017 / 100000), .fin position]
      velocitiesRadS := [.fin (-1 / 1000), 0], passedFinalSdkRtc := true }
  feedback := ⟨leftJoints, [.fin (1999808 / 1000000), 0], [0, 0], milliseconds 11⟩

theorem boundaryCall_wellFormed (position : Rat) : (boundaryCall position).WellFormed := by
  have hordered : ∀ i < 2, valueAt [.fin (-2), 0] i ≤ valueAt [2, 2] i := by decide +kernel
  exact ⟨rfl, rfl, rfl, rfl, rfl, rfl, rfl, rfl, hordered⟩

end Fixture

open Fixture in
/-- The output of `l2` is below its limit by less than the roundoff and passes the validator, yet it
makes the rebase of `l1` fail. -/
theorem boundary_joint_refuses :
    (boundaryCall (-1 / 2 ^ 57)).accepts 1 = true ∧
      (boundaryCall (-1 / 2 ^ 57)).seed = none ∧ ((boundaryCall 0).seed).isSome = true ∧
      ¬ (boundaryCall (-1 / 2 ^ 57)).SeedAgrees := by
  refine ⟨by decide +kernel, by decide +kernel, by decide +kernel, fun h => ?_⟩
  have hband := h.inward (boundaryCall_wellFormed _) 1 (by decide) (by decide +kernel)
    (by decide +kernel) (by decide +kernel)
  revert hband
  decide +kernel

open Fixture in
theorem seed_agrees_iff_boundary : (boundaryCall 0).SeedAgrees :=
  (seed_agrees_iff (boundaryCall_wellFormed 0)).2 (by decide +kernel)

end HumanoidMotion
