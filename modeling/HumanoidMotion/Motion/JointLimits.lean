import HumanoidMotion.Motion.LimitRecovery
import HumanoidMotion.Motion.Turn
/-
# Joint limits of the commands

A command of the final RTC may lie outside a limit only while the joint recovers: on the
side where it was measured and commanded before, and no farther out than either. A rebase
replaces the last output by the measurement where the measurement is ahead, so a retried
output is bound by the last output as well.

* `tolerates` — within the limits of a joint, up to the roundoff of the validator.
* `SeedJoint`, `seed_joint` — the seed of a rebase, joint by joint.
* `Approved.joint` — an approved command against the last output, rebased or not.
* `NoFarther` — a command that is outside no farther than an earlier one.
-/

namespace HumanoidMotion

/-- A position of joint `i` that the validator takes for one within the limits. -/
def JointGroupModel.tolerates (group : JointGroupModel) (i : Nat) (position : Rat) : Prop :=
  valueAt group.lowerPositionRad i -
      roundoff (valueAt group.lowerPositionRad i) (valueAt group.upperPositionRad i) ≤ position ∧
    position ≤ valueAt group.upperPositionRad i +
      roundoff (valueAt group.lowerPositionRad i) (valueAt group.upperPositionRad i)

/-- No joint has its lower limit above its upper one. -/
def JointGroupModel.ordered (group : JointGroupModel) : Prop :=
  ∀ i < group.jointNames.length, valueAt group.lowerPositionRad i ≤ valueAt group.upperPositionRad i

/-- The velocity the validator reads for joint `i`. -/
def JointCommand.velocityAt (command : JointCommand) (i : Nat) : Rat :=
  if command.velocitiesRadS.isEmpty then 0 else valueAt command.velocitiesRadS i

section
variable {group : JointGroupModel} {command : JointCommand} {measured : JointFeedback}
  {previous : List Double} {i : Nat}

theorem withinLimits_iff :
    withinLimits command group i = true ↔ group.tolerates i (valueAt command.positionsRad i) := by
  simp [withinLimits, JointGroupModel.tolerates]

/-- The exemption of the validator: outside one limit, together with the previous output and the
measurement, no farther than either, and not moving outward. -/
theorem movesInward_cases : movesInward command group previous measured i = true ↔
    (valueAt command.positionsRad i < valueAt group.lowerPositionRad i ∧
      valueAt previous i < valueAt group.lowerPositionRad i ∧
      valueAt measured.positionsRad i < valueAt group.lowerPositionRad i ∧
      valueAt previous i ≤ valueAt command.positionsRad i ∧
      valueAt measured.positionsRad i ≤ valueAt command.positionsRad i ∧
      0 ≤ command.velocityAt i) ∨
    (valueAt group.upperPositionRad i < valueAt command.positionsRad i ∧
      valueAt group.upperPositionRad i < valueAt previous i ∧
      valueAt group.upperPositionRad i < valueAt measured.positionsRad i ∧
      valueAt command.positionsRad i ≤ valueAt previous i ∧
      valueAt command.positionsRad i ≤ valueAt measured.positionsRad i ∧
      command.velocityAt i ≤ 0) := by
  simp [movesInward, JointCommand.velocityAt, and_assoc]

/-- Inside the limits without roundoff. -/
theorem tolerates_of_inside {position : Rat} (hlower : valueAt group.lowerPositionRad i ≤ position)
    (hupper : position ≤ valueAt group.upperPositionRad i) : group.tolerates i position := by
  have := RecoveryCall.roundoff_pos (valueAt group.lowerPositionRad i)
    (valueAt group.upperPositionRad i)
  exact ⟨by linarith, by linarith⟩

/-- A joint that moves inward from a tolerated position is at a tolerated position. -/
theorem tolerates_of_inward
    (hordered : valueAt group.lowerPositionRad i ≤ valueAt group.upperPositionRad i)
    (hprevious : group.tolerates i (valueAt previous i))
    (h : movesInward command group previous measured i = true) :
    group.tolerates i (valueAt command.positionsRad i) := by
  have hpos := RecoveryCall.roundoff_pos (valueAt group.lowerPositionRad i)
    (valueAt group.upperPositionRad i)
  obtain ⟨hlow, hhigh⟩ := hprevious
  rcases movesInward_cases.1 h with ⟨hq, -, -, hstep, -, -⟩ | ⟨hq, -, -, hstep, -, -⟩
  · exact ⟨by linarith, by linarith⟩
  · exact ⟨by linarith, by linarith⟩

end

/-! ## The seed of a rebase -/

/-- Joint `i` of a seed: the last output, or a measurement between the rejected output and the
other limit. -/
inductive SeedJoint (group : JointGroupModel) (last : List Double) (measured : JointFeedback)
    (seed : List Double) (i : Nat) : Prop
  | kept (h : valueAt seed i = valueAt last i)
  | fromBelow (h : valueAt seed i = valueAt measured.positionsRad i)
      (hlast : valueAt last i < valueAt group.lowerPositionRad i)
      (hahead : valueAt last i ≤ valueAt measured.positionsRad i)
      (hreach : valueAt measured.positionsRad i ≤ valueAt group.upperPositionRad i)
  | fromAbove (h : valueAt seed i = valueAt measured.positionsRad i)
      (hlast : valueAt group.upperPositionRad i < valueAt last i)
      (hahead : valueAt measured.positionsRad i ≤ valueAt last i)
      (hreach : valueAt group.lowerPositionRad i ≤ valueAt measured.positionsRad i)

theorem valueAt_set (values : List Double) (i j : Nat) (x : Double) :
    valueAt (values.set i x) j =
      if i = j ∧ i < values.length then x.val else valueAt values j := by
  simp only [valueAt, List.getD_eq_getElem?_getD, List.getElem?_set]
  by_cases hij : i = j
  · subst hij
    by_cases hi : i < values.length
    · simp [hi]
    · simp [hi]
  · simp [hij]

/-- What re-seeds a joint: the measurement is ahead of the rejected output, which is no farther
outside than the last one. -/
theorem seedVerdict_reseed {j : RecoveryJoint} {maxStep margin : Rat}
    (h : seedVerdict j maxStep margin = .reseed) :
    (j.previous < j.lower ∧ j.previous ≤ j.measured ∧ j.measured ≤ j.upper) ∨
      (j.upper < j.previous ∧ j.measured ≤ j.previous ∧ j.lower ≤ j.measured) := by
  unfold seedVerdict at h
  split at h
  · cases h
  split at h
  · cases h
  rename_i hside
  split at h
  · cases h
  rename_i hahead
  split at h
  · cases h
  rename_i hreach
  rw [Bool.not_eq_true, Bool.not_eq_false'] at hahead
  simp only [RecoveryJoint.outOfReach, Bool.or_eq_true, Bool.and_eq_true, decide_eq_true_eq, not_or,
    not_and, not_lt] at hreach
  cases hl : j.lowerRecovery with
  | true =>
    rw [RecoveryJoint.feedbackAhead, hl, if_pos rfl, decide_eq_true_eq] at hahead
    obtain ⟨-, hprevious, hstep, -⟩ := (RecoveryCall.lowerRecovery_iff j).1 hl
    exact .inl ⟨hprevious, hstep.trans hahead.le, hreach.1.2 hl⟩
  | false =>
    have hu : j.upperRecovery = true := by simpa [hl] using hside
    rw [RecoveryJoint.feedbackAhead, hl, if_neg (by simp), decide_eq_true_eq] at hahead
    obtain ⟨-, hprevious, hstep, -⟩ := (RecoveryCall.upperRecovery_iff j).1 hu
    exact .inr ⟨hprevious, hahead.le.trans hstep, hreach.2 hu⟩

/-- The loop after `k` turns: the joints passed have their entry, the others the last output. -/
structure Seeding (group : JointGroupModel) (last : List Double) (measured : JointFeedback) (k : Nat)
    (seed : List Double) : Prop where
  length : seed.length = last.length
  passed : ∀ i < k, SeedJoint group last measured seed i
  rest : ∀ i, k ≤ i → valueAt seed i = valueAt last i

section
variable {config : CommandPipelineConfig} {period : Rat} {group : JointGroupModel}
  {limits : List Double} {output : JointCommand} {measured : JointFeedback} {last : List Double}

theorem SeedJoint.of_same {seed seed' : List Double} {i : Nat}
    (h : SeedJoint group last measured seed i) (hsame : valueAt seed' i = valueAt seed i) :
    SeedJoint group last measured seed' i := by
  cases h with
  | kept h => exact .kept (hsame.trans h)
  | fromBelow h hlast hahead hreach => exact .fromBelow (hsame.trans h) hlast hahead hreach
  | fromAbove h hlast hahead hreach => exact .fromAbove (hsame.trans h) hlast hahead hreach

theorem Seeding.turn {k : Nat} {state state' : JointTarget × Bool}
    (h : Seeding group last measured k state.1.positionsRad) (hk : k < last.length)
    (hturn : seedStep config period group limits output measured state k = some state') :
    Seeding group last measured (k + 1) state'.1.positionsRad := by
  unfold seedStep at hturn
  simp only at hturn
  split at hturn
  · cases hturn
  · cases hturn
    refine ⟨h.length, fun i hi => ?_, fun i hi => h.rest i (by omega)⟩
    rcases Nat.lt_succ_iff_lt_or_eq.1 hi with hlt | rfl
    · exact h.passed i hlt
    · exact .kept (h.rest i le_rfl)
  · rename_i hverdict
    cases hturn
    have hat : ∀ i, valueAt (reseedJoint state.1 measured k).positionsRad i =
        if k = i then valueAt measured.positionsRad i else valueAt state.1.positionsRad i := by
      intro i
      simp only [reseedJoint, valueAt_set, h.length, hk, and_true]
      split
      · rename_i heq
        rw [heq]
        rfl
      · rfl
    refine ⟨by simp [reseedJoint, h.length], fun i hi => ?_, fun i hi => ?_⟩
    · rcases Nat.lt_succ_iff_lt_or_eq.1 hi with hlt | rfl
      · refine (h.passed i hlt).of_same ?_
        rw [hat, if_neg (by omega)]
      · have hseed := (hat i).trans (if_pos rfl)
        rcases seedVerdict_reseed hverdict with ⟨hlast, hahead, hreach⟩ | ⟨hlast, hahead, hreach⟩
        · simp only [recoveryJoint, h.rest i le_rfl] at hlast hahead hreach
          exact .fromBelow hseed hlast hahead hreach
        · simp only [recoveryJoint, h.rest i le_rfl] at hlast hahead hreach
          exact .fromAbove hseed hlast hahead hreach
    · rw [hat, if_neg (by omega)]
      exact h.rest i (by omega)

theorem seeding_loop {target : JointTarget} : ∀ (k : Nat) (state : JointTarget × Bool),
    k ≤ target.positionsRad.length →
    (List.range k).foldlM (seedStep config period group limits output measured) (target, false) =
      some state →
    Seeding group target.positionsRad measured k state.1.positionsRad := by
  intro k
  induction k with
  | zero =>
    intro state _ h
    obtain rfl : (target, false) = state := by simpa using h
    exact ⟨rfl, fun i hi => absurd hi (Nat.not_lt_zero i), fun _ _ => rfl⟩
  | succ k ih =>
    intro state hk h
    rw [List.range_succ, List.foldlM_append] at h
    obtain ⟨mid, hmid, hlast⟩ := Option.bind_eq_some_iff.1 h
    have hturn : seedStep config period group limits output measured mid k = some state := by
      simpa using hlast
    exact (ih mid (Nat.le_of_succ_le hk) hmid).turn hk hturn

/-- A seed of a recovering session, joint by joint. -/
theorem seed_joint {session : Session} {seed : JointTarget}
    (hlast : session.lastFinalTarget.positionsRad.length = group.jointNames.length)
    (h : limitRecoverySeed config period group session output measured = some seed) :
    session.recoveringLimits = true ∧ ∀ i < group.jointNames.length,
      SeedJoint group session.lastFinalTarget.positionsRad measured seed.positionsRad i := by
  unfold limitRecoverySeed at h
  split at h
  · cases h
  rename_i hflags
  simp only at h
  split at h
  · rename_i found hfold
    cases h
    refine ⟨?_, (seeding_loop _ _ hlast.ge hfold).passed⟩
    simp only [Bool.or_eq_true, Bool.not_eq_true', not_or, Bool.not_eq_false] at hflags
    exact hflags.2
  · cases h

/-- What moves inward from the seed moves inward from the last output. -/
theorem SeedJoint.inward {command : JointCommand} {seed : List Double} {i : Nat}
    (h : SeedJoint group last measured seed i)
    (hinward : movesInward command group seed measured i = true) :
    movesInward command group last measured i = true := by
  rw [movesInward_cases] at hinward ⊢
  cases h with
  | kept h => rwa [h] at hinward
  | fromBelow h hlast hahead hreach =>
    rcases hinward with ⟨hq, -, hm, -, hstep, hv⟩ | ⟨-, -, hm, -, -, -⟩
    · exact .inl ⟨hq, hlast, hm, hahead.trans hstep, hstep, hv⟩
    · exact absurd hm (not_lt.2 hreach)
  | fromAbove h hlast hahead hreach =>
    rcases hinward with ⟨-, -, hm, -, -, -⟩ | ⟨hq, -, hm, -, hstep, hv⟩
    · exact absurd hm (not_lt.2 hreach)
    · exact .inr ⟨hq, hlast, hm, hstep.trans hahead, hstep, hv⟩

end

/-! ## Approved commands -/

section
variable {β : Type} {lib : MathLib} {p : CommandPipeline β} {session : Session}
  {group : JointGroupModel} {selected : JointFeedback} {command : JointCommand}

/-- An approved command at joint `i`: within the limits, or inward from the last output. -/
theorem Tick.Approved.joint (h : Tick.Approved lib p session group selected command)
    (hlast : session.lastFinalTarget.positionsRad.length = group.jointNames.length) {i : Nat}
    (hi : i < group.jointNames.length) : withinLimits command group i = true ∨
      movesInward command group session.lastFinalTarget.positionsRad selected i = true := by
  obtain ⟨previous, status, hcheck, hok, hprevious⟩ := h.checked
  have haccepted := (validateFinalCommand_ok hcheck hok).2 i hi
  simp only [jointAccepted, Bool.or_eq_true, Bool.and_eq_true, Option.any_some] at haccepted
  rcases haccepted with hwithin | ⟨-, -, hinward⟩
  · exact .inl hwithin
  · right
    rcases hprevious with rfl | ⟨rejected, seed, -, rfl, hseed⟩
    · exact hinward
    · exact ((seed_joint hlast hseed).2 i hi).inward hinward

/-- A command that passes without recovery. -/
theorem plainlyOk_within (h : plainlyOk lib command group = true) {i : Nat}
    (hi : i < group.jointNames.length) : withinLimits command group i = true := by
  unfold plainlyOk at h
  split at h
  · rename_i status hstatus
    simpa [jointAccepted] using (validateFinalCommand_ok hstatus h).2 i hi
  · cases h

/-- Where the measured joints lie within their limits. -/
theorem outsideLimits_tolerates (h : Tick.outsideLimits group selected = false) {i : Nat}
    (hi : i < group.jointNames.length) :
    group.tolerates i (valueAt selected.positionsRad i) := by
  simp only [Tick.outsideLimits, List.any_eq_false, List.mem_range, Bool.or_eq_true,
    decide_eq_true_eq, not_or, not_lt] at h
  exact tolerates_of_inside (h i hi).1 (h i hi).2

end

/-! ## Commands after one another -/

/-- Joint `i` of the later command is within its limits, or outside no farther than that of the
earlier one, which was outside on the same side. -/
def NoFarther (group : JointGroupModel) (earlier later : JointCommand) (i : Nat) : Prop :=
  withinLimits later group i = true ∨ (withinLimits earlier group i = false ∧
    ((valueAt later.positionsRad i < valueAt group.lowerPositionRad i ∧
        valueAt earlier.positionsRad i ≤ valueAt later.positionsRad i) ∨
      (valueAt group.upperPositionRad i < valueAt later.positionsRad i ∧
        valueAt later.positionsRad i ≤ valueAt earlier.positionsRad i)))

theorem outside_cases {group : JointGroupModel} {command : JointCommand} {i : Nat}
    (h : withinLimits command group i = false) :
    valueAt command.positionsRad i < valueAt group.lowerPositionRad i ∨
      valueAt group.upperPositionRad i < valueAt command.positionsRad i := by
  by_contra hin
  rw [not_or, not_lt, not_lt] at hin
  rw [withinLimits_iff.2 (tolerates_of_inside hin.1 hin.2)] at h
  cases h

theorem NoFarther.refl (group : JointGroupModel) (command : JointCommand) (i : Nat) :
    NoFarther group command command i := by
  cases hin : withinLimits command group i with
  | true => exact .inl hin
  | false =>
    refine .inr ⟨hin, ?_⟩
    rcases outside_cases hin with hout | hout
    · exact .inl ⟨hout, le_rfl⟩
    · exact .inr ⟨hout, le_rfl⟩

/-- An inward step from the second command leads no farther than the first. -/
theorem NoFarther.step {group : JointGroupModel} {first second third : JointCommand} {i : Nat}
    {measured : JointFeedback}
    (hordered : valueAt group.lowerPositionRad i ≤ valueAt group.upperPositionRad i)
    (h : NoFarther group first second i)
    (hstep : withinLimits third group i = true ∨
      movesInward third group second.positionsRad measured i = true) :
    NoFarther group first third i := by
  cases hthird : withinLimits third group i with
  | true => exact .inl hthird
  | false =>
    have hinward := hstep.resolve_left (by simp [hthird])
    have hsecond : withinLimits second group i = false := by
      rw [← Bool.not_eq_true]
      intro hin
      have := tolerates_of_inward hordered (withinLimits_iff.1 hin) hinward
      rw [withinLimits_iff.2 this] at hthird
      cases hthird
    obtain ⟨hfirst, hside⟩ := h.resolve_left (by simp [hsecond])
    refine .inr ⟨hfirst, ?_⟩
    rcases movesInward_cases.1 hinward with ⟨hq, hp, -, hle, -, -⟩ | ⟨hq, hp, -, hle, -, -⟩
    · rcases hside with ⟨-, hfirst⟩ | ⟨hup, -⟩
      · exact .inl ⟨hq, hfirst.trans hle⟩
      · exact absurd (hp.trans_le hordered) (not_lt.2 hup.le)
    · rcases hside with ⟨hlow, -⟩ | ⟨-, hfirst⟩
      · exact absurd (hlow.trans_le hordered) (not_lt.2 hp.le)
      · exact .inr ⟨hq, hle.trans hfirst⟩

end HumanoidMotion
