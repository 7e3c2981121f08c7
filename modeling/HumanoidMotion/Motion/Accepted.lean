import HumanoidMotion.Motion.Pipeline
/-
# What a passed check establishes

One lemma for each check of `Validation.lean`: what the code may rely on after
it. `validateFinalCommand_total` and `selectFeedback_total` say when the `.at()`
lookups inside them are in range.
-/

namespace HumanoidMotion

/-! ## Requests -/

/-- A request whose goal the monitor can take. -/
def GoalOk : SessionRequest → Prop
  | .moveJ r => r.target.jointNames.isEmpty = false ∧
      r.target.jointNames.length = r.target.positionsRad.length ∧
      uniqueNonEmpty r.target.jointNames = true ∧ finite r.target.positionsRad = true
  | request => ∀ pose ∈ terminalCartesianGoal request, finitePose pose = true

theorem JointGroupModel.valid_iff (group : JointGroupModel) :
    group.valid = true ↔ group.name.isEmpty = false ∧ group.jointNames.isEmpty = false ∧
      uniqueNonEmpty group.jointNames = true ∧
      group.lowerPositionRad.length = group.jointNames.length ∧
      group.upperPositionRad.length = group.jointNames.length ∧
      finite group.lowerPositionRad = true ∧ finite group.upperPositionRad = true := by
  simp [JointGroupModel.valid, and_assoc]

theorem validateJointTarget_ok {target : JointTarget} {group : JointGroupModel}
    (h : (validateJointTarget target group).ok = true) :
    target.jointNames.length = group.jointNames.length ∧
      target.positionsRad.length = target.jointNames.length ∧
      uniqueNonEmpty target.jointNames = true ∧ finite target.positionsRad = true := by
  unfold validateJointTarget at h
  split_ifs at h with h₁ h₂ h₃ <;> first | cases h | skip
  simp only [Bool.or_eq_true, Bool.not_eq_true', not_or, Bool.not_eq_false, decide_eq_true_eq,
    not_not] at h₁ h₂ h₃
  exact ⟨h₁.1.1.1, h₁.1.1.2, h₂.2, h₃.1.1⟩

theorem validateCartesian_ok {baseLink linkName : String} {target : Pose}
    (h : (validateCartesian baseLink linkName target).ok = true) : finitePose target = true := by
  unfold validateCartesian at h
  split_ifs at h with h₁
  · cases h
  · simp only [Bool.or_eq_true, Bool.not_eq_true', not_or, Bool.not_eq_false] at h₁
    exact h₁.2

/-- A validated target is a goal the monitor can take. -/
theorem validateTarget_ok {request : SessionRequest} {group : JointGroupModel}
    (hg : group.jointNames.isEmpty = false) (h : (validateTarget request group).ok = true) :
    GoalOk request := by
  cases request with
  | moveJ r =>
    obtain ⟨hlen, hpos, hu, hf⟩ := validateJointTarget_ok h
    refine ⟨?_, hpos.symm, hu, hf⟩
    simp only [List.isEmpty_eq_false_iff, ← List.length_pos_iff] at hg ⊢
    omega
  | moveL r =>
    rintro pose ⟨rfl⟩
    exact validateCartesian_ok h
  | moveP r =>
    simp only [validateTarget] at h
    split_ifs at h with h₁
    · cases h
    · simp only [Bool.or_eq_true, Bool.not_eq_true', not_or, Bool.not_eq_false,
        Bool.not_eq_true, List.all_eq_true] at h₁
      rintro pose ⟨rfl⟩
      refine h₁.2 _ ?_
      have hne : r.waypoints ≠ [] := by simpa using h₁.1.2
      rw [List.getLastD_eq_getLast?, List.getLast?_eq_some_getLast hne, Option.getD_some]
      exact List.getLast_mem hne
  | servoJ r => intro _ h; cases h
  | servoP r => intro _ h; cases h

/-- What `validateRequest` hands on: a session of the endpoint's kind and group, with the joints
of that group, under the caller's id for a Move and the derived id for a servo. -/
structure Admissible (groups : StringMap JointGroupModel) (policy : EndpointPolicy)
    (request : SessionRequest) (expectServo : Bool) (session : Session) : Prop where
  servo : isServo (motionKind request) = expectServo
  kind : policy.kind = motionKind request
  group : policy.groupName = groupName request
  found : ∃ model, groups[groupName request]? = some model ∧
    model.jointNames = session.jointNames ∧ (validateTarget request model).ok = true
  session : session =
    { endpointName := policy.endpointName
      sessionId := if expectServo then servoId policy.endpointName else requestId request
      groupName := groupName request
      jointNames := session.jointNames
      request }
  named : expectServo = false → (requestId request).isEmpty = false

theorem validateRequest_ok {groups : StringMap JointGroupModel} {policy : EndpointPolicy}
    {request : SessionRequest} {expectServo : Bool} {session : Session}
    (h : validateRequest groups policy request expectServo = .ok session) :
    Admissible groups policy request expectServo session := by
  unfold validateRequest at h
  simp only at h
  split at h
  · cases h
  · rename_i hkind
    simp only [ne_eq, decide_not, Bool.or_eq_true, Bool.not_eq_true', decide_eq_false_iff_not,
      not_or, not_not] at hkind
    obtain ⟨⟨hservo, hkind⟩, hgroup⟩ := hkind
    split at h
    · cases h
    · rename_i model hmodel
      by_cases hname : (!expectServo && (requestId request).isEmpty) = true
      · simp [hname] at h
      · by_cases hlimits :
            (!(validateLimits (requestLimits request) model.jointNames.length).ok) = true
        · simp only [hname, hlimits, if_true] at h
          cases h
        · by_cases htarget : (!(validateTarget request model).ok) = true
          · simp only [hname, hlimits, htarget, if_true] at h
            cases h
          · simp only [hname, hlimits, htarget] at h
            cases h
            refine ⟨hservo, hkind, hgroup, ⟨model, hmodel, rfl, by simpa using htarget⟩, rfl, ?_⟩
            rintro rfl
            simpa using hname

theorem validateRequest_error {groups : StringMap JointGroupModel} {policy : EndpointPolicy}
    {request : SessionRequest} {expectServo : Bool} {status : MotionStatus}
    (h : validateRequest groups policy request expectServo = .error status) : status.ok = false := by
  unfold validateRequest at h
  simp only at h
  split at h
  · cases h; rfl
  · split at h
    · cases h; rfl
    · split at h
      · cases h; rfl
      · split at h
        · rename_i hlimits
          cases h
          simpa using hlimits
        · split at h
          · rename_i htarget
            cases h
            simpa using htarget
          · cases h

/-! ## Feedback -/

theorem selectFeedback_total (feedback : JointFeedback) (names : List String)
    (h : names.all feedback.jointNames.contains = true) :
    ∃ selected, selectFeedback feedback names = .ok selected := by
  unfold selectFeedback
  rw [if_pos h]
  exact ⟨_, rfl⟩

theorem selectFeedback_ok {feedback selected : JointFeedback} {names : List String}
    (h : selectFeedback feedback names = .ok selected) :
    selected.jointNames = names ∧ selected.positionsRad.length = names.length := by
  unfold selectFeedback at h
  split_ifs at h
  obtain ⟨rfl⟩ := h
  simp

/-- Selected feedback is what selecting from it once more gives. -/
theorem selectFeedback_again {feedback selected : JointFeedback} {names : List String}
    (h : selectFeedback feedback names = .ok selected) :
    selectFeedback selected names = .ok selected := by
  unfold selectFeedback at h
  split_ifs at h
  obtain ⟨rfl⟩ := h
  have hlookup : ∀ f : String → Double, ∀ name ∈ names,
      (names.map f).getD (names.idxOf name) 0 = f name := fun f name hname => by
    simp [List.getD_eq_getElem?_getD, List.getElem?_map, List.getElem?_idxOf hname]
  unfold selectFeedback
  rw [if_pos (by simp)]
  congr 2
  · exact List.map_congr_left (hlookup _)
  · exact List.map_congr_left (hlookup _)

theorem validateFeedback_ok {lib : MathLib} {config : CommandPipelineConfig}
    {feedback : JointFeedback} {group : JointGroupModel} {now : SteadyTime}
    (h : (validateFeedback lib config feedback group now).ok = true) :
    feedback.jointNames.length = feedback.positionsRad.length ∧
      now < feedback.receivedAt + config.feedbackMaxAge ∧
      group.jointNames.all feedback.jointNames.contains = true := by
  unfold validateFeedback at h
  split_ifs at h with h₁ h₂ h₃ h₄ <;> first | cases h | skip
  simp only [Bool.or_eq_true, Bool.not_eq_true', not_or, Bool.not_eq_false, decide_eq_true_eq,
    not_not, not_le, not_lt] at h₁ h₃ h₄
  refine ⟨h₁.1.1.1, ?_, h₄⟩
  exact sub_lt_iff_lt_add'.1 h₃.2

/-! ## SDK output -/

theorem wellFormed_iff (command : JointCommand) (group : JointGroupModel) :
    wellFormed command group = true ↔ command.groupName = group.name ∧
      command.jointNames = group.jointNames ∧
      command.positionsRad.length = group.jointNames.length ∧
      optionalLength command.velocitiesRadS group.jointNames.length = true ∧
      optionalLength command.accelerationsRadS2 group.jointNames.length = true ∧
      finite command.positionsRad = true ∧ finite command.velocitiesRadS = true ∧
      finite command.accelerationsRadS2 = true := by
  simp [wellFormed, and_assoc]

theorem atIndex_total (values : List Double) (i : Nat) (h : i < values.length) :
    ∃ value, atIndex values i = .ok value := by
  simp [atIndex, List.getElem?_eq_getElem h]

/-- No `.at()` of `validateFinalCommand` throws when the previous output and the feedback have one
position for each joint of the group. -/
theorem validateFinalCommand_total (lib : MathLib) (command : JointCommand)
    (group : JointGroupModel) (recovery : Option (List Double × JointFeedback))
    (h : ∀ r ∈ recovery, r.1.length = group.jointNames.length ∧
      r.2.positionsRad.length = group.jointNames.length) :
    ∃ status, validateFinalCommand lib command group recovery = .ok status := by
  unfold validateFinalCommand
  split
  · exact ⟨_, rfl⟩
  · rename_i hw
    split
    · exact ⟨_, rfl⟩
    · rename_i i hi
      have hlen := ((wellFormed_iff command group).1 (by simpa using hw)).2.2.1
      have hlt : i < command.positionsRad.length := List.mem_range.1 (List.mem_of_find?_eq_some hi)
      cases recovery with
      | none => exact ⟨_, rfl⟩
      | some r =>
        obtain ⟨hp, hf⟩ := h r rfl
        obtain ⟨before, hb⟩ := atIndex_total r.1 i (by omega)
        obtain ⟨measured, hm⟩ := atIndex_total r.2.positionsRad i (by omega)
        simp only [hb, hm]
        exact ⟨_, rfl⟩

theorem validateFinalCommand_wellFormed {lib : MathLib} {command : JointCommand}
    {group : JointGroupModel} {recovery : Option (List Double × JointFeedback)}
    {status : MotionStatus} (h : validateFinalCommand lib command group recovery = .ok status)
    (hcode : status.code ≠ .invalidArgument) : wellFormed command group = true := by
  unfold validateFinalCommand at h
  split at h
  · obtain ⟨rfl⟩ := h
    exact absurd rfl hcode
  · rename_i hw
    simpa using hw

/-- A command that passes is well formed, and every joint of it is accepted. -/
theorem validateFinalCommand_ok {lib : MathLib} {command : JointCommand}
    {group : JointGroupModel} {recovery : Option (List Double × JointFeedback)}
    {status : MotionStatus} (h : validateFinalCommand lib command group recovery = .ok status)
    (hok : status.ok = true) : wellFormed command group = true ∧
      ∀ i < group.jointNames.length, jointAccepted command group recovery i = true := by
  have hw : wellFormed command group = true :=
    validateFinalCommand_wellFormed h fun hc => by simp [MotionStatus.ok, hc] at hok
  refine ⟨hw, fun i hi => ?_⟩
  have hlen := ((wellFormed_iff command group).1 hw).2.2.1
  unfold validateFinalCommand at h
  simp only [hw, Bool.not_true, Bool.false_eq_true, if_false] at h
  split at h
  · rename_i hnone
    simpa using List.find?_eq_none.1 hnone i (List.mem_range.2 (by omega))
  · -- a rejected joint leaves a limit violation, or no status at all
    rename_i j hj
    cases recovery with
    | none =>
      obtain ⟨rfl⟩ := h
      cases hok
    | some r =>
      simp only [bind, Except.bind, pure, Except.pure] at h
      cases hb : atIndex r.1 j <;> simp only [hb] at h
      · cases h
      · cases hm : atIndex r.2.positionsRad j <;> simp only [hm] at h <;> cases h
        cases hok

theorem validateCandidate_ok {lib : MathLib} {command : JointCommand} {group : JointGroupModel}
    {status : MotionStatus} (h : validateCandidate lib command group = .ok status)
    (hok : status.ok = true) : wellFormed command group = true := by
  unfold validateCandidate at h
  split_ifs at h
  · obtain ⟨rfl⟩ := h
    cases hok
  · exact (validateFinalCommand_ok h hok).1

theorem validateCandidate_total (lib : MathLib) (command : JointCommand)
    (group : JointGroupModel) : ∃ status, validateCandidate lib command group = .ok status := by
  unfold validateCandidate
  split_ifs
  · exact ⟨_, rfl⟩
  · exact validateFinalCommand_total _ _ _ _ (by simp)

/-- The command passes without recovery: the test that ends a recovery (`:1088`). -/
def plainlyOk (lib : MathLib) (command : JointCommand) (group : JointGroupModel) : Bool :=
  match validateFinalCommand lib command group none with
  | .ok status => status.ok
  | .error _ => false

/-! ## The recovery seed -/

theorem seedStep_length {config : CommandPipelineConfig} {period : Rat} {group : JointGroupModel}
    {velocityLimits : List Double} {output : JointCommand} {feedback : JointFeedback}
    {state state' : JointTarget × Bool} {i : Nat}
    (h : seedStep config period group velocityLimits output feedback state i = some state') :
    state'.1.positionsRad.length = state.1.positionsRad.length := by
  unfold seedStep at h
  simp only at h
  split at h <;> cases h <;> simp [reseedJoint]

theorem limitRecoverySeed_length {config : CommandPipelineConfig} {period : Rat}
    {group : JointGroupModel} {session : Session} {output : JointCommand}
    {feedback : JointFeedback} {seed : JointTarget}
    (h : limitRecoverySeed config period group session output feedback = some seed) :
    seed.positionsRad.length = session.lastFinalTarget.positionsRad.length := by
  have hfold : ∀ (is : List Nat) (state state' : JointTarget × Bool),
      is.foldlM (seedStep config period group (requestLimits session.request).jointMaxVelocityRadS
        output feedback) state = some state' →
      state'.1.positionsRad.length = state.1.positionsRad.length := by
    intro is
    induction is with
    | nil => rintro _ _ ⟨rfl⟩; rfl
    | cons i is ih =>
      intro state state' hs
      obtain ⟨mid, hm, hrest⟩ := Option.bind_eq_some_iff.1 hs
      rw [ih mid state' hrest, seedStep_length hm]
  unfold limitRecoverySeed at h
  split at h
  · cases h
  · simp only at h
    split at h
    · rename_i hseed
      cases h
      exact hfold _ _ _ hseed
    · cases h

end HumanoidMotion
