import HumanoidMotion.Kinematics.SdkKinematics
import HumanoidMotion.Lib.Columns
/-
# Joints by name, not by place

A joint state says which joint is where; the order it lists them in says
nothing. `reorderJointPositions` accepts a state exactly when it `Covers` the
group, a condition on the pairs of a name and a position, and then reads the
positions off in group order. Errors are found at places, but their code does
not depend on the place.

* `Rearranged` — the same joints in another order.
* `reorder_covers` — what `reorderJointPositions` accepts and returns.
* `SameOutcome` — the same value, or errors with the same code.
* `kinematics_by_name` — both requests.
-/

namespace HumanoidMotion.Kinematics

/-! ## Names -/

/-- What `validateNames` asks of a list of names. -/
def Distinct (names : List String) : Prop := names.Nodup ∧ "" ∉ names

theorem foldlM_noteName (code : ErrorCode) (label : String) : ∀ (names : List String)
    (seen : StringSet),
    ((Distinct names ∧ ∀ name ∈ names, name ∉ seen) ∧
      ∃ unique, names.foldlM (noteName code label) seen = .ok unique) ∨
    (¬(Distinct names ∧ ∀ name ∈ names, name ∉ seen) ∧
      ∃ message, names.foldlM (noteName code label) seen = .error ⟨code, message⟩)
  | [], seen => .inl ⟨⟨⟨List.nodup_nil, List.not_mem_nil⟩, by simp⟩, seen, rfl⟩
  | name :: rest, seen => by
    rw [List.foldlM_cons, noteName]
    split
    · rename_i hempty
      have hblank : name = "" := String.isEmpty_iff.1 hempty
      exact .inr ⟨fun h => h.1.2 (hblank ▸ List.mem_cons_self), _, rfl⟩
    · rename_i hempty
      have hblank : name ≠ "" := fun h => hempty (String.isEmpty_iff.2 h)
      split
      · rename_i hseen
        exact .inr ⟨fun h => h.2 name List.mem_cons_self (Std.TreeSet.contains_iff_mem.1 hseen), _, rfl⟩
      · rename_i hseen
        have hfresh : name ∉ seen := fun h => hseen (Std.TreeSet.contains_iff_mem.2 h)
        have hiff : (Distinct (name :: rest) ∧ ∀ other ∈ name :: rest, other ∉ seen) ↔
            (Distinct rest ∧ ∀ other ∈ rest, other ∉ seen.insert name) := by
          simp only [Distinct, List.nodup_cons, List.mem_cons, not_or, forall_eq_or_imp,
            Std.TreeSet.mem_insert, Std.LawfulEqOrd.compare_eq_iff_eq]
          constructor
          · rintro ⟨⟨⟨hnotin, hnodup⟩, -, hnotblank⟩, -, hrest⟩
            exact ⟨⟨hnodup, hnotblank⟩, fun other hother =>
              ⟨fun heq => hnotin (heq ▸ hother), hrest other hother⟩⟩
          · rintro ⟨⟨hnodup, hnotblank⟩, hrest⟩
            exact ⟨⟨⟨fun hin => (hrest name hin).1 rfl, hnodup⟩, hblank.symm, hnotblank⟩, hfresh,
              fun other hother => (hrest other hother).2⟩
        rw [hiff]
        exact foldlM_noteName code label rest (seen.insert name)

/-- `validateNames` accepts names that are distinct and not empty, and else has its one code. -/
theorem validateNames_cases (code : ErrorCode) (hcode : code ≠ .ok) (names : List String)
    (label : String) :
    (Distinct names ∧ (validateNames names code label).ok = true) ∨
    (¬ Distinct names ∧ (validateNames names code label).ok = false ∧
      (validateNames names code label).code = code) := by
  unfold validateNames
  rcases foldlM_noteName code label names ∅ with
    ⟨⟨hdistinct, -⟩, unique, hloop⟩ | ⟨hnot, message, hloop⟩
  · rw [hloop]
    exact .inl ⟨hdistinct, rfl⟩
  · rw [hloop]
    refine .inr ⟨fun hdistinct => hnot ⟨hdistinct, fun _ _ => Std.TreeSet.not_mem_emptyc⟩, ?_, rfl⟩
    simpa [Status.ok] using hcode

/-! ## A joint state in the order of a group -/

/-- The joints of a state: who is where. -/
def JointState.joints (state : JointState) : List (String × Double) :=
  state.jointNames.zip state.positionsRad

/-- The same joints, listed in another order. -/
structure Rearranged (state state' : JointState) : Prop where
  names : state.jointNames.length = state'.jointNames.length
  positions : state.positionsRad.length = state'.positionsRad.length
  joints : state.joints.Perm state'.joints

/-- A state that says of every joint of the group where it is, and of no other. -/
structure Covers (state : JointState) (group : List String) : Prop where
  columns : state.jointNames.length = state.positionsRad.length
  distinct : Distinct state.jointNames
  finite : ∀ joint ∈ state.joints, joint.2.isFinite = true
  size : state.jointNames.length = group.length
  known : ∀ name ∈ group, name ∈ state.jointNames

theorem foldlM_notePosition : ∀ (joints : List (String × Double)) (byName : StringMap Double),
    ((∀ joint ∈ joints, joint.2.isFinite = true) ∧
      joints.foldlM notePosition byName =
        .ok (joints.foldl (fun map p => map.insertIfNew p.1 p.2) byName)) ∨
    (¬(∀ joint ∈ joints, joint.2.isFinite = true) ∧
      ∃ message, joints.foldlM notePosition byName = .error ⟨.invalidJointState, message⟩)
  | [], byName => .inl ⟨by simp, rfl⟩
  | joint :: rest, byName => by
    rw [List.foldlM_cons, notePosition]
    cases hfinite : joint.2.isFinite with
    | false =>
      exact .inr ⟨fun hall => by simp [hall joint List.mem_cons_self] at hfinite, _, rfl⟩
    | true =>
      have hiff : (∀ other ∈ joint :: rest, other.2.isFinite = true) ↔
          ∀ other ∈ rest, other.2.isFinite = true := by
        simp [hfinite]
      rw [hiff]
      exact foldlM_notePosition rest (byName.insertIfNew joint.1 joint.2)

theorem mapM_positionOf (byName : StringMap Double) : ∀ group : List String,
    (∃ radians, Columns.pick byName group = some radians ∧
      group.mapM (positionOf byName) = .ok radians) ∨
    (Columns.pick byName group = none ∧
      ∃ message, group.mapM (positionOf byName) = .error ⟨.invalidJointState, message⟩)
  | [] => .inl ⟨[], rfl, rfl⟩
  | name :: rest => by
    rw [Columns.pick_cons, List.mapM_cons, positionOf]
    cases hname : byName[name]? with
    | none => exact .inr ⟨rfl, _, rfl⟩
    | some position =>
      rcases mapM_positionOf byName rest with ⟨radians, hpick, hloop⟩ | ⟨hpick, message, hloop⟩
      · exact .inl ⟨position :: radians, by simp [hpick], by rw [hloop]; rfl⟩
      · exact .inr ⟨by simp [hpick], message, by rw [hloop]; rfl⟩

theorem joints_names {state : JointState}
    (hcolumns : state.jointNames.length = state.positionsRad.length) :
    state.joints.map Prod.fst = state.jointNames := List.map_fst_zip (by omega)

section
variable {state : JointState} {group : List String}

/-! What `reorderJointPositions` answers, by the first check that a state fails. -/

theorem reorder_columns (hcolumns : state.jointNames.length ≠ state.positionsRad.length) :
    ∃ message, reorderJointPositions state group = .Failure ⟨.invalidJointState, message⟩ := by
  unfold reorderJointPositions
  rw [if_pos hcolumns]
  exact ⟨_, rfl⟩

theorem reorder_names (hcolumns : state.jointNames.length = state.positionsRad.length)
    (hok : (validateNames state.jointNames .invalidJointState "joint state").ok = false)
    (hcode : (validateNames state.jointNames .invalidJointState "joint state").code =
      .invalidJointState) :
    ∃ message, reorderJointPositions state group = .Failure ⟨.invalidJointState, message⟩ := by
  unfold reorderJointPositions
  rw [if_neg (not_not.2 hcolumns)]
  simp only [hok, Bool.not_false, if_true]
  refine ⟨(validateNames state.jointNames .invalidJointState "joint state").message,
    congrArg Result.Failure ?_⟩
  exact congrArg (Status.mk · _) hcode

variable (hcolumns : state.jointNames.length = state.positionsRad.length)
  (hok : (validateNames state.jointNames .invalidJointState "joint state").ok = true)
include hcolumns hok

theorem reorder_positions {status : Status}
    (hloop : state.joints.foldlM notePosition ∅ = .error status) :
    reorderJointPositions state group = .Failure status := by
  unfold reorderJointPositions
  rw [if_neg (not_not.2 hcolumns)]
  simp only [hok, Bool.not_true, Bool.false_eq_true, if_false]
  rw [show state.jointNames.zip state.positionsRad = state.joints from rfl, hloop]

variable {byName : StringMap Double} (hloop : state.joints.foldlM notePosition ∅ = .ok byName)
include hloop

theorem reorder_size (hsize : byName.size ≠ group.length) :
    ∃ message, reorderJointPositions state group = .Failure ⟨.invalidJointState, message⟩ := by
  unfold reorderJointPositions
  rw [if_neg (not_not.2 hcolumns)]
  simp only [hok, Bool.not_true, Bool.false_eq_true, if_false]
  rw [show state.jointNames.zip state.positionsRad = state.joints from rfl, hloop]
  dsimp only
  rw [if_pos hsize]
  exact ⟨_, rfl⟩

theorem reorder_read (hsize : byName.size = group.length) :
    (∀ reordered, group.mapM (positionOf byName) = .ok reordered →
      reorderJointPositions state group = .Success reordered) ∧
    (∀ status, group.mapM (positionOf byName) = .error status →
      reorderJointPositions state group = .Failure status) := by
  unfold reorderJointPositions
  rw [if_neg (not_not.2 hcolumns)]
  simp only [hok, Bool.not_true, Bool.false_eq_true, if_false]
  rw [show state.jointNames.zip state.positionsRad = state.joints from rfl, hloop]
  dsimp only
  rw [if_neg (not_not.2 hsize)]
  constructor
  · intro reordered hread
    rw [hread]
  · intro status hread
    rw [hread]

end

/-- `reorderJointPositions` accepts what covers the group, and looks its joints up. -/
theorem reorder_covers (state : JointState) (group : List String) :
    (Covers state group ∧ ∃ radians, Columns.pick (Columns.table state.joints) group = some radians ∧
      reorderJointPositions state group = .Success radians) ∨
    (¬ Covers state group ∧ ∃ message,
      reorderJointPositions state group = .Failure ⟨.invalidJointState, message⟩) := by
  by_cases hcolumns : state.jointNames.length = state.positionsRad.length
  swap
  · exact .inr ⟨fun h => hcolumns h.columns, reorder_columns hcolumns⟩
  rcases validateNames_cases .invalidJointState (by decide) state.jointNames
    "joint state" with ⟨hdistinct, hok⟩ | ⟨hnot, hok, hcode⟩
  swap
  · exact .inr ⟨fun h => hnot h.distinct, reorder_names hcolumns hok hcode⟩
  rcases foldlM_notePosition state.joints ∅ with ⟨hfinite, hloop⟩ | ⟨hnot, message, hloop⟩
  swap
  · exact .inr ⟨fun h => hnot h.finite, message, reorder_positions hcolumns hok hloop⟩
  have hnodup : (state.joints.map Prod.fst).Nodup := by
    rw [joints_names hcolumns]
    exact hdistinct.1
  have hcount : (Columns.table state.joints).size = state.jointNames.length := by
    rw [Columns.table_size hnodup, ← List.length_map Prod.fst, joints_names hcolumns]
  by_cases hsize : (Columns.table state.joints).size = group.length
  swap
  · exact .inr ⟨fun h => hsize (hcount.trans h.size), reorder_size hcolumns hok hloop hsize⟩
  have hknown : (Columns.pick (Columns.table state.joints) group).isSome = true ↔
      ∀ name ∈ group, name ∈ state.jointNames := by
    simp only [Columns.pick_isSome, Columns.mem_table hnodup, joints_names hcolumns]
  obtain ⟨hsuccess, hfailure⟩ := reorder_read hcolumns hok hloop hsize
  rcases mapM_positionOf (Columns.table state.joints) group with
    ⟨radians, hpick, hread⟩ | ⟨hpick, message, hread⟩
  · exact .inl ⟨⟨hcolumns, hdistinct, hfinite, hcount.symm.trans hsize,
      hknown.1 (by rw [hpick]; rfl)⟩, radians, hpick, hsuccess radians hread⟩
  · refine .inr ⟨fun h => ?_, message, hfailure _ hread⟩
    have hsome := hknown.2 h.known
    rw [hpick] at hsome
    cases hsome

theorem Rearranged.symm {state state' : JointState} (h : Rearranged state state') :
    Rearranged state' state := ⟨h.names.symm, h.positions.symm, h.joints.symm⟩

/-- Covering a group is a matter of the pairs. -/
theorem Rearranged.covers {state state' : JointState} (h : Rearranged state state')
    {group : List String} (hcovers : Covers state group) : Covers state' group := by
  have hcolumns : state'.jointNames.length = state'.positionsRad.length := by
    rw [← h.names, ← h.positions]
    exact hcovers.columns
  have hnames : state.jointNames.Perm state'.jointNames := by
    have hjoints := h.joints.map Prod.fst
    rwa [joints_names hcovers.columns, joints_names hcolumns] at hjoints
  exact ⟨hcolumns,
    ⟨hnames.nodup_iff.1 hcovers.distinct.1, fun hblank => hcovers.distinct.2 (hnames.mem_iff.2 hblank)⟩,
    fun joint hjoint => hcovers.finite joint (h.joints.mem_iff.2 hjoint),
    h.names.symm.trans hcovers.size,
    fun name hname => hnames.subset (hcovers.known name hname)⟩

/-- A state in another order is read off the same, or refused with the same code. -/
theorem reorder_rearranged {state state' : JointState} (h : Rearranged state state')
    (group : List String) :
    (∃ radians, reorderJointPositions state group = .Success radians ∧
      reorderJointPositions state' group = .Success radians) ∨
    (∃ message message', reorderJointPositions state group = .Failure ⟨.invalidJointState, message⟩ ∧
      reorderJointPositions state' group = .Failure ⟨.invalidJointState, message'⟩) := by
  rcases reorder_covers state group with ⟨hcovers, radians, hpick, hread⟩ | ⟨hnot, message, hread⟩
  · rcases reorder_covers state' group with ⟨-, radians', hpick', hread'⟩ | ⟨hnot', -⟩
    · have hnodup : (state.joints.map Prod.fst).Nodup := by
        rw [joints_names hcovers.columns]
        exact hcovers.distinct.1
      have hsame := Columns.pick_congr (Columns.table_perm h.joints hnodup) group
      rw [hpick, hpick'] at hsame
      exact .inl ⟨radians, hread, by rw [hread', Option.some.inj hsame]⟩
    · exact absurd (h.covers hcovers) hnot'
  · rcases reorder_covers state' group with ⟨hcovers', -⟩ | ⟨-, message', hread'⟩
    · exact absurd (h.symm.covers hcovers') hnot
    · exact .inr ⟨message, message', hread, hread'⟩

/-- A vector of the joints of a state, in group order and in degrees. -/
def NamedVector (group : List String) (state : JointState) (jointsDeg : List Double) : Prop :=
  ∃ radians, jointsDeg = radiansToDegrees radians ∧ radians.length = group.length ∧
    (group.zip radians).Perm state.joints

theorem reorder_named {state : JointState} {group : List String} (hgroup : group.Nodup)
    {radians : List Double} (h : reorderJointPositions state group = .Success radians) :
    NamedVector group state (radiansToDegrees radians) := by
  rcases reorder_covers state group with ⟨hcovers, found, hpick, hread⟩ | ⟨-, message, hread⟩
  · rw [hread] at h
    cases h
    have hnodup : (state.joints.map Prod.fst).Nodup := by
      rw [joints_names hcovers.columns]
      exact hcovers.distinct.1
    have hlength : group.length = state.joints.length := by
      rw [← List.length_map Prod.fst, joints_names hcovers.columns, hcovers.size]
    exact ⟨radians, rfl, Columns.pick_length hpick, Columns.pick_perm hnodup hgroup hlength hpick⟩
  · rw [hread] at h
    cases h

/-! ## The same request with its joints in another order -/

/-- The same value, or errors with the same code. -/
def SameOutcome {α : Type} (result result' : Result α) : Prop :=
  result = result' ∨
    result.ok = false ∧ result'.ok = false ∧ result.status.code = result'.status.code

theorem sameOutcome_failure {α : Type} (code : ErrorCode) (message message' : String) :
    SameOutcome (.Failure ⟨code, message⟩ : Result α) (.Failure ⟨code, message'⟩) := by
  refine .inr ⟨?_, ?_, rfl⟩ <;> simp [Result.ok, Result.Failure]

structure SameForward (request request' : ForwardKinematicsRequest) : Prop where
  kinematics : request.kinematics = request'.kinematics
  jointState : Rearranged request.jointState request'.jointState

structure SameInverse (request request' : InverseKinematicsRequest) : Prop where
  kinematics : request.kinematics = request'.kinematics
  targetPose : request.targetPose = request'.targetPose
  seed : Option.Rel Rearranged request.seed request'.seed
  currentState : Option.Rel Rearranged request.currentState request'.currentState
  preference : Option.Rel Rearranged request.parameters.redundancyPreference
    request'.parameters.redundancyPreference
  parameters : { request.parameters with
    redundancyPreference := request'.parameters.redundancyPreference } = request'.parameters

/-- The same calls and the same outcome. -/
def Agree {α : Type} (answer answer' : Result α × List SdkCall) : Prop :=
  answer.2 = answer'.2 ∧ SameOutcome answer.1 answer'.1

theorem Agree.refl {α : Type} (answer : Result α × List SdkCall) : Agree answer answer :=
  ⟨rfl, .inl rfl⟩

namespace SdkKinematics

theorem inGroup_agree {α : Type} (self : SdkKinematics) (calls : List SdkCall)
    (request : KinematicsRequest)
    {answer answer' : SdkApi → List SdkCall → List String → Result α × List SdkCall}
    (h : ∀ api calls group, Agree (answer api calls group) (answer' api calls group)) :
    Agree (self.inGroup calls request answer) (self.inGroup calls request answer') := by
  unfold inGroup
  dsimp only
  cases (validateRequestNames request).ok with
  | false => exact .refl _
  | true =>
    simp only [Bool.not_true, Bool.false_eq_true, if_false]
    cases (self.group calls request.groupName).1.ok with
    | false => exact .refl _
    | true =>
      simp only [Bool.not_true, Bool.false_eq_true, if_false]
      split
      · exact h _ _ _
      · exact .refl _

theorem forward_agree (self : SdkKinematics) (calls : List SdkCall)
    {request request' : ForwardKinematicsRequest} (h : SameForward request request') :
    Agree (self.forwardKinematics calls request) (self.forwardKinematics calls request') := by
  unfold forwardKinematics
  rw [← h.kinematics]
  refine inGroup_agree self calls request.kinematics fun api calls group => ?_
  unfold forwardInGroup
  rw [← h.kinematics]
  rcases reorder_rearranged h.jointState group with
    ⟨radians, hread, hread'⟩ | ⟨message, message', hread, hread'⟩
  · rw [hread, hread']
    exact .refl _
  · rw [hread, hread']
    exact ⟨rfl, sameOutcome_failure _ message message'⟩

theorem optionalDegrees_rearranged {state state' : Option JointState}
    (h : Option.Rel Rearranged state state') (group : List String) :
    optionalDegrees state group = optionalDegrees state' group ∨
    (∃ message message', optionalDegrees state group = .error ⟨.invalidJointState, message⟩ ∧
      optionalDegrees state' group = .error ⟨.invalidJointState, message'⟩) := by
  cases h with
  | none => exact .inl rfl
  | some hsame =>
    unfold optionalDegrees
    dsimp only
    rcases reorder_rearranged hsame group with
      ⟨radians, hread, hread'⟩ | ⟨message, message', hread, hread'⟩
    · rw [hread, hread']
      exact .inl rfl
    · rw [hread, hread']
      exact .inr ⟨message, message', rfl, rfl⟩

theorem selected_rearranged {seed seed' current current' : Option JointState}
    (hseed : Option.Rel Rearranged seed seed') (hcurrent : Option.Rel Rearranged current current') :
    Option.Rel Rearranged (seed.or current) (seed'.or current') := by
  cases hseed with
  | none => exact hcurrent
  | some hsame => exact .some hsame

theorem toSdkRequest_agree (libm : Libm) (group : List String)
    {request request' : InverseKinematicsRequest} (h : SameInverse request request') :
    toSdkRequest libm group request = toSdkRequest libm group request' ∨
    (∃ message message', toSdkRequest libm group request = .error ⟨.invalidJointState, message⟩ ∧
      toSdkRequest libm group request' = .error ⟨.invalidJointState, message'⟩) := by
  have hselected := selected_rearranged h.seed h.currentState
  have hplan : (request.seed.or request.currentState).isSome =
      (request'.seed.or request'.currentState).isSome := by
    generalize request.seed.or request.currentState = seed at hselected
    generalize request'.seed.or request'.currentState = seed' at hselected
    cases hselected <;> rfl
  have hparameters : toSdkParameters request.parameters = toSdkParameters request'.parameters := by
    rw [← h.parameters]
    rfl
  unfold toSdkRequest
  simp only [← h.targetPose, ← h.kinematics, ← hplan, ← hparameters]
  cases (toSdkPose libm request.targetPose).value with
  | none => exact .inl rfl
  | some targetPose =>
    simp only
    rcases optionalDegrees_rearranged hselected group with
      hq0 | ⟨message, message', hread, hread'⟩
    · rw [← hq0]
      cases optionalDegrees (request.seed.or request.currentState) group with
      | error status => exact .inl rfl
      | ok q0Deg =>
        simp only
        rcases optionalDegrees_rearranged h.preference group with
          hpreference | ⟨message, message', hread, hread'⟩
        · rw [← hpreference]
          exact .inl rfl
        · rw [hread, hread']
          exact .inr ⟨message, message', rfl, rfl⟩
    · rw [hread, hread']
      exact .inr ⟨message, message', rfl, rfl⟩

theorem inverse_agree (self : SdkKinematics) (calls : List SdkCall)
    {request request' : InverseKinematicsRequest} (h : SameInverse request request') :
    Agree (self.inverseKinematics calls request) (self.inverseKinematics calls request') := by
  unfold inverseKinematics
  rw [← h.kinematics]
  refine inGroup_agree self calls request.kinematics fun api calls group => ?_
  unfold inverseInGroup
  rcases toSdkRequest_agree self.libm group h with hsame | ⟨message, message', hread, hread'⟩
  · rw [← hsame]
    exact .refl _
  · rw [hread, hread']
    exact ⟨rfl, sameOutcome_failure _ message message'⟩

/-! ## What the SDK is asked -/

/-- The joint group the SDK reports. -/
def reported (self : SdkKinematics) (calls : List SdkCall) (groupName : String) : List String :=
  (self.sdkApi.bind fun api => (api.jointGroup calls groupName).value).getD []

/-- A call for a request for forward kinematics: its vector is the joint state, in group order. -/
def ForwardCall (group : List String) (request : ForwardKinematicsRequest) : SdkCall → Prop
  | .jointGroup name => name = request.kinematics.groupName
  | .validateFrames kinematics jointNames jointsDeg => kinematics = request.kinematics ∧
      jointNames = group ∧ NamedVector group request.jointState jointsDeg
  | .forwardKinematics kinematics jointsDeg => kinematics = request.kinematics ∧
      NamedVector group request.jointState jointsDeg
  | .inverseKinematics _ => False

/-- A vector that was asked for only if there was a joint state for it. -/
def OptionalVector (group : List String) (state : Option JointState) (jointsDeg : List Double) : Prop :=
  (state = none → jointsDeg = []) ∧ ∀ s, state = some s → NamedVector group s jointsDeg

/-- A call for a request for inverse kinematics. -/
def InverseCall (group : List String) (request : InverseKinematicsRequest) : SdkCall → Prop
  | .jointGroup name => name = request.kinematics.groupName
  | .inverseKinematics asked => asked.kinematics = request.kinematics ∧
      OptionalVector group (request.seed.or request.currentState) asked.q0Deg ∧
      OptionalVector group request.parameters.redundancyPreference
        asked.parameters.redundancyPreferencePositionsDeg
  | .validateFrames .. => False
  | .forwardKinematics .. => False

theorem group_cases (self : SdkKinematics) (calls : List SdkCall) (groupName : String) :
    ((self.group calls groupName).1.ok = false ∧
      ((self.group calls groupName).2 = calls ∨
        (self.group calls groupName).2 = calls ++ [.jointGroup groupName])) ∨
    (∃ api, self.sdkApi = some api ∧ Distinct (self.reported calls groupName) ∧
      (self.group calls groupName).1.value = some (self.reported calls groupName) ∧
      (self.group calls groupName).2 = calls ++ [.jointGroup groupName]) := by
  unfold group reported
  cases hapi : self.sdkApi with
  | none => exact .inl ⟨rfl, .inl rfl⟩
  | some api =>
    simp only [Option.bind_some]
    split
    · exact .inl ⟨rfl, .inl rfl⟩
    · cases hok : (api.jointGroup calls groupName).ok with
      | false => exact .inl ⟨hok, .inr rfl⟩
      | true =>
        simp only [Bool.not_true, Bool.false_eq_true, if_false]
        obtain ⟨names, hnames⟩ : ∃ names, (api.jointGroup calls groupName).value = some names := by
          simp only [Result.ok, Bool.and_eq_true] at hok
          exact Option.isSome_iff_exists.1 hok.2
        simp only [hnames, Option.getD_some]
        split
        · exact .inl ⟨by simp [Result.ok, Result.Failure], .inr rfl⟩
        · rcases validateNames_cases .invalidGroup (by decide) names "SDK joint group" with
            ⟨hdistinct, hvalid⟩ | ⟨-, hvalid, -⟩
          · simp only [hvalid, Bool.not_true, Bool.false_eq_true, if_false]
            exact .inr ⟨api, rfl, hdistinct, hnames, trivial⟩
          · simp only [hvalid, Bool.not_false, if_true]
            exact .inl ⟨by simp [Result.ok, Result.Failure], .inr trivial⟩

/-- A request ends before it has a group, or goes on with the one that was reported. -/
theorem inGroup_cases {α : Type} (self : SdkKinematics) (calls : List SdkCall)
    (request : KinematicsRequest)
    (answer : SdkApi → List SdkCall → List String → Result α × List SdkCall) :
    ((self.inGroup calls request answer).1.value = none ∧
      ((self.inGroup calls request answer).2 = calls ∨
        (self.inGroup calls request answer).2 = calls ++ [.jointGroup request.groupName])) ∨
    (∃ api, Distinct (self.reported calls request.groupName) ∧
      self.inGroup calls request answer = answer api (calls ++ [.jointGroup request.groupName])
        (self.reported calls request.groupName)) := by
  unfold inGroup
  dsimp only
  cases (validateRequestNames request).ok with
  | false => exact .inl ⟨rfl, .inl rfl⟩
  | true =>
    simp only [Bool.not_true, Bool.false_eq_true, if_false]
    rcases self.group_cases calls request.groupName with
      ⟨hok, hcalls⟩ | ⟨api, hapi, hdistinct, hvalue, hcalls⟩
    · simp only [hok, Bool.not_false, if_true]
      exact .inl ⟨rfl, hcalls⟩
    · simp only [hapi, hvalue, hcalls]
      cases (self.group calls request.groupName).1.ok with
      | false => exact .inl ⟨rfl, .inr rfl⟩
      | true => exact .inr ⟨api, hdistinct, rfl⟩

theorem forward_calls (self : SdkKinematics) (calls : List SdkCall)
    (request : ForwardKinematicsRequest) :
    ∃ made, (self.forwardKinematics calls request).2 = calls ++ made ∧
      ∀ call ∈ made, ForwardCall (self.reported calls request.kinematics.groupName) request call := by
  unfold forwardKinematics
  rcases self.inGroup_cases calls request.kinematics (fun api calls group =>
      forwardInGroup api self.libm calls group request) with ⟨-, hcalls | hcalls⟩ | ⟨api, hdistinct, heq⟩
  · exact ⟨[], by rw [hcalls, List.append_nil], by simp⟩
  · exact ⟨[_], hcalls, by simp [ForwardCall]⟩
  · rw [heq]
    generalize self.reported calls request.kinematics.groupName = group at hdistinct
    unfold forwardInGroup
    dsimp only
    rcases reorder_covers request.jointState group with ⟨-, radians, -, hread⟩ | ⟨-, message, hread⟩
    · have hnamed := reorder_named hdistinct.1 hread
      rw [hread]
      simp only [Result.Success]
      split
      · exact ⟨[_, _], by rw [List.append_assoc]; rfl, by simp [ForwardCall, hnamed]⟩
      · split
        · exact ⟨[_, _, _], by simp only [List.append_assoc]; rfl, by simp [ForwardCall, hnamed]⟩
        · exact ⟨[_, _, _], by simp only [List.append_assoc]; rfl, by simp [ForwardCall, hnamed]⟩
    · rw [hread]
      exact ⟨[_], rfl, by simp [ForwardCall]⟩

theorem optionalDegrees_named {state : Option JointState} {group : List String} (hgroup : group.Nodup)
    {jointsDeg : List Double} (h : optionalDegrees state group = .ok jointsDeg) :
    OptionalVector group state jointsDeg := by
  cases state with
  | none =>
    cases h
    exact ⟨fun _ => rfl, by simp⟩
  | some s =>
    refine ⟨by simp, fun _ heq => ?_⟩
    cases heq
    unfold optionalDegrees at h
    dsimp only at h
    rcases reorder_covers s group with ⟨-, radians, -, hread⟩ | ⟨-, message, hread⟩
    · rw [hread] at h
      cases h
      exact reorder_named hgroup hread
    · rw [hread] at h
      cases h

theorem toSdkRequest_named {libm : Libm} {group : List String} (hgroup : group.Nodup)
    {request : InverseKinematicsRequest} {asked : SdkInverseKinematicsRequest}
    (h : toSdkRequest libm group request = .ok asked) :
    InverseCall group request (.inverseKinematics asked) := by
  unfold toSdkRequest at h
  dsimp only at h
  split at h
  · cases h
  · split at h
    · cases h
    · rename_i q0Deg hq0
      split at h
      · cases h
      · rename_i preference hpreference
        cases h
        exact ⟨rfl, optionalDegrees_named hgroup hq0, optionalDegrees_named hgroup hpreference⟩

theorem inverse_calls (self : SdkKinematics) (calls : List SdkCall)
    (request : InverseKinematicsRequest) :
    ∃ made, (self.inverseKinematics calls request).2 = calls ++ made ∧
      ∀ call ∈ made, InverseCall (self.reported calls request.kinematics.groupName) request call := by
  unfold inverseKinematics
  rcases self.inGroup_cases calls request.kinematics (fun api calls group =>
      inverseInGroup api self.libm calls group request) with ⟨-, hcalls | hcalls⟩ | ⟨api, hdistinct, heq⟩
  · exact ⟨[], by rw [hcalls, List.append_nil], by simp⟩
  · exact ⟨[_], hcalls, by simp [InverseCall]⟩
  · rw [heq]
    unfold inverseInGroup
    split
    · exact ⟨[_], rfl, by simp [InverseCall]⟩
    · rename_i asked hasked
      have hnamed := toSdkRequest_named hdistinct.1 hasked
      refine ⟨[_, _], by rw [List.append_assoc]; rfl, fun call hcall => ?_⟩
      rcases List.mem_cons.1 hcall with rfl | hcall
      · rfl
      · rw [List.mem_singleton.1 hcall]
        exact hnamed

/-! ## What a solution names -/

/-- A finite position for every joint of the group and for no other. -/
structure Solves (group : List String) (solution : JointState) : Prop where
  names : solution.jointNames.Perm group
  positions : solution.positionsRad.length = solution.jointNames.length
  finite : finite solution.positionsRad = true

/-- Whatever the SDK answers, only a solution for the whole group is passed on. -/
theorem fromSdkResult_solves {group : List String} {sdkResult : SdkInverseKinematicsResult}
    {result : InverseKinematicsResult} (h : (fromSdkResult group sdkResult).value = some result) :
    Solves group result.solution := by
  unfold fromSdkResult at h
  split at h
  · cases h
  · split at h
    · cases h
    · rename_i hcolumns
      dsimp only at h
      rcases validateNames_cases .sdkFailure (by decide) sdkResult.jointNames
        "SDK IK result" with ⟨hdistinct, hvalid⟩ | ⟨-, hvalid, -⟩
      · simp only [hvalid, Bool.not_true, Bool.false_eq_true, if_false] at h
        split at h
        · cases h
        · rename_i hsize
          split at h
          · cases h
          · rename_i hinside
            split at h
            · cases h
            · rename_i hfinite
              split at h
              · cases h
              · cases h
                -- as many distinct names as the group has, all of them in the group
                have hsubset : sdkResult.jointNames ⊆ group := fun name hname => by
                  simpa using List.find?_eq_none.1 hinside name hname
                have hlength : sdkResult.jointNames.length = group.length := not_not.1 hsize
                refine ⟨(hdistinct.1.subperm hsubset).perm_of_length_le (by rw [hlength]), ?_, ?_⟩
                · simp only [degreesToRadians, List.length_map]
                  exact (not_not.1 hcolumns).symm
                · simp only [Bool.not_eq_true, Bool.not_eq_false'] at hfinite
                  simpa [HumanoidMotion.finite, degreesToRadians] using hfinite
      · simp only [hvalid, Bool.not_false, if_true] at h
        cases h

theorem inverse_solves {self : SdkKinematics} {calls : List SdkCall}
    {request : InverseKinematicsRequest} {result : InverseKinematicsResult}
    (h : (self.inverseKinematics calls request).1.value = some result) :
    Solves (self.reported calls request.kinematics.groupName) result.solution := by
  unfold inverseKinematics at h
  rcases self.inGroup_cases calls request.kinematics (fun api calls group =>
      inverseInGroup api self.libm calls group request) with ⟨hnone, -⟩ | ⟨api, -, heq⟩
  · rw [hnone] at h
    cases h
  · rw [heq] at h
    unfold inverseInGroup at h
    split at h
    · cases h
    · exact fromSdkResult_solves h

end SdkKinematics

/-- Kinematics depends on the names of the joints and not on their order: in another order a request
leads to the same calls of the SDK, whose vectors list the joints in group order, and to the same
value or an error with the same code; and a solution has a finite position for every joint of the
group, whatever the SDK answers. -/
theorem kinematics_by_name (self : SdkKinematics) (calls : List SdkCall) :
    (∀ request request', SameForward request request' →
      Agree (self.forwardKinematics calls request) (self.forwardKinematics calls request')) ∧
    (∀ request request', SameInverse request request' →
      Agree (self.inverseKinematics calls request) (self.inverseKinematics calls request')) ∧
    (∀ request, ∃ made, (self.forwardKinematics calls request).2 = calls ++ made ∧
      ∀ call ∈ made, SdkKinematics.ForwardCall
        (self.reported calls request.kinematics.groupName) request call) ∧
    (∀ request, ∃ made, (self.inverseKinematics calls request).2 = calls ++ made ∧
      ∀ call ∈ made, SdkKinematics.InverseCall
        (self.reported calls request.kinematics.groupName) request call) ∧
    (∀ request result, (self.inverseKinematics calls request).1.value = some result →
      SdkKinematics.Solves (self.reported calls request.kinematics.groupName) result.solution) :=
  ⟨fun _ _ => self.forward_agree calls, fun _ _ => self.inverse_agree calls,
    self.forward_calls calls, self.inverse_calls calls, fun _ _ => SdkKinematics.inverse_solves⟩

/-- An arm of two joints. -/
def armApi : SdkApi where
  jointGroup _ _ := .Success ["joint_1", "joint_2"]
  validateFrames _ _ _ _ := .Ok
  forwardKinematics _ _ _ := .Success {}
  inverseKinematics _ _ :=
    { success := true, jointNames := ["joint_2", "joint_1"], positionsDeg := [90, 45] }

/-- `<cmath>` near zero angles. -/
def levelLibm : Libm := ⟨fun x => x, fun x => x, fun _ => 1, fun x => x, fun y _ => y⟩

def armRequest (jointState : JointState) : InverseKinematicsRequest :=
  { kinematics := ⟨"arm", "torso", "tool"⟩, seed := some jointState }

theorem kinematics_by_name_arm :
    Agree ((SdkKinematics.mk (some armApi) levelLibm).forwardKinematics []
        ⟨⟨"arm", "torso", "tool"⟩, ⟨["joint_2", "joint_1"], [2, 1]⟩⟩)
      ((SdkKinematics.mk (some armApi) levelLibm).forwardKinematics []
        ⟨⟨"arm", "torso", "tool"⟩, ⟨["joint_1", "joint_2"], [1, 2]⟩⟩) ∧
    Agree ((SdkKinematics.mk (some armApi) levelLibm).inverseKinematics []
        (armRequest ⟨["joint_2", "joint_1"], [2, 1]⟩))
      ((SdkKinematics.mk (some armApi) levelLibm).inverseKinematics []
        (armRequest ⟨["joint_1", "joint_2"], [1, 2]⟩)) ∧
    ∃ result, ((SdkKinematics.mk (some armApi) levelLibm).inverseKinematics []
        (armRequest ⟨["joint_1", "joint_2"], [1, 2]⟩)).1.value = some result ∧
      SdkKinematics.Solves ["joint_1", "joint_2"] result.solution := by
  have hstates : Rearranged ⟨["joint_2", "joint_1"], [2, 1]⟩ ⟨["joint_1", "joint_2"], [1, 2]⟩ :=
    ⟨rfl, rfl, by decide⟩
  obtain ⟨hforward, hinverse, -, -, hsolves⟩ :=
    kinematics_by_name (SdkKinematics.mk (some armApi) levelLibm) []
  refine ⟨hforward _ _ ⟨rfl, hstates⟩, hinverse _ _ ⟨rfl, rfl, .some hstates, .none, .none, rfl⟩, ?_⟩
  have hanswered : ((SdkKinematics.mk (some armApi) levelLibm).inverseKinematics []
      (armRequest ⟨["joint_1", "joint_2"], [1, 2]⟩)).1.value.isSome = true := by decide +kernel
  obtain ⟨result, hresult⟩ := Option.isSome_iff_exists.1 hanswered
  exact ⟨result, hresult, hsolves _ _ hresult⟩

end HumanoidMotion.Kinematics
