import HumanoidMotion.Lib.Checked
import HumanoidMotion.Motion.Calls
import HumanoidMotion.Motion.FakeSdk
import HumanoidMotion.Node.MoveRequest
import HumanoidMotion.Pose.InitialPoses
/-
# How the node comes up (`humanoid_motion_control_node.cpp`)

| here | there |
| --- | --- |
| `NodeParameters`     | the parameters that the constructor declares (`:359`), with their defaults |
| `validateParameters` | `validate_parameters` (`:523`) |
| `loadGroups`         | `load_groups` (`:557`) |
| `groupTable`         | `group_index_` and `groups_`, as `group` (`:756`) reads them |
| `configurePipeline`  | `configure_pipeline` (`:699`) |

An exception is its text. `motion_limits` and the checks of a goal read the
parameters as numbers: `moveSettings`.

* `loadGroups_ok`, `loadChannelConfig_checked` — what an accepted document says.
* `pipeline_configured` — when a node comes up, and the pipeline it comes up with.
-/

namespace HumanoidMotion

/-! ## The parameters -/

structure NodeParameters where
  channelConfigFile : String := ""
  sdkConfigFile : String := ""
  toolConfigFile : String := ""
  urdfFile : String := ""
  controlFrequencyHz : Double := 100
  inputStampMaxAgeS : Double := .fin (1 / 2)
  inputStampFutureToleranceS : Double := .fin (1 / 10)
  feedbackMaxAgeMs : Int := 100
  feedbackLimitRecoveryMarginRad : Double := .fin (1 / 10)
  feedbackRebaseToleranceRad : Double := .fin (1 / 1000)
  servoLeaseMs : Int := 100
  controlMaxPeriodMs : Int := 100
  servoRetryIntervalMs : Int := 50
  defaultMoveTimeoutS : Double := 60
  jointPositionToleranceRad : Double := .fin (1 / 100)
  jointVelocityToleranceRadS : Double := .fin (2 / 100)
  cartesianPositionToleranceM : Double := .fin (5 / 1000)
  cartesianOrientationToleranceRad : Double := .fin (2 / 100)
  stableDurationS : Double := .fin (1 / 10)
  jointMaxVelocityRadS : Double := 1
  jointMaxAccelerationRadS2 : Double := 2
  jointMaxJerkRadS3 : Double := 10
  cartesianMaxLinearVelocityMS : Double := .fin (3 / 10)
  cartesianMaxLinearAccelerationMS2 : Double := .fin (6 / 10)
  cartesianMaxLinearJerkMS3 : Double := 3
  cartesianMaxAngularVelocityRadS : Double := 1
  cartesianMaxAngularAccelerationRadS2 : Double := 2
  cartesianMaxAngularJerkRadS3 : Double := 10
deriving DecidableEq, Repr

/-- `groups.*`, `group_lower_limits.*` and `group_upper_limits.*`; empty where not given. -/
structure GroupParameters where
  jointGroupNames : List String := []
  groups : StringMap (List String) := ∅
  groupLowerLimits : StringMap (List Double) := ∅
  groupUpperLimits : StringMap (List Double) := ∅

namespace NodeParameters

def positiveValues (self : NodeParameters) : List Double :=
  [self.controlFrequencyHz, self.inputStampMaxAgeS, self.inputStampFutureToleranceS,
    self.defaultMoveTimeoutS, self.jointPositionToleranceRad, self.jointVelocityToleranceRadS,
    self.cartesianPositionToleranceM, self.cartesianOrientationToleranceRad,
    self.jointMaxVelocityRadS, self.jointMaxAccelerationRadS2, self.jointMaxJerkRadS3,
    self.cartesianMaxLinearVelocityMS, self.cartesianMaxLinearAccelerationMS2,
    self.cartesianMaxLinearJerkMS3, self.cartesianMaxAngularVelocityRadS,
    self.cartesianMaxAngularAccelerationRadS2, self.cartesianMaxAngularJerkRadS3]

def validateParameters (self : NodeParameters) : Except String Unit :=
  if self.channelConfigFile.isEmpty || self.sdkConfigFile.isEmpty || self.toolConfigFile.isEmpty ||
      self.urdfFile.isEmpty then
    .error "channel_config_file, sdk_config_file, tool_config_file, and urdf_file are required"
  else if !self.positiveValues.all Double.isPositive || !self.stableDurationS.isNonNegative ||
      !self.feedbackLimitRecoveryMarginRad.isNonNegative ||
      !self.feedbackRebaseToleranceRad.isNonNegative ||
      decide (1000 < self.controlFrequencyHz.val) || decide (self.feedbackMaxAgeMs ≤ 0) ||
      decide (self.servoLeaseMs ≤ 0) || decide (self.controlMaxPeriodMs ≤ 0) ||
      decide (self.servoRetryIntervalMs ≤ 0) then
    .error "runtime rates, limits, tolerances, or timeouts are invalid"
  else .ok ()

end NodeParameters

/-! ## The joint groups -/

/-- The loop over the joints of a group (`:587`): unique names, no lower limit above its upper one. -/
def JointGroupModel.inOrder (group : JointGroupModel) : Bool :=
  uniqueNonEmpty group.jointNames && (List.range group.jointNames.length).all fun i =>
    !decide (valueAt group.upperPositionRad i < valueAt group.lowerPositionRad i)

namespace GroupParameters

/-- One turn of the loop over the names of the groups. -/
def loadGroup (self : GroupParameters) (loaded : List JointGroupModel) (name : String) :
    Except String (List JointGroupModel) :=
  if name.isEmpty || loaded.any (·.name == name) then
    .error "joint group names must be non-empty and unique"
  else
    let group : JointGroupModel :=
      { name
        jointNames := self.groups.getD name []
        lowerPositionRad := self.groupLowerLimits.getD name []
        upperPositionRad := self.groupUpperLimits.getD name [] }
    if group.jointNames.isEmpty || group.lowerPositionRad.length ≠ group.jointNames.length ||
        group.upperPositionRad.length ≠ group.jointNames.length ||
        !finite group.lowerPositionRad || !finite group.upperPositionRad then
      .error ("complete finite position limits are required for " ++ name)
    else if !group.inOrder then .error ("invalid joint order or limits for " ++ name)
    else .ok (loaded ++ [group])

def loadGroups (self : GroupParameters) : Except String (List JointGroupModel) :=
  if self.jointGroupNames.isEmpty then .error "joint_group_names must not be empty"
  else self.jointGroupNames.foldlM self.loadGroup []

end GroupParameters

/-- `map.emplace(name, group)`: what stands under a name stays. -/
def emplaceGroup (table : StringMap JointGroupModel) (group : JointGroupModel) :
    StringMap JointGroupModel :=
  if table.contains group.name then table else table.insert group.name group

def groupTable (groups : List JointGroupModel) : StringMap JointGroupModel :=
  groups.foldl emplaceGroup ∅

/-! ## The pipeline -/

/-- `std::chrono::duration_cast<std::chrono::milliseconds>(std::chrono::duration<double>(s))`. The
count of the source is a 64-bit integer, and its conversion is undefined where `s` is too large for
one; here it is unbounded. -/
def millisecondsCast (s : Rat) : Duration :=
  let ms := s * 1000
  milliseconds (ms.num.tdiv ms.den)

namespace NodeParameters

def pipelineConfig (self : NodeParameters) : CommandPipelineConfig where
  controlFrequencyHz := self.controlFrequencyHz
  feedbackMaxAge := milliseconds self.feedbackMaxAgeMs
  maxControlPeriod := milliseconds self.controlMaxPeriodMs
  servoRetryInterval := milliseconds self.servoRetryIntervalMs
  feedbackLimitRecoveryMarginRad := self.feedbackLimitRecoveryMarginRad
  feedbackRebaseToleranceRad := self.feedbackRebaseToleranceRad
  goalMonitor :=
    { jointPositionToleranceRad := self.jointPositionToleranceRad
      jointVelocityToleranceRadS := self.jointVelocityToleranceRadS
      cartesianPositionToleranceM := self.cartesianPositionToleranceM
      cartesianOrientationToleranceRad := self.cartesianOrientationToleranceRad
      stableDuration := millisecondsCast self.stableDurationS.val
      moveTimeout := milliseconds (24 * 60 * 60 * 1000) }

/-- The groups a channel may move (`:720`). -/
def allowedGroups (groups : List JointGroupModel) (channel : LoadedChannel) :
    Except String (List String) :=
  if !channel.group.isEmpty then
    if (groupTable groups).contains channel.group then .ok [channel.group]
    else .error ("channel '" ++ channel.name ++ "' references an unknown group")
  else if channel.kind = .servoJ ∨ channel.kind = .servoP then
    .error "Servo channel group is required"
  else .ok (groups.map (·.name))

def endpointPolicy (self : NodeParameters) (channel : LoadedChannel) (group : String) :
    EndpointPolicy where
  endpointName := policyId channel.toChannelConfig group
  kind := channel.kind
  groupName := group
  priority := channel.priority
  servoLease := milliseconds self.servoLeaseMs

variable {β : Type}

def registerPolicy (pipeline : CommandPipeline β) (policy : EndpointPolicy) :
    Except String (CommandPipeline β) :=
  let registered := pipeline.registerEndpoint policy
  if !registered.1.ok then .error ("failed to register channel policy: " ++ registered.1.message)
  else .ok registered.2

/-- One turn of the loop over the channels. -/
def registerChannel (self : NodeParameters) (groups : List JointGroupModel)
    (pipeline : CommandPipeline β) (channel : LoadedChannel) : Except String (CommandPipeline β) := do
  let allowed ← allowedGroups groups channel
  (allowed.map (self.endpointPolicy channel)).foldlM registerPolicy pipeline

def configurePipeline (self : NodeParameters) (backend : β) (groups : List JointGroupModel)
    (channels : List LoadedChannel) : Except String (CommandPipeline β) :=
  channels.foldlM (self.registerChannel groups)
    (CommandPipeline.create backend groups self.pipelineConfig)

/-- The parameters as the checks of a goal read them. -/
def moveSettings (self : NodeParameters) (groups : List JointGroupModel)
    (mapping : PublicJointMapping) (negativeTime : String)
    (forwardKinematics : Kinematics.ForwardKinematicsRequest → Kinematics.Result Kinematics.Pose) :
    MoveSettings where
  groups := groupTable groups
  mapping := mapping
  negativeTime := negativeTime
  forwardKinematics := forwardKinematics
  defaultMoveTimeoutS := self.defaultMoveTimeoutS.val
  inputStampMaxAgeS := self.inputStampMaxAgeS.val
  inputStampFutureToleranceS := self.inputStampFutureToleranceS.val
  feedbackLimitRecoveryMarginRad := self.feedbackLimitRecoveryMarginRad.val
  jointMaxVelocityRadS := self.jointMaxVelocityRadS.val
  jointMaxAccelerationRadS2 := self.jointMaxAccelerationRadS2.val
  jointMaxJerkRadS3 := self.jointMaxJerkRadS3.val
  cartesianMaxLinearVelocityMS := self.cartesianMaxLinearVelocityMS.val
  cartesianMaxLinearAccelerationMS2 := self.cartesianMaxLinearAccelerationMS2.val
  cartesianMaxLinearJerkMS3 := self.cartesianMaxLinearJerkMS3.val
  cartesianMaxAngularVelocityRadS := self.cartesianMaxAngularVelocityRadS.val
  cartesianMaxAngularAccelerationRadS2 := self.cartesianMaxAngularAccelerationRadS2.val
  cartesianMaxAngularJerkRadS3 := self.cartesianMaxAngularJerkRadS3.val

end NodeParameters

/-! ## What an accepted document says -/

/-- What `validateParameters` establishes. -/
structure NodeParameters.Valid (parameters : NodeParameters) : Prop where
  positive : ∀ value ∈ parameters.positiveValues, value.isPositive = true
  stable : parameters.stableDurationS.isNonNegative = true
  margin : parameters.feedbackLimitRecoveryMarginRad.isNonNegative = true
  tolerance : parameters.feedbackRebaseToleranceRad.isNonNegative = true
  maxAge : 0 < parameters.feedbackMaxAgeMs
  lease : 0 < parameters.servoLeaseMs
  maxPeriod : 0 < parameters.controlMaxPeriodMs
  retryInterval : 0 < parameters.servoRetryIntervalMs

theorem NodeParameters.validateParameters_ok {self : NodeParameters}
    (h : self.validateParameters = .ok ()) : self.Valid := by
  unfold validateParameters at h
  split_ifs at h with h₁ h₂
  simp only [Bool.or_eq_true, Bool.not_eq_true', not_or, Bool.not_eq_false, decide_eq_true_eq,
    not_le, List.all_eq_true] at h₂
  obtain ⟨⟨⟨⟨⟨⟨⟨⟨hpositive, hstable⟩, hmargin⟩, htolerance⟩, -⟩, hage⟩, hlease⟩, hperiod⟩, hretry⟩ := h₂
  exact ⟨hpositive, hstable, hmargin, htolerance, hage, hlease, hperiod, hretry⟩

theorem Double.isNonNegative_of_isPositive {x : Double} (h : x.isPositive = true) :
    x.isNonNegative = true := by
  simp only [Double.isPositive, Double.isNonNegative, Bool.and_eq_true, decide_eq_true_eq] at h ⊢
  exact ⟨h.1, h.2.le⟩

theorem milliseconds_pos {n : Int} (h : 0 < n) : 0 < milliseconds n :=
  Int.mul_pos h (by decide)

theorem millisecondsCast_nonneg {s : Rat} (h : 0 ≤ s) : 0 ≤ millisecondsCast s := by
  have hnum : 0 ≤ (s * 1000).num := Rat.num_nonneg.2 (mul_nonneg h (by decide))
  have htdiv : 0 ≤ (s * 1000).num.tdiv (s * 1000).den := Int.tdiv_nonneg hnum (Int.natCast_nonneg _)
  exact Int.mul_nonneg htdiv (by decide)

theorem NodeParameters.Valid.goalMonitor {self : NodeParameters} (h : self.Valid) :
    self.pipelineConfig.goalMonitor.valid = true := by
  have hpositive : ∀ value ∈ self.positiveValues, value.isNonNegative = true := fun value hv =>
    Double.isNonNegative_of_isPositive (h.positive value hv)
  have hstable : 0 ≤ self.stableDurationS.val := by
    have := h.stable
    simp only [Double.isNonNegative, Bool.and_eq_true, decide_eq_true_eq] at this
    exact this.2
  have htolerances : ∀ value ∈ [self.jointPositionToleranceRad, self.jointVelocityToleranceRadS,
      self.cartesianPositionToleranceM, self.cartesianOrientationToleranceRad],
      value.isNonNegative = true := fun value hv => hpositive value (by
    simp only [List.mem_cons, List.not_mem_nil, or_false] at hv
    rcases hv with rfl | rfl | rfl | rfl <;> simp [positiveValues])
  have hall := List.all_eq_true.2 htolerances
  rw [GoalMonitorConfig.valid, pipelineConfig, hall]
  simp [millisecondsCast_nonneg hstable, milliseconds]

/-- The groups that `load_groups` hands on. -/
structure GroupsLoaded (groups : List JointGroupModel) : Prop where
  nonempty : groups ≠ []
  names : (groups.map (·.name)).Nodup
  valid : ∀ group ∈ groups, group.valid = true
  ordered : ∀ group ∈ groups, group.inOrder = true

theorem GroupParameters.loadGroup_ok {self : GroupParameters} {loaded loaded' : List JointGroupModel}
    {name : String} (h : self.loadGroup loaded name = .ok loaded') :
    ∃ group, loaded' = loaded ++ [group] ∧ group.name = name ∧ name ∉ loaded.map (·.name) ∧
      group.valid = true ∧ group.inOrder = true := by
  unfold loadGroup at h
  split at h
  · cases h
  rename_i hname
  simp only at h
  split_ifs at h with hlimits hordered
  rw [Bool.or_eq_true, not_or, Bool.not_eq_true] at hname
  simp only [Bool.or_eq_true, Bool.not_eq_true', not_or, Bool.not_eq_false, decide_eq_true_eq,
    not_not, ne_eq, Bool.not_eq_true] at hlimits hordered
  obtain ⟨⟨⟨⟨hjoints, hlower⟩, hupper⟩, hfinite⟩, hfinite'⟩ := hlimits
  have hunique := hordered
  rw [JointGroupModel.inOrder, Bool.and_eq_true] at hunique
  refine ⟨_, (Except.ok.inj h).symm, rfl, fun hin => hname.2 ?_, ?_, hordered⟩
  · obtain ⟨other, hother, heq⟩ := List.mem_map.1 hin
    exact List.any_eq_true.2 ⟨other, hother, beq_iff_eq.2 heq⟩
  · exact (JointGroupModel.valid_iff _).2
      ⟨hname.1, hjoints, hunique.1, hlower, hupper, hfinite, hfinite'⟩

theorem GroupParameters.loadGroups_ok {self : GroupParameters} {groups : List JointGroupModel}
    (h : self.loadGroups = .ok groups) : GroupsLoaded groups := by
  unfold loadGroups at h
  split at h
  · cases h
  rename_i hnames
  have hinvariant : (groups.map (·.name)).Nodup ∧
      ∀ group ∈ groups, group.valid = true ∧ group.inOrder = true := by
    refine Checked.foldlM_ok (P := fun groups : List JointGroupModel => (groups.map (·.name)).Nodup ∧
      ∀ group ∈ groups, group.valid = true ∧ group.inOrder = true) ?_ (by simp) h
    rintro name - loaded loaded' ⟨hnodup, hall⟩ hturn
    obtain ⟨group, rfl, rfl, hfresh, hvalid⟩ := loadGroup_ok hturn
    constructor
    · rw [List.map_append, List.nodup_append]
      refine ⟨hnodup, List.nodup_singleton _, fun a ha b hb heq => hfresh ?_⟩
      obtain rfl : b = group.name := List.mem_singleton.1 hb
      exact heq ▸ ha
    · intro other hother
      rcases List.mem_append.1 hother with hin | hin
      · exact hall other hin
      · exact List.mem_singleton.1 hin ▸ hvalid
  refine ⟨?_, hinvariant.1, fun g hg => (hinvariant.2 g hg).1, fun g hg => (hinvariant.2 g hg).2⟩
  -- every turn adds a group, and there is at least one
  obtain ⟨added, hadded, hturns⟩ := Checked.foldlM_collects id
    (fun (name : String) (group : JointGroupModel) => group.name = name)
    (fun loaded name loaded' hturn => by
      obtain ⟨group, hl', hname, -⟩ := loadGroup_ok hturn
      exact ⟨group, hl', hname⟩) h
  rw [id, id, List.nil_append] at hadded
  subst hadded
  rintro rfl
  rw [List.forall₂_nil_right_iff] at hturns
  simp [hturns] at hnames

/-! ## The table of groups -/

theorem groupTable_snoc (groups : List JointGroupModel) (group : JointGroupModel) :
    groupTable (groups ++ [group]) = emplaceGroup (groupTable groups) group := by
  simp [groupTable]

/-- A name finds the first group that has it. -/
theorem groupTable_find (groups : List JointGroupModel) (name : String) :
    (groupTable groups)[name]? = groups.find? (·.name == name) := by
  induction groups using List.reverseRecOn with
  | nil => simp [groupTable]
  | append_singleton groups group ih =>
    rw [groupTable_snoc, emplaceGroup, List.find?_append]
    split
    · rename_i hin
      rw [ih]
      cases hfound : groups.find? (·.name == name) with
      | some other => rfl
      | none =>
        have hne : (group.name == name) = false := by
          rw [beq_eq_false_iff_ne]
          rintro rfl
          rw [Std.TreeMap.contains_eq_isSome_getElem?, ih, hfound] at hin
          cases hin
        simp [hne]
    · rename_i hfree
      simp only [Std.TreeMap.getElem?_insert, Std.LawfulEqOrd.compare_eq_iff_eq]
      by_cases hname : group.name = name
      · subst hname
        have hnone : groups.find? (·.name == group.name) = none := by
          rw [← ih]
          exact Std.TreeMap.getElem?_eq_none_of_contains_eq_false (Bool.eq_false_iff.2 hfree)
        simp [hnone]
      · simp [hname, ih]

theorem GroupsLoaded.found {groups : List JointGroupModel} (h : GroupsLoaded groups)
    {group : JointGroupModel} (hin : group ∈ groups) : (groupTable groups)[group.name]? = some group := by
  rw [groupTable_find]
  obtain ⟨other, hother⟩ := Option.isSome_iff_exists.1
    (List.find?_isSome.2 ⟨group, hin, beq_self_eq_true group.name⟩ :
      (groups.find? (·.name == group.name)).isSome = true)
  have hname : other.name = group.name := by simpa using List.find?_some hother
  rw [hother, List.inj_on_of_nodup_map h.names (List.mem_of_find?_eq_some hother) hin hname]

theorem mem_groupTable {groups : List JointGroupModel} {name : String} {group : JointGroupModel}
    (h : (groupTable groups)[name]? = some group) : group ∈ groups ∧ group.name = name := by
  rw [groupTable_find] at h
  exact ⟨List.mem_of_find?_eq_some h, by simpa using List.find?_some h⟩

/-- The constructor of the pipeline takes the loaded groups as they are. -/
theorem foldl_addGroup : ∀ {groups : List JointGroupModel} {table : StringMap JointGroupModel},
    (∀ group ∈ groups, group.valid = true ∧ group.inOrder = true) → (groups.map (·.name)).Nodup →
    (∀ group ∈ groups, table.contains group.name = false) →
    groups.foldl addGroup (table, .Ok) = (groups.foldl emplaceGroup table, .Ok)
  | [], _, _, _, _ => rfl
  | group :: rest, table, hall, hnames, hfree => by
    obtain ⟨hvalid, hordered⟩ := hall group List.mem_cons_self
    obtain ⟨hnew, hrest⟩ := List.nodup_cons.1 hnames
    have hturn : addGroup (table, .Ok) group = (emplaceGroup table group, .Ok) := by
      have hany : (List.range group.jointNames.length).any (fun i =>
          decide (valueAt group.upperPositionRad i < valueAt group.lowerPositionRad i)) = false := by
        rw [JointGroupModel.inOrder, Bool.and_eq_true, List.all_eq_true] at hordered
        rw [List.any_eq_false]
        intro i hi
        simpa using hordered.2 i hi
      unfold addGroup emplaceGroup
      simp [hvalid, hfree group List.mem_cons_self, hany]
    rw [List.foldl_cons, List.foldl_cons, hturn]
    refine foldl_addGroup (fun g hg => hall g (List.mem_cons_of_mem _ hg)) hrest fun other hother => ?_
    have hne : group.name ≠ other.name := fun heq =>
      hnew (List.mem_map.2 ⟨other, hother, heq.symm⟩)
    unfold emplaceGroup
    rw [if_neg (by simp [hfree group List.mem_cons_self]), Std.TreeMap.contains_insert]
    simp [hne, hfree other (List.mem_cons_of_mem _ hother)]

/-! ## The channels -/

/-- What the loader has checked of a channel. -/
structure ChannelChecked (channel : LoadedChannel) : Prop where
  named : channel.name.isEmpty = false
  servo : isServo channel.kind = true → channel.group.isEmpty = false
  frames : isCartesian channel.kind = true →
    channel.baseFrame.isEmpty = false ∧ channel.tipFrame.isEmpty = false

theorem requiredString_nonempty {field : YamlField} {key context value : String}
    (h : requiredString field key context = .ok value) : value.isEmpty = false := by
  unfold requiredString at h
  split at h
  · split_ifs at h with hempty
    obtain rfl := Except.ok.inj h
    exact Bool.eq_false_iff.2 hempty
  · cases h

theorem readChannel_checked {item : ChannelItem} {context : String} {channel : LoadedChannel}
    (h : readChannel item context = .ok channel) : ChannelChecked channel := by
  unfold readChannel at h
  obtain ⟨name, hname, h⟩ := Checked.bind_ok h
  obtain ⟨_, -, h⟩ := Checked.bind_ok h
  obtain ⟨kind, -, h⟩ := Checked.bind_ok h
  obtain ⟨endpoint, -, h⟩ := Checked.bind_ok h
  obtain ⟨group, -, h⟩ := Checked.bind_ok h
  obtain ⟨baseFrame, -, h⟩ := Checked.bind_ok h
  obtain ⟨tipFrame, -, h⟩ := Checked.bind_ok h
  obtain ⟨fkPoseTopic, -, h⟩ := Checked.bind_ok h
  obtain ⟨source, -, h⟩ := Checked.bind_ok h
  split at h
  · cases h
  split at h
  · cases h
  obtain ⟨priority, -, h⟩ := Checked.bind_ok h
  split_ifs at h with hservo hframes hfk
  cases h
  simp only [Bool.and_eq_true, Bool.or_eq_true, not_and, not_or, Bool.not_eq_true] at hservo hframes
  exact ⟨requiredString_nonempty hname, hservo, hframes⟩

/-- The channels of an accepted document. -/
structure ChannelsLoaded (channels : List LoadedChannel) : Prop where
  names : (channels.map (·.name)).Nodup
  checked : ∀ channel ∈ channels, ChannelChecked channel

theorem loadChannelConfig_checked {items : List ChannelItem} {channels : List LoadedChannel}
    (h : loadChannelConfig items = .ok channels) : ChannelsLoaded channels := by
  unfold loadChannelConfig at h
  split at h
  · cases h
  refine Checked.foldlM_ok (P := ChannelsLoaded) ?_ ⟨by simp, by simp⟩ h
  intro item _ loaded loaded' hloaded hturn
  unfold loadChannel at hturn
  obtain ⟨channel, hread, hturn⟩ := Checked.bind_ok hturn
  split_ifs at hturn with hname
  cases hturn
  constructor
  · rw [List.map_append, List.nodup_append]
    refine ⟨hloaded.names, List.nodup_singleton _, fun a ha b hb heq => hname ?_⟩
    obtain ⟨other, hother, rfl⟩ := List.mem_map.1 ha
    obtain rfl : b = channel.name := List.mem_singleton.1 hb
    exact List.any_eq_true.2 ⟨other, hother, beq_iff_eq.2 heq⟩
  · intro other hother
    rcases List.mem_append.1 hother with hin | hin
    · exact hloaded.checked other hin
    · exact List.mem_singleton.1 hin ▸ readChannel_checked hread

/-! ## Registration -/

namespace NodeParameters

/-- The groups a channel may move: the one it names, or all of them. -/
def channelGroups (groups : List JointGroupModel) (channel : LoadedChannel) : List String :=
  if channel.group.isEmpty then groups.map (·.name) else [channel.group]

/-- The endpoints of a channel, one for each group it may move. -/
def channelPolicies (self : NodeParameters) (groups : List JointGroupModel)
    (channel : LoadedChannel) : List EndpointPolicy :=
  (channelGroups groups channel).map (self.endpointPolicy channel)

def nodePolicies (self : NodeParameters) (groups : List JointGroupModel)
    (channels : List LoadedChannel) : List EndpointPolicy :=
  channels.flatMap (self.channelPolicies groups)

end NodeParameters

/-- The group a channel names is one of the node. -/
def GroupKnown (groups : List JointGroupModel) (channel : LoadedChannel) : Prop :=
  channel.group.isEmpty = false → channel.group ∈ groups.map (·.name)

instance (groups : List JointGroupModel) (channel : LoadedChannel) :
    Decidable (GroupKnown groups channel) := by
  unfold GroupKnown
  infer_instance

theorem groupTable_contains {groups : List JointGroupModel} {name : String} :
    (groupTable groups).contains name = true ↔ name ∈ groups.map (·.name) := by
  rw [Std.TreeMap.contains_eq_isSome_getElem?, groupTable_find, List.find?_isSome, List.mem_map]
  simp

open NodeParameters (allowedGroups channelGroups registerPolicy)

theorem allowedGroups_ok_iff (groups : List JointGroupModel) {channel : LoadedChannel}
    (hchannel : ChannelChecked channel) (allowed : List String) :
    allowedGroups groups channel = .ok allowed ↔
      GroupKnown groups channel ∧ allowed = channelGroups groups channel := by
  unfold allowedGroups channelGroups GroupKnown
  cases hempty : channel.group.isEmpty with
  | false =>
    simp only [Bool.not_false, if_true, groupTable_contains, Bool.false_eq_true, if_false]
    by_cases hin : channel.group ∈ groups.map (·.name)
    · simp only [hin, if_true, Except.ok.injEq, imp_self, true_and]
      exact eq_comm
    · simp [hin]
  | true =>
    have hkind : ¬(channel.kind = .servoJ ∨ channel.kind = .servoP) := by
      rintro (hkind | hkind) <;> simp [hchannel.servo (by rw [hkind]; rfl)] at hempty
    simp only [Bool.not_true, Bool.false_eq_true, if_false, hkind, Except.ok.injEq, if_true,
      Bool.true_eq_false, false_imp_iff, true_and]
    exact eq_comm

section
variable {β : Type} {parameters : NodeParameters} {backend : β} {groups : List JointGroupModel}
  {p p' : CommandPipeline β}

/-- The calls that register the policies. -/
def registrations (policies : List EndpointPolicy) : List Op := policies.map .registerEndpoint

/-- The pipeline once the policies of `done` are registered, each under a name of its own. -/
structure Registered (parameters : NodeParameters) (backend : β) (groups : List JointGroupModel)
    (done : List EndpointPolicy) (p : CommandPipeline β) : Prop where
  names : (done.map (·.endpointName)).Nodup
  groupsEq : p.groups = groupTable groups
  status : p.configurationStatus = .Ok
  config : p.config = parameters.pipelineConfig
  endpoint : ∀ name : String, p.endpoints[name]? = done.find? (·.endpointName == name)
  policy : ∀ name : String, p.arbiter.policies[name]? = p.endpoints[name]?
  run : ∀ (B : Platform β) (lib : MathLib), p = (machine B lib).run
    (CommandPipeline.create backend groups parameters.pipelineConfig) (registrations done)

theorem create_registered (parameters : NodeParameters) (backend : β)
    (hgroups : GroupsLoaded groups) : Registered parameters backend groups []
    (CommandPipeline.create backend groups parameters.pipelineConfig) := by
  have hbuilt : groups.foldl addGroup (∅, .Ok) = (groupTable groups, .Ok) :=
    foldl_addGroup (fun g hg => ⟨hgroups.valid g hg, hgroups.ordered g hg⟩) hgroups.names (by simp)
  exact ⟨List.nodup_nil, by simp [CommandPipeline.create, hbuilt],
    by simp [CommandPipeline.create, hbuilt], rfl, by simp [CommandPipeline.create],
    by simp [CommandPipeline.create], fun _ _ => rfl⟩

/-- The settings of a node pass the checks of the pipeline. -/
theorem Registered.valid {done : List EndpointPolicy} (h : Registered parameters backend groups done p)
    (hvalid : parameters.Valid) (hgroups : GroupsLoaded groups) : p.validatePipelineConfig = .Ok := by
  have hnonempty : p.groups.isEmpty = false := by
    obtain ⟨group, hin⟩ := List.exists_mem_of_ne_nil _ hgroups.nonempty
    rw [h.groupsEq]
    exact Std.TreeMap.isEmpty_eq_false_iff_exists_mem.2
      ⟨group.name, Std.TreeMap.mem_iff_isSome_getElem?.2 (by rw [hgroups.found hin]; rfl)⟩
  have hfrequency : parameters.controlFrequencyHz.isPositive = true :=
    hvalid.positive _ (by simp [NodeParameters.positiveValues])
  have hms : ∀ n : Int, 0 < n → ¬ milliseconds n ≤ 0 := fun n hn => not_le.2 (milliseconds_pos hn)
  unfold CommandPipeline.validatePipelineConfig
  simp only [h.status, h.config, hnonempty, MotionStatus.ok_Ok, Bool.not_true, Bool.false_eq_true,
    if_false, hvalid.goalMonitor]
  simp [NodeParameters.pipelineConfig, hfrequency, hvalid.margin, hvalid.tolerance,
    hms _ hvalid.maxAge, hms _ hvalid.maxPeriod, hms _ hvalid.retryInterval]

/-- A policy the node makes: of a known group, under a name, with a lease. -/
structure PolicyOk (groups : List JointGroupModel) (policy : EndpointPolicy) : Prop where
  named : policy.endpointName.isEmpty = false
  group : policy.groupName ∈ groups.map (·.name)
  lease : 0 < policy.servoLease

theorem policyId_nonempty (channel : ChannelConfig) (group : String) :
    (policyId channel group).isEmpty = false := by
  simp [policyId, String.isEmpty_eq_false_iff]

theorem channelPolicies_ok {channel : LoadedChannel} (hvalid : parameters.Valid)
    (hknown : GroupKnown groups channel) :
    ∀ policy ∈ parameters.channelPolicies groups channel, PolicyOk groups policy := by
  intro policy hpolicy
  obtain ⟨group, hgroup, rfl⟩ := List.mem_map.1 hpolicy
  refine ⟨policyId_nonempty _ _, ?_, ?_⟩
  · unfold channelGroups at hgroup
    split at hgroup
    · exact hgroup
    · rename_i hnamed
      obtain rfl := List.mem_singleton.1 hgroup
      exact hknown (Bool.eq_false_iff.2 hnamed)
  · exact milliseconds_pos hvalid.lease

/-- A policy of the node is registered exactly when its name is new. -/
theorem Registered.register {done : List EndpointPolicy} {policy : EndpointPolicy}
    (h : Registered parameters backend groups done p) (hvalid : parameters.Valid)
    (hgroups : GroupsLoaded groups) (hpolicy : PolicyOk groups policy) (p' : CommandPipeline β) :
    (registerPolicy p policy = .ok p' → Registered parameters backend groups (done ++ [policy]) p') ∧
      ((∃ p', registerPolicy p policy = .ok p') ↔
        policy.endpointName ∉ done.map (·.endpointName)) := by
  have hgroup : policy.groupName.isEmpty = false := by
    obtain ⟨group, hin, hname⟩ := List.mem_map.1 hpolicy.group
    rw [← hname]
    exact ((JointGroupModel.valid_iff _).1 (hgroups.valid group hin)).1
  have hknown : p.groups.contains policy.groupName = true := by
    rw [h.groupsEq]
    exact groupTable_contains.2 hpolicy.group
  have hlease : ¬ policy.servoLease ≤ 0 := not_le.2 hpolicy.lease
  have hfresh : p.arbiter.policies.contains policy.endpointName = true ↔
      policy.endpointName ∈ done.map (·.endpointName) := by
    rw [Std.TreeMap.contains_eq_isSome_getElem?, h.policy, h.endpoint, List.find?_isSome,
      List.mem_map]
    simp
  have hregister : p.registerEndpoint policy =
      if p.arbiter.policies.contains policy.endpointName then
        ({ code := .invalidArgument,
           message := "duplicate endpoint policy: " ++ policy.endpointName }, p)
      else (.Ok, { p with
        arbiter := { p.arbiter with
          policies := p.arbiter.policies.insert policy.endpointName policy }
        endpoints := p.endpoints.insertIfNew policy.endpointName policy }) := by
    unfold CommandPipeline.registerEndpoint ControlArbiter.registerEndpoint
    simp only [h.valid hvalid hgroups, hknown, hpolicy.named, hgroup, hlease, MotionStatus.ok_Ok,
      Bool.not_true, Bool.false_eq_true, Bool.or_self, decide_false, Bool.and_false, if_false]
    split <;> rfl
  unfold registerPolicy
  rw [hregister]
  by_cases hin : policy.endpointName ∈ done.map (·.endpointName)
  · simp only [hfresh.2 hin, if_true]
    exact ⟨fun h => (by cases h), iff_of_false (fun ⟨_, h⟩ => (by cases h)) (not_not.2 hin)⟩
  have hnew : p.arbiter.policies.contains policy.endpointName = false :=
    Bool.eq_false_iff.2 fun hc => hin (hfresh.1 hc)
  have hnone : p.endpoints[policy.endpointName]? = none := by
    rw [← h.policy]
    exact Std.TreeMap.getElem?_eq_none_of_contains_eq_false hnew
  simp only [hnew, Bool.false_eq_true, if_false, MotionStatus.ok_Ok, Bool.not_true]
  refine ⟨fun hok => ?_, iff_of_true ⟨_, rfl⟩ hin⟩
  obtain rfl := Except.ok.inj hok
  have hendpoint : ∀ name : String, (p.endpoints.insertIfNew policy.endpointName policy)[name]? =
      (done ++ [policy]).find? (·.endpointName == name) := by
    intro name
    rw [Std.TreeMap.getElem?_insertIfNew, List.find?_append, ← h.endpoint]
    by_cases hname : policy.endpointName = name
    · subst hname
      simp [hnone, Std.TreeMap.mem_iff_isSome_getElem?]
    · simp [hname]
  refine ⟨?_, h.groupsEq, h.status, h.config, hendpoint, fun name => ?_, fun B lib => ?_⟩
  · rw [List.map_append, List.nodup_append]
    refine ⟨h.names, List.nodup_singleton _, fun a ha b hb heq => hin ?_⟩
    obtain rfl : b = policy.endpointName := List.mem_singleton.1 hb
    exact heq ▸ ha
  · simp only [Std.TreeMap.getElem?_insert, Std.TreeMap.getElem?_insertIfNew, h.policy,
      Std.LawfulEqOrd.compare_eq_iff_eq, Std.TreeMap.mem_iff_isSome_getElem?]
    by_cases hname : policy.endpointName = name
    · subst hname
      simp [hnone]
    · simp [hname]
  · have hexec : (exec B lib p (.registerEndpoint policy)).2 = (p.registerEndpoint policy).2 := rfl
    rw [hregister, hnew] at hexec
    rw [registrations, List.map_append, Machine.run_append]
    change _ = (exec B lib _ (.registerEndpoint policy)).2
    rw [show (machine B lib).run (CommandPipeline.create backend groups parameters.pipelineConfig)
      (done.map .registerEndpoint) = p from (h.run B lib).symm, hexec]
    rfl

/-- Registering one policy after another: all names are new. -/
theorem Registered.registerAll (hvalid : parameters.Valid) (hgroups : GroupsLoaded groups) :
    ∀ {policies done : List EndpointPolicy} {p : CommandPipeline β},
      Registered parameters backend groups done p → (∀ policy ∈ policies, PolicyOk groups policy) →
      (∀ p', policies.foldlM registerPolicy p = .ok p' →
        Registered parameters backend groups (done ++ policies) p') ∧
      ((∃ p', policies.foldlM registerPolicy p = .ok p') ↔
        ((done ++ policies).map (·.endpointName)).Nodup)
  | [], done, p, h, _ => by
    rw [List.append_nil]
    exact ⟨fun p' hp' => Except.ok.inj hp' ▸ h, iff_of_true ⟨p, rfl⟩ h.names⟩
  | policy :: rest, done, p, h, hall => by
    have hpolicy := hall policy List.mem_cons_self
    have hrest : ∀ policy ∈ rest, PolicyOk groups policy := fun other hother =>
      hall other (List.mem_cons_of_mem _ hother)
    have hstep := h.register hvalid hgroups hpolicy
    have hassoc : done ++ policy :: rest = (done ++ [policy]) ++ rest := by simp
    rw [hassoc]
    simp only [List.foldlM_cons]
    constructor
    · intro p' hp'
      obtain ⟨middle, hmiddle, hp'⟩ := Checked.bind_ok hp'
      exact (registerAll hvalid hgroups ((hstep middle).1 hmiddle) hrest).1 p' hp'
    · constructor
      · rintro ⟨p', hp'⟩
        obtain ⟨middle, hmiddle, hp'⟩ := Checked.bind_ok hp'
        exact (registerAll hvalid hgroups ((hstep middle).1 hmiddle) hrest).2.1 ⟨p', hp'⟩
      · intro hnames
        have hnew : policy.endpointName ∉ done.map (·.endpointName) := by
          rw [List.append_assoc, List.map_append, List.nodup_append] at hnames
          exact fun hin => hnames.2.2 _ hin policy.endpointName (by simp) rfl
        obtain ⟨middle, hmiddle⟩ := (hstep p).2.2 hnew
        obtain ⟨p', hp'⟩ :=
          (registerAll hvalid hgroups ((hstep middle).1 hmiddle) hrest).2.2 hnames
        exact ⟨p', by rw [hmiddle]; exact hp'⟩

/-- Registering one channel after another: every group is known and all names are new. -/
theorem Registered.registerChannels (hvalid : parameters.Valid) (hgroups : GroupsLoaded groups) :
    ∀ {channels : List LoadedChannel} {done : List EndpointPolicy} {p : CommandPipeline β},
      Registered parameters backend groups done p → (∀ channel ∈ channels, ChannelChecked channel) →
      (∀ p', channels.foldlM (parameters.registerChannel groups) p = .ok p' →
        Registered parameters backend groups (done ++ parameters.nodePolicies groups channels) p') ∧
      ((∃ p', channels.foldlM (parameters.registerChannel groups) p = .ok p') ↔
        (∀ channel ∈ channels, GroupKnown groups channel) ∧
          ((done ++ parameters.nodePolicies groups channels).map (·.endpointName)).Nodup)
  | [], done, p, h, _ => by
    simp only [NodeParameters.nodePolicies, List.flatMap_nil, List.append_nil, List.foldlM_nil]
    exact ⟨fun p' hp' => Except.ok.inj hp' ▸ h, iff_of_true ⟨p, rfl⟩ ⟨by simp, h.names⟩⟩
  | channel :: rest, done, p, h, hall => by
    have hrest : ∀ channel ∈ rest, ChannelChecked channel := fun other hother =>
      hall other (List.mem_cons_of_mem _ hother)
    have hallowed := allowedGroups_ok_iff groups (hall channel List.mem_cons_self)
    have hone := fun (hknown : GroupKnown groups channel) =>
      h.registerAll hvalid hgroups (channelPolicies_ok hvalid hknown)
    have hassoc : done ++ parameters.nodePolicies groups (channel :: rest) =
        (done ++ parameters.channelPolicies groups channel) ++ parameters.nodePolicies groups rest := by
      simp [NodeParameters.nodePolicies]
    rw [hassoc]
    simp only [List.foldlM_cons]
    constructor
    · intro p' hp'
      obtain ⟨middle, hmiddle, hp'⟩ := Checked.bind_ok hp'
      obtain ⟨allowed, ha, hmiddle⟩ := Checked.bind_ok hmiddle
      obtain ⟨hknown, rfl⟩ := (hallowed allowed).1 ha
      exact (registerChannels hvalid hgroups ((hone hknown).1 middle hmiddle) hrest).1 p' hp'
    · constructor
      · rintro ⟨p', hp'⟩
        obtain ⟨middle, hmiddle, hp'⟩ := Checked.bind_ok hp'
        obtain ⟨allowed, ha, hmiddle⟩ := Checked.bind_ok hmiddle
        obtain ⟨hknown, rfl⟩ := (hallowed allowed).1 ha
        obtain ⟨hothers, hnames⟩ :=
          (registerChannels hvalid hgroups ((hone hknown).1 middle hmiddle) hrest).2.1 ⟨p', hp'⟩
        exact ⟨List.forall_mem_cons.2 ⟨hknown, hothers⟩, hnames⟩
      · rintro ⟨hknown, hnames⟩
        obtain ⟨hfirst, hothers⟩ := List.forall_mem_cons.1 hknown
        have hprefix : ((done ++ parameters.channelPolicies groups channel).map
            (·.endpointName)).Nodup := by
          rw [List.map_append] at hnames
          exact (List.nodup_append.1 hnames).1
        obtain ⟨middle, hmiddle⟩ := (hone hfirst).2.2 hprefix
        obtain ⟨p', hp'⟩ :=
          (registerChannels hvalid hgroups ((hone hfirst).1 middle hmiddle) hrest).2.2 ⟨hothers, hnames⟩
        have hturn : parameters.registerChannel groups p channel = .ok middle := by
          unfold NodeParameters.registerChannel
          rw [(hallowed _).2 ⟨hfirst, rfl⟩]
          exact hmiddle
        exact ⟨p', by rw [hturn]; exact hp'⟩

/-! ## The configured pipeline -/

/-- Every channel names a group of the node or none, and no two endpoints share a name. -/
structure Configurable (parameters : NodeParameters) (groups : List JointGroupModel)
    (channels : List LoadedChannel) : Prop where
  known : ∀ channel ∈ channels, GroupKnown groups channel
  names : ((parameters.nodePolicies groups channels).map (·.endpointName)).Nodup

/-- The pipeline a node comes up with: of the loaded groups, in working order, with one endpoint for
each channel and each group it may move. -/
structure NodeConfigured (parameters : NodeParameters) (backend : β) (groups : List JointGroupModel)
    (channels : List LoadedChannel) (p : CommandPipeline β) : Prop where
  valid : p.validatePipelineConfig = .Ok
  group : ∀ (name : String) (group : JointGroupModel),
    p.groups[name]? = some group ↔ group ∈ groups ∧ group.name = name
  endpoint : ∀ (name : String) (policy : EndpointPolicy), p.endpoints[name]? = some policy ↔
    ∃ channel ∈ channels, ∃ group ∈ channelGroups groups channel,
      policy = parameters.endpointPolicy channel group ∧ name = policyId channel.toChannelConfig group
  policy : ∀ name : String, p.arbiter.policies[name]? = p.endpoints[name]?
  own : ∀ channel ∈ channels, ∀ channel' ∈ channels, ∀ group ∈ channelGroups groups channel,
    ∀ group' ∈ channelGroups groups channel',
    policyId channel.toChannelConfig group = policyId channel'.toChannelConfig group' →
      channel = channel' ∧ group = group'
  run : ∀ (B : Platform β) (lib : MathLib), p = (machine B lib).run
    (CommandPipeline.create backend groups parameters.pipelineConfig)
    (registrations (parameters.nodePolicies groups channels))

theorem mem_nodePolicies {channels : List LoadedChannel} {policy : EndpointPolicy} :
    policy ∈ parameters.nodePolicies groups channels ↔ ∃ channel ∈ channels,
      ∃ group ∈ channelGroups groups channel, policy = parameters.endpointPolicy channel group := by
  simp only [NodeParameters.nodePolicies, NodeParameters.channelPolicies, List.mem_flatMap,
    List.mem_map, eq_comm]

theorem policyId_own {channels : List LoadedChannel}
    (hnames : ((parameters.nodePolicies groups channels).map (·.endpointName)).Nodup)
    {channel channel' : LoadedChannel} (hin : channel ∈ channels) (hin' : channel' ∈ channels)
    {group group' : String} (hgroup : group ∈ channelGroups groups channel)
    (hgroup' : group' ∈ channelGroups groups channel')
    (heq : policyId channel.toChannelConfig group = policyId channel'.toChannelConfig group') :
    channel = channel' ∧ group = group' := by
  rw [NodeParameters.nodePolicies, List.map_flatMap, List.nodup_flatMap] at hnames
  have hname : ∀ (channel : LoadedChannel) (group : String), group ∈ channelGroups groups channel →
      policyId channel.toChannelConfig group ∈
        (parameters.channelPolicies groups channel).map (·.endpointName) := fun channel group hg =>
    List.mem_map.2 ⟨_, List.mem_map_of_mem hg, rfl⟩
  by_cases hsame : channel = channel'
  · subst hsame
    refine ⟨rfl, ?_⟩
    have hone := hnames.1 channel hin
    rw [NodeParameters.channelPolicies, List.map_map] at hone
    exact List.inj_on_of_nodup_map hone hgroup hgroup' heq
  · have : Std.Symm (Function.onFun List.Disjoint fun channel =>
        (parameters.channelPolicies groups channel).map (·.endpointName)) := ⟨fun _ _ h => h.symm⟩
    have hdisjoint := hnames.2.forall hin hin' hsame
    exact (hdisjoint (hname channel group hgroup) (heq ▸ hname channel' group' hgroup')).elim

theorem find_endpoint {policies : List EndpointPolicy} {name : String} {policy : EndpointPolicy}
    (hnames : (policies.map (·.endpointName)).Nodup) :
    policies.find? (·.endpointName == name) = some policy ↔
      policy ∈ policies ∧ policy.endpointName = name := by
  constructor
  · intro h
    exact ⟨List.mem_of_find?_eq_some h, by simpa using List.find?_some h⟩
  · rintro ⟨hin, rfl⟩
    obtain ⟨other, hother⟩ := Option.isSome_iff_exists.1
      (List.find?_isSome.2 ⟨policy, hin, beq_self_eq_true policy.endpointName⟩ :
        (policies.find? (·.endpointName == policy.endpointName)).isSome = true)
    have hname : other.endpointName = policy.endpointName := by simpa using List.find?_some hother
    rw [hother, List.inj_on_of_nodup_map hnames (List.mem_of_find?_eq_some hother) hin hname]

theorem Registered.configured {channels : List LoadedChannel}
    (h : Registered parameters backend groups (parameters.nodePolicies groups channels) p)
    (hvalid : parameters.Valid) (hgroups : GroupsLoaded groups) :
    NodeConfigured parameters backend groups channels p where
  valid := h.valid hvalid hgroups
  group name group := by
    rw [h.groupsEq]
    exact ⟨mem_groupTable, fun ⟨hin, hname⟩ => hname ▸ hgroups.found hin⟩
  endpoint name policy := by
    rw [h.endpoint, find_endpoint h.names, mem_nodePolicies]
    constructor
    · rintro ⟨⟨channel, hchannel, group, hgroup, rfl⟩, rfl⟩
      exact ⟨channel, hchannel, group, hgroup, rfl, rfl⟩
    · rintro ⟨channel, hchannel, group, hgroup, rfl, rfl⟩
      exact ⟨⟨channel, hchannel, group, hgroup, rfl⟩, rfl⟩
  policy := h.policy
  own _ hin _ hin' _ hgroup _ hgroup' heq := policyId_own h.names hin hin' hgroup hgroup' heq
  run := h.run

/-- What stands before the first separator, and after it. -/
theorem separator_inj {α : Type} {sep : α} {xs ys zs ws : List α} (hx : sep ∉ xs) (hy : sep ∉ ys)
    (h : xs ++ sep :: zs = ys ++ sep :: ws) : xs = ys ∧ zs = ws := by
  rcases List.append_eq_append_iff.1 h with ⟨more, rfl, hmore⟩ | ⟨more, rfl, hmore⟩
  all_goals
    cases more with
    | nil => simpa [eq_comm] using hmore
    | cons first rest =>
      obtain ⟨rfl, -⟩ := List.cons.inj hmore
      simp at hx hy

/-- Without the separator in their names, channels of different names share no endpoint. -/
theorem nodePolicies_names {channels : List LoadedChannel} (hchannels : ChannelsLoaded channels)
    (hgroups : GroupsLoaded groups) (hplain : ∀ channel ∈ channels, '@' ∉ channel.name.toList) :
    ((parameters.nodePolicies groups channels).map (·.endpointName)).Nodup := by
  have hsplit : ∀ channel ∈ channels, ∀ channel' ∈ channels, ∀ group group' : String,
      policyId channel.toChannelConfig group = policyId channel'.toChannelConfig group' →
      channel.name = channel'.name ∧ group = group' := by
    intro channel hin channel' hin' group group' heq
    have hlist := congrArg String.toList heq
    simp only [policyId, String.toList_append] at hlist
    have hcons : channel.name.toList ++ '@' :: group.toList =
        channel'.name.toList ++ '@' :: group'.toList := by simpa using hlist
    obtain ⟨hname, hgroup⟩ := separator_inj (hplain channel hin) (hplain channel' hin') hcons
    exact ⟨String.toList_inj.1 hname, String.toList_inj.1 hgroup⟩
  rw [NodeParameters.nodePolicies, List.map_flatMap, List.nodup_flatMap]
  constructor
  · intro channel hin
    rw [NodeParameters.channelPolicies, List.map_map]
    refine List.Nodup.map_on (fun group _ group' _ heq => (hsplit _ hin _ hin _ _ heq).2) ?_
    unfold channelGroups
    split
    · exact hgroups.names
    · exact List.nodup_singleton _
  · have hdistinct : channels.Pairwise fun channel channel' => channel.name ≠ channel'.name :=
      List.pairwise_map.1 hchannels.names
    refine hdistinct.imp_of_mem fun {channel channel'} hin hin' hne name hname hname' => hne ?_
    simp only [NodeParameters.channelPolicies, List.mem_map] at hname hname'
    obtain ⟨_, ⟨group, -, rfl⟩, rfl⟩ := hname
    obtain ⟨_, ⟨group', -, rfl⟩, heq⟩ := hname'
    exact (hsplit _ hin _ hin' _ _ heq.symm).1

/-- What a node comes up with. -/
theorem configurePipeline_configured {groupParameters : GroupParameters} {items : List ChannelItem}
    {channels : List LoadedChannel} (hparameters : parameters.validateParameters = .ok ())
    (hgroups : groupParameters.loadGroups = .ok groups)
    (hchannels : loadChannelConfig items = .ok channels)
    (hp : parameters.configurePipeline backend groups channels = .ok p) :
    NodeConfigured parameters backend groups channels p := by
  have hvalid := NodeParameters.validateParameters_ok hparameters
  have hgroups := GroupParameters.loadGroups_ok hgroups
  have hregistered := ((create_registered parameters backend hgroups).registerChannels hvalid hgroups
    (loadChannelConfig_checked hchannels).checked).1
  rw [List.nil_append] at hregistered
  exact (hregistered p hp).configured hvalid hgroups

/-- Of accepted parameters, groups and channels: the node comes up exactly when every channel names
a group of the node, or none, and no two endpoints share a name, as none do where no channel has the
separator in its name; and what it comes up with is `NodeConfigured`. -/
theorem pipeline_configured (parameters : NodeParameters) (groupParameters : GroupParameters)
    (items : List ChannelItem) (backend : β) {groups : List JointGroupModel}
    {channels : List LoadedChannel} (hparameters : parameters.validateParameters = .ok ())
    (hgroups : groupParameters.loadGroups = .ok groups)
    (hchannels : loadChannelConfig items = .ok channels) :
    ((∃ p, parameters.configurePipeline backend groups channels = .ok p) ↔
      Configurable parameters groups channels) ∧
    ((∀ channel ∈ channels, '@' ∉ channel.name.toList) →
      ((∃ p, parameters.configurePipeline backend groups channels = .ok p) ↔
        ∀ channel ∈ channels, GroupKnown groups channel)) ∧
    ∀ p, parameters.configurePipeline backend groups channels = .ok p →
      NodeConfigured parameters backend groups channels p := by
  have hloaded := GroupParameters.loadGroups_ok hgroups
  have hchecked := loadChannelConfig_checked hchannels
  have hiff := ((create_registered parameters backend hloaded).registerChannels
    (NodeParameters.validateParameters_ok hparameters) hloaded hchecked.checked).2
  rw [List.nil_append] at hiff
  refine ⟨hiff.trans ⟨fun ⟨hk, hn⟩ => ⟨hk, hn⟩, fun h => ⟨h.known, h.names⟩⟩, fun hplain => ?_,
    fun p hp => configurePipeline_configured hparameters hgroups hchannels hp⟩
  exact hiff.trans (and_iff_left (nodePolicies_names hchecked hloaded hplain))

end

namespace Fixture

def twoArmParameters : NodeParameters :=
  { channelConfigFile := "channels.yaml", sdkConfigFile := "sdk.yaml", toolConfigFile := "tools.yaml"
    urdfFile := "robot.urdf" }

/-- Two arms of one joint each. -/
def twoArmGroups : GroupParameters where
  jointGroupNames := ["left", "right"]
  groups := .ofList [("left", ["l1"]), ("right", ["r1"])]
  groupLowerLimits := .ofList [("left", [Double.fin (-1)]), ("right", [Double.fin (-1)])]
  groupUpperLimits := .ofList [("left", [Double.fin 1]), ("right", [Double.fin 1])]

/-- A Move channel of either arm, and a servo channel of the left one. -/
def twoArmChannels : List ChannelItem :=
  [{ name := .text "pose", kind := .text "move_j", endpoint := .text "/pose" },
    { name := .text "track", kind := .text "servo_j", endpoint := .text "/track"
      group := .text "left" }]

/-- The groups as loaded. -/
def loadedArms : List JointGroupModel :=
  [⟨"left", ["l1"], [.fin (-1)], [1]⟩, ⟨"right", ["r1"], [.fin (-1)], [1]⟩]

def loadedChannels : List LoadedChannel :=
  [{ name := "pose", kind := .moveJ, group := "", endpoint := "/pose", fkPoseTopic := "", priority := 0 },
    { name := "track", kind := .servoJ, group := "left", endpoint := "/track", fkPoseTopic := ""
      priority := 0 }]

end Fixture

open Fixture in
/-- Three endpoints: the Move channel has one for each arm. -/
theorem pipeline_configured_arms : ∃ p,
    twoArmParameters.configurePipeline ({} : FakeSdk) loadedArms loadedChannels = .ok p ∧
      NodeConfigured twoArmParameters ({} : FakeSdk) loadedArms loadedChannels p := by
  have hgroups : twoArmGroups.loadGroups = .ok loadedArms := by decide +kernel
  have hchannels : loadChannelConfig twoArmChannels = .ok loadedChannels := by decide +kernel
  have hnode := pipeline_configured twoArmParameters twoArmGroups twoArmChannels ({} : FakeSdk)
    (by decide +kernel) hgroups hchannels
  obtain ⟨p, hp⟩ := (hnode.2.1 (by decide)).2 (by decide)
  exact ⟨p, hp, hnode.2.2 p hp⟩

end HumanoidMotion
