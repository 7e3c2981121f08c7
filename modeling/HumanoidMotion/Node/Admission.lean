import HumanoidMotion.Motion.Epoch
import HumanoidMotion.Motion.Refusals
import HumanoidMotion.Motion.Settings
import HumanoidMotion.Node.JointTargets
import HumanoidMotion.Node.Configuration
/-
# What a goal is answered (`execute_move`, `CommandPipeline::submitMove`)

`submitMove` can refuse for a dozen reasons. A goal that the node has turned into
a request meets four of them: the node has checked the others.

* `submitMove_answer` — the answer to a request that names its endpoint and group.
* `moveRequest_made` — which a request of a goal does.
* `goal_admission` — so it is in every state that a configured node reaches.
-/

namespace HumanoidMotion

variable {β : Type}

/-! ## The answer -/

/-- What a Move of the group is answered: by the permit, by the check of its target, by its id, or
by the arbiter. -/
inductive GoalAnswer (p : CommandPipeline β) (priority : Int) (model : JointGroupModel)
    (request : SessionRequest) (now : SteadyTime) (generation : Nat) : SubmissionResult → Prop
  | revoked (h : ¬ (p.outputEnabled = true ∧ generation = p.outputGeneration)) :
      GoalAnswer p priority model request now generation
        { status := CommandPipeline.revokedStatus, sessionId := "" }
  | refused (hopen : p.outputEnabled = true) (hgeneration : generation = p.outputGeneration)
      (h : (validateTarget request model).ok = false) :
      GoalAnswer p priority model request now generation
        { status := validateTarget request model, sessionId := "" }
  | repeated (hopen : p.outputEnabled = true) (hgeneration : generation = p.outputGeneration)
      (htarget : (validateTarget request model).ok = true) (h : requestId request ∈ p.sessions) :
      GoalAnswer p priority model request now generation
        { status := { code := .invalidArgument
                      message := "duplicate session id: " ++ requestId request }
          sessionId := "" }
  | outranked (hopen : p.outputEnabled = true) (hgeneration : generation = p.outputGeneration)
      (htarget : (validateTarget request model).ok = true) (hnew : requestId request ∉ p.sessions)
      (h : p.arbiter.Outranks priority model.jointNames now) :
      GoalAnswer p priority model request now generation
        { status := { code := .rejected
                      message := "Move conflicts with an equal or higher priority command" }
          sessionId := requestId request }
  | admitted (hopen : p.outputEnabled = true) (hgeneration : generation = p.outputGeneration)
      (htarget : (validateTarget request model).ok = true) (hnew : requestId request ∉ p.sessions)
      (h : ¬ p.arbiter.Outranks priority model.jointNames now) :
      GoalAnswer p priority model request now generation
        { status := .Ok, sessionId := requestId request }

/-- A Move's request that names the endpoint and its group, with limits that pass. -/
structure Addressed (p : CommandPipeline β) (endpoint : String) (policy : EndpointPolicy)
    (model : JointGroupModel) (request : SessionRequest) : Prop where
  registered : p.endpoints[endpoint]? = some policy
  kind : policy.kind = motionKind request
  move : isServo (motionKind request) = false
  group : policy.groupName = groupName request
  found : p.groups[groupName request]? = some model
  named : (requestId request).isEmpty = false
  limits : (validateLimits (requestLimits request) model.jointNames.length).ok = true

section
variable {p : CommandPipeline β} {endpoint : String} {policy : EndpointPolicy}
  {model : JointGroupModel} {request : SessionRequest} {now : SteadyTime} {generation : Nat}

/-- The session of such a request. -/
def moveSession (policy : EndpointPolicy) (model : JointGroupModel) (request : SessionRequest) :
    Session :=
  { endpointName := policy.endpointName, sessionId := requestId request
    groupName := groupName request, jointNames := model.jointNames, request }

/-- Only its target is in question. -/
theorem Addressed.validateRequest (h : Addressed p endpoint policy model request) :
    validateRequest p.groups policy request false =
      if (validateTarget request model).ok = true then .ok (moveSession policy model request)
      else .error (validateTarget request model) := by
  unfold HumanoidMotion.validateRequest
  simp only [h.move, h.kind, h.group, h.found, h.named, h.limits, ne_eq, not_true_eq_false,
    decide_false, Bool.or_self, Bool.false_eq_true, if_false, Bool.not_false, Bool.true_and,
    Bool.not_true]
  cases (validateTarget request model).ok <;> rfl

end

section
variable {p : CommandPipeline (β × List Call)} {endpoint : String} {policy : EndpointPolicy}
  {model : JointGroupModel} {request : SessionRequest} {now : SteadyTime} {generation : Nat}
  (B : Platform β)

/-- The answer is the arbiter's. -/
theorem arbitrateMove_answer (session : Session) :
    (p.arbitrateMove B.recorded endpoint session now).1 =
      let result := (p.arbiter.submitMove (CommandPipeline.claimOf endpoint session) now).1
      if !result.status.ok || !result.admitted then
        { status := result.status, sessionId := session.sessionId }
      else { status := .Ok, sessionId := session.sessionId } := by
  simp only [CommandPipeline.arbitrateMove]
  split <;> rfl

variable (now) in
/-- The arbiter takes a new Move unless a winner stands above it. -/
theorem Addressed.arbitrateMove (h : Addressed p endpoint policy model request) (hsound : Sound p)
    (harbiter : p.arbiter.Ok) (hfree : p.arbiter.claims[requestId request]? = none)
    (htarget : (validateTarget request model).ok = true) :
    (p.arbiter.Outranks policy.priority model.jointNames now →
      (p.arbitrateMove B.recorded endpoint (moveSession policy model request) now).1 =
        { status := { code := .rejected
                      message := "Move conflicts with an equal or higher priority command" }
          sessionId := requestId request }) ∧
    (¬ p.arbiter.Outranks policy.priority model.jointNames now →
      (p.arbitrateMove B.recorded endpoint (moveSession policy model request) now).1 =
        { status := .Ok, sessionId := requestId request }) := by
  have hvalid := h.validateRequest
  rw [if_pos htarget] at hvalid
  have hclaim := claim_valid hsound h.registered hvalid
  have hpolicy : p.arbiter.policies[endpoint]? = some policy :=
    (hsound.policies endpoint).trans h.registered
  have hfresh : p.arbiter.claims.contains (requestId request) = false := by
    rw [Std.TreeMap.contains_eq_isSome_getElem?, hfree]
    rfl
  have hwins : requestId request ∈ (p.arbiter.displace (CommandPipeline.claimOf endpoint
      (moveSession policy model request)) policy now now).computeWinners now ↔
        ¬ p.arbiter.Outranks policy.priority model.jointNames now :=
    ControlArbiter.new_wins_iff harbiter h.move hfree
  have harbitrated := p.arbiter.submitMove_eq _ policy now hclaim hfresh hpolicy
  rw [arbitrateMove_answer]
  revert hwins harbitrated
  generalize hmade : CommandPipeline.claimOf endpoint (moveSession policy model request) = claim
  intro hwins harbitrated
  have hid : claim.sessionId = requestId request := by rw [← hmade]; rfl
  rw [← hid] at hwins
  constructor
  · intro habove
    have hlost : ((p.arbiter.displace claim policy now now).computeWinners now).contains
        claim.sessionId = false := by
      rw [List.contains_eq_mem, decide_eq_false_iff_not]
      exact fun hwon => hwins.1 hwon habove
    simp only [hlost, Bool.not_false, if_true] at harbitrated
    rw [harbitrated]
    rfl
  · intro hclear
    have hwon : ((p.arbiter.displace claim policy now now).computeWinners now).contains
        claim.sessionId = true := by
      rw [List.contains_eq_mem, decide_eq_true_eq]
      exact hwins.2 hclear
    simp only [hwon, Bool.not_true, Bool.false_eq_true, if_false] at harbitrated
    rw [harbitrated]
    rfl

/-- The answer to a Move's request that names its endpoint and group. -/
theorem Addressed.submitMove (h : Addressed p endpoint policy model request) (hsound : Sound p)
    {e₀ : β × List Call} (htables : Tables False B.logged e₀ p) :
    GoalAnswer p policy.priority model request now generation
      (p.submitMove B.recorded endpoint request now generation).1 := by
  unfold CommandPipeline.submitMove
  split
  · rename_i hrevoked
    refine .revoked fun ⟨hopen, hgeneration⟩ => ?_
    simp [hopen, hgeneration] at hrevoked
  rename_i hpermit
  simp only [ne_eq, decide_not, Bool.or_eq_true, Bool.not_eq_true', decide_eq_false_iff_not,
    not_or, Bool.not_eq_false, not_not] at hpermit
  obtain ⟨hopen, hgeneration⟩ := hpermit
  simp only [h.registered, h.validateRequest]
  by_cases htarget : (validateTarget request model).ok = true
  · simp only [htarget, if_true]
    change GoalAnswer _ _ _ _ _ _ (if p.sessions.contains (requestId request) = true then _ else _ :
      SubmissionResult × CommandPipeline (β × List Call)).1
    by_cases hknown : requestId request ∈ p.sessions
    · rw [if_pos (Std.TreeMap.contains_iff_mem.2 hknown)]
      exact .repeated hopen hgeneration htarget hknown
    · rw [if_neg (fun hin => hknown (Std.TreeMap.contains_iff_mem.1 hin))]
      have hfree := (htables.rows (requestId request)).unclaimed
        (Std.TreeMap.getElem?_eq_none hknown)
      obtain ⟨hlost, hwon⟩ := h.arbitrateMove now B hsound htables.arbiter hfree htarget
      by_cases habove : p.arbiter.Outranks policy.priority model.jointNames now
      · rw [hlost habove]
        exact .outranked hopen hgeneration htarget hknown habove
      · rw [hwon habove]
        exact .admitted hopen hgeneration htarget hknown habove
  · simp only [htarget]
    exact .refused hopen hgeneration (Bool.eq_false_iff.2 htarget)

/-- A Move that is taken is stored, and wins at once. -/
theorem MoveOutcome.takes {q : CommandPipeline (β × List Call)} {result : SubmissionResult}
    (hout : MoveOutcome B.recorded p endpoint request now generation result q) (hsound : Sound p)
    (hok : result.status.ok = true) :
    requestId request ∈ q.sessions ∧ requestId request ∈ q.arbiter.winners now := by
  obtain ⟨_, arbPolicy, session, hvalid, -, -, -, hanswer, hwon, hclaims, -⟩ := hout.stored hok
  have hid := (madeFor_of_valid hsound hvalid.registered hvalid.checked).chosen rfl
  rw [← hid]
  constructor
  · cases hout with
    | refused _ hno => rw [hno] at hok; cases hok
    | lost _ _ _ _ _ _ _ _ _ hno => rw [hno] at hok; cases hok
    | admitted _ _ new _ _ _ _ _ _ settled _ hnew =>
      have hsame : new.sessionId = session.sessionId :=
        congrArg SubmissionResult.sessionId (hnew.symm.trans hanswer)
      change session.sessionId ∈ settled.sessions.insertIfNew new.sessionId _
      simp [hsame]
  · change session.sessionId ∈ q.arbiter.computeWinners now
    rw [ControlArbiter.computeWinners_congr hclaims]
    exact hwon

end

/-! ## The pipeline of a node, later -/

section
variable {p p₀ : CommandPipeline (β × List Call)} {parameters : NodeParameters}
  {groups : List JointGroupModel} {channels : List LoadedChannel} {e : β}

/-- No call takes an endpoint away, or changes it. -/
theorem exec_endpoint_kept {q : CommandPipeline β} (B : Platform β) (lib : MathLib) (hsound : Sound q)
    (op : Op) {name : String} {policy : EndpointPolicy} (h : q.endpoints[name]? = some policy) :
    (exec B lib q op).2.endpoints[name]? = some policy := by
  cases op with
  | registerEndpoint new =>
    simp only [exec, CommandPipeline.registerEndpoint]
    split_ifs
    · exact h
    · exact h
    · rw [Std.TreeMap.getElem?_insertIfNew, if_neg, h]
      rintro ⟨heq, hnew⟩
      rw [Std.LawfulEqOrd.compare_eq_iff_eq] at heq
      rw [Std.TreeMap.mem_iff_isSome_getElem?, heq, h] at hnew
      exact hnew rfl
    · exact h
  | _ =>
    obtain ⟨t, helems, hpipeline, -, -⟩ := exec_elems B lib q hsound _
    rw [hpipeline, helems.endpoints (by rintro policy ⟨⟩)]
    exact h

/-- What a node comes up with is there in every state that it reaches. -/
theorem NodeConfigured.later (h : NodeConfigured parameters (e, []) groups channels p₀)
    (B : Platform β) (lib : MathLib) (ops : List Op)
    (hp : p = (machine B.recorded lib).run p₀ ops) :
    Sound p ∧ Tables False B.logged (e, []) p ∧ p.groups = p₀.groups ∧
      ∀ (name : String) (policy : EndpointPolicy), p₀.endpoints[name]? = some policy →
        p.endpoints[name]? = some policy := by
  have hrun := h.run B.recorded lib
  have hwhole : p = (machine B.recorded lib).run
      (CommandPipeline.create (e, []) groups parameters.pipelineConfig)
      (registrations (parameters.nodePolicies groups channels) ++ ops) := by
    rw [Machine.run_append, ← hrun, hp]
  have hsound : Sound p₀ := by
    rw [hrun]
    exact (run_tables groups _ (B.logged_fresh e) _).1
  obtain ⟨hlater, htables⟩ : Sound p ∧ Tables False B.logged (e, []) p := by
    rw [hwhole]
    exact run_tables groups parameters.pipelineConfig (B.logged_fresh e) _
  have hkept := Machine.run_invariant (M := machine B.recorded lib)
    (I := fun s => Sound s ∧ s.groups = p₀.groups ∧
      ∀ (name : String) (policy : EndpointPolicy), p₀.endpoints[name]? = some policy →
        s.endpoints[name]? = some policy)
    (fun s op hs _ => ⟨exec_sound s hs.1 op,
      (congrArg Prod.fst (call_settings (B := B.recorded) lib hs.1 op)).trans hs.2.1,
      fun name policy hname => exec_endpoint_kept B.recorded lib hs.1 op (hs.2.2 name policy hname)⟩)
    ⟨hsound, rfl, fun _ _ hname => hname⟩ (Machine.meets_true _ ops)
  rw [← hp] at hkept
  exact ⟨hlater, htables, hkept.2⟩

end

/-! ## The request of a goal -/

/-- What `validateOptions` establishes. -/
theorem validateOptions_ok {options : MotionOptions} (h : validateOptions options = .ok ()) :
    ∀ scale ∈ options.scales, 0 ≤ scaleOrOne scale := by
  intro scale hscale
  unfold validateOptions at h
  split_ifs at h with hfinite hscales
  have hbound : ¬ scale.val < 0 := fun hneg =>
    hscales (List.any_eq_true.2 ⟨scale, hscale, by simp [hneg]⟩)
  unfold scaleOrOne
  split
  · norm_num
  · exact not_lt.1 hbound

namespace MoveSettings

/-- The limits of the settings are not negative. -/
structure NonNegative (settings : MoveSettings) : Prop where
  jointVelocity : 0 ≤ settings.jointMaxVelocityRadS
  jointAcceleration : 0 ≤ settings.jointMaxAccelerationRadS2
  jointJerk : 0 ≤ settings.jointMaxJerkRadS3
  linearVelocity : 0 ≤ settings.cartesianMaxLinearVelocityMS
  linearAcceleration : 0 ≤ settings.cartesianMaxLinearAccelerationMS2
  linearJerk : 0 ≤ settings.cartesianMaxLinearJerkMS3
  angularVelocity : 0 ≤ settings.cartesianMaxAngularVelocityRadS
  angularAcceleration : 0 ≤ settings.cartesianMaxAngularAccelerationRadS2
  angularJerk : 0 ≤ settings.cartesianMaxAngularJerkRadS3

variable {self : MoveSettings} {moment : MoveMoment} {channel : ChannelConfig} {id : String}
  {goal : MoveGoal} {request : SessionRequest}

theorem NonNegative.limits (h : self.NonNegative) {options : MotionOptions}
    (hoptions : validateOptions options = .ok ()) (n : Nat) :
    (validateLimits (self.motionLimits options n) n).ok = true := by
  have hscales := validateOptions_ok hoptions
  simp only [MotionOptions.scales, List.mem_cons, List.not_mem_nil, or_false, forall_eq_or_imp,
    forall_eq] at hscales
  obtain ⟨hvelocity, hacceleration, hjerk⟩ := hscales
  have hvalid : ∀ limit scale : Rat, 0 ≤ limit → 0 ≤ scale →
      (Double.fin (limit * scale)).isNonNegative = true := fun limit scale hl hs => by
    simp [Double.isNonNegative, mul_nonneg hl hs]
  have hmany : ∀ limit scale : Rat, 0 ≤ limit → 0 ≤ scale →
      (optionalLength (List.replicate n (Double.fin (limit * scale))) n &&
        (List.replicate n (Double.fin (limit * scale))).all Double.isNonNegative) = true :=
    fun limit scale hl hs => by
      rw [Bool.and_eq_true, List.all_eq_true]
      refine ⟨by simp [optionalLength], fun x hx => ?_⟩
      rw [List.eq_of_mem_replicate hx]
      exact hvalid limit scale hl hs
  unfold validateLimits motionLimits
  simp only [hmany _ _ h.jointVelocity hvelocity, hmany _ _ h.jointAcceleration hacceleration,
    hmany _ _ h.jointJerk hjerk, List.all_cons, List.all_nil,
    hvalid _ _ h.linearVelocity hvelocity, hvalid _ _ h.linearAcceleration hacceleration,
    hvalid _ _ h.linearJerk hjerk, hvalid _ _ h.angularVelocity hvelocity,
    hvalid _ _ h.angularAcceleration hacceleration, hvalid _ _ h.angularJerk hjerk]
  rfl

/-- The request of a goal: of its kind and group, with the limits of its options. -/
structure Requested (settings : MoveSettings) (channel : ChannelConfig) (goal : MoveGoal)
    (request : SessionRequest) (model : JointGroupModel) : Prop where
  found : settings.groups[goal.groupName]? = some model
  allowed : channel.group.isEmpty = false → goal.groupName = channel.group
  kind : motionKind request = goal.kind
  group : groupName request = goal.groupName
  options : validateOptions goal.options = .ok ()
  limits : requestLimits request = settings.motionLimits goal.options model.jointNames.length

/-- The target of a joint goal, with the measured positions of the joints it leaves out. -/
def TargetMade (self : MoveSettings) (moment : MoveMoment) (channel : ChannelConfig)
    (model : JointGroupModel) : MoveGoal → SessionRequest → Prop
  | .moveJ _ publicInput _, .moveJ r => ∃ input state,
      self.mapping.convert publicInput true = .ok input ∧ moment.feedback = some state ∧
        Completable model input state ∧ Completed model input state r.target
  | .moveL _ tipFrame targetPose _, .moveL r =>
      moment.transform targetPose channel.baseFrame = .ok r.target ∧
        r.baseLink = channel.baseFrame ∧ r.linkName = tipFrame
  | .moveP _ tipFrame targetPose _, .moveP r => ∃ pose,
      moment.transform targetPose channel.baseFrame = .ok pose ∧ r.waypoints = [pose] ∧
        r.baseLink = channel.baseFrame ∧ r.linkName = tipFrame
  | _, _ => False

theorem cartesianTarget_made {groupName tipFrame : String} {targetPose : StampedTarget}
    {options : MotionOptions} {found : JointGroupModel × Pose}
    (h : self.cartesianTarget moment channel groupName tipFrame targetPose options = .ok found) :
    self.groups[groupName]? = some found.1 ∧
      (channel.group.isEmpty = false → groupName = channel.group) ∧
      validateOptions options = .ok () ∧
      moment.transform targetPose channel.baseFrame = .ok found.2 := by
  unfold cartesianTarget at h
  simp only at h
  split at h
  · cases h
  rename_i model hmodel
  split at h
  · cases h
  rename_i hallowed
  obtain ⟨_, hoptions, h⟩ := Checked.bind_ok h
  obtain ⟨_, -, h⟩ := Checked.bind_ok h
  obtain ⟨pose, hpose, h⟩ := Checked.bind_ok h
  cases h
  refine ⟨hmodel, fun hgroup => ?_, hoptions, hpose⟩
  by_contra hother
  exact hallowed (by simp [hgroup, hother])

theorem moveRequest_made (h : self.moveRequest moment channel id goal = .ok request) :
    ∃ model, Requested self channel goal request model ∧
      TargetMade self moment channel model goal request := by
  cases goal with
  | moveJ groupName publicInput options =>
    simp only [moveRequest] at h
    split at h
    · cases h
    rename_i hallowed
    obtain ⟨_, hoptions, h⟩ := Checked.bind_ok h
    obtain ⟨target, htarget, h⟩ := Checked.bind_ok h
    obtain ⟨input, model, state, hinput, hmodel, -, hstate, hable, hdone⟩ :=
      (completeJointTarget_iff target).1 htarget
    cases h
    refine ⟨model, ⟨hmodel, fun hgroup => ?_, rfl, rfl, hoptions, ?_⟩, input, state, hinput, hstate,
      hable, hdone⟩
    · change groupName = channel.group
      by_contra hother
      exact hallowed (by simp [hgroup, hother])
    · rw [← hdone.names]
      rfl
  | moveL groupName tipFrame targetPose options =>
    simp only [moveRequest] at h
    obtain ⟨found, hfound, h⟩ := Checked.bind_ok h
    obtain ⟨hmodel, hallowed, hoptions, hpose⟩ := cartesianTarget_made hfound
    cases h
    exact ⟨found.1, ⟨hmodel, hallowed, rfl, rfl, hoptions, rfl⟩, hpose, rfl, rfl⟩
  | moveP groupName tipFrame targetPose options =>
    simp only [moveRequest] at h
    obtain ⟨found, hfound, h⟩ := Checked.bind_ok h
    obtain ⟨hmodel, hallowed, hoptions, hpose⟩ := cartesianTarget_made hfound
    cases h
    exact ⟨found.1, ⟨hmodel, hallowed, rfl, rfl, hoptions, rfl⟩, found.2, hpose, rfl, rfl, rfl⟩

end MoveSettings

/-! ## The answer to a goal -/

theorem sessionIdOf_nonempty (channelName : String) (goalId : Vector UInt8 16) :
    (sessionIdOf channelName goalId).isEmpty = false := by
  rw [Bool.eq_false_iff]
  intro h
  have hempty : sessionIdOf channelName goalId = "" := String.isEmpty_iff.1 h
  have hlist := congrArg String.toList hempty
  simp [sessionIdOf] at hlist

theorem NodeParameters.Valid.moveSettings {self : NodeParameters} (h : self.Valid)
    (groups : List JointGroupModel) (mapping : PublicJointMapping) (negativeTime : String)
    (forwardKinematics : Kinematics.ForwardKinematicsRequest → Kinematics.Result Kinematics.Pose) :
    (self.moveSettings groups mapping negativeTime forwardKinematics).NonNegative := by
  have hpositive : ∀ value ∈ self.positiveValues, 0 ≤ value.val := by
    intro value hvalue
    have hvalue := h.positive value hvalue
    simp only [Double.isPositive, Bool.and_eq_true, decide_eq_true_eq] at hvalue
    exact hvalue.2.le
  constructor
  all_goals exact hpositive _ (by simp [NodeParameters.positiveValues])

section
variable {parameters : NodeParameters} {groups : List JointGroupModel}

open NodeParameters (channelGroups)

/-- The group of a goal is one that its channel may move. -/
theorem goal_allowed {channel : LoadedChannel} {model : JointGroupModel} {group : String}
    (hmodel : model ∈ groups) (hname : model.name = group)
    (hallowed : channel.group.isEmpty = false → group = channel.group) :
    group ∈ channelGroups groups channel := by
  unfold channelGroups
  split
  · exact List.mem_map.2 ⟨model, hmodel, hname⟩
  · rename_i hnamed
    exact List.mem_singleton.2 (hallowed (Bool.eq_false_iff.2 hnamed))

/-- In every state that a configured node reaches, whatever calls are made: a goal that the channel's
action has turned into a request is answered by the permit, by the check of its target, by its id or
by the arbiter, and by nothing else; and a goal that is taken is stored, and wins at once. -/
theorem goal_admission (B : Platform β) (lib : MathLib) (e : β) (groupParameters : GroupParameters)
    (items : List ChannelItem) {channels : List LoadedChannel} {p₀ : CommandPipeline (β × List Call)}
    (hparameters : parameters.validateParameters = .ok ())
    (hgroups : groupParameters.loadGroups = .ok groups)
    (hchannels : loadChannelConfig items = .ok channels)
    (hnode : parameters.configurePipeline (e, []) groups channels = .ok p₀) (ops : List Op)
    {channel : LoadedChannel} (hchannel : channel ∈ channels) {goal : MoveGoal}
    (hkind : channel.kind = goal.kind) (mapping : PublicJointMapping) (negativeTime : String)
    (forwardKinematics : Kinematics.ForwardKinematicsRequest → Kinematics.Result Kinematics.Pose)
    (moment : MoveMoment) (goalId : Vector UInt8 16) {request : SessionRequest}
    (hrequest : (parameters.moveSettings groups mapping negativeTime forwardKinematics).moveRequest
      moment channel.toChannelConfig (sessionIdOf channel.name goalId) goal = .ok request)
    (now : SteadyTime) (generation : Nat) :
    let p := (machine B.recorded lib).run p₀ ops
    ∃ model ∈ groups, model.name = goal.groupName ∧
      (parameters.moveSettings groups mapping negativeTime forwardKinematics).TargetMade moment
        channel.toChannelConfig model goal request ∧
      let r := p.submitMove B.recorded (policyId channel.toChannelConfig goal.groupName) request now
        generation
      GoalAnswer p channel.priority model request now generation r.1 ∧
        (r.1.status.ok = true →
          requestId request ∈ r.2.sessions ∧ requestId request ∈ r.2.arbiter.winners now) := by
  intro p
  have hvalid := NodeParameters.validateParameters_ok hparameters
  have hconfigured := configurePipeline_configured hparameters hgroups hchannels hnode
  obtain ⟨hsound, htables, hsame, hkept⟩ := hconfigured.later B lib ops rfl
  obtain ⟨model, hmade, htarget⟩ := MoveSettings.moveRequest_made hrequest
  obtain ⟨hmodel, hname⟩ : model ∈ groups ∧ model.name = goal.groupName := mem_groupTable hmade.found
  have hallowed := goal_allowed hmodel hname hmade.allowed
  have hendpoint : p₀.endpoints[policyId channel.toChannelConfig goal.groupName]? =
      some (parameters.endpointPolicy channel goal.groupName) :=
    (hconfigured.endpoint _ _).2 ⟨channel, hchannel, _, hallowed, rfl, rfl⟩
  have haddressed : Addressed p (policyId channel.toChannelConfig goal.groupName)
      (parameters.endpointPolicy channel goal.groupName) model request := by
    constructor
    · exact hkept _ _ hendpoint
    · exact hkind.trans hmade.kind.symm
    · rw [hmade.kind]
      cases goal <;> rfl
    · exact hmade.group.symm
    · rw [hsame, hmade.group]
      exact (hconfigured.group _ _).2 ⟨hmodel, hname⟩
    · rw [MoveSettings.requestId_moveRequest hrequest]
      exact sessionIdOf_nonempty _ _
    · rw [hmade.limits]
      exact (hvalid.moveSettings groups mapping negativeTime forwardKinematics).limits hmade.options _
  exact ⟨model, hmodel, hname, htarget, haddressed.submitMove B hsound htables,
    (submitMove_outcome B.recorded p _ request now generation).takes B hsound⟩

end

namespace Fixture

/-- A goal of the Move channel: the joint of the left arm, half a radian away. -/
def halfRadian : MoveGoal := .moveJ "left" { name := ["l1"], position := [.fin (1 / 2)] } {}

def restingMoment : MoveMoment where
  rosNowNs := 0
  permitCutoffNs := 0
  feedback := some { jointNames := ["l1"], positionsRad := [0], velocitiesRadS := [0] }
  transform _ _ := .error "no such frame"

/-- The settings of the two arms, without kinematics. -/
def twoArmSettings : MoveSettings :=
  twoArmParameters.moveSettings loadedArms {} "" fun _ => .Failure ⟨.internalError, "no kinematics"⟩

/-- The Move channel. -/
def poseChannel : LoadedChannel :=
  { name := "pose", kind := .moveJ, group := "", endpoint := "/pose", fkPoseTopic := "", priority := 0 }

def twoArmGoal (n : UInt8) : Vector UInt8 16 := Vector.replicate 16 n

end Fixture

open Fixture in
/-- The node comes up, ticks, and takes the goal. -/
theorem goal_admission_arm : ∃ p₀ request,
    twoArmParameters.configurePipeline (({}, []) : FakeSdk × List Call) loadedArms loadedChannels =
      .ok p₀ ∧
    twoArmSettings.moveRequest restingMoment poseChannel.toChannelConfig
      (sessionIdOf "pose" (twoArmGoal 7)) halfRadian = .ok request ∧
    let p := (machine FakeSdk.platform.toPlatform.recorded mathLib).run p₀ [tick 1]
    let r := p.submitMove FakeSdk.platform.toPlatform.recorded "pose@left" request 5 0
    (∃ model ∈ loadedArms, GoalAnswer p 0 model request 5 0 r.1) ∧ requestId request ∈ r.2.sessions := by
  have htaken : (do
      let p₀ ← twoArmParameters.configurePipeline (({}, []) : FakeSdk × List Call) loadedArms
        loadedChannels
      let request ← twoArmSettings.moveRequest restingMoment poseChannel.toChannelConfig
        (sessionIdOf "pose" (twoArmGoal 7)) halfRadian
      return (((machine FakeSdk.platform.toPlatform.recorded mathLib).run p₀ [tick 1]).submitMove
        FakeSdk.platform.toPlatform.recorded "pose@left" request 5 0).1.status.ok) = .ok true := by
    decide +kernel
  obtain ⟨p₀, hp, htaken⟩ := Checked.bind_ok htaken
  obtain ⟨request, hr, htaken⟩ := Checked.bind_ok htaken
  obtain ⟨model, hmodel, -, -, hanswer, hstored⟩ := goal_admission FakeSdk.platform.toPlatform
    mathLib {} twoArmGroups twoArmChannels (by decide +kernel) (by decide +kernel)
    (by decide +kernel) hp [tick 1] (show poseChannel ∈ loadedChannels by decide) rfl _ _ _
    restingMoment (twoArmGoal 7) hr 5 0
  exact ⟨p₀, request, hp, hr, ⟨model, hmodel, hanswer⟩, (hstored (Except.ok.inj htaken)).1⟩

end HumanoidMotion
