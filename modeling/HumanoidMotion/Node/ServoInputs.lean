import HumanoidMotion.Node.ControlNode
/-
# The servo targets of the node (`humanoid_motion_control_node.cpp`)

A servo callback puts its target into the one slot of its endpoint; the control
timer takes all slots at once and hands each target to the pipeline.

| here | there |
| --- | --- |
| `servoRequest`    | the requests of `handle_servo_j` and `handle_servo_p` (`:1518`, `:1549`) |
| `sourcePermitted` | `source_permitted` (`:1051`) |
| `queueServo`      | `queue_servo` (`:1568`) |
| `drainServos`     | the swap of `latest_servos_` in `control_tick` (`:1617`) |
| `applyServo`      | one turn of the loop after it (`:1622`) |
-/

namespace HumanoidMotion

/-- The parameters of the node that its servo inputs depend on. -/
structure ServoInputConfig where
  permitTopic : String := ""
  inputStampMaxAgeS : Rat
  servoLeaseMs : Int
  inputStampFutureToleranceS : Rat

def servoRequest (channel : ChannelConfig) (limits : MotionLimits) : DynamicTarget → SessionRequest
  | .joints target => .servoJ
    { requestId := "servo:" ++ channel.name, groupName := channel.group, target, limits }
  | .pose target => .servoP
    { requestId := "servo:" ++ channel.name, groupName := channel.group
      baseLink := channel.baseFrame, linkName := channel.tipFrame, target, limits }

@[simp] theorem groupName_servoRequest (channel : ChannelConfig) (limits : MotionLimits)
    (target : DynamicTarget) : groupName (servoRequest channel limits target) = channel.group := by
  cases target <;> rfl

/-- What a servo callback passes to `queue_servo`, and the clocks on the way. -/
structure ServoInput where
  channel : ChannelConfig
  target : DynamicTarget
  limits : MotionLimits := {}
  stamp : Stamp
  receivedAt : SteadyTime
  rosNowNs : Int
  generation : Nat := 0
  /-- The steady clock as `source_permitted` reads it. -/
  steadyNs : Int := 0
  stopping : Bool := false

namespace ControlNode

variable {β : Type}

def sourcePermitted (config : ServoInputConfig) (self : ControlNode β) (input : ServoInput) : Bool :=
  self.permitEnabled && (self.permitNormal == (input.channel.source == "motion")) &&
    !input.stopping &&
    (config.permitTopic.isEmpty || decide (input.steadyNs - self.permitReceived ≤ 300000000))

/-- No joint of the group is reserved, nor was it at the stamp (`:1576`). -/
def unreserved (self : ControlNode β) (group : String) (stampNs : Int) : Bool :=
  match self.groups[group]? with
  | none => false
  | some model => model.jointNames.all fun joint =>
    !self.moveOwners.contains joint && decide (self.servoCutoffs.getD joint 0 < stampNs)

/-- The age at which a target is too old to be queued. -/
def servoMaxAge (config : ServoInputConfig) : Duration :=
  durationCast (min config.inputStampMaxAgeS (config.servoLeaseMs / 1000))

/-- Whether the target went into its slot, and the node. -/
def queueServo (config : ServoInputConfig) (self : ControlNode β) (input : ServoInput) :
    Bool × ControlNode β :=
  let stampNs := sourceStampNs input.stamp
  if !self.sourcePermitted config input || input.generation ≠ self.permitGeneration ||
      (self.publicMapping && decide (stampNs ≤ self.permitCutoffNs)) then (false, self)
  else if self.publicMapping && !self.unreserved input.channel.group stampNs then (false, self)
  else
    let endpoint := policyId input.channel input.channel.group
    let accepted := (self.servoTimestamps.getD endpoint {}).accept stampNs input.rosNowNs
      input.receivedAt (servoMaxAge config) (durationCast config.inputStampFutureToleranceS) false
    let node := { self with servoTimestamps := self.servoTimestamps.insert endpoint accepted.2 }
    match accepted.1 with
    | .error _ => (false, node)
    | .ok freshAt =>
      let request := servoRequest input.channel input.limits input.target
      -- a newer target overwrites the one in the slot
      (true, { node with
        latestServos := node.latestServos.insert endpoint ⟨request, freshAt, input.generation⟩ })

/-- The targets in the order of their endpoints. -/
def drainServos (self : ControlNode β) : List (String × PendingServo) × ControlNode β :=
  (self.latestServos.toList, { self with latestServos := ∅ })

def applyServo (B : Platform β) (self : ControlNode β) (endpoint : String) (input : PendingServo)
    (now : SteadyTime) : SubmissionResult × ControlNode β :=
  let updated := self.pipeline.updateServo B endpoint input.request input.freshAt now input.generation
  (updated.1, { self with pipeline := updated.2 })

/-! ## What the queue keeps -/

/-- A queued target leaves everything as it is but its own slot and tracker. -/
inductive Queued (config : ServoInputConfig) (self : ControlNode β) (input : ServoInput) :
    Bool → ControlNode β → Prop
  | dropped (trackers : StringMap InputTimestamp) :
      Queued config self input false { self with servoTimestamps := trackers }
  | stored (tracker : InputTimestamp) (freshAt : SteadyTime)
      (hfree : self.publicMapping = true →
        self.unreserved input.channel.group (sourceStampNs input.stamp) = true)
      (haccepted : (self.servoTimestamps.getD (policyId input.channel input.channel.group) {}).accept
        (sourceStampNs input.stamp) input.rosNowNs input.receivedAt (servoMaxAge config)
        (durationCast config.inputStampFutureToleranceS) false = (.ok freshAt, tracker)) :
      Queued config self input true
        { self with
          servoTimestamps := self.servoTimestamps.insert
            (policyId input.channel input.channel.group) tracker
          latestServos := self.latestServos.insert (policyId input.channel input.channel.group)
            ⟨servoRequest input.channel input.limits input.target, freshAt, input.generation⟩ }

theorem queueServo_queued (config : ServoInputConfig) (self : ControlNode β) (input : ServoInput) :
    Queued config self input (self.queueServo config input).1 (self.queueServo config input).2 := by
  unfold queueServo
  simp only
  split
  · exact .dropped self.servoTimestamps
  · split
    · exact .dropped self.servoTimestamps
    · rename_i hreserved
      split
      · exact .dropped _
      · rename_i freshAt haccepted
        refine .stored _ freshAt (fun hmapping => ?_) (Prod.ext haccepted rfl)
        simpa [hmapping] using hreserved

end ControlNode

end HumanoidMotion
