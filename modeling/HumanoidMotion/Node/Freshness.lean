import HumanoidMotion.Motion.Deadlines
import HumanoidMotion.Motion.SourceTimes
import HumanoidMotion.Node.Reservation
/-
# Freshness from the message to the sink

A servo target passes the tracker of its endpoint, its slot, `updateServo` and a
tick before a command of it is handed out. Each of them keeps the time from which
the target is fresh, so the command is in time by the stamp of its message.

* `calls`, `run_pipeline` — the node's steps as calls of its pipeline.
* `FromInput` — the target in a slot came through the tracker, and has its fresh time.
* `Unmoved` — two nodes that differ in the clock of one tracker make the same calls.
* `end_to_end_freshness` — every command handed out is in time when it is checked, and a
  target that is replayed, older or stale makes no difference at all.
* `batch_reaches_sink_late` — the sink of a batch is called after the last check of it.
-/

namespace HumanoidMotion

variable {β : Type} {B : Platform β} {lib : MathLib} {config : ServoInputConfig}

/-! ## The calls of the pipeline -/

namespace ControlNode

/-- A reservation ends the servo session of the channel. -/
def discards (self : ControlNode β) (channel : ChannelConfig) : Bool :=
  isServo channel.kind && (self.groups[channel.group]?).any self.occupied

def discardCalls (self : ControlNode β) (channels : List ChannelConfig) : List Op :=
  (channels.filter self.discards).map fun channel =>
    .cancel ("servo:" ++ policyId channel channel.group)

def reserved (self : ControlNode β) (model : JointGroupModel) (owner : String) : ControlNode β :=
  { self with
    moveOwners := model.jointNames.foldl (fun owners joint => owners.insert joint owner)
      self.moveOwners }

def reserveCalls (self : ControlNode β) (groupName owner : String) : List Op :=
  if !self.publicMapping then []
  else match self.groups[groupName]? with
    | none => []
    | some model =>
      if self.occupied model then [] else (self.reserved model owner).discardCalls self.channels

theorem discardServo_pipeline (self : ControlNode β) (channel : ChannelConfig) :
    (self.discardServo B channel).pipeline =
      (machine B lib).run self.pipeline (self.discardCalls [channel]) := by
  unfold discardServo discardCalls discards
  cases hservo : isServo channel.kind with
  | false => simp [hservo]
  | true =>
    cases hgroup : self.groups[channel.group]? with
    | none => simp [hservo, hgroup]
    | some other =>
      cases hoccupied : self.occupied other with
      | false => simp [hservo, hgroup, hoccupied]
      | true => simp [hservo, hgroup, hoccupied, machine, exec]

theorem discards_congr {self other : ControlNode β} (hg : other.groups = self.groups)
    (hm : other.moveOwners = self.moveOwners) : other.discards = self.discards := by
  funext channel
  unfold discards occupied
  rw [hg, hm]

theorem foldl_discardServo_pipeline (channels : List ChannelConfig) (self : ControlNode β) :
    (channels.foldl (discardServo B) self).pipeline =
      (machine B lib).run self.pipeline (self.discardCalls channels) := by
  induction channels generalizing self with
  | nil => rfl
  | cons channel channels ih =>
    have hdiscarded := discardServo_discarded (B := B) self channel
    have hcons : self.discardCalls (channel :: channels) =
        self.discardCalls [channel] ++ (self.discardServo B channel).discardCalls channels := by
      unfold discardCalls
      rw [discards_congr hdiscarded.groups hdiscarded.owners, ← List.map_append, ← List.filter_append, List.singleton_append]
    rw [List.foldl_cons, ih, hcons, Machine.run_append, ← discardServo_pipeline]

theorem reserveMove_pipeline (self : ControlNode β) (groupName owner : String) :
    (self.reserveMove B groupName owner).2.pipeline =
      (machine B lib).run self.pipeline (self.reserveCalls groupName owner) := by
  unfold reserveMove reserveCalls
  split
  · rfl
  · cases self.groups[groupName]? with
    | none => rfl
    | some model =>
      simp only
      split
      · rfl
      · exact foldl_discardServo_pipeline self.channels (self.reserved model owner)

end ControlNode

namespace ServoThreads

/-- The calls of the pipeline that a step makes, in order. -/
def calls (w : ServoThreads β) : ServoEvent → List Op
  | .apply now =>
    match w.control with
    | .applying (target :: _) => [.updateServo target.endpoint target.input.request
        target.input.freshAt now target.input.generation]
    | _ => []
  | .tick feedback now =>
    match w.control with
    | .applying [] => [.tick feedback now]
    | _ => []
  | .reserve groupName owner => w.node.reserveCalls groupName owner
  | .submitMove endpoint request now generation => [.submitMove endpoint request now generation]
  | .call op => if op.isOther then [op] else []
  | _ => []

theorem queueServo_pipeline (self : ControlNode β) (input : ServoInput) :
    (self.queueServo config input).2.pipeline = self.pipeline := by
  have hqueued := ControlNode.queueServo_queued config self input
  generalize self.queueServo config input = queued at hqueued
  obtain ⟨taken, node⟩ := queued
  cases hqueued with
  | dropped => rfl
  | stored => rfl

theorem step_pipeline (w : ServoThreads β) (event : ServoEvent) :
    (w.step B lib config event).2.node.pipeline = (machine B lib).run w.node.pipeline (w.calls event) := by
  cases event with
  | queue input =>
    simp only [step, calls, Machine.run_nil]
    split
    · exact queueServo_pipeline w.node input
    · rfl
  | drain =>
    simp only [step, calls, Machine.run_nil]
    split
    · rfl
    · rfl
  | apply now =>
    obtain ⟨node, control, stamps⟩ := w
    cases control with
    | idle => rfl
    | applying rest => cases rest <;> rfl
  | tick feedback now =>
    obtain ⟨node, control, stamps⟩ := w
    cases control with
    | idle => rfl
    | applying rest => cases rest <;> rfl
  | reserve groupName owner => exact ControlNode.reserveMove_pipeline w.node groupName owner
  | release => rfl
  | submitMove => rfl
  | call op =>
    simp only [step, calls]
    split
    · rfl
    · rfl

end ServoThreads

variable (B lib config) in
/-- The calls of the pipeline that a run makes. -/
def pipelineCalls : ServoThreads β → List ServoEvent → List Op
  | _, [] => []
  | w, event :: events => w.calls event ++ pipelineCalls (w.step B lib config event).2 events

theorem pipelineCalls_append (w : ServoThreads β) (events more : List ServoEvent) :
    pipelineCalls B lib config w (events ++ more) = pipelineCalls B lib config w events ++
      pipelineCalls B lib config ((servoMachine B lib config).run w events) more := by
  induction events generalizing w with
  | nil => rfl
  | cons event events ih =>
    simp only [List.cons_append, pipelineCalls, Machine.run_cons, ih, List.append_assoc]
    rfl

/-- A run of the node is a run of its pipeline. -/
theorem run_pipeline (w : ServoThreads β) (events : List ServoEvent) :
    ((servoMachine B lib config).run w events).node.pipeline =
      (machine B lib).run w.node.pipeline (pipelineCalls B lib config w events) := by
  induction events generalizing w with
  | nil => rfl
  | cons event events ih =>
    rw [Machine.run_cons, ih, pipelineCalls, Machine.run_append, ← w.step_pipeline]
    rfl

/-! ## Where the targets come from -/

abbrev NodeStage (β : Type) := Machine.Stage (ServoThreads β) ServoEvent Bool

/-- The queued target is that of a message: the tracker of the endpoint took its stamp, and gave the
target its fresh time. -/
structure FromInput (config : ServoInputConfig) (endpoint : String) (target : PendingServo)
    (input : ServoInput) (g : NodeStage β) : Prop where
  queued : g.input = .queue input
  endpointEq : endpoint = policyId input.channel input.channel.group
  requestEq : target.request = servoRequest input.channel input.limits input.target
  fresh : ((g.before.node.servoTimestamps.getD endpoint {}).accept (sourceStampNs input.stamp)
    input.rosNowNs input.receivedAt (ControlNode.servoMaxAge config)
    (durationCast config.inputStampFutureToleranceS) false).1 = .ok target.freshAt

/-- Every target in a slot or out of it came from a message. -/
structure FromInputs (config : ServoInputConfig) (past : List (NodeStage β)) (w : ServoThreads β) :
    Prop where
  slots : ∀ (endpoint : String) target, w.node.latestServos[endpoint]? = some target →
    ∃ g ∈ past, ∃ input, FromInput config endpoint target input g
  drained : ∀ target ∈ w.control.drained,
    ∃ g ∈ past, ∃ input, FromInput config target.endpoint target.input input g

theorem FromInputs.kept {past more : List (NodeStage β)} {w w' : ServoThreads β}
    (h : FromInputs config past w)
    (hslots : ∀ (endpoint : String) target, w'.node.latestServos[endpoint]? = some target →
      w.node.latestServos[endpoint]? = some target)
    (hdrained : ∀ target ∈ w'.control.drained, target ∈ w.control.drained) :
    FromInputs config (past ++ more) w' := by
  constructor
  · intro endpoint target ht
    obtain ⟨g, hg, hinput⟩ := h.slots endpoint target (hslots endpoint target ht)
    exact ⟨g, List.mem_append_left _ hg, hinput⟩
  · intro target ht
    obtain ⟨g, hg, hinput⟩ := h.drained target (hdrained target ht)
    exact ⟨g, List.mem_append_left _ hg, hinput⟩

theorem reserveMove_slots (n : ControlNode β) (name owner : String) {endpoint : String}
    {target : PendingServo} (h : (n.reserveMove B name owner).2.latestServos[endpoint]? = some target) :
    n.latestServos[endpoint]? = some target := by
  cases hmapping : n.publicMapping with
  | false =>
    unfold ControlNode.reserveMove at h
    rw [if_pos (by simp [hmapping])] at h
    exact h
  | true =>
    rcases reserveMove_reserved (B := B) n name owner hmapping with ⟨model, -, -, hreserved⟩ | hrefused
    · exact (hreserved.slots endpoint target h).1
    · rw [hrefused] at h
      exact h

theorem FromInputs.step {past : List (NodeStage β)} {w : ServoThreads β}
    (h : FromInputs config past w) (event : ServoEvent) :
    FromInputs config (past ++ [⟨w, event, (w.step B lib config event).1,
      (w.step B lib config event).2⟩]) (w.step B lib config event).2 := by
  cases event with
  | queue input =>
    by_cases hchannel : input.channel ∈ w.node.channels ∧ isServo input.channel.kind
    · have hstep : w.step B lib config (.queue input) = ((w.node.queueServo config input).1, { w with
          node := (w.node.queueServo config input).2
          stamps := if (w.node.queueServo config input).1 then
              w.stamps.insert (policyId input.channel input.channel.group) (sourceStampNs input.stamp)
            else w.stamps }) := by
        simp [ServoThreads.step, hchannel]
      have hqueued := ControlNode.queueServo_queued config w.node input
      rw [hstep]
      generalize w.node.queueServo config input = queued at hqueued
      obtain ⟨taken, node⟩ := queued
      cases hqueued with
      | dropped => exact h.kept (fun _ _ ht => ht) fun _ ht => ht
      | stored tracker freshAt _ haccepted =>
        refine ⟨fun endpoint target ht => ?_, (h.kept (fun _ _ ht => ht) fun _ ht => ht).drained⟩
        simp only [Std.TreeMap.getElem?_insert, Std.LawfulEqOrd.compare_eq_iff_eq] at ht
        split at ht
        · rename_i hendpoint
          cases ht
          subst hendpoint
          exact ⟨_, List.mem_append_right _ (List.mem_singleton_self _), input, rfl, rfl, rfl,
            congrArg Prod.fst haccepted⟩
        · obtain ⟨g, hg, hinput⟩ := h.slots endpoint target ht
          exact ⟨g, List.mem_append_left _ hg, hinput⟩
    · simp only [ServoThreads.step, if_neg hchannel]
      exact h.kept (fun _ _ ht => ht) fun _ ht => ht
  | drain =>
    simp only [ServoThreads.step]
    split
    · refine ⟨fun endpoint target ht => ?_, fun target ht => ?_⟩
      · simp [ControlNode.drainServos] at ht
      · simp only [ServoControl.drained, ControlNode.drainServos] at ht
        obtain ⟨entry, hentry, rfl⟩ := List.mem_map.1 ht
        obtain ⟨g, hg, hinput⟩ :=
          h.slots entry.1 entry.2 (Std.TreeMap.mem_toList_iff_getElem?_eq_some.1 hentry)
        exact ⟨g, List.mem_append_left _ hg, hinput⟩
    · exact h.kept (fun _ _ ht => ht) fun _ ht => ht
  | apply now =>
    obtain ⟨node, control, stamps⟩ := w
    cases control with
    | idle => exact h.kept (fun _ _ ht => ht) fun _ ht => ht
    | applying rest =>
      cases rest with
      | nil => exact h.kept (fun _ _ ht => ht) fun _ ht => ht
      | cons target rest => exact h.kept (fun _ _ ht => ht) fun _ ht => List.mem_cons_of_mem _ ht
  | tick feedback now =>
    obtain ⟨node, control, stamps⟩ := w
    cases control with
    | idle => exact h.kept (fun _ _ ht => ht) fun _ ht => ht
    | applying rest =>
      cases rest with
      | nil => exact h.kept (fun _ _ ht => ht) fun _ ht => ht
      | cons target rest => exact h.kept (fun _ _ ht => ht) fun _ ht => ht
  | reserve name owner =>
    exact h.kept (fun _ _ ht => reserveMove_slots w.node name owner ht) fun _ ht => ht
  | release => exact h.kept (fun _ _ ht => ht) fun _ ht => ht
  | submitMove => exact h.kept (fun _ _ ht => ht) fun _ ht => ht
  | call op =>
    simp only [ServoThreads.step]
    split
    · exact h.kept (fun _ _ ht => ht) fun _ ht => ht
    · exact h.kept (fun _ _ ht => ht) fun _ ht => ht

/-! ## Trackers that the steps do not tell apart -/

namespace InputTimestamp

variable {t t' : InputTimestamp} {stampNs rosNowNs : Int} {receivedAt : SteadyTime}
  {maxAge futureTolerance : Duration} {requireStamp : Bool}

theorem observed_of_le (h : t.lastRosNowNs ≤ rosNowNs) : t.observed rosNowNs = ⟨t.lastStampNs, rosNowNs⟩ := by
  simp [observed, not_lt.2 h]

/-- While the clock goes on, the answer depends on the last stamp only. -/
theorem accept_agree (hstamp : t'.lastStampNs = t.lastStampNs) (h : t.lastRosNowNs ≤ rosNowNs)
    (h' : t'.lastRosNowNs ≤ rosNowNs) :
    (t'.accept stampNs rosNowNs receivedAt maxAge futureTolerance requireStamp).1 =
        (t.accept stampNs rosNowNs receivedAt maxAge futureTolerance requireStamp).1 ∧
      (t'.accept stampNs rosNowNs receivedAt maxAge futureTolerance requireStamp).2.lastStampNs =
        (t.accept stampNs rosNowNs receivedAt maxAge futureTolerance requireStamp).2.lastStampNs := by
  unfold accept
  rw [observed_of_le h, observed_of_le h', hstamp]
  dsimp only
  split_ifs
  · exact ⟨rfl, hstamp⟩
  all_goals exact ⟨rfl, rfl⟩

theorem accept_clock (h : t.lastRosNowNs ≤ rosNowNs) :
    (t.accept stampNs rosNowNs receivedAt maxAge futureTolerance requireStamp).2.lastRosNowNs ≤
      rosNowNs := by
  unfold accept
  rw [observed_of_le h]
  dsimp only
  split_ifs
  · exact h
  all_goals exact le_rfl

variable (receivedAt futureTolerance requireStamp) in
/-- A stamp that is stale, or no newer than the last one, is refused. -/
theorem accept_refused (h : t.lastRosNowNs ≤ rosNowNs) (hne : stampNs ≠ 0)
    (hold : maxAge ≤ rosNowNs - stampNs ∨ stampNs ≤ t.lastStampNs) :
    ∃ text tracker, t.accept stampNs rosNowNs receivedAt maxAge futureTolerance requireStamp =
      (.error text, tracker) ∧ tracker.lastStampNs = t.lastStampNs ∧ tracker.lastRosNowNs ≤ rosNowNs := by
  unfold accept
  rw [observed_of_le h]
  dsimp only
  split
  · exact ⟨_, _, rfl, rfl, h⟩
  · split
    · exact ⟨_, _, rfl, rfl, le_rfl⟩
    · rename_i hage
      simp only [Bool.or_eq_true, decide_eq_true_eq, not_or, not_le] at hage
      rw [if_pos (hold.resolve_left (not_le.2 hage.1))]
      exact ⟨_, _, rfl, rfl, le_rfl⟩

/-- `accept` without the caller's variables. -/
theorem take_accept (input : Input) :
    (t.take input).2 = (t.accept input.stampNs input.rosNowNs input.receivedAt input.maxAge
      input.futureTolerance input.requireStamp).2 ∧
    ((t.take input).1.accepted = true ↔ ∃ freshAt, (t.accept input.stampNs input.rosNowNs
      input.receivedAt input.maxAge input.futureTolerance input.requireStamp).1 = .ok freshAt) := by
  unfold take
  rw [acceptInto_eq]
  rcases t.accept input.stampNs input.rosNowNs input.receivedAt input.maxAge input.futureTolerance
    input.requireStamp with ⟨_ | freshAt, tracker⟩ <;> simp

/-- The tracker remembers a stamp it has taken. -/
theorem accept_past {freshAt : SteadyTime} {tracker : InputTimestamp} (hne : stampNs ≠ 0)
    (h : t.accept stampNs rosNowNs receivedAt maxAge futureTolerance requireStamp =
      (.ok freshAt, tracker)) : Past stampNs rosNowNs tracker := by
  obtain ⟨htracker, haccepted⟩ := t.take_accept
    ⟨stampNs, rosNowNs, receivedAt, maxAge, futureTolerance, requireStamp, receivedAt, ""⟩
  have hpast := past_of_taken (haccepted.2 ⟨freshAt, congrArg Prod.fst h⟩) hne
  rwa [htracker, h] at hpast

/-- And goes on remembering it while the clock goes on. -/
theorem Past.accept {stamp clock : Int} (h : Past stamp clock t) (hclock : clock ≤ rosNowNs) :
    Past stamp rosNowNs
      (t.accept stampNs rosNowNs receivedAt maxAge futureTolerance requireStamp).2 := by
  let input : Input :=
    ⟨stampNs, rosNowNs, receivedAt, maxAge, futureTolerance, requireStamp, receivedAt, ""⟩
  obtain ⟨htracker, -⟩ := t.take_accept input
  have hpast := (@Past.take t input stamp clock h hclock).1
  rwa [htracker] at hpast

end InputTimestamp

namespace ControlNode

/-- The node with other trackers. -/
def withTrackers (self : ControlNode β) (trackers : StringMap InputTimestamp) : ControlNode β :=
  { self with servoTimestamps := trackers }

/-- The target is dropped before the tracker sees it. -/
def gated (config : ServoInputConfig) (self : ControlNode β) (input : ServoInput) : Bool :=
  (!self.sourcePermitted config input || input.generation ≠ self.permitGeneration ||
    (self.publicMapping && decide (sourceStampNs input.stamp ≤ self.permitCutoffNs))) ||
  (self.publicMapping && !self.unreserved input.channel.group (sourceStampNs input.stamp))

/-- What the tracker of the endpoint answers. -/
def judged (config : ServoInputConfig) (trackers : StringMap InputTimestamp) (input : ServoInput) :
    Except String SteadyTime × InputTimestamp :=
  (trackers.getD (policyId input.channel input.channel.group) {}).accept (sourceStampNs input.stamp)
    input.rosNowNs input.receivedAt (servoMaxAge config)
    (durationCast config.inputStampFutureToleranceS) false

variable (config) in
theorem getD_judged (trackers : StringMap InputTimestamp) (input : ServoInput) (name : String) :
    (trackers.insert (policyId input.channel input.channel.group) (judged config trackers input).2).getD
        name {} =
      if policyId input.channel input.channel.group = name then (judged config trackers input).2
      else trackers.getD name {} := by
  simp [Std.TreeMap.getD_insert]

def queuedBy (self : ControlNode β) (input : ServoInput) (trackers : StringMap InputTimestamp) :
    Except String SteadyTime → Bool × ControlNode β
  | .error _ => (false, self.withTrackers trackers)
  | .ok freshAt => (true, { self.withTrackers trackers with
      latestServos := self.latestServos.insert (policyId input.channel input.channel.group)
        ⟨servoRequest input.channel input.limits input.target, freshAt, input.generation⟩ })

/-- `queueServo` for any trackers: the rest of the node decides whether they are asked. -/
theorem queueServo_eq (self : ControlNode β) (trackers : StringMap InputTimestamp) (input : ServoInput) :
    (self.withTrackers trackers).queueServo config input =
      if self.gated config input then (false, self.withTrackers trackers)
      else self.queuedBy input (trackers.insert (policyId input.channel input.channel.group)
        (judged config trackers input).2) (judged config trackers input).1 := by
  have hgated : self.gated config input =
      ((!(self.withTrackers trackers).sourcePermitted config input ||
        input.generation ≠ (self.withTrackers trackers).permitGeneration ||
        ((self.withTrackers trackers).publicMapping &&
          decide (sourceStampNs input.stamp ≤ (self.withTrackers trackers).permitCutoffNs))) ||
      ((self.withTrackers trackers).publicMapping &&
        !(self.withTrackers trackers).unreserved input.channel.group (sourceStampNs input.stamp))) := rfl
  rw [hgated]
  unfold queueServo
  simp only
  split
  · rename_i hfirst
    rw [if_pos (by rw [hfirst]; rfl)]
  · rename_i hfirst
    rw [Bool.not_eq_true] at hfirst
    rw [hfirst, Bool.false_or]
    split
    · rfl
    · rcases hjudged : judged config trackers input with ⟨answer, tracker⟩
      unfold judged at hjudged
      simp only [withTrackers, hjudged]
      cases answer <;> rfl

theorem occupied_withTrackers (self : ControlNode β) (trackers : StringMap InputTimestamp)
    (model : JointGroupModel) : (self.withTrackers trackers).occupied model = self.occupied model := rfl

theorem groups_withTrackers (self : ControlNode β) (trackers : StringMap InputTimestamp) :
    (self.withTrackers trackers).groups = self.groups := rfl

/-- Only `queueServo` reads the trackers. -/
theorem discardServo_withTrackers (self : ControlNode β) (trackers : StringMap InputTimestamp)
    (channel : ChannelConfig) :
    (self.withTrackers trackers).discardServo B channel =
      (self.discardServo B channel).withTrackers trackers := by
  unfold discardServo
  rw [groups_withTrackers]
  split
  · rfl
  · cases self.groups[channel.group]? with
    | none => rfl
    | some other =>
      have hsame := self.occupied_withTrackers trackers other
      by_cases hoccupied : self.occupied other = true
      · simp only [if_pos hoccupied, if_pos (hsame.trans hoccupied)]
        rfl
      · simp only [if_neg hoccupied, if_neg (hsame.trans_ne hoccupied)]

theorem foldl_discardServo_withTrackers (channels : List ChannelConfig) (self : ControlNode β)
    (trackers : StringMap InputTimestamp) :
    channels.foldl (discardServo B) (self.withTrackers trackers) =
      (channels.foldl (discardServo B) self).withTrackers trackers := by
  induction channels generalizing self with
  | nil => rfl
  | cons channel channels ih =>
    rw [List.foldl_cons, List.foldl_cons, discardServo_withTrackers, ih]

theorem reserveMove_withTrackers (self : ControlNode β) (trackers : StringMap InputTimestamp)
    (groupName owner : String) :
    (self.withTrackers trackers).reserveMove B groupName owner =
      ((self.reserveMove B groupName owner).1,
        (self.reserveMove B groupName owner).2.withTrackers trackers) := by
  cases hmapping : self.publicMapping with
  | false => simp [reserveMove, withTrackers, hmapping]
  | true =>
    unfold reserveMove
    rw [groups_withTrackers, if_neg (by simp [withTrackers, hmapping]), if_neg (by simp [hmapping])]
    cases self.groups[groupName]? with
    | none => rfl
    | some model =>
      have hsame := self.occupied_withTrackers trackers model
      by_cases hoccupied : self.occupied model = true
      · simp only [if_pos hoccupied, if_pos (hsame.trans hoccupied)]
      · simp only [if_neg hoccupied, if_neg (hsame.trans_ne hoccupied)]
        exact congrArg (Prod.mk true) (foldl_discardServo_withTrackers self.channels
          (self.reserved model owner) trackers)

end ControlNode

/-! ## Nodes that differ in the clock of one tracker -/

/-- The threads around the node with other trackers. -/
def ServoThreads.withTrackers (w : ServoThreads β) (trackers : StringMap InputTimestamp) :
    ServoThreads β := { w with node := w.node.withTrackers trackers }

/-- The clock of a message for the endpoint. -/
def ServoEvent.queueClock (endpoint : String) : ServoEvent → Option Int
  | .queue input =>
    if policyId input.channel input.channel.group = endpoint then some input.rosNowNs else none
  | _ => none

/-- The clocks of the messages for the endpoint, in order. -/
def clocks (endpoint : String) (events : List ServoEvent) : List Int :=
  events.filterMap (·.queueClock endpoint)

namespace ServoThreads

variable (B lib config) in
/-- Every step but a message keeps the trackers and works with any. -/
theorem step_withTrackers (w : ServoThreads β) (trackers : StringMap InputTimestamp)
    (event : ServoEvent) (hevent : ∀ input, event ≠ .queue input) :
    (w.withTrackers trackers).step B lib config event =
      ((w.step B lib config event).1, (w.step B lib config event).2.withTrackers trackers) := by
  obtain ⟨node, control, stamps⟩ := w
  cases event with
  | queue input => exact absurd rfl (hevent input)
  | drain => cases control <;> rfl
  | apply now =>
    cases control with
    | idle => rfl
    | applying rest => cases rest <;> rfl
  | tick feedback now =>
    cases control with
    | idle => rfl
    | applying rest => cases rest <;> rfl
  | reserve groupName owner =>
    simp only [step, withTrackers, ControlNode.reserveMove_withTrackers]
  | release owner rosNowNs => rfl
  | submitMove endpoint request now generation => rfl
  | call op =>
    simp only [step]
    split
    · rfl
    · rfl

theorem calls_withTrackers (w : ServoThreads β) (trackers : StringMap InputTimestamp)
    (event : ServoEvent) : (w.withTrackers trackers).calls event = w.calls event := by
  cases event <;> rfl

theorem servoTimestamps_withTrackers (w : ServoThreads β) (trackers : StringMap InputTimestamp) :
    (w.withTrackers trackers).node.servoTimestamps = trackers := rfl

theorem step_withTrackers_self (w : ServoThreads β) : w.withTrackers w.node.servoTimestamps = w := rfl

variable (B lib config) in
theorem step_trackers (w : ServoThreads β) (event : ServoEvent)
    (hevent : ∀ input, event ≠ .queue input) :
    (w.step B lib config event).2.node.servoTimestamps = w.node.servoTimestamps := by
  have hstep := w.step_withTrackers B lib config w.node.servoTimestamps
    event hevent
  rw [step_withTrackers_self] at hstep
  exact congrArg (fun r => r.2.node.servoTimestamps) hstep

/-- The threads `w'` differ from `w` in the clock that the tracker of the endpoint has seen, and the
clock is no less than either. -/
structure Unmoved (endpoint : String) (clock : Int) (w w' : ServoThreads β) : Prop where
  others : w' = w.withTrackers w'.node.servoTimestamps
  elsewhere : ∀ name, name ≠ endpoint →
    w'.node.servoTimestamps.getD name {} = w.node.servoTimestamps.getD name {}
  stamp : (w'.node.servoTimestamps.getD endpoint {}).lastStampNs =
    (w.node.servoTimestamps.getD endpoint {}).lastStampNs
  seen : (w.node.servoTimestamps.getD endpoint {}).lastRosNowNs ≤ clock
  seen' : (w'.node.servoTimestamps.getD endpoint {}).lastRosNowNs ≤ clock

variable {endpoint : String} {clock : Int} {w w' : ServoThreads β}

theorem Unmoved.calls (h : Unmoved endpoint clock w w') (event : ServoEvent) :
    w'.calls event = w.calls event := by
  rw [h.others, calls_withTrackers]

variable (config) in
theorem Unmoved.judged (h : Unmoved endpoint clock w w') {input : ServoInput}
    (hclock : policyId input.channel input.channel.group = endpoint → clock ≤ input.rosNowNs) :
    (ControlNode.judged config w'.node.servoTimestamps input).1 =
        (ControlNode.judged config w.node.servoTimestamps input).1 ∧
      (ControlNode.judged config w'.node.servoTimestamps input).2.lastStampNs =
        (ControlNode.judged config w.node.servoTimestamps input).2.lastStampNs ∧
      (policyId input.channel input.channel.group ≠ endpoint →
        (ControlNode.judged config w'.node.servoTimestamps input).2 =
          (ControlNode.judged config w.node.servoTimestamps input).2) := by
  unfold ControlNode.judged
  by_cases hname : policyId input.channel input.channel.group = endpoint
  · have hle := hclock hname
    rw [hname]
    obtain ⟨hanswer, hstamp⟩ := InputTimestamp.accept_agree h.stamp (h.seen.trans hle) (h.seen'.trans hle)
    exact ⟨hanswer, hstamp, fun hne => absurd rfl hne⟩
  · rw [h.elsewhere _ hname]
    exact ⟨rfl, rfl, fun _ => rfl⟩

theorem Unmoved.mono {clock' : Int} (h : Unmoved endpoint clock w w') (hle : clock ≤ clock') :
    Unmoved endpoint clock' w w' :=
  { h with seen := h.seen.trans hle, seen' := h.seen'.trans hle }

/-- The threads with what `queueServo` leaves. -/
def put (w : ServoThreads β) (input : ServoInput) (queued : Bool × ControlNode β) :
    Bool × ServoThreads β :=
  (queued.1, { w with
    node := queued.2
    stamps := if queued.1 then
        w.stamps.insert (policyId input.channel input.channel.group) (sourceStampNs input.stamp)
      else w.stamps })

theorem put_queuedBy (w : ServoThreads β) (input : ServoInput)
    (trackers : StringMap InputTimestamp) (answer : Except String SteadyTime) :
    w.put input (w.node.queuedBy input trackers answer) =
      ((w.put input (w.node.queuedBy input w.node.servoTimestamps answer)).1,
        (w.put input (w.node.queuedBy input w.node.servoTimestamps answer)).2.withTrackers trackers) := by
  cases answer <;> rfl

variable (B lib config) in
theorem step_queue (w : ServoThreads β) (trackers : StringMap InputTimestamp) (input : ServoInput) :
    (w.withTrackers trackers).step B lib config (.queue input) =
      if (input.channel ∈ w.node.channels ∧ isServo input.channel.kind = true) ∧
          w.node.gated config input = false then
        w.put input (w.node.queuedBy input
          (trackers.insert (policyId input.channel input.channel.group)
            (ControlNode.judged config trackers input).2) (ControlNode.judged config trackers input).1)
      else (false, w.withTrackers trackers) := by
  have hstep : (w.withTrackers trackers).step B lib config (.queue input) =
      if input.channel ∈ w.node.channels ∧ isServo input.channel.kind then
        w.put input ((w.node.withTrackers trackers).queueServo config input)
      else (false, w.withTrackers trackers) := rfl
  rw [hstep, ControlNode.queueServo_eq]
  by_cases hchannel : input.channel ∈ w.node.channels ∧ isServo input.channel.kind = true
  · rw [if_pos hchannel]
    cases hgated : w.node.gated config input with
    | true =>
      rw [if_pos rfl, if_neg (by simp)]
      rfl
    | false => rw [if_neg Bool.false_ne_true, if_pos ⟨hchannel, rfl⟩]
  · rw [if_neg hchannel, if_neg fun h => hchannel h.1]

/-- A step keeps the difference out of what it does, while the clock of the endpoint goes on. -/
theorem Unmoved.step (h : Unmoved endpoint clock w w') (event : ServoEvent)
    (hclock : ∀ c ∈ event.queueClock endpoint, clock ≤ c) :
    Unmoved endpoint ((event.queueClock endpoint).getD clock) (w.step B lib config event).2
      (w'.step B lib config event).2 := by
  by_cases hevent : ∃ input, event = .queue input
  · obtain ⟨input, rfl⟩ := hevent
    have hname : policyId input.channel input.channel.group = endpoint →
        (ServoEvent.queue input).queueClock endpoint = some input.rosNowNs := fun hname => if_pos hname
    have hle : clock ≤ ((ServoEvent.queue input).queueClock endpoint).getD clock := by
      cases hqueue : (ServoEvent.queue input).queueClock endpoint with
      | none => exact le_rfl
      | some c => exact hclock c hqueue
    obtain ⟨hanswer, hstamp, hsame⟩ := h.judged config fun heq => hclock _ (hname heq)
    have hseen {v : ServoThreads β} {trackers : StringMap InputTimestamp}
        (hle' : (trackers.getD endpoint {}).lastRosNowNs ≤ clock) :
        ((v.withTrackers (trackers.insert (policyId input.channel input.channel.group)
          (ControlNode.judged config trackers input).2)).node.servoTimestamps.getD endpoint {}).lastRosNowNs ≤
            ((ServoEvent.queue input).queueClock endpoint).getD clock := by
      rw [servoTimestamps_withTrackers, ControlNode.getD_judged config]
      split
      · rename_i heq
        have hgoes := hclock _ (hname heq)
        rw [hname heq, ControlNode.judged, heq]
        exact InputTimestamp.accept_clock (hle'.trans hgoes)
      · exact hle'.trans hle
    have hw := w.step_queue B lib config w.node.servoTimestamps input
    have hw' := w.step_queue B lib config w'.node.servoTimestamps input
    rw [← h.others] at hw'
    rw [step_withTrackers_self] at hw
    rw [hw, hw']
    split
    · rw [hanswer, put_queuedBy, w.put_queuedBy input (w'.node.servoTimestamps.insert _ _)]
      generalize (ControlNode.judged config w.node.servoTimestamps input).1 = answer
      generalize (w.put input (w.node.queuedBy input w.node.servoTimestamps answer)).2 = v
      refine ⟨rfl, fun name hne => ?_, ?_, ?_, ?_⟩
      · simp only [servoTimestamps_withTrackers, ControlNode.getD_judged config]
        split
        · rename_i heq
          exact hsame fun h => hne (heq.symm.trans h)
        · exact h.elsewhere name hne
      · simp only [servoTimestamps_withTrackers, ControlNode.getD_judged config]
        split
        · exact hstamp
        · exact h.stamp
      · exact hseen h.seen
      · exact hseen h.seen'
    · exact h.mono hle
  · have hkept := fun input heq => hevent ⟨input, heq⟩
    have hnone : event.queueClock endpoint = none := by
      cases event with
      | queue input => exact absurd rfl (hkept input)
      | _ => rfl
    rw [hnone, h.others, step_withTrackers B lib config w _ event hkept]
    have htrackers := w.step_trackers B lib config event hkept
    exact ⟨rfl, fun name hne => htrackers ▸ h.elsewhere name hne, htrackers ▸ h.stamp, htrackers ▸ h.seen, h.seen'⟩

end ServoThreads

section
variable {endpoint : String} {clock : Int} {w w' : ServoThreads β}

theorem clocks_append (events more : List ServoEvent) :
    clocks endpoint (events ++ more) = clocks endpoint events ++ clocks endpoint more :=
  List.filterMap_append

/-- The clock of the endpoint goes on over an event and the events after it. -/
theorem clocks_cons {event : ServoEvent} {events : List ServoEvent}
    (h : (clock :: clocks endpoint (event :: events)).Pairwise (· ≤ ·)) :
    (∀ c ∈ event.queueClock endpoint, clock ≤ c) ∧
      ((event.queueClock endpoint).getD clock :: clocks endpoint events).Pairwise (· ≤ ·) := by
  unfold clocks at h
  cases hclock : event.queueClock endpoint with
  | none =>
    rw [List.filterMap_cons_none hclock] at h
    exact ⟨fun c hc => absurd hc (by simp), h⟩
  | some c =>
    rw [List.filterMap_cons_some hclock] at h
    obtain ⟨hle, hrest⟩ := List.pairwise_cons.1 h
    refine ⟨fun c' hc' => ?_, hrest⟩
    obtain rfl := Option.some.inj hc'
    exact hle c List.mem_cons_self

namespace ServoThreads

/-- Until the clock of the endpoint goes back, the difference makes none to the pipeline. -/
theorem Unmoved.pipelineCalls (h : Unmoved endpoint clock w w') {events : List ServoEvent}
    (hclocks : (clock :: clocks endpoint events).Pairwise (· ≤ ·)) :
    pipelineCalls B lib config w' events = pipelineCalls B lib config w events := by
  induction events generalizing w w' clock with
  | nil => rfl
  | cons event events ih =>
    obtain ⟨hle, hrest⟩ := clocks_cons hclocks
    unfold HumanoidMotion.pipelineCalls
    rw [h.calls, ih (h.step event hle) hrest]

/-- The tracker of the endpoint has seen the stamp, and no clock beyond `clock`. -/
def Noted (endpoint : String) (stamp clock : Int) (w : ServoThreads β) : Prop :=
  InputTimestamp.Past stamp clock (w.node.servoTimestamps.getD endpoint {})

/-- An accepted message is noted. -/
theorem noted_of_accepted {input : ServoInput} (hname : policyId input.channel input.channel.group = endpoint)
    (hne : sourceStampNs input.stamp ≠ 0)
    (haccepted : (w.step B lib config (.queue input)).1 = true) :
    Noted endpoint (sourceStampNs input.stamp) input.rosNowNs (w.step B lib config (.queue input)).2 := by
  have hstep := w.step_queue B lib config w.node.servoTimestamps input
  rw [step_withTrackers_self] at hstep
  rw [hstep] at haccepted ⊢
  split
  · rename_i htaken
    rw [if_pos htaken] at haccepted
    rw [put_queuedBy] at haccepted ⊢
    rw [Noted, servoTimestamps_withTrackers, ControlNode.getD_judged config, if_pos hname]
    cases hjudged : (ControlNode.judged config w.node.servoTimestamps input).1 with
    | error text =>
      rw [hjudged] at haccepted
      cases haccepted
    | ok freshAt => exact InputTimestamp.accept_past hne (Prod.ext hjudged rfl)
  · rename_i htaken
    rw [if_neg htaken] at haccepted
    cases haccepted

variable (B lib config) in
/-- A step leaves the tracker of an endpoint as it is, or it is a message for the endpoint. -/
theorem step_tracker (w : ServoThreads β) (endpoint : String) (event : ServoEvent) :
    (w.step B lib config event).2.node.servoTimestamps.getD endpoint {} =
        w.node.servoTimestamps.getD endpoint {} ∨
      ∃ input, event = .queue input ∧ policyId input.channel input.channel.group = endpoint ∧
        (w.step B lib config event).2.node.servoTimestamps.getD endpoint {} =
          (ControlNode.judged config w.node.servoTimestamps input).2 := by
  by_cases hevent : ∃ input, event = .queue input
  · obtain ⟨input, rfl⟩ := hevent
    have hstep := w.step_queue B lib config w.node.servoTimestamps input
    rw [step_withTrackers_self] at hstep
    rw [hstep]
    split
    · rw [put_queuedBy, servoTimestamps_withTrackers, ControlNode.getD_judged config]
      split
      · rename_i hname
        exact .inr ⟨input, rfl, hname, rfl⟩
      · exact .inl rfl
    · exact .inl rfl
  · rw [w.step_trackers B lib config event fun input heq => hevent ⟨input, heq⟩]
    exact .inl rfl

variable (B lib config) in
theorem Noted.step {stamp : Int} (h : Noted endpoint stamp clock w) (event : ServoEvent)
    (hclock : ∀ c ∈ event.queueClock endpoint, clock ≤ c) :
    Noted endpoint stamp ((event.queueClock endpoint).getD clock) (w.step B lib config event).2 := by
  rcases w.step_tracker B lib config endpoint event with
    hsame | ⟨input, rfl, hname, hnext⟩
  · refine ⟨hsame ▸ h.newest, hsame ▸ h.latest.trans ?_⟩
    cases hqueue : event.queueClock endpoint with
    | none => exact le_rfl
    | some c => exact hclock c hqueue
  · have hqueue : (ServoEvent.queue input).queueClock endpoint = some input.rosNowNs := if_pos hname
    rw [Noted, hnext, hqueue, ControlNode.judged, hname]
    exact InputTimestamp.Past.accept h (hclock _ hqueue)

variable (B lib config) in
theorem Noted.run {stamp : Int} (h : Noted endpoint stamp clock w) {events : List ServoEvent}
    (hclocks : (clock :: clocks endpoint events).Pairwise (· ≤ ·)) :
    ∃ last ∈ clock :: clocks endpoint events,
      Noted endpoint stamp last ((servoMachine B lib config).run w events) := by
  induction events generalizing w clock with
  | nil => exact ⟨clock, List.mem_cons_self, h⟩
  | cons event events ih =>
    obtain ⟨hle, hrest⟩ := clocks_cons hclocks
    obtain ⟨last, hlast, hnoted⟩ := ih (h.step B lib config event hle) hrest
    refine ⟨last, ?_, hnoted⟩
    unfold clocks at hlast ⊢
    cases hclock : event.queueClock endpoint with
    | none => rwa [hclock, Option.getD_none, ← List.filterMap_cons_none hclock] at hlast
    | some c =>
      rw [hclock, Option.getD_some] at hlast
      exact List.mem_cons_of_mem _ (by rwa [List.filterMap_cons_some hclock])

/-- A stamped message that is stale, or no newer than a noted one, is refused, and moves no more than
the clock of the tracker. -/
theorem refused_unmoved {input : ServoInput} (hname : policyId input.channel input.channel.group = endpoint)
    (hseen : (w.node.servoTimestamps.getD endpoint {}).lastRosNowNs ≤ input.rosNowNs)
    (hne : sourceStampNs input.stamp ≠ 0)
    (hold : ControlNode.servoMaxAge config ≤ input.rosNowNs - sourceStampNs input.stamp ∨
      sourceStampNs input.stamp ≤ (w.node.servoTimestamps.getD endpoint {}).lastStampNs) :
    (w.step B lib config (.queue input)).1 = false ∧
      Unmoved endpoint input.rosNowNs w (w.step B lib config (.queue input)).2 := by
  have hstep := w.step_queue B lib config w.node.servoTimestamps input
  rw [step_withTrackers_self] at hstep
  rw [hstep]
  split
  · obtain ⟨text, tracker, hrefused, hstamp, hlatest⟩ := InputTimestamp.accept_refused input.receivedAt
      (durationCast config.inputStampFutureToleranceS) false hseen hne hold
    have hjudged : ControlNode.judged config w.node.servoTimestamps input = (.error text, tracker) := by
      rw [ControlNode.judged, hname]
      exact hrefused
    have hget := ControlNode.getD_judged config w.node.servoTimestamps input
    rw [hjudged, hname] at hget
    rw [hjudged, hname]
    refine ⟨rfl, rfl, fun name hne => ?_, ?_, hseen, ?_⟩
    · exact (hget name).trans (if_neg fun heq => hne heq.symm)
    · exact (congrArg (·.lastStampNs) ((hget endpoint).trans (if_pos rfl))).trans hstamp
    · exact (congrArg (·.lastRosNowNs) ((hget endpoint).trans (if_pos rfl))).trans_le hlatest
  · exact ⟨rfl, rfl, fun _ _ => rfl, rfl, hseen, hseen⟩

end ServoThreads

end

/-! ## Messages that make no difference -/

/-- After `past`, and with no regression of the clock in between, the message is stale or no newer than
a stamped one that was accepted for its endpoint. -/
inductive Superseded (B : Platform β) (lib : MathLib) (config : ServoInputConfig) (w : ServoThreads β)
    (input : ServoInput) : List ServoEvent → Prop
  | stale (past : List ServoEvent)
      (hage : ControlNode.servoMaxAge config ≤ input.rosNowNs - sourceStampNs input.stamp)
      (hclock : (((servoMachine B lib config).run w past).node.servoTimestamps.getD
        (policyId input.channel input.channel.group) {}).lastRosNowNs ≤ input.rosNowNs) :
      Superseded B lib config w input past
  | older (before between : List ServoEvent) (first : ServoInput)
      (haccepted : (((servoMachine B lib config).run w before).step B lib config (.queue first)).1 = true)
      (hname : policyId first.channel first.channel.group = policyId input.channel input.channel.group)
      (hne : sourceStampNs first.stamp ≠ 0)
      (hstamp : sourceStampNs input.stamp ≤ sourceStampNs first.stamp)
      (hclocks : (first.rosNowNs :: clocks (policyId input.channel input.channel.group)
        (between ++ [.queue input])).Pairwise (· ≤ ·)) :
      Superseded B lib config w input (before ++ .queue first :: between)

/-- The second list of events is the first without a superseded message, and the clock of the endpoint
does not go back after it. -/
inductive Erases (B : Platform β) (lib : MathLib) (config : ServoInputConfig) (w : ServoThreads β) :
    List ServoEvent → List ServoEvent → Prop
  | message (past rest : List ServoEvent) (input : ServoInput) (hne : sourceStampNs input.stamp ≠ 0)
      (hold : Superseded B lib config w input past)
      (hclocks : (input.rosNowNs :: clocks (policyId input.channel input.channel.group) rest).Pairwise
        (· ≤ ·)) :
      Erases B lib config w (past ++ .queue input :: rest) (past ++ rest)

theorem Superseded.unmoved {w : ServoThreads β} {input : ServoInput} {past : List ServoEvent}
    (h : Superseded B lib config w input past) (hne : sourceStampNs input.stamp ≠ 0) :
    (((servoMachine B lib config).run w past).step B lib config (.queue input)).1 = false ∧
      ServoThreads.Unmoved (policyId input.channel input.channel.group) input.rosNowNs
        ((servoMachine B lib config).run w past)
        (((servoMachine B lib config).run w past).step B lib config (.queue input)).2 := by
  cases h with
  | stale _ hage hclock => exact ServoThreads.refused_unmoved rfl hclock hne (.inl hage)
  | older before between first haccepted hname hfirst hstamp hclocks =>
    rw [clocks_append, ← List.cons_append, List.pairwise_append] at hclocks
    obtain ⟨hsorted, -, hlater⟩ := hclocks
    have hnoted := ServoThreads.noted_of_accepted hname hfirst haccepted
    obtain ⟨last, hlast, hpast⟩ := hnoted.run B lib config hsorted
    have hrun : (servoMachine B lib config).run w (before ++ .queue first :: between) =
        (servoMachine B lib config).run (((servoMachine B lib config).run w before).step B lib config
          (.queue first)).2 between := by
      rw [Machine.run_append]
      rfl
    have hinput : input.rosNowNs ∈ clocks (policyId input.channel input.channel.group) [.queue input] := by
      simp [clocks, ServoEvent.queueClock]
    rw [hrun]
    exact ServoThreads.refused_unmoved rfl (hpast.latest.trans (hlater last hlast _ hinput)) hne
      (.inr (hstamp.trans hpast.newest))

/-- The pipeline is called as if the message had never come. -/
theorem Erases.pipelineCalls {w : ServoThreads β} {events fewer : List ServoEvent}
    (h : Erases B lib config w events fewer) :
    pipelineCalls B lib config w fewer = pipelineCalls B lib config w events := by
  cases h with
  | message past rest input hne hold hclocks =>
    rw [pipelineCalls_append, pipelineCalls_append]
    exact congrArg _ ((hold.unmoved hne).2.pipelineCalls hclocks).symm

/-! ## From the message to the sink -/

variable (B lib config) in
/-- The pipeline of the node over a run, with the calls that reach it. -/
def pipelineTrace (node : ControlNode (β × List Call)) (events : List ServoEvent) :
    List (PipelineStage (β × List Call)) :=
  (machine B.recorded lib).trace node.pipeline (pipelineCalls B.recorded lib config { node } events)

/-- What a run of the node hands out is in time by the stamps of its messages. -/
structure StaysFresh (B : Platform β) (lib : MathLib) (config : ServoInputConfig)
    (node : ControlNode (β × List Call)) (events : List ServoEvent) : Prop where
  /-- The pipeline is where its calls have led. -/
  run : ((servoMachine B.recorded lib config).run { node } events).node.pipeline =
    (machine B.recorded lib).run node.pipeline (pipelineCalls B.recorded lib config { node } events)
  /-- A command of a tick is handed out only if it was in time when its publication checked it. -/
  handed : ∀ (j : Nat) (gj gk : PipelineStage (β × List Call)) (feedback : JointFeedback)
      (now : SteadyTime) (pub : Publication), (pipelineTrace B lib config node events)[j]? = some gj →
    gk ∈ pipelineTrace B lib config node events → gj.input = .tick feedback now →
    pub.command ∈ gj.output.commands → pub ∈ gk.output.handed →
    InTime B ((pipelineTrace B lib config node events).take j) gj feedback now pub.command pub.checkedAt
  /-- A target reaches the pipeline with the fresh time that the tracker gave to its message. -/
  sources : ∀ (before after : List ServoEvent) (event : ServoEvent) (endpoint : String)
      (request : SessionRequest) (freshAt now : SteadyTime) (generation : Nat),
    events = before ++ event :: after →
    .updateServo endpoint request freshAt now generation ∈
      ((servoMachine B.recorded lib config).run { node } before).calls event →
    ∃ g ∈ (servoMachine B.recorded lib config).trace { node } before, ∃ input,
      FromInput config endpoint ⟨request, freshAt, generation⟩ input g
  /-- Without any number of superseded messages, the pipeline is called the same. -/
  superseded : ∀ fewer, Relation.ReflTransGen (Erases B.recorded lib config { node }) events fewer →
    pipelineCalls B.recorded lib config { node } fewer =
      pipelineCalls B.recorded lib config { node } events

/-- The control thread applies what it has drained. -/
theorem drained_of_calls {w : ServoThreads β} {event : ServoEvent} {endpoint : String}
    {request : SessionRequest} {freshAt now : SteadyTime} {generation : Nat}
    (h : .updateServo endpoint request freshAt now generation ∈ w.calls event) :
    ∃ target ∈ w.control.drained, target.endpoint = endpoint ∧
      target.input = ⟨request, freshAt, generation⟩ := by
  obtain ⟨node, control, stamps⟩ := w
  cases event with
  | apply now' =>
    cases control with
    | idle => cases h
    | applying rest =>
      cases rest with
      | nil => cases h
      | cons target rest =>
        obtain ⟨rfl, rfl, rfl, rfl, rfl⟩ := Op.updateServo.inj (List.mem_singleton.1 h)
        exact ⟨target, List.mem_cons_self, rfl, rfl⟩
  | tick feedback now' =>
    cases control with
    | idle => cases h
    | applying rest => cases rest <;> simp [ServoThreads.calls] at h
  | reserve groupName owner =>
    simp only [ServoThreads.calls, ControlNode.reserveCalls, ControlNode.discardCalls] at h
    split at h
    · cases h
    · split at h
      · cases h
      · split at h
        · cases h
        · simp at h
  | call op =>
    simp only [ServoThreads.calls] at h
    split at h
    · rename_i hother
      obtain rfl := List.mem_singleton.1 h
      cases hother
    · cases h
  | submitMove endpoint' request' now' generation' => simp [ServoThreads.calls] at h
  | queue | drain | release => cases h

/-- Commands are handed out when they were fresh at their check, and a target that is replayed, older or
stale does not make them so for longer. -/
theorem end_to_end_freshness (B : Platform β) (lib : MathLib) (config : ServoInputConfig) (e : β)
    (groups : List JointGroupModel) (pipelineConfig : CommandPipelineConfig)
    (node : ControlNode (β × List Call))
    (hnode : node.pipeline = CommandPipeline.create (e, []) groups pipelineConfig)
    (hslots : node.latestServos = ∅) (events : List ServoEvent)
    (hfree : MoveIdsFree (pipelineCalls B.recorded lib config { node } events)) :
    StaysFresh B lib config node events := by
  constructor
  · exact run_pipeline { node } events
  · intro j gj gk feedback now pub hj hk htick hreturned hhanded
    unfold pipelineTrace at hj hk ⊢
    rw [hnode] at hj hk ⊢
    exact handed_in_time B lib e groups pipelineConfig hfree hj hk htick hreturned hhanded
  · intro before after event endpoint request freshAt now generation _ hcall
    obtain ⟨target, htarget, rfl, hinput⟩ := drained_of_calls hcall
    have hstart : FromInputs config [] ({ node } : ServoThreads (β × List Call)) :=
      ⟨fun endpoint target h => by simp [hslots] at h, by simp [ServoControl.drained]⟩
    have hrun := Machine.history_invariant (M := servoMachine B.recorded lib config)
      (H := FromInputs config) (fun past w event h => h.step event) hstart before
    rw [List.nil_append] at hrun
    exact hinput ▸ hrun.drained target htarget
  · intro fewer herases
    induction herases with
    | refl => rfl
    | tail _ herase ih => exact herase.pipelineCalls.trans ih

namespace Fixture

/-- A node with one servo channel, of the left arm, over a recording SDK. -/
def recordedNode : ControlNode (FakeSdk × List Call) :=
  .mapped ({}, []) allGroups {} modelOf [servoChannel]

/-- A target that comes twice, before a tick and the publication of its command. -/
def replayed : List ServoEvent :=
  [registerServo, servoTarget 1000, .drain, .apply 0, servoTarget 1000, .tick (feedback 0) 0,
    servoTarget 1000, .drain]

end Fixture

open Fixture in
theorem end_to_end_freshness_replayed :
    StaysFresh FakeSdk.platform.toPlatform mathLib servoInputs recordedNode replayed :=
  end_to_end_freshness FakeSdk.platform.toPlatform mathLib servoInputs {} allGroups {} recordedNode rfl
    rfl replayed (by decide +kernel)

/-- At `time` the lease of the target last accepted for the endpoint before stage `g` is over. -/
def LeaseRanOut (past : List (PipelineStage β)) (g : PipelineStage β) (endpoint : String)
    (time : SteadyTime) : Prop :=
  ∃ policy freshAt, g.before.endpoints[endpoint]? = some policy ∧
    lastWith (fun _ receivedAt => receivedAt) endpoint past = some freshAt ∧
    freshAt + policy.servoLease ≤ time

namespace Fixture

/-- The clock advances a millisecond at each reading. -/
def steppingClock : Platform FakeSdk :=
  { FakeSdk.platform.toPlatform with
    steadyNow := fun e => (e.clock, { e with clock := e.clock + milliseconds 1 }) }

/-- A tick commands a servo of the left arm and a Move of the right arm, and both commands are published
in one batch, two readings of the clock before the lease of the target is over. -/
def batched : List ServoEvent :=
  [registerServo, .call (endpoint "mr" .moveJ "right" 10), servoTarget 1000, .drain, .apply 0,
    .submitMove "mr" (.moveJ ⟨"n", "right", target rightJoints (1 / 10), {}⟩) 0 0,
    .tick (feedback 50) (milliseconds 50),
    .call (.publishCommands [command (servoId "sv@left") "left" leftJoints 100 1,
      command "n" "right" rightJoints 150 2] (milliseconds 98))]

/-- A Move, of an endpoint whose lease is a second, stands under the id of the servo. -/
def longLease : List ServoEvent :=
  [registerServo, .call (.registerEndpoint ⟨"ml", .moveJ, "left", 10, milliseconds 1000⟩),
    .submitMove "ml" (.moveJ ⟨servoId "sv@left", "left", target leftJoints (1 / 10), {}⟩) 0 0,
    servoTarget 1000, .drain, .apply 0, .tick (feedback 90) (milliseconds 90),
    .call (.publishCommand (command (servoId "sv@left") "left" leftJoints 190 1) (milliseconds 150))]

def batchedTrace : List (PipelineStage (FakeSdk × List Call)) :=
  pipelineTrace steppingClock mathLib servoInputs recordedNode batched

def longLeaseTrace : List (PipelineStage (FakeSdk × List Call)) :=
  pipelineTrace FakeSdk.platform.toPlatform mathLib servoInputs recordedNode longLease

end Fixture

open Fixture in
/-- The sink gets a batch after its last check, when the lease of the first command is over. And the
command of a session that a target has taken over from a Move has the lease of the Move's endpoint. -/
theorem batch_reaches_sink_late :
    (∃ gj gk early late, batchedTrace[4]? = some gj ∧ batchedTrace[5]? = some gk ∧
      gk.output.handed = [early, late] ∧ early.command ∈ gj.output.commands ∧
      early.command.sessionId = servoId "sv@left" ∧
      LeaseRanOut (batchedTrace.take 4) gj "sv@left" late.checkedAt) ∧
    ∃ gj gk pub, longLeaseTrace[4]? = some gj ∧ longLeaseTrace[5]? = some gk ∧
      gk.output.handed = [pub] ∧ pub.command ∈ gj.output.commands ∧
      pub.command.sessionId = servoId "sv@left" ∧
      LeaseRanOut (longLeaseTrace.take 4) gj "sv@left" pub.checkedAt := by
  constructor
  · have hhanded : (batchedTrace[5]?).map (·.output.handed) =
        some [⟨command (servoId "sv@left") "left" leftJoints 100 1, milliseconds 99⟩,
          ⟨command "n" "right" rightJoints 150 2, milliseconds 100⟩] := by decide +kernel
    have htick : (batchedTrace[4]?).map (fun g => (g.output.commands, g.before.endpoints["sv@left"]?)) =
        some ([command (servoId "sv@left") "left" leftJoints 100 1,
          command "n" "right" rightJoints 150 2],
          some ⟨"sv@left", .servoJ, "left", 20, milliseconds 100⟩) := by decide +kernel
    obtain ⟨gk, hgk, hpubs⟩ := Option.map_eq_some_iff.1 hhanded
    obtain ⟨gj, hgj, hboth⟩ := Option.map_eq_some_iff.1 htick
    obtain ⟨hcommands, hpolicy⟩ := Prod.mk.inj hboth
    refine ⟨gj, gk, _, _, hgj, hgk, hpubs, ?_, rfl, _, 0, hpolicy, ?_, ?_⟩
    · rw [hcommands]
      exact List.mem_cons_self
    · decide +kernel
    · decide
  · have hhanded : (longLeaseTrace[5]?).map (·.output.handed) =
        some [⟨command (servoId "sv@left") "left" leftJoints 190 1, milliseconds 150⟩] := by
      decide +kernel
    have htick : (longLeaseTrace[4]?).map
        (fun g => (g.output.commands, g.before.endpoints["sv@left"]?)) =
        some ([command (servoId "sv@left") "left" leftJoints 190 1],
          some ⟨"sv@left", .servoJ, "left", 20, milliseconds 100⟩) := by decide +kernel
    obtain ⟨gk, hgk, hpubs⟩ := Option.map_eq_some_iff.1 hhanded
    obtain ⟨gj, hgj, hboth⟩ := Option.map_eq_some_iff.1 htick
    obtain ⟨hcommands, hpolicy⟩ := Prod.mk.inj hboth
    refine ⟨gj, gk, _, hgj, hgk, hpubs, ?_, rfl, _, 0, hpolicy, ?_, ?_⟩
    · rw [hcommands]
      exact List.mem_cons_self
    · decide +kernel
    · decide

end HumanoidMotion
