import HumanoidMotion.Node.Handshake
import HumanoidMotion.Node.ServoInputs
/-
# Joints reserved for a Move

A Move task reserves the joints of its group before it plans. The reservation
takes away the queued targets and the servo sessions that share a joint, and
none are queued until the release, nor any that was stamped before it. The
control thread, though, may hold targets that it has drained and not applied.

| here | there |
| --- | --- |
| `reserveMove`, `discardServo` | `reserve_move` (`:1013`) and its loop over the channels |
| `releaseMove`                 | `release_move` (`:1040`) |
| `ServoControl`                | where `control_tick` (`:1603`) stands among its locked steps |

* `ServoThreads`, `servoMachine` — the interleavings of callbacks, control
  thread and Move tasks.
* `Excluding` — targets and servo sessions keep off the reserved joints.
* `unopposed` — no drained target is overtaken by a reservation.
* `reservation_excludes` — the reservation holds, over every run of such steps.
* `drained_target_outlives_reservation` — and not where one is overtaken.
-/

namespace HumanoidMotion

variable {β : Type} {B : Platform β} {lib : MathLib}

/-- The groups have a joint in common. -/
def JointGroupModel.shares (a b : JointGroupModel) : Bool := a.jointNames.any b.jointNames.contains

namespace ControlNode

variable (B)

/-- Some joint of the group is reserved. -/
def occupied (self : ControlNode β) (model : JointGroupModel) : Bool :=
  model.jointNames.any self.moveOwners.contains

/-- One turn of the loop over the channels (`:1025`). -/
def discardServo (self : ControlNode β) (channel : ChannelConfig) : ControlNode β :=
  if !isServo channel.kind then self
  else match self.groups[channel.group]? with
    | none => self
    | some other =>
      if self.occupied other then
        let endpoint := policyId channel channel.group
        { self with
          latestServos := self.latestServos.erase endpoint
          pipeline := (self.pipeline.cancel B ("servo:" ++ endpoint)).2 }
      else self

def reserveMove (self : ControlNode β) (groupName owner : String) : Bool × ControlNode β :=
  if !self.publicMapping then (true, self)
  else match self.groups[groupName]? with
    | none => (false, self)
    | some model =>
      if self.occupied model then (false, self)
      else
        let node := { self with
          moveOwners := model.jointNames.foldl (fun owners joint => owners.insert joint owner)
            self.moveOwners }
        (true, node.channels.foldl (discardServo B) node)

/-- `rosNowNs` is the ROS clock as the loop reads it, once for each joint. -/
def releaseMove (self : ControlNode β) (owner : String) (rosNowNs : String → Int) :
    ControlNode β :=
  { self with
    servoCutoffs := (self.moveOwners.toList.filter (·.2 == owner)).foldl
      (fun cutoffs entry => cutoffs.insert entry.1 (rosNowNs entry.1)) self.servoCutoffs
    moveOwners := self.moveOwners.filter fun _ other => other != owner }

end ControlNode

/-! ## The threads -/

/-- A target out of its slot. `stamp` is the stamp of its message, which the program forgets. -/
structure DrainedServo where
  endpoint : String
  input : PendingServo
  stamp : Int

/-- The control thread in `control_tick`. -/
inductive ServoControl where
  | idle
  /-- The slots are drained; the rest is yet to be applied, and `tick` comes after it. -/
  | applying (rest : List DrainedServo)

structure ServoThreads (β : Type) where
  node : ControlNode β
  control : ServoControl := .idle
  /-- The stamp of the target in each slot, which the program forgets. -/
  stamps : StringMap Int := ∅

inductive ServoEvent where
  | queue (input : ServoInput)
  | drain
  | apply (now : SteadyTime)
  | tick (feedback : JointFeedback) (now : SteadyTime)
  | reserve (groupName owner : String)
  | release (owner : String) (rosNowNs : String → Int)
  | submitMove (endpoint : String) (request : SessionRequest) (now : SteadyTime) (generation : Nat)
  /-- Any other call of the pipeline. -/
  | call (op : Op)

/-- The calls of the pipeline that are not steps of their own here. -/
def Op.isOther : Op → Bool
  | .submitMove .. | .updateServo .. | .tick .. => false
  | _ => true

/-- The targets the control thread holds. -/
def ServoControl.drained : ServoControl → List DrainedServo
  | .idle => []
  | .applying rest => rest

namespace ServoThreads

variable (B lib)

def exec (w : ServoThreads β) (op : Op) : Bool × ServoThreads β :=
  let r := HumanoidMotion.exec B lib w.node.pipeline op
  (r.1.accepted, { w with node := { w.node with pipeline := r.2 } })

/-- Whether the step did what it is for, and the threads after it. Steps wait for their turn: the
control thread drains, applies and ticks in this order. -/
def step (config : ServoInputConfig) (w : ServoThreads β) : ServoEvent → Bool × ServoThreads β
  | .queue input =>
    -- a callback belongs to a servo channel of the configuration
    if input.channel ∈ w.node.channels ∧ isServo input.channel.kind then
      let queued := w.node.queueServo config input
      (queued.1, { w with
        node := queued.2
        stamps := if queued.1 then
            w.stamps.insert (policyId input.channel input.channel.group) (sourceStampNs input.stamp)
          else w.stamps })
    else (false, w)
  | .drain =>
    match w.control with
    | .idle =>
      let drained := w.node.drainServos
      (true, { w with
        node := drained.2
        control := .applying (drained.1.map fun entry =>
          ⟨entry.1, entry.2, w.stamps.getD entry.1 0⟩) })
    | .applying _ => (false, w)
  | .apply now =>
    match w.control with
    | .applying (target :: rest) =>
      let applied := w.node.applyServo B target.endpoint target.input now
      (applied.1.status.ok, { w with node := applied.2, control := .applying rest })
    | _ => (false, w)
  | .tick feedback now =>
    match w.control with
    | .applying [] => { w with control := .idle }.exec B lib (.tick feedback now)
    | _ => (false, w)
  | .reserve groupName owner =>
    let reserved := w.node.reserveMove B groupName owner
    (reserved.1, { w with node := reserved.2 })
  | .release owner rosNowNs => (true, { w with node := w.node.releaseMove owner rosNowNs })
  | .submitMove endpoint request now generation =>
    w.exec B lib (.submitMove endpoint request now generation)
  | .call op => if op.isOther then w.exec B lib op else (false, w)

end ServoThreads

def servoMachine (B : Platform β) (lib : MathLib) (config : ServoInputConfig) :
    Machine (ServoThreads β) ServoEvent Bool := ⟨fun w e => w.step B lib config e⟩

/-- The node after its constructor, with the public mapping enabled and no permit topic. -/
def ControlNode.mapped (backend : β) (jointGroups : List JointGroupModel)
    (config : CommandPipelineConfig) (groups : StringMap JointGroupModel)
    (channels : List ChannelConfig) : ControlNode β :=
  { pipeline := .create backend jointGroups config, groups, channels, publicMapping := true }

/-! ## What keeps off the reserved joints -/

/-- The target is one of a servo channel whose joints are free, and was stamped since they were. -/
structure Fits (n : ControlNode β) (endpoint : String) (input : PendingServo) (stamp : Int) :
    Prop where
  source : ∃ channel ∈ n.channels, isServo channel.kind = true ∧
    endpoint = policyId channel channel.group ∧ groupName input.request = channel.group ∧
      n.unreserved channel.group stamp = true

/-- The session is one of a servo channel whose joints are free. -/
structure KeepsOff (n : ControlNode β) (id : String) (session : Session) : Prop where
  source : ∃ channel ∈ n.channels, isServo channel.kind = true ∧
    id = servoId (policyId channel channel.group) ∧ session.groupName = channel.group ∧
      ∃ model, n.groups[channel.group]? = some model ∧ n.occupied model = false

structure Excluding (w : ServoThreads β) : Prop where
  sound : Sound w.node.pipeline
  mapping : w.node.publicMapping = true
  slots : ∀ (endpoint : String) input, w.node.latestServos[endpoint]? = some input →
    Fits w.node endpoint input (w.stamps.getD endpoint 0)
  drained : ∀ target ∈ w.control.drained, Fits w.node target.endpoint target.input target.stamp
  sessions : ∀ (id : String) session, w.node.pipeline.sessions[id]? = some session →
    isServo session.kind = true → KeepsOff w.node id session

/-- The step takes nothing past the target that the control thread holds: a reservation that can
succeed shares no joint with a drained target, a drained target meets no Move under the id of its
session, and a release reads no time before an earlier release of the joint. -/
def unopposed (w : ServoThreads β) : ServoEvent → Bool
  | .reserve name _ =>
    match w.node.groups[name]? with
    | none => true
    | some model => w.node.occupied model || w.control.drained.all fun target =>
      match w.node.groups[groupName target.input.request]? with
      | none => true
      | some other => !model.shares other
  | .apply _ => w.control.drained.head?.all fun target =>
    w.node.pipeline.sessions[servoId target.endpoint]?.all fun session => isServo session.kind
  | .release owner rosNowNs => w.node.moveOwners.toList.all fun entry =>
    entry.2 != owner || decide (w.node.servoCutoffs.getD entry.1 0 ≤ rosNowNs entry.1)
  | _ => true

/-! ## What a call does to the servo sessions -/

/-- A Move submission adds no servo session. -/
theorem MoveOutcome.servo {s p : CommandPipeline β} {endpoint : String} {request : SessionRequest}
    {now : SteadyTime} {generation : Nat} {result : SubmissionResult}
    (hout : MoveOutcome B s endpoint request now generation result p) {id : String}
    {session : Session} (hfound : p.sessions[id]? = some session)
    (hservo : isServo session.kind = true) : s.sessions[id]? = some session := by
  cases hout with
  | refused => exact hfound
  | lost =>
    rw [CommandPipeline.settle_sessions] at hfound
    split at hfound
    · cases hfound
    · exact hfound
  | admitted policy arbPolicy made _ arbitration hvalid hfresh harb hwon settled hsettled hresult =>
    have hnew : (settled.sessions.insertIfNew made.sessionId { made with submittedAt := now })[id]? =
        some session := hfound
    rw [Std.TreeMap.getElem?_insertIfNew] at hnew
    split at hnew
    · obtain rfl := Option.some.inj hnew
      have hadmissible := validateRequest_ok hvalid.checked
      have hkind : isServo made.kind = false := by
        rw [Session.kind, hadmissible.session]
        exact hadmissible.servo
      exact absurd (hkind.symm.trans hservo) (by decide)
    · rw [hsettled, CommandPipeline.settle_sessions] at hnew
      split at hnew
      · cases hnew
      · exact hnew

/-- The stored session of a target keeps its group, or has the group of the target. -/
theorem storeServo_group (p : CommandPipeline β) (endpoint : String) (updated : Session)
    (existing : Option Session) (receivedAt : SteadyTime)
    (hbefore : p.sessions[updated.sessionId]? = existing) {session : Session}
    (hfound : (p.storeServo endpoint updated existing receivedAt).sessions[updated.sessionId]? =
      some session) :
    session.groupName = updated.groupName ∨
      ∃ old, p.sessions[updated.sessionId]? = some old ∧ session.groupName = old.groupName := by
  unfold CommandPipeline.storeServo at hfound
  cases existing with
  | some old =>
    simp only [Std.TreeMap.getElem?_insert_self, Option.some.injEq] at hfound
    subst hfound
    exact .inr ⟨old, hbefore, rfl⟩
  | none =>
    have hfree : updated.sessionId ∉ p.sessions := by
      rw [Std.TreeMap.mem_iff_isSome_getElem?, hbefore]
      simp
    simp only [Std.TreeMap.getElem?_insertIfNew, Std.LawfulEqOrd.compare_eq_iff_eq, hfree,
      not_false_eq_true, and_self, if_true, Option.some.injEq] at hfound
    subst hfound
    exact .inl rfl

/-- A target touches the session of its endpoint only, and gives it no group but its own. -/
theorem ServoOutcome.placed {s p : CommandPipeline β} {endpoint : String}
    {request : SessionRequest} {receivedAt now : SteadyTime} {generation : Nat}
    {result : SubmissionResult} (hs : Sound s)
    (hout : ServoOutcome B s endpoint request receivedAt now generation result p) {id : String}
    {session : Session} (hfound : p.sessions[id]? = some session) :
    s.sessions[id]? = some session ∨ (id = servoId endpoint ∧
      (session.groupName = groupName request ∨
        ∃ old, s.sessions[id]? = some old ∧ session.groupName = old.groupName)) := by
  cases hout with
  | refused => exact .inl hfound
  | rejected _ _ _ _ _ _ _ _ hbase => exact .inl (hbase.origin hfound)
  | accepted policy arbPolicy made existing base settled _ hupdated hsettled hresult =>
    have hkept : settled.sessions[id]? = some session := by
      split at hfound
      · exact hfound
      · exact hfound
    rw [hsettled, CommandPipeline.settle_sessions] at hkept
    split at hkept
    · cases hkept
    by_cases hid : id = made.sessionId
    · subst hid
      have hadmissible := validateRequest_ok hupdated.valid.checked
      obtain ⟨hname, -⟩ := hs.endpointOk _ _ hupdated.valid.registered
      have hderived : made.sessionId = servoId endpoint := by
        rw [hadmissible.session, ← hname]
        rfl
      have hgroup : made.groupName = groupName request := by rw [hadmissible.session]
      obtain ⟨-, -, hstart⟩ := hupdated.start.tables
      have hbefore : (base.withArbiter (base.arbiter.displace (CommandPipeline.claimOf endpoint made)
          arbPolicy receivedAt now)).sessions[made.sessionId]? = existing := hstart
      refine .inr ⟨hderived, ?_⟩
      rcases storeServo_group _ _ _ _ _ hbefore hkept with hnew | ⟨old, hold, hsame⟩
      · exact .inl (hnew.trans hgroup)
      · exact .inr ⟨old, hupdated.start.origin hold, hsame⟩
    · rw [CommandPipeline.storeServo_other _ _ _ _ _ hid] at hkept
      exact .inl (hupdated.start.origin hkept)

variable (B lib) in
/-- But for servo targets, a call leaves every servo session as it is, or ends it. -/
theorem exec_servo {s : CommandPipeline β} (hs : Sound s) {op : Op}
    (hop : ∀ endpoint request receivedAt now generation,
      op ≠ .updateServo endpoint request receivedAt now generation) {id : String} {session : Session}
    (hfound : (exec B lib s op).2.sessions[id]? = some session)
    (hservo : isServo session.kind = true) :
    ∃ old, s.sessions[id]? = some old ∧ old.SameClient session := by
  cases op with
  | submitMove endpoint request now generation =>
    have hout := submitMove_outcome B s endpoint request now generation
    exact ⟨session, hout.servo hfound hservo, .refl session⟩
  | updateServo endpoint request receivedAt now generation => exact absurd rfl (hop _ _ _ _ _)
  | _ =>
    rcases exec_origin hs _ hfound with hold | hnew
    · exact hold
    · cases hnew with
      | submitMove endpoint h => cases h
      | updateServo endpoint now h => cases h

theorem cancel_sessions (p : CommandPipeline β) (id k : String) :
    (p.cancel B id).2.sessions[k]? = if k = id then none else p.sessions[k]? := by
  unfold CommandPipeline.cancel
  simp only
  split
  · exact p.terminate_sessions id .canceled CommandPipeline.canceledStatus false k
  · exact p.terminate_sessions id .canceled CommandPipeline.canceledStatus false k

theorem cancel_sound {p : CommandPipeline β} (h : Sound p) (id : String) :
    Sound (p.cancel B id).2 := by
  have helems : Elems B (.cancel id) { pipeline := p } { pipeline := (p.cancel B id).2 } :=
    cancel_elems p id
  exact helems.sound h

theorem updateServo_sound {p : CommandPipeline β} (h : Sound p) (endpoint : String)
    (request : SessionRequest) (receivedAt now : SteadyTime) (generation : Nat) :
    Sound (p.updateServo B endpoint request receivedAt now generation).2 := by
  have helems := (updateServo_outcome B p endpoint request receivedAt now generation).elems h
  exact helems.sound h

/-! ## Reserving and releasing -/

/-- The channel is a servo channel with a reserved joint. -/
def Opposed (n : ControlNode β) (channel : ChannelConfig) : Prop :=
  isServo channel.kind = true ∧
    ∃ other, n.groups[channel.group]? = some other ∧ n.occupied other = true

/-- The slots and the servo sessions of some opposed channels are gone; the rest is as it was. -/
structure Discarded (n : ControlNode β) (channels : List ChannelConfig) (n' : ControlNode β) :
    Prop where
  groups : n'.groups = n.groups
  configured : n'.channels = n.channels
  owners : n'.moveOwners = n.moveOwners
  cutoffs : n'.servoCutoffs = n.servoCutoffs
  mapping : n'.publicMapping = n.publicMapping
  sound : Sound n.pipeline → Sound n'.pipeline
  slots : ∀ (endpoint : String) input, n'.latestServos[endpoint]? = some input →
    n.latestServos[endpoint]? = some input ∧
      ∀ channel ∈ channels, Opposed n channel → endpoint ≠ policyId channel channel.group
  sessions : ∀ (id : String) session, n'.pipeline.sessions[id]? = some session →
    n.pipeline.sessions[id]? = some session ∧
      ∀ channel ∈ channels, Opposed n channel → id ≠ servoId (policyId channel channel.group)

theorem discardServo_discarded (n : ControlNode β) (channel : ChannelConfig) :
    Discarded n [channel] (n.discardServo B channel) := by
  have hkept : ¬ Opposed n channel → Discarded n [channel] n := by
    intro hfree
    have hnone : ∀ c ∈ [channel], ¬ Opposed n c := by
      intro c hc
      rw [List.mem_singleton.1 hc]
      exact hfree
    exact ⟨rfl, rfl, rfl, rfl, rfl, id, fun _ _ h => ⟨h, fun c hc ho => absurd ho (hnone c hc)⟩,
      fun _ _ h => ⟨h, fun c hc ho => absurd ho (hnone c hc)⟩⟩
  unfold ControlNode.discardServo
  split
  · rename_i hkind
    exact hkept fun h => by simp [h.1] at hkind
  · split
    · rename_i hnone
      refine hkept fun h => ?_
      obtain ⟨other, hother, -⟩ := h.2
      cases hnone.symm.trans hother
    · rename_i other hother
      split
      · refine ⟨rfl, rfl, rfl, rfl, rfl, fun hs => cancel_sound hs _, ?_, ?_⟩
        · intro endpoint input hslot
          rw [Std.TreeMap.getElem?_erase] at hslot
          split at hslot
          · cases hslot
          · rename_i hne
            refine ⟨hslot, fun c hc _ heq => hne ?_⟩
            rw [List.mem_singleton.1 hc] at heq
            rw [heq, Std.LawfulEqOrd.compare_eq_iff_eq]
        · intro id session hfound
          simp only [cancel_sessions] at hfound
          split at hfound
          · cases hfound
          · rename_i hne
            refine ⟨hfound, fun c hc _ heq => hne ?_⟩
            rw [List.mem_singleton.1 hc] at heq
            exact heq
      · rename_i hfree
        refine hkept fun h => ?_
        obtain ⟨model, hmodel, hoccupied⟩ := h.2
        obtain rfl := Option.some.inj (hother.symm.trans hmodel)
        exact hfree hoccupied

theorem Discarded.trans {n n' n'' : ControlNode β} {cs ds : List ChannelConfig}
    (h : Discarded n cs n') (h' : Discarded n' ds n'') : Discarded n (cs ++ ds) n'' := by
  have hopposed : ∀ channel, Opposed n channel → Opposed n' channel := by
    rintro channel ⟨hkind, other, hother, hoccupied⟩
    refine ⟨hkind, other, by rw [h.groups]; exact hother, ?_⟩
    unfold ControlNode.occupied at hoccupied ⊢
    rw [h.owners]
    exact hoccupied
  refine ⟨h'.groups.trans h.groups, h'.configured.trans h.configured, h'.owners.trans h.owners,
    h'.cutoffs.trans h.cutoffs, h'.mapping.trans h.mapping, fun hs => h'.sound (h.sound hs), ?_, ?_⟩
  · intro endpoint input hslot
    obtain ⟨hmid, hlater⟩ := h'.slots endpoint input hslot
    obtain ⟨hfirst, hearlier⟩ := h.slots endpoint input hmid
    refine ⟨hfirst, fun channel hc ho => ?_⟩
    rcases List.mem_append.1 hc with hc | hc
    · exact hearlier channel hc ho
    · exact hlater channel hc (hopposed channel ho)
  · intro id session hfound
    obtain ⟨hmid, hlater⟩ := h'.sessions id session hfound
    obtain ⟨hfirst, hearlier⟩ := h.sessions id session hmid
    refine ⟨hfirst, fun channel hc ho => ?_⟩
    rcases List.mem_append.1 hc with hc | hc
    · exact hearlier channel hc ho
    · exact hlater channel hc (hopposed channel ho)

theorem foldl_discarded (channels : List ChannelConfig) (n : ControlNode β) :
    Discarded n channels (channels.foldl (ControlNode.discardServo B) n) := by
  induction channels generalizing n with
  | nil =>
    exact ⟨rfl, rfl, rfl, rfl, rfl, id, fun _ _ h => ⟨h, by simp⟩, fun _ _ h => ⟨h, by simp⟩⟩
  | cons channel channels ih => exact (discardServo_discarded n channel).trans (ih _)

theorem foldl_owners_getElem? (joints : List String) (owners : StringMap String) (owner : String)
    (joint : String) :
    (joints.foldl (fun owners joint => owners.insert joint owner) owners)[joint]? =
      if joint ∈ joints then some owner else owners[joint]? := by
  induction joints generalizing owners with
  | nil => simp
  | cons first rest ih =>
    rw [List.foldl_cons, ih, Std.TreeMap.getElem?_insert]
    by_cases hrest : joint ∈ rest
    · simp [hrest]
    · by_cases hfirst : first = joint
      · simp [hfirst]
      · simp [hrest, hfirst, Ne.symm hfirst]

/-- What a successful reservation has done. -/
structure Reserved (n : ControlNode β) (model : JointGroupModel) (owner : String)
    (n' : ControlNode β) : Prop where
  free : n.occupied model = false
  groups : n'.groups = n.groups
  configured : n'.channels = n.channels
  owners : ∀ joint : String, n'.moveOwners[joint]? =
    if joint ∈ model.jointNames then some owner else n.moveOwners[joint]?
  cutoffs : n'.servoCutoffs = n.servoCutoffs
  mapping : n'.publicMapping = n.publicMapping
  sound : Sound n.pipeline → Sound n'.pipeline
  slots : ∀ (endpoint : String) input, n'.latestServos[endpoint]? = some input →
    n.latestServos[endpoint]? = some input ∧
      ∀ channel ∈ n.channels, Opposed n' channel → endpoint ≠ policyId channel channel.group
  sessions : ∀ (id : String) session, n'.pipeline.sessions[id]? = some session →
    n.pipeline.sessions[id]? = some session ∧
      ∀ channel ∈ n.channels, Opposed n' channel → id ≠ servoId (policyId channel channel.group)

theorem reserveMove_reserved (n : ControlNode β) (name owner : String)
    (hmapping : n.publicMapping = true) :
    (∃ model, n.groups[name]? = some model ∧ (n.reserveMove B name owner).1 = true ∧
      Reserved n model owner (n.reserveMove B name owner).2) ∨
    n.reserveMove B name owner = (false, n) := by
  unfold ControlNode.reserveMove
  rw [if_neg (by simp [hmapping])]
  split
  · exact .inr rfl
  · rename_i model hmodel
    split
    · exact .inr rfl
    · rename_i hfree
      refine .inl ⟨model, hmodel, rfl, ?_⟩
      have hdiscarded := foldl_discarded (B := B) n.channels { n with
        moveOwners := model.jointNames.foldl (fun owners joint => owners.insert joint owner)
          n.moveOwners }
      have hopposed : ∀ {n₁ n₂ : ControlNode β} {channel : ChannelConfig}, n₁.groups = n₂.groups →
          n₁.moveOwners = n₂.moveOwners → Opposed n₁ channel → Opposed n₂ channel := by
        rintro n₁ n₂ channel hgroups howners ⟨hkind, other, hother, hoccupied⟩
        refine ⟨hkind, other, hgroups ▸ hother, ?_⟩
        unfold ControlNode.occupied at hoccupied ⊢
        rwa [← howners]
      refine ⟨by simpa using hfree, hdiscarded.groups, hdiscarded.configured, fun joint => ?_,
        hdiscarded.cutoffs, hdiscarded.mapping, hdiscarded.sound, fun endpoint input hslot => ?_,
        fun id session hfound => ?_⟩
      · rw [hdiscarded.owners]
        exact foldl_owners_getElem? _ _ _ _
      · obtain ⟨hold, hapart⟩ := hdiscarded.slots endpoint input hslot
        exact ⟨hold, fun channel hc ho =>
          hapart channel hc (hopposed hdiscarded.groups hdiscarded.owners ho)⟩
      · obtain ⟨hold, hapart⟩ := hdiscarded.sessions id session hfound
        exact ⟨hold, fun channel hc ho =>
          hapart channel hc (hopposed hdiscarded.groups hdiscarded.owners ho)⟩

theorem releaseMove_owners (n : ControlNode β) (owner : String) (rosNowNs : String → Int)
    (joint : String) : (n.releaseMove owner rosNowNs).moveOwners[joint]? =
      (n.moveOwners[joint]?).filter (· != owner) := by
  simp [ControlNode.releaseMove, Std.TreeMap.getElem?_filter]

theorem foldl_cutoffs_getD (entries : List (String × String)) (cutoffs : StringMap Int)
    (rosNowNs : String → Int) (joint : String) :
    (entries.foldl (fun cutoffs entry => cutoffs.insert entry.1 (rosNowNs entry.1))
      cutoffs).getD joint 0 =
      if joint ∈ entries.map Prod.fst then rosNowNs joint else cutoffs.getD joint 0 := by
  induction entries generalizing cutoffs with
  | nil => simp
  | cons entry rest ih =>
    rw [List.foldl_cons, ih, Std.TreeMap.getD_insert]
    by_cases hrest : joint ∈ rest.map Prod.fst
    · simp [hrest]
    · by_cases hfirst : entry.1 = joint
      · simp [hfirst]
      · simp [hrest, hfirst, Ne.symm hfirst]

theorem releaseMove_cutoffs (n : ControlNode β) (owner : String) (rosNowNs : String → Int)
    (joint : String) : (n.releaseMove owner rosNowNs).servoCutoffs.getD joint 0 =
      if n.moveOwners[joint]? = some owner then rosNowNs joint else n.servoCutoffs.getD joint 0 := by
  unfold ControlNode.releaseMove
  rw [foldl_cutoffs_getD]
  congr 1
  simp [Std.TreeMap.mem_toList_iff_getElem?_eq_some]

/-! ## One step -/

theorem occupied_eq_false (n : ControlNode β) (model : JointGroupModel) :
    n.occupied model = false ↔ ∀ joint ∈ model.jointNames, n.moveOwners[joint]? = none := by
  simp only [ControlNode.occupied, List.any_eq_false, Std.TreeMap.contains_eq_isSome_getElem?,
    Bool.not_eq_true, Option.isSome_eq_false_iff, Option.isNone_iff_eq_none]

theorem unreserved_iff (n : ControlNode β) (group : String) (stampNs : Int) :
    n.unreserved group stampNs = true ↔ ∃ model, n.groups[group]? = some model ∧
      n.occupied model = false ∧
        ∀ joint ∈ model.jointNames, n.servoCutoffs.getD joint 0 < stampNs := by
  unfold ControlNode.unreserved
  split
  · rename_i hnone
    simp [hnone]
  · rename_i model hmodel
    simp only [List.all_eq_true, Bool.and_eq_true, Bool.not_eq_true', decide_eq_true_eq]
    constructor
    · intro hall
      refine ⟨model, hmodel, ?_, fun joint hj => (hall joint hj).2⟩
      simp only [ControlNode.occupied, List.any_eq_false, Bool.not_eq_true]
      exact fun joint hj => (hall joint hj).1
    · rintro ⟨_, hsome, hfree, hlater⟩ joint hj
      obtain rfl := Option.some.inj (hmodel.symm.trans hsome)
      simp only [ControlNode.occupied, List.any_eq_false, Bool.not_eq_true] at hfree
      exact ⟨hfree joint hj, hlater joint hj⟩

section
variable {w : ServoThreads β}

/-- A pipeline call other than a servo target keeps the servo sessions off. -/
theorem Excluding.exec (h : Excluding w) {op : Op}
    (hop : ∀ endpoint request receivedAt now generation,
      op ≠ .updateServo endpoint request receivedAt now generation) :
    Excluding (w.exec B lib op).2 := by
  refine ⟨exec_sound _ h.sound op, h.mapping, fun e i hslot => ⟨(h.slots e i hslot).source⟩,
    fun d hd => ⟨(h.drained d hd).source⟩, fun id session hfound hservo => ?_⟩
  obtain ⟨old, hold, hsame⟩ := exec_servo B lib h.sound hop hfound hservo
  have hkind : isServo old.kind = true := by
    rw [Session.kind, ← hsame.request]
    exact hservo
  obtain ⟨channel, hc, hchannel, hid, hgroup, hfree⟩ := (h.sessions id old hold hkind).source
  exact ⟨channel, hc, hchannel, hid, hsame.groupName.trans hgroup, hfree⟩

theorem Excluding.queue {config : ServoInputConfig} (h : Excluding w) (input : ServoInput) :
    Excluding (w.step B lib config (.queue input)).2 := by
  simp only [ServoThreads.step]
  split
  · rename_i hchannel
    have hqueued := w.node.queueServo_queued config input
    generalize w.node.queueServo config input = queued at hqueued ⊢
    obtain ⟨accepted, node⟩ := queued
    cases hqueued with
    | dropped trackers =>
      exact ⟨h.sound, h.mapping, fun e i hslot => ⟨(h.slots e i hslot).source⟩,
        fun d hd => ⟨(h.drained d hd).source⟩,
        fun id session hfound hservo => ⟨(h.sessions id session hfound hservo).source⟩⟩
    | stored tracker freshAt hfree haccepted =>
      refine ⟨h.sound, h.mapping, fun endpoint pending hslot => ?_,
        fun d hd => ⟨(h.drained d hd).source⟩,
        fun id session hfound hservo => ⟨(h.sessions id session hfound hservo).source⟩⟩
      simp only [Std.TreeMap.getElem?_insert, Std.LawfulEqOrd.compare_eq_iff_eq] at hslot
      simp only [if_true, Std.TreeMap.getD_insert, Std.LawfulEqOrd.compare_eq_iff_eq]
      split at hslot
      · rename_i heq
        obtain rfl := Option.some.inj hslot
        rw [if_pos heq]
        exact ⟨input.channel, hchannel.1, hchannel.2, heq.symm, groupName_servoRequest _ _ _,
          hfree h.mapping⟩
      · rename_i hne
        rw [if_neg hne]
        exact ⟨(h.slots endpoint pending hslot).source⟩
  · exact h

theorem Excluding.drain {config : ServoInputConfig} (h : Excluding w) :
    Excluding (w.step B lib config .drain).2 := by
  simp only [ServoThreads.step]
  split
  · refine ⟨h.sound, h.mapping, fun e i hslot => ?_, fun target htarget => ?_,
      fun id session hfound hservo => ⟨(h.sessions id session hfound hservo).source⟩⟩
    · simp [ControlNode.drainServos] at hslot
    · obtain ⟨⟨endpoint, input⟩, hentry, rfl⟩ := List.mem_map.1 htarget
      exact ⟨(h.slots endpoint input
        (Std.TreeMap.mem_toList_iff_getElem?_eq_some.1 hentry)).source⟩
  · exact h

/-- The target that is applied has a free group, and so has the session it meets. -/
theorem Excluding.apply {config : ServoInputConfig} (h : Excluding w) (now : SteadyTime)
    (hok : unopposed w (.apply now) = true) :
    Excluding (w.step B lib config (.apply now)).2 := by
  simp only [ServoThreads.step]
  split
  · rename_i target rest hcontrol
    obtain ⟨channel, hc, hchannel, hendpoint, hgroup, hunreserved⟩ :=
      (h.drained target (by rw [hcontrol]; exact List.mem_cons_self)).source
    obtain ⟨model, hmodel, hfree, -⟩ := (unreserved_iff _ _ _).1 hunreserved
    refine ⟨updateServo_sound h.sound _ _ _ _ _, h.mapping,
      fun e i hslot => ⟨(h.slots e i hslot).source⟩, fun d hd => ?_, fun id session hfound hservo => ?_⟩
    · exact ⟨(h.drained d (by rw [hcontrol]; exact List.mem_cons_of_mem _ hd)).source⟩
    · have hout := updateServo_outcome B w.node.pipeline target.endpoint target.input.request
        target.input.freshAt now target.input.generation
      rcases hout.placed h.sound hfound with hold | ⟨hid, hnew | ⟨old, hold, hsame⟩⟩
      · exact ⟨(h.sessions id session hold hservo).source⟩
      · exact ⟨channel, hc, hchannel, by rw [hid, hendpoint], hnew.trans hgroup, model, hmodel, hfree⟩
      · -- the session it meets is a servo session, so it has kept off as well
        have hkind : isServo old.kind = true := by
          simp only [unopposed, hcontrol, ServoControl.drained, List.head?_cons,
            Option.all_some] at hok
          rw [hid] at hold
          simpa [hold] using hok
        obtain ⟨channel', hc', hchannel', hid', hgroup', hfree'⟩ :=
          (h.sessions id old hold hkind).source
        exact ⟨channel', hc', hchannel', hid', hsame.trans hgroup', hfree'⟩
  · exact h

/-- What a reservation leaves keeps off the joints it has taken. -/
theorem Excluding.reserve {config : ServoInputConfig} (h : Excluding w) (name owner : String)
    (hok : unopposed w (.reserve name owner) = true) :
    Excluding (w.step B lib config (.reserve name owner)).2 := by
  simp only [ServoThreads.step]
  rcases reserveMove_reserved (B := B) w.node name owner h.mapping with
    ⟨model, hmodel, -, hreserved⟩ | hsame
  · generalize w.node.reserveMove B name owner = reserved at hreserved ⊢
    -- a free group stays free unless it shares a joint with the new one
    have hoccupied : ∀ other, w.node.occupied other = false → reserved.2.occupied other = false ∨
        (reserved.2.occupied other = true ∧ model.shares other = true) := by
      intro other hfree
      cases hnow : reserved.2.occupied other with
      | false => exact .inl rfl
      | true =>
        simp only [ControlNode.occupied, List.any_eq_true, Std.TreeMap.contains_eq_isSome_getElem?,
          hreserved.owners] at hnow
        obtain ⟨joint, hjoint, howned⟩ := hnow
        split at howned
        · rename_i hshared
          exact .inr ⟨rfl, List.any_eq_true.2 ⟨joint, hshared, by simpa using hjoint⟩⟩
        · rw [(occupied_eq_false _ _).1 hfree joint hjoint] at howned
          cases howned
    have hopposed : ∀ channel other, isServo channel.kind = true →
        w.node.groups[channel.group]? = some other → reserved.2.occupied other = true →
        Opposed reserved.2 channel := fun channel other hkind hother hnow =>
      ⟨hkind, other, by rw [hreserved.groups]; exact hother, hnow⟩
    refine ⟨hreserved.sound h.sound, hreserved.mapping.trans h.mapping, fun e i hslot => ?_,
      fun d hd => ?_, fun id session hfound hservo => ?_⟩
    · obtain ⟨hold, hapart⟩ := hreserved.slots e i hslot
      obtain ⟨channel, hc, hchannel, hendpoint, hgroup, hunreserved⟩ := (h.slots e i hold).source
      obtain ⟨other, hother, hfree, hlater⟩ := (unreserved_iff _ _ _).1 hunreserved
      rcases hoccupied other hfree with hstill | ⟨hnow, -⟩
      · refine ⟨channel, by rw [hreserved.configured]; exact hc, hchannel, hendpoint, hgroup, ?_⟩
        refine (unreserved_iff _ _ _).2 ⟨other, by rw [hreserved.groups]; exact hother, hstill, ?_⟩
        rw [hreserved.cutoffs]
        exact hlater
      · exact absurd hendpoint (hapart channel hc (hopposed channel other hchannel hother hnow))
    · obtain ⟨channel, hc, hchannel, hendpoint, hgroup, hunreserved⟩ := (h.drained d hd).source
      obtain ⟨other, hother, hfree, hlater⟩ := (unreserved_iff _ _ _).1 hunreserved
      rcases hoccupied other hfree with hstill | ⟨-, hshares⟩
      · refine ⟨channel, by rw [hreserved.configured]; exact hc, hchannel, hendpoint, hgroup, ?_⟩
        refine (unreserved_iff _ _ _).2 ⟨other, by rw [hreserved.groups]; exact hother, hstill, ?_⟩
        rw [hreserved.cutoffs]
        exact hlater
      · simp only [unopposed, hmodel, hreserved.free, Bool.false_or, List.all_eq_true] at hok
        have := hok d hd
        rw [hgroup, hother] at this
        simp [hshares] at this
    · obtain ⟨hold, hapart⟩ := hreserved.sessions id session hfound
      obtain ⟨channel, hc, hchannel, hid, hgroup, other, hother, hfree⟩ :=
        (h.sessions id session hold hservo).source
      rcases hoccupied other hfree with hstill | ⟨hnow, -⟩
      · exact ⟨channel, by rw [hreserved.configured]; exact hc, hchannel, hid, hgroup, other,
          by rw [hreserved.groups]; exact hother, hstill⟩
      · exact absurd hid (hapart channel hc (hopposed channel other hchannel hother hnow))
  · rw [hsame]
    exact h

theorem Excluding.release {config : ServoInputConfig} (h : Excluding w) (owner : String)
    (rosNowNs : String → Int) :
    Excluding (w.step B lib config (.release owner rosNowNs)).2 := by
  simp only [ServoThreads.step]
  -- the joints of what is kept were free, so the release sets none of their cutoffs
  have hstill : ∀ other, w.node.occupied other = false →
      (w.node.releaseMove owner rosNowNs).occupied other = false := by
    intro other hfree
    rw [occupied_eq_false] at hfree ⊢
    intro joint hj
    rw [releaseMove_owners, hfree joint hj, Option.filter_none]
  have hfits : ∀ group stampNs, w.node.unreserved group stampNs = true →
      (w.node.releaseMove owner rosNowNs).unreserved group stampNs = true := by
    intro group stampNs hunreserved
    obtain ⟨model, hmodel, hfree, hlater⟩ := (unreserved_iff _ _ _).1 hunreserved
    refine (unreserved_iff _ _ _).2 ⟨model, hmodel, hstill model hfree, fun joint hj => ?_⟩
    have hunowned := (occupied_eq_false _ _).1 hfree joint hj
    rw [releaseMove_cutoffs, if_neg (by rw [hunowned]; simp)]
    exact hlater joint hj
  refine ⟨h.sound, h.mapping, fun e i hslot => ?_, fun d hd => ?_, fun id session hfound hservo => ?_⟩
  · obtain ⟨channel, hc, hchannel, hendpoint, hgroup, hunreserved⟩ := (h.slots e i hslot).source
    exact ⟨channel, hc, hchannel, hendpoint, hgroup, hfits _ _ hunreserved⟩
  · obtain ⟨channel, hc, hchannel, hendpoint, hgroup, hunreserved⟩ := (h.drained d hd).source
    exact ⟨channel, hc, hchannel, hendpoint, hgroup, hfits _ _ hunreserved⟩
  · obtain ⟨channel, hc, hchannel, hid, hgroup, other, hother, hfree⟩ :=
      (h.sessions id session hfound hservo).source
    exact ⟨channel, hc, hchannel, hid, hgroup, other, hother, hstill other hfree⟩

variable (B lib) in
theorem Excluding.step (config : ServoInputConfig) (h : Excluding w) (e : ServoEvent)
    (hok : unopposed w e = true) : Excluding (w.step B lib config e).2 := by
  cases e with
  | queue input => exact h.queue input
  | drain => exact h.drain
  | apply now => exact h.apply now hok
  | tick feedback now =>
    simp only [ServoThreads.step]
    split
    · rename_i hcontrol
      have hidle : Excluding { w with control := ServoControl.idle } :=
        ⟨h.sound, h.mapping, fun e i hslot => ⟨(h.slots e i hslot).source⟩, by simp [ServoControl.drained],
          fun id session hfound hservo => ⟨(h.sessions id session hfound hservo).source⟩⟩
      exact hidle.exec (by simp)
    · exact h
  | reserve name owner => exact h.reserve name owner hok
  | release owner rosNowNs => exact h.release owner rosNowNs
  | submitMove endpoint request now generation => exact h.exec (by simp)
  | call op =>
    simp only [ServoThreads.step]
    split
    · rename_i hother
      refine h.exec ?_
      rintro _ _ _ _ _ rfl
      cases hother
    · exact h

end

/-! ## Every interleaving -/

abbrev ServoStage (β : Type) := Machine.Stage (ServoThreads β) ServoEvent Bool

/-- No servo session has a group that shares a joint with this one. -/
def NoServo (n : ControlNode β) (model : JointGroupModel) : Prop :=
  ∀ (id : String) session other, n.pipeline.sessions[id]? = some session →
    isServo session.kind = true → n.groups[session.groupName]? = some other →
      model.shares other = false

/-- A reservation keeps servo sessions off its joints until it is released, and the targets that
were stamped by then for good. -/
structure ReservationHolds (groups : StringMap JointGroupModel) (stages : List (ServoStage β)) :
    Prop where
  reserved : ∀ (j k : Nat) gj gk name owner model, j ≤ k → stages[j]? = some gj →
    stages[k]? = some gk → gj.input = .reserve name owner → gj.output = true →
    groups[name]? = some model →
    (∀ (i : Nat) g, j < i → i ≤ k → stages[i]? = some g → ∀ rosNowNs,
      g.input ≠ .release owner rosNowNs) → NoServo gk.after.node model
  released : ∀ (j k : Nat) gj gk owner rosNowNs now target rest joint model, j < k →
    stages[j]? = some gj → stages[k]? = some gk → gj.input = .release owner rosNowNs →
    gj.before.node.moveOwners[joint]? = some owner → gk.input = .apply now →
    gk.before.control = .applying (target :: rest) →
    groups[groupName target.input.request]? = some model → joint ∈ model.jointNames →
    rosNowNs joint < target.stamp

/-- Every joint of the group is reserved by the owner. -/
def OwnedBy (owner : String) (model : JointGroupModel) (n : ControlNode β) : Prop :=
  ∀ joint ∈ model.jointNames, n.moveOwners[joint]? = some owner

theorem Excluding.noServo {w : ServoThreads β} {owner : String} {model : JointGroupModel}
    (h : Excluding w) (howned : OwnedBy owner model w.node) : NoServo w.node model := by
  intro id session other hfound hservo hother
  obtain ⟨channel, -, -, -, hgroup, model', hmodel, hfree⟩ := (h.sessions id session hfound hservo).source
  rw [hgroup] at hother
  obtain rfl := Option.some.inj (hother.symm.trans hmodel)
  simp only [JointGroupModel.shares, List.any_eq_false, List.contains_iff_mem]
  intro joint hj hshared
  cases (howned joint hj).symm.trans ((occupied_eq_false _ _).1 hfree joint hshared)

section
variable {config : ServoInputConfig} {w : ServoThreads β}

theorem queueServo_frame (n : ControlNode β) (input : ServoInput) :
    (n.queueServo config input).2.groups = n.groups ∧
      (n.queueServo config input).2.moveOwners = n.moveOwners ∧
      (n.queueServo config input).2.servoCutoffs = n.servoCutoffs := by
  have hqueued := n.queueServo_queued config input
  generalize n.queueServo config input = queued at hqueued ⊢
  obtain ⟨accepted, node⟩ := queued
  cases hqueued <;> exact ⟨rfl, rfl, rfl⟩

/-- But for reservations and releases, a step leaves reservations and cutoffs as they are. -/
theorem step_frame (e : ServoEvent) (hreserve : ∀ name owner, e ≠ .reserve name owner)
    (hrelease : ∀ owner rosNowNs, e ≠ .release owner rosNowNs) :
    (w.step B lib config e).2.node.groups = w.node.groups ∧
      (w.step B lib config e).2.node.moveOwners = w.node.moveOwners ∧
      (w.step B lib config e).2.node.servoCutoffs = w.node.servoCutoffs := by
  cases e with
  | queue input =>
    simp only [ServoThreads.step]
    split
    · exact queueServo_frame w.node input
    · exact ⟨rfl, rfl, rfl⟩
  | reserve name owner => exact absurd rfl (hreserve name owner)
  | release owner rosNowNs => exact absurd rfl (hrelease owner rosNowNs)
  | submitMove => exact ⟨rfl, rfl, rfl⟩
  | _ =>
    simp only [ServoThreads.step]
    split <;> exact ⟨rfl, rfl, rfl⟩

theorem step_groups (h : Excluding w) (e : ServoEvent) :
    (w.step B lib config e).2.node.groups = w.node.groups := by
  cases e with
  | reserve name owner =>
    simp only [ServoThreads.step]
    rcases reserveMove_reserved (B := B) w.node name owner h.mapping with
      ⟨model, -, -, hreserved⟩ | hsame
    · exact hreserved.groups
    · rw [hsame]
  | release owner rosNowNs => rfl
  | _ => exact (step_frame _ (by simp) (by simp)).1

variable (B lib config) in
/-- Reserved joints stay with their owner until the owner releases them. -/
theorem OwnedBy.step {owner : String} {model : JointGroupModel} (h : Excluding w)
    (howned : OwnedBy owner model w.node) (e : ServoEvent)
    (hkeep : ∀ rosNowNs, e ≠ .release owner rosNowNs) :
    OwnedBy owner model (w.step B lib config e).2.node := by
  intro joint hj
  cases e with
  | reserve name other =>
    simp only [ServoThreads.step]
    rcases reserveMove_reserved (B := B) w.node name other h.mapping with
      ⟨model', -, -, hreserved⟩ | hsame
    · rw [hreserved.owners, if_neg fun hshared => ?_]
      · exact howned joint hj
      · cases (howned joint hj).symm.trans ((occupied_eq_false _ _).1 hreserved.free joint hshared)
    · rw [hsame]
      exact howned joint hj
  | release other rosNowNs =>
    have hne : owner ≠ other := by
      rintro rfl
      exact hkeep rosNowNs rfl
    simp only [ServoThreads.step, releaseMove_owners, howned joint hj]
    simp [hne]
  | _ =>
    rw [(step_frame _ (by simp) (by simp)).2.1]
    exact howned joint hj

variable (B lib config) in
theorem reserve_owned (h : Excluding w) {name owner : String} {model : JointGroupModel}
    (hmodel : w.node.groups[name]? = some model)
    (hdone : (w.step B lib config (.reserve name owner)).1 = true) :
    OwnedBy owner model (w.step B lib config (.reserve name owner)).2.node := by
  simp only [ServoThreads.step] at hdone ⊢
  rcases reserveMove_reserved (B := B) w.node name owner h.mapping with
    ⟨model', hmodel', -, hreserved⟩ | hsame
  · obtain rfl := Option.some.inj (hmodel.symm.trans hmodel')
    intro joint hj
    rw [hreserved.owners, if_pos hj]
  · rw [hsame] at hdone
    cases hdone

variable (B lib config) in
theorem release_cutoff {owner joint : String} (rosNowNs : String → Int)
    (howned : w.node.moveOwners[joint]? = some owner) :
    (w.step B lib config (.release owner rosNowNs)).2.node.servoCutoffs.getD joint 0 =
      rosNowNs joint := by
  simp only [ServoThreads.step, releaseMove_cutoffs, howned, if_true]

/-- Cutoffs only rise. -/
theorem cutoff_step (h : Excluding w) (e : ServoEvent) (hok : unopposed w e = true)
    (joint : String) : w.node.servoCutoffs.getD joint 0 ≤
      (w.step B lib config e).2.node.servoCutoffs.getD joint 0 := by
  cases e with
  | reserve name owner =>
    simp only [ServoThreads.step]
    rcases reserveMove_reserved (B := B) w.node name owner h.mapping with
      ⟨model, -, -, hreserved⟩ | hsame
    · rw [hreserved.cutoffs]
    · rw [hsame]
  | release owner rosNowNs =>
    simp only [ServoThreads.step, releaseMove_cutoffs]
    split
    · rename_i howned
      simp only [unopposed, List.all_eq_true, Bool.or_eq_true, bne_iff_ne, ne_eq,
        decide_eq_true_eq] at hok
      have hentry := hok (joint, owner) (Std.TreeMap.mem_toList_iff_getElem?_eq_some.2 howned)
      exact hentry.resolve_left (by simp)
    · exact le_refl _
  | _ => rw [(step_frame _ (by simp) (by simp)).2.2]

end

theorem mapped_excluding (backend : β) (jointGroups : List JointGroupModel)
    (config : CommandPipelineConfig) (groups : StringMap JointGroupModel)
    (channels : List ChannelConfig) :
    Excluding { node := ControlNode.mapped backend jointGroups config groups channels } where
  sound := by
    have hinit : Initial (CommandPipeline.create backend jointGroups config) := ⟨_, _, _, rfl⟩
    exact hinit.sound
  mapping := rfl
  slots _ _ hslot := by simp [ControlNode.mapped] at hslot
  drained := by simp [ServoControl.drained]
  sessions _ _ hfound := by simp [ControlNode.mapped, CommandPipeline.create] at hfound

/-- In every interleaving of servo callbacks, control thread and Move tasks in which no reservation
overtakes a target that the control thread holds, a reservation holds until its release. -/
theorem reservation_excludes (B : Platform β) (lib : MathLib) (inputs : ServoInputConfig)
    (backend : β) (jointGroups : List JointGroupModel) (config : CommandPipelineConfig)
    (groups : StringMap JointGroupModel) (channels : List ChannelConfig) (events : List ServoEvent)
    (h : (servoMachine B lib inputs).Meets (fun w e => unopposed w e = true)
      { node := .mapped backend jointGroups config groups channels } events) :
    ReservationHolds groups ((servoMachine B lib inputs).trace
      { node := .mapped backend jointGroups config groups channels } events) := by
  have hstart := mapped_excluding backend jointGroups config groups channels
  have hinvariant := Machine.trace_invariant (M := servoMachine B lib inputs)
    (I := fun w => Excluding w ∧ w.node.groups = groups)
    (fun w e hw hok => ⟨hw.1.step B lib inputs e hok, (step_groups hw.1 e).trans hw.2⟩)
    ⟨hstart, rfl⟩ h
  generalize ({ node := .mapped backend jointGroups config groups channels } : ServoThreads β) =
    start at h hinvariant
  constructor
  · intro j k gj gk name owner model hjk hj hk hinput houtput hmodel hkeep
    have hfirst : OwnedBy owner model gj.after.node := by
      obtain ⟨⟨hexcluding, hgroups⟩, -⟩ := hinvariant gj (List.mem_of_getElem? hj)
      have hstep : gj.before.step B lib inputs gj.input = (gj.output, gj.after) :=
        Machine.trace_step (List.mem_of_getElem? hj)
      rw [hinput] at hstep
      have howned := reserve_owned B lib inputs hexcluding (by rw [hgroups]; exact hmodel)
        ((congrArg Prod.fst hstep).trans houtput)
      rwa [hstep] at howned
    have howned : ∀ (k : Nat) gk, j ≤ k → ((servoMachine B lib inputs).trace start events)[k]? =
        some gk → (∀ (i : Nat) g, j < i → i ≤ k →
          ((servoMachine B lib inputs).trace start events)[i]? = some g → ∀ rosNowNs,
            g.input ≠ .release owner rosNowNs) → OwnedBy owner model gk.after.node := by
      intro k
      induction k with
      | zero =>
        intro gk hjk hk _
        obtain rfl : j = 0 := by omega
        obtain rfl := Option.some.inj (hj.symm.trans hk)
        exact hfirst
      | succ k ih =>
        intro gk hjk hk hkeep
        by_cases hlast : j = k + 1
        · subst hlast
          obtain rfl := Option.some.inj (hj.symm.trans hk)
          exact hfirst
        · obtain ⟨before, hbefore, hlink⟩ := Machine.trace_succ hk
          have hprevious := ih before (by omega) hbefore
            (fun i g hi hik => hkeep i g hi (by omega))
          rw [← hlink] at hprevious
          have hstep : gk.before.step B lib inputs gk.input = (gk.output, gk.after) :=
            Machine.trace_step (List.mem_of_getElem? hk)
          have hnext := hprevious.step B lib inputs
            (hinvariant gk (List.mem_of_getElem? hk)).1.1 gk.input
            (hkeep (k + 1) gk (by omega) (by omega) hk)
          rwa [hstep] at hnext
    exact (hinvariant gk (List.mem_of_getElem? hk)).2.1.noServo (howned k gk hjk hk hkeep)
  · intro j k gj gk owner rosNowNs now target rest joint model hjk hj hk hrelease howned happly
      hcontrol hmodel hjoint
    have hfirst : rosNowNs joint ≤ gj.after.node.servoCutoffs.getD joint 0 := by
      have hstep : gj.before.step B lib inputs gj.input = (gj.output, gj.after) :=
        Machine.trace_step (List.mem_of_getElem? hj)
      have hcutoff := release_cutoff B lib inputs rosNowNs howned
      rw [← hrelease, hstep] at hcutoff
      exact hcutoff.ge
    obtain ⟨hexcluding, hcutoff⟩ := Machine.trace_later_invariant (M := servoMachine B lib inputs)
      (I := fun w => Excluding w ∧ rosNowNs joint ≤ w.node.servoCutoffs.getD joint 0)
      (fun w e hw hok => ⟨hw.1.step B lib inputs e hok, hw.2.trans (cutoff_step hw.1 e hok joint)⟩)
      h hjk hj hk ⟨(hinvariant gj (List.mem_of_getElem? hj)).2.1, hfirst⟩
    obtain ⟨channel, -, -, -, hgroup, hunreserved⟩ :=
      (hexcluding.drained target (by rw [hcontrol]; exact List.mem_cons_self)).source
    obtain ⟨other, hother, -, hlater⟩ := (unreserved_iff _ _ _).1 hunreserved
    rw [(hinvariant gk (List.mem_of_getElem? hk)).1.2, ← hgroup] at hother
    obtain rfl := Option.some.inj (hmodel.symm.trans hother)
    exact hcutoff.trans_lt (hlater joint hjoint)

namespace Fixture

def servoInputs : ServoInputConfig :=
  { inputStampMaxAgeS := 1 / 10, servoLeaseMs := 100, inputStampFutureToleranceS := 1 / 100 }

def modelOf : StringMap JointGroupModel :=
  allGroups.foldl (fun models model => models.insert model.name model) ∅

def servoChannel : ChannelConfig := { name := "sv", kind := .servoJ, group := "left" }

/-- A node with one servo channel, of the left arm. -/
def servoStart : ServoThreads FakeSdk :=
  { node := .mapped {} allGroups {} modelOf [servoChannel] }

def servos : Machine (ServoThreads FakeSdk) ServoEvent Bool :=
  servoMachine FakeSdk.platform.toPlatform mathLib servoInputs

/-- A target for the left arm that arrives as it is stamped. -/
def servoTarget (stampNs : Nat) : ServoEvent :=
  .queue { channel := servoChannel, target := .joints (target leftJoints (1 / 10)),
           stamp := ⟨0, stampNs⟩, receivedAt := 0, rosNowNs := stampNs }

def registerServo : ServoEvent := .call (endpoint "sv@left" .servoJ "left" 20)

/-- A servo session gives way to a reservation; targets are dropped until after the release. -/
def inTurn : List ServoEvent :=
  [registerServo, servoTarget 1000, .drain, .apply 0, .tick (feedback 0) 0,
    .reserve "whole" "move:1", servoTarget 2000, .release "move:1" (fun _ => 3000),
    servoTarget 3000, servoTarget 4000, .drain, .apply 0]

/-- The left arm is reserved while the control thread holds a target for it. -/
def overtaken : List ServoEvent :=
  [registerServo, servoTarget 1000, .drain, .reserve "left" "move:1", .apply 0]

def servoStage (events : List ServoEvent) (n : Nat) : ServoStage FakeSdk :=
  (servos.trace servoStart events).getD n ⟨servoStart, .drain, false, servoStart⟩

theorem servoStage_eq {events : List ServoEvent} {n : Nat} (h : n < events.length) :
    (servos.trace servoStart events)[n]? = some (servoStage events n) := by
  simp [servoStage, h]

end Fixture

open Fixture in
theorem reservation_excludes_inTurn :
    ReservationHolds modelOf (servos.trace servoStart inTurn) :=
  reservation_excludes FakeSdk.platform.toPlatform mathLib servoInputs {} allGroups {} modelOf
    [servoChannel] inTurn (by unfold Machine.Meets; decide +kernel)

open Fixture in
/-- The reservation takes the target from its slot and cancels the session, but the control thread
has drained the target already and applies it: a servo session moves the reserved arm. -/
theorem drained_target_outlives_reservation :
    ¬ ReservationHolds modelOf (servos.trace servoStart overtaken) := by
  intro h
  have hkeep : ∀ (i : Nat) g, 3 < i → i ≤ 4 → (servos.trace servoStart overtaken)[i]? = some g →
      ∀ rosNowNs, g.input ≠ .release "move:1" rosNowNs := by
    intro i g hi hik hg rosNowNs hrelease
    obtain rfl : i = 4 := by omega
    obtain rfl := Option.some.inj ((servoStage_eq (by decide)).symm.trans hg)
    cases hrelease
  have hnone := h.reserved 3 4 _ _ "left" "move:1" (group "left" leftJoints) (by decide)
    (servoStage_eq (by decide)) (servoStage_eq (by decide)) rfl (by decide +kernel)
    (by decide +kernel) hkeep
  have hstored : ((servoStage overtaken 4).after.node.pipeline.sessions[servoId "sv@left"]?).map
      (fun session => (session.kind, session.groupName)) = some (.servoJ, "left") := by
    decide +kernel
  obtain ⟨session, hfound, heq⟩ := Option.map_eq_some_iff.1 hstored
  obtain ⟨hkind, hgroup⟩ := Prod.mk.inj heq
  have hshares := hnone _ session (group "left" leftJoints) hfound (by rw [hkind]; rfl)
    (by rw [hgroup]; decide +kernel)
  exact absurd hshares (by decide)

end HumanoidMotion
