import HumanoidMotion.Node.Takeover
/-
# Owned outputs

An output that is published for an owner names the key that its tick captured
before it worked. The key is that of the handshake message which was granted
last, and nothing in the output was asked for before that.

* `Recent` — a command of a session whose request outlived no closing of the pipeline.
* `Joined` — what the sink has put together so far.
* `SinkOk` — what the control thread relies on where it stands; `Aside` — what the
  other threads may do meanwhile.
* `owned_outputs` — over every run.
-/

namespace HumanoidMotion

variable {β : Type} {B : Platform β} {lib : MathLib} {mapping : PublicJointMapping}

/-! ## What the sink relies on -/

/-- The request of the command's session was submitted, and the pipeline was not closed since. -/
def Recent (past : List (PipelineStage β)) (command : JointCommand) : Prop :=
  ∃ before call after request time generation, past = before ++ call :: after ∧
    Submitted call command.sessionId request time generation ∧ ∀ x ∈ after, ¬ ClosesEpoch x

theorem Driven.recent {past : List (PipelineStage β)} {command : JointCommand} {session : Session}
    {generation i : Nat} (h : Driven past command.sessionId session generation i) :
    Recent past command := by
  obtain ⟨⟨call, hcall, hsubmitted⟩, hsince⟩ := h
  obtain ⟨hi, hget⟩ := List.getElem?_eq_some_iff.1 hcall
  refine ⟨past.take i, call, past.drop (i + 1), _, _, _, ?_, hsubmitted, fun x hx => ?_⟩
  · rw [← hget, ← List.drop_eq_getElem_cons hi, List.take_append_drop]
  · obtain ⟨l, hl⟩ := List.mem_iff_getElem?.1 hx
    rw [List.getElem?_drop] at hl
    exact hsince _ x (by omega) hl

/-- What was submitted before the pipeline was closed is not recent any more. -/
theorem Recent.later {past more : List (PipelineStage β)} {command : JointCommand}
    (h : Recent (past ++ more) command) {closing : PipelineStage β} (hmem : closing ∈ more)
    (hcloses : ClosesEpoch closing) : ∃ call ∈ more, ∃ request time generation,
      Submitted call command.sessionId request time generation := by
  obtain ⟨before, call, after, request, time, generation, hsplit, hsubmitted, hsince⟩ := h
  have hcall : closing ∉ call :: after := by
    rintro (_ | ⟨_, hafter⟩)
    · cases hsubmitted with
      | submitMove endpoint h => simp [ClosesEpoch, h, Op.closesEpoch] at hcloses
      | updateServo endpoint now h => simp [ClosesEpoch, h, Op.closesEpoch] at hcloses
    · exact hsince closing hafter hcloses
  rcases List.append_eq_append_iff.1 hsplit with ⟨rest, rfl, rfl⟩ | ⟨rest, -, hrest⟩
  · exact ⟨call, by simp, request, time, generation, hsubmitted⟩
  · exact absurd (hrest ▸ List.mem_append_right rest hmem) hcall

/-- The parts of an owned output: commands that passed the final RTC, under their public names. -/
structure Joined (mapping : PublicJointMapping) (past : List (PipelineStage β)) (owned : JointState)
    (parts : List (JointCommand × JointState)) : Prop where
  name : owned.name = parts.flatMap (·.2.name)
  position : owned.position = parts.flatMap (·.2.position)
  velocity : owned.velocity = parts.flatMap (·.2.velocity)
  passed : ∀ part ∈ parts, part.1.passedFinalSdkRtc = true ∧
    ∃ rosNow, outputOf mapping part.1 rosNow = .ok part.2
  recent : ∀ part ∈ parts, Recent past part.1

namespace OutputAt

def identity : OutputAt → Option TickIdentity
  | ticking identity | noting identity _ | publishing identity _ | locking identity _
  | admitting identity _ _ | comparing identity _ _ | aging identity _ _ => some identity
  | _ => none

/-- The flag was found set. -/
def admitted : OutputAt → Bool
  | comparing .. | aging .. | emitting .. | routing .. | recording .. => true
  | _ => false

/-- The commands that are yet to go out. -/
def approved : OutputAt → List JointCommand
  | locking _ approved | admitting _ approved _ | comparing _ approved _ | aging _ approved _ => approved
  | emitting rest _ | recording _ _ rest _ => rest
  | routing command _ rest _ => command :: rest
  | _ => []

def owned : OutputAt → Option JointState
  | emitting _ owned | routing _ _ _ owned | recording _ _ _ owned => some owned
  | _ => none

/-- The plain topics are for a node without a handshake in force. -/
def plain : OutputAt → Bool
  | routing .. => true
  | _ => false

theorem publishes_of_owns {control : OutputAt} (h : control.owns = true) :
    control.publishes = true := by
  cases control <;> first | rfl | cases h

theorem owns_of_admitted {control : OutputAt} (h : control.admitted = true) :
    control.owns = true := by
  cases control <;> first | rfl | cases h

theorem owns_of_owned {control : OutputAt} {message : JointState}
    (h : control.owned = some message) : control.owns = true := by
  cases control <;> first | rfl | cases h

theorem owns_of_plain {control : OutputAt} (h : control.plain = true) : control.owns = true := by
  cases control <;> first | rfl | cases h

theorem approved_of_idle {control : OutputAt} (h : control.publishes = false) :
    control.approved = [] := by
  cases control <;> first | rfl | cases h

end OutputAt

structure SinkOk (mapping : PublicJointMapping) (stages : List (OutputStage β))
    (w : OutputThreads β) : Prop where
  mutex : w.control.owns = true → w.callback.owns = false
  /-- The key belongs to the generation. -/
  identity : ∀ identity, w.control.identity = some identity →
    identity.generation ≤ w.node.permitGeneration ∧
      (identity.generation = w.node.permitGeneration → identity.ownership = w.node.ownershipKey)
  current : ∀ identity approved publishNs, w.control = .aging identity approved publishNs →
    identity.ownership = w.node.ownershipKey
  tagged : ∀ owned, w.control.owned = some owned →
    owned.header.frameId = w.node.ownershipKey ++ "#"
  granted : w.control.admitted = true → w.node.interventionActive = true → Granted stages w.node
  approved : ∀ command ∈ w.control.approved, Recent (pipelinePast stages) command
  joined : ∀ owned, w.control.owned = some owned →
    ∃ parts, Joined mapping (pipelinePast stages) owned parts
  plain : w.control.plain = true → w.node.interventionActive = false
  active : ∀ owned, w.control.owned = some owned → owned.name ≠ [] → w.node.interventionActive = true

/-- What another thread may do while the control thread stands where it stands. -/
structure Aside (g : OutputStage β) (w w' : OutputThreads β) : Prop where
  control : w'.control = w.control
  generation : w.node.permitGeneration ≤ w'.node.permitGeneration
  key : w'.node.ownershipKey = w.node.ownershipKey ∨
    w.node.permitGeneration < w'.node.permitGeneration
  locked : w.control.owns = true → w'.callback.owns = false ∧ raisedBy g = none ∧
    w'.node.ownershipKey = w.node.ownershipKey ∧ w'.node.ownershipPhase = w.node.ownershipPhase ∧
      w'.node.interventionActive = w.node.interventionActive
  quiet : w.control.publishes = true → g.output.calls = []

theorem SinkOk.aside {stages : List (OutputStage β)} {g : OutputStage β} {w w' : OutputThreads β}
    (h : SinkOk mapping stages w) (ha : Aside g w w') : SinkOk mapping (stages ++ [g]) w' := by
  obtain ⟨hcontrol, hgeneration, hkey, hlocked, hquiet⟩ := ha
  have hpast : w.control.owns = true → pipelinePast (stages ++ [g]) = pipelinePast stages := by
    intro howns
    rw [pipelinePast_append, pipelinePast_single, hquiet (OutputAt.publishes_of_owns howns),
      List.append_nil]
  refine ⟨?_, ?_, ?_, ?_, ?_, ?_, ?_, ?_, ?_⟩
  · exact fun howns => (hlocked (hcontrol ▸ howns)).1
  · intro identity hidentity
    rw [hcontrol] at hidentity
    obtain ⟨hle, hsame⟩ := h.identity identity hidentity
    refine ⟨hle.trans hgeneration, fun heq => ?_⟩
    rcases hkey with hkey | hlt
    · rw [hkey]
      exact hsame (by omega)
    · omega
  · intro identity approved publishNs hat
    rw [hcontrol] at hat
    rw [h.current identity approved publishNs hat, (hlocked (by rw [hat]; rfl)).2.2.1]
  · intro owned howned
    rw [hcontrol] at howned
    rw [h.tagged owned howned, (hlocked (OutputAt.owns_of_owned howned)).2.2.1]
  · intro hadmitted hin
    rw [hcontrol] at hadmitted
    obtain ⟨-, hraised, hsame, hphase, hactive⟩ := hlocked (OutputAt.owns_of_admitted hadmitted)
    exact (h.granted hadmitted (hactive ▸ hin)).snoc hraised hsame hphase
  · intro command hcommand
    rw [hcontrol] at hcommand
    cases hpublishes : w.control.publishes with
    | false =>
      rw [OutputAt.approved_of_idle hpublishes] at hcommand
      cases hcommand
    | true =>
      rw [pipelinePast_append, pipelinePast_single, hquiet hpublishes, List.append_nil]
      exact h.approved command hcommand
  · intro owned howned
    rw [hcontrol] at howned
    rw [hpast (OutputAt.owns_of_owned howned)]
    exact h.joined owned howned
  · intro hplain
    rw [hcontrol] at hplain
    rw [(hlocked (OutputAt.owns_of_plain hplain)).2.2.2.2]
    exact h.plain hplain
  · intro owned howned hsome
    rw [hcontrol] at howned
    rw [(hlocked (OutputAt.owns_of_owned howned)).2.2.2.2]
    exact h.active owned howned hsome

/-- Nothing is relied on where the lock of the ownership is free but the identity and the approval. -/
theorem SinkOk.free {stages : List (OutputStage β)} {w : OutputThreads β}
    (howns : w.control.owns = false)
    (hidentity : ∀ identity, w.control.identity = some identity →
      identity.generation ≤ w.node.permitGeneration ∧
        (identity.generation = w.node.permitGeneration → identity.ownership = w.node.ownershipKey))
    (happroved : ∀ command ∈ w.control.approved, Recent (pipelinePast stages) command) :
    SinkOk mapping stages w := by
  have hnone : ∀ flag : Bool, (flag = true → w.control.owns = true) → ¬ flag = true :=
    fun flag himp hflag => by rw [himp hflag] at howns; cases howns
  refine ⟨fun h => absurd h (hnone _ id), hidentity, fun identity approved publishNs hat => ?_,
    fun owned howned => ?_, fun hadmitted => absurd hadmitted (hnone _ OutputAt.owns_of_admitted),
    happroved, fun owned howned => ?_, fun hplain => absurd hplain (hnone _ OutputAt.owns_of_plain),
    fun owned howned => ?_⟩
  · rw [hat] at howns
    cases howns
  · rw [OutputAt.owns_of_owned howned] at howns
    cases howns
  · rw [OutputAt.owns_of_owned howned] at howns
    cases howns
  · rw [OutputAt.owns_of_owned howned] at howns
    cases howns

/-! ## One step -/

structure OwnedOk (mapping : PublicJointMapping) (stages : List (OutputStage β))
    (w : OutputThreads β) : Prop where
  epoch : Epoch (pipelinePast stages) w.node.pipeline
  handshake : HandshakeOk stages w.node w.callback
  sink : SinkOk mapping stages w

section
variable {stages : List (OutputStage β)} {w : OutputThreads β}

/-- The stage of a step. -/
def outputStageOf (B : Platform β) (lib : MathLib) (mapping : PublicJointMapping)
    (w : OutputThreads β) (e : OutputEvent) : OutputStage β :=
  ⟨w, e, (w.step B lib mapping e).1, (w.step B lib mapping e).2⟩

/-- A step of another thread changes what the handshake guards only where the key is another one. -/
theorem callbackStep_frame (n : ControlNode β) (steadyNs : Int) (callback : CallbackAt) :
    n.permitGeneration ≤ (callbackStep B n steadyNs callback).2.permitGeneration ∧
      (callback.raises = none →
        (callbackStep B n steadyNs callback).2.ownershipKey = n.ownershipKey ∧
          (callbackStep B n steadyNs callback).2.ownershipPhase = n.ownershipPhase) ∧
      (callback.raises ≠ none →
        n.permitGeneration < (callbackStep B n steadyNs callback).2.permitGeneration) ∧
      (callback.owns = false → (callbackStep B n steadyNs callback).1.owns = false ∧
        (callbackStep B n steadyNs callback).2.interventionActive = n.interventionActive) := by
  cases callback with
  | testing permit =>
    simp only [callbackStep]
    split <;> simp [CallbackAt.raises, CallbackAt.owns]
  | stamping permit rearm =>
    cases rearm <;> simp [callbackStep, CallbackAt.raises, CallbackAt.owns]
  | shutting permit generation =>
    simp only [callbackStep]
    split <;> simp [CallbackAt.raises, CallbackAt.owns, ControlNode.setOutputPermit]
  | answering permit changed =>
    cases changed <;> simp [callbackStep, CallbackAt.raises, CallbackAt.owns]
  | _ => simp [callbackStep, CallbackAt.raises, CallbackAt.owns, ControlNode.setOutputPermit]

/-- The pipeline of the node is as its calls have left it. -/
theorem callbackStep_pipeline (lib : MathLib) (n : ControlNode β) (steadyNs : Int) (callback : CallbackAt) :
    (callback.op = none → (callbackStep B n steadyNs callback).2.pipeline = n.pipeline) ∧
      ∀ op, callback.op = some op →
        (callbackStep B n steadyNs callback).2.pipeline = (exec B lib n.pipeline op).2 := by
  cases callback with
  | answering permit changed => cases changed <;> exact ⟨fun _ => rfl, fun op hop => by cases hop⟩
  | _ =>
    constructor
    · intro hnone
      first | rfl | cases hnone
    · intro op hop
      cases hop
      try rfl

theorem Epoch.calls {p : CommandPipeline β} {p' : CommandPipeline β} {op : Option Op}
    {g : OutputStage β} (h : Epoch (pipelinePast stages) p)
    (hcalls : g.output.calls = op.toList.map (stageOf B lib p)) (hnone : op = none → p' = p)
    (hsome : ∀ o, op = some o → p' = (exec B lib p o).2) : Epoch (pipelinePast (stages ++ [g])) p' := by
  rw [pipelinePast_append, pipelinePast_single, hcalls]
  cases op with
  | none => simpa [hnone rfl] using h
  | some o => simpa [hsome o rfl] using h.step o

variable (B lib) in
theorem OwnedOk.receive (h : OwnedOk mapping stages w) (message : Header) (nowNs : Int) :
    OwnedOk mapping (stages ++ [outputStageOf B lib mapping w (.receive message nowNs)])
      (w.step B lib mapping (.receive message nowNs)).2 := by
  obtain ⟨hepoch, hhandshake, hsink⟩ := h
  have hnone : (w.step B lib mapping (.receive message nowNs)).1.calls = [] := by
    simp only [OutputThreads.step]
    split <;> rfl
  have hepoch' : Epoch (pipelinePast (stages ++ [outputStageOf B lib mapping w
      (.receive message nowNs)])) w.node.pipeline := by
    rw [pipelinePast_append, pipelinePast_single]
    simpa [outputStageOf, hnone] using hepoch
  simp only [OutputThreads.step]
  split
  · rename_i hfree
    have hnode : (beginCallback w.node message nowNs).2.pipeline = w.node.pipeline ∧
        (beginCallback w.node message nowNs).2.permitGeneration = w.node.permitGeneration ∧
        (beginCallback w.node message nowNs).2.ownershipKey = w.node.ownershipKey := by
      unfold beginCallback
      split <;> split <;> exact ⟨rfl, rfl, rfl⟩
    refine ⟨?_, ?_, hsink.aside ⟨rfl, hnode.2.1.ge, .inl hnode.2.2, fun howns => ?_, fun _ => hnone⟩⟩
    · rw [hnode.1]
      exact hepoch'
    · rw [hfree.1] at hhandshake
      exact hhandshake.receive rfl message nowNs
    · -- the sink holds the lock, so this is a legacy message
      have hlegacy : ControlNode.isOwnership message = false := by simpa [howns] using hfree.2
      unfold beginCallback
      rw [if_neg (by simp [hlegacy])]
      split
      · exact ⟨rfl, rfl, rfl, rfl, rfl⟩
      · refine ⟨?_, rfl, rfl, rfl, rfl⟩
        dsimp only
        split <;> rfl
  · exact ⟨hepoch', hhandshake.snoc rfl rfl rfl rfl id,
      hsink.aside ⟨rfl, le_rfl, .inl rfl, fun howns => ⟨hsink.mutex howns, rfl, rfl, rfl, rfl⟩,
        fun _ => hnone⟩⟩

variable (B lib) in
theorem OwnedOk.callback (h : OwnedOk mapping stages w) (steadyNs : Int) :
    OwnedOk mapping (stages ++ [outputStageOf B lib mapping w (.callback steadyNs)])
      (w.step B lib mapping (.callback steadyNs)).2 := by
  obtain ⟨hepoch, hhandshake, hsink⟩ := h
  obtain ⟨hgeneration, hkey, hlater, hfree⟩ := callbackStep_frame (B := B) w.node steadyNs w.callback
  obtain ⟨hsame, hexec⟩ := callbackStep_pipeline (B := B) lib w.node steadyNs w.callback
  have hraised : raisedBy (outputStageOf B lib mapping w (.callback steadyNs)) = w.callback.raises := rfl
  by_cases hwait : (w.callback.op.isSome && w.control.publishes) = true
  · -- the pipeline is locked
    have hstep : w.step B lib mapping (.callback steadyNs) = ({}, w) := by
      simp only [OutputThreads.step, if_pos hwait]
    have hnot : w.callback.raises = none := by
      revert hwait
      cases w.callback <;> simp [CallbackAt.op, CallbackAt.raises]
    rw [hstep]
    refine ⟨?_, hhandshake.snoc (hraised.trans hnot) rfl rfl rfl id,
      hsink.aside ⟨rfl, le_rfl, .inl rfl, fun howns => ⟨hsink.mutex howns, hraised.trans hnot, rfl, rfl,
        rfl⟩, fun _ => by simp [outputStageOf, hstep]⟩⟩
    rw [pipelinePast_append, pipelinePast_single]
    simpa [outputStageOf, hstep] using hepoch
  · have hcalls : (outputStageOf B lib mapping w (.callback steadyNs)).output.calls =
        w.callback.op.toList.map (stageOf B lib w.node.pipeline) := by
      simp only [outputStageOf, OutputThreads.step, if_neg hwait]
      rfl
    have hstep : (w.step B lib mapping (.callback steadyNs)).2 = { w with
        callback := (callbackStep B w.node steadyNs w.callback).1
        node := (callbackStep B w.node steadyNs w.callback).2 } := by
      simp only [OutputThreads.step, if_neg hwait]
    rw [hstep]
    refine ⟨hepoch.calls hcalls hsame hexec, ?_, hsink.aside ⟨rfl, hgeneration, ?_, ?_, ?_⟩⟩
    · refine hhandshake.proceed steadyNs hraised fun op hop => ?_
      rw [hcalls, hop]
      exact ⟨_, List.mem_singleton_self _, rfl⟩
    · by_cases hraises : w.callback.raises = none
      · exact .inl (hkey hraises).1
      · exact .inr (hlater hraises)
    · intro howns
      have howns' := hsink.mutex howns
      have hraises : w.callback.raises = none := by
        revert howns'
        cases w.callback <;> simp [CallbackAt.owns, CallbackAt.raises]
      exact ⟨(hfree howns').1, hraised.trans hraises, (hkey hraises).1, (hkey hraises).2,
        (hfree howns').2⟩
    · intro hpublishes
      rw [hcalls]
      cases hop : w.callback.op with
      | none => rfl
      | some op => simp [hop, hpublishes] at hwait

/-- A step of the control thread that leaves the node alone. -/
theorem OwnedOk.goto (h : OwnedOk mapping stages w) {g : OutputStage β} (hraised : raisedBy g = none)
    (hcalls : g.output.calls = []) {next : OutputAt} {capture : CaptureStream}
    (hsink : SinkOk mapping (stages ++ [g]) w →
      SinkOk mapping (stages ++ [g]) { w with control := next, capture }) :
    OwnedOk mapping (stages ++ [g]) { w with control := next, capture } := by
  obtain ⟨hepoch, hhandshake, hheld⟩ := h
  refine ⟨?_, hhandshake.snoc hraised rfl rfl rfl id, hsink (hheld.aside ⟨rfl, le_rfl, .inl rfl,
    fun howns => ⟨hheld.mutex howns, hraised, rfl, rfl, rfl⟩, fun _ => hcalls⟩)⟩
  rw [pipelinePast_append, pipelinePast_single, hcalls, List.append_nil]
  exact hepoch

variable (B lib) in
theorem OwnedOk.check (h : OwnedOk mapping stages w) (steadyNs : Int) :
    OwnedOk mapping (stages ++ [outputStageOf B lib mapping w (.check steadyNs)])
      (w.step B lib mapping (.check steadyNs)).2 := by
  have hcalls : (w.step B lib mapping (.check steadyNs)).1.calls = [] := by
    simp only [OutputThreads.step]
    split <;> rfl
  have hfree : ∀ next : OutputAt, next.owns = false → next.identity = none → next.approved = [] →
      OwnedOk mapping (stages ++ [outputStageOf B lib mapping w (.check steadyNs)])
        { w with control := next } := by
    intro next howns hidentity happroved
    refine h.goto rfl hcalls fun _ => .free howns (fun identity hat => ?_) fun command hmem => ?_
    · cases hidentity.symm.trans hat
    · rw [show OutputAt.approved _ = [] from happroved] at hmem
      cases hmem
  simp only [OutputThreads.step]
  split
  · split <;> exact hfree _ rfl rfl rfl
  · exact h.goto rfl hcalls id

variable (B lib) in
theorem OwnedOk.call (h : OwnedOk mapping stages w) (op : PipelineCall) :
    OwnedOk mapping (stages ++ [outputStageOf B lib mapping w (.call op)])
      (w.step B lib mapping (.call op)).2 := by
  by_cases hpublishes : w.control.publishes = true
  · have hstep : w.step B lib mapping (.call op) = ({}, w) := by
      simp only [OutputThreads.step, if_pos hpublishes]
    rw [hstep]
    exact h.goto rfl (by simp [outputStageOf, hstep]) id
  · obtain ⟨hepoch, hhandshake, hsink⟩ := h
    have hcalls : (w.step B lib mapping (.call op)).1.calls = w.callsOf B lib (some op.1) := by
      simp only [OutputThreads.step, if_neg hpublishes]
    have hstep : (w.step B lib mapping (.call op)).2 = { w with node := w.node.serve B lib op } := by
      simp only [OutputThreads.step, if_neg hpublishes]
    rw [hstep]
    refine ⟨hepoch.calls hcalls (fun hnone => by cases hnone) fun o ho => ?_,
      hhandshake.snoc rfl rfl rfl rfl id, hsink.aside ⟨rfl, le_rfl, .inl rfl,
        fun howns => ⟨hsink.mutex howns, rfl, rfl, rfl, rfl⟩, fun hon => absurd hon hpublishes⟩⟩
    obtain rfl := Option.some.inj ho
    rfl

/-- What may be published was asked for since the pipeline was closed last. -/
theorem Epoch.recent {past : List (PipelineStage β)} {p : CommandPipeline β} (h : Epoch past p)
    {command : JointCommand} (hheld : Held p command) {g : PipelineStage β} (hg : ¬ ClosesEpoch g) :
    Recent (past ++ [g]) command := by
  obtain ⟨joint, hjoint⟩ := List.isEmpty_eq_false_iff_exists_mem.1 hheld.1
  obtain ⟨-, i, j, -, gj, session, -, -, -, -, -, hdriven⟩ :=
    h.backed joint _ ((holdsPermits_iff p command).1 hheld.2 joint hjoint)
  exact (hdriven.snoc hg).recent

theorem Joined.start {past : List (PipelineStage β)} {owned : JointState} (hname : owned.name = [])
    (hposition : owned.position = []) (hvelocity : owned.velocity = []) :
    Joined mapping past owned [] :=
  ⟨hname, hposition, hvelocity, by simp, by simp⟩

theorem Joined.join {past : List (PipelineStage β)} {owned output : JointState}
    {parts : List (JointCommand × JointState)} (h : Joined mapping past owned parts)
    {command : JointCommand} {rosNow : Stamp} (hpassed : command.passedFinalSdkRtc = true)
    (houtput : outputOf mapping command rosNow = .ok output) (hrecent : Recent past command) :
    Joined mapping past (joinOwned owned output) (parts ++ [(command, output)]) := by
  refine ⟨by simp [joinOwned, h.name], by simp [joinOwned, h.position], by simp [joinOwned, h.velocity],
    fun part hpart => ?_, fun part hpart => ?_⟩
  · rcases List.mem_append.1 hpart with hpart | hpart
    · exact h.passed part hpart
    · obtain rfl := List.mem_singleton.1 hpart
      exact ⟨hpassed, rosNow, houtput⟩
  · rcases List.mem_append.1 hpart with hpart | hpart
    · exact h.recent part hpart
    · obtain rfl := List.mem_singleton.1 hpart
      exact hrecent

/-- The expiry check takes no key over and sets no flag. -/
theorem controlStep_frame (lib : MathLib) (n : ControlNode β) (at_ : ControlAt) :
    (controlStep B n at_).2.ownershipKey = n.ownershipKey ∧
      (controlStep B n at_).2.ownershipPhase = n.ownershipPhase ∧
      (controlStep B n at_).2.interventionActive = n.interventionActive ∧
      ((controlStep B n at_).2.permitEnabled = true → n.permitEnabled = true) ∧
      (at_.op = none → (controlStep B n at_).2.pipeline = n.pipeline) ∧
      ∀ op, at_.op = some op → (controlStep B n at_).2.pipeline = (exec B lib n.pipeline op).2 := by
  cases at_ with
  | closing generation =>
    refine ⟨rfl, rfl, rfl, id, fun hnone => (by cases hnone), fun op hop => ?_⟩
    obtain rfl := Option.some.inj hop
    rfl
  | _ =>
    refine ⟨rfl, rfl, rfl, fun hon => ?_, fun _ => rfl, fun op hop => (by cases hop)⟩
    first | exact hon | cases hon

/-- The sink before its loop. -/
theorem SinkOk.tests (hcallback : w.callback.owns = false) (howned : w.control.owned = none)
    (hplain : w.control.plain = false)
    (hidentity : ∀ identity, w.control.identity = some identity →
      identity.generation ≤ w.node.permitGeneration ∧
        (identity.generation = w.node.permitGeneration → identity.ownership = w.node.ownershipKey))
    (hcurrent : ∀ identity approved publishNs, w.control = .aging identity approved publishNs →
      identity.ownership = w.node.ownershipKey)
    (hgranted : w.control.admitted = true → w.node.interventionActive = true → Granted stages w.node)
    (happroved : ∀ command ∈ w.control.approved, Recent (pipelinePast stages) command) :
    SinkOk mapping stages w := by
  refine ⟨fun _ => hcallback, hidentity, hcurrent, fun owned hat => ?_, hgranted, happroved,
    fun owned hat => ?_, fun hat => ?_, fun owned hat => ?_⟩
  · cases howned.symm.trans hat
  · cases howned.symm.trans hat
  · cases hplain.symm.trans hat
  · cases howned.symm.trans hat

/-- The sink in its loop. -/
theorem SinkOk.sends {owned : JointState} {parts : List (JointCommand × JointState)}
    (hcallback : w.callback.owns = false) (hat : w.control.owned = some owned)
    (hidentity : w.control.identity = none)
    (htagged : owned.header.frameId = w.node.ownershipKey ++ "#")
    (hgranted : w.node.interventionActive = true → Granted stages w.node)
    (happroved : ∀ command ∈ w.control.approved, Recent (pipelinePast stages) command)
    (hjoined : Joined mapping (pipelinePast stages) owned parts)
    (hplain : w.control.plain = true → w.node.interventionActive = false)
    (hactive : owned.name ≠ [] → w.node.interventionActive = true) : SinkOk mapping stages w := by
  have hsame : ∀ message, w.control.owned = some message → message = owned :=
    fun message hmessage => Option.some.inj (hmessage.symm.trans hat)
  refine ⟨fun _ => hcallback, fun identity hnone => ?_, fun identity approved publishNs haging => ?_,
    fun message hmessage => ?_, fun _ => hgranted, happroved, fun message hmessage => ?_, hplain,
    fun message hmessage => ?_⟩
  · cases hidentity.symm.trans hnone
  · rw [haging] at hat
    cases hat
  · rwa [hsame message hmessage]
  · rw [hsame message hmessage]
    exact ⟨parts, hjoined⟩
  · rwa [hsame message hmessage]

theorem SinkOk.emit (h : SinkOk mapping stages w) {command : JointCommand} {rest : List JointCommand}
    {owned : JointState} (hat : w.control = .emitting (command :: rest) owned) (rosNow : Stamp) :
    SinkOk mapping stages { w with
      control := .emit mapping w.node.interventionActive rosNow command rest owned } := by
  have hmutex := h.mutex (by rw [hat]; rfl)
  have htagged := h.tagged owned (by rw [hat]; rfl)
  have hgranted := h.granted (by rw [hat]; rfl)
  have hactive := h.active owned (by rw [hat]; rfl)
  have happroved : ∀ c ∈ command :: rest, Recent (pipelinePast stages) c :=
    fun c hc => h.approved c (by rw [hat]; exact hc)
  obtain ⟨parts, hparts⟩ := h.joined owned (by rw [hat]; rfl)
  have hrest : ∀ c ∈ rest, Recent (pipelinePast stages) c :=
    fun c hc => happroved c (List.mem_cons_of_mem _ hc)
  unfold OutputAt.emit
  split
  · exact .sends hmutex rfl rfl htagged hgranted hrest hparts (fun hnone => by cases hnone) hactive
  · rename_i hpassed
    split
    · exact .free rfl (fun _ hnone => by cases hnone) fun _ hmem => by cases hmem
    · rename_i output houtput
      split
      · rename_i hin
        have hjoined := hparts.join (by simpa using hpassed) houtput (happroved _ List.mem_cons_self)
        exact .sends hmutex rfl rfl htagged hgranted hrest hjoined (fun hnone => by cases hnone)
          fun _ => hin
      · rename_i hplain
        exact .sends hmutex rfl rfl htagged hgranted happroved hparts
          (fun _ => Bool.eq_false_iff.2 hplain) hactive

variable (B lib) in
theorem OwnedOk.control (h : OwnedOk mapping stages w) (moment : OutputMoment) :
    OwnedOk mapping (stages ++ [outputStageOf B lib mapping w (.control moment)])
      (w.step B lib mapping (.control moment)).2 := by
  have hraised : raisedBy (outputStageOf B lib mapping w (.control moment)) = none := rfl
  have hanswer : (outputStageOf B lib mapping w (.control moment)).output =
      (w.advance B lib mapping moment).1 := rfl
  generalize outputStageOf B lib mapping w (.control moment) = g at hraised hanswer ⊢
  simp only [OutputThreads.step]
  obtain ⟨hepoch, hhandshake, hsink⟩ := id h
  unfold OutputThreads.advance at hanswer ⊢
  cases hat : w.control with
  | idle | crashed =>
    simp only [hat] at hanswer ⊢
    exact h.goto hraised (by rw [hanswer]) id
  | expiring at_ =>
    simp only [hat] at hanswer ⊢
    obtain ⟨hkey, hphase, hactive, henabled, hnone, hsome⟩ := controlStep_frame (B := B) lib w.node at_
    refine ⟨hepoch.calls (by rw [hanswer]; rfl) hnone hsome,
      hhandshake.snoc hraised hkey hphase hactive henabled, ?_⟩
    split <;> exact .free rfl (fun _ hnone => by cases hnone) fun _ hmem => by cases hmem
  | capturing =>
    simp only [hat] at hanswer ⊢
    cases howns : w.callback.owns with
    | true =>
      simp only [howns, if_true] at hanswer ⊢
      exact h.goto hraised (by rw [hanswer]) id
    | false =>
      simp only [howns, Bool.false_eq_true, if_false] at hanswer ⊢
      refine h.goto hraised (by rw [hanswer]) fun _ => .free rfl (fun identity hidentity => ?_)
        fun _ hmem => by cases hmem
      obtain rfl := Option.some.inj hidentity
      exact ⟨le_rfl, fun _ => rfl⟩
  | ticking identity =>
    simp only [hat] at hanswer ⊢
    have hidentity := hsink.identity identity (by rw [hat]; rfl)
    refine ⟨hepoch.calls (by rw [hanswer]; rfl) (fun hnone => by cases hnone) fun op hop => ?_,
      hhandshake.snoc hraised rfl rfl rfl id, ?_⟩
    · obtain rfl := Option.some.inj hop
      rfl
    · split
      · refine .free rfl (fun same hsame => ?_) fun _ hmem => by cases hmem
        obtain rfl := Option.some.inj hsame
        exact hidentity
      · exact .free rfl (fun _ hnone => by cases hnone) fun _ hmem => by cases hmem
  | noting identity commands =>
    simp only [hat] at hanswer ⊢
    refine h.goto hraised (by rw [hanswer]) fun hheld => .free rfl (fun same hsame => ?_)
      fun _ hmem => by cases hmem
    obtain rfl := Option.some.inj hsame
    exact hheld.identity _ (by rw [hat]; rfl)
  | publishing identity commands =>
    simp only [hat] at hanswer ⊢
    have hidentity := hsink.identity identity (by rw [hat]; rfl)
    refine ⟨hepoch.calls (by rw [hanswer]; rfl) (fun hnone => by cases hnone) fun op hop => ?_,
      hhandshake.snoc hraised rfl rfl rfl id, ?_⟩
    · obtain rfl := Option.some.inj hop
      rfl
    · split
      · exact .free rfl (fun _ hnone => by cases hnone) fun _ hmem => by cases hmem
      · refine .free rfl (fun same hsame => ?_) fun command hcommand => ?_
        · obtain rfl := Option.some.inj hsame
          exact hidentity
        · rw [pipelinePast_append, pipelinePast_single, hanswer]
          refine hepoch.recent (handed_held lib hepoch.publishable _ hcommand) ?_
          simp [ClosesEpoch, stageOf, Op.closesEpoch]
  | locking identity approved =>
    simp only [hat] at hanswer ⊢
    cases howns : w.callback.owns with
    | true =>
      simp only [howns, if_true] at hanswer ⊢
      exact h.goto hraised (by rw [hanswer]) id
    | false =>
      simp only [howns, Bool.false_eq_true, if_false] at hanswer ⊢
      exact h.goto hraised (by rw [hanswer]) fun hheld => .tests howns rfl rfl
        (fun same hsame => hheld.identity same (by rw [hat]; exact hsame))
        (fun _ _ _ hnone => by cases hnone) (fun hnone => by cases hnone)
        fun command hcommand => hheld.approved command (by rw [hat]; exact hcommand)
  | admitting identity approved publishNs =>
    simp only [hat] at hanswer ⊢
    refine h.goto hraised (by rw [hanswer]) fun hheld => ?_
    split
    · rename_i henabled
      exact .tests (hheld.mutex (by rw [hat]; rfl)) rfl rfl
        (fun same hsame => hheld.identity same (by rw [hat]; exact hsame))
        (fun _ _ _ hnone => by cases hnone)
        (fun _ hin => (hhandshake.armed henabled hin).snoc hraised rfl rfl)
        fun command hcommand => hheld.approved command (by rw [hat]; exact hcommand)
    · exact .free rfl (fun _ hnone => by cases hnone) fun _ hmem => by cases hmem
  | comparing identity approved publishNs =>
    simp only [hat] at hanswer ⊢
    refine h.goto hraised (by rw [hanswer]) fun hheld => ?_
    split
    · rename_i hsame
      have hcurrent := (hheld.identity identity (by rw [hat]; rfl)).2 hsame
      exact .tests (hheld.mutex (by rw [hat]; rfl)) rfl rfl
        (fun same hsame => hheld.identity same (by rw [hat]; exact hsame))
        (fun _ _ _ haging => by cases haging; exact hcurrent)
        (fun _ hin => hheld.granted (by rw [hat]; rfl) hin)
        fun command hcommand => hheld.approved command (by rw [hat]; exact hcommand)
    · exact .free rfl (fun _ hnone => by cases hnone) fun _ hmem => by cases hmem
  | aging identity approved publishNs =>
    simp only [hat] at hanswer ⊢
    refine h.goto hraised (by rw [hanswer]) fun hheld => ?_
    split
    · exact .free rfl (fun _ hnone => by cases hnone) fun _ hmem => by cases hmem
    · have htag := congrArg (· ++ "#") (hheld.current identity approved publishNs hat)
      exact .sends (hheld.mutex (by rw [hat]; rfl)) rfl rfl htag (hheld.granted (by rw [hat]; rfl))
        (fun command hcommand => hheld.approved command (by rw [hat]; exact hcommand))
        (.start rfl rfl rfl) (fun hnone => by cases hnone) fun hsome => absurd rfl hsome
  | emitting rest owned =>
    cases rest with
    | nil =>
      simp only [hat] at hanswer ⊢
      exact h.goto hraised (by rw [hanswer]) fun _ =>
        .free rfl (fun _ hnone => by cases hnone) fun _ hmem => by cases hmem
    | cons command rest =>
      simp only [hat] at hanswer ⊢
      exact h.goto hraised (by rw [hanswer]) fun hheld => hheld.emit hat moment.rosNow
  | routing command output rest owned =>
    simp only [hat] at hanswer ⊢
    refine h.goto hraised (by rw [hanswer]) fun hheld => ?_
    obtain ⟨parts, hparts⟩ := hheld.joined owned (by rw [hat]; rfl)
    exact .sends (hheld.mutex (by rw [hat]; rfl)) rfl rfl (hheld.tagged owned (by rw [hat]; rfl))
      (hheld.granted (by rw [hat]; rfl))
      (fun c hc => hheld.approved c (by rw [hat]; exact List.mem_cons_of_mem _ hc)) hparts
      (fun hnone => by cases hnone) (hheld.active owned (by rw [hat]; rfl))
  | recording command output rest owned =>
    simp only [hat] at hanswer ⊢
    refine h.goto hraised (by rw [hanswer]) fun hheld => ?_
    obtain ⟨parts, hparts⟩ := hheld.joined owned (by rw [hat]; rfl)
    exact .sends (hheld.mutex (by rw [hat]; rfl)) rfl rfl (hheld.tagged owned (by rw [hat]; rfl))
      (hheld.granted (by rw [hat]; rfl))
      (fun c hc => hheld.approved c (by rw [hat]; exact hc)) hparts
      (fun hnone => by cases hnone) (hheld.active owned (by rw [hat]; rfl))

variable (B lib) in
theorem OwnedOk.step (h : OwnedOk mapping stages w) (e : OutputEvent) :
    OwnedOk mapping (stages ++ [outputStageOf B lib mapping w e]) (w.step B lib mapping e).2 := by
  cases e with
  | receive message nowNs => exact h.receive B lib message nowNs
  | callback steadyNs => exact h.callback B lib steadyNs
  | check steadyNs => exact h.check B lib steadyNs
  | control moment => exact h.control B lib moment
  | call op => exact h.call B lib op

end

/-! ## Every run -/

/-- A message for the owner that is published now: the handshake message that was taken over last is
a grant, it is in force and the tag is its key; the parts passed the final RTC, and the request of
each was submitted since. -/
structure OwnedNow (mapping : PublicJointMapping) (stages : List (OutputStage β)) (n : ControlNode β)
    (message : JointState) : Prop where
  owner : ∃ permit since, RaisedLast stages permit since ∧ Stands n permit ∧
    permit.phase = .grant ∧ message.header.frameId = permit.key ++ "#" ∧
    ∃ parts : List (JointCommand × JointState), message.name = parts.flatMap (·.2.name) ∧
      message.position = parts.flatMap (·.2.position) ∧
      (message.velocity = parts.flatMap (·.2.velocity) ∨ message.velocity = []) ∧
      ∀ part ∈ parts, part.1.passedFinalSdkRtc = true ∧
        (∃ rosNow, outputOf mapping part.1 rosNow = .ok part.2) ∧
        ∃ call ∈ pipelinePast since, ∃ request time generation,
          Submitted call part.1.sessionId request time generation

theorem OwnedOk.publishes {stages : List (OutputStage β)} {w : OutputThreads β}
    (h : OwnedOk mapping stages w) {owned message : JointState} {stale : Bool}
    (hat : w.control = .emitting [] owned)
    (hmessage : .joints .owned message ∈ ownedMessage owned stale) :
    OwnedNow mapping stages w.node message := by
  obtain ⟨hname, hheader, hposition, hvelocity, hsome⟩ : message.name = owned.name ∧
      message.header = owned.header ∧ message.position = owned.position ∧
      (message.velocity = owned.velocity ∨ message.velocity = []) ∧ owned.name ≠ [] := by
    unfold ownedMessage at hmessage
    split at hmessage
    · cases hmessage
    · rename_i hout
      have hsome : owned.name ≠ [] := by
        intro hnil
        simp [hnil] at hout
      split at hmessage
      · obtain rfl := (NodeMessage.joints.inj (List.mem_singleton.1 hmessage)).2
        exact ⟨rfl, rfl, rfl, .inr rfl, hsome⟩
      · obtain rfl := (NodeMessage.joints.inj (List.mem_singleton.1 hmessage)).2
        exact ⟨rfl, rfl, rfl, .inl rfl, hsome⟩
  have howned : w.control.owned = some owned := by rw [hat]; rfl
  have hin := h.sink.active owned howned hsome
  obtain ⟨permit, since, hlast, hstands, hgrant, closing, hclosing, hcloses⟩ :=
    h.sink.granted (by rw [hat]; rfl) hin
  obtain ⟨parts, hparts⟩ := h.sink.joined owned howned
  refine ⟨permit, since, hlast, hstands, hgrant, ?_, parts, hname.trans hparts.name,
    hposition.trans hparts.position, hvelocity.imp_left (·.trans hparts.velocity),
    fun part hpart => ⟨(hparts.passed part hpart).1, (hparts.passed part hpart).2, ?_⟩⟩
  · rw [hheader, h.sink.tagged owned howned, hstands.key]
  · -- the pipeline was closed since the grant, and what is recent was asked for later
    obtain ⟨before, g, hsplit, -⟩ := hlast.split
    have hrecent := hparts.recent part hpart
    rw [hsplit, List.append_cons, pipelinePast_append] at hrecent
    exact hrecent.later hclosing hcloses

theorem start_owned (lib : MathLib) (backend : β) (groups : List JointGroupModel)
    (config : CommandPipelineConfig) (instanceId : String) (capture : CaptureStream) : OwnedOk mapping []
      ({ node := ControlNode.start B backend groups config instanceId, capture } : OutputThreads β) where
  epoch := by
    have hinit : Initial (CommandPipeline.create backend groups config) := ⟨_, _, _, rfl⟩
    have hclosed : Epoch ([] ++ [stageOf B lib (CommandPipeline.create backend groups config)
        (.setOutputPermit false 0)]) _ := hinit.epoch.step (.setOutputPermit false 0)
    refine ⟨hclosed.publishable, hclosed.gated, fun id session hsome => ?_, fun joint permit hsome => ?_⟩
    · have hnone := setOutputPermit_false_sessions (B := B)
        (CommandPipeline.create backend groups config) 0 id
      cases hnone.symm.trans hsome
    · cases (Std.TreeMap.getElem?_emptyc (α := String) (β := String × Nat)).symm.trans hsome
  handshake := by
    refine ⟨fun hat => (by cases hat), fun _ hat => (by cases hat), fun hsome => absurd rfl hsome,
      fun _ => rfl, fun hat => (by cases hat), fun hat => (by cases hat), fun hon => by cases hon⟩
  sink := .free rfl (fun _ hnone => by cases hnone) fun _ hmem => by cases hmem

/-- Joint states leave the node in two steps of the sink. -/
theorem joints_published {w : OutputThreads β} {e : OutputEvent} {topic : OutputTopic}
    {message : JointState} (h : .joints topic message ∈ (w.step B lib mapping e).1.messages) :
    (∃ moment owned, e = .control moment ∧ w.control = .emitting [] owned ∧
        .joints topic message ∈ ownedMessage owned (w.node.permitStale moment.steadyNs)) ∨
      (w.control.plain = true ∧ topic ≠ .owned) := by
  cases e with
  | receive message nowNs =>
    simp only [OutputThreads.step] at h
    split at h <;> cases h
  | callback steadyNs =>
    simp only [OutputThreads.step] at h
    split at h <;> cases h
  | check steadyNs =>
    simp only [OutputThreads.step] at h
    split at h <;> cases h
  | call op =>
    simp only [OutputThreads.step] at h
    split at h <;> cases h
  | control moment =>
    simp only [OutputThreads.step, OutputThreads.advance] at h
    cases hat : w.control with
    | emitting rest owned =>
      cases rest with
      | nil =>
        rw [hat] at h
        exact .inl ⟨moment, owned, rfl, rfl, h⟩
      | cons command rest =>
        rw [hat] at h
        cases h
    | routing command output rest owned =>
      rw [hat] at h
      obtain ⟨rfl, -⟩ := NodeMessage.joints.inj (List.mem_singleton.1 h)
      exact .inr ⟨rfl, by split <;> nofun⟩
    | recording command output rest owned =>
      rw [hat] at h
      cases List.mem_singleton.1 h
    | noting identity commands =>
      rw [hat] at h
      simp only [CaptureStream.noteTick] at h
      split at h
      · cases h
      · cases List.mem_singleton.1 h
    | capturing | locking identity approved =>
      rw [hat] at h
      simp only at h
      split at h <;> cases h
    | _ =>
      rw [hat] at h
      cases h

namespace Fixture

/-- The key of the run below. -/
def ownerKey : String := "hc1:a:b:c:motion:"

/-- A handshake message of the key, handled to its end. -/
def handshaken (phase : String) (stampNs steps : Nat) : List OutputEvent :=
  .receive (header (ownerKey ++ "#" ++ phase ++ "#me#x") stampNs) stampNs ::
    List.replicate steps (.callback stampNs)

/-- A Move is submitted for the grant, and a control tick publishes its first command. -/
def ownedRun : List OutputEvent :=
  handshaken "revoke" 1000 6 ++ handshaken "grant" 2000 9 ++
    [.call ⟨endpoint "mv" .moveJ "left" 10, rfl⟩,
      .call ⟨.submitMove "mv" (.moveJ ⟨"m", "left", target leftJoints (1 / 10), {}⟩) 3000 2, rfl⟩,
      .check 4000] ++
    List.replicate 11 (.control ⟨4000, ⟨0, 4000⟩, feedback 0⟩)

def ownedStages : List (OutputStage FakeSdk) :=
  (outputMachine FakeSdk.platform.toPlatform mathLib {}).trace { node := permitStart } ownedRun

def ownedArm : JointState where
  header := ⟨⟨0, 4000⟩, ownerKey ++ "#"⟩
  name := leftJoints
  position := [.fin (1 / 10), .fin (1 / 10)]
  velocity := [.fin 0, .fin 0]

end Fixture

end HumanoidMotion
