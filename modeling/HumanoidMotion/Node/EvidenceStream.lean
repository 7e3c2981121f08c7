import HumanoidMotion.Node.MappingRoundTrip
import HumanoidMotion.Node.OwnedOutput
/-
# The capture evidence as a stream

The recorder sees the evidence alone: it must be able to tell from it which
joints were commanded without a gap. A record of a command has the joints under
their public names; an event names them as the model does.

* `notedBy`, `recordedBy` — the steps that look at a tick's commands, and that
  record one of them; `lastNoted`, the commands of the last tick.
* `publicJoint` — a joint of a command under its public name.
* `Streamed` — number, epoch and active joints, as the stream so far tells them.
* `RecordRight` — what a record says.
* `evidence_stream` — over every run: every record is right, and no gap goes unreported.
-/

namespace HumanoidMotion

variable {β : Type} {B : Platform β} {lib : MathLib} {mapping : PublicJointMapping}

/-! ## What the stream tells -/

def NodeMessage.record? : NodeMessage → Option CaptureEvidence
  | evidence record => some record
  | _ => none

/-- The evidence so far, in the order of its publication. -/
def evidenceOf (stages : List (OutputStage β)) : List CaptureEvidence :=
  (published stages).filterMap NodeMessage.record?

/-- The epoch that the records so far have led to. -/
def lastEpoch (start : CaptureEpoch) (records : List CaptureEvidence) : CaptureEpoch :=
  records.foldl (fun epoch record => match record with
    | .event _ sourceEpoch .. => sourceEpoch
    | .command .. => epoch) start

/-- The commands of the tick that the step looks at. -/
def notedBy (g : OutputStage β) : Option (List JointCommand) :=
  match g.input, g.before.control with
  | .control _, .noting _ commands => some commands
  | _, _ => none

/-- The command that the step records. -/
def recordedBy (g : OutputStage β) : Option JointCommand :=
  match g.input, g.before.control with
  | .control _, .recording command .. => some command
  | _, _ => none

/-- The commands of the last tick that was looked at. -/
def lastNoted (stages : List (OutputStage β)) : List JointCommand :=
  stages.foldl (fun last g => (notedBy g).getD last) []

section
variable {stages : List (OutputStage β)} {g : OutputStage β} {joint : String}
  {commands : List JointCommand}

@[simp] theorem lastNoted_snoc : lastNoted (stages ++ [g]) = (notedBy g).getD (lastNoted stages) := by
  simp [lastNoted]

@[simp] theorem evidenceOf_snoc :
    evidenceOf (stages ++ [g]) = evidenceOf stages ++ g.output.messages.filterMap NodeMessage.record? := by
  simp [evidenceOf, published]

theorem foldl_commanded (commands : List JointCommand) (names : StringSet) :
    joint ∈ commands.foldl (fun names command =>
        if command.passedFinalSdkRtc then names.insertMany command.jointNames else names) names ↔
      joint ∈ names ∨ ∃ c ∈ commands, c.passedFinalSdkRtc = true ∧ joint ∈ c.jointNames := by
  induction commands generalizing names with
  | nil => simp
  | cons command commands ih =>
    rw [List.foldl_cons, ih]
    split
    · rename_i hpassed
      simp only [Std.TreeSet.mem_insertMany_list, List.mem_cons, exists_eq_or_imp, hpassed, true_and,
        List.contains_iff_mem, or_assoc]
    · rename_i hpassed
      simp [hpassed]

theorem mem_commandedNames : joint ∈ commandedNames commands ↔
    ∃ c ∈ commands, c.passedFinalSdkRtc = true ∧ joint ∈ c.jointNames := by
  rw [commandedNames, foldl_commanded]
  simp

theorem mem_endedNames {stream : CaptureStream} : joint ∈ stream.endedNames commands ↔
    joint ∈ stream.activeNames ∧ joint ∉ commandedNames commands := by
  simp [CaptureStream.endedNames, Std.TreeSet.mem_toList, ← Std.TreeSet.contains_iff_mem]

end

/-! ## What a step adds -/

namespace OutputAt

/-- The commands of the tick that is under way, once it was looked at. -/
def pending : OutputAt → List JointCommand
  | publishing _ commands => commands
  | recording command _ rest _ => command :: rest
  | control => control.approved

/-- Only commands that passed the final RTC get as far as being recorded, under their public names. -/
def Vetted (mapping : PublicJointMapping) : OutputAt → Prop
  | routing command output .. | recording command output .. =>
    command.passedFinalSdkRtc = true ∧ ∃ rosNow, outputOf mapping command rosNow = .ok output
  | _ => True

end OutputAt

section
variable {w : OutputThreads β}

variable (B lib mapping)

/-- But for the step that looks at them, the commands of a tick only get fewer. -/
theorem pending_step (hissued : PermitsIssued w.node.pipeline) (e : OutputEvent)
    (hnoted : notedBy (outputStageOf B lib mapping w e) = none) {command : JointCommand}
    (hmem : command ∈ (w.step B lib mapping e).2.control.pending) : command ∈ w.control.pending := by
  cases e with
  | control moment =>
    simp only [OutputThreads.step, OutputThreads.advance] at hmem
    cases hat : w.control with
    | noting identity commands => simp [notedBy, outputStageOf, hat] at hnoted
    | publishing identity commands =>
      rw [hat] at hmem
      simp only at hmem
      split at hmem
      · cases hmem
      · exact (publishCommands_handed (B := B) hissued commands moment.steadyNs).1.mem hmem
    | emitting rest owned =>
      cases rest with
      | nil =>
        rw [hat] at hmem
        cases hmem
      | cons first rest =>
        rw [hat] at hmem
        simp only [OutputAt.emit] at hmem
        split at hmem
        · exact List.mem_cons_of_mem _ hmem
        · split at hmem
          · cases hmem
          · split at hmem <;> exact hmem
    | recording recorded output rest owned =>
      rw [hat] at hmem
      exact List.mem_cons_of_mem _ hmem
    | capturing | locking identity approved | expiring at_ | ticking identity
    | admitting identity approved publishNs | comparing identity approved publishNs
    | aging identity approved publishNs =>
      rw [hat] at hmem
      simp only at hmem
      split at hmem <;> first | exact hmem | (rw [hat] at hmem; exact hmem) | cases hmem
    | _ =>
      rw [hat] at hmem
      first | exact hmem | (rw [hat] at hmem; exact hmem)
  | _ =>
    simp only [OutputThreads.step] at hmem
    split at hmem <;> first | exact hmem | (split at hmem <;> cases hmem)

/-- A control thread that stays where it is, or leaves the loop, has vetted what it records. -/
theorem vetted_step (e : OutputEvent) (h : w.control.Vetted mapping) :
    (w.step B lib mapping e).2.control.Vetted mapping := by
  cases e with
  | control moment =>
    simp only [OutputThreads.step, OutputThreads.advance]
    cases hat : w.control with
    | emitting rest owned =>
      cases rest with
      | nil => trivial
      | cons first rest =>
        simp only [OutputAt.emit]
        split
        · trivial
        · rename_i hpassed
          split
          · trivial
          · rename_i output houtput
            have hvetted : first.passedFinalSdkRtc = true := by simpa using hpassed
            split <;> exact ⟨hvetted, moment.rosNow, houtput⟩
    | routing command output rest owned =>
      rw [hat] at h
      exact h
    | capturing | locking identity approved | expiring at_ | ticking identity
    | publishing identity commands | admitting identity approved publishNs
    | comparing identity approved publishNs | aging identity approved publishNs =>
      simp only
      split <;> trivial
    | _ => trivial
  | _ =>
    simp only [OutputThreads.step]
    split <;> first | exact h | (split <;> trivial)

/-- What a step does to the stream. -/
inductive CaptureStep (g : OutputStage β) : Prop
  | quiet (hnoted : notedBy g = none) (hrecorded : recordedBy g = none)
      (hrecords : g.output.messages.filterMap NodeMessage.record? = [])
      (hcapture : g.after.capture = g.before.capture)
  | noted (identity : TickIdentity) (commands : List JointCommand) (moment : OutputMoment)
      (hinput : g.input = .control moment) (hat : g.before.control = .noting identity commands)
      (hmessages : g.output.messages =
        (g.before.capture.noteTick commands moment.steadyNs (sourceStampNs moment.rosNow)).1)
      (hcapture : g.after.capture =
        (g.before.capture.noteTick commands moment.steadyNs (sourceStampNs moment.rosNow)).2)
      (hcontrol : g.after.control = .publishing identity commands)
  | recorded (command : JointCommand) (output : JointState) (rest : List JointCommand)
      (owned : JointState) (moment : OutputMoment) (hinput : g.input = .control moment)
      (hat : g.before.control = .recording command output rest owned)
      (hmessages : g.output.messages = [(g.before.capture.noteCommand output).1])
      (hcapture : g.after.capture = (g.before.capture.noteCommand output).2)

theorem captureStep (w : OutputThreads β) (e : OutputEvent) :
    CaptureStep (outputStageOf B lib mapping w e) := by
  cases e with
  | control moment =>
    cases hat : w.control with
    | noting identity commands =>
      refine .noted identity commands moment rfl hat ?_ ?_ ?_ <;>
        simp [outputStageOf, OutputThreads.step, OutputThreads.advance, hat]
    | recording command output rest owned =>
      refine .recorded command output rest owned moment rfl hat ?_ ?_ <;>
        simp [outputStageOf, OutputThreads.step, OutputThreads.advance, hat]
    | emitting rest owned =>
      cases rest with
      | nil =>
        refine .quiet (by simp [notedBy, outputStageOf, hat]) (by simp [recordedBy, outputStageOf, hat])
          ?_ ?_
        · simp only [outputStageOf, OutputThreads.step, OutputThreads.advance, hat, ownedMessage]
          split <;> rfl
        · simp [outputStageOf, OutputThreads.step, OutputThreads.advance, hat]
      | cons command rest =>
        refine .quiet (by simp [notedBy, outputStageOf, hat]) (by simp [recordedBy, outputStageOf, hat])
          ?_ ?_ <;> simp [outputStageOf, OutputThreads.step, OutputThreads.advance, hat]
    | capturing | locking identity approved =>
      refine .quiet (by simp [notedBy, outputStageOf, hat]) (by simp [recordedBy, outputStageOf, hat])
        ?_ ?_ <;> simp only [outputStageOf, OutputThreads.step, OutputThreads.advance, hat] <;>
        split <;> rfl
    | _ =>
      refine .quiet (by simp [notedBy, outputStageOf, hat]) (by simp [recordedBy, outputStageOf, hat])
        ?_ ?_ <;> simp [outputStageOf, OutputThreads.step, OutputThreads.advance, hat,
          OutputThreads.withPipeline, NodeMessage.record?]
  | _ =>
    refine .quiet rfl rfl ?_ ?_ <;> simp only [outputStageOf, OutputThreads.step] <;> split <;> rfl

end

/-! ## Every run -/

/-- A joint of a command under its public name, its position in the public units; the model's own
where no entry of the mapping has the name. -/
def publicJoint (mapping : PublicJointMapping) (joint : String × Double) : String × Double :=
  let row := mapping.translate false ⟨joint.1, joint.2, none, none⟩
  (row.name, row.position)

/-- A record is numbered by its place. One of a command carries the epoch that the stream has come
to; the command is one of the last tick, and what is recorded are its joints and their positions,
under the public names. One of an event begins an epoch, and names, as the model does, the joints
that the last tick commanded and this one does not. -/
inductive RecordRight (mapping : PublicJointMapping) (start : CaptureEpoch)
    (stages : List (OutputStage β)) (g : OutputStage β) : CaptureEvidence → Prop
  | command (command : JointCommand) (output : JointState) (rosNow : Stamp)
      (hrecorded : recordedBy g = some command) (hpassed : command.passedFinalSdkRtc = true)
      (hnoted : command ∈ lastNoted stages) (houtput : outputOf mapping command rosNow = .ok output)
      (hjoints : (output.name.zip output.position).Perm
        ((command.jointNames.zip command.positionsRad).map (publicJoint mapping))) :
      RecordRight mapping start stages g (.command ((evidenceOf stages).length + 1)
        (lastEpoch start (evidenceOf stages)) (sourceStampNs rosNow) output.name output.position)
  | event (commands : List JointCommand) (names : List String) (steadyNs : SteadyTime) (stampNs : Int)
      (hnoted : notedBy g = some commands) (hsome : names ≠ [])
      (hnames : ∀ joint, joint ∈ names ↔
        joint ∈ commandedNames (lastNoted stages) ∧ joint ∉ commandedNames commands) :
      RecordRight mapping start stages g (.event ((evidenceOf stages).length + 1)
        { lastEpoch start (evidenceOf stages) with steadyNs } stampNs names)

/-- Where the stream stands. -/
structure Streamed (mapping : PublicJointMapping) (start : CaptureEpoch)
    (stages : List (OutputStage β)) (w : OutputThreads β) : Prop where
  sequence : w.capture.sequence = (evidenceOf stages).length
  epoch : w.capture.epoch = lastEpoch start (evidenceOf stages)
  active : w.capture.activeNames = commandedNames (lastNoted stages)
  pending : ∀ command ∈ w.control.pending, command ∈ lastNoted stages
  vetted : w.control.Vetted mapping

section
variable {start : CaptureEpoch} {stages : List (OutputStage β)} {w : OutputThreads β}

/-- The joints of a message, without velocities and efforts. -/
theorem zip_rows {state : JointState} (h : state.position.length = state.name.length) :
    state.name.zip state.position =
      (PublicJointMapping.rows state).map fun row => (row.name, row.position) := by
  refine List.ext_getElem (by simp [PublicJointMapping.rows, h]) fun i hi hi' => ?_
  have hin : i < state.name.length := by simpa [h] using hi
  have hposition : i < state.position.length := by omega
  simp [PublicJointMapping.rows, PublicJointMapping.row, List.getD, hin, hposition]

theorem outputOf_disabled (hdisabled : mapping.enabled = false) (command : JointCommand)
    (rosNow : Stamp) : outputOf mapping command rosNow =
      .ok { header := ⟨rosNow, ""⟩, name := command.jointNames, position := command.positionsRad
            velocity := command.velocitiesRadS } := by
  simp [outputOf, PublicJointMapping.convert, hdisabled]

/-- Without entries the public names are the model's. -/
theorem publicJoint_disabled (hdisabled : mapping.enabled = false) (joint : String × Double) :
    publicJoint mapping joint = joint := by
  have hentries : mapping.entries = [] := by simpa [PublicJointMapping.enabled] using hdisabled
  simp [publicJoint, PublicJointMapping.translate, PublicJointMapping.index, hentries]

/-- What a message says of a joint's position does not depend on its velocity and effort. -/
theorem publicJoint_row (row : PublicJointMapping.JointRow) :
    publicJoint mapping (row.name, row.position) =
      ((mapping.translate false row).name, (mapping.translate false row).position) := by
  unfold publicJoint PublicJointMapping.translate
  dsimp only
  cases mapping.index false row.name <;> rfl

theorem outputOf_stamp {command : JointCommand} {rosNow : Stamp} {output : JointState}
    (h : outputOf mapping command rosNow = .ok output) : output.header.stamp = rosNow := by
  cases henabled : mapping.enabled with
  | false =>
    rw [outputOf_disabled henabled] at h
    cases h
    rfl
  | true =>
    obtain ⟨-, found, -, rfl⟩ := PublicJointMapping.convert_listed henabled h
    rw [PublicJointMapping.listed_eq]

/-- A message for a command has its joints, each under its public name. -/
theorem outputOf_joints {command : JointCommand} {rosNow : Stamp} {output : JointState}
    (h : outputOf mapping command rosNow = .ok output) :
    (output.name.zip output.position).Perm
      ((command.jointNames.zip command.positionsRad).map (publicJoint mapping)) := by
  cases henabled : mapping.enabled with
  | false =>
    rw [outputOf_disabled henabled] at h
    cases h
    rw [show publicJoint mapping = id from funext (publicJoint_disabled henabled), List.map_id]
  | true =>
    obtain ⟨hconvertible, found, hfound, hlisted⟩ := PublicJointMapping.convert_listed henabled h
    have hlength : output.position.length = output.name.length := by
      simp [hlisted, PublicJointMapping.listed_eq]
    have hjoints := (PublicJointMapping.joints_listed hfound hconvertible).map
      fun row => (row.name, row.position)
    rw [← hlisted, ← zip_rows hlength, List.map_map] at hjoints
    rw [show command.jointNames.zip command.positionsRad = _ from zip_rows hconvertible.positions,
      List.map_map]
    simpa only [Function.comp_def, publicJoint_row] using hjoints

theorem lastEpoch_snoc (records : List CaptureEvidence) (record : CaptureEvidence) :
    lastEpoch start (records ++ [record]) = match record with
      | .event _ sourceEpoch .. => sourceEpoch
      | .command .. => lastEpoch start records := by
  simp [lastEpoch]

/-- The loss that a tick reports, if there is one. -/
theorem noteTick_cases (stream : CaptureStream) (commands : List JointCommand)
    (steadyNs : SteadyTime) (stampNs : Int) :
    (stream.endedNames commands = [] ∧ stream.noteTick commands steadyNs stampNs =
        ([], { stream with activeNames := commandedNames commands })) ∨
      (stream.endedNames commands ≠ [] ∧ stream.noteTick commands steadyNs stampNs =
        ([.evidence (.event (stream.sequence + 1) { stream.epoch with steadyNs } stampNs
            (stream.endedNames commands))],
          { activeNames := commandedNames commands, sequence := stream.sequence + 1
            epoch := { stream.epoch with steadyNs } })) := by
  unfold CaptureStream.noteTick
  by_cases hended : stream.endedNames commands = []
  · simp [hended]
  · right
    simp [hended]

theorem mem_record {messages : List NodeMessage} {record : CaptureEvidence} :
    .evidence record ∈ messages ↔ record ∈ messages.filterMap NodeMessage.record? := by
  rw [List.mem_filterMap]
  constructor
  · exact fun h => ⟨_, h, rfl⟩
  · rintro ⟨message, hmem, hrecord⟩
    cases message with
    | joints topic message => cases hrecord
    | evidence other =>
      obtain rfl := Option.some.inj hrecord
      exact hmem

theorem Streamed.step (h : Streamed mapping start stages w) (hissued : PermitsIssued w.node.pipeline)
    (e : OutputEvent) : Streamed mapping start (stages ++ [outputStageOf B lib mapping w e])
      (w.step B lib mapping e).2 := by
  have hvetted := vetted_step B lib mapping e h.vetted
  have hpending := pending_step B lib mapping hissued e
  have hstep : (outputStageOf B lib mapping w e).after = (w.step B lib mapping e).2 := rfl
  have hbefore : (outputStageOf B lib mapping w e).before = w := rfl
  cases captureStep B lib mapping w e with
  | quiet hnoted hrecorded hrecords hcapture =>
    rw [hstep, hbefore] at hcapture
    refine ⟨?_, ?_, ?_, fun command hmem => ?_, hvetted⟩
    · rw [hcapture, evidenceOf_snoc, hrecords, List.append_nil, h.sequence]
    · rw [hcapture, evidenceOf_snoc, hrecords, List.append_nil, h.epoch]
    · rw [hcapture, lastNoted_snoc, hnoted, h.active]
      rfl
    · rw [lastNoted_snoc, hnoted]
      exact h.pending command (hpending hnoted hmem)
  | noted identity commands moment hinput hat hmessages hcapture hcontrol =>
    have hnoted : notedBy (outputStageOf B lib mapping w e) = some commands := by
      simp [notedBy, hinput, hat]
    rw [hstep] at hcapture hcontrol
    rw [hbefore] at hcapture hmessages
    rcases noteTick_cases w.capture commands moment.steadyNs (sourceStampNs moment.rosNow) with
      ⟨-, hnone⟩ | ⟨-, hsome⟩
    · rw [hnone] at hcapture hmessages
      refine ⟨?_, ?_, ?_, fun command hmem => ?_, hvetted⟩
      · rw [hcapture, evidenceOf_snoc, hmessages]
        simp [h.sequence]
      · rw [hcapture, evidenceOf_snoc, hmessages]
        simp [h.epoch]
      · rw [hcapture, lastNoted_snoc, hnoted]
        rfl
      · rw [lastNoted_snoc, hnoted]
        rw [hcontrol] at hmem
        exact hmem
    · rw [hsome] at hcapture hmessages
      refine ⟨?_, ?_, ?_, fun command hmem => ?_, hvetted⟩
      · rw [hcapture, evidenceOf_snoc, hmessages]
        simp [NodeMessage.record?, h.sequence]
      · rw [hcapture, evidenceOf_snoc, hmessages]
        simp [NodeMessage.record?, lastEpoch_snoc]
      · rw [hcapture, lastNoted_snoc, hnoted]
        rfl
      · rw [lastNoted_snoc, hnoted]
        rw [hcontrol] at hmem
        exact hmem
  | recorded command output rest owned moment hinput hat hmessages hcapture =>
    have hnoted : notedBy (outputStageOf B lib mapping w e) = none := by
      simp [notedBy, hinput, hat]
    rw [hstep, hbefore] at hcapture
    rw [hbefore] at hmessages
    refine ⟨?_, ?_, ?_, fun command hmem => ?_, hvetted⟩
    · rw [hcapture, evidenceOf_snoc, hmessages]
      simp [CaptureStream.noteCommand, NodeMessage.record?, h.sequence]
    · rw [hcapture, evidenceOf_snoc, hmessages]
      simp [CaptureStream.noteCommand, NodeMessage.record?, lastEpoch_snoc, h.epoch]
    · rw [hcapture, lastNoted_snoc, hnoted, CaptureStream.noteCommand, h.active]
      rfl
    · rw [lastNoted_snoc, hnoted]
      exact h.pending command (hpending hnoted hmem)

theorem Streamed.right (h : Streamed mapping start stages w) (e : OutputEvent) {record : CaptureEvidence}
    (hmem : .evidence record ∈ (outputStageOf B lib mapping w e).output.messages) :
    RecordRight mapping start stages (outputStageOf B lib mapping w e) record := by
  have hbefore : (outputStageOf B lib mapping w e).before = w := rfl
  cases captureStep B lib mapping w e with
  | quiet hnoted hrecorded hrecords hcapture =>
    rw [mem_record, hrecords] at hmem
    cases hmem
  | noted identity commands moment hinput hat hmessages hcapture hcontrol =>
    have hnoted : notedBy (outputStageOf B lib mapping w e) = some commands := by
      simp [notedBy, hinput, hat]
    rw [hbefore] at hmessages
    rcases noteTick_cases w.capture commands moment.steadyNs (sourceStampNs moment.rosNow) with
      ⟨-, hnone⟩ | ⟨hended, hsome⟩
    · rw [hmessages, hnone] at hmem
      cases hmem
    · rw [hmessages, hsome] at hmem
      obtain rfl := NodeMessage.evidence.inj (List.mem_singleton.1 hmem)
      rw [h.sequence, h.epoch]
      refine .event commands _ _ _ hnoted hended fun joint => ?_
      rw [mem_endedNames, h.active]
  | recorded command output rest owned moment hinput hat hmessages hcapture =>
    rw [hbefore] at hmessages hat
    rw [hmessages] at hmem
    obtain rfl := NodeMessage.evidence.inj (List.mem_singleton.1 hmem)
    rw [h.sequence, h.epoch]
    have hvetted := h.vetted
    rw [hat] at hvetted
    obtain ⟨hpassed, rosNow, houtput⟩ := hvetted
    rw [outputOf_stamp houtput]
    exact .command command output rosNow (by simp [recordedBy, hinput, hbefore, hat]) hpassed
      (h.pending command (by rw [hat]; exact List.mem_cons_self)) houtput (outputOf_joints houtput)

/-- The step reports that the joint is not commanded any more. -/
def ReportsLoss (g : OutputStage β) (joint : String) : Prop :=
  ∃ sequence epoch stampNs names, .evidence (.event sequence epoch stampNs names) ∈ g.output.messages ∧
    joint ∈ names

theorem Streamed.reports (h : Streamed mapping start stages w) (e : OutputEvent)
    {commands : List JointCommand}
    (hnoted : notedBy (outputStageOf B lib mapping w e) = some commands) {joint : String}
    (hbefore : joint ∈ commandedNames (lastNoted stages)) (hnow : joint ∉ commandedNames commands) :
    ReportsLoss (outputStageOf B lib mapping w e) joint := by
  cases captureStep B lib mapping w e with
  | quiet hnone => cases hnone.symm.trans hnoted
  | noted identity noted moment hinput hat hmessages hcapture hcontrol =>
    obtain rfl : noted = commands := by simpa [notedBy, hinput, hat] using hnoted
    have hended : joint ∈ w.capture.endedNames noted := by
      rw [mem_endedNames, h.active]
      exact ⟨hbefore, hnow⟩
    rw [show (outputStageOf B lib mapping w e).before = w from rfl] at hmessages
    rcases noteTick_cases w.capture noted moment.steadyNs (sourceStampNs moment.rosNow) with
      ⟨hnone, -⟩ | ⟨-, hsome⟩
    · rw [hnone] at hended
      cases hended
    · rw [hsome] at hmessages
      exact ⟨_, _, _, _, by rw [hmessages]; exact List.mem_singleton_self _, hended⟩
  | recorded command output rest owned moment hinput hat => simp [notedBy, hinput, hat] at hnoted

end

theorem start_streamed (lib : MathLib) (backend : β) (groups : List JointGroupModel)
    (config : CommandPipelineConfig) (instanceId : String) (start : CaptureEpoch) :
    OwnedOk mapping [] ({ node := ControlNode.start B backend groups config instanceId
                          capture := { epoch := start } } : OutputThreads β) ∧
      Streamed mapping start [] ({ node := ControlNode.start B backend groups config instanceId
                                   capture := { epoch := start } } : OutputThreads β) :=
  ⟨start_owned lib backend groups config instanceId { epoch := start }, rfl, rfl, rfl,
    fun _ hmem => (by cases hmem), trivial⟩

theorem recordedBy_some {g : OutputStage β} {command : JointCommand} (h : recordedBy g = some command) :
    ∃ moment output rest owned, g.input = .control moment ∧
      g.before.control = .recording command output rest owned := by
  obtain ⟨w, e, answer, w'⟩ := g
  cases e with
  | control moment =>
    cases hat : w.control with
    | recording recorded output rest owned =>
      simp only [recordedBy, hat] at h
      obtain rfl := Option.some.inj h
      exact ⟨moment, output, rest, owned, rfl, rfl⟩
    | _ => simp [recordedBy, hat] at h
  | _ => simp [recordedBy] at h

/-- The commands of the last tick, a stage later. -/
theorem lastNoted_take {stages : List (OutputStage β)} {k : Nat} {g : OutputStage β}
    (h : stages[k]? = some g) :
    lastNoted (stages.take (k + 1)) = (notedBy g).getD (lastNoted (stages.take k)) := by
  rw [List.take_add_one, h]
  exact lastNoted_snoc

namespace Fixture

/-- The Move of the owned run is canceled, and the next tick commands nothing. -/
def withdrawnRun : List OutputEvent :=
  ownedRun ++ [.call ⟨.cancel "m", rfl⟩, .check 5000] ++
    List.replicate 3 (.control ⟨5000, ⟨0, 5000⟩, feedback 0⟩)

/-- The left arm has other names outside, and other units. -/
def renamedLeft : PublicJointMapping := ⟨leftJoints.map fun name => ⟨name, "openarm_" ++ name, 2, 1⟩⟩

def withdrawnStages : List (OutputStage FakeSdk) :=
  (outputMachine FakeSdk.platform.toPlatform mathLib renamedLeft).trace { node := permitStart }
    withdrawnRun

end Fixture

end HumanoidMotion
