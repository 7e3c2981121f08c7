import HumanoidMotion.Motion.Epoch
import HumanoidMotion.Node.PermitThreads
import HumanoidMotion.Node.PublicJointMapping
/-
# What the node publishes (`humanoid_motion_control_node.cpp`)

`control_tick` captures who owns the output, ticks the pipeline, notes which
joints are no longer commanded, and publishes what the pipeline still approves.
The sink of `publishCommands` runs under the lock of the pipeline and under that
of the ownership; the permit callback holds the latter while it moves the
handshake on, and meets the sink at every other load and store.

| here | there |
| --- | --- |
| `CaptureStream`, `CaptureEvidence` | `capture_*_` (`:1879`) and what goes to `capture_evidence_publisher_` |
| `commandedNames`, `noteTick`       | `commanded_names`, `ended_names` (`:1653`) and their evidence |
| `outputOf`, `joinOwned`            | `output` (`:1703`) and its part in `owned_output` (`:1713`) |
| `ownedMessage`                     | the rest of the sink (`:1738`) |
| `OutputAt`, `OutputThreads.advance` | `control_tick` (`:1603`), step by step |

* `outputMachine` — its interleavings with the permit callback and any other
  calls of the pipeline. A step answers the calls it made and what it published.
-/

namespace HumanoidMotion

/-! ## The capture evidence -/

/-- `capture_epoch_`: a reading of the steady clock and the process, with a dash between them. -/
structure CaptureEpoch where
  steadyNs : SteadyTime
  pid : Nat
deriving DecidableEq, Repr

/-- The fields of one record. -/
inductive CaptureEvidence where
  | command (sequence : Nat) (sourceEpoch : CaptureEpoch) (stampNs : Int) (names : List String)
      (positions : List Double)
  /-- The reason is `input_loss`. -/
  | event (sequence : Nat) (sourceEpoch : CaptureEpoch) (stampNs : Int) (names : List String)
deriving DecidableEq, Repr

inductive OutputTopic where
  | jointCommand | vrJointCommand | owned
deriving DecidableEq, Repr

inductive NodeMessage where
  | joints (topic : OutputTopic) (message : JointState)
  | evidence (record : CaptureEvidence)
deriving DecidableEq, Repr

structure CaptureStream where
  sequence : Nat := 0
  epoch : CaptureEpoch := ⟨0, 0⟩
  activeNames : StringSet := ∅

/-- The joints of the commands that passed the final RTC. -/
def commandedNames (commands : List JointCommand) : StringSet :=
  commands.foldl (fun names command =>
    if command.passedFinalSdkRtc then names.insertMany command.jointNames else names) ∅

namespace CaptureStream

/-- The joints that were commanded and are not. -/
def endedNames (self : CaptureStream) (commands : List JointCommand) : List String :=
  self.activeNames.toList.filter fun name => !(commandedNames commands).contains name

def noteTick (self : CaptureStream) (commands : List JointCommand) (steadyNs : SteadyTime)
    (stampNs : Int) : List NodeMessage × CaptureStream :=
  let stream := { self with activeNames := commandedNames commands }
  if (self.endedNames commands).isEmpty then ([], stream)
  else
    let epoch := { self.epoch with steadyNs }
    ([.evidence (.event (self.sequence + 1) epoch stampNs (self.endedNames commands))],
      { stream with sequence := self.sequence + 1, epoch })

def noteCommand (self : CaptureStream) (output : JointState) : NodeMessage × CaptureStream :=
  (.evidence (.command (self.sequence + 1) self.epoch (sourceStampNs output.header.stamp) output.name
    output.position), { self with sequence := self.sequence + 1 })

end CaptureStream

/-! ## The sink -/

/-- `tick_generation` and `tick_ownership`: what a tick holds on to while it works (`:1611`). -/
structure TickIdentity where
  generation : Nat
  ownership : String
deriving DecidableEq, Repr

/-- A command under the public names; `convert` may throw. -/
def outputOf (mapping : PublicJointMapping) (command : JointCommand) (rosNow : Stamp) :
    Except String JointState :=
  mapping.convert
    { header := ⟨rosNow, ""⟩
      name := command.jointNames
      position := command.positionsRad
      velocity := command.velocitiesRadS } false

/-- Both arms go out in one message. -/
def joinOwned (owned output : JointState) : JointState :=
  { owned with
    name := owned.name ++ output.name
    position := owned.position ++ output.position
    velocity := owned.velocity ++ output.velocity }

/-- `owned_output` before the loop (`:1695`). -/
def ownedHeader (identity : TickIdentity) (rosNow : Stamp) : JointState where
  header := ⟨rosNow, identity.ownership ++ "#"⟩

/-- What is published after the loop. -/
def ownedMessage (owned : JointState) (stale : Bool) : List NodeMessage :=
  if owned.name.isEmpty || stale then []
  else [.joints .owned
    (if owned.velocity.length ≠ owned.name.length then { owned with velocity := [] } else owned)]

/-! ## The threads -/

/-- The control thread; each constructor names the step that is next. -/
inductive OutputAt where
  | idle
  | expiring (at_ : ControlAt)
  /-- Generation and key are read under the lock of the ownership. -/
  | capturing
  /-- The queued targets are applied, among the calls of the others, and `tick` is called. -/
  | ticking (identity : TickIdentity)
  | noting (identity : TickIdentity) (commands : List JointCommand)
  | publishing (identity : TickIdentity) (commands : List JointCommand)
  -- under the lock of the pipeline
  | locking (identity : TickIdentity) (approved : List JointCommand)
  -- and under that of the ownership: the three tests, and the loop over the approved commands
  | admitting (identity : TickIdentity) (approved : List JointCommand) (publishNs : SteadyTime)
  | comparing (identity : TickIdentity) (approved : List JointCommand) (publishNs : SteadyTime)
  | aging (identity : TickIdentity) (approved : List JointCommand) (publishNs : SteadyTime)
  | emitting (rest : List JointCommand) (owned : JointState)
  | routing (command : JointCommand) (output : JointState) (rest : List JointCommand)
      (owned : JointState)
  | recording (command : JointCommand) (output : JointState) (rest : List JointCommand)
      (owned : JointState)
  /-- An exception has left `control_tick`. -/
  | crashed

namespace OutputAt

/-- The lock of the ownership is held. -/
def owns : OutputAt → Bool
  | admitting .. | comparing .. | aging .. | emitting .. | routing .. | recording .. => true
  | _ => false

/-- The lock of the pipeline is held between two steps. -/
def publishes : OutputAt → Bool
  | locking .. => true
  | control => control.owns

/-- One turn of the loop over the approved commands, up to where it publishes (`:1698`). -/
def emit (mapping : PublicJointMapping) (intervention : Bool) (rosNow : Stamp)
    (command : JointCommand) (rest : List JointCommand) (owned : JointState) : OutputAt :=
  if !command.passedFinalSdkRtc then .emitting rest owned
  else match outputOf mapping command rosNow with
    | .error _ => .crashed
    | .ok output =>
      if intervention then .recording command output rest (joinOwned owned output)
      else .routing command output rest owned

end OutputAt

namespace CallbackAt

/-- The lock of the ownership is held: from the checks of a handshake message to its renewal. -/
def owns : CallbackAt → Bool
  | revoking _ | raising _ | renewing _ _ => true
  | _ => false

/-- The call of the pipeline that is next. -/
def op : CallbackAt → Option Op
  | closing _ generation | shutting _ generation => some (.setOutputPermit false generation)
  | opening generation | reopening _ generation => some (.setOutputPermit true generation)
  | _ => none

end CallbackAt

def ControlAt.op : ControlAt → Option Op
  | closing generation => some (.setOutputPermit false generation)
  | _ => none

/-- What a step of the control thread reads. -/
structure OutputMoment where
  steadyNs : SteadyTime
  rosNow : Stamp := ⟨0, 0⟩
  feedback : JointFeedback := {}

inductive OutputEvent where
  /-- A message reaches an idle callback thread. -/
  | receive (message : Header) (nowNs : Int)
  | callback (steadyNs : Int)
  /-- The control timer fires: an idle control thread loads `permit_received_`. -/
  | check (steadyNs : Int)
  | control (moment : OutputMoment)
  | call (op : PipelineCall)

structure OutputThreads (β : Type) where
  node : ControlNode β
  callback : CallbackAt := .idle
  control : OutputAt := .idle
  capture : CaptureStream := {}

/-- The calls of the pipeline that a step made, and what it published. -/
structure OutputAnswer (β : Type) where
  calls : List (PipelineStage β) := []
  messages : List NodeMessage := []

namespace OutputThreads

variable {β : Type} (B : Platform β) (lib : MathLib) (mapping : PublicJointMapping)

/-- The stage of the call, if the thread makes one. -/
def callsOf (w : OutputThreads β) (op : Option Op) : List (PipelineStage β) :=
  op.toList.map (stageOf B lib w.node.pipeline)

def withPipeline (w : OutputThreads β) (pipeline : CommandPipeline β) : OutputThreads β :=
  { w with node := { w.node with pipeline } }

/-- The next step of the control thread. -/
def advance (w : OutputThreads β) (moment : OutputMoment) : OutputAnswer β × OutputThreads β :=
  match w.control with
  | .idle | .crashed => ({}, w)
  | .expiring at_ =>
    let next := controlStep B w.node at_
    ({ calls := w.callsOf B lib at_.op },
      { w with node := next.2, control := if next.1 = .idle then .capturing else .expiring next.1 })
  | .capturing =>
    if w.callback.owns then ({}, w)
    else ({}, { w with control := .ticking ⟨w.node.permitGeneration, w.node.ownershipKey⟩ })
  | .ticking identity =>
    let op := Op.tick moment.feedback moment.steadyNs
    let r := exec B lib w.node.pipeline op
    ({ calls := w.callsOf B lib (some op) },
      { w.withPipeline r.2 with
        control := match r.1 with
          | .ticked result => .noting identity result.commands
          | _ => .crashed })
  | .noting identity commands =>
    let noted := w.capture.noteTick commands moment.steadyNs (sourceStampNs moment.rosNow)
    ({ messages := noted.1 },
      { w with capture := noted.2, control := .publishing identity commands })
  | .publishing identity commands =>
    let op := Op.publishCommands commands moment.steadyNs
    let r := exec B lib w.node.pipeline op
    ({ calls := w.callsOf B lib (some op) },
      { w.withPipeline r.2 with
        -- the sink is not called for nothing
        control := if r.1.handedCommands.isEmpty then .idle
          else .locking identity r.1.handedCommands })
  | .locking identity approved =>
    if w.callback.owns then ({}, w)
    else ({}, { w with control := .admitting identity approved moment.steadyNs })
  | .admitting identity approved publishNs =>
    ({}, { w with
      control := if w.node.permitEnabled then .comparing identity approved publishNs else .idle })
  | .comparing identity approved publishNs =>
    ({}, { w with
      control := if identity.generation = w.node.permitGeneration then
          .aging identity approved publishNs
        else .idle })
  | .aging identity approved publishNs =>
    ({}, { w with
      control := if w.node.permitStale publishNs then .idle
        else .emitting approved (ownedHeader identity moment.rosNow) })
  | .emitting [] owned =>
    ({ messages := ownedMessage owned (w.node.permitStale moment.steadyNs) },
      { w with control := .idle })
  | .emitting (command :: rest) owned =>
    ({}, { w with
      control := .emit mapping w.node.interventionActive moment.rosNow command rest owned })
  | .routing command output rest owned =>
    ({ messages := [.joints (if w.node.permitNormal then .jointCommand else .vrJointCommand) output] },
      { w with control := .recording command output rest owned })
  | .recording _ output rest owned =>
    let noted := w.capture.noteCommand output
    ({ messages := [noted.1] }, { w with capture := noted.2, control := .emitting rest owned })

/-- A thread that needs a lock another one holds waits; a legacy message needs none. -/
def step (w : OutputThreads β) : OutputEvent → OutputAnswer β × OutputThreads β
  | .receive message nowNs =>
    if w.callback = .idle ∧ (w.control.owns && ControlNode.isOwnership message) = false then
      ({}, { w with
        callback := (beginCallback w.node message nowNs).1
        node := (beginCallback w.node message nowNs).2 })
    else ({}, w)
  | .callback steadyNs =>
    if w.callback.op.isSome && w.control.publishes then ({}, w)
    else ({ calls := w.callsOf B lib w.callback.op },
      { w with
        callback := (callbackStep B w.node steadyNs w.callback).1
        node := (callbackStep B w.node steadyNs w.callback).2 })
  | .check steadyNs =>
    match w.control with
    | .idle => ({}, { w with
        control := if w.node.permitStale steadyNs then .expiring .exchanging else .capturing })
    | _ => ({}, w)
  | .control moment => w.advance B lib mapping moment
  | .call op =>
    if w.control.publishes then ({}, w)
    else ({ calls := w.callsOf B lib (some op.1) }, { w with node := w.node.serve B lib op })

end OutputThreads

def outputMachine {β : Type} (B : Platform β) (lib : MathLib) (mapping : PublicJointMapping) :
    Machine (OutputThreads β) OutputEvent (OutputAnswer β) := ⟨fun w e => w.step B lib mapping e⟩

abbrev OutputStage (β : Type) := Machine.Stage (OutputThreads β) OutputEvent (OutputAnswer β)

/-- The calls of the pipeline so far. -/
def pipelinePast {β : Type} (stages : List (OutputStage β)) : List (PipelineStage β) :=
  stages.flatMap fun g => g.output.calls

/-- What the node has published so far. -/
def published {β : Type} (stages : List (OutputStage β)) : List NodeMessage :=
  stages.flatMap fun g => g.output.messages

end HumanoidMotion
