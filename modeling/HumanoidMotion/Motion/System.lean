import HumanoidMotion.Lib.Machine
import HumanoidMotion.Motion.Tick
/-
# The pipeline as a machine

One input is one call of a public function of `CommandPipeline`. The functions
share one mutex, so every interleaving of callers is a list of such calls.

* `Op`, `Reply` — the calls and their answers. `tick` answers its commands and
  events, or the exception it left with; the publication calls answer what
  reached the sink.
* `machine` — `exec` as a `Machine`; a run starts from `CommandPipeline.create`.
-/

namespace HumanoidMotion

inductive Op where
  | registerEndpoint (policy : EndpointPolicy)
  | submitMove (endpoint : String) (request : SessionRequest) (now : SteadyTime) (generation : Nat)
  | updateServo (endpoint : String) (request : SessionRequest) (receivedAt now : SteadyTime)
      (generation : Nat)
  | setOutputPermit (enabled : Bool) (generation : Nat)
  | cancel (sessionId : String)
  | tick (feedback : JointFeedback) (now : SteadyTime)
  | validateCommandForPublication (command : JointCommand) (now : SteadyTime)
  | publishCommand (command : JointCommand) (now : SteadyTime)
  | publishCommands (commands : List JointCommand) (now : SteadyTime)
deriving DecidableEq, Repr

/-- The time at which a submission is arbitrated. -/
def Op.arbitratedAt : Op → Option SteadyTime
  | submitMove _ _ now _ => some now
  | updateServo _ _ _ now _ => some now
  | _ => none

def Op.isTick : Op → Bool
  | tick .. => true
  | _ => false

inductive Reply where
  | status (status : MotionStatus)
  | submission (result : SubmissionResult)
  | done
  | ticked (result : PipelineTick)
  | threw
  | valid (accepted : Bool)
  | published (ok : Bool) (handed : List Publication)
deriving DecidableEq, Repr

namespace Reply

/-- The commands a tick returned. -/
def commands : Reply → List JointCommand
  | ticked result => result.commands
  | _ => []

/-- The events a tick returned. -/
def events : Reply → List SessionEvent
  | ticked result => result.events
  | _ => []

/-- What reached the sink. -/
def handed : Reply → List Publication
  | published _ handed => handed
  | _ => []

/-- A submission that was not refused. -/
def accepted : Reply → Bool
  | submission result => result.status.ok
  | _ => false

end Reply

variable {β : Type} (B : Platform β) (lib : MathLib)

def exec (s : CommandPipeline β) : Op → Reply × CommandPipeline β
  | .registerEndpoint policy =>
    let r := s.registerEndpoint policy
    (.status r.1, r.2)
  | .submitMove endpoint request now generation =>
    let r := s.submitMove B endpoint request now generation
    (.submission r.1, r.2)
  | .updateServo endpoint request receivedAt now generation =>
    let r := s.updateServo B endpoint request receivedAt now generation
    (.submission r.1, r.2)
  | .setOutputPermit enabled generation => (.done, s.setOutputPermit B enabled generation)
  | .cancel sessionId =>
    let r := s.cancel B sessionId
    (.status r.1, r.2)
  | .tick feedback now =>
    match s.tick B lib feedback now with
    | (.ok result, s') => (.ticked result, s')
    | (.error _, s') => (.threw, s')
  | .validateCommandForPublication command now =>
    let r := s.validatePublicationLocked B command now
    (.valid r.1, r.2)
  | .publishCommand command now =>
    let r := s.publishCommand B command now
    (.published r.1 r.2.1, r.2.2)
  | .publishCommands commands now =>
    let r := s.publishCommands B commands now
    (.published r.1 r.2.1, r.2.2)

def machine : Machine (CommandPipeline β) Op Reply := ⟨exec B lib⟩

/-- What a freshly constructed pipeline looks like. -/
def Initial (s : CommandPipeline β) : Prop :=
  ∃ backend groups config, s = CommandPipeline.create backend groups config

end HumanoidMotion
