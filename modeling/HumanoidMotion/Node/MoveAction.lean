import HumanoidMotion.Lib.Mailboxes
import HumanoidMotion.Motion.Lifecycle
import HumanoidMotion.Node.MoveRequest
import HumanoidMotion.Node.Reservation
/-
# Move actions: workers and the control thread (`humanoid_motion_control_node.cpp`)

Each Move runs in a worker of its own. It waits for the last event of its session,
which the control thread takes from a tick and puts into a table. `MoveAt` names the
step that a worker takes next; one step is one call of the pipeline, or one section
under `event_mutex_`, or none of the two.

| here | there |
| --- | --- |
| `rosStatusCode`, `setStatus` | `ros_status_code` (`:109`), `set_status` (`:146`) |
| `MoveWorker.next`   | `execute_move` (`:1352`), `finish_move` (`:1430`), the abort functions (`:1473`-`:1504`), and the handler of `launch_action` (`:1001`) |
| `mailboxes`         | `waiting_move_sessions_` and `terminal_events_` (`:1886`) |
| `MoveEvent.deliver` | the last block of `control_tick` (`:1742`) |

What the goal handle, the clocks and the feedback answer at a step is part of the event.
-/

namespace HumanoidMotion

/-! ## Results -/

/-- The codes of `humanoid_motion_interfaces::msg::MotionStatus`. -/
inductive RosCode where
  | ok | invalidRequest | notConfigured | lowerPriority | preempted | canceled | timeout
  | stateStale | sdkError | limitViolation | driverFault | internalError
deriving DecidableEq, Repr

def rosStatusCode : StatusCode → RosCode
  | .ok => .ok
  | .invalidArgument => .invalidRequest
  | .notConfigured => .notConfigured
  | .rejected => .lowerPriority
  | .preempted => .preempted
  | .canceled => .canceled
  | .timeout => .timeout
  | .staleFeedback => .stateStale
  | .sdkError => .sdkError
  | .limitViolation => .limitViolation
  | .controlledStop => .driverFault
  | .internalError => .internalError

structure RosStatus where
  code : RosCode
  message : String
deriving DecidableEq, Repr

def setStatus (input : MotionStatus) : RosStatus where
  code := rosStatusCode input.code
  message :=
    if input.sdkApi.isEmpty then input.message
    else input.message ++ " [" ++ input.sdkApi ++
      (if input.sdkCode ≠ -1 then " code=" ++ toString input.sdkCode else "") ++ "]"

/-- The three calls that end a goal. -/
inductive Verdict where
  | succeed | canceled | abort
deriving DecidableEq, Repr

/-- What a goal is ended with. -/
structure MoveReport where
  verdict : Verdict
  status : RosStatus
  finalJointState : JointState := {}
  finalPose : Option StampedTarget := none
deriving DecidableEq, Repr

/-- The verdict and the status for the last event of a session (`:1447`). -/
def verdictOf (event : SessionEvent) : Verdict × RosStatus :=
  match event.state with
  | .succeeded =>
    (.succeed, ⟨.ok, "motion GoalMonitor reached the goal from real feedback"⟩)
  | .canceled => (.canceled, ⟨.canceled, event.status.message⟩)
  | .preempted => (.abort, ⟨.preempted, event.status.message⟩)
  | .aborted => (.abort, setStatus event.status)
  | .pending | .running => (.abort, ⟨.internalError, "non-terminal core event escaped"⟩)

/-! ## A worker -/

/-- The step that is next. -/
inductive MoveAt where
  -- `execute_move_j`, `_l`, `_p`, then `execute_move`
  | preparing
  | checking (request : SessionRequest)
  | registering (request : SessionRequest)
  | submitting (request : SessionRequest)
  | refusing (status : MotionStatus)
  -- the loop (`:1381`)
  | polling (cancelRequested : Bool)
  | canceling
  | timing (cancelRequested : Bool)
  | expiring
  | dropping
  | taking (cancelRequested : Bool)
  | finishing (event : SessionEvent)
  | reporting (cancelRequested : Bool)
  -- after the loop (`:1404`)
  | leaving
  | clearing
  /-- `abort_status` or `abort_core`, still inside the `try`. -/
  | aborting (status : RosStatus)
  -- the handler, with the text of the exception
  | failing (message : String)
  | failDropping (message : String)
  | failAborting (message : String)
  /-- With the report, if a call that ends the goal has returned. -/
  | ended (report : Option MoveReport)
deriving DecidableEq, Repr

structure MoveWorker where
  channel : ChannelConfig
  goal : MoveGoal
  /-- `worker_generation_`. -/
  generation : Nat
  started : SteadyTime := 0
  nextFeedback : SteadyTime := 0
  stage : MoveAt := .preparing
deriving DecidableEq, Repr

/-- What a worker is told in a step. -/
structure MoveAnswers where
  moment : MoveMoment
  /-- `SteadyClock::now()`, and once more when a feedback has been published. -/
  now : SteadyTime := 0
  publishedAt : SteadyTime := 0
  /-- `rclcpp::ok()` and `stopping_`. -/
  rclOk : Bool := true
  stopping : Bool := false
  isCanceling : Bool := false
  isActive : Bool := true
  /-- The message of `feedback_snapshot(false)`, where it is valid. -/
  feedback : Option JointState := none
  /-- Whether `feedback_snapshot(true)` is valid. -/
  fresh : Bool := true
  /-- The exception of the call of the goal handle. -/
  throws : Option String := none

/-- What a step does to the data that is shared. -/
inductive MoveAction where
  | none
  | wait
  | discard
  | take
  | call (op : Op)

def MoveAction.calls : MoveAction → List Op
  | .call op => [op]
  | _ => []

/-- What it is answered. -/
inductive MoveAnswer where
  | none
  | taken (event : Option SessionEvent)
  | called (reply : Reply)

namespace MoveWorker

def action (w : MoveWorker) (id : String) (now : SteadyTime) : MoveAction :=
  match w.stage with
  | .registering _ => .wait
  | .submitting request =>
    .call (.submitMove (policyId w.channel (groupName request)) request now w.generation)
  | .refusing _ | .dropping | .clearing | .failDropping _ => .discard
  | .canceling | .expiring | .leaving | .failing _ => .call (.cancel id)
  | .taking _ => .take
  | _ => .none

section
variable (settings : MoveSettings) (answers : MoveAnswers)

/-- The last feedback under public names; `convert` may throw. -/
def finalState : Except String JointState :=
  match answers.feedback with
  | none => .ok {}
  | some message => settings.mapping.convert message false

/-- `abort_status`, and `abort_core` where the status is one of the pipeline. -/
def abortReport (status : RosStatus) : Except String MoveReport := do
  let finalJointState ← finalState settings answers
  match answers.throws with
  | some exception => .error exception
  | none => return { verdict := .abort, status, finalJointState }

/-- A Cartesian Move also reports the measured pose. -/
def finalPose (w : MoveWorker) : Option StampedTarget :=
  match w.goal, answers.feedback with
  | .moveL group tip .., some message | .moveP group tip .., some message =>
    settings.feedbackPose message group w.channel.baseFrame tip
  | _, _ => none

def finishReport (w : MoveWorker) (event : SessionEvent) : Except String MoveReport := do
  let finalJointState ← finalState settings answers
  let ending := verdictOf event
  match answers.throws with
  | some exception => .error exception
  | none => return { verdict := ending.1, status := ending.2, finalJointState
                     finalPose := w.finalPose settings answers }

/-- `publish_feedback`, as far as it can throw: the message itself leaves the node. -/
def publishFeedback : Except String Unit :=
  if !answers.fresh then .ok ()
  else do
    let _ ← finalState settings answers
    match answers.throws with
    | some exception => .error exception
    | none => .ok ()

/-- Where the `try` goes on after a call that ends the goal. -/
def endOr : Except String MoveReport → MoveAt
  | .ok report => .ended (some report)
  | .error exception => .failing exception

/-- The Move has taken longer than it may. -/
def late (w : MoveWorker) : Bool :=
  decide (settings.effectiveTimeout w.goal.options <
    ((answers.now - w.started : Int) : Rat) / 1000000000)

/-- The worker after its next step, which did its `action` and got `answer` for it. -/
def next (w : MoveWorker) (id : String) (answer : MoveAnswer) : MoveWorker :=
  match w.stage with
  | .preparing =>
    match settings.moveRequest answers.moment w.channel id w.goal with
    | .error message => { w with stage := .aborting ⟨.invalidRequest, message⟩ }
    | .ok request => { w with stage := .checking request }
  | .checking request =>
    if answers.fresh then { w with stage := .registering request }
    else
      let status : RosStatus := ⟨.stateStale, "real JointState feedback is missing or stale"⟩
      { w with stage := .aborting status }
  | .registering request => { w with stage := .submitting request }
  | .submitting _ =>
    match answer with
    | .called (.submission result) =>
      if result.status.ok then
        { w with started := answers.now, nextFeedback := answers.now, stage := .polling false }
      else { w with stage := .refusing result.status }
    | _ => w
  | .refusing status => { w with stage := .aborting (setStatus status) }
  | .polling cancelRequested =>
    if !answers.rclOk || answers.stopping then { w with stage := .leaving }
    else if answers.isCanceling && !cancelRequested then { w with stage := .canceling }
    else { w with stage := .timing cancelRequested }
  | .canceling => { w with stage := .timing true }
  | .timing cancelRequested =>
    if !cancelRequested && w.late settings answers then { w with stage := .expiring }
    else { w with stage := .taking cancelRequested }
  | .expiring => { w with stage := .dropping }
  | .dropping => { w with stage := .aborting ⟨.timeout, "Move exceeded its requested timeout"⟩ }
  | .taking cancelRequested =>
    match answer with
    | .taken (some event) => { w with stage := .finishing event }
    | _ => { w with stage := .reporting cancelRequested }
  | .finishing event =>
    { w with stage := endOr (w.finishReport settings answers event) }
  | .reporting cancelRequested =>
    if answers.now < w.nextFeedback then { w with stage := .polling cancelRequested }
    else match publishFeedback settings answers with
      | .error exception => { w with stage := .failing exception }
      | .ok () => { w with nextFeedback := answers.publishedAt + milliseconds 50
                           stage := .polling cancelRequested }
  | .leaving => { w with stage := .clearing }
  | .clearing => { w with stage := .ended none }
  | .aborting status => { w with stage := endOr (abortReport settings answers status) }
  | .failing message => { w with stage := .failDropping message }
  | .failDropping message => { w with stage := .failAborting message }
  | .failAborting message =>
    if answers.rclOk && answers.isActive then
      { w with stage := .ended (abortReport settings answers ⟨.internalError, message⟩).toOption }
    else { w with stage := .ended none }
  | .ended _ => w

end

end MoveWorker

/-! ## All threads -/

structure MoveThreads (β : Type) where
  pipeline : CommandPipeline β
  mailboxes : Mailboxes String SessionEvent := {}
  /-- The events of the tick that the control thread has made and not handed out. -/
  control : Option (List SessionEvent) := none
  /-- The workers under the ids of their sessions; those that have ended stay. -/
  workers : StringMap MoveWorker := ∅

inductive MoveEvent where
  /-- `launch_action` starts a task. -/
  | launch (channel : ChannelConfig) (goalId : Vector UInt8 16) (goal : MoveGoal) (generation : Nat)
  /-- A worker takes its next step. -/
  | worker (id : String) (answers : MoveAnswers)
  /-- The control thread, idle so far, makes a tick. -/
  | tick (feedback : JointFeedback) (now : SteadyTime)
  | deliver
  /-- A servo target of the control thread. -/
  | servo (endpoint : String) (input : PendingServo) (now : SteadyTime)
  /-- Any other call of the pipeline. -/
  | call (op : Op)

namespace MoveThreads

variable {β : Type}

/-- The calls of the pipeline in a step: at most one. -/
def calls (s : MoveThreads β) : MoveEvent → List Op
  | .launch .. | .deliver => []
  | .worker id answers =>
    match s.workers[id]? with
    | none => []
    | some w => (w.action id answers.now).calls
  | .tick feedback now => if s.control.isNone then [.tick feedback now] else []
  | .servo endpoint input now =>
    [.updateServo endpoint input.request input.freshAt now input.generation]
  | .call op => if op.isOther then [op] else []

def keep (s : MoveThreads β) (id : String) (w : MoveWorker) : MoveThreads β :=
  { s with workers := s.workers.insert id w }

variable (B : Platform β) (lib : MathLib) (settings : MoveSettings)

/-- A worker does what is next. -/
def workerStep (s : MoveThreads β) (id : String) (answers : MoveAnswers) (w : MoveWorker) :
    MoveThreads β :=
  match w.action id answers.now with
  | .none => s.keep id (w.next settings answers id .none)
  | .wait => { s with mailboxes := s.mailboxes.wait id }.keep id (w.next settings answers id .none)
  | .discard =>
    { s with mailboxes := s.mailboxes.discard id }.keep id (w.next settings answers id .none)
  | .take =>
    { s with mailboxes := (s.mailboxes.take id).2 }.keep id
      (w.next settings answers id (.taken (s.mailboxes.take id).1))
  | .call op =>
    { s with pipeline := (exec B lib s.pipeline op).2 }.keep id
      (w.next settings answers id (.called (exec B lib s.pipeline op).1))

def step (s : MoveThreads β) : MoveEvent → MoveThreads β
  | .launch channel goalId goal generation =>
    s.keep (sessionIdOf channel.name goalId) { channel, goal, generation }
  | .worker id answers =>
    match s.workers[id]? with
    | none => s
    | some w => s.workerStep B lib settings id answers w
  | .tick feedback now =>
    if s.control.isNone then
      { s with
        pipeline := (exec B lib s.pipeline (.tick feedback now)).2
        control := some (exec B lib s.pipeline (.tick feedback now)).1.events }
    else s
  | .deliver =>
    match s.control with
    | none => s
    | some events =>
      { s with
        mailboxes := s.mailboxes.deliver SessionEvent.sessionId SessionEvent.isFinal events
        control := none }
  | .servo endpoint input now =>
    { s with pipeline := (exec B lib s.pipeline (.updateServo endpoint input.request input.freshAt now
        input.generation)).2 }
  | .call op => if op.isOther then { s with pipeline := (exec B lib s.pipeline op).2 } else s

end MoveThreads

def moveMachine {β : Type} (B : Platform β) (lib : MathLib) (settings : MoveSettings) :
    Machine (MoveThreads β) MoveEvent Unit := ⟨fun s e => ((), s.step B lib settings e)⟩

end HumanoidMotion
