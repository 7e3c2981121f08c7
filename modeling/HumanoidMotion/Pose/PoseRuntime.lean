import HumanoidMotion.Lib.Machine
import HumanoidMotion.Pose.MoveJPose
/-
# The pose runtime (`python/humanoid_motion_server/pose_runtime.py`)

The node's callbacks run one at a time; a pose and a control request each run on
a worker of their own, and the teleoperation receiver answers service calls in
its own time.

| here | there |
| --- | --- |
| `PoseConfig`, `PoseRuntime` | the configuration and the attributes of `PoseRuntime` (`:20`, `:38`) |
| `callStep`                  | `receiver_control` (`pose_execution.py:183`) |
| `PoseJob.step`              | `execute_pose_with_teleop` (`pose_execution.py:11`) |
| `request`, `tick`           | `PoseRuntime.request` (`:117`), `PoseRuntime.tick` (`:181`) |
| `serve`                     | the receiver's services |

A callback shares with the workers only the cancellation event, which `request`
sets once or, with no pose on a worker, clears; so a callback is one step. What
`execute` returns is the outside's choice, as `execute` is a parameter there.
-/

namespace HumanoidMotion

/-! ## Requests -/

inductive PoseAction where
  | home | executePose | jogJoint | pause | resume | resetReference
deriving DecidableEq, Repr

structure PoseRequest where
  id : String
  action : PoseAction
  robotId : String
  stampNs : Int
  revision : Option String := none
  configurationSha256 : Option String := none
  poseId : Option String := none
  jointName : Option String := none
  deltaRad : Option Double := none
deriving DecidableEq, Repr

/-- What `resolve_joint_jog` returns. -/
structure JointJog where
  goal : PoseGoal
  lowerLimits : List Rat
  upperLimits : List Rat
  jointName : String
  deltaRad : Rat
deriving DecidableEq, Repr

structure ResolvedPose where
  id : String
  name : String
  goals : List PoseGoal
deriving DecidableEq, Repr

structure JogMetadata where
  jointName : String
  deltaRad : Rat
  initialPositionRad : Rat
  targetPositionRad : Rat
deriving DecidableEq, Repr

/-- The payload of `event`, less the identity of the runtime. -/
structure PoseEvent where
  request : PoseRequest
  ok : Bool
  message : String
  /-- Of a pose that has been reached: the results, the pose's id and name, the jog. -/
  reached : Option (List PoseOutput × String × String × Option JogMetadata) := none
  motionMayBeActive : Option Bool := none
deriving DecidableEq, Repr

/-- The configuration; the two resolvers have the pose document in them. -/
structure PoseConfig where
  robotId : String := ""
  revision : String := ""
  configurationSha256 : String := ""
  homePoseId : String := ""
  receiverPresent : Bool := false
  resolveInitialPose : String → Except String ResolvedPose
  resolveJointJog : Option String → Option Double → Except String JointJog

/-! ## The receiver -/

inductive ReceiverService where
  | setEnabled (data : Bool)
  | setMotionActive (data : Bool)
  | resetReference
deriving DecidableEq, Repr

inductive ControlAction where
  | pause | resume | acquire | release | resetReference
deriving DecidableEq, Repr

/-- The table `choices`. -/
def ControlAction.service : ControlAction → ReceiverService
  | .pause => .setEnabled false
  | .resume => .setEnabled true
  | .acquire => .setMotionActive true
  | .release => .setMotionActive false
  | .resetReference => .resetReference

structure ServiceCall where
  number : Nat
  service : ReceiverService
  /-- The number of the request that the call comes from. -/
  origin : Nat
deriving DecidableEq, Repr

structure Receiver where
  enabled : Bool := false
  motionActive : Bool := false
deriving DecidableEq, Repr

def Receiver.handle (r : Receiver) : ReceiverService → Receiver
  | .setEnabled data => { r with enabled := data }
  | .setMotionActive data => { r with motionActive := data }
  | .resetReference => r

/-! ## The workers -/

/-- Where a worker stands in `receiver_control`. -/
inductive CallAt where
  /-- The call has not been sent. -/
  | starting
  | waiting (number : Nat)
  | ended (result : Except PoseError String)
deriving DecidableEq, Repr

/-- Where a worker stands in `execute_pose_with_teleop`. -/
inductive PoseAt where
  | checking
  | acquiring (call : CallAt)
  | leasing
  | rechecking (acquired : Bool)
  | executing (acquired : Bool)
  | releasing (outcome : Except PoseError (List PoseOutput)) (call : CallAt)
  /-- `completed and resume_after and not cancel_event.is_set()` is next. -/
  | deciding (outcome : Except PoseError (List PoseOutput))
  | resuming (outcome : Except PoseError (List PoseOutput)) (call : CallAt)
  | done (outcome : Except PoseError (List PoseOutput))
deriving DecidableEq, Repr

structure ControlJob where
  request : PoseRequest
  action : ControlAction
  origin : Nat
  stage : CallAt := .starting
deriving DecidableEq, Repr

/-- A pose on its worker, with `active_request`, `active_pose` and `active_metadata`. -/
structure PoseJob where
  request : PoseRequest
  pose : ResolvedPose
  metadata : Option JogMetadata
  resumeAfter : Bool
  origin : Nat
  stage : PoseAt := .checking
deriving DecidableEq, Repr

/-- What the outside does in a step of a worker. -/
structure WorkerInput where
  /-- A call of rclpy raises. -/
  raised : Option PoseError := none
  timedOut : Bool := false
  executed : Option (Except PoseError (List PoseOutput)) := none

structure PoseRuntime where
  seen : List String := []
  /-- `none` is `float('-inf')`. -/
  feedbackAt : Option Rat := none
  receiverAt : Option Rat := none
  positions : List (String × Rat) := []
  enabled : Bool := false
  future : Option PoseJob := none
  controlFuture : Option ControlJob := none
  blocked : Bool := false
  stopBeforeNs : Int := 0
  cancelMotion : Bool := false
  /-- How many valid requests have been received. -/
  received : Nat := 0
  -- the service calls on their way, those answered, and the receiver
  calls : Nat := 0
  pending : List ServiceCall := []
  answers : List (Nat × Except String String) := []
  receiver : Receiver := {}
deriving DecidableEq, Repr

namespace PoseRuntime

variable (config : PoseConfig)

/-- One step of `receiver_control`: the call is sent, or its answer is waited for. -/
def callStep (s : PoseRuntime) (service : ReceiverService) (origin : Nat) (input : WorkerInput) :
    CallAt → CallAt × PoseRuntime
  | .starting =>
    match input.raised with
    | some error => (.ended (.error error), s)
    | none => (.waiting s.calls,
        { s with calls := s.calls + 1, pending := s.pending ++ [⟨s.calls, service, origin⟩] })
  | .waiting number =>
    match input.raised with
    | some error => (.ended (.error error), s)
    | none =>
      match s.answers.lookup number with
      | some (.ok message) => (.ended (.ok message), s)
      | some (.error message) => (.ended (.error (motionCommandError message)), s)
      | none =>
        if input.timedOut then
          (.ended (.error (motionCommandError "遥操控制请求超时，状态未知，请查看遥操状态")), s)
        else (.waiting number, s)
  | .ended result => (.ended result, s)

end PoseRuntime

/-- The `finally` block is next, with `acquired` or without. -/
def PoseAt.leave (acquired : Bool) (outcome : Except PoseError (List PoseOutput)) : PoseAt :=
  if acquired then .releasing outcome .starting else .done outcome

/-- The call is over, or goes on. -/
def CallAt.next (call : CallAt) (ok : PoseAt) (failed : PoseError → PoseAt) (going : CallAt → PoseAt) :
    PoseAt :=
  match call with
  | .ended (.ok _) => ok
  | .ended (.error error) => failed error
  | call => going call

namespace PoseJob

variable (config : PoseConfig)

/-- One step of `execute_pose_with_teleop`. -/
def step (job : PoseJob) (s : PoseRuntime) (input : WorkerInput) : PoseAt × PoseRuntime :=
  let cancelled := Except.error (motionCommandError "回位已取消")
  match job.stage with
  | .checking =>
    (if s.cancelMotion then .done cancelled
      else if config.receiverPresent then .acquiring .starting
      else .rechecking false, s)
  | .acquiring call =>
    let (call, s) := s.callStep (ControlAction.service .acquire) job.origin input call
    (call.next .leasing (fun error => .done (.error error)) .acquiring, s)
  | .leasing => (.rechecking true, s)
  | .rechecking acquired =>
    (if s.cancelMotion then .leave acquired cancelled else .executing acquired, s)
  | .executing acquired =>
    (match input.executed with
      | none => .executing acquired
      | some (.ok results) => .leave acquired (.ok results)
      | some (.error error) => .leave (acquired && !error.mayBeActive) (.error error), s)
  | .releasing outcome call =>
    let (call, s) := s.callStep (ControlAction.service .release) job.origin input call
    (call.next (.deciding outcome)
      (fun error => .done (.error
        { message := "未确认遥操控制权释放：" ++ error.message
          isMotionCommandError := true, motionMayBeActive := some true }))
      (.releasing outcome), s)
  | .deciding outcome =>
    (if outcome.isOk && job.resumeAfter && !s.cancelMotion then .resuming outcome .starting
      else .done outcome, s)
  | .resuming outcome call =>
    let (call, s) := s.callStep (ControlAction.service .resume) job.origin input call
    (call.next (.done outcome) (fun error => .done (.error error)) (.resuming outcome), s)
  | .done outcome => (.done outcome, s)

end PoseJob

/-! ## The callbacks -/

/-- The clocks as a callback reads them: `time.time_ns()` twice, and `time.monotonic()`. -/
structure PoseClock where
  nowNs : Int
  stopNs : Int
  monotonic : Rat

/-- A status of the receiver. -/
structure ReceiverStatus where
  sha256 : String
  robotId : String
  enabled : Bool

structure FeedbackMessage where
  stampNs : Int
  name : List String
  position : List Double

namespace PoseRuntime

variable (config : PoseConfig)

def receiverStatus (s : PoseRuntime) (status : ReceiverStatus) (monotonic : Rat) : PoseRuntime :=
  if status.sha256 = config.configurationSha256 ∧ status.robotId = config.robotId then
    { s with receiverAt := some monotonic, enabled := status.enabled }
  else s

def feedback (s : PoseRuntime) (message : FeedbackMessage) (clock : PoseClock) : PoseRuntime :=
  let age : Rat := (clock.nowNs - message.stampNs : Int) / 1000000000
  if !(-1 / 100 ≤ age ∧ age < 1 / 4) ∨ message.name.length ≠ message.position.length ∨
      ¬ message.name.Nodup ∨ !finite message.position then s
  else { s with
    positions := message.name.zip (message.position.map Double.val)
    feedbackAt := some (clock.monotonic - max 0 age) }

/-- `now - at < age`, false of `-inf`. -/
def within (now age : Rat) (since : Option Rat) : Bool := since.any fun since => now - since < age

def fresh (s : PoseRuntime) (now : Rat) : Bool :=
  within now (1 / 4) s.feedbackAt && (!config.receiverPresent || within now 1 s.receiverAt)

def stop (s : PoseRuntime) (nowNs : Int) : PoseRuntime :=
  { s with stopBeforeNs := nowNs, cancelMotion := true }

/-- The checks of `request` (`:121`); a message that is too long, is no such object or asks for
another action is `none`. -/
def validRequest (s : PoseRuntime) (message : Option PoseRequest) (headset : Bool)
    (clock : PoseClock) : Option PoseRequest :=
  message.filter fun request =>
    request.id.length = 32 && !s.seen.contains request.id && request.robotId = config.robotId &&
      |clock.nowNs - request.stampNs| < 2000000000 &&
      if headset then config.receiverPresent &&
        request.configurationSha256 = some config.configurationSha256
      else request.revision = some config.revision

/-- `deque(maxlen=128)`. -/
def remember (seen : List String) (id : String) : List String :=
  (seen ++ [id]).drop (seen.length + 1 - 128)

/-- The pose to execute, and what a jog adds to its event (`:165`). -/
def resolve (s : PoseRuntime) (request : PoseRequest) (ident : String) :
    Except String (ResolvedPose × Option JogMetadata) :=
  if request.action = .jogJoint then
    if s.enabled then .error "请先停止遥操作使能，再执行点动"
    else do
      let jog ← config.resolveJointJog request.jointName request.deltaRad
      let values ← jog.goal.jointNames.mapM fun name =>
        match s.positions.lookup name with
        | some value => .ok value
        | none => .error ("'" ++ name ++ "'")
      let index := jog.goal.jointNames.idxOf jog.jointName
      let start := values.getD index 0
      let target := start + jog.deltaRad
      if !(jog.lowerLimits.getD index 0 ≤ target ∧ target ≤ jog.upperLimits.getD index 0) then
        .error "点动目标超出关节限位"
      else .ok (⟨"joint_jog", "关节点动", [{ jog.goal with positionsRad := values.set index target }]⟩,
        some ⟨jog.jointName, jog.deltaRad, start, target⟩)
  else do
    let pose ← config.resolveInitialPose ident
    .ok (pose, none)

/-- A pose request that no other work stands against (`:156`). -/
def requestPose (s : PoseRuntime) (request : PoseRequest) (origin : Nat) (clock : PoseClock) :
    List PoseEvent × PoseRuntime :=
  let ident := if request.action = .home then config.homePoseId else request.poseId.getD ""
  if request.stampNs ≤ s.stopBeforeNs then
    ([{ request, ok := false, message := "回位请求已被后续暂停取消" }], s)
  else if request.action = .home ∧ request.poseId.getD ident ≠ ident then
    ([{ request, ok := false, message := "回位姿态与运行配置不一致" }], s)
  else match s.resolve config request ident with
    | .error message => ([{ request, ok := false, message }], s)
    | .ok (pose, metadata) =>
      if !s.fresh config clock.monotonic ||
          pose.goals.any fun goal => goal.jointNames.any fun name => (s.positions.lookup name).isNone then
        ([{ request, ok := false, message := "关节反馈或遥操作状态未就绪" }], s)
      else ([], { s with
        cancelMotion := false
        future := some { request, pose, metadata, resumeAfter := s.enabled, origin } })

/-- `pause`, `resume` and `reset_reference` (`:145`). -/
def requestControl (s : PoseRuntime) (request : PoseRequest) (action : ControlAction) (origin : Nat)
    (clock : PoseClock) : List PoseEvent × PoseRuntime :=
  if !config.receiverPresent then
    ([{ request, ok := request.action = .pause, message := "遥操作接收器未启用" }], s)
  else if s.controlFuture.isSome then
    ([{ request, ok := false, message := "控制请求仍在执行" }], s)
  else if !within clock.monotonic 1 s.receiverAt then
    ([{ request, ok := false, message := "遥操作状态已过期" }], s)
  else ([], { s with controlFuture := some { request, action, origin } })

/-- Another action than `pause` waits for the work under way (`:142`). -/
def busy (s : PoseRuntime) : Bool := s.future.isSome || s.controlFuture.isSome || s.blocked

def request (s : PoseRuntime) (message : Option PoseRequest) (headset : Bool) (clock : PoseClock) :
    List PoseEvent × PoseRuntime :=
  match s.validRequest config message headset clock with
  | none => ([], s)
  | some request =>
    let origin := s.received
    let s := { s with seen := remember s.seen request.id, received := s.received + 1 }
    let refused := ([{ request, ok := false, message := "回位仍在执行或等待停止确认" }], s)
    if headset ∧ (request.action = .executePose ∨ request.action = .jogJoint) then
      ([{ request, ok := false, message := "手柄只允许执行已配置的回位姿态" }], s)
    else match request.action with
      | .pause => (s.stop clock.stopNs).requestControl config request .pause origin clock
      | .resume => if s.busy then refused else s.requestControl config request .resume origin clock
      | .resetReference =>
        if s.busy then refused else s.requestControl config request .resetReference origin clock
      | .home | .executePose | .jogJoint =>
        if s.busy then refused else s.requestPose config request origin clock

/-- The first half of `tick`: a control request that is over (`:182`). -/
def reportControl (s : PoseRuntime) : List PoseEvent × PoseRuntime :=
  match s.controlFuture with
  | some { request, stage := .ended (.ok message), .. } =>
    ([{ request, ok := true, message }], { s with controlFuture := none })
  | some { request, stage := .ended (.error error), .. } =>
    ([{ request, ok := false, message := error.message }], { s with controlFuture := none })
  | _ => ([], s)

/-- The second half: a pose that is over (`:188`). -/
def reportPose (s : PoseRuntime) (monotonic : Rat) : List PoseEvent × PoseRuntime :=
  match s.future with
  | none => ([], s)
  | some job =>
    let s := if s.fresh config monotonic then s else { s with cancelMotion := true }
    match job.stage with
    | .done (.ok results) =>
      ([{ request := job.request, ok := true
          message := if job.request.action = .jogJoint then "点动已完成" else "已到达初始姿态"
          reached := some (results, job.pose.id, job.pose.name, job.metadata) }],
        { s with future := none })
    | .done (.error error) =>
      let blocked := error.motionMayBeActive.getD false
      ([{ request := job.request, ok := false, message := error.message
          motionMayBeActive := some blocked }],
        { s with blocked, future := none })
    | _ => ([], s)

def tick (s : PoseRuntime) (monotonic : Rat) : List PoseEvent × PoseRuntime :=
  let (controls, s) := s.reportControl
  let (poses, s) := s.reportPose config monotonic
  (controls ++ poses, s)

/-! ## Steps -/

/-- The receiver handles a call that is on its way. -/
def serve (s : PoseRuntime) (index : Nat) (answer : Except String String) : PoseRuntime :=
  match s.pending[index]? with
  | none => s
  | some call => { s with
      pending := s.pending.eraseIdx index
      answers := s.answers ++ [(call.number, answer)]
      receiver := s.receiver.handle call.service }

def poseStep (s : PoseRuntime) (input : WorkerInput) : PoseRuntime :=
  match s.future with
  | none => s
  | some job =>
    let (stage, s) := job.step config s input
    { s with future := some { job with stage } }

/-- The subscription of `execute` is there. -/
def executing (s : PoseRuntime) : Bool := s.future.any fun job => job.stage matches .executing _

def controlStep (s : PoseRuntime) (input : WorkerInput) : PoseRuntime :=
  match s.controlFuture with
  | none => s
  | some job =>
    let (stage, s) := s.callStep job.action.service job.origin input job.stage
    { s with controlFuture := some { job with stage } }

end PoseRuntime

inductive PoseStep where
  | request (message : Option PoseRequest) (headset : Bool) (clock : PoseClock)
  | receiverStatus (status : ReceiverStatus) (monotonic : Rat)
  | feedback (message : FeedbackMessage) (clock : PoseClock)
  | stop (data : Bool) (nowNs : Int)
  | tick (monotonic : Rat)
  /-- The pose's worker, or the control request's, takes its next step. -/
  | pose (input : WorkerInput)
  | control (input : WorkerInput)
  /-- `execute` sees a stop message and sets the event (`pose_execution.py:84`). -/
  | stopSeen
  | serve (index : Nat) (answer : Except String String)

def PoseRuntime.step (config : PoseConfig) (s : PoseRuntime) : PoseStep → List PoseEvent × PoseRuntime
  | .request message headset clock => s.request config message headset clock
  | .receiverStatus status monotonic => ([], s.receiverStatus config status monotonic)
  | .feedback message clock => ([], s.feedback message clock)
  | .stop data nowNs => ([], if data then s.stop nowNs else s)
  | .tick monotonic => s.tick config monotonic
  | .pose input => ([], s.poseStep config input)
  | .control input => ([], s.controlStep input)
  | .stopSeen => ([], if s.executing then { s with cancelMotion := true } else s)
  | .serve index answer => ([], s.serve index answer)

def runtimeMachine (config : PoseConfig) : Machine PoseRuntime PoseStep (List PoseEvent) :=
  ⟨PoseRuntime.step config⟩

end HumanoidMotion
