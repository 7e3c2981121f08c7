import HumanoidMotion.Lib.Wp
import HumanoidMotion.Types
/-
# Pose execution (`python/humanoid_motion_server/pose_execution.py`)

`execute_move_j_pose` sends one MoveJ goal for each part of a pose and waits for
all of them. What it raises says whether a goal may still be moving.

| here | there |
| --- | --- |
| `PoseError`        | `MotionCommandError` and other exceptions (`:7`) |
| `spinUntil`        | `_spin_until` (`:52`) |
| `collectOne`       | one turn of the loop over the acceptances (`:106`) |
| `awaitResults`     | the loop that waits for the results (`:123`) |
| `settle`           | the loop of the cleanup (`:154`) |
| `executeMoveJPose` | `execute_move_j_pose` (`:61`) |

The function drives its own executor, so futures complete inside `spin_once`
only; the cancellation event and the clock may say anything whenever they are
read. A loop that is not over when `fuel` runs out leaves through `unfinished`.
-/

namespace HumanoidMotion

/-! ## Goals and answers -/

structure PoseGoal where
  channel : String
  endpoint : String
  group : String
  jointNames : List String
  positionsRad : List Rat
  velocityScale : Rat
  accelerationScale : Rat
  jerkScale : Rat
  timeoutSec : Rat
deriving DecidableEq, Repr

/-- `MoveJ.Goal`. -/
structure MoveJGoal where
  groupName : String
  name : List String
  position : List Rat
  velocityScale : Rat
  accelerationScale : Rat
  jerkScale : Rat
  timeoutSec : Rat
deriving DecidableEq, Repr

def moveJGoal (target : PoseGoal) : MoveJGoal where
  groupName := target.group
  name := target.jointNames
  position := target.positionsRad
  velocityScale := target.velocityScale
  accelerationScale := target.accelerationScale
  jerkScale := target.jerkScale
  timeoutSec := target.timeoutSec

/-- A wrapped result: the goal's status, and the result's status and final joint state. -/
structure WrappedResult where
  status : Int
  code : Int
  message : String := ""
  name : List String := []
  position : List Rat := []
deriving DecidableEq, Repr

/-- `GoalStatus.STATUS_SUCCEEDED`. -/
def statusSucceeded : Int := 4

structure PoseOutput where
  channel : String
  endpoint : String
  group : String
  goalStatus : Int
  statusCode : Int
  message : String
  name : List String
  position : List Rat
deriving DecidableEq, Repr

structure PoseError where
  message : String
  isMotionCommandError : Bool := false
  /-- The attribute, where it has been set. -/
  motionMayBeActive : Option Bool := none
deriving DecidableEq, Repr

def motionCommandError (message : String) : PoseError := { message, isMotionCommandError := true }

/-- `getattr(error, 'motion_may_be_active', not isinstance(error, MotionCommandError))`. -/
def PoseError.mayBeActive (error : PoseError) : Bool :=
  error.motionMayBeActive.getD (!error.isMotionCommandError)

inductive PoseExit where
  | raised (error : PoseError)
  | unfinished
deriving DecidableEq, Repr

/-! ## The outside -/

/-- A future that completes: the acceptance of a goal, or its result. -/
inductive Arrival where
  | acceptance (goal : Nat) (answer : Except String Bool)
  | result (goal : Nat) (answer : Except String WrappedResult)

/-- What rclpy, the servers and the other threads do; goals go by their number. -/
structure PoseEnv where
  setup : Except String Unit := .ok ()
  waitForServer : Nat → Except String Bool := fun _ => .ok true
  sendGoal : Nat → Except String Unit := fun _ => .ok ()
  /-- `get_result_async` of the goal's handle, in the cleanup or before it. -/
  getResult : (late : Bool) → Nat → Except String Unit := fun _ _ => .ok ()
  cancelGoal : Nat → Except String Unit := fun _ => .ok ()
  /-- What the `n`th `spin_once` completes. -/
  spin : Nat → Except String (List Arrival)
  /-- The `n`th reading of the cancellation event. -/
  cancelSet : Nat → Bool := fun _ => false
  /-- The `n`th reading of `time.monotonic()`. -/
  monotonic : Nat → Rat
  /-- `Status.OK`. -/
  statusOk : Int := 0

inductive PoseCall where
  | setup | waitForServer | sendGoal | spinOnce
  | getResult (goal : Nat)
  | cancelGoal (goal : Nat)
deriving DecidableEq, Repr

structure PoseRun where
  reads : Nat := 0
  ticks : Nat := 0
  spins : Nat := 0
  sent : List MoveJGoal := []
  /-- The content of the acceptance futures, and of the result futures. -/
  acceptances : Nat → Option (Except String Bool) := fun _ => none
  answers : Nat → Option (Except String WrappedResult) := fun _ => none
  /-- The calls that have raised, in the cleanup (`true`) or before it. -/
  log : List (Bool × PoseCall) := []
  -- the variables of the function; a handle or a future is the number of its goal
  acceptance : List Nat := []
  accepted : List Nat := []
  results : List Nat := []
  errors : List String := []
  processed : List Nat := []
  canceled : List Nat := []
  uncertain : Bool := false

abbrev PoseProg (α : Type) := Prog PoseRun PoseExit α

namespace PoseRun

/-- A future completes once. -/
def deliver (s : PoseRun) : Arrival → PoseRun
  | .acceptance goal answer =>
    if goal ∈ s.acceptance ∧ s.acceptances goal = none then
      { s with acceptances := Function.update s.acceptances goal (some answer) }
    else s
  | .result goal answer =>
    if goal ∈ s.results ∧ s.answers goal = none then
      { s with answers := Function.update s.answers goal (some answer) }
    else s

/-- `all(f.done() for f in acceptance + results)`. -/
def allDone (s : PoseRun) : Bool :=
  s.acceptance.all (fun goal => (s.acceptances goal).isSome) &&
    s.results.all fun goal => (s.answers goal).isSome

/-- The future is done, and not with an exception. -/
def fine {α : Type} : Option (Except String α) → Bool
  | some (.ok _) => true
  | _ => false

/-- The future is done, not with an exception, and its handle is `accepted`. -/
def granted : Option (Except String Bool) → Bool
  | some (.ok true) => true
  | _ => false

/-- `not any(not f.done() or f.exception() for f in acceptance + results)`. -/
def allFine (s : PoseRun) : Bool :=
  s.acceptance.all (fun goal => fine (s.acceptances goal)) &&
    s.results.all fun goal => fine (s.answers goal)

end PoseRun

section
variable (env : PoseEnv)

def raise {α : Type} (message : String) : PoseProg α := throw (.raised (motionCommandError message))

/-- A call that ends as the outside decides. -/
def invoke {α : Type} (late : Bool) (call : PoseCall) : Except String α → PoseProg α
  | .ok a => pure a
  | .error message => do
    modify fun s => { s with log := s.log ++ [(late, call)] }
    throw (.raised { message })

/-- `cancel_event.is_set()`. -/
def isSet : PoseProg Bool := modifyGet fun s => (env.cancelSet s.reads, { s with reads := s.reads + 1 })

def monotonic : PoseProg Rat := modifyGet fun s => (env.monotonic s.ticks, { s with ticks := s.ticks + 1 })

def spinOnce (late : Bool) : PoseProg Unit := do
  let n ← modifyGet fun s => (s.spins, { s with spins := s.spins + 1 })
  let arrivals ← invoke late .spinOnce (env.spin n)
  modify fun s => arrivals.foldl PoseRun.deliver s

def spinUntil : Nat → Rat → PoseProg Bool
  | 0, _ => throw .unfinished
  | fuel + 1, deadline => do
    let s ← get
    if s.acceptance.all fun goal => (s.acceptances goal).isSome then pure true
    else do
      let now ← monotonic env
      if deadline - now ≤ 0 then pure false
      else do
        spinOnce env false
        spinUntil fuel deadline

/-! ## The function -/

variable (goals : List PoseGoal)

def endpointOf (goal : Nat) : String := (goals[goal]?.map (·.endpoint)).getD ""

def prepareOne (goal : Nat) : PoseProg Unit := do
  if ← isSet env then raise "回位已取消"
  else if !(← invoke false .waitForServer (env.waitForServer goal)) then
    raise ("MoveJ 接口不可用: " ++ endpointOf goals goal)
  else pure ()

def sendOne (goal : Nat) : PoseProg Unit := do
  invoke false .sendGoal (env.sendGoal goal)
  modify fun s => { s with
    sent := s.sent ++ (goals[goal]?.map moveJGoal).toList
    acceptance := s.acceptance ++ [goal] }

def collectOne (goal : Nat) : PoseProg Unit := do
  let s ← get
  match s.acceptances goal with
  | none => pure ()
  | some (.error message) => set { s with errors := s.errors ++ [message] }
  | some (.ok false) => set { s with errors := s.errors ++ ["MoveJ 拒绝目标: " ++ endpointOf goals goal] }
  | some (.ok true) => do
    set { s with accepted := s.accepted ++ [goal] }
    invoke false (.getResult goal) (env.getResult false goal)
    modify fun s => { s with results := s.results ++ [goal] }

/-- A future that is done and is no success. -/
def failed : Option (Except String WrappedResult) → Bool
  | none => false
  | some (.error _) => true
  | some (.ok wrapped) => wrapped.status != statusSucceeded || wrapped.code != env.statusOk

def awaitResults : Nat → Rat → PoseProg Unit
  | 0, _ => throw .unfinished
  | fuel + 1, deadline => do
    let s ← get
    if s.results.all fun goal => (s.answers goal).isSome then pure ()
    else if ← isSet env then raise "回位已取消"
    else do
      let now ← monotonic env
      if deadline ≤ now then raise "回位执行超时"
      else do
        spinOnce env false
        let s ← get
        if s.results.any fun goal => failed env (s.answers goal) then
          raise "部分关节组回位失败，已请求取消其余目标"
        else awaitResults fuel deadline

/-- One turn of the loop over the results (`:134`). -/
def outputOne (pair : Nat × Nat) : PoseProg PoseOutput := do
  let s ← get
  let target := goals.getD pair.1 ⟨"", "", "", [], [], 0, 0, 0, 0⟩
  match s.answers pair.2 with
  | none => throw (.raised { message := "" })
  | some (.error message) => throw (.raised { message })
  | some (.ok wrapped) =>
    if failed env (some (.ok wrapped)) then
      raise (target.group ++ " 未到达初始姿态: " ++ wrapped.message)
    else pure {
      channel := target.channel, endpoint := target.endpoint, group := target.group
      goalStatus := wrapped.status, statusCode := wrapped.code, message := wrapped.message
      name := wrapped.name, position := wrapped.position }

def outputs : List (Nat × Nat) → PoseProg (List PoseOutput)
  | [] => pure []
  | pair :: rest => do
    let output ← outputOne env goals pair
    let others ← outputs rest
    pure (output :: others)

/-- `max(float(g['timeout_sec']) for g in goals)`. -/
def longestTimeout : Rat := (goals.map (·.timeoutSec)).max?.getD 0

/-- The `try` block. -/
def body (fuel : Nat) : PoseProg (List PoseOutput) := do
  invoke false .setup env.setup
  (List.range goals.length).forM (prepareOne env goals)
  if ← isSet env then raise "回位已取消"
  else do
    (List.range goals.length).forM (sendOne env goals)
    let now ← monotonic env
    let complete ← spinUntil env fuel (now + 5)
    let sent ← get
    sent.acceptance.forM (collectOne env goals)
    let s ← get
    if !complete then raise "等待 MoveJ 接收目标超时"
    else if !s.errors.isEmpty then raise ("; ".intercalate s.errors)
    else do
      let now ← monotonic env
      awaitResults env fuel (now + longestTimeout goals + 10)
      let s ← get
      outputs env goals (s.accepted.zip s.results)

/-! ## The cleanup -/

/-- One turn of the loop over late acceptances (`:156`). -/
def lateAcceptance (goal : Nat) : PoseProg Unit := do
  let s ← get
  if PoseRun.granted (s.acceptances goal) ∧ goal ∉ s.processed then do
    set { s with processed := s.processed ++ [goal], accepted := s.accepted ++ [goal] }
    invoke true (.getResult goal) (env.getResult true goal)
    modify fun s => { s with results := s.results ++ [goal] }
  else pure ()

/-- Whatever was raised, the motion is uncertain. -/
def doubt : PoseExit → PoseProg Unit
  | .raised _ => modify fun s => { s with uncertain := true }
  | .unfinished => throw .unfinished

/-- One turn of the loop over handles and results, which it pairs by position (`:164`). -/
def cancelOne (pair : Nat × Nat) : PoseProg Unit := do
  let s ← get
  if (s.answers pair.2).isNone ∧ pair.1 ∉ s.canceled then do
    set { s with canceled := s.canceled ++ [pair.1] }
    tryCatch (invoke true (.cancelGoal pair.1) (env.cancelGoal pair.1)) doubt
  else pure ()

def settle : Nat → Rat → PoseProg Unit
  | 0, _ => throw .unfinished
  | fuel + 1, deadline => do
    let s ← get
    s.acceptance.forM (lateAcceptance env)
    let s ← get
    (s.accepted.zip s.results).forM (cancelOne env)
    let s ← get
    if s.allDone then pure ()
    else do
      let now ← monotonic env
      if deadline ≤ now then pure ()
      else do
        spinOnce env true
        settle fuel deadline

def cleanup (fuel : Nat) : PoseProg Unit := do
  modify fun s => { s with processed := s.accepted, canceled := [] }
  let now ← monotonic env
  let s ← get
  if !s.acceptance.isEmpty then settle env fuel (now + 5) else pure ()
  modify fun s => { s with uncertain := s.uncertain || !s.allFine }

def conclude {α : Type} (fuel : Nat) (original : PoseError) : PoseProg α := do
  tryCatch (cleanup env fuel) doubt
  let s ← get
  throw <| .raised
    { message := if s.uncertain then
          original.message ++ "；未确认全部目标停止，遥操保持暂停，请检查运动服务"
        else original.message
      isMotionCommandError := true
      motionMayBeActive := some s.uncertain }

def executeMoveJPose (fuel : Nat) : PoseProg (List PoseOutput) :=
  if goals.isEmpty then raise "初始姿态没有可执行目标"
  else tryCatch (body env goals fuel) fun
    | .raised original => conclude env fuel original
    | .unfinished => throw .unfinished

end

end HumanoidMotion
