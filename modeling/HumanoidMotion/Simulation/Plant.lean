import HumanoidMotion.Lib.Machine
import HumanoidMotion.Types
/-
# The simulated plant (`python/humanoid_motion_server/simulation/plant.py`)

| here | there |
| --- | --- |
| `Joint`                  | `Joint` (`model.py:34`); a missing bound is an infinite one |
| `Slot`                   | the entries of one joint in `positions`, `targets`, `velocities`, `stamps` and `deadlines` |
| `KinematicPlant.create`  | `__init__` (`:11`) |
| `observeClock`           | `observe_clock` (`:31`) |
| `command`, `hold`        | `command` (`:37`), `hold` (`:55`) |
| `step`                   | `step` (`:60`) |

The five dictionaries have the keys of `joints`, so one map holds what they say
about a joint. A deadline of `-inf` is `none`.
-/

namespace HumanoidMotion

/-- Limits and speed of a scalar joint. `joint_metadata` (`model.py:51`) and the gripper
configuration (`configuration.py:161`) refuse a speed that is not positive. -/
structure Joint where
  lower : Option Rat
  upper : Option Rat
  speed : Rat
  speed_pos : 0 < speed
deriving DecidableEq

/-- `joint.lower <= value <= joint.upper`. -/
def Joint.contains (joint : Joint) (value : Rat) : Bool :=
  joint.lower.all (fun lower => decide (lower ≤ value)) &&
    joint.upper.all fun upper => decide (value ≤ upper)

structure Slot where
  joint : Joint
  position : Rat
  target : Rat
  velocity : Rat := 0
  stamp : Int := 0
  deadline : Option Rat := none
deriving DecidableEq

inductive PlantError where
  /-- `watchdog and speed_limit must be positive finite numbers`. -/
  | settings
  /-- The `KeyError` of `initial[name]`. -/
  | missing (name : String)
  /-- `Initial position outside limits: {name}={value}`. -/
  | outside (name : String) (value : Double)
deriving DecidableEq, Repr

structure KinematicPlant where
  slots : StringMap Slot
  watchdog : Rat
  speedLimit : Rat
  lastStep : Option Rat := none
  lastRosNs : Option Int := none

namespace Slot

/-- A joint at rest in `value`. -/
def start (joint : Joint) (value : Rat) : Slot where
  joint := joint
  position := value
  target := value

def hold (slot : Slot) : Slot :=
  { slot with target := slot.position, velocity := 0, deadline := none }

/-- `now >= self.deadlines[name]`. -/
def expired (slot : Slot) (now : Rat) : Bool := slot.deadline.all fun deadline => decide (deadline ≤ now)

/-- How far the joint may go in `dt` (`:71`). -/
def maximum (slot : Slot) (speedLimit dt : Rat) : Rat := min slot.joint.speed speedLimit * dt

/-- One turn of the loop of `step` (`:68`). -/
def step (slot : Slot) (speedLimit now dt : Rat) : Slot :=
  let target := if slot.expired now then slot.position else slot.target
  let distance := target - slot.position
  let maximum := slot.maximum speedLimit dt
  let step := min (max distance (-maximum)) maximum
  { slot with
    target
    position := slot.position + step
    velocity := if 0 < dt then step / dt else 0 }

end Slot

namespace KinematicPlant

/-- `math.isfinite(value) and joint.lower <= value <= joint.upper`. -/
def admits (joint : Joint) (value : Double) : Bool := value.isFinite && joint.contains value.val

def create (joints : StringMap Joint) (initial : StringMap Double) (watchdog speedLimit : Double) :
    Except PlantError KinematicPlant :=
  if !watchdog.isPositive || !speedLimit.isPositive then .error .settings
  else match joints.toList.find? fun joint => !initial.contains joint.1 with
    | some joint => .error (.missing joint.1)
    | none =>
      match joints.toList.find? fun joint => !admits joint.2 (initial.getD joint.1 0) with
      | some joint => .error (.outside joint.1 (initial.getD joint.1 0))
      | none => .ok
        { slots := joints.map fun name joint => .start joint (initial.getD name 0).val
          watchdog := watchdog.val
          speedLimit := speedLimit.val }

def hold (self : KinematicPlant) : KinematicPlant :=
  { self with slots := self.slots.map fun _ slot => slot.hold }

/-- The ROS clock has gone back. -/
def rewound (self : KinematicPlant) (rosNs : Int) : Bool :=
  self.lastRosNs.any fun last => decide (rosNs < last)

def observeClock (self : KinematicPlant) (rosNs : Int) : KinematicPlant :=
  if self.rewound rosNs then
    let held := self.hold
    { held with
      slots := held.slots.map fun _ slot => { slot with stamp := 0 }
      lastRosNs := some rosNs }
  else { self with lastRosNs := some rosNs }

/-- The age of the source in seconds (`:41`). -/
def sourceAge (stampNs rosNs : Int) : Rat := (rosNs - stampNs : Int) / 10 ^ 9

/-- Every entry of the command names a joint, lies within its limits and is newer than what the
joint has (`:44`). -/
def entriesOk (self : KinematicPlant) (entries : List (String × Double)) (stampNs : Int) : Bool :=
  entries.all fun entry => (self.slots[entry.1]?).any fun slot =>
    admits slot.joint entry.2 && decide (slot.stamp < stampNs)

/-- Until when a target that is received now is followed (`:52`). -/
def deadline (self : KinematicPlant) (stampNs rosNs : Int) (monotonicNow : Rat) : Rat :=
  monotonicNow + self.watchdog - max 0 (sourceAge stampNs rosNs)

/-- One turn of the second loop (`:49`). -/
def accept (stampNs : Int) (deadline : Rat) (slots : StringMap Slot) (entry : String × Double) :
    StringMap Slot :=
  slots.modify entry.1 fun slot =>
    { slot with target := entry.2.val, stamp := stampNs, deadline := some deadline }

def command (self : KinematicPlant) (names : List String) (positions : List Double)
    (stampNs rosNs : Int) (monotonicNow : Rat) : Bool × KinematicPlant :=
  let self := self.observeClock rosNs
  if names.isEmpty || names.length ≠ positions.length || !decide names.Nodup then (false, self)
  else
    let age := sourceAge stampNs rosNs
    if stampNs ≤ 0 || age < -1 / 100 || self.watchdog ≤ age then (false, self)
    else if !self.entriesOk (names.zip positions) stampNs then (false, self)
    else (true, { self with
      slots := (names.zip positions).foldl
        (accept stampNs (self.deadline stampNs rosNs monotonicNow)) self.slots })

/-- `now - self.last_step`, and zero before the first step. -/
def elapsed (self : KinematicPlant) (now : Rat) : Rat := (self.lastStep.map (now - ·)).getD 0

def step (self : KinematicPlant) (now : Rat) : KinematicPlant :=
  let dt := self.elapsed now
  let self := { self with lastStep := some now }
  -- a stalled process must not integrate a large catch-up jump
  if dt < 0 || self.watchdog < dt then self.hold
  else { self with slots := self.slots.map fun _ slot => slot.step self.speedLimit now dt }

end KinematicPlant

/-! ## Runs -/

inductive PlantOp where
  | command (names : List String) (positions : List Double) (stampNs rosNs : Int)
      (monotonicNow : Rat)
  | observeClock (rosNs : Int)
  | hold
  | step (now : Rat)

/-- The ROS clock a call has read. -/
def PlantOp.rosNs : PlantOp → Option Int
  | command _ _ _ rosNs _ => some rosNs
  | observeClock rosNs => some rosNs
  | _ => none

/-- What a call returns: `none` for the calls that return nothing. -/
def KinematicPlant.exec (self : KinematicPlant) : PlantOp → Option Bool × KinematicPlant
  | .command names positions stampNs rosNs monotonicNow =>
    let answer := self.command names positions stampNs rosNs monotonicNow
    (some answer.1, answer.2)
  | .observeClock rosNs => (none, self.observeClock rosNs)
  | .hold => (none, self.hold)
  | .step now => (none, self.step now)

def plantMachine : Machine KinematicPlant PlantOp (Option Bool) := ⟨KinematicPlant.exec⟩

end HumanoidMotion
