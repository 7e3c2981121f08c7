import HumanoidMotion.Types
import HumanoidMotion.Lib.Selection
import Mathlib.Data.List.Sort
/-
# The joint-name conflict arbiter (`arbitration/control_arbiter.cpp`)

| here | there |
| --- | --- |
| `overlaps`             | `overlaps` (`:12`) |
| `ClaimState.expired`   | the lease test of `computeWinners` (`:78`) and `removeExpiredServos` (`:136`) |
| `ClaimState.outranks`  | the comparator of `std::sort` (`:85`): priority, receipt time, sequence |
| `computeWinners`       | `ControlArbiter::computeWinners` (`:72`) |
| `removePreemptedMoves` | `ControlArbiter::removePreemptedMoves` (`:111`) |
| `removeExpiredServos`  | `ControlArbiter::removeExpiredServos` (`:131`) |
| `submitMove`, `updateServo`, `evaluate`, `release` | the operations (`:157`, `:189`, `:218`, `:224`) |
-/

namespace HumanoidMotion

structure EndpointPolicy where
  endpointName : String
  kind : MotionKind := .moveJ
  groupName : String
  priority : Int := 0
  servoLease : Duration := milliseconds 100
deriving DecidableEq, Repr

structure CommandClaim where
  sessionId : String
  endpointName : String
  groupName : String
  kind : MotionKind := .moveJ
  jointNames : List String
deriving DecidableEq, Repr

structure ArbitrationResult where
  status : MotionStatus := {}
  admitted : Bool := false
  winnerSessionIds : List String := []
  preemptedMoveIds : List String := []
  expiredServoIds : List String := []
deriving DecidableEq, Repr

structure ClaimState where
  claim : CommandClaim
  priority : Int := 0
  receiveSequence : Nat := 0
  receivedAt : SteadyTime := 0
  lease : Duration := milliseconds 100
deriving DecidableEq, Repr

def overlaps (left right : List String) : Bool := right.any left.contains

namespace ClaimState

/-- A servo claim whose lease has run out at `now`. -/
def expired (now : SteadyTime) (state : ClaimState) : Bool :=
  isServo state.claim.kind && decide (state.lease ≤ now - state.receivedAt)

/-- The order of the winner selection: higher priority first, then the later receipt. -/
def outranks (left right : ClaimState) : Bool :=
  if left.priority ≠ right.priority then right.priority < left.priority
  else if left.receivedAt ≠ right.receivedAt then right.receivedAt < left.receivedAt
  else right.receiveSequence < left.receiveSequence

def conflicts (candidate winner : ClaimState) : Bool :=
  overlaps candidate.claim.jointNames winner.claim.jointNames

end ClaimState

structure ControlArbiter where
  policies : StringMap EndpointPolicy := ∅
  claims : StringMap ClaimState := ∅
  nextSequence : Nat := 1

namespace ControlArbiter

def registerEndpoint (self : ControlArbiter) (policy : EndpointPolicy) :
    MotionStatus × ControlArbiter :=
  if policy.endpointName.isEmpty || policy.groupName.isEmpty then
    ({ code := .invalidArgument, message := "endpoint and group names must be non-empty" }, self)
  else if isServo policy.kind && decide (policy.servoLease ≤ 0) then
    ({ code := .invalidArgument, message := "servo lease must be positive" }, self)
  else if self.policies.contains policy.endpointName then
    ({ code := .invalidArgument,
       message := "duplicate endpoint policy: " ++ policy.endpointName }, self)
  else
    (.Ok, { self with policies := self.policies.insert policy.endpointName policy })

def validateClaim (self : ControlArbiter) (claim : CommandClaim) (servo : Bool) : MotionStatus :=
  if claim.sessionId.isEmpty || claim.endpointName.isEmpty || claim.groupName.isEmpty then
    { code := .invalidArgument, message := "claim identity and group must be non-empty" }
  else if claim.jointNames.isEmpty then
    { code := .invalidArgument, message := "claim joint_names must not be empty" }
  else if !uniqueNonEmpty claim.jointNames then
    { code := .invalidArgument, message := "claim joint_names must be non-empty and unique" }
  else match self.policies[claim.endpointName]? with
    | none =>
      { code := .notConfigured, message := "no policy for endpoint: " ++ claim.endpointName }
    | some policy =>
      if policy.kind ≠ claim.kind || policy.groupName ≠ claim.groupName then
        { code := .invalidArgument, message := "claim kind/group does not match endpoint policy" }
      else if servo ≠ isServo claim.kind then
        { code := .invalidArgument,
          message := if servo then "expected Servo claim" else "expected Move claim" }
      else .Ok

/-- The claims that take part in the selection at `now`. -/
def candidates (self : ControlArbiter) (now : SteadyTime) : List ClaimState :=
  (self.claims.toList.map Prod.snd).filter fun state => !state.expired now

/-- The candidates in rank order (`std::sort`). -/
def ranked (self : ControlArbiter) (now : SteadyTime) : List ClaimState :=
  (self.candidates now).insertionSort fun left right => right.outranks left = false

def selected (self : ControlArbiter) (now : SteadyTime) : List ClaimState :=
  Selection.greedy ClaimState.conflicts (self.ranked now)

def computeWinners (self : ControlArbiter) (now : SteadyTime) : List String :=
  (self.selected now).map fun state => state.claim.sessionId

/-- The Moves among the old winners that no longer win. -/
def preemptedMoves (self : ControlArbiter) (oldWinners newWinners : List String) : List String :=
  oldWinners.filter fun id => !newWinners.contains id &&
    (self.claims[id]?).any fun state => isMove state.claim.kind

def eraseClaims (self : ControlArbiter) (ids : List String) : ControlArbiter :=
  { self with claims := ids.foldl (fun claims id => claims.erase id) self.claims }

def removePreemptedMoves (self : ControlArbiter) (oldWinners newWinners : List String) :
    List String × ControlArbiter :=
  let result := self.preemptedMoves oldWinners newWinners
  (result, self.eraseClaims result)

/-- The ids of the claims whose lease has run out, in key order. -/
def expiredServos (self : ControlArbiter) (now : SteadyTime) : List String :=
  (self.claims.toList.filter fun entry => entry.2.expired now).map Prod.fst

def removeExpiredServos (self : ControlArbiter) (now : SteadyTime) :
    List String × ControlArbiter :=
  (self.expiredServos now,
    { self with claims := self.claims.filter fun _ state => !state.expired now })

def snapshot (self : ControlArbiter) (status : MotionStatus) (admitted : Bool)
    (preempted expired : List String) (now : SteadyTime) : ArbitrationResult :=
  { status, admitted, winnerSessionIds := self.computeWinners now,
    preemptedMoveIds := preempted, expiredServoIds := expired }

/-- Store a claim under its session id, stamped with the next sequence number. -/
def store (self : ControlArbiter) (claim : CommandClaim) (policy : EndpointPolicy)
    (receivedAt : SteadyTime) : ControlArbiter :=
  { self with
    claims := self.claims.insert claim.sessionId
      { claim, priority := policy.priority, receiveSequence := self.nextSequence, receivedAt,
        lease := policy.servoLease }
    nextSequence := self.nextSequence + 1 }

def release (self : ControlArbiter) (sessionId : String) : ControlArbiter :=
  { self with claims := self.claims.erase sessionId }

def contains (self : ControlArbiter) (sessionId : String) : Bool :=
  self.claims.contains sessionId

def winners (self : ControlArbiter) (now : SteadyTime) : List String := self.computeWinners now

def submitMove (self : ControlArbiter) (claim : CommandClaim) (now : SteadyTime) :
    ArbitrationResult × ControlArbiter :=
  let validation := self.validateClaim claim false
  if !validation.ok then (self.snapshot validation false [] [] now, self)
  else if self.claims.contains claim.sessionId then
    (self.snapshot { code := .invalidArgument,
                     message := "duplicate session_id: " ++ claim.sessionId } false [] [] now, self)
  else match self.policies[claim.endpointName]? with
    | none => (self.snapshot validation false [] [] now, self) -- a valid claim has its policy
    | some policy =>
      let (expired, live) := self.removeExpiredServos now
      let oldWinners := live.computeWinners now
      let stored := live.store claim policy now
      let (preempted, kept) := stored.removePreemptedMoves oldWinners (stored.computeWinners now)
      if !(kept.computeWinners now).contains claim.sessionId then
        let refused := kept.release claim.sessionId
        (refused.snapshot { code := .rejected,
                            message := "Move conflicts with an equal or higher priority command" }
          false preempted expired now, refused)
      else (kept.snapshot .Ok true preempted expired now, kept)

def updateServo (self : ControlArbiter) (claim : CommandClaim) (receivedAt now : SteadyTime) :
    ArbitrationResult × ControlArbiter :=
  let validation := self.validateClaim claim true
  if !validation.ok then (self.snapshot validation false [] [] now, self)
  else match self.policies[claim.endpointName]? with
    | none => (self.snapshot validation false [] [] now, self) -- a valid claim has its policy
    | some policy =>
      if now < receivedAt || policy.servoLease ≤ now - receivedAt ||
          (self.claims[claim.sessionId]?).any fun state => receivedAt < state.receivedAt then
        (self.snapshot { code := .rejected,
                         message := "Servo target is expired, future-dated or out of order" }
          false [] [] now, self)
      else
        let (expired, live) := self.removeExpiredServos now
        let oldWinners := live.computeWinners now
        let stored := live.store claim policy receivedAt
        let (preempted, kept) := stored.removePreemptedMoves oldWinners (stored.computeWinners now)
        (kept.snapshot .Ok ((kept.computeWinners now).contains claim.sessionId) preempted expired
          now, kept)

def evaluate (self : ControlArbiter) (now : SteadyTime) : ArbitrationResult × ControlArbiter :=
  let (expired, live) := self.removeExpiredServos now
  (live.snapshot .Ok false [] expired now, live)

end ControlArbiter

end HumanoidMotion
