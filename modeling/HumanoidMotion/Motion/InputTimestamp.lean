import HumanoidMotion.Types
/-
# Source timestamps (`motion/input_timestamp.hpp`)

One tracker for each input topic, whether or not its latest value has been
consumed. `accept` answers the time from which the input is fresh, or the text
of the error, and the tracker it leaves behind; `acceptInto` is the same
function with the two output arguments of the source (`acceptInto_eq`).
-/

namespace HumanoidMotion

structure InputTimestamp where
  lastStampNs : Int := 0
  lastRosNowNs : Int := 0
deriving DecidableEq, Repr

namespace InputTimestamp

/-- A ROS clock that has gone back starts the stamps afresh (`:29`). -/
def observed (self : InputTimestamp) (rosNowNs : Int) : InputTimestamp where
  lastStampNs := if rosNowNs < self.lastRosNowNs then 0 else self.lastStampNs
  lastRosNowNs := rosNowNs

def accept (self : InputTimestamp) (stampNs rosNowNs : Int) (receivedAt : SteadyTime)
    (maxAge futureTolerance : Duration) (requireStamp : Bool) :
    Except String SteadyTime × InputTimestamp :=
  if rosNowNs < 0 || stampNs < 0 then (.error "negative input timestamp", self)
  else
    let self := self.observed rosNowNs
    if stampNs = 0 then
      if requireStamp then (.error "feedback requires a non-zero source timestamp", self)
      else (.ok receivedAt, self)  -- an unstamped servo target is as fresh as its receipt
    else
      let age := rosNowNs - stampNs
      if maxAge ≤ age || age < -futureTolerance then
        (.error "input source timestamp is stale or too far in the future", self)
      else if stampNs ≤ self.lastStampNs then
        (.error "duplicate or out-of-order input source timestamp", self)
      else (.ok (receivedAt - max age 0), { self with lastStampNs := stampNs })

/-- What the caller's `fresh_at` and `error` hold after the call, and what the call returns. -/
structure Answer where
  accepted : Bool
  freshAt : SteadyTime
  error : String
deriving DecidableEq, Repr

/-- `accept` as the source writes it (`:18`), with the caller's `fresh_at` and `error`. -/
def acceptInto (self : InputTimestamp) (stampNs rosNowNs : Int) (receivedAt : SteadyTime)
    (maxAge futureTolerance : Duration) (requireStamp : Bool) (freshAt : SteadyTime)
    (error : String) : Answer × InputTimestamp :=
  if rosNowNs < 0 || stampNs < 0 then (⟨false, freshAt, "negative input timestamp"⟩, self)
  else
    let self := self.observed rosNowNs
    if stampNs = 0 then
      if requireStamp then
        (⟨false, freshAt, "feedback requires a non-zero source timestamp"⟩, self)
      else (⟨true, receivedAt, error⟩, self)
    else
      let age := rosNowNs - stampNs
      if maxAge ≤ age || age < -futureTolerance then
        (⟨false, freshAt, "input source timestamp is stale or too far in the future"⟩, self)
      else if stampNs ≤ self.lastStampNs then
        (⟨false, freshAt, "duplicate or out-of-order input source timestamp"⟩, self)
      else
        let self := { self with lastStampNs := stampNs }
        (⟨true, receivedAt - max age 0, error⟩, self)

/-- The output arguments carry the answer of `accept`, and keep their values where it has none. -/
theorem acceptInto_eq (self : InputTimestamp) (stampNs rosNowNs : Int) (receivedAt : SteadyTime)
    (maxAge futureTolerance : Duration) (requireStamp : Bool) (freshAt : SteadyTime)
    (error : String) :
    self.acceptInto stampNs rosNowNs receivedAt maxAge futureTolerance requireStamp freshAt error =
      match self.accept stampNs rosNowNs receivedAt maxAge futureTolerance requireStamp with
      | (.ok fresh, next) => (⟨true, fresh, error⟩, next)
      | (.error text, next) => (⟨false, freshAt, text⟩, next) := by
  unfold acceptInto accept
  dsimp only
  split_ifs <;> rfl

end InputTimestamp

end HumanoidMotion
