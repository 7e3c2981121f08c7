import HumanoidMotion.Types
import Mathlib.Logic.Relation
/-
# The SDK backend and the steady clock (`motion/sdk_motion_backend.hpp`)

The pipeline reaches the SDK through `ISdkMotionBackend` and the clock through
`steady_now_`. Both are outside the code, so they are one parameter here:
`Platform β` answers every call from a state `β` of its own and moves that
state. Quantifying over the platform and its state quantifies over every
behaviour of the SDK, failures included, and every clock.

| here | there |
| --- | --- |
| `Platform`          | `ISdkMotionBackend` (`sdk_motion_backend.hpp:13`) and `steady_now_` |
| `ForwardKinematicsRequest`, `…Result` | `kinematics_interface.hpp` |
| `Calls`, `Quiet`    | any sequence of calls; one without `startSession` and `stopSession` |
| `Platform.recorded` | a platform that also writes down the calls it gets |
| `SessionPlatform`   | a platform whose `startSession` adds the id iff it returns OK and whose `stopSession` removes it |
| `Lawful`            | any sequence of calls that starts no live session |
| `Platform.logged`   | any platform, its record read as its set of sessions |

A call returns a status; it does not throw (`SdkMotionBackend` turns every
exception into a status).
-/

namespace HumanoidMotion

structure ForwardKinematicsRequest where
  groupName : String := ""
  baseLink : String := "base_link"
  linkName : String := ""
  joints : JointTarget := {}
deriving DecidableEq, Repr

structure ForwardKinematicsResult where
  status : MotionStatus := {}
  pose : Pose := {}
deriving DecidableEq, Repr

structure Platform (β : Type) where
  steadyNow : β → SteadyTime × β
  startSession : β → String → SessionRequest → JointFeedback → Rat → MotionStatus × β
  tickSession : β → String → DynamicTarget → Rat → BackendTick × β
  stopSession : β → String → MotionStatus × β
  resetFinalJointTarget : β → String → JointFeedback → MotionStatus × β
  rebaseFinalJointTarget : β → String → JointTarget → MotionStatus × β
  updateFinalJointTarget : β → String → JointCommand → Rat → BackendTick × β
  forwardKinematics : β → ForwardKinematicsRequest → ForwardKinematicsResult × β

/-! ## Sequences of calls -/

section
variable {β : Type} (B : Platform β)

inductive QuietCall : β → β → Prop
  | steadyNow (e : β) : QuietCall e (B.steadyNow e).2
  | tickSession (e : β) (id : String) (target : DynamicTarget) (period : Rat) :
      QuietCall e (B.tickSession e id target period).2
  | resetFinalJointTarget (e : β) (group : String) (feedback : JointFeedback) :
      QuietCall e (B.resetFinalJointTarget e group feedback).2
  | rebaseFinalJointTarget (e : β) (group : String) (state : JointTarget) :
      QuietCall e (B.rebaseFinalJointTarget e group state).2
  | updateFinalJointTarget (e : β) (group : String) (candidate : JointCommand) (period : Rat) :
      QuietCall e (B.updateFinalJointTarget e group candidate period).2
  | forwardKinematics (e : β) (request : ForwardKinematicsRequest) :
      QuietCall e (B.forwardKinematics e request).2

def Quiet : β → β → Prop := Relation.ReflTransGen (QuietCall B)

variable {B}

theorem Quiet.refl (e : β) : Quiet B e e := Relation.ReflTransGen.refl

theorem Quiet.trans {e e' e'' : β} (h : Quiet B e e') (h' : Quiet B e' e'') : Quiet B e e'' :=
  Relation.ReflTransGen.trans h h'

theorem QuietCall.quiet {e e' : β} (h : QuietCall B e e') : Quiet B e e' :=
  Relation.ReflTransGen.single h

variable (B) in
/-- Any call of the platform. -/
inductive AnyCall : β → β → Prop
  | quiet (e e' : β) (h : QuietCall B e e') : AnyCall e e'
  | startSession (e : β) (id : String) (request : SessionRequest) (feedback : JointFeedback)
      (period : Rat) : AnyCall e (B.startSession e id request feedback period).2
  | stopSession (e : β) (id : String) : AnyCall e (B.stopSession e id).2

variable (B) in
def Calls : β → β → Prop := Relation.ReflTransGen (AnyCall B)

theorem Calls.refl (e : β) : Calls B e e := Relation.ReflTransGen.refl

theorem Calls.trans {e e' e'' : β} (h : Calls B e e') (h' : Calls B e' e'') : Calls B e e'' :=
  Relation.ReflTransGen.trans h h'

theorem AnyCall.calls {e e' : β} (h : AnyCall B e e') : Calls B e e' :=
  Relation.ReflTransGen.single h

theorem Quiet.calls {e e' : β} (h : Quiet B e e') : Calls B e e' := by
  induction h with
  | refl => exact .refl _
  | tail _ hcall ih => exact ih.trans (AnyCall.quiet _ _ hcall).calls

/-- What every quiet call keeps, a sequence of them keeps. -/
theorem Quiet.invariant {γ : Type} {f : β → γ} (hf : ∀ e e', QuietCall B e e' → f e' = f e)
    {e e' : β} (h : Quiet B e e') : f e' = f e := by
  induction h with
  | refl => rfl
  | tail _ hcall ih => rw [hf _ _ hcall, ih]

end

/-! ## Writing the calls down -/

inductive Call where
  | steadyNow (time : SteadyTime)
  | startSession (id : String) (request : SessionRequest) (feedback : JointFeedback) (period : Rat)
      (answer : MotionStatus)
  | tickSession (id : String) (target : DynamicTarget) (period : Rat)
  | stopSession (id : String)
  | resetFinalJointTarget (group : String) (feedback : JointFeedback)
  | rebaseFinalJointTarget (group : String) (state : JointTarget)
  | updateFinalJointTarget (group : String) (candidate : JointCommand) (period : Rat)
  | forwardKinematics (request : ForwardKinematicsRequest)
deriving DecidableEq, Repr

/-- The same answers, with every call appended to a list. -/
def Platform.recorded {β : Type} (B : Platform β) : Platform (β × List Call) where
  steadyNow e :=
    ((B.steadyNow e.1).1, (B.steadyNow e.1).2, e.2 ++ [.steadyNow (B.steadyNow e.1).1])
  startSession e id request feedback period :=
    ((B.startSession e.1 id request feedback period).1,
      (B.startSession e.1 id request feedback period).2,
      e.2 ++ [.startSession id request feedback period
        (B.startSession e.1 id request feedback period).1])
  tickSession e id target period :=
    ((B.tickSession e.1 id target period).1, (B.tickSession e.1 id target period).2,
      e.2 ++ [.tickSession id target period])
  stopSession e id :=
    ((B.stopSession e.1 id).1, (B.stopSession e.1 id).2, e.2 ++ [.stopSession id])
  resetFinalJointTarget e group feedback :=
    ((B.resetFinalJointTarget e.1 group feedback).1,
      (B.resetFinalJointTarget e.1 group feedback).2,
      e.2 ++ [.resetFinalJointTarget group feedback])
  rebaseFinalJointTarget e group state :=
    ((B.rebaseFinalJointTarget e.1 group state).1, (B.rebaseFinalJointTarget e.1 group state).2,
      e.2 ++ [.rebaseFinalJointTarget group state])
  updateFinalJointTarget e group candidate period :=
    ((B.updateFinalJointTarget e.1 group candidate period).1,
      (B.updateFinalJointTarget e.1 group candidate period).2,
      e.2 ++ [.updateFinalJointTarget group candidate period])
  forwardKinematics e request :=
    ((B.forwardKinematics e.1 request).1, (B.forwardKinematics e.1 request).2,
      e.2 ++ [.forwardKinematics request])

/-- How often `startSession` was called for `id`. -/
def startCalls (id : String) (calls : List Call) : Nat :=
  calls.countP fun call => match call with
    | .startSession id' .. => id' == id
    | _ => false

theorem startCalls_append (id : String) (calls more : List Call) :
    startCalls id (calls ++ more) = startCalls id calls + startCalls id more :=
  List.countP_append

/-! ## Platforms that keep a set of sessions -/

/-- A platform with the contract of the SDK adapter on its set of live sessions. -/
structure SessionPlatform (β : Type) extends Platform β where
  alive : β → String → Prop
  alive_startSession : ∀ e id request feedback period id',
    alive (startSession e id request feedback period).2 id' ↔
      alive e id' ∨ (id' = id ∧ (startSession e id request feedback period).1.ok = true)
  alive_stopSession : ∀ e id id', alive (stopSession e id).2 id' ↔ alive e id' ∧ id' ≠ id
  alive_quietCall : ∀ e e' id, QuietCall toPlatform e e' → (alive e' id ↔ alive e id)

theorem SessionPlatform.alive_quiet {β : Type} (S : SessionPlatform β) {e e' : β} {id : String}
    (h : Quiet S.toPlatform e e') : S.alive e' id ↔ S.alive e id :=
  iff_of_eq (h.invariant (f := fun e => S.alive e id) fun _ _ hcall =>
    propext (S.alive_quietCall _ _ id hcall))

/-- Calls that start no session that is alive. -/
inductive LawfulCall {β : Type} (S : SessionPlatform β) : β → β → Prop
  | quiet (e e' : β) (h : QuietCall S.toPlatform e e') : LawfulCall S e e'
  | startSession (e : β) (id : String) (request : SessionRequest) (feedback : JointFeedback)
      (period : Rat) (h : ¬ S.alive e id) :
      LawfulCall S e (S.startSession e id request feedback period).2
  | stopSession (e : β) (id : String) : LawfulCall S e (S.stopSession e id).2

def Lawful {β : Type} (S : SessionPlatform β) : β → β → Prop := Relation.ReflTransGen (LawfulCall S)

section
variable {β : Type} {S : SessionPlatform β}

theorem Lawful.refl (e : β) : Lawful S e e := Relation.ReflTransGen.refl

theorem Lawful.trans {e e' e'' : β} (h : Lawful S e e') (h' : Lawful S e' e'') : Lawful S e e'' :=
  Relation.ReflTransGen.trans h h'

theorem LawfulCall.lawful {e e' : β} (h : LawfulCall S e e') : Lawful S e e' :=
  Relation.ReflTransGen.single h

theorem Quiet.lawful {e e' : β} (h : Quiet S.toPlatform e e') : Lawful S e e' := by
  induction h with
  | refl => exact .refl _
  | tail _ hcall ih => exact ih.trans (LawfulCall.quiet _ _ hcall).lawful

end

/-! ## No session is started twice -/

/-- One call seen by the session `id`: started by a start that returned OK, ended by a stop. -/
def startedBy (id : String) (started : Bool) : Call → Bool
  | .startSession id' _ _ _ answer => started || (id' == id && answer.ok)
  | .stopSession id' => started && id' != id
  | _ => started

/-- The session `id` has been started and not been stopped since. -/
def startedIn (id : String) (calls : List Call) : Bool := calls.foldl (startedBy id) false

/-- No session is started while it stands started. -/
def StartedOnce (calls : List Call) : Prop :=
  ∀ (before after : List Call) (id : String) (request : SessionRequest) (feedback : JointFeedback)
    (period : Rat) (answer : MotionStatus),
    calls = before ++ .startSession id request feedback period answer :: after →
    startedIn id before = false

theorem startedIn_append (id : String) (calls : List Call) (call : Call) :
    startedIn id (calls ++ [call]) = startedBy id (startedIn id calls) call := by
  simp [startedIn, List.foldl_append]

theorem StartedOnce.append {calls : List Call} {call : Call} (h : StartedOnce calls)
    (hcall : ∀ id request feedback period answer,
      call = .startSession id request feedback period answer → startedIn id calls = false) :
    StartedOnce (calls ++ [call]) := by
  intro before after id request feedback period answer heq
  rcases List.eq_nil_or_concat after with rfl | ⟨rest, last, rfl⟩
  · obtain ⟨hcalls, hlast⟩ := List.append_inj' heq rfl
    subst hcalls
    exact hcall _ _ _ _ _ (by simpa using hlast)
  · have hsplit : calls ++ [call] =
        (before ++ .startSession id request feedback period answer :: rest) ++ [last] := by
      rw [heq]
      simp
    exact h _ _ _ _ _ _ _ (List.append_inj' hsplit rfl).1

/-- The recorded platform keeps the same set of live sessions. -/
def SessionPlatform.recorded {β : Type} (S : SessionPlatform β) :
    SessionPlatform (β × List Call) where
  toPlatform := S.toPlatform.recorded
  alive e id := S.alive e.1 id
  alive_startSession e id request feedback period id' :=
    S.alive_startSession e.1 id request feedback period id'
  alive_stopSession e id id' := S.alive_stopSession e.1 id id'
  alive_quietCall e e' id h := by
    cases h with
    | steadyNow => exact S.alive_quietCall _ _ id (.steadyNow _)
    | tickSession => exact S.alive_quietCall _ _ id (.tickSession _ _ _ _)
    | resetFinalJointTarget => exact S.alive_quietCall _ _ id (.resetFinalJointTarget _ _ _)
    | rebaseFinalJointTarget => exact S.alive_quietCall _ _ id (.rebaseFinalJointTarget _ _ _)
    | updateFinalJointTarget => exact S.alive_quietCall _ _ id (.updateFinalJointTarget _ _ _ _)
    | forwardKinematics => exact S.alive_quietCall _ _ id (.forwardKinematics _ _)

/-- Any platform, with the sessions that stand started in its record as the live ones. -/
def Platform.logged {β : Type} (B : Platform β) : SessionPlatform (β × List Call) where
  toPlatform := B.recorded
  alive e id := startedIn id e.2 = true
  alive_startSession e id request feedback period id' := by
    simp only [Platform.recorded, startedIn_append, startedBy, Bool.or_eq_true, Bool.and_eq_true,
      beq_iff_eq, eq_comm (a := id)]
  alive_stopSession e id id' := by
    simp only [Platform.recorded, startedIn_append, startedBy, Bool.and_eq_true, bne_iff_ne,
      ne_comm (a := id), ne_eq]
  alive_quietCall e e' id h := by
    cases h <;> simp only [Platform.recorded, startedIn_append, startedBy]

theorem Platform.logged_fresh {β : Type} (B : Platform β) (e : β) (id : String) :
    ¬ B.logged.alive (e, []) id := by
  simp [Platform.logged, startedIn]

/-- The record tells which sessions are alive, and that none was started twice. -/
structure RecordOk {β : Type} (S : SessionPlatform β) (e : β × List Call) : Prop where
  alive : ∀ id, S.alive e.1 id ↔ startedIn id e.2 = true
  once : StartedOnce e.2

theorem RecordOk.append {β : Type} {S : SessionPlatform β} {e : β × List Call} (h : RecordOk S e)
    (b : β) (call : Call)
    (halive : ∀ id, S.alive b id ↔ startedBy id (startedIn id e.2) call = true)
    (hcall : ∀ id request feedback period answer,
      call = .startSession id request feedback period answer → startedIn id e.2 = false) :
    RecordOk S (b, e.2 ++ [call]) :=
  ⟨fun id => by rw [startedIn_append]; exact halive id, h.once.append hcall⟩

/-- A call that neither starts nor stops a session. -/
theorem RecordOk.quiet {β : Type} {S : SessionPlatform β} {e : β × List Call} (h : RecordOk S e)
    (b : β) (call : Call) (hquiet : QuietCall S.toPlatform e.1 b)
    (hsame : ∀ id started, startedBy id started call = started)
    (hno : ∀ id request feedback period answer,
      call ≠ .startSession id request feedback period answer) : RecordOk S (b, e.2 ++ [call]) := by
  refine h.append b call (fun id => ?_) fun id request feedback period answer hc =>
    absurd hc (hno id request feedback period answer)
  rw [hsame, S.alive_quietCall e.1 b id hquiet]
  exact h.alive id

theorem QuietCall.record {β : Type} {S : SessionPlatform β} {e e' : β × List Call}
    (hcall : QuietCall S.toPlatform.recorded e e') (h : RecordOk S e) : RecordOk S e' := by
  cases hcall with
  | steadyNow => exact h.quiet _ (.steadyNow _) (.steadyNow e.1) (fun _ _ => rfl) (by simp)
  | tickSession id target period =>
    exact h.quiet _ (.tickSession id target period) (.tickSession e.1 id target period)
      (fun _ _ => rfl) (by simp)
  | resetFinalJointTarget group feedback =>
    exact h.quiet _ (.resetFinalJointTarget group feedback)
      (.resetFinalJointTarget e.1 group feedback) (fun _ _ => rfl) (by simp)
  | rebaseFinalJointTarget group state =>
    exact h.quiet _ (.rebaseFinalJointTarget group state)
      (.rebaseFinalJointTarget e.1 group state) (fun _ _ => rfl) (by simp)
  | updateFinalJointTarget group candidate period =>
    exact h.quiet _ (.updateFinalJointTarget group candidate period)
      (.updateFinalJointTarget e.1 group candidate period) (fun _ _ => rfl) (by simp)
  | forwardKinematics request =>
    exact h.quiet _ (.forwardKinematics request) (.forwardKinematics e.1 request)
      (fun _ _ => rfl) (by simp)

theorem LawfulCall.record {β : Type} {S : SessionPlatform β} {e e' : β × List Call}
    (hcall : LawfulCall S.recorded e e') (h : RecordOk S e) : RecordOk S e' := by
  cases hcall with
  | quiet _ hquiet => exact hquiet.record h
  | startSession id request feedback period hdead =>
    refine h.append (S.startSession e.1 id request feedback period).2
      (.startSession id request feedback period
        (S.startSession e.1 id request feedback period).1) (fun id' => ?_) ?_
    · rw [S.alive_startSession, h.alive id']
      simp only [startedBy, Bool.or_eq_true, Bool.and_eq_true, beq_iff_eq, eq_comm (a := id)]
    · rintro id' _ _ _ _ ⟨rfl⟩
      exact Bool.eq_false_iff.2 fun hs => hdead ((h.alive id).2 hs)
  | stopSession id =>
    refine h.append (S.stopSession e.1 id).2 (.stopSession id) (fun id' => ?_) (by simp)
    rw [S.alive_stopSession, h.alive id']
    simp only [startedBy, Bool.and_eq_true, bne_iff_ne, ne_comm (a := id)]

theorem Lawful.record {β : Type} {S : SessionPlatform β} {e e' : β × List Call}
    (hcalls : Lawful S.recorded e e') (h : RecordOk S e) : RecordOk S e' := by
  induction hcalls with
  | refl => exact h
  | tail _ hcall ih => exact hcall.record ih

end HumanoidMotion
