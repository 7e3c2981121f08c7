import HumanoidMotion.Motion.Submissions
import HumanoidMotion.Motion.TickRun
/-
# Outside the turns

Outside the turns of the winners and the submissions, a call ends sessions, reads the
clock, stops sessions in the SDK, and changes what stands beside the tables. A relation
that is kept by each of these is kept by the call.

* `Beside` — a change beside the tables.
* `Outside` — what a relation has to keep.
* `Outside.quietly` — every public function but the submissions and `tick`.
* `Outside.opened`, `Outside.closed` — a tick before and after the turns.
-/

namespace HumanoidMotion

open Tick

variable {β : Type}

/-- A reading of the clock, or the stop of a session. -/
inductive AsideCall (B : Platform β) (e : β) : β → Prop
  | steadyNow : AsideCall B e (B.steadyNow e).2
  | stopSession (id : String) : AsideCall B e (B.stopSession e id).2

/-- The tables stay as they are: the sessions, the claims, the goals, and the times. -/
structure Beside (B : Platform β) (p p' : CommandPipeline β) : Prop where
  backend : p'.backend = p.backend ∨ AsideCall B p.backend p'.backend
  sessions : p'.sessions = p.sessions
  claims : p'.arbiter.claims = p.arbiter.claims
  goals : p'.monitor.goals = p.monitor.goals
  retries : p'.servoRetryAfter = p.servoRetryAfter
  times : (p'.lastTickTime, p'.periodSec, p'.config) = (p.lastTickTime, p.periodSec, p.config)

structure Outside (B : Platform β) (R : CommandPipeline β → CommandPipeline β → Prop) : Prop where
  refl : ∀ p, R p p
  trans : ∀ {p p' p''}, R p p' → R p' p'' → R p p''
  beside : ∀ {p p'}, Beside B p p' → R p p'
  terminate : ∀ p id state status preserve, R p (p.terminate B id state status preserve)

namespace Outside

variable {B : Platform β} {lib : MathLib} {R : CommandPipeline β → CommandPipeline β → Prop}
  (h : Outside B R) (p : CommandPipeline β)
include h

theorem foldl {α : Type} {f : CommandPipeline β → α → CommandPipeline β} (hf : ∀ p x, R p (f p x)) :
    ∀ (xs : List α) (p : CommandPipeline β), R p (xs.foldl f p)
  | [], p => h.refl p
  | x :: xs, p => h.trans (hf p x) (foldl hf xs (f p x))

theorem endAll (state : SessionState) (status : MotionStatus) (ids : List String) :
    R p (p.endAll B state status ids) :=
  h.foldl (fun p id => h.terminate p id state status false) ids p

theorem settle (preempted expired : List String) : R p (p.settle B preempted expired) :=
  h.trans (h.endAll p _ _ preempted) (h.endAll _ _ _ expired)

theorem readClock : R p (p.readClock B).2 :=
  h.beside ⟨.inr .steadyNow, rfl, rfl, rfl, rfl, rfl⟩

/-! ## The public functions -/

theorem registerEndpoint (policy : EndpointPolicy) : R p (p.registerEndpoint policy).2 := by
  have hclaims : (p.arbiter.registerEndpoint policy).2.claims = p.arbiter.claims := by
    unfold ControlArbiter.registerEndpoint
    split_ifs <;> rfl
  unfold CommandPipeline.registerEndpoint
  simp only
  split_ifs
  · exact h.refl p
  · exact h.refl p
  · exact h.beside ⟨.inl rfl, rfl, hclaims, rfl, rfl, rfl⟩
  · exact h.beside ⟨.inl rfl, rfl, hclaims, rfl, rfl, rfl⟩

theorem setOutputPermit (enabled : Bool) (generation : Nat) :
    R p (p.setOutputPermit B enabled generation) := by
  unfold CommandPipeline.setOutputPermit
  simp only
  split
  · have hend := h.endAll p .canceled CommandPipeline.permissionRevokedStatus p.sessions.keys
    exact h.trans hend (h.beside ⟨.inl rfl, rfl, rfl, rfl, rfl, rfl⟩)
  · exact h.beside ⟨.inl rfl, rfl, rfl, rfl, rfl, rfl⟩

theorem cancel (id : String) : R p (p.cancel B id).2 := by
  have hend := h.terminate p id .canceled CommandPipeline.canceledStatus false
  unfold CommandPipeline.cancel
  simp only
  split
  · exact hend
  · exact h.trans hend (h.beside ⟨.inr (.stopSession id), rfl, rfl, rfl, rfl, rfl⟩)

theorem validatePublication (command : JointCommand) (now : SteadyTime) :
    R p (p.validatePublicationLocked B command now).2 := by
  unfold CommandPipeline.validatePublicationLocked
  split_ifs
  · exact h.refl p
  · exact h.refl p
  · exact h.terminate p _ _ _ _

theorem revokeOutputs (joints : List String) : R p (p.revokeOutputs joints) :=
  h.beside ⟨.inl rfl, rfl, rfl, rfl, rfl, rfl⟩

theorem publishCommand (command : JointCommand) (now : SteadyTime) :
    R p (p.publishCommand B command now).2.2 := by
  have hread := h.trans (h.readClock p) (h.readClock _)
  unfold CommandPipeline.publishCommand
  simp only
  split
  · exact h.trans hread (h.validatePublication _ _ _)
  · exact h.trans (h.trans hread (h.validatePublication _ _ _)) (h.revokeOutputs _ _)

theorem approve (enteredAt now : SteadyTime) :
    ∀ (commands : List JointCommand) (state : List Publication × CommandPipeline β),
      R state.2 (commands.foldl (CommandPipeline.approve B enteredAt now) state).2
  | [], state => h.refl state.2
  | command :: commands, state =>
    h.trans (h.trans (h.readClock state.2) (h.validatePublication _ command _))
      (approve enteredAt now commands (CommandPipeline.approve B enteredAt now state command))

theorem publishCommands (commands : List JointCommand) (now : SteadyTime) :
    R p (p.publishCommands B commands now).2.2 := by
  have hchecked := h.trans (h.readClock p)
    (h.approve (p.readClock B).1 now commands ([], (p.readClock B).2))
  unfold CommandPipeline.publishCommands
  simp only
  split
  · exact hchecked
  · exact h.trans hchecked (h.foldl (fun p (approved : Publication) =>
      h.revokeOutputs p approved.command.jointNames) _ _)

variable (lib) in
/-- Every public function but the submissions and `tick`. -/
theorem quietly {op : Op} (hop : op.arbitratedAt = none) (htick : op.isTick = false) :
    R p (exec B lib p op).2 := by
  cases op with
  | registerEndpoint policy => exact h.registerEndpoint p policy
  | submitMove | updateServo => cases hop
  | setOutputPermit enabled generation => exact h.setOutputPermit p enabled generation
  | cancel id => exact h.cancel p id
  | tick => cases htick
  | validateCommandForPublication command now => exact h.validatePublication p command now
  | publishCommand command now => exact h.publishCommand p command now
  | publishCommands commands now => exact h.publishCommands p commands now

/-! ## Around the turns of a tick -/

/-- A tick once it has read the clock and evaluated the claims. -/
theorem expired (now : SteadyTime) :
    R { (p.startTick B now).pipeline with
        arbiter := ((p.startTick B now).pipeline.arbiter.evaluate (p.startTick B now).startedAt).2 }
      (p.tickOpening B now).pipeline :=
  h.endAll _ .aborted CommandPipeline.leaseExpiredStatus _

theorem opened (gap : Bool) (winners : List String) (s : TickState β)
    (hgap : ∀ p id, R p (gapped B p id)) (hdeactivate : ∀ p id, R p (deactivate B p id)) :
    R s.pipeline (opened B gap winners s).pipeline := by
  have hafter : R s.pipeline (afterGap B gap s.pipeline) := by
    unfold afterGap
    split
    · exact h.foldl hgap _ _
    · exact h.refl _
  have hflush : R (afterGap B gap s.pipeline)
      (s.withPipeline (afterGap B gap s.pipeline)).flush.pipeline :=
    h.beside ⟨.inl rfl, rfl, rfl, rfl, rfl, rfl⟩
  exact h.trans (h.trans hafter hflush) (h.foldl hdeactivate _ _)

theorem closed (ctx : TickContext) (s : TickState β) : R s.pipeline (closed B ctx s).pipeline := by
  have hread : R s.pipeline (s.withBackend (B.steadyNow s.pipeline.backend).2).pipeline :=
    h.readClock s.pipeline
  have hdrop := h.foldl (fun p (command : JointCommand) =>
      h.terminate p command.sessionId .aborted expiredWhileComputing false)
    ((s.withBackend (B.steadyNow s.pipeline.backend).2).commands.filter
      (commandLate (ctx.now + ((B.steadyNow s.pipeline.backend).1 - ctx.enteredAt))))
    (s.withBackend (B.steadyNow s.pipeline.backend).2).pipeline
  exact h.trans (h.trans hread hdrop) (h.beside ⟨.inl rfl, rfl, rfl, rfl, rfl, rfl⟩)

end Outside

end HumanoidMotion
