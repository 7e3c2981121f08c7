import HumanoidMotion.Motion.CallLog
import HumanoidMotion.Motion.Calls
import HumanoidMotion.Motion.Outside
/-
# The calls of one step

Outside the turns of the winners the pipeline reads the clock and stops sessions;
it asks the platform for nothing else.

* `Asides` — such calls; `exec_asides` for every public function but `tick`.
* `LoggedTurns`, `tick_log` — a tick, with the calls of its turns.
* `stageCalls` — what one step of a run has added to the record.
-/

namespace HumanoidMotion

open Tick

/-- A reading of the clock, or the stop of a session. -/
def Call.aside : Call → Prop
  | .steadyNow _ | .stopSession _ => True
  | _ => False

theorem Call.aside.plain {call : Call} (h : call.aside) (period : Rat) : call.plain period := by
  cases call <;> trivial

variable {β : Type} {B : Platform β} {lib : MathLib}

/-- Only asides since then, and no tick. -/
structure Asides (p p' : CommandPipeline (β × List Call)) : Prop where
  logs : Logs Call.aside p.backend.2 p'.backend.2
  times : timesOf p' = timesOf p
  retries : p'.servoRetryAfter = p.servoRetryAfter

theorem Asides.refl (p : CommandPipeline (β × List Call)) : Asides p p := ⟨.refl _ _, rfl, rfl⟩

theorem Asides.trans {p p' p'' : CommandPipeline (β × List Call)} (h : Asides p p')
    (h' : Asides p' p'') : Asides p p'' :=
  ⟨h.logs.trans h'.logs, h'.times.trans h.times, h'.retries.trans h.retries⟩

theorem Asides.of_eq {p p' : CommandPipeline (β × List Call)} (h : p'.backend = p.backend)
    (htimes : timesOf p' = timesOf p) (hretries : p'.servoRetryAfter = p.servoRetryAfter) :
    Asides p p' :=
  ⟨by rw [h]; exact .refl _ _, htimes, hretries⟩

section
variable (p : CommandPipeline (β × List Call))

theorem terminate_asides (id : String) (state : SessionState) (status : MotionStatus)
    (preserve : Bool) : Asides p (p.terminate B.recorded id state status preserve) := by
  refine ⟨?_, CommandPipeline.terminate_frame p id state status preserve timesOf (fun _ => rfl)
    fun _ _ => rfl, CommandPipeline.terminate_frame p id state status preserve
      (fun q => q.servoRetryAfter) (fun _ => rfl) fun _ _ => rfl⟩
  rw [CommandPipeline.terminate_backend]
  split
  · exact .one (.stopSession id) trivial _
  · exact .refl _ _

theorem AsideCall.logs {e e' : β × List Call} (h : AsideCall B.recorded e e') :
    Logs Call.aside e.2 e'.2 := by
  cases h with
  | steadyNow => exact .one (.steadyNow _) trivial _
  | stopSession id => exact .one (.stopSession id) trivial _

variable (B) in
/-- All that a call does outside the turns is asides. -/
theorem outside_asides : Outside B.recorded Asides where
  refl := .refl
  trans := .trans
  terminate := terminate_asides
  beside hb := by
    refine ⟨?_, hb.times, hb.retries⟩
    rcases hb.backend with hsame | hcall
    · rw [hsame]
      exact .refl _ _
    · exact hcall.logs

theorem withArbiter_asides (arbiter : ControlArbiter) : Asides p (p.withArbiter arbiter) :=
  .of_eq rfl rfl rfl

/-! ## The calls outside `tick` -/

variable {p} {p' : CommandPipeline (β × List Call)} {endpoint : String} {request : SessionRequest}
  {receivedAt now : SteadyTime} {generation : Nat} {result : SubmissionResult}

theorem MoveOutcome.asides
    (h : MoveOutcome B.recorded p endpoint request now generation result p') : Asides p p' := by
  cases h with
  | refused => exact .refl p
  | lost policy arbPolicy session _ arbitration =>
    exact (withArbiter_asides p _).trans ((outside_asides B).settle _ _ _)
  | admitted policy arbPolicy session _ arbitration _ _ _ _ settled hsettled =>
    have hsettle : Asides p settled := by
      rw [hsettled]
      exact (withArbiter_asides p _).trans ((outside_asides B).settle _ _ _)
    exact hsettle.trans (.of_eq rfl rfl rfl)

theorem ServoBase.asides {policy : EndpointPolicy} {id : String} {existing : Option Session}
    (h : ServoBase B.recorded p policy id receivedAt now existing p') : Asides p p' := by
  cases h with
  | fresh => exact .refl p
  | kept => exact .refl p
  | renewed => exact terminate_asides p id _ _ false

theorem ServoOutcome.asides
    (h : ServoOutcome B.recorded p endpoint request receivedAt now generation result p') :
    Asides p p' := by
  cases h with
  | refused => exact .refl p
  | rejected _ base policy session existing _ _ _ hbase => exact hbase.asides
  | accepted policy arbPolicy session existing base settled _ hupdated hsettled =>
    have hstored : Asides base ((base.withArbiter (base.arbiter.displace
        (CommandPipeline.claimOf endpoint session) arbPolicy receivedAt now)).storeServo endpoint
          session existing receivedAt) := by
      cases existing with
      | none => exact .of_eq rfl rfl rfl
      | some _ => exact .of_eq rfl rfl rfl
    have hsettle : Asides p settled := by
      rw [hsettled]
      exact (hupdated.start.asides.trans hstored).trans ((outside_asides B).settle _ _ _)
    split
    · exact hsettle.trans (.of_eq rfl rfl rfl)
    · exact hsettle

variable (p)

variable (lib) in
theorem exec_asides {op : Op} (hop : op.isTick = false) :
    Asides p (exec B.recorded lib p op).2 := by
  cases op with
  | submitMove endpoint request now generation =>
    exact (submitMove_outcome B.recorded p endpoint request now generation).asides
  | updateServo endpoint request receivedAt now generation =>
    exact (updateServo_outcome B.recorded p endpoint request receivedAt now generation).asides
  | _ => exact (outside_asides B).quietly lib p rfl hop

/-! ## Around the turns of a tick -/

theorem tickOpening_asides (now : SteadyTime) :
    Logs Call.aside p.backend.2 (p.tickOpening B.recorded now).pipeline.backend.2 ∧
      timesOf (p.tickOpening B.recorded now).pipeline = (some now, p.periodSec, p.config) ∧
      (p.tickOpening B.recorded now).pipeline.servoRetryAfter = p.servoRetryAfter := by
  have hread := (outside_asides B).trans ((outside_asides B).readClock p)
    ((outside_asides B).readClock (p.readClock B.recorded).2)
  have hend := (outside_asides B).expired p now
  exact ⟨hread.logs.trans hend.logs, hend.times, hend.retries⟩

theorem gapped_asides (id : String) : Asides p (gapped B.recorded p id) := by
  unfold gapped
  split
  · exact .refl p
  · split
    · exact terminate_asides p id _ _ false
    · exact ⟨.one (.stopSession id) trivial _, rfl, rfl⟩

theorem deactivate_asides (id : String) : Asides p (deactivate B.recorded p id) := by
  unfold deactivate
  have hstop : Logs Call.aside p.backend.2 (B.recorded.stopSession p.backend id).2.2 :=
    .one (.stopSession id) trivial _
  split
  · exact ⟨hstop, rfl, rfl⟩
  · exact ⟨hstop, rfl, rfl⟩

theorem opened_asides (gap : Bool) (winners : List String) (s : TickState (β × List Call)) :
    Asides s.pipeline (opened B.recorded gap winners s).pipeline :=
  (outside_asides B).opened gap winners s gapped_asides deactivate_asides

theorem closed_asides (ctx : TickContext) (s : TickState (β × List Call)) :
    Asides s.pipeline (closed B.recorded ctx s).pipeline := (outside_asides B).closed ctx s

end

/-! ## A tick with its calls -/

namespace Tick

/-- The turns of the winners, with their calls. -/
def LoggedTurns (B : Platform β) (lib : MathLib) (ctx : TickContext) :
    List String → TickState (β × List Call) → TickState (β × List Call) → Prop :=
  Prog.Chain fun id s s' => TurnLog B ctx id s s' ∧ Turn B.recorded lib ctx id s s' ∧
    Sound s.pipeline

theorem turn_logged {ctx : TickContext} (id : String) (s : TickState (β × List Call))
    (h : Sound s.pipeline) :
    Prog.wp (turn B.recorded lib ctx id) (fun _ s' => (TurnLog B ctx id s s' ∧
      Turn B.recorded lib ctx id s s' ∧ Sound s.pipeline) ∧ Sound s'.pipeline)
      (fun _ _ => False) s := by
  refine (turn_log fun session hf => h.sessionOk id session hf).imp ?_ fun _ _ h => h
  rintro _ s' ⟨hlog, hturn⟩
  have helems : Elems B.recorded (.tick ctx.feedback ctx.now) s s' := hturn.elems rfl
  exact ⟨⟨hlog, hturn, h⟩, helems.sound h⟩

theorem Turned.logged {ctx : TickContext} {ids : List String} {s s' : TickState (β × List Call)}
    (h : Turned B.recorded lib ctx ids s s') (hs : Sound s.pipeline) :
    LoggedTurns B lib ctx ids s s' ∧ Sound s'.pipeline := h.chain turn_logged hs

end Tick

variable (B lib) in
/-- A tick of a sound pipeline, with the calls of its turns. -/
theorem tick_log (s : CommandPipeline (β × List Call)) (feedback : JointFeedback)
    (now : SteadyTime) (h : Sound s) :
    ∃ s₂, LoggedTurns B lib (s.tickContext B.recorded feedback now)
        (s.tickArbitration B.recorded now).winnerSessionIds
        (opened B.recorded (s.schedulingGap now)
          (s.tickArbitration B.recorded now).winnerSessionIds (s.tickOpening B.recorded now)) s₂ ∧
      exec B.recorded lib s (.tick feedback now) =
        (.ticked { commands := (closed B.recorded (s.tickContext B.recorded feedback now) s₂).commands
                   events := (closed B.recorded (s.tickContext B.recorded feedback now) s₂).events },
          (closed B.recorded (s.tickContext B.recorded feedback now) s₂).pipeline) := by
  obtain ⟨s₂, hturned, htick⟩ := tick_turned B.recorded lib s feedback now h
  refine ⟨s₂, (hturned.logged (tickStarted_sound h feedback now _)).1, ?_⟩
  simp only [exec, htick]

/-- What a step of a run has added to the record. -/
def stageCalls (g : Machine.Stage (CommandPipeline (β × List Call)) Op Reply) : List Call :=
  g.after.backend.2.drop g.before.backend.2.length

theorem stageCalls_eq {g : Machine.Stage (CommandPipeline (β × List Call)) Op Reply}
    {more : List Call} (h : g.after.backend.2 = g.before.backend.2 ++ more) :
    stageCalls g = more := by
  unfold stageCalls
  rw [h, List.drop_left]

end HumanoidMotion
