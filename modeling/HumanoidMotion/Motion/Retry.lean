import HumanoidMotion.Motion.Epoch
import HumanoidMotion.Motion.Failures
import HumanoidMotion.Motion.Starts
import HumanoidMotion.Motion.Targets
/-
# Failed servos wait

A servo whose turn fails gets a retry time. Until the clock has passed it, no session
of its endpoint is started, whatever is called in between.

* `instants` — the times that a tick has read.
* `ServoFails` — a turn that fails, with the time it is stamped with.
* `Deferred` — the endpoint rests, and its retry time is no earlier than that.
-/

namespace HumanoidMotion

open Tick

/-! ## The times of a run -/

def Call.reading : Call → Option SteadyTime
  | .steadyNow time => some time
  | _ => none

def readings (calls : List Call) : List SteadyTime := calls.filterMap Call.reading

def lastReading (calls : List Call) : Option SteadyTime := (readings calls).getLast?

theorem readings_append (calls calls' : List Call) :
    readings (calls ++ calls') = readings calls ++ readings calls' := List.filterMap_append

theorem mem_readings {reading : SteadyTime} {calls : List Call} :
    reading ∈ readings calls ↔ .steadyNow reading ∈ calls := by
  simp only [readings, List.mem_filterMap]
  constructor
  · rintro ⟨call, hcall, hreading⟩
    cases call with
    | steadyNow time => exact Option.some.inj hreading ▸ hcall
    | _ => cases hreading
  · exact fun h => ⟨_, h, rfl⟩

/-- The times a step has read: the first reading of a tick stands for the time it is called with. -/
def instants {β : Type} (g : Machine.Stage (CommandPipeline (β × List Call)) Op Reply) :
    List SteadyTime :=
  match g.input, readings (stageCalls g) with
  | .tick _ now, entered :: later => (entered :: later).map fun reading => now + (reading - entered)
  | _, _ => []

/-! ## The turn that fails -/

namespace Tick

section
variable {β : Type} {B : Platform β} {lib : MathLib} {ctx : TickContext} {id : String}
  {session : Session} {selected : JointFeedback} {status : MotionStatus}
  {s s' : TickState (β × List Call)}

/-- Ending a session reads no time. -/
theorem terminate_lastReading (p : CommandPipeline (β × List Call)) (state : SessionState)
    (preserve : Bool) : lastReading (p.terminate B.recorded id state status preserve).backend.2 =
      lastReading p.backend.2 := by
  rw [CommandPipeline.terminate_backend]
  split
  · change lastReading (p.backend.2 ++ [.stopSession id]) = _
    unfold lastReading
    rw [readings_append, show readings [.stopSession id] = [] from rfl, List.append_nil]
  · rfl

/-- A failed servo is gone, and the next start of its endpoint waits for the retry interval from the
last time that was read. -/
theorem stopAndFail_retries {α : Type} (h : Stored s id session) (hservo : isServo session.kind = true) :
    Prog.wp (stopAndFail B.recorded lib ctx id session selected status : TickM (β × List Call) α)
      (fun _ _ => False) (fun x s' => x = .next ∧ s'.pipeline.sessions[id]? = none ∧
        ∃ reading, lastReading (callsOf s') = some reading ∧
          s'.pipeline.servoRetryAfter[session.endpointName]? =
            some (ctx.now + (reading - ctx.enteredAt) + s'.pipeline.config.servoRetryInterval)) s := by
  unfold stopAndFail
  refine (stopSession_spec h).bind ?_
  rintro _ _ ⟨s₁, hold, limit, hm, -, -, rfl⟩
  have hfound : (issueHold s₁ session limit hold).pipeline.sessions[id]? = some session := by
    rw [issueHold_sessions]
    exact (h.moved hm).found
  generalize issueHold s₁ session limit hold = s₂ at hfound
  simp only [failBackend, Prog.wp_bind, Prog.wp_get, wp_at? hfound]
  rw [Prog.wp_ite, if_pos hservo]
  simp only [Prog.wp_bind, wp_currentTime, Prog.wp_modify, wp_terminate, Prog.wp_throw]
  refine ⟨trivial, ?_, (B.steadyNow s₂.pipeline.backend.1).1, ?_, ?_⟩
  · simp only [TickState.withPipeline, CommandPipeline.terminate_sessions, if_true]
  · refine (terminate_lastReading _ _ _).trans ?_
    change lastReading (s₂.pipeline.backend.2 ++ [.steadyNow _]) = _
    unfold lastReading
    rw [readings_append]
    exact List.getLast?_concat
  · simp only [TickState.withPipeline, terminate_retries, CommandPipeline.terminate_config,
      Std.TreeMap.getElem?_insert_self]
    rfl

/-- The turn of a servo that fails. -/
theorem Fails.turn {E : Exit → TickState (β × List Call) → Prop}
    (hsound : ∀ session, s.pipeline.sessions[id]? = some session → SessionOk s.pipeline id session)
    (h : Fails B.recorded lib ctx id s session selected status s')
    (hservo : isServo session.kind = true) :
    Prog.wp (turn B.recorded lib ctx id) (fun _ s₂ => s₂.pipeline.sessions[id]? = none ∧
      ∃ reading, lastReading (callsOf s₂) = some reading ∧
        s₂.pipeline.servoRetryAfter[session.endpointName]? =
          some (ctx.now + (reading - ctx.enteredAt) + s₂.pipeline.config.servoRetryInterval)) E s := by
  unfold Tick.turn
  rw [Prog.wp_catchExit]
  unfold Prog.wp
  rw [h.exec]
  refine (stopAndFail_retries (h.stored hsound).1 hservo).imp (fun _ _ h => h.elim) ?_
  rintro x s₂ ⟨rfl, hend⟩
  rw [if_pos rfl]
  exact hend

end

end Tick

/-! ## The endpoints of a run -/

section
variable {β : Type} {B : Platform β} {op : Op} {name : String} {policy : EndpointPolicy}

theorem Elem.registered {s s' : TickState β} (hstep : Elem B op s s')
    (h : s.pipeline.endpoints[name]? = some policy) : s'.pipeline.endpoints[name]? = some policy := by
  cases hstep with
  | silent p hs => exact hs.endpoints ▸ h
  | terminate id state status preserve =>
    exact (CommandPipeline.terminate_endpoints s.pipeline id state status preserve).symm ▸ h
  | register policy' =>
    have hin : name ∈ s.pipeline.endpoints :=
      Std.TreeMap.mem_iff_isSome_getElem?.2 (Option.isSome_of_eq_some h)
    simp only [TickState.withPipeline, Std.TreeMap.getElem?_insertIfNew,
      Std.LawfulEqOrd.compare_eq_iff_eq]
    rw [if_neg (by rintro ⟨rfl, hnot⟩; exact hnot hin), h]
  | _ => exact h

theorem Elems.registered {s s' : TickState β} (h : Elems B op s s')
    (hs : s.pipeline.endpoints[name]? = some policy) : s'.pipeline.endpoints[name]? = some policy :=
  h.invariant (I := fun s => s.pipeline.endpoints[name]? = some policy)
    (fun _ _ hstep h => hstep.registered h) hs

/-- A session of a servo endpoint has the id that is derived from it. -/
theorem Identity.derived {p : CommandPipeline β} {id : String} {session : Session}
    (h : Identity p id session) (hname : session.endpointName = name)
    (hpolicy : p.endpoints[name]? = some policy) (hservo : isServo policy.kind = true) :
    isServo session.kind = true ∧ id = servoId name := by
  obtain ⟨found, hfound, hkind, -⟩ := h.policy
  rw [hname, hpolicy] at hfound
  cases hfound
  exact ⟨hkind ▸ hservo, hname ▸ h.servo (hkind ▸ hservo)⟩

end

/-! ## One tick -/

section
variable {β : Type} {B : Platform β} {lib : MathLib} {e₀ : β × List Call} {names : List String}
  {s : CommandPipeline (β × List Call)} {endpoint : String} {due : SteadyTime}

theorem Tables.endpointsApart {p : CommandPipeline (β × List Call)}
    (h : Tables True B.logged e₀ p) : EndpointsApart p := by
  intro id id' session session' hs hs' hservo hname
  have hidentity := (h.rows id).identity trivial session hs
  have hidentity' := (h.rows id').identity trivial session' hs'
  obtain ⟨policy, hpolicy, hkind, -⟩ := hidentity.policy
  rw [(hidentity'.derived hname hpolicy (hkind ▸ hservo)).2, hidentity.servo hservo]

/-- The first call of a tick reads the time it is entered at. -/
theorem tickOpening_entered (s : CommandPipeline (β × List Call)) (feedback : JointFeedback)
    (now : SteadyTime) : ∃ rest, (s.tickOpening B.recorded now).pipeline.backend.2 = s.backend.2 ++
      .steadyNow (s.tickContext B.recorded feedback now).enteredAt :: rest ∧
      ∀ c ∈ rest, c.aside := by
  have hread := (outside_asides B).readClock (s.readClock B.recorded).2
  have hend := (outside_asides B).expired s now
  obtain ⟨rest, hrest, haside⟩ := hread.logs.trans hend.logs
  refine ⟨rest, hrest.trans ?_, haside⟩
  change (s.backend.2 ++ [_]) ++ rest = _
  rw [List.append_assoc]
  rfl

/-- The calls of a tick: those before the turns, those of the turns and those after them. -/
structure TickParts (lib : MathLib) (s : CommandPipeline (β × List Call)) (feedback : JointFeedback)
    (now : SteadyTime) (before more after : List Call) (s₂ : TickState (β × List Call)) : Prop where
  opened : callsOf (s.tickOpened B.recorded now) = s.backend.2 ++
    .steadyNow (s.tickContext B.recorded feedback now).enteredAt :: before
  asides : ∀ c ∈ before, c.aside
  turned : Turned B.recorded lib (s.tickContext B.recorded feedback now)
    (s.tickArbitration B.recorded now).winnerSessionIds (s.tickOpened B.recorded now) s₂
  calls : TurnCalls (s.tickContext B.recorded feedback now)
    (s.tickArbitration B.recorded now).winnerSessionIds (s.tickOpened B.recorded now) s₂ more
  starts : TurnStarts (s.tickContext B.recorded feedback now)
    (s.tickArbitration B.recorded now).winnerSessionIds (s.tickOpened B.recorded now) s₂ more
  pipeline : (exec B.recorded lib s (.tick feedback now)).2 =
    (closed B.recorded (s.tickContext B.recorded feedback now) s₂).pipeline
  closed : (exec B.recorded lib s (.tick feedback now)).2.backend.2 = callsOf s₂ ++ after
  asides' : ∀ c ∈ after, c.aside

variable (lib) in
theorem tick_parts (h : InOrder B.logged e₀ names s) (feedback : JointFeedback) (now : SteadyTime) :
    ∃ before more after s₂, TickParts (B := B) lib s feedback now before more after s₂ := by
  obtain ⟨s₂, hturned, htick⟩ := tick_turned B.recorded lib s feedback now h.sound
  have hsound : Sound (s.tickOpened B.recorded now).pipeline := tickStarted_sound h.sound feedback now _
  obtain ⟨more, hcalls, hstarts⟩ := (hturned.logged hsound).1.starts
    (tick_winnersNodup (S := B.logged) h.tables now) (tickOpened_tables h.tables now).endpointsApart
  obtain ⟨rest, hrest, hasides⟩ := tickOpening_entered (B := B) s feedback now
  obtain ⟨mid, hmid, hasides'⟩ := (opened_asides (B := B) (s.schedulingGap now)
    (s.tickArbitration B.recorded now).winnerSessionIds (s.tickOpening B.recorded now)).logs
  obtain ⟨after, hafter, hasides''⟩ :=
    (closed_asides (B := B) (s.tickContext B.recorded feedback now) s₂).logs
  have hpipeline : (exec B.recorded lib s (.tick feedback now)).2 =
      (Tick.closed B.recorded (s.tickContext B.recorded feedback now) s₂).pipeline := by
    simp only [exec, htick]
  refine ⟨rest ++ mid, more, after, s₂, ?_, ?_, hturned, hcalls, hstarts, hpipeline, ?_, hasides''⟩
  · rw [show callsOf (s.tickOpened B.recorded now) = _ from hmid, hrest, List.append_assoc,
      List.cons_append]
  · exact List.forall_mem_append.2 ⟨hasides, hasides'⟩
  · rw [hpipeline]
    exact hafter

/-- The tick as a stage of a run. -/
def tickStage (B : Platform β) (lib : MathLib) (s : CommandPipeline (β × List Call))
    (feedback : JointFeedback) (now : SteadyTime) :
    Machine.Stage (CommandPipeline (β × List Call)) Op Reply :=
  ⟨s, .tick feedback now, (exec B.recorded lib s (.tick feedback now)).1,
    (exec B.recorded lib s (.tick feedback now)).2⟩

theorem TickParts.calls_eq {feedback : JointFeedback} {now : SteadyTime}
    {before more after : List Call} {s₂ : TickState (β × List Call)}
    (h : TickParts (B := B) lib s feedback now before more after s₂) :
    tickCalls B lib s feedback now =
      .steadyNow (s.tickContext B.recorded feedback now).enteredAt :: (before ++ (more ++ after)) := by
  have hall : (exec B.recorded lib s (.tick feedback now)).2.backend.2 = s.backend.2 ++
      .steadyNow (s.tickContext B.recorded feedback now).enteredAt :: (before ++ (more ++ after)) := by
    rw [h.closed, h.calls.calls, h.opened]
    simp
  change List.drop _ _ = _
  rw [hall, List.drop_left]

theorem TickParts.instants {feedback : JointFeedback} {now : SteadyTime}
    {before more after : List Call} {s₂ : TickState (β × List Call)}
    (h : TickParts (B := B) lib s feedback now before more after s₂) :
    instants (tickStage B lib s feedback now) = (readings (tickCalls B lib s feedback now)).map
      fun reading => now + (reading - (s.tickContext B.recorded feedback now).enteredAt) := by
  have hcalls : stageCalls (tickStage B lib s feedback now) =
      .steadyNow (s.tickContext B.recorded feedback now).enteredAt :: (before ++ (more ++ after)) :=
    h.calls_eq
  rw [h.calls_eq]
  unfold HumanoidMotion.instants
  rw [hcalls]
  rfl

/-- The endpoint rests, and its retry time is no earlier than `due`. -/
structure Deferred (endpoint : String) (due : SteadyTime) {γ : Type} (p : CommandPipeline γ) : Prop where
  policy : ∃ policy, p.endpoints[endpoint]? = some policy ∧ isServo policy.kind = true
  retry : ∃ retry, p.servoRetryAfter[endpoint]? = some retry ∧ due ≤ retry
  rests : AtRest p (servoId endpoint)

/-- A session of the endpoint is the one with the derived id. -/
theorem Deferred.derived {p : CommandPipeline (β × List Call)} (h : Deferred endpoint due p)
    (htables : Tables True B.logged e₀ p) {id : String} {session : Session}
    (hfound : p.sessions[id]? = some session) (hname : session.endpointName = endpoint) :
    id = servoId endpoint := by
  obtain ⟨policy, hpolicy, hservo⟩ := h.policy
  exact (((htables.rows id).identity trivial session hfound).derived hname hpolicy hservo).2

/-- Turns that do not start the session leave the endpoint at rest. -/
theorem Tick.TurnStarts.deferred {ctx : TickContext} {ids : List String} {t t' : TickState (β × List Call)}
    {more : List Call} (hstarts : TurnStarts ctx ids t t' more)
    (hservo : ∀ id session, t.pipeline.sessions[id]? = some session →
      session.endpointName = endpoint → id = servoId endpoint)
    (hunasked : Unasked (servoId endpoint) more) (h : AtRest t.pipeline (servoId endpoint)) :
    AtRest t'.pipeline (servoId endpoint) ∧
      t'.pipeline.servoRetryAfter[endpoint]? = t.pipeline.servoRetryAfter[endpoint]? := by
  refine ⟨hstarts.rests _ h hunasked, hstarts.retries endpoint fun id _ session hs hname => ?_⟩
  obtain rfl := hservo id session hs hname
  exact ⟨h session hs, hunasked⟩

theorem tickOpened_retries (s : CommandPipeline (β × List Call)) (now : SteadyTime) :
    (s.tickOpened B.recorded now).pipeline.servoRetryAfter = s.servoRetryAfter := by
  obtain ⟨-, -, hopening⟩ := tickOpening_asides (B := B) s now
  have hopened := opened_asides (B := B) (s.schedulingGap now)
    (s.tickArbitration B.recorded now).winnerSessionIds (s.tickOpening B.recorded now)
  exact hopened.retries.trans hopening

/-- What a tick knows of a start of the servo session of an endpoint. -/
structure ServoStart (s : CommandPipeline (β × List Call)) (ctx : TickContext) (endpoint : String)
    (pre : List Call) (request : SessionRequest) (selected : JointFeedback) (session : Session) :
    Prop where
  found : s.sessions[servoId endpoint]? = some session
  request : session.request = request
  selected : selectFeedback ctx.feedback session.jointNames = .ok selected
  past : ∀ retry, s.servoRetryAfter[endpoint]? = some retry → Past ctx retry pre

theorem TickParts.servoStart {feedback : JointFeedback} {now : SteadyTime}
    {before more after pre post : List Call} {s₂ : TickState (β × List Call)}
    (h : TickParts (B := B) lib s feedback now before more after s₂)
    (horder : InOrder B.logged e₀ names s) (hname : endpoint ∈ names) {request : SessionRequest}
    {selected : JointFeedback} {period : Rat} {answer : MotionStatus}
    (hsplit : more = pre ++ .startSession (servoId endpoint) request selected period answer :: post) :
    ∃ session, ServoStart s (s.tickContext B.recorded feedback now) endpoint pre request selected
      session := by
  obtain ⟨session, hfound, hrequest, hselected, hpast⟩ := h.starts.starts _ _ _ _ _ _ _ hsplit
  obtain ⟨old, hold, hsame⟩ := tickOpened_descends horder.sound feedback now _ session hfound
  have hkind : session.kind = old.kind := congrArg motionKind hsame.request
  have hservo : isServo session.kind = true := by
    rw [hkind]
    by_contra hnot
    exact horder.ids.named.move _ old hold (by simpa using hnot) endpoint hname rfl
  have hown : endpoint = session.endpointName :=
    servoId_injective ((((tickOpened_tables horder.tables now).rows _).identity trivial session
      hfound).servo hservo)
  refine ⟨old, hold, hsame.request ▸ hrequest, hsame.jointNames ▸ hselected, fun retry hretry => ?_⟩
  refine hpast hservo retry ?_
  rw [← hown, tickOpened_retries]
  exact hretry

theorem Deferred.name_mem (h : Deferred endpoint due s) (horder : InOrder B.logged e₀ names s) :
    endpoint ∈ names := by
  obtain ⟨policy, hpolicy, -⟩ := h.policy
  exact horder.ids.named.registered endpoint policy hpolicy

variable (lib) in
/-- Over a tick the endpoint stays deferred, or the clock has passed the time. -/
theorem Deferred.tick (h : Deferred endpoint due s) (horder : InOrder B.logged e₀ names s)
    (feedback : JointFeedback) (now : SteadyTime) :
    Deferred endpoint due (exec B.recorded lib s (.tick feedback now)).2 ∨
      ∃ instant ∈ instants (tickStage B lib s feedback now), due ≤ instant := by
  obtain ⟨before, more, after, s₂, hparts⟩ := tick_parts lib horder feedback now
  obtain ⟨retry, hretry, hdue⟩ := h.retry
  by_cases hunasked : Unasked (servoId endpoint) more
  · left
    have hrests : AtRest (s.tickOpened B.recorded now).pipeline (servoId endpoint) := by
      by_contra hrun
      exact (tickOpened_run horder.tables now hrun).2 h.rests
    have hservo : ∀ id session, (s.tickOpened B.recorded now).pipeline.sessions[id]? = some session →
        session.endpointName = endpoint → id = servoId endpoint := by
      intro id session hfound hname
      obtain ⟨old, hold, hsame⟩ := tickOpened_descends horder.sound feedback now id session hfound
      exact h.derived horder.tables hold (hsame.endpointName.symm.trans hname)
    obtain ⟨hrests', hretries⟩ := hparts.starts.deferred hservo hunasked hrests
    have hclosed := closed_asides (B := B) (s.tickContext B.recorded feedback now) s₂
    obtain ⟨t, helems, hpipeline, -, -⟩ := exec_elems B.recorded lib s horder.sound (.tick feedback now)
    obtain ⟨policy, hpolicy, hkind⟩ := h.policy
    refine ⟨⟨policy, ?_, hkind⟩, ⟨retry, ?_, hdue⟩, ?_⟩
    · rw [hpipeline]
      exact helems.registered hpolicy
    · rw [hparts.pipeline, hclosed.retries, hretries, tickOpened_retries, hretry]
    · rw [hparts.pipeline]
      exact closed_atRest hrests'
  · right
    simp only [Unasked, not_forall, not_not] at hunasked
    obtain ⟨request, selected, period, answer, hin⟩ := hunasked
    obtain ⟨pre, post, hsplit⟩ := List.append_of_mem hin
    obtain ⟨session, hstart⟩ := hparts.servoStart horder (h.name_mem horder) hsplit
    obtain ⟨reading, hread, hpast⟩ := hstart.past retry hretry
    refine ⟨_, ?_, hdue.trans hpast⟩
    rw [hparts.instants, hparts.calls_eq, hsplit]
    refine List.mem_map_of_mem (mem_readings.2 ?_)
    simp [hread]

variable (lib) in
/-- No other call touches the retry time or runs a session. -/
theorem Deferred.call (h : Deferred endpoint due s) (horder : InOrder B.logged e₀ names s) {op : Op}
    (hkeeps : op.Keeps names) (hop : op.isTick = false) :
    Deferred endpoint due (exec B.recorded lib s op).2 := by
  have hasides := exec_asides (B := B) lib s hop
  have hafter : InOrder B.logged e₀ names (exec B.recorded lib s op).2 := horder.exec lib hkeeps
  obtain ⟨t, helems, hpipeline, -, -⟩ := exec_elems B.recorded lib s horder.sound op
  obtain ⟨policy, hpolicy, hkind⟩ := h.policy
  obtain ⟨retry, hretry, hdue⟩ := h.retry
  refine ⟨⟨policy, ?_, hkind⟩, ⟨retry, ?_, hdue⟩, ?_⟩
  · rw [hpipeline]
    exact helems.registered hpolicy
  · rw [hasides.retries, hretry]
  · by_contra hrun
    obtain ⟨more, hmore, haside⟩ := hasides.logs
    have halive := (alive_of_run hafter.tables).1 hrun
    rw [hmore] at halive
    exact (alive_of_run horder.tables).2 (startedIn_asides haside halive) h.rests

end

/-! ## The newest target of an endpoint -/

section
variable {β : Type} {B : Platform β} {lib : MathLib} {endpoint : String}

/-- The target of the endpoint that a step has accepted. -/
def acceptedTarget (endpoint : String)
    (g : Machine.Stage (CommandPipeline β) Op Reply) : Option SessionRequest :=
  match g.input with
  | .updateServo name request _ _ _ =>
    if name = endpoint && g.output.accepted then some request else none
  | _ => none

/-- The last target that was accepted for the endpoint. -/
def lastAccepted (endpoint : String) (past : List (Machine.Stage (CommandPipeline β) Op Reply)) :
    Option SessionRequest := (past.filterMap (acceptedTarget endpoint)).getLast?

/-- The session of the endpoint carries the target that was last accepted for it. -/
def Newest (endpoint : String) (past : List (Machine.Stage (CommandPipeline β) Op Reply))
    (s : CommandPipeline β) : Prop :=
  ∀ session, s.sessions[servoId endpoint]? = some session →
    lastAccepted endpoint past = some session.request

theorem lastAccepted_eq (past : List (Machine.Stage (CommandPipeline β) Op Reply)) :
    lastAccepted endpoint past = lastWith (fun request _ => request) endpoint past := by
  unfold lastAccepted lastWith
  congr 1

variable {e₀ : β × List Call} {names : List String} {s : CommandPipeline (β × List Call)}
  {past : List (Machine.Stage (CommandPipeline (β × List Call)) Op Reply)} {op : Op}

variable (lib) in
theorem Newest.step (h : Newest endpoint past s) (horder : InOrder B.logged e₀ names s)
    (hkeeps : op.Keeps names) (hname : endpoint ∈ names) :
    Newest endpoint (past ++ [⟨s, op, (exec B.recorded lib s op).1, (exec B.recorded lib s op).2⟩])
      (exec B.recorded lib s op).2 := by
  have hcarries : Carries (fun request _ => request) endpoint past s := fun session hs =>
    lastAccepted_eq past ▸ h session hs
  intro session hfound
  rw [lastAccepted_eq]
  exact hcarries.step B.recorded lib horder.sound (fun id hid => hkeeps.moveFree id hid endpoint hname)
    session hfound

end

/-! ## The tick that fails -/

section
variable {β : Type} {B : Platform β} {lib : MathLib} {e₀ : β × List Call} {names : List String}
  {s : CommandPipeline (β × List Call)} {endpoint : String} {feedback : JointFeedback}
  {now time : SteadyTime} {record : List Call}

/-- In the tick the turn of a servo session of the endpoint meets a failure. `record` are all calls
up to its end, and `time` is the last time it has read. -/
inductive ServoFails (B : Platform β) (lib : MathLib) (s : CommandPipeline (β × List Call))
    (feedback : JointFeedback) (now : SteadyTime) (endpoint : String) (record : List Call)
    (time : SteadyTime) : Prop
  | mk (id : String) (before after : List String) (session : Session) (selected : JointFeedback)
      (status : MotionStatus) (s₀ s₁ s₂ : TickState (β × List Call)) (reading : SteadyTime)
      (hwinners : (s.tickArbitration B.recorded now).winnerSessionIds = before ++ id :: after)
      (hbefore : Turned B.recorded lib (s.tickContext B.recorded feedback now) before
        (s.tickOpened B.recorded now) s₀)
      (hfails : Fails B.recorded lib (s.tickContext B.recorded feedback now) id s₀ session selected
        status s₁)
      (hservo : isServo session.kind = true) (hendpoint : session.endpointName = endpoint)
      (hturn : (turn B.recorded lib (s.tickContext B.recorded feedback now) id).exec s₀ =
        (.ok (), s₂))
      (hrecord : record = callsOf s₂) (hreading : lastReading record = some reading)
      (htime : time = now + (reading - (s.tickContext B.recorded feedback now).enteredAt)) :
      ServoFails B lib s feedback now endpoint record time

theorem unasked_of_asides {id : String} {calls : List Call} (h : ∀ c ∈ calls, c.aside) :
    Unasked id calls := fun _ _ _ _ hin => (h _ hin).elim

theorem Unasked.append {id : String} {calls calls' : List Call} (h : Unasked id calls)
    (h' : Unasked id calls') : Unasked id (calls ++ calls') := by
  intro request selected period answer hin
  rcases List.mem_append.1 hin with hin | hin
  · exact h _ _ _ _ hin
  · exact h' _ _ _ _ hin

theorem tickOpened_config (s : CommandPipeline (β × List Call)) (now : SteadyTime) :
    (s.tickOpened B.recorded now).pipeline.config = s.config := by
  obtain ⟨-, hopening, -⟩ := tickOpening_asides (B := B) s now
  have hopened := opened_asides (B := B) (s.schedulingGap now)
    (s.tickArbitration B.recorded now).winnerSessionIds (s.tickOpening B.recorded now)
  exact congrArg (·.2.2) (hopened.times.trans hopening)

theorem Tick.Turned.rest {ctx : TickContext} {before after : List String} {id : String}
    {t t₀ t₁ t' : TickState (β × List Call)}
    (hall : Turned B.recorded lib ctx (before ++ id :: after) t t')
    (hbefore : Turned B.recorded lib ctx before t t₀)
    (hturn : (turn B.recorded lib ctx id).exec t₀ = (.ok (), t₁)) :
    Turned B.recorded lib ctx (before ++ [id]) t t₁ ∧ Turned B.recorded lib ctx after t₁ t' := by
  refine ⟨Turned.append.2 ⟨t₀, hbefore, Turned.cons.2 ⟨t₁, hturn, Turned.nil.2 rfl⟩⟩, ?_⟩
  obtain ⟨u₀, hbefore', hrest⟩ := Turned.append.1 hall
  obtain ⟨u₁, hturn', hafter⟩ := Turned.cons.1 hrest
  cases congrArg Prod.snd (hbefore.symm.trans hbefore')
  cases congrArg Prod.snd (hturn.symm.trans hturn')
  exact hafter

theorem Tick.Turned.descends {ids : List String} {t : TickState (β × List Call)}
    (h : Turned B.recorded lib (s.tickContext B.recorded feedback now) ids
      (s.tickOpened B.recorded now) t) (hsound : Sound s) : Descends s t.pipeline := by
  have helems : Elems B.recorded (.tick feedback now) (s.tickOpened B.recorded now) t :=
    (h.turns (tickStarted_sound hsound feedback now _)).elems rfl
  exact (tickOpened_descends hsound feedback now).trans (helems.descends rfl)

/-- A servo session that fails is the one of a registered servo endpoint. -/
theorem Tick.Fails.registered {ids : List String} {id : String} {session : Session}
    {selected : JointFeedback} {status : MotionStatus} {t t' : TickState (β × List Call)}
    (h : Fails B.recorded lib (s.tickContext B.recorded feedback now) id t session selected status t')
    (hservo : isServo session.kind = true) (hturned : Turned B.recorded lib
      (s.tickContext B.recorded feedback now) ids (s.tickOpened B.recorded now) t)
    (horder : InOrder B.logged e₀ names s) :
    id = servoId session.endpointName ∧ ∃ policy, s.endpoints[session.endpointName]? = some policy ∧
      isServo policy.kind = true := by
  have hsound : Sound t.pipeline :=
    (hturned.logged (tickStarted_sound horder.sound feedback now _)).2
  obtain ⟨-, found, hfound, hsame⟩ := h.stored fun session hf => hsound.sessionOk id session hf
  obtain ⟨old, hold, hsame'⟩ := hturned.descends horder.sound id found hfound
  have hclient := hsame'.trans hsame
  have hidentity := (horder.tables.rows id).identity trivial old hold
  have hkind : old.kind = session.kind := congrArg motionKind hclient.request.symm
  obtain ⟨policy, hpolicy, hpolicyKind, -⟩ := hidentity.policy
  refine ⟨?_, policy, ?_, ?_⟩
  · rw [hclient.endpointName]
    exact hidentity.servo (hkind ▸ hservo)
  · rw [hclient.endpointName, hpolicy]
  · rw [hpolicyKind, hkind, hservo]

/-- The endpoint is deferred by the tick that fails, and the rest of that tick does not start it. -/
theorem ServoFails.deferred (h : ServoFails B lib s feedback now endpoint record time)
    (horder : InOrder B.logged e₀ names s) :
    Deferred endpoint (time + s.config.servoRetryInterval)
        (exec B.recorded lib s (.tick feedback now)).2 ∧
      ∃ rest, (exec B.recorded lib s (.tick feedback now)).2.backend.2 = record ++ rest ∧
        Unasked (servoId endpoint) rest := by
  obtain ⟨id, before, after, session, selected, status, s₀, s₁, s₂, reading, hwinners, hbefore, hfails,
    hservo, rfl, hturn, rfl, hreading, rfl⟩ := h
  obtain ⟨early, more, late, s₃, hparts⟩ := tick_parts lib horder feedback now
  have hopened : Sound (s.tickOpened B.recorded now).pipeline :=
    tickStarted_sound horder.sound feedback now _
  -- the turns up to the failure, and those after it
  obtain ⟨hupto, hafter⟩ := Turned.rest (hwinners ▸ hparts.turned) hbefore hturn
  have hsound₀ := (hbefore.logged hopened).2
  have hdescends := hupto.descends horder.sound
  have hnodup : (s.tickArbitration B.recorded now).winnerSessionIds.Nodup :=
    tick_winnersNodup (S := B.logged) horder.tables now
  rw [hwinners, List.append_cons, List.nodup_append] at hnodup
  obtain ⟨hnodupUpto, hnodupAfter, hapart⟩ := hnodup
  have hnotin : id ∉ after := fun hin => hapart id (by simp) id hin rfl
  obtain ⟨rest, hcalls, hstarts⟩ := (hafter.logged (hupto.logged hopened).2).1.starts hnodupAfter
    (horder.tables.endpointsApart.descends hdescends)
  obtain ⟨hid, policy, hpolicy, hkind⟩ := hfails.registered hservo hbefore horder
  have hunasked : Unasked (servoId session.endpointName) rest := by
    intro request selected period answer hin
    have hfree := hcalls.free id hnotin _ (hid ▸ hin)
    simp [Call.drives] at hfree
  -- the session is gone, and no other turn touches the retry time
  obtain ⟨hgone, reading', hreading', hretry⟩ := (hfails.turn (E := fun _ _ => False)
    (fun session hf => hsound₀.sessionOk id session hf) hservo).exec_ok hturn
  cases hreading.symm.trans hreading'
  obtain ⟨upto, hcalls'⟩ := (hupto.logged hopened).1.calls hnodupUpto
  have hconfig : s₂.pipeline.config = s.config :=
    (congrArg (·.2.2.2) hcalls'.clock).trans (tickOpened_config s now)
  have hderived : ∀ k stored, s₂.pipeline.sessions[k]? = some stored →
      stored.endpointName = session.endpointName → k = servoId session.endpointName := by
    intro k stored hstored hname
    obtain ⟨first, hfirst, hsame⟩ := hdescends k stored hstored
    exact (((horder.tables.rows k).identity trivial first hfirst).derived
      (hsame.endpointName.symm.trans hname) hpolicy hkind).2
  obtain ⟨hrests, hretries⟩ := hstarts.deferred hderived hunasked (hid ▸ Unstarted.of_none hgone)
  have hclosed := closed_asides (B := B) (s.tickContext B.recorded feedback now) s₃
  obtain ⟨t, helems, hpipeline, -, -⟩ := exec_elems B.recorded lib s horder.sound (.tick feedback now)
  refine ⟨⟨⟨policy, ?_, hkind⟩, ⟨_, ?_, le_refl _⟩, ?_⟩, rest ++ late, ?_, ?_⟩
  · rw [hpipeline]
    exact helems.registered hpolicy
  · rw [hparts.pipeline, hclosed.retries, hretries, hretry, hconfig]
    rfl
  · rw [hparts.pipeline]
    exact closed_atRest hrests
  · rw [hparts.closed, hcalls.calls, List.append_assoc]
  · exact hunasked.append (unasked_of_asides hparts.asides')

/-! ## Runs -/

variable (lib) in
/-- Over a run the endpoint stays deferred, or the clock has passed the time. -/
theorem Deferred.run {due : SteadyTime} {ops : List Op} (h : Deferred endpoint due s)
    (horder : InOrder B.logged e₀ names s) (hkeeps : ∀ op ∈ ops, op.Keeps names) :
    Deferred endpoint due ((machine B.recorded lib).run s ops) ∨
      ∃ g ∈ (machine B.recorded lib).trace s ops, ∃ instant ∈ instants g, due ≤ instant := by
  induction ops generalizing s with
  | nil => exact .inl h
  | cons op ops ih =>
    obtain ⟨hop, hops⟩ := List.forall_mem_cons.1 hkeeps
    have hnext : InOrder B.logged e₀ names (exec B.recorded lib s op).2 := horder.exec lib hop
    have hstep : Deferred endpoint due (exec B.recorded lib s op).2 ∨ ∃ instant ∈ instants
        ⟨s, op, (exec B.recorded lib s op).1, (exec B.recorded lib s op).2⟩, due ≤ instant := by
      by_cases htick : op.isTick = true
      · cases op with
        | tick feedback now => exact h.tick lib horder feedback now
        | _ => cases htick
      · exact .inl (h.call lib horder hop (by simpa using htick))
    rw [Machine.run_cons, Machine.trace_cons]
    rcases hstep with hkept | hpast
    · refine (ih hkept hnext hops).imp_right ?_
      rintro ⟨g, hg, hpast⟩
      exact ⟨g, List.mem_cons_of_mem _ hg, hpast⟩
    · exact .inr ⟨_, List.mem_cons_self, hpast⟩

/-- The last of the times read is no earlier than the others. -/
theorem le_lastReading {f : SteadyTime → SteadyTime} {pre post : List Call} {reading last : SteadyTime}
    (hsorted : ((readings (pre ++ post)).map f).Pairwise (· ≤ ·)) (hin : reading ∈ readings pre)
    (hlast : lastReading pre = some last) : f reading ≤ f last := by
  obtain ⟨earlier, hpre⟩ := List.getLast?_eq_some_iff.1 hlast
  rw [readings_append, hpre, List.map_append, List.map_append] at hsorted
  rw [hpre] at hin
  have hfront := (List.pairwise_append.1 hsorted).1
  rcases List.mem_append.1 hin with hin | hin
  · exact (List.pairwise_append.1 hfront).2.2 _ (List.mem_map_of_mem hin) _ (by simp)
  · rw [List.mem_singleton.1 hin]

end

theorem run_newest {β : Type} (B : Platform β) (lib : MathLib) (e : β)
    (groups : List JointGroupModel) (config : CommandPipelineConfig) {ops : List Op}
    (hfree : MoveIdsFree ops) {endpoint : String} (hname : endpoint ∈ endpointNames ops) :
    Newest endpoint
      ((machine B.recorded lib).trace (CommandPipeline.create (e, []) groups config) ops)
      ((machine B.recorded lib).run (CommandPipeline.create (e, []) groups config) ops) := by
  have hinit : Newest endpoint [] (CommandPipeline.create (e, ([] : List Call)) groups config) := by
    simp [Newest, CommandPipeline.create]
  have hrun := Machine.history_meets (M := machine B.recorded lib)
    (H := fun past s => InOrder B.logged (e, []) (endpointNames ops) s ∧ Newest endpoint past s)
    (fun past s op hop h => ⟨h.1.exec lib hop, h.2.step lib h.1 hop hname⟩)
    ⟨create_inOrder _ groups config (B.logged_fresh e), hinit⟩ hfree.keeps
  exact hrun.2

/-- Over every run whose clock does not go back: after a tick in which a servo session of an endpoint
fails, at `time`, that tick does not start the endpoint again, and a later tick does so only once it
has read a time past the retry interval, for the target that was last accepted for the endpoint and
from the tick's own feedback. -/
theorem failed_servo_waits {β : Type} (B : Platform β) (lib : MathLib) (e : β)
    (groups : List JointGroupModel) (config : CommandPipelineConfig) (ops later : List Op)
    (feedback feedback' : JointFeedback) (now now' : SteadyTime)
    (hfree : MoveIdsFree (ops ++ .tick feedback now :: later))
    (hclock : (((machine B.recorded lib).trace (CommandPipeline.create (e, []) groups config)
      (ops ++ .tick feedback now :: (later ++ [.tick feedback' now']))).flatMap instants).Pairwise
        (· ≤ ·)) :
    let init := CommandPipeline.create (e, ([] : List Call)) groups config
    let run := (machine B.recorded lib).run init
    ∀ endpoint record time, ServoFails B lib (run ops) feedback now endpoint record time →
      (∃ rest, (run (ops ++ [.tick feedback now])).backend.2 = record ++ rest ∧
        Unasked (servoId endpoint) rest) ∧
      let s := run (ops ++ .tick feedback now :: later)
      let past := (machine B.recorded lib).trace init (ops ++ .tick feedback now :: later)
      ∀ pre request selected period answer post,
        tickCalls B lib s feedback' now' =
          pre ++ .startSession (servoId endpoint) request selected period answer :: post →
        ∃ reading session, lastReading pre = some reading ∧
          time + config.servoRetryInterval ≤
            now' + (reading - (s.tickContext B.recorded feedback' now').enteredAt) ∧
          lastAccepted endpoint past = some request ∧
          s.sessions[servoId endpoint]? = some session ∧
          selectFeedback feedback' session.jointNames = .ok selected := by
  intro init run endpoint record time hfails
  -- the run up to the failure, after it, and up to the later tick
  have hkeeps := hfree.keeps
  have hbefore : InOrder B.logged (e, []) (endpointNames (ops ++ .tick feedback now :: later))
      (run ops) := (create_inOrder _ groups config (B.logged_fresh e)).run fun op hop =>
    hkeeps op (List.mem_append_left _ hop)
  have hkeeps' : ∀ op ∈ later, op.Keeps (endpointNames (ops ++ .tick feedback now :: later)) :=
    fun op hop => hkeeps op (List.mem_append_right _ (List.mem_cons_of_mem _ hop))
  have hnext : InOrder B.logged (e, []) _ (exec B.recorded lib (run ops) (.tick feedback now)).2 :=
    hbefore.exec lib (hkeeps _ (List.mem_append_right _ List.mem_cons_self))
  have hconfig : (run ops).config = config := congrArg (·.2.2)
    (run_clocked B lib e groups config ops).times
  obtain ⟨hdeferred, rest, hrest, hunasked⟩ := hfails.deferred hbefore
  rw [hconfig] at hdeferred
  refine ⟨⟨rest, ?_, hunasked⟩, ?_⟩
  · simp only [run, Machine.run_append]
    exact hrest
  intro s past pre request selected period answer post hsplit
  have hs : s = (machine B.recorded lib).run (exec B.recorded lib (run ops) (.tick feedback now)).2
      later := by
    simp only [s, run, Machine.run_append, Machine.run_cons]
    rfl
  have horder : InOrder B.logged (e, []) (endpointNames (ops ++ .tick feedback now :: later)) s :=
    hs ▸ hnext.run hkeeps'
  obtain ⟨before, more, after, s₂, hparts⟩ := tick_parts lib horder feedback' now'
  have hcalls : (.steadyNow (s.tickContext B.recorded feedback' now').enteredAt :: before) ++
      (more ++ after) = pre ++ .startSession (servoId endpoint) request selected period answer :: post :=
    hparts.calls_eq.symm.trans hsplit
  obtain ⟨pre', post', rfl, hmore⟩ := split_middle (p := Call.isStart) rfl
    (List.forall_mem_cons.2 ⟨rfl, fun c hc => ((hparts.asides c hc).plain 0).unstarted⟩)
    (fun c hc => ((hparts.asides' c hc).plain 0).unstarted) hcalls
  have hname := hdeferred.name_mem hnext
  obtain ⟨session, hstart⟩ := hparts.servoStart horder hname hmore
  have hnewest := run_newest B lib e groups config hfree hname
  have hrequest : lastAccepted endpoint past = some request :=
    (hnewest session hstart.found).trans (congrArg some hstart.request)
  -- the times of the later tick come after all that were read before it
  rw [← List.cons_append, ← List.append_assoc, Machine.trace_append, List.flatMap_append,
    List.pairwise_append] at hclock
  obtain ⟨-, hsorted, hacross⟩ := hclock
  change ([tickStage B lib s feedback' now'].flatMap instants).Pairwise _ at hsorted
  change ∀ instant ∈ past.flatMap instants, ∀ instant' ∈ [tickStage B lib s feedback' now'].flatMap
    instants, instant ≤ instant' at hacross
  simp only [List.flatMap_cons, List.flatMap_nil, List.append_nil, hparts.instants, hsplit]
    at hsorted hacross
  obtain ⟨reading, hreading⟩ : ∃ reading, lastReading (.steadyNow
      (s.tickContext B.recorded feedback' now').enteredAt :: before ++ pre') = some reading :=
    Option.isSome_iff_exists.1 (by simp [lastReading, readings, Call.reading])
  refine ⟨reading, session, hreading, ?_, hrequest, hstart.found, hstart.selected⟩
  rcases hdeferred.run lib hnext hkeeps' with hkept | ⟨g, hg, instant, hin, hdue⟩
  · obtain ⟨retry, hretry, hdue⟩ := hkept.retry
    obtain ⟨passed, hpassed, hle⟩ := hstart.past retry (hs ▸ hretry)
    have hread : passed ∈ readings (.steadyNow (s.tickContext B.recorded feedback' now').enteredAt ::
        before ++ pre') := mem_readings.2 (List.mem_append_right _ hpassed)
    have hlast := le_lastReading hsorted hread hreading
    exact (hdue.trans hle).trans hlast
  · have hpast : g ∈ past := by
      simp only [past, init, Machine.trace_append, Machine.trace_cons]
      exact List.mem_append_right _ (List.mem_cons_of_mem _ hg)
    refine hdue.trans (hacross instant (List.mem_flatMap.2 ⟨g, hpast, hin⟩) _ ?_)
    refine List.mem_map_of_mem ?_
    rw [readings_append]
    exact List.mem_append_left _ (List.mem_of_getLast? hreading)

namespace Fixture

/-- An SDK that starts nothing. -/
def busy : FakeSdk := { startStatus := { code := .sdkError, message := "busy" } }

/-- A servo with its first target. -/
def servoOps : List Op := [endpoint "t" .servoJ "left" 30, servoJ "t" "left" leftJoints 0]

def leftTarget : SessionRequest := .servoJ ⟨"", "left", target leftJoints (1 / 10), {}⟩

def busyRun (ops : List Op) : CommandPipeline (FakeSdk × List Call) :=
  (machine FakeSdk.platform.toPlatform.recorded mathLib).run
    (CommandPipeline.create (busy, []) allGroups {}) ops

/-- The failing turn of the first tick. -/
def failedTurn : TickState (FakeSdk × List Call) :=
  ((turn FakeSdk.platform.toPlatform.recorded mathLib
    ((busyRun servoOps).tickContext FakeSdk.platform.toPlatform.recorded (feedback 0) (milliseconds 0))
    "servo:t").exec ((busyRun servoOps).tickOpened FakeSdk.platform.toPlatform.recorded
      (milliseconds 0))).2

theorem busy_fails : ServoFails FakeSdk.platform.toPlatform mathLib (busyRun servoOps) (feedback 0)
    (milliseconds 0) "t" (callsOf failedTurn) 0 := by
  have hwinners : ((busyRun servoOps).tickArbitration FakeSdk.platform.toPlatform.recorded
      (milliseconds 0)).winnerSessionIds = [] ++ "servo:t" :: [] := by decide +kernel
  refine .mk "servo:t" [] [] ⟨"t", "servo:t", "left", leftJoints, leftTarget, 0, false, {}, false⟩
    ⟨leftJoints, [.fin 0, .fin 0], [.fin 0, .fin 0], 0⟩ busy.startStatus _ _ failedTurn 0 hwinners
    (Turned.nil.2 rfl) (.starting _ _ _ _ _ (Prod.ext (by decide +kernel) rfl) rfl
      (.start _ _ (Prod.ext (by decide +kernel) rfl) rfl)) rfl rfl
    (Prod.ext (by decide +kernel) rfl) rfl (by decide +kernel) (by decide +kernel)

end Fixture

open Fixture in
/-- An SDK that is busy is asked again after the interval. -/
theorem failed_servo_waits_busy :
    let s := busyRun (servoOps ++ [tick 0, servoJ "t" "left" leftJoints 600])
    ∃ pre selected period answer post,
      tickCalls FakeSdk.platform.toPlatform mathLib s (feedback 600) (milliseconds 600) =
        pre ++ .startSession "servo:t" leftTarget selected period answer :: post ∧
      ∃ reading session, lastReading pre = some reading ∧
          0 + ({} : CommandPipelineConfig).servoRetryInterval ≤ milliseconds 600 + (reading -
            (s.tickContext FakeSdk.platform.toPlatform.recorded (feedback 600)
              (milliseconds 600)).enteredAt) ∧
          lastAccepted "t" ((machine FakeSdk.platform.toPlatform.recorded mathLib).trace
            (CommandPipeline.create (busy, []) allGroups {})
            (servoOps ++ [tick 0, servoJ "t" "left" leftJoints 600])) = some leftTarget ∧
          s.sessions[servoId "t"]? = some session ∧
          selectFeedback (feedback 600) session.jointNames = .ok selected := by
  intro s
  have hcalls : tickCalls FakeSdk.platform.toPlatform mathLib s (feedback 600) (milliseconds 600) =
      (tickCalls FakeSdk.platform.toPlatform mathLib s (feedback 600) (milliseconds 600)).take 5 ++
        .startSession "servo:t" leftTarget
          ⟨leftJoints, [.fin 0, .fin 0], [.fin 0, .fin 0], milliseconds 600⟩ (1 / 100)
          busy.startStatus ::
          (tickCalls FakeSdk.platform.toPlatform mathLib s (feedback 600) (milliseconds 600)).drop 6 := by
    decide +kernel
  refine ⟨_, _, _, _, _, hcalls, ?_⟩
  exact (failed_servo_waits FakeSdk.platform.toPlatform mathLib busy allGroups {} servoOps
    [servoJ "t" "left" leftJoints 600] (feedback 0) (feedback 600) (milliseconds 0) (milliseconds 600)
    (by decide) (by decide +kernel) "t" _ 0 busy_fails).2 _ _ _ _ _ _ hcalls

namespace Fixture

/-- A Move stands under the id derived from the servo endpoint, and a target of the endpoint takes its
session over: it keeps the Move's endpoint. -/
def takenMoveId : List Op :=
  [endpoint "mv" .moveJ "left" 10, endpoint "sv" .servoJ "left" 30,
    moveJ "mv" (servoId "sv") "left" leftJoints 0, servoJ "sv" "left" leftJoints 0]

/-- The call that starts the servo with its target. -/
def leftStart (received : Int) : Call :=
  .startSession (servoId "sv") leftTarget
    ⟨leftJoints, [.fin 0, .fin 0], [.fin 0, .fin 0], milliseconds received⟩ (1 / 100) busy.startStatus

end Fixture

open Fixture in
/-- The tick at `0` ends the servo session through a failed start. Its retry time is kept for the
endpoint of the Move, so the next target of the servo is started at once. -/
theorem taken_over_servo_restarts :
    let failed := busyRun (takenMoveId ++ [tick 0])
    let again := busyRun (takenMoveId ++ [tick 0, servoJ "sv" "left" leftJoints 10])
    leftStart 0 ∈ tickCalls FakeSdk.platform.toPlatform mathLib (busyRun takenMoveId) (feedback 0)
        (milliseconds 0) ∧
      (busyRun takenMoveId).sessions.contains (servoId "sv") = true ∧
      failed.sessions.contains (servoId "sv") = false ∧
      failed.servoRetryAfter["mv"]? = some (0 + ({} : CommandPipelineConfig).servoRetryInterval) ∧
      failed.servoRetryAfter["sv"]? = none ∧
      leftStart 10 ∈ tickCalls FakeSdk.platform.toPlatform mathLib again (feedback 10)
        (milliseconds 10) ∧
      milliseconds 10 < 0 + ({} : CommandPipelineConfig).servoRetryInterval := by
  decide +kernel

end HumanoidMotion
