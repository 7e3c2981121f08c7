import HumanoidMotion.Lib.Chronicle
import HumanoidMotion.Motion.AtRest
import HumanoidMotion.Motion.Calls
import HumanoidMotion.Motion.FakeSdk
import HumanoidMotion.Motion.Lane
import HumanoidMotion.Motion.Permits
/-
# One terminal event for each session

Terminal events are queued by `terminate` and moved to the result at three points
of a tick; the RUNNING events go to the result at once. `Chronicled` says that
together they tell the lives of the sessions of each id in order, and every
elementary step keeps it: `terminate` ends a life, a RUNNING event is news of one,
and only a submission begins one.

* `Clear` — no stored session has an event queued: so it is after a flush.
* `Elem.chronicled`, `Elem.attributed` — one step.
* `insertedId` — the session a call inserts.
* `one_terminal_event` — every run.
-/

namespace HumanoidMotion

open Tick

variable {β : Type} {B : Platform β} {lib : MathLib} {op : Op}

namespace SessionEvent

def isNews (event : SessionEvent) : Bool := event.state == .running

def isFinal (event : SessionEvent) : Bool := event.state.isTerminal

theorem isFinal_of_isNews (event : SessionEvent) (h : event.isNews = true) : event.isFinal = false := by
  rw [isFinal, eq_of_beq h]
  rfl

end SessionEvent

open SessionEvent (isNews isFinal)

/-- The events of each id, those returned before, those in the result and those queued, tell the
lives of its sessions. -/
def Chronicled (told : List SessionEvent) (begun : String → Nat) (s : TickState β) : Prop :=
  ∀ id : String, Chronicle isNews isFinal (begun id) (s.pipeline.sessions[id]?).isSome
    (eventsOf id (told ++ (s.events ++ s.pipeline.pendingEvents)))

/-- No stored session has an event queued. -/
def Clear (p : CommandPipeline β) : Prop :=
  ∀ (id : String) session, p.sessions[id]? = some session → eventsOf id p.pendingEvents = []

/-- Every queued event is the last of its session. -/
def QueuedFinal (p : CommandPipeline β) : Prop := ∀ e ∈ p.pendingEvents, e.isFinal = true

/-! ## One step -/

theorem eventsOf_append (id : String) (events events' : List SessionEvent) :
    eventsOf id (events ++ events') = eventsOf id events ++ eventsOf id events' :=
  List.filter_append ..

theorem eventsOf_own (event : SessionEvent) : eventsOf event.sessionId [event] = [event] := by
  simp [eventsOf]

theorem eventsOf_other {id : String} {event : SessionEvent} (h : event.sessionId ≠ id) :
    eventsOf id [event] = [] := by
  simp [eventsOf, h]

section
variable {s s' : TickState β} {told : List SessionEvent} {begun : String → Nat}

theorem Chronicled.of_eq (h : Chronicled told begun s)
    (hs : ∀ id : String, (s'.pipeline.sessions[id]?).isSome = (s.pipeline.sessions[id]?).isSome)
    (he : s'.events ++ s'.pipeline.pendingEvents = s.events ++ s.pipeline.pendingEvents) :
    Chronicled told begun s' := by
  intro id
  rw [hs, he]
  exact h id

/-- Ending a session ends its life, and no other. -/
theorem Chronicled.terminate (h : Chronicled told begun s) (id : String) {state : SessionState}
    (hstate : state.isTerminal = true) (status : MotionStatus) (preserve : Bool) :
    Chronicled told begun (s.withPipeline (s.pipeline.terminate B id state status preserve)) := by
  intro k
  have hk := h k
  simp only [TickState.withPipeline, CommandPipeline.terminate_sessions,
    CommandPipeline.terminate_pending]
  by_cases hid : k = id
  · subst hid
    cases hfound : s.pipeline.sessions[k]? with
    | none =>
      have hmem : k ∉ s.pipeline.sessions := by simp [CommandPipeline.mem_sessions_iff, hfound]
      rw [hfound] at hk
      simpa [hmem] using hk
    | some session =>
      have hmem : k ∈ s.pipeline.sessions := (CommandPipeline.mem_sessions_iff _ _).2 ⟨_, hfound⟩
      rw [hfound, ← List.append_assoc] at hk
      rw [if_pos rfl, if_pos hmem, ← List.append_assoc, ← List.append_assoc, eventsOf_append,
        eventsOf_own { sessionId := k, state, status }]
      exact hk.ends { sessionId := k, state, status } hstate
  · rw [if_neg hid]
    have hsame : eventsOf k (told ++ (s.events ++ (s.pipeline.pendingEvents ++
        if id ∈ s.pipeline.sessions then [{ sessionId := id, state, status }] else []))) =
          eventsOf k (told ++ (s.events ++ s.pipeline.pendingEvents)) := by
      split
      · simp only [eventsOf_append]
        rw [eventsOf_other (Ne.symm hid), List.append_nil]
      · rw [List.append_nil]
    rw [hsame]
    exact hk

/-- A step that serves no submission begins no life. -/
theorem Elem.chronicled (hop : op.arbitratedAt = none) (hstep : Elem B op s s')
    (hclear : Clear s.pipeline ∨ s'.events = []) (h : Chronicled told begun s) :
    Chronicled told begun s' := by
  cases hstep with
  | silent p hs =>
    exact h.of_eq (fun id => by simp [TickState.withPipeline, hs.sessions])
      (by simp [TickState.withPipeline, hs.pending])
  | terminate id state status preserve hstate => exact h.terminate id hstate status preserve
  | create session servos _ _ hnew => cases hnew <;> cases hop
  | retarget id old new _ hnew => cases hnew <;> cases hop
  | progress id session session' hfound =>
    refine h.of_eq (fun k => ?_) rfl
    simp only [TickState.withPipeline, Std.TreeMap.getElem?_insert,
      Std.LawfulEqOrd.compare_eq_iff_eq]
    split
    · rename_i hid
      rw [← hid, hfound]
      rfl
    · rfl
  | running id session message hfound =>
    rcases hclear with hclear | hnone
    · intro k
      by_cases hid : id = k
      · subst hid
        have hk := h id
        have hqueued := hclear id session hfound
        simp only [eventsOf_append, hqueued, List.append_nil, hfound, Option.isSome_some] at hk
        have hown := eventsOf_own { sessionId := id, state := .running, status := { message } }
        simp only [TickState.pushEvent, eventsOf_append, hqueued, List.append_nil, hfound,
          Option.isSome_some, ← List.append_assoc]
        rw [hown]
        exact hk.goesOn { sessionId := id, state := .running, status := { message } } rfl
      · have hk := h k
        simp only [eventsOf_append] at hk
        have hother : eventsOf k [{ sessionId := id, state := .running, status := { message } }] = [] :=
          eventsOf_other hid
        simp only [TickState.pushEvent, eventsOf_append, hother, List.append_nil]
        exact hk
    · simp [TickState.pushEvent] at hnone
  | flush => exact h.of_eq (fun _ => rfl) (by simp [TickState.flush])
  | _ => exact h.of_eq (fun _ => rfl) rfl

theorem Elem.clear (hop : op.arbitratedAt = none) (hstep : Elem B op s s') (h : Clear s.pipeline) :
    Clear s'.pipeline := by
  cases hstep with
  | silent p hs =>
    intro k stored hk
    simp only [TickState.withPipeline, hs.sessions, hs.pending] at hk ⊢
    exact h k stored hk
  | terminate id state status preserve =>
    intro k stored hk
    simp only [TickState.withPipeline, CommandPipeline.terminate_sessions] at hk
    split at hk
    · cases hk
    · rename_i hid
      simp only [TickState.withPipeline, CommandPipeline.terminate_pending, eventsOf_append,
        h k stored hk, List.nil_append]
      split
      · exact eventsOf_other (Ne.symm hid)
      · rfl
  | create session servos _ _ hnew => cases hnew <;> cases hop
  | retarget id old new _ hnew => cases hnew <;> cases hop
  | progress id session session' hfound =>
    intro k stored hk
    simp only [TickState.withPipeline, Std.TreeMap.getElem?_insert,
      Std.LawfulEqOrd.compare_eq_iff_eq] at hk
    split at hk
    · rename_i hid
      exact h k session (hid ▸ hfound)
    · exact h k stored hk
  | flush => exact fun _ _ _ => rfl
  | _ => exact h

theorem Elem.queuedFinal (hstep : Elem B op s s') (h : QueuedFinal s.pipeline) :
    QueuedFinal s'.pipeline := by
  cases hstep with
  | silent p hs =>
    unfold QueuedFinal
    rw [show (s.withPipeline p).pipeline.pendingEvents = _ from hs.pending]
    exact h
  | terminate id state status preserve hstate =>
    intro e he
    simp only [TickState.withPipeline, CommandPipeline.terminate_pending] at he
    rcases List.mem_append.1 he with he | he
    · exact h e he
    · split at he
      · rw [List.mem_singleton.1 he]
        exact hstate
      · cases he
  | flush => exact fun e he => by cases he
  | _ => exact h

/-- Each RUNNING event in the result is news of the life that began last: of those that began
before it, one final event is still to come. -/
def Attributed (told : List SessionEvent) (begun : String → Nat) (s : TickState β) : Prop :=
  ∀ (i : Nat) e, s.events[i]? = some e → e.isNews = true →
    (eventsOf e.sessionId (told ++ s.events.take i)).countP isFinal + 1 = begun e.sessionId

/-- What is known of an older event stays known when events follow. -/
theorem Attributed.append (h : Attributed told begun s) {more : List SessionEvent}
    (he : s'.events = s.events ++ more)
    (hnew : ∀ (i : Nat) e, more[i]? = some e → e.isNews = true →
      (eventsOf e.sessionId (told ++ (s.events ++ more.take i))).countP isFinal + 1 =
        begun e.sessionId) : Attributed told begun s' := by
  intro i e hi hnews
  rw [he] at hi ⊢
  by_cases hlt : i < s.events.length
  · rw [List.getElem?_append_left hlt] at hi
    rw [List.take_append_of_le_length hlt.le]
    exact h i e hi hnews
  · rw [not_lt] at hlt
    rw [List.getElem?_append_right hlt] at hi
    rw [List.take_append, List.take_of_length_le hlt]
    exact hnew _ e hi hnews

theorem Elem.attributed (hstep : Elem B op s s') (hclear : Clear s.pipeline)
    (hqueued : QueuedFinal s.pipeline) (hc : Chronicled told begun s)
    (h : Attributed told begun s) : Attributed told begun s' := by
  cases hstep with
  | running id session message hfound =>
    refine h.append rfl fun i e hi _ => ?_
    cases i with
    | succ i => cases hi
    | zero =>
      cases hi
      have hcount := (hc id).count SessionEvent.isFinal_of_isNews
      rw [hfound, ← List.append_assoc, eventsOf_append, hclear id session hfound] at hcount
      simpa using hcount
  | flush =>
    refine h.append rfl fun i e hi hnews => ?_
    have hfinal := hqueued e (List.mem_of_getElem? hi)
    rw [SessionEvent.isFinal_of_isNews e hnews] at hfinal
    cases hfinal
  | _ => exact h

/-! ## One call -/

/-- What a tick keeps from its first flush on. -/
structure Narrated (told : List SessionEvent) (begun : String → Nat) (s : TickState β) : Prop where
  clear : Clear s.pipeline
  queued : QueuedFinal s.pipeline
  chronicled : Chronicled told begun s
  attributed : Attributed told begun s

theorem Elems.narrated (hop : op.arbitratedAt = none) (hsteps : Elems B op s s')
    (h : Narrated told begun s) : Narrated told begun s' :=
  hsteps.invariant (I := Narrated told begun) (fun _ _ hstep h =>
    ⟨hstep.clear hop h.clear, hstep.queuedFinal h.queued,
      hstep.chronicled hop (.inl h.clear) h.chronicled,
      hstep.attributed h.clear h.queued h.chronicled h.attributed⟩) h

theorem Elems.queuedFinal (hsteps : Elems B op s s') (h : QueuedFinal s.pipeline) :
    QueuedFinal s'.pipeline :=
  hsteps.invariant (I := fun s => QueuedFinal s.pipeline) (fun _ _ hstep => hstep.queuedFinal) h

/-- Steps that put nothing into the result. -/
theorem Elems.chronicled (hop : op.arbitratedAt = none) (hsteps : Elems B op s s')
    (hend : s'.events = []) (h : Chronicled told begun s) : Chronicled told begun s' := by
  induction hsteps with
  | refl => exact h
  | @tail mid last hmid hlast ih =>
    have hnone : mid.events = [] := by
      rw [List.eq_nil_iff_forall_not_mem]
      intro e he
      have hkept := hlast.keeps_event he
      rw [hend] at hkept
      cases hkept
    exact hlast.chronicled hop (.inr hend) (ih hnone)

end

/-- A live servo session takes a target of its endpoint itself (`:361`). -/
def CommandPipeline.continues (p : CommandPipeline β) (endpoint id : String) (now : SteadyTime) : Bool :=
  match p.endpoints[endpoint]?, p.sessions[id]? with
  | some policy, some session => !CommandPipeline.leaseOver policy session now
  | _, _ => false

/-- The session that a call inserts: the one of an accepted Move, or of an accepted servo target
that no live session takes. -/
def insertedId (g : PipelineStage β) : Option String :=
  match g.input, g.output with
  | .submitMove .., .submission result => if result.status.ok then some result.sessionId else none
  | .updateServo endpoint _ _ now _, .submission result =>
    if result.status.ok && !g.before.continues endpoint result.sessionId now then
      some result.sessionId
    else none
  | _, _ => none

section
variable {s p : CommandPipeline β} {told : List SessionEvent} {begun : String → Nat}

theorem Chronicled.moved (h : Chronicled told begun { pipeline := s })
    (hs : ∀ id : String, (p.sessions[id]?).isSome = (s.sessions[id]?).isSome)
    (hq : p.pendingEvents = s.pendingEvents) : Chronicled told begun { pipeline := p } :=
  h.of_eq hs (congrArg (([] : List SessionEvent) ++ ·) hq)

/-- A session is inserted. -/
theorem Chronicled.begins (h : Chronicled told begun { pipeline := s }) {id : String}
    (hnone : s.sessions[id]? = none) (hsome : (p.sessions[id]?).isSome = true)
    (hother : ∀ k : String, k ≠ id → (p.sessions[k]?).isSome = (s.sessions[k]?).isSome)
    (hq : p.pendingEvents = s.pendingEvents) :
    Chronicled told (fun k => begun k + if id = k then 1 else 0) { pipeline := p } := by
  intro k
  have hk := h k
  simp only [hq]
  by_cases hid : id = k
  · subst hid
    rw [hnone] at hk
    rw [hsome, if_pos rfl]
    exact hk.begins
  · rw [if_neg hid, hother k (Ne.symm hid)]
    exact hk

/-- What is done outside the ticks, short of inserting a session, narrates nothing. -/
theorem quiet_chronicled
    (hsteps : Elems B (.cancel "") { pipeline := s } { pipeline := p })
    (h : Chronicled told begun { pipeline := s }) : Chronicled told begun { pipeline := p } :=
  hsteps.chronicled rfl rfl h

theorem MoveOutcome.chronicled (h : Chronicled told begun { pipeline := s }) {endpoint : String}
    {request : SessionRequest} {now : SteadyTime} {generation : Nat} {result : SubmissionResult}
    (hout : MoveOutcome B s endpoint request now generation result p) :
    Chronicled told (fun id => begun id +
      if (if result.status.ok then some result.sessionId else none) = some id then 1 else 0)
      { pipeline := p } := by
  have hsettle : ∀ (arbiter : ControlArbiter) (preempted expired : List String),
      arbiter.policies = s.arbiter.policies →
      Chronicled told begun { pipeline := (s.withArbiter arbiter).settle B preempted expired } :=
    fun arbiter preempted expired harb => quiet_chronicled (arbitrated_elems s arbiter harb _ _) h
  cases hout with
  | refused _ hrefused => simpa [hrefused] using h
  | lost policy arbPolicy session _ arbitration _ _ _ _ hrefused =>
    simpa [hrefused] using hsettle ((s.arbiter.displace _ arbPolicy now now).release _) _ _ rfl
  | admitted policy arbPolicy session _ arbitration _ hfresh _ _ settled hsettled hresult =>
    subst hresult hsettled
    have hnone : (((s.withArbiter (s.arbiter.displace (CommandPipeline.claimOf endpoint session)
        arbPolicy now now)).settle B arbitration.preemptedMoveIds
          arbitration.expiredServoIds).sessions)[session.sessionId]? = none := by
      rw [CommandPipeline.settle_sessions]
      simp [CommandPipeline.withArbiter, hfresh]
    have hnew := (hsettle (s.arbiter.displace (CommandPipeline.claimOf endpoint session) arbPolicy
      now now) arbitration.preemptedMoveIds arbitration.expiredServoIds rfl).begins
      (p := (((s.withArbiter (s.arbiter.displace (CommandPipeline.claimOf endpoint session) arbPolicy
        now now)).settle B arbitration.preemptedMoveIds arbitration.expiredServoIds).withNew
          { session with submittedAt := now }).revokeOutputs session.jointNames) hnone ?_ ?_ rfl
    · simpa using hnew
    · simp [CommandPipeline.withNew, CommandPipeline.revokeOutputs,
        Std.TreeMap.getElem?_insertIfNew, Std.TreeMap.mem_iff_isSome_getElem?, hnone]
    · intro k hk
      simp [CommandPipeline.withNew, CommandPipeline.revokeOutputs,
        Std.TreeMap.getElem?_insertIfNew, Ne.symm hk]

/-- The base of a target has no session exactly when no live session takes the target. -/
theorem ServoBase.continues {policy : EndpointPolicy} {endpoint id : String}
    {receivedAt now : SteadyTime} {existing : Option Session}
    (h : ServoBase B s policy id receivedAt now existing p)
    (hpolicy : s.endpoints[endpoint]? = some policy) :
    s.continues endpoint id now = existing.isSome := by
  unfold CommandPipeline.continues
  cases h with
  | fresh hnone => simp [hpolicy, hnone]
  | kept session hfound _ hlease => simp [hpolicy, hfound, CommandPipeline.leaseOver, hlease]
  | renewed session hfound _ hlease => simp [hpolicy, hfound, CommandPipeline.leaseOver, hlease]

theorem ServoOutcome.chronicled (h : Chronicled told begun { pipeline := s }) {endpoint : String}
    {request : SessionRequest} {receivedAt now : SteadyTime} {generation : Nat}
    {result : SubmissionResult}
    (hout : ServoOutcome B s endpoint request receivedAt now generation result p) :
    Chronicled told (fun id => begun id +
      if (if result.status.ok && !s.continues endpoint result.sessionId now then
        some result.sessionId else none) = some id then 1 else 0) { pipeline := p } := by
  have hbased : ∀ {policy id existing base}, ServoBase B s policy id receivedAt now existing base →
      Chronicled told begun { pipeline := base } := fun hbase => quiet_chronicled hbase.elems h
  cases hout with
  | refused _ hrefused => simpa [hrefused] using h
  | rejected _ base _ _ _ _ _ _ hbase _ hrefused => simpa [hrefused] using hbased hbase
  | accepted policy arbPolicy session existing base settled _ hupdated hsettled hresult =>
    subst hresult
    have hfound : base.sessions[session.sessionId]? = existing := hupdated.start.tables.2.2
    rw [hupdated.start.continues hupdated.valid.registered]
    have harb : Chronicled told begun { pipeline := base.withArbiter (base.arbiter.displace
        (CommandPipeline.claimOf endpoint session) arbPolicy receivedAt now) } :=
      (hbased hupdated.start).moved (fun _ => rfl) rfl
    have hstored : Chronicled told (fun id => begun id +
        if (if MotionStatus.Ok.ok && !existing.isSome then some session.sessionId else none) = some id
          then 1 else 0)
        { pipeline := (base.withArbiter (base.arbiter.displace (CommandPipeline.claimOf endpoint
          session) arbPolicy receivedAt now)).storeServo endpoint session existing receivedAt } := by
      cases existing with
      | none =>
        have hnew := harb.begins (p := (base.withArbiter (base.arbiter.displace
          (CommandPipeline.claimOf endpoint session) arbPolicy receivedAt now)).storeServo endpoint
            session none receivedAt) hfound ?_ (fun k hk => ?_) (by simp)
        · simpa using hnew
        · simp [CommandPipeline.storeServo, CommandPipeline.withArbiter,
            Std.TreeMap.getElem?_insertIfNew, Std.TreeMap.mem_iff_isSome_getElem?, hfound]
        · rw [CommandPipeline.storeServo_other _ _ _ _ _ hk]
      | some old =>
        have hkept := harb.moved (p := (base.withArbiter (base.arbiter.displace
          (CommandPipeline.claimOf endpoint session) arbPolicy receivedAt now)).storeServo endpoint
            session (some old) receivedAt) (fun k => ?_) (by simp)
        · simpa using hkept
        · by_cases hk : k = session.sessionId
          · subst hk
            simp [CommandPipeline.storeServo, CommandPipeline.withArbiter, hfound]
          · rw [CommandPipeline.storeServo_other _ _ _ _ _ hk]
    have hend : Chronicled told (fun id => begun id +
        if (if MotionStatus.Ok.ok && !existing.isSome then some session.sessionId else none) = some id
          then 1 else 0) { pipeline := settled } := by
      rw [hsettled]
      exact quiet_chronicled (settle_elems _ _ _) hstored
    by_cases hwon : session.sessionId ∈ (base.arbiter.displace
        (CommandPipeline.claimOf endpoint session) arbPolicy receivedAt now).computeWinners now
    · rw [if_pos hwon]
      exact hend.moved (fun _ => rfl) rfl
    · rw [if_neg hwon]
      exact hend

variable (B lib) in
/-- A tick narrates from its first flush on, and leaves no event behind. -/
theorem tick_narrated (hsound : Sound s) (hqueued : QueuedFinal s)
    (h : Chronicled told begun { pipeline := s }) (feedback : JointFeedback) (now : SteadyTime) :
    ∃ t : TickState β, Narrated told begun t ∧ t.pipeline.pendingEvents = [] ∧
      exec B lib s (.tick feedback now) =
        (.ticked { commands := t.commands, events := t.events }, t.pipeline) := by
  obtain ⟨s₂, hturned, htick⟩ := tick_turned B lib s feedback now hsound
  have hstart : Narrated told begun (TickState.flush { pipeline := s }) := by
    refine ⟨fun _ _ _ => rfl, nofun, h.of_eq (fun _ => rfl) (by simp [TickState.flush]),
      fun i e hi hnews => ?_⟩
    have hfinal := hqueued e (List.mem_of_getElem? hi)
    rw [SessionEvent.isFinal_of_isNews e hnews] at hfinal
    cases hfinal
  have hopening : Elems B (.tick feedback now) (TickState.flush { pipeline := s })
      (s.tickOpening B now) := tickFlushed_elems s now
  have hflush : Elem B (.tick feedback now) { pipeline := s } (TickState.flush { pipeline := s }) :=
    Elem.flush _
  have hopeningSound : Sound (s.tickOpening B now).pipeline := hopening.sound (hflush.sound hsound)
  have hopened : Elems B (.tick feedback now) (s.tickOpening B now) _ :=
    opened_elems (s.schedulingGap now) (s.tickArbitration B now).winnerSessionIds _ hopeningSound
  have hturns : Elems B (.tick feedback now) _ s₂ :=
    (hturned.turns (hopened.sound hopeningSound)).elems rfl
  have hclosed : Elems B (.tick feedback now) s₂ (closed B (s.tickContext B feedback now) s₂) :=
    closed_elems s₂
  refine ⟨_, (((hopening.trans hopened).trans hturns).trans hclosed).narrated rfl hstart, rfl, ?_⟩
  simp only [exec, htick]

variable (B lib) in
/-- Every call goes on with the lives it finds and begins that of the session it inserts. -/
theorem exec_chronicled (hsound : Sound s) (hqueued : QueuedFinal s)
    (h : Chronicled told begun { pipeline := s }) (op : Op) :
    Chronicled (told ++ (exec B lib s op).1.events) (fun id => begun id +
      if insertedId ⟨s, op, (exec B lib s op).1, (exec B lib s op).2⟩ = some id then 1 else 0)
      { pipeline := (exec B lib s op).2 } := by
  have hquiet : op.arbitratedAt = none → (exec B lib s op).1.events = [] →
      insertedId ⟨s, op, (exec B lib s op).1, (exec B lib s op).2⟩ = none →
      Chronicled (told ++ (exec B lib s op).1.events) (fun id => begun id +
        if insertedId ⟨s, op, (exec B lib s op).1, (exec B lib s op).2⟩ = some id then 1 else 0)
        { pipeline := (exec B lib s op).2 } := by
    intro hop hnone hinserted
    obtain ⟨t, helems, hpipeline, -, hevents⟩ := exec_elems B lib s hsound op
    have ht := helems.chronicled hop (hevents ▸ hnone) h
    rw [hinserted, hnone, hpipeline]
    have hsame : Chronicled told begun { pipeline := t.pipeline } :=
      ht.of_eq (fun _ => rfl) (by rw [← hevents, hnone])
    simpa using hsame
  cases op with
  | submitMove endpoint request now generation =>
    have hout := (submitMove_outcome B s endpoint request now generation).chronicled h
    simpa [exec, Reply.events, insertedId] using hout
  | updateServo endpoint request receivedAt now generation =>
    have hout := (updateServo_outcome B s endpoint request receivedAt now generation).chronicled h
    simpa [exec, Reply.events, insertedId] using hout
  | tick feedback now =>
    obtain ⟨t, ht, hnone, hexec⟩ := tick_narrated B lib hsound hqueued h feedback now
    rw [hexec]
    intro id
    have hid := ht.chronicled id
    rw [hnone] at hid
    simpa [Reply.events, insertedId, hnone] using hid
  | _ => exact hquiet rfl rfl rfl

end

/-! ## Every run -/

/-- The events of all results, one after the other. -/
def returned (past : List (PipelineStage β)) : List SessionEvent :=
  past.flatMap fun g => g.output.events

/-- How many sessions have been inserted under the id. -/
def insertions (id : String) (past : List (PipelineStage β)) : Nat :=
  past.countP fun g => insertedId g == some id

/-- What has been returned and what is queued accounts for every session inserted. -/
structure Accounted (past : List (PipelineStage β)) (s : CommandPipeline β) : Prop where
  sound : Sound s
  queued : QueuedFinal s
  chronicled : Chronicled (returned past) (insertions · past) { pipeline := s }

theorem Accounted.step {past : List (PipelineStage β)} {s : CommandPipeline β} (h : Accounted past s)
    (op : Op) : Accounted (past ++ [⟨s, op, (exec B lib s op).1, (exec B lib s op).2⟩])
      (exec B lib s op).2 where
  sound := exec_sound s h.sound op
  queued := by
    obtain ⟨t, helems, hpipeline, -, -⟩ := exec_elems B lib s h.sound op
    rw [hpipeline]
    exact helems.queuedFinal h.queued
  chronicled := by
    intro id
    have hnext := exec_chronicled B lib h.sound h.queued h.chronicled op id
    simpa [returned, insertions, List.countP_append, List.countP_singleton] using hnext

theorem Initial.accounted {s₀ : CommandPipeline β} (h : Initial s₀) : Accounted [] s₀ := by
  refine ⟨h.sound, ?_, fun id => ?_⟩
  · obtain ⟨_, _, _, rfl⟩ := h
    exact nofun
  · obtain ⟨_, _, _, rfl⟩ := h
    simpa [returned, insertions, CommandPipeline.create, eventsOf] using Chronicle.nil

theorem Accounted.run {past : List (PipelineStage β)} {s : CommandPipeline β} (h : Accounted past s)
    (ops : List Op) : Accounted (past ++ (machine B lib).trace s ops) ((machine B lib).run s ops) :=
  Machine.history_invariant (M := machine B lib) (fun _ _ op h => h.step op) h ops

section
variable {past : List (PipelineStage β)} {s : CommandPipeline β} (h : Accounted past s)
include h

theorem Accounted.told (id : String) : Chronicle isNews isFinal (insertions id past)
    (s.sessions.contains id) (eventsOf id (returned past) ++ eventsOf id s.pendingEvents) := by
  rw [Std.TreeMap.contains_eq_isSome_getElem?, ← eventsOf_append]
  exact h.chronicled id

theorem Accounted.count (id : String) (hclear : s.pendingEvents = []) :
    (eventsOf id (returned past)).countP isFinal + (s.sessions.contains id).toNat =
      insertions id past := by
  have hcount := (h.told id).count SessionEvent.isFinal_of_isNews
  rw [hclear] at hcount
  simpa [eventsOf] using hcount

variable (B lib) in
theorem Accounted.tick_clears (feedback : JointFeedback) (now : SteadyTime) :
    (exec B lib s (.tick feedback now)).2.pendingEvents = [] := by
  obtain ⟨t, -, hclear, hexec⟩ := tick_narrated B lib h.sound h.queued h.chronicled feedback now
  rw [hexec]
  exact hclear

/-- A RUNNING event is news of the session inserted last. -/
theorem Accounted.news {op : Op} {i : Nat} {e : SessionEvent}
    (hi : (exec B lib s op).1.events[i]? = some e) (hnews : e.isNews = true) :
    (eventsOf e.sessionId (returned past ++ (exec B lib s op).1.events.take i)).countP isFinal + 1 =
      insertions e.sessionId past := by
  cases op with
  | tick feedback now =>
    obtain ⟨t, ht, -, hexec⟩ := tick_narrated B lib h.sound h.queued h.chronicled feedback now
    rw [hexec] at hi ⊢
    exact ht.attributed i e hi hnews
  | _ => simp [exec, Reply.events] at hi

end

/-- In every run, for every id: the events returned and queued are the lives of its sessions one after
the other, each with one terminal event at its end, and as many as have been inserted and are gone. A
tick returns the terminal event of every session that is gone by its end. A RUNNING event is
returned before the terminal event of the session inserted last and after those of the others. -/
theorem one_terminal_event {s₀ : CommandPipeline β} (hinit : Initial s₀) (ops : List Op)
    (id : String) :
    let stages := (machine B lib).trace s₀ ops
    let s := (machine B lib).run s₀ ops
    (∃ (lives : List (List SessionEvent)) (rest : List SessionEvent),
      eventsOf id (returned stages) ++ eventsOf id s.pendingEvents = lives.flatten ++ rest ∧
        (∀ life ∈ lives, Life isNews isFinal life) ∧ (∀ e ∈ rest, e.isNews = true) ∧
        (s.sessions.contains id = false → rest = []) ∧
        lives.length + (s.sessions.contains id).toNat = insertions id stages) ∧
      (insertions id stages = 0 → eventsOf id (returned stages) = []) ∧
      (∀ (k : Nat) g, stages[k]? = some g → g.input.isTick = true →
        (eventsOf id (returned (stages.take (k + 1)))).countP isFinal +
          (g.after.sessions.contains id).toNat = insertions id (stages.take (k + 1))) ∧
      ∀ (k : Nat) g (i : Nat) e, stages[k]? = some g → g.output.events[i]? = some e →
        e.sessionId = id → e.isNews = true →
        (eventsOf id (returned (stages.take k) ++ g.output.events.take i)).countP isFinal + 1 =
          insertions id (stages.take k) := by
  intro stages s
  have hend : Accounted stages s := hinit.accounted.run ops
  have hbefore : ∀ (k : Nat) g, stages[k]? = some g → Accounted (stages.take k) g.before ∧
      exec B lib g.before g.input = (g.output, g.after) := fun k g hk =>
    ⟨Machine.trace_history (M := machine B lib) (fun _ _ op h => h.step op) hinit.accounted hk,
      Machine.trace_step (List.mem_of_getElem? hk)⟩
  refine ⟨(hend.told id).lives, fun hnone => ?_, fun k g hk htick => ?_,
    fun k g i e hk hi hid hnews => ?_⟩
  · obtain ⟨lives, rest, htold, -, -, hover, hn⟩ := (hend.told id).lives
    obtain ⟨hlives, hgone⟩ := Nat.add_eq_zero_iff.1 (hn.trans hnone)
    rw [List.length_eq_zero_iff.1 hlives, hover (by simpa using hgone)] at htold
    exact (List.append_eq_nil_iff.1 htold).1
  · obtain ⟨hs, hstep⟩ := hbefore k g hk
    have hclear : g.after.pendingEvents = [] := by
      cases hop : g.input with
      | tick feedback now =>
        have htold := hs.tick_clears B lib feedback now
        rw [hop] at hstep
        rwa [hstep] at htold
      | _ => rw [hop] at htick; cases htick
    have hnext : Accounted (stages.take (k + 1)) g.after := by
      have hnext : Accounted _ (exec B lib g.before g.input).2 := hs.step g.input
      rw [hstep] at hnext
      rw [List.take_add_one, hk]
      exact hnext
    exact hnext.count id hclear
  · obtain ⟨hs, hstep⟩ := hbefore k g hk
    subst hid
    have hout : g.output = (exec B lib g.before g.input).1 := by rw [hstep]
    rw [hout] at hi ⊢
    exact hs.news hi hnews

namespace Fixture

/-- A servo session whose lease runs out, and the one its next target starts. -/
def renewedServo : List Op :=
  [endpoint "sv" .servoJ "left" 20, servoJ "sv" "left" leftJoints 0, tick 1,
    servoJ "sv" "left" leftJoints 300, tick 301]

end Fixture

open Fixture in
theorem one_terminal_event_renewed :
    (eventsOf (servoId "sv") (returned ((fake.trace start renewedServo).take 5))).countP isFinal = 1 := by
  have htwo : insertions (servoId "sv") ((fake.trace start renewedServo).take 5) = 2 := by
    decide +kernel
  have hstored : (stage renewedServo 4).after.sessions.contains (servoId "sv") = true := by
    decide +kernel
  have hcount := (one_terminal_event start_initial renewedServo (servoId "sv")).2.2.1 4 _
    (stage_eq (by decide)) (by decide)
  rw [hstored] at hcount
  exact Nat.succ_injective (hcount.trans htwo)

end HumanoidMotion
