import HumanoidMotion.Motion.Departures
import HumanoidMotion.Motion.Retry
/-
# Moves that stay

A Move that loses its joints is removed by the submission that takes them, and does not
come back. The code removes Moves in submissions only: a servo that shadows a Move when
a third claim goes takes its joints without removing it, and the Move is started anew
when the servo is gone.

* `startBudget` — the starts of a Move, and one more while it waits for its first.
* `exec_budget` — no call but an admission raises it.
* `MovesStay` — what a run keeps of its Moves; `moves_stay` for runs without shadows.
-/

namespace HumanoidMotion

open Tick

variable {β : Type} {B : Platform β} {lib : MathLib}

/-! ## Starts that are still to come -/

/-- The Move is stored and has not been started. -/
def awaitsStart {γ : Type} (id : String) (p : CommandPipeline γ) : Bool :=
  p.sessions[id]?.any fun session => isMove session.kind && !session.backendStarted

def startBudget (id : String) (p : CommandPipeline (β × List Call)) : Nat :=
  startCalls id p.backend.2 + (awaitsStart id p).toNat

section
variable {p p' : CommandPipeline (β × List Call)} {id : String}

theorem awaitsStart_of_eq {γ : Type} {q q' : CommandPipeline γ}
    (h : q'.sessions[id]? = q.sessions[id]?) : awaitsStart id q' = awaitsStart id q := by
  unfold awaitsStart
  rw [h]

theorem awaitsStart_of_none {γ : Type} {q : CommandPipeline γ} (h : q.sessions[id]? = none) :
    awaitsStart id q = false := by
  unfold awaitsStart
  rw [h]
  rfl

theorem startCalls_unstarted {calls : List Call} (h : ∀ c ∈ calls, c.isStart = false) :
    startCalls id calls = 0 := by
  refine List.countP_eq_zero.2 fun c hc => ?_
  have hstart := h c hc
  cases c <;> simp_all [Call.isStart]

theorem Logs.startCalls {calls calls' : List Call} (h : Logs Call.aside calls calls') :
    startCalls id calls' = startCalls id calls := by
  obtain ⟨more, rfl, hmore⟩ := h
  rw [startCalls_append, startCalls_unstarted fun c hc => ((hmore c hc).plain 0).unstarted,
    Nat.add_zero]

/-- Asides, and the session as it was or gone. -/
theorem startBudget_le (hlogs : Logs Call.aside p.backend.2 p'.backend.2)
    (h : p'.sessions[id]? = none ∨ p'.sessions[id]? = p.sessions[id]?) :
    startBudget id p' ≤ startBudget id p := by
  unfold startBudget
  rw [hlogs.startCalls]
  rcases h with hnone | hsame
  · simp [awaitsStart_of_none hnone]
  · rw [awaitsStart_of_eq hsame]

theorem terminate_session (q : CommandPipeline (β × List Call)) (k : String) (state : SessionState)
    (status : MotionStatus) (preserve : Bool) :
    (q.terminate B.recorded k state status preserve).sessions[id]? = none ∨
      (q.terminate B.recorded k state status preserve).sessions[id]? = q.sessions[id]? := by
  rw [CommandPipeline.terminate_sessions]
  split
  · exact .inl rfl
  · exact .inr rfl

variable (B) in
theorem outside_budget (id : String) :
    Outside B.recorded fun p p' => startBudget id p' ≤ startBudget id p where
  refl _ := Nat.le_refl _
  trans h h' := h'.trans h
  beside hb := startBudget_le ((outside_asides B).beside hb).logs (.inr (by rw [hb.sessions]))
  terminate p k state status preserve :=
    startBudget_le (terminate_asides p k state status preserve).logs (terminate_session p k _ _ _)

/-! ## Submissions -/

variable {e₀ : β × List Call} {names : List String} {endpoint : String} {request : SessionRequest}
  {receivedAt now : SteadyTime} {generation : Nat} {result : SubmissionResult}

theorem MoveOutcome.budget (h : InOrder B.logged e₀ names p)
    (hout : MoveOutcome B.recorded p endpoint request now generation result p')
    (hnot : requestId request = id → result.status.ok = false) :
    startBudget id p' ≤ startBudget id p := by
  refine startBudget_le hout.asides.logs ?_
  have hsettled : ∀ (arbiter : ControlArbiter) (preempted expired : List String),
      ((p.withArbiter arbiter).settle B.recorded preempted expired).sessions[id]? = none ∨
      ((p.withArbiter arbiter).settle B.recorded preempted expired).sessions[id]? =
        p.sessions[id]? := by
    intro arbiter preempted expired
    rw [CommandPipeline.settle_sessions]
    split
    · exact .inl rfl
    · exact .inr rfl
  cases hout with
  | refused => exact .inr rfl
  | lost => exact hsettled _ _ _
  | admitted policy arbPolicy new _ arbitration hvalid hfresh harb hwon settled hsettled' hresult =>
    have hne : new.sessionId ≠ id := by
      rintro rfl
      have hid := (madeFor_of_valid h.sound hvalid.registered hvalid.checked).chosen rfl
      rw [hresult] at hnot
      cases hnot hid.symm
    have hother : (settled.withNew { new with submittedAt := now }).sessions[id]? =
        settled.sessions[id]? := by
      simp [CommandPipeline.withNew, Std.TreeMap.getElem?_insertIfNew, hne]
    change (settled.withNew { new with submittedAt := now }).sessions[id]? = none ∨
      (settled.withNew { new with submittedAt := now }).sessions[id]? = _
    rw [hother, hsettled']
    exact hsettled _ _ _

theorem ServoOutcome.budget (h : InOrder B.logged e₀ names p)
    (hout : ServoOutcome B.recorded p endpoint request receivedAt now generation result p')
    (hfree : ∀ name ∈ names, id ≠ servoId name) : startBudget id p' ≤ startBudget id p := by
  refine startBudget_le hout.asides.logs ?_
  have hne : ∀ {policy : EndpointPolicy} {new : Session},
      Validated p endpoint request generation true policy new → id ≠ new.sessionId := by
    intro policy new hvalid
    rw [(madeFor_of_valid h.sound hvalid.registered hvalid.checked).derived rfl]
    exact hfree endpoint (h.ids.named.registered endpoint policy hvalid.registered)
  cases hout with
  | refused => exact .inr rfl
  | rejected _ base policy new existing hvalid _ _ hbase =>
    exact .inr (ServoBase.stays (S := B.logged) hbase (hne hvalid)).2
  | accepted policy arbPolicy new existing base settled _ hupdated hsettled _ =>
    have hid := hne hupdated.valid
    have hsame : ∀ won : Prop, ∀ _ : Decidable won,
        (if won then settled.revokeOutputs new.jointNames else settled).sessions =
          settled.sessions := by
      intro won _
      split <;> rfl
    rw [hsame, hsettled, CommandPipeline.settle_sessions]
    split
    · exact .inl rfl
    · right
      rw [CommandPipeline.storeServo_other _ _ _ _ _ hid]
      exact (ServoBase.stays (S := B.logged) hupdated.start hid).2

end

/-! ## One tick -/

namespace Tick

section
variable {ctx : TickContext} {id k : String} {session session' : Session} {selected : JointFeedback}
  {group : JointGroupModel} {s s' : TickState β}

/-- The SDK runs the session, or it is not stored. -/
def RunOrGone (id : String) (s : TickState β) : Prop :=
  ∀ session, s.pipeline.sessions[id]? = some session → session.backendStarted = true

theorem RunOrGone.awaits (h : RunOrGone id s) : awaitsStart id s.pipeline = false := by
  unfold awaitsStart
  cases hfound : s.pipeline.sessions[id]? with
  | none => rfl
  | some session => simp [h session hfound]

theorem RunOrGone.of_none (h : s.pipeline.sessions[id]? = none) : RunOrGone id s := by
  intro session hfound
  rw [h] at hfound
  cases hfound

theorem Stopped.runOrGone (h : Stopped B lib ctx id session selected s s') : RunOrGone id s' := by
  cases h
  exact .of_none (by simp [TickState.withPipeline])

theorem Ended.runOrGone (h : Ended B lib ctx id session selected s s') : RunOrGone id s' := by
  cases h with
  | dropped => exact .of_none (by simp [TickState.withPipeline])
  | stopped _ hstop => exact hstop.runOrGone

theorem Running.started (h : Running B ctx id session group selected s session' s') :
    session'.backendStarted = true := by
  cases h with
  | kept hstarted => exact hstarted
  | launched => rfl

theorem Concluded.runOrGone (h : Concluded B lib ctx id session selected s s')
    (hrun : RunOrGone id s) : RunOrGone id s' := by
  cases h with
  | goesOn _ hw =>
    intro stored hs
    exact hrun stored (hw.sessions ▸ hs)
  | failed _ _ _ _ hs => exact hs.runOrGone
  | succeeded => exact .of_none (by simp [TickState.withPipeline])

/-- After its turn a Move runs in the SDK or is gone. -/
theorem Turn.runOrGone (h : Turn B lib ctx id s s')
    (hmove : ∀ session, s.pipeline.sessions[id]? = some session → isServo session.kind = false) :
    RunOrGone id s' := by
  cases h with
  | missing hnone => exact .of_none hnone
  | waits session _ hstored hservo =>
    rw [hmove session hstored.found] at hservo
    cases hservo
  | refused _ _ _ _ hended => exact hended.runOrGone
  | startEnds _ _ _ _ _ _ _ _ _ _ hended => exact hended.runOrGone
  | runEnds _ _ _ _ _ _ _ _ _ _ _ hended => exact hended.runOrGone
  | emits session session' group _ s₁ s₂ s₃ _ limit command _ _ _ hrun _ _ _ hconcluded =>
    refine hconcluded.runOrGone fun stored hs => ?_
    rw [emitted_pipeline] at hs
    simp only [recordFinal, TickState.withPipeline, Std.TreeMap.getElem?_insert_self,
      Option.some.injEq] at hs
    rw [← hs]
    exact hrun.started

end

section
variable {ctx : TickContext} {id k : String} {s s' : TickState (β × List Call)}

/-- A turn starts at most a Move that waits for it. -/
theorem turn_budget (hlog : TurnLog B ctx id s s') (hturn : Turn B.recorded lib ctx id s s')
    (hmove : ∀ session, s.pipeline.sessions[k]? = some session → isServo session.kind = false) :
    startBudget k s'.pipeline ≤ startBudget k s.pipeline := by
  obtain ⟨more, hcalls⟩ := hlog.calls fun j hj => hturn.others (by simpa using hj)
  have hgrown : startCalls k s'.pipeline.backend.2 =
      startCalls k s.pipeline.backend.2 + startCalls k more := by
    rw [← startCalls_append]
    exact congrArg _ hcalls.calls
  unfold startBudget
  by_cases hk : k = id
  · subst hk
    rw [hgrown, (hturn.runOrGone hmove).awaits]
    rcases hlog.start hcalls.calls with hnone | ⟨session, selected, answer, a, b, hfound, hidle, -,
      rfl, ha, hb, -⟩
    · rw [startCalls_unstarted hnone]
      simp
    · have hwaits : awaitsStart k s.pipeline = true := by
        unfold awaitsStart
        rw [hfound]
        simp [hidle, isMove, hmove session hfound]
      have hone : startCalls k [Call.startSession k session.request selected
          s.pipeline.currentPeriodSec answer] = 1 := by
        simp [startCalls]
      rw [startCalls_append, startCalls_unstarted ha, ← List.singleton_append, startCalls_append,
        startCalls_unstarted hb, hone, hwaits]
      simp
  · have hfree : startCalls k more = 0 := by
      refine List.countP_eq_zero.2 fun c hc => ?_
      have hdrives := hcalls.free k (by simpa using hk) c hc
      cases c <;> simp_all [Call.drives]
    rw [hgrown, hfree, awaitsStart_of_eq (hturn.others hk)]
    exact Nat.le_refl _

/-- The turns of the winners. -/
theorem LoggedTurns.budget {ids : List String} (h : LoggedTurns B lib ctx ids s s')
    (hmove : ∀ session, s.pipeline.sessions[k]? = some session → isServo session.kind = false) :
    startBudget k s'.pipeline ≤ startBudget k s.pipeline := by
  induction h with
  | nil => exact Nat.le_refl _
  | cons id ids s s₁ s' hturn _ ih =>
    have helems : Elems B.recorded (.tick ctx.feedback ctx.now) s s₁ := hturn.2.1.elems rfl
    refine (ih fun session hs => ?_).trans (turn_budget hturn.1 hturn.2.1 hmove)
    obtain ⟨old, hold, hsame⟩ := helems.descends rfl k session hs
    rw [Session.kind, hsame.request]
    exact hmove old hold

theorem gapped_budget (k : String) (p : CommandPipeline (β × List Call)) (id : String) :
    startBudget k (gapped B.recorded p id) ≤ startBudget k p := by
  unfold gapped
  split
  · exact Nat.le_refl _
  · rename_i session hfound
    split
    · exact (outside_budget B k).terminate p id _ _ _
    · rename_i hservo
      have hlogs : Logs Call.aside p.backend.2 (pauseServo B.recorded p id session).backend.2 :=
        .one (.stopSession id) trivial _
      by_cases hk : id = k
      · -- a paused servo is no Move
        have hwaits : awaitsStart k (pauseServo B.recorded p id session) = false := by
          simpa [awaitsStart, pauseServo, hk, Session.kind] using hservo
        unfold startBudget
        rw [hlogs.startCalls, hwaits]
        simp
      · refine startBudget_le hlogs (.inr ?_)
        simp [pauseServo, Std.TreeMap.getElem?_insert, hk]

theorem deactivate_budget (p : CommandPipeline (β × List Call)) (hk : k ≠ id) :
    startBudget k (deactivate B.recorded p id) ≤ startBudget k p := by
  refine startBudget_le (deactivate_asides (B := B) p id).logs (.inr ?_)
  unfold deactivate
  split
  · rfl
  · simp [Std.TreeMap.getElem?_insert, Ne.symm hk]

/-- The opening of a tick stops no Move that wins. -/
theorem opened_budget (gap : Bool) {winners : List String}
    (hk : k ∈ winners ∨ (opened B.recorded gap winners s).pipeline.sessions[k]? = none) :
    startBudget k (opened B.recorded gap winners s).pipeline ≤ startBudget k s.pipeline := by
  rcases hk with hwin | hnone
  · have hgap : startBudget k (afterGap B.recorded gap s.pipeline) ≤ startBudget k s.pipeline := by
      unfold afterGap
      split
      · exact (outside_budget B k).foldl (gapped_budget k) _ _
      · exact Nat.le_refl _
    have hstop : ∀ (ids : List String) (p : CommandPipeline (β × List Call)), k ∉ ids →
        startBudget k (ids.foldl (deactivate B.recorded) p) ≤ startBudget k p := by
      intro ids
      induction ids with
      | nil => exact fun p _ => Nat.le_refl _
      | cons id ids ih =>
        intro p hids
        rw [List.mem_cons, not_or] at hids
        exact (ih _ hids.2).trans (deactivate_budget p hids.1)
    refine (hstop _ _ ?_).trans hgap
    simp [activeOutside, hwin]
  · unfold startBudget
    have hsame : startCalls k (opened B.recorded gap winners s).pipeline.backend.2 =
        startCalls k s.pipeline.backend.2 := (opened_asides gap winners s).logs.startCalls
    rw [awaitsStart_of_none hnone, hsame]
    simp

end

end Tick

section
variable {e₀ : β × List Call} {names : List String} {s : CommandPipeline (β × List Call)}

/-- While the stored Moves win the evaluation of the tick, it starts only Moves that wait. -/
theorem tick_budget (h : InOrder B.logged e₀ names s) (feedback : JointFeedback) (now : SteadyTime)
    (hwin : (s.arbiter.live (s.startTick B.recorded now).startedAt).MovesWin
      (s.startTick B.recorded now).startedAt) {k : String}
    (hmove : ∀ session, s.sessions[k]? = some session → isServo session.kind = false) :
    startBudget k (exec B.recorded lib s (.tick feedback now)).2 ≤ startBudget k s := by
  obtain ⟨s₂, hturns, hexec⟩ := tick_log B lib s feedback now h.sound
  have hdescends := tickOpened_descends (B := B.recorded) h.sound feedback now
  have hread : startBudget k (s.tickOpening B.recorded now).pipeline ≤ startBudget k s :=
    ((outside_budget B k).expired s now).trans
      (startBudget_le (((outside_asides B).readClock s).trans
        ((outside_asides B).readClock (s.readClock B.recorded).2)).logs (.inr rfl))
  -- a stored Move is among the winners of this tick
  have hk : k ∈ (s.tickArbitration B.recorded now).winnerSessionIds ∨
      (s.tickOpened B.recorded now).pipeline.sessions[k]? = none := by
    cases hfound : (s.tickOpened B.recorded now).pipeline.sessions[k]? with
    | none => exact .inr rfl
    | some session =>
      obtain ⟨old, hold, -⟩ := hdescends k session hfound
      obtain ⟨state, hstate, hkind', -⟩ := (h.tables.rows k).claimed old hold
      have hkind : isMove state.claim.kind = true := by
        rw [hkind']
        simp [isMove, hmove old hold]
      refine .inl (hwin k state ?_ hkind)
      rw [ControlArbiter.live_claims, show s.arbiter.claims[k]? = some state from hstate,
        Option.filter_some, if_pos]
      simp [ClaimState.move_live hkind]
  have hopened := opened_budget (B := B) (s.schedulingGap now) hk
  have hrun := LoggedTurns.budget hturns (k := k) fun session hs => by
    obtain ⟨old, hold, hsame⟩ := hdescends k session hs
    rw [Session.kind, hsame.request]
    exact hmove old hold
  rw [hexec]
  exact (((outside_budget B k).closed _ s₂).trans hrun).trans (hopened.trans hread)

/-- The id of a servo session is derived from its endpoint. -/
theorem InOrder.no_servo (h : InOrder B.logged e₀ names s) {k : String}
    (hfree : ∀ name ∈ names, k ≠ servoId name) {session : Session}
    (hfound : s.sessions[k]? = some session) : isServo session.kind = false := by
  by_contra hservo
  rw [Bool.not_eq_false] at hservo
  have hident := (h.tables.rows k).identity trivial session hfound
  obtain ⟨policy, hpolicy, -⟩ := hident.policy
  exact hfree _ (h.ids.named.registered _ policy hpolicy) (hident.servo hservo)

variable (lib) in
/-- No call but the admission of the Move raises its budget of starts. -/
theorem exec_budget (h : InOrder B.logged e₀ names s) {op : Op} {now : SteadyTime}
    (hs : s.arbiter.shadowless now = true) (hapart : s.arbiter.MovesApart)
    (hat : ∀ time, op.tickTime = some time → (s.startTick B.recorded time).startedAt = now)
    {k : String} (hfree : ∀ name ∈ names, k ≠ servoId name)
    (hnot : op.admits (exec B.recorded lib s op).1 k = false) :
    startBudget k (exec B.recorded lib s op).2 ≤ startBudget k s := by
  cases op with
  | submitMove endpoint request time generation =>
    refine (submitMove_outcome B.recorded s endpoint request time generation).budget h ?_
    intro hid
    simpa [Op.admits, Op.moveId?, hid, exec, Reply.accepted] using hnot
  | updateServo endpoint request receivedAt time generation =>
    exact (updateServo_outcome B.recorded s endpoint request receivedAt time
      generation).budget h hfree
  | tick feedback time =>
    have hstarted := hat time rfl
    have hlive := ControlArbiter.fewer_live s.arbiter now
    refine tick_budget h feedback time ?_ fun session hfound => ?_
    · rw [hstarted]
      exact (hlive.movesApart hapart).movesWin (h.tables.arbiter.live now) (hlive.shadowless hs)
    · exact h.no_servo hfree hfound
  | _ => exact (outside_budget B k).quietly lib s rfl rfl

end

/-! ## Runs -/

/-- The time at which the call evaluates the claims. -/
def Op.evaluatedAt {γ : Type} (B : Platform γ) (s : CommandPipeline γ) : Op → Option SteadyTime
  | .submitMove _ _ now _ => some now
  | .updateServo _ _ _ now _ => some now
  | .tick _ now => some (s.startTick B now).startedAt
  | _ => none

abbrev TimedStage (β : Type) : Type :=
  Machine.Stage (CommandPipeline (β × List Call)) (SteadyTime × Op) Reply

/-- Every call of the pipeline, with the time at which it is made. -/
def timedMachine (B : Platform β) (lib : MathLib) :
    Machine (CommandPipeline (β × List Call)) (SteadyTime × Op) Reply :=
  ⟨fun s call => exec B.recorded lib s call.2⟩

/-- A call evaluates the claims at the time at which it is made. -/
def Punctual (B : Platform β) (s : CommandPipeline (β × List Call)) (call : SteadyTime × Op) : Prop :=
  (call.2.evaluatedAt B.recorded s).getD call.1 = call.1

theorem Punctual.time {s : CommandPipeline (β × List Call)} {call : SteadyTime × Op}
    (h : Punctual B s call) {time : SteadyTime}
    (hat : call.2.evaluatedAt B.recorded s = some time) : call.1 = time := by
  unfold Punctual at h
  rw [hat] at h
  exact h.symm

theorem Op.evaluatedAt_submission {γ : Type} {P : Platform γ} {s : CommandPipeline γ} {op : Op}
    {time : SteadyTime} (h : op.arbitratedAt = some time) : op.evaluatedAt P s = some time := by
  cases op with
  | submitMove | updateServo => exact h
  | _ => cases h

theorem Op.evaluatedAt_tick {γ : Type} {P : Platform γ} {s : CommandPipeline γ} {op : Op}
    {time : SteadyTime} (h : op.tickTime = some time) :
    op.evaluatedAt P s = some (s.startTick P time).startedAt := by
  cases op with
  | tick => cases h; rfl
  | _ => cases h

/-- The Move is stored before the call, and no winner after it. -/
def Loses (k : String) (g : TimedStage β) : Prop :=
  (∃ state, g.before.arbiter.claims[k]? = some state ∧ isMove state.claim.kind = true) ∧
    k ∉ g.after.arbiter.winners g.input.1

/-- The call `h` comes after `g`, and no call after `g` up to `h` admits the Move. -/
def Since (stages : List (TimedStage β)) (k : String) (g h : TimedStage β) : Prop :=
  ∃ past mid rest, stages = past ++ g :: (mid ++ h :: rest) ∧
    ∀ x ∈ mid ++ [h], x.input.2.admits x.output k = false

/-- The stored Moves win after every call. A Move that does not has been removed by the call, and
reported as preempted if the call is a submission; it does not win again, unless a Move is admitted
under its id anew. An admitted Move is started at most once. -/
structure MovesStay (stages : List (TimedStage β)) : Prop where
  win : ∀ g ∈ stages, g.after.arbiter.MovesWin g.input.1
  removed : ∀ g ∈ stages, ∀ k, Loses k g →
    g.after.arbiter.claims[k]? = none ∧ g.after.sessions[k]? = none
  preempted : ∀ g ∈ stages, ∀ k, Loses k g → g.input.2.arbitratedAt.isSome = true →
    preemption k ∈ g.after.pendingEvents
  out : ∀ g h k, Loses k g → Since stages k g h → k ∉ h.after.arbiter.winners h.input.1
  started : ∀ g h k, g.input.2.admits g.output k = true → Since stages k g h →
    startCalls k h.after.backend.2 ≤ startCalls k g.after.backend.2 + 1

/-- What a run without shadows keeps. -/
structure Orderly (B : Platform β) (e₀ : β × List Call) (names : List String)
    (s : CommandPipeline (β × List Call)) : Prop where
  order : InOrder B.logged e₀ names s
  apart : s.arbiter.MovesApart

/-- A call of such a run. -/
structure Undisturbed (B : Platform β) (names : List String) (s : CommandPipeline (β × List Call))
    (call : SteadyTime × Op) : Prop where
  keeps : call.2.Keeps names
  punctual : Punctual B s call
  clear : s.arbiter.shadowless call.1 = true

section
variable {e₀ : β × List Call} {names : List String} {s : CommandPipeline (β × List Call)}
  {call : SteadyTime × Op}

variable (lib) in
theorem Orderly.win (h : Orderly B e₀ names s) (hcall : Undisturbed B names s call) :
    ((timedMachine B lib).step s call).2.arbiter.MovesWin call.1 := by
  have hat : ∀ time, call.2.arbitratedAt = some time → call.1 = time := fun time hsubmitted =>
    hcall.punctual.time (Op.evaluatedAt_submission hsubmitted)
  have hwin := exec_movesWin (S := B.logged) lib h.order hcall.keeps h.apart hcall.clear hat
  exact hwin

variable (lib) in
theorem Orderly.step (h : Orderly B e₀ names s) (hcall : Undisturbed B names s call) :
    Orderly B e₀ names ((timedMachine B lib).step s call).2 :=
  ⟨h.order.exec lib hcall.keeps,
    (h.win lib hcall).apart (h.order.exec lib hcall.keeps).tables.arbiter⟩

theorem Since.mem {stages : List (TimedStage β)} {k : String} {g h : TimedStage β}
    (hsince : Since stages k g h) : g ∈ stages ∧ h ∈ stages := by
  obtain ⟨past, mid, rest, rfl, -⟩ := hsince
  simp

/-- What every call keeps that does not admit the Move, the calls since keep. -/
theorem Since.invariant {I : CommandPipeline (β × List Call) → Prop} {k : String}
    {calls : List (SteadyTime × Op)} {g h : TimedStage β}
    (hstep : ∀ s call, Orderly B e₀ names s → Undisturbed B names s call →
      call.2.admits ((timedMachine B lib).step s call).1 k = false → I s →
      I ((timedMachine B lib).step s call).2)
    (horder : Orderly B e₀ names s)
    (hmeets : (timedMachine B lib).Meets (Undisturbed B names) s calls)
    (hsince : Since ((timedMachine B lib).trace s calls) k g h) (hg : I g.after) : I h.after := by
  obtain ⟨past, mid, rest, htrace, hquiet⟩ := hsince
  obtain ⟨before, after, rfl, -, hrest⟩ := Machine.trace_eq_append htrace
  obtain ⟨first, after, rfl, rfl, hlater⟩ := Machine.trace_eq_cons hrest
  obtain ⟨during, last, rfl, rfl, hlast⟩ := Machine.trace_eq_append hlater
  obtain ⟨final, last, rfl, rfl, -⟩ := Machine.trace_eq_cons hlast
  obtain ⟨hbefore, hmeets⟩ := (Machine.meets_append _ _ _).1 hmeets
  obtain ⟨hfirst, hmeets⟩ := (Machine.meets_cons _ _ _).1 hmeets
  obtain ⟨hduring, hmeets⟩ := (Machine.meets_append _ _ _).1 hmeets
  obtain ⟨hfinal, -⟩ := (Machine.meets_cons _ _ _).1 hmeets
  have hstart : Orderly B e₀ names ((timedMachine B lib).run s before) :=
    Machine.run_invariant (fun _ _ h hcall => h.step lib hcall) horder hbefore
  have hunadmitted : (timedMachine B lib).Meets (fun s call => Undisturbed B names s call ∧
      call.2.admits ((timedMachine B lib).step s call).1 k = false)
      ((timedMachine B lib).step ((timedMachine B lib).run s before) first).2 during := by
    intro x hx
    refine ⟨hduring x hx, ?_⟩
    rw [Machine.trace_step hx]
    exact hquiet x (List.mem_append_left _ hx)
  obtain ⟨horder', hkept⟩ := Machine.run_invariant
    (I := fun s => Orderly B e₀ names s ∧ I s)
    (fun s call h hcall => ⟨h.1.step lib hcall.1, hstep s call h.1 hcall.1 hcall.2 h.2⟩)
    ⟨hstart.step lib hfirst, hg⟩ hunadmitted
  exact hstep _ final horder' hfinal (hquiet _ (List.mem_append_right _ (List.mem_singleton_self _)))
    hkept

/-- A Move that loses is no servo's, and gone after the call. -/
theorem Loses.gone {g : TimedStage β} {k : String} (hloses : Loses k g)
    (hstep : (timedMachine B lib).step g.before g.input = (g.output, g.after))
    (h : Orderly B e₀ names g.before) (hcall : Undisturbed B names g.before g.input) :
    (∀ name ∈ names, k ≠ servoId name) ∧ g.after.arbiter.claims[k]? = none ∧
      g.after.sessions[k]? = none := by
  obtain ⟨⟨state, hk, hmove⟩, hlost⟩ := hloses
  have hafter : g.after = ((timedMachine B lib).step g.before g.input).2 := by rw [hstep]
  have horder : InOrder B.logged e₀ names g.after := hafter ▸ (h.step lib hcall).order
  have hfree : ∀ name ∈ names, k ≠ servoId name := by
    obtain ⟨session, hfound, hkind⟩ := h.order.tables.claimant hk
    refine h.order.ids.named.move k session hfound ?_
    simpa [isMove, hkind] using hmove
  have hgone : g.after.arbiter.claims[k]? = none := by
    rw [Option.eq_none_iff_forall_not_mem]
    intro left hleft
    obtain ⟨session, hfound, hkind⟩ := horder.tables.claimant hleft
    have hwin : g.after.arbiter.MovesWin g.input.1 := hafter ▸ h.win lib hcall
    refine hlost (hwin k left hleft ?_)
    rw [isMove, ← hkind, horder.no_servo hfree hfound]
    rfl
  refine ⟨hfree, hgone, ?_⟩
  rw [Option.eq_none_iff_forall_not_mem]
  intro session hfound
  obtain ⟨left, hleft, -⟩ := (horder.tables.rows k).claimed session hfound
  rw [show g.after.arbiter.claims[k]? = some left from hleft] at hgone
  cases hgone

end

/-- In every run whose Moves have ids of their own, and in which no live servo outranks a stored
Move on one of its joints when a call arrives, the Moves stay: a Move that loses its joints is
removed by that call and does not come back. -/
theorem moves_stay (B : Platform β) (lib : MathLib) (e : β) (groups : List JointGroupModel)
    (config : CommandPipelineConfig) {calls : List (SteadyTime × Op)}
    (hfree : MoveIdsFree (calls.map Prod.snd))
    (hpunctual : (timedMachine B lib).Meets (Punctual B)
      (CommandPipeline.create (e, []) groups config) calls)
    (hclear : (timedMachine B lib).Meets (fun s call => s.arbiter.shadowless call.1 = true)
      (CommandPipeline.create (e, []) groups config) calls) :
    MovesStay ((timedMachine B lib).trace (CommandPipeline.create (e, []) groups config) calls) := by
  set s₀ : CommandPipeline (β × List Call) := CommandPipeline.create (e, []) groups config with hs₀
  set names := endpointNames (calls.map Prod.snd)
  have hstart : Orderly B (e, []) names s₀ := by
    refine ⟨create_inOrder _ groups config (B.logged_fresh e), fun k k' x y hx => ?_⟩
    simp [hs₀, CommandPipeline.create] at hx
  have hmeets : (timedMachine B lib).Meets (Undisturbed B names) s₀ calls := by
    intro g hg
    have hin : g.input ∈ calls := by
      rw [← Machine.trace_inputs (M := timedMachine B lib) s₀ calls]
      exact List.mem_map_of_mem hg
    exact ⟨hfree.keeps _ (List.mem_map_of_mem hin), hpunctual g hg, hclear g hg⟩
  have horderly : ∀ g ∈ (timedMachine B lib).trace s₀ calls,
      Orderly B (e, []) names g.before ∧ Orderly B (e, []) names g.after :=
    Machine.trace_invariant (fun _ _ h hcall => h.step lib hcall) hstart hmeets
  constructor
  · intro g hg
    have hwin := (horderly g hg).1.win lib (hmeets g hg)
    rwa [Machine.trace_step hg] at hwin
  · intro g hg k hloses
    exact (hloses.gone (Machine.trace_step hg) (horderly g hg).1 (hmeets g hg)).2
  · intro g hg k hloses hop
    obtain ⟨⟨state, hk, hmove⟩, -⟩ := id hloses
    have hstays := exec_stays (S := B.logged) lib (horderly g hg).1.order hop k state hk hmove
    have hgone := (hloses.gone (Machine.trace_step hg) (horderly g hg).1 (hmeets g hg)).2.1
    rw [show exec B.logged.toPlatform lib g.before g.input.2 = (g.output, g.after) from
      Machine.trace_step hg, hgone] at hstays
    rcases hstays with hkept | hevent
    · cases hkept
    · exact hevent
  · intro g h k hloses hsince hwins
    have hg := hsince.mem.1
    obtain ⟨hfree', hgone, -⟩ :=
      hloses.gone (Machine.trace_step hg) (horderly g hg).1 (hmeets g hg)
    have hout := hsince.invariant (I := fun s => s.arbiter.claims[k]? = none)
      (fun s call h _ hnot hk => exec_entered (S := B.logged) lib h.order hfree' hk hnot)
      hstart hmeets hgone
    have hok := (horderly h hsince.mem.2).2.order.tables.arbiter
    obtain ⟨state, hstored, -⟩ := ControlArbiter.winner_stored hok hwins
    rw [hout] at hstored
    cases hstored
  · intro g h k hadmits hsince
    have hg := hsince.mem.1
    have hfree' : ∀ name ∈ names, k ≠ servoId name := by
      unfold Op.admits at hadmits
      rw [Bool.and_eq_true, beq_iff_eq] at hadmits
      exact (hmeets g hg).keeps.moveFree k hadmits.1
    have hbudget := hsince.invariant (I := fun s => startBudget k s ≤ startBudget k g.after)
      (fun s call h hcall hnot hk => (exec_budget lib h.order hcall.clear h.apart
        (fun time hat => (hcall.punctual.time (Op.evaluatedAt_tick hat)).symm) hfree' hnot).trans hk)
      hstart hmeets (Nat.le_refl _)
    have hone := Bool.toNat_le (awaitsStart k g.after)
    unfold startBudget at hbudget
    omega

/-! ## Examples -/

namespace Fixture

/-- The pipeline with every call of it written down. -/
def fresh : CommandPipeline (FakeSdk × List Call) := CommandPipeline.create ({}, []) allGroups {}

/-- The servo of both arms takes the joints of the running Move. -/
def preemptedMove : List (SteadyTime × Op) :=
  [(0, endpoint "m" .moveJ "left" 10), (0, endpoint "s" .servoJ "whole" 20),
    (milliseconds 10, moveJ "m" "move" "left" leftJoints 10), (milliseconds 20, tick 20),
    (milliseconds 30, servoJ "s" "whole" (leftJoints ++ rightJoints) 30),
    (milliseconds 40, tick 40)]

theorem preemptedMove_clear :
    (timedMachine FakeSdk.platform.toPlatform mathLib).Meets
      (fun s call => s.arbiter.shadowless call.1 = true) fresh preemptedMove := by
  unfold Machine.Meets
  decide +kernel

theorem moves_stay_preempted :
    MovesStay ((timedMachine FakeSdk.platform.toPlatform mathLib).trace fresh preemptedMove) :=
  moves_stay FakeSdk.platform.toPlatform mathLib {} allGroups {} (by decide)
    (by unfold Machine.Meets Punctual; decide +kernel) preemptedMove_clear

/-- The servo of the right arm keeps the servo of both arms out, until its lease runs out. -/
def shadowedMove : List (SteadyTime × Op) :=
  [(0, endpoint "t" .servoJ "right" 30), (0, endpoint "s" .servoJ "whole" 20),
    (0, endpoint "m" .moveJ "left" 10), (0, servoJ "t" "right" rightJoints 0),
    (milliseconds 50, servoJ "s" "whole" (leftJoints ++ rightJoints) 50),
    (milliseconds 60, moveJ "m" "move" "left" leftJoints 60), (milliseconds 70, tick 70),
    (milliseconds 105, tick 105), (milliseconds 160, tick 160)]

/-- The Move that the servo of both arms shadows is started twice. -/
theorem shadowed_move_returns :
    (shadowedMove.map Prod.fst).Pairwise (· ≤ ·) ∧ MoveIdsFree (shadowedMove.map Prod.snd) ∧
      startCalls "move" ((timedMachine FakeSdk.platform.toPlatform mathLib).run fresh
        shadowedMove).backend.2 = 2 ∧
      ¬ MovesStay ((timedMachine FakeSdk.platform.toPlatform mathLib).trace fresh shadowedMove) := by
  refine ⟨by decide, by decide, by decide +kernel, fun h => ?_⟩
  have hwin : ∀ g ∈ (timedMachine FakeSdk.platform.toPlatform mathLib).trace fresh shadowedMove,
      g.after.arbiter.claims.toList.all (fun entry =>
        !isMove entry.2.claim.kind || (g.after.arbiter.winners g.input.1).contains entry.1) = true := by
    intro g hg
    rw [List.all_eq_true]
    rintro ⟨k, state⟩ hk
    have hstored := Std.TreeMap.mem_toList_iff_getElem?_eq_some.1 hk
    cases hmove : isMove state.claim.kind with
    | false => simp
    | true => simpa [hmove] using h.win g hg k state hstored hmove
  exact absurd hwin (by decide +kernel)

end Fixture

end HumanoidMotion
