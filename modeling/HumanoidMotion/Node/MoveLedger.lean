import HumanoidMotion.Motion.Holds
import HumanoidMotion.Node.MoveCustody
/-
# All Moves, in every interleaving

`Ledger` holds the account of every Move, of those that have not been launched and of
the two tables. Every step of every thread keeps it, and with it what a client and an
operator rely on.

* `Launchable` — a task gets an id of its own.
* `Ledger.step`, `Ledger.run` — every step, and every run.
* `Ledger.ended_still` — a Move whose worker has ended moves nothing.
* `move_actions` — what is true of the Moves whenever one looks.
-/

namespace HumanoidMotion

open Tick

variable {β : Type} {B : Platform β} {lib : MathLib}

/-- What is known of all Moves; `moves` are the ids that Moves have. -/
structure Ledger (moves : String → Prop) (past : List (PipelineStage β)) (s : MoveThreads β) : Prop where
  accounted : Accounted past s.pipeline
  /-- What the control thread holds has just been returned. -/
  handed : ∃ delivered, returned past = delivered ++ s.control.getD []
  tidy : s.mailboxes.Tidy
  named : ∀ (id : String) w, s.workers[id]? = some w → moves id
  custody : ∀ (id : String) w, s.workers[id]? = some w → Custody past s id w.stage
  unborn : ∀ id : String, moves id → s.workers[id]? = none → insertions id past = 0
  unopened : ∀ id : String, s.workers[id]? = none → s.mailboxes.Closed id

/-! ## Every step -/

namespace MoveThreads

variable (B lib) in
/-- The stages of the pipeline in a step. -/
def stages (s : MoveThreads β) (e : MoveEvent) : List (PipelineStage β) :=
  (machine B lib).trace s.pipeline (s.calls e)

end MoveThreads

/-- A task gets an id of its own, which is not that of a servo session. -/
def Launchable (moves : String → Prop) (s : MoveThreads β) : MoveEvent → Prop
  | .launch channel goalId _ _ => moves (sessionIdOf channel.name goalId) ∧
      s.workers[sessionIdOf channel.name goalId]? = none
  | .servo endpoint _ _ => ¬ moves (servoId endpoint)
  | _ => True

section
variable {moves : String → Prop} {past more : List (PipelineStage β)} {s s' : MoveThreads β}
  {id : String} {w : MoveWorker} {settings : MoveSettings} {answers : MoveAnswers}

theorem Aloof.keep (h : Aloof past more s s' id) (k : String) (w : MoveWorker) :
    Aloof past more s (s'.keep k w) id :=
  ⟨h.insertions, h.sessions, h.awaited, h.closed⟩

theorem Aloof.refl : Aloof past [] s s id :=
  mailbox_aloof (fun _ h => h) fun h => h

theorem Custody.keep {stage : MoveAt} (h : Custody past s id stage) (k : String) (w : MoveWorker) :
    Custody past (s.keep k w) id stage :=
  ⟨h.request, h.once, h.unsubmitted, h.awaits, h.gone, h.opened, h.shut, h.between, h.event, h.report⟩

/-- For each id, the step is one of others or leaves a worker whose Move is accounted for. -/
theorem Ledger.next (h : Ledger moves past s) (hacc : Accounted (past ++ more) s'.pipeline)
    (hhanded : ∃ delivered, returned (past ++ more) = delivered ++ s'.control.getD [])
    (htidy : s'.mailboxes.Tidy)
    (hall : ∀ k : String, (s'.workers[k]? = s.workers[k]? ∧ (moves k → Aloof past more s s' k) ∧
        (s.mailboxes.Closed k → s'.mailboxes.Closed k)) ∨
      ∃ w, s'.workers[k]? = some w ∧ moves k ∧ Custody (past ++ more) s' k w.stage) :
    Ledger moves (past ++ more) s' where
  accounted := hacc
  handed := hhanded
  tidy := htidy
  named k w hw := by
    rcases hall k with ⟨hsame, -, -⟩ | ⟨w', -, hmoves, -⟩
    · exact h.named k w (hsame ▸ hw)
    · exact hmoves
  custody k w hw := by
    rcases hall k with ⟨hsame, haloof, -⟩ | ⟨w', hw', -, hcustody⟩
    · rw [hsame] at hw
      exact (h.custody k w hw).aloof (haloof (h.named k w hw)) hacc
    · obtain rfl : w' = w := Option.some.inj (hw'.symm.trans hw)
      exact hcustody
  unborn k hmoves hnone := by
    rcases hall k with ⟨hsame, haloof, -⟩ | ⟨w', hw', -, -⟩
    · rw [insertions_append, h.unborn k hmoves (hsame ▸ hnone), (haloof hmoves).insertions]
    · rw [hw'] at hnone
      cases hnone
  unopened k hnone := by
    rcases hall k with ⟨hsame, -, hclosed⟩ | ⟨w', hw', -, -⟩
    · exact hclosed (h.unopened k (hsame ▸ hnone))
    · rw [hw'] at hnone
      cases hnone

theorem keep_self (s : MoveThreads β) (id : String) (w : MoveWorker) :
    (s.keep id w).workers[id]? = some w := by
  simp [MoveThreads.keep]

theorem keep_other (s : MoveThreads β) {k : String} (hne : k ≠ id) (w : MoveWorker) :
    (s.keep id w).workers[k]? = s.workers[k]? := by
  simp [MoveThreads.keep, Std.TreeMap.getElem?_insert, Ne.symm hne]

theorem Ledger.launch (h : Ledger moves past s) (hmoves : moves id) (hnone : s.workers[id]? = none)
    (channel : ChannelConfig) (goal : MoveGoal) (generation : Nat) :
    Ledger moves (past ++ []) (s.keep id { channel, goal, generation }) := by
  have hacc : Accounted (past ++ []) s.pipeline := by
    rw [List.append_nil]
    exact h.accounted
  have hzero := h.unborn id hmoves hnone
  refine h.next hacc (by rw [List.append_nil]; exact h.handed) h.tidy fun k => ?_
  by_cases hk : k = id
  · subst hk
    refine .inr ⟨_, keep_self s k _, hmoves, Custody.keep ?_ k _⟩
    rw [List.append_nil]
    refine ⟨fun request hrequest => ?_, by omega, fun _ => hzero, fun hstage => ?_,
      fun _ => h.accounted.unstored hzero, fun hstage => ?_, fun _ => h.unopened k hnone,
      .inr (h.unopened k hnone), fun event hstage => ?_, fun report hstage => ?_⟩
    · cases hrequest
    · cases hstage
    · cases hstage
    · cases hstage
    · cases hstage
  · exact .inl ⟨keep_other s hk _, fun _ => Aloof.refl.keep id _, fun hclosed => hclosed⟩

/-- The calls of a worker are for its own session. -/
theorem Custody.action_call {now : SteadyTime} {op : Op} (h : Custody past s id w.stage)
    (haction : w.action id now = .call op) :
    op.isTick = false ∧ ∀ k, op.storesId = some k → k = id := by
  obtain ⟨channel, goal, generation, started, nextFeedback, stage⟩ := w
  cases stage with
  | submitting request =>
    obtain rfl := MoveAction.call.inj haction
    exact ⟨rfl, fun k hk => (Option.some.inj hk).symm.trans (h.request request rfl)⟩
  | canceling | expiring | leaving | failing message =>
    obtain rfl := MoveAction.call.inj haction
    exact ⟨rfl, fun k hk => by simp [Op.storesId] at hk⟩
  | _ => cases haction

/-- A worker does what is next. -/
theorem Ledger.worker (h : Ledger moves past s) (hw : s.workers[id]? = some w) :
    Ledger moves (past ++ (machine B lib).trace s.pipeline (w.action id answers.now).calls)
      (s.workerStep B lib settings id answers w) := by
  have hcustody := h.custody id w hw
  have hmoves := h.named id w hw
  -- the step changes at most the mailbox of the worker
  have hlocal : ∀ (mailboxes : Mailboxes String SessionEvent) (w' : MoveWorker), mailboxes.Tidy →
      (∀ k : String, k ≠ id → ∀ told, s.mailboxes.Holds k told → mailboxes.Holds k told) →
      (∀ k : String, k ≠ id → s.mailboxes.Closed k → mailboxes.Closed k) →
      Custody past { s with mailboxes } id w'.stage →
      Ledger moves (past ++ []) ({ s with mailboxes }.keep id w') := by
    intro mailboxes w' htidy hholds hclosed hown
    have hacc : Accounted (past ++ []) s.pipeline := by
      rw [List.append_nil]
      exact h.accounted
    refine h.next hacc (by rw [List.append_nil]; exact h.handed) htidy fun k => ?_
    by_cases hk : k = id
    · subst hk
      refine .inr ⟨w', keep_self _ k _, hmoves, Custody.keep ?_ k _⟩
      rw [List.append_nil]
      exact hown
    · exact .inl ⟨keep_other _ hk _, fun _ => (mailbox_aloof (hholds k hk) (hclosed k hk)).keep id _,
        hclosed k hk⟩
  unfold MoveThreads.workerStep
  cases haction : w.action id answers.now with
  | none =>
    exact hlocal s.mailboxes _ h.tidy (fun _ _ _ h => h) (fun _ _ h => h)
      (hcustody.alone haction)
  | wait =>
    exact hlocal _ _ (h.tidy.wait id) (fun k _ told hheld => hheld.wait id)
      (fun k hk hshut => hshut.wait_other (Ne.symm hk))
      (hcustody.waits h.accounted h.handed haction)
  | discard =>
    exact hlocal _ _ (h.tidy.discard id) (fun k hk told hheld => hheld.discard (Ne.symm hk))
      (fun k _ hshut => hshut.discard id) (hcustody.discards haction)
  | take =>
    refine hlocal _ _ ?_ ?_ ?_ (hcustody.takes h.accounted haction) <;>
      cases htaken : (s.mailboxes.take id).1 with
      | none =>
        rw [Mailboxes.take_none htaken]
        first | exact h.tidy | exact fun _ _ _ hheld => hheld | exact fun _ _ hshut => hshut
      | some event =>
        rw [Mailboxes.take_some htaken]
        first
        | exact h.tidy.discard id
        | exact fun k hk told hheld => hheld.discard (Ne.symm hk)
        | exact fun k _ hshut => hshut.discard id
  | call op =>
    obtain ⟨htick, hstores⟩ := hcustody.action_call haction
    have hacc : Accounted (past ++ [stageOf B lib s.pipeline op])
        ({ s with pipeline := (exec B lib s.pipeline op).2 }.keep id
          (w.next settings answers id (.called (exec B lib s.pipeline op).1))).pipeline :=
      h.accounted.step op
    refine h.next hacc ?_ h.tidy fun k => ?_
    · obtain ⟨delivered, hdelivered⟩ := h.handed
      refine ⟨delivered, ?_⟩
      have hnone : returned [stageOf B lib s.pipeline op] = [] :=
        (returned_stageOf s.pipeline).trans (exec_events_nil _ htick)
      exact (returned_append past [stageOf B lib s.pipeline op]).trans
        (by rw [hnone, List.append_nil]; exact hdelivered)
    · by_cases hk : k = id
      · subst hk
        exact .inr ⟨_, keep_self _ k _, hmoves,
          (hcustody.calls B lib h.accounted haction).keep k _⟩
      · exact .inl ⟨keep_other _ hk _, fun _ => (call_aloof h.accounted.sound
          (fun hsome => hk (hstores k hsome)) htick).keep id _, fun hshut => hshut⟩

/-- A call that no worker makes. -/
theorem Ledger.call (h : Ledger moves past s) {op : Op} (htick : op.isTick = false)
    (hstores : ∀ k, op.storesId = some k → ¬ moves k) :
    Ledger moves (past ++ [stageOf B lib s.pipeline op])
      { s with pipeline := (exec B lib s.pipeline op).2 } := by
  refine h.next (h.accounted.step op) ?_ h.tidy fun k => .inl ⟨rfl, fun hmoves => ?_, fun hshut => hshut⟩
  · obtain ⟨delivered, hdelivered⟩ := h.handed
    refine ⟨delivered, ?_⟩
    rw [returned_append, returned_stageOf, exec_events_nil _ htick, List.append_nil]
    exact hdelivered
  · exact call_aloof h.accounted.sound (fun hsome => hstores k hsome hmoves) htick

variable (B lib settings) in
/-- Every step keeps the ledger. -/
theorem Ledger.step (h : Ledger moves past s) (e : MoveEvent) (hok : Launchable moves s e) :
    Ledger moves (past ++ s.stages B lib e) (s.step B lib settings e) := by
  have hstay : Ledger moves (past ++ []) s := by
    rw [List.append_nil]
    exact h
  cases e with
  | launch channel goalId goal generation => exact h.launch hok.1 hok.2 channel goal generation
  | worker id answers =>
    simp only [MoveThreads.stages, MoveThreads.calls, MoveThreads.step]
    cases hw : s.workers[id]? with
    | none => exact hstay
    | some w => exact h.worker hw
  | tick feedback now =>
    simp only [MoveThreads.stages, MoveThreads.calls, MoveThreads.step]
    cases hcontrol : s.control with
    | some events => exact hstay
    | none =>
      refine h.next (h.accounted.step _) ⟨returned past, ?_⟩ h.tidy
        fun k => .inl ⟨rfl, fun _ => tick_aloof h.accounted.sound hcontrol feedback now,
          fun hshut => hshut⟩
      rw [returned_append]
      exact congrArg (returned past ++ ·) (returned_stageOf s.pipeline)
  | deliver =>
    simp only [MoveThreads.stages, MoveThreads.calls, MoveThreads.step]
    cases hcontrol : s.control with
    | none => exact hstay
    | some events =>
      have hacc : Accounted (past ++ []) s.pipeline := by
        rw [List.append_nil]
        exact h.accounted
      refine h.next hacc ⟨returned past, by simp⟩ (h.tidy.deliver events)
        fun k => .inl ⟨rfl, fun _ => deliver_aloof hcontrol, fun hshut => hshut.deliver events⟩
  | servo endpoint input now =>
    refine h.call rfl fun k hk => ?_
    obtain rfl := Option.some.inj hk
    exact hok
  | call op =>
    simp only [MoveThreads.stages, MoveThreads.calls, MoveThreads.step]
    split
    · rename_i hother
      refine h.call ?_ fun k hk => ?_
      · cases op <;> first | rfl | cases hother
      · cases op <;> first | cases hother; done | cases hk
    · exact hstay

end

/-! ## Every run -/

section
variable {settings : MoveSettings}

variable (B lib settings) in
/-- The stages of the pipeline in a run. -/
def pipelineStages (s : MoveThreads β) (events : List MoveEvent) : List (PipelineStage β) :=
  ((moveMachine B lib settings).trace s events).flatMap fun g => g.before.stages B lib g.input

theorem Ledger.run {moves : String → Prop} {events : List MoveEvent} :
    ∀ {past : List (PipelineStage β)} {s : MoveThreads β}, Ledger moves past s →
      (moveMachine B lib settings).Meets (Launchable moves) s events →
      Ledger moves (past ++ pipelineStages B lib settings s events)
        ((moveMachine B lib settings).run s events) := by
  induction events with
  | nil =>
    intro past s h _
    rw [show pipelineStages B lib settings s [] = [] from rfl, List.append_nil]
    exact h
  | cons e events ih =>
    intro past s h hmeets
    obtain ⟨hok, hrest⟩ := (Machine.meets_cons s e events).1 hmeets
    have hnext := ih (h.step B lib settings e hok) hrest
    rwa [List.append_assoc] at hnext

theorem Initial.ledger {p : CommandPipeline β} (h : Initial p) (moves : String → Prop) :
    Ledger moves [] { pipeline := p } where
  accounted := h.accounted
  handed := ⟨[], rfl⟩
  tidy := Mailboxes.empty_tidy
  named id w hw := by simp at hw
  custody id w hw := by simp at hw
  unborn _ _ _ := rfl
  unopened id _ := Mailboxes.empty_closed id

variable (B lib) in
/-- A tick returns commands of stored sessions only. -/
theorem exec_commands_stored {p : CommandPipeline β} (hsound : Sound p) {op : Op} {c : JointCommand}
    (hc : c ∈ (exec B lib p op).1.commands) : ∃ session, p.sessions[c.sessionId]? = some session := by
  cases op with
  | tick feedback now =>
    obtain ⟨s₂, hrun, htick⟩ := tick_run B lib p feedback now hsound
    have hopening : Elems B (.tick feedback now) { pipeline := p } (p.tickOpening B now) :=
      tickOpening_elems p now
    have hopened := hopening.trans (opened_elems (p.schedulingGap now)
      (p.tickArbitration B now).winnerSessionIds _ (hopening.sound hsound))
    simp only [exec, htick, Reply.commands] at hc
    obtain ⟨session, hsession, -⟩ := turns_ownJoints hrun.turns hopened hsound rfl c
      (List.mem_filter.1 hc).1
    exact ⟨session, hsession⟩
  | _ => simp [exec, Reply.commands] at hc

/-- A worker that has ended stays as it is. -/
theorem step_ended {moves : String → Prop} {s : MoveThreads β} {e : MoveEvent}
    (hok : Launchable moves s e) {id : String} {w : MoveWorker} {report : Option MoveReport}
    (hw : s.workers[id]? = some w) (hend : w.stage = .ended report) :
    (s.step B lib settings e).workers[id]? = some w := by
  cases e with
  | launch channel goalId goal generation =>
    have hne : id ≠ sessionIdOf channel.name goalId := by
      rintro rfl
      rw [hok.2] at hw
      cases hw
    exact (keep_other s hne _).trans hw
  | worker k answers =>
    simp only [MoveThreads.step]
    cases hk : s.workers[k]? with
    | none => exact hw
    | some v =>
      by_cases hne : id = k
      · subst hne
        obtain rfl : w = v := Option.some.inj (hw.symm.trans hk)
        have haction : w.action id answers.now = .none := by simp [MoveWorker.action, hend]
        have hnext : w.next settings answers id .none = w := by simp [MoveWorker.next, hend]
        simp only [MoveThreads.workerStep, haction, hnext]
        exact keep_self s id w
      · simp only [MoveThreads.workerStep]
        split <;> exact (keep_other _ hne _).trans hw
  | tick feedback now =>
    simp only [MoveThreads.step]
    split <;> exact hw
  | deliver =>
    simp only [MoveThreads.step]
    split <;> exact hw
  | servo endpoint input now => exact hw
  | call op =>
    simp only [MoveThreads.step]
    split <;> exact hw

/-- No tick returns a command of a Move whose worker has ended. -/
theorem Ledger.ended_still {moves : String → Prop} {id : String} {w : MoveWorker}
    {report : Option MoveReport} (hend : w.stage = .ended report) {events : List MoveEvent} :
    ∀ {past : List (PipelineStage β)} {s : MoveThreads β}, Ledger moves past s →
      (moveMachine B lib settings).Meets (Launchable moves) s events → s.workers[id]? = some w →
      ∀ g ∈ pipelineStages B lib settings s events, ∀ c ∈ g.output.commands, c.sessionId ≠ id := by
  induction events with
  | nil => intro past s _ _ _ g hg; cases hg
  | cons e events ih =>
    intro past s h hmeets hw g hg c hc
    obtain ⟨hok, hrest⟩ := (Machine.meets_cons s e events).1 hmeets
    rcases List.mem_append.1 hg with hg | hg
    · rintro rfl
      have hone : ∀ op ∈ s.calls e, s.calls e = [op] := by
        intro op hop
        cases e with
        | launch | deliver => cases hop
        | worker k answers =>
          simp only [MoveThreads.calls] at hop ⊢
          split at hop
          · cases hop
          · rename_i v hv
            cases haction : v.action k answers.now <;> simp_all [MoveAction.calls]
        | tick feedback now =>
          simp only [MoveThreads.calls] at hop ⊢
          split at hop <;> simp_all
        | servo endpoint input now => simp_all [MoveThreads.calls]
        | call op' =>
          simp only [MoveThreads.calls] at hop ⊢
          split at hop <;> simp_all
      have hgone := (h.custody c.sessionId w hw).gone (by rw [hend]; rfl)
      simp only [MoveThreads.stages] at hg
      cases hcalls : s.calls e with
      | nil =>
        rw [hcalls] at hg
        cases hg
      | cons op ops =>
        rw [hone op (by rw [hcalls]; exact List.mem_cons_self)] at hg
        obtain rfl := List.mem_singleton.1 hg
        obtain ⟨session, hsession⟩ := exec_commands_stored B lib h.accounted.sound hc
        rw [hgone] at hsession
        cases hsession
    · exact ih (h.step B lib settings e hok) hrest (step_ended hok hw hend) g hg c hc

/-- What is true of the Moves whenever one looks. -/
structure MovesKept (past : List (PipelineStage β)) (s : MoveThreads β) : Prop where
  /-- Both tables have entries of workers that run, and of no others. -/
  tables : ∀ id : String, id ∈ s.mailboxes.waiting ∨ (s.mailboxes.arrived[id]?).isSome = true →
    ∃ w, s.workers[id]? = some w ∧ ∀ report, w.stage ≠ .ended report
  /-- A worker that waits waits for something: its session is there, or its last event is on its way
  or has arrived. -/
  awaited : ∀ (id : String) w, s.workers[id]? = some w → w.stage.awaits = true →
    (s.pipeline.sessions[id]?).isSome = true ∨
      ∃ event ∈ s.pipeline.pendingEvents ++ (s.control.getD [] ++ (s.mailboxes.arrived[id]?).toList),
        event.sessionId = id ∧ event.isFinal = true
  /-- A verdict other than an abort is that of the only last event of the session. -/
  reported : ∀ (id : String) w report, s.workers[id]? = some w → w.stage = .ended (some report) →
    Certified past id report
  /-- No session outlives its worker. -/
  ended : ∀ (id : String) w report, s.workers[id]? = some w → w.stage = .ended report →
    s.pipeline.sessions[id]? = none

theorem mem_finals {id : String} {events : List SessionEvent} {event : SessionEvent} :
    event ∈ finals id events ↔ event ∈ events ∧ event.sessionId = id ∧ event.isFinal = true := by
  simp [finals, Mailboxes.addressed]

theorem Ledger.kept {moves : String → Prop} {past : List (PipelineStage β)} {s : MoveThreads β}
    (h : Ledger moves past s) : MovesKept past s where
  tables id hid := by
    have hopen : id ∈ s.mailboxes.waiting := by
      rcases hid with hid | hid
      · exact hid
      · obtain ⟨event, hevent⟩ := Option.isSome_iff_exists.1 hid
        exact h.tidy id event hevent
    cases hw : s.workers[id]? with
    | none => exact absurd hopen (h.unopened id hw).shut
    | some w =>
      refine ⟨w, rfl, fun report hend => ?_⟩
      exact ((h.custody id w hw).shut (by rw [hend]; rfl)).shut hopen
  awaited id w hw hawaits := by
    have hcustody := h.custody id w hw
    have hopened : w.stage.opened = true := by
      revert hawaits
      cases w.stage <;> simp [MoveAt.awaits, MoveAt.opened]
    obtain ⟨told, hholds, htold⟩ := hcustody.opened hopened
    have hbalance := h.accounted.balance id
    rw [hcustody.awaits hawaits, htold, List.length_append] at hbalance
    cases hstored : s.pipeline.sessions[id]? with
    | some session => exact .inl rfl
    | none =>
      right
      have hcontains : s.pipeline.sessions.contains id = false := by
        rw [Std.TreeMap.contains_eq_isSome_getElem?, hstored]
        rfl
      rw [hcontains, Bool.toNat_false] at hbalance
      -- the one last event is queued, held by the control thread, or in the mailbox
      obtain ⟨event, hmem⟩ : ∃ event, event ∈ finals id s.pipeline.pendingEvents ++
          (finals id (s.control.getD []) ++ told) := by
        refine List.exists_mem_of_length_pos ?_
        simp only [List.length_append]
        omega
      refine ⟨event, ?_⟩
      rcases List.mem_append.1 hmem with hmem | hmem
      · obtain ⟨hin, hfinal⟩ := mem_finals.1 hmem
        exact ⟨List.mem_append_left _ hin, hfinal⟩
      rcases List.mem_append.1 hmem with hmem | hmem
      · obtain ⟨hin, hfinal⟩ := mem_finals.1 hmem
        exact ⟨List.mem_append_right _ (List.mem_append_left _ hin), hfinal⟩
      · have hin : event ∈ finals id (returned past) := htold ▸ List.mem_append_left _ hmem
        have hlast : told.getLast? = some event := by
          obtain rfl : told = [event] := by
            have hlength : told.length = 1 := by
              have := List.length_pos_of_mem hmem
              omega
            obtain ⟨a, rfl⟩ := List.length_eq_one_iff.1 hlength
            rw [List.mem_singleton.1 hmem]
          rfl
        refine ⟨List.mem_append_right _ (List.mem_append_right _ ?_), (mem_finals.1 hin).2⟩
        rw [hholds.last, hlast]
        exact List.mem_singleton_self event
  reported id w report hw hend := (h.custody id w hw).report report hend
  ended id w report hw hend := (h.custody id w hw).gone (by rw [hend]; rfl)

/-- In every interleaving of workers, control thread and other callers, whenever one looks: no last
event is lost and none is kept for nobody, a goal is ended as its session was, and once its worker
has ended a Move has no session and no tick moves anything for it. -/
theorem move_actions (B : Platform β) (lib : MathLib) (settings : MoveSettings)
    {p : CommandPipeline β} (hinit : Initial p) (moves : String → Prop) (events : List MoveEvent)
    (hlaunch : (moveMachine B lib settings).Meets (Launchable moves) { pipeline := p } events) :
    MovesKept (pipelineStages B lib settings { pipeline := p } events)
        ((moveMachine B lib settings).run { pipeline := p } events) ∧
      ∀ before after, events = before ++ after → ∀ (id : String) w report,
        ((moveMachine B lib settings).run { pipeline := p } before).workers[id]? = some w →
        w.stage = .ended report →
        ∀ g ∈ pipelineStages B lib settings
          ((moveMachine B lib settings).run { pipeline := p } before) after,
        ∀ c ∈ g.output.commands, c.sessionId ≠ id := by
  have hstart := hinit.ledger moves
  constructor
  · exact (hstart.run hlaunch).kept
  · rintro before after rfl id w report hw hend
    obtain ⟨hbefore, hafter⟩ := (Machine.meets_append _ before after).1 hlaunch
    exact (hstart.run hbefore).ended_still hend hafter hw

end

namespace Fixture

/-- One channel for the Moves of all groups, and the id of the Move below. -/
def moveChannel : ChannelConfig := { name := "mj", kind := .moveJ, group := "" }

def goalId : Vector UInt8 16 := Vector.replicate 16 0

def moveSettings : MoveSettings where
  groups := modelOf
  forwardKinematics _ := .Failure ⟨.internalError, "no kinematics"⟩

/-- What a worker finds at every step here: fresh feedback at rest, and a clock that stands. -/
def armAtRest (canceling : Bool) : MoveAnswers where
  moment := ⟨0, 0, some (Fixture.feedback 0), fun _ _ => .error ""⟩
  isCanceling := canceling

def leftGoal : MoveGoal :=
  .moveJ "left" { name := leftJoints, position := [.fin (1 / 10), .fin (1 / 10)] } {}

/-- A Move that its client cancels while it runs. -/
def withdrawnMove : List MoveEvent :=
  let step (canceling : Bool) := MoveEvent.worker (sessionIdOf "mj" goalId) (armAtRest canceling)
  [.call (endpoint "mj@left" .moveJ "left" 10), .launch moveChannel goalId leftGoal 0,
    step false, step false, step false, step false, .tick (Fixture.feedback 1) (milliseconds 1),
    .deliver, step true, step true, step true, .tick (Fixture.feedback 2) (milliseconds 2), .deliver,
    step true, step true]

def moveRun : MoveThreads FakeSdk :=
  (moveMachine FakeSdk.platform.toPlatform mathLib moveSettings).run { pipeline := start } withdrawnMove

end Fixture

open Fixture in
theorem move_actions_canceled :
    ((moveRun.workers[sessionIdOf "mj" goalId]?).map (·.stage) = some (.ended (some
        { verdict := .canceled, status := ⟨.canceled, "session canceled"⟩ }))) ∧
      moveRun.mailboxes.waiting.isEmpty = true ∧
      MovesKept (pipelineStages FakeSdk.platform.toPlatform mathLib moveSettings
        { pipeline := start } withdrawnMove) moveRun := by
  refine ⟨by decide +kernel, by decide +kernel,
    (move_actions FakeSdk.platform.toPlatform mathLib moveSettings start_initial
      (· = sessionIdOf "mj" goalId) withdrawnMove ?_).1⟩
  simp only [withdrawnMove, Machine.meets_cons, Machine.meets_nil, Launchable, and_true, true_and]
  exact ⟨rfl, by decide +kernel⟩

end HumanoidMotion
