import HumanoidMotion.Motion.Steps
/-
# What one call can do

* `Turns` — the turns of the winners, one after the other.
* `tick_run` — a tick is its opening, the turns and its closing, and it returns:
  no lookup in it throws.
* `exec_elems` — every public function is a chain of elementary steps.
* `Sound` holds in every reachable state (`reaches_sound`).
-/

namespace HumanoidMotion

namespace Tick

variable {β : Type} (B : Platform β) (lib : MathLib) (ctx : TickContext)

/-- One active session after a scheduling gap: a Move ends, a servo is paused. -/
def gapped (p : CommandPipeline β) (id : String) : CommandPipeline β :=
  match p.sessions[id]? with
  | none => p
  | some session =>
    if isMove session.kind then p.terminate B id .aborted gapStatus else pauseServo B p id session

def afterGap (gap : Bool) (p : CommandPipeline β) : CommandPipeline β :=
  if gap then p.activeBackendSessions.toList.foldl (gapped B) p else p

/-- The tick when the first winner has its turn. -/
def opened (gap : Bool) (winners : List String) (s : TickState β) : TickState β :=
  let flushed := (s.withPipeline (afterGap B gap s.pipeline)).flush
  flushed.withPipeline ((activeOutside flushed.pipeline winners).foldl (deactivate B)
    flushed.pipeline)

/-- The tick when the last winner has had its turn. -/
def closed (s : TickState β) : TickState β :=
  let reading := B.steadyNow s.pipeline.backend
  (dropLate B (s.withBackend reading.2) (ctx.now + (reading.1 - ctx.enteredAt))).flush

/-- The turns of the winners in rank order. -/
inductive Turns : List String → TickState β → TickState β → Prop
  | nil (s : TickState β) : Turns [] s s
  | cons (id : String) (ids : List String) (s s' s'' : TickState β) (h : Turn B lib ctx id s s')
      (hs : Turns ids s' s'') : Turns (id :: ids) s s''

variable {B lib ctx} {op : Op}

theorem Turns.elems (hop : op.isTick = true) {ids : List String} {s s' : TickState β}
    (h : Turns B lib ctx ids s s') : Elems B op s s' := by
  induction h with
  | nil s => exact .refl s
  | cons id ids s s' s'' h _ ih => exact (h.elems hop).trans ih

/-- What every turn keeps, the turns keep. -/
theorem Turns.invariant {I : TickState β → Prop}
    (hstep : ∀ id s s', Turn B lib ctx id s s' → I s → I s') {ids : List String}
    {s s' : TickState β} (h : Turns B lib ctx ids s s') (hs : I s) : I s' := by
  induction h with
  | nil => exact hs
  | cons id ids s s' s'' h _ ih => exact ih (hstep id s s' h hs)

/-! ## The parts of a tick as elementary steps -/

theorem silent_erase_active (p : CommandPipeline β) {e : β} (h : Calls B p.backend e)
    (sources : StringMap String) (id : String) :
    Silent B p { p with
      backend := e
      activeBackendSessions := p.activeBackendSessions.erase id
      lastSourceByGroup := sources } :=
  ⟨h, rfl, rfl, rfl, rfl, rfl, rfl, rfl, rfl, rfl, rfl, rfl, rfl, fun _ h => (Std.TreeSet.mem_erase.1 h).2⟩

/-- The session is stopped in the SDK and stays stored. -/
theorem idle_elems (s : TickState β) {id : String} {session : Session} (h : Sound s.pipeline)
    (hfound : s.pipeline.sessions[id]? = some session) {e : β} (he : Calls B s.pipeline.backend e)
    (sources : StringMap String) : Elems B op s (s.withPipeline { s.pipeline with
      backend := e
      activeBackendSessions := s.pipeline.activeBackendSessions.erase id
      lastSourceByGroup := sources
      sessions := s.pipeline.sessions.insert id { session with backendStarted := false } }) := by
  have hok := h.sessionOk id session hfound
  have hidle : SessionOk s.pipeline id { session with backendStarted := false } :=
    ⟨hok.key, hok.nonempty, hok.endpoint, hok.group, fun hs => (by cases hs), hok.goal, hok.monitor⟩
  let s₁ := s.withPipeline { s.pipeline with
    backend := e
    activeBackendSessions := s.pipeline.activeBackendSessions.erase id
    lastSourceByGroup := sources }
  have hstop : Elems B op s s₁ := withPipeline_elems _ (silent_erase_active s.pipeline he sources id)
  have hpause : Elem B op s₁ (s₁.withPipeline { s₁.pipeline with
      sessions := s₁.pipeline.sessions.insert id { session with backendStarted := false } }) :=
    .progress s₁ id session _ hfound ⟨rfl, rfl, rfl, rfl, rfl, rfl⟩ (hidle.transfer rfl rfl rfl)
  exact hstop.trans hpause.elems

theorem gapped_elems (s : TickState β) (id : String) (h : Sound s.pipeline) :
    Elems B op s (s.withPipeline (gapped B s.pipeline id)) := by
  unfold gapped
  split
  · exact .refl s
  · rename_i session hfound
    split
    · exact (Elem.terminate s id .aborted gapStatus false rfl nofun).elems
    · exact idle_elems s h hfound (AnyCall.stopSession _ _).calls _

theorem deactivate_elems (s : TickState β) (id : String) (h : Sound s.pipeline) :
    Elems B op s (s.withPipeline (deactivate B s.pipeline id)) := by
  unfold deactivate
  split
  · exact withPipeline_elems _
      (silent_erase_active s.pipeline (AnyCall.stopSession _ _).calls s.pipeline.lastSourceByGroup id)
  · rename_i session hfound
    exact idle_elems s h hfound (AnyCall.stopSession _ _).calls _

/-- A loop over ids whose turns are elementary steps. -/
theorem foldl_elems {f : CommandPipeline β → String → CommandPipeline β}
    (hf : ∀ (s : TickState β) id, Sound s.pipeline →
      Elems B op s (s.withPipeline (f s.pipeline id))) :
    ∀ (ids : List String) (s : TickState β), Sound s.pipeline →
      Elems B op s (s.withPipeline (ids.foldl f s.pipeline))
  | [], s, _ => .refl s
  | id :: ids, s, h =>
    (hf s id h).trans (foldl_elems hf ids _ ((hf s id h).sound h))

theorem opened_elems (gap : Bool) (winners : List String) (s : TickState β)
    (h : Sound s.pipeline) : Elems B op s (opened B gap winners s) := by
  have hgap : Elems B op s (s.withPipeline (afterGap B gap s.pipeline)) := by
    unfold afterGap
    split
    · exact foldl_elems (fun s id h => gapped_elems s id h) _ s h
    · exact .refl s
  have hflush : Elems B op s (s.withPipeline (afterGap B gap s.pipeline)).flush :=
    hgap.trans (Elem.flush _).elems
  exact hflush.trans (foldl_elems (fun s id h => deactivate_elems s id h) _ _ (hflush.sound h))

theorem dropLate_elems (s : TickState β) (finishedAt : SteadyTime) :
    Elems B op s (dropLate B s finishedAt) := by
  have hend : ∀ (late : List JointCommand) (s : TickState β),
      Elems B op s (s.withPipeline (late.foldl (fun p command =>
        p.terminate B command.sessionId .aborted expiredWhileComputing) s.pipeline)) := by
    intro late
    induction late with
    | nil => exact fun s => .refl s
    | cons command late ih =>
      intro s
      exact (Elem.terminate s command.sessionId .aborted expiredWhileComputing false rfl
        nofun).elems.trans (ih _)
  exact (hend _ s).trans (Elem.drop _ _ List.filter_sublist).elems

theorem closed_elems (s : TickState β) : Elems B op s (closed B ctx s) :=
  ((withBackend_elems (QuietCall.steadyNow _).quiet.calls).trans (dropLate_elems _ _)).trans
    (Elem.flush _).elems

/-! ## The tick returns -/

theorem wp_gapStep {E : Exit → TickState β → Prop} {Q : Unit → TickState β → Prop}
    (s : TickState β) (id : String) {session : Session}
    (hfound : s.pipeline.sessions[id]? = some session)
    (hgo : Q () (s.withPipeline (gapped B s.pipeline id))) :
    Prog.wp (gapStep B id) Q E s := by
  unfold gapped at hgo
  rw [hfound] at hgo
  unfold gapStep
  simp only [Prog.wp_bind, Prog.wp_get, wp_at? hfound, Prog.wp_ite, wp_terminate, Prog.wp_modify]
  simp only at hgo
  split
  · rename_i hmove
    rwa [if_pos hmove] at hgo
  · rename_i hmove
    rwa [if_neg hmove] at hgo

/-- A session stays stored while another one is ended or paused. -/
theorem gapped_stored (p : CommandPipeline β) (id k : String) (hk : k ≠ id) :
    (gapped B p id).sessions[k]? = p.sessions[k]? := by
  unfold gapped
  split
  · rfl
  · split
    · rw [CommandPipeline.terminate_sessions, if_neg hk]
    · simp [pauseServo, Std.TreeMap.getElem?_insert, Ne.symm hk]

theorem gapLoop_spec {E : Exit → TickState β → Prop} (gap : Bool) (s : TickState β)
    (h : Sound s.pipeline) :
    Prog.wp (gapLoop B gap) (fun _ s' => s' = s.withPipeline (afterGap B gap s.pipeline)) E s := by
  unfold gapLoop afterGap
  simp only [Prog.wp_bind, Prog.wp_get, Prog.wp_ite, Prog.wp_pure]
  split
  · -- what is left of the list is still stored, and ends where the pure loop ends
    have hnodup : s.pipeline.activeBackendSessions.toList.Nodup :=
      s.pipeline.activeBackendSessions.distinct_toList.imp fun h => by simpa using h
    refine (Prog.wp_forM (gapStep B) (fun ids s₁ => ids.Nodup ∧
      (∀ id ∈ ids, ∃ session, s₁.pipeline.sessions[id]? = some session) ∧
      s₁.withPipeline (ids.foldl (gapped B) s₁.pipeline) =
        s.withPipeline (s.pipeline.activeBackendSessions.toList.foldl (gapped B) s.pipeline))
      ?_ _ s ⟨hnodup, fun id hid => h.activeStored id (by simpa using hid), rfl⟩).imp
      (fun _ s' hs' => hs'.2.2) (fun _ _ h => h)
    rintro id ids s₁ ⟨hnd, hstored, heq⟩
    obtain ⟨session, hfound⟩ := hstored id List.mem_cons_self
    refine wp_gapStep s₁ id hfound ⟨(List.nodup_cons.1 hnd).2, fun k hk => ?_, heq⟩
    have hne : k ≠ id := fun hki => (List.nodup_cons.1 hnd).1 (hki ▸ hk)
    obtain ⟨session', hfound'⟩ := hstored k (List.mem_cons_of_mem _ hk)
    exact ⟨session', (gapped_stored s₁.pipeline id k hne).trans hfound'⟩
  · rfl

/-- The winners have had their turns. -/
def Turned (B : Platform β) (lib : MathLib) (ctx : TickContext) (ids : List String)
    (s s' : TickState β) : Prop := Prog.exec (ids.forM (turn B lib ctx)) s = (.ok (), s')

theorem Turned.nil {s s' : TickState β} : Turned B lib ctx [] s s' ↔ s' = s := by
  change ((.ok (), s) : Except Exit Unit × TickState β) = (.ok (), s') ↔ _
  rw [Prod.mk.injEq, eq_self_iff_true, true_and, eq_comm]

theorem Turned.cons {id : String} {ids : List String} {s s' : TickState β} :
    Turned B lib ctx (id :: ids) s s' ↔
      ∃ s₁, (turn B lib ctx id).exec s = (.ok (), s₁) ∧ Turned B lib ctx ids s₁ s' := by
  change Prog.exec (turn B lib ctx id >>= fun _ => ids.forM (turn B lib ctx)) s = _ ↔ _
  rw [Prog.exec_bind]
  rcases (turn B lib ctx id).exec s with ⟨e | ⟨⟩, s₁⟩ <;> simp [Turned]

theorem Turned.append {ids ids' : List String} {s s' : TickState β} :
    Turned B lib ctx (ids ++ ids') s s' ↔
      ∃ s₁, Turned B lib ctx ids s s₁ ∧ Turned B lib ctx ids' s₁ s' := by
  induction ids generalizing s with
  | nil => simp [Turned.nil]
  | cons id ids ih =>
    simp only [List.cons_append, Turned.cons, ih]
    constructor
    · rintro ⟨s₁, h, s₂, h', h''⟩
      exact ⟨s₂, ⟨s₁, h, h'⟩, h''⟩
    · rintro ⟨s₂, ⟨s₁, h, h'⟩, h''⟩
      exact ⟨s₁, h, s₂, h', h''⟩

/-- What each turn does, one after the other. -/
theorem Turned.chain {I : TickState β → Prop} {T : String → TickState β → TickState β → Prop}
    (hstep : ∀ id s, I s →
      Prog.wp (turn B lib ctx id) (fun _ s' => T id s s' ∧ I s') (fun _ _ => False) s)
    {ids : List String} {s s' : TickState β} (h : Turned B lib ctx ids s s') (hs : I s) :
    Prog.Chain T ids s s' ∧ I s' :=
  (Prog.wp_forM_chain (turn B lib ctx) I hstep ids s hs).exec_ok h

theorem turn_sound (id : String) (s : TickState β) (h : Sound s.pipeline) :
    Prog.wp (turn B lib ctx id) (fun _ s' => Turn B lib ctx id s s' ∧ Sound s'.pipeline)
      (fun _ _ => False) s := by
  refine (turn_turn fun session hf => h.sessionOk id session hf).imp ?_ fun _ _ h => h
  intro _ s' hturn
  have helems : Elems B (.tick ctx.feedback ctx.now) s s' := hturn.elems rfl
  exact ⟨hturn, helems.sound h⟩

theorem Turned.turns {ids : List String} {s s' : TickState β} (h : Turned B lib ctx ids s s')
    (hs : Sound s.pipeline) : Turns B lib ctx ids s s' := by
  obtain ⟨hchain, -⟩ := h.chain turn_sound hs
  clear h hs
  induction hchain with
  | nil s => exact .nil s
  | cons id ids s s₁ s' hturn _ ih => exact .cons id ids s s₁ s' hturn ih

/-- From a sound opening the winners' turns are taken and the tick is closed; nothing throws. -/
theorem mainLoop_spec (gap : Bool) (winners : List String) (s : TickState β) (h : Sound s.pipeline) :
    Prog.wp (mainLoop B lib ctx gap winners) (fun _ s' => ∃ s₂,
      Turned B lib ctx winners (opened B gap winners s) s₂ ∧ s' = closed B ctx s₂)
      (fun _ _ => False) s := by
  unfold mainLoop
  refine (gapLoop_spec gap s h).bind ?_
  rintro _ _ rfl
  simp only [Prog.wp_bind, Prog.wp_modify]
  have hopened : Elems B (.tick ctx.feedback ctx.now) s (opened B gap winners s) :=
    opened_elems gap winners s h
  have hturns := Prog.wp_forM_chain (turn B lib ctx) (fun s => Sound s.pipeline) turn_sound winners
    (opened B gap winners s) (hopened.sound h)
  exact hturns.exec.imp (fun _ s₂ h₂ => ⟨s₂, h₂.1, rfl⟩) fun _ _ h => h

end Tick

open Tick

variable {β : Type} {B : Platform β} {lib : MathLib}

/-- The states around the turns of one tick. -/
structure TickRun (B : Platform β) (lib : MathLib) (s : CommandPipeline β) (feedback : JointFeedback)
    (now : SteadyTime) (s₂ : TickState β) : Prop where
  turns : Turns B lib (s.tickContext B feedback now) (s.tickArbitration B now).winnerSessionIds
    (opened B (s.schedulingGap now) (s.tickArbitration B now).winnerSessionIds
      (s.tickOpening B now)) s₂

theorem endAll_elems {op : Op} {state : SessionState} (hstate : state.isTerminal = true)
    (status : MotionStatus) (ids : List String) (s : TickState β) :
    Elems B op s (s.withPipeline (s.pipeline.endAll B state status ids)) := by
  induction ids generalizing s with
  | nil => exact .refl s
  | cons id ids ih => exact (Elem.terminate s id state status false hstate nofun).elems.trans (ih _)

/-- The opening of a tick, once the events queued before have been moved to the result. -/
theorem tickFlushed_elems {op : Op} (s : CommandPipeline β) (now : SteadyTime) :
    Elems B op (TickState.flush { pipeline := s }) (s.tickOpening B now) := by
  have hstart : Elems B op (TickState.flush { pipeline := s })
      ((TickState.flush { pipeline := s }).withPipeline
        { (s.startTick B now).pipeline with
          arbiter := ((s.startTick B now).pipeline.arbiter.evaluate
            (s.startTick B now).startedAt).2 }) :=
    withPipeline_elems _
      ⟨((QuietCall.steadyNow _).quiet.trans (QuietCall.steadyNow _).quiet).calls, rfl, rfl, rfl, rfl,
        rfl, rfl, rfl, rfl, rfl, rfl, rfl, rfl, fun _ h => h⟩
  exact hstart.trans (endAll_elems rfl CommandPipeline.leaseExpiredStatus _ _)

theorem tickOpening_elems {op : Op} (s : CommandPipeline β) (now : SteadyTime) :
    Elems B op { pipeline := s } (s.tickOpening B now) :=
  (Elem.flush _).elems.trans (tickFlushed_elems s now)

variable (B lib) in
/-- A tick of a sound pipeline takes the turns of the winners and returns what its closing leaves. -/
theorem tick_turned (s : CommandPipeline β) (feedback : JointFeedback) (now : SteadyTime)
    (h : Sound s) : ∃ s₂,
      Turned B lib (s.tickContext B feedback now) (s.tickArbitration B now).winnerSessionIds
        (opened B (s.schedulingGap now) (s.tickArbitration B now).winnerSessionIds
          (s.tickOpening B now)) s₂ ∧
      s.tick B lib feedback now =
        (.ok { commands := (closed B (s.tickContext B feedback now) s₂).commands
               events := (closed B (s.tickContext B feedback now) s₂).events },
          (closed B (s.tickContext B feedback now) s₂).pipeline) := by
  have helems : Elems B (.tick feedback now) { pipeline := s } (s.tickOpening B now) :=
    tickOpening_elems s now
  have hspec : Prog.wp (mainLoop B lib (s.tickContext B feedback now) (s.schedulingGap now)
      (s.tickArbitration B now).winnerSessionIds) _ (fun _ _ => False) (s.tickOpening B now) :=
    mainLoop_spec _ _ _ (helems.sound h)
  obtain ⟨⟨⟩, _, hexec, s₂, hturned, rfl⟩ := hspec.exists
  refine ⟨s₂, hturned, ?_⟩
  unfold CommandPipeline.tick
  simp only
  rw [hexec]

theorem tickStarted_elems {s : CommandPipeline β} (h : Sound s) (feedback : JointFeedback)
    (now : SteadyTime) (winners : List String) : Elems B (.tick feedback now) { pipeline := s }
      (opened B (s.schedulingGap now) winners (s.tickOpening B now)) := by
  have hopening : Elems B (.tick feedback now) { pipeline := s } (s.tickOpening B now) :=
    tickOpening_elems s now
  exact hopening.trans (opened_elems (s.schedulingGap now) winners _ (hopening.sound h))

theorem tickStarted_sound {s : CommandPipeline β} (h : Sound s) (feedback : JointFeedback)
    (now : SteadyTime) (winners : List String) :
    Sound (opened B (s.schedulingGap now) winners (s.tickOpening B now)).pipeline :=
  (tickStarted_elems h feedback now winners).sound h

variable (B lib) in
theorem tick_run (s : CommandPipeline β) (feedback : JointFeedback) (now : SteadyTime)
    (h : Sound s) : ∃ s₂, TickRun B lib s feedback now s₂ ∧
      s.tick B lib feedback now =
        (.ok { commands := (closed B (s.tickContext B feedback now) s₂).commands
               events := (closed B (s.tickContext B feedback now) s₂).events },
          (closed B (s.tickContext B feedback now) s₂).pipeline) := by
  obtain ⟨s₂, hturned, htick⟩ := tick_turned B lib s feedback now h
  exact ⟨s₂, ⟨hturned.turns (tickStarted_sound h feedback now _)⟩, htick⟩

end HumanoidMotion
