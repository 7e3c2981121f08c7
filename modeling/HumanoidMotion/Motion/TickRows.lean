import HumanoidMotion.Motion.Rows
/-
# What a tick does to the rows

A turn works on the row of its winner only. Between the start of the session in
the SDK and the bookkeeping of that start the row is out of order
(`TablesBut id`); every way out of that stretch ends the session or records it.

* `Turn.tables` — one turn, by its cases.
* `tick_tables` — opening, scheduling gap, deactivation, turns and closing.
-/

namespace HumanoidMotion

namespace Tick

variable {β : Type} {S : SessionPlatform β} {lib : MathLib} {ctx : TickContext} {e₀ : β}
  {apart : Prop}

section
variable {s s' : TickState β} {id : String} {session : Session} {selected : JointFeedback}
  {group : JointGroupModel}

/-! ## Steps that leave every row in order -/

theorem Moved.tables (hm : Moved S.toPlatform s s') (h : Tables apart S e₀ s.pipeline) :
    Tables apart S e₀ s'.pipeline := by
  obtain ⟨e, he, rfl⟩ := hm
  exact h.quiet rfl rfl rfl rfl rfl rfl he

/-- Only the goal of `id` may be new, and only when its session is a Move. -/
theorem Watched.tables {stored : Session} (hw : Watched S.toPlatform id session s s')
    (hfound : s.pipeline.sessions[id]? = some stored) (hkind : stored.kind = session.kind)
    (h : Tables apart S e₀ s.pipeline) : Tables apart S e₀ s'.pipeline := by
  obtain ⟨e, m, he, -, hservo, hgoals, rfl⟩ := hw
  refine h.of_rows rfl rfl h.arbiter he.lawful fun k => ?_
  have hrow := h.rows k
  have hmoved : rowAt S (withMonitor (s.withBackend e) m).pipeline k =
      { rowAt S s.pipeline k with goal := m.goals[k]? } := by
    simp only [rowAt, withMonitor, TickState.withPipeline, TickState.withBackend, S.alive_quiet he]
  rw [hmoved]
  by_cases hk : k = id
  · subst hk
    by_cases hs : isServo session.kind = true
    · rw [hservo hs]
      exact hrow
    · refine ⟨hrow.identity, hrow.claimed, hrow.unclaimed, hrow.leased, hrow.active, hrow.alive, ?_⟩
      intro goal _
      refine ⟨stored, hfound, fun _ => ?_⟩
      rw [hkind]
      exact Bool.eq_false_iff.2 hs
  · rw [hgoals k hk]
    exact hrow

/-! ## The row of the winner between its start and its bookkeeping -/

/-- Every row but that of `id` is in order. -/
structure TablesBut (apart : Prop) (S : SessionPlatform β) (e₀ : β) (id : String) (p : CommandPipeline β) :
    Prop where
  arbiter : p.arbiter.Ok
  rows : ∀ k, k ≠ id → RowOk apart p k (rowAt S p k)
  lawful : Lawful S e₀ p.backend

theorem TablesBut.of_tables {p : CommandPipeline β} (h : Tables apart S e₀ p) (id : String) :
    TablesBut apart S e₀ id p := ⟨h.arbiter, fun k _ => h.rows k, h.lawful⟩

/-- The other rows, with calls that neither start nor stop a session. -/
theorem TablesBut.quiet {p p' : CommandPipeline β} (h : TablesBut apart S e₀ id p)
    (hg : p'.groups = p.groups) (he : p'.endpoints = p.endpoints) (harb : p'.arbiter = p.arbiter)
    (hsessions : p'.sessions = p.sessions)
    (hactive : p'.activeBackendSessions = p.activeBackendSessions)
    (hgoals : p'.monitor.goals = p.monitor.goals)
    (hquiet : Quiet S.toPlatform p.backend p'.backend) : TablesBut apart S e₀ id p' := by
  refine ⟨harb ▸ h.arbiter, fun k hk => ?_, h.lawful.trans hquiet.lawful⟩
  have hrow : rowAt S p' k = rowAt S p k := by
    simp only [rowAt, hsessions, harb, hactive, hgoals, S.alive_quiet hquiet]
  rw [hrow]
  exact (h.rows k hk).transfer hg fun _ _ hp => by rw [he]; exact hp

theorem Moved.but (hm : Moved S.toPlatform s s') (h : TablesBut apart S e₀ id s.pipeline) :
    TablesBut apart S e₀ id s'.pipeline := by
  obtain ⟨e, he, rfl⟩ := hm
  exact h.quiet rfl rfl rfl rfl rfl rfl he

/-- Terminating the session of the row puts it in order. -/
theorem TablesBut.terminate {p : CommandPipeline β} (h : TablesBut apart S e₀ id p)
    (hfound : p.sessions[id]? = some session) (state : SessionState) (status : MotionStatus)
    (preserve : Bool) : Tables apart S e₀ (p.terminate S.toPlatform id state status preserve) := by
  refine ⟨terminate_arbiterOk h.arbiter id state status preserve, fun k => ?_,
    h.lawful.trans (terminate_lawful p id state status preserve)⟩
  have hrow : RowOk apart p k (rowAt S (p.terminate S.toPlatform id state status preserve) k) := by
    rw [rowAt_terminate]
    split
    · rename_i hk
      rw [hk, Row.ended_of_some hfound]
      exact .cleared p id
    · rename_i hk
      exact h.rows k hk
  exact hrow.transfer (by simp) (by simp)

theorem issueHold_but (h : TablesBut apart S e₀ id s.pipeline) (session : Session) (limit : SteadyTime)
    (hold : Option JointCommand) :
    TablesBut apart S e₀ id (issueHold s session limit hold).pipeline := by
  cases hold with
  | none => exact h
  | some command => exact h.quiet rfl rfl rfl rfl rfl rfl (.refl _)

theorem noteRetry_but (h : TablesBut apart S e₀ id s.pipeline) (endpoint : String)
    (retry : Option SteadyTime) : TablesBut apart S e₀ id (noteRetry s endpoint retry).pipeline := by
  cases retry with
  | none => exact h
  | some time => exact h.quiet rfl rfl rfl rfl rfl rfl (.refl _)

theorem Stopped.tables (hs : Stopped S.toPlatform lib ctx id session selected s s')
    (hfound : s.pipeline.sessions[id]? = some session) (h : TablesBut apart S e₀ id s.pipeline) :
    Tables apart S e₀ s'.pipeline := by
  obtain ⟨s₁, s₂, hold, limit, retry, status, hm, -, -, -, hm', -⟩ := hs
  have hbut : TablesBut apart S e₀ id (noteRetry s₂ session.endpointName retry).pipeline :=
    noteRetry_but (hm'.but (issueHold_but (hm.but h) session limit hold)) _ retry
  have hstored : (noteRetry s₂ session.endpointName retry).pipeline.sessions[id]? =
      some session := by
    rw [noteRetry_sessions, hm'.sessions, issueHold_sessions, hm.sessions]
    exact hfound
  exact hbut.terminate hstored _ _ _

/-- Every end of the turn's session puts its row in order. -/
theorem Ended.tables (he : Ended S.toPlatform lib ctx id session selected s s')
    (hfound : s.pipeline.sessions[id]? = some session) (h : TablesBut apart S e₀ id s.pipeline) :
    Tables apart S e₀ s'.pipeline := by
  cases he with
  | dropped s₁ status hm =>
    exact (hm.but h).terminate (by rw [hm.sessions]; exact hfound) _ _ _
  | stopped s' hs => exact hs.tables hfound h

/-- The start of a session that is not alive: the SDK may have added it, and no other. -/
theorem started_but (h : Tables apart S e₀ s.pipeline) (hfound : s.pipeline.sessions[id]? = some session)
    (hidle : session.backendStarted = false) (selected : JointFeedback) :
    TablesBut apart S e₀ id
      (s.withBackend (startAnswer S.toPlatform s id session selected).2).pipeline := by
  have hdead : ¬ S.alive s.pipeline.backend id := by
    refine ((h.rows id).idle ?_).2
    intro stored hstored
    obtain rfl : session = stored := Option.some.inj (hfound.symm.trans hstored)
    exact hidle
  refine ⟨h.arbiter, fun k hk => ?_,
    h.lawful.trans (LawfulCall.startSession _ _ _ _ _ hdead).lawful⟩
  have hrow : rowAt S (s.withBackend (startAnswer S.toPlatform s id session selected).2).pipeline k =
      rowAt S s.pipeline k := by
    have halive : S.alive (startAnswer S.toPlatform s id session selected).2 k =
        S.alive s.pipeline.backend k := by
      rw [startAnswer, S.alive_startSession]
      simp [hk]
    simp only [rowAt, TickState.withBackend, TickState.withPipeline, halive]
  rw [hrow]
  exact (h.rows k).transfer rfl fun _ _ hp => hp

theorem markStarted_row (s : TickState β) (id : String) (started : Session) (k : String) :
    rowAt S (markStarted s id started).pipeline k = if k = id
      then { rowAt S s.pipeline k with session := some started, active := true }
      else rowAt S s.pipeline k := by
  by_cases hk : k = id
  · subst hk
    simp [rowAt, markStarted, TickState.withPipeline, TickState.pushEvent]
  · simp [rowAt, markStarted, TickState.withPipeline, TickState.pushEvent,
      Std.TreeMap.getElem?_insert, Std.TreeSet.contains_insert, hk, Ne.symm hk]

/-- Recording the start puts the row in order again. -/
theorem Running.tables {session' : Session} (h : Tables apart S e₀ s.pipeline) (hstored : Stored s id session)
    (hrun : Running S.toPlatform ctx id session group selected s session' s') :
    Tables apart S e₀ s'.pipeline := by
  cases hrun with
  | kept => exact h
  | launched s₁ s' hidle _ hanswer hmoved hgoal =>
    have hbut := hmoved.but (started_but h hstored.found hidle selected)
    have hrow := h.rows id
    obtain ⟨e, hquiet, rfl⟩ := hmoved
    have halive : S.alive e id := by
      refine (S.alive_quiet hquiet).2 ?_
      exact (S.alive_startSession _ _ _ _ _ _).2 (.inr ⟨rfl, hanswer⟩)
    have hsame : session.SameClient (startedSession session group selected) :=
      ⟨rfl, rfl, rfl, rfl, rfl, rfl⟩
    refine hgoal.tables (markStarted_found _ id _) rfl ⟨h.arbiter, fun k => ?_, hbut.lawful⟩
    refine RowOk.transfer (p := s.pipeline) ?_ rfl fun _ _ hp => hp
    rw [markStarted_row]
    split
    · rename_i hk
      subst hk
      constructor
      · rintro ha _ ⟨rfl⟩
        exact (hrow.identity ha session hstored.found).client hsame
      · rintro _ ⟨rfl⟩
        obtain ⟨state, hstate, hkind, hagrees⟩ := hrow.claimed session hstored.found
        exact ⟨state, hstate, hkind, fun ha => (hagrees ha).client hsame⟩
      · intro hs
        cases hs
      · exact hrow.leased
      · simp [startedSession]
      · exact ⟨fun _ => rfl, fun _ => halive⟩
      · intro goal hg
        obtain ⟨old, hold, hmove⟩ := hrow.goal goal hg
        obtain rfl : session = old := Option.some.inj (hstored.found.symm.trans hold)
        exact ⟨_, rfl, hmove⟩
    · rename_i hk
      exact (hbut.rows k hk).transfer rfl fun _ _ hp => hp

/-! ## A whole turn -/

theorem emitted_tables {limit : SteadyTime} {command : JointCommand} (h : Tables apart S e₀ s.pipeline)
    (hstored : Stored s id session) :
    Tables apart S e₀ (emitted lib s id session group limit command).pipeline := by
  rw [emitted_pipeline]
  exact h.progress hstored.found (updatedSession lib session group command)
    ⟨rfl, rfl, rfl, rfl, rfl, rfl⟩ rfl rfl rfl rfl rfl rfl rfl rfl

theorem Concluded.tables (hc : Concluded S.toPlatform lib ctx id session selected s s')
    (hstored : Stored s id session) (h : Tables apart S e₀ s.pipeline) : Tables apart S e₀ s'.pipeline := by
  cases hc with
  | goesOn s' hw => exact hw.tables hstored.found rfl h
  | failed s₁ s' hw _ hstop =>
    have h₁ : Tables apart S e₀ s₁.popCommand.pipeline := hw.tables hstored.found rfl h
    exact hstop.tables (hstored.watched hw).pop.found (.of_tables h₁ id)
  | succeeded s₁ hw _ => exact (hw.tables hstored.found rfl h).terminate id _ _ _

/-- The turn of a winner leaves every row in order. -/
theorem Turn.tables (ht : Turn S.toPlatform lib ctx id s s') (h : Tables apart S e₀ s.pipeline) :
    Tables apart S e₀ s'.pipeline := by
  cases ht with
  | missing => exact h
  | waits session s' _ _ _ hmoved => exact hmoved.tables h
  | refused session selected s' hstored hended => exact hended.tables hstored.found (.of_tables h id)
  | startEnds session group selected s₁ s' hstored hmoved _ hidle _ hended =>
    have hstored₁ := hstored.moved hmoved
    exact hended.tables hstored₁.found (started_but (hmoved.tables h) hstored₁.found hidle selected)
  | runEnds session session' group selected s₁ s₂ s' hstored hmoved hmeasured hrun hended =>
    have hstored₁ := hstored.moved hmoved
    have hstored₂ := (hrun.stored hstored₁ (hmeasured.fixed hmoved.fixed)).1
    exact hended.tables hstored₂.found (.of_tables (hrun.tables (hmoved.tables h) hstored₁) id)
  | emits session session' group selected s₁ s₂ s₃ s' limit command hstored hmoved hmeasured hrun
      hmoved' happroved _ hconcluded =>
    have hstored₁ := hstored.moved hmoved
    obtain ⟨hstored₂, -, hmeasured₂⟩ := hrun.stored hstored₁ (hmeasured.fixed hmoved.fixed)
    have hstored₃ := hstored₂.moved hmoved'
    have h₃ := hmoved'.tables (hrun.tables (hmoved.tables h) hstored₁)
    exact hconcluded.tables (hstored₃.emitted hmeasured₂.names happroved.wellFormed)
      (emitted_tables h₃ hstored₃)

theorem Turns.tables {ids : List String} (ht : Turns S.toPlatform lib ctx ids s s')
    (h : Tables apart S e₀ s.pipeline) : Tables apart S e₀ s'.pipeline :=
  ht.invariant (I := fun s => Tables apart S e₀ s.pipeline) (fun _ _ _ => Turn.tables) h

/-! ## Around the turns -/

theorem gapped_tables {p : CommandPipeline β} (h : Tables apart S e₀ p) (id : String) :
    Tables apart S e₀ (gapped S.toPlatform p id) := by
  unfold gapped
  split
  · exact h
  · rename_i session hfound
    split
    · exact h.terminate id _ _ _
    · refine h.pause id rfl rfl rfl (fun k => ?_) rfl rfl rfl
      simp only [pauseServo, Std.TreeMap.getElem?_insert, Std.LawfulEqOrd.compare_eq_iff_eq,
        eq_comm (a := id)]
      split
      · rename_i hk
        rw [hk, hfound]
        rfl
      · rfl

theorem deactivate_tables {p : CommandPipeline β} (h : Tables apart S e₀ p) (id : String) :
    Tables apart S e₀ (deactivate S.toPlatform p id) := by
  unfold deactivate
  split
  · rename_i hnone
    refine h.pause id rfl rfl rfl (fun k => ?_) rfl rfl rfl
    split
    · rename_i hk
      rw [hk]
      change p.sessions[id]? = _
      rw [hnone]
      rfl
    · rfl
  · rename_i session hfound
    refine h.pause id rfl rfl rfl (fun k => ?_) rfl rfl rfl
    simp only [Std.TreeMap.getElem?_insert, Std.LawfulEqOrd.compare_eq_iff_eq, eq_comm (a := id)]
    split
    · rename_i hk
      rw [hk, hfound]
      rfl
    · rfl

theorem foldl_tables {α : Type} {f : CommandPipeline β → α → CommandPipeline β}
    (hf : ∀ p a, Tables apart S e₀ p → Tables apart S e₀ (f p a)) :
    ∀ (as : List α) (p : CommandPipeline β), Tables apart S e₀ p → Tables apart S e₀ (as.foldl f p)
  | [], _, h => h
  | a :: as, p, h => foldl_tables hf as _ (hf p a h)

theorem opened_tables (gap : Bool) (winners : List String) (h : Tables apart S e₀ s.pipeline) :
    Tables apart S e₀ (opened S.toPlatform gap winners s).pipeline := by
  have hgap : Tables apart S e₀ (afterGap S.toPlatform gap s.pipeline) := by
    unfold afterGap
    split
    · exact foldl_tables (fun p id h => gapped_tables h id) _ _ h
    · exact h
  have hflush : Tables apart S e₀ (s.withPipeline (afterGap S.toPlatform gap s.pipeline)).flush.pipeline :=
    hgap.quiet rfl rfl rfl rfl rfl rfl (.refl _)
  exact foldl_tables (fun p id h => deactivate_tables h id) _ _ hflush

theorem closed_tables (h : Tables apart S e₀ s.pipeline) :
    Tables apart S e₀ (closed S.toPlatform ctx s).pipeline := by
  have hread : Tables apart S e₀ (s.withBackend (S.steadyNow s.pipeline.backend).2).pipeline :=
    h.quiet rfl rfl rfl rfl rfl rfl (QuietCall.steadyNow _).quiet
  have hdrop : Tables apart S e₀ (dropLate S.toPlatform (s.withBackend (S.steadyNow s.pipeline.backend).2)
      (ctx.now + ((S.steadyNow s.pipeline.backend).1 - ctx.enteredAt))).pipeline :=
    foldl_tables (fun p command h => h.terminate command.sessionId _ _ _) _ _ hread
  exact hdrop.quiet rfl rfl rfl rfl rfl rfl (.refl _)

end

end Tick

open Tick

variable {β : Type} {S : SessionPlatform β} {lib : MathLib} {e₀ : β} {apart : Prop}

/-- The opening of a tick ends the sessions whose claims it takes away. -/
theorem tickOpening_tables {s : CommandPipeline β} (h : Tables apart S e₀ s) (now : SteadyTime) :
    Tables apart S e₀ (s.tickOpening S.toPlatform now).pipeline := by
  have hread : Quiet S.toPlatform s.backend (s.startTick S.toPlatform now).pipeline.backend :=
    (QuietCall.steadyNow _).quiet.trans (QuietCall.steadyNow _).quiet
  have hstart : Tables apart S e₀ (s.startTick S.toPlatform now).pipeline :=
    h.quiet rfl rfl rfl rfl rfl rfl hread
  have hopening : (s.tickOpening S.toPlatform now).pipeline =
      ((s.startTick S.toPlatform now).pipeline.withArbiter
        (s.arbiter.live (s.startTick S.toPlatform now).startedAt)).settle S.toPlatform []
        (s.arbiter.expiredServos (s.startTick S.toPlatform now).startedAt) := rfl
  rw [hopening]
  refine hstart.of_settled ((s.startTick S.toPlatform now).pipeline.withArbiter
    (s.arbiter.live (s.startTick S.toPlatform now).startedAt)) rfl rfl (h.arbiter.live _) rfl
    rfl rfl rfl rfl fun k => (hstart.rows k).arbitrated ?_ ?_
  · intro hgone
    obtain ⟨state, hk, hexp⟩ := (s.arbiter.mem_expiredServos _).1 (hgone.resolve_left (by simp))
    simp [hk, hexp]
  · intro hstay
    rw [ControlArbiter.live_claims]
    change _ = s.arbiter.claims[k]?
    cases hk : s.arbiter.claims[k]? with
    | none => rfl
    | some state =>
      have hlive : state.expired (s.startTick S.toPlatform now).startedAt = false :=
        Bool.eq_false_iff.2 fun hexp =>
          hstay (.inr ((s.arbiter.mem_expiredServos _).2 ⟨state, hk, hexp⟩))
      simp [Option.filter, hlive]

theorem tick_tables {s : CommandPipeline β} (hsound : Sound s) (h : Tables apart S e₀ s)
    (feedback : JointFeedback) (now : SteadyTime) :
    Tables apart S e₀ (s.tick S.toPlatform lib feedback now).2 := by
  obtain ⟨s₂, hrun, htick⟩ := tick_run S.toPlatform lib s feedback now hsound
  rw [htick]
  exact closed_tables (hrun.turns.tables (opened_tables _ _ (tickOpening_tables h now)))

end HumanoidMotion
