import HumanoidMotion.Motion.Epoch
import HumanoidMotion.Motion.Outside
import HumanoidMotion.Motion.Seen
/-
# Joint limits over whole runs

Every command that a tick returns lies within the limits of its group, or recovers from
outside one: then the start of the session reported the recovery, and the joint is no
farther outside than in the command returned before it, nor than measured. So a joint that
a command has brought inside stays inside until the session is started anew.

* `Rests` — outside the turns a session is dropped, paused, or left where it stands.
* `Followed` — the result of a tick so far, against what was seen before it.
* `seenOf` — what the callers have seen, read off the past of a run.
* `LimitsKept`, `limits_kept` — every run.
-/

namespace HumanoidMotion

open Tick

variable {β : Type} {B : Platform β} {lib : MathLib}

/-! ## Outside the turns -/

/-- Every session that the SDK runs did so before, and stands where it stood. -/
def Rests (p p' : CommandPipeline β) : Prop :=
  ∀ (id : String) session, p'.sessions[id]? = some session → session.backendStarted = true →
    ∃ old, p.sessions[id]? = some old ∧ old.backendStarted = true ∧
      session.lastFinalTarget = old.lastFinalTarget ∧
      session.recoveringLimits = old.recoveringLimits ∧ session.groupName = old.groupName

section
variable {p p' p'' : CommandPipeline β}

theorem Rests.of_eq (h : p'.sessions = p.sessions) : Rests p p' :=
  fun _ session hs hstarted => ⟨session, h ▸ hs, hstarted, rfl, rfl, rfl⟩

theorem Rests.trans (h : Rests p p') (h' : Rests p' p'') : Rests p p'' := by
  intro id session hs hstarted
  obtain ⟨mid, hmid, hmidStarted, hlast, hflag, hgroup⟩ := h' id session hs hstarted
  obtain ⟨old, hold, holdStarted, hlast', hflag', hgroup'⟩ := h id mid hmid hmidStarted
  exact ⟨old, hold, holdStarted, hlast.trans hlast', hflag.trans hflag', hgroup.trans hgroup'⟩

theorem Tracked.rests {id : String} {seen : Seen} (h : Tracked id seen p) (hr : Rests p p')
    (hg : p'.groups = p.groups) : Tracked id seen p' := by
  intro session hs hstarted
  obtain ⟨old, hold, holdStarted, hlast, hflag, hgroup⟩ := hr id session hs hstarted
  rw [hlast, hflag, hgroup, hg]
  exact h old hold holdStarted

theorem rests_terminate (p : CommandPipeline β) (id : String) (state : SessionState)
    (status : MotionStatus) (preserve : Bool) : Rests p (p.terminate B id state status preserve) := by
  intro k session hk hstarted
  rw [CommandPipeline.terminate_sessions] at hk
  split at hk
  · cases hk
  · exact ⟨session, hk, hstarted, rfl, rfl, rfl⟩

variable (B) in
theorem outside_rests : Outside B Rests where
  refl _ := .of_eq rfl
  trans := .trans
  beside h := .of_eq h.sessions
  terminate := rests_terminate

/-- A session that is stored without having been started. -/
theorem rests_idle (id : String) (session : Session) (hidle : session.backendStarted = false)
    (h : ∀ k, k ≠ id → p'.sessions[k]? = p.sessions[k]?)
    (hself : ∀ stored, p'.sessions[id]? = some stored → stored = session ∨
      p.sessions[id]? = some stored) : Rests p p' := by
  intro k stored hk hstarted
  by_cases hid : k = id
  · subst hid
    rcases hself stored hk with rfl | hold
    · rw [hidle] at hstarted
      cases hstarted
    · exact ⟨stored, hold, hstarted, rfl, rfl, rfl⟩
  · exact ⟨stored, (h k hid) ▸ hk, hstarted, rfl, rfl, rfl⟩

theorem rests_gapped (p : CommandPipeline β) (id : String) : Rests p (gapped B p id) := by
  unfold gapped
  split
  · exact .of_eq rfl
  · rename_i session hfound
    split
    · exact rests_terminate p id _ _ _
    · refine rests_idle id { session with backendStarted := false } rfl
        (fun k hk => ?_) fun stored hs => .inl ?_
      · simp [pauseServo, Std.TreeMap.getElem?_insert, Ne.symm hk]
      · simpa [pauseServo, Std.TreeMap.getElem?_insert] using hs.symm

theorem rests_deactivate (p : CommandPipeline β) (id : String) : Rests p (deactivate B p id) := by
  unfold deactivate
  split
  · exact .of_eq rfl
  · rename_i session hfound
    refine rests_idle id { session with backendStarted := false } rfl
      (fun k hk => ?_) fun stored hs => .inl ?_
    · simp [Std.TreeMap.getElem?_insert, Ne.symm hk]
    · simpa [Std.TreeMap.getElem?_insert] using hs.symm

/-- A request that was accepted makes a session that the SDK does not run yet. -/
theorem Validated.idle {endpoint : String} {request : SessionRequest} {generation : Nat}
    {servo : Bool} {policy : EndpointPolicy} {session : Session}
    (h : Validated p endpoint request generation servo policy session) :
    session.backendStarted = false := by
  rw [(validateRequest_ok h.checked).session]

theorem MoveOutcome.rests {endpoint : String} {request : SessionRequest} {now : SteadyTime}
    {generation : Nat} {result : SubmissionResult}
    (h : MoveOutcome B p endpoint request now generation result p') : Rests p p' := by
  cases h with
  | refused => exact .of_eq rfl
  | lost => exact (Rests.of_eq rfl).trans ((outside_rests B).settle _ _ _)
  | admitted policy arbPolicy session _ arbitration hvalid _ _ _ settled hsettled =>
    have hsettle : Rests p settled := by
      rw [hsettled]
      exact (Rests.of_eq rfl).trans ((outside_rests B).settle _ _ _)
    refine hsettle.trans (rests_idle session.sessionId { session with submittedAt := now } hvalid.idle
      (fun k hk => ?_) fun stored hs => ?_)
    · change (settled.sessions.insertIfNew _ _)[k]? = _
      simp [Std.TreeMap.getElem?_insertIfNew, Ne.symm hk]
    · have hnew : (settled.sessions.insertIfNew session.sessionId
          { session with submittedAt := now })[session.sessionId]? = some stored := hs
      rw [Std.TreeMap.getElem?_insertIfNew] at hnew
      split at hnew
      · exact .inl (Option.some.inj hnew).symm
      · exact .inr hnew

theorem ServoBase.rests {policy : EndpointPolicy} {id : String} {receivedAt now : SteadyTime}
    {existing : Option Session} (h : ServoBase B p policy id receivedAt now existing p') :
    Rests p p' := by
  cases h with
  | fresh | kept => exact .of_eq rfl
  | renewed => exact rests_terminate p id _ _ false

theorem ServoOutcome.rests {endpoint : String} {request : SessionRequest}
    {receivedAt now : SteadyTime} {generation : Nat} {result : SubmissionResult}
    (h : ServoOutcome B p endpoint request receivedAt now generation result p') : Rests p p' := by
  cases h with
  | refused => exact .of_eq rfl
  | rejected _ _ _ _ _ _ _ _ hbase => exact hbase.rests
  | accepted policy arbPolicy session existing base settled _ hupdated hsettled =>
    have hfound : base.sessions[session.sessionId]? = existing := hupdated.start.tables.2.2
    have hstored : Rests base ((base.withArbiter (base.arbiter.displace
        (CommandPipeline.claimOf endpoint session) arbPolicy receivedAt now)).storeServo endpoint
          session existing receivedAt) := by
      intro k stored hk hstarted
      by_cases hid : k = session.sessionId
      · subst hid
        cases existing with
        | none =>
          have hnew : (base.sessions.insertIfNew session.sessionId
            { session with submittedAt := receivedAt })[session.sessionId]? = some stored := hk
          rw [Std.TreeMap.getElem?_insertIfNew] at hnew
          split at hnew
          · rw [← Option.some.inj hnew, hupdated.valid.idle] at hstarted
            cases hstarted
          · exact ⟨stored, hnew, hstarted, rfl, rfl, rfl⟩
        | some old =>
          have hnew : (base.sessions.insert session.sessionId
            { old with request := session.request, submittedAt := receivedAt })[session.sessionId]? =
              some stored := hk
          rw [Std.TreeMap.getElem?_insert_self] at hnew
          obtain rfl := Option.some.inj hnew
          exact ⟨old, hfound, hstarted, rfl, rfl, rfl⟩
      · rw [CommandPipeline.storeServo_other _ _ _ _ _ hid] at hk
        exact ⟨stored, hk, hstarted, rfl, rfl, rfl⟩
    have hsettle : Rests p settled := by
      rw [hsettled]
      exact (hupdated.start.rests.trans hstored).trans ((outside_rests B).settle _ _ _)
    split
    · exact hsettle.trans (.of_eq rfl)
    · exact hsettle

variable (B lib) in
theorem exec_rests (p : CommandPipeline β) {op : Op} (hop : op.isTick = false) :
    Rests p (exec B lib p op).2 := by
  cases op with
  | submitMove endpoint request now generation =>
    exact (submitMove_outcome B p endpoint request now generation).rests
  | updateServo endpoint request receivedAt now generation =>
    exact (updateServo_outcome B p endpoint request receivedAt now generation).rests
  | _ => exact (outside_rests B).quietly lib p rfl hop

end

/-! ## One tick -/

namespace Seen

/-- What has been seen of `id` once the events and commands have been returned. -/
def told (seen : Seen) (id : String) (events : List SessionEvent) (commands : List JointCommand) :
    Seen :=
  (seen.hears (eventsOf id events)).returns (commands.filter fun command => command.sessionId == id)

end Seen

theorem eventsOf_own_all {id : String} {events : List SessionEvent} (h : ∀ e ∈ events, e.sessionId = id) :
    eventsOf id events = events := List.filter_eq_self.2 fun e he => by simp [h e he]

theorem eventsOf_none {id : String} {events : List SessionEvent} (h : ∀ e ∈ events, e.sessionId ≠ id) :
    eventsOf id events = [] := List.filter_eq_nil_iff.2 fun e he => by simp [h e he]

/-- The result of a tick once the winners in `done` have had their turns: one command for a session
at most, each within reach, and every session where it is seen to stand. -/
structure Followed (feedback : JointFeedback) (before : String → Seen) (done : List String)
    (s : TickState β) : Prop where
  quiet : ∀ id, id ∉ done → (before id).hears (eventsOf id s.events) = before id
  issued : ∀ c ∈ s.commands, c.sessionId ∈ done
  distinct : (s.commands.map (·.sessionId)).Nodup
  reached : ∀ c ∈ s.commands, Reached feedback s.pipeline
    ((before c.sessionId).hears (eventsOf c.sessionId s.events)) c
  tracked : ∀ id, Tracked id ((before id).told id s.events s.commands) s.pipeline

section
variable {ctx : TickContext} {before : String → Seen} {done : List String} {id : String}
  {s s' : TickState β}

/-- No command of a session that has not had its turn. -/
theorem Followed.unissued (h : Followed ctx.feedback before done s) (hid : id ∉ done) :
    s.commands.filter (fun command => command.sessionId == id) = [] := by
  refine List.filter_eq_nil_iff.2 fun c hc => ?_
  have := h.issued c hc
  simp only [beq_iff_eq]
  rintro rfl
  exact hid this

theorem Followed.turn (h : Followed ctx.feedback before done s) (hid : id ∉ done)
    (ht : Turn B lib ctx id s s')
    (hmodelled : ∀ session, s.pipeline.sessions[id]? = some session → Modelled s.pipeline) :
    Followed ctx.feedback before (done ++ [id]) s' := by
  have htracked : Tracked id (before id) s.pipeline := by
    have hown := h.tracked id
    rwa [Seen.told, h.quiet id hid, h.unissued hid, Seen.returns_nil] at hown
  obtain ⟨added, issued, htells⟩ := ht.tells hmodelled htracked
  -- the events and the commands of the others are those of before
  have hevents : ∀ k, k ≠ id → eventsOf k s'.events = eventsOf k s.events := by
    intro k hk
    have hnone : eventsOf k added = [] :=
      eventsOf_none fun e he hsame => hk (hsame.symm.trans (htells.own e he))
    rw [htells.events, eventsOf_append, hnone, List.append_nil]
  have hcommands : ∀ k, k ≠ id → s'.commands.filter (fun c => c.sessionId == k) =
      s.commands.filter fun c => c.sessionId == k := by
    intro k hk
    rw [htells.commands, List.filter_append]
    have hnone : issued.toList.filter (fun c => c.sessionId == k) = [] := by
      refine List.filter_eq_nil_iff.2 fun c hc => ?_
      have := (htells.reached c (by simpa using hc)).1
      simp [this, Ne.symm hk]
    rw [hnone, List.append_nil]
  have hheard : (before id).hears (eventsOf id s'.events) = (before id).hears added := by
    rw [htells.events, eventsOf_append, eventsOf_own_all htells.own, Seen.hears_append, h.quiet id hid]
  have hgroups := ht.fixed.groups
  have hnew : ∀ c ∈ issued, c.sessionId = id := fun c hc => (htells.reached c hc).1
  constructor
  · intro k hk
    rw [List.mem_append, List.mem_singleton, not_or] at hk
    rw [hevents k hk.2]
    exact h.quiet k hk.1
  · intro c hc
    rw [htells.commands, List.mem_append] at hc
    rcases hc with hc | hc
    · exact List.mem_append_left _ (h.issued c hc)
    · rw [hnew c (by simpa using hc)]
      simp
  · rw [htells.commands, List.map_append]
    refine List.nodup_append.2 ⟨h.distinct, by cases issued <;> simp, ?_⟩
    rintro k hk k' hk' rfl
    obtain ⟨c, hc, rfl⟩ := List.mem_map.1 hk
    obtain ⟨c', hc', hsame⟩ := List.mem_map.1 hk'
    rw [hnew c' (by simpa using hc')] at hsame
    exact hid (hsame ▸ h.issued c hc)
  · intro c hc
    rw [htells.commands, List.mem_append] at hc
    rcases hc with hc | hc
    · have hne : c.sessionId ≠ id := fun heq => hid (heq ▸ h.issued c hc)
      rw [hevents _ hne]
      exact (h.reached c hc).groups hgroups
    · obtain ⟨hown, hreached⟩ := htells.reached c (by simpa using hc)
      rw [hown, hheard]
      exact hreached.groups hgroups
  · intro k
    by_cases hk : k = id
    · subst hk
      have hlast : s'.commands.filter (fun c => c.sessionId == k) = issued.toList := by
        rw [htells.commands, List.filter_append, h.unissued hid, List.nil_append]
        exact List.filter_eq_self.2 fun c hc => by simp [hnew c (by simpa using hc)]
      rw [Seen.told, hheard, hlast]
      exact htells.tracked
    · rw [Seen.told, hevents k hk, hcommands k hk]
      intro session hs
      rw [hgroups]
      exact h.tracked k session (ht.others hk ▸ hs)

theorem turns_followed {winners : List String} (hnodup : winners.Nodup) {rest : List String}
    (ht : Turns B lib ctx rest s s') (hsplit : winners = done ++ rest)
    (hmodelled : ∀ (id : String) session, s.pipeline.sessions[id]? = some session →
      Modelled s.pipeline)
    (h : Followed ctx.feedback before done s) : Followed ctx.feedback before winners s' := by
  induction ht generalizing done with
  | nil s =>
    rw [hsplit, List.append_nil]
    exact h
  | cons id ids s s₁ s' hturn _ ih =>
    have helems : Elems B (.tick ctx.feedback ctx.now) s s₁ := hturn.elems rfl
    have hnew : id ∉ done := by
      intro hin
      rw [hsplit] at hnodup
      exact (List.nodup_append.1 hnodup).2.2 id hin id List.mem_cons_self rfl
    have hrest : winners = (done ++ [id]) ++ ids := by simp [hsplit]
    refine ih hrest (fun k session hs => ?_) (h.turn hnew hturn (hmodelled id))
    obtain ⟨old, hold, -⟩ := helems.descends rfl k session hs
    exact (hmodelled k old hold).fixed hturn.fixed

/-- Before the first turn nothing is issued, and only ended sessions are reported. -/
theorem Followed.open {p : CommandPipeline β} (hcommands : s.commands = [])
    (hevents : ∀ e ∈ s.events, e.isFinal = true) (hrests : Rests p s.pipeline)
    (hgroups : s.pipeline.groups = p.groups) (h : ∀ id, Tracked id (before id) p) :
    Followed ctx.feedback before [] s := by
  have hquiet : ∀ id, (before id).hears (eventsOf id s.events) = before id := fun id =>
    Seen.hears_final _ fun e he => hevents e (List.mem_of_mem_filter he)
  refine ⟨fun id _ => hquiet id, ?_, ?_, ?_, fun id => ?_⟩
  · simp [hcommands]
  · simp [hcommands]
  · simp [hcommands]
  · rw [Seen.told, hquiet, hcommands]
    exact (h id).rests hrests hgroups

/-- A late command takes its session with it. -/
theorem foldl_terminate_sessions (status : MotionStatus) (late : List JointCommand)
    (p : CommandPipeline β) {c : JointCommand} (hc : c ∈ late) :
    (late.foldl (fun p command => p.terminate B command.sessionId .aborted status)
      p).sessions[c.sessionId]? = none := by
  have hgone : ∀ (late : List JointCommand) (p : CommandPipeline β),
      p.sessions[c.sessionId]? = none →
      (late.foldl (fun p command => p.terminate B command.sessionId .aborted status)
        p).sessions[c.sessionId]? = none := by
    intro late
    induction late with
    | nil => exact fun _ h => h
    | cons command late ih =>
      refine fun p h => ih _ ?_
      rw [CommandPipeline.terminate_sessions, h, ite_self]
  induction late generalizing p with
  | nil => cases hc
  | cons command late ih =>
    rcases List.mem_cons.1 hc with rfl | hc
    · refine hgone late _ ?_
      simp
    · exact ih _ hc

/-- The closing takes late commands back with their sessions, and reports ended sessions. -/
theorem Followed.closed (h : Followed ctx.feedback before done s) (hqueued : QueuedFinal s.pipeline) :
    ((closed B ctx s).commands.map (·.sessionId)).Nodup ∧
    (∀ c ∈ (closed B ctx s).commands, Reached ctx.feedback s.pipeline
      ((before c.sessionId).hears (eventsOf c.sessionId (closed B ctx s).events)) c) ∧
    ∀ id, Tracked id ((before id).told id (closed B ctx s).events (closed B ctx s).commands)
      (closed B ctx s).pipeline := by
  set finishedAt := ctx.now + ((B.steadyNow s.pipeline.backend).1 - ctx.enteredAt) with hfinished
  set dropped := dropLate B (s.withBackend (B.steadyNow s.pipeline.backend).2) finishedAt with hdropped
  have helems : Elems B (.tick ctx.feedback ctx.now) s dropped :=
    (withBackend_elems (QuietCall.steadyNow _).quiet.calls).trans (dropLate_elems _ _)
  have hfinal := helems.queuedFinal hqueued
  have hheard : ∀ id, (before id).hears (eventsOf id (Tick.closed B ctx s).events) =
      (before id).hears (eventsOf id s.events) := by
    intro id
    change (before id).hears (eventsOf id (s.events ++ dropped.pipeline.pendingEvents)) = _
    rw [eventsOf_append, Seen.hears_append]
    exact Seen.hears_final _ fun e he => hfinal e (List.mem_of_mem_filter he)
  have hcommands : (Tick.closed B ctx s).commands =
      s.commands.filter fun command => !commandLate finishedAt command := rfl
  refine ⟨?_, fun c hc => ?_, fun id session hs hstarted => ?_⟩
  · rw [hcommands]
    exact h.distinct.sublist (List.filter_sublist.map _)
  · rw [hheard]
    rw [hcommands] at hc
    exact h.reached c (List.mem_of_mem_filter hc)
  · -- a session that is left has no late command
    have hpunctual : ∀ c ∈ s.commands, c.sessionId = id → commandLate finishedAt c = false := by
      rintro c hc rfl
      by_contra hlate
      rw [Bool.not_eq_false] at hlate
      have hgone := foldl_terminate_sessions (B := B) expiredWhileComputing _
        (s.withBackend (B.steadyNow s.pipeline.backend).2).pipeline
        (List.mem_filter.2 ⟨hc, hlate⟩)
      have hs' : dropped.pipeline.sessions[c.sessionId]? = some session := hs
      rw [show dropped.pipeline.sessions[c.sessionId]? = none from hgone] at hs'
      cases hs'
    have hkept : (Tick.closed B ctx s).commands.filter (fun c => c.sessionId == id) =
        s.commands.filter fun c => c.sessionId == id := by
      rw [hcommands, List.filter_filter]
      refine List.filter_congr fun c hc => ?_
      by_cases hid : c.sessionId = id
      · simp [hid, hpunctual c hc hid]
      · simp [hid]
    rw [Seen.told, hheard, hkept]
    have hrests : Rests s.pipeline (Tick.closed B ctx s).pipeline := (outside_rests B).closed ctx s
    exact (h.tracked id).rests hrests (congrArg Prod.fst (closed_settings ctx s)) session hs hstarted

end

section
variable {p : CommandPipeline β}

/-- The first events of a tick are those of sessions that have ended. -/
theorem opened_final (hsound : Sound p) (hqueued : QueuedFinal p) (gap : Bool)
    (winners : List String) (now : SteadyTime) :
    ∀ e ∈ (opened B gap winners (p.tickOpening B now)).events, e.isFinal = true := by
  have hopening : Elems B (.tick {} now) (TickState.flush { pipeline := p }) (p.tickOpening B now) :=
    tickFlushed_elems p now
  have hgap : Elems B (.tick {} now) (p.tickOpening B now)
      ((p.tickOpening B now).withPipeline (afterGap B gap (p.tickOpening B now).pipeline)) := by
    have helems : Elems B (.tick {} now) { pipeline := p } (p.tickOpening B now) :=
      tickOpening_elems p now
    unfold afterGap
    split
    · exact foldl_elems (fun s id h => gapped_elems s id h) _ _ (helems.sound hsound)
    · exact .refl _
  have hfinal := (hopening.trans hgap).queuedFinal (by simp [QueuedFinal, TickState.flush])
  intro e he
  change e ∈ p.pendingEvents ++ (afterGap B gap (p.tickOpening B now).pipeline).pendingEvents at he
  rcases List.mem_append.1 he with he | he
  · exact hqueued e he
  · exact hfinal e he

end

/-! ## One call -/

/-- What the callers have seen of `id`, read off what the calls have returned. -/
def Seen.stage (id : String) (seen : Seen) (g : PipelineStage β) : Seen :=
  seen.told id g.output.events g.output.commands

def seenOf (id : String) (past : List (PipelineStage β)) : Seen := past.foldl (Seen.stage id) {}

/-- What one stage returns: one command for a session at most, each from a tick and within reach of
its feedback. -/
structure StageKept (past : List (PipelineStage β)) (g : PipelineStage β) : Prop where
  distinct : (g.output.commands.map (·.sessionId)).Nodup
  reached : ∀ c ∈ g.output.commands, ∃ feedback now, g.input = .tick feedback now ∧
    Reached feedback g.before
      ((seenOf c.sessionId past).hears (eventsOf c.sessionId g.output.events)) c

/-- What the limits of a run stand on. -/
structure Overseen (S : SessionPlatform β) (e₀ : β) (past : List (PipelineStage β))
    (p : CommandPipeline β) : Prop where
  sound : Sound p
  tables : Tables False S e₀ p
  vetted : Vetted p
  queued : QueuedFinal p
  tracked : ∀ id, Tracked id (seenOf id past) p

section
variable {S : SessionPlatform β} {e₀ : β} {past : List (PipelineStage β)} {p : CommandPipeline β}

theorem seenOf_snoc (id : String) (past : List (PipelineStage β)) (g : PipelineStage β) :
    seenOf id (past ++ [g]) = (seenOf id past).stage id g := by
  simp [seenOf]

variable (lib) in
/-- A tick keeps every session where it is seen to stand. -/
theorem Overseen.tick (h : Overseen S e₀ past p) (feedback : JointFeedback) (now : SteadyTime) :
    StageKept past (stageOf S.toPlatform lib p (.tick feedback now)) ∧
      ∀ id, Tracked id (seenOf id (past ++ [stageOf S.toPlatform lib p (.tick feedback now)]))
        (exec S.toPlatform lib p (.tick feedback now)).2 := by
  obtain ⟨s₂, hrun, htick⟩ := tick_run S.toPlatform lib p feedback now h.sound
  have hopened := tickStarted_elems (B := S.toPlatform) h.sound feedback now
    (p.tickArbitration S.toPlatform now).winnerSessionIds
  have hnodup : (p.tickArbitration S.toPlatform now).winnerSessionIds.Nodup :=
    ControlArbiter.winners_nodup (h.tables.arbiter.live _)
  have hrests : Rests p (opened S.toPlatform (p.schedulingGap now)
      (p.tickArbitration S.toPlatform now).winnerSessionIds
      (p.tickOpening S.toPlatform now)).pipeline := by
    have hexpired : Rests p (p.tickOpening S.toPlatform now).pipeline :=
      (Rests.of_eq rfl).trans ((outside_rests S.toPlatform).expired p now)
    exact hexpired.trans ((outside_rests S.toPlatform).opened _ _ _ rests_gapped rests_deactivate)
  have hstart : Followed (p.tickContext S.toPlatform feedback now).feedback (fun id => seenOf id past)
      [] (opened S.toPlatform (p.schedulingGap now)
        (p.tickArbitration S.toPlatform now).winnerSessionIds (p.tickOpening S.toPlatform now)) :=
    .open rfl (opened_final h.sound h.queued _ _ now) hrests hopened.groups h.tracked
  have hturned := turns_followed hnodup hrun.turns (List.nil_append _).symm (fun id session hs => by
    have hok := (hopened.sound h.sound).sessionOk id session hs
    obtain ⟨old, hold, -⟩ := hopened.descends rfl id session hs
    intro name group hgroup
    exact h.vetted.stored (h.sound.sessionOk id old hold) name group (hopened.groups ▸ hgroup))
    hstart
  have hqueued : QueuedFinal s₂.pipeline := by
    have hturns : Elems S.toPlatform (.tick feedback now) _ s₂ := hrun.turns.elems rfl
    exact (hopened.trans hturns).queuedFinal h.queued
  obtain ⟨hdistinct, hreached, htracked⟩ := hturned.closed (B := S.toPlatform) hqueued
  have hgroups : s₂.pipeline.groups = p.groups := by
    have hturns : Elems S.toPlatform (.tick feedback now) _ s₂ := hrun.turns.elems rfl
    exact (hopened.trans hturns).groups
  have hexec : exec S.toPlatform lib p (.tick feedback now) = (.ticked
      { commands := (closed S.toPlatform (p.tickContext S.toPlatform feedback now) s₂).commands
        events := (closed S.toPlatform (p.tickContext S.toPlatform feedback now) s₂).events },
      (closed S.toPlatform (p.tickContext S.toPlatform feedback now) s₂).pipeline) := by
    simp only [exec, htick]
  refine ⟨⟨?_, fun c hc => ⟨feedback, now, rfl, ?_⟩⟩, fun id => ?_⟩
  · simp only [stageOf, hexec]
    exact hdistinct
  · simp only [stageOf, hexec] at hc ⊢
    exact (hreached c hc).groups hgroups.symm
  · rw [seenOf_snoc]
    simp only [Seen.stage, stageOf, hexec]
    exact htracked id

variable (lib) in
/-- Every call keeps it. -/
theorem Overseen.step (h : Overseen S e₀ past p) (op : Op) :
    StageKept past (stageOf S.toPlatform lib p op) ∧
      Overseen S e₀ (past ++ [stageOf S.toPlatform lib p op]) (exec S.toPlatform lib p op).2 := by
  obtain ⟨t, helems, hpipeline, -, -⟩ := exec_elems S.toPlatform lib p h.sound op
  have hrest : (∀ id, Tracked id (seenOf id (past ++ [stageOf S.toPlatform lib p op]))
      (exec S.toPlatform lib p op).2) →
      Overseen S e₀ (past ++ [stageOf S.toPlatform lib p op]) (exec S.toPlatform lib p op).2 :=
    fun htracked => ⟨exec_sound p h.sound op, exec_tables lib h.sound h.tables op False.elim,
      h.vetted.step S.toPlatform lib h.sound op, hpipeline ▸ helems.queuedFinal h.queued, htracked⟩
  cases htick : op.isTick with
  | true =>
    cases op with
    | tick feedback now =>
      obtain ⟨hkept, htracked⟩ := h.tick lib feedback now
      exact ⟨hkept, hrest htracked⟩
    | _ => cases htick
  | false =>
    have hnone : (exec S.toPlatform lib p op).1.commands = [] ∧
        (exec S.toPlatform lib p op).1.events = [] := by
      cases op with
      | tick => cases htick
      | _ => exact ⟨rfl, rfl⟩
    refine ⟨⟨?_, fun c hc => ?_⟩, hrest fun id => ?_⟩
    · simp [stageOf, hnone.1]
    · simp [stageOf, hnone.1] at hc
    · have hsame : seenOf id (past ++ [stageOf S.toPlatform lib p op]) = seenOf id past := by
        rw [seenOf_snoc]
        simp [Seen.stage, Seen.told, stageOf, hnone.1, hnone.2, eventsOf]
      rw [hsame]
      exact (h.tracked id).rests (exec_rests S.toPlatform lib p htick)
        (congrArg Prod.fst (call_settings lib h.sound op))

end

/-! ## Segments -/

/-- No tick after stage `j` up to stage `k` reports a start of the session. -/
def NoStart (stages : List (PipelineStage β)) (id : String) (j k : Nat) : Prop :=
  ∀ (l : Nat) g, j < l → l ≤ k → stages[l]? = some g →
    ∀ e ∈ g.output.events, e.sessionId = id → e.starts = false

/-- Of what a run returns: every command is within reach, and after a command for a session no
joint of it is commanded farther outside a limit until the session is started anew. -/
structure LimitsKept (stages : List (PipelineStage β)) : Prop where
  returned : ∀ (k : Nat) g, stages[k]? = some g → StageKept (stages.take k) g
  segment : ∀ (j k : Nat) gj gk c c', j < k → stages[j]? = some gj → stages[k]? = some gk →
    c ∈ gj.output.commands → c' ∈ gk.output.commands → c'.sessionId = c.sessionId →
    NoStart stages c.sessionId j k → ∀ group, gk.before.groups[c'.groupName]? = some group →
    ∀ i < group.jointNames.length, NoFarther group c c' i

/-- The commands of one session are that one. -/
theorem filter_own {commands : List JointCommand} (h : (commands.map (·.sessionId)).Nodup)
    {c : JointCommand} (hc : c ∈ commands) :
    commands.filter (fun command => command.sessionId == c.sessionId) = [c] := by
  induction commands with
  | nil => cases hc
  | cons command commands ih =>
    rw [List.map_cons, List.nodup_cons] at h
    rcases List.mem_cons.1 hc with rfl | hc
    · rw [List.filter_cons_of_pos (by simp)]
      refine congrArg _ (List.filter_eq_nil_iff.2 fun other hother => ?_)
      simp only [beq_iff_eq]
      exact fun heq => h.1 (List.mem_map.2 ⟨other, hother, heq⟩)
    · rw [List.filter_cons_of_neg, ih h.2 hc]
      simp only [beq_iff_eq]
      exact fun heq => h.1 (List.mem_map.2 ⟨c, hc, heq.symm⟩)

section
variable {stages : List (PipelineStage β)} {groups : StringMap JointGroupModel} {c : JointCommand}

/-- The last command that was returned is no farther outside than `c`. -/
def NearLast (groups : StringMap JointGroupModel) (c : JointCommand) (seen : Seen) : Prop :=
  ∃ last, seen.last = some last ∧ ∀ group, groups[last.groupName]? = some group →
    ∀ i < group.jointNames.length, NoFarther group c last i

theorem NearLast.stage {past : List (PipelineStage β)} {g : PipelineStage β} (hkept : StageKept past g)
    (hgroups : g.before.groups = groups)
    (hquiet : ∀ e ∈ g.output.events, e.sessionId = c.sessionId → e.starts = false)
    (h : NearLast groups c (seenOf c.sessionId past)) :
    NearLast groups c (seenOf c.sessionId (past ++ [g])) := by
  obtain ⟨last, hlast, hnear⟩ := h
  rw [seenOf_snoc, Seen.stage, Seen.told]
  set heard := (seenOf c.sessionId past).hears (eventsOf c.sessionId g.output.events) with hheard
  have hsame : heard.last = some last := by
    rw [hheard, Seen.hears_last, hlast]
    intro e he
    obtain ⟨hin, hid⟩ := List.mem_filter.1 he
    exact hquiet e hin (by simpa using hid)
  cases hown : g.output.commands.filter (fun command => command.sessionId == c.sessionId) with
  | nil => exact ⟨last, hsame, hnear⟩
  | cons next rest =>
    have hnext : next ∈ g.output.commands ∧ next.sessionId = c.sessionId := by
      have hin : next ∈ g.output.commands.filter (fun x => x.sessionId == c.sessionId) := by
        rw [hown]
        exact List.mem_cons_self
      simpa using List.mem_filter.1 hin
    have hone := filter_own hkept.distinct hnext.1
    rw [hnext.2, hown] at hone
    obtain ⟨-, rfl⟩ := List.cons.inj hone
    refine ⟨next, rfl, fun group hgroup i hi => ?_⟩
    obtain ⟨feedback, now, -, model, measured, hmodel, hordered, -, hreach⟩ :=
      hkept.reached next hnext.1
    rw [hgroups] at hmodel
    obtain rfl : model = group := Option.some.inj (hmodel.symm.trans hgroup)
    rw [hnext.2, ← hheard] at hreach
    rcases hreach.limits i hi with hin | hrecovers
    · exact .inl hin
    · have hsamegroup := hrecovers.sameGroup last hsame
      have hinward := hrecovers.inward
      rw [Seen.reference, hsame] at hinward
      exact (hnear model (hsamegroup ▸ hgroup) i hi).step (hordered i hi) (.inr hinward)

/-- From the stage of `c` on, as long as no start is reported. -/
theorem nearLast_since (hreturned : ∀ (l : Nat) g, stages[l]? = some g → StageKept (stages.take l) g)
    (hgroups : ∀ g ∈ stages, g.before.groups = groups) {j k : Nat} {gj : PipelineStage β}
    (hj : stages[j]? = some gj) (hc : c ∈ gj.output.commands) (hk : k < stages.length)
    (hquiet : NoStart stages c.sessionId j k) (hjk : j ≤ k) :
    NearLast groups c (seenOf c.sessionId (stages.take (k + 1))) := by
  induction k, hjk using Nat.le_induction with
  | base =>
    rw [List.take_add_one, hj, Option.toList_some, seenOf_snoc, Seen.stage, Seen.told,
      filter_own (hreturned j gj hj).distinct hc]
    exact ⟨c, rfl, fun group _ i _ => .refl group c i⟩
  | succ k hjk ih =>
    have hbefore := ih (by omega) fun l g hl hlk => hquiet l g hl (by omega)
    obtain ⟨g, hg⟩ : ∃ g, stages[k + 1]? = some g := ⟨_, List.getElem?_eq_getElem hk⟩
    rw [List.take_add_one, hg]
    exact hbefore.stage (hreturned _ g hg) (hgroups g (List.mem_of_getElem? hg))
      (hquiet (k + 1) g (by omega) le_rfl hg)

/-- The segments follow from what every stage returns. -/
theorem LimitsKept.of_returned
    (hreturned : ∀ (l : Nat) g, stages[l]? = some g → StageKept (stages.take l) g)
    (hgroups : ∀ g ∈ stages, g.before.groups = groups) : LimitsKept stages where
  returned := hreturned
  segment j k gj gk c c' hjk hj hk hc hc' hid hquiet group hgroup i hi := by
    have hlength := (List.getElem?_eq_some_iff.1 hk).1
    obtain ⟨last, hlast, hnear⟩ :=
      nearLast_since hreturned hgroups hj hc hlength hquiet hjk.le
    -- the command of stage `k` is the last one returned
    rw [List.take_add_one, hk, Option.toList_some, seenOf_snoc, Seen.stage, Seen.told, ← hid,
      filter_own (hreturned k gk hk).distinct hc'] at hlast
    obtain rfl : c' = last := Option.some.inj hlast
    rw [hgroups gk (List.mem_of_getElem? hk)] at hgroup
    exact hnear group hgroup i hi

end

/-! ## Every run -/

/-- In every run over any SDK whose calls are written down, with any feedback: every command that a
tick returns went through the final RTC and has its group's joints in order, and each of its joints
is within its limits or recovers; and until a start of its session is reported, no later command
brings a joint farther outside, nor out of its limits again. -/
theorem limits_kept (B : Platform β) (lib : MathLib) (e : β) (groups : List JointGroupModel)
    (config : CommandPipelineConfig) (ops : List Op) :
    LimitsKept ((machine B.recorded lib).trace (CommandPipeline.create (e, []) groups config) ops) := by
  set s₀ : CommandPipeline (β × List Call) := CommandPipeline.create (e, []) groups config with hs₀
  have hinit : Initial s₀ := ⟨_, _, _, rfl⟩
  have hstart : Overseen B.logged (e, []) [] s₀ := by
    refine ⟨hinit.sound, create_tables groups config (B.logged_fresh e), hinit.vetted, ?_, ?_⟩
    · simp [hs₀, QueuedFinal, CommandPipeline.create]
    · intro id session hs
      simp [hs₀, CommandPipeline.create] at hs
  have hstep : ∀ past s op, Overseen B.logged (e, []) past s →
      Overseen B.logged (e, []) (past ++ [stageOf B.recorded lib s op]) (exec B.recorded lib s op).2 :=
    fun past s op h => (h.step lib op).2
  have hgroups : ∀ g ∈ (machine B.recorded lib).trace s₀ ops, g.before.groups = s₀.groups := by
    intro g hg
    have hkeep : ∀ s op, Sound s ∧ s.groups = s₀.groups → True →
        Sound ((machine B.recorded lib).step s op).2 ∧
          ((machine B.recorded lib).step s op).2.groups = s₀.groups := fun s op h _ =>
      ⟨exec_sound s h.1 op, (congrArg Prod.fst (call_settings lib h.1 op)).trans h.2⟩
    exact (Machine.trace_invariant hkeep ⟨hinit.sound, rfl⟩ (Machine.meets_true _ _) g hg).1.2
  refine .of_returned (fun k g hk => ?_) hgroups
  have hover := Machine.trace_history (M := machine B.recorded lib) hstep hstart hk
  have hstage : stageOf B.recorded lib g.before g.input = g := by
    obtain ⟨before, input, output, after⟩ := g
    have hexec : (machine B.recorded lib).step before input = (output, after) :=
      Machine.trace_step (List.mem_of_getElem? hk)
    have hout : exec B.recorded lib before input = (output, after) := hexec
    simp only [stageOf, hout]
  exact hstage ▸ (hover.step lib g.input).1

end HumanoidMotion
