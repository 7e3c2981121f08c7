import HumanoidMotion.Motion.Elapsed
/-
# Starts and retry times in one tick

A turn may start the session it is for, past the retry time of its endpoint, with
its request and from the feedback of the tick. Otherwise it leaves a session at rest
at rest, and the retry time as it is.

* `Past` — one of these calls has read a time that lies past a retry time.
* `TurnStarts` — the starts of the turns; one turn (`TurnLog.starts`) and all turns
  (`LoggedTurns.starts`).
-/

namespace HumanoidMotion

open Tick

def Call.isStart : Call → Bool
  | .startSession .. => true
  | _ => false

theorem Call.plain.unstarted {period : Rat} {call : Call} (h : call.plain period) :
    call.isStart = false := by
  cases call <;> first | rfl | exact h.elim

/-- No start of the session. -/
def Unasked (id : String) (calls : List Call) : Prop :=
  ∀ request selected period answer, .startSession id request selected period answer ∉ calls

/-- A time past `retry` has been read. -/
def Past (ctx : TickContext) (retry : SteadyTime) (calls : List Call) : Prop :=
  ∃ reading, .steadyNow reading ∈ calls ∧ retry ≤ ctx.now + (reading - ctx.enteredAt)

theorem Unasked.left {id : String} {calls calls' : List Call} (h : Unasked id (calls ++ calls')) :
    Unasked id calls := fun request selected period answer hin =>
  h request selected period answer (List.mem_append_left _ hin)

theorem Unasked.right {id : String} {calls calls' : List Call} (h : Unasked id (calls ++ calls')) :
    Unasked id calls' := fun request selected period answer hin =>
  h request selected period answer (List.mem_append_right _ hin)

theorem Past.append_left {ctx : TickContext} {retry : SteadyTime} {calls : List Call}
    (h : Past ctx retry calls) (before : List Call) : Past ctx retry (before ++ calls) := by
  obtain ⟨reading, hin, hle⟩ := h
  exact ⟨reading, List.mem_append_right _ hin, hle⟩

namespace Tick

/-! ## The retry times of the other endpoints -/

section
variable {β : Type} {B : Platform β} {lib : MathLib} {ctx : TickContext} {id x : String}
  {session session' : Session} {selected : JointFeedback} {group : JointGroupModel}
  {s s' : TickState β}

theorem Moved.retries (h : Moved B s s') :
    s'.pipeline.servoRetryAfter = s.pipeline.servoRetryAfter := by
  obtain ⟨e, -, rfl⟩ := h
  rfl

theorem Watched.retries (h : Watched B id session s s') :
    s'.pipeline.servoRetryAfter = s.pipeline.servoRetryAfter := by
  obtain ⟨e, m, -, -, -, -, rfl⟩ := h
  rfl

theorem terminate_retries (p : CommandPipeline β) (state : SessionState) (status : MotionStatus)
    (preserve : Bool) : (p.terminate B id state status preserve).servoRetryAfter = p.servoRetryAfter :=
  CommandPipeline.terminate_frame p id state status preserve (fun q => q.servoRetryAfter)
    (fun _ => rfl) fun _ _ => rfl

theorem Stopped.retries (h : Stopped B lib ctx id session selected s s')
    (hx : session.endpointName ≠ x) :
    s'.pipeline.servoRetryAfter[x]? = s.pipeline.servoRetryAfter[x]? := by
  obtain ⟨s₁, s₂, hold, limit, retry, status, hm, -, -, -, hm', -⟩ := h
  have hissue : (issueHold s₁ session limit hold).pipeline.servoRetryAfter =
      s₁.pipeline.servoRetryAfter := by
    cases hold <;> rfl
  simp only [TickState.withPipeline, terminate_retries]
  cases retry with
  | none => simp only [noteRetry, hm'.retries, hissue, hm.retries]
  | some time =>
    simp only [noteRetry, TickState.withPipeline, Std.TreeMap.getElem?_insert,
      Std.LawfulEqOrd.compare_eq_iff_eq, if_neg hx, hm'.retries, hissue, hm.retries]

theorem Ended.retries (h : Ended B lib ctx id session selected s s')
    (hx : session.endpointName ≠ x) :
    s'.pipeline.servoRetryAfter[x]? = s.pipeline.servoRetryAfter[x]? := by
  cases h with
  | dropped s₁ status hm => simp only [TickState.withPipeline, terminate_retries, hm.retries]
  | stopped _ hs => exact hs.retries hx

theorem Running.retries (h : Running B ctx id session group selected s session' s') :
    s'.pipeline.servoRetryAfter = s.pipeline.servoRetryAfter ∧
      session'.endpointName = session.endpointName := by
  cases h with
  | kept => exact ⟨rfl, rfl⟩
  | launched s₁ _ _ _ _ hm hw => exact ⟨hw.retries.trans hm.retries, rfl⟩

theorem Concluded.retries (h : Concluded B lib ctx id session selected s s')
    (hx : session.endpointName ≠ x) :
    s'.pipeline.servoRetryAfter[x]? = s.pipeline.servoRetryAfter[x]? := by
  cases h with
  | goesOn _ hw => rw [hw.retries]
  | failed s₁ _ hw _ hs => exact (hs.retries hx).trans (congrArg (·[x]?) hw.retries)
  | succeeded s₁ hw _ => simp only [TickState.withPipeline, terminate_retries, hw.retries]

/-- A turn changes no retry time but that of its own endpoint. -/
theorem Turn.retries (h : Turn B lib ctx id s s')
    (hx : ∀ session, s.pipeline.sessions[id]? = some session → session.endpointName ≠ x) :
    s'.pipeline.servoRetryAfter[x]? = s.pipeline.servoRetryAfter[x]? := by
  cases h with
  | missing => rfl
  | waits session _ _ _ _ hm => rw [hm.retries]
  | refused session _ _ hstored hended => exact hended.retries (hx session hstored.found)
  | startEnds session _ _ s₁ _ hstored hm _ _ _ hended =>
    exact (hended.retries (hx session hstored.found)).trans (congrArg (·[x]?) hm.retries)
  | runEnds session session' _ _ s₁ s₂ _ hstored hm _ hrun hended =>
    obtain ⟨hsame, hname⟩ := hrun.retries
    rw [hended.retries (hname ▸ hx session hstored.found), hsame, hm.retries]
  | emits session session' group _ s₁ s₂ s₃ _ limit command hstored hm _ hrun hm' _ _ hconcluded =>
    obtain ⟨hsame, hname⟩ := hrun.retries
    have hne : session'.endpointName ≠ x := hname ▸ hx session hstored.found
    have hend := hconcluded.retries (x := x) hne
    rw [hend, emitted_pipeline]
    simp only [recordFinal, TickState.withPipeline, TickState.issue, updatedSession,
      Std.TreeMap.getElem?_erase, Std.LawfulEqOrd.compare_eq_iff_eq, if_neg hne, hm'.retries, hsame,
      hm.retries]

end

/-! ## The starts of the turns -/

variable {β : Type} {B : Platform β} {lib : MathLib} {ctx : TickContext}

/-- What is known of a start of `id` after the calls `pre`: a stored session, its request, the
feedback of the tick, and a time past its retry time. -/
def StartOk (ctx : TickContext) (s : TickState (β × List Call)) (id : String) (pre : List Call)
    (request : SessionRequest) (selected : JointFeedback) : Prop :=
  ∃ session, s.pipeline.sessions[id]? = some session ∧ session.request = request ∧
    selectFeedback ctx.feedback session.jointNames = .ok selected ∧
    (isServo session.kind = true → ∀ retry,
      s.pipeline.servoRetryAfter[session.endpointName]? = some retry → Past ctx retry pre)

/-- The calls of the turns of `ids`: their starts, and what stays as it is without one. -/
structure TurnStarts (ctx : TickContext) (ids : List String) (s s' : TickState (β × List Call))
    (more : List Call) : Prop where
  starts : ∀ pre id request selected period answer post,
    more = pre ++ .startSession id request selected period answer :: post →
    StartOk ctx s id pre request selected
  rests : ∀ id, Unstarted id s → Unasked id more → Unstarted id s'
  retries : ∀ x, (∀ id ∈ ids, ∀ session, s.pipeline.sessions[id]? = some session →
      session.endpointName = x → session.backendStarted = false ∧ Unasked id more) →
    s'.pipeline.servoRetryAfter[x]? = s.pipeline.servoRetryAfter[x]?

/-- A turn in which its session is not started. -/
theorem TurnLog.quietly {id : String} {s s' : TickState (β × List Call)} {more : List Call}
    (h : TurnLog B ctx id s s') (hmore : callsOf s' = callsOf s ++ more) (hidle : Unstarted id s)
    (hunasked : Unasked id more) :
    Unstarted id s' ∧ s'.pipeline.servoRetryAfter = s.pipeline.servoRetryAfter := by
  cases h with
  | still _ hretries hrest => exact ⟨hrest, hretries⟩
  | began session selected s₁ hfound hstopped hselected hgrows hmoved hretry hbegan =>
    obtain ⟨a, ha, hplain⟩ := hgrows.logs
    obtain ⟨answer, ⟨b, hb, -⟩, -⟩ := hbegan
    refine (hunasked session.request selected s₁.pipeline.currentPeriodSec answer ?_).elim
    rw [hb, ha, List.append_assoc, List.append_assoc] at hmore
    rw [← List.append_cancel_left hmore]
    simp
  | stepped session s₁ hfound hstarted =>
    rw [hidle session hfound] at hstarted
    cases hstarted
  | both session session' selected s₁ s₂ hfound hstopped hselected hgrows hmoved hretry hbegan hstep =>
    obtain ⟨a, ha, hplain⟩ := hgrows.logs
    obtain ⟨answer, ⟨b, hb, -⟩, -⟩ := hbegan
    obtain ⟨⟨d, hd, -⟩, -⟩ := hstep
    refine (hunasked session.request selected s₁.pipeline.currentPeriodSec answer ?_).elim
    rw [hd, hb, ha, List.append_assoc, List.append_assoc, List.append_assoc, List.append_assoc] at hmore
    rw [← List.append_cancel_left hmore]
    simp

/-- The one start of a turn, if there is one. -/
theorem TurnLog.start {id : String} {s s' : TickState (β × List Call)} {more : List Call}
    (h : TurnLog B ctx id s s') (hmore : callsOf s' = callsOf s ++ more) :
    (∀ c ∈ more, c.isStart = false) ∨ ∃ session selected answer a b,
      s.pipeline.sessions[id]? = some session ∧ session.backendStarted = false ∧
      selectFeedback ctx.feedback session.jointNames = .ok selected ∧
      more = a ++ .startSession id session.request selected s.pipeline.currentPeriodSec answer :: b ∧
      (∀ c ∈ a, c.isStart = false) ∧ (∀ c ∈ b, c.isStart = false) ∧
      (isServo session.kind = true → ∀ retry,
        s.pipeline.servoRetryAfter[session.endpointName]? = some retry → Past ctx retry a) := by
  -- the readings before the start are those of the admission
  have hpast : ∀ {session : Session} {s₁ : TickState (β × List Call)} {a : List Call},
      callsOf s₁ = callsOf s ++ a → RetryRead ctx s s₁ session → isServo session.kind = true →
        ∀ retry, s.pipeline.servoRetryAfter[session.endpointName]? = some retry →
          Past ctx retry a := by
    intro session s₁ a ha hretry hservo retry hsome
    obtain ⟨a', reading, ha', hin, hle⟩ := hretry hservo retry hsome
    rw [ha] at ha'
    exact ⟨reading, List.append_cancel_left ha' ▸ hin, hle⟩
  cases h with
  | still hgrows =>
    obtain ⟨a, ha, hplain⟩ := hgrows.logs
    rw [ha] at hmore
    exact .inl fun c hc => (hplain c (List.append_cancel_left hmore ▸ hc)).unstarted
  | began session selected s₁ hfound hstopped hselected hgrows hmoved hretry hbegan =>
    obtain ⟨a, ha, hplain⟩ := hgrows.logs
    obtain ⟨answer, ⟨b, hb, hplain'⟩, -⟩ := hbegan
    rw [hgrows.period, ha, List.append_assoc, List.append_assoc] at hb
    rw [hb] at hmore
    exact .inr ⟨session, selected, answer, a, b, hfound, hstopped, hselected,
      (List.append_cancel_left hmore).symm, fun c hc => (hplain c hc).unstarted,
      fun c hc => (hplain' c hc).unstarted, hpast ha hretry⟩
  | stepped session s₁ hfound hstarted hgrows hstep =>
    obtain ⟨a, ha, hplain⟩ := hgrows.logs
    obtain ⟨⟨b, hb, hplain'⟩, -⟩ := hstep
    rw [ha, List.append_assoc, List.append_assoc] at hb
    rw [hb] at hmore
    rw [← List.append_cancel_left hmore, List.forall_mem_append]
    exact .inl ⟨fun c hc => (hplain c hc).unstarted,
      List.forall_mem_cons.2 ⟨rfl, fun c hc => (hplain' c hc).unstarted⟩⟩
  | both session session' selected s₁ s₂ hfound hstopped hselected hgrows hmoved hretry hbegan hstep =>
    obtain ⟨a, ha, hplain⟩ := hgrows.logs
    obtain ⟨answer, ⟨b, hb, hplain'⟩, -⟩ := hbegan
    obtain ⟨⟨d, hd, hplain''⟩, -⟩ := hstep
    rw [hgrows.period, ha, List.append_assoc, List.append_assoc] at hb
    rw [hb] at hd
    simp only [List.append_assoc] at hd
    rw [hd] at hmore
    refine .inr ⟨session, selected, answer, a,
      b ++ .tickSession id (dynamicTarget session'.request) s₂.pipeline.currentPeriodSec :: d, hfound,
      hstopped, hselected, (List.append_cancel_left hmore).symm, fun c hc => (hplain c hc).unstarted, ?_,
      hpast ha hretry⟩
    rw [List.forall_mem_append]
    exact ⟨fun c hc => (hplain' c hc).unstarted,
      List.forall_mem_cons.2 ⟨rfl, fun c hc => (hplain'' c hc).unstarted⟩⟩

/-- One turn. -/
theorem TurnLog.starts {id : String} {s s' : TickState (β × List Call)} {more : List Call}
    (h : TurnLog B ctx id s s') (hturn : Turn B.recorded lib ctx id s s')
    (hcalls : TurnCalls ctx [id] s s' more) : TurnStarts ctx [id] s s' more where
  starts := by
    intro pre k request selected period answer post hsplit
    have hk : k = id := by
      by_contra hne
      have hfree := hcalls.free k (by simpa using hne)
        (.startSession k request selected period answer) (hsplit ▸ by simp)
      simp [Call.drives] at hfree
    subst hk
    rcases h.start hcalls.calls with hnone | ⟨session, selected', answer', a, b, hfound, -,
      hselected, rfl, ha, hb, hpast⟩
    · have hin := hnone (.startSession k request selected period answer) (hsplit ▸ by simp)
      cases hin
    · obtain ⟨rfl, heq, -⟩ := split_unique hsplit ha hb rfl
      cases heq
      exact ⟨session, hfound, rfl, hselected, hpast⟩
  rests := by
    intro k hidle hunasked
    by_cases hk : k = id
    · subst hk
      exact (h.quietly hcalls.calls hidle hunasked).1
    · exact fun session hs => hidle session (hcalls.others k (by simpa using hk) ▸ hs)
  retries := by
    intro x hx
    by_cases hown : ∃ session, s.pipeline.sessions[id]? = some session ∧ session.endpointName = x
    · obtain ⟨session, hfound, hname⟩ := hown
      obtain ⟨hidle, hunasked⟩ := hx id (List.mem_singleton_self id) session hfound hname
      rw [(h.quietly hcalls.calls (fun other hother => ?_) hunasked).2]
      cases hfound.symm.trans hother
      exact hidle
    · exact hturn.retries fun session hs hname => hown ⟨session, hs, hname⟩

/-- No two sessions share a servo endpoint. -/
def EndpointsApart (p : CommandPipeline β) : Prop :=
  ∀ (id id' : String) session session', p.sessions[id]? = some session →
    p.sessions[id']? = some session' → isServo session.kind = true →
    session'.endpointName = session.endpointName → id' = id

theorem EndpointsApart.descends {p p' : CommandPipeline β} (h : EndpointsApart p)
    (hd : Descends p p') : EndpointsApart p' := by
  intro id id' session session' hs hs' hservo hname
  obtain ⟨old, hold, hsame⟩ := hd id session hs
  obtain ⟨old', hold', hsame'⟩ := hd id' session' hs'
  refine h id id' old old' hold hold' ?_ ?_
  · rwa [Session.kind, ← hsame.request]
  · rw [← hsame.endpointName, ← hsame'.endpointName, hname]

theorem TurnStarts.cons {id : String} {ids : List String} {s s₁ s' : TickState (β × List Call)}
    {a b : List Call} (hid : id ∉ ids) (hapart : EndpointsApart s.pipeline)
    (hcalls : TurnCalls ctx [id] s s₁ a) (hcalls' : TurnCalls ctx ids s₁ s' b)
    (h : TurnStarts ctx [id] s s₁ a) (h' : TurnStarts ctx ids s₁ s' b) :
    TurnStarts ctx (id :: ids) s s' (a ++ b) where
  starts := by
    intro pre k request selected period answer post hsplit
    have hlater : ∀ pre', b = pre' ++ .startSession k request selected period answer :: post →
        StartOk ctx s k (a ++ pre') request selected := by
      intro pre' hb
      have hne : k ≠ id := by
        rintro rfl
        have hfree := hcalls'.free k hid (.startSession k request selected period answer)
          (hb ▸ by simp)
        simp [Call.drives] at hfree
      obtain ⟨session, hfound, hrequest, hselected, hpast⟩ := h'.starts _ _ _ _ _ _ _ hb
      rw [hcalls.others k (by simpa using hne)] at hfound
      refine ⟨session, hfound, hrequest, hselected, fun hservo retry hretry => ?_⟩
      refine (hpast hservo retry ?_).append_left a
      rw [h.retries session.endpointName, hretry]
      intro k' hk' other hother hname
      exact absurd ((hapart k k' session other hfound hother hservo hname).symm.trans
        (List.mem_singleton.1 hk')) hne
    rcases List.append_eq_append_iff.1 hsplit with ⟨pre', rfl, hb⟩ | ⟨rest, ha, hrest⟩
    · exact hlater pre' hb
    · cases rest with
      | nil =>
        rw [List.append_nil] at ha
        exact ha ▸ (List.append_nil a ▸ hlater [] hrest.symm)
      | cons call rest =>
        obtain ⟨rfl, -⟩ := List.cons.inj hrest
        exact h.starts pre k request selected period answer rest ha
  rests k hidle hunasked := h'.rests k (h.rests k hidle hunasked.left) hunasked.right
  retries x hx := by
    refine (h'.retries x fun k hk session hs hname => ?_).trans (h.retries x fun k hk session hs hname => ?_)
    · have hne : k ∉ [id] := fun hin => hid (List.mem_singleton.1 hin ▸ hk)
      obtain ⟨hidle, hunasked⟩ := hx k (List.mem_cons_of_mem _ hk) session
        (hcalls.others k hne ▸ hs) hname
      exact ⟨hidle, hunasked.right⟩
    · obtain ⟨hidle, hunasked⟩ := hx k (List.mem_singleton.1 hk ▸ List.mem_cons_self) session hs hname
      exact ⟨hidle, hunasked.left⟩

/-- All turns of a tick. -/
theorem LoggedTurns.starts {ids : List String} {s s' : TickState (β × List Call)}
    (hnodup : ids.Nodup) (hapart : EndpointsApart s.pipeline) (h : LoggedTurns B lib ctx ids s s') :
    ∃ more, TurnCalls ctx ids s s' more ∧ TurnStarts ctx ids s s' more := by
  induction h with
  | nil s =>
    refine ⟨[], .nil s, ?_, fun _ h _ => h, fun _ _ => rfl⟩
    intro pre _ _ _ _ _ _ h
    cases pre <;> cases h
  | cons id ids s s₁ s' hturn hrest ih =>
    obtain ⟨hid, hids⟩ := List.nodup_cons.1 hnodup
    have hlog : TurnLog B ctx id s s₁ := hturn.1
    obtain ⟨a, ha⟩ := hlog.calls fun k hk => hturn.2.1.others (by simpa using hk)
    have helems : Elems B.recorded (.tick ctx.feedback ctx.now) s s₁ := hturn.2.1.elems rfl
    obtain ⟨b, hb, hstarts⟩ := ih hids (hapart.descends (helems.descends rfl))
    exact ⟨a ++ b, ha.cons hid hb,
      (hlog.starts hturn.2.1 ha).cons hid hapart ha hb hstarts⟩

end Tick

end HumanoidMotion
