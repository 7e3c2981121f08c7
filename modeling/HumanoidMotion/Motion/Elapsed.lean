import HumanoidMotion.Motion.AtRest
import HumanoidMotion.Motion.StageLog
import HumanoidMotion.Motion.Holds
import HumanoidMotion.Motion.Refusals
/-
# The time between two steps of a session

The SDK integrates a session over the period it is given. Every step of a session
is its first since its start, or follows a step in the tick before, and then the
period is the time between the two ticks.

* `tickedSince` — a step has followed the last start.
* `TurnCalls` — where the turns of one tick start and step sessions; one turn
  (`TurnLog.calls`) and all turns (`LoggedTurns.calls`).
* `Clocked` — the last tick has stepped every session that the SDK still runs.
* `integrates_elapsed_time` — the steps of every run.
-/

namespace HumanoidMotion

open Tick

/-! ## Starts and steps of one session -/

/-- A start or a step of the session. -/
def Call.drives (id : String) : Call → Bool
  | .startSession id' .. => id' == id
  | .tickSession id' .. => id' == id
  | _ => false

def tickedBy (id : String) (ticked : Bool) : Call → Bool
  | .startSession id' .. => ticked && id' != id
  | .tickSession id' .. => ticked || id' == id
  | _ => ticked

/-- The session has been stepped since it was last started. -/
def tickedSince (id : String) (calls : List Call) : Bool := calls.foldl (tickedBy id) false

/-- No start and no step of the session. -/
def Free (id : String) (calls : List Call) : Prop := ∀ call ∈ calls, call.drives id = false

/-- A final RTC is over `period`. -/
def Call.over (period : Rat) : Call → Prop
  | .updateFinalJointTarget _ _ p => p = period
  | _ => True

theorem Call.plain.over {call : Call} {period : Rat} (h : call.plain period) : call.over period := by
  cases call <;> first | exact h | trivial

section
variable {id k : String} {calls calls' : List Call} {call : Call}

theorem Free.append (h : Free id calls) (h' : Free id calls') : Free id (calls ++ calls') := by
  intro call hcall
  rcases List.mem_append.1 hcall with hin | hin
  · exact h call hin
  · exact h' call hin

theorem Call.plain.undriven {period : Rat} (h : call.plain period) (id : String) :
    call.drives id = false := by
  cases call <;> first | rfl | exact h.elim

def Call.isStep : Call → Bool
  | .tickSession .. => true
  | _ => false

theorem Call.plain.unstepped {period : Rat} (h : call.plain period) : call.isStep = false := by
  cases call <;> first | rfl | exact h.elim

theorem free_of_plain {period : Rat} (h : ∀ call ∈ calls, call.plain period) (id : String) :
    Free id calls := fun call hcall => (h call hcall).undriven id

theorem free_of_asides (h : ∀ call ∈ calls, call.aside) (id : String) : Free id calls :=
  free_of_plain (fun call hcall => (h call hcall).plain 0) id

theorem tickedBy_of_undriven (h : call.drives id = false) (ticked : Bool) :
    tickedBy id ticked call = ticked := by
  cases call with
  | startSession id' =>
    have hne : (id' != id) = true := by rw [bne, show (id' == id) = false from h]; rfl
    simp [tickedBy, hne]
  | tickSession id' => simp [tickedBy, show (id' == id) = false from h]
  | _ => rfl

theorem tickedSince_free (h : Free id calls') :
    tickedSince id (calls ++ calls') = tickedSince id calls := by
  unfold tickedSince
  rw [List.foldl_append]
  generalize calls.foldl (tickedBy id) false = ticked
  induction calls' with
  | nil => rfl
  | cons call calls' ih =>
    rw [List.foldl_cons, tickedBy_of_undriven (h call List.mem_cons_self)]
    exact ih fun c hc => h c (List.mem_cons_of_mem _ hc)

theorem tickedSince_started {request : SessionRequest} {feedback : JointFeedback} {period : Rat}
    {answer : MotionStatus} (h : Free id calls') :
    tickedSince id (calls ++ .startSession id request feedback period answer :: calls') = false := by
  rw [List.append_cons, tickedSince_free h]
  simp [tickedSince, List.foldl_append, tickedBy]

end

/-- The one element of its kind is found in one place. -/
theorem split_unique {α : Type} {p : α → Bool} {xs ys pre post : List α} {a b : α}
    (h : xs ++ a :: ys = pre ++ b :: post) (hxs : ∀ x ∈ xs, p x = false) (hys : ∀ y ∈ ys, p y = false)
    (hb : p b = true) : xs = pre ∧ a = b ∧ ys = post := by
  have hnot : ∀ zs : List α, (∀ z ∈ zs, p z = false) → b ∉ zs := fun zs hzs hin => by
    rw [hzs b hin] at hb
    cases hb
  exact (List.append_cons_inj_of_notMem (hnot xs hxs) (hnot ys hys)).1 h

/-- It is not found at the end of a list that has none. -/
theorem split_front {α : Type} {p : α → Bool} {more after pre post : List α} {b : α}
    (hb : p b = true) (hafter : ∀ x ∈ after, p x = false) (h : more ++ after = pre ++ b :: post) :
    ∃ post', more = pre ++ b :: post' := by
  have hnot : b ∉ after := fun hin => by
    rw [hafter b hin] at hb
    cases hb
  rcases List.append_eq_append_iff.1 h with ⟨late, -, hlate⟩ | ⟨post', hmore, hpost⟩
  · exact absurd (hlate ▸ by simp) hnot
  · cases post' with
    | nil => exact absurd ((List.nil_append after ▸ hpost) ▸ List.mem_cons_self) hnot
    | cons x post' =>
      obtain ⟨rfl, -⟩ := List.cons.inj hpost
      exact ⟨post', hmore⟩

theorem split_middle {α : Type} {p : α → Bool} {before more after pre post : List α} {b : α}
    (hb : p b = true) (hbefore : ∀ x ∈ before, p x = false) (hafter : ∀ x ∈ after, p x = false)
    (h : before ++ (more ++ after) = pre ++ b :: post) :
    ∃ pre' post', pre = before ++ pre' ∧ more = pre' ++ b :: post' := by
  rcases List.append_eq_append_iff.1 h with ⟨pre', rfl, hrest⟩ | ⟨rest, rfl, hrest⟩
  · obtain ⟨post', hmore⟩ := split_front hb hafter hrest
    exact ⟨pre', post', rfl, hmore⟩
  · cases rest with
    | nil =>
      have hnil : more ++ after = [] ++ b :: post := hrest.symm
      obtain ⟨post', hmore⟩ := split_front hb hafter hnil
      exact ⟨[], post', by simp, hmore⟩
    | cons x rest =>
      obtain ⟨rfl, -⟩ := List.cons.inj hrest
      rw [hbefore b (by simp)] at hb
      cases hb

/-! ## The turns of one tick -/

namespace Tick

variable {β : Type} {B : Platform β} {lib : MathLib} {ctx : TickContext}

/-- What stands before a step of `id`: the session runs and nothing of it does, or its start from
the feedback of the tick. -/
def StepOk (ctx : TickContext) (s : TickState (β × List Call)) (id : String) (pre : List Call)
    (period : Rat) : Prop :=
  period = s.pipeline.currentPeriodSec ∧ ∃ session, s.pipeline.sessions[id]? = some session ∧
    ((session.backendStarted = true ∧ Free id pre) ∨
      ∃ selected answer mid late, selectFeedback ctx.feedback session.jointNames = .ok selected ∧
        pre = mid ++ .startSession id session.request selected s.pipeline.currentPeriodSec answer ::
          late ∧ Free id mid ∧ Free id late)

/-- The calls of the turns of `ids`. -/
structure TurnCalls (ctx : TickContext) (ids : List String) (s s' : TickState (β × List Call))
    (more : List Call) : Prop where
  calls : callsOf s' = callsOf s ++ more
  clock : clockOf s' = clockOf s
  finals : ∀ call ∈ more, call.over s.pipeline.currentPeriodSec
  free : ∀ k ∉ ids, Free k more
  others : ∀ k ∉ ids, s'.pipeline.sessions[k]? = s.pipeline.sessions[k]?
  steps : ∀ pre id target period post, more = pre ++ .tickSession id target period :: post →
    StepOk ctx s id pre period
  ran : ∀ id ∈ ids, Unstarted id s' ∨ ∃ target period, .tickSession id target period ∈ more

theorem Grows.turnCalls {id : String} {s s' : TickState (β × List Call)} (h : Grows s s')
    (hidle : Unstarted id s') (hothers : ∀ k ∉ [id], s'.pipeline.sessions[k]? = s.pipeline.sessions[k]?) :
    ∃ more, TurnCalls ctx [id] s s' more := by
  obtain ⟨more, hcalls, hplain⟩ := h.logs
  refine ⟨more, hcalls, h.clock, fun call hcall => (hplain call hcall).over,
    fun k _ => free_of_plain hplain k, hothers, ?_, ?_⟩
  · rintro pre id target period post rfl
    exact (hplain (.tickSession id target period) (by simp)).elim
  · rintro k hk
    exact .inl (List.mem_singleton.1 hk ▸ hidle)

/-- A start or a step of the session among plain calls. -/
theorem over_and_free {id : String} {period : Rat} {c : Call} {before after : List Call}
    (hcall : c.over period) (hdrives : ∀ k ∉ [id], c.drives k = false)
    (hbefore : ∀ x ∈ before, x.plain period)
    (hafter : (∀ x ∈ after, x.over period) ∧ ∀ k ∉ [id], Free k after) :
    (∀ x ∈ before ++ c :: after, x.over period) ∧
      ∀ k ∉ [id], Free k (before ++ c :: after) := by
  constructor
  · rw [List.forall_mem_append, List.forall_mem_cons]
    exact ⟨fun x hx => (hbefore x hx).over, hcall, hafter.1⟩
  · intro k hk
    exact (free_of_plain hbefore k).append (List.forall_mem_cons.2 ⟨hdrives k hk, hafter.2 k hk⟩)

/-- One turn. -/
theorem TurnLog.calls {id : String} {s s' : TickState (β × List Call)} (h : TurnLog B ctx id s s')
    (hothers : ∀ k ∉ [id], s'.pipeline.sessions[k]? = s.pipeline.sessions[k]?) :
    ∃ more, TurnCalls ctx [id] s s' more := by
  have hdriven : ∀ k ∉ [id], (id == k) = false := fun k hk =>
    beq_eq_false_iff_ne.2 fun heq => hk (heq ▸ List.mem_singleton_self id)
  have hplains : ∀ {b : List Call}, (∀ c ∈ b, c.plain s.pipeline.currentPeriodSec) →
      (∀ c ∈ b, c.over s.pipeline.currentPeriodSec) ∧ ∀ k ∉ [id], Free k b := fun hb =>
    ⟨fun c hc => (hb c hc).over, fun k _ => free_of_plain hb k⟩
  cases h with
  | still hgrows _ hidle => exact hgrows.turnCalls hidle hothers
  | began session selected s₁ hfound hstopped hselected hgrows hmoved hretry hbegan hidle =>
    obtain ⟨a, ha, hplain⟩ := hgrows.logs
    obtain ⟨answer, ⟨b, hb, hplain'⟩, hclock⟩ := hbegan
    rw [hgrows.period] at hb hplain'
    obtain ⟨hover, hfree⟩ := over_and_free (c := .startSession id session.request selected
      s.pipeline.currentPeriodSec answer) trivial hdriven hplain (hplains hplain')
    refine ⟨_, by rw [hb, ha, List.append_assoc, List.append_assoc]; rfl,
      hclock.trans hgrows.clock, hover, hfree, hothers, ?_, ?_⟩
    · intro pre k target period post hsplit
      have hmem : Call.tickSession k target period ∈ a ++ Call.startSession id session.request selected
          s.pipeline.currentPeriodSec answer :: b := hsplit ▸ by simp
      rcases List.mem_append.1 hmem with hin | hin
      · exact (hplain _ hin).elim
      · rcases List.mem_cons.1 hin with heq | hin
        · cases heq
        · exact (hplain' _ hin).elim
    · rintro k hk
      exact .inl (List.mem_singleton.1 hk ▸ hidle)
  | stepped session s₁ hfound hstarted hgrows hstep =>
    obtain ⟨a, ha, hplain⟩ := hgrows.logs
    obtain ⟨⟨b, hb, hplain'⟩, hclock⟩ := hstep
    rw [hgrows.period] at hb hplain'
    obtain ⟨hover, hfree⟩ := over_and_free (c := .tickSession id (dynamicTarget session.request)
      s.pipeline.currentPeriodSec) trivial hdriven hplain (hplains hplain')
    refine ⟨_, by rw [hb, ha, List.append_assoc, List.append_assoc]; rfl,
      hclock.trans hgrows.clock, hover, hfree, hothers, ?_, ?_⟩
    · intro pre k target period post hsplit
      obtain ⟨rfl, heq, -⟩ := split_unique hsplit (fun c hc => (hplain c hc).unstepped)
        (fun c hc => (hplain' c hc).unstepped) rfl
      cases heq
      exact ⟨rfl, session, hfound, .inl ⟨hstarted, free_of_plain hplain id⟩⟩
    · rintro k hk
      rw [List.mem_singleton.1 hk]
      exact .inr ⟨dynamicTarget session.request, s.pipeline.currentPeriodSec, by simp⟩
  | both session session' selected s₁ s₂ hfound hstopped hselected hgrows hmoved hretry hbegan hstep =>
    obtain ⟨a, ha, hplain⟩ := hgrows.logs
    obtain ⟨answer, ⟨b, hb, hplain'⟩, hclock⟩ := hbegan
    obtain ⟨⟨d, hd, hplain''⟩, hclock'⟩ := hstep
    rw [hgrows.period] at hb hplain'
    have hperiod : s₂.pipeline.currentPeriodSec = s.pipeline.currentPeriodSec :=
      congrArg Prod.fst (hclock.trans hgrows.clock)
    rw [hperiod] at hd hplain''
    obtain ⟨hover, hfree⟩ := over_and_free (c := .startSession id session.request selected
      s.pipeline.currentPeriodSec answer) trivial hdriven hplain
      (over_and_free (c := .tickSession id (dynamicTarget session'.request)
        s.pipeline.currentPeriodSec) trivial hdriven hplain' (hplains hplain''))
    refine ⟨_, by rw [hd, hb, ha]; simp only [List.append_assoc, List.cons_append, List.nil_append],
      (hclock'.trans hclock).trans hgrows.clock, hover, hfree, hothers, ?_, ?_⟩
    · intro pre k target period post hsplit
      rw [← List.cons_append, ← List.append_assoc] at hsplit
      have hbefore : ∀ c ∈ a ++ Call.startSession id session.request selected
          s.pipeline.currentPeriodSec answer :: b, c.isStep = false := by
        rw [List.forall_mem_append, List.forall_mem_cons]
        exact ⟨fun c hc => (hplain c hc).unstepped, rfl, fun c hc => (hplain' c hc).unstepped⟩
      obtain ⟨rfl, heq, -⟩ := split_unique hsplit hbefore (fun c hc => (hplain'' c hc).unstepped) rfl
      cases heq
      exact ⟨rfl, session, hfound, .inr ⟨selected, answer, a, b, hselected, rfl,
        free_of_plain hplain id, free_of_plain hplain' id⟩⟩
    · rintro k hk
      rw [List.mem_singleton.1 hk]
      exact .inr ⟨dynamicTarget session'.request, s.pipeline.currentPeriodSec, by simp⟩

theorem TurnCalls.nil (s : TickState (β × List Call)) : TurnCalls ctx [] s s [] where
  calls := by simp
  clock := rfl
  finals := by simp
  free := fun _ _ _ h => by cases h
  others := fun _ _ => rfl
  steps := fun pre _ _ _ _ h => by cases pre <;> cases h
  ran := fun _ h => by cases h

/-- Another session and its calls do not matter. -/
theorem StepOk.before {id : String} {s s₁ : TickState (β × List Call)} {a pre : List Call}
    {period : Rat} (h : StepOk ctx s₁ id pre period) (hclock : clockOf s₁ = clockOf s)
    (hsession : s₁.pipeline.sessions[id]? = s.pipeline.sessions[id]?) (hfree : Free id a) :
    StepOk ctx s id (a ++ pre) period := by
  obtain ⟨hperiod, session, hfound, hrest⟩ := h
  have hsame : s₁.pipeline.currentPeriodSec = s.pipeline.currentPeriodSec :=
    congrArg Prod.fst hclock
  refine ⟨hperiod.trans hsame, session, hsession ▸ hfound, ?_⟩
  rcases hrest with ⟨hstarted, hpre⟩ | ⟨selected, answer, mid, late, hselected, rfl, hmid, hlate⟩
  · exact .inl ⟨hstarted, hfree.append hpre⟩
  · exact .inr ⟨selected, answer, a ++ mid, late, hselected, by rw [hsame, List.append_assoc],
      hfree.append hmid, hlate⟩

theorem TurnCalls.cons {id : String} {ids : List String} {s s₁ s' : TickState (β × List Call)}
    {a b : List Call} (hid : id ∉ ids) (h : TurnCalls ctx [id] s s₁ a)
    (h' : TurnCalls ctx ids s₁ s' b) : TurnCalls ctx (id :: ids) s s' (a ++ b) where
  calls := by rw [h'.calls, h.calls, List.append_assoc]
  clock := h'.clock.trans h.clock
  finals := by
    have hsame : s₁.pipeline.currentPeriodSec = s.pipeline.currentPeriodSec :=
      congrArg Prod.fst h.clock
    rw [List.forall_mem_append, ← hsame]
    exact ⟨hsame ▸ h.finals, h'.finals⟩
  free k hk := by
    rw [List.mem_cons, not_or] at hk
    exact (h.free k (by simpa using hk.1)).append (h'.free k hk.2)
  others k hk := by
    rw [List.mem_cons, not_or] at hk
    exact (h'.others k hk.2).trans (h.others k (by simpa using hk.1))
  steps := by
    intro pre k target period post hsplit
    -- the step is one of the first turn or one of the rest
    have hlater : ∀ pre', b = pre' ++ .tickSession k target period :: post →
        StepOk ctx s k (a ++ pre') period := by
      intro pre' hb
      have hne : k ∉ [id] := by
        intro hin
        have hdriven := h'.free id hid (.tickSession k target period) (hb ▸ by simp)
        rw [List.mem_singleton.1 hin] at hdriven
        simp [Call.drives] at hdriven
      exact (h'.steps pre' k target period post hb).before h.clock (h.others k hne) (h.free k hne)
    rcases List.append_eq_append_iff.1 hsplit with ⟨pre', rfl, hb⟩ | ⟨rest, ha, hrest⟩
    · exact hlater pre' hb
    · cases rest with
      | nil =>
        rw [List.append_nil] at ha
        exact ha ▸ (List.append_nil a ▸ hlater [] hrest.symm)
      | cons call rest =>
        obtain ⟨rfl, -⟩ := List.cons.inj hrest
        exact h.steps pre k target period rest ha
  ran k hk := by
    rcases List.mem_cons.1 hk with rfl | hin
    · rcases h.ran k (List.mem_singleton_self k) with hidle | ⟨target, period, hticked⟩
      · exact .inl fun session hs => hidle session (h'.others k hid ▸ hs)
      · exact .inr ⟨target, period, List.mem_append_left _ hticked⟩
    · rcases h'.ran k hin with hidle | ⟨target, period, hticked⟩
      · exact .inl hidle
      · exact .inr ⟨target, period, List.mem_append_right _ hticked⟩

/-- All turns of a tick. -/
theorem LoggedTurns.calls {ids : List String} {s s' : TickState (β × List Call)} (hnodup : ids.Nodup)
    (h : LoggedTurns B lib ctx ids s s') : ∃ more, TurnCalls ctx ids s s' more := by
  induction h with
  | nil s => exact ⟨[], .nil s⟩
  | cons id ids s s₁ s' hturn hrest ih =>
    obtain ⟨hid, hids⟩ := List.nodup_cons.1 hnodup
    have hlog : TurnLog B ctx id s s₁ := hturn.1
    obtain ⟨a, ha⟩ := hlog.calls fun k hk => hturn.2.1.others (by simpa using hk)
    obtain ⟨b, hb⟩ := ih hids
    exact ⟨a ++ b, ha.cons hid hb⟩

end Tick

/-! ## One tick -/

variable {β : Type} {B : Platform β} {lib : MathLib}

/-- The tick when the first winner has its turn. -/
def CommandPipeline.tickOpened (B : Platform β) (self : CommandPipeline β) (now : SteadyTime) :
    TickState β :=
  opened B (self.schedulingGap now) (self.tickArbitration B now).winnerSessionIds
    (self.tickOpening B now)

/-- What a tick asks of the platform, before, in and after the turns of the winners. -/
structure TickCalls (s : CommandPipeline (β × List Call)) (feedback : JointFeedback)
    (now : SteadyTime) (s' : CommandPipeline (β × List Call)) (before more after : List Call) :
    Prop where
  calls : s'.backend.2 = s.backend.2 ++ (before ++ (more ++ after))
  before : ∀ c ∈ before, c.aside
  after : ∀ c ∈ after, c.aside
  finals : ∀ c ∈ more, c.over (s.tickPeriod now)
  steps : ∀ pre id target period post, more = pre ++ .tickSession id target period :: post →
    StepOk (s.tickContext B.recorded feedback now) (s.tickOpened B.recorded now) id pre period
  ran : ∀ id, ¬ AtRest s' id → ∃ target period, .tickSession id target period ∈ more
  times : timesOf s' = (some now, s.periodSec, s.config)

theorem tickOpened_descends {s : CommandPipeline β} (h : Sound s) (feedback : JointFeedback)
    (now : SteadyTime) : Descends s (s.tickOpened B now).pipeline :=
  (tickStarted_elems h feedback now _).descends rfl

theorem tickOpened_period (s : CommandPipeline β) (now : SteadyTime) :
    (s.tickOpened B now).pipeline.currentPeriodSec = s.tickPeriod now := by
  unfold CommandPipeline.tickOpened
  rw [opened_period]
  exact foldl_frame (·.currentPeriodSec) (fun p id => CommandPipeline.terminate_period ..) _ _

theorem closed_atRest {ctx : TickContext} {s : TickState β} {id : String}
    (h : AtRest s.pipeline id) : AtRest (closed B ctx s).pipeline id := by
  have hread : AtRest (s.withBackend (B.steadyNow s.pipeline.backend).2).pipeline id := h.of_eq rfl
  have hdrop : AtRest (dropLate B (s.withBackend (B.steadyNow s.pipeline.backend).2)
      (ctx.now + ((B.steadyNow s.pipeline.backend).1 - ctx.enteredAt))).pipeline id :=
    foldl_atRest (fun _ _ h => h.terminate _ _ _) _ _ hread
  exact hdrop.of_eq rfl

variable {apart : Prop} {e₀ : β × List Call} {s : CommandPipeline (β × List Call)}

theorem tickOpened_tables (h : Tables apart B.logged e₀ s) (now : SteadyTime) :
    Tables apart B.logged e₀ (s.tickOpened B.recorded now).pipeline :=
  opened_tables _ _ (tickOpening_tables h now)

/-- What the SDK runs is in the active set. -/
theorem Tables.active_of_run {p : CommandPipeline (β × List Call)} {id : String}
    (h : Tables apart B.logged e₀ p) (hrun : ¬ AtRest p id) : id ∈ p.activeBackendSessions := by
  by_contra hnot
  refine hrun fun session hs => ?_
  by_contra hstarted
  exact hnot (Std.TreeSet.contains_iff_mem.1 ((h.rows id).active.2 ⟨session, hs, by simpa using hstarted⟩))

variable (lib) in
theorem tick_calls (hsound : Sound s) (h : Tables apart B.logged e₀ s) (feedback : JointFeedback)
    (now : SteadyTime) :
    ∃ before more after, TickCalls (B := B) s feedback now
      (exec B.recorded lib s (.tick feedback now)).2 before more after ∧
      ∀ event ∈ (s.tickOpened B.recorded now).events,
        event ∈ (exec B.recorded lib s (.tick feedback now)).1.events := by
  obtain ⟨s₂, hturns, hexec⟩ := tick_log B lib s feedback now hsound
  obtain ⟨more, hmore⟩ := LoggedTurns.calls (tick_winnersNodup (S := B.logged) h now) hturns
  obtain ⟨⟨early, hearly, hasides⟩, htimes, -⟩ := tickOpening_asides (B := B) s now
  have hopened := opened_asides (B := B) (s.schedulingGap now)
    (s.tickArbitration B.recorded now).winnerSessionIds (s.tickOpening B.recorded now)
  obtain ⟨mid, hmid, hasides'⟩ := hopened.logs
  have hclosed := closed_asides (B := B) (s.tickContext B.recorded feedback now) s₂
  obtain ⟨after, hafter, hasides''⟩ := hclosed.logs
  have hclock := hmore.clock
  rw [hexec]
  refine ⟨early ++ mid, more, after, ⟨?_, ?_, hasides'', ?_, hmore.steps, ?_, ?_⟩, ?_⟩
  · rw [hafter, show s₂.pipeline.backend.2 = _ from hmore.calls,
      show callsOf (opened ..) = _ from hmid, hearly]
    simp
  · rw [List.forall_mem_append]
    exact ⟨hasides, hasides'⟩
  · rw [← tickOpened_period (B := B.recorded)]
    exact hmore.finals
  · intro id hrun
    have hrun₂ : ¬ AtRest s₂.pipeline id := fun hrest => hrun (closed_atRest hrest)
    by_cases hid : id ∈ (s.tickArbitration B.recorded now).winnerSessionIds
    · exact (hmore.ran id hid).resolve_left hrun₂
    · have hsame := hmore.others id hid
      have hopen : ¬ AtRest (s.tickOpened B.recorded now).pipeline id := fun hrest =>
        hrun₂ (hrest.of_eq hsame)
      have hactive := (tickOpened_tables h now).active_of_run hopen
      exact absurd (opened_active hactive) hid
  · rw [hclosed.times, show timesOf s₂.pipeline = _ from congrArg Prod.snd hclock]
    exact hopened.times.trans htimes
  · intro event hin
    have hkept : event ∈ s₂.events :=
      hturns.invariant (I := fun s => event ∈ s.events)
        (fun id _ t t' hturn hin => by
          have helems : Elems B.recorded (.tick feedback now) t t' := hturn.2.1.elems rfl
          exact helems.keeps_event hin) hin
    exact List.mem_append_left _ hkept

/-! ## The last tick of a run -/

def Op.tickTime : Op → Option SteadyTime
  | .tick _ now => some now
  | _ => none

/-- The times of the ticks of a run. -/
def tickTimes (ops : List Op) : List SteadyTime := ops.filterMap Op.tickTime

/-- The last tick of the past. -/
def lastTick (past : List (Machine.Stage (CommandPipeline (β × List Call)) Op Reply)) :
    Option (Machine.Stage (CommandPipeline (β × List Call)) Op Reply) :=
  (past.filter fun g => g.input.isTick).getLast?

section
variable {past : List (Machine.Stage (CommandPipeline (β × List Call)) Op Reply)}
  {g h : Machine.Stage (CommandPipeline (β × List Call)) Op Reply}

theorem lastTick_concat : lastTick (past ++ [g]) = if g.input.isTick then some g else lastTick past := by
  unfold lastTick
  rw [List.filter_append]
  split
  · rename_i htick
    simp [htick]
  · rename_i htick
    simp [htick]

theorem tickTimes_concat (ops : List Op) (op : Op) : (tickTimes (ops ++ [op])).getLast? =
    if op.isTick then op.tickTime else (tickTimes ops).getLast? := by
  unfold tickTimes
  rw [List.filterMap_append]
  cases op <;> simp [Op.isTick, Op.tickTime]

theorem lastTick_time (h : lastTick past = some g) : ∃ feedback last,
    g.input = .tick feedback last ∧ (tickTimes (past.map (·.input))).getLast? = some last := by
  induction past using List.reverseRecOn with
  | nil => cases h
  | append_singleton past x ih =>
    rw [lastTick_concat] at h
    rw [List.map_append, List.map_singleton, tickTimes_concat]
    split at h
    · rename_i htick
      cases h
      rw [if_pos htick]
      cases hop : g.input with
      | tick feedback last => exact ⟨feedback, last, rfl, rfl⟩
      | _ => rw [hop] at htick; cases htick
    · rename_i htick
      rw [if_neg htick]
      exact ih h

/-- The last tick has stepped the session, and nothing has moved it since. -/
structure LastRan (h : Machine.Stage (CommandPipeline (β × List Call)) Op Reply)
    (s : CommandPipeline (β × List Call)) (id : String) : Prop where
  asides : Logs Call.aside h.after.backend.2 s.backend.2
  stepped : ∃ target period, .tickSession id target period ∈ stageCalls h

/-- The pipeline knows the time of the last tick, which has stepped every session that is run. -/
structure Clocked (config : CommandPipelineConfig)
    (past : List (Machine.Stage (CommandPipeline (β × List Call)) Op Reply))
    (s : CommandPipeline (β × List Call)) : Prop where
  times : timesOf s = ((tickTimes (past.map (·.input))).getLast?, nominalPeriod config, config)
  ran : ∀ id, ¬ AtRest s id → ∃ h, lastTick past = some h ∧ LastRan h s id

end

/-- What is run after asides was run before them. -/
theorem startedIn_asides {id : String} {calls more : List Call} (hmore : ∀ c ∈ more, c.aside)
    (h : startedIn id (calls ++ more) = true) : startedIn id calls = true := by
  induction more using List.reverseRecOn with
  | nil => simpa using h
  | append_singleton more c ih =>
    rw [← List.append_assoc, startedIn_append] at h
    refine ih (fun c hc => hmore c (List.mem_append_left _ hc)) ?_
    have haside := hmore c (by simp)
    cases c with
    | steadyNow => exact h
    | stopSession id' => exact (Bool.and_eq_true_iff.1 h).1
    | _ => exact haside.elim

theorem alive_of_run {p : CommandPipeline (β × List Call)} {id : String}
    (h : Tables apart B.logged e₀ p) : ¬ AtRest p id ↔ startedIn id p.backend.2 = true := by
  have hrow := h.rows id
  constructor
  · intro hrun
    exact hrow.alive.2 (Std.TreeSet.contains_iff_mem.2 (h.active_of_run hrun))
  · intro halive hrest
    obtain ⟨session, hs, hstarted⟩ := hrow.active.1 (hrow.alive.1 halive)
    rw [hrest session hs] at hstarted
    cases hstarted

section
variable {config : CommandPipelineConfig} {op : Op}
  {past : List (Machine.Stage (CommandPipeline (β × List Call)) Op Reply)}

variable (lib) in
theorem Clocked.step (hc : Clocked config past s) (hsound : Sound s)
    (h : Tables False B.logged e₀ s) :
    Clocked config (past ++ [⟨s, op, (exec B.recorded lib s op).1, (exec B.recorded lib s op).2⟩])
      (exec B.recorded lib s op).2 := by
  have hafter : Tables False B.logged e₀ (exec B.recorded lib s op).2 :=
    exec_tables lib hsound h op False.elim
  by_cases htick : op.isTick = true
  · cases op with
    | tick feedback now =>
      obtain ⟨before, more, after, hcalls, -⟩ := tick_calls lib hsound h feedback now
      constructor
      · rw [hcalls.times, List.map_append, List.map_singleton, tickTimes_concat, if_pos htick,
          show s.periodSec = nominalPeriod config from congrArg (·.2.1) hc.times,
          show s.config = config from congrArg (·.2.2) hc.times]
        rfl
      · intro id hrun
        obtain ⟨target, period, hin⟩ := hcalls.ran id hrun
        refine ⟨_, lastTick_concat.trans (if_pos htick), .refl _ _, target, period, ?_⟩
        rw [stageCalls_eq hcalls.calls]
        exact List.mem_append_right _ (List.mem_append_left _ hin)
    | _ => cases htick
  · have hasides := exec_asides (B := B) lib s (by simpa using htick)
    constructor
    · rw [hasides.times, hc.times, List.map_append, List.map_singleton, tickTimes_concat,
        if_neg htick]
    · intro id hrun
      obtain ⟨more, hmore, haside⟩ := hasides.logs
      have halive := (alive_of_run hafter).1 hrun
      rw [hmore] at halive
      obtain ⟨g, hg, hran⟩ :=
        hc.ran id ((alive_of_run h).2 (startedIn_asides haside halive))
      exact ⟨g, lastTick_concat.trans ((if_neg htick).trans hg),
        hran.asides.trans hasides.logs, hran.stepped⟩

/-! ## The period of a tick -/

variable {last now : SteadyTime}

theorem Clocked.gap_iff (hc : Clocked config past s)
    (hlast : (tickTimes (past.map (·.input))).getLast? = some last) (hlt : last < now) :
    s.schedulingGap now = true ↔
      max (nominalPeriod config) (seconds config.maxControlPeriod) < seconds (now - last) := by
  obtain ⟨htime, hperiod, hconfig⟩ : s.lastTickTime = some last ∧
      s.periodSec = nominalPeriod config ∧ s.config = config := by
    have h := hc.times
    rw [hlast] at h
    exact ⟨congrArg (·.1) h, congrArg (·.2.1) h, congrArg (·.2.2) h⟩
  simp [CommandPipeline.schedulingGap, CommandPipeline.elapsedSec, CommandPipeline.maxPeriodSec,
    htime, hperiod, hconfig, hlt]

theorem Clocked.period (hc : Clocked config past s)
    (hlast : (tickTimes (past.map (·.input))).getLast? = some last) (hlt : last < now) :
    s.tickPeriod now = if s.schedulingGap now then nominalPeriod config else seconds (now - last) := by
  obtain ⟨htime, hperiod⟩ : s.lastTickTime = some last ∧ s.periodSec = nominalPeriod config := by
    have h := hc.times
    rw [hlast] at h
    exact ⟨congrArg (·.1) h, congrArg (·.2.1) h⟩
  simp [CommandPipeline.tickPeriod, CommandPipeline.schedulingGap, CommandPipeline.elapsedSec, htime,
    hperiod, hlt]

end

theorem not_atRest {p : CommandPipeline β} {id : String} {session : Session}
    (hfound : p.sessions[id]? = some session) (hstarted : session.backendStarted = true) :
    ¬ AtRest p id := by
  intro hrest
  rw [hrest session hfound] at hstarted
  cases hstarted

/-! ## The opening of a tick -/

/-- What is run when the turns begin was run before the tick, and no gap has come. -/
theorem tickOpened_run (h : Tables apart B.logged e₀ s) (now : SteadyTime) {id : String}
    (hrun : ¬ AtRest (s.tickOpened B.recorded now).pipeline id) :
    s.schedulingGap now = false ∧ ¬ AtRest s id := by
  have hopening := tickOpening_tables (S := B.logged) h now
  have hgap : ¬ AtRest (afterGap B.recorded (s.schedulingGap now)
      (s.tickOpening B.recorded now).pipeline) id := fun hrest => hrun (opened_atRest _ hrest)
  have hbefore : ¬ AtRest (s.tickOpening B.recorded now).pipeline id := by
    intro hrest
    refine hgap ?_
    unfold afterGap
    split
    · exact foldl_atRest (fun _ k h => h.gapped k) _ _ hrest
    · exact hrest
  constructor
  · by_contra htrue
    rw [Bool.not_eq_false] at htrue
    refine hgap ?_
    unfold afterGap
    rw [if_pos htrue]
    exact foldl_gapped_atRest (Std.TreeSet.mem_toList.2 (hopening.active_of_run hbefore)) _
  · intro hrest
    exact hbefore (foldl_atRest (fun _ _ h => h.terminate _ _ _) _ _ (hrest.of_eq rfl))

/-- A gap ends an active Move, and an event tells so. -/
theorem tickOpened_moves (h : Tables apart B.logged e₀ s) (now : SteadyTime) {id : String}
    {session : Session} (hgap : s.schedulingGap now = true) (hactive : id ∈ s.activeBackendSessions)
    (hfound : s.sessions[id]? = some session) (hmove : isMove session.kind = true) :
    (s.tickOpened B.recorded now).pipeline.sessions[id]? = none ∧
      { sessionId := id, state := .aborted, status := gapStatus } ∈
        (s.tickOpened B.recorded now).events := by
  have hopening := tickOpening_tables (S := B.logged) h now
  -- no lease of a Move runs out
  have hkept : (s.tickOpening B.recorded now).pipeline.sessions[id]? = some session := by
    have hlive : id ∉ (s.tickArbitration B.recorded now).expiredServoIds := by
      intro hexpired
      obtain ⟨claim, hclaim, hover⟩ := (s.arbiter.mem_expiredServos _).1 hexpired
      obtain ⟨state, hstate, hkind, -⟩ := (h.rows id).claimed session hfound
      obtain rfl : claim = state := Option.some.inj (hclaim.symm.trans hstate)
      have hservo : isServo session.kind = true := hkind ▸ (Bool.and_eq_true_iff.1 hover).1
      rw [isMove, hservo] at hmove
      cases hmove
    exact (CommandPipeline.endAll_sessions ..).trans ((if_neg hlive).trans hfound)
  have hstarted := (h.rows id).active.1 (Std.TreeSet.contains_iff_mem.2 hactive)
  have hin := Std.TreeSet.contains_iff_mem.1 ((hopening.rows id).active.2
    ⟨session, hkept, by
      obtain ⟨stored, hstored, hrun⟩ := hstarted
      cases (show s.sessions[id]? = some stored from hstored).symm.trans hfound
      exact hrun⟩)
  have hended : GapEnded (afterGap B.recorded (s.schedulingGap now)
      (s.tickOpening B.recorded now).pipeline) id := by
    unfold afterGap
    rw [if_pos hgap]
    exact foldl_gapped_ended hmove (Std.TreeSet.mem_toList.2 hin) _ hkept
  constructor
  · exact foldl_deactivate_none _ _ hended.gone
  · exact List.mem_append_right _ hended.event

/-! ## The steps of every run -/

/-- The calls of one tick. -/
def tickCalls (B : Platform β) (lib : MathLib) (s : CommandPipeline (β × List Call))
    (feedback : JointFeedback) (now : SteadyTime) : List Call :=
  (exec B.recorded lib s (.tick feedback now)).2.backend.2.drop s.backend.2.length

theorem TickCalls.steps_in {feedback : JointFeedback} {now : SteadyTime}
    {s' : CommandPipeline (β × List Call)} {before more after pre post : List Call} {id : String}
    {target : DynamicTarget} {period : Rat}
    (h : TickCalls (B := B) s feedback now s' before more after)
    (hsplit : before ++ (more ++ after) = pre ++ .tickSession id target period :: post) :
    ∃ pre', pre = before ++ pre' ∧
      StepOk (s.tickContext B.recorded feedback now) (s.tickOpened B.recorded now) id pre' period := by
  obtain ⟨pre', post', rfl, hmore⟩ := split_middle (p := Call.isStep) rfl
    (fun c hc => ((h.before c hc).plain 0).unstepped)
    (fun c hc => ((h.after c hc).plain 0).unstepped) hsplit
  exact ⟨pre', rfl, h.steps pre' id target period post' hmore⟩

theorem run_clocked (B : Platform β) (lib : MathLib) (e : β) (groups : List JointGroupModel)
    (config : CommandPipelineConfig) (ops : List Op) :
    Clocked config
      ((machine B.recorded lib).trace (CommandPipeline.create (e, []) groups config) ops)
      ((machine B.recorded lib).run (CommandPipeline.create (e, []) groups config) ops) := by
  have hinit : Clocked config [] (CommandPipeline.create (e, ([] : List Call)) groups config) := by
    refine ⟨rfl, fun id hrun => (hrun fun session hs => ?_).elim⟩
    simp [CommandPipeline.create] at hs
  have hrun := Machine.history_invariant (M := machine B.recorded lib)
    (H := fun past s => Sound s ∧ Tables False B.logged (e, []) s ∧ Clocked config past s)
    (fun past s op h => ⟨exec_sound s h.1 op, exec_tables lib h.1 h.2.1 op False.elim,
      h.2.2.step lib h.1 h.2.1⟩)
    ⟨Initial.sound ⟨_, _, _, rfl⟩, create_tables groups config (B.logged_fresh e), hinit⟩ ops
  exact hrun.2.2

/-- In every run whose ticks come at increasing times: a step of a session that is not its first
since its start follows a step in the tick before, over the time between the two, which is within
the largest period, and so are the final RTCs of the tick. In a tick after a longer time every active
Move is aborted and not stepped, and every session that is stepped has been started before in that
tick, from its feedback and with the nominal period. -/
theorem integrates_elapsed_time (B : Platform β) (lib : MathLib) (e : β)
    (groups : List JointGroupModel) (config : CommandPipelineConfig) (ops : List Op)
    (feedback : JointFeedback) (now : SteadyTime)
    (htimes : (tickTimes (ops ++ [.tick feedback now])).Pairwise (· < ·)) :
    let past := (machine B.recorded lib).trace (CommandPipeline.create (e, []) groups config) ops
    let s := (machine B.recorded lib).run (CommandPipeline.create (e, []) groups config) ops
    let calls := tickCalls B lib s feedback now
    let longest := max (nominalPeriod config) (seconds config.maxControlPeriod)
    (∀ pre id target period post, calls = pre ++ .tickSession id target period :: post →
      tickedSince id (s.backend.2 ++ pre) = true →
      ∃ g feedback' last, lastTick past = some g ∧ g.input = .tick feedback' last ∧
        (∃ target' period', .tickSession id target' period' ∈ stageCalls g) ∧
        (∃ between, s.backend.2 ++ pre = g.after.backend.2 ++ between ∧ Free id between) ∧
        period = seconds (now - last) ∧ period ≤ longest ∧
        ∀ group candidate period', .updateFinalJointTarget group candidate period' ∈ calls →
          period' = period) ∧
    ∀ last, (tickTimes ops).getLast? = some last → longest < seconds (now - last) →
      (∀ id session, id ∈ s.activeBackendSessions → s.sessions[id]? = some session →
        isMove session.kind = true →
        { sessionId := id, state := .aborted, status := gapStatus } ∈
            (exec B.recorded lib s (.tick feedback now)).1.events ∧
          ∀ target period, .tickSession id target period ∉ calls) ∧
      ∀ pre id target period post, calls = pre ++ .tickSession id target period :: post →
        ∃ session selected answer mid late, s.sessions[id]? = some session ∧
          selectFeedback feedback session.jointNames = .ok selected ∧
          pre = mid ++ .startSession id session.request selected (nominalPeriod config) answer ::
            late ∧ Free id mid ∧ Free id late := by
  intro past s calls longest
  obtain ⟨hsound, htables⟩ : Sound s ∧ Tables False B.logged (e, []) s :=
    run_tables groups config (B.logged_fresh e) ops
  have hclock : Clocked config past s := run_clocked B lib e groups config ops
  have hinputs : past.map (·.input) = ops := Machine.trace_inputs _ ops
  obtain ⟨before, more, after, hcalls, hevents⟩ := tick_calls lib hsound htables feedback now
  have hasked : calls = before ++ (more ++ after) := by
    change List.drop _ _ = _
    rw [hcalls.calls, List.drop_left]
  have hearlier : ∀ last, (tickTimes ops).getLast? = some last → last < now := by
    intro last hlast
    unfold tickTimes at htimes hlast
    rw [List.filterMap_append, List.pairwise_append] at htimes
    exact htimes.2.2 last (List.mem_of_getLast? hlast) now (by simp [Op.tickTime])
  constructor
  · intro pre id target period post hsplit hticked
    obtain ⟨pre', rfl, hperiod, session, hfound, hstep⟩ := hcalls.steps_in (hasked ▸ hsplit)
    rw [tickOpened_period] at hperiod hstep
    rcases hstep with ⟨hstarted, hfree'⟩ | ⟨selected, answer, mid, late, -, rfl, -, hlate⟩
    · obtain ⟨hgap, hrun'⟩ := tickOpened_run htables now (not_atRest hfound hstarted)
      obtain ⟨g, hg, ⟨between, hbetween, hasides⟩, hstepped⟩ := hclock.ran id hrun'
      obtain ⟨feedback', last, hinput, hlast⟩ := lastTick_time hg
      have hlt := hearlier last (hinputs ▸ hlast)
      have hsame : s.tickPeriod now = seconds (now - last) := by
        rw [hclock.period hlast hlt, hgap]
        rfl
      refine ⟨g, feedback', last, hg, hinput, hstepped, ⟨between ++ (before ++ pre'), ?_, ?_⟩,
        hperiod.trans hsame, ?_, ?_⟩
      · rw [hbetween, List.append_assoc]
      · exact (free_of_asides hasides id).append ((free_of_asides hcalls.before id).append hfree')
      · rw [hperiod, hsame]
        exact not_lt.1 fun hlong => by
          rw [(hclock.gap_iff hlast hlt).2 hlong] at hgap
          cases hgap
      · intro group candidate period' hin
        rw [hasked] at hin
        rcases List.mem_append.1 hin with hin | hin
        · exact (hcalls.before _ hin).elim
        · rcases List.mem_append.1 hin with hin | hin
          · exact (hcalls.finals _ hin).trans hperiod.symm
          · exact (hcalls.after _ hin).elim
    · rw [← List.append_assoc, ← List.append_assoc, tickedSince_started hlate] at hticked
      cases hticked
  · intro last hlast hlong
    have hlt := hearlier last hlast
    rw [← hinputs] at hlast
    have hgap := (hclock.gap_iff hlast hlt).2 hlong
    constructor
    · intro id session hactive hfound hmove
      obtain ⟨hgone, hevent⟩ := tickOpened_moves htables now hgap hactive hfound hmove
      refine ⟨hevents _ hevent, fun target period hin => ?_⟩
      obtain ⟨pre, post, hsplit⟩ := List.append_of_mem hin
      obtain ⟨pre', -, -, stored, hstored, -⟩ := hcalls.steps_in (hasked ▸ hsplit)
      rw [hgone] at hstored
      cases hstored
    · intro pre id target period post hsplit
      obtain ⟨pre', rfl, -, session, hfound, hstep⟩ := hcalls.steps_in (hasked ▸ hsplit)
      rw [tickOpened_period, hclock.period hlast hlt, if_pos hgap] at hstep
      rcases hstep with ⟨hstarted, -⟩ | ⟨selected, answer, mid, late, hselected, rfl, hmid, hlate⟩
      · rw [(tickOpened_run htables now (not_atRest hfound hstarted)).1] at hgap
        cases hgap
      · obtain ⟨old, hold, hsame⟩ := tickOpened_descends hsound feedback now id session hfound
        refine ⟨old, selected, answer, before ++ mid, late, hold, hsame.jointNames ▸ hselected, ?_,
          (free_of_asides hcalls.before id).append hmid, hlate⟩
        rw [hsame.request, List.append_assoc]

namespace Fixture

/-- A Move that two ticks run. -/
def twoTicks : List Op :=
  [endpoint "mv" .moveJ "left" 10, moveJ "mv" "l" "left" leftJoints 0, tick 10, tick 20]

end Fixture

open Fixture in
/-- Half a second later the Move is aborted. -/
theorem integrates_elapsed_time_gap :
    let s := (machine FakeSdk.platform.toPlatform.recorded mathLib).run
      (CommandPipeline.create ({}, []) allGroups {}) twoTicks
    { sessionId := "l", state := .aborted, status := gapStatus } ∈
        (exec FakeSdk.platform.toPlatform.recorded mathLib s
          (.tick (feedback 520) (milliseconds 520))).1.events := by
  intro s
  have hstored : (s.sessions["l"]?).isSome = true := by decide +kernel
  have hmove : ((s.sessions["l"]?).map (isMove ·.kind)) = some true := by decide +kernel
  have hactive : s.activeBackendSessions.contains "l" = true := by decide +kernel
  obtain ⟨session, hfound⟩ := Option.isSome_iff_exists.1 hstored
  rw [hfound] at hmove
  exact (((integrates_elapsed_time FakeSdk.platform.toPlatform mathLib {} allGroups {}
    twoTicks (feedback 520) (milliseconds 520) (by decide)).2 (milliseconds 20) rfl
      (by decide +kernel)).1 "l" session (Std.TreeSet.contains_iff_mem.1 hactive) hfound (Option.some.inj hmove)).1

end HumanoidMotion
