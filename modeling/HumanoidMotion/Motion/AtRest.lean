import HumanoidMotion.Motion.TickRun
/-
# Sessions that the SDK does not run

Before the first winner has its turn, a tick stops the sessions that no longer win,
and after a scheduling gap all of them.

* `AtRest` — kept by every part of the opening.
* `opened_active` — only winners are run when the turns begin.
* `foldl_gapped_atRest`, `foldl_gapped_ended` — after a gap no session is run, and the
  Moves are gone, with an event.
-/

namespace HumanoidMotion

open Tick

/-- The SDK does not run the session, if there is one. -/
def AtRest {γ : Type} (p : CommandPipeline γ) (id : String) : Prop :=
  ∀ session, p.sessions[id]? = some session → session.backendStarted = false

section
variable {γ : Type} {P : Platform γ} {p : CommandPipeline γ} {id k : String}

theorem AtRest.of_eq {p' : CommandPipeline γ} (h : AtRest p id)
    (heq : p'.sessions[id]? = p.sessions[id]?) : AtRest p' id :=
  fun session hs => h session (heq ▸ hs)

theorem AtRest.terminate (h : AtRest p id) (state : SessionState) (status : MotionStatus)
    (preserve : Bool) : AtRest (p.terminate P k state status preserve) id := by
  intro session hs
  rw [CommandPipeline.terminate_sessions] at hs
  split at hs
  · cases hs
  · exact h session hs

theorem AtRest.paused (h : AtRest p id) (session : Session) : AtRest (pauseServo P p k session) id := by
  intro stored hs
  simp only [pauseServo, Std.TreeMap.getElem?_insert, Std.LawfulEqOrd.compare_eq_iff_eq] at hs
  split at hs
  · cases hs
    rfl
  · exact h stored hs

theorem AtRest.gapped (h : AtRest p id) (k : String) : AtRest (gapped P p k) id := by
  unfold Tick.gapped
  split
  · exact h
  · split
    · exact h.terminate _ _ _
    · exact h.paused _

theorem gapped_atRest (p : CommandPipeline γ) (id : String) : AtRest (gapped P p id) id := by
  unfold Tick.gapped
  split
  · rename_i hnone
    intro session hs
    rw [hnone] at hs
    cases hs
  · split
    · intro session hs
      rw [CommandPipeline.terminate_sessions, if_pos rfl] at hs
      cases hs
    · intro stored hs
      simp only [pauseServo, Std.TreeMap.getElem?_insert_self, Option.some.injEq] at hs
      exact hs ▸ rfl

theorem AtRest.deactivate (h : AtRest p id) (k : String) : AtRest (deactivate P p k) id := by
  unfold Tick.deactivate
  split
  · exact h
  · intro stored hs
    simp only [Std.TreeMap.getElem?_insert, Std.LawfulEqOrd.compare_eq_iff_eq] at hs
    split at hs
    · cases hs
      rfl
    · exact h stored hs

theorem foldl_atRest {α : Type} {f : CommandPipeline γ → α → CommandPipeline γ}
    (hf : ∀ p a, AtRest p id → AtRest (f p a) id) :
    ∀ (as : List α) (p : CommandPipeline γ), AtRest p id → AtRest (as.foldl f p) id
  | [], _, h => h
  | a :: as, p, h => foldl_atRest hf as (f p a) (hf p a h)

/-- The loop over the active sessions leaves none of them to the SDK. -/
theorem foldl_gapped_atRest {ids : List String} (hid : id ∈ ids) (p : CommandPipeline γ) :
    AtRest (ids.foldl (Tick.gapped P) p) id := by
  induction ids generalizing p with
  | nil => cases hid
  | cons k ids ih =>
    rw [List.foldl_cons]
    rcases List.mem_cons.1 hid with rfl | hin
    · exact foldl_atRest (fun _ k h => h.gapped k) ids _ (gapped_atRest p id)
    · exact ih hin _

theorem deactivate_active (p : CommandPipeline γ) (k : String) :
    id ∈ (Tick.deactivate P p k).activeBackendSessions ↔ id ≠ k ∧ id ∈ p.activeBackendSessions := by
  unfold Tick.deactivate
  split <;> simp [Std.TreeSet.mem_erase, eq_comm (a := k)]

theorem foldl_deactivate_active : ∀ (ids : List String) (p : CommandPipeline γ),
    id ∈ (ids.foldl (Tick.deactivate P) p).activeBackendSessions ↔
      id ∉ ids ∧ id ∈ p.activeBackendSessions
  | [], p => by simp
  | k :: ids, p => by
    rw [List.foldl_cons, foldl_deactivate_active ids, deactivate_active, List.mem_cons, not_or]
    tauto

theorem foldl_deactivate_none (ids : List String) (p : CommandPipeline γ)
    (h : p.sessions[id]? = none) : (ids.foldl (Tick.deactivate P) p).sessions[id]? = none := by
  induction ids generalizing p with
  | nil => exact h
  | cons k ids ih =>
    refine ih _ ?_
    unfold Tick.deactivate
    split
    · exact h
    · rename_i stored hstored
      have hne : k ≠ id := by
        rintro rfl
        rw [h] at hstored
        cases hstored
      simp only [Std.TreeMap.getElem?_insert, Std.LawfulEqOrd.compare_eq_iff_eq, if_neg hne, h]

/-- After the opening only winners are run. -/
theorem opened_active {gap : Bool} {winners : List String} {s : TickState γ}
    (h : id ∈ (opened P gap winners s).pipeline.activeBackendSessions) : id ∈ winners := by
  have hactive := (foldl_deactivate_active _ _).1 h
  by_contra hnot
  refine hactive.1 ?_
  simp only [activeOutside, List.mem_filter, Std.TreeSet.mem_toList]
  exact ⟨hactive.2, by simpa using hnot⟩

theorem opened_atRest {gap : Bool} (winners : List String) {s : TickState γ}
    (h : AtRest (afterGap P gap s.pipeline) id) : AtRest (opened P gap winners s).pipeline id :=
  foldl_atRest (fun _ k h => h.deactivate k) _ _ (h.of_eq rfl)

/-- A Move that a gap meets is ended, and an event tells so. -/
structure GapEnded (p : CommandPipeline γ) (id : String) : Prop where
  gone : p.sessions[id]? = none
  event : { sessionId := id, state := .aborted, status := gapStatus } ∈ p.pendingEvents

theorem GapEnded.gapped (h : GapEnded p id) (k : String) : GapEnded (Tick.gapped P p k) id := by
  unfold Tick.gapped
  split
  · exact h
  · rename_i session hfound
    have hne : k ≠ id := by
      rintro rfl
      rw [h.gone] at hfound
      cases hfound
    split
    · refine ⟨?_, ?_⟩
      · rw [CommandPipeline.terminate_sessions, h.gone]
        simp
      · rw [CommandPipeline.terminate_pending]
        exact List.mem_append_left _ h.event
    · refine ⟨?_, h.event⟩
      simp only [pauseServo, Std.TreeMap.getElem?_insert, Std.LawfulEqOrd.compare_eq_iff_eq,
        if_neg hne, h.gone]

theorem foldl_gapEnded (ids : List String) (p : CommandPipeline γ) (h : GapEnded p id) :
    GapEnded (ids.foldl (Tick.gapped P) p) id := by
  induction ids generalizing p with
  | nil => exact h
  | cons k ids ih => exact ih _ (h.gapped k)

theorem foldl_gapped_ended {session : Session} (hmove : isMove session.kind = true)
    {ids : List String} (hid : id ∈ ids) (p : CommandPipeline γ)
    (hfound : p.sessions[id]? = some session) : GapEnded (ids.foldl (Tick.gapped P) p) id := by
  induction ids generalizing p with
  | nil => cases hid
  | cons k ids ih =>
    rw [List.foldl_cons]
    by_cases hk : k = id
    · subst hk
      refine foldl_gapEnded ids _ ?_
      unfold Tick.gapped
      rw [hfound]
      simp only [hmove, if_true]
      have hin : k ∈ p.sessions := (CommandPipeline.mem_sessions_iff p k).2 ⟨session, hfound⟩
      exact ⟨by simp, by rw [CommandPipeline.terminate_pending, if_pos hin]; simp⟩
    · refine ih ((List.mem_cons.1 hid).resolve_left (Ne.symm hk)) _ ?_
      unfold Tick.gapped
      split
      · exact hfound
      · split
        · rw [CommandPipeline.terminate_sessions, if_neg (Ne.symm hk), hfound]
        · simp only [pauseServo, Std.TreeMap.getElem?_insert, Std.LawfulEqOrd.compare_eq_iff_eq,
            if_neg hk, hfound]

/-- Events already in the result stay there. -/
theorem Elem.keeps_event {op : Op} {s s' : TickState γ} (h : Elem P op s s') {event : SessionEvent}
    (hin : event ∈ s.events) : event ∈ s'.events := by
  cases h with
  | running => exact List.mem_append_left _ hin
  | flush => exact List.mem_append_left _ hin
  | _ => exact hin

theorem Elems.keeps_event {op : Op} {s s' : TickState γ} (h : Elems P op s s')
    {event : SessionEvent} (hin : event ∈ s.events) : event ∈ s'.events :=
  h.invariant (I := fun s => event ∈ s.events) (fun _ _ he => he.keeps_event) hin

end

end HumanoidMotion
