import HumanoidMotion.Motion.Pipeline
/-
# What `terminate` does

`terminate` is called from some twenty places. These lemmas say what it does to
each table: it takes one session out of all of them, queues one event, drops the
session's permits unless it is told to keep them, and touches nothing else.
`endAll` is the loop that all its callers with a list of ids run.
-/

namespace HumanoidMotion

namespace CommandPipeline

variable {β : Type} {B : Platform β} (p : CommandPipeline β) (id : String) (state : SessionState)
  (status : MotionStatus) (preserve : Bool)

/-! ## What it leaves alone -/

theorem terminate_none (h : p.sessions[id]? = none) :
    p.terminate B id state status preserve = if preserve then p else p.revokeSession id := by
  simp only [terminate, h]

theorem terminate_some {session : Session} (h : p.sessions[id]? = some session) :
    p.terminate B id state status preserve =
      (if preserve then p else p.revokeSession id).removeSession B id session state status := by
  simp only [terminate, h]

/-- A part of the state that neither revoking nor removing touches. -/
theorem terminate_frame {γ : Type} (f : CommandPipeline β → γ)
    (hrevoke : ∀ q : CommandPipeline β, f (q.revokeSession id) = f q)
    (hremove : ∀ (q : CommandPipeline β) session,
      f (q.removeSession B id session state status) = f q) :
    f (p.terminate B id state status preserve) = f p := by
  cases hfound : p.sessions[id]? with
  | none =>
    rw [terminate_none p id state status preserve hfound]
    cases preserve
    · exact hrevoke p
    · rfl
  | some session =>
    rw [terminate_some p id state status preserve hfound, hremove]
    cases preserve
    · exact hrevoke p
    · rfl

@[simp] theorem terminate_groups : (p.terminate B id state status preserve).groups = p.groups :=
  terminate_frame p id state status preserve (fun q => q.groups) (fun _ => rfl) (fun _ _ => rfl)

@[simp] theorem terminate_endpoints :
    (p.terminate B id state status preserve).endpoints = p.endpoints :=
  terminate_frame p id state status preserve (fun q => q.endpoints) (fun _ => rfl) (fun _ _ => rfl)

@[simp] theorem terminate_config : (p.terminate B id state status preserve).config = p.config :=
  terminate_frame p id state status preserve (fun q => q.config) (fun _ => rfl) (fun _ _ => rfl)

@[simp] theorem terminate_monitorConfig :
    (p.terminate B id state status preserve).monitor.config = p.monitor.config :=
  terminate_frame p id state status preserve (fun q => q.monitor.config) (fun _ => rfl) (fun _ _ => rfl)

@[simp] theorem terminate_policies :
    (p.terminate B id state status preserve).arbiter.policies = p.arbiter.policies :=
  terminate_frame p id state status preserve (fun q => q.arbiter.policies) (fun _ => rfl) (fun _ _ => rfl)

@[simp] theorem terminate_token :
    (p.terminate B id state status preserve).nextPublicationToken = p.nextPublicationToken :=
  terminate_frame p id state status preserve (fun q => q.nextPublicationToken) (fun _ => rfl) (fun _ _ => rfl)

@[simp] theorem terminate_outputEnabled :
    (p.terminate B id state status preserve).outputEnabled = p.outputEnabled :=
  terminate_frame p id state status preserve (fun q => q.outputEnabled) (fun _ => rfl) (fun _ _ => rfl)

@[simp] theorem terminate_outputGeneration :
    (p.terminate B id state status preserve).outputGeneration = p.outputGeneration :=
  terminate_frame p id state status preserve (fun q => q.outputGeneration) (fun _ => rfl) (fun _ _ => rfl)

@[simp] theorem terminate_period :
    (p.terminate B id state status preserve).currentPeriodSec = p.currentPeriodSec :=
  terminate_frame p id state status preserve (fun q => q.currentPeriodSec) (fun _ => rfl) (fun _ _ => rfl)

/-! ## What it takes away -/

/-- The pipeline once the permits have been dealt with. -/
theorem kept_eq {γ : Type} (f : CommandPipeline β → γ)
    (hrevoke : ∀ q : CommandPipeline β, f (q.revokeSession id) = f q) :
    f (if preserve then p else p.revokeSession id) = f p := by
  cases preserve
  · exact hrevoke p
  · rfl

theorem mem_sessions_iff : id ∈ p.sessions ↔ ∃ session, p.sessions[id]? = some session := by
  rw [Std.TreeMap.mem_iff_isSome_getElem?, Option.isSome_iff_exists]

@[simp] theorem terminate_sessions (k : String) :
    (p.terminate B id state status preserve).sessions[k]? =
      if k = id then none else p.sessions[k]? := by
  have hkept := p.kept_eq id preserve (fun q => q.sessions) (fun _ => rfl)
  cases hfound : p.sessions[id]? with
  | none =>
    rw [terminate_none p id state status preserve hfound, hkept]
    split
    · subst_vars; exact hfound
    · rfl
  | some session =>
    rw [terminate_some p id state status preserve hfound]
    simp only [removeSession, hkept, Std.TreeMap.getElem?_erase, Std.LawfulEqOrd.compare_eq_iff_eq,
      eq_comm (a := id)]

/-- The entry of `id` in a table is taken out when `id` has a session; other entries stay. -/
theorem terminate_entry {γ : Type} (table : CommandPipeline β → StringMap γ)
    (hrevoke : ∀ q : CommandPipeline β, table (q.revokeSession id) = table q)
    (hremove : ∀ (q : CommandPipeline β) session,
      table (q.removeSession B id session state status) = (table q).erase id) (k : String) :
    (table (p.terminate B id state status preserve))[k]? =
      if k = id ∧ id ∈ p.sessions then none else (table p)[k]? := by
  have hkept := p.kept_eq id preserve table hrevoke
  cases hfound : p.sessions[id]? with
  | none =>
    have hmem : id ∉ p.sessions := by simp [mem_sessions_iff, hfound]
    rw [terminate_none p id state status preserve hfound, hkept, if_neg (fun h => hmem h.2)]
  | some session =>
    have hmem : id ∈ p.sessions := by simp [mem_sessions_iff, hfound]
    rw [terminate_some p id state status preserve hfound]
    simp only [hremove, hkept, Std.TreeMap.getElem?_erase, Std.LawfulEqOrd.compare_eq_iff_eq, hmem,
      and_true, eq_comm (a := id)]

theorem terminate_claims (k : String) :
    (p.terminate B id state status preserve).arbiter.claims[k]? =
      if k = id ∧ id ∈ p.sessions then none else p.arbiter.claims[k]? :=
  terminate_entry p id state status preserve (fun q => q.arbiter.claims) (fun _ => rfl)
    (fun _ _ => rfl) k

theorem terminate_goals (k : String) :
    (p.terminate B id state status preserve).monitor.goals[k]? =
      if k = id ∧ id ∈ p.sessions then none else p.monitor.goals[k]? :=
  terminate_entry p id state status preserve (fun q => q.monitor.goals) (fun _ => rfl)
    (fun _ _ => rfl) k

theorem mem_terminate_active (k : String) :
    k ∈ (p.terminate B id state status preserve).activeBackendSessions ↔
      k ∈ p.activeBackendSessions ∧ ¬ (k = id ∧ id ∈ p.sessions) := by
  have hkept := p.kept_eq id preserve (fun q => q.activeBackendSessions) (fun _ => rfl)
  cases hfound : p.sessions[id]? with
  | none =>
    have hmem : id ∉ p.sessions := by simp [mem_sessions_iff, hfound]
    rw [terminate_none p id state status preserve hfound, hkept]
    simp [hmem]
  | some session =>
    have hmem : id ∈ p.sessions := by simp [mem_sessions_iff, hfound]
    rw [terminate_some p id state status preserve hfound]
    simp [removeSession, hkept, hmem, Std.TreeSet.mem_erase, and_comm, eq_comm (a := id)]

theorem terminate_pending :
    (p.terminate B id state status preserve).pendingEvents = p.pendingEvents ++
      if id ∈ p.sessions then [{ sessionId := id, state, status }] else [] := by
  have hkept := p.kept_eq id preserve (fun q => q.pendingEvents) (fun _ => rfl)
  cases hfound : p.sessions[id]? with
  | none =>
    rw [terminate_none p id state status preserve hfound, hkept]
    simp [mem_sessions_iff, hfound]
  | some session =>
    rw [terminate_some p id state status preserve hfound]
    simp [removeSession, hkept, mem_sessions_iff, hfound]

theorem terminate_backend :
    (p.terminate B id state status preserve).backend =
      if id ∈ p.sessions then (B.stopSession p.backend id).2 else p.backend := by
  have hkept := p.kept_eq id preserve (fun q => q.backend) (fun _ => rfl)
  cases hfound : p.sessions[id]? with
  | none =>
    rw [terminate_none p id state status preserve hfound, hkept]
    simp [mem_sessions_iff, hfound]
  | some session =>
    rw [terminate_some p id state status preserve hfound]
    simp [removeSession, hkept, mem_sessions_iff, hfound]

theorem terminate_permits (joint : String) :
    (p.terminate B id state status preserve).publicationPermits[joint]? =
      (p.publicationPermits[joint]?).filter fun permit => preserve || permit.1 != id := by
  have hkept : (if preserve then p else p.revokeSession id).publicationPermits[joint]? =
      (p.publicationPermits[joint]?).filter fun permit => preserve || permit.1 != id := by
    cases preserve
    · simp [revokeSession]
    · simp only [if_true, Bool.true_or]
      cases p.publicationPermits[joint]? <;> rfl
  cases hfound : p.sessions[id]? with
  | none => rw [terminate_none p id state status preserve hfound]; exact hkept
  | some session => rw [terminate_some p id state status preserve hfound]; exact hkept

@[simp] theorem revokeOutputs_permits (joints : List String) (joint : String) :
    (p.revokeOutputs joints).publicationPermits[joint]? =
      if joint ∈ joints then none else p.publicationPermits[joint]? := by
  unfold CommandPipeline.revokeOutputs
  simp only
  generalize p.publicationPermits = permits
  induction joints generalizing permits with
  | nil => simp
  | cons j joints ih =>
    simp only [List.foldl_cons, ih, Std.TreeMap.getElem?_erase, Std.LawfulEqOrd.compare_eq_iff_eq,
      List.mem_cons]
    by_cases hj : joint ∈ joints
    · simp [hj]
    · simp [hj, eq_comm (a := joint)]

/-! ## The loops that end several sessions -/

/-- The loop of `processPreemptions`, of the expired leases and of a revoked permission. -/
def endAll (B : Platform β) (state : SessionState) (status : MotionStatus)
    (p : CommandPipeline β) (ids : List String) : CommandPipeline β :=
  ids.foldl (fun p id => p.terminate B id state status) p

theorem processPreemptions_eq (ids : List String) :
    p.processPreemptions B ids = p.endAll B .preempted preemptedStatus ids := rfl

theorem processExpired_eq (ids : List String) :
    p.processExpired B ids = p.endAll B .aborted leaseExpiredStatus ids := rfl

/-- What a single termination keeps, the loop keeps. -/
theorem endAll_invariant {I : CommandPipeline β → Prop}
    (hstep : ∀ p id, I p → I (p.terminate B id state status)) :
    ∀ (ids : List String) (p : CommandPipeline β), I p → I (p.endAll B state status ids)
  | [], _, h => h
  | id :: ids, p, h => endAll_invariant hstep ids _ (hstep p id h)

theorem endAll_frame {γ : Type} (f : CommandPipeline β → γ)
    (hf : ∀ (p : CommandPipeline β) id, f (p.terminate B id state status) = f p)
    (ids : List String) : f (p.endAll B state status ids) = f p :=
  endAll_invariant state status (I := fun q => f q = f p) (fun q id h => (hf q id).trans h) ids p rfl

theorem endAll_sessions (ids : List String) (k : String) :
    (p.endAll B state status ids).sessions[k]? = if k ∈ ids then none else p.sessions[k]? := by
  induction ids generalizing p with
  | nil => simp [endAll]
  | cons id ids ih =>
    have hcons : p.endAll B state status (id :: ids) =
        (p.terminate B id state status).endAll B state status ids := rfl
    rw [hcons, ih, terminate_sessions]
    by_cases hk : k = id <;> simp [hk]

/-- The loop over all keys leaves no session. -/
theorem endAll_keys_sessions (id : String) :
    (p.endAll B state status p.sessions.keys).sessions[id]? = none := by
  rw [endAll_sessions]
  by_cases hid : id ∈ p.sessions.keys
  · rw [if_pos hid]
  · rw [if_neg hid]
    exact Std.TreeMap.getElem?_eq_none fun hmem => hid (Std.TreeMap.mem_keys.2 hmem)

theorem endAll_permits (ids : List String) (joint : String) :
    (p.endAll B state status ids).publicationPermits[joint]? =
      (p.publicationPermits[joint]?).filter fun permit => !ids.contains permit.1 := by
  induction ids generalizing p with
  | nil =>
    cases h : p.publicationPermits[joint]? with
    | none => simp [endAll, h]
    | some permit => simp [endAll, h, Option.filter]
  | cons id ids ih =>
    have hcons : p.endAll B state status (id :: ids) =
        (p.terminate B id state status).endAll B state status ids := rfl
    rw [hcons, ih, terminate_permits, Option.filter_filter]
    congr 1
    funext permit
    by_cases hid : permit.1 = id <;> simp [hid]

/-- The loop takes no event back. -/
theorem endAll_pending_mono (ids : List String) {e : SessionEvent} :
    e ∈ p.pendingEvents → e ∈ (p.endAll B state status ids).pendingEvents :=
  endAll_invariant state status (I := fun q : CommandPipeline β => e ∈ q.pendingEvents)
    (fun q id h => by rw [terminate_pending]; exact List.mem_append_left _ h) ids p

/-- Every session that the loop ends is reported. -/
theorem mem_endAll_pending {ids : List String} {session : Session} {id : String}
    (hfound : p.sessions[id]? = some session) (hid : id ∈ ids) :
    { sessionId := id, state, status } ∈ (p.endAll B state status ids).pendingEvents := by
  induction ids generalizing p with
  | nil => simp at hid
  | cons k ids ih =>
    have hcons : p.endAll B state status (k :: ids) =
        (p.terminate B k state status).endAll B state status ids := rfl
    rw [hcons]
    by_cases hk : id = k
    · subst hk
      have hmem : id ∈ p.sessions := (p.mem_sessions_iff id).2 ⟨session, hfound⟩
      refine endAll_pending_mono _ state status ids ?_
      simp [terminate_pending, hmem]
    · refine ih (p.terminate B k state status) ?_ ((List.mem_cons.1 hid).resolve_left hk)
      rw [terminate_sessions, if_neg hk, hfound]

end CommandPipeline

end HumanoidMotion
