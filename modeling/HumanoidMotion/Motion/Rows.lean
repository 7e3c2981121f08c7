import HumanoidMotion.Arbitration.Winners
import HumanoidMotion.Motion.Calls
/-
# One id in all the tables

A session has an entry in up to five tables of three objects: `sessions_`, the
arbiter's claims, `active_backend_sessions_`, the sessions alive in the SDK and
the goals of the monitor. `rowAt p id` collects the five, and `RowOk` says how
they fit together.

* `Row.ended` — what `terminate` makes of a row; `rowAt_terminate` and its loops.
* `Identity`, `Agrees` — the session belongs to its endpoint, and so does its claim.
* `Leased` — the claim carries the priority and the lease of its endpoint.
* `Tables` — every row is in order, and the SDK was never asked to start a live session.

`apart` stands for the rule that no servo target meets a Move under its own id.
A row that breaks it is complete, but its session may belong to another endpoint
than its claim.
-/

namespace HumanoidMotion

open Tick

variable {β : Type} {S : SessionPlatform β}

/-- What the tables hold under one id. -/
structure Row where
  session : Option Session
  claim : Option ClaimState
  active : Bool
  alive : Prop
  goal : Option GoalState

def rowAt (S : SessionPlatform β) (p : CommandPipeline β) (id : String) : Row where
  session := p.sessions[id]?
  claim := p.arbiter.claims[id]?
  active := p.activeBackendSessions.contains id
  alive := S.alive p.backend id
  goal := p.monitor.goals[id]?

namespace Row

def cleared : Row := ⟨none, none, false, False, none⟩

/-- The row once its session, if there is one, has been terminated. -/
def ended (r : Row) : Row := if r.session.isSome then cleared else r

theorem ended_ended (r : Row) : r.ended.ended = r.ended := by
  unfold ended
  split
  · rfl
  · rfl

theorem ended_of_some {r : Row} {session : Session} (h : r.session = some session) :
    r.ended = cleared := by
  simp [ended, h]

theorem ended_of_none {r : Row} (h : r.session = none) : r.ended = r := by
  simp [ended, h]

end Row

/-! ## Terminations, row by row -/

section
variable (p : CommandPipeline β) (id : String) (state : SessionState) (status : MotionStatus)
  (preserve : Bool)

theorem rowAt_terminate_ne {k : String} (hk : k ≠ id) :
    rowAt S (p.terminate S.toPlatform id state status preserve) k = rowAt S p k := by
  have hactive : (p.terminate S.toPlatform id state status preserve).activeBackendSessions.contains
      k = p.activeBackendSessions.contains k := by
    rw [Bool.eq_iff_iff, Std.TreeSet.contains_iff_mem, Std.TreeSet.contains_iff_mem,
      CommandPipeline.mem_terminate_active]
    simp [hk]
  have halive : S.alive (p.terminate S.toPlatform id state status preserve).backend k =
      S.alive p.backend k := by
    rw [CommandPipeline.terminate_backend]
    split
    · rw [S.alive_stopSession]
      simp [hk]
    · rfl
  simp only [rowAt, CommandPipeline.terminate_sessions, CommandPipeline.terminate_claims,
    CommandPipeline.terminate_goals, hactive, halive, hk, false_and, if_false]

theorem rowAt_terminate_self :
    rowAt S (p.terminate S.toPlatform id state status preserve) id = (rowAt S p id).ended := by
  cases hfound : p.sessions[id]? with
  | none =>
    rw [Row.ended_of_none hfound, CommandPipeline.terminate_none p id state status preserve hfound]
    cases preserve <;> rfl
  | some session =>
    have hmem : id ∈ p.sessions := (p.mem_sessions_iff id).2 ⟨session, hfound⟩
    have hactive : (p.terminate S.toPlatform id state status
        preserve).activeBackendSessions.contains id = false := by
      rw [← Bool.not_eq_true, Std.TreeSet.contains_iff_mem, CommandPipeline.mem_terminate_active]
      simp [hmem]
    have halive : S.alive (p.terminate S.toPlatform id state status preserve).backend id =
        False := by
      rw [CommandPipeline.terminate_backend, if_pos hmem, S.alive_stopSession]
      simp
    rw [Row.ended_of_some hfound]
    simp only [rowAt, CommandPipeline.terminate_sessions, CommandPipeline.terminate_claims,
      CommandPipeline.terminate_goals, hactive, halive, hmem, and_true, if_true, Row.cleared]

theorem rowAt_terminate (k : String) :
    rowAt S (p.terminate S.toPlatform id state status preserve) k =
      if k = id then (rowAt S p k).ended else rowAt S p k := by
  by_cases hk : k = id
  · subst hk
    rw [if_pos rfl, rowAt_terminate_self]
  · rw [if_neg hk, rowAt_terminate_ne p id state status preserve hk]

theorem rowAt_endAll (ids : List String) (k : String) :
    rowAt S (p.endAll S.toPlatform state status ids) k =
      if k ∈ ids then (rowAt S p k).ended else rowAt S p k := by
  induction ids generalizing p with
  | nil => simp [CommandPipeline.endAll]
  | cons id ids ih =>
    have hcons : p.endAll S.toPlatform state status (id :: ids) =
        (p.terminate S.toPlatform id state status).endAll S.toPlatform state status ids := rfl
    rw [hcons, ih, rowAt_terminate]
    by_cases hk : k = id
    · simp [hk, Row.ended_ended]
    · simp [hk]

theorem rowAt_settle (preempted expired : List String) (k : String) :
    rowAt S (p.settle S.toPlatform preempted expired) k =
      if k ∈ preempted ∨ k ∈ expired then (rowAt S p k).ended else rowAt S p k := by
  unfold CommandPipeline.settle
  rw [rowAt_endAll, rowAt_endAll]
  by_cases h : k ∈ expired
  · by_cases h' : k ∈ preempted
    · simp [h, h', Row.ended_ended]
    · simp [h, h']
  · by_cases h' : k ∈ preempted
    · simp [h, h']
    · simp [h, h']

theorem terminate_lawful :
    Lawful S p.backend (p.terminate S.toPlatform id state status preserve).backend := by
  rw [CommandPipeline.terminate_backend]
  split
  · exact (LawfulCall.stopSession _ _).lawful
  · exact .refl _

theorem endAll_lawful (ids : List String) :
    Lawful S p.backend (p.endAll S.toPlatform state status ids).backend := by
  induction ids generalizing p with
  | nil => exact .refl _
  | cons id ids ih => exact (terminate_lawful p id state status false).trans (ih _)

theorem settle_lawful (preempted expired : List String) :
    Lawful S p.backend (p.settle S.toPlatform preempted expired).backend :=
  (endAll_lawful p _ _ preempted).trans (endAll_lawful _ _ _ expired)

end

/-! ## A row in order -/

/-- The session belongs to its endpoint: kind, group and joints are those of the endpoint's policy,
and a servo session stands under the id derived from the endpoint. -/
structure Identity (p : CommandPipeline β) (id : String) (session : Session) : Prop where
  key : session.sessionId = id
  policy : ∃ policy, p.endpoints[session.endpointName]? = some policy ∧
    policy.kind = session.kind ∧ policy.groupName = session.groupName
  requestGroup : groupName session.request = session.groupName
  group : ∃ group, p.groups[session.groupName]? = some group ∧
    group.jointNames = session.jointNames
  servo : isServo session.kind = true → id = servoId session.endpointName

/-- The claim in the arbiter is the session's own. -/
structure Agrees (session : Session) (state : ClaimState) : Prop where
  claim : state.claim = CommandPipeline.claimOf session.endpointName session
  time : state.receivedAt = session.submittedAt

/-- The claim carries what the policy of its endpoint says. -/
structure Leased (p : CommandPipeline β) (state : ClaimState) : Prop where
  policy : ∃ policy, p.endpoints[state.claim.endpointName]? = some policy ∧
    policy.kind = state.claim.kind ∧ state.priority = policy.priority ∧
    state.lease = policy.servoLease

structure RowOk (apart : Prop) (p : CommandPipeline β) (id : String) (r : Row) : Prop where
  identity : apart → ∀ session, r.session = some session → Identity p id session
  claimed : ∀ session, r.session = some session →
    ∃ state, r.claim = some state ∧ state.claim.kind = session.kind ∧ (apart → Agrees session state)
  unclaimed : r.session = none → r.claim = none
  leased : ∀ state, r.claim = some state → Leased p state
  active : r.active = true ↔ ∃ session, r.session = some session ∧ session.backendStarted = true
  alive : r.alive ↔ r.active = true
  goal : ∀ goal, r.goal = some goal →
    ∃ session, r.session = some session ∧ (apart → isServo session.kind = false)

theorem Identity.transfer {p p' : CommandPipeline β} {id : String} {session : Session}
    (h : Identity p id session) (hg : p'.groups = p.groups)
    (he : ∀ (name : String) policy, p.endpoints[name]? = some policy →
      p'.endpoints[name]? = some policy) : Identity p' id session := by
  obtain ⟨policy, hpolicy, hkind, hgroup⟩ := h.policy
  exact ⟨h.key, ⟨policy, he _ _ hpolicy, hkind, hgroup⟩, h.requestGroup, hg ▸ h.group, h.servo⟩

/-- Versions of one session that differ in what the SDK has done. -/
theorem Identity.client {p : CommandPipeline β} {id : String} {session session' : Session}
    (h : Identity p id session) (hsame : session.SameClient session') :
    Identity p id session' := by
  have hkind : session'.kind = session.kind := by
    rw [Session.kind, Session.kind, hsame.request]
  constructor
  · rw [hsame.sessionId]; exact h.key
  · rw [hsame.endpointName, hkind, hsame.groupName]; exact h.policy
  · rw [hsame.request, hsame.groupName]; exact h.requestGroup
  · rw [hsame.groupName, hsame.jointNames]; exact h.group
  · rw [hkind, hsame.endpointName]; exact h.servo

theorem Agrees.client {session session' : Session} {state : ClaimState} (h : Agrees session state)
    (hsame : session.SameClient session') : Agrees session' state := by
  constructor
  · rw [h.claim]
    simp only [CommandPipeline.claimOf, Session.kind, hsame.sessionId, hsame.endpointName,
      hsame.groupName, hsame.jointNames, hsame.request]
  · rw [hsame.submittedAt]; exact h.time

theorem Leased.transfer {p p' : CommandPipeline β} {state : ClaimState} (h : Leased p state)
    (he : ∀ (name : String) policy, p.endpoints[name]? = some policy →
      p'.endpoints[name]? = some policy) : Leased p' state := by
  obtain ⟨policy, hpolicy, hrest⟩ := h.policy
  exact ⟨policy, he _ _ hpolicy, hrest⟩

variable {apart : Prop}

theorem RowOk.cleared (p : CommandPipeline β) (id : String) : RowOk apart p id Row.cleared where
  identity := by simp [Row.cleared]
  claimed := by simp [Row.cleared]
  unclaimed := by simp [Row.cleared]
  leased := by simp [Row.cleared]
  active := by simp [Row.cleared]
  alive := by simp [Row.cleared]
  goal := by simp [Row.cleared]

theorem RowOk.ended {p : CommandPipeline β} {id : String} {r : Row} (h : RowOk apart p id r) :
    RowOk apart p id r.ended := by
  unfold Row.ended
  split
  · exact .cleared p id
  · exact h

theorem RowOk.transfer {p p' : CommandPipeline β} {id : String} {r : Row} (h : RowOk apart p id r)
    (hg : p'.groups = p.groups) (he : ∀ (name : String) policy, p.endpoints[name]? = some policy →
      p'.endpoints[name]? = some policy) : RowOk apart p' id r :=
  ⟨fun ha session hs => (h.identity ha session hs).transfer hg he, h.claimed, h.unclaimed,
    fun state hs => (h.leased state hs).transfer he, h.active, h.alive, h.goal⟩

/-- A session that is not marked as started is neither active nor alive. -/
theorem RowOk.idle {p : CommandPipeline β} {id : String} {r : Row} (h : RowOk apart p id r)
    (hnone : ∀ session, r.session = some session → session.backendStarted = false) :
    r.active = false ∧ ¬ r.alive := by
  have hactive : ¬ r.active = true := by
    intro ha
    obtain ⟨session, hs, hstarted⟩ := h.active.1 ha
    rw [hnone session hs] at hstarted
    cases hstarted
  exact ⟨Bool.eq_false_iff.2 hactive, fun ha => hactive (h.alive.1 ha)⟩

/-- Every row is in order, the claims are well stored, and since `e₀` the SDK was never asked to
start a live session. -/
structure Tables (apart : Prop) (S : SessionPlatform β) (e₀ : β) (p : CommandPipeline β) : Prop where
  arbiter : p.arbiter.Ok
  rows : ∀ id, RowOk apart p id (rowAt S p id)
  lawful : Lawful S e₀ p.backend

variable {e₀ : β} {p p' : CommandPipeline β}

/-- New rows that are in order, with the same configuration. -/
theorem Tables.of_rows (h : Tables apart S e₀ p) (hg : p'.groups = p.groups)
    (he : p'.endpoints = p.endpoints) (harb : p'.arbiter.Ok) (hlaw : Lawful S p.backend p'.backend)
    (hrows : ∀ id, RowOk apart p id (rowAt S p' id)) : Tables apart S e₀ p' where
  arbiter := harb
  rows id := (hrows id).transfer hg fun _ _ hp => by rw [he]; exact hp
  lawful := h.lawful.trans hlaw

/-- The same tables, with calls that neither start nor stop a session. -/
theorem Tables.quiet (h : Tables apart S e₀ p) (hg : p'.groups = p.groups)
    (he : p'.endpoints = p.endpoints) (harb : p'.arbiter = p.arbiter)
    (hsessions : p'.sessions = p.sessions)
    (hactive : p'.activeBackendSessions = p.activeBackendSessions)
    (hgoals : p'.monitor.goals = p.monitor.goals)
    (hquiet : Quiet S.toPlatform p.backend p'.backend) : Tables apart S e₀ p' := by
  refine h.of_rows hg he (harb ▸ h.arbiter) hquiet.lawful fun id => ?_
  have hrow : rowAt S p' id = rowAt S p id := by
    simp only [rowAt, hsessions, harb, hactive, hgoals, S.alive_quiet hquiet]
  rw [hrow]
  exact h.rows id

theorem terminate_arbiterOk (h : p.arbiter.Ok) (id : String) (state : SessionState)
    (status : MotionStatus) (preserve : Bool) :
    (p.terminate S.toPlatform id state status preserve).arbiter.Ok := by
  cases hfound : p.sessions[id]? with
  | none =>
    rw [CommandPipeline.terminate_none p id state status preserve hfound]
    cases preserve
    · exact h
    · exact h
  | some session =>
    rw [CommandPipeline.terminate_some p id state status preserve hfound]
    cases preserve
    · exact h.release id
    · exact h.release id

theorem Tables.terminate (h : Tables apart S e₀ p) (id : String) (state : SessionState)
    (status : MotionStatus) (preserve : Bool) :
    Tables apart S e₀ (p.terminate S.toPlatform id state status preserve) := by
  refine h.of_rows (by simp) (by simp) (terminate_arbiterOk h.arbiter id state status preserve)
    (terminate_lawful p id state status preserve) fun k => ?_
  rw [rowAt_terminate]
  split
  · exact (h.rows k).ended
  · exact h.rows k

theorem Tables.endAll (h : Tables apart S e₀ p) (state : SessionState) (status : MotionStatus)
    (ids : List String) : Tables apart S e₀ (p.endAll S.toPlatform state status ids) :=
  CommandPipeline.endAll_invariant state status (fun _ id h => h.terminate id state status false)
    ids p h

/-! ## What the SDK has done with a session -/

/-- A stored session may change in what the SDK has done, as long as it stays started. -/
theorem Tables.progress {id : String} {session : Session} (h : Tables apart S e₀ p)
    (hfound : p.sessions[id]? = some session) (session' : Session) (hsame : session.SameClient session')
    (hstarted : session'.backendStarted = session.backendStarted) (hg : p'.groups = p.groups)
    (he : p'.endpoints = p.endpoints) (harb : p'.arbiter = p.arbiter)
    (hsessions : p'.sessions = p.sessions.insert id session')
    (hactive : p'.activeBackendSessions = p.activeBackendSessions)
    (hgoals : p'.monitor.goals = p.monitor.goals) (hb : p'.backend = p.backend) :
    Tables apart S e₀ p' := by
  refine h.of_rows hg he (harb ▸ h.arbiter) (hb ▸ .refl _) fun k => ?_
  have hrow := h.rows k
  have hnew : rowAt S p' k = if k = id then { rowAt S p k with session := some session' }
      else rowAt S p k := by
    by_cases hk : k = id
    · subst hk
      simp [rowAt, hsessions, harb, hactive, hgoals, hb]
    · simp [rowAt, hsessions, harb, hactive, hgoals, hb, Std.TreeMap.getElem?_insert, hk,
        Ne.symm hk]
  rw [hnew]
  split
  · rename_i hk
    subst hk
    constructor
    · rintro ha _ ⟨rfl⟩
      exact (hrow.identity ha session hfound).client hsame
    · rintro _ ⟨rfl⟩
      obtain ⟨state, hstate, hkind, hagrees⟩ := hrow.claimed session hfound
      refine ⟨state, hstate, ?_, fun ha => (hagrees ha).client hsame⟩
      rw [hkind, Session.kind, Session.kind, hsame.request]
    · intro hs
      cases hs
    · exact hrow.leased
    · refine hrow.active.trans ?_
      simp only [show (rowAt S p k).session = some session from hfound, Option.some.injEq,
        exists_eq_left', hstarted]
    · exact hrow.alive
    · intro goal hgoal
      obtain ⟨old, hold, hmove⟩ := hrow.goal goal hgoal
      obtain rfl : session = old := Option.some.inj (hfound.symm.trans hold)
      refine ⟨session', rfl, fun ha => ?_⟩
      rw [Session.kind, hsame.request]
      exact hmove ha
  · exact hrow

/-- Stopping a session in the SDK: it is no longer active, no longer alive, and not started. -/
theorem Tables.pause (id : String) (h : Tables apart S e₀ p) (hg : p'.groups = p.groups)
    (he : p'.endpoints = p.endpoints) (harb : p'.arbiter = p.arbiter)
    (hsessions : ∀ k : String, p'.sessions[k]? = if k = id
      then (p.sessions[k]?).map fun session => { session with backendStarted := false }
      else p.sessions[k]?)
    (hactive : p'.activeBackendSessions = p.activeBackendSessions.erase id)
    (hgoals : p'.monitor.goals = p.monitor.goals)
    (hb : p'.backend = (S.stopSession p.backend id).2) : Tables apart S e₀ p' := by
  refine h.of_rows hg he (harb ▸ h.arbiter) (hb ▸ (LawfulCall.stopSession _ _).lawful) fun k => ?_
  have hrow := h.rows k
  by_cases hk : k = id
  · subst hk
    have hnew : rowAt S p' k = ⟨(p.sessions[k]?).map fun session =>
        { session with backendStarted := false }, p.arbiter.claims[k]?, false, False,
        p.monitor.goals[k]?⟩ := by
      have halive : S.alive p'.backend k = False := by
        rw [hb, S.alive_stopSession]
        simp
      have hgone : p'.activeBackendSessions.contains k = false := by
        rw [hactive]
        simp [Std.TreeSet.contains_erase]
      simp only [rowAt, hsessions, if_true, harb, hgone, halive, hgoals]
    rw [hnew]
    cases hfound : p.sessions[k]? with
    | none =>
      have hclaim := hrow.unclaimed hfound
      constructor
      · intro _ session hs
        cases hs
      · intro session hs
        cases hs
      · exact fun _ => hclaim
      · exact hrow.leased
      · simp
      · simp
      · intro goal hgoal
        obtain ⟨old, hold, -⟩ := hrow.goal goal hgoal
        rw [show (rowAt S p k).session = none from hfound] at hold
        cases hold
    | some session =>
      have hsame : session.SameClient { session with backendStarted := false } :=
        ⟨rfl, rfl, rfl, rfl, rfl, rfl⟩
      constructor
      · rintro ha _ ⟨rfl⟩
        exact (hrow.identity ha session hfound).client hsame
      · rintro _ ⟨rfl⟩
        obtain ⟨state, hstate, hkind, hagrees⟩ := hrow.claimed session hfound
        exact ⟨state, hstate, hkind, fun ha => (hagrees ha).client hsame⟩
      · intro hs
        cases hs
      · exact hrow.leased
      · simp
      · simp
      · intro goal hgoal
        obtain ⟨old, hold, hmove⟩ := hrow.goal goal hgoal
        obtain rfl : session = old := Option.some.inj (hfound.symm.trans hold)
        exact ⟨_, rfl, hmove⟩
  · have hnew : rowAt S p' k = rowAt S p k := by
      have halive : S.alive p'.backend k = S.alive p.backend k := by
        rw [hb, S.alive_stopSession]
        simp [hk]
      have hstays : p'.activeBackendSessions.contains k = p.activeBackendSessions.contains k := by
        rw [hactive]
        simp [Std.TreeSet.contains_erase, Ne.symm hk]
      simp only [rowAt, hsessions, hk, if_false, harb, hstays, halive, hgoals]
    rw [hnew]
    exact hrow

/-! ## Arbitration -/

theorem endAll_arbiterOk (h : p.arbiter.Ok) (state : SessionState) (status : MotionStatus)
    (ids : List String) : (p.endAll S.toPlatform state status ids).arbiter.Ok :=
  CommandPipeline.endAll_invariant state status (I := fun q : CommandPipeline β => q.arbiter.Ok)
    (fun _ id h => terminate_arbiterOk h id state status false) ids p h

/-- An arbitration that takes claims away, and ends the sessions of exactly these: every row that
held a claim before either keeps it or is cleared. -/
theorem RowOk.arbitrated {id : String} {arbiter : ControlArbiter} {preempted expired : List String}
    (h : RowOk apart p id (rowAt S p id))
    (hgone : id ∈ preempted ∨ id ∈ expired → arbiter.claims[id]? = none)
    (hkept : ¬ (id ∈ preempted ∨ id ∈ expired) → arbiter.claims[id]? = p.arbiter.claims[id]?) :
    RowOk apart p id (rowAt S ((p.withArbiter arbiter).settle S.toPlatform preempted expired) id) := by
  rw [rowAt_settle]
  have hrow : rowAt S (p.withArbiter arbiter) id =
      { rowAt S p id with claim := arbiter.claims[id]? } := rfl
  split
  · rename_i hout
    cases hsession : p.sessions[id]? with
    | none =>
      have hsame : arbiter.claims[id]? = p.arbiter.claims[id]? :=
        (hgone hout).trans (h.unclaimed hsession).symm
      rw [Row.ended_of_none hsession, hrow, hsame]
      exact h
    | some session =>
      rw [Row.ended_of_some hsession]
      exact .cleared p id
  · rename_i hin
    rw [hrow, hkept hin]
    exact h

/-- The state after an arbitration, when its rows are in order: `q` is the state once the arbiter has
decided and the session is stored, and settling ends the sessions that lost. -/
theorem Tables.of_settled {preempted expired : List String} (h : Tables apart S e₀ p)
    (q : CommandPipeline β) (hg : q.groups = p.groups) (he : q.endpoints = p.endpoints)
    (harb : q.arbiter.Ok) (hb : q.backend = p.backend)
    (hg' : p'.groups = (q.settle S.toPlatform preempted expired).groups)
    (he' : p'.endpoints = (q.settle S.toPlatform preempted expired).endpoints)
    (ha' : p'.arbiter = (q.settle S.toPlatform preempted expired).arbiter)
    (hb' : p'.backend = (q.settle S.toPlatform preempted expired).backend)
    (hrows : ∀ id, RowOk apart p id (rowAt S p' id)) : Tables apart S e₀ p' := by
  refine h.of_rows ?_ ?_ ?_ ?_ hrows
  · rw [hg', CommandPipeline.settle_frame _ (fun q => q.groups) (by simp)]
    exact hg
  · rw [he', CommandPipeline.settle_frame _ (fun q => q.endpoints) (by simp)]
    exact he
  · rw [ha']
    exact endAll_arbiterOk (endAll_arbiterOk harb _ _ _) _ _ _
  · rw [hb', ← hb]
    exact settle_lawful q preempted expired

end HumanoidMotion
