import HumanoidMotion.Motion.FakeSdk
import HumanoidMotion.Motion.Tables
/-
# Consistency of the tables in every run

The callers keep one rule (`MoveIdsFree`): no Move carries an id derived from an
endpoint. Then every servo target meets a servo session, and beside `Tables` the
map from endpoints to servo sessions is kept.

* `Named` — which names are registered, and which ids Moves do not have.
* `ServoMap` — `servo_session_by_endpoint_` lists the stored servo sessions.
* `tables_consistent` — the tables agree after every call, no call throws, and no
  SDK session is leaked or started twice.
-/

namespace HumanoidMotion

open Tick

variable {β : Type} {B : Platform β} {S : SessionPlatform β} {lib : MathLib} {op : Op}

/-! ## The ids the callers choose -/

/-- The endpoint a call registers. -/
def Op.endpointName? : Op → Option String
  | registerEndpoint policy => some policy.endpointName
  | _ => none

/-- The id a call submits a Move under. -/
def Op.moveId? : Op → Option String
  | submitMove _ request _ _ => some (requestId request)
  | _ => none

/-- The names of the endpoints that the calls register. -/
def endpointNames (ops : List Op) : List String := ops.filterMap Op.endpointName?

/-- No Move carries an id derived from an endpoint of the run. -/
def MoveIdsFree (ops : List Op) : Prop :=
  ∀ id ∈ ops.filterMap Op.moveId?, ∀ name ∈ endpointNames ops, id ≠ servoId name

instance (ops : List Op) : Decidable (MoveIdsFree ops) := by
  unfold MoveIdsFree
  infer_instance

/-- Only the given names are registered, and no stored Move has an id derived from one of them. -/
structure Named (names : List String) (p : CommandPipeline β) : Prop where
  registered : ∀ (name : String) policy, p.endpoints[name]? = some policy → name ∈ names
  move : ∀ (id : String) session, p.sessions[id]? = some session → isServo session.kind = false →
    ∀ name ∈ names, id ≠ servoId name

/-- The call keeps to the names. -/
structure Op.Keeps (names : List String) (op : Op) : Prop where
  endpointIn : ∀ name, op.endpointName? = some name → name ∈ names
  moveFree : ∀ id, op.moveId? = some id → ∀ name ∈ names, id ≠ servoId name

theorem MoveIdsFree.keeps {ops : List Op} (h : MoveIdsFree ops) :
    ∀ op ∈ ops, op.Keeps (endpointNames ops) := fun op hop =>
  ⟨fun _ hname => List.mem_filterMap.2 ⟨op, hop, hname⟩,
    fun id hid => h id (List.mem_filterMap.2 ⟨op, hop, hid⟩)⟩

/-! ## The map of servo sessions -/

/-- The map from endpoints to servo sessions lists exactly the stored servo sessions. -/
structure ServoMap (p : CommandPipeline β) : Prop where
  entry : ∀ (name id : String), p.servoSessionByEndpoint[name]? = some id →
    id = servoId name ∧ ∃ session, p.sessions[id]? = some session ∧
      isServo session.kind = true ∧ session.endpointName = name
  session : ∀ (id : String) session, p.sessions[id]? = some session →
    isServo session.kind = true → p.servoSessionByEndpoint[session.endpointName]? = some id

/-- What a run keeps about the ids of its sessions. -/
structure Ids (names : List String) (p : CommandPipeline β) : Prop where
  named : Named names p
  servos : ServoMap p

/-- Sessions may change in ways that keep their kind and endpoint. -/
theorem Ids.same {names : List String} {p p' : CommandPipeline β} (h : Ids names p)
    (he : p'.endpoints = p.endpoints)
    (hservos : p'.servoSessionByEndpoint = p.servoSessionByEndpoint)
    (hsessions : ∀ (id : String) session, p'.sessions[id]? = some session →
      ∃ old, p.sessions[id]? = some old ∧ old.kind = session.kind ∧
        old.endpointName = session.endpointName)
    (hstay : ∀ (id : String) old, p.sessions[id]? = some old →
      ∃ session, p'.sessions[id]? = some session ∧ old.kind = session.kind ∧
        old.endpointName = session.endpointName) : Ids names p' := by
  constructor
  · constructor
    · rw [he]
      exact h.named.registered
    · intro id session hfound hmove
      obtain ⟨old, hold, hkind, -⟩ := hsessions id session hfound
      exact h.named.move id old hold (by rw [hkind]; exact hmove)
  · constructor
    · intro name id hentry
      rw [hservos] at hentry
      obtain ⟨hid, old, hold, hservo, hname⟩ := h.servos.entry name id hentry
      obtain ⟨session, hfound, hkind, hendpoint⟩ := hstay id old hold
      exact ⟨hid, session, hfound, hkind ▸ hservo, hendpoint ▸ hname⟩
    · intro id session hfound hservo
      obtain ⟨old, hold, hkind, hendpoint⟩ := hsessions id session hfound
      rw [hservos, ← hendpoint]
      exact h.servos.session id old hold (hkind ▸ hservo)

theorem Ids.of_eq {names : List String} {p p' : CommandPipeline β} (h : Ids names p)
    (he : p'.endpoints = p.endpoints)
    (hservos : p'.servoSessionByEndpoint = p.servoSessionByEndpoint)
    (hsessions : p'.sessions = p.sessions) : Ids names p' := by
  refine h.same he hservos (fun id session hfound => ?_) fun id old hold => ?_
  · exact ⟨session, hsessions ▸ hfound, rfl, rfl⟩
  · exact ⟨old, hsessions ▸ hold, rfl, rfl⟩

theorem eraseEntry_getElem? (map : StringMap String) (key value k : String) :
    (CommandPipeline.eraseEntry map key value)[k]? =
      if k = key ∧ map[key]? = some value then none else map[k]? := by
  unfold CommandPipeline.eraseEntry
  by_cases hk : k = key
  · subst hk
    split
    · simp [*]
    · simp [*]
  · split
    · simp [Std.TreeMap.getElem?_erase, hk, Ne.symm hk]
    · simp [hk]

/-- The entry of an ended servo session goes with it. -/
theorem Ids.terminate {names : List String} {p : CommandPipeline β} (h : Ids names p) (id : String)
    (state : SessionState) (status : MotionStatus) (preserve : Bool) :
    Ids names (p.terminate B id state status preserve) := by
  cases hfound : p.sessions[id]? with
  | none =>
    rw [CommandPipeline.terminate_none p id state status preserve hfound]
    cases preserve
    · exact h.of_eq rfl rfl rfl
    · exact h
  | some found =>
    have hservos : ∀ k : String,
        (p.terminate B id state status preserve).servoSessionByEndpoint[k]? =
          if k = found.endpointName ∧ p.servoSessionByEndpoint[found.endpointName]? = some id
            then none else p.servoSessionByEndpoint[k]? := by
      intro k
      rw [CommandPipeline.terminate_some p id state status preserve hfound]
      simp only [CommandPipeline.removeSession,
        p.kept_eq id preserve (fun q => q.servoSessionByEndpoint) (fun _ => rfl)]
      exact eraseEntry_getElem? _ _ _ _
    constructor
    · constructor
      · rw [CommandPipeline.terminate_endpoints]
        exact h.named.registered
      · intro k session hk hmove
        rw [CommandPipeline.terminate_sessions] at hk
        split at hk
        · cases hk
        · exact h.named.move k session hk hmove
    · constructor
      · intro name k hentry
        rw [hservos] at hentry
        split at hentry
        · cases hentry
        · rename_i hkeep
          obtain ⟨hk, session, hsession, hservo, hname⟩ := h.servos.entry name k hentry
          refine ⟨hk, session, ?_, hservo, hname⟩
          rw [CommandPipeline.terminate_sessions, if_neg, hsession]
          -- an entry that names the ended session would be the one that was erased
          rintro rfl
          obtain rfl : found = session := Option.some.inj (hfound.symm.trans hsession)
          exact hkeep ⟨hname.symm, hname ▸ hentry⟩
      · intro k session hk hservo
        rw [CommandPipeline.terminate_sessions] at hk
        split at hk
        · cases hk
        · rename_i hne
          have hentry := h.servos.session k session hk hservo
          rw [hservos, if_neg, hentry]
          rintro ⟨hname, hgone⟩
          rw [hname, hgone] at hentry
          exact hne (Option.some.inj hentry).symm

/-! ## One step -/

/-- A new session, with its entry when it is a servo session. -/
theorem Ids.create {names : List String} {p : CommandPipeline β} {session : Session}
    {servos : StringMap String} (h : Ids names p)
    (hnone : p.sessions[session.sessionId]? = none)
    (hderived : isServo session.kind = true → session.sessionId = servoId session.endpointName)
    (hmove : isServo session.kind = false → ∀ name ∈ names, session.sessionId ≠ servoId name)
    (hservos : (isServo session.kind = true ∧ servos =
        p.servoSessionByEndpoint.insert session.endpointName session.sessionId) ∨
      (isServo session.kind = false ∧ servos = p.servoSessionByEndpoint)) :
    Ids names { p with
      sessions := p.sessions.insertIfNew session.sessionId session
      servoSessionByEndpoint := servos } := by
  have hlookup : ∀ k : String, (p.sessions.insertIfNew session.sessionId session)[k]? =
      if k = session.sessionId then some session else p.sessions[k]? := by
    intro k
    have hfree : session.sessionId ∉ p.sessions := by
      simp [CommandPipeline.mem_sessions_iff, hnone]
    simp only [Std.TreeMap.getElem?_insertIfNew, Std.LawfulEqOrd.compare_eq_iff_eq, hfree,
      not_false_eq_true, and_true, eq_comm (a := k)]
  -- a stored session is not the new one
  have hold : ∀ (k : String) old, p.sessions[k]? = some old → k ≠ session.sessionId := by
    rintro k old hk rfl
    rw [hnone] at hk
    cases hk
  constructor
  · constructor
    · exact h.named.registered
    · intro k stored hk hkind
      simp only [hlookup] at hk
      split at hk
      · rename_i heq
        cases hk
        rw [heq]
        exact hmove hkind
      · exact h.named.move k stored hk hkind
  · rcases hservos with ⟨hservo, rfl⟩ | ⟨hkind, rfl⟩
    · have hmap : ∀ k : String,
          (p.servoSessionByEndpoint.insert session.endpointName session.sessionId)[k]? =
            if k = session.endpointName then some session.sessionId
            else p.servoSessionByEndpoint[k]? := by
        intro k
        simp only [Std.TreeMap.getElem?_insert, Std.LawfulEqOrd.compare_eq_iff_eq,
          eq_comm (a := k)]
      constructor
      · intro name k hentry
        simp only [hmap] at hentry
        split at hentry
        · rename_i hname
          cases hentry
          exact ⟨hname ▸ hderived hservo, session, (hlookup _).trans (if_pos rfl), hservo, hname.symm⟩
        · obtain ⟨hk, stored, hstored, hs, hname⟩ := h.servos.entry name k hentry
          refine ⟨hk, stored, ?_, hs, hname⟩
          simp only [hlookup]
          rw [if_neg (hold k stored hstored), hstored]
      · intro k stored hk hs
        simp only [hlookup] at hk
        split at hk
        · rename_i heq
          cases hk
          simp [heq]
        · have hentry := h.servos.session k stored hk hs
          simp only [hmap]
          rw [if_neg, hentry]
          -- one endpoint has one derived id
          intro hname
          obtain ⟨hid, -⟩ := h.servos.entry _ k hentry
          rw [hname, ← hderived hservo] at hid
          exact hold k stored hk hid
    · constructor
      · intro name k hentry
        obtain ⟨hk, stored, hstored, hs, hname⟩ := h.servos.entry name k hentry
        refine ⟨hk, stored, ?_, hs, hname⟩
        simp only [hlookup]
        rw [if_neg (hold k stored hstored), hstored]
      · intro k stored hk hs
        simp only [hlookup] at hk
        split at hk
        · cases hk
          rw [hkind] at hs
          cases hs
        · exact h.servos.session k stored hk hs

/-- What a created session is made of. -/
theorem Created.madeFor {p : CommandPipeline β} {session : Session} (hsound : Sound p)
    (h : Created p op session) :
    (isServo session.kind = true → session.sessionId = servoId session.endpointName ∧
      ∃ policy, p.endpoints[session.endpointName]? = some policy) ∧
    (isServo session.kind = false → op.moveId? = some session.sessionId) := by
  cases h with
  | submitMove endpoint request now generation policy session hpolicy hvalid =>
    have hmade := madeFor_of_valid hsound hpolicy hvalid
    refine ⟨fun hs => ?_, fun _ => ?_⟩
    · have := hmade.kind.symm.trans hs
      cases this
    · rw [hmade.chosen rfl]
      rfl
  | updateServo endpoint request receivedAt now generation policy session hpolicy hvalid =>
    have hmade := madeFor_of_valid hsound hpolicy hvalid
    refine ⟨fun _ => ⟨?_, policy, ?_⟩, fun hs => ?_⟩
    · rw [hmade.derived rfl, hmade.endpointEq]
    · rw [hmade.endpointEq]
      exact hpolicy
    · have := hmade.kind.symm.trans hs
      cases this

theorem Elem.ids {names : List String} {s s' : TickState β} (hstep : Elem B op s s')
    (hkeeps : op.Keeps names) (hsound : Sound s.pipeline) (h : Ids names s.pipeline) :
    Ids names s'.pipeline := by
  cases hstep with
  | silent p hs => exact h.of_eq hs.endpoints hs.servos hs.sessions
  | terminate id state status preserve _ _ => exact h.terminate id state status preserve
  | create session servos hnone _ hnew _ _ hservos =>
    obtain ⟨hservo, hmove⟩ := hnew.madeFor hsound
    exact h.create hnone (fun hs => (hservo hs).1) (fun hm => hkeeps.moveFree _ (hmove hm)) hservos
  | retarget id old new hold hnew hid hservo _ =>
    obtain ⟨hderived, policy, hpolicy⟩ := (hnew.madeFor hsound).1 hservo
    -- the id is derived from a registered endpoint, so no Move stands under it
    have hkind : isServo old.kind = true := by
      rw [← Bool.not_eq_false]
      intro hmove
      exact h.named.move id old hold hmove _ (h.named.registered _ policy hpolicy)
        (hid.symm.trans hderived)
    have hentry := h.servos.session id old hold hkind
    have hname : old.endpointName = new.endpointName := by
      refine servoId_injective ?_
      rw [← (h.servos.entry _ _ hentry).1, ← hid, hderived]
    have hlookup : ∀ k : String, (s.pipeline.sessions.insert id
        { old with request := new.request, submittedAt := new.submittedAt })[k]? =
        if k = id then some { old with request := new.request, submittedAt := new.submittedAt }
        else s.pipeline.sessions[k]? := by
      intro k
      simp only [Std.TreeMap.getElem?_insert, Std.LawfulEqOrd.compare_eq_iff_eq, eq_comm (a := k)]
    constructor
    · constructor
      · exact h.named.registered
      · intro k session hk hmove
        simp only [TickState.withPipeline, hlookup] at hk
        split at hk
        · cases hk
          simp only [Session.kind] at hservo hmove
          rw [hservo] at hmove
          cases hmove
        · exact h.named.move k session hk hmove
    · constructor
      · intro name k hk
        obtain ⟨hid', stored, hstored, hs, hn⟩ := h.servos.entry name k hk
        refine ⟨hid', ?_⟩
        simp only [TickState.withPipeline, hlookup]
        split
        · rename_i heq
          subst heq
          obtain rfl : old = stored := Option.some.inj (hold.symm.trans hstored)
          exact ⟨_, rfl, hservo, hn⟩
        · exact ⟨stored, hstored, hs, hn⟩
      · intro k session hk hs
        simp only [TickState.withPipeline, hlookup] at hk
        split at hk
        · rename_i heq
          cases hk
          rw [heq]
          exact hentry
        · exact h.servos.session k session hk hs
  | progress id session session' hfound hsame _ =>
    have hkind : session.kind = session'.kind := by
      rw [Session.kind, Session.kind, hsame.request]
    refine h.same rfl rfl (fun k stored hk => ?_) fun k old hold => ?_
    · simp only [TickState.withPipeline, Std.TreeMap.getElem?_insert,
        Std.LawfulEqOrd.compare_eq_iff_eq] at hk
      split at hk
      · rename_i heq
        cases hk
        exact ⟨session, heq ▸ hfound, hkind, hsame.endpointName.symm⟩
      · exact ⟨stored, hk, rfl, rfl⟩
    · simp only [TickState.withPipeline, Std.TreeMap.getElem?_insert,
        Std.LawfulEqOrd.compare_eq_iff_eq]
      split
      · rename_i heq
        subst heq
        obtain rfl : session = old := Option.some.inj (hfound.symm.trans hold)
        exact ⟨session', rfl, hkind, hsame.endpointName.symm⟩
      · exact ⟨old, hold, rfl, rfl⟩
  | register policy arbiter hop _ _ _ _ _ _ =>
    refine ⟨⟨fun name found hf => ?_, h.named.move⟩, h.servos.entry, h.servos.session⟩
    simp only [TickState.withPipeline, Std.TreeMap.getElem?_insertIfNew,
      Std.LawfulEqOrd.compare_eq_iff_eq] at hf
    split at hf
    · rename_i heq
      rw [← heq.1]
      exact hkeeps.endpointIn _ (by rw [hop]; rfl)
    · exact h.named.registered name found hf
  | _ => exact h.of_eq rfl rfl rfl

variable (B lib) in
theorem exec_ids {names : List String} {s : CommandPipeline β} (hkeeps : op.Keeps names)
    (hsound : Sound s) (h : Ids names s) : Ids names (exec B lib s op).2 := by
  obtain ⟨t, helems, hpipeline, -, -⟩ := exec_elems B lib s hsound op
  have hinv : Sound t.pipeline ∧ Ids names t.pipeline :=
    helems.invariant (I := fun t => Sound t.pipeline ∧ Ids names t.pipeline)
      (fun _ _ hstep ht => ⟨hstep.sound ht.1, hstep.ids hkeeps ht.1 ht.2⟩) ⟨hsound, h⟩
  rw [hpipeline]
  exact hinv.2

/-- Where no Move has a derived id, a servo target meets a servo session. -/
theorem Named.servoMeetsServo {names : List String} {s : CommandPipeline β} (h : Named names s)
    (op : Op) : ServoMeetsServo s op := by
  cases op with
  | updateServo endpoint request receivedAt now generation =>
    intro policy updated hvalid _ _ session hfound _
    rw [← Bool.not_eq_false]
    intro hmove
    exact h.move _ session hfound hmove endpoint
      (h.registered endpoint policy hvalid.registered) rfl
  | _ => trivial

/-! ## Every run -/

/-- What the tables say about one another. -/
structure Consistent (S : SessionPlatform β) (p : CommandPipeline β) : Prop where
  claimed : ∀ id : String, id ∈ p.sessions ↔ id ∈ p.arbiter.claims
  submitted : ∀ (id : String) session state, p.sessions[id]? = some session →
    p.arbiter.claims[id]? = some state → session.submittedAt = state.receivedAt
  started : ∀ id : String, id ∈ p.activeBackendSessions ↔
    ∃ session, p.sessions[id]? = some session ∧ session.backendStarted = true
  alive : ∀ id : String, S.alive p.backend id ↔ id ∈ p.activeBackendSessions
  goals : ∀ id : String, id ∈ p.monitor.goals →
    ∃ session, p.sessions[id]? = some session ∧ isServo session.kind = false
  servo : ∀ name : String, name ∈ p.endpoints →
    (p.servoSessionByEndpoint[name]? = some (servoId name) ↔ servoId name ∈ p.sessions)
  derived : ∀ name id : String, p.servoSessionByEndpoint[name]? = some id →
    id = servoId name ∧ name ∈ p.endpoints

theorem consistent_of_rows {e₀ : β} {names : List String} {p : CommandPipeline β}
    (h : Tables True S e₀ p) (hids : Ids names p) : Consistent S p where
  claimed id := by
    have hrow := h.rows id
    rw [CommandPipeline.mem_sessions_iff, Std.TreeMap.mem_iff_isSome_getElem?,
      Option.isSome_iff_exists]
    constructor
    · rintro ⟨session, hsession⟩
      obtain ⟨state, hstate, -⟩ := hrow.claimed session hsession
      exact ⟨state, hstate⟩
    · rintro ⟨state, hstate⟩
      cases hsession : p.sessions[id]? with
      | none =>
        have hnone := hrow.unclaimed hsession
        rw [show (rowAt S p id).claim = some state from hstate] at hnone
        cases hnone
      | some session => exact ⟨session, rfl⟩
  submitted id session state hsession hstate := by
    obtain ⟨stored, hstored, -, hagrees⟩ := (h.rows id).claimed session hsession
    obtain rfl : state = stored := Option.some.inj (hstate.symm.trans hstored)
    exact (hagrees trivial).time.symm
  started id := by
    rw [← Std.TreeSet.contains_iff_mem]
    exact (h.rows id).active
  alive id := by
    rw [← Std.TreeSet.contains_iff_mem]
    exact (h.rows id).alive
  goals id hid := by
    obtain ⟨goal, hgoal⟩ := Option.isSome_iff_exists.1 (Std.TreeMap.mem_iff_isSome_getElem?.1 hid)
    obtain ⟨session, hsession, hmove⟩ := (h.rows id).goal goal hgoal
    exact ⟨session, hsession, hmove trivial⟩
  servo name hname := by
    obtain ⟨policy, hpolicy⟩ :=
      Option.isSome_iff_exists.1 (Std.TreeMap.mem_iff_isSome_getElem?.1 hname)
    rw [CommandPipeline.mem_sessions_iff]
    constructor
    · intro hentry
      obtain ⟨-, session, hsession, -⟩ := hids.servos.entry name _ hentry
      exact ⟨session, hsession⟩
    · rintro ⟨session, hsession⟩
      have hservo : isServo session.kind = true := by
        rw [← Bool.not_eq_false]
        intro hmove
        exact hids.named.move _ session hsession hmove name
          (hids.named.registered name policy hpolicy) rfl
      have hentry := hids.servos.session _ session hsession hservo
      rwa [← servoId_injective (hids.servos.entry _ _ hentry).1] at hentry
  derived name id hentry := by
    obtain ⟨hid, session, hsession, -, hname⟩ := hids.servos.entry name id hentry
    obtain ⟨policy, hpolicy, -⟩ := ((h.rows id).identity trivial session hsession).policy
    refine ⟨hid, Std.TreeMap.mem_iff_isSome_getElem?.2 ?_⟩
    rw [← hname, hpolicy]
    rfl

/-- What every call of a run keeps, when its Moves have ids of their own. -/
structure InOrder (S : SessionPlatform β) (e₀ : β) (names : List String) (p : CommandPipeline β) :
    Prop where
  sound : Sound p
  tables : Tables True S e₀ p
  ids : Ids names p

variable (lib) in
theorem InOrder.exec {e₀ : β} {names : List String} {p : CommandPipeline β}
    (h : InOrder S e₀ names p) (hkeeps : op.Keeps names) :
    InOrder S e₀ names (exec S.toPlatform lib p op).2 where
  sound := exec_sound p h.sound op
  tables := exec_tables lib h.sound h.tables op fun _ => h.ids.named.servoMeetsServo op
  ids := exec_ids S.toPlatform lib hkeeps h.sound h.ids

theorem create_inOrder {e₀ : β} (names : List String) (groups : List JointGroupModel)
    (config : CommandPipelineConfig) (hfresh : ∀ id, ¬ S.alive e₀ id) :
    InOrder S e₀ names (CommandPipeline.create e₀ groups config) where
  sound := Initial.sound ⟨_, _, _, rfl⟩
  tables := create_tables groups config hfresh
  ids := ⟨⟨by simp [CommandPipeline.create], by simp [CommandPipeline.create]⟩,
    ⟨by simp [CommandPipeline.create], by simp [CommandPipeline.create]⟩⟩

/-- Every stage of a run from a fresh pipeline is in order on both sides. -/
theorem trace_inOrder {e₀ : β} (groups : List JointGroupModel) (config : CommandPipelineConfig)
    (hfresh : ∀ id, ¬ S.alive e₀ id) {ops : List Op} (hfree : MoveIdsFree ops) :
    ∀ g ∈ (machine S.toPlatform lib).trace (CommandPipeline.create e₀ groups config) ops,
      InOrder S e₀ (endpointNames ops) g.before ∧ InOrder S e₀ (endpointNames ops) g.after :=
  Machine.trace_invariant (fun _ _ h hkeeps => h.exec lib hkeeps)
    (create_inOrder _ groups config hfresh) (Machine.meets_of_forall hfree.keeps)

theorem InOrder.run {e₀ : β} {names : List String} {p : CommandPipeline β}
    (h : InOrder S e₀ names p) {ops : List Op} (hkeeps : ∀ op ∈ ops, op.Keeps names) :
    InOrder S e₀ names ((machine S.toPlatform lib).run p ops) :=
  Machine.run_invariant (fun _ _ h hkeeps => h.exec lib hkeeps) h (Machine.meets_of_forall hkeeps)

theorem run_inOrder {e₀ : β} (groups : List JointGroupModel) (config : CommandPipelineConfig)
    (hfresh : ∀ id, ¬ S.alive e₀ id) {ops : List Op} (hfree : MoveIdsFree ops) :
    InOrder S e₀ (endpointNames ops)
      ((machine S.toPlatform lib).run (CommandPipeline.create e₀ groups config) ops) :=
  (create_inOrder _ groups config hfresh).run hfree.keeps

/-- In every run over an SDK that keeps its contract, with its calls written down: the tables agree
after every call, no call throws, and no session is started while it stands started. -/
theorem tables_consistent (S : SessionPlatform β) (lib : MathLib) {e : β}
    (hfresh : ∀ id, ¬ S.alive e id) (groups : List JointGroupModel)
    (config : CommandPipelineConfig) {ops : List Op} (hfree : MoveIdsFree ops) :
    Consistent S.recorded ((machine S.recorded.toPlatform lib).run
        (CommandPipeline.create (e, []) groups config) ops) ∧
      (∀ g ∈ (machine S.recorded.toPlatform lib).trace
        (CommandPipeline.create (e, []) groups config) ops, g.output ≠ .threw) ∧
      StartedOnce ((machine S.recorded.toPlatform lib).run
        (CommandPipeline.create (e, []) groups config) ops).backend.2 := by
  have hdead : ∀ id, ¬ S.recorded.alive (e, []) id := hfresh
  have hrun : InOrder S.recorded (e, []) (endpointNames ops) ((machine S.recorded.toPlatform lib).run
      (CommandPipeline.create (e, []) groups config) ops) := run_inOrder groups config hdead hfree
  refine ⟨consistent_of_rows hrun.tables hrun.ids, fun g hg => ?_, ?_⟩
  · have hbefore := (trace_inOrder groups config hdead hfree g hg).1
    have hstep : exec S.recorded.toPlatform lib g.before g.input = (g.output, g.after) :=
      Machine.trace_step hg
    have hne : (exec S.recorded.toPlatform lib g.before g.input).1 ≠ .threw :=
      exec_ne_threw g.before hbefore.sound g.input
    rw [hstep] at hne
    exact hne
  · have hstart : RecordOk S ((e, []) : β × List Call) := by
      refine ⟨fun id => ?_, fun before after id _ _ _ _ heq => ?_⟩
      · simp [startedIn, hfresh id]
      · simp at heq
    exact (hrun.tables.lawful.record hstart).once

namespace Fixture

/-- A Move, a servo session that displaces it, a scheduling gap and a cancellation. -/
def displacedMove : List Op :=
  [endpoint "mv" .moveJ "whole" 10, endpoint "sv" .servoJ "left" 20,
    moveJ "mv" "m" "whole" (leftJoints ++ rightJoints) 0, tick 1, servoJ "sv" "left" leftJoints 2,
    tick 3, .cancel (servoId "sv"), tick 300]

end Fixture

open Fixture in
theorem tables_consistent_displaced :
    StartedOnce ((machine FakeSdk.platform.recorded.toPlatform mathLib).run
      (CommandPipeline.create ({}, []) allGroups {}) displacedMove).backend.2 :=
  (tables_consistent FakeSdk.platform mathLib (e := {})
    (fun id => by simp [FakeSdk.platform]) allGroups {} (by decide)).2.2

end HumanoidMotion
