import HumanoidMotion.Motion.System
import HumanoidMotion.Motion.Terminate
import HumanoidMotion.Motion.Turn
/-
# The elementary steps of the pipeline

Every public function is a chain of elementary steps on the pipeline and on the
result a tick is building. An invariant that each elementary step keeps is an
invariant of the system (`exec_steps`).

* `Silent` — tables, permits and queued events are as they were.
* `Elem` — the elementary steps; the call being served is a parameter, so that a
  step that creates or retargets a session says which request it comes from.
* `Sound` — what the lookups of a tick rely on; it holds in every reachable
  state, whatever ids the callers choose, so that no tick throws.
-/

namespace HumanoidMotion

/-- What every lookup of the pipeline relies on. -/
structure Sound {β : Type} (p : CommandPipeline β) : Prop where
  groupOk : ∀ (name : String) (group : JointGroupModel), p.groups[name]? = some group →
    group.name = name ∧ group.valid = true
  endpointOk : ∀ (name : String) (policy : EndpointPolicy), p.endpoints[name]? = some policy →
    policy.endpointName = name ∧ name.isEmpty = false ∧ p.monitor.config.valid = true ∧
      (isServo policy.kind = true → 0 < policy.servoLease)
  policies : ∀ name : String, p.arbiter.policies[name]? = p.endpoints[name]?
  monitorConfig : p.monitor.config = p.config.goalMonitor
  sessionOk : ∀ (id : String) (session : Session), p.sessions[id]? = some session →
    SessionOk p id session
  activeStored : ∀ id : String, id ∈ p.activeBackendSessions →
    ∃ session, p.sessions[id]? = some session

/-- Nothing that a session, a permit or an event depends on has changed. -/
structure Silent {β : Type} (B : Platform β) (p p' : CommandPipeline β) : Prop where
  calls : Calls B p.backend p'.backend
  groups : p'.groups = p.groups
  endpoints : p'.endpoints = p.endpoints
  policies : p'.arbiter.policies = p.arbiter.policies
  config : p'.config = p.config
  monitorConfig : p'.monitor.config = p.monitor.config
  sessions : p'.sessions = p.sessions
  permits : p'.publicationPermits = p.publicationPermits
  token : p'.nextPublicationToken = p.nextPublicationToken
  pending : p'.pendingEvents = p.pendingEvents
  servos : p'.servoSessionByEndpoint = p.servoSessionByEndpoint
  enabled : p'.outputEnabled = p.outputEnabled
  generation : p'.outputGeneration = p.outputGeneration
  active : ∀ id : String, id ∈ p'.activeBackendSessions → id ∈ p.activeBackendSessions

/-- Two versions of one session that differ in what the SDK has done only. -/
structure Session.SameClient (session session' : Session) : Prop where
  endpointName : session'.endpointName = session.endpointName
  sessionId : session'.sessionId = session.sessionId
  groupName : session'.groupName = session.groupName
  jointNames : session'.jointNames = session.jointNames
  request : session'.request = session.request
  submittedAt : session'.submittedAt = session.submittedAt

theorem Session.SameClient.refl (session : Session) : session.SameClient session :=
  ⟨rfl, rfl, rfl, rfl, rfl, rfl⟩

theorem Session.SameClient.trans {first second third : Session} (h : first.SameClient second)
    (h' : second.SameClient third) : first.SameClient third where
  endpointName := h'.endpointName.trans h.endpointName
  sessionId := h'.sessionId.trans h.sessionId
  groupName := h'.groupName.trans h.groupName
  jointNames := h'.jointNames.trans h.jointNames
  request := h'.request.trans h.request
  submittedAt := h'.submittedAt.trans h.submittedAt

/-- The session a submission stores: what `validateRequest` made of the request, with the time the
submission carries. -/
inductive Created {β : Type} (p : CommandPipeline β) : Op → Session → Prop
  | submitMove (endpoint : String) (request : SessionRequest) (now : SteadyTime) (generation : Nat)
      (policy : EndpointPolicy) (session : Session) (hpolicy : p.endpoints[endpoint]? = some policy)
      (hvalid : validateRequest p.groups policy request false = .ok session) :
      Created p (.submitMove endpoint request now generation) { session with submittedAt := now }
  | updateServo (endpoint : String) (request : SessionRequest) (receivedAt now : SteadyTime)
      (generation : Nat) (policy : EndpointPolicy) (session : Session)
      (hpolicy : p.endpoints[endpoint]? = some policy)
      (hvalid : validateRequest p.groups policy request true = .ok session) :
      Created p (.updateServo endpoint request receivedAt now generation)
        { session with submittedAt := receivedAt }

/-- The elementary steps while `op` is served. -/
inductive Elem {β : Type} (B : Platform β) (op : Op) : TickState β → TickState β → Prop
  | silent (s : TickState β) (p : CommandPipeline β) (h : Silent B s.pipeline p) :
      Elem B op s (s.withPipeline p)
  | terminate (s : TickState β) (id : String) (state : SessionState) (status : MotionStatus)
      (preserve : Bool) (hstate : state.isTerminal = true)
      (hkeep : preserve = true → state ≠ .preempted ∧ op.isTick = true) :
      Elem B op s (s.withPipeline (s.pipeline.terminate B id state status preserve))
  | revoke (s : TickState β) (permits : StringMap (String × Nat))
      (h : ∀ (joint : String) x, permits[joint]? = some x →
        s.pipeline.publicationPermits[joint]? = some x) :
      Elem B op s (s.withPipeline { s.pipeline with publicationPermits := permits })
  | create (s : TickState β) (session : Session) (servos : StringMap String)
      (hnone : s.pipeline.sessions[session.sessionId]? = none)
      (hok : SessionOk s.pipeline session.sessionId session)
      (hnew : Created s.pipeline op session) (hidle : session.backendStarted = false)
      (henabled : s.pipeline.outputEnabled = true)
      (hservos : (isServo session.kind = true ∧ servos =
          s.pipeline.servoSessionByEndpoint.insert session.endpointName session.sessionId) ∨
        (isServo session.kind = false ∧ servos = s.pipeline.servoSessionByEndpoint)) :
      Elem B op s (s.withPipeline { s.pipeline with
        sessions := s.pipeline.sessions.insertIfNew session.sessionId session
        servoSessionByEndpoint := servos })
  | retarget (s : TickState β) (id : String) (old new : Session)
      (hold : s.pipeline.sessions[id]? = some old) (hnew : Created s.pipeline op new)
      (hid : new.sessionId = id) (hservo : isServo new.kind = true)
      (hok : SessionOk s.pipeline id
        { old with request := new.request, submittedAt := new.submittedAt }) :
      Elem B op s (s.withPipeline { s.pipeline with
        sessions := s.pipeline.sessions.insert id
          { old with request := new.request, submittedAt := new.submittedAt } })
  | progress (s : TickState β) (id : String) (session session' : Session)
      (hfound : s.pipeline.sessions[id]? = some session) (hsame : session.SameClient session')
      (hok : SessionOk s.pipeline id session') :
      Elem B op s (s.withPipeline { s.pipeline with
        sessions := s.pipeline.sessions.insert id session' })
  | activate (s : TickState β) (id : String) (session : Session)
      (hfound : s.pipeline.sessions[id]? = some session) :
      Elem B op s (s.withPipeline { s.pipeline with
        activeBackendSessions := s.pipeline.activeBackendSessions.insert id })
  | running (s : TickState β) (id : String) (session : Session) (message : String)
      (hfound : s.pipeline.sessions[id]? = some session) : Elem B op s (s.pushEvent id message)
  | issue (s : TickState β) (id : String) (session : Session) (limit : SteadyTime)
      (command : JointCommand) (hop : op.isTick = true)
      (hfound : s.pipeline.sessions[id]? = some session) :
      Elem B op s (s.issue id limit command)
  | drop (s : TickState β) (commands : List JointCommand) (h : commands.Sublist s.commands) :
      Elem B op s { s with commands }
  | flush (s : TickState β) : Elem B op s s.flush
  | register (s : TickState β) (policy : EndpointPolicy) (arbiter : ControlArbiter)
      (hop : op = .registerEndpoint policy)
      (hpolicies : arbiter.policies =
        s.pipeline.arbiter.policies.insert policy.endpointName policy)
      (hclaims : arbiter.claims = s.pipeline.arbiter.claims)
      (hnew : s.pipeline.arbiter.policies[policy.endpointName]? = none)
      (hname : policy.endpointName.isEmpty = false) (hconfig : s.pipeline.config.goalMonitor.valid = true)
      (hlease : isServo policy.kind = true → 0 < policy.servoLease) :
      Elem B op s (s.withPipeline { s.pipeline with
        arbiter := arbiter
        endpoints := s.pipeline.endpoints.insertIfNew policy.endpointName policy })
  | gate (s : TickState β) (enabled : Bool) (generation : Nat)
      (hop : op = .setOutputPermit enabled generation)
      (hempty : enabled = false → ∀ id : String, s.pipeline.sessions[id]? = none) :
      Elem B op s (s.withPipeline { s.pipeline with
        outputEnabled := enabled
        outputGeneration := generation })

def Elems {β : Type} (B : Platform β) (op : Op) : TickState β → TickState β → Prop :=
  Relation.ReflTransGen (Elem B op)

variable {β : Type} {B : Platform β} {op : Op}

theorem Elem.elems {s s' : TickState β} (h : Elem B op s s') : Elems B op s s' :=
  Relation.ReflTransGen.single h

theorem Elems.refl (s : TickState β) : Elems B op s s := Relation.ReflTransGen.refl

theorem Elems.trans {s s' s'' : TickState β} (h : Elems B op s s') (h' : Elems B op s' s'') :
    Elems B op s s'' := Relation.ReflTransGen.trans h h'

/-- What every elementary step keeps, a chain of them keeps. -/
theorem Elems.invariant {I : TickState β → Prop} (hstep : ∀ s s', Elem B op s s' → I s → I s')
    {s s' : TickState β} (h : Elems B op s s') (hs : I s) : I s' := by
  induction h with
  | refl => exact hs
  | tail _ hlast ih => exact hstep _ _ hlast ih

/-! ## Soundness of the lookups -/

/-- `SessionOk` depends on the configuration only. -/
theorem SessionOk.transfer {p p' : CommandPipeline β} {id : String} {session : Session}
    (h : SessionOk p id session) (hg : p'.groups = p.groups) (he : p'.endpoints = p.endpoints)
    (hm : p'.monitor.config = p.monitor.config) : SessionOk p' id session :=
  ⟨h.key, h.nonempty, he ▸ h.endpoint, hg ▸ h.group, h.last, h.goal, hm ▸ h.monitor⟩

/-- The sessions and the active set of a sound pipeline may change to other sound ones. -/
theorem Sound.transfer {p p' : CommandPipeline β} (h : Sound p) (hg : p'.groups = p.groups)
    (he : p'.endpoints = p.endpoints) (ha : p'.arbiter.policies = p.arbiter.policies)
    (hc : p'.config = p.config) (hm : p'.monitor.config = p.monitor.config)
    (hs : ∀ (id : String) session, p'.sessions[id]? = some session → SessionOk p id session)
    (hactive : ∀ id : String, id ∈ p'.activeBackendSessions →
      ∃ session, p'.sessions[id]? = some session) : Sound p' where
  groupOk := hg ▸ h.groupOk
  endpointOk := by rw [he, hm]; exact h.endpointOk
  policies := by rw [ha, he]; exact h.policies
  monitorConfig := by rw [hm, hc]; exact h.monitorConfig
  sessionOk id session hf := (hs id session hf).transfer hg he hm
  activeStored := hactive

/-- Storing a sound session under a new `id` keeps the lookups sound. -/
theorem Sound.insertIfNew {p : CommandPipeline β} (h : Sound p) {id : String} {session : Session}
    (hok : SessionOk p id session) :
    Sound { p with sessions := p.sessions.insertIfNew id session } := by
  refine h.transfer rfl rfl rfl rfl rfl (fun k stored hk => ?_) (fun k hk => ?_)
  · simp only [Std.TreeMap.getElem?_insertIfNew, Std.LawfulEqOrd.compare_eq_iff_eq] at hk
    split at hk
    · rename_i heq
      cases hk
      exact heq.1 ▸ hok
    · exact h.sessionOk k stored hk
  · simp only [Std.TreeMap.getElem?_insertIfNew, Std.LawfulEqOrd.compare_eq_iff_eq]
    split
    · exact ⟨_, rfl⟩
    · exact h.activeStored k hk

/-- Storing a sound session under `id` keeps the lookups sound. -/
theorem Sound.insert {p : CommandPipeline β} (h : Sound p) {id : String} {session : Session}
    (hok : SessionOk p id session) : Sound { p with sessions := p.sessions.insert id session } := by
  refine h.transfer rfl rfl rfl rfl rfl (fun k stored hk => ?_) (fun k hk => ?_)
  · simp only [Std.TreeMap.getElem?_insert, Std.LawfulEqOrd.compare_eq_iff_eq] at hk
    split at hk
    · rename_i heq
      cases hk
      exact heq ▸ hok
    · exact h.sessionOk k stored hk
  · simp only [Std.TreeMap.getElem?_insert, Std.LawfulEqOrd.compare_eq_iff_eq]
    split
    · exact ⟨_, rfl⟩
    · exact h.activeStored k hk

theorem Elem.sound {s s' : TickState β} (hstep : Elem B op s s') (h : Sound s.pipeline) :
    Sound s'.pipeline := by
  cases hstep with
  | silent p hs =>
    refine h.transfer hs.groups hs.endpoints hs.policies hs.config hs.monitorConfig
      (fun id session hf => h.sessionOk id session (hs.sessions ▸ hf)) (fun id hid => ?_)
    rw [show (s.withPipeline p).pipeline.sessions = s.pipeline.sessions from hs.sessions]
    exact h.activeStored id (hs.active id hid)
  | terminate id state status preserve hstate hkeep =>
    refine h.transfer (by simp [TickState.withPipeline]) (by simp [TickState.withPipeline])
      (by simp [TickState.withPipeline]) (by simp [TickState.withPipeline])
      (by simp [TickState.withPipeline]) (fun k session hk => ?_) (fun k hk => ?_)
    · simp only [TickState.withPipeline, CommandPipeline.terminate_sessions] at hk
      split at hk
      · cases hk
      · exact h.sessionOk k session hk
    · obtain ⟨hactive, hne⟩ :=
        (CommandPipeline.mem_terminate_active s.pipeline id state status preserve k).1 hk
      obtain ⟨session, hsession⟩ := h.activeStored k hactive
      refine ⟨session, ?_⟩
      simp only [TickState.withPipeline, CommandPipeline.terminate_sessions]
      rw [if_neg, hsession]
      rintro rfl
      exact hne ⟨rfl, (s.pipeline.mem_sessions_iff k).2 ⟨session, hsession⟩⟩
  | create session servos _ hok _ _ _ _ =>
    have hinsert := h.insertIfNew hok
    exact ⟨hinsert.groupOk, hinsert.endpointOk, hinsert.policies, hinsert.monitorConfig,
      fun id stored hf => (hinsert.sessionOk id stored hf).transfer rfl rfl rfl, hinsert.activeStored⟩
  | retarget id old new _ _ _ _ hok => exact h.insert hok
  | progress id session session' _ _ hok => exact h.insert hok
  | activate id session hfound =>
    refine h.transfer rfl rfl rfl rfl rfl h.sessionOk (fun k hk => ?_)
    simp only [TickState.withPipeline, Std.TreeSet.mem_insert,
      Std.LawfulEqOrd.compare_eq_iff_eq] at hk
    rcases hk with rfl | hk
    · exact ⟨session, hfound⟩
    · exact h.activeStored k hk
  | register policy arbiter hop hpolicies hclaims hnew hname hconfig hlease =>
    have hlookup : ∀ name : String,
        (s.pipeline.endpoints.insertIfNew policy.endpointName policy)[name]? =
          if name = policy.endpointName then some policy else s.pipeline.endpoints[name]? := by
      intro name
      have hfree : policy.endpointName ∉ s.pipeline.endpoints := by
        rw [Std.TreeMap.mem_iff_isSome_getElem?, ← h.policies, hnew]
        simp
      simp only [Std.TreeMap.getElem?_insertIfNew, Std.LawfulEqOrd.compare_eq_iff_eq, hfree,
        not_false_eq_true, and_true, eq_comm (a := name)]
    have hkeep : ∀ (name : String) old, s.pipeline.endpoints[name]? = some old →
        (s.pipeline.endpoints.insertIfNew policy.endpointName policy)[name]? = some old := by
      intro name old hold
      rw [hlookup, if_neg, hold]
      rintro rfl
      rw [← h.policies, hnew] at hold
      cases hold
    refine ⟨h.groupOk, fun name found hf => ?_, fun name => ?_, h.monitorConfig,
      fun id session hf => ?_, h.activeStored⟩
    · simp only [TickState.withPipeline, hlookup] at hf
      split at hf
      · rename_i hname'
        cases hf
        exact ⟨hname'.symm, hname' ▸ hname, h.monitorConfig ▸ hconfig, hlease⟩
      · exact h.endpointOk name found hf
    · simp only [TickState.withPipeline, hpolicies, hlookup, Std.TreeMap.getElem?_insert,
        Std.LawfulEqOrd.compare_eq_iff_eq, h.policies, eq_comm (a := name)]
    · have hok := h.sessionOk id session hf
      obtain ⟨old, hold, hhome⟩ := hok.endpoint
      exact ⟨hok.key, hok.nonempty, ⟨old, hkeep _ _ hold, hhome⟩, hok.group, hok.last, hok.goal,
        hok.monitor⟩
  | revoke => exact ⟨h.groupOk, h.endpointOk, h.policies, h.monitorConfig, fun id session hf =>
      (h.sessionOk id session hf).transfer rfl rfl rfl, h.activeStored⟩
  | running => exact h
  | issue => exact ⟨h.groupOk, h.endpointOk, h.policies, h.monitorConfig, fun id session hf =>
      (h.sessionOk id session hf).transfer rfl rfl rfl, h.activeStored⟩
  | drop => exact h
  | flush => exact ⟨h.groupOk, h.endpointOk, h.policies, h.monitorConfig, fun id session hf =>
      (h.sessionOk id session hf).transfer rfl rfl rfl, h.activeStored⟩
  | gate => exact ⟨h.groupOk, h.endpointOk, h.policies, h.monitorConfig, fun id session hf =>
      (h.sessionOk id session hf).transfer rfl rfl rfl, h.activeStored⟩

theorem Elems.sound {s s' : TickState β} (hstep : Elems B op s s') (h : Sound s.pipeline) :
    Sound s'.pipeline :=
  hstep.invariant (I := fun s => Sound s.pipeline) (fun _ _ => Elem.sound) h

/-! ## Stored sessions -/

/-- `P` holds of every stored session. -/
def Stores (P : String → Session → Prop) {β : Type} (p : CommandPipeline β) : Prop :=
  ∀ (id : String) session, p.sessions[id]? = some session → P id session

theorem Stores.insert {P : String → Session → Prop} {p : CommandPipeline β} (h : Stores P p)
    {id : String} {session : Session} (hsession : P id session) :
    Stores P { p with sessions := p.sessions.insert id session } := by
  intro k stored hk
  simp only [Std.TreeMap.getElem?_insert, Std.LawfulEqOrd.compare_eq_iff_eq] at hk
  split at hk
  · rename_i heq
    cases hk
    exact heq ▸ hsession
  · exact h k stored hk

/-- What holds of a new session, of a retargeted one and of one that makes progress, holds of every
stored session. -/
structure Kept (P : String → Session → Prop) (β : Type) (op : Op) : Prop where
  create : ∀ (p : CommandPipeline β) session, Sound p → Created p op session →
    P session.sessionId session
  retarget : ∀ (p : CommandPipeline β) old new, Sound p → Created p op new →
    isServo new.kind = true → P new.sessionId old →
      P new.sessionId { old with request := new.request, submittedAt := new.submittedAt }
  progress : ∀ id session session', session.SameClient session' → P id session → P id session'

theorem Elem.stores {P : String → Session → Prop} (hkept : Kept P β op) {s s' : TickState β}
    (hstep : Elem B op s s') (hsound : Sound s.pipeline) (h : Stores P s.pipeline) :
    Stores P s'.pipeline := by
  cases hstep with
  | silent p hs => exact fun k stored hk => h k stored (hs.sessions ▸ hk)
  | terminate id state status preserve _ _ =>
    intro k stored hk
    simp only [TickState.withPipeline, CommandPipeline.terminate_sessions] at hk
    split at hk
    · cases hk
    · exact h k stored hk
  | create session servos _ _ hnew _ _ _ =>
    intro k stored hk
    simp only [TickState.withPipeline, Std.TreeMap.getElem?_insertIfNew,
      Std.LawfulEqOrd.compare_eq_iff_eq] at hk
    split at hk
    · rename_i heq
      cases hk
      exact heq.1 ▸ hkept.create _ session hsound hnew
    · exact h k stored hk
  | retarget id old new hold hnew hid hservo _ =>
    subst hid
    exact h.insert (hkept.retarget _ old new hsound hnew hservo (h _ old hold))
  | progress id session session' hfound hsame _ =>
    exact h.insert (hkept.progress id session session' hsame (h id session hfound))
  | _ => exact h

theorem Elems.stores {P : String → Session → Prop} (hkept : Kept P β op) {s s' : TickState β}
    (hstep : Elems B op s s') (hsound : Sound s.pipeline) (h : Stores P s.pipeline) :
    Stores P s'.pipeline :=
  (hstep.invariant (I := fun s => Sound s.pipeline ∧ Stores P s.pipeline)
    (fun _ _ hstep h => ⟨hstep.sound h.1, hstep.stores hkept h.1 h.2⟩) ⟨hsound, h⟩).2

/-! ## Calls of the platform -/

theorem Elem.calls {s s' : TickState β} (hstep : Elem B op s s') :
    Calls B s.pipeline.backend s'.pipeline.backend := by
  cases hstep with
  | silent p hs => exact hs.calls
  | terminate id state status preserve _ _ =>
    simp only [TickState.withPipeline, CommandPipeline.terminate_backend]
    split
    · exact (AnyCall.stopSession _ _).calls
    · exact .refl _
  | _ => exact .refl _

theorem Elems.calls {s s' : TickState β} (h : Elems B op s s') :
    Calls B s.pipeline.backend s'.pipeline.backend :=
  h.invariant (I := fun t => Calls B s.pipeline.backend t.pipeline.backend)
    (fun _ _ hstep hs => hs.trans hstep.calls) (.refl _)

/-! ## A turn is a chain of elementary steps -/

namespace Tick

variable {lib : MathLib} {ctx : TickContext} {s s' : TickState β} {id : String}
  {session : Session} {selected : JointFeedback} {group : JointGroupModel}

theorem withPipeline_elems (p : CommandPipeline β) (h : Silent B s.pipeline p) :
    Elems B op s (s.withPipeline p) := (Elem.silent s p h).elems

theorem withBackend_elems {e : β} (h : Calls B s.pipeline.backend e) :
    Elems B op s (s.withBackend e) :=
  withPipeline_elems { s.pipeline with backend := e }
    ⟨h, rfl, rfl, rfl, rfl, rfl, rfl, rfl, rfl, rfl, rfl, rfl, rfl, fun _ h => h⟩

theorem Watched.elems (h : Watched B id session s s') : Elems B op s s' := by
  obtain ⟨e, m, hquiet, hc, -, -, rfl⟩ := h
  exact withPipeline_elems { s.pipeline with backend := e, monitor := m }
    ⟨hquiet.calls, rfl, rfl, rfl, rfl, hc, rfl, rfl, rfl, rfl, rfl, rfl, rfl, fun _ h => h⟩

theorem Moved.elems (h : Moved B s s') : Elems B op s s' := by
  obtain ⟨e, hquiet, rfl⟩ := h
  exact withBackend_elems hquiet.calls

theorem issue_elems (hop : op.isTick = true) (h : Stored s id session) (limit : SteadyTime)
    (command : JointCommand) : Elems B op s (s.issue session.sessionId limit command) := by
  rw [h.ok.key]
  exact (Elem.issue s id session limit command hop h.found).elems

theorem issueHold_elems (hop : op.isTick = true) (h : Stored s id session) (limit : SteadyTime)
    (hold : Option JointCommand) : Elems B op s (Tick.issueHold s session limit hold) := by
  cases hold with
  | none => exact .refl s
  | some command => exact issue_elems hop h limit command

theorem noteRetry_elems (endpoint : String) (retry : Option SteadyTime) :
    Elems B op s (noteRetry s endpoint retry) := by
  cases retry with
  | none => exact .refl s
  | some time =>
    exact withPipeline_elems { s.pipeline with
      servoRetryAfter := s.pipeline.servoRetryAfter.insert endpoint time }
      ⟨.refl _, rfl, rfl, rfl, rfl, rfl, rfl, rfl, rfl, rfl, rfl, rfl, rfl, fun _ h => h⟩

theorem Stopped.elems (hop : op.isTick = true) (h : Stored s id session)
    (hs : Stopped B lib ctx id session selected s s') : Elems B op s s' := by
  obtain ⟨s₁, s₂, hold, limit, retry, status, hm, -, -, -, hm', -⟩ := hs
  have hheld : Elems B op s s₂ :=
    (hm.elems.trans (issueHold_elems hop (h.moved hm) limit hold)).trans hm'.elems
  exact (hheld.trans (noteRetry_elems _ retry)).trans
    (Elem.terminate _ id .aborted status true rfl fun _ => ⟨nofun, hop⟩).elems

theorem Ended.elems (hop : op.isTick = true) (h : Stored s id session)
    (he : Ended B lib ctx id session selected s s') : Elems B op s s' := by
  cases he with
  | dropped s₁ status hm =>
    exact hm.elems.trans (Elem.terminate s₁ id .aborted status false rfl nofun).elems
  | stopped s' hs => exact hs.elems hop h

/-- A start stores the session, adds it to the active set and reports it as running. -/
theorem markStarted_elems (h : Stored s id session)
    (hmeasured : Measured lib ctx s.pipeline session group selected) :
    Elems B op s (markStarted s id (startedSession session group selected)) := by
  have hstarted := (h.started hmeasured).ok
  have hprogress : Elem B op s (s.withPipeline { s.pipeline with
      sessions := s.pipeline.sessions.insert id (startedSession session group selected) }) :=
    .progress s id session _ h.found ⟨rfl, rfl, rfl, rfl, rfl, rfl⟩ (hstarted.transfer rfl rfl rfl)
  refine hprogress.elems.trans ((Elem.activate _ id (startedSession session group selected)
    (by simp [TickState.withPipeline])).elems.trans ?_)
  refine Elems.trans (withPipeline_elems (markStarted s id
    (startedSession session group selected)).pipeline
    ⟨.refl _, rfl, rfl, rfl, rfl, rfl, rfl, rfl, rfl, rfl, rfl, rfl, rfl, fun _ h => h⟩) ?_
  exact (Elem.running _ id (startedSession session group selected) _
    (by simp [TickState.withPipeline, markStarted, TickState.pushEvent])).elems

theorem Running.elems {session' : Session} (h : Stored s id session)
    (hmeasured : Measured lib ctx s.pipeline session group selected)
    (hrun : Running B ctx id session group selected s session' s') : Elems B op s s' := by
  cases hrun with
  | kept => exact .refl s
  | launched s₁ s' hidle hretry hanswer hmoved hgoal =>
    have hm₁ : Measured lib ctx s₁.pipeline session group selected := by
      obtain ⟨e, -, rfl⟩ := hmoved
      exact ⟨hmeasured.found, hmeasured.model, hmeasured.names, hmeasured.valid, hmeasured.selected⟩
    exact ((withBackend_elems (AnyCall.startSession _ _ _ _ _).calls).trans hmoved.elems).trans
      ((markStarted_elems ((h.withBackend _).moved hmoved) hm₁).trans hgoal.elems)

theorem emitted_elems {limit : SteadyTime} {command : JointCommand} (hop : op.isTick = true)
    (h : Stored s id session) (hnames : group.jointNames = session.jointNames) (hw : wellFormed command group = true) :
    Elems B op s (emitted lib s id session group limit command) := by
  have hok : SessionOk (emitted lib s id session group limit command).pipeline id
      (updatedSession lib session group command) := (h.emitted hnames hw).ok
  rw [emitted_pipeline] at hok
  refine (issue_elems hop h limit command).trans ?_
  have hprogress : Elem B op (s.issue session.sessionId limit command)
      ((s.issue session.sessionId limit command).withPipeline
        { (s.issue session.sessionId limit command).pipeline with
          sessions := s.pipeline.sessions.insert id (updatedSession lib session group command) }) :=
    .progress _ id session _ h.found ⟨rfl, rfl, rfl, rfl, rfl, rfl⟩ (hok.transfer rfl rfl rfl)
  refine hprogress.elems.trans (Elems.trans (withPipeline_elems
    (recordFinal (s.issue session.sessionId limit command) id
      (updatedSession lib session group command)).pipeline
    ⟨.refl _, rfl, rfl, rfl, rfl, rfl, rfl, rfl, rfl, rfl, rfl, rfl, rfl, fun _ h => h⟩) ?_)
  unfold emitted
  split
  · exact (Elem.running _ id (updatedSession lib session group command) _
      (by simp [TickState.withPipeline, recordFinal])).elems
  · exact .refl _

theorem Concluded.elems (hop : op.isTick = true) (h : Stored s id session)
    (hc : Concluded B lib ctx id session selected s s') : Elems B op s s' := by
  cases hc with
  | goesOn s' hw => exact hw.elems
  | failed s₁ s' hw hmove hstop =>
    have hpop : Elem B op s₁ s₁.popCommand := .drop s₁ _ (List.dropLast_sublist _)
    exact (hw.elems.trans hpop.elems).trans (hstop.elems hop (h.watched hw).pop)
  | succeeded s₁ hw hmove =>
    exact hw.elems.trans (Elem.terminate s₁ id .succeeded .Ok true rfl fun _ => ⟨nofun, hop⟩).elems

theorem Turn.elems (hop : op.isTick = true) (h : Turn B lib ctx id s s') : Elems B op s s' := by
  cases h with
  | missing => exact .refl s
  | waits session s' h _ _ hmoved => exact hmoved.elems
  | refused session selected s' h hended => exact hended.elems hop h
  | startEnds session group selected s₁ s' h hmoved hmeasured hidle hretry hended =>
    exact (hmoved.elems.trans (withBackend_elems (AnyCall.startSession _ _ _ _ _).calls)).trans
      (hended.elems hop ((h.moved hmoved).withBackend _))
  | runEnds session session' group selected s₁ s₂ s' h hmoved hmeasured hrun hended =>
    have hmeasured₁ := hmeasured.fixed hmoved.fixed
    exact (hmoved.elems.trans (hrun.elems (h.moved hmoved) hmeasured₁)).trans
      (hended.elems hop (hrun.stored (h.moved hmoved) hmeasured₁).1)
  | emits session session' group selected s₁ s₂ s₃ s' limit command h hmoved hmeasured hrun hmoved'
      happroved hlimit hconcluded =>
    have hmeasured₁ := hmeasured.fixed hmoved.fixed
    obtain ⟨h₂, -, hmeasured₂⟩ := hrun.stored (h.moved hmoved) hmeasured₁
    have hw := happroved.wellFormed
    exact ((hmoved.elems.trans (hrun.elems (h.moved hmoved) hmeasured₁)).trans hmoved'.elems).trans
      ((emitted_elems hop (h₂.moved hmoved') hmeasured₂.names hw).trans
        (hconcluded.elems hop ((h₂.moved hmoved').emitted hmeasured₂.names hw)))

end Tick

end HumanoidMotion
