import HumanoidMotion.Motion.Submissions
import HumanoidMotion.Motion.TickRun
/-
# Every call is a chain of elementary steps

* `exec_elems` — from a sound state each public function runs a chain of
  elementary steps; what a tick returns is what the chain has gathered.
* `exec_sound`, `reaches_sound` — so the lookups are sound in every reachable
  state, and no call throws (`exec_ne_threw`).
-/

namespace HumanoidMotion

open Tick

variable {β : Type} {B : Platform β} {lib : MathLib} {op : Op}

/-! ## Submitted sessions -/

theorem servoId_ne_empty (endpoint : String) : (servoId endpoint).isEmpty = false := by
  simp [servoId, String.isEmpty_eq_false_iff]

theorem servoId_injective {e e' : String} (h : servoId e = servoId e') : e = e' := by
  simpa [servoId] using h

/-- A session that `validateRequest` made is sound where it is stored. -/
theorem sessionOk_of_valid {p : CommandPipeline β} (h : Sound p) {endpoint : String}
    {policy : EndpointPolicy} {request : SessionRequest} {servo : Bool} {session : Session}
    (hpolicy : p.endpoints[endpoint]? = some policy)
    (hvalid : validateRequest p.groups policy request servo = .ok session)
    (submittedAt : SteadyTime) :
    SessionOk p session.sessionId { session with submittedAt } := by
  have hadm := validateRequest_ok hvalid
  obtain ⟨model, hmodel, hjoints, htarget⟩ := hadm.found
  obtain ⟨hname, -, hconfig, -⟩ := h.endpointOk endpoint policy hpolicy
  obtain ⟨-, hgroup⟩ := h.groupOk _ model hmodel
  have hsession := hadm.session
  have hkind : session.request = request := by rw [hsession]
  refine ⟨rfl, ?_, ⟨policy, ?_, ?_⟩, ⟨model, ?_, hjoints, hgroup⟩, fun hs => ?_, ?_, hconfig⟩
  · rw [hsession]
    cases servo with
    | true => exact servoId_ne_empty _
    | false => exact hadm.named rfl
  · rw [show session.endpointName = policy.endpointName by rw [hsession], hname]
    exact hpolicy
  · rw [show session.groupName = groupName request by rw [hsession]]
    exact hadm.group
  · rw [show session.groupName = groupName request by rw [hsession]]
    exact hmodel
  · rw [hsession] at hs
    cases hs
  · rw [show ({ session with submittedAt } : Session).request = request from hkind]
    exact validateTarget_ok (model.valid_iff.1 hgroup).2.1 htarget

theorem validateRequest_idle {groups : StringMap JointGroupModel} {policy : EndpointPolicy}
    {request : SessionRequest} {servo : Bool} {session : Session}
    (hvalid : validateRequest groups policy request servo = .ok session) :
    session.backendStarted = false := by
  rw [(validateRequest_ok hvalid).session]

/-- The session is named after its endpoint and carries the request; a servo session stands under
the id derived from the endpoint, a Move under the id its caller chose. -/
structure MadeFor (endpoint : String) (request : SessionRequest) (servo : Bool)
    (session : Session) : Prop where
  endpointEq : session.endpointName = endpoint
  requestEq : session.request = request
  kind : isServo session.kind = servo
  derived : servo = true → session.sessionId = servoId endpoint
  chosen : servo = false → session.sessionId = requestId request

theorem madeFor_of_valid {p : CommandPipeline β} (h : Sound p) {endpoint : String}
    {policy : EndpointPolicy} {request : SessionRequest} {servo : Bool} {session : Session}
    (hpolicy : p.endpoints[endpoint]? = some policy)
    (hvalid : validateRequest p.groups policy request servo = .ok session) :
    MadeFor endpoint request servo session := by
  have hadm := validateRequest_ok hvalid
  have hname := (h.endpointOk endpoint policy hpolicy).1
  have hrequest : session.request = request := by rw [hadm.session]
  have hid : session.sessionId =
      if servo then servoId policy.endpointName else requestId request := by
    rw [hadm.session]
  refine ⟨?_, hrequest, ?_, fun hs => ?_, fun hs => ?_⟩
  · rw [hadm.session]
    exact hname
  · rw [Session.kind, hrequest]
    exact hadm.servo
  · rw [hid, if_pos hs, hname]
  · rw [hid, if_neg (by simp [hs])]

/-! ## The calls outside `tick` -/

theorem withPermits_elems (s : TickState β) (joints : List String) :
    Elems B op s (s.withPipeline (s.pipeline.revokeOutputs joints)) := by
  refine (Elem.revoke s _ fun joint x hx => ?_).elems
  revert hx
  generalize s.pipeline.publicationPermits = permits
  induction joints generalizing permits with
  | nil => exact fun h => h
  | cons j joints ih =>
    intro hx
    have h := ih (permits.erase j) hx
    simp only [Std.TreeMap.getElem?_erase, Std.LawfulEqOrd.compare_eq_iff_eq] at h
    split at h
    · cases h
    · exact h

theorem readClock_elems (s : TickState β) :
    Elems B op s (s.withPipeline (s.pipeline.readClock B).2) :=
  withBackend_elems (QuietCall.steadyNow _).quiet.calls

theorem registerEndpoint_elems (s : CommandPipeline β) (policy : EndpointPolicy) :
    Elems B (.registerEndpoint policy) { pipeline := s }
      { pipeline := (s.registerEndpoint policy).2 } := by
  unfold CommandPipeline.registerEndpoint
  simp only
  split
  · exact .refl _
  · rename_i hconfig
    split
    · exact .refl _
    · split
      · rename_i hok
        obtain ⟨hname, hlease, hnew, harbiter⟩ := ControlArbiter.registerEndpoint_ok _ _ hok
        have hgoal : s.config.goalMonitor.valid = true := by
          simp only [Bool.not_eq_true', Bool.not_eq_false] at hconfig
          unfold CommandPipeline.validatePipelineConfig at hconfig
          split_ifs at hconfig with h₁ h₂ h₃ h₄ <;> try cases hconfig
          · rw [hconfig] at h₁; cases h₁
          · simpa using h₄
        exact (Elem.register { pipeline := s } policy _ rfl (by rw [harbiter]) (by rw [harbiter])
          hnew hname hgoal hlease).elems
      · rename_i hno
        rw [ControlArbiter.registerEndpoint_refused _ _ (by simpa using hno)]
        exact .refl _

theorem withArbiter_elems (s : TickState β) (arbiter : ControlArbiter)
    (h : arbiter.policies = s.pipeline.arbiter.policies) :
    Elems B op s (s.withPipeline { s.pipeline with arbiter := arbiter }) :=
  withPipeline_elems _ ⟨.refl _, rfl, rfl, h, rfl, rfl, rfl, rfl, rfl, rfl, rfl, rfl, rfl, fun _ h => h⟩

theorem settle_elems (s : TickState β) (preempted expired : List String) :
    Elems B op s (s.withPipeline (s.pipeline.settle B preempted expired)) :=
  (endAll_elems rfl _ preempted s).trans (endAll_elems rfl _ expired _)

/-- A session that is sound here is sound once an arbitration has been settled. -/
theorem SessionOk.settle {p : CommandPipeline β} {id : String} {session : Session}
    (h : SessionOk p id session) (preempted expired : List String) :
    SessionOk (p.settle B preempted expired) id session :=
  h.transfer (CommandPipeline.settle_frame B (fun q => q.groups) (by simp) _ _ _)
    (CommandPipeline.settle_frame B (fun q => q.endpoints) (by simp) _ _ _)
    (CommandPipeline.settle_frame B (fun q => q.monitor.config) (by simp) _ _ _)

theorem Created.transfer {p p' : CommandPipeline β} {session : Session} (h : Created p op session)
    (hg : p'.groups = p.groups) (he : p'.endpoints = p.endpoints) : Created p' op session := by
  cases h with
  | submitMove endpoint request now generation policy session hpolicy hvalid =>
    exact .submitMove _ _ _ _ policy session (he ▸ hpolicy) (hg ▸ hvalid)
  | updateServo endpoint request receivedAt now generation policy session hpolicy hvalid =>
    exact .updateServo _ _ _ _ _ policy session (he ▸ hpolicy) (hg ▸ hvalid)

/-- An arbitrated state: the arbiter has changed, and sessions have been ended. -/
theorem arbitrated_elems (s : CommandPipeline β) (arbiter : ControlArbiter)
    (h : arbiter.policies = s.arbiter.policies) (preempted expired : List String) :
    Elems B op { pipeline := s }
      { pipeline := (s.withArbiter arbiter).settle B preempted expired } :=
  (withArbiter_elems { pipeline := s } arbiter h).trans
    (settle_elems { pipeline := s.withArbiter arbiter } preempted expired)

theorem MoveOutcome.elems {s p : CommandPipeline β} (h : Sound s) {endpoint : String}
    {request : SessionRequest} {now : SteadyTime} {generation : Nat} {result : SubmissionResult}
    (hout : MoveOutcome B s endpoint request now generation result p) :
    Elems B (.submitMove endpoint request now generation) { pipeline := s } { pipeline := p } := by
  cases hout with
  | refused => exact .refl _
  | lost policy arbPolicy session _ arbitration =>
    exact arbitrated_elems s ((s.arbiter.displace _ arbPolicy now now).release _) rfl _ _
  | admitted policy arbPolicy session _ arbitration hvalid hfresh harb hwon settled hsettled h' =>
    have hpre : Elems B (.submitMove endpoint request now generation) { pipeline := s }
        { pipeline := settled } := by
      rw [hsettled]
      exact arbitrated_elems s (s.arbiter.displace _ arbPolicy now now) rfl _ _
    have hok : SessionOk (s.withArbiter (s.arbiter.displace (CommandPipeline.claimOf endpoint
        session) arbPolicy now now)) session.sessionId { session with submittedAt := now } :=
      (sessionOk_of_valid h hvalid.registered hvalid.checked now).transfer rfl rfl rfl
    have hidle : session.backendStarted = false := validateRequest_idle hvalid.checked
    have hkind : isServo session.kind = false :=
      (madeFor_of_valid h hvalid.registered hvalid.checked).kind
    have hcreate := Elem.create (B := B) { pipeline := settled } { session with submittedAt := now }
      settled.servoSessionByEndpoint
      (by rw [hsettled, CommandPipeline.settle_sessions]; simp [CommandPipeline.withArbiter, hfresh])
      (by rw [hsettled]; exact hok.settle _ _)
      (Created.transfer (.submitMove endpoint request now generation policy session
        hvalid.registered hvalid.checked)
        (by rw [hsettled, CommandPipeline.settle_frame B (fun q => q.groups) (by simp)]; rfl)
        (by rw [hsettled, CommandPipeline.settle_frame B (fun q => q.endpoints) (by simp)]; rfl))
      hidle (by
        rw [hsettled, CommandPipeline.settle_frame B (fun q => q.outputEnabled) (by simp)]
        exact hvalid.enabled) (.inr ⟨hkind, rfl⟩)
    exact (hpre.trans hcreate.elems).trans
      (withPermits_elems { pipeline := settled.withNew _ } session.jointNames)

theorem ServoBase.elems {s p : CommandPipeline β} {policy : EndpointPolicy} {id : String}
    {receivedAt now : SteadyTime} {existing : Option Session}
    (h : ServoBase B s policy id receivedAt now existing p) :
    Elems B op { pipeline := s } { pipeline := p } := by
  cases h with
  | fresh => exact .refl _
  | kept => exact .refl _
  | renewed existing h _ _ =>
    exact (Elem.terminate { pipeline := s } id .aborted CommandPipeline.leaseExpiredStatus false
      rfl nofun).elems

/-- The stored session of the base, and its tables. -/
theorem ServoBase.tables {s p : CommandPipeline β} {policy : EndpointPolicy} {id : String}
    {receivedAt now : SteadyTime} {existing : Option Session}
    (h : ServoBase B s policy id receivedAt now existing p) :
    p.groups = s.groups ∧ p.endpoints = s.endpoints ∧ p.sessions[id]? = existing := by
  cases h with
  | fresh h => exact ⟨rfl, rfl, h⟩
  | kept existing h _ _ => exact ⟨rfl, rfl, h⟩
  | renewed existing h _ _ => simp

theorem ServoBase.enabled {s p : CommandPipeline β} {policy : EndpointPolicy} {id : String}
    {receivedAt now : SteadyTime} {existing : Option Session}
    (h : ServoBase B s policy id receivedAt now existing p) :
    p.outputEnabled = s.outputEnabled := by
  cases h with
  | fresh => rfl
  | kept => rfl
  | renewed => simp

theorem ServoOutcome.elems {s p : CommandPipeline β} (h : Sound s) {endpoint : String}
    {request : SessionRequest} {receivedAt now : SteadyTime} {generation : Nat}
    {result : SubmissionResult}
    (hout : ServoOutcome B s endpoint request receivedAt now generation result p) :
    Elems B (.updateServo endpoint request receivedAt now generation) { pipeline := s }
      { pipeline := p } := by
  cases hout with
  | refused => exact .refl _
  | rejected _ base policy session existing _ _ _ hbase => exact hbase.elems
  | accepted policy arbPolicy session existing base settled _ hupdated hsettled h' =>
    have hbase : Elems B (.updateServo endpoint request receivedAt now generation)
        { pipeline := s } { pipeline := base } := hupdated.start.elems
    have hsound := hbase.sound h
    obtain ⟨hg, he, hfound⟩ := hupdated.start.tables
    have hpolicy : base.endpoints[endpoint]? = some policy := he ▸ hupdated.valid.registered
    have hcheck : validateRequest base.groups policy request true = .ok session :=
      hg ▸ hupdated.valid.checked
    have hok := sessionOk_of_valid hsound hpolicy hcheck receivedAt
    have hidle : session.backendStarted = false := validateRequest_idle hcheck
    have hnew := Created.updateServo endpoint request receivedAt now generation policy session
      hpolicy hcheck
    have hmade := madeFor_of_valid hsound hpolicy hcheck
    set arbiter := base.arbiter.displace (CommandPipeline.claimOf endpoint session) arbPolicy
      receivedAt now with harbiter
    have hstore : Elems B (.updateServo endpoint request receivedAt now generation)
        { pipeline := base.withArbiter arbiter }
        { pipeline := (base.withArbiter arbiter).storeServo endpoint session existing receivedAt } := by
      cases existing with
      | none =>
        refine (Elem.create (B := B) { pipeline := base.withArbiter arbiter }
          { session with submittedAt := receivedAt }
          (base.servoSessionByEndpoint.insert endpoint session.sessionId) hfound
          (hok.transfer rfl rfl rfl) (hnew.transfer rfl rfl) hidle
          (hupdated.start.enabled.trans hupdated.valid.enabled) ?_).elems
        refine .inl ⟨hmade.kind, ?_⟩
        rw [← hmade.endpointEq]
        rfl
      | some old =>
        have hold := hsound.sessionOk _ old hfound
        exact (Elem.retarget (B := B) { pipeline := base.withArbiter arbiter } session.sessionId old
          { session with submittedAt := receivedAt } hfound (hnew.transfer rfl rfl) rfl hmade.kind
          ⟨hold.key, hold.nonempty, hold.endpoint, hold.group, hold.last, hok.goal,
            hold.monitor⟩).elems
    have hsettle : Elems B (.updateServo endpoint request receivedAt now generation)
        { pipeline := s } { pipeline := settled } := by
      rw [hsettled]
      exact ((hbase.trans (withArbiter_elems { pipeline := base } arbiter rfl)).trans hstore).trans
        (settle_elems _ _ _)
    split
    · exact hsettle.trans (withPermits_elems { pipeline := settled } _)
    · exact hsettle

theorem setOutputPermit_elems (s : CommandPipeline β) (enabled : Bool) (generation : Nat) :
    Elems B (.setOutputPermit enabled generation) { pipeline := s }
      { pipeline := s.setOutputPermit B enabled generation } := by
  unfold CommandPipeline.setOutputPermit
  simp only
  split
  · have hcancel : Elems B (.setOutputPermit enabled generation) { pipeline := s }
        { pipeline := s.cancelAll B } :=
      endAll_elems rfl CommandPipeline.permissionRevokedStatus s.sessions.keys { pipeline := s }
    have hclear : Elem B (.setOutputPermit enabled generation) { pipeline := s.cancelAll B }
        { pipeline := { s.cancelAll B with publicationPermits := ∅ } } :=
      .revoke { pipeline := s.cancelAll B } ∅ (by simp)
    refine (hcancel.trans hclear.elems).trans (Elem.gate _ enabled generation rfl fun _ id => ?_).elems
    exact s.endAll_keys_sessions .canceled CommandPipeline.permissionRevokedStatus id
  · rename_i hopen
    refine (Elem.gate _ enabled generation rfl fun hclosed => ?_).elems
    simp [hclosed] at hopen

theorem cancel_elems (s : CommandPipeline β) (id : String) :
    Elems B op { pipeline := s } { pipeline := (s.cancel B id).2 } := by
  have hend : Elems B op { pipeline := s }
      { pipeline := s.terminate B id .canceled CommandPipeline.canceledStatus } :=
    (Elem.terminate { pipeline := s } id .canceled CommandPipeline.canceledStatus false rfl
      nofun).elems
  unfold CommandPipeline.cancel
  simp only
  split
  · exact hend
  · exact hend.trans (withBackend_elems (AnyCall.stopSession _ _).calls)

theorem validatePublication_elems (s : TickState β) (command : JointCommand) (now : SteadyTime) :
    Elems B op s (s.withPipeline (s.pipeline.validatePublicationLocked B command now).2) := by
  unfold CommandPipeline.validatePublicationLocked
  split
  · exact .refl s
  · split
    · exact .refl s
    · exact (Elem.terminate s command.sessionId .aborted CommandPipeline.commandExpiredStatus false
        rfl nofun).elems

theorem publishCommand_elems (s : CommandPipeline β) (command : JointCommand) (now : SteadyTime) :
    Elems B op { pipeline := s } { pipeline := (s.publishCommand B command now).2.2 } := by
  have hread : Elems B op { pipeline := s }
      { pipeline := ((s.readClock B).2.readClock B).2 } :=
    (readClock_elems { pipeline := s }).trans (readClock_elems { pipeline := (s.readClock B).2 })
  unfold CommandPipeline.publishCommand
  simp only
  split
  · exact hread.trans (validatePublication_elems _ _ _)
  · exact (hread.trans (validatePublication_elems _ _ _)).trans
      (withPermits_elems { pipeline := _ } command.jointNames)

theorem approve_elems (s : CommandPipeline β) (enteredAt now : SteadyTime)
    (approved : List Publication) (command : JointCommand) :
    Elems B op { pipeline := s }
      { pipeline := (CommandPipeline.approve B enteredAt now (approved, s) command).2 } :=
  (readClock_elems { pipeline := s }).trans
    (validatePublication_elems { pipeline := (s.readClock B).2 } _ _)

theorem foldl_approve_elems (enteredAt now : SteadyTime) :
    ∀ (commands : List JointCommand) (state : List Publication × CommandPipeline β),
      Elems B op { pipeline := state.2 }
        { pipeline := (commands.foldl (CommandPipeline.approve B enteredAt now) state).2 }
  | [], _ => .refl _
  | c :: cs, state =>
    (approve_elems state.2 enteredAt now state.1 c).trans (foldl_approve_elems enteredAt now cs _)

theorem foldl_revoke_elems : ∀ (approved : List Publication) (p : CommandPipeline β),
    Elems B op { pipeline := p }
      ⟨approved.foldl (fun p approved => p.revokeOutputs approved.command.jointNames) p, [], []⟩
  | [], _ => .refl _
  | _ :: cs, p => (withPermits_elems { pipeline := p } _).trans (foldl_revoke_elems cs _)

theorem publishCommands_elems (s : CommandPipeline β) (commands : List JointCommand)
    (now : SteadyTime) :
    Elems B op { pipeline := s } { pipeline := (s.publishCommands B commands now).2.2 } := by
  have hread : Elems B op { pipeline := s } { pipeline := (s.readClock B).2 } :=
    readClock_elems { pipeline := s }
  have happrove := hread.trans
    (foldl_approve_elems (s.readClock B).1 now commands ([], (s.readClock B).2))
  unfold CommandPipeline.publishCommands
  simp only
  split
  · exact happrove
  · exact happrove.trans (foldl_revoke_elems _ _)

/-! ## Every call -/

variable (B lib) in
/-- From a sound state every call is a chain of elementary steps, and what it returns as commands
and events is what the chain has gathered. -/
theorem exec_elems (s : CommandPipeline β) (h : Sound s) (op : Op) :
    ∃ t : TickState β, Elems B op { pipeline := s } t ∧ (exec B lib s op).2 = t.pipeline ∧
      (exec B lib s op).1.commands = t.commands ∧ (exec B lib s op).1.events = t.events := by
  cases op with
  | registerEndpoint policy => exact ⟨_, registerEndpoint_elems s policy, rfl, rfl, rfl⟩
  | submitMove endpoint request now generation =>
    exact ⟨_, (submitMove_outcome B s endpoint request now generation).elems h, rfl, rfl, rfl⟩
  | updateServo endpoint request receivedAt now generation =>
    exact ⟨_, (updateServo_outcome B s endpoint request receivedAt now generation).elems h, rfl,
      rfl, rfl⟩
  | setOutputPermit enabled generation =>
    exact ⟨_, setOutputPermit_elems s enabled generation, rfl, rfl, rfl⟩
  | cancel id => exact ⟨_, cancel_elems s id, rfl, rfl, rfl⟩
  | tick feedback now =>
    obtain ⟨s₂, hrun, htick⟩ := tick_run B lib s feedback now h
    have hopening : Elems B (.tick feedback now) { pipeline := s } (s.tickOpening B now) :=
      tickOpening_elems s now
    have hopened := hopening.trans (opened_elems (s.schedulingGap now)
      (s.tickArbitration B now).winnerSessionIds _ (hopening.sound h))
    refine ⟨closed B (s.tickContext B feedback now) s₂,
      (hopened.trans (hrun.turns.elems rfl)).trans (closed_elems s₂), ?_, ?_, ?_⟩ <;>
      simp only [exec, htick, Reply.commands, Reply.events]
  | validateCommandForPublication command now =>
    exact ⟨_, validatePublication_elems { pipeline := s } command now, rfl, rfl, rfl⟩
  | publishCommand command now => exact ⟨_, publishCommand_elems s command now, rfl, rfl, rfl⟩
  | publishCommands commands now => exact ⟨_, publishCommands_elems s commands now, rfl, rfl, rfl⟩

theorem exec_sound (s : CommandPipeline β) (h : Sound s) (op : Op) :
    Sound (exec B lib s op).2 := by
  obtain ⟨t, helems, hpipeline, -, -⟩ := exec_elems B lib s h op
  rw [hpipeline]
  exact helems.sound h

/-- No call throws. -/
theorem exec_ne_threw (s : CommandPipeline β) (h : Sound s) (op : Op) :
    (exec B lib s op).1 ≠ .threw := by
  cases op with
  | tick feedback now =>
    obtain ⟨s₂, -, htick⟩ := tick_run B lib s feedback now h
    simp only [exec, htick]
    exact fun h => by cases h
  | _ => exact fun h => by cases h

/-! ## Reachable states -/

theorem addGroup_groupOk {state : StringMap JointGroupModel × MotionStatus}
    {group : JointGroupModel}
    (h : ∀ (name : String) found, state.1[name]? = some found →
      found.name = name ∧ found.valid = true) :
    ∀ (name : String) found, (addGroup state group).1[name]? = some found →
      found.name = name ∧ found.valid = true := by
  unfold addGroup
  split
  · exact h
  · rename_i hnew
    simp only [Bool.or_eq_true, Bool.not_eq_true', not_or, Bool.not_eq_false] at hnew
    intro name found hf
    simp only [Std.TreeMap.getElem?_insert, Std.LawfulEqOrd.compare_eq_iff_eq] at hf
    split at hf
    · rename_i hname
      cases hf
      exact ⟨hname, hnew.1⟩
    · exact h name found hf

theorem Initial.sound {s : CommandPipeline β} (h : Initial s) : Sound s := by
  obtain ⟨backend, groups, config, rfl⟩ := h
  have hgroups : ∀ (gs : List JointGroupModel) (state : StringMap JointGroupModel × MotionStatus),
      (∀ (name : String) found, state.1[name]? = some found →
        found.name = name ∧ found.valid = true) →
      ∀ (name : String) found, (gs.foldl addGroup state).1[name]? = some found →
        found.name = name ∧ found.valid = true := by
    intro gs
    induction gs with
    | nil => exact fun _ h => h
    | cons g gs ih => exact fun state h => ih _ (addGroup_groupOk h)
  exact
    { groupOk := hgroups groups (∅, .Ok) (by simp)
      endpointOk := by simp [CommandPipeline.create]
      policies := by simp [CommandPipeline.create]
      monitorConfig := rfl
      sessionOk := by simp [CommandPipeline.create]
      activeStored := by simp [CommandPipeline.create] }

end HumanoidMotion
