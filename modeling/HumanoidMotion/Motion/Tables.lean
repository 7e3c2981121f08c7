import HumanoidMotion.Motion.TickRows
/-
# The tables stay consistent

`Tables` is kept by every call (`exec_tables`), as long as no servo target meets
a Move under the id derived from its endpoint (`ServoMeetsServo`). What does not
depend on such ids holds in every run (`run_tables`).
-/

namespace HumanoidMotion

open Tick

variable {β : Type} {S : SessionPlatform β} {lib : MathLib} {e₀ : β} {apart : Prop}

/-! ## New sessions -/

/-- A session that `validateRequest` made belongs to its endpoint. -/
theorem identity_of_valid {p : CommandPipeline β} (h : Sound p) {endpoint : String}
    {policy : EndpointPolicy} {request : SessionRequest} {servo : Bool} {session : Session}
    (hpolicy : p.endpoints[endpoint]? = some policy)
    (hvalid : validateRequest p.groups policy request servo = .ok session)
    (submittedAt : SteadyTime) : Identity p session.sessionId { session with submittedAt } := by
  have hadm := validateRequest_ok hvalid
  have hmade := madeFor_of_valid h hpolicy hvalid
  obtain ⟨model, hmodel, hjoints, -⟩ := hadm.found
  have hgroup : session.groupName = groupName request := by rw [hadm.session]
  have hkind : session.kind = motionKind request := by rw [Session.kind, hmade.requestEq]
  refine ⟨rfl, ⟨policy, ?_, ?_, ?_⟩, ?_, ⟨model, ?_, hjoints⟩, fun hs => ?_⟩
  · rw [hmade.endpointEq]
    exact hpolicy
  · rw [hadm.kind]
    exact hkind.symm
  · rw [hgroup]
    exact hadm.group
  · rw [hgroup, hmade.requestEq]
  · rw [hgroup]
    exact hmodel
  · rw [hmade.derived (hmade.kind.symm.trans hs), hmade.endpointEq]

/-! ## Submissions -/

section
variable {s p : CommandPipeline β} {endpoint : String} {request : SessionRequest}
  {receivedAt now : SteadyTime} {generation : Nat} {result : SubmissionResult}

/-- Storing a session under an id that has none. -/
theorem rowAt_withNew {q : CommandPipeline β} (session : Session)
    (hnone : q.sessions[session.sessionId]? = none) (k : String) :
    rowAt S (q.withNew session) k = if k = session.sessionId
      then { rowAt S q k with session := some session } else rowAt S q k := by
  have hfree : session.sessionId ∉ q.sessions := by
    simp [CommandPipeline.mem_sessions_iff, hnone]
  have hlookup : (q.withNew session).sessions[k]? =
      if k = session.sessionId then some session else q.sessions[k]? := by
    simp only [CommandPipeline.withNew, Std.TreeMap.getElem?_insertIfNew,
      Std.LawfulEqOrd.compare_eq_iff_eq, hfree, not_false_eq_true, and_true, eq_comm (a := k)]
  simp only [rowAt, hlookup]
  split
  · rfl
  · rfl

/-- The row of a session that has just been stored with its claim. -/
theorem RowOk.created {id : String} {r : Row} {session : Session} {state : ClaimState}
    (h : RowOk apart p id r) (hnone : r.session = none) (hidentity : Identity p id session)
    (hidle : session.backendStarted = false) (hagrees : Agrees session state)
    (hleased : Leased p state) :
    RowOk apart p id { r with session := some session, claim := some state } := by
  obtain ⟨hactive, halive⟩ := h.idle fun old hold => by rw [hnone] at hold; cases hold
  constructor
  · rintro _ _ ⟨rfl⟩
    exact hidentity
  · rintro _ ⟨rfl⟩
    exact ⟨state, rfl, by rw [hagrees.claim]; rfl, fun _ => hagrees⟩
  · intro hs
    cases hs
  · rintro _ ⟨rfl⟩
    exact hleased
  · simp [hactive, hidle]
  · simp [hactive, halive]
  · intro goal hgoal
    obtain ⟨old, hold, -⟩ := h.goal goal hgoal
    rw [hnone] at hold
    cases hold

/-- A claim the arbiter accepts carries what the policy of its endpoint says. -/
theorem leased_of_policy (hsound : Sound p) {claim : CommandClaim} {servo : Bool}
    {policy : EndpointPolicy} {sequence : Nat}
    (hvalid : (p.arbiter.validateClaim claim servo).ok = true)
    (hfound : p.arbiter.policies[claim.endpointName]? = some policy) (time : SteadyTime) :
    Leased p { claim, priority := policy.priority, receiveSequence := sequence, receivedAt := time,
               lease := policy.servoLease } := by
  obtain ⟨policy', hfound', hkind, -⟩ := p.arbiter.validateClaim_policy claim hvalid
  obtain rfl : policy = policy' := Option.some.inj (hfound.symm.trans hfound')
  exact ⟨⟨policy, (hsound.policies _).symm.trans hfound, hkind, rfl, rfl⟩⟩

theorem MoveOutcome.tables (hsound : Sound s) (h : Tables apart S e₀ s)
    (hout : MoveOutcome S.toPlatform s endpoint request now generation result p) :
    Tables apart S e₀ p := by
  cases hout with
  | refused => exact h
  | lost policy arbPolicy session _ arbitration hvalid hfresh harb hlost _ =>
    refine h.of_settled (s.withArbiter ((s.arbiter.displace (CommandPipeline.claimOf endpoint session)
      arbPolicy now now).release session.sessionId)) rfl rfl
      ((h.arbiter.displace _ arbPolicy now now).release _) rfl rfl rfl rfl rfl
      fun k => (h.rows k).arbitrated ?_ ?_
    · -- the Move itself, a displaced Move, or an expired servo
      intro hgone
      rw [harb.preempted, harb.expired] at hgone
      rw [ControlArbiter.release_claims]
      split
      · rfl
      · rename_i hne
        exact s.arbiter.displace_gone _ _ _ _ (hgone.imp_right fun hexp => ⟨hexp, hne⟩)
    · intro hstay
      rw [harb.preempted, harb.expired] at hstay
      rw [ControlArbiter.release_claims]
      split
      · rename_i heq
        rw [heq]
        exact (Std.TreeMap.getElem?_eq_none harb.fresh).symm
      · rename_i hne
        exact s.arbiter.displace_kept _ _ _ _ hne hstay
  | admitted policy arbPolicy session _ arbitration hvalid hfresh harb hwon settled hsettled _ =>
    have hidentity := identity_of_valid hsound hvalid.registered hvalid.checked now
    have hendpoint := (madeFor_of_valid hsound hvalid.registered hvalid.checked).endpointEq
    have hidle : session.backendStarted = false := validateRequest_idle hvalid.checked
    have hok := h.arbiter.displace (CommandPipeline.claimOf endpoint session) arbPolicy now now
    obtain ⟨state, hstate, -⟩ := ControlArbiter.winner_stored hok hwon
    have hclaim := ControlArbiter.displace_submitted _ _ _ _ _ hstate
    have hnone : settled.sessions[session.sessionId]? = none := by
      rw [hsettled, CommandPipeline.settle_sessions]
      split
      · rfl
      · exact hfresh
    subst hsettled
    refine h.of_settled (s.withArbiter (s.arbiter.displace (CommandPipeline.claimOf endpoint session)
      arbPolicy now now)) rfl rfl hok rfl rfl rfl rfl rfl fun k => ?_
    have hrow : ∀ (q : CommandPipeline β) joints,
        rowAt S (q.revokeOutputs joints) k = rowAt S q k := fun _ _ => rfl
    rw [hrow, rowAt_withNew { session with submittedAt := now } hnone]
    split
    · -- the new session and its claim
      rename_i hk
      change k = session.sessionId at hk
      subst hk
      rw [rowAt_settle, show rowAt S (s.withArbiter (s.arbiter.displace
        (CommandPipeline.claimOf endpoint session) arbPolicy now now)) session.sessionId =
        { rowAt S s session.sessionId with claim := some state } by rw [← hstate]; rfl,
        Row.ended_of_none hfresh, ite_self]
      refine (h.rows session.sessionId).created hfresh hidentity hidle ⟨?_, ?_⟩ ?_
      · rw [hclaim, ← hendpoint]; rfl
      · rw [hclaim]
      · rw [hclaim]
        exact leased_of_policy hsound harb.valid harb.found now
    · -- every other row goes through the arbitration only
      rename_i hk
      refine (h.rows k).arbitrated ?_ ?_
      · intro hgone
        rw [harb.preempted, harb.expired] at hgone
        exact s.arbiter.displace_gone _ _ _ _ (hgone.imp_right fun hexp => ⟨hexp, hk⟩)
      · intro hstay
        rw [harb.preempted, harb.expired] at hstay
        exact s.arbiter.displace_kept _ _ _ _ hk hstay

theorem ServoBase.tables_ok {policy : EndpointPolicy} {id : String} {existing : Option Session}
    (h : Tables apart S e₀ s)
    (hbase : ServoBase S.toPlatform s policy id receivedAt now existing p) : Tables apart S e₀ p := by
  cases hbase with
  | fresh => exact h
  | kept => exact h
  | renewed existing _ _ _ => exact h.terminate id _ _ _

/-- What the new target makes of the session under the derived id. -/
def servoSession (session : Session) (existing : Option Session) (receivedAt : SteadyTime) : Session :=
  match existing with
  | some old => { old with request := session.request, submittedAt := receivedAt }
  | none => { session with submittedAt := receivedAt }

theorem rowAt_storeServo {q : CommandPipeline β} {session : Session} {existing : Option Session}
    (hfound : q.sessions[session.sessionId]? = existing) (k : String) :
    rowAt S (q.storeServo endpoint session existing receivedAt) k = if k = session.sessionId
      then { rowAt S q k with session := some (servoSession session existing receivedAt) }
      else rowAt S q k := by
  have hlookup : (q.storeServo endpoint session existing receivedAt).sessions[k]? =
      if k = session.sessionId then some (servoSession session existing receivedAt)
      else q.sessions[k]? := by
    cases existing with
    | none =>
      have hfree : session.sessionId ∉ q.sessions := by
        simp [CommandPipeline.mem_sessions_iff, hfound]
      simp only [CommandPipeline.storeServo, servoSession, Std.TreeMap.getElem?_insertIfNew,
        Std.LawfulEqOrd.compare_eq_iff_eq, hfree, not_false_eq_true, and_true, eq_comm (a := k)]
    | some old =>
      simp only [CommandPipeline.storeServo, servoSession, Std.TreeMap.getElem?_insert,
        Std.LawfulEqOrd.compare_eq_iff_eq, eq_comm (a := k)]
  have hrest : ∀ r : Row, r = rowAt S (q.storeServo endpoint session existing receivedAt) k →
      r.claim = q.arbiter.claims[k]? ∧ r.active = q.activeBackendSessions.contains k ∧
        r.alive = S.alive q.backend k ∧ r.goal = q.monitor.goals[k]? := by
    rintro _ rfl
    cases existing with
    | none => exact ⟨rfl, rfl, rfl, rfl⟩
    | some old => exact ⟨rfl, rfl, rfl, rfl⟩
  obtain ⟨hclaim, hactive, halive, hgoal⟩ := hrest _ rfl
  generalize hr : rowAt S (q.storeServo endpoint session existing receivedAt) k = r at *
  obtain ⟨stored, claim, active, alive, goal⟩ := r
  have hstored : stored = if k = session.sessionId then some (servoSession session existing receivedAt)
      else q.sessions[k]? := by
    rw [← hlookup]
    exact congrArg Row.session hr.symm
  simp only at hclaim hactive halive hgoal
  subst hclaim hactive halive hgoal hstored
  split
  · rfl
  · rfl

/-- A stored servo session with a new request of the same endpoint. -/
theorem RowOk.retargeted {id : String} {r : Row} {session : Session} {existing : Option Session}
    {state : ClaimState} (h : RowOk apart p id r) (hsession : r.session = existing)
    (hid : session.sessionId = id) (hendpoint : id = servoId session.endpointName)
    (hidentity : Identity p id { session with submittedAt := receivedAt })
    (hidle : session.backendStarted = false)
    (hold : apart → ∀ old, existing = some old → isServo old.kind = true)
    (hclaim : state.claim = CommandPipeline.claimOf session.endpointName session)
    (htime : state.receivedAt = receivedAt) (hleased : Leased p state) :
    RowOk apart p id { r with
      session := some (servoSession session existing receivedAt), claim := some state } := by
  cases existing with
  | none => exact h.created hsession hidentity hidle ⟨hclaim, htime⟩ hleased
  | some old =>
    obtain ⟨-, ⟨policy', hpolicy', hkind', hgroup'⟩, hrequest', ⟨model', hmodel', hjoints'⟩, -⟩ :=
      hidentity
    -- both sessions stand under the id derived from their endpoint, so it is one endpoint
    have hsame : apart → old.sessionId = id ∧ old.endpointName = session.endpointName ∧
        old.groupName = session.groupName ∧ old.jointNames = session.jointNames := by
      intro ha
      obtain ⟨hkey, ⟨policy, hpolicy, hkind, hgroup⟩, -, ⟨model, hmodel, hjoints⟩, holdId⟩ :=
        h.identity ha old hsession
      have hname : old.endpointName = session.endpointName :=
        servoId_injective ((holdId (hold ha old rfl)).symm.trans hendpoint)
      obtain rfl : policy = policy' := by
        rw [hname] at hpolicy
        exact Option.some.inj (hpolicy.symm.trans hpolicy')
      have hgroupName : old.groupName = session.groupName := hgroup.symm.trans hgroup'
      obtain rfl : model = model' := by
        rw [hgroupName] at hmodel
        exact Option.some.inj (hmodel.symm.trans hmodel')
      exact ⟨hkey, hname, hgroupName, hjoints.symm.trans hjoints'⟩
    constructor
    · rintro ha _ ⟨rfl⟩
      obtain ⟨hkey, hname, hgroupName, hjointNames⟩ := hsame ha
      refine ⟨hkey, ⟨policy', ?_, hkind', ?_⟩, ?_, ⟨model', ?_, ?_⟩, fun _ => ?_⟩
      · exact hname ▸ hpolicy'
      · exact hgroup'.trans hgroupName.symm
      · exact hrequest'.trans hgroupName.symm
      · exact hgroupName ▸ hmodel'
      · exact hjoints'.trans hjointNames.symm
      · exact hendpoint.trans (congrArg servoId hname.symm)
    · rintro _ ⟨rfl⟩
      refine ⟨state, rfl, by rw [hclaim]; rfl, fun ha => ⟨?_, htime⟩⟩
      obtain ⟨hkey, hname, hgroupName, hjointNames⟩ := hsame ha
      rw [hclaim]
      simp only [servoSession, CommandPipeline.claimOf, Session.kind, hid, hkey, hname, hgroupName,
        hjointNames]
    · intro hs
      cases hs
    · rintro _ ⟨rfl⟩
      exact hleased
    · refine h.active.trans ?_
      simp [hsession, servoSession]
    · exact h.alive
    · intro goal hgoal
      obtain ⟨stored, hstored, hmove⟩ := h.goal goal hgoal
      obtain rfl : old = stored := Option.some.inj (hsession.symm.trans hstored)
      refine ⟨_, rfl, fun ha => ?_⟩
      have hno := hmove ha
      rw [hold ha old rfl] at hno
      cases hno

/-- A servo target that passes every check meets no Move under the id derived from its endpoint. -/
def ServoMeetsServo (s : CommandPipeline β) : Op → Prop
  | .updateServo endpoint request receivedAt now generation =>
    ∀ policy updated, Validated s endpoint request generation true policy updated →
      receivedAt ≤ now → now - receivedAt < policy.servoLease →
      ∀ session, s.sessions[servoId endpoint]? = some session →
        session.submittedAt ≤ receivedAt → isServo session.kind = true
  | _ => True

theorem ServoOutcome.tables (hsound : Sound s) (h : Tables apart S e₀ s)
    (hok : apart → ServoMeetsServo s (.updateServo endpoint request receivedAt now generation))
    (hout : ServoOutcome S.toPlatform s endpoint request receivedAt now generation result p) :
    Tables apart S e₀ p := by
  cases hout with
  | refused => exact h
  | rejected _ base policy session existing _ _ _ hbase => exact hbase.tables_ok h
  | accepted policy arbPolicy session existing base settled _ hupdated hsettled _ =>
    have hbase : Tables apart S e₀ base := hupdated.start.tables_ok h
    have helems : Elems S.toPlatform (.updateServo endpoint request receivedAt now generation)
        { pipeline := s } { pipeline := base } := hupdated.start.elems
    have hsoundBase : Sound base := helems.sound hsound
    obtain ⟨hg, he, hfound⟩ := hupdated.start.tables
    have hidentity := identity_of_valid hsoundBase (he ▸ hupdated.valid.registered)
      (hg ▸ hupdated.valid.checked) receivedAt
    obtain ⟨hendpoint, -, hservo, hid, -⟩ := madeFor_of_valid hsoundBase
      (he ▸ hupdated.valid.registered) (hg ▸ hupdated.valid.checked)
    have hidle : session.backendStarted = false := validateRequest_idle hupdated.valid.checked
    have hsid : session.sessionId = servoId session.endpointName := by
      rw [hid rfl, hendpoint]
    have hold : apart → ∀ old, existing = some old → isServo old.kind = true := by
      rintro ha old rfl
      cases hupdated.start with
      | kept _ hstored horder _ =>
        exact hok ha policy session hupdated.valid hupdated.past hupdated.live old
          (by rw [← hid rfl]; exact hstored) horder
    set arbiter := base.arbiter.displace (CommandPipeline.claimOf endpoint session) arbPolicy
      receivedAt now with harbiter
    have harb : arbiter.Ok := hbase.arbiter.displace _ _ _ _
    obtain ⟨hnotdisplaced, hstored⟩ := base.arbiter.displace_servo
      (CommandPipeline.claimOf endpoint session) arbPolicy receivedAt now hservo
    obtain ⟨state, hstate⟩ : ∃ state, arbiter.claims[session.sessionId]? = some state :=
      ⟨_, hstored⟩
    have hclaim := ControlArbiter.displace_submitted _ _ _ _ _ hstate
    have hstart : (base.withArbiter arbiter).sessions[session.sessionId]? = existing := hfound
    have hsettledTables : Tables apart S e₀ settled := by
      subst hsettled
      refine hbase.of_settled ((base.withArbiter arbiter).storeServo endpoint session existing
        receivedAt) (CommandPipeline.storeServo_groups ..) (CommandPipeline.storeServo_endpoints ..)
        ?_ (CommandPipeline.storeServo_backend ..) rfl rfl rfl rfl fun k => ?_
      · rw [CommandPipeline.storeServo_arbiter]
        exact harb
      by_cases hk : k = session.sessionId
      · -- the updated session: no loop ends it
        subst hk
        have hin : ¬ (session.sessionId ∈ base.arbiter.displaced
            (CommandPipeline.claimOf endpoint session) arbPolicy receivedAt now ∨
            session.sessionId ∈ (base.arbiter.expiredServos now).filter (· != session.sessionId)) := by
          rw [not_or]
          exact ⟨hnotdisplaced, by simp⟩
        rw [rowAt_settle, if_neg hin, rowAt_storeServo hstart, if_pos rfl]
        have hrow : rowAt S (base.withArbiter arbiter) session.sessionId =
            { rowAt S base session.sessionId with claim := some state } := by
          rw [← hstate]; rfl
        rw [hrow]
        refine (hbase.rows session.sessionId).retargeted hfound rfl hsid hidentity hidle hold
          ?_ ?_ ?_
        · rw [hclaim, ← hendpoint]
        · rw [hclaim]
        · rw [hclaim]
          exact leased_of_policy hsoundBase hupdated.claimValid hupdated.found receivedAt
      · -- every other row goes through the arbitration only
        have hsame : rowAt S (((base.withArbiter arbiter).storeServo endpoint session existing
            receivedAt).settle S.toPlatform (base.arbiter.displaced
              (CommandPipeline.claimOf endpoint session) arbPolicy receivedAt now)
              ((base.arbiter.expiredServos now).filter (· != session.sessionId))) k =
            rowAt S ((base.withArbiter arbiter).settle S.toPlatform (base.arbiter.displaced
              (CommandPipeline.claimOf endpoint session) arbPolicy receivedAt now)
              ((base.arbiter.expiredServos now).filter (· != session.sessionId))) k := by
          rw [rowAt_settle, rowAt_settle, rowAt_storeServo hstart, if_neg hk]
        rw [hsame]
        refine (hbase.rows k).arbitrated ?_ ?_
        · intro hgone
          refine base.arbiter.displace_gone _ _ _ _ (hgone.imp_right fun hexp => ⟨?_, hk⟩)
          exact (List.mem_filter.1 hexp).1
        · intro hstay
          refine base.arbiter.displace_kept _ _ _ _ hk fun hout => hstay (hout.imp_right fun hexp => ?_)
          exact List.mem_filter.2 ⟨hexp, by simpa using hk⟩
    split
    · exact hsettledTables.quiet rfl rfl rfl rfl rfl rfl (.refl _)
    · exact hsettledTables

end

/-! ## The other calls -/

section
variable {s : CommandPipeline β}

/-- A new endpoint leaves every row as it is. -/
theorem registerEndpoint_tables (h : Tables apart S e₀ s) (policy : EndpointPolicy) :
    Tables apart S e₀ (s.registerEndpoint policy).2 := by
  unfold CommandPipeline.registerEndpoint
  simp only
  split
  · exact h
  · split
    · exact h
    · split
      · rename_i hok
        obtain ⟨-, -, -, harb⟩ := ControlArbiter.registerEndpoint_ok _ _ hok
        rw [harb]
        refine ⟨?_, fun id => ?_, h.lawful⟩
        · refine h.arbiter.subset rfl ?_
          exact fun _ _ hk => hk
        · refine (h.rows id).transfer rfl fun name old hold => ?_
          have hmem : name ∈ s.endpoints :=
            Std.TreeMap.mem_iff_isSome_getElem?.2 (by simp [hold])
          simp only [Std.TreeMap.getElem?_insertIfNew, Std.LawfulEqOrd.compare_eq_iff_eq]
          rw [if_neg, hold]
          rintro ⟨rfl, hnew⟩
          exact hnew hmem
      · rename_i hno
        rw [ControlArbiter.registerEndpoint_refused _ _ (by simpa using hno)]
        exact h

/-- Stopping an id that has no session leaves every row as it is. -/
theorem Tables.stop {id : String} (h : Tables apart S e₀ s) (hnone : s.sessions[id]? = none) :
    Tables apart S e₀ { s with backend := (S.stopSession s.backend id).2 } := by
  refine h.of_rows rfl rfl h.arbiter (LawfulCall.stopSession _ _).lawful fun k => ?_
  have hdead : ¬ S.alive s.backend id := by
    refine ((h.rows id).idle fun session hs => ?_).2
    rw [show (rowAt S s id).session = none from hnone] at hs
    cases hs
  have halive : S.alive (S.stopSession s.backend id).2 k = S.alive s.backend k := by
    rw [S.alive_stopSession]
    refine propext ⟨fun hk => hk.1, fun hk => ⟨hk, ?_⟩⟩
    rintro rfl
    exact hdead hk
  have hrow : rowAt S { s with backend := (S.stopSession s.backend id).2 } k = rowAt S s k := by
    simp only [rowAt, halive]
  rw [hrow]
  exact h.rows k

theorem cancel_tables (h : Tables apart S e₀ s) (id : String) :
    Tables apart S e₀ (s.cancel S.toPlatform id).2 := by
  unfold CommandPipeline.cancel
  simp only
  split
  · exact h.terminate id _ _ _
  · exact (h.terminate id _ _ _).stop (by simp)

theorem setOutputPermit_tables (h : Tables apart S e₀ s) (enabled : Bool) (generation : Nat) :
    Tables apart S e₀ (s.setOutputPermit S.toPlatform enabled generation) := by
  unfold CommandPipeline.setOutputPermit
  simp only
  split
  · have hcancel : Tables apart S e₀ (s.cancelAll S.toPlatform) := h.endAll _ _ s.sessions.keys
    exact hcancel.quiet rfl rfl rfl rfl rfl rfl (.refl _)
  · exact h.quiet rfl rfl rfl rfl rfl rfl (.refl _)

theorem readClock_tables (h : Tables apart S e₀ s) : Tables apart S e₀ (s.readClock S.toPlatform).2 :=
  h.quiet rfl rfl rfl rfl rfl rfl (QuietCall.steadyNow _).quiet

theorem validatePublication_tables (h : Tables apart S e₀ s) (command : JointCommand) (now : SteadyTime) :
    Tables apart S e₀ (s.validatePublicationLocked S.toPlatform command now).2 := by
  unfold CommandPipeline.validatePublicationLocked
  split
  · exact h
  · split
    · exact h
    · exact h.terminate _ _ _ _

theorem revokeOutputs_tables (h : Tables apart S e₀ s) (joints : List String) :
    Tables apart S e₀ (s.revokeOutputs joints) := h.quiet rfl rfl rfl rfl rfl rfl (.refl _)

theorem publishCommand_tables (h : Tables apart S e₀ s) (command : JointCommand) (now : SteadyTime) :
    Tables apart S e₀ (s.publishCommand S.toPlatform command now).2.2 := by
  have hread := readClock_tables (readClock_tables h)
  unfold CommandPipeline.publishCommand
  simp only
  split
  · exact validatePublication_tables hread _ _
  · exact revokeOutputs_tables (validatePublication_tables hread _ _) _

theorem publishCommands_tables (h : Tables apart S e₀ s) (commands : List JointCommand)
    (now : SteadyTime) : Tables apart S e₀ (s.publishCommands S.toPlatform commands now).2.2 := by
  have hloop : ∀ (commands : List JointCommand) (enteredAt : SteadyTime)
      (state : List Publication × CommandPipeline β), Tables apart S e₀ state.2 →
      Tables apart S e₀ (commands.foldl (CommandPipeline.approve S.toPlatform enteredAt now) state).2 := by
    intro commands enteredAt
    induction commands with
    | nil => exact fun _ h => h
    | cons c cs ih =>
      exact fun state h => ih _ (validatePublication_tables (readClock_tables h) _ _)
  unfold CommandPipeline.publishCommands
  simp only
  split
  · exact hloop _ _ _ (readClock_tables h)
  · exact foldl_tables (fun p approved h => revokeOutputs_tables h _) _ _
      (hloop _ _ _ (readClock_tables h))

variable (lib) in
/-- Every call keeps the tables in order. -/
theorem exec_tables (hsound : Sound s) (h : Tables apart S e₀ s) (op : Op)
    (hok : apart → ServoMeetsServo s op) :
    Tables apart S e₀ (exec S.toPlatform lib s op).2 := by
  cases op with
  | registerEndpoint policy => exact registerEndpoint_tables h policy
  | submitMove endpoint request now generation =>
    exact (submitMove_outcome S.toPlatform s endpoint request now generation).tables hsound h
  | updateServo endpoint request receivedAt now generation =>
    exact (updateServo_outcome S.toPlatform s endpoint request receivedAt now generation).tables
      hsound h hok
  | setOutputPermit enabled generation => exact setOutputPermit_tables h enabled generation
  | cancel id => exact cancel_tables h id
  | tick feedback now =>
    have htick : Tables apart S e₀ (s.tick S.toPlatform lib feedback now).2 :=
      tick_tables hsound h feedback now
    simp only [exec]
    split
    · rename_i heq
      rw [heq] at htick
      exact htick
    · rename_i heq
      rw [heq] at htick
      exact htick
  | validateCommandForPublication command now => exact validatePublication_tables h command now
  | publishCommand command now => exact publishCommand_tables h command now
  | publishCommands commands now => exact publishCommands_tables h commands now

/-- A fresh pipeline over a platform without sessions. -/
theorem create_tables (groups : List JointGroupModel) (config : CommandPipelineConfig)
    (hfresh : ∀ id, ¬ S.alive e₀ id) : Tables apart S e₀ (CommandPipeline.create e₀ groups config) where
  arbiter := .empty ∅
  rows id := by
    have halive : S.alive e₀ id = False := eq_false (hfresh id)
    have hrow : rowAt S (CommandPipeline.create e₀ groups config) id = Row.cleared := by
      simp [rowAt, CommandPipeline.create, halive, Row.cleared]
    rw [hrow]
    exact .cleared _ id
  lawful := .refl _

/-- In every run the tables agree, up to ids that a Move and a servo session share. -/
theorem run_tables (groups : List JointGroupModel) (config : CommandPipelineConfig)
    (hfresh : ∀ id, ¬ S.alive e₀ id) (ops : List Op) :
    Sound ((machine S.toPlatform lib).run (CommandPipeline.create e₀ groups config) ops) ∧
      Tables False S e₀
        ((machine S.toPlatform lib).run (CommandPipeline.create e₀ groups config) ops) :=
  Machine.run_invariant (M := machine S.toPlatform lib)
    (I := fun s => Sound s ∧ Tables False S e₀ s)
    (fun s op hs _ => ⟨exec_sound s hs.1 op, exec_tables lib hs.1 hs.2 op False.elim⟩)
    ⟨Initial.sound ⟨_, _, _, rfl⟩, create_tables groups config hfresh⟩
    (Machine.meets_true _ ops)

end

end HumanoidMotion
