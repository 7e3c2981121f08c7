import HumanoidMotion.Motion.Bystanders
import HumanoidMotion.Motion.Outside
import HumanoidMotion.Motion.Ownership
/-
# The joints a goal names

The goal monitor compares the whole feedback with a goal. So that one session's
goal is judged by the joints of its own group, the goal must name no other. It
does, in every state: the target of a MoveJ was checked against the group, and a
path's end is a candidate that was.

* `TargetsInside` — the target of a stored Move names the joints of its session.
* `GoalsInside` — so does the goal the monitor keeps for it.
* `Inherits` — every goal is one of before, of a session with the same joints.
-/

namespace HumanoidMotion

open Tick

variable {β : Type} {B : Platform β} {S : SessionPlatform β} {lib : MathLib} {op : Op}

/-! ## Targets -/

def TargetsInside (p : CommandPipeline β) : Prop :=
  ∀ (id : String) session, p.sessions[id]? = some session →
    ∀ joint ∈ (terminalJointGoal session.request).jointNames, joint ∈ session.jointNames

theorem validateJointTarget_names {target : JointTarget} {group : JointGroupModel}
    (h : (validateJointTarget target group).ok = true) :
    ∀ joint ∈ target.jointNames, joint ∈ group.jointNames := by
  unfold validateJointTarget at h
  split_ifs at h with h₁ h₂ h₃ <;> first | cases h | skip
  simp only [Bool.or_eq_true, Bool.not_eq_true', not_or, Bool.not_eq_false, Bool.and_eq_true,
    List.all_eq_true] at h₂
  exact fun joint hj => by simpa using h₂.1.1 joint hj

/-- A created session has the target its request was checked with. -/
theorem Created.target {p : CommandPipeline β} {session : Session} (h : Created p op session) :
    ∀ joint ∈ (terminalJointGoal session.request).jointNames, joint ∈ session.jointNames := by
  have hchecked : ∀ {policy request servo} (made : Session),
      validateRequest p.groups policy request servo = .ok made →
      ∀ joint ∈ (terminalJointGoal made.request).jointNames, joint ∈ made.jointNames := by
    intro policy request servo made hvalid
    have hadm := validateRequest_ok hvalid
    obtain ⟨model, -, hnames, htarget⟩ := hadm.found
    have hrequest : made.request = request := by rw [hadm.session]
    rw [hrequest, ← hnames]
    cases request with
    | moveJ r => exact validateJointTarget_names htarget
    | _ => simp [terminalJointGoal]
  cases h with
  | submitMove _ _ _ _ _ made _ hvalid => exact hchecked made hvalid
  | updateServo _ _ _ _ _ _ made _ hvalid => exact hchecked made hvalid

theorem targets_kept : Kept (fun _ session => ∀ joint ∈
    (terminalJointGoal session.request).jointNames, joint ∈ session.jointNames) β op where
  create _ _ _ hnew := hnew.target
  retarget _ old new _ _ hservo _ := by
    -- a servo request has no terminal goal
    have hempty : (terminalJointGoal new.request).jointNames = [] := by
      unfold Session.kind at hservo
      cases hreq : new.request with
      | moveJ r => rw [hreq] at hservo; cases hservo
      | _ => rfl
    simp [hempty]
  progress _ _ _ hsame h := by
    rw [hsame.request, hsame.jointNames]
    exact h

theorem Elems.targets {s s' : TickState β} (hstep : Elems B op s s') (hsound : Sound s.pipeline)
    (h : TargetsInside s.pipeline) : TargetsInside s'.pipeline :=
  hstep.stores targets_kept hsound h

variable (lib) in
theorem exec_targets {p : CommandPipeline β} (hsound : Sound p) (h : TargetsInside p) (op : Op) :
    TargetsInside (exec B lib p op).2 := by
  obtain ⟨t, helems, hpipeline, -, -⟩ := exec_elems B lib p hsound op
  rw [hpipeline]
  exact helems.targets hsound h

/-! ## Goals -/

def GoalsInside (p : CommandPipeline β) : Prop :=
  ∀ (id : String) goal, p.monitor.goals[id]? = some goal →
    ∀ session, p.sessions[id]? = some session →
      ∀ joint ∈ goal.jointGoal.jointNames, joint ∈ session.jointNames

/-- Every goal of a stored session was its goal before, and the session had the same joints. -/
def Inherits (p p' : CommandPipeline β) : Prop :=
  ∀ (id : String) goal session, p'.monitor.goals[id]? = some goal → p'.sessions[id]? = some session →
    p.monitor.goals[id]? = some goal ∧
      ∃ old, p.sessions[id]? = some old ∧ old.jointNames = session.jointNames

section
variable {p p' p'' : CommandPipeline β}

theorem Inherits.refl (p : CommandPipeline β) : Inherits p p :=
  fun _ _ session hgoal hs => ⟨hgoal, session, hs, rfl⟩

theorem Inherits.trans (h : Inherits p p') (h' : Inherits p' p'') : Inherits p p'' := by
  intro id goal session hgoal hs
  obtain ⟨hgoal', mid, hmid, hnames⟩ := h' id goal session hgoal hs
  obtain ⟨hgoal'', old, hold, hnames'⟩ := h id goal mid hgoal' hmid
  exact ⟨hgoal'', old, hold, hnames'.trans hnames⟩

theorem Inherits.of_eq (hg : p'.monitor.goals = p.monitor.goals) (hs : p'.sessions = p.sessions) :
    Inherits p p' := fun _ _ session hgoal hf => ⟨hg ▸ hgoal, session, hs ▸ hf, rfl⟩

theorem GoalsInside.inherits (h : GoalsInside p) (hi : Inherits p p') : GoalsInside p' := by
  intro id goal hgoal session hs joint hj
  obtain ⟨hgoal', old, hold, hnames⟩ := hi id goal session hgoal hs
  exact hnames ▸ h id goal hgoal' old hold joint hj

theorem inherits_terminate (p : CommandPipeline β) (id : String) (state : SessionState)
    (status : MotionStatus) (preserve : Bool) :
    Inherits p (p.terminate B id state status preserve) := by
  intro k goal session hgoal hs
  rw [CommandPipeline.terminate_goals] at hgoal
  rw [CommandPipeline.terminate_sessions] at hs
  split at hgoal
  · cases hgoal
  · split at hs
    · cases hs
    · exact ⟨hgoal, session, hs, rfl⟩

variable (B) in
theorem outside_inherits : Outside B Inherits where
  refl := .refl
  trans := .trans
  terminate := inherits_terminate
  beside h := .of_eq h.goals h.sessions

/-- A new session under an id that has no goal. -/
theorem inherits_withNew {session : Session} (h : p.monitor.goals[session.sessionId]? = none) :
    Inherits p (p.withNew session) := by
  intro k goal stored hgoal hs
  refine ⟨hgoal, stored, ?_, rfl⟩
  simp only [CommandPipeline.withNew, Std.TreeMap.getElem?_insertIfNew,
    Std.LawfulEqOrd.compare_eq_iff_eq] at hs
  split at hs
  · rename_i heq
    have hgoal' : p.monitor.goals[k]? = some goal := hgoal
    rw [← heq.1, h] at hgoal'
    cases hgoal'
  · exact hs

theorem inherits_storeServo {endpoint : String} {session : Session} {existing : Option Session}
    {receivedAt : SteadyTime} (hfound : p.sessions[session.sessionId]? = existing)
    (h : existing = none → p.monitor.goals[session.sessionId]? = none) :
    Inherits p (p.storeServo endpoint session existing receivedAt) := by
  cases existing with
  | none =>
    have hnew : Inherits p (p.withNew { session with submittedAt := receivedAt }) :=
      inherits_withNew (h rfl)
    exact hnew.trans (.of_eq rfl rfl)
  | some old =>
    intro k goal stored hgoal hs
    refine ⟨hgoal, ?_⟩
    simp only [CommandPipeline.storeServo, Std.TreeMap.getElem?_insert,
      Std.LawfulEqOrd.compare_eq_iff_eq] at hs
    split at hs
    · rename_i heq
      cases hs
      exact ⟨old, heq ▸ hfound, rfl⟩
    · exact ⟨stored, hs, rfl⟩

/-- A session that is stored anew has the joints it had. -/
theorem inherits_restored {id : String} {session session' : Session}
    (hfound : p.sessions[id]? = some session) (hnames : session'.jointNames = session.jointNames)
    (hg : p'.monitor.goals = p.monitor.goals) (hs : p'.sessions = p.sessions.insert id session') :
    Inherits p p' := by
  intro k goal stored hgoal hf
  refine ⟨hg ▸ hgoal, ?_⟩
  rw [hs] at hf
  simp only [Std.TreeMap.getElem?_insert, Std.LawfulEqOrd.compare_eq_iff_eq] at hf
  split at hf
  · rename_i heq
    cases hf
    exact ⟨session, heq ▸ hfound, hnames.symm⟩
  · exact ⟨stored, hf, rfl⟩

end

/-! ## One tick -/

section
variable {ctx : TickContext} {s s' : TickState β} {id : String}

theorem inherits_gapped (p : CommandPipeline β) (id : String) : Inherits p (gapped B p id) := by
  unfold gapped
  split
  · exact .refl p
  · rename_i session hfound
    split
    · exact inherits_terminate p id _ _ _
    · exact inherits_restored hfound (by rfl) rfl rfl

theorem inherits_deactivate (p : CommandPipeline β) (id : String) :
    Inherits p (deactivate B p id) := by
  unfold deactivate
  split
  · exact .of_eq rfl rfl
  · rename_i session hfound
    exact inherits_restored hfound (by rfl) rfl rfl

theorem inherits_opened (gap : Bool) (winners : List String) (s : TickState β) :
    Inherits s.pipeline (opened B gap winners s).pipeline :=
  (outside_inherits B).opened gap winners s inherits_gapped inherits_deactivate

theorem inherits_tickOpening (p : CommandPipeline β) (now : SteadyTime) :
    Inherits p (p.tickOpening B now).pipeline :=
  (Inherits.of_eq rfl rfl).trans ((outside_inherits B).expired p now)

/-- The lane of a stored session that may read the joints of the session. -/
def laneOf (session : Session) (joints : String → Prop) : Lane where
  id := session.sessionId
  group := session.groupName
  endpoint := session.endpointName
  joints := joints

variable (lib) in
/-- A context set beside itself. -/
theorem SameInputs.refl (joints : String → Prop) (ctx : TickContext) :
    SameInputs lib joints ctx ctx :=
  ⟨rfl, rfl, rfl, rfl, fun _ _ _ _ => rfl, fun _ _ => rfl, fun _ _ _ _ => rfl⟩

/-- A state, set beside itself for the lane of a session that it may still store. -/
theorem alike_lane {session : Session} {joints : String → Prop}
    (hclient : ∀ stored, s.pipeline.sessions[session.sessionId]? = some stored →
      session.SameClient stored)
    (hjoints : ∀ joint ∈ session.jointNames, joints joint)
    (htargets : ∀ joint ∈ (terminalJointGoal session.request).jointNames, joints joint)
    (hgoals : ∀ goal, s.pipeline.monitor.goals[session.sessionId]? = some goal →
      ∀ joint ∈ goal.jointGoal.jointNames, joints joint)
    (hmodel : ∀ group, s.pipeline.groups[session.groupName]? = some group →
      ∀ joint ∈ group.jointNames, joints joint)
    {ρ : β → β → Prop} (hρ : ρ s.pipeline.backend s.pipeline.backend) :
    (laneOf session joints).Alike ρ s s where
  session := rfl
  goal := rfl
  monitorConfig := rfl
  retry := rfl
  fixed := ⟨rfl, rfl, rfl, rfl⟩
  commands := rfl
  events := rfl
  pending := rfl
  backend := hρ
  drives := fun stored hs => by
    have hsame := hclient stored hs
    refine ⟨hsame.sessionId, hsame.groupName, hsame.endpointName, ?_, ?_⟩
    · rw [hsame.jointNames]
      exact hjoints
    · rw [hsame.request]
      exact htargets
  inside := hgoals
  model := hmodel

/-- A sound state, set beside itself for the lane of one of its sessions. -/
theorem alike_self {session : Session} (hsound : Sound s.pipeline)
    (hfound : s.pipeline.sessions[session.sessionId]? = some session) {joints : String → Prop}
    (hjoints : ∀ joint ∈ session.jointNames, joints joint)
    (htargets : ∀ joint ∈ (terminalJointGoal session.request).jointNames, joints joint)
    (hgoals : ∀ goal, s.pipeline.monitor.goals[session.sessionId]? = some goal →
      ∀ joint ∈ goal.jointGoal.jointNames, joints joint)
    {ρ : β → β → Prop} (hρ : ρ s.pipeline.backend s.pipeline.backend) :
    (laneOf session joints).Alike ρ s s := by
  refine alike_lane (fun stored hs => ?_) hjoints htargets hgoals (fun group hgroup joint hj => ?_) hρ
  · obtain rfl : session = stored := Option.some.inj (hfound.symm.trans hs)
    exact .refl session
  · obtain ⟨model, hmodel, hnames, -⟩ := (hsound.sessionOk _ session hfound).group
    obtain rfl : model = group := Option.some.inj (hmodel.symm.trans hgroup)
    exact hjoints joint (hnames ▸ hj)

/-- A turn changes no goal of another session. -/
theorem Tick.Turn.otherGoals (ht : Turn B lib ctx id s s') {k : String} (hk : k ≠ id) :
    s'.pipeline.monitor.goals[k]? = s.pipeline.monitor.goals[k]? := by
  -- the lane of `k` over some other endpoint
  cases hfound : s.pipeline.sessions[id]? with
  | none => rw [ht.eq_of_none hfound]
  | some session =>
    obtain ⟨endpoint, hne⟩ := exists_ne session.endpointName
    refine (ht.sameView (L := ⟨k, "", endpoint, fun _ => True⟩) hk fun stored hs => ?_).goal
    obtain rfl : session = stored := Option.some.inj (hfound.symm.trans hs)
    exact Ne.symm hne

/-- One turn keeps the goals inside: the goals of other sessions stay, and its own names joints of
its session only. -/
theorem turn_goalsInside (hsound : Sound s.pipeline) (htargets : TargetsInside s.pipeline)
    (h : GoalsInside s.pipeline) (id : String) :
    Prog.wp (turn B lib ctx id)
      (fun _ s' => Turn B lib ctx id s s' ∧ GoalsInside s'.pipeline) (fun _ _ => False) s := by
  have hturn : Prog.wp (turn B lib ctx id) (fun _ s' => Turn B lib ctx id s s') (fun _ _ => False) s :=
    turn_turn fun session hf => hsound.sessionOk id session hf
  cases hfound : s.pipeline.sessions[id]? with
  | none =>
    refine hturn.imp (fun _ s' ht => ⟨ht, ?_⟩) fun _ _ h => h
    rw [ht.eq_of_none hfound]
    exact h
  | some session =>
    obtain rfl : session.sessionId = id := (hsound.sessionOk id session hfound).key
    have hself : (laneOf session (· ∈ session.jointNames)).Alike (fun e e' => e' = e) s s :=
      alike_self hsound hfound (fun _ hj => hj) (htargets _ session hfound)
        (fun goal hgoal => h _ goal hgoal session hfound) rfl
    have hpaired : Paired B session.sessionId session.groupName fun e e' => e' = e :=
      ⟨fun _ e e' he => by rw [he]; exact ⟨rfl, rfl⟩, fun e e' he => by rw [he]; exact ⟨rfl, rfl⟩⟩
    have hlane := (turn_inLane (L := laneOf session (· ∈ session.jointNames)) hpaired
      (SameInputs.refl lib _ ctx)).diagonal hself
    refine (hturn.and hlane).imp (fun _ s' => ?_) (fun _ _ h => h.1)
    rintro ⟨ht, halike⟩
    refine ⟨ht, fun k goal hgoal stored hs joint hj => ?_⟩
    have helems : Elems B (.tick ctx.feedback ctx.now) s s' := ht.elems rfl
    obtain ⟨old, hold, hsame⟩ := helems.descends rfl k stored hs
    rw [hsame.jointNames]
    by_cases hk : k = session.sessionId
    · subst hk
      obtain rfl : session = old := Option.some.inj (hfound.symm.trans hold)
      exact halike.inside goal hgoal joint hj
    · exact h k goal (ht.otherGoals hk ▸ hgoal) old hold joint hj

end

/-! ## Every call -/

section
variable {p : CommandPipeline β} {e₀ : β} {apart : Prop}

/-- An id without a session has no goal. -/
theorem Tables.noGoal (h : Tables apart S e₀ p) {id : String} (hnone : p.sessions[id]? = none) :
    p.monitor.goals[id]? = none := by
  rw [Option.eq_none_iff_forall_not_mem]
  intro goal hgoal
  obtain ⟨session, hs, -⟩ := (h.rows id).goal goal hgoal
  rw [show (rowAt S p id).session = p.sessions[id]? from rfl, hnone] at hs
  cases hs

theorem MoveOutcome.inherits {endpoint : String} {request : SessionRequest} {now : SteadyTime}
    {generation : Nat} {result : SubmissionResult} {p' : CommandPipeline β}
    (h : Tables apart S e₀ p)
    (hout : MoveOutcome S.toPlatform p endpoint request now generation result p') :
    Inherits p p' := by
  cases hout with
  | refused => exact .refl p
  | lost policy arbPolicy session _ arbitration _ _ _ _ _ =>
    exact (.of_eq rfl rfl : Inherits p (p.withArbiter _)).trans
      ((outside_inherits S.toPlatform).settle _ _ _)
  | admitted policy arbPolicy session _ arbitration _ hfresh _ _ settled hsettled _ =>
    have hsettle : Inherits p settled := by
      rw [hsettled]
      exact (.of_eq rfl rfl : Inherits p (p.withArbiter _)).trans
        ((outside_inherits S.toPlatform).settle _ _ _)
    have hnone : settled.monitor.goals[session.sessionId]? = none := by
      have hrow := rowAt_settle (S := S) (p.withArbiter (p.arbiter.displace
        (CommandPipeline.claimOf endpoint session) arbPolicy now now)) arbitration.preemptedMoveIds
        arbitration.expiredServoIds session.sessionId
      rw [Row.ended_of_none hfresh, ite_self] at hrow
      rw [hsettled]
      exact (congrArg Row.goal hrow).trans (h.noGoal hfresh)
    have hnew : Inherits settled (settled.withNew { session with submittedAt := now }) :=
      inherits_withNew hnone
    exact (hsettle.trans hnew).trans (.of_eq rfl rfl)

theorem ServoBase.inherits {policy : EndpointPolicy} {id : String} {receivedAt now : SteadyTime}
    {existing : Option Session} {base : CommandPipeline β}
    (hbase : ServoBase B p policy id receivedAt now existing base) : Inherits p base := by
  cases hbase with
  | fresh => exact .refl p
  | kept => exact .refl p
  | renewed => exact inherits_terminate p id _ _ _

theorem ServoOutcome.inherits {endpoint : String} {request : SessionRequest}
    {receivedAt now : SteadyTime} {generation : Nat} {result : SubmissionResult}
    {p' : CommandPipeline β} (h : Tables apart S e₀ p)
    (hout : ServoOutcome S.toPlatform p endpoint request receivedAt now generation result p') :
    Inherits p p' := by
  cases hout with
  | refused => exact .refl p
  | rejected _ base _ _ _ _ _ _ hbase => exact hbase.inherits
  | accepted policy arbPolicy session existing base settled _ hupdated hsettled _ =>
    have hbase : Tables apart S e₀ base := hupdated.start.tables_ok h
    have hfound : base.sessions[session.sessionId]? = existing := hupdated.start.tables.2.2
    have hstore : Inherits (base.withArbiter (base.arbiter.displace
        (CommandPipeline.claimOf endpoint session) arbPolicy receivedAt now))
        ((base.withArbiter (base.arbiter.displace (CommandPipeline.claimOf endpoint session)
          arbPolicy receivedAt now)).storeServo endpoint session existing receivedAt) :=
      inherits_storeServo hfound fun hnone => hbase.noGoal (hnone ▸ hfound)
    have hsettle : Inherits p settled := by
      rw [hsettled]
      exact ((hupdated.start.inherits.trans (Inherits.of_eq rfl rfl)).trans hstore).trans
        ((outside_inherits S.toPlatform).settle _ _ _)
    split
    · exact hsettle.trans (.of_eq rfl rfl)
    · exact hsettle

/-- The turns of the winners keep the goals inside. -/
theorem Turned.goalsInside {ctx : TickContext} {winners : List String} {s s' : TickState β}
    (hturned : Turned B lib ctx winners s s') (hsound : Sound s.pipeline)
    (htargets : TargetsInside s.pipeline) (h : GoalsInside s.pipeline) : GoalsInside s'.pipeline := by
  refine (hturned.chain (T := fun _ _ _ => True) (I := fun s => Sound s.pipeline ∧
    TargetsInside s.pipeline ∧ GoalsInside s.pipeline) ?_ ⟨hsound, htargets, h⟩).2.2.2
  rintro id s₁ ⟨hsound₁, htargets₁, h₁⟩
  refine (turn_goalsInside hsound₁ htargets₁ h₁ id).imp ?_ fun _ _ h => h.elim
  rintro _ s₂ ⟨ht, h₂⟩
  have helems : Elems B (.tick ctx.feedback ctx.now) s₁ s₂ := ht.elems rfl
  exact ⟨trivial, helems.sound hsound₁, helems.targets hsound₁ htargets₁, h₂⟩

theorem tick_goalsInside (hsound : Sound p) (htargets : TargetsInside p) (h : GoalsInside p)
    (feedback : JointFeedback) (now : SteadyTime) :
    GoalsInside (p.tick B lib feedback now).2 := by
  have hstarted := tickStarted_elems (B := B) hsound feedback now
    (p.tickArbitration B now).winnerSessionIds
  obtain ⟨s₂, hturned, htick⟩ := tick_turned B lib p feedback now hsound
  rw [htick]
  have hopen : GoalsInside (opened B (p.schedulingGap now) (p.tickArbitration B now).winnerSessionIds
      (p.tickOpening B now)).pipeline :=
    (h.inherits (inherits_tickOpening p now)).inherits (inherits_opened _ _ _)
  have hend := Turned.goalsInside hturned (hstarted.sound hsound) (hstarted.targets hsound htargets)
    hopen
  exact hend.inherits ((outside_inherits B).closed _ s₂)

variable (lib) in
/-- Every call keeps the goals inside. -/
theorem exec_goalsInside (hsound : Sound p) (htables : Tables apart S e₀ p) (htargets : TargetsInside p)
    (h : GoalsInside p) (op : Op) : GoalsInside (exec S.toPlatform lib p op).2 := by
  cases op with
  | submitMove endpoint request now generation =>
    exact h.inherits ((submitMove_outcome S.toPlatform p endpoint request now
      generation).inherits htables)
  | updateServo endpoint request receivedAt now generation =>
    exact h.inherits ((updateServo_outcome S.toPlatform p endpoint request receivedAt now
      generation).inherits htables)
  | tick feedback now =>
    have htick : GoalsInside (p.tick S.toPlatform lib feedback now).2 :=
      tick_goalsInside hsound htargets h feedback now
    simp only [exec]
    split
    · rename_i heq
      rw [heq] at htick
      exact htick
    · rename_i heq
      rw [heq] at htick
      exact htick
  | _ => exact h.inherits ((outside_inherits S.toPlatform).quietly lib p rfl rfl)

end

end HumanoidMotion
