import HumanoidMotion.Motion.Holds
import HumanoidMotion.Motion.JointLimits
/-
# What the constructor decides

The group models, the configuration and the verdict on them are set by the constructor
(`command_pipeline.cpp:145`) and changed by no call. An endpoint is registered only if
the verdict was good; so where a session is stored, the limits of every group are ordered.

* `settings`, `call_settings` — the data no call changes.
* `Vetted` — the verdict covers the limits, and every endpoint.
* `Modelled` — every group is stored under its name, with ordered limits.
-/

namespace HumanoidMotion

open Tick

variable {β : Type} {B : Platform β} {lib : MathLib}

/-- What the constructor sets once and for all. -/
def CommandPipeline.settings (p : CommandPipeline β) :
    StringMap JointGroupModel × CommandPipelineConfig × MotionStatus × Rat :=
  (p.groups, p.config, p.configurationStatus, p.periodSec)

theorem terminate_settings (p : CommandPipeline β) (id : String) (state : SessionState)
    (status : MotionStatus) (preserve : Bool) :
    (p.terminate B id state status preserve).settings = p.settings :=
  CommandPipeline.terminate_frame p id state status preserve CommandPipeline.settings
    (fun _ => rfl) fun _ _ => rfl

theorem endAll_settings (p : CommandPipeline β) (state : SessionState) (status : MotionStatus)
    (ids : List String) : (p.endAll B state status ids).settings = p.settings :=
  CommandPipeline.endAll_frame p state status CommandPipeline.settings
    (fun p id => terminate_settings p id _ _ _) ids

theorem settle_settings (p : CommandPipeline β) (preempted expired : List String) :
    (p.settle B preempted expired).settings = p.settings :=
  (endAll_settings _ _ _ expired).trans (endAll_settings p _ _ preempted)

/-! ## One turn -/

namespace Tick

section
variable {ctx : TickContext} {s s' : TickState β} {id : String} {session session' : Session}
  {selected : JointFeedback} {group : JointGroupModel}

theorem Watched.settings (h : Watched B id session s s') :
    s'.pipeline.settings = s.pipeline.settings := by
  obtain ⟨e, m, -, -, -, -, rfl⟩ := h
  rfl

theorem Moved.settings (h : Moved B s s') : s'.pipeline.settings = s.pipeline.settings := by
  obtain ⟨e, -, rfl⟩ := h
  rfl

theorem Running.settings (h : Running B ctx id session group selected s session' s') :
    s'.pipeline.settings = s.pipeline.settings := by
  cases h with
  | kept => rfl
  | launched s₁ s' _ _ _ hmoved hgoal => exact hgoal.settings.trans hmoved.settings

theorem Stopped.settings (h : Stopped B lib ctx id session selected s s') :
    s'.pipeline.settings = s.pipeline.settings := by
  obtain ⟨s₁, s₂, hold, limit, retry, status, hm, -, -, -, hm', -⟩ := h
  have hissue : (issueHold s₁ session limit hold).pipeline.settings = s₁.pipeline.settings := by
    cases hold <;> rfl
  have hnote : (noteRetry s₂ session.endpointName retry).pipeline.settings = s₂.pipeline.settings := by
    cases retry <;> rfl
  exact (terminate_settings _ _ _ _ _).trans
    (hnote.trans (hm'.settings.trans (hissue.trans hm.settings)))

theorem Ended.settings (h : Ended B lib ctx id session selected s s') :
    s'.pipeline.settings = s.pipeline.settings := by
  cases h with
  | dropped s₁ status hm => exact (terminate_settings _ _ _ _ _).trans hm.settings
  | stopped s' hs => exact hs.settings

theorem Concluded.settings (h : Concluded B lib ctx id session selected s s') :
    s'.pipeline.settings = s.pipeline.settings := by
  cases h with
  | goesOn s' hw => exact hw.settings
  | failed s₁ s' hw _ hstop => exact hstop.settings.trans hw.settings
  | succeeded s₁ hw => exact (terminate_settings _ _ _ _ _).trans hw.settings

theorem Turn.settings (h : Turn B lib ctx id s s') :
    s'.pipeline.settings = s.pipeline.settings := by
  cases h with
  | missing => rfl
  | waits _ s' _ _ _ hmoved => exact hmoved.settings
  | refused _ _ s' _ hended => exact hended.settings
  | startEnds _ _ _ s₁ s' _ hmoved _ _ _ hended => exact hended.settings.trans hmoved.settings
  | runEnds _ _ _ _ s₁ s₂ s' _ hmoved _ hrun hended =>
    exact hended.settings.trans (hrun.settings.trans hmoved.settings)
  | emits _ session' group _ s₁ s₂ s₃ s' limit command _ hmoved _ hrun hmoved' _ _ hconcluded =>
    have hemit : (emitted lib s₃ id session' group limit command).pipeline.settings =
        s₃.pipeline.settings := by
      rw [emitted_pipeline]
      rfl
    exact hconcluded.settings.trans (hemit.trans
      (hmoved'.settings.trans (hrun.settings.trans hmoved.settings)))

end

/-! ## One call -/

theorem opened_settings (gap : Bool) (winners : List String) (s : TickState β) :
    (opened B gap winners s).pipeline.settings = s.pipeline.settings := by
  have hgapped : ∀ (p : CommandPipeline β) id, (gapped B p id).settings = p.settings := fun p id => by
    unfold gapped
    split
    · rfl
    · split
      · exact terminate_settings ..
      · rfl
  have hdeactivate : ∀ (p : CommandPipeline β) id,
      (deactivate B p id).settings = p.settings := fun p id => by
    unfold deactivate
    split <;> rfl
  refine (foldl_frame CommandPipeline.settings hdeactivate _ _).trans ?_
  change (afterGap B gap s.pipeline).settings = _
  unfold afterGap
  split
  · exact foldl_frame CommandPipeline.settings hgapped _ _
  · rfl

theorem closed_settings (ctx : TickContext) (s : TickState β) :
    (closed B ctx s).pipeline.settings = s.pipeline.settings := by
  have hend : ∀ (late : List JointCommand) (p : CommandPipeline β),
      (late.foldl (fun p command =>
        p.terminate B command.sessionId .aborted expiredWhileComputing) p).settings = p.settings := by
    intro late
    induction late with
    | nil => exact fun _ => rfl
    | cons command late ih => exact fun p => (ih _).trans (terminate_settings ..)
  exact hend _ _

end Tick

section
variable {p : CommandPipeline β}

theorem MoveOutcome.settings {endpoint : String} {request : SessionRequest} {now : SteadyTime}
    {generation : Nat} {result : SubmissionResult} {p' : CommandPipeline β}
    (h : MoveOutcome B p endpoint request now generation result p') : p'.settings = p.settings := by
  cases h with
  | refused => rfl
  | lost => exact settle_settings _ _ _
  | admitted _ _ _ _ _ _ _ _ _ settled hsettled =>
    change settled.settings = _
    rw [hsettled]
    exact settle_settings _ _ _

theorem ServoBase.settings {policy : EndpointPolicy} {id : String} {receivedAt now : SteadyTime}
    {existing : Option Session} {base : CommandPipeline β}
    (h : ServoBase B p policy id receivedAt now existing base) : base.settings = p.settings := by
  cases h with
  | fresh | kept => rfl
  | renewed => exact terminate_settings ..

theorem ServoOutcome.settings {endpoint : String} {request : SessionRequest}
    {receivedAt now : SteadyTime} {generation : Nat} {result : SubmissionResult}
    {p' : CommandPipeline β}
    (h : ServoOutcome B p endpoint request receivedAt now generation result p') :
    p'.settings = p.settings := by
  cases h with
  | refused => rfl
  | rejected _ _ _ _ _ _ _ _ hbase => exact hbase.settings
  | accepted policy arbPolicy session existing base settled _ hupdated hsettled =>
    have hstored : ∀ q : CommandPipeline β,
        (q.storeServo endpoint session existing receivedAt).settings = q.settings := by
      intro q
      cases existing <;> rfl
    have hsame : settled.settings = p.settings := by
      rw [hsettled]
      exact (settle_settings _ _ _).trans ((hstored _).trans hupdated.start.settings)
    split
    · exact hsame
    · exact hsame

theorem validatePublication_settings (command : JointCommand) (now : SteadyTime) :
    (p.validatePublicationLocked B command now).2.settings = p.settings := by
  unfold CommandPipeline.validatePublicationLocked
  split_ifs
  · rfl
  · rfl
  · exact terminate_settings ..

theorem approve_settings (enteredAt now : SteadyTime) : ∀ (commands : List JointCommand)
    (state : List Publication × CommandPipeline β),
    (commands.foldl (CommandPipeline.approve B enteredAt now) state).2.settings = state.2.settings
  | [], _ => rfl
  | command :: commands, _ =>
    (approve_settings enteredAt now commands _).trans (validatePublication_settings command _)

variable (lib) in
/-- What the constructor has set, no call changes. -/
theorem call_settings (hsound : Sound p) (op : Op) :
    (exec B lib p op).2.settings = p.settings := by
  cases op with
  | registerEndpoint policy =>
    simp only [exec, CommandPipeline.registerEndpoint]
    split_ifs <;> rfl
  | submitMove endpoint request now generation =>
    exact (submitMove_outcome B p endpoint request now generation).settings
  | updateServo endpoint request receivedAt now generation =>
    exact (updateServo_outcome B p endpoint request receivedAt now generation).settings
  | setOutputPermit enabled generation =>
    simp only [exec, CommandPipeline.setOutputPermit]
    split
    · exact endAll_settings p _ _ _
    · rfl
  | cancel id =>
    simp only [exec, CommandPipeline.cancel]
    split
    · exact terminate_settings ..
    · exact terminate_settings p id _ _ _
  | tick feedback now =>
    obtain ⟨s₂, hrun, htick⟩ := tick_run B lib p feedback now hsound
    have hturns := hrun.turns.invariant
      (I := fun s => s.pipeline.settings = (p.tickOpening B now).pipeline.settings)
      (fun _ _ _ hturn h => hturn.settings.trans h) (opened_settings _ _ _)
    simp only [exec, htick]
    exact (closed_settings _ s₂).trans (hturns.trans (endAll_settings _ _ _ _))
  | validateCommandForPublication command now => exact validatePublication_settings command now
  | publishCommand command now =>
    simp only [exec, CommandPipeline.publishCommand]
    split
    · exact validatePublication_settings command _
    · exact validatePublication_settings command _
  | publishCommands commands now =>
    have hchecked := approve_settings (B := B) (p.readClock B).1 now commands ([], (p.readClock B).2)
    have hrevoked : ∀ (approved : List Publication) (q : CommandPipeline β),
        (approved.foldl (fun q x => q.revokeOutputs x.command.jointNames) q).settings = q.settings := by
      intro approved
      induction approved with
      | nil => exact fun _ => rfl
      | cons x approved ih => exact fun q => ih _
    simp only [exec, CommandPipeline.publishCommands]
    split
    · exact hchecked
    · exact (hrevoked _ _).trans hchecked

end

/-! ## Ordered limits -/

/-- Every group is stored under its name, with ordered limits. -/
def Modelled (p : CommandPipeline β) : Prop :=
  ∀ (name : String) group, p.groups[name]? = some group → group.name = name ∧ group.ordered

/-- A good verdict covers the limits of every group, and no endpoint is registered without. -/
structure Vetted (p : CommandPipeline β) : Prop where
  modelled : p.configurationStatus.ok = true → Modelled p
  checked : ∀ (name : String) policy, p.endpoints[name]? = some policy →
    p.configurationStatus.ok = true

theorem Vetted.stored {p : CommandPipeline β} (h : Vetted p) {id : String} {session : Session}
    (hok : SessionOk p id session) : Modelled p := by
  obtain ⟨policy, hpolicy, -⟩ := hok.endpoint
  exact h.modelled (h.checked _ policy hpolicy)

theorem registerEndpoint_checked (p : CommandPipeline β) (policy : EndpointPolicy) {name : String}
    {found : EndpointPolicy} (hfound : (p.registerEndpoint policy).2.endpoints[name]? = some found) :
    p.endpoints[name]? = some found ∨ p.configurationStatus.ok = true := by
  unfold CommandPipeline.registerEndpoint at hfound
  simp only at hfound
  split at hfound
  · exact .inl hfound
  · rename_i hconfig
    refine .inr ?_
    simp only [Bool.not_eq_true', Bool.not_eq_false] at hconfig
    unfold CommandPipeline.validatePipelineConfig at hconfig
    by_contra hbad
    rw [if_pos (by simpa using hbad)] at hconfig
    exact hbad hconfig

/-- Only a registration adds an endpoint. -/
theorem Elems.endpoints {op : Op} (hop : ∀ policy, op ≠ .registerEndpoint policy) {s s' : TickState β}
    (h : Elems B op s s') : s'.pipeline.endpoints = s.pipeline.endpoints := by
  refine h.invariant (I := fun t => t.pipeline.endpoints = s.pipeline.endpoints)
    (fun t t' hstep hsame => Eq.trans ?_ hsame) rfl
  cases hstep with
  | silent p hs => exact hs.endpoints
  | terminate => simp [TickState.withPipeline]
  | register policy arbiter heq => exact absurd heq (hop policy)
  | _ => rfl

variable (B lib) in
theorem Vetted.step {p : CommandPipeline β} (hsound : Sound p) (h : Vetted p) (op : Op) :
    Vetted (exec B lib p op).2 := by
  have hsettings := call_settings (B := B) lib hsound op
  have hgroups : (exec B lib p op).2.groups = p.groups := congrArg Prod.fst hsettings
  have hstatus : (exec B lib p op).2.configurationStatus = p.configurationStatus :=
    congrArg (fun x => x.2.2.1) hsettings
  refine ⟨fun hok name group hgroup => ?_, fun name policy hpolicy => ?_⟩
  · exact h.modelled (hstatus ▸ hok) name group (hgroups ▸ hgroup)
  · rw [hstatus]
    have hkept : (∀ policy, op ≠ .registerEndpoint policy) →
        p.configurationStatus.ok = true := fun hop => by
      obtain ⟨t, helems, hpipeline, -, -⟩ := exec_elems B lib p hsound op
      rw [hpipeline, helems.endpoints hop] at hpolicy
      exact h.checked name policy hpolicy
    cases op with
    | registerEndpoint registered =>
      exact (registerEndpoint_checked p registered hpolicy).elim (h.checked name policy) id
    | _ => exact hkept nofun

theorem Initial.vetted {p : CommandPipeline β} (h : Initial p) : Vetted p := by
  obtain ⟨hgroupOk, -⟩ := h.sound
  obtain ⟨backend, groups, config, rfl⟩ := h
  -- a group with limits out of order leaves a bad verdict, and none makes it good again
  have hbuilt : ∀ (gs : List JointGroupModel) (state : StringMap JointGroupModel × MotionStatus),
      (state.2.ok = true → ∀ (name : String) group, state.1[name]? = some group → group.ordered) →
      (gs.foldl addGroup state).2.ok = true →
      ∀ (name : String) group, (gs.foldl addGroup state).1[name]? = some group → group.ordered := by
    intro gs
    induction gs with
    | nil => exact fun _ h => h
    | cons g gs ih =>
      refine fun state h => ih _ fun hok name group hgroup => ?_
      unfold addGroup at hok hgroup
      split at hok
      · cases hok
      · rename_i hnew
        rw [if_neg hnew] at hgroup
        split at hok
        · cases hok
        · rename_i hlimits
          simp only [Std.TreeMap.getElem?_insert, Std.LawfulEqOrd.compare_eq_iff_eq] at hgroup
          split at hgroup
          · cases hgroup
            intro i hi
            by_contra hcross
            refine hlimits (List.any_eq_true.2 ⟨i, List.mem_range.2 hi, ?_⟩)
            exact decide_eq_true (not_le.1 hcross)
          · exact h hok name group hgroup
  refine ⟨fun hok name group hgroup => ⟨(hgroupOk name group hgroup).1, ?_⟩, ?_⟩
  · exact hbuilt groups (∅, .Ok) (by simp) hok name group hgroup
  · simp [CommandPipeline.create]

end HumanoidMotion
