import HumanoidMotion.Motion.Permits
/-
# What one turn issues

A turn adds at most one command to the tick, for the joints of its own session,
and takes away no permit of another session on other joints.

* `Source` — where a command comes from: an approved output, or the hold of a
  controlled stop; `Source.sessionId`, `Source.jointNames` follow from it.
* `TurnEffect` — commands and permits across one turn (`Turn.effect`).
-/

namespace HumanoidMotion

/-- The command as the tick returns it. -/
def JointCommand.stamp (command : JointCommand) (sessionId : String) (validUntil : SteadyTime)
    (publicationToken : Nat) : JointCommand :=
  { command with sessionId, validUntil := some validUntil, publicationToken }

namespace Tick

variable {β : Type} (B : Platform β) (lib : MathLib) (ctx : TickContext)

/-! ## Holds -/

section
variable {B lib} {p p' : CommandPipeline β} {session : Session} {selected : JointFeedback}

theorem HoldOf.fixed {hold : Option JointCommand} (hcalls : Calls B p.backend p'.backend)
    (hf : Fixed p p') (h : HoldOf B lib p' session selected hold) :
    HoldOf B lib p session selected hold := by
  obtain ⟨e, he, rfl⟩ := h
  refine ⟨e, hcalls.trans he, ?_⟩
  simp only [CommandPipeline.controlledStop, hf.groups, hf.period]

/-- A hold went through the final RTC and lies within every limit. -/
theorem HoldOf.accepted {hold : JointCommand} (h : HoldOf B lib p session selected (some hold)) :
    hold.passedFinalSdkRtc = true ∧ ∃ group status, p.groups[session.groupName]? = some group ∧
      validateFinalCommand lib hold group none = .ok status ∧ status.ok = true := by
  obtain ⟨e, -, h⟩ := h
  unfold CommandPipeline.controlledStop at h
  split at h
  · cases h
  · simp only at h
    split at h
    · cases h
    · simp only [CommandPipeline.acceptHold] at h
      split at h
      · cases h
      · rename_i hrtc
        simp only [Bool.or_eq_true, Bool.not_eq_true', not_or, Bool.not_eq_false] at hrtc
        split at h
        · cases h
        · rename_i group hgroup
          split at h
          · rename_i status hstatus
            split at h
            · rename_i hok
              obtain rfl := Option.some.inj h
              exact ⟨hrtc.2, group, status, hgroup, hstatus, hok⟩
            · cases h
          · cases h

end

/-! ## The origin of a command -/

/-- Where the command of the turn that starts in `s` comes from. -/
inductive Source (id : String) (s : TickState β) (c : JointCommand) : Prop
  | output (session session' : Session) (group : JointGroupModel) (selected : JointFeedback)
      (s₁ s₂ : TickState β) (command : JointCommand) (limit : SteadyTime) (token : Nat)
      (h : Stored s id session) (hmoved : Moved B s s₁)
      (hmeasured : Measured lib ctx s.pipeline session group selected)
      (hrun : Running B ctx id session group selected s₁ session' s₂)
      (happroved : Approved lib s.pipeline session' group selected command)
      (hlimit : deadlineOf ctx s.pipeline session' = some limit)
      (hc : c = command.stamp id limit token) : Source id s c
  | hold (session session' : Session) (selected : JointFeedback) (hold : JointCommand)
      (limit : SteadyTime) (token : Nat) (h : Stored s id session)
      (hsame : session.SameClient session')
      (hhold : HoldOf B lib s.pipeline session' selected (some hold))
      (hlimit : deadlineOf ctx s.pipeline session' = some limit)
      (hc : c = hold.stamp id limit token) : Source id s c

variable {B lib ctx} {s s' : TickState β} {id : String} {c : JointCommand}

theorem Running.sameClient {session session' : Session} {group : JointGroupModel}
    {selected : JointFeedback} (h : Running B ctx id session group selected s session' s') :
    session.SameClient session' := by
  cases h with
  | kept => exact ⟨rfl, rfl, rfl, rfl, rfl, rfl⟩
  | launched => exact ⟨rfl, rfl, rfl, rfl, rfl, rfl⟩

theorem deadlineOf_sameClient {p : CommandPipeline β} {session session' : Session}
    (h : session.SameClient session') : deadlineOf ctx p session' = deadlineOf ctx p session := by
  have hkind : session'.kind = session.kind := by rw [Session.kind, Session.kind, h.request]
  unfold deadlineOf
  rw [hkind, h.endpointName, h.submittedAt]

theorem Source.sessionId (h : Source B lib ctx id s c) : c.sessionId = id := by
  cases h with
  | output _ _ _ _ _ _ _ _ _ _ _ _ _ _ _ hc => rw [hc]; rfl
  | hold _ _ _ _ _ _ _ _ _ _ hc => rw [hc]; rfl

/-- The command drives the joints of its session, until the deadline of its session. -/
theorem Source.session (h : Source B lib ctx id s c) : ∃ session,
    Stored s id session ∧ c.jointNames = session.jointNames ∧
      c.validUntil = deadlineOf ctx s.pipeline session := by
  cases h with
  | output session session' group selected s₁ s₂ command limit token h _ hmeasured hrun happroved
      hlimit hc =>
    have hjoints := ((wellFormed_iff command group).1 happroved.wellFormed).2.1
    refine ⟨session, h, ?_, ?_⟩
    · rw [hc]
      exact hjoints.trans hmeasured.names
    · rw [← deadlineOf_sameClient hrun.sameClient, hlimit, hc]
      rfl
  | hold session session' selected hold limit token h hsame hhold hlimit hc =>
    obtain ⟨-, group, status, hgroup, hstatus, hok⟩ := hhold.accepted
    have hjoints := ((wellFormed_iff hold group).1 (validateFinalCommand_ok hstatus hok).1).2.1
    obtain ⟨model, hmodel, hnames, -⟩ := h.ok.group
    rw [hsame.groupName] at hgroup
    obtain rfl : group = model := Option.some.inj (hgroup.symm.trans hmodel)
    refine ⟨session, h, ?_, ?_⟩
    · rw [hc]
      exact hjoints.trans hnames
    · rw [← deadlineOf_sameClient hsame, hlimit, hc]
      rfl

/-! ## Commands and permits across a turn -/

/-- Permits of other sessions on other joints stay. -/
def OthersStay (id : String) (joints : List String) (s s' : TickState β) : Prop :=
  ∀ (joint : String) x, s.pipeline.publicationPermits[joint]? = some x → x.1 ≠ id →
    joint ∉ joints → s'.pipeline.publicationPermits[joint]? = some x

theorem OthersStay.trans {joints : List String} {s s' s'' : TickState β}
    (h : OthersStay id joints s s') (h' : OthersStay id joints s' s'') :
    OthersStay id joints s s'' :=
  fun joint x hx hne hj => h' joint x (h joint x hx hne hj) hne hj

theorem OthersStay.of_eq {joints : List String} {s s' : TickState β}
    (h : ∀ joint : String, s'.pipeline.publicationPermits[joint]? =
      s.pipeline.publicationPermits[joint]?) : OthersStay id joints s s' :=
  fun joint _ hx _ _ => (h joint).trans hx

/-- No command, no permit and no token between the two states. -/
structure SameOutputs (s s' : TickState β) : Prop where
  commands : s'.commands = s.commands
  permits : s'.pipeline.publicationPermits = s.pipeline.publicationPermits
  token : s'.pipeline.nextPublicationToken = s.pipeline.nextPublicationToken

theorem SameOutputs.trans {s s' s'' : TickState β} (h : SameOutputs s s') (h' : SameOutputs s' s'') :
    SameOutputs s s'' :=
  ⟨h'.commands.trans h.commands, h'.permits.trans h.permits, h'.token.trans h.token⟩

theorem Watched.sameOutputs {session : Session} (h : Watched B id session s s') :
    SameOutputs s s' := by
  obtain ⟨e, m, -, -, -, -, rfl⟩ := h
  exact ⟨rfl, rfl, rfl⟩

theorem Moved.sameOutputs (h : Moved B s s') : SameOutputs s s' := by
  obtain ⟨e, -, rfl⟩ := h
  exact ⟨rfl, rfl, rfl⟩

theorem Running.sameOutputs {session session' : Session} {group : JointGroupModel}
    {selected : JointFeedback} (h : Running B ctx id session group selected s session' s') :
    SameOutputs s s' := by
  cases h with
  | kept => exact ⟨rfl, rfl, rfl⟩
  | launched s₁ s' _ _ _ hmoved hgoal =>
    obtain ⟨e, -, rfl⟩ := hmoved
    obtain ⟨e', m, -, -, -, -, rfl⟩ := hgoal
    exact ⟨rfl, rfl, rfl⟩

/-- What a turn leaves: the commands as they were, or with one of its own whose joints carry its
permits, and the permits of the other sessions. -/
structure TurnEffect (B : Platform β) (lib : MathLib) (ctx : TickContext) (id : String)
    (joints : List String) (s s' : TickState β) : Prop where
  commands : s'.commands = s.commands ∨ ∃ c, s'.commands = s.commands ++ [c] ∧
    Source B lib ctx id s c ∧ s.pipeline.nextPublicationToken ≤ c.publicationToken ∧
    ∀ joint ∈ c.jointNames,
      s'.pipeline.publicationPermits[joint]? = some (id, c.publicationToken)
  others : OthersStay id joints s s'

theorem SameOutputs.effect {joints : List String} (h : SameOutputs s s') :
    TurnEffect B lib ctx id joints s s' :=
  ⟨.inl h.commands, .of_eq fun joint => by rw [h.permits]⟩

/-- Terminating the turn's own session leaves the permits of the others. -/
theorem terminate_othersStay (joints : List String) (s : TickState β) (state : SessionState)
    (status : MotionStatus) (preserve : Bool) :
    OthersStay id joints s (s.withPipeline (s.pipeline.terminate B id state status preserve)) := by
  intro joint x hx hid _
  simp only [TickState.withPipeline, CommandPipeline.terminate_permits, hx, Option.filter]
  rw [if_pos (by simp [hid])]

theorem terminate_kept_permits (p : CommandPipeline β) (state : SessionState) (status : MotionStatus)
    (joint : String) : (p.terminate B id state status true).publicationPermits[joint]? =
      p.publicationPermits[joint]? := by
  rw [CommandPipeline.terminate_permits]
  cases p.publicationPermits[joint]? <;> rfl

/-- The turn may go on from a state in which only the session's own joints have new permits. -/
structure Begun (B : Platform β) (id : String) (joints : List String) (s s' : TickState β) :
    Prop where
  commands : s'.commands = s.commands
  calls : Calls B s.pipeline.backend s'.pipeline.backend
  fixed : Fixed s.pipeline s'.pipeline
  token : s.pipeline.nextPublicationToken ≤ s'.pipeline.nextPublicationToken
  others : OthersStay id joints s s'

theorem SameOutputs.begun {joints : List String} (h : SameOutputs s s')
    (hcalls : Calls B s.pipeline.backend s'.pipeline.backend)
    (hf : Fixed s.pipeline s'.pipeline) : Begun B id joints s s' :=
  ⟨h.commands, hcalls, hf, h.token.ge, .of_eq fun joint => by rw [h.permits]⟩

theorem noteRetry_sameOutputs (s : TickState β) (endpoint : String) (retry : Option SteadyTime) :
    SameOutputs s (noteRetry s endpoint retry) := by
  cases retry <;> exact ⟨rfl, rfl, rfl⟩

/-- A controlled stop issues its hold, if it gets one, and keeps the permits. -/
theorem Stopped.effect {s₀ : TickState β} {session session' : Session} {selected : JointFeedback}
    (hbegun : Begun B id session.jointNames s₀ s) (h : Stored s₀ id session)
    (hsame : session.SameClient session')
    (hs : Stopped B lib ctx id session' selected s s') :
    TurnEffect B lib ctx id session.jointNames s₀ s' := by
  obtain ⟨s₁, s₂, hold, limit, retry, status, hm, -, hhold, hlimit, hm', -⟩ := hs
  have hid : session'.sessionId = id := hsame.sessionId.trans h.ok.key
  have hfixed := hbegun.fixed
  have hend : SameOutputs (issueHold s₁ session' limit hold)
      (noteRetry s₂ session'.endpointName retry) :=
    hm'.sameOutputs.trans (noteRetry_sameOutputs _ _ _)
  have hpermits : ∀ joint : String,
      ((noteRetry s₂ session'.endpointName retry).pipeline.terminate B id .aborted status
        true).publicationPermits[joint]? =
      (issueHold s₁ session' limit hold).pipeline.publicationPermits[joint]? := fun joint => by
    rw [terminate_kept_permits, hend.permits]
  cases hold with
  | none =>
    refine ⟨.inl ?_, hbegun.others.trans (.of_eq fun joint => ?_)⟩
    · exact hend.commands.trans (hm.sameOutputs.commands.trans hbegun.commands)
    · refine (hpermits joint).trans ?_
      rw [show issueHold s₁ session' limit none = s₁ from rfl, hm.sameOutputs.permits]
  | some hold =>
    have hissued : ∀ joint : String,
        (issueHold s₁ session' limit (some hold)).pipeline.publicationPermits[joint]? =
          if joint ∈ hold.jointNames then some (id, s₁.pipeline.nextPublicationToken)
          else s₁.pipeline.publicationPermits[joint]? := fun joint => by
      rw [← hid]
      exact issue_permits s₁ session'.sessionId limit hold joint
    have hsource : Source B lib ctx id s₀
        (hold.stamp id limit s₁.pipeline.nextPublicationToken) :=
      .hold session session' selected hold limit _ h hsame (hhold.fixed hbegun.calls hfixed)
        (deadlineOf_fixed hfixed session' ▸ hlimit) rfl
    refine ⟨.inr ⟨_, ?_, hsource, ?_, fun joint hj => ?_⟩, fun joint x hx hne hj => ?_⟩
    · refine hend.commands.trans ?_
      simp only [issueHold, TickState.issue, hm.sameOutputs.commands, hbegun.commands, hid]
      rfl
    · exact hbegun.token.trans hm.sameOutputs.token.ge
    · exact (hpermits joint).trans ((hissued joint).trans (if_pos hj))
    · obtain ⟨stored, hstored, hjoints, -⟩ := hsource.session
      obtain rfl : session = stored := Option.some.inj (h.found.symm.trans hstored.found)
      refine (hpermits joint).trans ((hissued joint).trans ?_)
      rw [if_neg (show joint ∉ hold.jointNames from hjoints ▸ hj), hm.sameOutputs.permits]
      exact hbegun.others joint x hx hne hj

theorem Ended.effect {s₀ : TickState β} {session session' : Session} {selected : JointFeedback}
    (hbegun : Begun B id session.jointNames s₀ s) (h : Stored s₀ id session)
    (hsame : session.SameClient session')
    (he : Ended B lib ctx id session' selected s s') :
    TurnEffect B lib ctx id session.jointNames s₀ s' := by
  cases he with
  | dropped s₁ status hm =>
    refine ⟨.inl (hm.sameOutputs.commands.trans hbegun.commands), ?_⟩
    refine (hbegun.others.trans (.of_eq fun joint => ?_)).trans
      (terminate_othersStay _ s₁ .aborted status false)
    rw [hm.sameOutputs.permits]
  | stopped s' hs => exact hs.effect hbegun h hsame

/-- A winner whose session has been ended has no turn. -/
theorem Turn.eq_of_none (ht : Turn B lib ctx id s s') (hnone : s.pipeline.sessions[id]? = none) :
    s' = s := by
  have hno : ∀ {session : Session}, ¬ Stored s id session := fun hs => by
    have := hs.found
    rw [hnone] at this
    cases this
  cases ht with
  | missing => rfl
  | waits _ _ hs => exact absurd hs hno
  | refused _ _ _ hs => exact absurd hs hno
  | startEnds _ _ _ _ _ hs => exact absurd hs hno
  | runEnds _ _ _ _ _ _ _ hs => exact absurd hs hno
  | emits _ _ _ _ _ _ _ _ _ _ hs => exact absurd hs hno

/-- A turn with a stored session. -/
theorem Turn.effect {session : Session} (ht : Turn B lib ctx id s s') (h : Stored s id session) :
    TurnEffect B lib ctx id session.jointNames s s' := by
  have hself : Begun B id session.jointNames s s :=
    ⟨rfl, .refl _, ⟨rfl, rfl, rfl, rfl⟩, le_refl _, fun _ _ hx _ _ => hx⟩
  have hrefl := Session.SameClient.refl session
  have hunique : ∀ {stored : Session}, Stored s id stored → session = stored := fun hs =>
    Option.some.inj (h.found.symm.trans hs.found)
  cases ht with
  | missing hnone => rw [h.found] at hnone; cases hnone
  | waits stored s' _ _ _ hmoved => exact hmoved.sameOutputs.effect
  | refused stored selected s' hs hended =>
    obtain rfl := hunique hs
    exact hended.effect hself h hrefl
  | startEnds stored group selected s₁ s' hs hmoved _ _ _ hended =>
    obtain rfl := hunique hs
    have hout : SameOutputs s (s₁.withBackend (startAnswer B s₁ id session selected).2) :=
      hmoved.sameOutputs.trans ⟨rfl, rfl, rfl⟩
    have hcalls := hmoved.calls.trans
      (AnyCall.startSession _ id session.request selected s₁.pipeline.currentPeriodSec).calls
    exact hended.effect (hout.begun hcalls (hmoved.fixed.trans ⟨rfl, rfl, rfl, rfl⟩)) h hrefl
  | runEnds stored session' group selected s₁ s₂ s' hs hmoved _ hrun hended =>
    obtain rfl := hunique hs
    exact hended.effect ((hmoved.sameOutputs.trans hrun.sameOutputs).begun
      (hmoved.calls.trans hrun.calls) (hmoved.fixed.trans hrun.fixed)) h hrun.sameClient
  | emits stored session' group selected s₁ s₂ s₃ s' limit command hs hmoved hmeasured hrun hmoved'
      happroved hlimit hconcluded =>
    obtain rfl := hunique hs
    have hout : SameOutputs s s₃ :=
      (hmoved.sameOutputs.trans hrun.sameOutputs).trans hmoved'.sameOutputs
    have hid : session'.sessionId = id := hrun.sameClient.sessionId.trans h.ok.key
    set issued := emitted lib s₃ id session' group limit command with hissued
    have hjoints : command.jointNames = session.jointNames :=
      ((wellFormed_iff command group).1 happroved.wellFormed).2.1.trans hmeasured.names
    have hcommands : issued.commands = s.commands ++
        [command.stamp id limit s.pipeline.nextPublicationToken] := by
      rw [hissued, ← hout.commands, ← hout.token]
      unfold emitted
      simp only [hid]
      split <;> rfl
    have hpermits : ∀ joint : String, issued.pipeline.publicationPermits[joint]? =
        if joint ∈ session.jointNames then some (id, s.pipeline.nextPublicationToken)
        else s.pipeline.publicationPermits[joint]? := by
      intro joint
      rw [hissued, emitted_pipeline]
      refine (issue_permits s₃ session'.sessionId limit command joint).trans ?_
      rw [hid, hjoints, hout.token, hout.permits]
    have hsource : Source B lib ctx id s
        (command.stamp id limit s.pipeline.nextPublicationToken) :=
      .output session session' group selected s₁ s₂ command limit _ h hmoved hmeasured hrun
        happroved hlimit rfl
    have hothers : OthersStay id session.jointNames s issued := by
      intro joint x hx _ hj
      rw [hpermits, if_neg hj]
      exact hx
    have hown : ∀ t : TickState β, (∀ joint : String, t.pipeline.publicationPermits[joint]? =
          issued.pipeline.publicationPermits[joint]?) → t.commands = issued.commands →
        TurnEffect B lib ctx id session.jointNames s t := fun t hp hc =>
      ⟨.inr ⟨_, hc.trans hcommands, hsource, le_refl _, fun joint hj =>
        (hp joint).trans ((hpermits joint).trans (if_pos (hjoints ▸ hj)))⟩,
        hothers.trans (.of_eq hp)⟩
    cases hconcluded with
    | goesOn s' hw => exact hown s' (fun joint => by rw [hw.sameOutputs.permits]) hw.sameOutputs.commands
    | succeeded t hw _ =>
      refine hown _ (fun joint => ?_) hw.sameOutputs.commands
      refine (terminate_kept_permits t.pipeline .succeeded .Ok joint).trans ?_
      rw [hw.sameOutputs.permits]
    | failed t s' hw _ hstop =>
      -- the command is taken back, its permits stay on the joints of the session
      have hupdated : session'.SameClient (updatedSession lib session' group command) :=
        ⟨rfl, rfl, rfl, rfl, rfl, rfl⟩
      refine hstop.effect ⟨?_, ?_, ?_, ?_, ?_⟩ h (hrun.sameClient.trans hupdated)
      · simp [TickState.popCommand, hw.sameOutputs.commands, hcommands]
      · have hissue : issued.pipeline.backend = s₃.pipeline.backend := by
          rw [hissued, emitted_pipeline]
          rfl
        exact ((hmoved.calls.trans hrun.calls).trans hmoved'.calls).trans (hissue ▸ hw.calls)
      · have hemit : Fixed s₃.pipeline issued.pipeline := by
          rw [hissued, emitted_pipeline]
          exact ⟨rfl, rfl, rfl, rfl⟩
        exact (((hmoved.fixed.trans hrun.fixed).trans hmoved'.fixed).trans hemit).trans hw.fixed
      · change s.pipeline.nextPublicationToken ≤ t.pipeline.nextPublicationToken
        rw [hw.sameOutputs.token, hissued, emitted_pipeline]
        exact (Nat.le_succ _).trans' hout.token.ge
      · exact hothers.trans (.of_eq fun joint => by
          change t.pipeline.publicationPermits[joint]? = _
          rw [hw.sameOutputs.permits])

end Tick

end HumanoidMotion
