import HumanoidMotion.Motion.Holds
import HumanoidMotion.Motion.Lifecycle
import HumanoidMotion.Motion.Settings
/-
# What the callers have seen of a session

The events and the commands that the ticks have returned tell of the session under an id
when it was last started, whether it recovers from a limit violation, and which command it
gave last. The pipeline keeps the same in the session itself, and one turn keeps the two
together.

* `Seen` — what has been seen; `hears` and `returns` for the events and commands of a tick.
* `Tracked` — the stored session stands where it was seen to stand.
* `WithinReach` — what the limits promise of a command, in terms of what was seen.
* `Turn.tells` — one turn.
-/

namespace HumanoidMotion

open Tick

variable {β : Type} {B : Platform β} {lib : MathLib}

/-! ## Events and commands -/

namespace SessionEvent

/-- The event of a start: every RUNNING event but the one that ends a recovery. -/
def starts (event : SessionEvent) : Bool :=
  event.isNews && event.status.message != "joint limit recovery completed"

def completes (event : SessionEvent) : Bool :=
  event.isNews && event.status.message == "joint limit recovery completed"

end SessionEvent

/-- What has been seen of the session under an id since it was last started. -/
structure Seen where
  last : Option JointCommand := none
  recovering : Bool := false
deriving DecidableEq, Repr

namespace Seen

def hear (seen : Seen) (event : SessionEvent) : Seen :=
  if event.starts then
    { recovering := event.status.message == "joint limit recovery started" }
  else if event.completes then { seen with recovering := false }
  else seen

def hears (seen : Seen) (events : List SessionEvent) : Seen := events.foldl hear seen

def returns (seen : Seen) (commands : List JointCommand) : Seen :=
  commands.foldl (fun seen command => { seen with last := some command }) seen

/-- The positions a recovering joint is compared with: the last ones returned, or the measured ones
at the start. -/
def reference (seen : Seen) (measured : JointFeedback) : List Double :=
  match seen.last with
  | some command => command.positionsRad
  | none => measured.positionsRad

variable (seen : Seen)

@[simp] theorem hears_nil : seen.hears [] = seen := rfl

@[simp] theorem returns_nil : seen.returns [] = seen := rfl

theorem hears_append (events events' : List SessionEvent) :
    seen.hears (events ++ events') = (seen.hears events).hears events' := List.foldl_append ..

/-- The last events of sessions tell nothing of the running one. -/
theorem hears_final {events : List SessionEvent} (h : ∀ e ∈ events, e.isFinal = true) :
    seen.hears events = seen := by
  have hquiet : ∀ e ∈ events, e.isNews = false := by
    intro e he
    by_contra hnews
    rw [Bool.not_eq_false] at hnews
    have hfinal := SessionEvent.isFinal_of_isNews e hnews
    rw [h e he] at hfinal
    cases hfinal
  clear h
  unfold hears
  induction events generalizing seen with
  | nil => rfl
  | cons e events ih =>
    have he := hquiet e List.mem_cons_self
    have hsame : seen.hear e = seen := by
      simp [hear, SessionEvent.starts, SessionEvent.completes, he]
    rw [List.foldl_cons, hsame]
    exact ih seen fun e he => hquiet e (List.mem_cons_of_mem _ he)

/-- Without a start, the last command stays the last. -/
theorem hears_last {events : List SessionEvent} (h : ∀ e ∈ events, e.starts = false) :
    (seen.hears events).last = seen.last := by
  unfold hears
  induction events generalizing seen with
  | nil => rfl
  | cons e events ih =>
    have hsame : (seen.hear e).last = seen.last := by
      unfold hear
      rw [if_neg (by simp [h e List.mem_cons_self])]
      split <;> rfl
    rw [List.foldl_cons, ih _ fun e he => h e (List.mem_cons_of_mem _ he), hsame]

end Seen

/-- The news of a session that runs. -/
def news (id : String) (message : String) : SessionEvent :=
  { sessionId := id, state := .running, status := { message } }

namespace Seen

theorem hears_started (seen : Seen) (id : String) (session : Session) :
    seen.hears [news id (startMessage session)] = { recovering := session.recoveringLimits } := by
  cases hflag : session.recoveringLimits <;>
    simp [hears, hear, SessionEvent.starts, SessionEvent.isNews, news, startMessage, hflag]

theorem hears_completed (seen : Seen) (id : String) :
    seen.hears [news id "joint limit recovery completed"] = { seen with recovering := false } := by
  simp [hears, hear, SessionEvent.starts, SessionEvent.completes, SessionEvent.isNews, news]

end Seen

/-! ## Sessions and commands against what was seen -/

/-- The session under `id`, if the SDK runs it, stands where it was seen to stand, and recovers
unless its last output was within every limit. -/
def Tracked (id : String) (seen : Seen) (p : CommandPipeline β) : Prop :=
  ∀ session, p.sessions[id]? = some session → session.backendStarted = true →
    ∃ last, seen.last = some last ∧ last.positionsRad = session.lastFinalTarget.positionsRad ∧
      last.groupName = session.groupName ∧ seen.recovering = session.recoveringLimits ∧
      (session.recoveringLimits = false → ∀ group, p.groups[session.groupName]? = some group →
        ∀ i < group.jointNames.length, withinLimits last group i = true)

theorem Tracked.of_none {id : String} {seen : Seen} {p : CommandPipeline β}
    (h : p.sessions[id]? = none) : Tracked id seen p := by
  intro session hfound
  rw [h] at hfound
  cases hfound

/-- Joint `i` of the command is outside a limit, where it recovers: the recovery was reported, the
joint was measured and commanded outside that limit, no nearer, and does not move outward. -/
structure Recovers (group : JointGroupModel) (measured : JointFeedback) (seen : Seen)
    (command : JointCommand) (i : Nat) : Prop where
  recovering : seen.recovering = true
  sameGroup : ∀ last, seen.last = some last → last.groupName = command.groupName
  inward : movesInward command group (seen.reference measured) measured i = true

/-- What the limits promise of a command. -/
structure WithinReach (group : JointGroupModel) (measured : JointFeedback) (seen : Seen)
    (command : JointCommand) : Prop where
  rtc : command.passedFinalSdkRtc = true
  formed : wellFormed command group = true
  limits : ∀ i < group.jointNames.length,
    withinLimits command group i = true ∨ Recovers group measured seen command i

/-- The stamp of the tick changes nothing of it. -/
theorem WithinReach.stamp {group : JointGroupModel} {measured : JointFeedback} {seen : Seen}
    {command : JointCommand} (h : WithinReach group measured seen command) (id : String)
    (limit : SteadyTime) (token : Nat) :
    WithinReach group measured seen (command.stamp id limit token) where
  rtc := h.rtc
  formed := h.formed
  limits i hi := (h.limits i hi).imp (fun hin => hin) fun hr => ⟨hr.recovering, hr.sameGroup, hr.inward⟩

/-- The command is within reach of the feedback, by the limits of its own group. -/
def Reached (feedback : JointFeedback) (p : CommandPipeline β) (seen : Seen)
    (command : JointCommand) : Prop :=
  ∃ group measured, p.groups[command.groupName]? = some group ∧ group.ordered ∧
    selectFeedback feedback group.jointNames = .ok measured ∧
    WithinReach group measured seen command

theorem Modelled.fixed {p p' : CommandPipeline β} (h : Modelled p) (hf : Fixed p p') :
    Modelled p' := by
  intro name group hgroup
  exact h name group (hf.groups ▸ hgroup)

theorem Reached.groups {feedback : JointFeedback} {p p' : CommandPipeline β} {seen : Seen}
    {command : JointCommand} (hg : p'.groups = p.groups) (h : Reached feedback p seen command) :
    Reached feedback p' seen command := by
  obtain ⟨group, measured, hgroup, hrest⟩ := h
  exact ⟨group, measured, hg ▸ hgroup, hrest⟩

namespace Tick

/-! ## One turn -/

section
variable {ctx : TickContext} {id : String} {seen : Seen} {s s' : TickState β} {session : Session}
  {selected : JointFeedback} {group : JointGroupModel}

/-- What a turn adds to the result, and where it leaves its session. -/
structure Tells (ctx : TickContext) (id : String) (seen : Seen) (s s' : TickState β)
    (added : List SessionEvent) (issued : Option JointCommand) : Prop where
  events : s'.events = s.events ++ added
  own : ∀ e ∈ added, e.sessionId = id
  commands : s'.commands = s.commands ++ issued.toList
  reached : ∀ command, issued = some command →
    command.sessionId = id ∧ Reached ctx.feedback s.pipeline (seen.hears added) command
  tracked : Tracked id ((seen.hears added).returns issued.toList) s'.pipeline

/-- The session once it runs, right before its command is approved. -/
structure Standing (group : JointGroupModel) (selected : JointFeedback) (seen : Seen)
    (session : Session) : Prop where
  reference : seen.reference selected = session.lastFinalTarget.positionsRad
  recovering : seen.recovering = session.recoveringLimits
  sameGroup : ∀ last, seen.last = some last → last.groupName = session.groupName
  clear : session.recoveringLimits = false → ∀ i < group.jointNames.length,
    group.tolerates i (valueAt session.lastFinalTarget.positionsRad i)
  length : session.lastFinalTarget.positionsRad.length = group.jointNames.length

variable (seen) in
/-- A running session stands where it was seen; one just started, at the measured joints. -/
theorem Running.tells {session' : Session} (h : Running B ctx id session group selected s session' s')
    (hstored : Stored s id session) (hmeasured : Measured lib ctx s.pipeline session group selected)
    (htracked : Tracked id seen s.pipeline) : ∃ added, s'.events = s.events ++ added ∧
      (∀ e ∈ added, e.sessionId = id) ∧ Standing group selected (seen.hears added) session' := by
  cases h with
  | kept hstarted =>
    obtain ⟨last, hlast, hpositions, hgroup, hrecovering, hclear⟩ :=
      htracked session hstored.found hstarted
    refine ⟨[], (List.append_nil _).symm, nofun, ?_, hrecovering, ?_, fun hflag i hi => ?_, ?_⟩
    · simp [Seen.reference, hlast, hpositions]
    · intro other hother
      rw [Seen.hears_nil, hlast] at hother
      cases hother
      exact hgroup
    · rw [← hpositions]
      exact withinLimits_iff.1 (hclear hflag group hmeasured.found i hi)
    · rw [hstored.ok.last hstarted, hmeasured.names]
  | launched s₁ s' _ _ _ hmoved hgoal =>
    obtain ⟨e, -, rfl⟩ := hmoved
    obtain ⟨e', m, -, -, -, -, rfl⟩ := hgoal
    refine ⟨[news id (startMessage (startedSession session group selected))], rfl, by simp [news], ?_⟩
    rw [Seen.hears_started]
    refine ⟨rfl, rfl, nofun, fun hflag i hi => ?_, ?_⟩
    · exact outsideLimits_tolerates hflag hi
    · exact (selectFeedback_ok hmeasured.selected).2.trans (congrArg _ hmeasured.names.symm)

/-- A hold lies within every limit. -/
theorem HoldOf.reached {hold : JointCommand} (hmodelled : Modelled s.pipeline)
    (hstored : Stored s id session)
    (hselected : selectFeedback ctx.feedback session.jointNames = .ok selected)
    (h : HoldOf B lib s.pipeline session selected (some hold)) (limit : SteadyTime) (token : Nat) :
    Reached ctx.feedback s.pipeline seen (hold.stamp id limit token) := by
  obtain ⟨hrtc, group, status, hgroup, hstatus, hok⟩ := h.accepted
  obtain ⟨hformed, haccepted⟩ := validateFinalCommand_ok hstatus hok
  obtain ⟨model, hmodel, hnames, -⟩ := hstored.ok.group
  obtain rfl : group = model := Option.some.inj (hgroup.symm.trans hmodel)
  have hname : (hold.stamp id limit token).groupName = session.groupName :=
    ((wellFormed_iff hold group).1 hformed).1.trans (hmodelled _ group hgroup).1
  refine ⟨group, selected, hname ▸ hgroup, (hmodelled _ group hgroup).2, hnames ▸ hselected, hrtc,
    hformed, fun i hi => .inl ?_⟩
  have hwithin : withinLimits hold group i = true := by simpa [jointAccepted] using haccepted i hi
  exact hwithin

variable (seen) in
/-- An end of the session: a hold at most is added, and the session is gone. -/
theorem Ended.tells (h : Ended B lib ctx id session selected s s') (hmodelled : Modelled s.pipeline)
    (hstored : Stored s id session) :
    ∃ issued, Tells ctx id seen s s' [] issued := by
  cases h with
  | dropped s₁ status hm =>
    refine ⟨none, ⟨?_, nofun, ?_, nofun, .of_none ?_⟩⟩
    · obtain ⟨e, -, rfl⟩ := hm
      exact (List.append_nil _).symm
    · exact hm.sameOutputs.commands.trans (List.append_nil _).symm
    · simp [TickState.withPipeline]
  | stopped s' hs =>
    obtain ⟨s₁, s₂, hold, limit, retry, status, hm, hselected, hhold, -, hm', -⟩ := hs
    have hend : ∀ t : TickState β, (noteRetry t session.endpointName retry).commands = t.commands ∧
        (noteRetry t session.endpointName retry).events = t.events := fun t => by
      cases retry <;> exact ⟨rfl, rfl⟩
    have hevents : s₂.events = s.events := by
      obtain ⟨e, -, rfl⟩ := hm
      obtain ⟨e', -, rfl⟩ := hm'
      cases hold <;> rfl
    have hgone : ((noteRetry s₂ session.endpointName retry).withPipeline
        ((noteRetry s₂ session.endpointName retry).pipeline.terminate B id .aborted status
          true)).pipeline.sessions[id]? = none := by
      simp [TickState.withPipeline]
    cases hold with
    | none =>
      refine ⟨none, ⟨?_, nofun, ?_, nofun, .of_none hgone⟩⟩
      · exact (hend s₂).2.trans (hevents.trans (List.append_nil _).symm)
      · refine (hend s₂).1.trans ?_
        rw [hm'.sameOutputs.commands]
        exact hm.sameOutputs.commands.trans (List.append_nil _).symm
    | some hold =>
      refine ⟨some (hold.stamp id limit s₁.pipeline.nextPublicationToken),
        ⟨?_, nofun, ?_, ?_, .of_none hgone⟩⟩
      · exact (hend s₂).2.trans (hevents.trans (List.append_nil _).symm)
      · refine (hend s₂).1.trans ?_
        rw [hm'.sameOutputs.commands, ← hstored.ok.key, ← hm.sameOutputs.commands]
        rfl
      · rintro _ ⟨rfl⟩
        exact ⟨rfl, hhold.reached hmodelled hstored hselected limit _⟩

/-! ## The turn that issues an output -/

variable {command : JointCommand} {p : CommandPipeline β}

/-- An approved command of a session that stands where it was seen. -/
theorem Standing.reach (h : Standing group selected seen session)
    (hordered : group.ordered) (hname : command.groupName = session.groupName)
    (happroved : Approved lib p session group selected command) :
    WithinReach group selected seen command where
  rtc := happroved.rtc
  formed := happroved.wellFormed
  limits i hi := by
    rcases happroved.joint h.length hi with hin | hinward
    · exact .inl hin
    cases hflag : session.recoveringLimits with
    | true =>
      refine .inr ⟨h.recovering.trans hflag, fun last hlast => ?_, h.reference.symm ▸ hinward⟩
      rw [h.sameGroup last hlast, hname]
    | false =>
      left
      exact withinLimits_iff.2 (tolerates_of_inward (hordered i hi) (h.clear hflag i hi) hinward)

/-- The end of the recovery is heard, and changes nothing of what the command was within. -/
def completion (lib : MathLib) (id : String) (session : Session) (group : JointGroupModel)
    (command : JointCommand) : List SessionEvent :=
  if session.recoveringLimits && plainlyOk lib command group then
    [news id "joint limit recovery completed"]
  else []

theorem emitted_events (s : TickState β) (limit : SteadyTime) :
    (emitted lib s id session group limit command).events =
      s.events ++ completion lib id session group command := by
  unfold emitted completion
  split
  · rfl
  · exact (List.append_nil _).symm

theorem completion_reach (lib : MathLib) (id : String) (session : Session) (h : WithinReach group selected seen command) :
    WithinReach group selected (seen.hears (completion lib id session group command)) command := by
  unfold completion
  split
  · rename_i hdone
    rw [Bool.and_eq_true] at hdone
    exact ⟨h.rtc, h.formed, fun i hi => .inl (plainlyOk_within hdone.2 hi)⟩
  · exact h

/-- After its command the session stands where it is seen to stand. -/
theorem Standing.tracked {q : CommandPipeline β} (h : Standing group selected seen session)
    (hreach : WithinReach group selected seen command) (hname : command.groupName = session.groupName)
    (hgroup : q.groups[session.groupName]? = some group)
    (hfound : q.sessions[id]? = some (updatedSession lib session group command))
    (limit : SteadyTime) (token : Nat) :
    Tracked id ((seen.hears (completion lib id session group command)).returns
      [command.stamp id limit token]) q := by
  intro stored hstored _
  obtain rfl := Option.some.inj (hfound.symm.trans hstored)
  refine ⟨command.stamp id limit token, rfl, rfl, hname, ?_, fun hflag model hmodel i hi => ?_⟩
  · change (seen.hears _).recovering = (session.recoveringLimits && !plainlyOk lib command group)
    unfold completion
    split
    · rename_i hdone
      rw [Bool.and_eq_true] at hdone
      rw [Seen.hears_completed, hdone.2, Bool.not_true, Bool.and_false]
    · rename_i hgoes
      rw [Seen.hears_nil, h.recovering]
      cases hrec : session.recoveringLimits with
      | false => rfl
      | true =>
        rw [hrec, Bool.true_and] at hgoes
        simp [hgoes]
  · obtain rfl : group = model := Option.some.inj (hgroup.symm.trans hmodel)
    have hclear : (session.recoveringLimits && !plainlyOk lib command group) = false := hflag
    change withinLimits command group i = true
    cases hplain : plainlyOk lib command group with
    | true => exact plainlyOk_within hplain hi
    | false =>
      rw [hplain, Bool.not_false, Bool.and_true] at hclear
      refine (hreach.limits i hi).resolve_right fun hrecovers => ?_
      rw [← h.recovering, hrecovers.recovering] at hclear
      cases hclear

/-! ## Every turn -/

/-- What comes before the end of a session: the platform moves, or it is started. -/
theorem Tells.after {s₀ : TickState β} {added more : List SessionEvent} {issued : Option JointCommand}
    (h : Tells ctx id (seen.hears added) s s' more issued) (hevents : s.events = s₀.events ++ added)
    (hown : ∀ e ∈ added, e.sessionId = id) (hcommands : s.commands = s₀.commands)
    (hgroups : s.pipeline.groups = s₀.pipeline.groups) :
    Tells ctx id seen s₀ s' (added ++ more) issued where
  events := by rw [h.events, hevents, List.append_assoc]
  own e he := (List.mem_append.1 he).elim (hown e) (h.own e)
  commands := by rw [h.commands, hcommands]
  reached command hc := by
    rw [Seen.hears_append]
    exact ⟨(h.reached command hc).1, (h.reached command hc).2.groups hgroups.symm⟩
  tracked := by
    rw [Seen.hears_append]
    exact h.tracked

theorem Moved.events (h : Moved B s s') : s'.events = s.events := by
  obtain ⟨e, -, rfl⟩ := h
  rfl

theorem Watched.events (h : Watched B id session s s') : s'.events = s.events := by
  obtain ⟨e, m, -, -, -, -, rfl⟩ := h
  rfl

/-- How the turn ends once its command is issued. -/
theorem Concluded.tells {updated : Session} {s₀ : TickState β} {added : List SessionEvent}
    (hconcluded : Concluded B lib ctx id updated selected s s')
    (hmodelled : Modelled s.pipeline) (hstored : Stored s id updated)
    (htells : Tells ctx id seen s₀ s added (some command)) (hf : Fixed s₀.pipeline s.pipeline) :
    ∃ issued, Tells ctx id seen s₀ s' added issued := by
  cases hconcluded with
  | goesOn s' hw =>
    refine ⟨some command, hw.events.trans htells.events, htells.own,
      hw.sameOutputs.commands.trans htells.commands, htells.reached, fun stored hs => ?_⟩
    rw [hw.sessions] at hs
    rw [hw.fixed.groups]
    exact htells.tracked stored hs
  | succeeded s₁ hw =>
    refine ⟨some command, hw.events.trans htells.events, htells.own,
      hw.sameOutputs.commands.trans htells.commands, htells.reached, .of_none ?_⟩
    simp [TickState.withPipeline]
  | failed s₁ s' hw _ hstop =>
    -- the command is taken back for a hold
    have hpopped : s₁.popCommand.commands = s₀.commands := by
      simp [TickState.popCommand, hw.sameOutputs.commands, htells.commands]
    obtain ⟨issued, hend⟩ := Ended.tells (seen.hears added) (.stopped s' hstop)
      (hmodelled.fixed hw.fixed) (hstored.watched hw).pop
    refine ⟨issued, ?_⟩
    have hafter : Tells ctx id seen s₀ s' (added ++ []) issued :=
      hend.after (hw.events.trans htells.events) htells.own hpopped
        (hw.fixed.groups.trans hf.groups)
    rwa [List.append_nil] at hafter

/-- Every turn keeps its session where it is seen to stand, and what it issues is within reach. -/
theorem Turn.tells (ht : Turn B lib ctx id s s')
    (hmodelled : ∀ session, s.pipeline.sessions[id]? = some session → Modelled s.pipeline)
    (htracked : Tracked id seen s.pipeline) :
    ∃ added issued, Tells ctx id seen s s' added issued := by
  cases ht with
  | missing =>
    exact ⟨[], none, (List.append_nil _).symm, nofun, (List.append_nil _).symm, nofun, htracked⟩
  | waits session s' _ _ _ hmoved =>
    refine ⟨[], none, hmoved.events.trans (List.append_nil _).symm, nofun,
      hmoved.sameOutputs.commands.trans (List.append_nil _).symm, nofun, fun stored hs => ?_⟩
    rw [hmoved.fixed.groups]
    exact htracked stored (hmoved.sessions ▸ hs)
  | refused session selected s' h hended => exact ⟨[], hended.tells seen (hmodelled session h.found) h⟩
  | startEnds session group selected s₁ s' h hmoved _ _ _ hended =>
    have hmodelled₁ := (hmodelled session h.found).fixed hmoved.fixed
    obtain ⟨issued, hend⟩ := Ended.tells (seen.hears []) hended hmodelled₁
      ((h.moved hmoved).withBackend _)
    exact ⟨[] ++ [], issued, hend.after (hmoved.events.trans (List.append_nil _).symm) nofun
      hmoved.sameOutputs.commands hmoved.fixed.groups⟩
  | runEnds session session' group selected s₁ s₂ s' h hmoved hmeasured hrun hended =>
    have hfixed := hmoved.fixed.trans hrun.fixed
    have hmeasured₁ := hmeasured.fixed hmoved.fixed
    obtain ⟨added, hevents, hown, -⟩ := hrun.tells seen (h.moved hmoved) hmeasured₁
      fun stored hs => hmoved.fixed.groups ▸ htracked stored (hmoved.sessions ▸ hs)
    obtain ⟨hstored, -, -⟩ := hrun.stored (h.moved hmoved) hmeasured₁
    obtain ⟨issued, hend⟩ := Ended.tells (seen.hears added) hended
      ((hmodelled session h.found).fixed hfixed) hstored
    exact ⟨added ++ [], issued, hend.after (hevents.trans (by rw [hmoved.events])) hown
      (hrun.sameOutputs.commands.trans hmoved.sameOutputs.commands) hfixed.groups⟩
  | emits session session' group selected s₁ s₂ s₃ s' limit command h hmoved hmeasured hrun hmoved'
      happroved hlimit hconcluded =>
    have hfixed := (hmoved.fixed.trans hrun.fixed).trans hmoved'.fixed
    have hmeasured₁ := hmeasured.fixed hmoved.fixed
    obtain ⟨added, hevents, hown, hstanding⟩ := hrun.tells seen (h.moved hmoved) hmeasured₁
      fun stored hs => hmoved.fixed.groups ▸ htracked stored (hmoved.sessions ▸ hs)
    obtain ⟨hstored, -, hmeasured₂⟩ := hrun.stored (h.moved hmoved) hmeasured₁
    have hmodels := hmodelled session h.found
    have hgroup : s.pipeline.groups[session'.groupName]? = some group := by
      rw [hrun.sameClient.groupName]
      exact hmeasured.found
    have hname : command.groupName = session'.groupName :=
      ((wellFormed_iff command group).1 happroved.wellFormed).1.trans (hmodels _ group hgroup).1
    have hreach := hstanding.reach (hmodels _ group hgroup).2 hname happroved
    set issued := emitted lib s₃ id session' group limit command with hissued
    have hemitted : Stored issued id (updatedSession lib session' group command) :=
      (hstored.moved hmoved').emitted (hmeasured₂.fixed hmoved'.fixed).names happroved.wellFormed
    have hemit : Fixed s₃.pipeline issued.pipeline := by
      rw [hissued, emitted_pipeline]
      exact ⟨rfl, rfl, rfl, rfl⟩
    have hkey : session'.sessionId = id := hrun.sameClient.sessionId.trans h.ok.key
    have htells : Tells ctx id seen s issued
        (added ++ completion lib id session' group command)
        (some (command.stamp id limit s₃.pipeline.nextPublicationToken)) := by
      refine ⟨?_, fun e he => ?_, ?_, ?_, ?_⟩
      · rw [hissued, emitted_events, hmoved'.events, hevents, hmoved.events, List.append_assoc]
      · rcases List.mem_append.1 he with he | he
        · exact hown e he
        · unfold completion at he
          split at he
          · rw [List.mem_singleton.1 he]
            rfl
          · cases he
      · have hcommands : issued.commands = s₃.commands ++
            [command.stamp id limit s₃.pipeline.nextPublicationToken] := by
          rw [hissued, ← hkey]
          unfold emitted
          split <;> rfl
        rw [hcommands, hmoved'.sameOutputs.commands, hrun.sameOutputs.commands,
          hmoved.sameOutputs.commands]
        rfl
      · rintro _ ⟨rfl⟩
        rw [Seen.hears_append]
        have hdone := completion_reach lib id session' hreach
        exact ⟨rfl, group, selected, hname ▸ hgroup, (hmodels _ group hgroup).2,
          hmeasured.names ▸ hmeasured.selected, hdone.stamp id limit _⟩
      · rw [Seen.hears_append]
        refine hstanding.tracked hreach hname ?_ hemitted.found limit _
        rw [hemit.groups, hfixed.groups]
        exact hgroup
    obtain ⟨last, hdone⟩ := hconcluded.tells (hmodels.fixed (hfixed.trans hemit)) hemitted htells
      (hfixed.trans hemit)
    exact ⟨_, last, hdone⟩

end

end Tick

end HumanoidMotion
