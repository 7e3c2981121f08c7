import Mathlib.Data.List.Find
import HumanoidMotion.Motion.Completion
import HumanoidMotion.Motion.Elapsed
import HumanoidMotion.Motion.GoalJoints
/-
# One faulty arm does not disturb another

Two ticks from one state whose feedback agrees on the joints of a group give the
sessions that drive this group the same commands, the same events and the same
state (`tick_isolated`), whatever the other joints report. A Move stored under
the id derived from a servo endpoint can leave two sessions on one group: their
lanes are followed side by side.

* `Structural`, `AgreeOn` — what the two feedbacks have in common.
* `Driver`, `alike_beside` — the winners that drive the group, and two of their lanes.
* `turns_isolated` — the turns of all winners, side by side.
* `finish_sameView` — the closing of the tick.
* `CallFor.recorded`, … — the calls written down change nothing.
-/

namespace HumanoidMotion

open Tick
open Prog (Lockstep Aligned)

variable {β ν : Type} {B : Platform β} {lib : MathLib} {L : Lane}

/-! ## Feedback that agrees on some joints -/

/-- The same names and receipt time, and the same values for the joints `joints`. -/
structure AgreeOn (joints : List String) (feedback feedback' : JointFeedback) : Prop where
  names : feedback'.jointNames = feedback.jointNames
  receivedAt : feedback'.receivedAt = feedback.receivedAt
  positions : ∀ (i : Nat) (name : String), feedback.jointNames[i]? = some name → name ∈ joints →
    feedback'.positionsRad[i]? = feedback.positionsRad[i]?
  velocities : ∀ (i : Nat) (name : String), feedback.jointNames[i]? = some name → name ∈ joints →
    feedback'.velocitiesRadS[i]? = feedback.velocitiesRadS[i]?

section
variable {joints : List String} {feedback feedback' : JointFeedback}

/-- The entry of a joint in two columns that agree on it; a missing joint has no entry in either. -/
theorem getD_idxOf_eq {names : List String} {values values' : List Double}
    (hlen : names.length = values.length) (hlen' : names.length = values'.length) {name : String}
    (h : ∀ i : Nat, names[i]? = some name → values'[i]? = values[i]?) :
    values'.getD (names.idxOf name) 0 = values.getD (names.idxOf name) 0 := by
  simp only [List.getD_eq_getElem?_getD]
  by_cases hmem : name ∈ names
  · rw [h]
    rw [List.getElem?_eq_getElem (List.idxOf_lt_length_of_mem hmem), List.getElem_idxOf]
  · rw [List.idxOf_eq_length hmem, List.getElem?_eq_none hlen.symm.le,
      List.getElem?_eq_none hlen'.symm.le]

theorem JointFeedback.Structural.lengths (hs : feedback.Structural) :
    (feedback.jointNames.length ≠ feedback.positionsRad.length ||
      feedback.jointNames.length ≠ feedback.velocitiesRadS.length) = false := by
  simp [← hs.positions, ← hs.velocities]

variable (hs : feedback.Structural) (hs' : feedback'.Structural)
  (h : AgreeOn joints feedback feedback')
include hs hs' h

theorem AgreeOn.position {name : String} (hname : name ∈ joints) :
    feedback'.positionsRad.getD (feedback'.jointNames.idxOf name) 0 =
      feedback.positionsRad.getD (feedback.jointNames.idxOf name) 0 := by
  rw [h.names]
  exact getD_idxOf_eq hs.positions (h.names ▸ hs'.positions) fun i hi => h.positions i name hi hname

theorem AgreeOn.velocity {name : String} (hname : name ∈ joints) :
    feedback'.velocitiesRadS.getD (feedback'.jointNames.idxOf name) 0 =
      feedback.velocitiesRadS.getD (feedback.jointNames.idxOf name) 0 := by
  rw [h.names]
  exact getD_idxOf_eq hs.velocities (h.names ▸ hs'.velocities) fun i hi => h.velocities i name hi hname

theorem AgreeOn.validate (config : CommandPipelineConfig) (group : JointGroupModel)
    (time : SteadyTime) (hgroup : ∀ joint ∈ group.jointNames, joint ∈ joints) :
    validateFeedback lib config feedback' group time =
      validateFeedback lib config feedback group time := by
  have hposition : ∀ i ∈ List.range group.jointNames.length,
      feedback'.positionOf (group.jointNames.getD i "") =
        feedback.positionOf (group.jointNames.getD i "") := by
    intro i hi
    have hlt := List.mem_range.1 hi
    refine congrArg Double.val (h.position hs hs' (hgroup _ ?_))
    rw [List.getD_eq_getElem?_getD, List.getElem?_eq_getElem hlt]
    exact List.getElem_mem hlt
  unfold validateFeedback
  simp only [hs.lengths, hs'.lengths, hs.finitePositions, hs'.finitePositions, hs.finiteVelocities,
    hs'.finiteVelocities, hs.unique, hs'.unique, Bool.not_true, Bool.or_self, Bool.false_eq_true,
    if_false]
  rw [h.receivedAt, h.names]
  split
  · rfl
  · split
    · rfl
    · have hout (margin : Rat) : ∀ i ∈ List.range group.jointNames.length,
          (decide (feedback'.positionOf (group.jointNames.getD i "") <
              valueAt group.lowerPositionRad i - margin) ||
            decide (valueAt group.upperPositionRad i + margin <
              feedback'.positionOf (group.jointNames.getD i ""))) =
          (decide (feedback.positionOf (group.jointNames.getD i "") <
              valueAt group.lowerPositionRad i - margin) ||
            decide (valueAt group.upperPositionRad i + margin <
              feedback.positionOf (group.jointNames.getD i ""))) := by
        intro i hi
        rw [hposition i hi]
      simp only [List.find?_congr (hout _)]
      split
      · rfl
      · rename_i i hi
        rw [hposition i (List.mem_of_find?_eq_some hi)]

theorem AgreeOn.select (names : List String) (hnames : ∀ joint ∈ names, joint ∈ joints) :
    selectFeedback feedback' names = selectFeedback feedback names := by
  have hpositions := List.map_congr_left fun name hn => h.position hs hs' (hnames name hn)
  have hvelocities := List.map_congr_left fun name hn => h.velocity hs hs' (hnames name hn)
  unfold selectFeedback
  rw [hpositions, hvelocities, h.receivedAt, h.names]

theorem AgreeOn.judge (config : GoalMonitorConfig) (goal : GoalState) (pose : Option Pose)
    (hgoal : ∀ joint ∈ goal.jointGoal.jointNames, joint ∈ joints) :
    GoalMonitor.judge lib config goal feedback' pose =
      GoalMonitor.judge lib config goal feedback pose := by
  have hjoint : ∀ joint ∈ goal.jointGoal.jointNames.zip goal.jointGoal.positionsRad,
      GoalMonitor.jointWithin config feedback' joint.1 joint.2 =
        GoalMonitor.jointWithin config feedback joint.1 joint.2 := by
    rintro ⟨name, position⟩ hin
    have hname := hgoal name (List.of_mem_zip hin).1
    have hposition := h.position hs hs' hname
    have hvelocity := h.velocity hs hs' hname
    rw [h.names] at hposition hvelocity
    unfold GoalMonitor.jointWithin valueAt
    simp only [h.names, hposition, hvelocity]
  unfold GoalMonitor.judge
  simp only [List.map_congr_left hjoint, hs.lengths, hs'.lengths, hs.finitePositions,
    hs'.finitePositions, hs.finiteVelocities, hs'.finiteVelocities, hs.unique, hs'.unique]

/-- Whoever reads these joints only cannot tell the two ticks apart. -/
theorem AgreeOn.inputs {ctx ctx' : TickContext} (hf : ctx.feedback = feedback)
    (hf' : ctx'.feedback = feedback') (hnow : ctx'.now = ctx.now)
    (hentered : ctx'.enteredAt = ctx.enteredAt) (hdeadline : ctx'.cycleDeadline = ctx.cycleDeadline) :
    SameInputs lib (· ∈ joints) ctx ctx' := by
  subst hf hf'
  exact ⟨hnow, hentered, hdeadline, h.receivedAt, h.validate hs hs', h.select hs hs', h.judge hs hs'⟩

end

/-! ## The turns side by side -/

/-- Both states move on without the lane noticing. -/
theorem Lane.Alike.move {ρ : β → β → Prop} {s s' t t' : TickState β} (h : L.Alike ρ s s')
    (hs : L.SameView s t) (hs' : L.SameView s' t')
    (hρ : ρ t.pipeline.backend t'.pipeline.backend) : L.Alike ρ t t' where
  toSameView := (hs.symm.trans h.toSameView).trans hs'
  backend := hρ
  drives := fun session hf => h.drives session (hs.session ▸ hf)
  inside := fun goal hf => h.inside goal (hs.goal ▸ hf)
  model := fun group hf => h.model group (hs.fixed.groups ▸ hf)

/-- What the turns rely on in one run: sound lookups, and sessions that come from `p₀`. -/
structure Staged (p₀ : CommandPipeline β) (s : TickState β) : Prop where
  sound : Sound s.pipeline
  descends : Descends p₀ s.pipeline

theorem Staged.turn {p₀ : CommandPipeline β} {ctx : TickContext} {id : String} {s s' : TickState β}
    (h : Staged p₀ s) (ht : Turn B lib ctx id s s') : Staged p₀ s' := by
  have helems : Elems B (.tick ctx.feedback ctx.now) s s' := ht.elems rfl
  exact ⟨helems.sound h.sound, h.descends.trans (helems.descends rfl)⟩

/-- A winner that drives the group. -/
structure Driver (p : CommandPipeline β) (winners : List String) (group : String) (session : Session) :
    Prop where
  wins : session.sessionId ∈ winners
  stored : p.sessions[session.sessionId]? = some session
  group : session.groupName = group

/-- Sessions of two groups stand under two endpoints. -/
theorem Sound.endpoints_ne {p : CommandPipeline β} (h : Sound p) {id id' : String}
    {session session' : Session} (hs : p.sessions[id]? = some session)
    (hs' : p.sessions[id']? = some session') (hgroup : session.groupName ≠ session'.groupName) :
    session.endpointName ≠ session'.endpointName := by
  intro heq
  obtain ⟨policy, hpolicy, hhome⟩ := (h.sessionOk id session hs).endpoint
  obtain ⟨policy', hpolicy', hhome'⟩ := (h.sessionOk id' session' hs').endpoint
  rw [heq] at hpolicy
  obtain rfl : policy' = policy := Option.some.inj (hpolicy'.symm.trans hpolicy)
  exact hgroup (hhome.symm.trans hhome')

/-- The turn of a session does not tell the two states apart for the lane of another, as long as
its own lane cannot: the two lanes may share their endpoint. -/
theorem alike_beside {ρ : β → β → Prop} {L' : Lane} {ctx ctx' : TickContext} {s s' t t' : TickState β}
    (h : L'.Alike ρ s s') (hid : L'.id ≠ L.id) (hown : L.Alike ρ t t')
    (hstored : ∀ session, s.pipeline.sessions[L.id]? = some session → session.endpointName = L.endpoint)
    (hstored' : ∀ session, s'.pipeline.sessions[L.id]? = some session →
      session.endpointName = L.endpoint)
    (ht : Turn B lib ctx L.id s t) (ht' : Turn B lib ctx' L.id s' t') : L'.Alike ρ t t' := by
  by_cases hendpoint : L'.endpoint = L.endpoint
  · -- all but the retry time, by the lane over some other endpoint
    obtain ⟨other, hother⟩ := exists_ne L.endpoint
    have hview : Lane.SameView { L' with endpoint := other } s t :=
      ht.sameView hid fun session hf => (hstored session hf).trans_ne hother.symm
    have hview' : Lane.SameView { L' with endpoint := other } s' t' :=
      ht'.sameView hid fun session hf => (hstored' session hf).trans_ne hother.symm
    exact
      { session := (hview'.session.trans h.session).trans hview.session.symm
        goal := (hview'.goal.trans h.goal).trans hview.goal.symm
        monitorConfig := (hview'.monitorConfig.trans h.monitorConfig).trans hview.monitorConfig.symm
        retry := by
          rw [hendpoint]
          exact hown.retry
        fixed := hown.fixed
        commands := (hview'.commands.trans h.commands).trans hview.commands.symm
        events := (hview'.events.trans h.events).trans hview.events.symm
        pending := (hview'.pending.trans h.pending).trans hview.pending.symm
        backend := hown.backend
        drives := fun session hf => h.drives session (hview.session ▸ hf)
        inside := fun goal hf => h.inside goal (hview.goal ▸ hf)
        model := fun group hf => h.model group (hview.fixed.groups ▸ hf) }
  · exact h.move (ht.sameView hid fun session hf => (hstored session hf).trans_ne (Ne.symm hendpoint))
      (ht'.sameView hid fun session hf => (hstored' session hf).trans_ne (Ne.symm hendpoint))
      hown.backend

section
variable {view : String → β → ν} {e₀ : β} {p₀ : CommandPipeline β} {winners : List String}
  {group : String}
  (hsep : ∀ driver, Driver p₀ winners group driver →
    Separate B driver.sessionId group (view driver.sessionId))
include hsep

/-- The turn of a winner that drives another group: the drivers of the group see nothing of it. -/
theorem otherTurn_spec {ctx : TickContext} {id : String} {s : TickState β} (joints : String → Prop)
    (hsound : Sound p₀) (hs : Staged p₀ s) (hwins : id ∈ winners)
    (hid : ∀ driver, Driver p₀ winners group driver → driver.sessionId ≠ id) :
    Prog.wp (turn B lib ctx id) (fun _ t => Turn B lib ctx id s t ∧
      (∀ driver, Driver p₀ winners group driver → (laneOf driver joints).SameView s t) ∧
      shownOf (Driver p₀ winners group) view t.pipeline.backend =
        shownOf (Driver p₀ winners group) view s.pipeline.backend) (fun _ _ => False) s := by
  have hturn : Prog.wp (turn B lib ctx id) (fun _ t => Turn B lib ctx id s t) (fun _ _ => False) s :=
    turn_turn fun session hf => hs.sound.sessionOk id session hf
  cases hfound : s.pipeline.sessions[id]? with
  | none =>
    refine hturn.imp (fun _ t ht => ⟨ht, ?_⟩) fun _ _ h => h
    rw [ht.eq_of_none hfound]
    exact ⟨fun _ _ => .refl s, rfl⟩
  | some session =>
    obtain rfl : session.sessionId = id := (hs.sound.sessionOk id session hfound).key
    obtain ⟨old, hold, hsame⟩ := hs.descends _ session hfound
    have hgroup : session.groupName ≠ group := by
      intro heq
      have hkey : old.sessionId = session.sessionId := hsame.sessionId.symm
      refine hid old ⟨hkey ▸ hwins, hkey ▸ hold, ?_⟩ hkey
      rw [← hsame.groupName, heq]
    have hpaired := paired_diagonal (B := B)
      (fun hcall => shownOf_others hsep (fun driver hd => Ne.symm (hid driver hd)) hgroup hcall)
      (shownOf_steadyNow hsep) (shownOf (Driver p₀ winners group) view s.pipeline.backend)
    have hself : (laneOf session fun _ => True).Alike
        (fun e e' => e' = e ∧ shownOf (Driver p₀ winners group) view e =
          shownOf (Driver p₀ winners group) view s.pipeline.backend) s s :=
      alike_self hs.sound hfound (fun _ _ => trivial) (fun _ _ => trivial)
        (fun _ _ _ _ => trivial) ⟨rfl, rfl⟩
    have hlane := (turn_inLane (L := laneOf session fun _ => True) hpaired
      (SameInputs.refl lib _ ctx)).diagonal hself
    refine (hturn.and hlane).imp (fun _ t => ?_) fun _ _ h => h.1
    rintro ⟨ht, halike⟩
    refine ⟨ht, fun driver hd => ht.sameView (hid driver hd) fun stored hf => ?_, halike.backend.2⟩
    obtain rfl : session = stored := Option.some.inj (hfound.symm.trans hf)
    rw [hsame.endpointName]
    refine hsound.endpoints_ne hold hd.stored ?_
    rw [← hsame.groupName, hd.group]
    exact hgroup

variable (hclock : ClockStands B e₀) {joints : String → Prop} {ctx ctx' : TickContext}
  (hctx : SameInputs lib joints ctx ctx') (hsound : Sound p₀)
include hclock hctx hsound

/-- One turn in both runs: a driver's own, or one that no driver sees. -/
theorem turn_isolated {id : String} (hwins : id ∈ winners) :
    Lockstep (fun s s' => (∀ driver, Driver p₀ winners group driver → (laneOf driver joints).Alike
          (Shows B (shownOf (Driver p₀ winners group) view) e₀) s s') ∧ Staged p₀ s ∧ Staged p₀ s')
      (fun _ s s' => (∀ driver, Driver p₀ winners group driver → (laneOf driver joints).Alike
          (Shows B (shownOf (Driver p₀ winners group) view) e₀) s s') ∧ Staged p₀ s ∧ Staged p₀ s')
      (fun _ _ _ => True) (turn B lib ctx id) (turn B lib ctx' id) := by
  rintro s s' ⟨h, hs, hs'⟩
  by_cases hdriver : ∃ driver, Driver p₀ winners group driver ∧ driver.sessionId = id
  · obtain ⟨driver, hd, rfl⟩ := hdriver
    have hturn : Prog.wp (turn B lib ctx driver.sessionId)
        (fun _ t => Turn B lib ctx driver.sessionId s t) (fun _ _ => True) s :=
      turn_turn fun session hf => hs.sound.sessionOk _ session hf
    have hturn' : Prog.wp (turn B lib ctx' driver.sessionId)
        (fun _ t => Turn B lib ctx' driver.sessionId s' t) (fun _ _ => True) s' :=
      turn_turn fun session hf => hs'.sound.sessionOk _ session hf
    have hpaired : Paired B driver.sessionId driver.groupName
        (Shows B (shownOf (Driver p₀ winners group) view) e₀) :=
      paired_of_shows (fun hcall => shownOf_own hsep hd (hd.group ▸ hcall)) (shownOf_steadyNow hsep)
        hclock
    have hown := turn_inLane (L := laneOf driver joints) hpaired hctx s s' (h driver hd)
    refine (hown.and_wp hturn hturn').imp ?_ fun _ _ _ _ => trivial
    rintro _ t t' ⟨halike, ht, ht'⟩
    refine ⟨fun other hother => ?_, hs.turn ht, hs'.turn ht'⟩
    by_cases hid : other.sessionId = driver.sessionId
    · have hstored := hother.stored
      rw [hid, hd.stored] at hstored
      cases hstored
      exact halike
    · have hdrives := (h driver hd).drives
      refine alike_beside (L := laneOf driver joints) (h other hother) hid halike
        (fun session hf => (hdrives session hf).endpoint) (fun session hf => ?_) ht ht'
      rw [(h driver hd).session] at hf
      exact (hdrives session hf).endpoint
  · have hid : ∀ driver, Driver p₀ winners group driver → driver.sessionId ≠ id :=
      fun driver hd heq => hdriver ⟨driver, hd, heq⟩
    refine Aligned.of_wp (otherTurn_spec hsep joints hsound hs hwins hid)
      (otherTurn_spec hsep joints hsound hs' hwins hid) ?_
    rintro t t' ⟨ht, hview, hbackend⟩ ⟨ht', hview', hbackend'⟩
    refine ⟨fun driver hd => ?_, hs.turn ht, hs'.turn ht'⟩
    have hshows := (h driver hd).backend
    refine (h driver hd).move (hview driver hd) (hview' driver hd) ⟨?_, ?_, ?_⟩
    · have helems : Elems B (.tick ctx.feedback ctx.now) s t := ht.elems rfl
      exact hshows.1.trans helems.calls
    · have helems : Elems B (.tick ctx'.feedback ctx'.now) s' t' := ht'.elems rfl
      exact hshows.2.1.trans helems.calls
    · rw [hbackend', hbackend, hshows.2.2]

theorem turns_isolated :
    Lockstep (fun s s' => (∀ driver, Driver p₀ winners group driver → (laneOf driver joints).Alike
          (Shows B (shownOf (Driver p₀ winners group) view) e₀) s s') ∧ Staged p₀ s ∧ Staged p₀ s')
      (fun _ s s' => ∀ driver, Driver p₀ winners group driver → (laneOf driver joints).Alike
          (Shows B (shownOf (Driver p₀ winners group) view) e₀) s s')
      (fun _ _ _ => True) (winners.forM (turn B lib ctx)) (winners.forM (turn B lib ctx')) := by
  refine (Lockstep.forM (fun rest s s' => (∀ id ∈ rest, id ∈ winners) ∧
    (∀ driver, Driver p₀ winners group driver → (laneOf driver joints).Alike
      (Shows B (shownOf (Driver p₀ winners group) view) e₀) s s') ∧ Staged p₀ s ∧ Staged p₀ s')
    (fun id rest => ?_) winners).imp
    (fun s s' h => ⟨fun _ hid => hid, h⟩) (fun _ s s' h => h.2.1) fun _ _ _ h => h
  refine .knowing fun hrest => ((turn_isolated hsep hclock hctx hsound
    (hrest id List.mem_cons_self)).imp (fun _ _ h => h) (fun _ s s' h => ?_) fun _ _ _ h => h)
  exact ⟨fun k hk => hrest k (List.mem_cons_of_mem _ hk), h⟩

end

/-! ## The closing -/

theorem commandsOf_filter (id : String) (finishedAt : SteadyTime) (commands : List JointCommand) :
    commandsOf id (commands.filter fun command => !commandLate finishedAt command) =
      (commandsOf id commands).filter fun command => !commandLate finishedAt command := by
  have hlate : ∀ command : JointCommand,
      commandLate finishedAt command.untokened = commandLate finishedAt command := fun _ => rfl
  unfold commandsOf
  rw [List.filter_map, List.filter_filter, List.filter_filter]
  simp only [Function.comp_def, hlate, Bool.and_comm]

/-- Some late command is one of the lane. -/
theorem any_late (id : String) (finishedAt : SteadyTime) (commands : List JointCommand) :
    (commands.filter (commandLate finishedAt)).any (fun command => command.sessionId == id) =
      (commandsOf id commands).any (commandLate finishedAt) := by
  have hlate : ∀ command : JointCommand,
      commandLate finishedAt command.untokened = commandLate finishedAt command := fun _ => rfl
  unfold commandsOf
  rw [List.any_map, List.any_filter, List.any_filter]
  simp only [Function.comp_def, hlate, Bool.and_comm]

theorem Separate.stop {id group : String} {view : β → ν} (h : Separate B id group view) {k : String}
    (hk : k ≠ id) : Unseen view fun e => B.stopSession e k := by
  obtain ⟨other, hother⟩ := exists_ne group
  exact h.others hk hother .stopSession

/-- The session of the lane is ended when one of its commands is late. -/
def endedBy (B : Platform β) (L : Lane) (s : TickState β) (late : List JointCommand) :
    TickState β :=
  if late.any fun command => command.sessionId == L.id then
    s.withPipeline (s.pipeline.terminate B L.id .aborted expiredWhileComputing)
  else s

section
variable {view : β → ν} (hsep : Separate B L.id L.group view)
include hsep

/-- Of all the sessions with late commands, the lane sees its own. -/
theorem endLate_alike (late : List JointCommand) : ∀ {s : TickState β},
    L.Alike (fun e e' => view e' = view e) s s →
    L.Alike (fun e e' => view e' = view e) (endedBy B L s late)
      (s.withPipeline (late.foldl (fun p command =>
        p.terminate B command.sessionId .aborted expiredWhileComputing) s.pipeline)) := by
  induction late with
  | nil => exact fun h => h
  | cons command late ih =>
    intro s h
    set s₁ := s.withPipeline (s.pipeline.terminate B command.sessionId .aborted expiredWhileComputing)
      with hs₁
    by_cases hid : command.sessionId = L.id
    · have hown := alike_terminate h (hsep.own .stopSession) .aborted expiredWhileComputing false
      rw [← hid, ← hs₁] at hown
      have hended : endedBy B L s (command :: late) = s₁ := by
        simp [endedBy, hid, hs₁]
      -- once ended, the session is not ended again
      have hnone : s₁.pipeline.sessions[L.id]? = none := by
        simp [hs₁, TickState.withPipeline, hid]
      have hagain : L.SameView s₁ (endedBy B L s₁ late) ∧
          (endedBy B L s₁ late).pipeline.backend = s₁.pipeline.backend := by
        unfold endedBy
        split
        · rw [CommandPipeline.terminate_none _ _ _ _ _ hnone]
          exact ⟨⟨rfl, rfl, rfl, rfl, ⟨rfl, rfl, rfl, rfl⟩, rfl, rfl, rfl⟩, rfl⟩
        · exact ⟨.refl _, rfl⟩
      rw [hended]
      have hrest := ih hown
      have hbackend := hrest.backend
      rw [hagain.2] at hbackend
      exact hrest.move hagain.1.symm (.refl _) hbackend
    · have hview : L.SameView s s₁ := terminate_sameView s (Ne.symm hid) _ _ _
      have hbackend : view s₁.pipeline.backend = view s.pipeline.backend := by
        simp only [hs₁, TickState.withPipeline, CommandPipeline.terminate_backend]
        split
        · exact hsep.stop hid _
        · rfl
      have hself : L.Alike (fun e e' => view e' = view e) s₁ s₁ := h.move hview hview rfl
      have hboth : L.Alike (fun e e' => view e' = view e) s s₁ := h.move (.refl s) hview hbackend
      have hended : L.Alike (fun e e' => view e' = view e) (endedBy B L s (command :: late))
          (endedBy B L s₁ late) := by
        have hany : (command :: late).any (fun command => command.sessionId == L.id) =
            late.any fun command => command.sessionId == L.id := by simp [hid]
        unfold endedBy
        rw [hany]
        split
        · exact alike_terminate hboth (hsep.own .stopSession) _ _ _
        · exact hboth
      have hrest := ih hself
      exact hended.move (.refl _) hrest.toSameView (hrest.backend.trans hended.backend)

/-- The recheck of the batch and the last move of the queued events. -/
theorem finish_sameView {s s' : TickState β} (h : L.Alike (fun e e' => view e' = view e) s s')
    (finishedAt : SteadyTime) :
    L.SameView (dropLate B s finishedAt).flush (dropLate B s' finishedAt).flush := by
  have hself : L.Alike (fun e e' => view e' = view e) s s := h.move (.refl _) h.symm rfl
  have hself' : L.Alike (fun e e' => view e' = view e) s' s' := h.move h.toSameView (.refl _) rfl
  have hleft := endLate_alike hsep (s.commands.filter (commandLate finishedAt)) hself
  have hright := endLate_alike hsep (s'.commands.filter (commandLate finishedAt)) hself'
  have hended : L.Alike (fun e e' => view e' = view e)
      (endedBy B L s (s.commands.filter (commandLate finishedAt)))
      (endedBy B L s' (s'.commands.filter (commandLate finishedAt))) := by
    unfold endedBy
    rw [any_late, any_late, h.commands]
    split
    · exact alike_terminate h (hsep.own .stopSession) _ _ _
    · exact h
  have hview := (hleft.symm.trans hended.toSameView).trans hright.toSameView
  exact
    { session := hview.session
      goal := hview.goal
      monitorConfig := hview.monitorConfig
      retry := hview.retry
      fixed := ⟨hview.fixed.groups, hview.fixed.endpoints, hview.fixed.config, hview.fixed.period⟩
      commands := by
        have hcommands := h.commands
        simp only [TickState.flush, dropLate, commandsOf_filter, hcommands]
      events := by
        have hevents := h.events
        have hpending := hview.pending
        simp only [eventsOf, TickState.withPipeline] at hevents hpending
        simp only [TickState.flush, dropLate, eventsOf, List.filter_append, hevents, hpending]
      pending := rfl }

end

/-! ## The recorded platform -/

theorem CallFor.recorded {id group : String} {α : Type} {f : β × List Call → α × (β × List Call)}
    (h : CallFor B.recorded id group α f) : ∃ g, CallFor B id group α g ∧
      ∀ e, (f e).1 = (g e.1).1 ∧ (f e).2.1 = (g e.1).2 := by
  cases h with
  | startSession request feedback period =>
    exact ⟨_, .startSession request feedback period, fun _ => ⟨rfl, rfl⟩⟩
  | tickSession target period => exact ⟨_, .tickSession target period, fun _ => ⟨rfl, rfl⟩⟩
  | stopSession => exact ⟨_, .stopSession, fun _ => ⟨rfl, rfl⟩⟩
  | reset feedback => exact ⟨_, .reset feedback, fun _ => ⟨rfl, rfl⟩⟩
  | rebase state => exact ⟨_, .rebase state, fun _ => ⟨rfl, rfl⟩⟩
  | update candidate period => exact ⟨_, .update candidate period, fun _ => ⟨rfl, rfl⟩⟩
  | kinematics request h => exact ⟨_, .kinematics request h, fun _ => ⟨rfl, rfl⟩⟩

theorem Separate.recorded {id group : String} {view : β → ν} (h : Separate B id group view) :
    Separate B.recorded id group fun e => view e.1 where
  own := fun {α f} hcall e e' he => by
    obtain ⟨g, hg, hsame⟩ := hcall.recorded
    obtain ⟨hanswer, hview⟩ := h.own hg e.1 e'.1 he
    change _ ∧ view (f e').2.1 = view (f e).2.1
    rw [(hsame e).1, (hsame e').1, (hsame e).2, (hsame e').2]
    exact ⟨hanswer, hview⟩
  others := fun {k other α f} hk hg hcall e => by
    obtain ⟨g, hother, hsame⟩ := hcall.recorded
    change view (f e).2.1 = view e.1
    rw [(hsame e).2]
    exact h.others hk hg hother e.1
  steadyNow e := h.steadyNow e.1

theorem Calls.recorded {e e' : β × List Call} (h : Calls B.recorded e e') : Calls B e.1 e'.1 := by
  induction h with
  | refl => exact .refl _
  | tail _ hcall ih =>
    refine ih.trans (AnyCall.calls ?_)
    cases hcall with
    | quiet _ hquiet =>
      refine .quiet _ _ ?_
      cases hquiet with
      | steadyNow => exact .steadyNow _
      | tickSession id target period => exact .tickSession _ id target period
      | resetFinalJointTarget group feedback => exact .resetFinalJointTarget _ group feedback
      | rebaseFinalJointTarget group state => exact .rebaseFinalJointTarget _ group state
      | updateFinalJointTarget group candidate period =>
        exact .updateFinalJointTarget _ group candidate period
      | forwardKinematics request => exact .forwardKinematics _ request
    | startSession id request feedback period => exact .startSession _ id request feedback period
    | stopSession id => exact .stopSession _ id

theorem ClockStands.recorded {e : β × List Call} (h : ClockStands B e.1) : ClockStands B.recorded e :=
  fun _ hcalls => h _ hcalls.recorded

/-! ## The tick -/

section
variable {e₀ : β × List Call} {apart : Prop} {s : CommandPipeline (β × List Call)} {session : Session}
  (hsound : Sound s) (htables : Tables apart B.logged e₀ s) (htargets : TargetsInside s)
  (hgoals : GoalsInside s)
include hsound htables htargets hgoals

/-- The state in which the first winner has its turn, set beside itself. -/
theorem tickOpened_alike (hfound : s.sessions[session.sessionId]? = some session)
    (feedback : JointFeedback) (now : SteadyTime) {ρ : β × List Call → β × List Call → Prop}
    (hρ : ρ (s.tickOpened B.recorded now).pipeline.backend
      (s.tickOpened B.recorded now).pipeline.backend) :
    (laneOf session (· ∈ session.jointNames)).Alike ρ (s.tickOpened B.recorded now)
      (s.tickOpened B.recorded now) := by
  have hclient : ∀ stored, (s.tickOpened B.recorded now).pipeline.sessions[session.sessionId]? =
      some stored → session.SameClient stored := by
    intro stored hstored
    obtain ⟨old, hold, hsame⟩ :=
      tickOpened_descends (B := B.recorded) hsound feedback now _ stored hstored
    obtain rfl : session = old := Option.some.inj (hfound.symm.trans hold)
    exact hsame
  have hinside : GoalsInside (s.tickOpened B.recorded now).pipeline :=
    (hgoals.inherits (inherits_tickOpening s now)).inherits (inherits_opened _ _ _)
  refine alike_lane hclient (fun _ hj => hj) (htargets _ session hfound) (fun goal hgoal joint hj => ?_)
    (fun group hgroup joint hj => ?_) hρ
  · obtain ⟨stored, hstored, -⟩ :=
      ((tickOpened_tables htables now).rows session.sessionId).goal goal hgoal
    rw [← (hclient stored hstored).jointNames]
    exact hinside _ goal hgoal stored hstored joint hj
  · have hgroups : (s.tickOpened B.recorded now).pipeline.groups = s.groups :=
      (tickStarted_elems hsound feedback now _).groups
    obtain ⟨model, hmodel, hnames, -⟩ := (hsound.sessionOk _ session hfound).group
    rw [hgroups, hmodel] at hgroup
    cases hgroup
    exact hnames ▸ hj

variable (lib) in
/-- Two ticks whose feedback agrees on the joints of a group end in states that the lane of a driver
of the group cannot tell apart. -/
theorem tick_sameView {now : SteadyTime} {group : JointGroupModel} {name : String}
    (hgroup : s.groups[name]? = some group)
    (hdriver : Driver s (s.tickArbitration B.recorded now).winnerSessionIds name session)
    {feedback feedback' : JointFeedback} (hs : feedback.Structural) (hs' : feedback'.Structural)
    (hagree : AgreeOn group.jointNames feedback feedback') (hclock : ClockStands B s.backend.1)
    {view : String → β → ν}
    (hsep : ∀ driver, Driver s (s.tickArbitration B.recorded now).winnerSessionIds name driver →
      Separate B driver.sessionId name (view driver.sessionId)) :
    ∃ t t' : TickState (β × List Call),
      s.tick B.recorded lib feedback now =
        (.ok { commands := t.commands, events := t.events }, t.pipeline) ∧
      s.tick B.recorded lib feedback' now =
        (.ok { commands := t'.commands, events := t'.events }, t'.pipeline) ∧
      (laneOf session (· ∈ group.jointNames)).SameView t t' := by
  obtain ⟨t, hturned, htick⟩ := tick_turned B.recorded lib s feedback now hsound
  obtain ⟨t', hturned', htick'⟩ := tick_turned B.recorded lib s feedback' now hsound
  refine ⟨_, _, htick, htick', ?_⟩
  set ctx := s.tickContext B.recorded feedback now with hctx
  set ctx' := s.tickContext B.recorded feedback' now with hctx'
  set winners := (s.tickArbitration B.recorded now).winnerSessionIds with hwinners
  have hinputs : SameInputs lib (· ∈ group.jointNames) ctx ctx' :=
    hagree.inputs hs hs' rfl rfl rfl rfl rfl
  have hopened := tickStarted_elems (B := B.recorded) hsound feedback now winners
  have hstaged : Staged s (s.tickOpened B.recorded now) :=
    ⟨hopened.sound hsound, tickOpened_descends hsound feedback now⟩
  let shown : String → β × List Call → ν := fun id e => view id e.1
  have hrecorded : ∀ driver, Driver s winners name driver →
      Separate B.recorded driver.sessionId name (shown driver.sessionId) :=
    fun driver hd => (hsep driver hd).recorded
  -- every driver of the group has the joints of the group
  have hstart : ∀ driver, Driver s winners name driver → (laneOf driver (· ∈ group.jointNames)).Alike
      (Shows B.recorded (shownOf (Driver s winners name) shown) s.backend)
      (s.tickOpened B.recorded now) (s.tickOpened B.recorded now) := by
    intro driver hd
    obtain ⟨model, hmodel, hnames, -⟩ := (hsound.sessionOk _ driver hd.stored).group
    rw [hd.group, hgroup] at hmodel
    cases hmodel
    rw [hnames]
    exact tickOpened_alike hsound htables htargets hgoals hd.stored feedback now
      ⟨hopened.calls, hopened.calls, rfl⟩
  have hturns := turns_isolated hrecorded hclock.recorded hinputs hsound _ _ ⟨hstart, hstaged, hstaged⟩
  have hend : (laneOf session (· ∈ group.jointNames)).Alike
      (Shows B.recorded (shownOf (Driver s winners name) shown) s.backend) t t' := by
    change Turned B.recorded lib ctx _ (s.tickOpened B.recorded now) t at hturned
    change Turned B.recorded lib ctx' _ (s.tickOpened B.recorded now) t' at hturned'
    unfold Turned at hturned hturned'
    rw [hturned, hturned'] at hturns
    cases hturns with
    | ok _ _ _ h => exact h session hdriver
  -- both closings read the same time
  obtain ⟨hread, hread', hshown⟩ := hend.backend
  have hview : view session.sessionId t'.pipeline.backend.1 =
      view session.sessionId t.pipeline.backend.1 := congrFun hshown ⟨session, hdriver⟩
  have hseparate : Separate B.recorded session.sessionId session.groupName
      (shown session.sessionId) := hdriver.group ▸ hrecorded session hdriver
  have hsame : (B.recorded.steadyNow t'.pipeline.backend).1 =
      (B.recorded.steadyNow t.pipeline.backend).1 :=
    (hclock.recorded _ hread').trans (hclock.recorded _ hread).symm
  have hclosing : (laneOf session (· ∈ group.jointNames)).Alike
      (fun e e' => view session.sessionId e'.1 = view session.sessionId e.1)
      (t.withBackend (B.recorded.steadyNow t.pipeline.backend).2)
      (t'.withBackend (B.recorded.steadyNow t'.pipeline.backend).2) := by
    refine alike_withBackend
      (ρ := fun e e' => view session.sessionId e'.1 = view session.sessionId e.1)
      ⟨hend.toSameView, hview, hend.drives, hend.inside, hend.model⟩ ?_
    exact (hseparate.steadyNow _).trans (hview.trans (hseparate.steadyNow _).symm)
  have hfinish := finish_sameView hseparate hclosing
    (ctx.now + ((B.recorded.steadyNow t.pipeline.backend).1 - ctx.enteredAt))
  have hclosed' : closed B.recorded ctx' t' = (dropLate B.recorded
      (t'.withBackend (B.recorded.steadyNow t'.pipeline.backend).2)
      (ctx.now + ((B.recorded.steadyNow t.pipeline.backend).1 - ctx.enteredAt))).flush := by
    rw [← hsame, ← hinputs.now, ← hinputs.enteredAt]
    rfl
  rw [hclosed']
  exact hfinish

end

theorem run_goalsInside (B : Platform β) (lib : MathLib) (e : β) (groups : List JointGroupModel)
    (config : CommandPipelineConfig) (ops : List Op) :
    let s := (machine B.recorded lib).run (CommandPipeline.create (e, []) groups config) ops
    Sound s ∧ Tables False B.logged (e, []) s ∧ TargetsInside s ∧ GoalsInside s := by
  refine Machine.run_invariant (M := machine B.recorded lib) (I := fun s => Sound s ∧
    Tables False B.logged (e, []) s ∧ TargetsInside s ∧ GoalsInside s)
    (fun s op h _ => ⟨exec_sound s h.1 op, exec_tables (S := B.logged) lib h.1 h.2.1 op False.elim,
      exec_targets lib h.1 h.2.2.1 op,
      exec_goalsInside (S := B.logged) lib h.1 h.2.1 h.2.2.1 h.2.2.2 op⟩)
    ⟨Initial.sound ⟨_, _, _, rfl⟩, create_tables groups config (B.logged_fresh e),
      fun id session hs => ?_, fun id goal hg => ?_⟩ (Machine.meets_true _ ops)
  · simp [CommandPipeline.create] at hs
  · simp [CommandPipeline.create] at hg

/-- In every state of every run, over any SDK that answers the calls for a session that drives the
group, and for the group, by what it shows of the two: two ticks whose feedback agrees on the joints
of the group give each winner that drives it the same command, the same events and the same state. -/
theorem tick_isolated (B : Platform β) (lib : MathLib) (e : β) (groups : List JointGroupModel)
    (config : CommandPipelineConfig) (ops : List Op) {feedback feedback' : JointFeedback}
    (hs : feedback.Structural) (hs' : feedback'.Structural) (now : SteadyTime) {id : String}
    {session : Session} {group : JointGroupModel} (view : String → β → ν) :
    let s := (machine B.recorded lib).run (CommandPipeline.create (e, []) groups config) ops
    let winners := (s.tickArbitration B.recorded now).winnerSessionIds
    s.sessions[id]? = some session → s.groups[session.groupName]? = some group → id ∈ winners →
    AgreeOn group.jointNames feedback feedback' → ClockStands B s.backend.1 →
    (∀ driver, Driver s winners session.groupName driver →
      Separate B driver.sessionId session.groupName (view driver.sessionId)) →
    let ticked := exec B.recorded lib s (.tick feedback now)
    let ticked' := exec B.recorded lib s (.tick feedback' now)
    commandsOf id ticked'.1.commands = commandsOf id ticked.1.commands ∧
      eventsOf id ticked'.1.events = eventsOf id ticked.1.events ∧
      ticked'.2.sessions[id]? = ticked.2.sessions[id]? ∧
      ticked'.2.monitor.goals[id]? = ticked.2.monitor.goals[id]? ∧
      ticked'.2.servoRetryAfter[session.endpointName]? =
        ticked.2.servoRetryAfter[session.endpointName]? := by
  intro s winners hfound hgroup hwins hagree hclock hsep ticked ticked'
  obtain ⟨hsound, htables, htargets, hgoals⟩ := run_goalsInside B lib e groups config ops
  obtain rfl : session.sessionId = id := (hsound.sessionOk id session hfound).key
  obtain ⟨t, t', htick, htick', hview⟩ := tick_sameView lib hsound htables htargets hgoals hgroup
    ⟨hwins, hfound, rfl⟩ hs hs' hagree hclock hsep
  have hticked : ticked = (.ticked { commands := t.commands, events := t.events }, t.pipeline) := by
    simp only [ticked, exec]
    rw [htick]
  have hticked' : ticked' =
      (.ticked { commands := t'.commands, events := t'.events }, t'.pipeline) := by
    simp only [ticked', exec]
    rw [htick']
  rw [hticked, hticked']
  exact ⟨hview.commands, hview.events, hview.session, hview.goal, hview.retry⟩

/-! ## The test double -/

namespace FakeSdk

/-- What the double knows of a session and its group. -/
def shown (id group : String) (e : FakeSdk) :
    Option (SessionRequest × JointFeedback) × Option JointCommand × FakeSdk :=
  (e.active[id]?, e.finalOverrides[group]?, { e with active := ∅, finalOverrides := ∅ })

/-- The double keeps sessions and groups apart. -/
theorem separate (id group : String) : Separate platform.toPlatform id group (shown id group) where
  own := fun {α f} hcall e e' he => by
    rcases e with ⟨active, start, reset, rebase, final, fk, pose, reached, bypass, fails, candidates,
      finals, rebased, clock⟩
    rcases e' with ⟨active', start', reset', rebase', final', fk', pose', reached', bypass', fails',
      candidates', finals', rebased', clock'⟩
    simp only [shown, Prod.mk.injEq, FakeSdk.mk.injEq, true_and] at he
    obtain ⟨hactive, hfinals, rfl, rfl, rfl, rfl, rfl, rfl, rfl, rfl, rfl, rfl, rfl, rfl⟩ := he
    cases hcall with
    | startSession request feedback period =>
      simp only [platform, startSession]
      split <;> simp [shown, hactive, hfinals]
    | tickSession target period =>
      simp only [platform, tickSession, hactive]
      split
      · simp [shown, hactive, hfinals]
      · split <;> simp [shown, hactive, hfinals]
    | rebase state =>
      simp only [platform, rebaseFinalJointTarget]
      split
      · split <;> simp [shown, hactive, hfinals]
      · simp [shown, hactive, hfinals]
    | update candidate period =>
      simp only [platform, updateFinalJointTarget, hfinals]
      split <;> simp [shown, hactive, hfinals]
    | _ => simp [platform, shown, hactive, hfinals]
  others := fun {k other α f} hk hg hcall e => by
    cases hcall with
    | startSession request feedback period =>
      simp only [platform, startSession]
      split
      · rfl
      · simp [shown, Std.TreeMap.getElem?_insert, hk]
    | tickSession target period =>
      simp only [platform, tickSession]
      split
      · rfl
      · split <;> rfl
    | stopSession => simp [platform, shown, Std.TreeMap.getElem?_erase, hk]
    | rebase state =>
      simp only [platform, rebaseFinalJointTarget]
      split
      · split
        · simp [shown, Std.TreeMap.getElem?_insert, hg]
        · rfl
      · rfl
    | update candidate period =>
      simp only [platform, updateFinalJointTarget]
      split <;> rfl
    | _ => rfl
  steadyNow _ := rfl

theorem clockStands (e : FakeSdk) : ClockStands platform.toPlatform e := by
  intro e' hcalls
  induction hcalls with
  | refl => rfl
  | tail _ hcall ih =>
    rw [← ih]
    cases hcall with
    | quiet _ hquiet =>
      cases hquiet with
      | tickSession id target period =>
        simp only [platform, tickSession]
        split
        · rfl
        · split <;> rfl
      | rebaseFinalJointTarget group state =>
        simp only [platform, rebaseFinalJointTarget]
        split
        · split <;> rfl
        · rfl
      | updateFinalJointTarget group command period =>
        simp only [platform, updateFinalJointTarget]
        split <;> rfl
      | _ => rfl
    | startSession id request feedback period =>
      simp only [platform, startSession]
      split <;> rfl
    | stopSession => rfl

end FakeSdk

namespace Fixture

/-- The right arm reports positions far outside its limits. -/
def faultyRight : JointFeedback :=
  ⟨leftJoints ++ rightJoints, [0, 0, 100, 100], [0, 0, 0, 0], milliseconds 1⟩

theorem faultyRight_agrees : AgreeOn leftJoints (feedback 1) faultyRight := by
  refine ⟨rfl, rfl, fun i name hi hname => ?_, fun _ _ _ _ => rfl⟩
  match i with
  | 0 | 1 => rfl
  | 2 | 3 =>
    cases hi
    simp [leftJoints] at hname
  | i + 4 => rfl

end Fixture

open Fixture in
/-- The left arm gets the command it gets when the right arm is well. -/
theorem tick_isolated_faultyRight :
    let s := (machine FakeSdk.platform.toPlatform.recorded mathLib).run
      (CommandPipeline.create ({}, []) allGroups {}) bothArms
    commandsOf "l" (exec FakeSdk.platform.toPlatform.recorded mathLib s
        (.tick faultyRight (milliseconds 1))).1.commands =
      commandsOf "l" (exec FakeSdk.platform.toPlatform.recorded mathLib s
        (.tick (feedback 1) (milliseconds 1))).1.commands := by
  intro s
  have hstored : (s.sessions["l"]?).isSome = true := by decide +kernel
  have hnamed : (s.sessions["l"]?).map (·.groupName) = some "left" := by decide +kernel
  obtain ⟨session, hfound⟩ := Option.isSome_iff_exists.1 hstored
  rw [hfound] at hnamed
  have hgroup : s.groups[session.groupName]? = some (group "left" leftJoints) := by
    rw [show session.groupName = "left" from Option.some.inj hnamed]
    decide +kernel
  exact (tick_isolated FakeSdk.platform.toPlatform mathLib {} allGroups {} bothArms
    (show (feedback 1).Structural from ⟨rfl, rfl, by decide, by decide, by decide, by decide⟩)
    (show faultyRight.Structural from ⟨rfl, rfl, by decide, by decide, by decide, by decide⟩)
    (milliseconds 1) (fun id => FakeSdk.shown id session.groupName) hfound hgroup (by decide +kernel) faultyRight_agrees
    (FakeSdk.clockStands _) fun driver _ => FakeSdk.separate driver.sessionId session.groupName).1

end HumanoidMotion
