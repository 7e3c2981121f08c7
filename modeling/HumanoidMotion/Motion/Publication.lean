import HumanoidMotion.Motion.FakeSdk
import HumanoidMotion.Motion.Permits
/-
# At most one hand-over of each command

`publishCommand` and `publishCommands` hand a command out while it holds the
permits of all its joints, and take these permits with them.

* `Held` — what `validatePublicationLocked` insists on.
* `exec_handed` — a call hands out no revoked command, and revokes what it hands out.
* `handed_at_most_once` — the two together, over every run.
-/

namespace HumanoidMotion

variable {β : Type} {B : Platform β} {lib : MathLib}

/-- The command has joints, and each of them carries its permit. -/
def Held (p : CommandPipeline β) (command : JointCommand) : Prop :=
  command.jointNames.isEmpty = false ∧ p.holdsPermits command = true

theorem Held.not_revoked {p : CommandPipeline β} {command : JointCommand} (h : Held p command) :
    ¬ Revoked p command := by
  rintro ⟨-, hempty | hlost⟩
  · rw [h.1] at hempty; cases hempty
  · rw [h.2] at hlost; cases hlost

/-- The token of a held command has been issued. -/
theorem Held.token {p : CommandPipeline β} {command : JointCommand} (h : Held p command)
    (hissued : PermitsIssued p) : command.publicationToken < p.nextPublicationToken := by
  obtain ⟨joint, hj⟩ := List.isEmpty_eq_false_iff_exists_mem.1 h.1
  exact hissued.permits joint _ ((holdsPermits_iff p command).1 h.2 joint hj)

/-- An accepted command holds its permits, and its time has not passed. -/
theorem validatePublication_accepted {p : CommandPipeline β} {command : JointCommand}
    {now : SteadyTime} (h : (p.validatePublicationLocked B command now).1 = true) :
    Held p command ∧ (∃ limit, command.validUntil = some limit ∧ now < limit) ∧
      (p.validatePublicationLocked B command now).2 = p := by
  unfold CommandPipeline.validatePublicationLocked at h ⊢
  split at h
  · cases h
  · rename_i hopen
    simp only [Bool.or_eq_true, Bool.not_eq_true', not_or, Bool.not_eq_false,
      Bool.not_eq_true] at hopen
    split at h
    · rename_i htime
      rw [if_neg (by simp [hopen]), if_pos htime]
      exact ⟨⟨hopen.1.2, hopen.2⟩, by simpa [Option.any_eq_true] using htime, rfl⟩
    · cases h

/-! ## What the approval loop hands out -/

/-- The publications the loop adds: commands of the batch, in order, each held when it was
approved. -/
theorem foldl_approve (enteredAt now : SteadyTime) :
    ∀ (commands : List JointCommand) (state : List Publication × CommandPipeline β),
      PermitsIssued state.2 → ∃ new,
        (commands.foldl (CommandPipeline.approve B enteredAt now) state).1 = state.1 ++ new ∧
        (new.map (·.command)).Sublist commands ∧
        ∀ pub ∈ new, ¬ Revoked state.2 pub.command ∧ pub.command.jointNames.isEmpty = false ∧
          pub.command.publicationToken < (commands.foldl (CommandPipeline.approve B enteredAt now)
            state).2.nextPublicationToken
  | [], _, _ => ⟨[], by simp, by simp, by simp⟩
  | c :: cs, state, hissued => by
    set next := CommandPipeline.approve B enteredAt now state c with hnext
    have hstep : Elems B (.publishCommands [] now) { pipeline := state.2 } { pipeline := next.2 } :=
      approve_elems state.2 enteredAt now state.1 c
    obtain ⟨new, happ, hsub, hnew⟩ := foldl_approve enteredAt now cs next
      (PermitsIssued.of_issued (hstep.issued hissued))
    have hrest : Elems B (.publishCommands [] now) { pipeline := next.2 }
        { pipeline := (cs.foldl (CommandPipeline.approve B enteredAt now) next).2 } :=
      foldl_approve_elems enteredAt now cs next
    have hlater : ∀ pub ∈ new, ¬ Revoked state.2 pub.command ∧
        pub.command.jointNames.isEmpty = false ∧ pub.command.publicationToken <
          (cs.foldl (CommandPipeline.approve B enteredAt now) next).2.nextPublicationToken :=
      fun pub hpub => ⟨fun hr => (hnew pub hpub).1 (hr.evolves hstep.evolves), (hnew pub hpub).2⟩
    rw [List.foldl_cons, ← hnext, happ]
    by_cases hvalid : ((state.2.readClock B).2.validatePublicationLocked B c
        (now + ((state.2.readClock B).1 - enteredAt))).1 = true
    · obtain ⟨hheld, -, hsame⟩ := validatePublication_accepted hvalid
      have hheld' : Held state.2 c := hheld
      have hfirst : next.1 = state.1 ++
          [⟨c, now + ((state.2.readClock B).1 - enteredAt)⟩] := by
        rw [hnext]
        unfold CommandPipeline.approve
        simp only [hvalid, if_true]
      refine ⟨⟨c, now + ((state.2.readClock B).1 - enteredAt)⟩ :: new, by simp [hfirst],
        by simpa using hsub, fun pub hpub => ?_⟩
      rcases List.mem_cons.1 hpub with rfl | hpub
      · exact ⟨hheld'.not_revoked, hheld'.1, (hheld'.token hissued).trans_le
          (hstep.evolves.token.trans hrest.evolves.token)⟩
      · exact hlater pub hpub
    · have hfirst : next.1 = state.1 := by
        rw [hnext]
        unfold CommandPipeline.approve
        simp only [hvalid]
        rfl
      exact ⟨new, by rw [hfirst], hsub.cons c, hlater⟩

theorem foldl_revoke_permits (approved : List Publication) (p : CommandPipeline β)
    (joint : String) :
    (approved.foldl (fun p approved => p.revokeOutputs approved.command.jointNames)
      p).publicationPermits[joint]? =
      if ∃ pub ∈ approved, joint ∈ pub.command.jointNames then none
      else p.publicationPermits[joint]? := by
  induction approved generalizing p with
  | nil => simp
  | cons pub approved ih =>
    rw [List.foldl_cons, ih, CommandPipeline.revokeOutputs_permits]
    by_cases hj : joint ∈ pub.command.jointNames
    · simp [hj]
    · simp [hj]

/-! ## One call -/

/-- No token occurs twice in a batch. -/
def Op.distinctTokens : Op → Prop
  | publishCommands commands _ => (commands.map (·.publicationToken)).Nodup
  | _ => True

instance : DecidablePred Op.distinctTokens := fun op => by
  cases op <;> unfold Op.distinctTokens <;> infer_instance

/-- The commands a call handed to the sink. -/
def Reply.handedCommands (reply : Reply) : List JointCommand := reply.handed.map (·.command)

/-- A command that is handed out and loses the permits of its joints is revoked. -/
theorem revoked_of_taken {p : CommandPipeline β} {command : JointCommand}
    (htoken : command.publicationToken < p.nextPublicationToken)
    (hjoints : command.jointNames.isEmpty = false)
    (htaken : ∀ joint ∈ command.jointNames, p.publicationPermits[joint]? = none) :
    Revoked p command := by
  obtain ⟨joint, hj⟩ := List.isEmpty_eq_false_iff_exists_mem.1 hjoints
  refine ⟨htoken, .inr ?_⟩
  rw [← Bool.not_eq_true, holdsPermits_iff]
  intro hall
  have := (htaken joint hj).symm.trans (hall joint hj)
  cases this

theorem publishCommand_handed {s : CommandPipeline β} (hissued : PermitsIssued s)
    (command : JointCommand) (now : SteadyTime) :
    ((s.publishCommand B command now).2.1.map (·.command)).Sublist [command] ∧
      ∀ pub ∈ (s.publishCommand B command now).2.1, ¬ Revoked s pub.command ∧
        Revoked (s.publishCommand B command now).2.2 pub.command := by
  unfold CommandPipeline.publishCommand
  simp only
  split
  · simp
  · rename_i hvalid
    simp only [Bool.not_eq_true', Bool.not_eq_false] at hvalid
    obtain ⟨hheld, -, hsame⟩ := validatePublication_accepted hvalid
    have hheld' : Held s command := hheld
    refine ⟨by simp, fun pub hpub => ?_⟩
    obtain rfl := List.mem_singleton.1 hpub
    refine ⟨hheld'.not_revoked, revoked_of_taken ?_ hheld.1 fun joint hj => by simp [hj]⟩
    rw [hsame]
    exact hheld'.token hissued

theorem publishCommands_handed {s : CommandPipeline β} (hissued : PermitsIssued s)
    (commands : List JointCommand) (now : SteadyTime) :
    ((s.publishCommands B commands now).2.1.map (·.command)).Sublist commands ∧
      ∀ pub ∈ (s.publishCommands B commands now).2.1, ¬ Revoked s pub.command ∧
        Revoked (s.publishCommands B commands now).2.2 pub.command := by
  have hread : PermitsIssued (s.readClock B).2 := ⟨hissued.permits, by simp, le_refl _, by simp⟩
  obtain ⟨new, happ, hsub, hnew⟩ := foldl_approve (B := B) (s.readClock B).1 now commands
    ([], (s.readClock B).2) hread
  rw [List.nil_append] at happ
  unfold CommandPipeline.publishCommands
  simp only
  split
  · simp
  · rw [happ]
    refine ⟨hsub, fun pub hpub => ⟨(hnew pub hpub).1, ?_⟩⟩
    have htoken : Elems B (.publishCommands [] now) _ _ := foldl_revoke_elems new
      (commands.foldl (CommandPipeline.approve B (s.readClock B).1 now) ([], (s.readClock B).2)).2
    refine revoked_of_taken ((hnew pub hpub).2.2.trans_le htoken.evolves.token)
      (hnew pub hpub).2.1 fun joint hj => ?_
    rw [foldl_revoke_permits, if_pos ⟨pub, hpub, hj⟩]

variable (B lib) in
/-- A call hands out nothing that is revoked, revokes what it hands out, and hands out no command
of a batch twice. -/
theorem exec_handed {s : CommandPipeline β} (hissued : PermitsIssued s) (op : Op) :
    (op.distinctTokens → (exec B lib s op).1.handedCommands.Nodup) ∧
      ∀ command ∈ (exec B lib s op).1.handedCommands, ¬ Revoked s command ∧
        Revoked (exec B lib s op).2 command := by
  cases op with
  | publishCommand command now =>
    obtain ⟨hsub, hall⟩ := publishCommand_handed (B := B) hissued command now
    refine ⟨fun _ => hsub.nodup (List.nodup_singleton _), fun c hc => ?_⟩
    obtain ⟨pub, hpub, rfl⟩ := List.mem_map.1 hc
    exact hall pub hpub
  | publishCommands commands now =>
    obtain ⟨hsub, hall⟩ := publishCommands_handed (B := B) hissued commands now
    refine ⟨fun hd => hsub.nodup (List.Nodup.of_map _ hd), fun c hc => ?_⟩
    obtain ⟨pub, hpub, rfl⟩ := List.mem_map.1 hc
    exact hall pub hpub
  | tick feedback now =>
    simp only [exec]
    split <;> simp [Reply.handedCommands, Reply.handed]
  | _ => simp [exec, Reply.handedCommands, Reply.handed]

/-! ## Runs -/

/-- Everything that reached the sink, in order. -/
def handedOver (stages : List (PipelineStage β)) : List JointCommand :=
  stages.flatMap fun g => g.output.handedCommands

/-- What a run keeps: sound lookups and no permit of the future. -/
structure Publishable (s : CommandPipeline β) : Prop where
  sound : Sound s
  issued : PermitsIssued s

variable (B lib) in
theorem Publishable.exec {s : CommandPipeline β} (h : Publishable s) (op : Op) :
    Publishable (exec B lib s op).2 := ⟨exec_sound s h.sound op, exec_issued h.sound h.issued op⟩

theorem Initial.publishable {s : CommandPipeline β} (h : Initial s) : Publishable s := by
  refine ⟨h.sound, ?_⟩
  obtain ⟨backend, groups, config, rfl⟩ := h
  exact ⟨by simp [CommandPipeline.create], by simp, le_refl _, by simp⟩

/-- A revoked command is never handed out again. -/
theorem revoked_not_handed {s : CommandPipeline β} (h : Publishable s) {command : JointCommand}
    (hrev : Revoked s command) (ops : List Op) :
    command ∉ handedOver ((machine B lib).trace s ops) := by
  induction ops generalizing s with
  | nil => simp [handedOver]
  | cons op ops ih =>
    have hrest := ih (h.exec B lib op) (hrev.exec h.sound op)
    intro hmem
    rcases List.mem_append.1 hmem with hnow | hlater
    · exact ((exec_handed B lib h.issued op).2 command hnow).1 hrev
    · exact hrest hlater

/-- No command reaches the sink twice. -/
theorem handed_count_le_one {s : CommandPipeline β} (h : Publishable s) (command : JointCommand)
    {ops : List Op} (hbatches : ∀ op ∈ ops, op.distinctTokens) :
    (handedOver ((machine B lib).trace s ops)).count command ≤ 1 := by
  induction ops generalizing s with
  | nil => simp [handedOver]
  | cons op ops ih =>
    have hrest := ih (h.exec B lib op) fun o ho => hbatches o (List.mem_cons_of_mem _ ho)
    obtain ⟨hnodup, hall⟩ := exec_handed B lib h.issued op
    have hnow := List.nodup_iff_count_le_one.1 (hnodup (hbatches op List.mem_cons_self)) command
    have hsplit : (handedOver ((machine B lib).trace s (op :: ops))).count command =
        (exec B lib s op).1.handedCommands.count command +
          (handedOver ((machine B lib).trace (exec B lib s op).2 ops)).count command :=
      List.count_append
    by_cases hmem : command ∈ (exec B lib s op).1.handedCommands
    · have hnever : command ∉ handedOver ((machine B lib).trace (exec B lib s op).2 ops) :=
        revoked_not_handed (h.exec B lib op) (hall command hmem).2 ops
      rw [hsplit, List.count_eq_zero.2 hnever]
      exact hnow
    · rw [hsplit, List.count_eq_zero.2 hmem, Nat.zero_add]
      exact hrest

/-- Every stage of a run starts publishable. -/
theorem Initial.trace_publishable {s₀ : CommandPipeline β} (h : Initial s₀) {ops : List Op}
    {g : PipelineStage β} (hg : g ∈ (machine B lib).trace s₀ ops) : Publishable g.before :=
  (Machine.trace_invariant (fun _ op hs _ => hs.exec B lib op) h.publishable
    (Machine.meets_true s₀ ops) g hg).1

theorem Initial.trace_publishable_after {s₀ : CommandPipeline β} (h : Initial s₀) {ops : List Op}
    {g : PipelineStage β} (hg : g ∈ (machine B lib).trace s₀ ops) : Publishable g.after :=
  (Machine.trace_invariant (fun _ op hs _ => hs.exec B lib op) h.publishable
    (Machine.meets_true s₀ ops) g hg).2

/-- What is revoked after a stage of a run is revoked before every later one. -/
theorem Initial.revoked_later {s₀ : CommandPipeline β} (h : Initial s₀) {ops : List Op}
    {k l : Nat} {gk gl : PipelineStage β} (hkl : k < l)
    (hk : ((machine B lib).trace s₀ ops)[k]? = some gk)
    (hl : ((machine B lib).trace s₀ ops)[l]? = some gl) {command : JointCommand}
    (hrevoked : Revoked gk.after command) : Revoked gl.before command :=
  (Machine.trace_later_invariant (M := machine B lib)
    (I := fun s => Publishable s ∧ Revoked s command)
    (fun _ op hs _ => ⟨hs.1.exec B lib op, hs.2.exec hs.1.sound op⟩) (Machine.meets_true s₀ ops)
    hkl hk hl ⟨h.trace_publishable_after (List.mem_of_getElem? hk), hrevoked⟩).2

/-- In every run, whatever the SDK, the clock and the callers do: a command returned by a tick
reaches the sink at most once, and not at all after an event that revokes it. The callers keep one
rule, that no token occurs twice in a batch. -/
theorem handed_at_most_once {s₀ : CommandPipeline β} (hinit : Initial s₀) {ops : List Op}
    (hbatches : ∀ op ∈ ops, op.distinctTokens) {j : Nat} {gj : PipelineStage β}
    (hj : ((machine B lib).trace s₀ ops)[j]? = some gj) {command : JointCommand}
    (hreturned : command ∈ gj.output.commands) :
    (handedOver ((machine B lib).trace s₀ ops)).count command ≤ 1 ∧
      ∀ (k l : Nat) (gk gl : PipelineStage β), j < k → k < l →
        ((machine B lib).trace s₀ ops)[k]? = some gk →
        ((machine B lib).trace s₀ ops)[l]? = some gl → Revokes B gk command →
        command ∉ gl.output.handedCommands := by
  refine ⟨handed_count_le_one hinit.publishable command hbatches, ?_⟩
  intro k l gk gl hjk hkl hk hl hrevokes
  have hpub := fun {g} (hg : g ∈ (machine B lib).trace s₀ ops) => hinit.trace_publishable hg
  have hstepj : exec B lib gj.before gj.input = (gj.output, gj.after) :=
    Machine.trace_step (List.mem_of_getElem? hj)
  have hstepk : exec B lib gk.before gk.input = (gk.output, gk.after) :=
    Machine.trace_step (List.mem_of_getElem? hk)
  have hstepl : exec B lib gl.before gl.input = (gl.output, gl.after) :=
    Machine.trace_step (List.mem_of_getElem? hl)
  have hpubj := hpub (List.mem_of_getElem? hj)
  have hpubk := hpub (List.mem_of_getElem? hk)
  have hpubl := hpub (List.mem_of_getElem? hl)
  -- the token is issued at stage `j`, so it is an old one at stage `k`
  have hissued := returned_issued B lib hpubj.sound hpubj.issued gj.input
    (by rw [hstepj]; exact hreturned)
  rw [hstepj] at hissued
  have hafterj := hinit.trace_publishable_after (List.mem_of_getElem? hj)
  have hold : Publishable gk.before ∧
      command.publicationToken < gk.before.nextPublicationToken :=
    Machine.trace_later_invariant (M := machine B lib)
      (I := fun s => Publishable s ∧ command.publicationToken < s.nextPublicationToken)
      (fun s op hs _ => ⟨hs.1.exec B lib op, hs.2.trans_le (exec_evolves B lib hs.1.sound op).token⟩)
      (Machine.meets_true s₀ ops) hjk hj hk ⟨hafterj, hissued.2.1⟩
  -- stage `k` revokes the command, and no later stage brings it back
  have hrevoked : Revoked gk.after command :=
    hrevokes.revoked hpubk.sound hpubk.issued hstepk hold.2
  intro hmem
  have hhanded := exec_handed B lib hpubl.issued gl.input
  rw [hstepl] at hhanded
  exact (hhanded.2 command hmem).1 (hinit.revoked_later hkl hk hl hrevoked)

namespace Fixture

/-- A Move of the left arm issues two commands; the first is published, the second meets the end of
its session. -/
def canceledMove : List Op :=
  [endpoint "mv" .moveJ "left" 10, moveJ "mv" "m" "left" leftJoints 0, tick 1,
    .publishCommand (command "m" "left" leftJoints 101 1) (milliseconds 2), tick 3, .cancel "m",
    .publishCommands [command "m" "left" leftJoints 103 2] (milliseconds 4)]

end Fixture

open Fixture in
theorem handed_at_most_once_canceled :
    command "m" "left" leftJoints 103 2 ∉ (stage canceledMove 6).output.handedCommands :=
  (handed_at_most_once start_initial (by decide) (stage_eq (n := 4) (by decide))
    (by decide +kernel)).2 5 6 _ _ (by decide) (by decide) (stage_eq (by decide))
    (stage_eq (by decide)) (.canceled rfl)

end HumanoidMotion
