import HumanoidMotion.Motion.Consistency
import HumanoidMotion.Motion.Emission
/-
# The commands of one tick

The winners share no joint, a session's joints are those of its claim, and a
turn issues at most one command for its own joints. So the commands of a tick
never meet, and what a later turn does leaves the permits of the earlier ones.

* `Descends` — only a submission creates a session; other calls move stored ones on.
* `Gated` — where there is a session, output is enabled.
* `Batch` — the commands gathered after some of the winners' turns.
* `tick_commands_accepted` — the commands a tick returns are disjoint, and each
  is accepted until its deadline.
-/

namespace HumanoidMotion

open Tick

variable {β : Type} {B : Platform β} {lib : MathLib} {op : Op}

/-! ## Sessions across a tick -/

/-- Every session is a version of one stored before. -/
def Descends (p p' : CommandPipeline β) : Prop :=
  ∀ (id : String) session, p'.sessions[id]? = some session →
    ∃ old, p.sessions[id]? = some old ∧ old.SameClient session

theorem Descends.of_eq {p p' : CommandPipeline β} (h : p'.sessions = p.sessions) : Descends p p' :=
  fun _ session hs => ⟨session, h ▸ hs, .refl session⟩

theorem Descends.trans {p p' p'' : CommandPipeline β} (h : Descends p p') (h' : Descends p' p'') :
    Descends p p'' := by
  intro id session hs
  obtain ⟨mid, hmid, hsame⟩ := h' id session hs
  obtain ⟨old, hold, hsame'⟩ := h id mid hmid
  exact ⟨old, hold, hsame'.trans hsame⟩

theorem Created.arbitrated {p : CommandPipeline β} {session : Session} (h : Created p op session) :
    op.arbitratedAt ≠ none := by
  cases h <;> exact Option.some_ne_none _

theorem Elem.descends (hop : op.arbitratedAt = none) {s s' : TickState β} (h : Elem B op s s') :
    Descends s.pipeline s'.pipeline := by
  cases h with
  | silent p hs => exact .of_eq hs.sessions
  | terminate id state status preserve _ _ =>
    intro k session hk
    simp only [TickState.withPipeline, CommandPipeline.terminate_sessions] at hk
    split at hk
    · cases hk
    · exact ⟨session, hk, .refl session⟩
  | create session servos _ _ hnew _ _ _ => exact absurd hop hnew.arbitrated
  | retarget id old new _ hnew _ _ _ => exact absurd hop hnew.arbitrated
  | progress id session session' hfound hsame _ =>
    intro k stored hk
    simp only [TickState.withPipeline, Std.TreeMap.getElem?_insert,
      Std.LawfulEqOrd.compare_eq_iff_eq] at hk
    split at hk
    · rename_i heq
      cases hk
      exact ⟨session, heq ▸ hfound, hsame⟩
    · exact ⟨stored, hk, .refl stored⟩
  | _ => exact .of_eq rfl

theorem Elems.descends (hop : op.arbitratedAt = none) {s s' : TickState β} (h : Elems B op s s') :
    Descends s.pipeline s'.pipeline :=
  h.invariant (I := fun t => Descends s.pipeline t.pipeline)
    (fun _ _ hstep hs => hs.trans (hstep.descends hop)) (.of_eq rfl)

/-- A step changes neither the groups nor the configuration. -/
theorem Elem.modelled {s s' : TickState β} (h : Elem B op s s') :
    s'.pipeline.groups = s.pipeline.groups ∧ s'.pipeline.config = s.pipeline.config := by
  cases h with
  | silent p hs => exact ⟨hs.groups, hs.config⟩
  | terminate => simp [TickState.withPipeline]
  | _ => exact ⟨rfl, rfl⟩

theorem Elems.groups {s s' : TickState β} (h : Elems B op s s') :
    s'.pipeline.groups = s.pipeline.groups :=
  h.invariant (I := fun t => t.pipeline.groups = s.pipeline.groups)
    (fun _ _ hstep hs => hstep.modelled.1.trans hs) rfl

/-- A tick changes neither the configuration nor the endpoints. -/
theorem Elem.configured (hop : op.isTick = true) {s s' : TickState β} (h : Elem B op s s') :
    s'.pipeline.config = s.pipeline.config ∧ s'.pipeline.endpoints = s.pipeline.endpoints := by
  refine ⟨h.modelled.2, ?_⟩
  cases h with
  | silent p hs => exact hs.endpoints
  | terminate => simp [TickState.withPipeline]
  | register policy arbiter heq => rw [heq] at hop; cases hop
  | _ => rfl

theorem Elems.configured (hop : op.isTick = true) {s s' : TickState β} (h : Elems B op s s') :
    s'.pipeline.config = s.pipeline.config ∧ s'.pipeline.endpoints = s.pipeline.endpoints :=
  h.invariant (I := fun t => t.pipeline.config = s.pipeline.config ∧
      t.pipeline.endpoints = s.pipeline.endpoints)
    (fun _ _ hstep hs => ⟨(hstep.configured hop).1.trans hs.1, (hstep.configured hop).2.trans hs.2⟩)
    ⟨rfl, rfl⟩

/-! ## The output gate -/

/-- The call that opens and closes the gate. -/
def Op.isGate : Op → Bool
  | setOutputPermit .. => true
  | _ => false

/-- The gate as the callers see it: whether output is enabled, and for which generation. -/
def CommandPipeline.gate (p : CommandPipeline β) : Bool × Nat := (p.outputEnabled, p.outputGeneration)

theorem Elem.gate_eq (hop : op.isGate = false) {s s' : TickState β} (h : Elem B op s s') :
    s'.pipeline.gate = s.pipeline.gate := by
  cases h with
  | silent p hs => exact congrArg₂ Prod.mk hs.enabled hs.generation
  | terminate => simp [TickState.withPipeline, CommandPipeline.gate]
  | gate enabled generation heq _ => rw [heq] at hop; cases hop
  | _ => rfl

theorem Elems.gate_eq (hop : op.isGate = false) {s s' : TickState β} (h : Elems B op s s') :
    s'.pipeline.gate = s.pipeline.gate :=
  h.invariant (I := fun t => t.pipeline.gate = s.pipeline.gate)
    (fun _ _ hstep hs => (hstep.gate_eq hop).trans hs) rfl

theorem Elems.enabled (hop : op.isGate = false) {s s' : TickState β} (h : Elems B op s s') :
    s'.pipeline.outputEnabled = s.pipeline.outputEnabled := congrArg Prod.fst (h.gate_eq hop)

/-- A stored session means that output is enabled. -/
def Gated (p : CommandPipeline β) : Prop :=
  ∀ (id : String) session, p.sessions[id]? = some session → p.outputEnabled = true

theorem Elem.gated {s s' : TickState β} (hstep : Elem B op s s') (h : Gated s.pipeline) :
    Gated s'.pipeline := by
  cases hstep with
  | silent p hs =>
    intro id session hk
    exact hs.enabled.trans (h id session (hs.sessions ▸ hk))
  | terminate id state status preserve _ _ =>
    intro k session hk
    simp only [TickState.withPipeline, CommandPipeline.terminate_sessions] at hk
    split at hk
    · cases hk
    · simp only [TickState.withPipeline, CommandPipeline.terminate_outputEnabled]
      exact h k session hk
  | create session servos _ _ _ _ henabled _ => exact fun _ _ _ => henabled
  | retarget id old new hold _ _ _ _ => exact fun _ _ _ => h id old hold
  | progress id session session' hfound _ _ => exact fun _ _ _ => h id session hfound
  | gate enabled generation _ hempty =>
    intro id session hk
    cases enabled with
    | true => rfl
    | false =>
      have hnone := hempty rfl id
      rw [show s.pipeline.sessions[id]? = some session from hk] at hnone
      cases hnone
  | _ => exact h

/-- What the publication side of a run relies on. -/
structure Issuing (p : CommandPipeline β) : Prop where
  sound : Sound p
  gated : Gated p
  token : 0 < p.nextPublicationToken

variable (B lib) in
theorem Issuing.exec {p : CommandPipeline β} (h : Issuing p) (op : Op) :
    Issuing (exec B lib p op).2 := by
  obtain ⟨t, helems, hpipeline, -, -⟩ := exec_elems B lib p h.sound op
  refine ⟨exec_sound p h.sound op, ?_, h.token.trans_le (exec_evolves B lib h.sound op).token⟩
  rw [hpipeline]
  exact helems.invariant (I := fun t => Gated t.pipeline) (fun _ _ hstep ht => hstep.gated ht) h.gated

theorem Initial.issuing {p : CommandPipeline β} (h : Initial p) : Issuing p := by
  refine ⟨h.sound, ?_, ?_⟩
  · obtain ⟨backend, groups, config, rfl⟩ := h
    simp [Gated, CommandPipeline.create]
  · obtain ⟨backend, groups, config, rfl⟩ := h
    exact Nat.one_pos

theorem Initial.run_issuing {s₀ : CommandPipeline β} (h : Initial s₀) (ops : List Op) :
    Issuing ((machine B lib).run s₀ ops) :=
  Machine.run_invariant (fun _ op hs _ => hs.exec B lib op) h.issuing (Machine.meets_true s₀ ops)

/-! ## The commands gathered by the turns -/

/-- The winners of a tick share no joint: their sessions are stored with the joints of their claims. -/
def WinnersApart (winners : List String) (p : CommandPipeline β) : Prop :=
  ∀ id ∈ winners, ∀ id' ∈ winners, id ≠ id' → ∀ session session', p.sessions[id]? = some session →
    p.sessions[id']? = some session' → ∀ joint ∈ session.jointNames, joint ∉ session'.jointNames

/-- The commands gathered once the winners in `done` have had their turns: one for a session at
most, for its own joints, and every joint carries the permit of its command. -/
structure Batch (ctx : TickContext) (p : CommandPipeline β) (done : List String) (s : TickState β) :
    Prop where
  source : ∀ c ∈ s.commands, c.sessionId ∈ done ∧ 0 < c.publicationToken ∧ ∃ session,
    p.sessions[c.sessionId]? = some session ∧ c.jointNames = session.jointNames ∧
      c.jointNames.isEmpty = false ∧ c.validUntil = deadlineOf ctx p session ∧
      c.validUntil.isSome = true
  distinct : (s.commands.map (·.sessionId)).Nodup
  permits : ∀ c ∈ s.commands, ∀ joint ∈ c.jointNames,
    s.pipeline.publicationPermits[joint]? = some (c.sessionId, c.publicationToken)

/-- The next winner's turn. -/
theorem Batch.turn {ctx : TickContext} {p : CommandPipeline β} {done winners : List String}
    {id : String} {s s' : TickState β} (h : Batch ctx p done s) (hsound : Sound s.pipeline)
    (htoken : 0 < s.pipeline.nextPublicationToken) (hdescends : Descends p s.pipeline)
    (hfixed : s.pipeline.config = p.config ∧ s.pipeline.endpoints = p.endpoints)
    (hapart : WinnersApart winners p) (hdone : ∀ k ∈ done, k ∈ winners) (hid : id ∈ winners)
    (hnew : id ∉ done) (ht : Turn B lib ctx id s s') : Batch ctx p (done ++ [id]) s' := by
  cases hfound : s.pipeline.sessions[id]? with
  | none =>
    rw [ht.eq_of_none hfound]
    refine ⟨fun c hc => ?_, h.distinct, h.permits⟩
    obtain ⟨hin, hrest⟩ := h.source c hc
    exact ⟨List.mem_append_left _ hin, hrest⟩
  | some session =>
    have hstored : Stored s id session := ⟨hfound, hsound.sessionOk id session hfound⟩
    have heffect := ht.effect hstored
    obtain ⟨old, hold, hsame⟩ := hdescends id session hfound
    -- the permits of earlier commands lie on other joints
    have hkept : ∀ c ∈ s.commands, ∀ joint ∈ c.jointNames,
        s'.pipeline.publicationPermits[joint]? = some (c.sessionId, c.publicationToken) := by
      intro c hc joint hj
      obtain ⟨hin, -, session', hsession', hjoints, -⟩ := h.source c hc
      have hne : c.sessionId ≠ id := fun heq => hnew (heq ▸ hin)
      refine heffect.others joint _ (h.permits c hc joint hj) hne ?_
      rw [hsame.jointNames]
      exact hapart _ (hdone _ hin) _ hid hne session' old hsession' hold joint (hjoints ▸ hj)
    rcases heffect.commands with hcommands | ⟨c, hcommands, hsource, hfresh, hpermits⟩
    · refine ⟨fun c hc => ?_, hcommands ▸ h.distinct, fun c hc => hkept c (hcommands ▸ hc)⟩
      obtain ⟨hin, hrest⟩ := h.source c (hcommands ▸ hc)
      exact ⟨List.mem_append_left _ hin, hrest⟩
    · obtain ⟨stored, hs, hjoints, hlimit⟩ := hsource.session
      obtain rfl : session = stored := Option.some.inj (hfound.symm.trans hs.found)
      have hcid := hsource.sessionId
      have hdeadline : deadlineOf ctx s.pipeline session = deadlineOf ctx p old := by
        rw [deadlineOf_sameClient hsame]
        unfold deadlineOf
        rw [hfixed.1, hfixed.2]
      rw [hdeadline] at hlimit
      obtain ⟨limit, hsome⟩ := deadlineOf_isSome ctx hstored.ok
      obtain ⟨model, -, hnames, hvalid⟩ := hstored.ok.group
      constructor
      · intro c' hc'
        rw [hcommands] at hc'
        rcases List.mem_append.1 hc' with hc' | hc'
        · obtain ⟨hin, hrest⟩ := h.source c' hc'
          exact ⟨List.mem_append_left _ hin, hrest⟩
        · obtain rfl := List.mem_singleton.1 hc'
          refine ⟨by simp [hcid], htoken.trans_le hfresh, old, hcid ▸ hold,
            hjoints.trans hsame.jointNames, ?_, hlimit, ?_⟩
          · rw [hjoints, ← hnames]
            exact (model.valid_iff.1 hvalid).2.1
          · rw [hlimit, ← hdeadline, hsome]
            rfl
      · rw [hcommands, List.map_append]
        refine List.nodup_append.2 ⟨h.distinct, by simp, ?_⟩
        rintro k hk k' hk' rfl
        obtain ⟨c', hc', rfl⟩ := List.mem_map.1 hk
        have heq : c'.sessionId = c.sessionId := by simpa using hk'
        exact hnew (heq.trans hcid ▸ (h.source c' hc').1)
      · intro c' hc'
        rw [hcommands] at hc'
        rcases List.mem_append.1 hc' with hc' | hc'
        · exact hkept c' hc'
        · obtain rfl := List.mem_singleton.1 hc'
          rw [hcid]
          exact hpermits

theorem turns_batch {ctx : TickContext} {p : CommandPipeline β} {winners : List String}
    (hapart : WinnersApart winners p) (hnodup : winners.Nodup) {done rest : List String}
    {s s' : TickState β} (ht : Turns B lib ctx rest s s') (hsplit : winners = done ++ rest)
    (h : Batch ctx p done s) (hsound : Sound s.pipeline) (htoken : 0 < s.pipeline.nextPublicationToken)
    (hdescends : Descends p s.pipeline)
    (hfixed : s.pipeline.config = p.config ∧ s.pipeline.endpoints = p.endpoints) :
    Batch ctx p winners s' := by
  induction ht generalizing done with
  | nil s =>
    rw [hsplit, List.append_nil]
    exact h
  | cons id ids s s₁ s' hturn _ ih =>
    have helems : Elems B (.tick ctx.feedback ctx.now) s s₁ := hturn.elems rfl
    have hnew : id ∉ done := by
      intro hin
      rw [hsplit] at hnodup
      exact (List.nodup_append.1 hnodup).2.2 id hin id List.mem_cons_self rfl
    have hfixed₁ := helems.configured rfl
    have hrest : winners = (done ++ [id]) ++ ids := by simp [hsplit]
    refine ih hrest ?_ (helems.sound hsound)
      (htoken.trans_le helems.evolves.token) (hdescends.trans (helems.descends rfl))
      ⟨hfixed₁.1.trans hfixed.1, hfixed₁.2.trans hfixed.2⟩
    refine h.turn hsound htoken hdescends hfixed hapart (fun k hk => ?_) ?_ hnew hturn
    · rw [hsplit]
      exact List.mem_append_left _ hk
    · rw [hsplit]
      simp

/-! ## The closing -/

/-- Ending the sessions of late commands takes the permits of these sessions only. -/
theorem foldl_terminate_permits (late : List JointCommand) (status : MotionStatus)
    (p : CommandPipeline β) {joint : String} {x : String × Nat}
    (hx : p.publicationPermits[joint]? = some x) (hne : ∀ c ∈ late, c.sessionId ≠ x.1) :
    (late.foldl (fun p command => p.terminate B command.sessionId .aborted status)
      p).publicationPermits[joint]? = some x := by
  induction late generalizing p with
  | nil => exact hx
  | cons c late ih =>
    refine ih _ ?_ fun c' hc' => hne c' (List.mem_cons_of_mem _ hc')
    rw [CommandPipeline.terminate_permits, hx]
    simp [Option.filter, Ne.symm (hne c List.mem_cons_self)]

/-- A command that is not late keeps its permits, since no late command is its session's. -/
theorem Batch.closed {ctx : TickContext} {p : CommandPipeline β} {done : List String}
    {s : TickState β} (h : Batch ctx p done s) {c : JointCommand}
    (hc : c ∈ (closed B ctx s).commands) : c ∈ s.commands ∧ ∀ joint ∈ c.jointNames,
      (closed B ctx s).pipeline.publicationPermits[joint]? =
        some (c.sessionId, c.publicationToken) := by
  obtain ⟨hin, hpunctual⟩ := List.mem_filter.1 hc
  refine ⟨hin, fun joint hj => ?_⟩
  refine foldl_terminate_permits _ _ _ (h.permits c hin joint hj) fun late hlate heq => ?_
  obtain ⟨hin', hlate'⟩ := List.mem_filter.1 hlate
  obtain rfl := List.inj_on_of_nodup_map h.distinct hin' hin heq
  rw [hlate'] at hpunctual
  cases hpunctual

/-! ## A whole tick -/

section
variable {S : SessionPlatform β} {e₀ : β} {s : CommandPipeline β}

theorem WinnersApart.descends {winners : List String} {p p' : CommandPipeline β}
    (h : WinnersApart winners p) (hd : Descends p p') : WinnersApart winners p' := by
  intro id hid id' hid' hne session session' hs hs' joint hj
  obtain ⟨old, hold, hsame⟩ := hd id session hs
  obtain ⟨old', hold', hsame'⟩ := hd id' session' hs'
  rw [hsame'.jointNames]
  exact h id hid id' hid' hne old old' hold hold' joint (hsame.jointNames ▸ hj)

theorem tick_winnersNodup {apart : Prop} (h : Tables apart S e₀ s) (now : SteadyTime) :
    (s.tickArbitration S.toPlatform now).winnerSessionIds.Nodup :=
  ControlArbiter.winners_nodup (h.arbiter.live (s.startTick S.toPlatform now).startedAt)

/-- The winners of a tick are apart, since a session's joints are those of its claim. -/
theorem tick_winnersApart (h : Tables True S e₀ s) (now : SteadyTime) :
    WinnersApart (s.tickArbitration S.toPlatform now).winnerSessionIds s := by
  set time := (s.startTick S.toPlatform now).startedAt with htime
  have hwinners : (s.tickArbitration S.toPlatform now).winnerSessionIds =
      (s.arbiter.live time).computeWinners time := rfl
  have hlive := h.arbiter.live time
  rw [hwinners]
  intro id hid id' hid' hne session session' hs hs'
  have hclaim : ∀ {k : String} {stored : Session}, k ∈ (s.arbiter.live time).computeWinners time →
      s.sessions[k]? = some stored → ∃ state, (s.arbiter.live time).claims[k]? = some state ∧
        state.claim.jointNames = stored.jointNames := by
    intro k stored hk hstored
    obtain ⟨state, hstate, -⟩ := ControlArbiter.winner_stored hlive hk
    obtain ⟨own, hown, -, hagrees⟩ := (h.rows k).claimed stored hstored
    have hfound := hstate
    rw [ControlArbiter.live_claims, Option.filter_eq_some_iff] at hfound
    obtain rfl : state = own := Option.some.inj (hfound.1.symm.trans hown)
    refine ⟨state, hstate, ?_⟩
    rw [(hagrees trivial).claim]
    rfl
  obtain ⟨x, hx, hjoints⟩ := hclaim hid hs
  obtain ⟨y, hy, hjoints'⟩ := hclaim hid' hs'
  rw [← hjoints, ← hjoints']
  exact fun joint hj => ControlArbiter.winners_disjoint hlive hid hid' hx hy hne hj

/-- The tick as seen by its commands: they are what is left of a batch of all winners. -/
theorem tick_batch (lib : MathLib) (hissuing : Issuing s) (h : Tables True S e₀ s)
    (feedback : JointFeedback) (now : SteadyTime) : ∃ (opening s₂ : TickState β),
      Elems S.toPlatform (.tick feedback now) { pipeline := s } opening ∧
      Elems S.toPlatform (.tick feedback now) opening
        (closed S.toPlatform (s.tickContext S.toPlatform feedback now) s₂) ∧
      Batch (s.tickContext S.toPlatform feedback now) opening.pipeline
        (s.tickArbitration S.toPlatform now).winnerSessionIds s₂ ∧
      exec S.toPlatform lib s (.tick feedback now) =
        (.ticked { commands := (closed S.toPlatform (s.tickContext S.toPlatform feedback now)
                     s₂).commands
                   events := (closed S.toPlatform (s.tickContext S.toPlatform feedback now)
                     s₂).events },
          (closed S.toPlatform (s.tickContext S.toPlatform feedback now) s₂).pipeline) := by
  obtain ⟨s₂, hrun, htick⟩ := tick_run S.toPlatform lib s feedback now hissuing.sound
  have hopened := tickStarted_elems (B := S.toPlatform) hissuing.sound feedback now
    (s.tickArbitration S.toPlatform now).winnerSessionIds
  have hnodup := tick_winnersNodup h now
  have hapart := tick_winnersApart h now
  refine ⟨_, s₂, hopened, (hrun.turns.elems rfl).trans (closed_elems s₂), ?_, ?_⟩
  · refine turns_batch (hapart.descends (hopened.descends rfl)) hnodup hrun.turns
      (List.nil_append _).symm ?_ (hopened.sound hissuing.sound) (hissuing.token.trans_le hopened.evolves.token)
      (.of_eq rfl) ⟨rfl, rfl⟩
    exact ⟨by simp [opened, TickState.flush, TickState.withPipeline, CommandPipeline.tickOpening],
      by simp [opened, TickState.flush, TickState.withPipeline, CommandPipeline.tickOpening],
      by simp [opened, TickState.flush, TickState.withPipeline, CommandPipeline.tickOpening]⟩
  · simp only [exec, htick]

/-- The commands of a tick are disjoint, and each is accepted until its deadline. -/
theorem tick_disjoint_accepted (lib : MathLib) (hissuing : Issuing s) (h : Tables True S e₀ s)
    (feedback : JointFeedback) (now : SteadyTime) :
    (exec S.toPlatform lib s (.tick feedback now)).1.commands.Pairwise (fun c c' =>
      c.sessionId ≠ c'.sessionId ∧ ∀ joint ∈ c.jointNames, joint ∉ c'.jointNames) ∧
    ∀ c ∈ (exec S.toPlatform lib s (.tick feedback now)).1.commands, ∃ limit,
      c.validUntil = some limit ∧ ∀ time < limit,
        (exec S.toPlatform lib (exec S.toPlatform lib s (.tick feedback now)).2
          (.validateCommandForPublication c time)).1 = .valid true := by
  obtain ⟨opening, s₂, hopening, hrest, hbatch, hexec⟩ := tick_batch lib hissuing h feedback now
  set ctx := s.tickContext S.toPlatform feedback now with hctx
  rw [hexec]
  simp only [Reply.commands]
  constructor
  · have hdistinct : (closed S.toPlatform ctx s₂).commands.Pairwise fun c c' =>
        c.sessionId ≠ c'.sessionId :=
      (List.pairwise_map.1 hbatch.distinct).sublist List.filter_sublist
    refine hdistinct.imp_of_mem fun {c c'} hc hc' hne => ⟨hne, fun joint hj hj' => hne ?_⟩
    -- a joint carries one permit
    have hpermit := (hbatch.closed hc).2 joint hj
    rw [(hbatch.closed hc').2 joint hj'] at hpermit
    exact (congrArg Prod.fst (Option.some.inj hpermit)).symm
  · intro c hc
    obtain ⟨hin, hpermits⟩ := hbatch.closed hc
    obtain ⟨-, htoken, session, hsession, -, hjoints, -, hlimit⟩ := hbatch.source c hin
    obtain ⟨limit, hlimit⟩ := Option.isSome_iff_exists.1 hlimit
    refine ⟨limit, hlimit, fun time htime => ?_⟩
    obtain ⟨old, hold, -⟩ := hopening.descends rfl c.sessionId session hsession
    have henabled : (closed S.toPlatform ctx s₂).pipeline.outputEnabled = true :=
      ((hopening.trans hrest).enabled rfl).trans (hissuing.gated c.sessionId old hold)
    have hheld : (closed S.toPlatform ctx s₂).pipeline.holdsPermits c = true :=
      (holdsPermits_iff _ c).2 hpermits
    have htoken' : (c.publicationToken == 0) = false := by
      rw [beq_eq_false_iff_ne]
      omega
    simp only [exec]
    unfold CommandPipeline.validatePublicationLocked
    rw [if_neg (by simp [henabled, hheld, hjoints, htoken']), if_pos (by simp [hlimit, htime])]

end

/-- In every state of every run whose Moves have ids of their own, over any SDK whose calls are
written down: one tick commands no session and no joint twice, and each of its commands is accepted
until its deadline. -/
theorem tick_commands_accepted (B : Platform β) (lib : MathLib) (e : β)
    (groups : List JointGroupModel) (config : CommandPipelineConfig) {ops : List Op}
    (hfree : MoveIdsFree ops) (feedback : JointFeedback) (now : SteadyTime) :
    let s := (machine B.recorded lib).run (CommandPipeline.create (e, []) groups config) ops
    let ticked := exec B.recorded lib s (.tick feedback now)
    ticked.1.commands.Pairwise (fun c c' =>
      c.sessionId ≠ c'.sessionId ∧ ∀ joint ∈ c.jointNames, joint ∉ c'.jointNames) ∧
    ∀ c ∈ ticked.1.commands, ∃ limit, c.validUntil = some limit ∧ ∀ time < limit,
      (exec B.recorded lib ticked.2 (.validateCommandForPublication c time)).1 = .valid true := by
  have hrun : InOrder B.logged (e, []) (endpointNames ops)
      ((machine B.recorded lib).run (CommandPipeline.create (e, []) groups config) ops) :=
    run_inOrder groups config (B.logged_fresh e) hfree
  have hinit : Initial (CommandPipeline.create (e, ([] : List Call)) groups config) := ⟨_, _, _, rfl⟩
  exact tick_disjoint_accepted (S := B.logged) lib (hinit.run_issuing ops) hrun.tables feedback now

namespace Fixture

/-- A Move of each arm. -/
def bothArms : List Op :=
  [endpoint "mvl" .moveJ "left" 10, endpoint "mvr" .moveJ "right" 10,
    moveJ "mvl" "l" "left" leftJoints 0, moveJ "mvr" "r" "right" rightJoints 0]

end Fixture

open Fixture in
theorem tick_commands_accepted_bothArms :
    let s := (machine FakeSdk.platform.toPlatform.recorded mathLib).run
      (CommandPipeline.create ({}, []) allGroups {}) bothArms
    (exec FakeSdk.platform.toPlatform.recorded mathLib s (.tick (feedback 1)
      (milliseconds 1))).1.commands.Pairwise fun c c' =>
        c.sessionId ≠ c'.sessionId ∧ ∀ joint ∈ c.jointNames, joint ∉ c'.jointNames :=
  (tick_commands_accepted FakeSdk.platform.toPlatform mathLib {} allGroups {} (by decide) (feedback 1)
    (milliseconds 1)).1

end HumanoidMotion
