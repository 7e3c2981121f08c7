import HumanoidMotion.Motion.Consistency
/-
# Sessions and the endpoints they were created through

Moves stand under ids their callers choose, servo sessions under an id derived
from the endpoint, in one map. `submitMove` refuses an id that is taken;
`updateServo` takes whatever stands under the derived id for its own session
(`command_pipeline.cpp:357`). Where that never is a Move (`ServoMeetsServo`),
every session keeps the endpoint it was created through.

* `Owned` — a session, its request and its claim belong to its endpoint.
* `Spared` — what a servo target may do to the session of another endpoint.
* `sessions_owned` — runs in which no servo target meets a Move.
* `move_id_taken_over` — the run in which one does.
-/

namespace HumanoidMotion

open Tick

variable {β : Type} {S : SessionPlatform β} {lib : MathLib} {e₀ : β}

/-- The session belongs to its endpoint, and so does the claim under its id. -/
structure Owned (p : CommandPipeline β) (id : String) (session : Session) : Prop where
  identity : Identity p id session
  claim : ∃ state, p.arbiter.claims[id]? = some state ∧
    state.claim = CommandPipeline.claimOf session.endpointName session

theorem Tables.owned {p : CommandPipeline β} (h : Tables True S e₀ p) {id : String} {session : Session}
    (hfound : p.sessions[id]? = some session) : Owned p id session := by
  have hrow := h.rows id
  obtain ⟨state, hstate, -, hagrees⟩ := hrow.claimed session hfound
  exact ⟨hrow.identity trivial session hfound, state, hstate, (hagrees trivial).claim⟩

/-! ## A servo target and the sessions of other endpoints -/

/-- The session is as it was, or the arbitration at `now` has ended it: a Move that the new claim
displaced, or a servo session whose lease had run out. -/
inductive Spared (p q : CommandPipeline β) (now : SteadyTime) (id : String) (session : Session) :
    Prop
  | kept (hsession : q.sessions[id]? = some session)
      (hclaim : q.arbiter.claims[id]? = p.arbiter.claims[id]?) : Spared p q now id session
  | preempted (hmove : isServo session.kind = false) (hgone : q.sessions[id]? = none)
      (hevent : { sessionId := id, state := .preempted, status := CommandPipeline.preemptedStatus } ∈
        q.pendingEvents) : Spared p q now id session
  | expired (state : ClaimState) (hgone : q.sessions[id]? = none)
      (hclaim : p.arbiter.claims[id]? = some state) (hexpired : state.expired now = true) :
      Spared p q now id session

/-- Another id is not touched before the arbitration. -/
theorem ServoBase.other {B : Platform β} {s base : CommandPipeline β} {policy : EndpointPolicy}
    {sid id : String} {receivedAt now : SteadyTime} {existing : Option Session}
    (h : ServoBase B s policy sid receivedAt now existing base) (hne : id ≠ sid) :
    base.sessions[id]? = s.sessions[id]? ∧ base.arbiter.claims[id]? = s.arbiter.claims[id]? := by
  cases h with
  | fresh => exact ⟨rfl, rfl⟩
  | kept => exact ⟨rfl, rfl⟩
  | renewed => simp [CommandPipeline.terminate_claims, hne]

/-- Settling reports every preempted session that was stored. -/
theorem mem_settle_pending {B : Platform β} (q : CommandPipeline β) {preempted expired : List String}
    {id : String} {session : Session} (hfound : q.sessions[id]? = some session)
    (hid : id ∈ preempted) :
    { sessionId := id, state := .preempted, status := CommandPipeline.preemptedStatus } ∈
      (q.settle B preempted expired).pendingEvents :=
  CommandPipeline.endAll_pending_mono _ _ _ expired (q.mem_endAll_pending _ _ hfound hid)

theorem ServoOutcome.spared {s p : CommandPipeline β} {endpoint : String} {request : SessionRequest}
    {receivedAt now : SteadyTime} {generation : Nat} {result : SubmissionResult} (hsound : Sound s)
    (h : Tables True S e₀ s)
    (hok : ServoMeetsServo s (.updateServo endpoint request receivedAt now generation))
    (hout : ServoOutcome S.toPlatform s endpoint request receivedAt now generation result p)
    {id : String} {session : Session} (hfound : s.sessions[id]? = some session)
    (hother : session.endpointName ≠ endpoint) : Spared s p now id session := by
  have howned := (h.rows id).identity trivial session hfound
  -- a session of another endpoint does not stand under the derived id
  have hne : ∀ (policy : EndpointPolicy) (updated : Session) (existing : Option Session)
      (base : CommandPipeline β), Validated s endpoint request generation true policy updated →
      receivedAt ≤ now → now - receivedAt < policy.servoLease →
      ServoBase S.toPlatform s policy updated.sessionId receivedAt now existing base →
      id ≠ updated.sessionId := by
    rintro policy updated existing base hvalid hpast hlive hbase rfl
    have hderived := (madeFor_of_valid hsound hvalid.registered hvalid.checked).derived rfl
    have horder : session.submittedAt ≤ receivedAt := by
      cases hbase with
      | fresh hnone => rw [hfound] at hnone; cases hnone
      | kept old hold horder _ => obtain rfl := Option.some.inj (hfound.symm.trans hold); exact horder
      | renewed old hold horder _ =>
        obtain rfl := Option.some.inj (hfound.symm.trans hold)
        exact horder
    have hservo := hok policy updated hvalid hpast hlive session (hderived ▸ hfound) horder
    exact hother (servoId_injective ((howned.servo hservo).symm.trans hderived))
  cases hout with
  | refused => exact .kept hfound rfl
  | rejected _ base policy updated existing hvalid hlive hpast hbase =>
    obtain ⟨hsession, hclaim⟩ := hbase.other (hne policy updated existing _ hvalid hpast hlive hbase)
    exact .kept (hsession.trans hfound) hclaim
  | accepted policy arbPolicy updated existing base settled _ hupdated hsettled _ =>
    have hid := hne policy updated existing base hupdated.valid hupdated.past hupdated.live
      hupdated.start
    have hclaimId : id ≠ (CommandPipeline.claimOf endpoint updated).sessionId := hid
    obtain ⟨hsession, hclaim⟩ := hupdated.start.other hid
    set arbiter := base.arbiter.displace (CommandPipeline.claimOf endpoint updated) arbPolicy
      receivedAt now with harbiter
    set stored := (base.withArbiter arbiter).storeServo endpoint updated existing receivedAt
      with hstored
    have hstoredId : stored.sessions[id]? = some session :=
      (CommandPipeline.storeServo_other _ _ _ _ _ hid).trans (hsession.trans hfound)
    have hspared : Spared s settled now id session := by
      rw [hsettled]
      by_cases hpre : id ∈ base.arbiter.displaced (CommandPipeline.claimOf endpoint updated) arbPolicy
          receivedAt now
      · -- displaced: the claim that was stored under the id is a Move's
        obtain ⟨-, -, state, hstate, hmove⟩ := (base.arbiter.mem_displaced _ _ _ _).1 hpre
        rw [ControlArbiter.joined_claims, if_neg hclaimId, ControlArbiter.live_claims,
          Option.filter_eq_some_iff, hclaim] at hstate
        obtain ⟨own, hown, hkind, -⟩ := (h.rows id).claimed session hfound
        obtain rfl : state = own := Option.some.inj (hstate.1.symm.trans hown)
        refine .preempted ?_ ?_ (mem_settle_pending stored hstoredId hpre)
        · rw [hkind] at hmove
          simpa [isMove] using hmove
        · rw [CommandPipeline.settle_sessions, if_pos (.inl hpre)]
      by_cases hexp : id ∈ base.arbiter.expiredServos now
      · obtain ⟨state, hstate, hexpired⟩ := (base.arbiter.mem_expiredServos now).1 hexp
        refine .expired state ?_ (hclaim.symm.trans hstate) hexpired
        rw [CommandPipeline.settle_sessions, if_pos]
        exact .inr (List.mem_filter.2 ⟨hexp, by simpa using hid⟩)
      · refine .kept ?_ ?_
        · rw [CommandPipeline.settle_sessions, if_neg, hstoredId]
          rintro (hin | hin)
          · exact hpre hin
          · exact hexp (List.mem_filter.1 hin).1
        · rw [CommandPipeline.settle_claims_eq, CommandPipeline.storeServo_arbiter, ← hclaim]
          · exact base.arbiter.displace_kept _ _ _ _ hclaimId fun hin => hin.elim hpre hexp
          · intro k hk
            rw [CommandPipeline.storeServo_arbiter]
            refine base.arbiter.displace_gone _ _ _ _ (hk.imp_right fun hin => ?_)
            obtain ⟨hin, hkne⟩ := List.mem_filter.1 hin
            have hkne' : k ≠ updated.sessionId := by simpa using hkne
            exact ⟨hin, hkne'⟩
    split
    · cases hspared with
      | kept hs hc => exact .kept hs hc
      | preempted hm hg he => exact .preempted hm hg he
      | expired state hg hc hx => exact .expired state hg hc hx
    · exact hspared

/-! ## Runs -/

/-- What a run keeps whose servo targets meet servo sessions only. -/
structure OwnedTables (S : SessionPlatform β) (e₀ : β) (p : CommandPipeline β) : Prop where
  sound : Sound p
  tables : Tables True S e₀ p

variable (lib) in
theorem OwnedTables.exec {p : CommandPipeline β} (h : OwnedTables S e₀ p) (op : Op)
    (hok : ServoMeetsServo p op) : OwnedTables S e₀ (exec S.toPlatform lib p op).2 where
  sound := exec_sound p h.sound op
  tables := exec_tables lib h.sound h.tables op fun _ => hok

theorem create_owned (B : Platform β) (e : β) (groups : List JointGroupModel)
    (config : CommandPipelineConfig) :
    OwnedTables B.logged (e, []) (CommandPipeline.create (e, []) groups config) :=
  ⟨Initial.sound ⟨_, _, _, rfl⟩, create_tables groups config (B.logged_fresh e)⟩

/-- In every run in which no servo target meets a Move under the id derived from its endpoint, over
any SDK, whose calls are written down: every stored session belongs to the endpoint it was created
through, and no servo target changes, renews or ends the session of another endpoint, other than by
winning its joints or by finding its lease run out. -/
theorem sessions_owned (B : Platform β) (lib : MathLib) (e : β) (groups : List JointGroupModel)
    (config : CommandPipelineConfig) {ops : List Op}
    (hmeets : (machine B.recorded lib).Meets ServoMeetsServo
      (CommandPipeline.create (e, []) groups config) ops) :
    (∀ (id : String) session,
      ((machine B.recorded lib).run (CommandPipeline.create (e, []) groups config)
        ops).sessions[id]? = some session →
      Owned ((machine B.recorded lib).run (CommandPipeline.create (e, []) groups config) ops) id
        session) ∧
    ∀ g ∈ (machine B.recorded lib).trace (CommandPipeline.create (e, []) groups config) ops,
      ∀ endpoint request receivedAt now generation,
        g.input = .updateServo endpoint request receivedAt now generation →
        ∀ (id : String) session, g.before.sessions[id]? = some session →
          session.endpointName ≠ endpoint → Spared g.before g.after now id session := by
  have hstep : ∀ s op, OwnedTables B.logged (e, []) s → ServoMeetsServo s op →
      OwnedTables B.logged (e, []) ((machine B.recorded lib).step s op).2 :=
    fun s op h hok => h.exec lib op hok
  constructor
  · have hrun := Machine.run_invariant hstep (create_owned B e groups config) hmeets
    exact fun id session hfound => hrun.tables.owned hfound
  · intro g hg endpoint request receivedAt now generation hinput id session hfound hother
    have hbefore := (Machine.trace_invariant hstep (create_owned B e groups config) hmeets g hg).1
    have hok := hmeets g hg
    have hexec : exec B.recorded lib g.before g.input = (g.output, g.after) := Machine.trace_step hg
    rw [hinput] at hexec hok
    have hafter : (g.before.updateServo B.recorded endpoint request receivedAt now generation).2 =
        g.after := congrArg Prod.snd hexec
    rw [← hafter]
    exact (updateServo_outcome B.recorded g.before endpoint request receivedAt now
      generation).spared hbefore.sound hbefore.tables hok hfound hother

/-- Where Moves have ids of their own, no servo target meets a Move. -/
theorem MoveIdsFree.meets (B : Platform β) (lib : MathLib) (e : β) (groups : List JointGroupModel)
    (config : CommandPipelineConfig) {ops : List Op} (hfree : MoveIdsFree ops) :
    (machine B.recorded lib).Meets ServoMeetsServo (CommandPipeline.create (e, []) groups config)
      ops := by
  intro g hg
  have hbefore : InOrder B.logged (e, []) (endpointNames ops) g.before :=
    (trace_inOrder groups config (B.logged_fresh e) hfree g hg).1
  exact hbefore.ids.named.servoMeetsServo g.input

namespace Fixture

/-- A Move of the right arm under the id derived from a servo endpoint of the left arm, and then a
target for that endpoint. -/
def takenOver : List Op :=
  [endpoint "mv" .moveJ "right" 10, endpoint "sv" .servoJ "left" 20,
    moveJ "mv" (servoId "sv") "right" rightJoints 0, servoJ "sv" "left" leftJoints 1]

/-- The same calls with an id of the Move's own. -/
def ownIds : List Op :=
  [endpoint "mv" .moveJ "right" 10, endpoint "sv" .servoJ "left" 20,
    moveJ "mv" "m" "right" rightJoints 0, servoJ "sv" "left" leftJoints 1]

end Fixture

open Fixture in
theorem sessions_owned_ownIds :
    ∃ session, ((machine FakeSdk.platform.toPlatform.recorded mathLib).run
      (CommandPipeline.create ({}, []) allGroups {}) ownIds).sessions[servoId "sv"]? = some session ∧
      Owned ((machine FakeSdk.platform.toPlatform.recorded mathLib).run
        (CommandPipeline.create ({}, []) allGroups {}) ownIds) (servoId "sv") session := by
  have hstored : (((machine FakeSdk.platform.toPlatform.recorded mathLib).run
      (CommandPipeline.create ({}, []) allGroups {}) ownIds).sessions[servoId "sv"]?).isSome = true := by
    decide +kernel
  obtain ⟨session, hfound⟩ := Option.isSome_iff_exists.1 hstored
  refine ⟨session, hfound, ?_⟩
  exact (sessions_owned FakeSdk.platform.toPlatform mathLib {} allGroups {}
    (MoveIdsFree.meets _ _ _ _ _ (by decide))).1 _ session hfound

open Fixture in
/-- The Move's session is left with the request of the servo target, under an endpoint of another
kind. -/
theorem move_id_taken_over :
    ¬ ∀ (id : String) session, (fake.run start takenOver).sessions[id]? = some session →
      Owned (fake.run start takenOver) id session := by
  intro hall
  have hstored : ((fake.run start takenOver).sessions[servoId "sv"]?).map
      (fun session => (session.endpointName, session.kind)) = some ("mv", .servoJ) := by
    decide +kernel
  have hpolicy : ((fake.run start takenOver).endpoints["mv"]?).map (·.kind) = some .moveJ := by
    decide +kernel
  obtain ⟨session, hfound, heq⟩ := Option.map_eq_some_iff.1 hstored
  obtain ⟨hendpoint, hkind⟩ := Prod.mk.inj heq
  obtain ⟨policy, hregistered, hsame, -⟩ := (hall _ session hfound).identity.policy
  rw [hendpoint] at hregistered
  rw [hregistered, Option.map_some, Option.some.injEq, hsame, hkind] at hpolicy
  cases hpolicy

end HumanoidMotion
