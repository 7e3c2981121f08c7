import HumanoidMotion.Arbitration.WinnerSet
/-
# A claim that does not win changes nothing

`submitMove` and `updateServo` store the claim, recompute the winners and remove
the Moves that no longer win before they look at the claim itself
(`control_arbiter.cpp:169`, `:204`). When it turns out not to win, nothing has
been removed.

* `computeWinners_joined` — the winners are those of the live claims.
* `displaced_nil_of_lost`, `release_lost` — no Move is displaced.
* `new_wins_iff` — when a new Move wins.
* `updateServo_accepts` — when the arbiter accepts a servo claim.
-/

namespace HumanoidMotion

namespace ControlArbiter

variable {a : ControlArbiter} {claim : CommandClaim} {policy : EndpointPolicy}
  {receivedAt now : SteadyTime}

/-- One list of winners for one set of selected claims. -/
theorem computeWinners_of_selected {b : ControlArbiter} (ha : a.Ok) (hb : b.Ok)
    (h : {x | x ∈ a.selected now} = {x | x ∈ b.selected now}) :
    a.computeWinners now = b.computeWinners now := by
  have hlist : a.selected now = b.selected now := by
    apply (selected_pairwise ha).eq_of_mem_iff (selected_pairwise hb)
    intro x
    exact Set.ext_iff.1 h x
  unfold computeWinners
  rw [hlist]

theorem Ok.joined (h : a.Ok) : (a.joined claim policy receivedAt now).Ok :=
  (h.live now).store claim policy receivedAt

/-- A claim stored before that the new one replaces: of the same joints and priority, received no
later. -/
def Replaces (claim : CommandClaim) (policy : EndpointPolicy) (receivedAt : SteadyTime)
    (old : ClaimState) : Prop :=
  old.claim.jointNames = claim.jointNames ∧ old.priority = policy.priority ∧
    old.receivedAt ≤ receivedAt

theorem mem_candidates_joined (x : ClaimState) (hx : x.claim.sessionId ≠ claim.sessionId) (h : a.Ok) :
    x ∈ (a.joined claim policy receivedAt now).candidates now ↔ x ∈ (a.live now).candidates now := by
  simp only [mem_candidates]
  constructor
  · rintro ⟨k, hk, hlive⟩
    have hkey := h.joined.key k x hk
    rw [joined_claims, if_neg (hkey ▸ hx)] at hk
    exact ⟨k, hk, hlive⟩
  · rintro ⟨k, hk, hlive⟩
    have hkey := (h.live now).key k x hk
    refine ⟨k, ?_, hlive⟩
    rw [joined_claims, if_neg (hkey ▸ hx)]
    exact hk

/-- A claim that does not win leaves the winners of the live claims, also when it replaces a claim
of its own session. -/
theorem computeWinners_joined (h : a.Ok)
    (hlive : isServo claim.kind = true → now - receivedAt < policy.servoLease)
    (hold : ∀ old, (a.live now).claims[claim.sessionId]? = some old →
      Replaces claim policy receivedAt old)
    (hlost : claim.sessionId ∉ (a.joined claim policy receivedAt now).computeWinners now) :
    (a.joined claim policy receivedAt now).computeWinners now = (a.live now).computeWinners now := by
  have hj : (a.joined claim policy receivedAt now).Ok := h.joined
  apply computeWinners_of_selected hj (h.live now)
  refine Selection.IsSelection.unique (candidates_wellFounded (a.live now) now) ⟨fun x => ?_⟩
    (selected_isSelection (h.live now))
  have hsel : Selection.IsSelection _ _
      {x | x ∈ (a.joined claim policy receivedAt now).candidates now}
      {x | x ∈ (a.joined claim policy receivedAt now).selected now} := selected_isSelection hj
  have hother : ∀ y ∈ (a.joined claim policy receivedAt now).selected now,
      y.claim.sessionId ≠ claim.sessionId := by
    intro y hy heq
    exact hlost (List.mem_map.2 ⟨y, hy, heq⟩)
  by_cases hx : x.claim.sessionId = claim.sessionId
  · -- the old claim of the session is blocked by what blocks the new one
    constructor
    · intro hw
      exact absurd hx (hother x hw)
    · rintro ⟨hcand, hfree⟩
      exfalso
      obtain ⟨k, hk, -⟩ := mem_candidates.1 hcand
      rw [← (h.live now).key k x hk, hx] at hk
      obtain ⟨hjoints, hpriority, htime⟩ := hold x hk
      obtain ⟨new, hstored, rfl, hprio, hreceived, hsequence, hlease⟩ : ∃ new : ClaimState,
          (a.joined claim policy receivedAt now).claims[claim.sessionId]? = some new ∧
          new.claim = claim ∧ new.priority = policy.priority ∧ new.receivedAt = receivedAt ∧
          new.receiveSequence = a.nextSequence ∧ new.lease = policy.servoLease :=
        ⟨_, by rw [joined_claims, if_pos rfl], rfl, rfl, rfl, rfl, rfl⟩
      have hnew : new.expired now = false := by
        rw [ClaimState.live_iff]
        intro hservo
        rw [hreceived, hlease]
        exact hlive hservo
      obtain ⟨y, hy, hrank, hconf⟩ :=
        hsel.exists_blocker (mem_candidates.2 ⟨_, hstored, hnew⟩) fun hw => hother _ hw rfl
      refine hfree y hy (ClaimState.outranks_trans hrank ?_) ?_
      · rw [live_claims, Option.filter_eq_some_iff] at hk
        have hseq := h.sequence _ _ hk.1
        rw [ClaimState.above_iff]
        unfold ClaimState.Above
        unfold SteadyTime at *
        omega
      · rw [ClaimState.conflicts_iff] at hconf ⊢
        rw [hjoints]
        exact hconf
  · rw [hsel.mem_iff x]
    exact and_congr_left fun _ => mem_candidates_joined x hx h

/-- The winners of the joined claims survive the removal of the displaced Moves. -/
theorem computeWinners_displace (h : a.Ok) (k : String) :
    k ∈ (a.displace claim policy receivedAt now).computeWinners now ↔
      k ∈ (a.joined claim policy receivedAt now).computeWinners now := by
  apply wins_of_removed h.joined (h.displace claim policy receivedAt now)
  · intro k state hk _
    rw [displace_claims] at hk
    split at hk
    · cases hk
    · exact hk
  · intro k hk
    rw [displace_claims, if_neg]
    intro hd
    exact ((mem_displaced _ _ _ _ _).1 hd).2.1 hk

/-- What wins beside a claim that does not is what wins without it. -/
theorem wins_of_lost (h : a.Ok)
    (hlive : isServo claim.kind = true → now - receivedAt < policy.servoLease)
    (hold : ∀ old, (a.live now).claims[claim.sessionId]? = some old →
      Replaces claim policy receivedAt old)
    (hlost : claim.sessionId ∉ (a.displace claim policy receivedAt now).computeWinners now)
    (k : String) : k ∈ (a.displace claim policy receivedAt now).computeWinners now ↔
      k ∈ (a.live now).computeWinners now := by
  rw [computeWinners_displace h] at hlost ⊢
  rw [computeWinners_joined h hlive hold hlost]

/-- A claim that does not win displaces no Move. -/
theorem displaced_nil_of_lost (h : a.Ok)
    (hlive : isServo claim.kind = true → now - receivedAt < policy.servoLease)
    (hold : ∀ old, (a.live now).claims[claim.sessionId]? = some old →
      Replaces claim policy receivedAt old)
    (hlost : claim.sessionId ∉ (a.displace claim policy receivedAt now).computeWinners now) :
    a.displaced claim policy receivedAt now = [] := by
  rw [List.eq_nil_iff_forall_not_mem]
  intro k hk
  obtain ⟨hbefore, hafter, -⟩ := (mem_displaced _ _ _ _ _).1 hk
  apply hafter
  rw [← computeWinners_displace h]
  exact (wins_of_lost h hlive hold hlost k).2 hbefore

/-- A new claim that does not win, taken back: the live claims are left. -/
theorem release_lost (h : a.Ok) (hfresh : a.claims[claim.sessionId]? = none)
    (hlive : isServo claim.kind = true → now - receivedAt < policy.servoLease)
    (hlost : claim.sessionId ∉ (a.displace claim policy receivedAt now).computeWinners now)
    (k : String) : ((a.displace claim policy receivedAt now).release claim.sessionId).claims[k]? =
      (a.live now).claims[k]? := by
  have hnone : (a.live now).claims[claim.sessionId]? = none := by
    rw [live_claims, hfresh]
    rfl
  have hnil : a.displaced claim policy receivedAt now = [] := by
    apply displaced_nil_of_lost h hlive _ hlost
    intro old hold
    rw [hnone] at hold
    cases hold
  rw [release_claims, displace_claims, hnil, if_neg List.not_mem_nil, joined_claims]
  by_cases hk : k = claim.sessionId
  · rw [if_pos hk, hk, hnone]
  · rw [if_neg hk, if_neg hk]

/-! ## When a new Move wins -/

/-- Expired claims never win. -/
theorem winners_live (h : a.Ok) (id : String) :
    id ∈ (a.live now).computeWinners now ↔ id ∈ a.computeWinners now := by
  apply wins_of_removed h (h.live now)
  · intro k state hk _
    rw [live_claims, Option.filter_eq_some_iff] at hk
    exact hk.1
  · intro k hk
    obtain ⟨state, hstate, hlive⟩ := winner_stored h hk
    rw [live_claims, hstate]
    simp [Option.filter, hlive]

/-- What stands above a new claim is selected with it as without it. -/
theorem selected_above (h : a.Ok) (hfresh : a.claims[claim.sessionId]? = none) {new x : ClaimState}
    (hstored : (a.joined claim policy receivedAt now).claims[claim.sessionId]? = some new)
    (hx : x.outranks new = true) :
    x ∈ (a.joined claim policy receivedAt now).selected now ↔ x ∈ (a.live now).selected now := by
  have hj : (a.joined claim policy receivedAt now).Ok := h.joined
  refine (selected_isSelection hj).agree (candidates_wellFounded _ now)
    (selected_isSelection (h.live now)) (P := fun x : ClaimState => x.outranks new = true)
    (fun x y hx hyx => ClaimState.outranks_trans hyx hx) (fun x hx => ?_) hx
  constructor
  · intro hin
    refine (mem_candidates_joined x (fun heq => ?_) h).1 hin
    obtain ⟨k, hk, -⟩ := mem_candidates.1 hin
    rw [← hj.key k x hk, heq, hstored] at hk
    obtain rfl := Option.some.inj hk
    exact ClaimState.outranks_irrefl _ hx
  · intro hin
    refine (mem_candidates_joined x (fun heq => ?_) h).2 hin
    obtain ⟨k, hk, -⟩ := mem_candidates.1 hin
    rw [← (h.live now).key k x hk, heq, live_claims, hfresh] at hk
    cases hk

/-- So it wins with it as it did before. -/
theorem winner_above (h : a.Ok) (hfresh : a.claims[claim.sessionId]? = none) {new x : ClaimState}
    (hstored : (a.joined claim policy receivedAt now).claims[claim.sessionId]? = some new)
    (hx : x.outranks new = true) (k : String) :
    k ∈ (a.joined claim policy receivedAt now).computeWinners now ∧
        (a.joined claim policy receivedAt now).claims[k]? = some x ↔
      k ∈ a.computeWinners now ∧ a.claims[k]? = some x := by
  have hj : (a.joined claim policy receivedAt now).Ok := h.joined
  rw [← winners_live h]
  constructor
  · rintro ⟨hwin, hk⟩
    obtain ⟨y, hy, hsel⟩ := (mem_computeWinners hj).1 hwin
    obtain rfl : x = y := Option.some.inj (hk.symm.trans hy)
    have hsel' := (selected_above h hfresh hstored hx).1 hsel
    obtain ⟨k', hk', -⟩ := mem_candidates.1 ((selected_isSelection (h.live now)).subset hsel')
    obtain rfl : k' = k := by rw [← (h.live now).key k' x hk', hj.key k x hk]
    refine ⟨(mem_computeWinners (h.live now)).2 ⟨x, hk', hsel'⟩, ?_⟩
    rw [live_claims, Option.filter_eq_some_iff] at hk'
    exact hk'.1
  · rintro ⟨hwin, hk⟩
    obtain ⟨y, hy, hsel⟩ := (mem_computeWinners (h.live now)).1 hwin
    have hlive := hy
    rw [live_claims, Option.filter_eq_some_iff] at hlive
    obtain rfl : x = y := Option.some.inj (hk.symm.trans hlive.1)
    have hsel' := (selected_above h hfresh hstored hx).2 hsel
    obtain ⟨k', hk', -⟩ := mem_candidates.1 ((selected_isSelection hj).subset hsel')
    obtain rfl : k' = k := by rw [← hj.key k' x hk', (h.live now).key k x hy]
    exact ⟨(mem_computeWinners hj).2 ⟨x, hk', hsel'⟩, hk'⟩

/-- A winner at `now` has one of the joints and stands above a Move of `priority` that comes now: it
has a higher priority, or the same and was received later than now. -/
def Outranks (a : ControlArbiter) (priority : Int) (joints : List String) (now : SteadyTime) : Prop :=
  ∃ (k : String) (state : ClaimState), k ∈ a.computeWinners now ∧ a.claims[k]? = some state ∧
    (priority < state.priority ∨ state.priority = priority ∧ now < state.receivedAt) ∧
    ∃ joint ∈ joints, joint ∈ state.claim.jointNames

/-- A new Move wins unless a winner stands above it. -/
theorem new_wins_iff (h : a.Ok) (hmove : isServo claim.kind = false)
    (hfresh : a.claims[claim.sessionId]? = none) :
    claim.sessionId ∈ (a.displace claim policy now now).computeWinners now ↔
      ¬ a.Outranks policy.priority claim.jointNames now := by
  rw [computeWinners_displace h]
  obtain ⟨new, hstored, hclaim, hpriority, hreceived, hsequence⟩ : ∃ new : ClaimState,
      (a.joined claim policy now now).claims[claim.sessionId]? = some new ∧ new.claim = claim ∧
        new.priority = policy.priority ∧ new.receivedAt = now ∧
        new.receiveSequence = a.nextSequence :=
    ⟨_, by rw [joined_claims, if_pos rfl], rfl, rfl, rfl, rfl⟩
  have hlive : new.expired now = false := by simp [ClaimState.expired, hclaim, hmove]
  -- the new claim has the last number
  have hrank : ∀ (k : String) (x : ClaimState), a.claims[k]? = some x → (x.outranks new = true ↔
      policy.priority < x.priority ∨ x.priority = policy.priority ∧ now < x.receivedAt) := by
    intro k x hk
    have hlast := h.sequence k x hk
    rw [ClaimState.above_iff]
    unfold ClaimState.Above
    unfold SteadyTime at *
    omega
  rw [wins_iff h.joined hstored, and_iff_right hlive]
  constructor
  · rintro hall ⟨k, x, hwin, hk, habove, joint, hin, hshared⟩
    have hx := (hrank k x hk).2 habove
    obtain ⟨hwin, hk⟩ := (winner_above h hfresh hstored hx k).2 ⟨hwin, hk⟩
    exact hall k x hwin hk hx ((ClaimState.conflicts_iff new x).2 ⟨joint, hclaim ▸ hin, hshared⟩)
  · intro hnone k x hwin hk hx hconflict
    obtain ⟨hwin, hk⟩ := (winner_above h hfresh hstored hx k).1 ⟨hwin, hk⟩
    obtain ⟨joint, hin, hshared⟩ := (ClaimState.conflicts_iff new x).1 hconflict
    exact hnone ⟨k, x, hwin, hk, (hrank k x hk).1 hx, joint, hclaim ▸ hin, hshared⟩

/-! ## When a servo claim is accepted -/

/-- The arbiter accepts a valid servo claim that is neither late, nor early, nor out of order. -/
theorem updateServo_accepts (hvalid : (a.validateClaim claim true).ok = true)
    (hpolicy : a.policies[claim.endpointName]? = some policy) (hpast : receivedAt ≤ now)
    (hlive : now - receivedAt < policy.servoLease)
    (horder : ∀ state, a.claims[claim.sessionId]? = some state → state.receivedAt ≤ receivedAt) :
    (a.updateServo claim receivedAt now).1.status.ok = true := by
  unfold updateServo
  simp only [hvalid, hpolicy, Bool.not_true, Bool.false_eq_true, if_false]
  rw [if_neg]
  · rfl
  · simp only [Bool.or_eq_true, decide_eq_true_eq, not_or, not_lt, not_le, Option.any_eq_true,
      not_exists, not_and]
    exact ⟨⟨hpast, hlive⟩, horder⟩

end ControlArbiter

end HumanoidMotion
