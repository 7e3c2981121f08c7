import HumanoidMotion.Arbitration.Losers
/-
# Servos that wait for the joints of a Move

The selection lets a Move win although a servo outranks it on one of its joints: as
long as a third claim keeps that servo out. Such a servo *shadows* the Move. Once the
third claim is gone the Move loses, outside of any submission, and only submissions
remove Moves (`control_arbiter.cpp:111`).

* `shadowless` — no live servo shadows a stored Move.
* `MovesWin`, `MovesApart` — every Move wins, no two share a joint.
* `MovesApart.movesWin` — over shadowless claims the Moves win, whatever claims go away.
* `displace_movesWin` — a submission removes the Moves that would lose.
-/

namespace HumanoidMotion

/-- The servo outranks the Move on one of its joints. -/
def ClaimState.shadows (now : SteadyTime) (servo move : ClaimState) : Bool :=
  isMove move.claim.kind && isServo servo.claim.kind && !servo.expired now && servo.outranks move &&
    move.conflicts servo

namespace ControlArbiter

def shadowless (a : ControlArbiter) (now : SteadyTime) : Bool :=
  a.claims.toList.all fun servo => a.claims.toList.all fun move => !servo.2.shadows now move.2

def MovesWin (a : ControlArbiter) (now : SteadyTime) : Prop :=
  ∀ (k : String) state, a.claims[k]? = some state → isMove state.claim.kind = true →
    k ∈ a.winners now

def MovesApart (a : ControlArbiter) : Prop :=
  ∀ (k k' : String) x y, a.claims[k]? = some x → a.claims[k']? = some y → k ≠ k' →
    isMove x.claim.kind = true → isMove y.claim.kind = true → x.conflicts y = false

/-- The claims of `b` are stored in `a`. -/
def Fewer (a b : ControlArbiter) : Prop :=
  ∀ (k : String) state, b.claims[k]? = some state → a.claims[k]? = some state

variable {a b c : ControlArbiter} {claim : CommandClaim} {policy : EndpointPolicy}
  {receivedAt now : SteadyTime}

theorem shadowless_iff : a.shadowless now = true ↔ ∀ (k k' : String) x y,
    a.claims[k]? = some x → a.claims[k']? = some y → x.shadows now y = false := by
  simp only [shadowless, List.all_eq_true, Prod.forall, Std.TreeMap.mem_toList_iff_getElem?_eq_some,
    Bool.not_eq_true']
  exact ⟨fun h k k' x y hx hy => h k x hx k' y hy, fun h k x hx k' y hy => h k k' x y hx hy⟩

/-! ## Claims that go away -/

theorem Fewer.refl (a : ControlArbiter) : Fewer a a := fun _ _ h => h

theorem Fewer.trans (h : Fewer a b) (h' : Fewer b c) : Fewer a c :=
  fun k state hk => h k state (h' k state hk)

theorem Fewer.of_eq (h : b.claims = a.claims) : Fewer a b := fun _ _ hk => h ▸ hk

theorem Fewer.none (h : Fewer a b) {k : String} (hk : a.claims[k]? = none) :
    b.claims[k]? = none := by
  rw [Option.eq_none_iff_forall_not_mem]
  intro state hstate
  rw [h k state hstate] at hk
  cases hk

theorem fewer_live (a : ControlArbiter) (now : SteadyTime) : Fewer a (a.live now) := by
  intro k state hk
  rw [live_claims] at hk
  exact (Option.filter_eq_some_iff.1 hk).1

theorem Fewer.shadowless (h : Fewer a b) (hs : a.shadowless now = true) : b.shadowless now = true :=
  shadowless_iff.2 fun k k' x y hx hy => shadowless_iff.1 hs k k' x y (h k x hx) (h k' y hy)

theorem Fewer.movesApart (h : Fewer a b) (ha : a.MovesApart) : b.MovesApart :=
  fun k k' x y hx hy => ha k k' x y (h k x hx) (h k' y hy)

/-! ## The Moves win -/

theorem MovesApart.movesWin (ha : a.Ok) (hapart : a.MovesApart) (hs : a.shadowless now = true) :
    a.MovesWin now := by
  intro k state hk hmove
  have hlive : state.expired now = false := by
    simp only [isMove, Bool.not_eq_true'] at hmove
    simp [ClaimState.expired, hmove]
  refine (wins_iff ha hk).2 ⟨hlive, fun k' other hwin hk' hrank hconflict => ?_⟩
  cases hkind : isServo other.claim.kind with
  | false =>
    have hne : k ≠ k' := by
      rintro rfl
      obtain rfl := Option.some.inj (hk.symm.trans hk')
      exact ClaimState.outranks_irrefl state hrank
    rw [hapart k k' state other hk hk' hne hmove (by simp [isMove, hkind])] at hconflict
    cases hconflict
  | true =>
    obtain ⟨stored, hstored, hrunning⟩ := winner_stored ha hwin
    obtain rfl := Option.some.inj (hk'.symm.trans hstored)
    have hshadow := shadowless_iff.1 hs k' k other state hk' hk
    simp [ClaimState.shadows, hmove, hkind, hrunning, hrank, hconflict] at hshadow

theorem MovesWin.apart (ha : a.Ok) (h : a.MovesWin now) : a.MovesApart := by
  intro k k' x y hx hy hne hmove hmove'
  rw [Bool.eq_false_iff]
  intro hconflict
  obtain ⟨joint, hj, hj'⟩ := (ClaimState.conflicts_iff x y).1 hconflict
  exact winners_disjoint ha (h k x hx hmove) (h k' y hy hmove') hx hy hne hj hj'

theorem MovesWin.congr (h : a.MovesWin now) (heq : ∀ k : String, b.claims[k]? = a.claims[k]?) :
    b.MovesWin now := by
  intro k state hk hmove
  change k ∈ b.computeWinners now
  rw [computeWinners_congr heq]
  exact h k state ((heq k).symm.trans hk) hmove

/-- A submission stores no claim but its own. -/
theorem displace_stored {k : String} {state : ClaimState}
    (hk : (a.displace claim policy receivedAt now).claims[k]? = some state)
    (hne : k ≠ claim.sessionId) : (a.live now).claims[k]? = some state := by
  rw [displace_claims] at hk
  split at hk
  · cases hk
  · rwa [joined_claims, if_neg hne] at hk

theorem displace_none {k : String} (hk : a.claims[k]? = none) (hne : k ≠ claim.sessionId) :
    (a.displace claim policy receivedAt now).claims[k]? = none := by
  rw [Option.eq_none_iff_forall_not_mem]
  intro state hstate
  exact absurd (displace_stored hstate hne) (by simp [(fewer_live a now).none hk])

/-- A submission keeps the Moves that win beside it, and removes the others. -/
theorem displace_movesWin (ha : a.Ok) (hapart : a.MovesApart) (hs : a.shadowless now = true)
    (hown : isMove claim.kind = true →
      claim.sessionId ∈ (a.displace claim policy receivedAt now).winners now) :
    (a.displace claim policy receivedAt now).MovesWin now := by
  intro k state hk hmove
  have hfewer := fewer_live a now
  have hbefore : (a.live now).MovesWin now :=
    (hfewer.movesApart hapart).movesWin (ha.live now) (hfewer.shadowless hs)
  have hkept : k ∉ a.displaced claim policy receivedAt now := by
    intro hd
    rw [displace_claims, if_pos hd] at hk
    cases hk
  have hjoined : (a.joined claim policy receivedAt now).claims[k]? = some state := by
    rwa [displace_claims, if_neg hkept] at hk
  by_cases hne : k = claim.sessionId
  · subst hne
    rw [joined_claims, if_pos rfl] at hjoined
    cases hjoined
    exact hown hmove
  · refine (computeWinners_displace ha k).2 ?_
    by_contra hlost
    rw [mem_displaced, not_and, not_and] at hkept
    exact hkept (hbefore k state (displace_stored hk hne) hmove) hlost ⟨state, hjoined, hmove⟩

end ControlArbiter

end HumanoidMotion
