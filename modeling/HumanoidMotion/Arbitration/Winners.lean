import HumanoidMotion.Arbitration.Claims
/-
# The winners are the greedy selection of the live claims

* `outranks` is a strict order, total on claims with different sequence numbers.
* `Ok` — claims are stored under their own id, and no two share a sequence number;
  every operation keeps it.
* `wins_iff` — a live claim wins iff no winner that outranks it conflicts with it.
* `winners_disjoint` — two winners share no joint.
* `wins_of_removed` — taking losers out leaves the winners as they are.
-/

namespace HumanoidMotion

namespace ClaimState

theorem outranks_irrefl (x : ClaimState) : ¬ x.outranks x = true := by
  simp [outranks]

theorem outranks_asymm {x y : ClaimState} (h : x.outranks y = true) : ¬ y.outranks x = true := by
  unfold outranks at h ⊢
  grind

theorem outranks_trans {x y z : ClaimState} (h : x.outranks y = true) (h' : y.outranks z = true) :
    x.outranks z = true := by
  unfold outranks at h h' ⊢
  grind

/-- Claims that do not outrank each other carry one sequence number. -/
theorem outranks_total {x y : ClaimState} (h : x.outranks y = false) (h' : y.outranks x = false) :
    x.receiveSequence = y.receiveSequence := by
  unfold outranks at h h'
  grind

theorem not_outranks_trans {x y z : ClaimState} (h : y.outranks x = false)
    (h' : z.outranks y = false) : z.outranks x = false := by
  unfold outranks at h h' ⊢
  grind

instance : IsStrictOrder ClaimState fun x y => x.outranks y = true where
  irrefl := outranks_irrefl
  trans _ _ _ := outranks_trans

theorem overlaps_iff (left right : List String) :
    overlaps left right = true ↔ ∃ joint, joint ∈ left ∧ joint ∈ right := by
  simp [overlaps, and_comm]

theorem conflicts_iff (x y : ClaimState) : x.conflicts y = true ↔
    ∃ joint, joint ∈ x.claim.jointNames ∧ joint ∈ y.claim.jointNames := overlaps_iff _ _

end ClaimState

namespace ControlArbiter

/-- Claims are stored under their own id, and their sequence numbers tell them apart. -/
structure Ok (a : ControlArbiter) : Prop where
  key : ∀ (k : String) state, a.claims[k]? = some state → state.claim.sessionId = k
  sequence : ∀ (k : String) state, a.claims[k]? = some state → state.receiveSequence < a.nextSequence
  distinct : ∀ (k k' : String) state state', a.claims[k]? = some state →
    a.claims[k']? = some state' → state.receiveSequence = state'.receiveSequence → k = k'

variable {a : ControlArbiter} {now : SteadyTime}

/-! ## Every operation keeps the claims well stored -/

theorem Ok.empty (policies : StringMap EndpointPolicy) : ({ policies } : ControlArbiter).Ok where
  key := by simp
  sequence := by simp
  distinct := by simp

/-- Claims may go away. -/
theorem Ok.subset {b : ControlArbiter} (h : a.Ok) (hseq : b.nextSequence = a.nextSequence)
    (hsub : ∀ (k : String) state, b.claims[k]? = some state → a.claims[k]? = some state) :
    b.Ok where
  key k state hk := h.key k state (hsub k state hk)
  sequence k state hk := by rw [hseq]; exact h.sequence k state (hsub k state hk)
  distinct k k' x y hx hy heq := h.distinct k k' x y (hsub k x hx) (hsub k' y hy) heq

theorem Ok.live (h : a.Ok) (now : SteadyTime) : (a.live now).Ok := by
  refine h.subset rfl ?_
  intro k state hk
  rw [live_claims] at hk
  exact (Option.filter_eq_some_iff.1 hk).1

/-- A claim is stored under its own id with a number that no stored claim carries. -/
theorem Ok.store (h : a.Ok) (claim : CommandClaim) (policy : EndpointPolicy)
    (receivedAt : SteadyTime) : (a.store claim policy receivedAt).Ok := by
  have hlookup : ∀ k : String, (a.store claim policy receivedAt).claims[k]? =
      if k = claim.sessionId then
        some { claim, priority := policy.priority, receiveSequence := a.nextSequence, receivedAt,
               lease := policy.servoLease }
      else a.claims[k]? := by
    intro k
    simp [ControlArbiter.store, Std.TreeMap.getElem?_insert, eq_comm (a := k)]
  have hnext : (a.store claim policy receivedAt).nextSequence = a.nextSequence + 1 := rfl
  constructor
  · intro k state hk
    rw [hlookup] at hk
    split at hk
    · rename_i hid
      cases hk
      exact hid.symm
    · exact h.key k state hk
  · intro k state hk
    rw [hlookup] at hk
    split at hk
    · cases hk
      exact Nat.lt_succ_self _
    · have := h.sequence k state hk
      omega
  · intro k k' x y hx hy heq
    rw [hlookup] at hx hy
    split at hx <;> split at hy
    · rename_i hk hk'
      rw [hk, hk']
    · -- the new number is larger than every stored one
      cases hx
      have := h.sequence k' y hy
      simp only at heq
      omega
    · cases hy
      have := h.sequence k x hx
      simp only at heq
      omega
    · exact h.distinct k k' x y hx hy heq

theorem Ok.displace (h : a.Ok) (claim : CommandClaim) (policy : EndpointPolicy)
    (receivedAt now : SteadyTime) : (a.displace claim policy receivedAt now).Ok := by
  refine ((h.live now).store claim policy receivedAt).subset rfl ?_
  intro k state hk
  rw [displace_claims] at hk
  split at hk
  · cases hk
  · exact hk

theorem Ok.release (h : a.Ok) (id : String) : (a.release id).Ok := by
  refine h.subset rfl ?_
  intro k state hk
  rw [release_claims] at hk
  split at hk
  · cases hk
  · exact hk

/-! ## The ranked candidates -/

theorem mem_candidates {state : ClaimState} : state ∈ a.candidates now ↔
    ∃ k : String, a.claims[k]? = some state ∧ state.expired now = false := by
  simp only [candidates, List.mem_filter, List.mem_map, Prod.exists, Bool.not_eq_true',
    Std.TreeMap.mem_toList_iff_getElem?_eq_some]
  constructor
  · rintro ⟨⟨k, _, hk, rfl⟩, hlive⟩
    exact ⟨k, hk, hlive⟩
  · rintro ⟨k, hk, hlive⟩
    exact ⟨⟨k, state, hk, rfl⟩, hlive⟩

theorem mem_ranked {state : ClaimState} : state ∈ a.ranked now ↔ state ∈ a.candidates now :=
  List.mem_insertionSort _

/-- No two candidates carry one sequence number. -/
theorem candidates_pairwise (h : a.Ok) : (a.candidates now).Pairwise fun x y =>
    x.receiveSequence ≠ y.receiveSequence := by
  refine List.Pairwise.filter _ (List.pairwise_map.2 ?_)
  have hkeys := a.claims.distinct_keys_toList
  refine List.Pairwise.imp_of_mem ?_ hkeys
  rintro ⟨k, x⟩ ⟨k', y⟩ hx hy hne heq
  rw [Std.TreeMap.mem_toList_iff_getElem?_eq_some] at hx hy
  exact hne (by simp [h.distinct k k' x y hx hy heq])

/-- The sort leaves the candidates in strict rank order. -/
theorem ranked_pairwise (h : a.Ok) :
    (a.ranked now).Pairwise fun x y => x.outranks y = true := by
  have hsorted : (a.ranked now).Pairwise fun x y => y.outranks x = false := by
    have : IsTrans ClaimState fun x y => y.outranks x = false :=
      ⟨fun _ _ _ => ClaimState.not_outranks_trans⟩
    have : Std.Total fun x y : ClaimState => y.outranks x = false := ⟨fun x y => by
      by_cases hxy : y.outranks x = true
      · exact .inr (Bool.eq_false_iff.2 (ClaimState.outranks_asymm hxy))
      · exact .inl (Bool.eq_false_iff.2 hxy)⟩
    exact List.pairwise_insertionSort _ _
  have hne : (a.ranked now).Pairwise fun x y => x.receiveSequence ≠ y.receiveSequence :=
    (List.perm_insertionSort _ _).symm.pairwise (candidates_pairwise h) Ne.symm
  refine (hsorted.and hne).imp fun {x y} hxy => ?_
  by_contra hno
  exact hxy.2 (ClaimState.outranks_total (Bool.eq_false_iff.2 hno) hxy.1)

/-! ## The winners -/

theorem selected_isSelection (h : a.Ok) :
    Selection.IsSelection (fun x y : ClaimState => x.outranks y = true)
      (fun x y => x.conflicts y = true) {x | x ∈ a.candidates now} {x | x ∈ a.selected now} := by
  have hsel : Selection.IsSelection _ (fun x y => x.conflicts y = true)
      {x | x ∈ a.ranked now} {x | x ∈ a.selected now} :=
    Selection.greedy_isSelection ClaimState.outranks_irrefl
      (fun _ _ => ClaimState.outranks_asymm) (ranked_pairwise h)
  have hset : {x | x ∈ a.ranked now} = {x | x ∈ a.candidates now} := Set.ext fun x => mem_ranked
  rw [hset] at hsel
  exact hsel

/-- The stored claim of a winner. -/
theorem mem_computeWinners (h : a.Ok) {k : String} : k ∈ a.computeWinners now ↔
    ∃ state, a.claims[k]? = some state ∧ state ∈ a.selected now := by
  simp only [computeWinners, List.mem_map]
  constructor
  · rintro ⟨state, hsel, rfl⟩
    obtain ⟨k, hk, -⟩ := mem_candidates.1 ((selected_isSelection h).subset hsel)
    exact ⟨state, h.key k state hk ▸ hk, hsel⟩
  · rintro ⟨state, hk, hsel⟩
    exact ⟨state, hsel, h.key k state hk⟩

/-- A stored claim wins iff it is live and no winner that outranks it shares a joint with it. -/
theorem wins_iff (h : a.Ok) {k : String} {state : ClaimState} (hk : a.claims[k]? = some state) :
    k ∈ a.computeWinners now ↔ state.expired now = false ∧
      ∀ (k' : String) state', k' ∈ a.computeWinners now → a.claims[k']? = some state' →
        state'.outranks state = true → ¬ state.conflicts state' = true := by
  have hsel : state ∈ a.selected now ↔ _ := (selected_isSelection h).mem_iff state
  have hmem : k ∈ a.computeWinners now ↔ state ∈ a.selected now := by
    rw [mem_computeWinners h]
    exact ⟨fun ⟨s, hs, hsel⟩ => (Option.some.inj (hk.symm.trans hs)) ▸ hsel, fun hs => ⟨state, hk, hs⟩⟩
  rw [hmem]
  refine hsel.trans (and_congr ?_ ?_)
  · refine mem_candidates.trans ⟨fun ⟨_, _, hl⟩ => hl, fun hl => ⟨k, hk, hl⟩⟩
  · constructor
    · rintro hall k' state' hwin hk' hrank
      obtain ⟨s, hs, hssel⟩ := (mem_computeWinners h).1 hwin
      obtain rfl : state' = s := Option.some.inj (hk'.symm.trans hs)
      exact hall _ hssel hrank
    · rintro hall y hy hrank
      obtain ⟨k', hk', -⟩ := mem_candidates.1 ((selected_isSelection h).subset hy)
      exact hall k' y ((mem_computeWinners h).2 ⟨y, hk', hy⟩) hk' hrank

theorem winner_stored (h : a.Ok) {k : String} (hk : k ∈ a.computeWinners now) :
    ∃ state, a.claims[k]? = some state ∧ state.expired now = false := by
  obtain ⟨state, hs, -⟩ := (mem_computeWinners h).1 hk
  exact ⟨state, hs, ((wins_iff h hs).1 hk).1⟩

/-- Two winners share no joint. -/
theorem winners_disjoint (h : a.Ok) {k k' : String} {x y : ClaimState}
    (hk : k ∈ a.computeWinners now) (hk' : k' ∈ a.computeWinners now)
    (hx : a.claims[k]? = some x) (hy : a.claims[k']? = some y) (hne : k ≠ k') {joint : String}
    (hj : joint ∈ x.claim.jointNames) : joint ∉ y.claim.jointNames := by
  intro hj'
  by_cases hxy : x.outranks y = true
  · exact ((wins_iff h hy).1 hk').2 k x hk hx hxy
      ((ClaimState.conflicts_iff y x).2 ⟨joint, hj', hj⟩)
  · by_cases hyx : y.outranks x = true
    · exact ((wins_iff h hx).1 hk).2 k' y hk' hy hyx
        ((ClaimState.conflicts_iff x y).2 ⟨joint, hj, hj'⟩)
    · exact hne (h.distinct k k' x y hx hy
        (ClaimState.outranks_total (Bool.eq_false_iff.2 hxy) (Bool.eq_false_iff.2 hyx)))

/-- No id wins twice. -/
theorem winners_nodup (h : a.Ok) : (a.computeWinners now).Nodup := by
  have hsub : (a.selected now).Pairwise fun x y => x.outranks y = true :=
    (ranked_pairwise h).sublist (Selection.greedy_sublist _)
  refine List.pairwise_map.2 (hsub.imp_of_mem fun {x y} hx hy hxy heq => ?_)
  obtain ⟨k, hk, -⟩ := mem_candidates.1 ((selected_isSelection h).subset hx)
  obtain ⟨k', hk', -⟩ := mem_candidates.1 ((selected_isSelection h).subset hy)
  rw [h.key k x hk, h.key k' y hk'] at heq
  subst heq
  obtain rfl : x = y := Option.some.inj (hk.symm.trans hk')
  exact ClaimState.outranks_irrefl x hxy

/-! ## When the winners stay the same -/

theorem candidates_wellFounded (a : ControlArbiter) (now : SteadyTime) :
    Set.WellFoundedOn {x | x ∈ a.candidates now} fun x y : ClaimState => x.outranks y = true :=
  (List.finite_toSet (a.candidates now)).wellFoundedOn

/-- An arbiter that keeps every winner and adds no live claim has the same winners. -/
theorem wins_of_removed {b : ControlArbiter} (ha : a.Ok) (hb : b.Ok)
    (hsub : ∀ (k : String) state, b.claims[k]? = some state → state.expired now = false →
      a.claims[k]? = some state)
    (hwin : ∀ k ∈ a.computeWinners now, b.claims[k]? = a.claims[k]?) (k : String) :
    k ∈ b.computeWinners now ↔ k ∈ a.computeWinners now := by
  have hsame : {x | x ∈ a.selected now} = {x | x ∈ b.selected now} := by
    refine Selection.IsSelection.unique (candidates_wellFounded b now) ?_ (selected_isSelection hb)
    refine (selected_isSelection ha).remove ?_ ?_
    · intro x hx
      obtain ⟨k, hk, hl⟩ := mem_candidates.1 hx
      exact mem_candidates.2 ⟨k, hsub k x hk hl, hl⟩
    · intro x hx
      obtain ⟨k, hk, hl⟩ := mem_candidates.1 ((selected_isSelection ha).subset hx)
      have hw : k ∈ a.computeWinners now := (mem_computeWinners ha).2 ⟨x, hk, hx⟩
      exact mem_candidates.2 ⟨k, (hwin k hw).trans hk, hl⟩
  rw [mem_computeWinners ha, mem_computeWinners hb]
  constructor
  · rintro ⟨state, hk, hs⟩
    have hs' : state ∈ a.selected now := (Set.ext_iff.1 hsame state).2 hs
    have hl := (mem_candidates.1 ((selected_isSelection hb).subset hs))
    obtain ⟨k', hk', hlive⟩ := hl
    exact ⟨state, hsub k state hk hlive, hs'⟩
  · rintro ⟨state, hk, hs⟩
    exact ⟨state, (hwin k ((mem_computeWinners ha).2 ⟨state, hk, hs⟩)).trans hk,
      (Set.ext_iff.1 hsame state).1 hs⟩

/-- The winners depend on what is stored only. -/
theorem computeWinners_congr {b : ControlArbiter} (h : ∀ k : String, b.claims[k]? = a.claims[k]?) :
    b.computeWinners now = a.computeWinners now := by
  have hlist : b.claims.toList = a.claims.toList :=
    (Std.TreeMap.Equiv.of_forall_constGet?_eq h).toList_eq
  unfold computeWinners selected ranked candidates
  rw [hlist]

end ControlArbiter

end HumanoidMotion
