import HumanoidMotion.Lib.Machine
import HumanoidMotion.Arbitration.Winners
/-
# What the winner set is

The arbiter on its own, as a machine: any sequence of its operations, with any
arguments and times.

* `ArbiterOp`, `arbiterMachine` — the operations and the machine.
* `arbiter_ok` — in every reachable state sequence numbers tell the claims
  apart, so the comparator of the sort is a strict total order on them.
* `SameClaims` — two arbiters store the same live claims, under other ids and in
  another order.
* `winners_exact` — the winners are the one set of live claims in which each is
  free of conflicts with those above it.
-/

namespace HumanoidMotion

namespace ControlArbiter

inductive ArbiterOp where
  | registerEndpoint (policy : EndpointPolicy)
  | submitMove (claim : CommandClaim) (now : SteadyTime)
  | updateServo (claim : CommandClaim) (receivedAt now : SteadyTime)
  | evaluate (now : SteadyTime)
  | release (sessionId : String)

inductive ArbiterReply where
  | status (status : MotionStatus)
  | arbitration (result : ArbitrationResult)
  | done

def apply (a : ControlArbiter) : ArbiterOp → ArbiterReply × ControlArbiter
  | .registerEndpoint policy => (.status (a.registerEndpoint policy).1, (a.registerEndpoint policy).2)
  | .submitMove claim now => (.arbitration (a.submitMove claim now).1, (a.submitMove claim now).2)
  | .updateServo claim receivedAt now =>
    (.arbitration (a.updateServo claim receivedAt now).1, (a.updateServo claim receivedAt now).2)
  | .evaluate now => (.arbitration (a.evaluate now).1, (a.evaluate now).2)
  | .release sessionId => (.done, a.release sessionId)

def arbiterMachine : Machine ControlArbiter ArbiterOp ArbiterReply := ⟨apply⟩

/-! ## Reachable states -/

theorem Ok.policies {a : ControlArbiter} (h : a.Ok) (policies : StringMap EndpointPolicy) :
    ({ a with policies } : ControlArbiter).Ok := ⟨h.key, h.sequence, h.distinct⟩

theorem Ok.apply {a : ControlArbiter} (h : a.Ok) (op : ArbiterOp) : (a.apply op).2.Ok := by
  cases op with
  | registerEndpoint policy =>
    simp only [ControlArbiter.apply, ControlArbiter.registerEndpoint]
    split_ifs
    · exact h
    · exact h
    · exact h
    · exact h.policies _
  | submitMove claim now =>
    simp only [ControlArbiter.apply]
    rcases a.submitMove_cases claim now with h' | ⟨policy, -, -, -, -, h'⟩ | ⟨policy, -, -, -, -, h'⟩
    · rw [h'.2.2.2.2]
      exact h
    · rw [h']
      exact h.displace claim policy now now
    · rw [h']
      exact (h.displace claim policy now now).release claim.sessionId
  | updateServo claim receivedAt now =>
    simp only [ControlArbiter.apply]
    rcases a.updateServo_cases claim receivedAt now with h' | ⟨policy, h'⟩
    · rw [h'.2]
      exact h
    · rw [h'.2.2.2.2.2.2.2.2.2]
      exact h.displace claim policy receivedAt now
  | evaluate now => exact h.live now
  | release id => exact h.release id

/-- In every reachable state the claims are well stored. -/
theorem arbiter_ok (ops : List ArbiterOp) : (arbiterMachine.run {} ops).Ok := by
  apply Machine.run_invariant (fun _ op h _ => h.apply op) _ (Machine.meets_true _ ops)
  exact Ok.empty ∅

end ControlArbiter

/-! ## Rank, conflict and liveness in their own terms -/

namespace ClaimState

/-- Higher priority first, then the later receipt time, then the later receipt. -/
def Above (x y : ClaimState) : Prop :=
  y.priority < x.priority ∨ y.priority = x.priority ∧
    (y.receivedAt < x.receivedAt ∨ y.receivedAt = x.receivedAt ∧ y.receiveSequence < x.receiveSequence)

def SharesJoint (x y : ClaimState) : Prop :=
  ∃ joint, joint ∈ x.claim.jointNames ∧ joint ∈ y.claim.jointNames

/-- A Move, or a servo whose lease has not run out. -/
def Live (now : SteadyTime) (x : ClaimState) : Prop :=
  isServo x.claim.kind = true → now - x.receivedAt < x.lease

theorem above_iff {x y : ClaimState} : x.outranks y = true ↔ x.Above y := by
  unfold outranks Above
  split_ifs with h₁ h₂ <;> grind

instance : IsStrictOrder ClaimState ClaimState.Above where
  irrefl x h := outranks_irrefl x (above_iff.2 h)
  trans _ _ _ h h' := above_iff.1 (outranks_trans (above_iff.2 h) (above_iff.2 h'))

theorem live_iff {now : SteadyTime} {x : ClaimState} : x.expired now = false ↔ x.Live now := by
  simp [expired, Live]

end ClaimState

namespace ControlArbiter

variable {a : ControlArbiter} {now : SteadyTime}

def stored (a : ControlArbiter) : Set ClaimState := {x | ∃ k : String, a.claims[k]? = some x}

def liveClaims (a : ControlArbiter) (now : SteadyTime) : Set ClaimState :=
  {x | x ∈ a.stored ∧ x.Live now}

theorem candidates_eq_live : {x | x ∈ a.candidates now} = a.liveClaims now := by
  ext x
  simp only [Set.mem_ofPred_eq, mem_candidates, liveClaims, stored, ← ClaimState.live_iff]
  constructor
  · rintro ⟨k, hk, hlive⟩
    exact ⟨⟨k, hk⟩, hlive⟩
  · rintro ⟨⟨k, hk⟩, hlive⟩
    exact ⟨k, hk, hlive⟩

/-- What the claim set asks of a winner set: a live claim is in it iff no member above it shares a
joint with it. -/
abbrev WinnerSet (a : ControlArbiter) (now : SteadyTime) (W : Set ClaimState) : Prop :=
  Selection.IsSelection ClaimState.Above ClaimState.SharesJoint (a.liveClaims now) W

theorem selected_winnerSet (h : a.Ok) : a.WinnerSet now {x | x ∈ a.selected now} := by
  have hsel : Selection.IsSelection _ _ {x | x ∈ a.candidates now} {x | x ∈ a.selected now} :=
    selected_isSelection h
  rw [candidates_eq_live] at hsel
  refine ⟨fun x => (hsel.mem_iff x).trans ?_⟩
  simp only [ClaimState.above_iff, ClaimState.conflicts_iff]
  rfl

theorem winnerSet_unique {V W : Set ClaimState} (h : a.WinnerSet now V) (h' : a.WinnerSet now W) :
    V = W := by
  refine Selection.IsSelection.unique ?_ h h'
  have hwf := candidates_wellFounded a now
  rw [candidates_eq_live] at hwf
  simpa only [ClaimState.above_iff] using hwf

theorem selected_pairwise (h : a.Ok) : (a.selected now).Pairwise ClaimState.Above :=
  ((ranked_pairwise h).sublist (Selection.greedy_sublist _)).imp ClaimState.above_iff.1

/-- Stored claims are never of one rank. -/
theorem stored_trichotomous (h : a.Ok) {x y : ClaimState} (hx : x ∈ a.stored) (hy : y ∈ a.stored)
    (hne : x ≠ y) : x.Above y ∨ y.Above x := by
  obtain ⟨k, hk⟩ := hx
  obtain ⟨k', hk'⟩ := hy
  by_cases hxy : x.outranks y = true
  · exact .inl (ClaimState.above_iff.1 hxy)
  by_cases hyx : y.outranks x = true
  · exact .inr (ClaimState.above_iff.1 hyx)
  exfalso
  apply hne
  have hseq := ClaimState.outranks_total (Bool.eq_false_iff.2 hxy) (Bool.eq_false_iff.2 hyx)
  have hkk := h.distinct k k' x y hk hk' hseq
  rw [hkk, hk'] at hk
  exact (Option.some.inj hk).symm

/-! ## The same claims under other ids, stored in another order -/

/-- `y` is the claim `x` under the id that `f` gives it. -/
structure Renamed (f : String → String) (x y : ClaimState) : Prop where
  sessionId : y.claim.sessionId = f x.claim.sessionId
  joints : ∀ joint, joint ∈ y.claim.jointNames ↔ joint ∈ x.claim.jointNames
  priority : y.priority = x.priority
  receivedAt : y.receivedAt = x.receivedAt

/-- The live claims of `b` are those of `a` under the ids that `f` gives them. Sequence numbers may
differ as long as they break ties in the same way. -/
structure SameClaims (f : String → String) (now : SteadyTime) (a b : ControlArbiter) : Prop where
  forth : ∀ x ∈ a.liveClaims now, ∃ y ∈ b.liveClaims now, Renamed f x y
  back : ∀ y ∈ b.liveClaims now, ∃ x ∈ a.liveClaims now, Renamed f x y
  ties : ∀ x ∈ a.liveClaims now, ∀ x' ∈ a.liveClaims now, ∀ y ∈ b.liveClaims now,
    ∀ y' ∈ b.liveClaims now, Renamed f x y → Renamed f x' y' → x.priority = x'.priority →
    x.receivedAt = x'.receivedAt → (y.receiveSequence < y'.receiveSequence ↔
      x.receiveSequence < x'.receiveSequence)

section
variable {b : ControlArbiter} {f : String → String}

theorem Renamed.above_iff (h : SameClaims f now a b) {x x' y y' : ClaimState}
    (hx : x ∈ a.liveClaims now) (hx' : x' ∈ a.liveClaims now) (hy : y ∈ b.liveClaims now)
    (hy' : y' ∈ b.liveClaims now) (hxy : Renamed f x y) (hxy' : Renamed f x' y') :
    y.Above y' ↔ x.Above x' := by
  unfold ClaimState.Above
  rw [hxy.priority, hxy'.priority, hxy.receivedAt, hxy'.receivedAt]
  refine or_congr_right (and_congr_right fun hp => or_congr_right (and_congr_right fun hr => ?_))
  exact h.ties x' hx' x hx y' hy' y hy hxy' hxy hp hr

theorem Renamed.sharesJoint_iff {x x' y y' : ClaimState} (hxy : Renamed f x y)
    (hxy' : Renamed f x' y') : y.SharesJoint y' ↔ x.SharesJoint x' := by
  simp only [ClaimState.SharesJoint, hxy.joints, hxy'.joints]

theorem live_key (h : a.Ok) {x : ClaimState} (hx : x ∈ a.liveClaims now) :
    a.claims[x.claim.sessionId]? = some x := by
  obtain ⟨⟨k, hk⟩, -⟩ := hx
  rw [h.key k x hk]
  exact hk

/-- One id stores one claim, so a claim has one renamed copy. -/
theorem Renamed.unique (hb : b.Ok) {x y y' : ClaimState} (hy : y ∈ b.liveClaims now)
    (hy' : y' ∈ b.liveClaims now) (hxy : Renamed f x y) (hxy' : Renamed f x y') : y = y' := by
  have hk := live_key hb hy
  have hk' := live_key hb hy'
  rw [hxy.sessionId] at hk
  rw [hxy'.sessionId, hk] at hk'
  exact Option.some.inj hk'

/-- Renaming carries the ranked selection along. -/
theorem selected_renamed (ha : a.Ok) (hb : b.Ok) (h : SameClaims f now a b) {g : ClaimState → ClaimState}
    (hg : ∀ x ∈ a.liveClaims now, g x ∈ b.liveClaims now ∧ Renamed f x (g x)) :
    b.selected now = (a.selected now).map g := by
  have hW : a.WinnerSet now {x | x ∈ a.selected now} := selected_winnerSet ha
  have hrank : ∀ x ∈ a.liveClaims now, ∀ y ∈ a.liveClaims now, (g x).Above (g y) ↔ x.Above y := by
    intro x hx y hy
    exact Renamed.above_iff h hx hy (hg x hx).1 (hg y hy).1 (hg x hx).2 (hg y hy).2
  have himage : g '' a.liveClaims now = b.liveClaims now := by
    apply Set.Subset.antisymm
    · rintro _ ⟨x, hx, rfl⟩
      exact (hg x hx).1
    · intro y hy
      obtain ⟨x, hx, hxy⟩ := h.back y hy
      exact ⟨x, hx, Renamed.unique hb (hg x hx).1 hy (hg x hx).2 hxy⟩
  have hset : {y | y ∈ b.selected now} = g '' {x | x ∈ a.selected now} := by
    apply winnerSet_unique (selected_winnerSet hb)
    have himg : Selection.IsSelection ClaimState.Above ClaimState.SharesJoint
        (g '' a.liveClaims now) (g '' {x | x ∈ a.selected now}) :=
      hW.image hrank fun x hx y hy => Renamed.sharesJoint_iff (hg x hx).2 (hg y hy).2
    rw [himage] at himg
    exact himg
  have hsorted : ((a.selected now).map g).Pairwise ClaimState.Above := by
    rw [List.pairwise_map]
    refine (selected_pairwise ha).imp_of_mem ?_
    intro x y hx hy hxy
    exact (hrank x (hW.subset hx) y (hW.subset hy)).2 hxy
  apply (selected_pairwise hb).eq_of_mem_iff hsorted
  intro y
  rw [List.mem_map]
  exact Set.ext_iff.1 hset y

theorem SameClaims.computeWinners (ha : a.Ok) (hb : b.Ok) (h : SameClaims f now a b) :
    b.computeWinners now = (a.computeWinners now).map f := by
  choose! g hg using h.forth
  unfold ControlArbiter.computeWinners
  rw [selected_renamed ha hb h hg, List.map_map, List.map_map]
  apply List.map_congr_left
  intro x hx
  exact (hg x ((selected_winnerSet ha).subset hx)).2.sessionId

end

/-! ## The meaning of `computeWinners` -/

/-- In every reachable state `computeWinners` lists, in rank order, the ids of the one set of live
claims in which a live claim is left out iff it shares a joint with a member above it. -/
theorem winners_exact (ops : List ArbiterOp) (now : SteadyTime) :
    let a := arbiterMachine.run {} ops
    (∃ W : List ClaimState,
      a.computeWinners now = W.map (·.claim.sessionId) ∧ W.Pairwise ClaimState.Above ∧
      (∀ x ∈ W, a.claims[x.claim.sessionId]? = some x) ∧
      a.WinnerSet now {x | x ∈ W} ∧ (∀ V, a.WinnerSet now V → V = {x | x ∈ W}) ∧
      W.Pairwise (fun x y => ∀ joint ∈ x.claim.jointNames, joint ∉ y.claim.jointNames) ∧
      ∀ x ∈ a.liveClaims now, x ∉ W → ∃ y ∈ W, y.Above x ∧ x.SharesJoint y) ∧
    (∀ x ∈ a.stored, ¬ x.Above x) ∧
    (∀ x ∈ a.stored, ∀ y ∈ a.stored, ∀ z ∈ a.stored, x.Above y → y.Above z → x.Above z) ∧
    (∀ x ∈ a.stored, ∀ y ∈ a.stored, x ≠ y → x.Above y ∨ y.Above x) ∧
    ∀ ops' f, SameClaims f now a (arbiterMachine.run {} ops') →
      (arbiterMachine.run {} ops').computeWinners now = (a.computeWinners now).map f := by
  intro a
  have ha : a.Ok := arbiter_ok ops
  have hW : a.WinnerSet now {x | x ∈ a.selected now} := selected_winnerSet ha
  refine ⟨⟨a.selected now, rfl, selected_pairwise ha, ?_, hW, ?_, ?_, ?_⟩, ?_, ?_, ?_, ?_⟩
  · intro x hx
    exact live_key ha (hW.subset hx)
  · intro V hV
    exact winnerSet_unique hV hW
  · refine (selected_pairwise ha).imp_of_mem ?_
    intro x y hx hy hxy joint hj hj'
    exact hW.compatible hy hx hxy ⟨joint, hj', hj⟩
  · intro x hx hlost
    exact hW.exists_blocker hx hlost
  · intro x _
    exact irrefl x
  · intro x _ y _ z _ hxy hyz
    exact IsTrans.trans x y z hxy hyz
  · intro x hx y hy hne
    exact stored_trichotomous ha hx hy hne
  · intro ops' f hsame
    exact hsame.computeWinners ha (arbiter_ok ops')

end ControlArbiter

end HumanoidMotion
