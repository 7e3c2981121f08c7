import Mathlib.Data.List.Pairwise
import Mathlib.Order.WellFoundedSet
/-
# Greedy selection of pairwise compatible elements

Candidates come ranked; each one is taken unless it conflicts with one already
taken. `greedy` is the loop, `IsSelection` says what it is for, without a loop:
an element is selected iff it is a candidate and no selected element that
outranks it conflicts with it.

* `greedy_isSelection` — the loop over a strictly ranked list computes it.
* `IsSelection.unique` — at most one set satisfies it, so the result depends on
  the set of candidates and their rank only.
* `IsSelection.remove` — taking losers out changes nothing.
* `IsSelection.image` — renaming the candidates renames the selection.
-/

namespace Selection

variable {α : Type}

/-- One turn of the selection loop. -/
def take (conflict : α → α → Bool) (selected : List α) (candidate : α) : List α :=
  if selected.any (conflict candidate) then selected else selected ++ [candidate]

def greedy (conflict : α → α → Bool) (candidates : List α) : List α :=
  candidates.foldl (take conflict) []

/-- `W` is the selection from `L` under the ranking `outranks`. -/
structure IsSelection (outranks conflict : α → α → Prop) (L W : Set α) : Prop where
  mem_iff : ∀ x, x ∈ W ↔ x ∈ L ∧ ∀ y ∈ W, outranks y x → ¬ conflict x y

variable {outranks conflict : α → α → Prop} {L W : Set α}

namespace IsSelection

theorem subset (h : IsSelection outranks conflict L W) {x : α} (hx : x ∈ W) : x ∈ L :=
  ((h.mem_iff x).1 hx).1

theorem compatible (h : IsSelection outranks conflict L W) {x y : α} (hx : x ∈ W) (hy : y ∈ W)
    (hxy : outranks y x) : ¬ conflict x y :=
  ((h.mem_iff x).1 hx).2 y hy hxy

/-- A candidate left out conflicts with a selected element that outranks it. -/
theorem exists_blocker (h : IsSelection outranks conflict L W) {x : α} (hx : x ∈ L)
    (hw : x ∉ W) : ∃ y ∈ W, outranks y x ∧ conflict x y := by
  by_contra hno
  push Not at hno
  exact hw ((h.mem_iff x).2 ⟨hx, hno⟩)

/-- Candidates that are not selected can be taken away. -/
theorem remove (h : IsSelection outranks conflict L W) {L' : Set α} (hsub : ∀ x ∈ L', x ∈ L)
    (hW : ∀ x ∈ W, x ∈ L') : IsSelection outranks conflict L' W where
  mem_iff x := ⟨fun hx => ⟨hW x hx, ((h.mem_iff x).1 hx).2⟩,
    fun hx => (h.mem_iff x).2 ⟨hsub x hx.1, hx.2⟩⟩

/-- Over candidates ranked without infinite ascent the selection is determined. -/
theorem unique (hwf : L.WellFoundedOn outranks) {W' : Set α}
    (h : IsSelection outranks conflict L W) (h' : IsSelection outranks conflict L W') : W = W' := by
  have key : ∀ x ∈ L, x ∈ W ↔ x ∈ W' := by
    intro x hx
    refine hwf.induction (P := fun x => x ∈ W ↔ x ∈ W') hx fun x _ ih => ?_
    rw [h.mem_iff, h'.mem_iff]
    refine and_congr_right fun _ => ⟨fun hW y hy hyx => ?_, fun hW y hy hyx => ?_⟩
    · exact hW y ((ih y (h'.subset hy) hyx).2 hy) hyx
    · exact hW y ((ih y (h.subset hy) hyx).1 hy) hyx
  ext x
  exact ⟨fun hx => (key x (h.subset hx)).1 hx, fun hx => (key x (h'.subset hx)).2 hx⟩

/-- Two selections agree on what no difference between their candidates outranks. -/
theorem agree {L' W' : Set α} (hwf : L.WellFoundedOn outranks)
    (h : IsSelection outranks conflict L W) (h' : IsSelection outranks conflict L' W')
    {P : α → Prop} (hup : ∀ x y, P x → outranks y x → P y) (hsame : ∀ x, P x → (x ∈ L ↔ x ∈ L'))
    {x : α} (hx : P x) : x ∈ W ↔ x ∈ W' := by
  have key : ∀ x ∈ L, P x → (x ∈ W ↔ x ∈ W') := by
    intro x hx
    refine hwf.induction (P := fun x => P x → (x ∈ W ↔ x ∈ W')) hx fun x _ ih hp => ?_
    rw [h.mem_iff, h'.mem_iff, hsame x hp]
    refine and_congr_right fun _ => ⟨fun hW y hy hyx => ?_, fun hW y hy hyx => ?_⟩
    · have hyP := hup x y hp hyx
      exact hW y ((ih y ((hsame y hyP).2 (h'.subset hy)) hyx hyP).2 hy) hyx
    · exact hW y ((ih y (h.subset hy) hyx (hup x y hp hyx)).1 hy) hyx
  constructor
  · exact fun hw => (key x (h.subset hw) hx).1 hw
  · exact fun hw => (key x ((hsame x hx).2 (h'.subset hw)) hx).2 hw

/-- A map that respects rank and conflict carries the selection along. -/
theorem image {β : Type} {outranks' conflict' : β → β → Prop} {g : α → β}
    (h : IsSelection outranks conflict L W)
    (hrank : ∀ x ∈ L, ∀ y ∈ L, outranks' (g x) (g y) ↔ outranks x y)
    (hconf : ∀ x ∈ L, ∀ y ∈ L, conflict' (g x) (g y) ↔ conflict x y) :
    IsSelection outranks' conflict' (g '' L) (g '' W) where
  mem_iff z := by
    constructor
    · rintro ⟨x, hx, rfl⟩
      refine ⟨⟨x, h.subset hx, rfl⟩, ?_⟩
      rintro _ ⟨y, hy, rfl⟩ hyx hc
      rw [hrank y (h.subset hy) x (h.subset hx)] at hyx
      rw [hconf x (h.subset hx) y (h.subset hy)] at hc
      exact h.compatible hx hy hyx hc
    · rintro ⟨⟨x, hx, rfl⟩, hall⟩
      refine ⟨x, (h.mem_iff x).2 ⟨hx, ?_⟩, rfl⟩
      intro y hy hyx hc
      have hyL := h.subset hy
      exact hall (g y) ⟨y, hy, rfl⟩ ((hrank y hyL x hx).2 hyx) ((hconf x hx y hyL).2 hc)

end IsSelection

/-! ## The loop -/

variable {conf : α → α → Bool}

theorem foldl_take_sublist (candidates acc : List α) :
    (candidates.foldl (take conf) acc).Sublist (acc ++ candidates) := by
  induction candidates generalizing acc with
  | nil => simp
  | cons x xs ih =>
    simp only [List.foldl_cons]
    refine (ih _).trans ?_
    unfold take
    split
    · exact List.Sublist.append (List.Sublist.refl _) (List.sublist_cons_self _ _)
    · simp

/-- The selected elements keep the order of the candidates. -/
theorem greedy_sublist (candidates : List α) : (greedy conf candidates).Sublist candidates := by
  simpa [greedy] using foldl_take_sublist candidates ([] : List α)

theorem mem_foldl_take_of_mem {x : α} (candidates acc : List α) (hx : x ∈ acc) :
    x ∈ candidates.foldl (take conf) acc := by
  induction candidates generalizing acc with
  | nil => exact hx
  | cons y ys ih =>
    refine ih _ ?_
    unfold take
    split
    · exact hx
    · exact List.mem_append_left _ hx

/-- What the loop adds to an accumulator: the candidates compatible with every selected element
that outranks them. -/
theorem mem_foldl_take (hirr : ∀ x, ¬ outranks x x) (hasymm : ∀ x y, outranks x y → ¬ outranks y x)
    (candidates acc : List α) (hsorted : (acc ++ candidates).Pairwise outranks) (x : α) :
    x ∈ candidates.foldl (take conf) acc ↔ x ∈ acc ∨
      (x ∈ candidates ∧ ∀ y ∈ candidates.foldl (take conf) acc, outranks y x → conf x y = false) := by
  induction candidates generalizing acc with
  | nil => simp
  | cons a t ih =>
    have hacc : ∀ y ∈ acc, outranks y a := fun y hy =>
      (List.pairwise_append.1 hsorted).2.2 y hy a List.mem_cons_self
    have htail : ∀ y ∈ t, outranks a y := fun y hy =>
      List.rel_of_pairwise_cons (List.pairwise_append.1 hsorted).2.1 hy
    have hfresh : a ∉ acc ∧ a ∉ t :=
      ⟨fun h => hirr a (hacc a h), fun h => hirr a (htail a h)⟩
    simp only [List.foldl_cons]
    by_cases hc : acc.any (conf a) = true
    · -- the head meets a conflict: it is skipped, and the accumulator says why
      have htake : take conf acc a = acc := by simp [take, hc]
      have hsub : (acc ++ t).Pairwise outranks :=
        hsorted.sublist (List.Sublist.append (List.Sublist.refl _) (List.sublist_cons_self _ _))
      rw [htake, ih acc hsub]
      refine or_congr_right ⟨fun h => ⟨List.mem_cons_of_mem _ h.1, h.2⟩, fun h => ⟨?_, h.2⟩⟩
      rcases List.mem_cons.1 h.1 with rfl | hmem
      · obtain ⟨y, hy, hxy⟩ := List.any_eq_true.1 hc
        rw [h.2 y (mem_foldl_take_of_mem t acc hy) (hacc y hy)] at hxy
        cases hxy
      · exact hmem
    · -- the head is taken: nothing that outranks it and is selected conflicts with it
      have htake : take conf acc a = acc ++ [a] := by simp [take, hc]
      have hsub : (acc ++ [a] ++ t).Pairwise outranks := by simpa using hsorted
      rw [htake, ih (acc ++ [a]) hsub, List.mem_append, List.mem_singleton, or_assoc]
      refine or_congr_right ⟨?_, ?_⟩
      · rintro (rfl | h)
        · refine ⟨List.mem_cons_self, fun y hy hya => ?_⟩
          have hmem : y ∈ acc ++ [x] ++ t := (foldl_take_sublist t (acc ++ [x])).subset hy
          simp only [List.mem_append, List.mem_singleton] at hmem
          rcases hmem with (hmem | rfl) | hmem
          · simp only [List.any_eq_true, not_exists, not_and, Bool.not_eq_true] at hc
            exact hc y hmem
          · exact absurd hya (hirr y)
          · exact absurd hya (hasymm _ _ (htail y hmem))
        · exact ⟨List.mem_cons_of_mem _ h.1, h.2⟩
      · rintro ⟨hmem, h⟩
        rcases List.mem_cons.1 hmem with rfl | hmem
        · exact .inl rfl
        · exact .inr ⟨hmem, h⟩

/-- The loop over a strictly ranked list computes the selection. -/
theorem greedy_isSelection (hirr : ∀ x, ¬ outranks x x)
    (hasymm : ∀ x y, outranks x y → ¬ outranks y x) {candidates : List α}
    (hsorted : candidates.Pairwise outranks) :
    IsSelection outranks (fun x y => conf x y = true) {x | x ∈ candidates}
      {x | x ∈ greedy conf candidates} where
  mem_iff x := by
    have h : x ∈ candidates.foldl (take conf) [] ↔ _ :=
      mem_foldl_take hirr hasymm candidates [] (by simpa using hsorted) x
    simpa [greedy, Bool.not_eq_true] using h

end Selection
