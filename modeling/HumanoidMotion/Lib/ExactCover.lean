import Mathlib.Data.Finset.Card
import Mathlib.Data.Finset.SDiff
/-
# Exact cover by backtracking

Given candidate blocks, find some that partition a set. The search takes an
element of what remains, tries the blocks that hold it and fit, and goes on with
the rest. Any element will do: in a partition it lies in one block, and that
block is tried.

* `Partition` — blocks that are disjoint and make up the whole.
* `search`, `cover` — the search; an element less remains at every level.
* `search_sound` — what is found is a partition.
* `cover_isSome_iff` — one is found exactly when there is one.
-/

namespace ExactCover

variable {α τ : Type}

structure Partition (blocks : List (Finset α)) (whole : Finset α) : Prop where
  disjoint : blocks.Pairwise Disjoint
  covers : ∀ a, a ∈ whole ↔ ∃ block ∈ blocks, a ∈ block

theorem partition_empty : Partition ([] : List (Finset α)) ∅ := ⟨.nil, by simp⟩

variable [DecidableEq α]

/-- The search with a bound on its depth. -/
def search (pick : Finset α → α) (candidates : List (Finset α × τ)) :
    Nat → Finset α → Option (List τ)
  | 0, remaining => if remaining = ∅ then some [] else none
  | depth + 1, remaining =>
    if remaining = ∅ then some []
    else candidates.findSome? fun candidate =>
      if pick remaining ∈ candidate.1 ∧ candidate.1 ⊆ remaining then
        (search pick candidates depth (remaining \ candidate.1)).map (candidate.2 :: ·)
      else none

def cover (pick : Finset α → α) (candidates : List (Finset α × τ)) (whole : Finset α) :
    Option (List τ) := search pick candidates whole.card whole

section
variable {pick : Finset α → α} {candidates : List (Finset α × τ)}

/-- A block and a partition of the rest. -/
theorem Partition.cons {block whole : Finset α} {blocks : List (Finset α)} (hblock : block ⊆ whole)
    (h : Partition blocks (whole \ block)) : Partition (block :: blocks) whole := by
  refine ⟨List.pairwise_cons.2 ⟨fun other hother => ?_, h.disjoint⟩, fun a => ?_⟩
  · rw [Finset.disjoint_left]
    intro a ha hother'
    exact (Finset.mem_sdiff.1 ((h.covers a).2 ⟨other, hother, hother'⟩)).2 ha
  · simp only [List.exists_mem_cons_iff, ← h.covers a, Finset.mem_sdiff]
    constructor
    · intro ha
      by_cases hin : a ∈ block
      · exact .inl hin
      · exact .inr ⟨ha, hin⟩
    · rintro (ha | ⟨ha, -⟩)
      · exact hblock ha
      · exact ha

/-- Without one block, the others partition the rest. -/
theorem Partition.erase {block whole : Finset α} {blocks : List (Finset α)}
    (h : Partition blocks whole) (hblock : block ∈ blocks) (hnonempty : block.Nonempty) :
    Partition (blocks.erase block) (whole \ block) := by
  have hperm := List.perm_cons_erase hblock
  have hdisjoint : (block :: blocks.erase block).Pairwise Disjoint :=
    (hperm.pairwise_iff fun hd => Disjoint.symm hd).1 h.disjoint
  obtain ⟨hothers, hrest⟩ := List.pairwise_cons.1 hdisjoint
  refine ⟨hrest, fun a => ?_⟩
  rw [Finset.mem_sdiff, h.covers]
  constructor
  · rintro ⟨⟨other, hother, ha⟩, hnot⟩
    rcases List.mem_cons.1 (hperm.subset hother) with rfl | hin
    · exact absurd ha hnot
    · exact ⟨other, hin, ha⟩
  · rintro ⟨other, hother, ha⟩
    exact ⟨⟨other, List.mem_of_mem_erase hother, ha⟩,
      fun hin => Finset.disjoint_left.1 (hothers other hother) hin ha⟩

/-- Empty blocks add nothing. -/
theorem Partition.filter_nonempty {whole : Finset α} {blocks : List (Finset α)}
    (h : Partition blocks whole) : Partition (blocks.filter (· ≠ ∅)) whole := by
  refine ⟨h.disjoint.filter _, fun a => (h.covers a).trans ?_⟩
  constructor
  · rintro ⟨block, hblock, ha⟩
    exact ⟨block, List.mem_filter.2 ⟨hblock, decide_eq_true (Finset.ne_empty_of_mem ha)⟩, ha⟩
  · rintro ⟨block, hblock, ha⟩
    exact ⟨block, (List.mem_filter.1 hblock).1, ha⟩

/-- What the search finds are the targets of blocks that partition the set. -/
theorem search_sound : ∀ {depth : Nat} {remaining : Finset α} {targets : List τ},
    search pick candidates depth remaining = some targets →
    ∃ chosen : List (Finset α × τ), chosen ⊆ candidates ∧ chosen.map Prod.snd = targets ∧
      Partition (chosen.map Prod.fst) remaining
  | 0, remaining, targets, h => by
    unfold search at h
    split at h
    · rename_i hempty
      cases h
      exact ⟨[], by simp, rfl, hempty ▸ partition_empty⟩
    · cases h
  | depth + 1, remaining, targets, h => by
    unfold search at h
    split at h
    · rename_i hempty
      cases h
      exact ⟨[], by simp, rfl, hempty ▸ partition_empty⟩
    · obtain ⟨candidate, hcandidate, hfound⟩ := List.exists_of_findSome?_eq_some h
      split at hfound
      · rename_i hfits
        obtain ⟨rest, hrest, rfl⟩ := Option.map_eq_some_iff.1 hfound
        obtain ⟨chosen, hchosen, rfl, hpartition⟩ := search_sound hrest
        exact ⟨candidate :: chosen, List.cons_subset.2 ⟨hcandidate, hchosen⟩, rfl,
          hpartition.cons hfits.2⟩
      · cases hfound

/-- A partition into candidate blocks is found, or another one before it. -/
theorem search_complete (hpick : ∀ s : Finset α, s.Nonempty → pick s ∈ s) : ∀ {depth : Nat}
    {remaining : Finset α} {blocks : List (Finset α)}, remaining.card ≤ depth →
    (∀ block ∈ blocks, block ∈ candidates.map Prod.fst) → Partition blocks remaining →
    (search pick candidates depth remaining).isSome = true
  | 0, remaining, _, hcard, _, _ => by
    have hempty : remaining = ∅ := Finset.card_eq_zero.1 (Nat.le_zero.1 hcard)
    simp [search, hempty]
  | depth + 1, remaining, blocks, hcard, hblocks, hpartition => by
    unfold search
    split
    · rfl
    · rename_i hsome
      have hin : pick remaining ∈ remaining := hpick remaining (Finset.nonempty_iff_ne_empty.2 hsome)
      obtain ⟨block, hblock, hheld⟩ := (hpartition.covers _).1 hin
      obtain ⟨candidate, hcandidate, rfl⟩ := List.mem_map.1 (hblocks block hblock)
      have hsubset : candidate.1 ⊆ remaining := fun a ha =>
        (hpartition.covers a).2 ⟨candidate.1, hblock, ha⟩
      have hless : (remaining \ candidate.1).card ≤ depth := by
        have hlt : (remaining \ candidate.1).card < remaining.card :=
          Finset.card_lt_card ⟨Finset.sdiff_subset, fun hall =>
            (Finset.mem_sdiff.1 (hall hin)).2 hheld⟩
        omega
      have hrest := search_complete hpick hless
        (fun other hother => hblocks other (List.mem_of_mem_erase hother))
        (hpartition.erase hblock ⟨_, hheld⟩)
      rw [List.findSome?_isSome_iff]
      refine ⟨candidate, hcandidate, ?_⟩
      rw [if_pos ⟨hheld, hsubset⟩, Option.isSome_map]
      exact hrest

/-- The search succeeds exactly when some of the blocks partition the set. -/
theorem cover_isSome_iff (hpick : ∀ s : Finset α, s.Nonempty → pick s ∈ s) (whole : Finset α)
    (candidates : List (Finset α × τ)) :
    (cover pick candidates whole).isSome = true ↔
      ∃ blocks : List (Finset α), (∀ block ∈ blocks, block ∈ candidates.map Prod.fst) ∧
        Partition blocks whole := by
  constructor
  · intro h
    obtain ⟨targets, htargets⟩ := Option.isSome_iff_exists.1 h
    obtain ⟨chosen, hchosen, -, hpartition⟩ := search_sound htargets
    refine ⟨chosen.map Prod.fst, fun block hblock => ?_, hpartition⟩
    obtain ⟨candidate, hin, rfl⟩ := List.mem_map.1 hblock
    exact List.mem_map_of_mem (hchosen hin)
  · rintro ⟨blocks, hblocks, hpartition⟩
    exact search_complete hpick (Nat.le_refl _) hblocks hpartition

end

end ExactCover
