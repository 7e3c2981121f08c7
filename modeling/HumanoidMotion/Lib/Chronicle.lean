import Mathlib.Data.List.Basic
import Mathlib.Data.List.Count
/-
# Lives told in one list

Something begins, is told about and ends, again and again under one name.
`Chronicle news final n lasts told` says that `n` lives have begun, that the last
one still goes on when `lasts` is true, and that `told` is what was told of them:
the news of a life while it lasts, and one final entry when it ends.

* `count` — a life that is over has its final entry.
* `lives` — what was told is one life after the other.
-/

variable {α : Type} {news final : α → Bool}

inductive Chronicle (news final : α → Bool) : Nat → Bool → List α → Prop
  | nil : Chronicle news final 0 false []
  | begins {n : Nat} {told : List α} (h : Chronicle news final n false told) :
      Chronicle news final (n + 1) true told
  | goesOn {n : Nat} {told : List α} (h : Chronicle news final n true told) (a : α)
      (ha : news a = true) : Chronicle news final n true (told ++ [a])
  | ends {n : Nat} {told : List α} (h : Chronicle news final n true told) (a : α)
      (ha : final a = true) : Chronicle news final n false (told ++ [a])

/-- A life that is over: its news, then its final entry. -/
structure Life (news final : α → Bool) (life : List α) : Prop where
  told : ∃ before last, life = before ++ [last] ∧ (∀ a ∈ before, news a = true) ∧ final last = true

namespace Chronicle

variable {n : Nat} {lasts : Bool} {told : List α}

theorem count (hapart : ∀ a, news a = true → final a = false)
    (h : Chronicle news final n lasts told) : told.countP final + lasts.toNat = n := by
  induction h with
  | nil => rfl
  | begins _ ih => simpa using ih
  | goesOn _ a ha ih => simpa [hapart a ha] using ih
  | ends _ a ha ih => simpa [ha] using ih

theorem lives (h : Chronicle news final n lasts told) : ∃ (lives : List (List α)) (rest : List α),
    told = lives.flatten ++ rest ∧ (∀ life ∈ lives, Life news final life) ∧
      (∀ a ∈ rest, news a = true) ∧ (lasts = false → rest = []) ∧
      lives.length + lasts.toNat = n := by
  induction h with
  | nil => exact ⟨[], [], rfl, by simp, by simp, fun _ => rfl, rfl⟩
  | begins _ ih =>
    obtain ⟨lives, rest, htold, hlives, hrest, hover, hn⟩ := ih
    exact ⟨lives, rest, htold, hlives, hrest, nofun, by simpa using hn⟩
  | goesOn _ a ha ih =>
    obtain ⟨lives, rest, rfl, hlives, hrest, -, hn⟩ := ih
    refine ⟨lives, rest ++ [a], List.append_assoc .., hlives, fun b hb => ?_, nofun, hn⟩
    rcases List.mem_append.1 hb with hb | hb
    · exact hrest b hb
    · rwa [List.mem_singleton.1 hb]
  | ends _ a ha ih =>
    obtain ⟨lives, rest, rfl, hlives, hrest, -, hn⟩ := ih
    refine ⟨lives ++ [rest ++ [a]], [], by simp, fun life hlife => ?_, by simp, fun _ => rfl, ?_⟩
    · rcases List.mem_append.1 hlife with hlife | hlife
      · exact hlives life hlife
      · rw [List.mem_singleton.1 hlife]
        exact ⟨rest, a, rfl, hrest, ha⟩
    · simpa using hn

end Chronicle
