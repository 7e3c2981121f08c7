import Mathlib.Data.List.Basic
import Mathlib.Data.List.TakeDrop
/-
# The streak that ends now

A latch remembers since when a condition has held without a break: it is set by
the first good entry, kept by the good ones after it, and cleared by any other.
`StreakAt good xs j k` says that `j` is where the longest streak of good entries
that ends at `k` begins.

* `StreakAt.unique` — there is one such `j`.
* `StreakAt.restart` — a bad entry leaves the streak on its far side.
* `latch_take` — the latch holds the time of entry `j`, or nothing.
-/

namespace Streak

variable {α τ : Type} {xs : List α} {j k : Nat}

/-- Entries `j` to `k` are good, and the one before `j`, if there is one, is not. -/
structure StreakAt (good : α → Prop) (xs : List α) (j k : Nat) : Prop where
  le : j ≤ k
  inside : ∀ i x, j ≤ i → i ≤ k → xs[i]? = some x → good x
  start : ∀ i x, i + 1 = j → xs[i]? = some x → ¬ good x

namespace StreakAt

variable {good : α → Prop}

/-- A bad entry before `k` lies before the streak. -/
theorem restart {i : Nat} {x : α} (h : StreakAt good xs j k) (hi : i ≤ k) (hx : xs[i]? = some x)
    (hbad : ¬ good x) : i < j := by
  by_contra hle
  exact hbad (h.inside i x (Nat.le_of_not_lt hle) hi hx)

theorem unique {j' : Nat} (h : StreakAt good xs j k) (h' : StreakAt good xs j' k)
    (hk : k < xs.length) : j = j' := by
  -- the entry before the later start is in the streak of the earlier one
  have aux : ∀ {j j' : Nat}, StreakAt good xs j k → StreakAt good xs j' k → j' ≤ j := by
    intro j j' h h'
    by_contra hlt
    obtain ⟨i, rfl⟩ : ∃ i, j' = i + 1 := ⟨j' - 1, by omega⟩
    have hi : i < xs.length := by have := h'.le; omega
    have hget := List.getElem?_eq_getElem hi
    have hgood := h.inside i _ (by omega) (by have := h'.le; omega) hget
    exact h'.start i _ rfl hget hgood
  exact Nat.le_antisymm (aux h' h) (aux h h')

theorem single {x : α} (hx : xs[k]? = some x) (hgood : good x)
    (hstart : ∀ i y, i + 1 = k → xs[i]? = some y → ¬ good y) : StreakAt good xs k k where
  le := Nat.le_refl k
  inside i y hi hi' hy := by
    obtain rfl : i = k := Nat.le_antisymm hi' hi
    rw [hx] at hy
    cases hy
    exact hgood
  start := hstart

theorem extend {x : α} (h : StreakAt good xs j k) (hx : xs[k + 1]? = some x)
    (hgood : good x) : StreakAt good xs j (k + 1) where
  le := Nat.le_succ_of_le h.le
  inside i y hi hi' hy := by
    rcases Nat.lt_or_eq_of_le hi' with hlt | rfl
    · exact h.inside i y hi (Nat.le_of_lt_succ hlt) hy
    · rw [hx] at hy
      cases hy
      exact hgood
  start := h.start

end StreakAt

variable {good : α → Bool} {time : α → τ}

/-- One entry on the latch. -/
def latch (good : α → Bool) (time : α → τ) (since : Option τ) (x : α) : Option τ :=
  if good x then some (since.getD (time x)) else none

/-- After the first `n` entries. -/
def latched (good : α → Bool) (time : α → τ) (xs : List α) (n : Nat) : Option τ :=
  (xs.take n).foldl (latch good time) none

@[simp] theorem latched_zero : latched good time xs 0 = none := rfl

theorem latched_succ {x : α} (hx : xs[k]? = some x) :
    latched good time xs (k + 1) = latch good time (latched good time xs k) x := by
  simp [latched, List.take_add_one, hx]

variable (good time) in
/-- After entry `k` the latch holds the time of the entry where its streak begins, and nothing
when entry `k` is bad. -/
theorem latch_take : ∀ {k : Nat} {x : α}, xs[k]? = some x →
    (∃ j y, StreakAt (fun x => good x = true) xs j k ∧ xs[j]? = some y ∧
      latched good time xs (k + 1) = some (time y)) ∨
    (good x = false ∧ latched good time xs (k + 1) = none) := by
  intro k
  induction k with
  | zero =>
    intro x hx
    rw [latched_succ hx]
    cases hgood : good x with
    | true => exact .inl ⟨0, x, .single hx hgood (by simp), hx, by simp [latch, hgood]⟩
    | false => exact .inr ⟨rfl, by simp [latch, hgood]⟩
  | succ k ih =>
    intro x hx
    have hlt : k < xs.length := by
      have := (List.getElem?_eq_some_iff.1 hx).1
      omega
    have hget := List.getElem?_eq_getElem hlt
    rw [latched_succ hx]
    cases hgood : good x with
    | false => exact .inr ⟨rfl, by simp [latch, hgood]⟩
    | true =>
      left
      rcases ih hget with ⟨j, y, hstreak, hy, hsince⟩ | ⟨hbad, hsince⟩
      · exact ⟨j, y, hstreak.extend hx hgood, hy, by simp [latch, hgood, hsince]⟩
      · refine ⟨k + 1, x, .single hx hgood ?_, hx, by simp [latch, hgood, hsince]⟩
        intro i z hi hz
        obtain rfl : i = k := by omega
        rw [hget] at hz
        cases hz
        simp [hbad]

end Streak
