import Mathlib.Data.List.Forall2
/-
# Loops that check

Loops in `Except`: every turn may refuse. What an accepted loop says of its
input is what its turns say, item by item.

* `bind_ok` — both halves of a bind went through.
* `foldlM_ok` — a loop that keeps an invariant.
* `foldlM_collects` — a loop that collects one output for each item.
-/

namespace Checked

variable {ε α β σ : Type}

theorem bind_ok {x : Except ε α} {f : α → Except ε β} {b : β} (h : x >>= f = .ok b) :
    ∃ a, x = .ok a ∧ f a = .ok b := by
  cases x with
  | error e => cases h
  | ok a => exact ⟨a, rfl, h⟩

theorem foldlM_ok {f : σ → α → Except ε σ} {P : σ → Prop} : ∀ {xs : List α} {s s' : σ},
    (∀ x ∈ xs, ∀ s s', P s → f s x = .ok s' → P s') → P s → xs.foldlM f s = .ok s' → P s'
  | [], s, s', _, hs, h => Except.ok.inj h ▸ hs
  | x :: xs, s, s', hstep, hs, h => by
    rw [List.foldlM_cons] at h
    obtain ⟨middle, hmiddle, hrest⟩ := bind_ok h
    exact foldlM_ok (fun y hy => hstep y (List.mem_cons_of_mem _ hy))
      (hstep x List.mem_cons_self s middle hs hmiddle) hrest

theorem foldlM_collects {f : σ → α → Except ε σ} (out : σ → List β) (R : α → β → Prop)
    (hstep : ∀ s x s', f s x = .ok s' → ∃ y, out s' = out s ++ [y] ∧ R x y) :
    ∀ {xs : List α} {s s' : σ}, xs.foldlM f s = .ok s' →
      ∃ ys, out s' = out s ++ ys ∧ List.Forall₂ R xs ys
  | [], s, s', h => ⟨[], by rw [Except.ok.inj h, List.append_nil], .nil⟩
  | x :: xs, s, s', h => by
    rw [List.foldlM_cons] at h
    obtain ⟨middle, hmiddle, hrest⟩ := bind_ok h
    obtain ⟨y, hout, hy⟩ := hstep s x middle hmiddle
    obtain ⟨ys, hout', hys⟩ := foldlM_collects out R hstep hrest
    exact ⟨y :: ys, by rw [hout', hout, List.append_assoc]; rfl, .cons hy hys⟩

end Checked
