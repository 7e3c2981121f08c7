import Mathlib.Logic.Relation
/-
# Values at the ends of chains

A key has a value of its own, or it names a parent and what to do with the
parent's value. `Resolves` follows the parents until a key of the first kind.

* `Resolves.unique` — there is at most one value.
* `Resolves.acyclic` — a chain that ends does not come back.
* `Resolves.solution` — every table that agrees with the bases and the links has it.
* `Resolves.found` — a table of resolved values that no link leads out of has it.
-/

namespace Chains

variable {κ ν : Type}

/-- The chain from the key ends in a base, and gives the value. -/
inductive Resolves (base : κ → Option ν) (link : κ → Option (κ × (ν → ν))) : κ → ν → Prop
  | base (k : κ) (v : ν) (h : base k = some v) : Resolves base link k v
  | link (k parent : κ) (f : ν → ν) (v : ν) (hbase : base k = none) (h : link k = some (parent, f))
      (hparent : Resolves base link parent v) : Resolves base link k (f v)

variable {base : κ → Option ν} {link : κ → Option (κ × (ν → ν))} {k : κ} {v v' : ν}

theorem Resolves.unique (h : Resolves base link k v) (h' : Resolves base link k v') : v = v' := by
  induction h generalizing v' with
  | base k v hv =>
    cases h' with
    | base _ _ hv' => exact Option.some.inj (hv.symm.trans hv')
    | link _ _ _ _ hnone => rw [hv] at hnone; cases hnone
  | link k parent f v hnone hlink _ ih =>
    cases h' with
    | base _ _ hv' => rw [hnone] at hv'; cases hv'
    | link _ parent' f' v' _ hlink' hparent' =>
      obtain ⟨rfl, rfl⟩ := Prod.mk.inj (Option.some.inj (hlink.symm.trans hlink'))
      rw [ih hparent']

theorem resolves_link_iff {parent : κ} {f : ν → ν} (hbase : base k = none)
    (hlink : link k = some (parent, f)) :
    Resolves base link k v ↔ ∃ w, Resolves base link parent w ∧ f w = v := by
  constructor
  · intro h
    cases h with
    | base _ _ hv => rw [hbase] at hv; cases hv
    | link _ parent' f' w _ hlink' hparent =>
      obtain ⟨rfl, rfl⟩ := Prod.mk.inj (Option.some.inj (hlink.symm.trans hlink'))
      exact ⟨w, hparent, rfl⟩
  · rintro ⟨w, hw, rfl⟩
    exact .link k parent f w hbase hlink hw

/-- The key has no value of its own, and its parent is `parent`. -/
def Parent (base : κ → Option ν) (link : κ → Option (κ × (ν → ν))) (k parent : κ) : Prop :=
  base k = none ∧ ∃ f, link k = some (parent, f)

theorem Resolves.acyclic (h : Resolves base link k v) :
    ¬ Relation.TransGen (Parent base link) k k := by
  induction h with
  | base k v hv =>
    intro hcycle
    obtain ⟨_, ⟨hnone, -⟩, -⟩ := Relation.TransGen.head'_iff.1 hcycle
    rw [hv] at hnone
    cases hnone
  | link k parent f v hnone hlink _ ih =>
    intro hcycle
    have hup : Parent base link k parent := ⟨hnone, f, hlink⟩
    obtain ⟨other, ⟨-, g, hother⟩, hrest⟩ := Relation.TransGen.head'_iff.1 hcycle
    obtain ⟨rfl, -⟩ := Prod.mk.inj (Option.some.inj (hlink.symm.trans hother))
    exact ih (Relation.TransGen.tail' hrest hup)

/-- A table that agrees with the bases and the links. -/
structure Solution (base : κ → Option ν) (link : κ → Option (κ × (ν → ν))) (r : κ → Option ν) :
    Prop where
  bases : ∀ k v, base k = some v → r k = some v
  links : ∀ k parent f, base k = none → link k = some (parent, f) → ∀ v, r parent = some v →
    r k = some (f v)

theorem Resolves.solution {r : κ → Option ν} (h : Resolves base link k v) (hr : Solution base link r) :
    r k = some v := by
  induction h with
  | base k v hv => exact hr.bases k v hv
  | link k parent f v hnone hlink _ ih => exact hr.links k parent f hnone hlink v ih

/-- A table whose values are those of the chains. -/
def Sound (base : κ → Option ν) (link : κ → Option (κ × (ν → ν))) (r : κ → Option ν) : Prop :=
  ∀ k v, r k = some v → Resolves base link k v

/-- The bases are in the table, and no link leads out of it. -/
structure Closed (base : κ → Option ν) (link : κ → Option (κ × (ν → ν))) (r : κ → Option ν) :
    Prop where
  bases : ∀ k v, base k = some v → r k = some v
  links : ∀ k parent f, base k = none → link k = some (parent, f) → (r parent).isSome = true →
    (r k).isSome = true

theorem Resolves.found {r : κ → Option ν} (h : Resolves base link k v) (hsound : Sound base link r)
    (hclosed : Closed base link r) : r k = some v := by
  induction h with
  | base k v hv => exact hclosed.bases k v hv
  | link k parent f v hnone hlink hparent ih =>
    obtain ⟨w, hw⟩ := Option.isSome_iff_exists.1
      (hclosed.links k parent f hnone hlink (by rw [ih]; rfl))
    rw [hw, (hsound k w hw).unique (.link k parent f v hnone hlink hparent)]

theorem Sound.of_base : Sound base link base := fun k v h => .base k v h

end Chains
