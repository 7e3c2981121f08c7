import Mathlib.Data.List.AList
import HumanoidMotion.Lib.Chains
import HumanoidMotion.Simulation.Plant
/-
# Mimic joints (`python/humanoid_motion_server/simulation/model.py:65`)

| here | there |
| --- | --- |
| `Dict`          | a dictionary with string keys; its entries are listed in the order of iteration |
| `Mimic`         | the triple of a mimic joint in `mimics` |
| `MimicError`    | the two `ValueError`s, and the `KeyError` of a lookup |
| `ready`         | the list of one round (`:69`) |
| `expandMimic`   | one turn of the inner loop (`:72`) |
| `expandMimics`  | `expand_mimics` (`:65`) |

A number is of any type with a product, a sum and an `isfinite`.

* `chainOf` — the chain of a joint, through its mimic definitions.
* `Expansion` — the base positions, and a value for every mimic that fits its parent's.
* `mimics_expanded` — what `expand_mimics` does, for any two dictionaries.
-/

namespace HumanoidMotion

/-- A Python dictionary. -/
abbrev Dict (α : Type) := AList fun _ : String => α

structure Mimic (α : Type) where
  parent : String
  scale : α
  offset : α
deriving DecidableEq, Repr

inductive MimicError where
  /-- `URDF mimic cycle or unknown source joint`. -/
  | unresolved
  /-- `Invalid mimic transform: {name}`. -/
  | transform (name : String)
  /-- The `KeyError` of `pending.pop(name)` or of `result[parent]`. -/
  | missing (name : String)
deriving DecidableEq, Repr

def MimicError.isValueError : MimicError → Bool
  | missing _ => false
  | _ => true

theorem dict_mem_iff {α : Type} {d : Dict α} {name : String} :
    name ∈ d ↔ ∃ value, d.lookup name = some value := by
  rw [← AList.lookup_isSome, Option.isSome_iff_exists]

section
variable {α : Type} {result : Dict α} {pending : Dict (Mimic α)}

/-- The mimics whose parent has a position. -/
def ready (result : Dict α) (pending : Dict (Mimic α)) : List String :=
  (pending.entries.filter fun item => decide (item.2.parent ∈ result)).map (·.1)

theorem mem_ready {name : String} : name ∈ ready result pending ↔
    ∃ mimic, pending.lookup name = some mimic ∧ mimic.parent ∈ result := by
  simp only [ready, List.mem_map, List.mem_filter, decide_eq_true_eq]
  constructor
  · rintro ⟨⟨k, mimic⟩, ⟨hin, hparent⟩, rfl⟩
    exact ⟨mimic, AList.mem_lookup_iff.2 hin, hparent⟩
  · rintro ⟨mimic, hlookup, hparent⟩
    exact ⟨⟨name, mimic⟩, ⟨AList.mem_lookup_iff.1 hlookup, hparent⟩, rfl⟩

theorem ready_nodup : (ready result pending).Nodup :=
  pending.keys_nodup.sublist (List.filter_sublist.map _)

end

section
variable {α : Type} [Mul α] [Add α] (isfinite : α → Bool)

/-- `result[parent] * scale + offset`. -/
def Mimic.value (mimic : Mimic α) (parent : α) : α := parent * mimic.scale + mimic.offset

/-- `math.isfinite(scale)` and `math.isfinite(offset)`. -/
def Mimic.finite (mimic : Mimic α) : Bool := isfinite mimic.scale && isfinite mimic.offset

def expandMimic (state : Dict α × Dict (Mimic α)) (name : String) :
    Except MimicError (Dict α × Dict (Mimic α)) :=
  match state.2.lookup name with
  | none => .error (.missing name)
  | some mimic =>
    if !mimic.finite isfinite then .error (.transform name)
    else match state.1.lookup mimic.parent with
      | none => .error (.missing mimic.parent)
      | some parent => .ok (state.1.insert name (mimic.value parent), state.2.erase name)

variable {isfinite} in
/-- One turn resolves one mimic. -/
theorem expandMimic_ok {s s' : Dict α × Dict (Mimic α)} {name : String}
    (h : expandMimic isfinite s name = .ok s') :
    ∃ mimic parent, s.2.lookup name = some mimic ∧ mimic.finite isfinite = true ∧
      s.1.lookup mimic.parent = some parent ∧
      s' = (s.1.insert name (mimic.value parent), s.2.erase name) := by
  unfold expandMimic at h
  split at h
  · cases h
  · rename_i mimic hmimic
    split at h
    · cases h
    · rename_i hfinite
      split at h
      · cases h
      · rename_i parent hparent
        cases h
        exact ⟨mimic, parent, hmimic, by simpa using hfinite, hparent, rfl⟩

variable {isfinite} in
theorem expandMimic_size {s s' : Dict α × Dict (Mimic α)} {name : String}
    (h : expandMimic isfinite s name = .ok s') : s'.2.keys.length < s.2.keys.length := by
  obtain ⟨mimic, parent, hmimic, -, -, rfl⟩ := expandMimic_ok h
  have hin : name ∈ s.2.keys := AList.lookup_isSome.1 (by rw [hmimic]; rfl)
  have hpos := List.length_pos_of_mem hin
  rw [AList.keys_erase, List.length_erase_of_mem hin]
  omega

variable {isfinite} in
theorem expandMimics_size {names : List String} (hne : names ≠ []) {s s' : Dict α × Dict (Mimic α)}
    (h : names.foldlM (expandMimic isfinite) s = .ok s') : s'.2.keys.length < s.2.keys.length := by
  induction names generalizing s with
  | nil => exact absurd rfl hne
  | cons name names ih =>
    rw [List.foldlM_cons] at h
    cases hstep : expandMimic isfinite s name with
    | error e => rw [hstep] at h; cases h
    | ok s₁ =>
      rw [hstep] at h
      have hlt := expandMimic_size hstep
      cases names with
      | nil => cases h; exact hlt
      | cons _ _ => exact (ih (List.cons_ne_nil _ _) h).trans hlt

/-- The loop over `pending`: every round that goes on leaves fewer mimics. -/
def expandPending (result : Dict α) (pending : Dict (Mimic α)) : Except MimicError (Dict α) :=
  if pending.keys.isEmpty then .ok result
  else if _hready : ready result pending = [] then .error .unresolved
  else match _hround : (ready result pending).foldlM (expandMimic isfinite) (result, pending) with
    | .error e => .error e
    | .ok s => expandPending s.1 s.2
termination_by pending.keys.length
decreasing_by exact expandMimics_size _hready _hround

def expandMimics (positions : Dict α) (mimics : Dict (Mimic α)) : Except MimicError (Dict α) :=
  expandPending isfinite positions mimics

/-! ## The chains of the mimics -/

/-- The parent of a mimic, and what it makes of the parent's position. -/
def Mimic.link (mimic : Mimic α) : String × (α → α) := (mimic.parent, mimic.value)

/-- The position of a joint through its chain of mimics, which ends in a base joint. -/
def ChainEnds (positions : Dict α) (mimics : Dict (Mimic α)) : String → α → Prop :=
  Chains.Resolves (positions.lookup ·) fun name => (mimics.lookup name).map Mimic.link

/-- Equal dictionaries, whatever the orders of their entries. -/
def SameDict {γ : Type} (d d' : Dict γ) : Prop := ∀ name, d'.lookup name = d.lookup name

/-- The base positions, and a position for every mimic that fits its parent's. -/
structure Expansion (positions : Dict α) (mimics : Dict (Mimic α)) (r : Dict α) : Prop where
  keys : ∀ name, name ∈ r ↔ name ∈ positions ∨ name ∈ mimics
  bases : ∀ name value, positions.lookup name = some value → r.lookup name = some value
  fits : ∀ name mimic, mimics.lookup name = some mimic →
    ∃ parent, r.lookup mimic.parent = some parent ∧ r.lookup name = some (mimic.value parent)

/-- The state between two turns: the mimics that are not pending have the position of their chain. -/
structure Expanding (positions : Dict α) (mimics : Dict (Mimic α)) (result : Dict α)
    (pending : Dict (Mimic α)) : Prop where
  sound : ∀ name value, result.lookup name = some value → ChainEnds positions mimics name value
  bases : ∀ name value, positions.lookup name = some value → result.lookup name = some value
  pending : ∀ name mimic, pending.lookup name = some mimic ↔
    mimics.lookup name = some mimic ∧ name ∉ result
  finite : ∀ name mimic, mimics.lookup name = some mimic → name ∈ result →
    mimic.finite isfinite = true

section
variable {isfinite : α → Bool} {positions result : Dict α} {mimics pending : Dict (Mimic α)}

theorem chainEnds_iff {name : String} {mimic : Mimic α} {value : α}
    (hnone : positions.lookup name = none) (hmimic : mimics.lookup name = some mimic) :
    ChainEnds positions mimics name value ↔
      ∃ parent, ChainEnds positions mimics mimic.parent parent ∧ mimic.value parent = value := by
  have hlink : (mimics.lookup name).map Mimic.link = some (mimic.parent, mimic.value) := by
    rw [hmimic]
    rfl
  unfold ChainEnds
  exact Chains.resolves_link_iff hnone hlink

theorem Expanding.start (hdisjoint : ∀ name ∈ mimics, name ∉ positions) :
    Expanding isfinite positions mimics positions mimics where
  sound name value h := .base name value h
  bases _ _ h := h
  pending name mimic := by
    refine ⟨fun h => ⟨h, hdisjoint name (dict_mem_iff.2 ⟨mimic, h⟩)⟩, And.left⟩
  finite name mimic h hin := absurd hin (hdisjoint name (dict_mem_iff.2 ⟨mimic, h⟩))

/-- One mimic more has its position. -/
theorem Expanding.step (h : Expanding isfinite positions mimics result pending) {name : String}
    {mimic : Mimic α} {parent : α} (hname : pending.lookup name = some mimic)
    (hfinite : mimic.finite isfinite = true) (hparent : result.lookup mimic.parent = some parent) :
    Expanding isfinite positions mimics (result.insert name (mimic.value parent))
      (pending.erase name) := by
  obtain ⟨hmimic, hnot⟩ := (h.pending name mimic).1 hname
  have hbase : positions.lookup name = none := by
    cases hp : positions.lookup name with
    | none => rfl
    | some value => exact absurd (dict_mem_iff.2 ⟨value, h.bases name value hp⟩) hnot
  constructor
  · intro k value hk
    by_cases heq : k = name
    · subst heq
      rw [AList.lookup_insert] at hk
      cases hk
      exact .link k mimic.parent mimic.value parent hbase (by rw [hmimic]; rfl)
        (h.sound _ _ hparent)
    · rw [AList.lookup_insert_ne heq] at hk
      exact h.sound k value hk
  · intro k value hk
    have hne : k ≠ name := by
      rintro rfl
      rw [hbase] at hk
      cases hk
    rw [AList.lookup_insert_ne hne]
    exact h.bases k value hk
  · intro k other
    by_cases heq : k = name
    · subst heq
      simp
    · rw [AList.lookup_erase_ne heq, h.pending, AList.mem_insert, not_or]
      tauto
  · intro k other hk hin
    rcases (AList.mem_insert _).1 hin with rfl | hin
    · cases hk.symm.trans hmimic
      exact hfinite
    · exact h.finite k other hk hin

/-- A round over mimics whose parents have positions: it stops only at a transform that is not
finite. -/
theorem Expanding.round {names : List String} (hnodup : names.Nodup)
    (h : Expanding isfinite positions mimics result pending)
    (hready : ∀ name ∈ names, ∃ mimic, pending.lookup name = some mimic ∧ mimic.parent ∈ result) :
    (∀ s, names.foldlM (expandMimic isfinite) (result, pending) = .ok s →
        Expanding isfinite positions mimics s.1 s.2) ∧
      ∀ e, names.foldlM (expandMimic isfinite) (result, pending) = .error e →
        ∃ name mimic, e = .transform name ∧ mimics.lookup name = some mimic ∧
          mimic.finite isfinite = false := by
  induction names generalizing result pending with
  | nil =>
    constructor
    · intro s hs
      cases hs
      exact h
    · intro e he
      cases he
  | cons name names ih =>
    obtain ⟨hnew, hnodup⟩ := List.nodup_cons.1 hnodup
    obtain ⟨mimic, hname, hin⟩ := hready name List.mem_cons_self
    obtain ⟨parent, hparent⟩ := dict_mem_iff.1 hin
    rw [List.foldlM_cons]
    by_cases hfinite : mimic.finite isfinite = true
    · have hturn : expandMimic isfinite (result, pending) name =
          .ok (result.insert name (mimic.value parent), pending.erase name) := by
        simp [expandMimic, hname, hfinite, hparent]
      rw [hturn]
      refine ih hnodup (h.step hname hfinite hparent) fun k hk => ?_
      obtain ⟨other, hother, hup⟩ := hready k (List.mem_cons_of_mem _ hk)
      refine ⟨other, ?_, (AList.mem_insert _).2 (.inr hup)⟩
      rw [AList.lookup_erase_ne (fun heq : k = name => hnew (heq ▸ hk)), hother]
    · have hturn : expandMimic isfinite (result, pending) name = .error (.transform name) := by
        simp [expandMimic, hname, hfinite]
      rw [hturn]
      constructor
      · intro s hs
        cases hs
      · intro e he
        cases he
        exact ⟨name, mimic, rfl, ((h.pending name mimic).1 hname).1, by simpa using hfinite⟩

/-- A round that finds nothing to do: no pending mimic has a chain that ends. -/
theorem Expanding.stuck (h : Expanding isfinite positions mimics result pending)
    (hready : ready result pending = []) {name : String} {mimic : Mimic α}
    (hname : pending.lookup name = some mimic) (value : α) : ¬ ChainEnds positions mimics name value := by
  intro hends
  refine ((h.pending name mimic).1 hname).2 (dict_mem_iff.2 ⟨value, ?_⟩)
  refine Chains.Resolves.found (r := (result.lookup ·)) hends h.sound ⟨h.bases, ?_⟩
  intro k parent f _ hlink hparent
  obtain ⟨other, hother, hup⟩ := Option.map_eq_some_iff.1 hlink
  cases hup
  rw [AList.lookup_isSome] at hparent ⊢
  by_contra hnot
  have hin := mem_ready.2 ⟨other, (h.pending k other).2 ⟨hother, hnot⟩, hparent⟩
  rw [hready] at hin
  cases hin

/-- The loop ends with every mimic resolved, or at one that cannot be. -/
theorem Expanding.loop (h : Expanding isfinite positions mimics result pending) :
    (∀ r, expandPending isfinite result pending = .ok r →
        Expanding isfinite positions mimics r ∅) ∧
      ∀ e, expandPending isfinite result pending = .error e → e.isValueError = true ∧
        ∃ name mimic, mimics.lookup name = some mimic ∧
          ((∀ value, ¬ ChainEnds positions mimics name value) ∨ mimic.finite isfinite = false) := by
  fun_induction expandPending isfinite result pending with
  | case1 result pending hempty =>
    constructor
    · intro r hr
      cases hr
      have hnil : pending = ∅ := AList.ext (List.map_eq_nil_iff.1 (List.isEmpty_iff.1 hempty))
      exact hnil ▸ h
    · intro e he
      cases he
  | case2 result pending hempty hready =>
    constructor
    · intro r hr
      cases hr
    · intro e he
      cases he
      obtain ⟨name, hname⟩ := List.exists_mem_of_ne_nil _ fun hnil => hempty (List.isEmpty_iff.2 hnil)
      obtain ⟨mimic, hmimic⟩ := dict_mem_iff.1 (AList.mem_keys.2 hname)
      exact ⟨rfl, name, mimic, ((h.pending name mimic).1 hmimic).1, .inl (h.stuck hready hmimic)⟩
  | case3 result pending hempty hready e hround =>
    constructor
    · intro r hr
      cases hr
    · intro _ he
      cases he
      obtain ⟨name, mimic, rfl, hmimic, hfinite⟩ :=
        (h.round ready_nodup fun _ hin => mem_ready.1 hin).2 e hround
      exact ⟨rfl, name, mimic, hmimic, .inr hfinite⟩
  | case4 result pending hempty hready s hround ih =>
    exact ih ((h.round ready_nodup fun _ hin => mem_ready.1 hin).1 s hround)

/-! ## `expand_mimics` -/

/-- At the end of the loop every mimic has a position. -/
theorem Expanding.whole {r : Dict α} (h : Expanding isfinite positions mimics r ∅) {name : String}
    (hname : name ∈ mimics) : name ∈ r := by
  obtain ⟨mimic, hmimic⟩ := dict_mem_iff.1 hname
  by_contra hnot
  have hpending := (h.pending name mimic).2 ⟨hmimic, hnot⟩
  rw [AList.lookup_empty] at hpending
  cases hpending

theorem Expanding.expansion (hdisjoint : ∀ name ∈ mimics, name ∉ positions) {r : Dict α}
    (h : Expanding isfinite positions mimics r ∅) : Expansion positions mimics r := by
  constructor
  · intro name
    constructor
    · intro hin
      obtain ⟨value, hvalue⟩ := dict_mem_iff.1 hin
      cases h.sound name value hvalue with
      | base _ _ hbase => exact .inl (dict_mem_iff.2 ⟨value, hbase⟩)
      | link _ _ _ _ _ hlink =>
        obtain ⟨mimic, hmimic, -⟩ := Option.map_eq_some_iff.1 hlink
        exact .inr (dict_mem_iff.2 ⟨mimic, hmimic⟩)
    · rintro (hin | hin)
      · obtain ⟨value, hvalue⟩ := dict_mem_iff.1 hin
        exact dict_mem_iff.2 ⟨value, h.bases name value hvalue⟩
      · exact h.whole hin
  · exact h.bases
  · intro name mimic hmimic
    have hnone : positions.lookup name = none :=
      AList.lookup_eq_none.2 (hdisjoint name (dict_mem_iff.2 ⟨mimic, hmimic⟩))
    obtain ⟨value, hvalue⟩ := dict_mem_iff.1 (h.whole (dict_mem_iff.2 ⟨mimic, hmimic⟩))
    have hends := h.sound name value hvalue
    obtain ⟨parent, hparent, rfl⟩ := (chainEnds_iff hnone hmimic).1 hends
    refine ⟨parent, ?_, hvalue⟩
    -- the parent's position is the one its chain gives
    refine Chains.Resolves.found (r := (r.lookup ·)) hparent h.sound ⟨h.bases, fun k _ _ _ hlink _ => ?_⟩
    obtain ⟨other, hother, -⟩ := Option.map_eq_some_iff.1 hlink
    exact AList.lookup_isSome.2 (h.whole (dict_mem_iff.2 ⟨other, hother⟩))

theorem Expansion.solution {r : Dict α} (h : Expansion positions mimics r) :
    Chains.Solution (positions.lookup ·) (fun name => (mimics.lookup name).map Mimic.link)
      (r.lookup ·) where
  bases := h.bases
  links := by
    intro name parent f _ hlink value hvalue
    obtain ⟨mimic, hmimic, hlinked⟩ := Option.map_eq_some_iff.1 hlink
    cases hlinked
    obtain ⟨value', hparent, hname⟩ := h.fits name mimic hmimic
    rw [hparent] at hvalue
    cases hvalue
    exact hname

/-- The loop finds the one expansion. -/
theorem Expanding.only {r r' : Dict α} (h : Expanding isfinite positions mimics r ∅)
    (hr : Expansion positions mimics r) (hr' : Expansion positions mimics r') : SameDict r r' := by
  intro name
  cases hname : r.lookup name with
  | some value =>
    exact Chains.Resolves.solution (r := (r'.lookup ·)) (h.sound name value hname) hr'.solution
  | none =>
    have hnot : name ∉ r := AList.lookup_eq_none.1 hname
    rw [hr.keys, ← hr'.keys] at hnot
    exact AList.lookup_eq_none.2 hnot

/-- Nothing is raised exactly if every mimic has a chain and a finite transform. -/
theorem Expanding.raises_iff (h : Expanding isfinite positions mimics result pending) :
    (∃ e, expandPending isfinite result pending = .error e) ↔
      ∃ name mimic, mimics.lookup name = some mimic ∧
        ((∀ value, ¬ ChainEnds positions mimics name value) ∨ mimic.finite isfinite = false) := by
  constructor
  · rintro ⟨e, he⟩
    exact (h.loop.2 e he).2
  · rintro ⟨name, mimic, hmimic, hbad⟩
    cases hend : expandPending isfinite result pending with
    | error e => exact ⟨e, rfl⟩
    | ok r =>
      exfalso
      have hdone := h.loop.1 r hend
      have hin := hdone.whole (dict_mem_iff.2 ⟨mimic, hmimic⟩)
      obtain ⟨value, hvalue⟩ := dict_mem_iff.1 hin
      rcases hbad with hnone | hinfinite
      · exact hnone value (hdone.sound name value hvalue)
      · rw [hdone.finite name mimic hmimic hin] at hinfinite
        cases hinfinite

theorem Expansion.congr {positions' : Dict α} {mimics' : Dict (Mimic α)} {r : Dict α}
    (hp : SameDict positions positions') (hm : SameDict mimics mimics')
    (h : Expansion positions' mimics' r) : Expansion positions mimics r where
  keys name := by
    rw [h.keys, ← AList.lookup_isSome, ← AList.lookup_isSome, hp, hm, AList.lookup_isSome,
      AList.lookup_isSome]
  bases name value hv := h.bases name value ((hp name).trans hv)
  fits name mimic hv := h.fits name mimic ((hm name).trans hv)

theorem chainEnds_congr {positions' : Dict α} {mimics' : Dict (Mimic α)}
    (hp : SameDict positions positions') (hm : SameDict mimics mimics') :
    ChainEnds positions' mimics' = ChainEnds positions mimics := by
  have hp' : ∀ name, positions'.lookup name = positions.lookup name := hp
  have hm' : ∀ name, mimics'.lookup name = mimics.lookup name := hm
  unfold ChainEnds
  simp only [hp', hm']

/-- For every two dictionaries with no common key, with any numbers: what `expand_mimics` returns is
the one expansion of the positions; what it raises is a `ValueError`, and it raises exactly if the
chain of a mimic does not end in a base joint or a transform is not finite; and neither the
positions nor the outcome depend on the orders in which the dictionaries list their entries. -/
theorem mimics_expanded (isfinite : α → Bool) (positions : Dict α) (mimics : Dict (Mimic α))
    (hdisjoint : ∀ name ∈ mimics, name ∉ positions) :
    (∀ r, expandMimics isfinite positions mimics = .ok r → Expansion positions mimics r ∧
      ∀ r', Expansion positions mimics r' → SameDict r r') ∧
    (∀ e, expandMimics isfinite positions mimics = .error e → e.isValueError = true) ∧
    ((∃ e, expandMimics isfinite positions mimics = .error e) ↔
      ∃ name mimic, mimics.lookup name = some mimic ∧
        ((∀ value, ¬ ChainEnds positions mimics name value) ∨ mimic.finite isfinite = false)) ∧
    ∀ positions' mimics', positions'.entries.Perm positions.entries →
      mimics'.entries.Perm mimics.entries →
      ((∃ e, expandMimics isfinite positions' mimics' = .error e) ↔
          ∃ e, expandMimics isfinite positions mimics = .error e) ∧
        ∀ r r', expandMimics isfinite positions mimics = .ok r →
          expandMimics isfinite positions' mimics' = .ok r' → SameDict r r' := by
  have hstart : Expanding isfinite positions mimics positions mimics := .start hdisjoint
  refine ⟨fun r hr => ?_, fun e he => (hstart.loop.2 e he).1, hstart.raises_iff, ?_⟩
  · have hend := hstart.loop.1 r hr
    exact ⟨hend.expansion hdisjoint, fun r' hr' => hend.only (hend.expansion hdisjoint) hr'⟩
  · intro positions' mimics' hpositions hmimics
    have hp : SameDict positions positions' := fun _ => AList.perm_lookup hpositions
    have hm : SameDict mimics mimics' := fun _ => AList.perm_lookup hmimics
    have hdisjoint' : ∀ name ∈ mimics', name ∉ positions' := by
      intro name hin
      rw [AList.mem_of_perm hpositions]
      exact hdisjoint name ((AList.mem_of_perm hmimics).1 hin)
    have hstart' : Expanding isfinite positions' mimics' positions' mimics' := .start hdisjoint'
    constructor
    · refine hstart'.raises_iff.trans (Iff.trans ?_ hstart.raises_iff.symm)
      have hm' : ∀ name, mimics'.lookup name = mimics.lookup name := hm
      simp only [chainEnds_congr hp hm, hm']
    · intro r r' hr hr'
      have hend := hstart.loop.1 r hr
      exact hend.only (hend.expansion hdisjoint)
        (((hstart'.loop.1 r' hr').expansion hdisjoint').congr hp hm)

end

end

namespace Fixture

/-- The base and the chain of two mimics of `test_mimic_chains_and_cycles`, the later one first. -/
def mimicBase : Dict Rat := List.toAList [⟨"a", 1 / 50⟩]

def mimicChain : Dict (Mimic Rat) :=
  List.toAList [⟨"c", "b", 2, 1 / 100⟩, ⟨"b", "a", -1, 0⟩]

end Fixture

open Fixture in
theorem mimics_expanded_chain : ∃ r, expandMimics (fun _ => true) mimicBase mimicChain = .ok r ∧
    r.lookup "b" = some (-1 / 50) ∧ r.lookup "c" = some (-3 / 100) := by
  have ha : mimicBase.lookup "a" = some (1 / 50) := by decide +kernel
  have hb : mimicChain.lookup "b" = some ⟨"a", -1, 0⟩ := by decide +kernel
  have hc : mimicChain.lookup "c" = some ⟨"b", 2, 1 / 100⟩ := by decide +kernel
  have hends : ∀ name ∈ mimicChain, ∃ value, ChainEnds mimicBase mimicChain name value := by
    have hend : ChainEnds mimicBase mimicChain "b" (Mimic.value ⟨"a", -1, 0⟩ (1 / 50)) :=
      (chainEnds_iff (by decide) hb).2 ⟨_, .base _ _ ha, rfl⟩
    have hkeys : mimicChain.keys = ["c", "b"] := by decide
    intro name hname
    rw [AList.mem_keys, hkeys, List.mem_cons, List.mem_singleton] at hname
    rcases hname with rfl | rfl
    · exact ⟨_, (chainEnds_iff (by decide) hc).2 ⟨_, hend, rfl⟩⟩
    · exact ⟨_, hend⟩
  have hmain := mimics_expanded (fun _ => true) mimicBase mimicChain (by decide)
  cases hresult : expandMimics (fun _ => true) mimicBase mimicChain with
  | error e =>
    obtain ⟨name, mimic, hmimic, hnone | hinfinite⟩ := hmain.2.2.1.1 ⟨e, hresult⟩
    · obtain ⟨value, hvalue⟩ := hends name (dict_mem_iff.2 ⟨mimic, hmimic⟩)
      exact absurd hvalue (hnone value)
    · cases hinfinite
  | ok r =>
    obtain ⟨hr, -⟩ := hmain.1 r hresult
    obtain ⟨a, hparent, hvalue⟩ := hr.fits "b" _ hb
    obtain ⟨b, hparent', hvalue'⟩ := hr.fits "c" _ hc
    rw [hr.bases "a" _ ha] at hparent
    cases hparent
    rw [hvalue] at hparent'
    cases hparent'
    exact ⟨r, rfl, hvalue.trans (by decide +kernel), hvalue'.trans (by decide +kernel)⟩

end HumanoidMotion
