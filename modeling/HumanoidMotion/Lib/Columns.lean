import Std.Data.TreeMap
import Mathlib.Data.List.Nodup
import Mathlib.Data.List.Perm.Subperm
import Mathlib.Data.List.Forall2
/-
# Values by key

Parallel columns of keys and values say which value each key has; their order
says nothing. A reader that looks keys up in a table of the pairs gets the
values in its own order.

* `table` — the pairs as a map, the first one where a key comes twice.
* `pick` — the values of some keys, in the order of the keys.
* `pick_perm` — all the keys: the same pairs in another order.
* `pick_congr` — tables of the same pairs give the same values.
-/

namespace Columns

variable {κ ν : Type} [Ord κ]

def table (pairs : List (κ × ν)) : Std.TreeMap κ ν :=
  pairs.foldl (fun map p => map.insertIfNew p.1 p.2) ∅

section
variable [Std.TransOrd κ] [Std.LawfulEqOrd κ]

theorem foldl_insertIfNew (pairs : List (κ × ν)) (map : Std.TreeMap κ ν) (k : κ) :
    (pairs.foldl (fun map p => map.insertIfNew p.1 p.2) map)[k]? =
      map[k]?.or ((pairs.find? fun p => compare p.1 k == .eq).map Prod.snd) := by
  induction pairs generalizing map with
  | nil => simp
  | cons p rest ih =>
    rw [List.foldl_cons, ih, Std.TreeMap.getElem?_insertIfNew]
    by_cases hkey : compare p.1 k = .eq
    · have hsame : p.1 = k := Std.LawfulEqOrd.eq_of_compare hkey
      by_cases hmem : p.1 ∈ map
      · have hsome : map[k]?.isSome := by
          rw [← hsame]
          simpa using hmem
        obtain ⟨v, hv⟩ := Option.isSome_iff_exists.1 hsome
        simp [hmem, hv]
      · have hnone : map[k]? = none := by
          rw [← hsame]
          exact Std.TreeMap.getElem?_eq_none hmem
        simp [hkey, hmem, hnone]
    · simp [hkey]

/-- Keys that are distinct are looked up among the pairs. -/
theorem table_getElem? {pairs : List (κ × ν)} (hnodup : (pairs.map Prod.fst).Nodup) (k : κ) (v : ν) :
    (table pairs)[k]? = some v ↔ (k, v) ∈ pairs := by
  rw [table, foldl_insertIfNew]
  simp only [Std.TreeMap.getElem?_emptyc, Option.none_or, Option.map_eq_some_iff]
  constructor
  · rintro ⟨p, hfind, rfl⟩
    have hkey : p.1 = k := by
      have := List.find?_some hfind
      exact Std.LawfulEqOrd.eq_of_compare (by simpa using this)
    rw [← hkey]
    exact List.mem_of_find?_eq_some hfind
  · intro hmem
    induction pairs with
    | nil => cases hmem
    | cons p rest ih =>
      simp only [List.map_cons, List.nodup_cons, List.mem_map, not_exists, not_and] at hnodup
      rcases List.mem_cons.1 hmem with rfl | htail
      · exact ⟨(k, v), by simp, rfl⟩
      · have hne : ¬ compare p.1 k = .eq := fun heq =>
          hnodup.1 (k, v) htail (Std.LawfulEqOrd.eq_of_compare heq).symm
        simpa [List.find?_cons, hne] using ih hnodup.2 htail

/-- Every pair adds a key of its own. -/
theorem foldl_size (pairs : List (κ × ν)) (map : Std.TreeMap κ ν)
    (hnodup : (pairs.map Prod.fst).Nodup) (hnew : ∀ p ∈ pairs, p.1 ∉ map) :
    (pairs.foldl (fun map p => map.insertIfNew p.1 p.2) map).size = map.size + pairs.length := by
  induction pairs generalizing map with
  | nil => rfl
  | cons p rest ih =>
    simp only [List.map_cons, List.nodup_cons] at hnodup
    rw [List.foldl_cons, ih _ hnodup.2, Std.TreeMap.size_insertIfNew,
      if_neg (hnew p List.mem_cons_self), List.length_cons, Nat.add_assoc, Nat.add_comm 1]
    intro q hq hmem
    rcases Std.TreeMap.mem_insertIfNew.1 hmem with heq | hold
    · exact hnodup.1 (Std.LawfulEqOrd.eq_of_compare heq ▸ List.mem_map_of_mem hq)
    · exact hnew q (List.mem_cons_of_mem p hq) hold

theorem table_size {pairs : List (κ × ν)} (hnodup : (pairs.map Prod.fst).Nodup) :
    (table pairs).size = pairs.length := by
  rw [table, foldl_size pairs ∅ hnodup fun _ _ => Std.TreeMap.not_mem_emptyc]
  simp

/-- The keys of the table. -/
theorem mem_table {pairs : List (κ × ν)} (hnodup : (pairs.map Prod.fst).Nodup) (k : κ) :
    k ∈ table pairs ↔ k ∈ pairs.map Prod.fst := by
  rw [← Std.TreeMap.isSome_getElem?_iff_mem, Option.isSome_iff_exists]
  simp only [table_getElem? hnodup, List.mem_map, Prod.exists, exists_and_right, exists_eq_right]

end

/-- The values of `keys`, where every one has a value. -/
def pick (map : Std.TreeMap κ ν) (keys : List κ) : Option (List ν) := keys.mapM fun k => map[k]?

theorem pick_cons (map : Std.TreeMap κ ν) (k : κ) (keys : List κ) :
    pick map (k :: keys) = map[k]?.bind fun v => (pick map keys).map (v :: ·) := by
  simp only [pick, List.mapM_cons]
  cases map[k]? with
  | none => rfl
  | some v => cases keys.mapM fun k => map[k]? <;> rfl

/-- Tables with the same values give the same columns. -/
theorem pick_congr {map map' : Std.TreeMap κ ν} (h : ∀ k : κ, map[k]? = map'[k]?) (keys : List κ) :
    pick map keys = pick map' keys := by
  simp only [pick, h]

/-- Every key gets its own value. -/
theorem pick_forall₂ {map : Std.TreeMap κ ν} {keys : List κ} {values : List ν} :
    pick map keys = some values ↔ List.Forall₂ (fun (k : κ) v => map[k]? = some v) keys values := by
  induction keys generalizing values with
  | nil =>
    simp only [pick, List.mapM_nil, List.forall₂_nil_left_iff]
    exact ⟨fun h => (Option.some.inj h).symm, fun h => h ▸ rfl⟩
  | cons k keys ih =>
    rw [pick_cons]
    cases values with
    | nil =>
      cases map[k]? with
      | none => simp
      | some v => simp
    | cons v values =>
      simp only [Option.bind_eq_some_iff, Option.map_eq_some_iff, ih, List.cons.injEq,
        List.forall₂_cons]
      constructor
      · rintro ⟨w, hw, rest, hrest, rfl, rfl⟩
        exact ⟨hw, hrest⟩
      · rintro ⟨hw, hrest⟩
        exact ⟨v, hw, values, hrest, rfl, rfl⟩

theorem pick_length {map : Std.TreeMap κ ν} {keys : List κ} {values : List ν}
    (h : pick map keys = some values) : values.length = keys.length :=
  (pick_forall₂.1 h).length_eq.symm

section
variable [Std.TransOrd κ]

theorem pick_isSome {map : Std.TreeMap κ ν} {keys : List κ} :
    (pick map keys).isSome = true ↔ ∀ k ∈ keys, k ∈ map := by
  induction keys with
  | nil => simp [pick]
  | cons k keys ih =>
    rw [pick_cons]
    cases hk : map[k]? with
    | none =>
      have habsent : k ∉ map := by simpa using hk
      simp [habsent]
    | some v =>
      have hmem : k ∈ map := by
        rw [← Std.TreeMap.isSome_getElem?_iff_mem, hk]
        rfl
      simp [hmem, ← ih]

variable [Std.LawfulEqOrd κ]

/-- Every value picked was the value of its key. -/
theorem pick_subset {pairs : List (κ × ν)} (hnodup : (pairs.map Prod.fst).Nodup) {keys : List κ}
    {values : List ν} (h : pick (table pairs) keys = some values) : keys.zip values ⊆ pairs := by
  intro p hp
  have hall := pick_forall₂.1 h
  exact (table_getElem? hnodup p.1 p.2).1 (List.forall₂_zip hall hp)

/-- All the keys picked: the same pairs, listed by the reader's keys. -/
theorem pick_perm {pairs : List (κ × ν)} (hnodup : (pairs.map Prod.fst).Nodup) {keys : List κ}
    (hkeys : keys.Nodup) (hlength : keys.length = pairs.length) {values : List ν}
    (h : pick (table pairs) keys = some values) : (keys.zip values).Perm pairs := by
  have hvalues := pick_length h
  have hfirst : (keys.zip values).map Prod.fst = keys := List.map_fst_zip (by omega)
  have hzip : (keys.zip values).Nodup := List.Nodup.of_map Prod.fst (hfirst.symm ▸ hkeys)
  refine (hzip.subperm (pick_subset hnodup h)).perm_of_length_le ?_
  simp only [List.length_zip, hvalues, Nat.min_self, hlength, Nat.le_refl]

/-- The order of the pairs does not matter. -/
theorem table_perm {pairs pairs' : List (κ × ν)} (hperm : pairs.Perm pairs')
    (hnodup : (pairs.map Prod.fst).Nodup) (k : κ) : (table pairs)[k]? = (table pairs')[k]? := by
  have hnodup' : (pairs'.map Prod.fst).Nodup := (hperm.map Prod.fst).nodup_iff.1 hnodup
  ext v
  rw [table_getElem? hnodup, table_getElem? hnodup', hperm.mem_iff]

end

end Columns
