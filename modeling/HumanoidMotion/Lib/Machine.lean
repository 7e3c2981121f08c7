import Mathlib.Data.List.Basic
/-
# Machines, runs and invariants

A machine takes one input at a time, answers it and moves to its next state.
`Machine.trace` records every stage of a run, so that a statement can speak
about what an earlier or a later step did; `Machine.run` keeps the last state.

* `Meets` — every input of the run satisfies a condition in the state it meets.
* `run_invariant`, `trace_invariant` — what every step preserves holds along
  every run.
* `trace_eq_append`, `trace_eq_cons` — a split of the stages is a split of the run.
* `trace_split`, `trace_succ`, `trace_later` — the run around one stage, and between two.
* `trace_step` — every stage is a step.
* `history_invariant`, `trace_history` — invariants that speak about the past.
-/

/-- A system that answers one input at a time. -/
structure Machine (σ ι ο : Type) where
  step : σ → ι → ο × σ

namespace Machine

/-- One step of a run, with the states on its two sides. -/
structure Stage (σ ι ο : Type) where
  before : σ
  input : ι
  output : ο
  after : σ

variable {σ ι ο : Type} (M : Machine σ ι ο)

def run (s : σ) (is : List ι) : σ := is.foldl (fun s i => (M.step s i).2) s

def trace : σ → List ι → List (Stage σ ι ο)
  | _, [] => []
  | s, i :: is => ⟨s, i, (M.step s i).1, (M.step s i).2⟩ :: trace (M.step s i).2 is

/-- Every input of the run satisfies `ok` in the state it arrives in. -/
def Meets (ok : σ → ι → Prop) (s : σ) (is : List ι) : Prop :=
  ∀ g ∈ M.trace s is, ok g.before g.input

variable {M}

@[simp] theorem run_nil (s : σ) : M.run s [] = s := rfl

@[simp] theorem run_cons (s : σ) (i : ι) (is : List ι) :
    M.run s (i :: is) = M.run (M.step s i).2 is := rfl

theorem run_append (s : σ) (is js : List ι) : M.run s (is ++ js) = M.run (M.run s is) js := by
  simp [run, List.foldl_append]

@[simp] theorem trace_nil (s : σ) : M.trace s [] = [] := rfl

@[simp] theorem trace_cons (s : σ) (i : ι) (is : List ι) :
    M.trace s (i :: is) =
      ⟨s, i, (M.step s i).1, (M.step s i).2⟩ :: M.trace (M.step s i).2 is := rfl

theorem trace_append (s : σ) (is js : List ι) :
    M.trace s (is ++ js) = M.trace s is ++ M.trace (M.run s is) js := by
  induction is generalizing s with
  | nil => rfl
  | cons i is ih => simp [ih]

@[simp] theorem length_trace (s : σ) (is : List ι) : (M.trace s is).length = is.length := by
  induction is generalizing s with
  | nil => rfl
  | cons i is ih => simp [ih]

theorem trace_inputs (s : σ) (is : List ι) : (M.trace s is).map (·.input) = is := by
  induction is generalizing s with
  | nil => rfl
  | cons i is ih => simp [ih]

/-- A split of the stages splits the inputs. -/
theorem trace_eq_append {s : σ} {is : List ι} {past rest : List (Stage σ ι ο)}
    (h : M.trace s is = past ++ rest) : ∃ is₁ is₂, is = is₁ ++ is₂ ∧ M.trace s is₁ = past ∧
      M.trace (M.run s is₁) is₂ = rest := by
  have hsplit : M.trace s (is.take past.length) ++
      M.trace (M.run s (is.take past.length)) (is.drop past.length) = past ++ rest := by
    rw [← trace_append, List.take_append_drop, h]
  have hlength : past.length ≤ is.length := by
    rw [← length_trace (M := M) s is, h, List.length_append]
    exact Nat.le_add_right _ _
  obtain ⟨hpast, hrest⟩ := List.append_inj hsplit (by simp [hlength])
  exact ⟨_, _, (List.take_append_drop past.length is).symm, hpast, hrest⟩

theorem trace_eq_cons {s : σ} {is : List ι} {g : Stage σ ι ο} {rest : List (Stage σ ι ο)}
    (h : M.trace s is = g :: rest) : ∃ i is', is = i :: is' ∧
      g = ⟨s, i, (M.step s i).1, (M.step s i).2⟩ ∧ M.trace g.after is' = rest := by
  cases is with
  | nil => cases h
  | cons i is =>
    obtain ⟨rfl, rfl⟩ := List.cons.inj h
    exact ⟨i, is, rfl, rfl, rfl⟩

/-! ## Conditions on runs -/

section
variable {ok : σ → ι → Prop}

@[simp] theorem meets_nil (s : σ) : M.Meets ok s [] := by simp [Meets]

@[simp] theorem meets_cons (s : σ) (i : ι) (is : List ι) :
    M.Meets ok s (i :: is) ↔ ok s i ∧ M.Meets ok (M.step s i).2 is := by
  simp [Meets]

theorem meets_append (s : σ) (is js : List ι) :
    M.Meets ok s (is ++ js) ↔ M.Meets ok s is ∧ M.Meets ok (M.run s is) js := by
  simp only [Meets, trace_append, List.mem_append]
  constructor
  · intro h; exact ⟨fun g hg => h g (.inl hg), fun g hg => h g (.inr hg)⟩
  · rintro ⟨h, h'⟩ g (hg | hg)
    · exact h g hg
    · exact h' g hg

theorem meets_true (s : σ) (is : List ι) : M.Meets (fun _ _ => True) s is := fun _ _ => trivial

/-- A condition on the inputs alone. -/
theorem meets_of_forall {ok : ι → Prop} {s : σ} {is : List ι} (h : ∀ i ∈ is, ok i) :
    M.Meets (fun _ i => ok i) s is := by
  induction is generalizing s with
  | nil => simp
  | cons i is ih =>
    exact (meets_cons s i is).2 ⟨h i List.mem_cons_self, ih fun k hk => h k (List.mem_cons_of_mem _ hk)⟩

/-! ## Invariants -/

/-- What each step preserves holds at the end of every run. -/
theorem run_invariant {I : σ → Prop} (hstep : ∀ s i, I s → ok s i → I (M.step s i).2)
    {s : σ} {is : List ι} (hs : I s) (hok : M.Meets ok s is) : I (M.run s is) := by
  induction is generalizing s with
  | nil => exact hs
  | cons i is ih =>
    obtain ⟨hi, his⟩ := (meets_cons s i is).1 hok
    exact ih (hstep s i hs hi) his

/-- What each step preserves holds before and after every stage of a run. -/
theorem trace_invariant {I : σ → Prop} (hstep : ∀ s i, I s → ok s i → I (M.step s i).2)
    {s : σ} {is : List ι} (hs : I s) (hok : M.Meets ok s is) :
    ∀ g ∈ M.trace s is, I g.before ∧ I g.after := by
  induction is generalizing s with
  | nil => simp
  | cons i is ih =>
    obtain ⟨hi, his⟩ := (meets_cons s i is).1 hok
    have hnext := hstep s i hs hi
    rintro g hg
    rcases List.mem_cons.1 hg with rfl | hg
    · exact ⟨hs, hnext⟩
    · exact ih hnext his g hg

end

/-! ## One stage among the others -/

/-- A stage splits the run into what came before its input and what came after. -/
theorem trace_split {s : σ} {is : List ι} {k : Nat} {g : Stage σ ι ο}
    (h : (M.trace s is)[k]? = some g) :
    ∃ pre post, is = pre ++ g.input :: post ∧ pre.length = k ∧ g.before = M.run s pre ∧
      (g.output, g.after) = M.step g.before g.input := by
  induction is generalizing s k with
  | nil => simp at h
  | cons i is ih =>
    cases k with
    | zero =>
      simp only [trace_cons, List.getElem?_cons_zero, Option.some.injEq] at h
      subst h
      exact ⟨[], is, rfl, rfl, rfl, rfl⟩
    | succ k =>
      simp only [trace_cons, List.getElem?_cons_succ] at h
      obtain ⟨pre, post, rfl, hlen, hb, hs⟩ := ih h
      exact ⟨i :: pre, post, rfl, by simp [hlen], hb, hs⟩

theorem trace_step {s : σ} {is : List ι} {g : Stage σ ι ο} (h : g ∈ M.trace s is) :
    M.step g.before g.input = (g.output, g.after) := by
  obtain ⟨k, hk⟩ := List.mem_iff_getElem?.1 h
  obtain ⟨_, _, _, _, _, hstep⟩ := trace_split hk
  exact hstep.symm

/-- A stage begins where the one before it has ended. -/
theorem trace_succ {s : σ} {is : List ι} {k : Nat} {g : Stage σ ι ο}
    (h : (M.trace s is)[k + 1]? = some g) :
    ∃ g', (M.trace s is)[k]? = some g' ∧ g.before = g'.after := by
  induction is generalizing s k with
  | nil => simp at h
  | cons i is ih =>
    cases k with
    | zero =>
      refine ⟨⟨s, i, (M.step s i).1, (M.step s i).2⟩, rfl, ?_⟩
      cases is with
      | nil => simp at h
      | cons j js =>
        simp only [trace_cons, Nat.zero_add, List.getElem?_cons_succ, List.getElem?_cons_zero,
          Option.some.injEq] at h
        subst h
        rfl
    | succ k => exact ih h

/-- Between two stages of a run lies a run from the end of the first to the start of the second. -/
theorem trace_later {ok : σ → ι → Prop} {s : σ} {is : List ι} (hok : M.Meets ok s is) {j k : Nat}
    {gj gk : Stage σ ι ο} (hjk : j < k) (hj : (M.trace s is)[j]? = some gj)
    (hk : (M.trace s is)[k]? = some gk) :
    ∃ mid, gk.before = M.run gj.after mid ∧ M.Meets ok gj.after mid := by
  obtain ⟨pre, post, rfl, hlen, hb, hs⟩ := trace_split hj
  have hafter : gj.after = M.run s (pre ++ [gj.input]) := by
    rw [run_append, ← hb]
    exact congrArg Prod.snd hs
  have hrest : (M.trace s (pre ++ gj.input :: post))[k]? =
      (M.trace gj.after post)[k - (j + 1)]? := by
    rw [List.append_cons, trace_append, ← hafter, List.getElem?_append_right (by simp; omega)]
    simp [hlen]
  obtain ⟨mid, last, rfl, _, hmid, _⟩ := trace_split (hrest ▸ hk)
  rw [List.append_cons, meets_append, ← hafter] at hok
  exact ⟨mid, hmid, ((meets_append _ _ _).1 hok.2).1⟩

/-- What holds after one stage and is preserved holds before every later one. -/
theorem trace_later_invariant {ok : σ → ι → Prop} {I : σ → Prop}
    (hstep : ∀ s i, I s → ok s i → I (M.step s i).2) {s : σ} {is : List ι}
    (hok : M.Meets ok s is) {j k : Nat} {gj gk : Stage σ ι ο} (hjk : j < k)
    (hj : (M.trace s is)[j]? = some gj) (hk : (M.trace s is)[k]? = some gk) (h : I gj.after) :
    I gk.before := by
  obtain ⟨mid, hmid, hmeets⟩ := trace_later hok hjk hj hk
  rw [hmid]
  exact run_invariant hstep h hmeets

/-! ## Invariants of the past and the state -/

section
variable {H : List (Stage σ ι ο) → σ → Prop}

/-- What each of these steps preserves, with itself added to the past, holds at the end of the run. -/
theorem history_meets {ok : ι → Prop}
    (hstep : ∀ past s i, ok i → H past s →
      H (past ++ [⟨s, i, (M.step s i).1, (M.step s i).2⟩]) (M.step s i).2)
    {past : List (Stage σ ι ο)} {s : σ} (hs : H past s) {is : List ι} (hok : ∀ i ∈ is, ok i) :
    H (past ++ M.trace s is) (M.run s is) := by
  induction is generalizing past s with
  | nil => simpa using hs
  | cons i is ih =>
    obtain ⟨hi, his⟩ := List.forall_mem_cons.1 hok
    simpa using ih (hstep past s i hi hs) his

/-- What each step preserves, with itself added to the past, holds at the end of every run. -/
theorem history_invariant
    (hstep : ∀ past s i, H past s →
      H (past ++ [⟨s, i, (M.step s i).1, (M.step s i).2⟩]) (M.step s i).2)
    {past : List (Stage σ ι ο)} {s : σ} (hs : H past s) (is : List ι) :
    H (past ++ M.trace s is) (M.run s is) :=
  history_meets (fun past s i (_ : True) => hstep past s i) hs fun _ _ => trivial

/-- Every stage starts where the stages before it have led. -/
theorem trace_history
    (hstep : ∀ past s i, H past s →
      H (past ++ [⟨s, i, (M.step s i).1, (M.step s i).2⟩]) (M.step s i).2)
    {s : σ} (hs : H [] s) {is : List ι} {k : Nat} {g : Stage σ ι ο}
    (hk : (M.trace s is)[k]? = some g) : H ((M.trace s is).take k) g.before := by
  obtain ⟨pre, post, rfl, rfl, hb, -⟩ := trace_split hk
  have hpast : (M.trace s (pre ++ g.input :: post)).take pre.length = M.trace s pre := by
    rw [trace_append, List.take_left' (length_trace s pre)]
  rw [hpast, hb]
  simpa using history_invariant hstep hs pre

end

end Machine
