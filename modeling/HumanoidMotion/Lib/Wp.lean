import Mathlib.Logic.Basic
/-
# Preconditions for programs with a state and an exit

A program of `ExceptT ε (StateM σ)` changes a state `σ` and either returns or
leaves through an exit `ε`, keeping the state it has reached. `wp m Q E s` says
that `m` started in `s` either returns with `Q` or leaves with `E`.

* `wp_bind`, `wp_pure`, `wp_throw`, `wp_get`, `wp_set`, `wp_modify` — the rules
  of the constructs, as equivalences.
* `wp.imp`, `wp.bind` — consequence, and sequencing through a stated middle.
* `wp_tryCatch`, `wp_catchExit` — handlers, and one that turns an exit into a plain return.
* `wp_forM` — the rule of a loop over a list, with an invariant on the part of
  the list that is left.
* `Relates` — a relation between the two ends of every run, however it ends.
* `Chain` — the steps of a loop, one after the other (`wp_forM_chain`).
-/

/-- A program on `σ` that may leave early through `ε`. -/
abbrev Prog (σ ε α : Type) := ExceptT ε (StateM σ) α

namespace Prog

variable {σ ε α β : Type}

/-- Run a program from a state. -/
def exec (m : Prog σ ε α) (s : σ) : Except ε α × σ := (ExceptT.run m).run s

def wp (m : Prog σ ε α) (Q : α → σ → Prop) (E : ε → σ → Prop) (s : σ) : Prop :=
  match m.exec s with
  | (.ok a, s') => Q a s'
  | (.error e, s') => E e s'

section
variable {Q : α → σ → Prop} {E : ε → σ → Prop} {s : σ}

@[simp] theorem wp_pure (a : α) : wp (pure a : Prog σ ε α) Q E s ↔ Q a s := Iff.rfl

@[simp] theorem wp_throw (e : ε) : wp (throw e : Prog σ ε α) Q E s ↔ E e s := Iff.rfl

theorem exec_bind (m : Prog σ ε β) (f : β → Prog σ ε α) (s : σ) :
    (m >>= f).exec s = match m.exec s with
      | (.ok b, s') => (f b).exec s'
      | (.error e, s') => (.error e, s') := by
  simp only [exec, ExceptT.run_bind, StateT.run_bind]
  rcases (ExceptT.run m).run s with ⟨_ | b, s'⟩ <;> rfl

@[simp] theorem wp_bind (m : Prog σ ε β) (f : β → Prog σ ε α) :
    wp (m >>= f) Q E s ↔ wp m (fun b s' => wp (f b) Q E s') E s := by
  simp only [wp, exec_bind]
  rcases m.exec s with ⟨_ | b, s'⟩ <;> rfl

@[simp] theorem wp_get {Q : σ → σ → Prop} {E : ε → σ → Prop} :
    wp (get : Prog σ ε σ) Q E s ↔ Q s s := Iff.rfl

@[simp] theorem wp_set {Q : PUnit → σ → Prop} {E : ε → σ → Prop} (s' : σ) :
    wp (set s' : Prog σ ε PUnit) Q E s ↔ Q ⟨⟩ s' := Iff.rfl

@[simp] theorem wp_modify {Q : PUnit → σ → Prop} {E : ε → σ → Prop} (f : σ → σ) :
    wp (modify f : Prog σ ε PUnit) Q E s ↔ Q ⟨⟩ (f s) := Iff.rfl

@[simp] theorem wp_modifyGet (f : σ → α × σ) :
    wp (modifyGet f : Prog σ ε α) Q E s ↔ Q (f s).1 (f s).2 := Iff.rfl

@[simp] theorem wp_ite {c : Prop} [Decidable c] (m n : Prog σ ε α) :
    wp (if c then m else n) Q E s ↔ if c then wp m Q E s else wp n Q E s := by
  split <;> rfl

/-! ## Consequence and sequencing -/

theorem wp.imp {Q' : α → σ → Prop} {E' : ε → σ → Prop} {m : Prog σ ε α} (h : wp m Q' E' s)
    (hQ : ∀ a s', Q' a s' → Q a s') (hE : ∀ e s', E' e s' → E e s') : wp m Q E s := by
  unfold wp at h ⊢
  split at h
  · exact hQ _ _ h
  · exact hE _ _ h

/-- Sequencing through a stated middle: `Q'` is what is known between the two programs. -/
theorem wp.bind {Q' : β → σ → Prop} {m : Prog σ ε β} {f : β → Prog σ ε α}
    (h : wp m Q' E s) (hf : ∀ b s', Q' b s' → wp (f b) Q E s') : wp (m >>= f) Q E s :=
  (wp_bind m f).2 (h.imp hf fun _ _ he => he)

/-- Two facts about one run. -/
theorem wp.and {Q' : α → σ → Prop} {E' : ε → σ → Prop} {m : Prog σ ε α} (h : wp m Q E s)
    (h' : wp m Q' E' s) : wp m (fun a s' => Q a s' ∧ Q' a s') (fun e s' => E e s' ∧ E' e s') s := by
  unfold wp at h h' ⊢
  revert h h'
  rcases m.exec s with ⟨e | a, t⟩
  · exact fun h h' => ⟨h, h'⟩
  · exact fun h h' => ⟨h, h'⟩

/-- The run itself beside what is known of its end. -/
theorem wp.exec {m : Prog σ ε α} (h : wp m Q E s) :
    wp m (fun a s' => m.exec s = (.ok a, s') ∧ Q a s') E s := by
  unfold wp at h ⊢
  revert h
  rcases m.exec s with ⟨e | a, t⟩
  · exact id
  · exact fun h => ⟨rfl, h⟩

/-- A run that meets no exit returns. -/
theorem wp.exists {m : Prog σ ε α} (h : wp m Q (fun _ _ => False) s) :
    ∃ a s', m.exec s = (.ok a, s') ∧ Q a s' := by
  unfold wp at h
  rcases hm : m.exec s with ⟨e | a, s'⟩
  · rw [hm] at h
    exact h.elim
  · rw [hm] at h
    exact ⟨a, s', rfl, h⟩

/-- What a run that met its precondition ends in. -/
theorem wp.exec_ok {m : Prog σ ε α} (h : wp m Q E s) {a : α} {s' : σ}
    (hm : m.exec s = (.ok a, s')) : Q a s' := by
  simpa only [wp, hm] using h

end

/-! ## Handlers and loops -/

theorem exec_tryCatch (m : Prog σ ε α) (h : ε → Prog σ ε α) (s : σ) :
    (tryCatch m h : Prog σ ε α).exec s = match m.exec s with
      | (.ok a, s') => (.ok a, s')
      | (.error e, s') => (h e).exec s' := by
  simp only [exec, ExceptT.run_tryCatch, StateT.run_bind]
  rcases (ExceptT.run m).run s with ⟨_ | a, s'⟩ <;> rfl

/-- An exit of `m` goes to the handler, in the state that `m` has reached. -/
@[simp] theorem wp_tryCatch {Q : α → σ → Prop} {E : ε → σ → Prop} {s : σ} (m : Prog σ ε α)
    (h : ε → Prog σ ε α) :
    wp (tryCatch m h) Q E s ↔ wp m Q (fun e s' => wp (h e) Q E s') s := by
  simp only [wp, exec_tryCatch]
  rcases m.exec s with ⟨e | a, s'⟩ <;> rfl

/-- `m`, with the exit `e` read as "go on with `a`" and every other exit passed through. -/
def catchExit [DecidableEq ε] (m : Prog σ ε α) (e : ε) (a : α) : Prog σ ε α :=
  tryCatch m fun e' => if e' = e then pure a else throw e'

theorem wp_catchExit [DecidableEq ε] {Q : α → σ → Prop} {E : ε → σ → Prop} {s : σ}
    (m : Prog σ ε α) (e : ε) (a : α) :
    wp (m.catchExit e a) Q E s ↔ wp m Q (fun e' s' => if e' = e then Q a s' else E e' s') s := by
  simp only [catchExit, wp_tryCatch, wp_ite, wp_pure, wp_throw]

/-- A loop over a list: the invariant speaks about the elements still to come. -/
theorem wp_forM {ι : Type} {E : ε → σ → Prop} (f : ι → Prog σ ε PUnit) (I : List ι → σ → Prop)
    (hstep : ∀ i is s, I (i :: is) s → wp (f i) (fun _ s' => I is s') E s) :
    ∀ (is : List ι) (s : σ), I is s → wp (is.forM f) (fun _ s' => I [] s') E s
  | [], _, h => h
  | i :: is, s, h => by
    change wp (f i >>= fun _ => is.forM f) _ _ _
    exact (hstep i is s h).bind fun _ s' hs' => wp_forM f I hstep is s' hs'

/-! ## Relations between the two ends -/

/-- Started anywhere, the program ends in a state related to where it started. -/
def Relates (R : σ → σ → Prop) (m : Prog σ ε α) : Prop :=
  ∀ s, wp m (fun _ s' => R s s') (fun _ s' => R s s') s

section
variable {R : σ → σ → Prop}

theorem relates_pure (hrefl : ∀ s, R s s) (a : α) : Relates R (pure a : Prog σ ε α) := hrefl

theorem relates_throw (hrefl : ∀ s, R s s) (e : ε) : Relates R (throw e : Prog σ ε α) := hrefl

theorem relates_get (hrefl : ∀ s, R s s) : Relates R (get : Prog σ ε σ) := hrefl

theorem relates_modify {f : σ → σ} (hf : ∀ s, R s (f s)) :
    Relates R (modify f : Prog σ ε PUnit) := hf

theorem relates_modifyGet {f : σ → α × σ} (hf : ∀ s, R s (f s).2) :
    Relates R (modifyGet f : Prog σ ε α) := hf

theorem relates_bind (htrans : ∀ a b c, R a b → R b c → R a c) {m : Prog σ ε β}
    {f : β → Prog σ ε α} (hm : Relates R m) (hf : ∀ b, Relates R (f b)) : Relates R (m >>= f) := by
  intro s
  refine (wp_bind m f).2 ((hm s).imp (fun b s' hs' => ?_) fun _ _ h => h)
  exact (hf b s').imp (fun _ _ h => htrans _ _ _ hs' h) fun _ _ h => htrans _ _ _ hs' h

theorem relates_ite {c : Prop} [Decidable c] {m n : Prog σ ε α} (hm : Relates R m)
    (hn : Relates R n) : Relates R (if c then m else n) := by
  split
  · exact hm
  · exact hn

end

/-! ## The steps of a loop -/

/-- Each element takes the state one step on. -/
inductive Chain {ι : Type} (T : ι → σ → σ → Prop) : List ι → σ → σ → Prop
  | nil (s : σ) : Chain T [] s s
  | cons (i : ι) (is : List ι) (s s' s'' : σ) (h : T i s s') (hs : Chain T is s' s'') :
      Chain T (i :: is) s s''

section
variable {ι : Type} {T : ι → σ → σ → Prop}

/-- A loop whose turns keep an invariant and take a step each. -/
theorem wp_forM_chain {E : ε → σ → Prop} (f : ι → Prog σ ε PUnit) (I : σ → Prop)
    (hstep : ∀ i s, I s → wp (f i) (fun _ s' => T i s s' ∧ I s') E s) :
    ∀ (is : List ι) (s : σ), I s → wp (is.forM f) (fun _ s' => Chain T is s s' ∧ I s') E s
  | [], s, h => ⟨.nil s, h⟩
  | i :: is, s, h => by
    change wp (f i >>= fun _ => is.forM f) _ _ _
    refine (hstep i s h).bind fun _ s₁ h₁ => ?_
    exact (wp_forM_chain f I hstep is s₁ h₁.2).imp
      (fun _ s' h' => ⟨.cons i is s s₁ s' h₁.1 h'.1, h'.2⟩) fun _ _ h => h

/-- What every step keeps, the loop keeps. -/
theorem Chain.invariant {I : σ → Prop} {is : List ι} {s s' : σ} (h : Chain T is s s')
    (hstep : ∀ i ∈ is, ∀ s s', T i s s' → I s → I s') (hs : I s) : I s' := by
  induction h with
  | nil => exact hs
  | cons i is s s₁ s' h _ ih =>
    exact ih (fun k hk => hstep k (List.mem_cons_of_mem _ hk))
      (hstep i List.mem_cons_self s s₁ h hs)

end

end Prog
