import HumanoidMotion.Lib.Wp
/-
# Two runs side by side

`Lockstep P Q X m m'` compares a run of `m` with a run of `m'`: from two states
that `P` relates, either both return one value, in states that `Q` relates, or
both leave through one exit, in states that `X` relates. The relation says what
the two states have in common; each construct has one rule.

* `Aligned` — how the two runs end.
* `ret`, `raise`, `seq`, `update`, `updateGet`, `branch` — the constructs.
* `read` — both states are read; what is read need not be equal.
* `catchExit`, `forM` — handlers and loops.
* `imp`, `same`, `diagonal` — consequence, and one program from one state.
* `of_wp` — two runs of which each meets a precondition of its own.
-/

namespace Prog

variable {σ ε α β : Type}

/-- Two runs have ended alike: with one value, or through one exit. -/
inductive Aligned (Q : α → σ → σ → Prop) (X : ε → σ → σ → Prop) :
    Except ε α × σ → Except ε α × σ → Prop
  | ok (a : α) (t t' : σ) (h : Q a t t') : Aligned Q X (.ok a, t) (.ok a, t')
  | error (e : ε) (t t' : σ) (h : X e t t') : Aligned Q X (.error e, t) (.error e, t')

def Lockstep (P : σ → σ → Prop) (Q : α → σ → σ → Prop) (X : ε → σ → σ → Prop)
    (m m' : Prog σ ε α) : Prop :=
  ∀ s s', P s s' → Aligned Q X (m.exec s) (m'.exec s')

variable {P : σ → σ → Prop} {Q : α → σ → σ → Prop} {X : ε → σ → σ → Prop}

/-! ## The constructs -/

theorem Lockstep.ret {a : α} (h : ∀ s s', P s s' → Q a s s') :
    Lockstep P Q X (pure a) (pure a) := fun s s' hs => .ok a s s' (h s s' hs)

theorem Lockstep.raise {e : ε} (h : ∀ s s', P s s' → X e s s') :
    Lockstep P Q X (throw e) (throw e) := fun s s' hs => .error e s s' (h s s' hs)

theorem Lockstep.update {Q : PUnit → σ → σ → Prop} {f f' : σ → σ}
    (h : ∀ s s', P s s' → Q ⟨⟩ (f s) (f' s')) : Lockstep P Q X (modify f) (modify f') :=
  fun s s' hs => .ok PUnit.unit (f s) (f' s') (h s s' hs)

theorem Lockstep.updateGet {f f' : σ → α × σ}
    (h : ∀ s s', P s s' → (f' s').1 = (f s).1 ∧ Q (f s).1 (f s).2 (f' s').2) :
    Lockstep P Q X (modifyGet f) (modifyGet f') := by
  intro s s' hs
  obtain ⟨heq, hq⟩ := h s s' hs
  change Aligned Q X (.ok (f s).1, (f s).2) (.ok (f' s').1, (f' s').2)
  rw [heq]
  exact .ok _ _ _ hq

/-- Sequencing: `M` is what the two states have in common between the programs. -/
theorem Lockstep.seq {M : β → σ → σ → Prop} {m m' : Prog σ ε β} {f f' : β → Prog σ ε α}
    (h : Lockstep P M X m m') (hf : ∀ b, Lockstep (M b) Q X (f b) (f' b)) :
    Lockstep P Q X (m >>= f) (m' >>= f') := by
  intro s s' hs
  have hm := h s s' hs
  rw [exec_bind, exec_bind]
  revert hm
  generalize m.exec s = r
  generalize m'.exec s' = r'
  rintro (⟨b, t, t', hM⟩ | ⟨e, t, t', hX⟩)
  · exact hf b t t' hM
  · exact .error e t t' hX

/-- Both programs read their state; they go on from states that `P` still relates. -/
theorem Lockstep.read {f f' : σ → Prog σ ε α}
    (h : ∀ s s', P s s' → Lockstep P Q X (f s) (f' s')) :
    Lockstep P Q X (get >>= f) (get >>= f') := by
  intro s s' hs
  rw [exec_bind, exec_bind]
  exact h s s' hs s s' hs

theorem Lockstep.branch {c : Prop} [Decidable c] {m m' n n' : Prog σ ε α}
    (ht : c → Lockstep P Q X m m') (hf : ¬c → Lockstep P Q X n n') :
    Lockstep P Q X (if c then m else n) (if c then m' else n') := by
  split
  · exact ht ‹_›
  · exact hf ‹_›

/-! ## Consequence -/

theorem Aligned.imp {Q' : α → σ → σ → Prop} {X' : ε → σ → σ → Prop} {r r' : Except ε α × σ}
    (h : Aligned Q X r r') (hQ : ∀ a s s', Q a s s' → Q' a s s')
    (hX : ∀ e s s', X e s s' → X' e s s') : Aligned Q' X' r r' := by
  cases h with
  | ok a t t' h => exact .ok a t t' (hQ a t t' h)
  | error e t t' h => exact .error e t t' (hX e t t' h)

theorem Lockstep.imp {P' : σ → σ → Prop} {Q' : α → σ → σ → Prop} {X' : ε → σ → σ → Prop}
    {m m' : Prog σ ε α} (h : Lockstep P Q X m m') (hP : ∀ s s', P' s s' → P s s')
    (hQ : ∀ a s s', Q a s s' → Q' a s s') (hX : ∀ e s s', X e s s' → X' e s s') :
    Lockstep P' Q' X' m m' := fun s s' hs => (h s s' (hP s s' hs)).imp hQ hX

/-- What is known before the two programs start is at hand while they run. -/
theorem Lockstep.knowing {φ : Prop} {m m' : Prog σ ε α} (h : φ → Lockstep P Q X m m') :
    Lockstep (fun s s' => φ ∧ P s s') Q X m m' := fun s s' hs => h hs.1 s s' hs.2

/-- A program in step with itself: what relates a state to itself is a fact about one run. -/
theorem Lockstep.diagonal {m : Prog σ ε α} (h : Lockstep P Q X m m) {s : σ} (hs : P s s) :
    wp m (fun a t => Q a t t) (fun e t => X e t t) s := by
  have hm := h s s hs
  unfold wp
  revert hm
  rcases m.exec s with ⟨e | a, t⟩
  · rintro ⟨⟩
    assumption
  · rintro ⟨⟩
    assumption

/-- Facts about each run alone are at hand beside what relates the two. -/
theorem Aligned.and_wp {Q₁ Q₁' : α → σ → Prop} {E E' : ε → σ → Prop} {m m' : Prog σ ε α} {s s' : σ}
    (h : Aligned Q X (m.exec s) (m'.exec s')) (hl : wp m Q₁ E s) (hr : wp m' Q₁' E' s') :
    Aligned (fun a t t' => Q a t t' ∧ Q₁ a t ∧ Q₁' a t') (fun e t t' => X e t t' ∧ E e t ∧ E' e t')
      (m.exec s) (m'.exec s') := by
  unfold wp at hl hr
  revert h hl hr
  generalize m.exec s = r
  generalize m'.exec s' = r'
  rintro (⟨a, t, t', h⟩ | ⟨e, t, t', h⟩) hl hr
  · exact .ok a t t' ⟨h, hl, hr⟩
  · exact .error e t t' ⟨h, hl, hr⟩

/-- Two runs that return no value may go different ways. -/
theorem Aligned.of_wp {Q : PUnit → σ → σ → Prop} {Q₁ Q₁' : PUnit → σ → Prop}
    {m m' : Prog σ ε PUnit} {s s' : σ} (h : wp m Q₁ (fun _ _ => False) s)
    (h' : wp m' Q₁' (fun _ _ => False) s') (hQ : ∀ t t', Q₁ ⟨⟩ t → Q₁' ⟨⟩ t' → Q ⟨⟩ t t') :
    Aligned Q X (m.exec s) (m'.exec s') := by
  revert h h'
  unfold wp
  rcases m.exec s with ⟨e | a, t⟩
  · exact fun h _ => h.elim
  · rcases m'.exec s' with ⟨e' | a', t'⟩
    · exact fun _ h' => h'.elim
    · exact fun h h' => .ok PUnit.unit t t' (hQ t t' h h')

/-! ## Handlers and loops -/

theorem Lockstep.catchExit [DecidableEq ε] {m m' : Prog σ ε α} (e : ε) (a : α)
    (h : Lockstep P Q (fun e' s s' => if e' = e then Q a s s' else X e' s s') m m') :
    Lockstep P Q X (m.catchExit e a) (m'.catchExit e a) := by
  intro s s' hs
  have hm := h s s' hs
  unfold Prog.catchExit
  rw [exec_tryCatch, exec_tryCatch]
  revert hm
  generalize m.exec s = r
  generalize m'.exec s' = r'
  rintro (⟨b, t, t', hQ⟩ | ⟨e', t, t', hX⟩)
  · exact .ok b t t' hQ
  · simp only
    split
    · rename_i he
      exact .ok a t t' (by rwa [if_pos he] at hX)
    · rename_i he
      exact .error e' t t' (by rwa [if_neg he] at hX)

/-- A loop over one list; the relation may speak about the elements still to come. -/
theorem Lockstep.forM {ι : Type} {f f' : ι → Prog σ ε PUnit} (I : List ι → σ → σ → Prop)
    (hstep : ∀ i is, Lockstep (I (i :: is)) (fun _ => I is) X (f i) (f' i)) :
    ∀ is : List ι, Lockstep (I is) (fun _ => I []) X (is.forM f) (is.forM f')
  | [] => fun s s' hs => .ok PUnit.unit s s' hs
  | i :: is => by
    change Lockstep _ _ _ (f i >>= fun _ => is.forM f) (f' i >>= fun _ => is.forM f')
    exact (hstep i is).seq fun _ => Lockstep.forM I hstep is

end Prog
