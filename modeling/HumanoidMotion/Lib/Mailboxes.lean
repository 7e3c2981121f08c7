import Std.Data.TreeMap
import Std.Data.TreeSet
/-
# Mailboxes

A worker opens a mailbox under its key, looks into it from time to time, and closes
it when it takes a message or gives up. Another thread delivers; a message whose key
has no open mailbox is dropped, and one that finds a message replaces it.

* `Mailboxes`, `wait`, `deliver`, `take`, `discard` — the two tables and what is done with them.
* `Tidy` — messages lie in open mailboxes only.
* `Holds k told` — the mailbox of `k` is open and has the last of `told`, the messages
  delivered for `k` since it was opened.
* `Closed k` — it is closed, and so it stays until it is opened again.
-/

/-- The open mailboxes, and the messages that lie in them. -/
structure Mailboxes (κ μ : Type) [Ord κ] where
  waiting : Std.TreeSet κ := ∅
  arrived : Std.TreeMap κ μ := ∅

namespace Mailboxes

variable {κ μ : Type}

/-- The messages for one key among those delivered. -/
def addressed [DecidableEq κ] (key : μ → κ) (wanted : μ → Bool) (k : κ) (messages : List μ) : List μ :=
  messages.filter fun message => decide (key message = k) && wanted message

theorem addressed_append [DecidableEq κ] {key : μ → κ} {wanted : μ → Bool} {k : κ}
    (messages more : List μ) : addressed key wanted k (messages ++ more) =
      addressed key wanted k messages ++ addressed key wanted k more :=
  List.filter_append ..

variable [Ord κ]

def wait (m : Mailboxes κ μ) (k : κ) : Mailboxes κ μ := { m with waiting := m.waiting.insert k }

/-- One message; `wanted` says whether it is one to wait for. -/
def put (key : μ → κ) (wanted : μ → Bool) (m : Mailboxes κ μ) (message : μ) : Mailboxes κ μ :=
  if m.waiting.contains (key message) && wanted message then
    { m with arrived := m.arrived.insert (key message) message }
  else m

def deliver (key : μ → κ) (wanted : μ → Bool) (m : Mailboxes κ μ) (messages : List μ) :
    Mailboxes κ μ :=
  messages.foldl (put key wanted) m

def discard (m : Mailboxes κ μ) (k : κ) : Mailboxes κ μ :=
  { waiting := m.waiting.erase k, arrived := m.arrived.erase k }

/-- The message that has arrived; the mailbox is closed if there is one. -/
def take (m : Mailboxes κ μ) (k : κ) : Option μ × Mailboxes κ μ :=
  match m.arrived[k]? with
  | none => (none, m)
  | some message => (some message, m.discard k)

/-- Messages lie in open mailboxes only. -/
def Tidy (m : Mailboxes κ μ) : Prop := ∀ (k : κ) message, m.arrived[k]? = some message → k ∈ m.waiting

structure Holds (m : Mailboxes κ μ) (k : κ) (told : List μ) : Prop where
  opened : k ∈ m.waiting
  last : m.arrived[k]? = told.getLast?

structure Closed (m : Mailboxes κ μ) (k : κ) : Prop where
  shut : k ∉ m.waiting
  empty : m.arrived[k]? = none

variable {m : Mailboxes κ μ} {k j : κ} {told : List μ} {key : μ → κ} {wanted : μ → Bool}

@[simp] theorem waiting_put (message : μ) : (m.put key wanted message).waiting = m.waiting := by
  unfold put
  split <;> rfl

theorem take_fst (m : Mailboxes κ μ) (k : κ) : (m.take k).1 = m.arrived[k]? := by
  unfold take
  split <;> simp_all

theorem take_none (h : (m.take k).1 = none) : (m.take k).2 = m := by
  unfold take at h ⊢
  split at h <;> simp_all

theorem take_some {message : μ} (h : (m.take k).1 = some message) : (m.take k).2 = m.discard k := by
  unfold take at h ⊢
  split at h <;> simp_all

variable [Std.TransOrd κ]

theorem empty_closed (k : κ) : ({} : Mailboxes κ μ).Closed k :=
  ⟨Std.TreeSet.not_mem_emptyc, Std.TreeMap.getElem?_emptyc⟩

theorem empty_tidy : ({} : Mailboxes κ μ).Tidy := fun k message h => by
  rw [(empty_closed k).empty] at h
  cases h

variable [Std.LawfulEqOrd κ]

/-! ## Opening and closing -/

theorem mem_wait : j ∈ (m.wait k).waiting ↔ k = j ∨ j ∈ m.waiting := by
  simp [wait, Std.TreeSet.mem_insert]

theorem mem_discard : j ∈ (m.discard k).waiting ↔ k ≠ j ∧ j ∈ m.waiting := by
  simp [discard, Std.TreeSet.mem_erase]

theorem arrived_discard_self : (m.discard k).arrived[k]? = none := by
  simp [discard]

theorem arrived_discard (h : k ≠ j) : (m.discard k).arrived[j]? = m.arrived[j]? := by
  simp [discard, Std.TreeMap.getElem?_erase, h]

theorem Closed.wait (h : m.Closed k) : (m.wait k).Holds k [] :=
  ⟨mem_wait.2 (.inl rfl), h.empty⟩

theorem discard_closed (m : Mailboxes κ μ) (k : κ) : (m.discard k).Closed k :=
  ⟨fun h => (mem_discard.1 h).1 rfl, arrived_discard_self⟩

/-! ## Delivery -/

theorem Holds.put [DecidableEq κ] (h : m.Holds k told) (message : μ) :
    (m.put key wanted message).Holds k (told ++ addressed key wanted k [message]) := by
  refine ⟨by rw [waiting_put]; exact h.opened, ?_⟩
  by_cases hkey : key message = k
  · subst hkey
    have hopen : m.waiting.contains (key message) = true := h.opened
    cases hwanted : wanted message with
    | false => simp [Mailboxes.put, addressed, hwanted, h.last]
    | true => simp [Mailboxes.put, addressed, hwanted, hopen]
  · have hnone : addressed key wanted k [message] = [] := by simp [addressed, hkey]
    rw [hnone, List.append_nil, ← h.last]
    unfold Mailboxes.put
    split
    · rw [Std.TreeMap.getElem?_insert, if_neg (by simpa using hkey)]
    · rfl

/-- An open mailbox has the last message that was delivered for its key. -/
theorem Holds.deliver [DecidableEq κ] (h : m.Holds k told) (messages : List μ) :
    (m.deliver key wanted messages).Holds k (told ++ addressed key wanted k messages) := by
  unfold Mailboxes.deliver
  induction messages generalizing m told with
  | nil => simpa [addressed] using h
  | cons message messages ih =>
    have hput : (m.put key wanted message).Holds k (told ++ addressed key wanted k [message]) :=
      h.put message
    have hrest := ih hput
    rwa [List.append_assoc, ← addressed_append] at hrest

theorem Closed.put (h : m.Closed k) (message : μ) : (m.put key wanted message).Closed k := by
  refine ⟨by rw [waiting_put]; exact h.shut, ?_⟩
  unfold Mailboxes.put
  split
  · rename_i hopen
    have hne : key message ≠ k := by
      rintro rfl
      exact h.shut (Bool.and_eq_true_iff.1 hopen).1
    rw [Std.TreeMap.getElem?_insert, if_neg (by simpa using hne), h.empty]
  · exact h.empty

/-- Nothing is delivered to a mailbox that is closed. -/
theorem Closed.deliver (h : m.Closed k) (messages : List μ) :
    (m.deliver key wanted messages).Closed k := by
  unfold Mailboxes.deliver
  induction messages generalizing m with
  | nil => exact h
  | cons message messages ih => exact ih (h.put message)

theorem Tidy.deliver (h : m.Tidy) (messages : List μ) : (m.deliver key wanted messages).Tidy := by
  unfold Mailboxes.deliver
  induction messages generalizing m with
  | nil => exact h
  | cons message messages ih =>
    refine ih fun j found hfound => ?_
    rw [waiting_put]
    unfold put at hfound
    split at hfound
    · rename_i hopen
      rw [Std.TreeMap.getElem?_insert] at hfound
      split at hfound
      · rename_i heq
        rw [← Std.LawfulEqOrd.eq_of_compare heq]
        exact (Bool.and_eq_true_iff.1 hopen).1
      · exact h j found hfound
    · exact h j found hfound

/-! ## The mailboxes of the others -/

theorem Holds.wait (h : m.Holds k told) (j : κ) : (m.wait j).Holds k told :=
  ⟨mem_wait.2 (.inr h.opened), h.last⟩

theorem Holds.discard (h : m.Holds k told) (hne : j ≠ k) : (m.discard j).Holds k told :=
  ⟨mem_discard.2 ⟨hne, h.opened⟩, (arrived_discard hne).trans h.last⟩

theorem Closed.wait_other (h : m.Closed k) (hne : j ≠ k) : (m.wait j).Closed k :=
  ⟨fun hmem => (mem_wait.1 hmem).elim hne h.shut, h.empty⟩

theorem Closed.discard (h : m.Closed k) (j : κ) : (m.discard j).Closed k :=
  ⟨fun hmem => h.shut (mem_discard.1 hmem).2, by
    by_cases hne : j = k
    · subst hne
      exact arrived_discard_self
    · rw [arrived_discard hne, h.empty]⟩

theorem Tidy.wait (h : m.Tidy) (k : κ) : (m.wait k).Tidy :=
  fun j message hmessage => mem_wait.2 (.inr (h j message hmessage))

theorem Tidy.discard (h : m.Tidy) (k : κ) : (m.discard k).Tidy := by
  intro j message hmessage
  by_cases hne : k = j
  · subst hne
    rw [arrived_discard_self] at hmessage
    cases hmessage
  · rw [arrived_discard hne] at hmessage
    exact mem_discard.2 ⟨hne, h j message hmessage⟩

end Mailboxes
