import HumanoidMotion.Motion.Validation
import HumanoidMotion.Node.ControlNode
/-
# Public joint names (`public_joint_mapping.hpp`)

Joint states cross the node's boundary under public names, scaled and shifted.
`convert` throws for a message it cannot translate as a whole.

* `PublicJointMapping`, `convert` — the entries and the translation, either way.
* `Convertible` — what a message must be for `convert` to return.
* `convert_returns` — it returns exactly then.
-/

namespace HumanoidMotion

/-- `sensor_msgs::msg::JointState`. -/
structure JointState where
  header : Header := ⟨⟨0, 0⟩, ""⟩
  name : List String := []
  position : List Double := []
  velocity : List Double := []
  effort : List Double := []
deriving DecidableEq, Repr

structure MappingEntry where
  model : String
  publicName : String
  scale : Rat
  offset : Rat
deriving DecidableEq, Repr

/-- The entries; names of either kind are distinct, so the two indices are lookups in the list. -/
structure PublicJointMapping where
  entries : List MappingEntry := []
deriving DecidableEq, Repr

namespace PublicJointMapping

def enabled (self : PublicJointMapping) : Bool := !self.entries.isEmpty

/-- `public_index_` on the way to the model, `model_index_` on the way back. -/
def index (self : PublicJointMapping) (toModel : Bool) (name : String) : Option Nat :=
  self.entries.findIdx? fun entry => (if toModel then entry.publicName else entry.model) == name

/-- `!values.empty() && !std::isfinite(values[i])`. -/
def nonfiniteAt (values : List Double) (i : Nat) : Bool :=
  !values.isEmpty && !(values.getD i 0).isFinite

/-- One turn of the loop over the joints (`:57`): where each entry stands in the message. -/
def notePresent (self : PublicJointMapping) (input : JointState) (toModel : Bool)
    (present : Std.TreeMap Nat Nat) (i : Nat) : Except String (Std.TreeMap Nat Nat) :=
  let name := input.name.getD i ""
  match self.index toModel name with
  | none => .error ("unknown/duplicate JointState name: " ++ name)
  | some entry =>
    if present.contains entry then .error ("unknown/duplicate JointState name: " ++ name)
    else if !(input.position.getD i 0).isFinite || nonfiniteAt input.velocity i ||
        nonfiniteAt input.effort i then .error "nonfinite JointState value"
    else .ok (present.insert entry i)

/-- One turn of the loop over the entries that are present (`:70`). -/
def emit (input : JointState) (toModel : Bool) (output : JointState) (entry : MappingEntry)
    (i : Nat) : JointState :=
  let s := entry.scale
  let position := valueAt input.position i
  let velocity := valueAt input.velocity i
  let effort := valueAt input.effort i
  { output with
    name := output.name ++ [if toModel then entry.model else entry.publicName]
    position := output.position ++
      [.fin (if toModel then s * position + entry.offset else (position - entry.offset) / s)]
    velocity := if input.velocity.isEmpty then output.velocity
      else output.velocity ++ [.fin (if toModel then s * velocity else velocity / s)]
    effort := if input.effort.isEmpty then output.effort
      else output.effort ++ [.fin (if toModel then effort / s else s * effort)] }

def convert (self : PublicJointMapping) (input : JointState) (toModel : Bool) :
    Except String JointState :=
  if !self.enabled then .ok input
  else
    let size := input.name.length
    if size = 0 || input.position.length ≠ size || !optionalLength input.velocity size ||
        !optionalLength input.effort size then .error "JointState array lengths differ"
    else match (List.range size).foldlM (self.notePresent input toModel) ∅ with
      | .error message => .error message
      | .ok present => .ok <| present.toList.foldl (fun output found =>
          emit input toModel output (self.entries.getD found.1 ⟨"", "", 1, 0⟩) found.2)
          { header := input.header }

/-! ## When it returns -/

/-- Every array has its length, every joint an entry of its own and every value is finite. -/
structure Convertible (mapping : PublicJointMapping) (input : JointState) (toModel : Bool) : Prop where
  nonempty : input.name ≠ []
  positions : input.position.length = input.name.length
  velocities : optionalLength input.velocity input.name.length = true
  efforts : optionalLength input.effort input.name.length = true
  known : ∀ name ∈ input.name, (mapping.index toModel name).isSome = true
  distinct : (input.name.map (mapping.index toModel)).Nodup
  finite : finite input.position = true ∧ finite input.velocity = true ∧ finite input.effort = true

section
variable (mapping : PublicJointMapping) (input : JointState) (toModel : Bool)

/-- The entry of the `i`th joint. -/
def entryAt (i : Nat) : Option Nat := mapping.index toModel (input.name.getD i "")

/-- What the loop asks of the first `n` joints. -/
structure Notable (n : Nat) : Prop where
  known : ∀ i < n, (mapping.entryAt input toModel i).isSome = true
  distinct : ∀ i j, i < j → j < n → mapping.entryAt input toModel i ≠ mapping.entryAt input toModel j
  finite : ∀ i < n, (input.position.getD i 0).isFinite = true ∧
    nonfiniteAt input.velocity i = false ∧ nonfiniteAt input.effort i = false

theorem notePresent_ok (present next : Std.TreeMap Nat Nat) (i : Nat) :
    mapping.notePresent input toModel present i = .ok next ↔
      ∃ entry, mapping.entryAt input toModel i = some entry ∧ entry ∉ present ∧
        ((input.position.getD i 0).isFinite = true ∧ nonfiniteAt input.velocity i = false ∧
          nonfiniteAt input.effort i = false) ∧ next = present.insert entry i := by
  unfold notePresent entryAt
  simp only
  split
  · rename_i hnone
    simp only [hnone, reduceCtorEq, false_and, exists_false]
  · rename_i entry hentry
    simp only [hentry, Option.some.injEq, exists_eq_left', ← Std.TreeMap.contains_iff_mem]
    split
    · rename_i hpresent
      simp only [hpresent, reduceCtorEq, not_true, false_and]
    · rename_i hpresent
      split
      · rename_i hbad
        simp only [Bool.or_eq_true, Bool.not_eq_true'] at hbad
        simp only [reduceCtorEq, false_iff, not_and, and_imp]
        intro _ hposition hvelocity heffort
        rw [hposition, hvelocity, heffort] at hbad
        simp at hbad
      · rename_i hgood
        simp only [Bool.or_eq_true, Bool.not_eq_true', not_or, Bool.not_eq_false,
          Bool.not_eq_true] at hgood
        simp only [hpresent, Bool.false_eq_true, not_false_eq_true, hgood, and_self, true_and,
          Except.ok.injEq, eq_comm]

/-- The loop returns exactly where it misses nothing, with the entries of the joints. -/
theorem foldlM_notePresent (n : Nat) :
    (Notable mapping input toModel n ∧ ∃ present,
      (List.range n).foldlM (mapping.notePresent input toModel) ∅ = .ok present ∧
        ∀ entry, entry ∈ present ↔ ∃ i < n, mapping.entryAt input toModel i = some entry) ∨
    (¬ Notable mapping input toModel n ∧ ∃ message,
      (List.range n).foldlM (mapping.notePresent input toModel) ∅ = .error message) := by
  induction n with
  | zero =>
    exact .inl ⟨⟨by simp, by omega, by simp⟩, ∅, rfl, by simp⟩
  | succ n ih =>
    rw [List.range_succ, List.foldlM_append]
    rcases ih with ⟨hnotable, present, hloop, hmem⟩ | ⟨hnot, message, hloop⟩
    · rw [hloop]
      have hlast : ∀ r, ((Except.ok present : Except String (Std.TreeMap Nat Nat)) >>= fun b =>
          [n].foldlM (mapping.notePresent input toModel) b) = r ↔
          mapping.notePresent input toModel present n = r := by
        intro r
        simp only [bind, Except.bind, List.foldlM_cons, List.foldlM_nil]
        cases mapping.notePresent input toModel present n <;> rfl
      simp only [hlast]
      cases hnote : mapping.notePresent input toModel present n with
      | ok next =>
        obtain ⟨entry, hentry, habsent, hfinite, rfl⟩ :=
          (mapping.notePresent_ok input toModel present next n).1 hnote
        refine .inl ⟨⟨?_, ?_, ?_⟩, _, rfl, fun other => ?_⟩
        · intro i hi
          by_cases hin : i < n
          · exact hnotable.known i hin
          · rw [show i = n by omega, hentry]
            rfl
        · intro i j hij hj heq
          by_cases hjn : j < n
          · exact hnotable.distinct i j hij hjn heq
          · rw [show j = n by omega, hentry] at heq
            exact habsent ((hmem entry).2 ⟨i, by omega, heq⟩)
        · intro i hi
          by_cases hin : i < n
          · exact hnotable.finite i hin
          · rw [show i = n by omega]
            exact hfinite
        · rw [Std.TreeMap.mem_insert, Std.LawfulEqOrd.compare_eq_iff_eq, hmem]
          constructor
          · rintro (rfl | ⟨i, hi, heq⟩)
            · exact ⟨n, by omega, hentry⟩
            · exact ⟨i, by omega, heq⟩
          · rintro ⟨i, hi, heq⟩
            by_cases hin : i < n
            · exact .inr ⟨i, hin, heq⟩
            · rw [show i = n by omega, hentry] at heq
              exact .inl (Option.some.inj heq)
      | error message =>
        refine .inr ⟨fun hsucc => ?_, message, rfl⟩
        obtain ⟨entry, hentry⟩ := Option.isSome_iff_exists.1 (hsucc.known n (by omega))
        have habsent : entry ∉ present := by
          rw [hmem]
          rintro ⟨i, hi, heq⟩
          exact hsucc.distinct i n hi (by omega) (heq.trans hentry.symm)
        cases hnote.symm.trans ((mapping.notePresent_ok input toModel present _ n).2
          ⟨entry, hentry, habsent, hsucc.finite n (by omega), rfl⟩)
    · rw [hloop]
      exact .inr ⟨fun hsucc => hnot ⟨fun i hi => hsucc.known i (by omega),
        fun i j hij hj => hsucc.distinct i j hij (by omega), fun i hi => hsucc.finite i (by omega)⟩,
        message, rfl⟩

theorem finite_iff {values : List Double} {n : Nat} (hlength : optionalLength values n = true) :
    finite values = true ↔ ∀ i < n, nonfiniteAt values i = false := by
  unfold finite nonfiniteAt optionalLength at *
  rw [List.all_eq_true]
  constructor
  · intro hall i hi
    by_cases hempty : values.isEmpty
    · simp [hempty]
    · have hin : i < values.length := by
        simp only [hempty, Bool.false_or, beq_iff_eq] at hlength
        omega
      simp [List.getD, hin, hall _ (List.getElem_mem hin)]
  · intro hall value hvalue
    obtain ⟨i, hi, rfl⟩ := List.getElem_of_mem hvalue
    have hempty : values.isEmpty = false := by
      cases values with
      | nil => cases hvalue
      | cons => rfl
    simp only [hempty, Bool.false_or, beq_iff_eq] at hlength
    simpa [hempty, List.getD, hi] using hall i (by omega)

theorem notable_iff (hpositions : input.position.length = input.name.length)
    (hvelocities : optionalLength input.velocity input.name.length = true)
    (hefforts : optionalLength input.effort input.name.length = true) (hnonempty : input.name ≠ []) :
    Notable mapping input toModel input.name.length ↔ Convertible mapping input toModel := by
  have hat : ∀ (i : Nat) (hi : i < input.name.length),
      mapping.entryAt input toModel i = mapping.index toModel (input.name.get ⟨i, hi⟩) := by
    intro i hi
    simp [entryAt, List.getD, hi]
  have hposition : optionalLength input.position input.name.length = true := by
    simp [optionalLength, hpositions]
  have hfilled : input.position.isEmpty = false := by
    cases hempty : input.position with
    | nil =>
      rw [hempty] at hpositions
      exact absurd (List.eq_nil_of_length_eq_zero hpositions.symm) hnonempty
    | cons => rfl
  have hpositionAt : ∀ i, nonfiniteAt input.position i = !(input.position.getD i 0).isFinite := by
    intro i
    simp [nonfiniteAt, hfilled]
  constructor
  · intro h
    refine ⟨hnonempty, hpositions, hvelocities, hefforts, fun name hname => ?_, ?_, ?_, ?_, ?_⟩
    · obtain ⟨⟨i, hi⟩, rfl⟩ := List.mem_iff_get.1 hname
      rw [← hat]
      exact h.known i hi
    · rw [List.nodup_iff_pairwise_ne, List.pairwise_iff_getElem]
      intro i j hi hj hij
      simp only [List.length_map] at hi hj
      simp only [List.getElem_map]
      have := h.distinct i j hij hj
      rwa [hat i hi, hat j hj] at this
    · refine (finite_iff hposition).2 fun i hi => ?_
      rw [hpositionAt, (h.finite i hi).1]
      rfl
    · exact (finite_iff hvelocities).2 fun i hi => (h.finite i hi).2.1
    · exact (finite_iff hefforts).2 fun i hi => (h.finite i hi).2.2
  · intro h
    obtain ⟨hposfinite, hvelfinite, hefffinite⟩ := h.finite
    refine ⟨fun i hi => ?_, fun i j hij hj => ?_, fun i hi => ⟨?_, ?_, ?_⟩⟩
    · rw [hat i hi]
      exact h.known _ (List.get_mem _ _)
    · have hi : i < input.name.length := by omega
      have := List.pairwise_iff_getElem.1 (List.nodup_iff_pairwise_ne.1 h.distinct) i j
        (by simpa using hi) (by simpa using hj) hij
      simp only [List.getElem_map] at this
      rw [hat i hi, hat j hj]
      exact this
    · have := (finite_iff hposition).1 hposfinite i hi
      rw [hpositionAt] at this
      simpa using this
    · exact (finite_iff hvelocities).1 hvelfinite i hi
    · exact (finite_iff hefforts).1 hefffinite i hi

/-- `convert` returns exactly for the messages it can translate as a whole. -/
theorem convert_returns (henabled : mapping.enabled = true) :
    (∃ output, mapping.convert input toModel = .ok output) ↔ Convertible mapping input toModel := by
  unfold convert
  simp only [henabled, Bool.not_true, Bool.false_eq_true, if_false]
  split
  · rename_i hlengths
    simp only [reduceCtorEq, exists_false, false_iff]
    intro h
    simp [h.nonempty, h.positions, h.velocities, h.efforts] at hlengths
  · rename_i hlengths
    simp only [ne_eq, Bool.or_eq_true, decide_eq_true_eq, Bool.not_eq_true', not_or, not_not,
      Bool.not_eq_false] at hlengths
    obtain ⟨⟨⟨hsize, hpositions⟩, hvelocities⟩, hefforts⟩ := hlengths
    have hnonempty : input.name ≠ [] := by
      rintro hnil
      exact hsize (by rw [hnil]; rfl)
    rw [← mapping.notable_iff input toModel hpositions hvelocities hefforts hnonempty]
    rcases mapping.foldlM_notePresent input toModel input.name.length with
      ⟨hnotable, present, hloop, -⟩ | ⟨hnot, message, hloop⟩
    · simp [hloop, hnotable]
    · simp [hloop, hnot]

end

end PublicJointMapping

end HumanoidMotion
