import HumanoidMotion.Node.MoveRequest
/-
# Joint targets, completed (`complete_joint_target`, `humanoid_motion_control_node.cpp:819`)

A goal names some joints of its group; the others keep their measured positions.

* `positionIn` — the position that two arrays give to a joint.
* `Completable`, `Completed` — when a target is completed, and to what.
* `completeJointTarget_iff` — both, of every message.
-/

namespace HumanoidMotion

/-- The position of a joint in two arrays: of its first entry, if it has one. -/
def positionIn (names : List String) (positions : List Double) (joint : String) : Option Double :=
  if joint ∈ names then some (positions.getD (names.idxOf joint) 0) else none

section
variable {names : List String} {positions : List Double} {joint : String} {n : Nat}

theorem take_succ_getD (hn : n < names.length) :
    names.take (n + 1) = names.take n ++ [names.getD n ""] := by
  rw [List.take_succ_eq_append_getElem hn, List.getD_eq_getElem?_getD, List.getElem?_eq_getElem hn,
    Option.getD_some]

/-- The next joint of the arrays, if it is new. -/
theorem positionIn_take (hn : n < names.length) (hnew : names.getD n "" ∉ names.take n) :
    positionIn (names.take (n + 1)) positions joint =
      if names.getD n "" = joint then some (positions.getD n 0)
      else positionIn (names.take n) positions joint := by
  have hlength : (names.take n).length = n := by rw [List.length_take, min_eq_left hn.le]
  rw [take_succ_getD hn]
  revert hnew
  generalize names.getD n "" = name
  intro hnew
  unfold positionIn
  by_cases hjoint : name = joint
  · subst hjoint
    rw [if_pos (by simp), if_pos rfl, List.idxOf_append_of_notMem hnew, hlength,
      List.idxOf_cons_self, Nat.add_zero]
  · have hmem : joint ∈ names.take n ++ [name] ↔ joint ∈ names.take n := by
      simp [Ne.symm hjoint]
    by_cases hin : joint ∈ names.take n
    · rw [if_pos (hmem.2 hin), if_neg hjoint, if_pos hin, List.idxOf_append_of_mem hin]
    · rw [if_neg (fun h => hin (hmem.1 h)), if_neg hjoint, if_neg hin]

/-- A joint that the arrays have already is left as it stands. -/
theorem positionIn_take_old (hn : n < names.length) (hold : names.getD n "" ∈ names.take n) :
    positionIn (names.take (n + 1)) positions joint = positionIn (names.take n) positions joint := by
  rw [take_succ_getD hn]
  unfold positionIn
  by_cases hin : joint ∈ names.take n
  · rw [if_pos (List.mem_append_left _ hin), if_pos hin, List.idxOf_append_of_mem hin]
  · rw [if_neg, if_neg hin]
    simp only [List.mem_append, List.mem_singleton, not_or]
    exact ⟨hin, fun heq => hin (heq ▸ hold)⟩

end

theorem positionIn_isSome {names : List String} {positions : List Double} {joint : String} :
    (positionIn names positions joint).isSome = true ↔ joint ∈ names := by
  unfold positionIn
  split <;> simp_all

/-- The map that `emplace` fills finds the first entry of a name. -/
theorem positionsByName_find (names : List String) (positions : List Double) (joint : String) :
    (positionsByName names positions)[joint]? = positionIn names positions joint := by
  have hprefix : ∀ n ≤ names.length, ∀ joint : String, ((List.range n).foldl (fun map i =>
      map.insertIfNew (names.getD i "") (positions.getD i 0)) (∅ : StringMap Double))[joint]? =
        positionIn (names.take n) positions joint := by
    intro n
    induction n with
    | zero => simp [positionIn]
    | succ n ih =>
      intro hn joint
      have ih := ih (by omega)
      have hmem := ih (names.getD n "")
      rw [List.range_succ, List.foldl_append, List.foldl_cons, List.foldl_nil]
      simp only [Std.TreeMap.getElem?_insertIfNew, Std.LawfulEqOrd.compare_eq_iff_eq,
        Std.TreeMap.mem_iff_isSome_getElem?, hmem, ih, positionIn_isSome]
      by_cases hold : names.getD n "" ∈ names.take n
      · rw [positionIn_take_old hn hold, if_neg (fun h => h.2 hold)]
      · rw [positionIn_take hn hold]
        by_cases hjoint : names.getD n "" = joint
        · rw [if_pos ⟨hjoint, hold⟩, if_pos hjoint]
        · rw [if_neg (fun h => hjoint h.1), if_neg hjoint]
  rw [positionsByName, hprefix _ le_rfl, List.take_length]

/-! ## The requested joints -/

open MoveSettings (requestJoint completeJoint)

/-- The first `n` joints of a message are of the group, each once. -/
def Requestable (model : JointGroupModel) (names : List String) (n : Nat) : Prop :=
  (names.take n).Nodup ∧ ∀ joint ∈ names.take n, joint.isEmpty = false ∧ joint ∈ model.jointNames

section
variable {model : JointGroupModel} {input : JointState}

theorem requestJoint_ok {requested next : StringMap Double} {i : Nat} :
    requestJoint model input requested i = .ok next ↔
      ((input.name.getD i "").isEmpty = false ∧ input.name.getD i "" ∈ model.jointNames ∧
        input.name.getD i "" ∉ requested) ∧
      next = requested.insert (input.name.getD i "") (input.position.getD i 0) := by
  unfold requestJoint
  simp only
  split_ifs with h
  · simp only [Bool.or_eq_true, Bool.not_eq_true', List.contains_eq_mem, decide_eq_false_iff_not,
      Std.TreeMap.contains_iff_mem] at h
    refine iff_of_false (fun h => (by cases h)) fun ⟨⟨he, hm, hf⟩, _⟩ => ?_
    rcases h with (h | h) | h
    · rw [he] at h; cases h
    · exact h hm
    · exact hf h
  · simp only [Bool.or_eq_true, Bool.not_eq_true', not_or, Bool.not_eq_true, Bool.not_eq_false,
      List.contains_eq_mem, decide_eq_true_eq] at h
    rw [Except.ok.injEq, eq_comm, iff_and_self]
    exact fun _ => ⟨h.1.1, h.1.2, fun hin =>
      Bool.eq_false_iff.1 h.2 (Std.TreeMap.contains_iff_mem.2 hin)⟩

/-- What the loop over the joints of the message asks of the first `n`, and what it has then. -/
theorem requestJoints_iff (model : JointGroupModel) (input : JointState) (n : Nat)
    (hn : n ≤ input.name.length) :
    ((∃ requested, (List.range n).foldlM (requestJoint model input) ∅ = .ok requested) ↔
      Requestable model input.name n) ∧
    ∀ requested, (List.range n).foldlM (requestJoint model input) ∅ = .ok requested →
      ∀ joint : String, requested[joint]? = positionIn (input.name.take n) input.position joint := by
  induction n with
  | zero =>
    refine ⟨iff_of_true ⟨∅, rfl⟩ ⟨by simp, by simp⟩, fun requested h joint => ?_⟩
    obtain rfl := Except.ok.inj h
    simp [positionIn]
  | succ n ih =>
    obtain ⟨hiff, hfind⟩ := ih (by omega)
    have hsplit : (List.range (n + 1)).foldlM (requestJoint model input) ∅ =
        ((List.range n).foldlM (requestJoint model input) ∅ >>= fun requested =>
          requestJoint model input requested n) := by
      rw [List.range_succ, List.foldlM_append]
      simp
    have hmem : ∀ requested, (List.range n).foldlM (requestJoint model input) ∅ = .ok requested →
        (input.name.getD n "" ∈ requested ↔ input.name.getD n "" ∈ input.name.take n) := by
      intro requested h
      rw [Std.TreeMap.mem_iff_isSome_getElem?, hfind requested h, positionIn_isSome]
    have hnext : Requestable model input.name (n + 1) ↔ Requestable model input.name n ∧
        (input.name.getD n "").isEmpty = false ∧ input.name.getD n "" ∈ model.jointNames ∧
        input.name.getD n "" ∉ input.name.take n := by
      unfold Requestable
      rw [take_succ_getD hn, List.nodup_append]
      constructor
      · rintro ⟨⟨hnodup, -, hdisjoint⟩, hall⟩
        refine ⟨⟨hnodup, fun joint hj => hall joint (List.mem_append_left _ hj)⟩, ?_⟩
        obtain ⟨he, hm⟩ := hall _ (List.mem_append_right _ (List.mem_singleton_self _))
        exact ⟨he, hm, fun hin => hdisjoint _ hin _ (List.mem_singleton_self _) rfl⟩
      · rintro ⟨⟨hnodup, hall⟩, he, hm, hnew⟩
        refine ⟨⟨hnodup, List.nodup_singleton _, fun a ha b hb heq => hnew ?_⟩, fun joint hj => ?_⟩
        · exact List.mem_singleton.1 hb ▸ heq ▸ ha
        · rcases List.mem_append.1 hj with hin | hin
          · exact hall joint hin
          · exact List.mem_singleton.1 hin ▸ ⟨he, hm⟩
    rw [hsplit, hnext]
    constructor
    · constructor
      · rintro ⟨requested, h⟩
        obtain ⟨middle, hmiddle, h⟩ := Checked.bind_ok h
        obtain ⟨⟨he, hm, hf⟩, -⟩ := requestJoint_ok.1 h
        exact ⟨hiff.1 ⟨middle, hmiddle⟩, he, hm, fun hin => hf ((hmem middle hmiddle).2 hin)⟩
      · rintro ⟨hfirst, he, hm, hnew⟩
        obtain ⟨middle, hmiddle⟩ := hiff.2 hfirst
        refine ⟨middle.insert (input.name.getD n "") (input.position.getD n 0), ?_⟩
        rw [hmiddle]
        exact requestJoint_ok.2 ⟨⟨he, hm, fun hin => hnew ((hmem middle hmiddle).1 hin)⟩, rfl⟩
    · intro requested h joint
      obtain ⟨middle, hmiddle, h⟩ := Checked.bind_ok h
      obtain ⟨⟨-, -, hf⟩, rfl⟩ := requestJoint_ok.1 h
      rw [positionIn_take hn fun hin => hf ((hmem middle hmiddle).2 hin), ← hfind middle hmiddle]
      simp only [Std.TreeMap.getElem?_insert, Std.LawfulEqOrd.compare_eq_iff_eq]

end

/-! ## The completed target -/

/-- The requested position of a joint, else its measured one. -/
def chosenPosition (input : JointState) (state : JointFeedback) (joint : String) : Option Double :=
  (positionIn input.name input.position joint).or
    (positionIn state.jointNames state.positionsRad joint)

/-- What the two maps find for a joint. -/
theorem requested_or_measured {model : JointGroupModel} {input : JointState}
    {requested : StringMap Double}
    (h : (List.range input.name.length).foldlM (requestJoint model input) ∅ = .ok requested)
    (state : JointFeedback) (joint : String) :
    (requested[joint]?).or (positionsByName state.jointNames state.positionsRad)[joint]? =
      chosenPosition input state joint := by
  have hfind := (requestJoints_iff model input _ le_rfl).2 requested h joint
  rw [List.take_length] at hfind
  rw [hfind, positionsByName_find, chosenPosition]

/-- The loop over the joints of the group gives each its chosen position. -/
theorem completeJoints_iff {requested actual : StringMap Double} {choose : String → Option Double}
    (hchoose : ∀ joint : String, (requested[joint]?).or actual[joint]? = choose joint) :
    ∀ {joints : List String} {before positions : List Double},
      joints.foldlM (completeJoint requested actual) before = .ok positions ↔
        ∃ chosen, positions = before ++ chosen ∧ chosen.map some = joints.map choose
  | [], before, positions => by
    simp only [List.foldlM_nil, List.map_nil, List.map_eq_nil_iff]
    constructor
    · intro h
      obtain rfl := Except.ok.inj h
      exact ⟨[], by simp, rfl⟩
    · rintro ⟨_, rfl, rfl⟩
      rw [List.append_nil]
      rfl
  | joint :: rest, before, positions => by
    rw [List.foldlM_cons]
    cases hjoint : choose joint with
    | none =>
      have hrefused : ∃ message, completeJoint requested actual before joint = .error message := by
        have hnone := hchoose joint
        rw [hjoint, Option.or_eq_none_iff] at hnone
        unfold completeJoint
        rw [hnone.1, hnone.2]
        exact ⟨_, rfl⟩
      obtain ⟨message, hmessage⟩ := hrefused
      rw [hmessage]
      refine iff_of_false (fun h => (by cases h)) ?_
      rintro ⟨chosen, -, hchosen⟩
      rw [List.map_cons, hjoint, List.map_eq_cons_iff] at hchosen
      obtain ⟨_, _, _, hsome, _⟩ := hchosen
      cases hsome
    | some position =>
      have hkept : completeJoint requested actual before joint = .ok (before ++ [position]) := by
        have hsome := hchoose joint
        rw [hjoint] at hsome
        unfold completeJoint
        cases hr : requested[joint]? with
        | some value =>
          rw [hr] at hsome
          obtain rfl := Option.some.inj hsome
          rfl
        | none =>
          rw [hr, Option.none_or] at hsome
          rw [hsome]
      rw [hkept]
      change rest.foldlM _ (before ++ [position]) = _ ↔ _
      rw [completeJoints_iff hchoose]
      constructor
      · rintro ⟨chosen, rfl, hchosen⟩
        exact ⟨position :: chosen, by simp, by simp [hjoint, hchosen]⟩
      · rintro ⟨chosen, rfl, hchosen⟩
        rw [List.map_cons, hjoint, List.map_eq_cons_iff] at hchosen
        obtain ⟨first, more, rfl, hfirst, hmore⟩ := hchosen
        obtain rfl := Option.some.inj hfirst
        exact ⟨more, by simp, hmore⟩

/-- The message names joints of the group, each once and with a finite position, the node knows the
state of its joints, and every joint of the group is named or measured. -/
structure Completable (model : JointGroupModel) (input : JointState) (state : JointFeedback) : Prop where
  nonempty : input.name ≠ []
  lengths : input.position.length = input.name.length
  finite : finite input.position = true
  distinct : input.name.Nodup
  members : ∀ joint ∈ input.name, joint.isEmpty = false ∧ joint ∈ model.jointNames
  covered : ∀ joint ∈ model.jointNames, joint ∈ input.name ∨ joint ∈ state.jointNames

/-- The target has the joints of the group in order, each with its chosen position. -/
structure Completed (model : JointGroupModel) (input : JointState) (state : JointFeedback)
    (target : JointTarget) : Prop where
  names : target.jointNames = model.jointNames
  positions : target.positionsRad.map some = model.jointNames.map (chosenPosition input state)
  velocities : target.velocitiesRadS = []
  accelerations : target.accelerationsRadS2 = []

theorem chosenPosition_isSome {input : JointState} {state : JointFeedback} {joint : String} :
    (chosenPosition input state joint).isSome = true ↔
      joint ∈ input.name ∨ joint ∈ state.jointNames := by
  rw [chosenPosition, Option.isSome_or, Bool.or_eq_true, positionIn_isSome, positionIn_isSome]

namespace MoveSettings

variable {self : MoveSettings} {moment : MoveMoment} {groupName : String} {publicInput : JointState}

/-- A message is completed exactly when its conversion, its group, its stamp and its joints pass and
feedback is there, and to a target that keeps the measured positions of the joints it does not name. -/
theorem completeJointTarget_iff (target : JointTarget) :
    self.completeJointTarget moment groupName publicInput = .ok target ↔
      ∃ input model state, self.mapping.convert publicInput true = .ok input ∧
        self.groups[groupName]? = some model ∧
        self.validateStamp moment input.header.stamp = .ok () ∧ moment.feedback = some state ∧
        Completable model input state ∧ Completed model input state target := by
  unfold completeJointTarget
  constructor
  · intro h
    obtain ⟨input, hinput, h⟩ := Checked.bind_ok h
    split at h
    · cases h
    rename_i model hmodel
    obtain ⟨_, hstamp, h⟩ := Checked.bind_ok h
    split at h
    · cases h
    rename_i hshape
    simp only [Bool.or_eq_true, Bool.not_eq_true', not_or, Bool.not_eq_false, decide_eq_true_eq,
      not_not, ne_eq, List.isEmpty_iff] at hshape
    obtain ⟨requested, hrequested, h⟩ := Checked.bind_ok h
    split at h
    · cases h
    rename_i state hstate
    obtain ⟨positions, hpositions, h⟩ := Checked.bind_ok h
    obtain rfl := Except.ok.inj h
    obtain ⟨hiff, -⟩ := requestJoints_iff model input _ le_rfl
    obtain ⟨hdistinct, hmembers⟩ := hiff.1 ⟨requested, hrequested⟩
    rw [List.take_length] at hdistinct hmembers
    obtain ⟨chosen, hsame, hchosen⟩ :=
      (completeJoints_iff (requested_or_measured hrequested state)).1 hpositions
    obtain rfl : positions = chosen := hsame
    refine ⟨input, model, state, hinput, hmodel, hstamp, hstate,
      ⟨hshape.1.1, hshape.1.2, hshape.2, hdistinct, hmembers, fun joint hjoint => ?_⟩,
      ⟨rfl, hchosen, rfl, rfl⟩⟩
    have hin : chosenPosition input state joint ∈ positions.map some := by
      rw [hchosen]
      exact List.mem_map_of_mem hjoint
    obtain ⟨position, -, hsome⟩ := List.mem_map.1 hin
    exact chosenPosition_isSome.1 (by rw [← hsome]; rfl)
  · rintro ⟨input, model, state, hinput, hmodel, hstamp, hstate, hable, hdone⟩
    obtain ⟨hiff, -⟩ := requestJoints_iff model input _ le_rfl
    obtain ⟨requested, hrequested⟩ := hiff.2
      ⟨by rw [List.take_length]; exact hable.distinct, by rw [List.take_length]; exact hable.members⟩
    have hpositions : model.jointNames.foldlM (completeJoint requested
        (positionsByName state.jointNames state.positionsRad)) [] = .ok target.positionsRad :=
      (completeJoints_iff (requested_or_measured hrequested state)).2
        ⟨target.positionsRad, rfl, hdone.positions⟩
    rw [hinput]
    simp only [bind, Except.bind, hmodel, hstamp]
    rw [if_neg (by simp [hable.nonempty, hable.lengths, hable.finite])]
    simp only [hrequested, hstate, hpositions]
    obtain ⟨names, positions, velocities, accelerations⟩ := target
    obtain ⟨rfl, -, rfl, rfl⟩ := hdone
    rfl

end MoveSettings

end HumanoidMotion
