import HumanoidMotion.Node.PublicJointMapping
import Mathlib.Algebra.BigOperators.Group.List.Basic
import Mathlib.Data.List.Sort
import Mathlib.Data.List.Perm.Subperm
import Mathlib.Tactic.Linarith
import Mathlib.Tactic.Ring
import Mathlib.Tactic.FieldSimp
/-
# To the other names and back (`public_joint_mapping.hpp:20`, `:45`)

`load` fills two maps of names as it appends the entries, so a name of either
kind stands for one entry (`load_indexed`). `convert` collects the joints by
their entry and walks the entries in order; its output is the input joint by
joint (`convert_translates`), and the same function undoes it.

* `MappingDocument`, `MappingMembers`, `load` — the resolved artifact and the two indices.
* `JointRow` — what a message says of one joint.
* `Translates` — a conversion that neither merges, drops nor invents a joint.
* `mapping_round_trip` — there and back.
-/

namespace HumanoidMotion

namespace PublicJointMapping

/-! ## `load` -/

/-- One item of `root["joints"]`. -/
structure MappingItem where
  modelName : String
  publicName : String
  scale : Double
  offset : Double
deriving DecidableEq, Repr

/-- The YAML document; `joints` is `none` when it is not a sequence. -/
structure MappingDocument where
  schema : String
  joints : Option (List MappingItem)
deriving DecidableEq, Repr

structure MappingMembers where
  entries : List MappingEntry := []
  modelIndex : StringMap Nat := ∅
  publicIndex : StringMap Nat := ∅

namespace MappingMembers

def mapping (members : MappingMembers) : PublicJointMapping := ⟨members.entries⟩

/-- What a `scale` must be: finite and not (nearly) zero. -/
def usable (scale offset : Double) : Bool :=
  scale.isFinite && !decide (|scale.val| < 1 / 10 ^ 12) && offset.isFinite

/-- One turn of the loop (`:29`). -/
def addItem (members : MappingMembers) (item : MappingItem) : Except String MappingMembers :=
  if item.modelName.isEmpty || item.publicName.isEmpty || !usable item.scale item.offset ||
      members.modelIndex.contains item.modelName || members.publicIndex.contains item.publicName then
    .error "invalid/duplicate public mapping entry"
  else
    let entry : MappingEntry := ⟨item.modelName, item.publicName, item.scale.val, item.offset.val⟩
    let i := members.entries.length
    .ok { entries := members.entries ++ [entry]
          modelIndex := members.modelIndex.insert entry.model i
          publicIndex := members.publicIndex.insert entry.publicName i }

/-- `load`: an empty path leaves the object as it is. -/
def load (members : MappingMembers) (path : String) (document : MappingDocument) :
    Except String MappingMembers :=
  if path.isEmpty then .ok members
  else if document.schema ≠ "hc-robot-api/v1" then .error "invalid resolved public joint mapping"
  else match document.joints with
    | none => .error "invalid resolved public joint mapping"
    | some items =>
      if items.isEmpty then .error "invalid resolved public joint mapping"
      else items.foldlM addItem members

end MappingMembers

/-- The name an entry has on the side `convert` reads. -/
def sideName (toModel : Bool) (entry : MappingEntry) : String :=
  if toModel then entry.publicName else entry.model

/-- The names of one side, in mapping order. -/
def names (mapping : PublicJointMapping) (toModel : Bool) : List String :=
  mapping.entries.map (sideName toModel)

/-- A name of either kind stands for one entry, and every scale can be divided by. -/
structure Bijective (mapping : PublicJointMapping) : Prop where
  nodup : ∀ toModel, (mapping.names toModel).Nodup
  scaled : ∀ entry ∈ mapping.entries, entry.scale ≠ 0

/-- `load`'s invariant: the two maps are the lookups `index` makes in the entries. -/
structure Indexed (members : MappingMembers) : Prop where
  bijective : members.mapping.Bijective
  byModel : ∀ name : String, members.modelIndex[name]? = members.mapping.index false name
  byPublic : ∀ name : String, members.publicIndex[name]? = members.mapping.index true name

section
variable {mapping : PublicJointMapping} {toModel : Bool}

theorem index_of_getElem (hnodup : (mapping.names toModel).Nodup) {name : String} {k : Nat}
    (h : (mapping.names toModel)[k]? = some name) : mapping.index toModel name = some k := by
  obtain ⟨hk, hname⟩ := List.getElem?_eq_some_iff.1 h
  have hlt : k < mapping.entries.length := by simpa [names] using hk
  have hside : sideName toModel mapping.entries[k] = name := by simpa [names] using hname
  refine List.findIdx?_eq_some_iff_getElem.2 ⟨hlt, by simpa [sideName] using hside, fun j hj => ?_⟩
  have hjk : j < (mapping.names toModel).length := by omega
  have hne : (mapping.names toModel)[j] ≠ (mapping.names toModel)[k] :=
    List.pairwise_iff_getElem.1 hnodup j k hjk hk hj
  intro heq
  apply hne
  have hj' : sideName toModel mapping.entries[j] = name := by simpa [sideName] using heq
  simp only [names, List.getElem_map, hj', hside]

theorem index_append (entry : MappingEntry) (name : String) (self : PublicJointMapping) :
    (PublicJointMapping.mk (self.entries ++ [entry])).index toModel name =
      (self.index toModel name).or
        (if sideName toModel entry = name then some self.entries.length else none) := by
  simp only [index, List.findIdx?_append, List.findIdx?_cons, List.findIdx?_nil]
  by_cases h : sideName toModel entry = name
  · have hside : ((if toModel = true then entry.publicName else entry.model) == name) = true := by
      simpa [sideName] using h
    simp [h, hside]
  · have hside : ((if toModel = true then entry.publicName else entry.model) == name) = false := by
      simpa [sideName] using h
    simp [h, hside]

theorem mem_names_iff {name : String} :
    name ∈ mapping.names toModel ↔ mapping.index toModel name ≠ none := by
  rw [index, ne_eq, List.findIdx?_eq_none_iff]
  simp [names, sideName]

end

namespace MappingMembers

/-- An entry's name on one side joins the map of that side. -/
theorem index_insert (toModel : Bool) {map : StringMap Nat} {self : PublicJointMapping}
    {entry : MappingEntry} (hmap : ∀ name : String, map[name]? = self.index toModel name)
    (hnew : map.contains (sideName toModel entry) = false) (name : String) :
    (map.insert (sideName toModel entry) self.entries.length)[name]? =
      (PublicJointMapping.mk (self.entries ++ [entry])).index toModel name := by
  rw [index_append, Std.TreeMap.getElem?_insert, hmap]
  simp only [Std.LawfulEqOrd.compare_eq_iff_eq]
  by_cases h : sideName toModel entry = name
  · have hnone : self.index toModel name = none := by
      rw [← hmap, ← h]
      exact Std.TreeMap.getElem?_eq_none_of_contains_eq_false hnew
    simp [h, hnone]
  · simp [h]

theorem nodup_append {self : PublicJointMapping} {map : StringMap Nat} {toModel : Bool}
    {entry : MappingEntry} (hnodup : (self.names toModel).Nodup)
    (hmap : ∀ name : String, map[name]? = self.index toModel name)
    (hnew : map.contains (sideName toModel entry) = false) :
    ((PublicJointMapping.mk (self.entries ++ [entry])).names toModel).Nodup := by
  have habsent : sideName toModel entry ∉ self.names toModel := by
    have hnone : map[sideName toModel entry]? = none := Std.TreeMap.getElem?_eq_none_of_contains_eq_false hnew
    rw [mem_names_iff, ← hmap, hnone]
    simp
  simp only [names, List.map_append, List.map_cons, List.map_nil]
  exact List.Nodup.append hnodup (List.nodup_singleton _) (by simpa [names] using habsent)

theorem addItem_indexed {members next : MappingMembers} {item : MappingItem}
    (hitem : addItem members item = .ok next) (h : Indexed members) : Indexed next := by
  unfold addItem at hitem
  split at hitem
  · cases hitem
  · rename_i hgood
    simp only [Bool.or_eq_true, not_or, Bool.not_eq_true, Bool.not_eq_false'] at hgood
    obtain ⟨⟨⟨-, husable⟩, hmodel⟩, hpublic⟩ := hgood
    cases hitem
    have hscale : item.scale.val ≠ 0 := by
      simp only [usable, Bool.and_eq_true, Bool.not_eq_true', decide_eq_false_iff_not] at husable
      intro hzero
      rw [hzero] at husable
      have hbound : (1 : Rat) / 10 ^ 12 ≤ |0| := not_lt.1 husable.1.2
      norm_num at hbound
    refine ⟨⟨fun toModel => ?_, ?_⟩, fun name => ?_, fun name => ?_⟩
    · cases toModel with
      | false => exact nodup_append (h.bijective.nodup false) h.byModel (by simpa [sideName] using hmodel)
      | true => exact nodup_append (h.bijective.nodup true) h.byPublic (by simpa [sideName] using hpublic)
    · intro entry hentry
      simp only [mapping, List.mem_append, List.mem_singleton] at hentry
      rcases hentry with hold | rfl
      · exact h.bijective.scaled entry hold
      · exact hscale
    · exact index_insert false h.byModel (by simpa [sideName] using hmodel) name
    · exact index_insert true h.byPublic (by simpa [sideName] using hpublic) name

theorem empty_indexed : Indexed {} :=
  ⟨⟨fun _ => List.nodup_nil, by simp [mapping]⟩, by simp [mapping, index], by simp [mapping, index]⟩

/-- The loop over the items. -/
theorem addItems_indexed : ∀ {items : List MappingItem} {members loaded : MappingMembers},
    items.foldlM addItem members = .ok loaded → Indexed members → Indexed loaded
  | [], _, _, hload, h => by
    cases hload
    exact h
  | item :: rest, members, loaded, hload, h => by
    rw [List.foldlM_cons] at hload
    cases hstep : addItem members item with
    | error message =>
      rw [hstep] at hload
      cases hload
    | ok next =>
      rw [hstep] at hload
      exact addItems_indexed hload (addItem_indexed hstep h)

/-- Every mapping `load` accepts is indexed. -/
theorem load_indexed {members loaded : MappingMembers} {path : String} {document : MappingDocument}
    (hload : load members path document = .ok loaded) (h : Indexed members) : Indexed loaded := by
  unfold load at hload
  split at hload
  · cases hload
    exact h
  · split at hload
    · cases hload
    · split at hload
      · cases hload
      · split at hload
        · cases hload
        · exact addItems_indexed hload h

end MappingMembers

/-! ## The joints of a message -/

/-- What a message says of one joint. -/
structure JointRow where
  name : String
  position : Double
  velocity : Option Double
  effort : Option Double
deriving DecidableEq, Repr

namespace JointRow

/-- The power a joint takes up, where the message has both factors. -/
def power (row : JointRow) : Rat :=
  match row.velocity, row.effort with
  | some velocity, some effort => velocity.val * effort.val
  | _, _ => 0

/-- The joint under the entry's other name. -/
def convert (row : JointRow) (toModel : Bool) (entry : MappingEntry) : JointRow :=
  let s := entry.scale
  { name := sideName (!toModel) entry
    position := .fin (if toModel then s * row.position.val + entry.offset
      else (row.position.val - entry.offset) / s)
    velocity := row.velocity.map fun v => .fin (if toModel then s * v.val else v.val / s)
    effort := row.effort.map fun e => .fin (if toModel then e.val / s else s * e.val) }

end JointRow

def row (state : JointState) (i : Nat) : JointRow :=
  ⟨state.name.getD i "", state.position.getD i 0, state.velocity[i]?, state.effort[i]?⟩

def rows (state : JointState) : List JointRow := (List.range state.name.length).map (row state)

/-- The sum of velocity times effort. -/
def power (state : JointState) : Rat := ((rows state).map JointRow.power).sum

/-- A joint under the other name of the entry its name stands for. -/
def translate (mapping : PublicJointMapping) (toModel : Bool) (joint : JointRow) : JointRow :=
  match mapping.index toModel joint.name with
  | some k => joint.convert toModel (mapping.entries.getD k ⟨"", "", 1, 0⟩)
  | none => joint

/-- Joint by joint the same message, under the other names and in mapping order. -/
structure Translates (mapping : PublicJointMapping) (toModel : Bool) (input output : JointState) :
    Prop where
  header : output.header = input.header
  joints : (rows output).Perm ((rows input).map (mapping.translate toModel))
  ordered : output.name.Sublist (mapping.names !toModel)
  distinct : output.name.Nodup
  positions : output.position.length = output.name.length
  velocities : optionalLength output.velocity output.name.length = true
  efforts : optionalLength output.effort output.name.length = true
  hasVelocity : output.velocity.isEmpty = input.velocity.isEmpty
  hasEffort : output.effort.isEmpty = input.effort.isEmpty
  power : power output = power input

section
variable {mapping : PublicJointMapping} {input : JointState} {toModel : Bool}

/-- Where the loop has put each entry it found. -/
theorem present_spec {n : Nat} {present : Std.TreeMap Nat Nat}
    (hloop : (List.range n).foldlM (mapping.notePresent input toModel) ∅ = .ok present) (k i : Nat) :
    present[k]? = some i ↔ i < n ∧ mapping.entryAt input toModel i = some k := by
  induction n generalizing present i k with
  | zero =>
    cases hloop
    simp
  | succ n ih =>
    rw [List.range_succ, List.foldlM_append] at hloop
    cases hfirst : (List.range n).foldlM (mapping.notePresent input toModel) ∅ with
    | error message =>
      rw [hfirst] at hloop
      cases hloop
    | ok before =>
      have hlast : mapping.notePresent input toModel before n = .ok present := by
        rw [hfirst] at hloop
        simp only [bind, Except.bind, List.foldlM_cons, List.foldlM_nil] at hloop
        cases hnote : mapping.notePresent input toModel before n with
        | error message => simp [hnote] at hloop
        | ok next => simpa [hnote, pure, Except.pure] using hloop
      obtain ⟨entry, hentry, habsent, -, rfl⟩ :=
        (mapping.notePresent_ok input toModel before present n).1 hlast
      rw [Std.TreeMap.getElem?_insert]
      simp only [Std.LawfulEqOrd.compare_eq_iff_eq]
      by_cases hk : entry = k
      · subst hk
        have hnone : before[entry]? = none := Std.TreeMap.getElem?_eq_none habsent
        simp only [if_true, Option.some.injEq]
        constructor
        · rintro rfl
          exact ⟨by omega, hentry⟩
        · rintro ⟨hi, heq⟩
          by_cases hin : i < n
          · rw [(ih hfirst entry i).2 ⟨hin, heq⟩] at hnone
            cases hnone
          · omega
      · simp only [hk, if_false, ih hfirst k i]
        constructor
        · rintro ⟨hi, heq⟩
          exact ⟨by omega, heq⟩
        · rintro ⟨hi, heq⟩
          refine ⟨?_, heq⟩
          by_contra hin
          rw [show i = n by omega, hentry] at heq
          exact hk (Option.some.inj heq)

/-- The loop over the entries that are present appends to every array at once. -/
theorem foldl_emit (entries : Nat → MappingEntry) (found : List (Nat × Nat)) (output : JointState) :
    found.foldl (fun output p => emit input toModel output (entries p.1) p.2) output =
      { output with
        name := output.name ++ found.map fun p => sideName (!toModel) (entries p.1)
        position := output.position ++ found.map fun p =>
          ((row input p.2).convert toModel (entries p.1)).position
        velocity := output.velocity ++ if input.velocity.isEmpty then [] else found.map fun p =>
          .fin (if toModel then (entries p.1).scale * valueAt input.velocity p.2
            else valueAt input.velocity p.2 / (entries p.1).scale)
        effort := output.effort ++ if input.effort.isEmpty then [] else found.map fun p =>
          .fin (if toModel then valueAt input.effort p.2 / (entries p.1).scale
            else (entries p.1).scale * valueAt input.effort p.2) } := by
  induction found generalizing output with
  | nil => cases output; simp
  | cons p rest ih =>
    rw [List.foldl_cons, ih]
    cases hvelocity : input.velocity.isEmpty <;> cases heffort : input.effort.isEmpty <;>
      cases toModel <;>
      simp [emit, sideName, JointRow.convert, row, valueAt, hvelocity, heffort]

/-- The entry at a position the loop has found. -/
def entryOf (mapping : PublicJointMapping) (k : Nat) : MappingEntry :=
  mapping.entries.getD k ⟨"", "", 1, 0⟩

/-- `convert`'s output, written over the pairs of an entry and the joint it was found at. -/
def listed (mapping : PublicJointMapping) (input : JointState) (toModel : Bool)
    (found : List (Nat × Nat)) : JointState :=
  found.foldl (fun output p => emit input toModel output (mapping.entryOf p.1) p.2)
    { header := input.header }

theorem listed_eq (found : List (Nat × Nat)) : listed mapping input toModel found =
    { header := input.header
      name := found.map fun p => sideName (!toModel) (mapping.entryOf p.1)
      position := found.map fun p => ((row input p.2).convert toModel (mapping.entryOf p.1)).position
      velocity := if input.velocity.isEmpty then [] else found.map fun p =>
        .fin (if toModel then (mapping.entryOf p.1).scale * valueAt input.velocity p.2
          else valueAt input.velocity p.2 / (mapping.entryOf p.1).scale)
      effort := if input.effort.isEmpty then [] else found.map fun p =>
        .fin (if toModel then valueAt input.effort p.2 / (mapping.entryOf p.1).scale
          else (mapping.entryOf p.1).scale * valueAt input.effort p.2) } := by
  rw [listed, foldl_emit]
  simp only [List.nil_append]

/-- The pairs `convert` walks: every joint once, by entry. -/
structure Found (mapping : PublicJointMapping) (input : JointState) (toModel : Bool)
    (found : List (Nat × Nat)) : Prop where
  ascending : found.Pairwise fun p q => p.1 < q.1
  entry : ∀ p ∈ found, mapping.entryAt input toModel p.2 = some p.1
  joints : (found.map Prod.snd).Perm (List.range input.name.length)

theorem found_toList {present : Std.TreeMap Nat Nat}
    (hloop : (List.range input.name.length).foldlM (mapping.notePresent input toModel) ∅ =
      .ok present)
    (hknown : ∀ i < input.name.length, (mapping.entryAt input toModel i).isSome = true) :
    Found mapping input toModel present.toList := by
  have hmem : ∀ p : Nat × Nat, p ∈ present.toList ↔
      p.2 < input.name.length ∧ mapping.entryAt input toModel p.2 = some p.1 := by
    intro p
    rw [← present_spec hloop, ← Std.TreeMap.mem_toList_iff_getElem?_eq_some]
  have hascending : present.toList.Pairwise fun p q => p.1 < q.1 := by
    refine Std.TreeMap.ordered_keys_toList.imp fun {p q} h => ?_
    exact Nat.compare_eq_lt.1 h
  refine ⟨hascending, fun p hp => ((hmem p).1 hp).2, ?_⟩
  refine (List.perm_ext_iff_of_nodup ?_ List.nodup_range).2 fun i => ?_
  · -- a joint names one entry, so two pairs with one joint are one pair
    rw [List.nodup_iff_pairwise_ne, List.pairwise_map]
    refine (List.pairwise_iff_forall_sublist.2 fun {p q} hsub => ?_)
    have hp : p ∈ present.toList := hsub.subset (by simp)
    have hq : q ∈ present.toList := hsub.subset (by simp)
    have hlt : p.1 < q.1 := List.pairwise_iff_forall_sublist.1 hascending hsub
    intro heq
    have hsame : some p.1 = some q.1 := by
      rw [← ((hmem p).1 hp).2, ← ((hmem q).1 hq).2, heq]
    have := Option.some.inj hsame
    omega
  · simp only [List.mem_map, List.mem_range]
    constructor
    · rintro ⟨p, hp, rfl⟩
      exact ((hmem p).1 hp).1
    · intro hi
      obtain ⟨k, hk⟩ := Option.isSome_iff_exists.1 (hknown i hi)
      exact ⟨(k, i), (hmem (k, i)).2 ⟨hi, hk⟩, rfl⟩

theorem convert_listed {output : JointState} (henabled : mapping.enabled = true)
    (hconvert : mapping.convert input toModel = .ok output) :
    Convertible mapping input toModel ∧
      ∃ found, Found mapping input toModel found ∧ output = listed mapping input toModel found := by
  have hconvertible := (mapping.convert_returns input toModel henabled).1 ⟨output, hconvert⟩
  refine ⟨hconvertible, ?_⟩
  have hknown := ((mapping.notable_iff input toModel hconvertible.positions hconvertible.velocities
    hconvertible.efforts hconvertible.nonempty).2 hconvertible).known
  unfold convert at hconvert
  simp only [henabled, Bool.not_true, Bool.false_eq_true, if_false] at hconvert
  split at hconvert
  · cases hconvert
  · split at hconvert
    · cases hconvert
    · rename_i present hloop
      cases hconvert
      exact ⟨present.toList, found_toList hloop hknown, rfl⟩

/-- The joints of the output, pair by pair. -/
theorem rows_listed {found : List (Nat × Nat)} (hfound : Found mapping input toModel found)
    (hconvertible : Convertible mapping input toModel) :
    rows (listed mapping input toModel found) =
      found.map fun p => (row input p.2).convert toModel (mapping.entryOf p.1) := by
  have hlength : (listed mapping input toModel found).name.length = found.length := by
    simp [listed_eq]
  have hat : ∀ {values : List Double} {i : Nat}, optionalLength values input.name.length = true →
      values.isEmpty = false → i < input.name.length → values[i]? = some (values.getD i 0) := by
    intro values i hoptional hfilled hi
    have : values.length = input.name.length := by simpa [optionalLength, hfilled] using hoptional
    simp [List.getD, List.getElem?_eq_getElem (show i < values.length by omega)]
  refine List.ext_getElem (by simp [rows, hlength]) fun j hj hj' => ?_
  have hin : j < found.length := by simpa using hj'
  have hjoint : found[j].2 < input.name.length :=
    List.mem_range.1 (hfound.joints.subset (List.mem_map_of_mem (List.getElem_mem hin)))
  simp only [rows, List.getElem_map, List.getElem_range, listed_eq]
  simp only [row, JointRow.convert, JointRow.mk.injEq, valueAt]
  refine ⟨?_, ?_, ?_, ?_⟩
  · simp [List.getD, hin]
  · simp [List.getD, hin]
  · cases hempty : input.velocity.isEmpty with
    | true => simp [List.isEmpty_iff.1 hempty]
    | false =>
      simp only [Bool.false_eq_true, if_false, hat hconvertible.velocities hempty hjoint]
      simp [hin]
  · cases hempty : input.effort.isEmpty with
    | true => simp [List.isEmpty_iff.1 hempty]
    | false =>
      simp only [Bool.false_eq_true, if_false, hat hconvertible.efforts hempty hjoint]
      simp [hin]

theorem translate_of_index {joint : JointRow} {k : Nat}
    (h : mapping.index toModel joint.name = some k) :
    mapping.translate toModel joint = joint.convert toModel (mapping.entryOf k) := by
  simp only [translate, h, entryOf]

/-- The joints of the output are those of the input, each under its other name. -/
theorem joints_listed {found : List (Nat × Nat)} (hfound : Found mapping input toModel found)
    (hconvertible : Convertible mapping input toModel) :
    (rows (listed mapping input toModel found)).Perm
      ((rows input).map (mapping.translate toModel)) := by
  have heach : (found.map fun p => (row input p.2).convert toModel (mapping.entryOf p.1)) =
      (found.map Prod.snd).map fun i => mapping.translate toModel (row input i) := by
    rw [List.map_map]
    refine List.map_congr_left fun p hp => ?_
    have hentry : mapping.index toModel (row input p.2).name = some p.1 := hfound.entry p hp
    exact (translate_of_index hentry).symm
  have hjoints := hfound.joints.map fun i => mapping.translate toModel (row input i)
  rw [← heach, ← rows_listed hfound hconvertible] at hjoints
  simpa [rows, List.map_map, Function.comp_def] using hjoints

theorem entryOf_mem {k : Nat} (hk : k < mapping.entries.length) :
    mapping.entryOf k ∈ mapping.entries := by
  simp [entryOf, List.getD, hk]

theorem found_lt {found : List (Nat × Nat)} (hfound : Found mapping input toModel found)
    {p : Nat × Nat} (hp : p ∈ found) : p.1 < mapping.entries.length := by
  obtain ⟨hk, -⟩ := List.findIdx?_eq_some_iff_getElem.1 (hfound.entry p hp)
  exact hk

/-- Entries in ascending order are entries in mapping order. -/
theorem ordered_listed {found : List (Nat × Nat)} (hfound : Found mapping input toModel found) :
    (listed mapping input toModel found).name.Sublist (mapping.names !toModel) := by
  have hentries : (found.map Prod.fst).Sublist (List.range mapping.entries.length) := by
    have hascending : (found.map Prod.fst).Pairwise (· < ·) :=
      List.pairwise_map.2 hfound.ascending
    refine List.sublist_of_subperm_of_pairwise (r := (· < ·)) ?_ hascending List.pairwise_lt_range
    have hnodup : (found.map Prod.fst).Nodup := hascending.imp Nat.ne_of_lt
    refine hnodup.subperm fun k hk => ?_
    obtain ⟨p, hp, rfl⟩ := List.mem_map.1 hk
    exact List.mem_range.2 (found_lt hfound hp)
  have hnames : mapping.names (!toModel) =
      (List.range mapping.entries.length).map fun k => sideName (!toModel) (mapping.entryOf k) := by
    refine List.ext_getElem (by simp [names]) fun k hk hk' => ?_
    have hin : k < mapping.entries.length := by simpa using hk'
    simp [names, entryOf, List.getD, hin]
  rw [hnames, listed_eq]
  simpa [List.map_map, Function.comp_def] using
    hentries.map fun k => sideName (!toModel) (mapping.entryOf k)

theorem power_convert {joint : JointRow} {entry : MappingEntry} (hscale : entry.scale ≠ 0) :
    (joint.convert toModel entry).power = joint.power := by
  unfold JointRow.power JointRow.convert
  cases joint.velocity with
  | none => rfl
  | some velocity =>
    cases joint.effort with
    | none => rfl
    | some effort =>
      cases toModel with
      | false =>
        simp only [Option.map_some, Bool.false_eq_true, if_false, Double.val_fin]
        field_simp
      | true =>
        simp only [Option.map_some, if_true, Double.val_fin]
        field_simp

/-- Velocities scale one way and efforts the other. -/
theorem power_listed (hbijective : mapping.Bijective) {found : List (Nat × Nat)}
    (hfound : Found mapping input toModel found) (hconvertible : Convertible mapping input toModel) :
    power (listed mapping input toModel found) = power input := by
  have heach : (found.map fun p => (row input p.2).convert toModel (mapping.entryOf p.1)).map
      JointRow.power = (found.map Prod.snd).map fun i => (row input i).power := by
    rw [List.map_map, List.map_map]
    refine List.map_congr_left fun p hp => ?_
    exact power_convert (hbijective.scaled _ (entryOf_mem (found_lt hfound hp)))
  have hjoints := hfound.joints.map fun i => (row input i).power
  rw [← heach, ← rows_listed hfound hconvertible] at hjoints
  have hsum := hjoints.sum_eq
  simpa [power, rows, List.map_map, Function.comp_def] using hsum

/-- What `convert` returns is the input joint by joint, under the other names. -/
theorem convert_translates (hbijective : mapping.Bijective) (henabled : mapping.enabled = true)
    {output : JointState} (hconvert : mapping.convert input toModel = .ok output) :
    Translates mapping toModel input output := by
  obtain ⟨hconvertible, found, hfound, rfl⟩ := convert_listed henabled hconvert
  have hfilled : found ≠ [] := by
    rintro rfl
    have hlength := hfound.joints.length_eq
    simp only [List.map_nil, List.length_nil, List.length_range] at hlength
    exact hconvertible.nonempty (List.eq_nil_of_length_eq_zero hlength.symm)
  have hordered := ordered_listed hfound
  refine ⟨?_, joints_listed hfound hconvertible, hordered, (hbijective.nodup _).sublist hordered,
    ?_, ?_, ?_, ?_, ?_, power_listed hbijective hfound hconvertible⟩
  · rw [listed_eq]
  · simp [listed_eq]
  · cases hempty : input.velocity.isEmpty <;> simp [listed_eq, optionalLength, hempty]
  · cases hempty : input.effort.isEmpty <;> simp [listed_eq, optionalLength, hempty]
  · cases hempty : input.velocity.isEmpty <;> simp [listed_eq, hempty, hfilled]
  · cases hempty : input.effort.isEmpty <;> simp [listed_eq, hempty, hfilled]

/-! ## And back -/

/-- What `convert` asks of one joint. -/
structure FiniteRow (joint : JointRow) : Prop where
  position : joint.position.isFinite = true
  velocity : ∀ v ∈ joint.velocity, v.isFinite = true
  effort : ∀ e ∈ joint.effort, e.isFinite = true

theorem fin_val {x : Double} (h : x.isFinite = true) : .fin x.val = x := by
  cases x with
  | fin q => rfl
  | nonFinite => cases h

theorem convert_convert {joint : JointRow} {entry : MappingEntry} (hfinite : FiniteRow joint)
    (hname : joint.name = sideName toModel entry) (hscale : entry.scale ≠ 0) :
    (joint.convert toModel entry).convert (!toModel) entry = joint := by
  obtain ⟨name, position, velocity, effort⟩ := joint
  obtain ⟨hposition, hvelocity, heffort⟩ := hfinite
  simp only [JointRow.convert, Bool.not_not, Double.val_fin, Option.map_map, JointRow.mk.injEq]
  refine ⟨hname.symm, ?_, ?_, ?_⟩
  · refine Eq.trans ?_ (fin_val hposition)
    cases toModel with
    | false =>
      simp only [Bool.not_false, if_true, Bool.false_eq_true, if_false, Double.fin.injEq]
      field_simp
      ring
    | true =>
      simp only [Bool.not_true, if_true, Bool.false_eq_true, if_false, Double.fin.injEq]
      field_simp
      ring
  · cases velocity with
    | none => rfl
    | some v =>
      refine congrArg some (Eq.trans ?_ (fin_val (hvelocity v rfl)))
      cases toModel <;> simp <;> field_simp
  · cases effort with
    | none => rfl
    | some e =>
      refine congrArg some (Eq.trans ?_ (fin_val (heffort e rfl)))
      cases toModel <;> simp <;> field_simp

theorem sideName_entryOf {name : String} {k : Nat} (h : mapping.index toModel name = some k) :
    sideName toModel (mapping.entryOf k) = name := by
  obtain ⟨hk, hname, -⟩ := List.findIdx?_eq_some_iff_getElem.1 h
  simpa [sideName, entryOf, List.getD, hk] using hname

/-- The other name of an entry stands for the same entry. -/
theorem index_sideName (hbijective : mapping.Bijective) {name : String} {k : Nat}
    (h : mapping.index toModel name = some k) (side : Bool) :
    mapping.index side (sideName side (mapping.entryOf k)) = some k := by
  obtain ⟨hk, -⟩ := List.findIdx?_eq_some_iff_getElem.1 h
  refine index_of_getElem (hbijective.nodup side) ?_
  simp [names, entryOf, List.getD, hk]

theorem translate_translate (hbijective : mapping.Bijective) {joint : JointRow}
    (hfinite : FiniteRow joint) {k : Nat} (h : mapping.index toModel joint.name = some k) :
    mapping.translate (!toModel) (mapping.translate toModel joint) = joint := by
  obtain ⟨hk, -⟩ := List.findIdx?_eq_some_iff_getElem.1 h
  have hother : mapping.index (!toModel) (joint.convert toModel (mapping.entryOf k)).name = some k :=
    index_sideName hbijective h !toModel
  rw [translate_of_index h, translate_of_index hother]
  exact convert_convert hfinite (sideName_entryOf h).symm
    (hbijective.scaled _ (entryOf_mem hk))

theorem finiteRow_of_finite {state : JointState}
    (h : finite state.position = true ∧ finite state.velocity = true ∧ finite state.effort = true)
    (i : Nat) (hi : i < state.position.length) : FiniteRow (row state i) := by
  simp only [finite, List.all_eq_true] at h
  refine ⟨?_, fun v hv => h.2.1 v (List.mem_of_getElem? hv), fun e he =>
    h.2.2 e (List.mem_of_getElem? he)⟩
  refine h.1 _ ?_
  simp [row, List.getD, hi]

/-- Every value `convert` writes is a number. -/
theorem finite_listed (found : List (Nat × Nat)) :
    finite (listed mapping input toModel found).position = true ∧
      finite (listed mapping input toModel found).velocity = true ∧
      finite (listed mapping input toModel found).effort = true := by
  rw [listed_eq]
  refine ⟨by simp [finite, JointRow.convert], ?_, ?_⟩
  · cases hempty : input.velocity.isEmpty <;> simp [finite]
  · cases hempty : input.effort.isEmpty <;> simp [finite]

/-- The output can be converted back. -/
theorem convertible_back (hbijective : mapping.Bijective) (henabled : mapping.enabled = true)
    {output : JointState} (hconvert : mapping.convert input toModel = .ok output) :
    Convertible mapping output !toModel := by
  have htranslates := convert_translates hbijective henabled hconvert
  obtain ⟨hconvertible, found, hfound, rfl⟩ := convert_listed henabled hconvert
  have hrows : (rows (listed mapping input toModel found)).length = (rows input).length := by
    simpa using htranslates.joints.length_eq
  have hknown : ∀ name ∈ (listed mapping input toModel found).name,
      ∃ k, mapping.index (!toModel) name = some k ∧
        name = sideName (!toModel) (mapping.entryOf k) := by
    intro name hname
    rw [listed_eq] at hname
    obtain ⟨p, hp, rfl⟩ := List.mem_map.1 hname
    exact ⟨p.1, index_sideName hbijective (hfound.entry p hp) !toModel, rfl⟩
  refine ⟨?_, htranslates.positions, htranslates.velocities, htranslates.efforts, ?_, ?_,
    finite_listed found⟩
  · intro hnil
    simp only [rows, hnil, List.length_map, List.length_range, List.length_nil] at hrows
    exact hconvertible.nonempty (List.eq_nil_of_length_eq_zero hrows.symm)
  · intro name hname
    obtain ⟨k, hk, -⟩ := hknown name hname
    rw [hk]
    rfl
  · refine List.Nodup.map_on (fun a ha b hb heq => ?_) htranslates.distinct
    obtain ⟨k, hk, hka⟩ := hknown a ha
    obtain ⟨j, hj, hjb⟩ := hknown b hb
    rw [hk, hj] at heq
    rw [hka, hjb, Option.some.inj heq]

end

/-- Converting to the other names and back gives the same message, in mapping order: neither way
merges, drops or invents a joint, loses or adds an optional array, or changes the power. A mapping
that was not configured leaves every message as it is. -/
theorem mapping_round_trip {path : String} {document : MappingDocument} {members : MappingMembers}
    (hload : MappingMembers.load {} path document = .ok members) {input output : JointState}
    {toModel : Bool} (hconvert : members.mapping.convert input toModel = .ok output) :
    (members.mapping.enabled = false →
      output = input ∧ members.mapping.convert output (!toModel) = .ok input) ∧
    (members.mapping.enabled = true →
      Translates members.mapping toModel input output ∧
      ∃ back, members.mapping.convert output (!toModel) = .ok back ∧
        Translates members.mapping (!toModel) output back ∧
        back.header = input.header ∧
        (rows back).Perm (rows input) ∧
        back.name.Sublist (members.mapping.names toModel) ∧
        back.velocity.isEmpty = input.velocity.isEmpty ∧
        back.effort.isEmpty = input.effort.isEmpty ∧
        power back = power input) := by
  have hbijective := (MappingMembers.load_indexed hload MappingMembers.empty_indexed).bijective
  refine ⟨fun hdisabled => ?_, fun henabled => ?_⟩
  · simp only [convert, hdisabled, Bool.not_false, if_true, Except.ok.injEq] at hconvert ⊢
    exact ⟨hconvert.symm, hconvert.symm⟩
  · have hthere := convert_translates hbijective henabled hconvert
    obtain ⟨back, hback⟩ := (members.mapping.convert_returns output (!toModel) henabled).2
      (convertible_back hbijective henabled hconvert)
    have hagain := convert_translates hbijective henabled hback
    have hconvertible := (members.mapping.convert_returns input toModel henabled).1 ⟨output, hconvert⟩
    refine ⟨hthere, back, hback, hagain, hagain.header.trans hthere.header, ?_, ?_,
      hagain.hasVelocity.trans hthere.hasVelocity, hagain.hasEffort.trans hthere.hasEffort,
      hagain.power.trans hthere.power⟩
    · refine hagain.joints.trans ((hthere.joints.map _).trans ?_)
      rw [List.map_map]
      refine (List.map_congr_left fun joint hjoint => ?_).trans (List.map_id _) ▸ List.Perm.refl _
      obtain ⟨i, hi, rfl⟩ := List.mem_map.1 hjoint
      have hlt : i < input.name.length := List.mem_range.1 hi
      obtain ⟨k, hk⟩ := Option.isSome_iff_exists.1 (hconvertible.known (input.name.getD i "") (by
        simp [List.getD, hlt]))
      exact translate_translate hbijective
        (finiteRow_of_finite hconvertible.finite i (by rw [hconvertible.positions]; exact hlt)) hk
    · simpa using hagain.ordered

theorem ok_of_toOption {ε α : Type} {r : Except ε α} {a : α} (h : r.toOption = some a) :
    r = .ok a := by
  cases r with
  | error => cases h
  | ok b => exact congrArg Except.ok (Option.some.inj h)

/-- Two joints, one of them turned round. -/
def artifact : MappingDocument :=
  ⟨"hc-robot-api/v1", some [⟨"axis_a", "left_joint_1", .fin (-2), .fin (1 / 4)⟩,
    ⟨"axis_b", "left_joint_2", .fin (1 / 2), .fin (-1 / 5)⟩]⟩

/-- The joints in the other order. -/
def reading : JointState :=
  { header := ⟨⟨123, 456⟩, ""⟩
    name := ["left_joint_2", "left_joint_1"]
    position := [.fin (2 / 5), .fin (3 / 10)]
    velocity := [.fin (4 / 5), .fin (-2 / 5)]
    effort := [2, 3] }

theorem mapping_round_trip_artifact : ∃ members output back,
    MappingMembers.load {} "joints.yaml" artifact = .ok members ∧
    members.mapping.convert reading true = .ok output ∧
    output.name = ["axis_a", "axis_b"] ∧
    members.mapping.convert output false = .ok back ∧
    back.name = ["left_joint_1", "left_joint_2"] ∧
    (rows back).Perm (rows reading) ∧ power back = power reading := by
  have hartifact : (MappingMembers.load {} "joints.yaml" artifact).toOption.map
      MappingMembers.mapping = some ⟨[⟨"axis_a", "left_joint_1", -2, 1 / 4⟩,
        ⟨"axis_b", "left_joint_2", 1 / 2, -1 / 5⟩]⟩ := by decide +kernel
  have hreading : ((PublicJointMapping.mk [⟨"axis_a", "left_joint_1", -2, 1 / 4⟩,
      ⟨"axis_b", "left_joint_2", 1 / 2, -1 / 5⟩]).convert reading true).toOption.map
        JointState.name = some ["axis_a", "axis_b"] := by decide +kernel
  obtain ⟨members, hloaded, hmapping⟩ := Option.map_eq_some_iff.1 hartifact
  have hload := ok_of_toOption hloaded
  rw [← hmapping] at hreading
  obtain ⟨output, hconverted, hnames⟩ := Option.map_eq_some_iff.1 hreading
  have hconvert := ok_of_toOption hconverted
  have henabled : members.mapping.enabled = true := by
    rw [hmapping]
    rfl
  obtain ⟨-, back, hback, -, -, hrows, hordered, -, -, hpower⟩ :=
    (mapping_round_trip hload hconvert).2 henabled
  refine ⟨members, output, back, hload, hconvert, hnames, hback, ?_, hrows, hpower⟩
  rw [hmapping] at hordered
  refine hordered.eq_of_length ?_
  simpa [rows, reading, names] using hrows.length_eq

end PublicJointMapping

end HumanoidMotion
