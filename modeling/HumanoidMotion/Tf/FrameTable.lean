import Mathlib.Data.List.Nodup
import HumanoidMotion.Lib.Chains
import HumanoidMotion.Tf.TfRuntime
/-
# The table of measured frames

* `FramePose` — where a frame stands by this sample: the product of the transforms on its path.
* `collect_iff` — what one walk over the tree adds to the table.
* `addTools_whole_iff` — the table has every tool exactly if they are in order.
* `ToolsInOrder` — no tool that can be placed is listed before the one it hangs on.
* `table_iff` — the table of one sample.
-/

namespace HumanoidMotion

variable {F : Type}

theorem getElem?_insert_name {α : Type} (map : StringMap α) (key name : String) (value : α) :
    (map.insert key value)[name]? = if key = name then some value else map[name]? := by
  simp only [Std.TreeMap.getElem?_insert, Std.LawfulEqOrd.compare_eq_iff_eq]

/-! ## Where a frame stands -/

section
variable [Mul F]

/-- A segment below a parent in pose `pose`, behind measured joints only. -/
inductive OnPath (positions : StringMap Double) : Forest F → F → String → F → Prop
  | here (segment : Segment F) (children siblings : Forest F) (parentPose : F) (position : Double)
      (h : segment.position positions = some position) :
      OnPath positions (.cons segment children siblings) parentPose segment.name
        (parentPose * segment.pose position)
  | under (segment : Segment F) (children siblings : Forest F) (parentPose : F) (position : Double)
      (name : String) (pose : F) (h : segment.position positions = some position)
      (hbelow : OnPath positions children (parentPose * segment.pose position) name pose) :
      OnPath positions (.cons segment children siblings) parentPose name pose
  | beside (segment : Segment F) (children siblings : Forest F) (parentPose : F) (name : String)
      (pose : F) (hbeside : OnPath positions siblings parentPose name pose) :
      OnPath positions (.cons segment children siblings) parentPose name pose

/-- The root, a segment behind measured joints, or a tool whose parents end in one of these. -/
inductive FramePose [One F] (tree : SegmentTree F) (tools : List (ToolFrame F))
    (positions : StringMap Double) : String → F → Prop
  | root : FramePose tree tools positions tree.root 1
  | segment (name : String) (pose : F) (h : OnPath positions tree.children 1 name pose) :
      FramePose tree tools positions name pose
  | tool (tool : ToolFrame F) (pose : F) (htool : tool ∈ tools)
      (hparent : FramePose tree tools positions tool.parent pose) :
      FramePose tree tools positions tool.child (pose * tool.frame)

/-! ## The segments -/

variable {positions : StringMap Double} {name : String} {pose : F}

theorem OnPath.named {forest : Forest F} {parentPose : F}
    (h : OnPath positions forest parentPose name pose) : name ∈ forest.names := by
  induction h with
  | here => exact List.mem_cons_self
  | under _ _ _ _ _ _ _ _ _ ih => exact List.mem_cons_of_mem _ (List.mem_append_left _ ih)
  | beside _ _ _ _ _ _ _ ih => exact List.mem_cons_of_mem _ (List.mem_append_right _ ih)

theorem onPath_cons_iff {segment : Segment F} {children siblings : Forest F} {parentPose : F} :
    OnPath positions (.cons segment children siblings) parentPose name pose ↔
      (∃ position, segment.position positions = some position ∧
        ((name = segment.name ∧ pose = parentPose * segment.pose position) ∨
          OnPath positions children (parentPose * segment.pose position) name pose)) ∨
      OnPath positions siblings parentPose name pose := by
  constructor
  · intro h
    cases h with
    | here _ _ _ _ position hp => exact .inl ⟨position, hp, .inl ⟨rfl, rfl⟩⟩
    | under _ _ _ _ position _ _ hp hbelow => exact .inl ⟨position, hp, .inr hbelow⟩
    | beside _ _ _ _ _ _ hbeside => exact .inr hbeside
  · rintro (⟨position, hp, ⟨rfl, rfl⟩ | hbelow⟩ | hbeside)
    · exact .here segment children siblings parentPose position hp
    · exact .under segment children siblings parentPose position name pose hp hbelow
    · exact .beside segment children siblings parentPose name pose hbeside

/-- The walk over a forest of new names adds what is on a path. -/
theorem collect_iff (forest : Forest F) : ∀ (parentPose : F) (framePoses : StringMap F),
    forest.names.Nodup → (∀ name ∈ forest.names, framePoses[name]? = none) →
    ∀ name pose, (collectFramePoses positions forest parentPose framePoses)[name]? = some pose ↔
      framePoses[name]? = some pose ∨ OnPath positions forest parentPose name pose := by
  induction forest with
  | nil =>
    intro parentPose framePoses _ _ name pose
    refine ⟨.inl, fun h => h.resolve_right fun hpath => ?_⟩
    cases hpath
  | cons segment children siblings ihchildren ihsiblings =>
    intro parentPose framePoses hnodup hnew name pose
    obtain ⟨hsegment, hnodup⟩ := List.nodup_cons.1 hnodup
    obtain ⟨hchildren, hsiblings, hapart⟩ := List.nodup_append.1 hnodup
    have hnewbeside : ∀ k ∈ siblings.names, framePoses[k]? = none := fun k hk =>
      hnew k (List.mem_cons_of_mem _ (List.mem_append_right _ hk))
    rw [onPath_cons_iff, collectFramePoses]
    cases hposition : segment.position positions with
    | none =>
      -- the subtree is left out
      simp only [ihsiblings parentPose framePoses hsiblings hnewbeside, reduceCtorEq, false_and,
        exists_false, false_or]
    | some position =>
      have hnewbelow : ∀ k ∈ children.names,
          (framePoses.insert segment.name (parentPose * segment.pose position))[k]? = none := by
        intro k hk
        have hne : segment.name ≠ k := fun heq => hsegment (heq ▸ List.mem_append_left _ hk)
        rw [getElem?_insert_name, if_neg hne]
        exact hnew k (List.mem_cons_of_mem _ (List.mem_append_left _ hk))
      have hbelow := ihchildren (parentPose * segment.pose position) _ hchildren hnewbelow
      have hnone : ∀ k ∈ siblings.names, (collectFramePoses positions children
          (parentPose * segment.pose position)
          (framePoses.insert segment.name (parentPose * segment.pose position)))[k]? = none := by
        intro k hk
        rw [Option.eq_none_iff_forall_not_mem]
        intro other hother
        have hne : segment.name ≠ k := fun heq => hsegment (heq ▸ List.mem_append_right _ hk)
        rcases (hbelow k other).1 hother with hin | hpath
        · rw [getElem?_insert_name, if_neg hne, hnewbeside k hk] at hin
          cases hin
        · exact hapart k hpath.named k hk rfl
      dsimp only
      rw [ihsiblings parentPose _ hsiblings hnone, hbelow, getElem?_insert_name]
      simp only [Option.some.injEq, exists_eq_left']
      by_cases hname : segment.name = name
      · subst hname
        rw [if_pos rfl, hnew segment.name List.mem_cons_self]
        simp only [Option.some.injEq, reduceCtorEq, true_and, false_or, eq_comm (a := pose)]
      · simp only [if_neg hname, Ne.symm hname, false_and, false_or, or_assoc]

variable [One F]

/-- The table of the tree: the root and the segments behind measured joints. -/
theorem segmentPoses_iff {tree : SegmentTree F} :
    (segmentPoses tree positions)[name]? = some pose ↔
      (name = tree.root ∧ pose = 1) ∨ OnPath positions tree.children 1 name pose := by
  obtain ⟨hroot, hnodup⟩ := List.nodup_cons.1 tree.distinct
  have hstart : ∀ k : String, ((∅ : StringMap F).insertIfNew tree.root 1)[k]? =
      if tree.root = k then some 1 else none := by
    intro k
    simp [Std.TreeMap.getElem?_insertIfNew]
  have hnew : ∀ k ∈ tree.children.names, ((∅ : StringMap F).insertIfNew tree.root 1)[k]? = none := by
    intro k hk
    rw [hstart, if_neg fun heq : tree.root = k => hroot (heq ▸ hk)]
  unfold segmentPoses
  rw [collect_iff tree.children 1 _ hnodup hnew, hstart, eq_comm (a := name)]
  by_cases hname : tree.root = name
  · simp [hname, eq_comm (a := pose)]
  · simp [hname]

end

/-! ## The tools -/

section
variable [Mul F] {tools : List (ToolFrame F)} {poses : StringMap F} {name : String} {pose : F}

/-- The tool of a name: its parent, and what it makes of the parent's pose. -/
def toolLink (tools : List (ToolFrame F)) (name : String) : Option (String × (F → F)) :=
  (tools.find? fun tool => tool.child == name).map fun tool => (tool.parent, (· * tool.frame))

/-- A tool hangs on a frame of the table, or on another tool. -/
abbrev ToolPose (poses : StringMap F) (tools : List (ToolFrame F)) : String → F → Prop :=
  Chains.Resolves (poses[·]?) (toolLink tools)

/-- The names of the tools are their own. -/
structure ToolsApart (poses : StringMap F) (tools : List (ToolFrame F)) : Prop where
  distinct : (tools.map (·.child)).Nodup
  fresh : ∀ tool ∈ tools, poses[tool.child]? = none

theorem toolLink_of_mem (hdistinct : (tools.map (·.child)).Nodup) {tool : ToolFrame F}
    (htool : tool ∈ tools) : toolLink tools tool.child = some (tool.parent, (· * tool.frame)) := by
  obtain ⟨found, hfound⟩ := Option.isSome_iff_exists.1
    (List.find?_isSome (p := fun t : ToolFrame F => t.child == tool.child).2 ⟨tool, htool, by simp⟩)
  have hchild : found.child = tool.child := by simpa using List.find?_some hfound
  obtain rfl : found = tool :=
    List.inj_on_of_nodup_map hdistinct (List.mem_of_find?_eq_some hfound) htool hchild
  rw [toolLink, hfound]
  rfl

theorem toolLink_some {parent : String} {f : F → F} (h : toolLink tools name = some (parent, f)) :
    ∃ tool ∈ tools, tool.child = name ∧ tool.parent = parent ∧ f = (· * tool.frame) := by
  obtain ⟨tool, htool, heq⟩ := Option.map_eq_some_iff.1 h
  obtain ⟨rfl, rfl⟩ := Prod.mk.inj heq
  exact ⟨tool, List.mem_of_find?_eq_some htool, by simpa using List.find?_some htool, rfl, rfl⟩

theorem addTool_other {tool : ToolFrame F} (h : tool.child ≠ name) :
    (addTool poses tool)[name]? = poses[name]? := by
  unfold addTool
  split
  · rfl
  · rw [getElem?_insert_name, if_neg h]

/-- The loop over the tools leaves every other name alone. -/
theorem addTools_other (h : ∀ tool ∈ tools, tool.child ≠ name) :
    (addTools poses tools)[name]? = poses[name]? := by
  unfold addTools
  induction tools generalizing poses with
  | nil => rfl
  | cons tool tools ih =>
    rw [List.foldl_cons, ih fun t ht => h t (List.mem_cons_of_mem _ ht),
      addTool_other (h tool List.mem_cons_self)]

theorem addTools_sound (hapart : ToolsApart poses tools) :
    Chains.Sound (poses[·]?) (toolLink tools) ((addTools poses tools)[·]?) := by
  suffices h : ∀ (some : List (ToolFrame F)) (table : StringMap F), some ⊆ tools →
      Chains.Sound (poses[·]?) (toolLink tools) (table[·]?) →
        Chains.Sound (poses[·]?) (toolLink tools) ((addTools table some)[·]?) from
    h tools poses (List.Subset.refl _) .of_base
  intro some
  induction some with
  | nil => exact fun table _ h => h
  | cons tool rest ih =>
    intro table hsub htable
    obtain ⟨htool, hrest⟩ := List.cons_subset.1 hsub
    refine ih (addTool table tool) hrest fun k v hk => ?_
    unfold addTool at hk
    split at hk
    · exact htable k v hk
    · rename_i parentPose hparent
      dsimp only at hk
      rw [getElem?_insert_name] at hk
      split at hk
      · rename_i hchild
        cases hk
        exact hchild ▸ .link _ tool.parent (· * tool.frame) _ (hapart.fresh tool htool)
          (toolLink_of_mem hapart.distinct htool) (htable _ _ hparent)
      · exact htable k v hk

/-- No tool that can be placed is listed before the one it hangs on. -/
def ToolsOrdered (poses : StringMap F) (tools : List (ToolFrame F)) : Prop :=
  ∀ pre tool post, tools = pre ++ tool :: post → (∃ pose, ToolPose poses tools tool.parent pose) →
    ∀ other ∈ tool :: post, other.child ≠ tool.parent

theorem addTools_around {pre post : List (ToolFrame F)} {tool : ToolFrame F} :
    addTools poses (pre ++ tool :: post) = addTools (addTool (addTools poses pre) tool) post := by
  unfold addTools
  rw [List.foldl_append, List.foldl_cons]

omit [Mul F] in
/-- The names around one tool of the list. -/
theorem ToolsApart.around {pre post : List (ToolFrame F)} {tool : ToolFrame F}
    (h : ToolsApart poses (pre ++ tool :: post)) :
    (∀ early ∈ pre, ∀ late ∈ tool :: post, early.child ≠ late.child) ∧
      ∀ late ∈ post, late.child ≠ tool.child := by
  have hdistinct := h.distinct
  rw [List.map_append, List.nodup_append] at hdistinct
  obtain ⟨-, hlate, hacross⟩ := hdistinct
  rw [List.map_cons, List.nodup_cons] at hlate
  constructor
  · intro early hearly late hin
    exact hacross _ (List.mem_map_of_mem hearly) _ (List.mem_map_of_mem hin)
  · intro late hin heq
    exact hlate.1 (heq ▸ List.mem_map_of_mem hin)

/-- The table has every tool exactly if they are in order. -/
theorem addTools_whole_iff (hapart : ToolsApart poses tools) :
    (∀ name pose, ToolPose poses tools name pose → (addTools poses tools)[name]? = some pose) ↔
      ToolsOrdered poses tools := by
  constructor
  · rintro hwhole pre tool post rfl ⟨pose, hparent⟩ other hother hname
    obtain ⟨hacross, hlate⟩ := hapart.around
    have hin : tool ∈ pre ++ tool :: post := by simp
    have hfound := hwhole tool.child (pose * tool.frame) (.link _ tool.parent (· * tool.frame) _
      (hapart.fresh tool hin) (toolLink_of_mem hapart.distinct hin) hparent)
    -- when the tool has its turn, its parent is not there yet
    have hmissing : (addTools poses pre)[tool.parent]? = none := by
      rw [addTools_other fun early hearly => hname ▸ hacross early hearly other hother, ← hname]
      exact hapart.fresh other (List.mem_append_right _ hother)
    rw [addTools_around, addTools_other hlate, addTool, hmissing] at hfound
    dsimp only at hfound
    rw [addTools_other fun early hearly => hacross early hearly tool List.mem_cons_self,
      hapart.fresh tool hin] at hfound
    cases hfound
  · intro hordered name pose hpose
    induction hpose with
    | base k v hv =>
      rw [addTools_other fun tool htool heq => ?_]
      · exact hv
      · have hnone := hapart.fresh tool htool
        rw [heq] at hnone
        exact absurd (hnone.symm.trans hv) (by simp)
    | link k parent f v hnone hlink hparent ih =>
      obtain ⟨tool, htool, rfl, rfl, rfl⟩ := toolLink_some hlink
      obtain ⟨pre, post, rfl⟩ := List.append_of_mem htool
      have hother := hordered pre tool post rfl ⟨v, hparent⟩
      have hlate := hapart.around.2
      rw [addTools_around] at ih ⊢
      rw [addTools_other fun t ht => hother t (List.mem_cons_of_mem _ ht),
        addTool_other (hother tool List.mem_cons_self)] at ih
      rw [addTools_other hlate, addTool, ih]
      dsimp only
      rw [getElem?_insert_name, if_pos rfl]

end

/-! ## The table of one sample -/

section
variable [Mul F] [One F] {tree : SegmentTree F} {tools : List (ToolFrame F)}
  {positions : StringMap Double} {name : String} {pose : F}

/-- The tools have names of their own, which are not names of segments. -/
structure ToolNames (tree : SegmentTree F) (tools : List (ToolFrame F)) : Prop where
  distinct : (tools.map (·.child)).Nodup
  fresh : ∀ tool ∈ tools, tool.child ∉ tree.root :: tree.children.names

omit [Mul F] [One F] in
theorem ToolNames.not_mem (h : ToolNames tree tools) {tool : ToolFrame F} (htool : tool ∈ tools) :
    tool.child ≠ tree.root ∧ tool.child ∉ tree.children.names := by
  have hfresh := h.fresh tool htool
  rw [List.mem_cons, not_or] at hfresh
  exact hfresh

theorem ToolNames.apart (h : ToolNames tree tools) (positions : StringMap Double) :
    ToolsApart (segmentPoses tree positions) tools where
  distinct := h.distinct
  fresh tool htool := by
    obtain ⟨hroot, hnames⟩ := h.not_mem htool
    rw [Option.eq_none_iff_forall_not_mem]
    intro pose hpose
    rcases segmentPoses_iff.1 hpose with ⟨heq, -⟩ | hpath
    · exact hroot heq
    · exact hnames hpath.named

/-- A frame stands where its chain of tools says, from the table of the tree. -/
theorem framePose_iff (h : ToolNames tree tools) :
    FramePose tree tools positions name pose ↔
      ToolPose (segmentPoses tree positions) tools name pose := by
  have hapart := h.apart positions
  constructor
  · intro hpose
    induction hpose with
    | root => exact .base _ _ (segmentPoses_iff.2 (.inl ⟨rfl, rfl⟩))
    | segment name pose hpath => exact .base _ _ (segmentPoses_iff.2 (.inr hpath))
    | tool tool pose htool _ ih =>
      exact .link _ tool.parent (· * tool.frame) pose (hapart.fresh tool htool)
        (toolLink_of_mem hapart.distinct htool) ih
  · intro hpose
    induction hpose with
    | base name pose hbase =>
      rcases segmentPoses_iff.1 hbase with ⟨rfl, rfl⟩ | hpath
      · exact .root
      · exact .segment name pose hpath
    | link name parent f pose _ hlink _ ih =>
      obtain ⟨tool, htool, rfl, rfl, rfl⟩ := toolLink_some hlink
      exact .tool tool pose htool ih

/-- No tool that can be placed is listed before the one it hangs on. -/
def ToolsInOrder (tree : SegmentTree F) (tools : List (ToolFrame F)) (positions : StringMap Double) :
    Prop :=
  ∀ pre tool post, tools = pre ++ tool :: post →
    (∃ pose, FramePose tree tools positions tool.parent pose) →
    ∀ other ∈ tool :: post, other.child ≠ tool.parent

/-- The table lists exactly the frames that can be placed, exactly if the tools are in order. -/
theorem table_iff (h : ToolNames tree tools) :
    (∀ name pose, (addTools (segmentPoses tree positions) tools)[name]? = some pose ↔
        FramePose tree tools positions name pose) ↔ ToolsInOrder tree tools positions := by
  have hapart := h.apart positions
  have hordered : ToolsOrdered (segmentPoses tree positions) tools ↔
      ToolsInOrder tree tools positions := by
    simp only [ToolsOrdered, ToolsInOrder, framePose_iff h]
  rw [← hordered, ← addTools_whole_iff hapart]
  simp only [framePose_iff h]
  constructor
  · exact fun htable name pose hpose => (htable name pose).2 hpose
  · exact fun hwhole name pose => ⟨addTools_sound hapart name pose, hwhole name pose⟩

end

end HumanoidMotion
