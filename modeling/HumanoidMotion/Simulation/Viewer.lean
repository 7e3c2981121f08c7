import HumanoidMotion.Simulation.Mimics
import HumanoidMotion.Tf.FrameTable
/-
# The viewer's frames (`python/humanoid_motion_server/simulation/viewer.py`)

| here | there |
| --- | --- |
| `MeshcatNode`     | `frame_ids` with the placements of the frames, and `tools` (`:71`, `:72`) |
| `create`          | the dictionary of the tools: a later entry of one name wins |
| `frameTransform`  | `frame_transform` (`:138`) |

The offset of a tool is its frame, so its quaternion has unit length and is not checked again.
-/

namespace HumanoidMotion

structure MeshcatNode (F : Type) where
  frames : StringMap F
  tools : Dict (ToolFrame F)

namespace MeshcatNode

variable {F : Type}

def create (frames : StringMap F) (tools : List (ToolFrame F)) : MeshcatNode F where
  frames := frames
  tools := tools.foldl (fun dict tool => dict.insert tool.child tool) ∅

/-- The tools that are not among the visited ones. -/
def unvisited (self : MeshcatNode F) (visited : List String) : List String :=
  self.tools.keys.filter fun name => !visited.contains name

theorem unvisited_lt (self : MeshcatNode F) {visited : List String} {name : String}
    (hname : name ∈ self.tools) (hnew : name ∉ visited) :
    (self.unvisited (visited ++ [name])).length < (self.unvisited visited).length := by
  have hsub : self.unvisited (visited ++ [name]) = (self.unvisited visited).filter (· ≠ name) := by
    unfold unvisited
    rw [List.filter_filter]
    refine List.filter_congr fun k _ => ?_
    simp [Bool.and_comm]
  rw [hsub]
  refine List.length_filter_lt_length_iff_exists.2 ⟨name, ?_, by simp⟩
  exact List.mem_filter.2 ⟨AList.mem_keys.1 hname, by simpa using hnew⟩

/-- The message of the `ValueError`. -/
def noFrame (name : String) : String := "显示模型中找不到参考坐标系: " ++ name

def frameTransform [Mul F] (self : MeshcatNode F) (name : String) (visited : List String) :
    Except String F :=
  match self.frames[name]? with
  | some pose => .ok pose
  | none =>
    match _htool : self.tools.lookup name with
    | none => .error (noFrame name)
    | some tool =>
      if _hvisited : name ∈ visited then .error (noFrame name)
      else (self.frameTransform tool.parent (visited ++ [name])).map (· * tool.frame)
termination_by (self.unvisited visited).length
decreasing_by exact self.unvisited_lt (dict_mem_iff.2 ⟨tool, _htool⟩) _hvisited

/-! ## Which frames are found -/

section
variable [Mul F] {self : MeshcatNode F} {name : String} {pose : F}

/-- The tool of a name, in the viewer's dictionary. -/
def link (self : MeshcatNode F) (name : String) : Option (String × (F → F)) :=
  (self.tools.lookup name).map fun tool => (tool.parent, (· * tool.frame))

theorem frameTransform_sound {visited : List String}
    (h : self.frameTransform name visited = .ok pose) :
    Chains.Resolves (self.frames[·]?) self.link name pose := by
  fun_induction frameTransform self name visited generalizing pose with
  | case1 name visited found hfound =>
    cases h
    exact .base _ _ hfound
  | case2 => cases h
  | case3 => cases h
  | case4 name visited hnone tool htool hnew ih =>
    cases hparent : self.frameTransform tool.parent (visited ++ [name]) with
    | error e => rw [hparent] at h; cases h
    | ok parentPose =>
      rw [hparent] at h
      cases h
      exact .link _ tool.parent (· * tool.frame) _ hnone (by rw [link, htool]; rfl) (ih hparent)

/-- The way up never meets a visited tool again. -/
theorem frameTransform_complete (h : Chains.Resolves (self.frames[·]?) self.link name pose) :
    ∀ visited : List String,
      (∀ k ∈ visited, Relation.TransGen (Chains.Parent (self.frames[·]?) self.link) k name) →
      self.frameTransform name visited = .ok pose := by
  induction h with
  | base name pose hbase =>
    intro visited _
    rw [frameTransform, show self.frames[name]? = some pose from hbase]
  | link name parent f pose hnone hlink hparent ih =>
    intro visited hvisited
    obtain ⟨tool, htool, heq⟩ := Option.map_eq_some_iff.1 hlink
    obtain ⟨rfl, rfl⟩ := Prod.mk.inj heq
    have hnew : name ∉ visited := fun hin =>
      (Chains.Resolves.link name _ _ pose hnone hlink hparent).acyclic (hvisited name hin)
    have hup : Chains.Parent (self.frames[·]?) self.link name tool.parent := ⟨hnone, _, hlink⟩
    have hfound := ih (visited ++ [name]) fun k hk => by
      rcases List.mem_append.1 hk with hin | hin
      · exact (hvisited k hin).tail hup
      · rw [List.mem_singleton.1 hin]
        exact .single hup
    rw [frameTransform]
    split
    · rename_i found hfound
      rw [show self.frames[name]? = none from hnone] at hfound
      cases hfound
    · split
      · rename_i hmissing
        rw [htool] at hmissing
        cases hmissing
      · rename_i found hlookup
        rw [htool] at hlookup
        cases hlookup
        rw [dif_neg hnew, hfound]
        rfl

theorem frameTransform_iff : self.frameTransform name [] = .ok pose ↔
    Chains.Resolves (self.frames[·]?) self.link name pose :=
  ⟨frameTransform_sound, fun h => frameTransform_complete h [] fun _ hk => nomatch hk⟩

omit [Mul F] in
theorem foldl_insert_lookup (tools : List (ToolFrame F)) (dict : Dict (ToolFrame F))
    (hdistinct : (tools.map (·.child)).Nodup) (name : String) :
    (tools.foldl (fun dict tool => dict.insert tool.child tool) dict).lookup name =
      (tools.find? fun tool => tool.child == name).or (dict.lookup name) := by
  induction tools generalizing dict with
  | nil => rfl
  | cons tool tools ih =>
    obtain ⟨hnew, hdistinct⟩ := List.nodup_cons.1 hdistinct
    rw [List.foldl_cons, ih _ hdistinct, List.find?_cons]
    by_cases hname : tool.child = name
    · subst hname
      have hnone : tools.find? (fun t => t.child == tool.child) = none := by
        rw [List.find?_eq_none]
        intro other hother heq
        exact hnew (List.mem_map.2 ⟨other, hother, by simpa using heq⟩)
      simp [hnone]
    · have hne : (tool.child == name) = false := by simpa using hname
      rw [AList.lookup_insert_ne (Ne.symm hname), hne]

theorem create_link {frames : StringMap F} {tools : List (ToolFrame F)}
    (hdistinct : (tools.map (·.child)).Nodup) :
    (create frames tools).link = toolLink tools := by
  funext name
  rw [link, create, toolLink, foldl_insert_lookup tools ∅ hdistinct, AList.lookup_empty, Option.or_none]

end

end MeshcatNode

end HumanoidMotion
