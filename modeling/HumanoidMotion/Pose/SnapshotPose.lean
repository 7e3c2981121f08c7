import HumanoidMotion.Lib.Checked
import HumanoidMotion.Pose.InitialPoses
import Mathlib.Data.List.DropRight
/-
# A snapshot as a pose, and back

`pose_from_joint_positions` turns joint positions into MoveJ targets, and
`resolve_initial_pose` turns a saved pose into goals.

* `WellFormed`, `accepted_wellFormed` — what the loader says of the channels.
* `collected`, `not_collected` — the candidates are the joint sets of the MoveJ
  channels; one of them without a group stops the search.
* `validatePose_raw` — a validated pose validates again, to itself.
* `resolve_pose` — its goals, in any document that is valid.
* `snapshot_iff` — the covering error and the round trip, when every MoveJ channel
  names a group, and only then unless the joints are covered.
-/

namespace HumanoidMotion

/-! ## Accepted channels -/

theorem requiredString_ok {field : YamlField} {key context value : String}
    (h : requiredString field key context = .ok value) : field = .text value := by
  unfold requiredString at h
  split at h
  · split at h
    · cases h
    · cases h
      rfl
  · cases h

theorem optionalString_ok {field : YamlField} {key context value : String}
    (h : optionalString field key context = .ok value) :
    field = .absent ∨ ∃ text, field = .text text := by
  unfold optionalString at h
  split at h
  · exact .inl rfl
  · exact .inr ⟨_, rfl⟩
  · cases h

/-- The fields that the pose tools read, as the loader leaves them. -/
structure WellFormed (channel : ChannelItem) : Prop where
  name : ∃ name, channel.name = .text name
  kind : ∃ kind, channel.kind = .text kind
  endpoint : ∃ endpoint, channel.endpoint = .text endpoint
  group : channel.group = .absent ∨ ∃ group, channel.group = .text group

theorem readChannel_ok {item : ChannelItem} {context : String} {channel : LoadedChannel}
    (h : readChannel item context = .ok channel) :
    item.name = .text channel.name ∧ WellFormed item := by
  unfold readChannel at h
  obtain ⟨name, hname, h⟩ := Checked.bind_ok h
  obtain ⟨kindText, hkindText, h⟩ := Checked.bind_ok h
  obtain ⟨kind, -, h⟩ := Checked.bind_ok h
  obtain ⟨endpoint, hendpoint, h⟩ := Checked.bind_ok h
  obtain ⟨group, hgroup, h⟩ := Checked.bind_ok h
  obtain ⟨baseFrame, -, h⟩ := Checked.bind_ok h
  obtain ⟨tipFrame, -, h⟩ := Checked.bind_ok h
  obtain ⟨fkPoseTopic, -, h⟩ := Checked.bind_ok h
  obtain ⟨source, -, h⟩ := Checked.bind_ok h
  have hwell : WellFormed item :=
    ⟨⟨_, requiredString_ok hname⟩, ⟨_, requiredString_ok hkindText⟩,
      ⟨_, requiredString_ok hendpoint⟩, optionalString_ok hgroup⟩
  refine ⟨?_, hwell⟩
  split at h
  · cases h
  split at h
  · cases h
  obtain ⟨priority, -, h⟩ := Checked.bind_ok h
  split at h
  · cases h
  split at h
  · cases h
  split at h
  · cases h
  cases h
  exact requiredString_ok hname

theorem loadChannel_ok {loaded loaded' : List LoadedChannel} {item : ChannelItem × Nat}
    (h : loadChannel loaded item = .ok loaded') : ∃ channel, loaded' = loaded ++ [channel] ∧
      (item.1.name = .text channel.name ∧ WellFormed item.1) ∧
      channel.name ∉ loaded.map (·.name) := by
  unfold loadChannel at h
  obtain ⟨channel, hread, h⟩ := Checked.bind_ok h
  split at h
  · cases h
  rename_i hfresh
  split at h
  · cases h
  split at h
  · cases h
  refine ⟨channel, (Except.ok.inj h).symm, readChannel_ok hread, fun hin => hfresh ?_⟩
  obtain ⟨other, hother, heq⟩ := List.mem_map.1 hin
  exact List.any_eq_true.2 ⟨other, hother, beq_iff_eq.2 heq⟩

/-- An accepted list: its items are well formed and its names are distinct. -/
theorem accepted_wellFormed {items : List ChannelItem} {loaded : List LoadedChannel}
    (h : loadChannelConfig items = .ok loaded) :
    (∀ item ∈ items, WellFormed item) ∧ (items.map (·.name)).Nodup := by
  unfold loadChannelConfig at h
  split at h
  · cases h
  have hnodup : (loaded.map (·.name)).Nodup := by
    refine Checked.foldlM_ok (P := fun l : List LoadedChannel => (l.map (·.name)).Nodup) ?_ ?_ h
    · intro item _ l l' hl hturn
      obtain ⟨channel, rfl, -, hfresh⟩ := loadChannel_ok hturn
      rw [List.map_append, List.nodup_append]
      refine ⟨hl, List.nodup_singleton _, fun a ha b hb heq => hfresh ?_⟩
      subst heq
      have hname : a = channel.name := List.mem_singleton.1 hb
      exact hname ▸ ha
    · exact List.nodup_nil
  obtain ⟨channels, hloaded, hitems⟩ := Checked.foldlM_collects id
    (fun (item : ChannelItem × Nat) (channel : LoadedChannel) =>
      item.1.name = .text channel.name ∧ WellFormed item.1)
    (fun l item l' hturn => by
      obtain ⟨channel, hl', hread, -⟩ := loadChannel_ok hturn
      exact ⟨channel, hl', hread⟩) h
  rw [id, id, List.nil_append] at hloaded
  subst hloaded
  have hzip : items = items.zipIdx.map Prod.fst := List.zipIdx_map_fst 0 items |>.symm
  constructor
  · intro item hitem
    rw [hzip, List.mem_map] at hitem
    obtain ⟨pair, hpair, rfl⟩ := hitem
    obtain ⟨i, hi, rfl⟩ := List.mem_iff_getElem.1 hpair
    exact ((List.forall₂_iff_get.1 hitems).2 i hi ((List.forall₂_iff_get.1 hitems).1 ▸ hi)).2
  · have hnames : items.map (·.name) = loaded.map fun channel => YamlField.text channel.name := by
      rw [hzip, List.map_map]
      refine List.forall₂_eq_eq_eq ▸ ?_
      rw [List.forall₂_map_left_iff, List.forall₂_map_right_iff]
      exact hitems.imp fun _ _ hpair => hpair.1
    rw [hnames, ← Function.comp_def YamlField.text, ← List.map_map]
    exact hnodup.map fun _ _ heq => YamlField.text.inj heq

/-! ## Channels by name, channels with a group -/

theorem noteChannel_text {map : StringMap ChannelItem} {channel : ChannelItem} {name : String}
    (h : channel.name = .text name) : noteChannel map channel = map.insert name channel := by
  unfold noteChannel
  rw [h]

theorem noteChannel_other {map : StringMap ChannelItem} {channel : ChannelItem} {name : String}
    (h : channel.name ≠ .text name) : (noteChannel map channel)[name]? = map[name]? := by
  unfold noteChannel
  split
  · rename_i other hother
    rw [Std.TreeMap.getElem?_insert, if_neg]
    rw [Std.LawfulEqOrd.compare_eq_iff_eq]
    rintro rfl
    exact h hother
  · rfl

theorem foldl_noteChannel {name : String} : ∀ {channels : List ChannelItem}
    {map : StringMap ChannelItem}, YamlField.text name ∉ channels.map (·.name) →
    (channels.foldl noteChannel map)[name]? = map[name]?
  | [], _, _ => rfl
  | channel :: rest, map, h => by
    rw [List.map_cons, List.mem_cons, not_or] at h
    rw [List.foldl_cons, foldl_noteChannel h.2, noteChannel_other fun heq => h.1 heq.symm]

theorem foldl_noteChannel_mem {channel : ChannelItem} {name : String}
    (hname : channel.name = .text name) : ∀ {channels : List ChannelItem}
    {map : StringMap ChannelItem}, (channels.map (·.name)).Nodup → channel ∈ channels →
    (channels.foldl noteChannel map)[name]? = some channel
  | [], _, _, h => by cases h
  | head :: rest, map, hnodup, h => by
    obtain ⟨hfresh, hrest⟩ := List.nodup_cons.1 hnodup
    rcases List.mem_cons.1 h with rfl | hin
    · rw [List.foldl_cons, foldl_noteChannel (hname ▸ hfresh), noteChannel_text hname]
      exact Std.TreeMap.getElem?_insert_self
    · rw [List.foldl_cons]
      exact foldl_noteChannel_mem hname hrest hin

/-- With distinct names, the map holds every channel. -/
theorem channelMap_mem {channels : List ChannelItem} {channel : ChannelItem} {name : String}
    (hnodup : (channels.map (·.name)).Nodup) (h : channel ∈ channels)
    (hname : channel.name = .text name) : (channelMap channels)[name]? = some channel :=
  foldl_noteChannel_mem hname hnodup h

theorem namedGroup_some {channel : ChannelItem} {group : String} :
    namedGroup channel = some group ↔ channel.group = .text group ∧ group ≠ "" := by
  unfold namedGroup
  split
  · rename_i text htext
    rw [htext, YamlField.text.injEq]
    split
    · rename_i hempty
      have hblank : text = "" := String.isEmpty_iff.1 hempty
      simp only [reduceCtorEq, false_iff, not_and, not_not]
      rintro rfl
      exact hblank
    · rename_i hempty
      have hblank : text ≠ "" := fun h => hempty (String.isEmpty_iff.2 h)
      rw [Option.some.injEq]
      exact ⟨fun h => ⟨h, h ▸ hblank⟩, fun h => h.1⟩
  · rename_i hnot
    simp only [reduceCtorEq, false_iff, not_and]
    exact fun h => absurd h (hnot group)

/-! ## The candidates -/

/-- Every named group is configured, with distinct joints and their limits; no group has
the empty name. -/
structure Configured (resources : PoseResources) : Prop where
  group : ∀ channel ∈ resources.channels, ∀ group, namedGroup channel = some group →
    ∃ joints lower upper, resources.groups[group]? = some joints ∧
      resources.groupLowerLimits[group]? = some lower ∧
      resources.groupUpperLimits[group]? = some upper ∧
      joints.Nodup ∧ joints.length = lower.length ∧ lower.length = upper.length
  blank : resources.groups[""]? = none

/-- The joint set that a MoveJ channel contributes. -/
def Contributes (resources : PoseResources) (channel : ChannelItem) (block : Finset String) : Prop :=
  channel.kind = .text "move_j" ∧ ∃ group joints, namedGroup channel = some group ∧
    resources.groups[group]? = some joints ∧ block = joints.toFinset

/-- Some selection of MoveJ channel joint sets partitions the joints. -/
def Covered (resources : PoseResources) (positions : StringMap Double) : Prop :=
  ∃ blocks : List (Finset String),
    (∀ block ∈ blocks, ∃ channel ∈ resources.channels, Contributes resources channel block) ∧
    ExactCover.Partition blocks (jointSet positions)

/-- Every MoveJ channel names a group. -/
def AllGrouped (channels : List ChannelItem) : Prop :=
  ∀ channel ∈ channels, channel.kind = .text "move_j" → (namedGroup channel).isSome = true

/-- A candidate stands for a MoveJ channel, with the positions of its joints. -/
def CandidateOf (resources : PoseResources) (positions : StringMap Double)
    (candidate : Candidate) : Prop :=
  ∃ channel ∈ resources.channels, ∃ name group joints, channel.name = .text name ∧
    channel.kind = .text "move_j" ∧ namedGroup channel = some group ∧
    resources.groups[group]? = some joints ∧
    candidate = (joints.toFinset, ⟨name, joints.map fun n => (positions[n]?).getD 0⟩) ∧
    joints.toFinset ⊆ jointSet positions

section
variable {resources : PoseResources} {positions : StringMap Double}

theorem noteCandidate_other {candidates : List Candidate} {channel : ChannelItem}
    (hwell : WellFormed channel) (h : channel.kind ≠ .text "move_j") :
    noteCandidate resources positions candidates channel = .ok candidates := by
  obtain ⟨kind, hkind⟩ := hwell.kind
  unfold noteCandidate
  rw [if_neg (by rw [hkind]; exact YamlField.noConfusion), if_pos h]

/-- A MoveJ channel without a group ends the loop. -/
theorem noteCandidate_ungrouped (hconfigured : Configured resources)
    (candidates : List Candidate)
    {channel : ChannelItem} (hwell : WellFormed channel) (hkind : channel.kind = .text "move_j")
    (hgroup : namedGroup channel = none) :
    ∃ key, noteCandidate resources positions candidates channel = .error (.keyError key) := by
  unfold noteCandidate
  rw [if_neg (by rw [hkind]; exact YamlField.noConfusion), if_neg (not_not.2 hkind)]
  rcases hwell.group with habsent | ⟨group, htext⟩
  · rw [habsent]
    exact ⟨_, rfl⟩
  · have hblank : group = "" := by
      by_contra hne
      rw [namedGroup_some.2 ⟨htext, hne⟩] at hgroup
      cases hgroup
    rw [htext, hblank]
    dsimp only
    rw [hconfigured.blank]
    exact ⟨_, rfl⟩

/-- A MoveJ channel with a group adds its joint set, once, if the snapshot has all of it. -/
theorem noteCandidate_grouped {candidates : List Candidate} {channel : ChannelItem}
    {name group : String} {joints : List String} (hname : channel.name = .text name)
    (hkind : channel.kind = .text "move_j") (hgroup : namedGroup channel = some group)
    (hjoints : resources.groups[group]? = some joints) :
    noteCandidate resources positions candidates channel = .ok
      (if joints.toFinset ≠ ∅ ∧ joints.toFinset ⊆ jointSet positions ∧
          joints.toFinset ∉ candidates.map Prod.fst
        then candidates ++ [(joints.toFinset, ⟨name, joints.map fun n => (positions[n]?).getD 0⟩)]
        else candidates) := by
  unfold noteCandidate
  rw [if_neg (by rw [hkind]; exact YamlField.noConfusion), if_neg (not_not.2 hkind),
    (namedGroup_some.1 hgroup).1]
  dsimp only
  rw [hjoints]
  dsimp only
  rw [hname]
  dsimp only
  split <;> rfl

variable (hwell : ∀ channel ∈ resources.channels, WellFormed channel)
  (hconfigured : Configured resources)
include hwell hconfigured

/-- With a group for every MoveJ channel, the loop collects every joint set that the snapshot
has all of, and nothing else. -/
theorem collected : ∀ {channels : List ChannelItem} (candidates : List Candidate),
    channels ⊆ resources.channels → AllGrouped channels →
    (∀ candidate ∈ candidates, CandidateOf resources positions candidate) →
    ∃ result, channels.foldlM (noteCandidate resources positions) candidates = .ok result ∧
      (∀ candidate ∈ result, CandidateOf resources positions candidate) ∧
      candidates.map Prod.fst ⊆ result.map Prod.fst ∧
      ∀ channel ∈ channels, ∀ block, Contributes resources channel block → block ≠ ∅ →
        block ⊆ jointSet positions → block ∈ result.map Prod.fst
  | [], candidates, _, _, hof => ⟨candidates, rfl, hof, List.Subset.refl _, by simp⟩
  | channel :: rest, candidates, hsub, hall, hof => by
    obtain ⟨hin, hrestsub⟩ := List.cons_subset.1 hsub
    have hrest : AllGrouped rest := fun other hother => hall other (List.mem_cons_of_mem _ hother)
    rw [List.foldlM_cons]
    by_cases hkind : channel.kind = .text "move_j"
    · obtain ⟨name, hname⟩ := (hwell channel hin).name
      obtain ⟨group, hgroup⟩ := Option.isSome_iff_exists.1 (hall channel List.mem_cons_self hkind)
      obtain ⟨joints, lower, upper, hjoints, -⟩ := hconfigured.group channel hin group hgroup
      have honly : ∀ block, Contributes resources channel block → block = joints.toFinset := by
        rintro block ⟨-, group', joints', hgroup', hjoints', rfl⟩
        rw [hgroup] at hgroup'
        cases hgroup'
        rw [hjoints] at hjoints'
        cases hjoints'
        rfl
      rw [noteCandidate_grouped hname hkind hgroup hjoints]
      split
      · rename_i hnew
        obtain ⟨result, hloop, hof', hkept, hreached⟩ := collected (candidates ++
            [(joints.toFinset, ⟨name, joints.map fun n => (positions[n]?).getD 0⟩)])
          hrestsub hrest <| by
          intro candidate hcandidate
          rcases List.mem_append.1 hcandidate with hold | hadded
          · exact hof candidate hold
          · exact ⟨channel, hin, name, group, joints, hname, hkind, hgroup, hjoints,
              List.mem_singleton.1 hadded, hnew.2.1⟩
        rw [List.map_append] at hkept
        refine ⟨result, hloop, hof', (List.append_subset.1 hkept).1, ?_⟩
        rintro other hother block hblock hne hsubset
        rcases List.mem_cons.1 hother with rfl | hlater
        · rw [honly block hblock]
          exact (List.append_subset.1 hkept).2 List.mem_cons_self
        · exact hreached other hlater block hblock hne hsubset
      · rename_i hknown
        obtain ⟨result, hloop, hof', hkept, hreached⟩ := collected candidates hrestsub hrest hof
        refine ⟨result, hloop, hof', hkept, ?_⟩
        rintro other hother block hblock hne hsubset
        rcases List.mem_cons.1 hother with rfl | hlater
        · rw [honly block hblock] at hne hsubset ⊢
          exact hkept (not_not.1 fun hnot => hknown ⟨hne, hsubset, hnot⟩)
        · exact hreached other hlater block hblock hne hsubset
    · obtain ⟨result, hloop, hof', hkept, hreached⟩ := collected candidates hrestsub hrest hof
      rw [noteCandidate_other (hwell channel hin) hkind]
      refine ⟨result, hloop, hof', hkept, ?_⟩
      rintro other hother block hblock hne hsubset
      rcases List.mem_cons.1 hother with rfl | hlater
      · exact absurd hblock.1 hkind
      · exact hreached other hlater block hblock hne hsubset

/-- Without, it ends in a `KeyError`. -/
theorem not_collected : ∀ {channels : List ChannelItem} (candidates : List Candidate),
    channels ⊆ resources.channels → ¬ AllGrouped channels →
    ∃ key, channels.foldlM (noteCandidate resources positions) candidates = .error (.keyError key)
  | [], _, _, hnot => absurd (fun _ h => by cases h) hnot
  | channel :: rest, candidates, hsub, hnot => by
    obtain ⟨hin, hrestsub⟩ := List.cons_subset.1 hsub
    rw [List.foldlM_cons]
    by_cases hkind : channel.kind = .text "move_j"
    · cases hgroup : namedGroup channel with
      | none =>
        obtain ⟨key, hkey⟩ := noteCandidate_ungrouped hconfigured candidates (hwell channel hin) hkind hgroup
        rw [hkey]
        exact ⟨key, rfl⟩
      | some group =>
        obtain ⟨name, hname⟩ := (hwell channel hin).name
        obtain ⟨joints, lower, upper, hjoints, -⟩ := hconfigured.group channel hin group hgroup
        rw [noteCandidate_grouped hname hkind hgroup hjoints]
        refine not_collected _ hrestsub fun hrest => hnot fun other hother hmove => ?_
        rcases List.mem_cons.1 hother with rfl | hlater
        · rw [hgroup]
          rfl
        · exact hrest other hlater hmove
    · rw [noteCandidate_other (hwell channel hin) hkind]
      refine not_collected _ hrestsub fun hrest => hnot fun other hother hmove => ?_
      rcases List.mem_cons.1 hother with rfl | hlater
      · exact absurd hmove hkind
      · exact hrest other hlater hmove

/-- With all of them collected, the joints are covered when candidates partition them. -/
theorem covered_iff {candidates : List Candidate} (hall : AllGrouped resources.channels)
    (h : resources.channels.foldlM (noteCandidate resources positions) [] = .ok candidates) :
    (∀ candidate ∈ candidates, CandidateOf resources positions candidate) ∧
    (Covered resources positions ↔ ∃ blocks : List (Finset String),
      (∀ block ∈ blocks, block ∈ candidates.map Prod.fst) ∧
        ExactCover.Partition blocks (jointSet positions)) := by
  obtain ⟨result, hloop, hof, -, hreached⟩ := @collected resources positions hwell hconfigured _ []
    (List.Subset.refl resources.channels) hall (by simp)
  cases h.symm.trans hloop
  refine ⟨hof, ?_⟩
  constructor
  · rintro ⟨blocks, hblocks, hpartition⟩
    refine ⟨_, fun block hblock => ?_, hpartition.filter_nonempty⟩
    obtain ⟨hin, hne⟩ := List.mem_filter.1 hblock
    obtain ⟨channel, hchannel, hcontributes⟩ := hblocks block hin
    exact hreached channel hchannel block hcontributes (of_decide_eq_true hne)
      fun a ha => (hpartition.covers a).2 ⟨block, hin, ha⟩
  · rintro ⟨blocks, hblocks, hpartition⟩
    refine ⟨blocks, fun block hblock => ?_, hpartition⟩
    obtain ⟨candidate, hcandidate, rfl⟩ := List.mem_map.1 (hblocks block hblock)
    obtain ⟨channel, hchannel, name, group, joints, hname, hkind, hgroup, hjoints, rfl, -⟩ :=
      hof candidate hcandidate
    exact ⟨channel, hchannel, hkind, group, joints, hgroup, hjoints, rfl⟩

end

theorem minJoint_mem (s : Finset String) (h : s.Nonempty) : minJoint s ∈ s := by
  unfold minJoint
  rw [dif_pos h]
  exact s.min'_mem h

/-- One pose goes through the validator as the loop's only turn. -/
theorem validateInitialPoses_one (resources : PoseResources) (raw : RawPose) :
    validateInitialPoses [raw] resources = (validatePose resources [] raw).map ([·]) := by
  have hturn : notePose resources [] raw = (validatePose resources [] raw).map ([·]) := by
    unfold notePose
    rw [List.map_nil]
    cases validatePose resources [] raw <;> rfl
  unfold validateInitialPoses
  rw [if_neg (by simp), List.foldlM_cons, hturn]
  cases validatePose resources [] raw <;> rfl

/-- What comes of a snapshot when every MoveJ channel names a group. -/
theorem poseFrom_cases {resources : PoseResources} {positions : StringMap Double}
    (hwell : ∀ channel ∈ resources.channels, WellFormed channel) (hconfigured : Configured resources)
    (hall : AllGrouped resources.channels) (hsome : jointSet positions ≠ ∅) (poseId name : String)
    (options : PoseOptions) :
    (¬ Covered resources positions ∧
      poseFromJointPositions resources positions poseId name options = .error .notCovered) ∨
    (Covered resources positions ∧ ∃ chosen : List Candidate,
      (∀ candidate ∈ chosen, CandidateOf resources positions candidate) ∧
      ExactCover.Partition (chosen.map Prod.fst) (jointSet positions) ∧
      ((∃ error, poseFromJointPositions resources positions poseId name options =
          .error (.configuration error)) ∨
        ∃ pose, poseFromJointPositions resources positions poseId name options = .ok pose ∧
          validatePose resources [] { id := poseId, name, targets := chosen.map Prod.snd, options } =
            .ok pose)) := by
  obtain ⟨candidates, hloop, -⟩ := @collected resources positions hwell hconfigured _ []
    (List.Subset.refl resources.channels) hall (by simp)
  obtain ⟨hof, hcovered⟩ := covered_iff hwell hconfigured hall hloop
  have hsorted : ∀ block, block ∈ (candidates.mergeSort fun a b : Candidate =>
      decide (b.1.card ≤ a.1.card)).map Prod.fst ↔ block ∈ candidates.map Prod.fst := by
    intro block
    simp only [List.mem_map, List.mem_mergeSort]
  have hiff := ExactCover.cover_isSome_iff minJoint_mem (jointSet positions)
    (candidates.mergeSort fun a b : Candidate => decide (b.1.card ≤ a.1.card))
  simp only [hsorted, ← hcovered] at hiff
  unfold poseFromJointPositions
  rw [hloop]
  dsimp only
  cases hcover : ExactCover.cover minJoint (candidates.mergeSort fun a b : Candidate =>
    decide (b.1.card ≤ a.1.card)) (jointSet positions) with
  | none =>
    rw [hcover] at hiff
    exact .inl ⟨fun h => Bool.noConfusion (hiff.2 h), rfl⟩
  | some targets =>
    rw [hcover] at hiff
    obtain ⟨chosen, hchosen, htargets, hpartition⟩ := ExactCover.search_sound hcover
    refine .inr ⟨hiff.1 rfl, chosen, fun candidate hcandidate =>
      hof candidate (List.mem_mergeSort.1 (hchosen hcandidate)), hpartition, ?_⟩
    subst htargets
    cases chosen with
    | nil =>
      refine absurd (Finset.eq_empty_of_forall_notMem fun a ha => ?_) hsome
      obtain ⟨block, hblock, -⟩ := (hpartition.covers a).1 ha
      cases hblock
    | cons first rest =>
      simp only [List.map_cons]
      rw [validateInitialPoses_one]
      cases validatePose resources []
        { id := poseId, name, targets := first.2 :: rest.map Prod.snd, options } with
      | error error => exact .inl ⟨error, rfl⟩
      | ok pose => exact .inr ⟨pose, rfl, rfl⟩

/-! ## Poses that the validator accepts -/

/-- Every position within the limits of the group. -/
def WithinLimits (resources : PoseResources) (group : String) (positions : List Rat) : Prop :=
  ∃ lower upper, resources.groupLowerLimits[group]? = some lower ∧
    resources.groupUpperLimits[group]? = some upper ∧
    positions.length = lower.length ∧ lower.length = upper.length ∧
    ∀ x ∈ positions.zip (lower.zip upper), x.2.1 ≤ x.1 ∧ x.1 ≤ x.2.2

/-- A target stands for a channel with a group, and its positions fit there. -/
structure Placed (resources : PoseResources) (target : PoseTarget) (channel : ChannelItem)
    (group : String) (joints : List String) : Prop where
  lookup : (channelMap resources.channels)[target.channel]? = some channel
  grouped : namedGroup channel = some group
  configured : resources.groups[group]? = some joints
  columns : joints.length = target.positionsRad.length
  limits : WithinLimits resources group target.positionsRad

theorem checkPosition_ok {ident : String} {joint : String × Double × Rat × Rat} {position : Rat}
    (h : checkPosition ident joint = .ok position) :
    joint.2.1 = .fin position ∧ joint.2.2.1 ≤ position ∧ position ≤ joint.2.2.2 := by
  obtain ⟨name, value, low, high⟩ := joint
  cases value with
  | nonFinite => cases h
  | fin q =>
    unfold checkPosition at h
    dsimp only at h
    split at h
    · cases h
    · rename_i hwithin
      cases h
      rw [not_or, Rat.not_lt, Rat.not_lt] at hwithin
      exact ⟨rfl, hwithin.1, hwithin.2⟩

/-- What the loop over a target's joints returns are its positions, within the limits. -/
theorem checkPositions_ok {ident : String} : ∀ {joints : List String} {positions : List Double}
    {limits : List (Rat × Rat)} {result : List Rat}, positions.length = joints.length →
    joints.length = limits.length →
    (joints.zip (positions.zip limits)).mapM (checkPosition ident) = .ok result →
    positions = result.map .fin ∧ ∀ x ∈ result.zip limits, x.2.1 ≤ x.1 ∧ x.1 ≤ x.2.2
  | [], [], [], result, _, _, h => by
    cases Except.ok.inj h
    exact ⟨rfl, by simp⟩
  | joint :: joints, position :: positions, limit :: limits, result, hpositions, hlimits, h => by
    rw [List.zip_cons_cons, List.zip_cons_cons, List.mapM_cons] at h
    obtain ⟨first, hfirst, h⟩ := Checked.bind_ok h
    obtain ⟨rest, hrest, h⟩ := Checked.bind_ok h
    cases Except.ok.inj h
    obtain ⟨hposition, hwithin⟩ := checkPosition_ok hfirst
    obtain ⟨hpositions', hrestWithin⟩ := checkPositions_ok (Nat.succ.inj hpositions)
      (Nat.succ.inj hlimits) hrest
    refine ⟨List.cons_eq_cons.2 ⟨hposition, hpositions'⟩, fun x hx => ?_⟩
    rcases List.mem_cons.1 hx with rfl | hx
    · exact hwithin
    · exact hrestWithin x hx

theorem noteTarget_ok {resources : PoseResources} {ident : String} {state state' : TargetState}
    {raw : RawTarget} (h : noteTarget resources ident state raw = .ok state') :
    ∃ target, state'.targets = state.targets ++ [target] ∧ raw = target.raw ∧
      ∃ channel group joints, Placed resources target channel group joints := by
  unfold noteTarget at h
  split at h
  · cases h
  rename_i channel hchannel
  obtain ⟨hheld, -⟩ := Option.filter_eq_some_iff.1 hchannel
  split at h
  · cases h
  rename_i group hgroup
  split at h
  · cases h
  split at h
  swap
  · cases h
  rename_i joints lower upper hjoints hlower hupper
  split at h
  · cases h
  rename_i hsizes
  simp only [not_or, not_not] at hsizes
  dsimp only at h
  split at h
  · cases h
  split at h
  · cases h
  rename_i hcount
  split at h
  · cases h
  rename_i positions hpositions
  cases h
  have hlimits : joints.length = (lower.zip upper).length := by
    rw [List.length_zip]
    omega
  obtain ⟨hraw, hwithin⟩ := checkPositions_ok (not_not.1 hcount) hlimits hpositions
  have hlength : positions.length = joints.length := by
    rw [← not_not.1 hcount, hraw, List.length_map]
  refine ⟨⟨raw.channel, positions⟩, rfl, ?_, channel, group, joints, hheld, hgroup, hjoints,
    hlength.symm, lower, upper, hlower, hupper, hlength.trans hsizes.1, hsizes.2.1, hwithin⟩
  exact congrArg (RawTarget.mk raw.channel) hraw

theorem validateTargets_ok {resources : PoseResources} {ident : String} {raws : List RawTarget}
    {targets : List PoseTarget} (h : validateTargets resources ident raws = .ok targets) :
    raws = targets.map PoseTarget.raw ∧ ∀ target ∈ targets,
      ∃ channel group joints, Placed resources target channel group joints := by
  unfold validateTargets at h
  split at h
  · cases h
  split at h
  · cases h
  rename_i state hloop
  cases h
  obtain ⟨ys, hys, hall⟩ := Checked.foldlM_collects TargetState.targets _
    (fun _ _ _ hturn => noteTarget_ok hturn) hloop
  rw [show (({} : TargetState).targets) = [] from rfl, List.nil_append] at hys
  rw [hys]
  constructor
  · rw [← List.forall₂_eq_eq_eq, List.forall₂_map_right_iff]
    exact hall.imp fun _ _ hpair => hpair.1
  · intro target htarget
    obtain ⟨i, hi, rfl⟩ := List.mem_iff_getElem.1 htarget
    exact ((List.forall₂_iff_get.1 hall).2 i ((List.forall₂_iff_get.1 hall).1 ▸ hi) hi).2

/-- What the validator makes of a pose. -/
structure ValidPose (resources : PoseResources) (raw : RawPose) (pose : NamedPose) : Prop where
  identifier : isIdentifier raw.id = true
  id : pose.id = raw.id
  name : checkName raw.id raw.name = .ok pose.name
  velocityScale : checkNumber raw.id "velocity_scale" (15 / 100) 1 raw.options.velocityScale =
    .ok pose.velocityScale
  accelerationScale : checkNumber raw.id "acceleration_scale" (15 / 100) 1
    raw.options.accelerationScale = .ok pose.accelerationScale
  jerkScale : checkNumber raw.id "jerk_scale" (15 / 100) 1 raw.options.jerkScale =
    .ok pose.jerkScale
  timeoutSec : checkNumber raw.id "timeout_sec" 60 600 raw.options.timeoutSec = .ok pose.timeoutSec
  targets : validateTargets resources raw.id raw.targets = .ok pose.targets

theorem validatePose_ok_iff {resources : PoseResources} {identifiers : List String} {raw : RawPose}
    {pose : NamedPose} : validatePose resources identifiers raw = .ok pose ↔
      ValidPose resources raw pose ∧ raw.id ∉ identifiers := by
  unfold validatePose
  dsimp only
  constructor
  · intro h
    split at h
    · cases h
    rename_i hidentifier
    split at h
    · cases h
    rename_i hfresh
    obtain ⟨name, hname, h⟩ := Checked.bind_ok h
    obtain ⟨velocityScale, hvelocity, h⟩ := Checked.bind_ok h
    obtain ⟨accelerationScale, hacceleration, h⟩ := Checked.bind_ok h
    obtain ⟨jerkScale, hjerk, h⟩ := Checked.bind_ok h
    obtain ⟨timeoutSec, htimeout, h⟩ := Checked.bind_ok h
    obtain ⟨targets, htargets, h⟩ := Checked.bind_ok h
    cases Except.ok.inj h
    refine ⟨⟨by simpa using hidentifier, rfl, hname, hvelocity, hacceleration, hjerk, htimeout,
      htargets⟩, fun hin => hfresh (List.contains_iff_mem.2 hin)⟩
  · rintro ⟨h, hfresh⟩
    rw [if_neg (by simp [h.identifier]), if_neg fun hin => hfresh (List.contains_iff_mem.1 hin),
      h.name, h.velocityScale, h.accelerationScale, h.jerkScale, h.timeoutSec, h.targets]
    refine congrArg Except.ok ?_
    obtain ⟨⟩ := pose
    cases h.id
    rfl

theorem ValidPose.unique {resources : PoseResources} {raw : RawPose} {pose pose' : NamedPose}
    (h : ValidPose resources raw pose) (h' : ValidPose resources raw pose') : pose = pose' :=
  Except.ok.inj ((validatePose_ok_iff.2 ⟨h, List.not_mem_nil⟩).symm.trans
    (validatePose_ok_iff.2 ⟨h', List.not_mem_nil⟩))

/-- Stripped at the left and then at the right, a list begins as it did. -/
theorem dropWhile_rdropWhile {α : Type} {p : α → Bool} (l : List α) :
    ((l.dropWhile p).rdropWhile p).dropWhile p = (l.dropWhile p).rdropWhile p := by
  obtain ⟨tail, htail⟩ := List.rdropWhile_prefix p (l.dropWhile p)
  cases hkept : (l.dropWhile p).rdropWhile p with
  | nil => rfl
  | cons head rest =>
    rw [hkept, List.cons_append] at htail
    have hhead : p head = false := by
      by_contra hp
      have hagain := List.dropWhile_idempotent p l
      rw [← htail, List.dropWhile_cons, if_pos (by simpa using hp)] at hagain
      have hlength := congrArg List.length hagain
      have hshort := (List.dropWhile_sublist p (l := rest ++ tail)).length_le
      rw [List.length_cons] at hlength
      omega
    rw [List.dropWhile_cons, hhead]
    rfl

theorem stripList_eq (chars : List Char) :
    stripList chars = (chars.dropWhile isSpace).rdropWhile isSpace := rfl

theorem strip_strip (name : String) : strip (strip name) = strip name := by
  have hlist (chars : List Char) : stripList (stripList chars) = stripList chars := by
    rw [stripList_eq, stripList_eq, dropWhile_rdropWhile]
    exact List.rdropWhile_idempotent _ _
  unfold strip
  rw [String.toList_ofList, hlist]

theorem strip_length (name : String) : (strip name).length ≤ name.length := by
  unfold strip
  rw [String.length_ofList, stripList_eq, ← String.length_toList]
  exact ((List.rdropWhile_prefix _ _).length_le).trans (List.dropWhile_sublist _).length_le

theorem checkName_again {ident name result : String} (h : checkName ident name = .ok result) :
    checkName ident result = .ok result := by
  unfold checkName at h ⊢
  split at h
  · cases h
  rename_i hfine
  cases h
  rw [strip_strip, if_neg]
  simp only [Bool.or_eq_true, decide_eq_true_eq, not_or] at hfine ⊢
  exact ⟨hfine.1, fun hlong => hfine.2 (Nat.lt_of_lt_of_le hlong (strip_length name))⟩

theorem checkNumber_again {ident key : String} {default upper number : Rat} {given : Option Double}
    (h : checkNumber ident key default upper given = .ok number) :
    checkNumber ident key default upper (some (.fin number)) = .ok number := by
  unfold checkNumber at h
  split at h
  · split at h
    · rename_i hwithin
      cases h
      exact if_pos hwithin
    · cases h
  · cases h

/-- A validated pose validates again, to itself. -/
theorem ValidPose.again {resources : PoseResources} {raw : RawPose} {pose : NamedPose}
    (h : ValidPose resources raw pose) : ValidPose resources pose.raw pose := by
  have hid : pose.raw.id = raw.id := h.id
  have htargets : pose.raw.targets = raw.targets := (validateTargets_ok h.targets).1.symm
  refine ⟨?_, rfl, ?_, ?_, ?_, ?_, ?_, ?_⟩ <;> rw [hid]
  · exact h.identifier
  · exact checkName_again h.name
  · exact checkNumber_again h.velocityScale
  · exact checkNumber_again h.accelerationScale
  · exact checkNumber_again h.jerkScale
  · exact checkNumber_again h.timeoutSec
  · rw [htargets]
    exact h.targets

/-- What an accepted list of poses says of each, and that no two have one id. -/
theorem validateInitialPoses_ok {resources : PoseResources} {value : List RawPose}
    {poses : List NamedPose} (h : validateInitialPoses value resources = .ok poses) :
    List.Forall₂ (ValidPose resources) value poses ∧ (poses.map (·.id)).Nodup := by
  unfold validateInitialPoses at h
  split at h
  · cases h
  have hturn {result result' : List NamedPose} {raw : RawPose}
      (h : notePose resources result raw = .ok result') : ∃ pose, result' = result ++ [pose] ∧
        ValidPose resources raw pose ∧ pose.id ∉ result.map (·.id) := by
    unfold notePose at h
    obtain ⟨pose, hpose, h⟩ := Checked.bind_ok h
    obtain ⟨hvalid, hfresh⟩ := validatePose_ok_iff.1 hpose
    exact ⟨pose, (Except.ok.inj h).symm, hvalid, hvalid.id ▸ hfresh⟩
  constructor
  · obtain ⟨ys, hys, hall⟩ := Checked.foldlM_collects id (ValidPose resources)
      (fun result raw result' hresult => by
        obtain ⟨pose, hout, hvalid, -⟩ := hturn hresult
        exact ⟨pose, hout, hvalid⟩) h
    rw [id, id, List.nil_append] at hys
    exact hys ▸ hall
  · refine Checked.foldlM_ok (P := fun l : List NamedPose => (l.map (·.id)).Nodup) ?_ ?_ h
    · intro raw _ result result' hnodup hresult
      obtain ⟨pose, rfl, -, hfresh⟩ := hturn hresult
      rw [List.map_append, List.nodup_append]
      refine ⟨hnodup, List.nodup_singleton _, fun a ha b hb heq => hfresh ?_⟩
      subst heq
      have hid : a = pose.id := List.mem_singleton.1 hb
      exact hid ▸ ha
    · exact List.nodup_nil

/-! ## The goals -/

/-- The goals move exactly the joints of the snapshot, each to its position. -/
structure Reproduces (resources : PoseResources) (positions : StringMap Double)
    (goals : List PoseGoal) : Prop where
  disjoint : goals.Pairwise fun a b => Disjoint a.jointNames.toFinset b.jointNames.toFinset
  columns : ∀ goal ∈ goals, goal.jointNames.length = goal.positionsRad.length
  combined : ∀ name value, (∃ goal ∈ goals,
    (name, value) ∈ goal.jointNames.zip (goal.positionsRad.map .fin)) ↔ positions[name]? = some value
  limits : ∀ goal ∈ goals, WithinLimits resources goal.group goal.positionsRad

/-- The goal of a candidate's channel. -/
structure GoalOf (resources : PoseResources) (positions : StringMap Double) (candidate : Candidate)
    (goal : PoseGoal) : Prop where
  joints : goal.jointNames.toFinset = candidate.1
  inside : candidate.1 ⊆ jointSet positions
  values : goal.positionsRad.map .fin = goal.jointNames.map fun n => (positions[n]?).getD 0
  limits : WithinLimits resources goal.group goal.positionsRad

theorem mem_jointSet {positions : StringMap Double} {name : String} :
    name ∈ jointSet positions ↔ ∃ value, positions[name]? = some value := by
  unfold jointSet
  rw [List.mem_toFinset, Std.TreeMap.mem_keys, ← Option.isSome_iff_exists,
    Std.TreeMap.isSome_getElem?_iff_mem]

theorem mem_zip_map {f : String → Double} {name : String} {value : Double} (names : List String) :
    (name, value) ∈ names.zip (names.map f) ↔ name ∈ names ∧ f name = value := by
  have hzip : names.zip (names.map f) = names.map fun n => (n, f n) := by
    rw [← List.zip_map', List.map_id']
  rw [hzip, List.mem_map]
  simp

/-- Goals of candidates that partition the joints reproduce the snapshot. -/
theorem reproduces {resources : PoseResources} {positions : StringMap Double}
    {chosen : List Candidate} {goals : List PoseGoal}
    (hgoals : List.Forall₂ (GoalOf resources positions) chosen goals)
    (hpartition : ExactCover.Partition (chosen.map Prod.fst) (jointSet positions)) :
    Reproduces resources positions goals := by
  have hblocks : chosen.map Prod.fst = goals.map fun goal => goal.jointNames.toFinset := by
    rw [← List.forall₂_eq_eq_eq, List.forall₂_map_left_iff, List.forall₂_map_right_iff]
    exact hgoals.imp fun _ _ h => h.joints.symm
  have hof (goal : PoseGoal) (hgoal : goal ∈ goals) :
      ∃ candidate, GoalOf resources positions candidate goal := by
    obtain ⟨i, hi, rfl⟩ := List.mem_iff_getElem.1 hgoal
    exact ⟨_, (List.forall₂_iff_get.1 hgoals).2 i ((List.forall₂_iff_get.1 hgoals).1 ▸ hi) hi⟩
  rw [hblocks] at hpartition
  refine ⟨List.pairwise_map.1 hpartition.disjoint, ?_, ?_, ?_⟩
  · intro goal hgoal
    obtain ⟨candidate, h⟩ := hof goal hgoal
    have hlength := congrArg List.length h.values
    rw [List.length_map, List.length_map] at hlength
    exact hlength.symm
  · intro name value
    constructor
    · rintro ⟨goal, hgoal, hin⟩
      obtain ⟨candidate, h⟩ := hof goal hgoal
      rw [h.values, mem_zip_map] at hin
      obtain ⟨hname, hvalue⟩ := hin
      obtain ⟨held, hheld⟩ := mem_jointSet.1 (h.inside (h.joints ▸ List.mem_toFinset.2 hname))
      rw [hheld, Option.getD_some] at hvalue
      rw [hheld, hvalue]
    · intro hheld
      obtain ⟨block, hblock, hname⟩ := (hpartition.covers name).1 (mem_jointSet.2 ⟨value, hheld⟩)
      obtain ⟨goal, hgoal, rfl⟩ := List.mem_map.1 hblock
      obtain ⟨candidate, h⟩ := hof goal hgoal
      refine ⟨goal, hgoal, ?_⟩
      rw [h.values, mem_zip_map, hheld]
      exact ⟨List.mem_toFinset.1 hname, rfl⟩
  · intro goal hgoal
    obtain ⟨candidate, h⟩ := hof goal hgoal
    exact h.limits

theorem poseGoal_ok {resources : PoseResources} (pose : NamedPose) {target : PoseTarget}
    {channel : ChannelItem} {group endpoint : String} {joints : List String}
    (h : Placed resources target channel group joints) (hendpoint : channel.endpoint = .text endpoint) :
    ∃ goal, poseGoal resources pose target = .ok goal ∧ goal.group = group ∧
      goal.jointNames = joints ∧ goal.positionsRad = target.positionsRad := by
  unfold poseGoal
  rw [h.lookup]
  dsimp only
  rw [(namedGroup_some.1 h.grouped).1, hendpoint]
  dsimp only
  rw [h.configured]
  exact ⟨_, rfl, rfl, rfl, rfl⟩

/-- The goal of a candidate's target is the candidate's. -/
theorem candidate_goal {resources : PoseResources} {positions : StringMap Double}
    (hwell : ∀ channel ∈ resources.channels, WellFormed channel)
    (hnames : (resources.channels.map (·.name)).Nodup) (pose : NamedPose) {candidate : Candidate}
    {target : PoseTarget} (hcandidate : CandidateOf resources positions candidate)
    (htarget : candidate.2 = target.raw)
    (hplaced : ∃ channel group joints, Placed resources target channel group joints) :
    ∃ goal, poseGoal resources pose target = .ok goal ∧ GoalOf resources positions candidate goal := by
  obtain ⟨channel, hchannel, name, group, joints, hname, -, hgroup, hjoints, rfl, hinside⟩ :=
    hcandidate
  obtain ⟨found, group', joints', h⟩ := hplaced
  obtain ⟨hname', hvalues⟩ := RawTarget.mk.inj htarget
  have hlookup := channelMap_mem hnames hchannel hname
  rw [hname', h.lookup] at hlookup
  cases hlookup
  cases hgroup.symm.trans h.grouped
  cases hjoints.symm.trans h.configured
  obtain ⟨endpoint, hendpoint⟩ := (hwell _ hchannel).endpoint
  obtain ⟨goal, hgoal, rfl, rfl, hpositions⟩ := poseGoal_ok pose h hendpoint
  exact ⟨goal, hgoal, rfl, hinside, by rw [hpositions, hvalues], hpositions ▸ h.limits⟩

/-- So the goals of all of a pose's targets are those of the candidates. -/
theorem candidates_goals {resources : PoseResources} {positions : StringMap Double}
    (hwell : ∀ channel ∈ resources.channels, WellFormed channel)
    (hnames : (resources.channels.map (·.name)).Nodup) (pose : NamedPose) :
    ∀ {chosen : List Candidate} {targets : List PoseTarget},
      (∀ candidate ∈ chosen, CandidateOf resources positions candidate) →
      chosen.map Prod.snd = targets.map PoseTarget.raw →
      (∀ target ∈ targets, ∃ channel group joints, Placed resources target channel group joints) →
      ∃ goals, targets.mapM (poseGoal resources pose) = .ok goals ∧
        List.Forall₂ (GoalOf resources positions) chosen goals
  | [], [], _, _, _ => ⟨[], rfl, .nil⟩
  | candidate :: chosen, target :: targets, hof, hraw, hplaced => by
    obtain ⟨hfirst, hrest⟩ := List.cons_eq_cons.1 hraw
    obtain ⟨goal, hgoal, hfits⟩ := candidate_goal hwell hnames pose
      (hof candidate List.mem_cons_self) hfirst (hplaced target List.mem_cons_self)
    obtain ⟨goals, hgoals, hall⟩ := candidates_goals hwell hnames pose
      (fun other h => hof other (List.mem_cons_of_mem _ h)) hrest
      (fun other h => hplaced other (List.mem_cons_of_mem _ h))
    refine ⟨goal :: goals, ?_, .cons hfits hall⟩
    rw [List.mapM_cons, hgoal, hgoals]
    rfl

/-- A pose of a valid document is found by its id. -/
theorem find_pose {poses : List NamedPose} {pose : NamedPose} (hnodup : (poses.map (·.id)).Nodup)
    (h : pose ∈ poses) : poses.find? (·.id == pose.id) = some pose := by
  obtain ⟨found, hfound⟩ : ∃ found, poses.find? (·.id == pose.id) = some found :=
    Option.isSome_iff_exists.1 (List.find?_isSome.2 ⟨pose, h, beq_self_eq_true pose.id⟩)
  have hid := List.find?_some hfound
  have hsame : found = pose := List.inj_on_of_nodup_map hnodup (List.mem_of_find?_eq_some hfound) h
    (beq_iff_eq.1 hid)
  rw [hfound, hsame]

/-! ## The snapshot property -/

/-- In every valid document with these resources that holds the pose, its goals reproduce the
snapshot; the pose alone makes a valid document. -/
structure RoundTrips (resources : PoseResources) (positions : StringMap Double) (pose : NamedPose) :
    Prop where
  resolved : ∀ document : PoseDocument, document.resources = resources →
    pose.raw ∈ document.initialPoses → ∀ poses,
    validateInitialPoses document.initialPoses document.resources = .ok poses →
    ∃ resolved, resolveInitialPose document pose.id = .ok resolved ∧
      Reproduces resources positions resolved.goals
  alone : validateInitialPoses [pose.raw] resources = .ok [pose]

/-- The covering error is raised exactly when no selection of MoveJ joint sets partitions the
joints, and a pose that is returned reproduces the snapshot. -/
structure SnapshotProperty (resources : PoseResources) (positions : StringMap Double)
    (poseId name : String) (options : PoseOptions) : Prop where
  covering : poseFromJointPositions resources positions poseId name options = .error .notCovered ↔
    ¬ Covered resources positions
  roundTrip : ∀ pose, poseFromJointPositions resources positions poseId name options = .ok pose →
    RoundTrips resources positions pose

/-- A validated pose of candidates that partition the joints round-trips. -/
theorem resolve_pose {resources : PoseResources} {positions : StringMap Double}
    (hwell : ∀ channel ∈ resources.channels, WellFormed channel)
    (hnames : (resources.channels.map (·.name)).Nodup) {raw : RawPose} {pose : NamedPose}
    {chosen : List Candidate} (hof : ∀ candidate ∈ chosen, CandidateOf resources positions candidate)
    (hpartition : ExactCover.Partition (chosen.map Prod.fst) (jointSet positions))
    (htargets : raw.targets = chosen.map Prod.snd) (hvalid : ValidPose resources raw pose) :
    RoundTrips resources positions pose := by
  obtain ⟨hraw, hplaced⟩ := validateTargets_ok hvalid.targets
  obtain ⟨goals, hgoals, hall⟩ := candidates_goals hwell hnames pose hof
    (htargets.symm.trans hraw) hplaced
  constructor
  · rintro document rfl hin poses hposes
    obtain ⟨hpairs, hnodup⟩ := validateInitialPoses_ok hposes
    obtain ⟨i, hi, hraw'⟩ := List.mem_iff_getElem.1 hin
    have hi' : i < poses.length := hpairs.length_eq ▸ hi
    have hvalid' : ValidPose document.resources document.initialPoses[i] poses[i] :=
      (List.forall₂_iff_get.1 hpairs).2 i hi hi'
    rw [hraw'] at hvalid'
    have hmem : pose ∈ poses := hvalid'.unique hvalid.again ▸ List.getElem_mem hi'
    refine ⟨⟨pose.id, pose.name, goals⟩, ?_, reproduces hall hpartition⟩
    unfold resolveInitialPose
    rw [hposes]
    dsimp only
    rw [find_pose hnodup hmem]
    dsimp only
    rw [hgoals]
    rfl
  · rw [validateInitialPoses_one, validatePose_ok_iff.2 ⟨hvalid.again, List.not_mem_nil⟩]
    rfl

/-- `pose_from_joint_positions` and `resolve_initial_pose` over the channels of an accepted list.
A MoveJ channel without a group contributes no joint set and hides that the joints are not
covered. -/
theorem snapshot_iff (resources : PoseResources) (positions : StringMap Double)
    (poseId name : String) (options : PoseOptions)
    (haccepted : ∃ loaded, loadChannelConfig resources.channels = .ok loaded)
    (hconfigured : Configured resources) (hsome : jointSet positions ≠ ∅) :
    SnapshotProperty resources positions poseId name options ↔
      AllGrouped resources.channels ∨ Covered resources positions := by
  obtain ⟨loaded, hloaded⟩ := haccepted
  obtain ⟨hwell, hnames⟩ := accepted_wellFormed hloaded
  by_cases hall : AllGrouped resources.channels
  · refine iff_of_true ?_ (.inl hall)
    rcases poseFrom_cases hwell hconfigured hall hsome poseId name options with
      ⟨hnot, herror⟩ | ⟨hcovered, chosen, hof, hpartition, ⟨error, herror⟩ | ⟨pose, hpose, hvalid⟩⟩
    · refine ⟨iff_of_true herror hnot, fun pose hpose => ?_⟩
      rw [herror] at hpose
      cases hpose
    · constructor
      · rw [herror]
        exact iff_of_false (by simp) (not_not.2 hcovered)
      · intro pose hpose
        rw [herror] at hpose
        cases hpose
    · constructor
      · rw [hpose]
        exact iff_of_false (by simp) (not_not.2 hcovered)
      · intro pose' hpose'
        cases hpose.symm.trans hpose'
        exact resolve_pose hwell hnames hof hpartition rfl (validatePose_ok_iff.1 hvalid).1
  · obtain ⟨key, hkey⟩ := @not_collected resources positions hwell hconfigured _ []
      (List.Subset.refl resources.channels) hall
    have herror : poseFromJointPositions resources positions poseId name options =
        .error (.keyError key) := by
      unfold poseFromJointPositions
      rw [hkey]
    have hcovering : (poseFromJointPositions resources positions poseId name options =
        .error .notCovered ↔ ¬ Covered resources positions) ↔ Covered resources positions := by
      rw [herror]
      simp
    constructor
    · intro h
      exact .inr (hcovering.1 h.covering)
    · rintro (h | h)
      · exact absurd h hall
      · refine ⟨hcovering.2 h, fun pose hpose => ?_⟩
        rw [herror] at hpose
        cases hpose

/-! ## Two lists of channels -/

def moveJChannel (name : String) (group : YamlField) : ChannelItem where
  name := .text name
  kind := .text "move_j"
  endpoint := .text ("/" ++ name)
  group := group

def snapshotResources (channels : List ChannelItem) (groups : List (String × List String)) :
    PoseResources where
  channels := channels
  groups := .ofList groups
  groupLowerLimits := .ofList (groups.map fun g => (g.1, g.2.map fun _ => (-4 : Rat)))
  groupUpperLimits := .ofList (groups.map fun g => (g.1, g.2.map fun _ => (4 : Rat)))

/-- The largest group does not fit with the others: the search goes back. -/
def overlapping : PoseResources :=
  snapshotResources [moveJChannel "large" (.text "large"), moveJChannel "one" (.text "one"),
    moveJChannel "two" (.text "two")]
    [("large", ["a", "b", "c"]), ("one", ["a", "b"]), ("two", ["c", "d"])]

def overlappingSnapshot : StringMap Double :=
  .ofList [("a", Double.fin 0), ("b", Double.fin 1), ("c", Double.fin 2), ("d", Double.fin 3)]

theorem overlapping_configured : Configured overlapping := by
  refine ⟨fun channel hchannel group hgroup => ?_, rfl⟩
  obtain rfl | hchannel := List.mem_cons.1 hchannel
  · cases hgroup
    exact ⟨_, _, _, rfl, rfl, rfl, by decide, rfl, rfl⟩
  obtain rfl | hchannel := List.mem_cons.1 hchannel
  · cases hgroup
    exact ⟨_, _, _, rfl, rfl, rfl, by decide, rfl, rfl⟩
  obtain rfl := List.mem_singleton.1 hchannel
  cases hgroup
  exact ⟨_, _, _, rfl, rfl, rfl, by decide, rfl, rfl⟩

theorem snapshot_iff_overlapping :
    SnapshotProperty overlapping overlappingSnapshot "home" "Home" {} :=
  (snapshot_iff overlapping overlappingSnapshot "home" "Home" {} ⟨_, rfl⟩ overlapping_configured
    (by decide)).2 (.inl (by unfold AllGrouped; decide))

/-- The second channel has no group, and the joint `b` is in no group. -/
def hidden : PoseResources :=
  snapshotResources [moveJChannel "left" (.text "left"), moveJChannel "whole" .absent]
    [("left", ["a"])]

def hiddenSnapshot : StringMap Double := .ofList [("b", Double.fin 0)]

theorem hidden_configured : Configured hidden := by
  refine ⟨fun channel hchannel group hgroup => ?_, rfl⟩
  obtain rfl | hchannel := List.mem_cons.1 hchannel
  · cases hgroup
    exact ⟨_, _, _, rfl, rfl, rfl, by decide, rfl, rfl⟩
  · obtain rfl := List.mem_singleton.1 hchannel
    cases hgroup

theorem hidden_not_covered : ¬ Covered hidden hiddenSnapshot := by
  rintro ⟨blocks, hblocks, hpartition⟩
  obtain ⟨block, hblock, hb⟩ := (hpartition.covers "b").1 (by decide)
  obtain ⟨channel, hchannel, -, group, joints, hgroup, hjoints, rfl⟩ := hblocks block hblock
  obtain rfl | hchannel := List.mem_cons.1 hchannel
  · cases hgroup
    cases hjoints
    revert hb
    decide
  · obtain rfl := List.mem_singleton.1 hchannel
    cases hgroup

/-- An accepted list where no joint set has the joint, and `KeyError` in place of the covering
error. -/
theorem snapshot_hidden :
    (∃ loaded, loadChannelConfig hidden.channels = .ok loaded) ∧ Configured hidden ∧
    jointSet hiddenSnapshot ≠ ∅ ∧ ¬ Covered hidden hiddenSnapshot ∧
    poseFromJointPositions hidden hiddenSnapshot "home" "Home" {} = .error (.keyError "group") ∧
    ¬ SnapshotProperty hidden hiddenSnapshot "home" "Home" {} := by
  have herror : poseFromJointPositions hidden hiddenSnapshot "home" "Home" {} =
      .error (.keyError "group") := rfl
  refine ⟨⟨_, rfl⟩, hidden_configured, by decide, hidden_not_covered, herror, fun h => ?_⟩
  have hraised := h.covering.2 hidden_not_covered
  rw [herror] at hraised
  cases hraised

end HumanoidMotion
