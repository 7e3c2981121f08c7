import HumanoidMotion.Motion.Consistency
import HumanoidMotion.Node.Configuration
/-
# The ids of sessions

A Move stands under its channel and the id of its goal, `pose:00ff…`, a servo
session under its endpoint, `servo:track@left`, in one map. The 32 digits after
the last colon keep the two apart, as long as no group has a colon in its name.

* `sessionIdOf_injective` — a goal of a channel has an id of its own.
* `sessionIdOf_ne_servoId` — which is not that of a servo session.
* `node_sessions_apart` — so it is in every run of the calls a node makes.
-/

namespace HumanoidMotion

/-! ## Hexadecimal digits -/

theorem digitChar_injective {m n : Nat} (hm : m < 16) (hn : n < 16)
    (h : Nat.digitChar m = Nat.digitChar n) : m = n := by
  have hall : ∀ m n : Fin 16, Nat.digitChar m = Nat.digitChar n → m = n := by decide
  exact congrArg Fin.val (hall ⟨m, hm⟩ ⟨n, hn⟩ h)

theorem hexByte_injective : Function.Injective hexByte := by
  intro a b h
  have ha := a.toNat_lt
  have hb := b.toNat_lt
  obtain ⟨hhigh, hlow⟩ := List.cons.inj h
  have hhigh := digitChar_injective (by omega) (by omega) hhigh
  have hlow := digitChar_injective (by omega) (by omega) (List.cons.inj hlow).1
  exact UInt8.toNat_inj.1 (by omega)

/-- A digit is neither separator. -/
theorem mem_hexByte {byte : UInt8} {c : Char} (h : c ∈ hexByte byte) : c ≠ ':' ∧ c ≠ '@' := by
  have hall : ∀ n : Fin 16, Nat.digitChar n ≠ ':' ∧ Nat.digitChar n ≠ '@' := by decide
  have hlt := byte.toNat_lt
  simp only [hexByte, List.mem_cons, List.not_mem_nil, or_false] at h
  rcases h with rfl | rfl
  · exact hall ⟨byte.toNat / 16, by omega⟩
  · exact hall ⟨byte.toNat % 16, by omega⟩

theorem flatMap_hexByte_injective : ∀ {xs ys : List UInt8},
    xs.flatMap hexByte = ys.flatMap hexByte → xs = ys
  | [], [], _ => rfl
  | [], _ :: _, h => by simp [hexByte] at h
  | _ :: _, [], h => by simp [hexByte] at h
  | x :: xs, y :: ys, h => by
    rw [List.flatMap_cons, List.flatMap_cons] at h
    obtain ⟨hfirst, hrest⟩ := List.append_inj h rfl
    rw [hexByte_injective hfirst, flatMap_hexByte_injective hrest]

/-- The digits of a goal. -/
def goalDigits (goalId : Vector UInt8 16) : List Char := goalId.toList.flatMap hexByte

theorem not_mem_goalDigits (goalId : Vector UInt8 16) :
    ':' ∉ goalDigits goalId ∧ '@' ∉ goalDigits goalId := by
  constructor
  all_goals
    intro h
    obtain ⟨byte, -, hc⟩ := List.mem_flatMap.1 h
    have := mem_hexByte hc
    simp at this

/-! ## The ids -/

theorem sessionIdOf_toList (channelName : String) (goalId : Vector UInt8 16) :
    (sessionIdOf channelName goalId).toList = channelName.toList ++ ':' :: goalDigits goalId := by
  simp [sessionIdOf, goalDigits]

theorem servoId_policyId_toList (channel : ChannelConfig) (group : String) :
    (servoId (policyId channel group)).toList =
      ("servo:".toList ++ channel.name.toList) ++ '@' :: group.toList := by
  simp [servoId, policyId]

theorem sessionIdOf_injective {name name' : String} {goalId goalId' : Vector UInt8 16}
    (h : sessionIdOf name goalId = sessionIdOf name' goalId') : name = name' ∧ goalId = goalId' := by
  have hlist := congrArg String.toList h
  rw [sessionIdOf_toList, sessionIdOf_toList] at hlist
  have hlength : (':' :: goalDigits goalId).length = (':' :: goalDigits goalId').length := by
    simp [goalDigits, hexByte]
  obtain ⟨hname, hdigits⟩ := List.append_inj' hlist hlength
  refine ⟨String.toList_inj.1 hname, Vector.toList_inj.1 ?_⟩
  exact flatMap_hexByte_injective (List.cons.inj hdigits).2

/-- The last separator of the one is a colon, that of the other is not. -/
theorem sessionIdOf_ne_servoId (channelName : String) (goalId : Vector UInt8 16)
    (channel : ChannelConfig) {group : String} (hgroup : ':' ∉ group.toList) :
    sessionIdOf channelName goalId ≠ servoId (policyId channel group) := by
  intro h
  have hlist := congrArg String.toList h
  rw [sessionIdOf_toList, servoId_policyId_toList] at hlist
  rcases List.append_eq_append_iff.1 hlist with ⟨more, -, hmore⟩ | ⟨more, -, hmore⟩
  · have hin : '@' ∈ ':' :: goalDigits goalId := by
      rw [hmore]
      simp
    simp [(not_mem_goalDigits goalId).2] at hin
  · have hin : ':' ∈ '@' :: group.toList := by
      rw [hmore]
      simp
    simp [hgroup] at hin

/-! ## The calls of a node -/

/-- A call that a node makes once it has come up: it registers no endpoint, and names a Move after
its channel and goal. -/
def NodeCall (channels : List LoadedChannel) : Op → Prop
  | .registerEndpoint _ => False
  | .submitMove _ request _ _ => ∃ channel ∈ channels, ∃ goalId,
      requestId request = sessionIdOf channel.name goalId
  | _ => True

theorem node_moveIdsFree {parameters : NodeParameters} {groups : List JointGroupModel}
    {channels : List LoadedChannel} (hknown : ∀ channel ∈ channels, GroupKnown groups channel)
    (hplain : ∀ group ∈ groups, ':' ∉ group.name.toList) {ops : List Op}
    (hops : ∀ op ∈ ops, NodeCall channels op) :
    MoveIdsFree (registrations (parameters.nodePolicies groups channels) ++ ops) := by
  intro id hid name hname
  -- Moves come from the calls of the node, endpoints from its registrations
  rw [List.filterMap_append, List.mem_append] at hid
  rw [endpointNames, List.filterMap_append, List.mem_append] at hname
  have hnone : ∀ op ∈ ops, op.endpointName? = none := by
    intro op hop
    have := hops op hop
    cases op with
    | registerEndpoint policy => exact this.elim
    | _ => rfl
  rcases hname with hname | hname
  · obtain ⟨op, hop, hop'⟩ := List.mem_filterMap.1 hname
    obtain ⟨policy, hpolicy, rfl⟩ := List.mem_map.1 hop
    obtain ⟨channel, hchannel, group, hgroup, rfl⟩ := mem_nodePolicies.1 hpolicy
    obtain rfl := Option.some.inj hop'
    have hcolon : ':' ∉ group.toList := by
      have hin : group ∈ groups.map (·.name) := by
        unfold NodeParameters.channelGroups at hgroup
        split at hgroup
        · exact hgroup
        · rename_i hnamed
          obtain rfl := List.mem_singleton.1 hgroup
          exact hknown channel hchannel (Bool.eq_false_iff.2 hnamed)
      obtain ⟨model, hmodel, rfl⟩ := List.mem_map.1 hin
      exact hplain model hmodel
    rcases hid with hid | hid
    · obtain ⟨op, hop, hop'⟩ := List.mem_filterMap.1 hid
      obtain ⟨policy, -, rfl⟩ := List.mem_map.1 hop
      cases hop'
    · obtain ⟨op, hop, hop'⟩ := List.mem_filterMap.1 hid
      cases op with
      | submitMove endpoint request now generation =>
        obtain ⟨own, -, goalId, hown⟩ := hops _ hop
        obtain rfl := Option.some.inj hop'
        rw [hown]
        exact sessionIdOf_ne_servoId _ _ _ hcolon
      | _ => cases hop'
  · obtain ⟨op, hop, hop'⟩ := List.mem_filterMap.1 hname
    rw [hnone op hop] at hop'
    cases hop'

/-- Channels of a document are told apart by their names. -/
theorem ChannelsLoaded.name_injective {channels : List LoadedChannel} (h : ChannelsLoaded channels)
    {channel channel' : LoadedChannel} (hin : channel ∈ channels) (hin' : channel' ∈ channels)
    (hname : channel.name = channel'.name) : channel = channel' :=
  List.inj_on_of_nodup_map h.names hin hin' hname

/-- Of an accepted document whose groups have no colon in their names: in every run of the calls that
a node makes no Move has the id of a servo session, and an id belongs to one goal of one channel. -/
theorem node_sessions_apart (parameters : NodeParameters) {items : List ChannelItem}
    {groups : List JointGroupModel} {channels : List LoadedChannel}
    (hchannels : loadChannelConfig items = .ok channels)
    (hknown : ∀ channel ∈ channels, GroupKnown groups channel)
    (hplain : ∀ group ∈ groups, ':' ∉ group.name.toList) {ops : List Op}
    (hops : ∀ op ∈ ops, NodeCall channels op) :
    MoveIdsFree (registrations (parameters.nodePolicies groups channels) ++ ops) ∧
      ∀ channel ∈ channels, ∀ channel' ∈ channels, ∀ goalId goalId' : Vector UInt8 16,
        sessionIdOf channel.name goalId = sessionIdOf channel'.name goalId' →
          channel = channel' ∧ goalId = goalId' := by
  refine ⟨node_moveIdsFree hknown hplain hops, ?_⟩
  intro channel hin channel' hin' goalId goalId' heq
  obtain ⟨hname, hgoal⟩ := sessionIdOf_injective heq
  exact ⟨(loadChannelConfig_checked hchannels).name_injective hin hin' hname, hgoal⟩

namespace Fixture

/-- A goal of the Move channel, a servo target and a tick. -/
def nodeCalls : List Op :=
  [moveJ "pose@left" (sessionIdOf "pose" (Vector.replicate 16 7)) "left" ["l1"] 10,
    servoJ "track@left" "left" ["l1"] 20, tick 30]

theorem nodeCalls_made : ∀ op ∈ nodeCalls, NodeCall loadedChannels op := by
  intro op hop
  simp only [nodeCalls, List.mem_cons, List.not_mem_nil, or_false] at hop
  rcases hop with rfl | rfl | rfl
  · exact ⟨_, List.mem_cons_self, Vector.replicate 16 7, rfl⟩
  · trivial
  · trivial

end Fixture

open Fixture in
theorem node_sessions_apart_arms :
    MoveIdsFree (registrations (twoArmParameters.nodePolicies loadedArms loadedChannels) ++
      nodeCalls) :=
  (node_sessions_apart twoArmParameters (show loadChannelConfig twoArmChannels = .ok loadedChannels by
    decide +kernel) (by decide) (by decide) nodeCalls_made).1

/-- With a colon in the name of a group, and more than a name in that of a channel, they meet. -/
example : sessionIdOf "servo:track@left" (Vector.replicate 16 0) =
    servoId (policyId { name := "track", kind := .servoJ, group := "" }
      "left:00000000000000000000000000000000") := by
  decide +kernel

end HumanoidMotion
