import HumanoidMotion.Lib.Wp
import HumanoidMotion.Node.PublicJointMapping
import HumanoidMotion.Node.Reservation
/-
# A Move task and its reservation

`launch_action` reserves the joints of the goal's group and starts a task. The
task does the work; if that throws, a handler cancels the session and aborts
the goal. Then the joints are released, by a plain statement.

| here | there |
| --- | --- |
| `launchAction` | `launch_action` (`:979`) up to the start of the task |
| `moveTask`     | the task itself (`:996`) |
| `abortStatus`  | `abort_status` (`:1492`) |

* `OtherStep`, `OutsideCall` — what other threads do meanwhile, and how a call ends.
* `HandlerReturns` — no call of the handler throws.
* `reservation_released` — the joints are released exactly if the work or the
  handler returns.
* `unmapped_feedback_leaks` — and not where the feedback cannot be converted.
-/

namespace HumanoidMotion

open Prog

variable {β : Type} {B : Platform β}

/-! ## Calls -/

/-- A step that the rest of the node takes while a call runs. The owner of a reservation is the id
of its goal, so no other task has it. -/
inductive OtherStep (β : Type) (owner : String) where
  | reserve (groupName other : String) (h : other ≠ owner)
  | release (other : String) (rosNowNs : String → Int) (h : other ≠ owner)
  /-- Any step that has no business with reservations. -/
  | elsewhere (step : ControlNode β → ControlNode β)
      (h : ∀ n, (step n).moveOwners = n.moveOwners ∧ (step n).publicMapping = n.publicMapping)

/-- How a call ends, with the text of the exception where it throws. -/
structure OutsideCall (β : Type) (owner : String) (α : Type) where
  outcome : Except String α
  meanwhile : List (OtherStep β owner) := []

variable (B)

def OtherStep.run {owner : String} (n : ControlNode β) : OtherStep β owner → ControlNode β
  | .reserve groupName other _ => (n.reserveMove B groupName other).2
  | .release other rosNowNs _ => n.releaseMove other rosNowNs
  | .elsewhere step _ => step n

def OutsideCall.run {owner : String} {α : Type} (call : OutsideCall β owner α) :
    Prog (ControlNode β) String α :=
  ExceptT.mk fun n => (call.outcome, call.meanwhile.foldl (OtherStep.run B) n)

/-! ## The task -/

/-- What a task and its handler call. -/
structure TaskCalls (β : Type) (owner : String) where
  work : OutsideCall β owner Unit
  sessionId : OutsideCall β owner String
  cancel : String → OutsideCall β owner Unit
  discardTerminalEvent : String → OutsideCall β owner Unit
  /-- `rclcpp::ok()`. -/
  ok : OutsideCall β owner Bool
  isActive : OutsideCall β owner Bool
  feedbackSnapshot : OutsideCall β owner (Option JointState)
  abort : OutsideCall β owner Unit

/-- The result a goal is aborted with. -/
structure MoveResult where
  status : MotionStatus
  finalJointState : JointState := {}
deriving DecidableEq, Repr

inductive Launch where
  | started
  | aborted (message : String)
deriving DecidableEq, Repr

section
variable {owner : String}

/-- `launch_action` with `running` tasks under way; `permitted` is what `source_permitted` says. -/
def launchAction (n : ControlNode β) (permitted : Bool) (running : Nat) (groupName owner : String) :
    Launch × ControlNode β :=
  if !permitted || decide (64 ≤ running) then (.aborted "motion worker capacity unavailable", n)
  else
    let reserved := n.reserveMove B groupName owner
    if reserved.1 then (.started, reserved.2)
    else (.aborted "Move group is invalid or already occupied", reserved.2)

/-- The last feedback under public names; the exception of `convert` passes through. -/
def measured (mapping : PublicJointMapping) : Option JointState → Prog (ControlNode β) String JointState
  | none => pure {}
  | some state => ExceptT.mk (pure (mapping.convert state false))

def abortStatus (mapping : PublicJointMapping) (calls : TaskCalls β owner) (code : StatusCode)
    (message : String) : Prog (ControlNode β) String MoveResult := do
  let state ← calls.feedbackSnapshot.run B
  let finalJointState ← measured mapping state
  calls.abort.run B
  return { status := { code, message }, finalJointState }

def handler (mapping : PublicJointMapping) (calls : TaskCalls β owner) (error : String) :
    Prog (ControlNode β) String Unit := do
  let id ← calls.sessionId.run B
  (calls.cancel id).run B
  (calls.discardTerminalEvent id).run B
  if ← calls.ok.run B then
    if ← calls.isActive.run B then
      let _ ← abortStatus B mapping calls .internalError error
      pure ()

def moveTask (mapping : PublicJointMapping) (calls : TaskCalls β owner)
    (rosNowNs : String → Int) : Prog (ControlNode β) String Unit := do
  tryCatch (calls.work.run B) fun error => handler B mapping calls error
  modify fun n => n.releaseMove owner rosNowNs

end

/-! ## When the handler returns -/

section
variable {owner : String}

/-- The goal can be aborted: the feedback, if there is any, can be converted. -/
def AbortReturns (mapping : PublicJointMapping) (calls : TaskCalls β owner) : Prop :=
  (∃ state, calls.feedbackSnapshot.outcome = .ok state ∧
    ∀ message, state = some message → mapping.Convertible message false) ∧
  calls.abort.outcome = .ok ()

/-- No call that the handler makes throws. -/
def HandlerReturns (mapping : PublicJointMapping) (calls : TaskCalls β owner) : Prop :=
  ∃ id, calls.sessionId.outcome = .ok id ∧ (calls.cancel id).outcome = .ok () ∧
    (calls.discardTerminalEvent id).outcome = .ok () ∧
    (calls.ok.outcome = .ok false ∨ calls.ok.outcome = .ok true ∧
      (calls.isActive.outcome = .ok false ∨ calls.isActive.outcome = .ok true ∧
        AbortReturns mapping calls))

end

/-! ## What a task does to its reservation -/

section
variable {owner : String} {n n' : ControlNode β}

/-- The same joints are reserved by the owner. -/
structure SameHold (owner : String) (n n' : ControlNode β) : Prop where
  mapping : n'.publicMapping = n.publicMapping
  joints : ∀ joint : String, n'.moveOwners[joint]? = some owner ↔ n.moveOwners[joint]? = some owner

theorem SameHold.refl (n : ControlNode β) : SameHold owner n n := ⟨rfl, fun _ => .rfl⟩

theorem SameHold.trans {n'' : ControlNode β} (h : SameHold owner n n') (h' : SameHold owner n' n'') :
    SameHold owner n n'' :=
  ⟨h'.mapping.trans h.mapping, fun joint => (h'.joints joint).trans (h.joints joint)⟩

/-- Nobody else takes or gives back what the owner has reserved. -/
theorem OtherStep.sameHold (n : ControlNode β) (step : OtherStep β owner) :
    SameHold owner n (step.run B n) := by
  cases step with
  | reserve groupName other hne =>
    cases hmapping : n.publicMapping with
    | false => simp only [OtherStep.run, ControlNode.reserveMove, hmapping]; exact .refl n
    | true =>
      rcases reserveMove_reserved (B := B) n groupName other hmapping with
        ⟨model, -, -, hreserved⟩ | hsame
      · refine ⟨hreserved.mapping, fun joint => ?_⟩
        simp only [OtherStep.run, hreserved.owners]
        split
        · rename_i hj
          rw [(occupied_eq_false _ _).1 hreserved.free joint hj]
          simp [hne]
        · rfl
      · simp only [OtherStep.run, hsame]
        exact .refl n
  | release other rosNowNs hne =>
    refine ⟨rfl, fun joint => ?_⟩
    simp only [OtherStep.run, releaseMove_owners]
    cases n.moveOwners[joint]? with
    | none => simp
    | some holder =>
      by_cases hholder : holder = owner
      · subst hholder
        simp [Ne.symm hne]
      · simp [hholder, Option.filter_some]
  | elsewhere step h =>
    exact ⟨(h n).2, fun joint => by simp only [OtherStep.run, (h n).1]⟩

theorem foldl_sameHold (steps : List (OtherStep β owner)) (n : ControlNode β) :
    SameHold owner n (steps.foldl (OtherStep.run B) n) := by
  induction steps generalizing n with
  | nil => exact .refl n
  | cons step steps ih => exact (step.sameHold B n).trans (ih _)

/-- The program returns exactly if `P` holds, and leaves the reservation as it is. -/
def Ends {α : Type} (owner : String) (m : Prog (ControlNode β) String α) (P : Prop) : Prop :=
  ∀ n, wp m (fun _ n' => P ∧ SameHold owner n n') (fun _ n' => ¬ P ∧ SameHold owner n n') n

theorem Ends.congr {α : Type} {m : Prog (ControlNode β) String α} {P P' : Prop}
    (h : Ends owner m P) (hiff : P ↔ P') : Ends owner m P' := by
  intro n
  refine (h n).imp (fun _ _ hret => ⟨hiff.1 hret.1, hret.2⟩) fun _ _ hthrow => ⟨?_, hthrow.2⟩
  exact fun hp => hthrow.1 (hiff.2 hp)

theorem ends_pure {α : Type} (a : α) : Ends owner (pure a : Prog (ControlNode β) String α) True :=
  fun n => ⟨trivial, .refl n⟩

theorem Ends.bind {α γ : Type} {m : Prog (ControlNode β) String α}
    {f : α → Prog (ControlNode β) String γ} {P Q : Prop} (h : Ends owner m P)
    (hf : ∀ a, Ends owner (f a) Q) : Ends owner (m >>= f) (P ∧ Q) := by
  intro n
  rw [wp_bind]
  refine (h n).imp (fun a n' hret => ?_) fun _ _ hthrow => ⟨fun hboth => hthrow.1 hboth.1, hthrow.2⟩
  exact (hf a n').imp (fun _ _ hret' => ⟨⟨hret.1, hret'.1⟩, hret.2.trans hret'.2⟩)
    fun _ _ hthrow => ⟨fun hboth => hthrow.1 hboth.2, hret.2.trans hthrow.2⟩

/-- A call comes first: it returns, and what follows does. -/
theorem ends_call {α γ : Type} (call : OutsideCall β owner α) {f : α → Prog (ControlNode β) String γ}
    {P : α → Prop} (h : ∀ a, Ends owner (f a) (P a)) :
    Ends owner (call.run B >>= f) (∃ a, call.outcome = .ok a ∧ P a) := by
  intro n
  have hhold := foldl_sameHold B call.meanwhile n
  have hexec : (call.run B).exec n = (call.outcome, call.meanwhile.foldl (OtherStep.run B) n) := rfl
  rw [wp_bind]
  unfold wp
  rw [hexec]
  cases hout : call.outcome with
  | ok a =>
    refine (h a _).imp (fun _ _ hret => ⟨⟨a, rfl, hret.1⟩, hhold.trans hret.2⟩)
      fun _ _ hthrow => ⟨?_, hhold.trans hthrow.2⟩
    rintro ⟨a', ha', hp⟩
    obtain rfl := Except.ok.inj ha'
    exact hthrow.1 hp
  | error e =>
    refine ⟨?_, hhold⟩
    rintro ⟨a, ha, -⟩
    cases ha

/-- The feedback is converted, and what follows returns. -/
theorem ends_measured {γ : Type} {mapping : PublicJointMapping} (henabled : mapping.enabled = true)
    (state : Option JointState) {f : JointState → Prog (ControlNode β) String γ} {P : Prop}
    (h : ∀ final, Ends owner (f final) P) :
    Ends owner (measured mapping state >>= f)
      ((∀ message, state = some message → mapping.Convertible message false) ∧ P) := by
  intro n
  rw [wp_bind]
  cases state with
  | none =>
    refine (h {} n).imp (fun _ _ hret => ⟨⟨by simp, hret.1⟩, hret.2⟩) fun _ _ hthrow => ⟨?_, hthrow.2⟩
    exact fun hboth => hthrow.1 hboth.2
  | some message =>
    have hreturns := mapping.convert_returns message false henabled
    change wp (ExceptT.mk (pure (mapping.convert message false))) _ _ n
    cases hconvert : mapping.convert message false with
    | ok final =>
      have hconvertible : mapping.Convertible message false := hreturns.1 ⟨final, hconvert⟩
      refine (h final n).imp (fun _ _ hret => ⟨⟨?_, hret.1⟩, hret.2⟩)
        fun _ _ hthrow => ⟨fun hboth => hthrow.1 hboth.2, hthrow.2⟩
      rintro message' heq
      rw [← Option.some.inj heq]
      exact hconvertible
    | error e =>
      refine ⟨fun hboth => ?_, .refl n⟩
      obtain ⟨final, hfinal⟩ := hreturns.2 (hboth.1 message rfl)
      cases hconvert.symm.trans hfinal

theorem ends_abortStatus {mapping : PublicJointMapping} (henabled : mapping.enabled = true)
    (calls : TaskCalls β owner) (code : StatusCode) (message : String) :
    Ends owner (abortStatus B mapping calls code message) (AbortReturns mapping calls) := by
  refine (ends_call B calls.feedbackSnapshot fun state => ends_measured henabled state fun final =>
    ends_call B calls.abort fun _ => ends_pure _).congr ?_
  unfold AbortReturns
  constructor
  · rintro ⟨state, hstate, hconvertible, ⟨⟩, habort, -⟩
    exact ⟨⟨state, hstate, hconvertible⟩, habort⟩
  · rintro ⟨⟨state, hstate, hconvertible⟩, habort⟩
    exact ⟨state, hstate, hconvertible, ⟨⟩, habort, trivial⟩

/-- A test comes first; what it guards is all that follows. -/
theorem ends_test (call : OutsideCall β owner Bool) {m : Prog (ControlNode β) String Unit} {P : Prop}
    (h : Ends owner m P) :
    Ends owner (do if ← call.run B then m)
      (call.outcome = .ok false ∨ call.outcome = .ok true ∧ P) := by
  have hguarded : ∀ answer : Bool, Ends owner (if answer then m else pure ()) (answer = true → P) := by
    intro answer
    cases answer with
    | false => exact (ends_pure ()).congr (by simp)
    | true => exact h.congr (by simp)
  refine (ends_call B call hguarded).congr ?_
  constructor
  · rintro ⟨answer, hanswer, hp⟩
    cases answer with
    | false => exact .inl hanswer
    | true => exact .inr ⟨hanswer, hp rfl⟩
  · rintro (hfalse | ⟨htrue, hp⟩)
    · exact ⟨false, hfalse, by simp⟩
    · exact ⟨true, htrue, fun _ => hp⟩

/-- The handler returns exactly where no call it makes throws. -/
theorem ends_handler {mapping : PublicJointMapping} (henabled : mapping.enabled = true)
    (calls : TaskCalls β owner) (error : String) :
    Ends owner (handler B mapping calls error) (HandlerReturns mapping calls) := by
  have habort : Ends owner
      (abortStatus B mapping calls .internalError error >>= fun _ => pure ())
      (AbortReturns mapping calls) :=
    ((ends_abortStatus B henabled calls .internalError error).bind fun _ => ends_pure ()).congr
      (by simp)
  refine (ends_call B calls.sessionId fun id => ends_call B (calls.cancel id) fun _ =>
    ends_call B (calls.discardTerminalEvent id) fun _ =>
      ends_test B calls.ok (ends_test B calls.isActive habort)).congr ?_
  unfold HandlerReturns
  constructor
  · rintro ⟨id, hid, ⟨⟩, hcancel, ⟨⟩, hdiscard, htests⟩
    exact ⟨id, hid, hcancel, hdiscard, htests⟩
  · rintro ⟨id, hid, hcancel, hdiscard, htests⟩
    exact ⟨id, hid, ⟨⟩, hcancel, ⟨⟩, hdiscard, htests⟩

end

/-! ## The release -/

section
variable {owner : String}

/-- The joints of the group are free of the owner in the end exactly if the work or the handler
returns; else the owner still has them all. -/
theorem moveTask_reservation {mapping : PublicJointMapping} (henabled : mapping.enabled = true)
    (calls : TaskCalls β owner) (rosNowNs : String → Int) (n : ControlNode β) :
    wp (moveTask B mapping calls rosNowNs)
      (fun _ n' => (calls.work.outcome = .ok () ∨ HandlerReturns mapping calls) ∧
        ∀ joint : String, n'.moveOwners[joint]? ≠ some owner)
      (fun _ n' => ¬ (calls.work.outcome = .ok () ∨ HandlerReturns mapping calls) ∧
        SameHold owner n n') n := by
  have hreleased : ∀ (n' : ControlNode β) (joint : String),
      (n'.releaseMove owner rosNowNs).moveOwners[joint]? ≠ some owner := by
    intro n' joint
    rw [releaseMove_owners]
    cases n'.moveOwners[joint]? with
    | none => simp
    | some holder => simp [Option.filter_some]
  have hhold := foldl_sameHold B calls.work.meanwhile n
  have hexec : (calls.work.run B).exec n =
    (calls.work.outcome, calls.work.meanwhile.foldl (OtherStep.run B) n) := rfl
  unfold moveTask
  rw [wp_bind, wp_tryCatch, wp, hexec]
  cases hwork : calls.work.outcome with
  | ok a => exact ⟨.inl rfl, hreleased _⟩
  | error e =>
    refine (ends_handler B henabled calls e _).imp (fun _ n' hreturns => ?_) fun _ n' hthrows => ?_
    · exact ⟨.inr hreturns.1, hreleased n'⟩
    · exact ⟨by simpa using hthrows.1, hhold.trans hthrows.2⟩

/-- The joints are reserved for a task that `launch_action` has started. When the task has ended
none of them is reserved for it any more, exactly if the work or the handler returns; otherwise all
of them still are. -/
theorem reservation_released (B : Platform β) {owner : String} (mapping : PublicJointMapping)
    (henabled : mapping.enabled = true) (calls : TaskCalls β owner) (rosNowNs : String → Int)
    (n n' : ControlNode β) (hmapping : n.publicMapping = true)
    (hgroups : ∀ (name : String) model, n.groups[name]? = some model → model.jointNames ≠ [])
    (permitted : Bool) (running : Nat) (groupName : String)
    (hlaunch : launchAction B n permitted running groupName owner = (.started, n')) :
    ((∀ joint : String,
        ((moveTask B mapping calls rosNowNs).exec n').2.moveOwners[joint]? ≠ some owner) ↔
      (calls.work.outcome = .ok () ∨ HandlerReturns mapping calls)) ∧
    (¬ (calls.work.outcome = .ok () ∨ HandlerReturns mapping calls) →
      ∃ model, n.groups[groupName]? = some model ∧ ∀ joint ∈ model.jointNames,
        ((moveTask B mapping calls rosNowNs).exec n').2.moveOwners[joint]? = some owner) := by
  obtain ⟨model, hmodel, howned⟩ : ∃ model, n.groups[groupName]? = some model ∧
      OwnedBy owner model n' := by
    unfold launchAction at hlaunch
    split at hlaunch
    · cases hlaunch
    · rcases reserveMove_reserved (B := B) n groupName owner hmapping with
        ⟨model, hmodel, hdone, hreserved⟩ | hsame
      · simp only [hdone, if_true, Prod.mk.injEq, true_and] at hlaunch
        subst hlaunch
        exact ⟨model, hmodel, fun joint hj => by rw [hreserved.owners, if_pos hj]⟩
      · simp [hsame] at hlaunch
  obtain ⟨joint, hjoint⟩ := List.exists_mem_of_ne_nil _ (hgroups groupName model hmodel)
  have hspec := moveTask_reservation B henabled calls rosNowNs n'
  unfold wp at hspec
  split at hspec
  · rename_i s' hexec
    rw [hexec]
    exact ⟨iff_of_true hspec.2 hspec.1, fun hnot => absurd hspec.1 hnot⟩
  · rename_i s' hexec
    rw [hexec]
    have hkept : ∀ joint ∈ model.jointNames, s'.moveOwners[joint]? = some owner :=
      fun joint hj => (hspec.2.joints joint).2 (howned joint hj)
    exact ⟨iff_of_false (fun hfree => hfree joint (hkept joint hjoint)) hspec.1,
      fun _ => ⟨model, hmodel, hkept⟩⟩

end

/-! ## Feedback that cannot be converted -/

/-- What `handle_joint_state` (`:762`) asks of a driver message before it keeps it: neither that the
mapping knows its joints, nor anything of its efforts. -/
def acceptsFeedback (message : JointState) : Bool :=
  !message.name.isEmpty && message.position.length == message.name.length &&
    message.velocity.length == message.name.length && finite message.position &&
    finite message.velocity && uniqueNonEmpty message.name

namespace Fixture

/-- The left arm under public names. -/
def publicNames : PublicJointMapping := ⟨[⟨"l1", "left_1", 1, 0⟩, ⟨"l2", "left_2", -1, 1 / 2⟩]⟩

/-- Feedback of the joints at rest. -/
def driverMessage (joints : List String) : JointState :=
  { name := joints, position := joints.map fun _ => 0, velocity := joints.map fun _ => 0 }

/-- A task whose work throws, with a handler all of whose calls return. -/
def failedTask (joints : List String) : TaskCalls FakeSdk "move:1" where
  work := { outcome := .error "planning failed" }
  sessionId := { outcome := .ok "move:1" }
  cancel _ := { outcome := .ok () }
  discardTerminalEvent _ := { outcome := .ok () }
  ok := { outcome := .ok true }
  isActive := { outcome := .ok true }
  feedbackSnapshot := { outcome := .ok (some (driverMessage joints)) }
  abort := { outcome := .ok () }

/-- The node once the left arm is reserved for the task. -/
def launched : Launch × ControlNode FakeSdk :=
  launchAction FakeSdk.platform.toPlatform servoStart.node true 0 "left" "move:1"

theorem modelOf_nonempty (name : String) (model : JointGroupModel)
    (h : modelOf[name]? = some model) : model.jointNames ≠ [] := by
  have hall : ∀ entry ∈ modelOf.toList, entry.2.jointNames ≠ [] := by decide +kernel
  exact hall (name, model) (Std.TreeMap.mem_toList_iff_getElem?_eq_some.2 h)

/-- The reservation after the task. -/
def ownersAfter (joints : List String) : StringMap String :=
  ((moveTask FakeSdk.platform.toPlatform publicNames (failedTask joints) fun _ => 1000).exec
    launched.2).2.moveOwners

end Fixture

open Fixture in
theorem reservation_released_handled :
    ((∀ joint : String, (ownersAfter leftJoints)[joint]? ≠ some "move:1") ↔
      ((failedTask leftJoints).work.outcome = .ok () ∨
        HandlerReturns publicNames (failedTask leftJoints))) ∧
    (ownersAfter leftJoints).isEmpty = true := by
  refine ⟨(reservation_released FakeSdk.platform.toPlatform publicNames rfl (failedTask leftJoints)
    (fun _ => 1000) servoStart.node launched.2 rfl modelOf_nonempty true 0 "left"
    (Prod.ext (by decide +kernel) rfl)).1, by decide +kernel⟩

open Fixture in
/-- The driver also reports a joint that the mapping does not name. Its message is kept; when the
work throws, the handler aborts the goal, `convert` throws on the message, and the arm stays
reserved for a task that has ended. -/
theorem unmapped_feedback_leaks :
    acceptsFeedback (driverMessage (leftJoints ++ ["gripper"])) = true ∧
      ¬ ∀ joint : String, (ownersAfter (leftJoints ++ ["gripper"]))[joint]? ≠ some "move:1" :=
  ⟨by decide +kernel, fun h => h "l1" (by decide +kernel)⟩

end HumanoidMotion
