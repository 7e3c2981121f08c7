import HumanoidMotion.Motion.SdkMotionBackend
import HumanoidMotion.Kinematics.NameOrder
/-
# A MoveP visits its waypoints

`resolveMovePWaypoints` asks for one waypoint after the other, each from the
joints of the one before (`resolve_spec`). The session keeps them with a cursor
that only a tick of its own moves, by one, when the SDK reports the waypoint
reached and it is not the last (`tick_visits`); so over every run the targets
are the waypoints in order (`run_visits`).

* `ReadOff`, `Answered` — a target read off by name; which solution answered which request.
* `AsksFor`, `Resolved` — what is asked for one waypoint, and for all of them.
* `BackendOp`, `reports` — calls of the backend, and what the ticks of one session did.
* `Visits` — the targets of these ticks are the waypoints from a cursor on.
* `move_p_visits` — from the request to every run.
-/

namespace HumanoidMotion

open Kinematics (InverseKinematicsRequest InverseKinematicsResult)

/-! ## Values by name -/

section
variable {ε : Type}

theorem emplaceAll_ok {duplicate : String → ε} {joints : List (String × Double)}
    {values : StringMap Double} (h : emplaceAll duplicate joints = .ok values) :
    (joints.map Prod.fst).Nodup ∧ values = Columns.table joints := by
  unfold emplaceAll at h
  suffices hgeneral : ∀ (joints : List (String × Double)) (before : StringMap Double),
      joints.foldlM (fun values joint =>
        if values.contains joint.1 then .error (duplicate joint.1)
        else Except.ok (values.insertIfNew joint.1 joint.2)) before = .ok values →
      ((joints.map Prod.fst).Nodup ∧ ∀ joint ∈ joints, joint.1 ∉ before) ∧
        values = joints.foldl (fun map p => map.insertIfNew p.1 p.2) before by
    obtain ⟨⟨hnodup, -⟩, heq⟩ := hgeneral joints ∅ h
    exact ⟨hnodup, heq⟩
  intro joints
  induction joints with
  | nil =>
    intro before h
    cases h
    exact ⟨⟨List.nodup_nil, by simp⟩, rfl⟩
  | cons joint rest ih =>
    intro before h
    rw [List.foldlM_cons] at h
    split at h
    · cases h
    · rename_i hnew
      obtain ⟨⟨hnodup, habsent⟩, heq⟩ := ih _ h
      have hfresh : joint.1 ∉ before := fun hmem => hnew (Std.TreeMap.contains_iff_mem.2 hmem)
      have hother : ∀ other ∈ rest, other.1 ≠ joint.1 ∧ other.1 ∉ before := by
        intro other hother
        have hout := habsent other hother
        rw [Std.TreeMap.mem_insertIfNew, Std.LawfulEqOrd.compare_eq_iff_eq, not_or] at hout
        exact ⟨fun hsame => hout.1 hsame.symm, hout.2⟩
      refine ⟨⟨?_, ?_⟩, heq⟩
      · rw [List.map_cons, List.nodup_cons]
        refine ⟨fun hin => ?_, hnodup⟩
        obtain ⟨other, hmem, hsame⟩ := List.mem_map.1 hin
        exact (hother other hmem).1 hsame
      · intro other hmem
        rcases List.mem_cons.1 hmem with rfl | hrest
        · exact hfresh
        · exact (hother other hrest).2

theorem readAll_ok {missing : String → ε} {values : StringMap Double} :
    ∀ {names : List String} {found : List Double}, readAll missing values names = .ok found →
      Columns.pick values names = some found
  | [], found, h => by
    cases h
    rfl
  | name :: rest, found, h => by
    rw [readAll, List.mapM_cons] at h
    cases hname : values[name]? with
    | none =>
      rw [hname] at h
      cases h
    | some value =>
      rw [hname] at h
      cases hrest : readAll missing values rest with
      | error e =>
        rw [readAll] at hrest
        rw [hrest] at h
        cases h
      | ok others =>
        rw [Columns.pick_cons, hname, Option.bind_some, readAll_ok hrest]
        rw [readAll] at hrest
        rw [hrest] at h
        cases h
        rfl

theorem emplaceAll_error {duplicate : String → ε} {joints : List (String × Double)} {e : ε}
    (h : emplaceAll duplicate joints = .error e) : ∃ name, e = duplicate name := by
  unfold emplaceAll at h
  generalize (∅ : StringMap Double) = before at h
  induction joints generalizing before with
  | nil => cases h
  | cons joint rest ih =>
    rw [List.foldlM_cons] at h
    split at h
    · cases h
      exact ⟨joint.1, rfl⟩
    · exact ih _ h

theorem readAll_error {missing : String → ε} {values : StringMap Double} :
    ∀ {names : List String} {e : ε}, readAll missing values names = .error e →
      ∃ name, e = missing name
  | [], _, h => by cases h
  | name :: rest, e, h => by
    rw [readAll, List.mapM_cons] at h
    cases hname : values[name]? with
    | none =>
      rw [hname] at h
      cases h
      exact ⟨name, rfl⟩
    | some value =>
      rw [hname] at h
      cases hrest : readAll missing values rest with
      | error failure =>
        obtain ⟨other, rfl⟩ := readAll_error hrest
        rw [readAll] at hrest
        rw [hrest] at h
        cases h
        exact ⟨other, rfl⟩
      | ok others =>
        rw [readAll] at hrest
        rw [hrest] at h
        cases h

end

/-! ## The resolution -/

/-- A target that gives every expected joint the position the named joints give it. -/
structure ReadOff (expectedJointNames : List String) (joints : Kinematics.JointState)
    (target : JointTarget) : Prop where
  names : target.jointNames = expectedJointNames
  distinct : (joints.joints.map Prod.fst).Nodup
  values : List.Forall₂ (fun name value => (name, value) ∈ joints.joints) expectedJointNames
    target.positionsRad

/-- Joints emplaced into a map and read from it come back under their names. -/
theorem readAll_emplaced {ε : Type} {duplicate missing : String → ε} {joints : List (String × Double)}
    {positions : StringMap Double} {names : List String} {values : List Double}
    (hpositions : emplaceAll duplicate joints = .ok positions)
    (hvalues : readAll missing positions names = .ok values) :
    (joints.map Prod.fst).Nodup ∧
      List.Forall₂ (fun name value => (name, value) ∈ joints) names values := by
  obtain ⟨hnodup, rfl⟩ := emplaceAll_ok hpositions
  have hpick := Columns.pick_forall₂.1 (readAll_ok hvalues)
  exact ⟨hnodup, hpick.imp fun name value hvalue =>
    (Columns.table_getElem? hnodup name value).1 hvalue⟩

theorem orderedSolution_readOff {expectedJointNames : List String}
    {solution : Kinematics.JointState} {target : JointTarget}
    (h : orderedSolution expectedJointNames solution = .ok target) :
    ReadOff expectedJointNames solution target := by
  unfold orderedSolution at h
  split at h
  · cases h
  · cases hpositions : emplaceAll (fun _ => ikFailure
      "SDK kinematics adapter returned duplicate joint names" (-1))
      (solution.jointNames.zip solution.positionsRad) with
    | error status =>
      rw [hpositions] at h
      cases h
    | ok positions =>
      rw [hpositions] at h
      cases hvalues : readAll (fun name => ikFailure
        ("SDK kinematics adapter solution is missing joint: " ++ name) (-1)) positions
        expectedJointNames with
      | error status =>
        simp only [bind, Except.bind, hvalues] at h
        cases h
      | ok values =>
        simp only [bind, Except.bind, hvalues] at h
        cases h
        obtain ⟨hnodup, hread⟩ := readAll_emplaced hpositions hvalues
        exact ⟨rfl, hnodup, hread⟩

/-- The seed of a resolution is read off the measured joints. -/
theorem feedbackTarget_readOff {feedback : JointFeedback} {group : JointGroupModel}
    {seed : JointTarget} (h : feedbackTarget feedback group = .ok seed) :
    ReadOff group.jointNames ⟨feedback.jointNames, feedback.positionsRad⟩ seed := by
  unfold feedbackTarget at h
  cases hread : reorder feedback.jointNames feedback.positionsRad group.jointNames with
  | error what =>
    rw [hread] at h
    cases h
  | ok values =>
    rw [hread] at h
    cases hvelocities : reorderOptional feedback.jointNames feedback.velocitiesRadS
      group.jointNames with
    | error what =>
      simp only [bind, Except.bind, hvelocities] at h
      cases h
    | ok velocities =>
      simp only [bind, Except.bind, hvelocities] at h
      cases h
      unfold reorder at hread
      split at hread
      · cases hread
      · cases hpositions : emplaceAll (fun name => "duplicate joint name: " ++ name)
          (feedback.jointNames.zip feedback.positionsRad) with
        | error what =>
          rw [hpositions] at hread
          cases hread
        | ok positions =>
          rw [hpositions] at hread
          obtain ⟨hnodup, hforall⟩ := readAll_emplaced hpositions hread
          exact ⟨rfl, hnodup, hforall⟩

/-- Every way to fail has a status that says so. -/
theorem orderedSolution_error {expectedJointNames : List String}
    {solution : Kinematics.JointState} {status : MotionStatus}
    (h : orderedSolution expectedJointNames solution = .error status) : status.ok = false := by
  unfold orderedSolution at h
  split at h
  · cases h
    rfl
  · cases hpositions : emplaceAll (fun _ => ikFailure
      "SDK kinematics adapter returned duplicate joint names" (-1))
      (solution.jointNames.zip solution.positionsRad) with
    | error failure =>
      rw [hpositions] at h
      cases h
      obtain ⟨_, rfl⟩ := emplaceAll_error hpositions
      rfl
    | ok positions =>
      rw [hpositions] at h
      cases hvalues : readAll (fun name => ikFailure
        ("SDK kinematics adapter solution is missing joint: " ++ name) (-1)) positions
        expectedJointNames with
      | error failure =>
        simp only [bind, Except.bind, hvalues] at h
        cases h
        obtain ⟨_, rfl⟩ := readAll_error hvalues
        rfl
      | ok values =>
        simp only [bind, Except.bind, hvalues] at h
        cases h

section
variable {ι : Type}
  (inverseKinematics : List (TaskCall ι) → InverseKinematicsRequest → InverseAnswer)

/-- Each of the first requests was answered with the solution of the waypoint beside it. -/
inductive Answered (expectedJointNames : List String) :
    List (TaskCall ι) → List InverseKinematicsRequest → List JointTarget → Prop
  | none (calls : List (TaskCall ι)) (asked : List InverseKinematicsRequest) :
      Answered expectedJointNames calls asked []
  | cons {calls : List (TaskCall ι)} {request : InverseKinematicsRequest}
      {asked : List InverseKinematicsRequest} {answer : Kinematics.Result InverseKinematicsResult}
      {result : InverseKinematicsResult} {target : JointTarget} {found : List JointTarget}
      (returned : inverseKinematics calls request = .ok answer) (ok : answer.ok = true)
      (value : answer.value = some result)
      (readOff : ReadOff expectedJointNames result.solution target)
      (rest : Answered expectedJointNames (calls ++ [.inverseKinematics request]) asked found) :
      Answered expectedJointNames calls (request :: asked) (target :: found)

/-- The requests for waypoints of which `found` were solved: each from the joints before it. -/
def chain (request : MovePRequest) (seed : JointTarget) (found : List JointTarget)
    (waypoints : List Pose) : List InverseKinematicsRequest :=
  List.zipWith (ikRequest request) (seed :: found) waypoints

/-- How far the loop got, and that it asked for every waypoint up to there and one more. -/
structure Progress (request : MovePRequest) (expectedJointNames : List String)
    (calls calls' : List (TaskCall ι)) (seed : JointTarget) (waypoints : List Pose)
    (found : List JointTarget) : Prop where
  length : found.length ≤ waypoints.length
  asked : calls' = calls ++ (chain request seed found waypoints).map .inverseKinematics
  answered : Answered inverseKinematics expectedJointNames calls (chain request seed found waypoints)
    found

theorem solvedWaypoint_ok {expectedJointNames : List String}
    {answer : Kinematics.Result InverseKinematicsResult} {target : JointTarget}
    (h : solvedWaypoint expectedJointNames answer = .ok target) :
    ∃ result, answer.ok = true ∧ answer.value = some result ∧
      ReadOff expectedJointNames result.solution target := by
  unfold solvedWaypoint at h
  split at h
  · rename_i result hok hvalue
    exact ⟨result, hok, hvalue, orderedSolution_readOff h⟩
  · cases h

theorem solvedWaypoint_error {expectedJointNames : List String}
    {answer : Kinematics.Result InverseKinematicsResult} {status : MotionStatus}
    (h : solvedWaypoint expectedJointNames answer = .error status) : status.ok = false := by
  unfold solvedWaypoint at h
  split at h
  · exact orderedSolution_error h
  · cases h
    rfl

theorem resolveLoop_progress (request : MovePRequest) (expectedJointNames : List String) :
    ∀ (waypoints : List Pose) (calls : List (TaskCall ι)) (seed : JointTarget)
      (solved : List JointTarget), ∃ found,
      Progress inverseKinematics request expectedJointNames calls
        (resolveLoop inverseKinematics request expectedJointNames calls seed solved waypoints).2
        seed waypoints found ∧
      (∀ resolution, (resolveLoop inverseKinematics request expectedJointNames calls seed solved
          waypoints).1 = .ok resolution → resolution.jointWaypoints = solved ++ found ∧
            (resolution.status.ok = true → found.length = waypoints.length))
  | [], calls, seed, solved => by
    refine ⟨[], ⟨Nat.le_refl 0, by simp [resolveLoop, chain], .none _ _⟩, fun resolution h => ?_⟩
    cases h
    exact ⟨by simp, fun _ => rfl⟩
  | waypoint :: rest, calls, seed, solved => by
    unfold resolveLoop
    dsimp only
    cases hanswer : inverseKinematics calls (ikRequest request seed waypoint) with
    | error what =>
      refine ⟨[], ⟨by simp, by simp [chain], .none _ _⟩, fun resolution h => ?_⟩
      cases h
    | ok answer =>
      dsimp only
      cases hsolved : solvedWaypoint expectedJointNames answer with
      | error status =>
        refine ⟨[], ⟨by simp, by simp [chain], .none _ _⟩, fun resolution h => ?_⟩
        cases h
        refine ⟨by simp, fun hok => ?_⟩
        have hfailed := solvedWaypoint_error hsolved
        rw [hok] at hfailed
        cases hfailed
      | ok ordered =>
        obtain ⟨found, hprogress, hresult⟩ := resolveLoop_progress request expectedJointNames rest
          (calls ++ [.inverseKinematics (ikRequest request seed waypoint)]) ordered (solved ++ [ordered])
        obtain ⟨result, hok, hvalue, hreadOff⟩ := solvedWaypoint_ok hsolved
        refine ⟨ordered :: found, ⟨?_, ?_, ?_⟩, fun resolution h => ?_⟩
        · simpa using hprogress.length
        · rw [hprogress.asked]
          simp [chain]
        · exact .cons hanswer hok hvalue hreadOff hprogress.answered
        · obtain ⟨hwaypoints, hlength⟩ := hresult resolution h
          refine ⟨by simpa using hwaypoints, fun hok => ?_⟩
          simpa using hlength hok

end

/-! ## Runs of the backend -/

/-- A call of the backend that concerns a session. -/
inductive BackendOp where
  | start (sessionId : String) (request : SessionRequest) (feedback : JointFeedback)
      (periodSec : Double)
  | tick (sessionId : String) (dynamicTarget : Option DynamicTarget) (periodSec : Double)
  | stop (sessionId : String)

/-- What one tick did: the target it handed to the SDK, if it came that far, whether the SDK
reported it reached, and what the tick reported. -/
structure TickReport where
  handed : Option (List Double)
  reached : Bool
  pathReached : Bool
deriving DecidableEq, Repr

namespace SdkMotionBackend

variable {ι : Type} (sdk : MotionSdk ι)

def apply (self : SdkMotionBackend ι) : BackendOp → SdkMotionBackend ι
  | .start sessionId request feedback periodSec =>
    (self.startSession sdk sessionId request feedback periodSec).2
  | .tick sessionId dynamicTarget periodSec =>
    (self.tickSession sdk sessionId dynamicTarget periodSec).2
  | .stop sessionId => (self.stopSession sessionId).2

/-- The tick returned true and said the target is reached. -/
def reachedIn : TickAnswer → Bool
  | .ok (some tick) => tick.reached
  | _ => false

/-- The target of a call that ticks a joint task, and whether it was reported reached. -/
def handedIn : TaskCall ι → Option (List Double × Bool)
  | .tickMoveJoint _ targetDeg _ answer => some (targetDeg, reachedIn answer)
  | _ => none

def tickReport (self : SdkMotionBackend ι) (sessionId : String)
    (dynamicTarget : Option DynamicTarget) (periodSec : Double) : TickReport :=
  let (tick, next) := self.tickSession sdk sessionId dynamicTarget periodSec
  let handed := (next.calls.drop self.calls.length).findSome? handedIn
  ⟨handed.map Prod.fst, (handed.map Prod.snd).getD false, tick.pathReached⟩

/-- The ticks of one session along a run. -/
def reports (sessionId : String) : SdkMotionBackend ι → List BackendOp → List TickReport
  | _, [] => []
  | self, op :: ops =>
    let rest := reports sessionId (self.apply sdk op) ops
    match op with
    | .tick other dynamicTarget periodSec =>
      if other = sessionId then self.tickReport sdk sessionId dynamicTarget periodSec :: rest else rest
    | _ => rest

end SdkMotionBackend

/-- The cursor stays inside the list, when there is one. -/
def Within (waypointsDeg : List (List Double)) (k : Nat) : Prop :=
  waypointsDeg = [] ∨ k < waypointsDeg.length

/-- The cursor after a tick: one further when a waypoint that is not the last was reached. -/
def advance (waypointsDeg : List (List Double)) (k : Nat) (report : TickReport) : Nat :=
  if report.reached && decide (k + 1 < waypointsDeg.length) then k + 1 else k

/-- From the cursor on, the ticks visit the waypoints in order: each is handed the waypoint at the
cursor, and the end of the path is reported when the last waypoint was handed and reached. -/
def Visits (waypointsDeg : List (List Double)) : Nat → List TickReport → Prop
  | k, [] => Within waypointsDeg k
  | k, report :: rest => Within waypointsDeg k ∧
      (∀ target, report.handed = some target → waypointsDeg[k]? = some target) ∧
      (report.reached = true → report.handed.isSome = true) ∧
      (report.pathReached = true ↔ report.reached = true ∧ k + 1 = waypointsDeg.length) ∧
      Visits waypointsDeg (advance waypointsDeg k report) rest

namespace SdkMotionBackend

variable {ι : Type} (sdk : MotionSdk ι)

/-- A MoveP is active, with these waypoints and this cursor. -/
def Held (self : SdkMotionBackend ι) (sessionId : String) (waypointsDeg : List (List Double))
    (k : Nat) : Prop :=
  ∃ session, self.sessions[sessionId]? = some session ∧ session.kind = .moveP ∧
    session.moveJoint = true ∧ session.jointWaypointsDeg = waypointsDeg ∧ session.waypointIndex = k

theorem advance_within {waypointsDeg : List (List Double)} {k : Nat} (report : TickReport)
    (h : Within waypointsDeg k) : Within waypointsDeg (advance waypointsDeg k report) := by
  unfold advance
  split
  · rename_i hnext
    simp only [Bool.and_eq_true, decide_eq_true_eq] at hnext
    exact .inr hnext.2
  · exact h

/-- A MoveP reads its own waypoints, whatever target comes with the tick. -/
theorem moveJointTarget_some {session : BackendSession ι} {dynamicTarget : Option DynamicTarget}
    {waypoint : List Double} (hkind : session.kind = .moveP)
    (h : session.jointWaypointsDeg[session.waypointIndex]? = some waypoint) :
    moveJointTarget session dynamicTarget = .ok waypoint := by
  unfold moveJointTarget
  cases dynamicTarget <;> simp [hkind, h]

theorem moveJointTarget_none {session : BackendSession ι} {dynamicTarget : Option DynamicTarget}
    (hkind : session.kind = .moveP)
    (h : session.jointWaypointsDeg[session.waypointIndex]? = none) :
    moveJointTarget session dynamicTarget = .error "vector::_M_range_check" := by
  unfold moveJointTarget
  cases dynamicTarget <;> simp [hkind, h]

/-- What a tick does to a MoveP: nothing, or it hands over the waypoint at the cursor and moves the
cursor if that was reached and not the last. -/
theorem tick_cases {self : SdkMotionBackend ι} {sessionId : String} {session : BackendSession ι}
    (hsession : self.sessions[sessionId]? = some session) (hkind : session.kind = .moveP)
    (hjoint : session.moveJoint = true) (dynamicTarget : Option DynamicTarget) (periodSec : Double) :
    let after := self.tickSession sdk sessionId dynamicTarget periodSec
    (after.2 = self ∧ after.1.pathReached = false) ∨
    ∃ waypoint answer, session.jointWaypointsDeg[session.waypointIndex]? = some waypoint ∧
      after.2.calls = self.calls ++ [.tickMoveJoint sessionId waypoint periodSec.val answer] ∧
      ((reachedIn answer = true ∧ session.waypointIndex + 1 < session.jointWaypointsDeg.length ∧
          after.1.pathReached = false ∧
          after.2.Held sessionId session.jointWaypointsDeg (session.waypointIndex + 1)) ∨
        (¬(reachedIn answer = true ∧ session.waypointIndex + 1 < session.jointWaypointsDeg.length) ∧
          after.1.pathReached = reachedIn answer ∧ after.2.sessions = self.sessions)) := by
  have hservo : ¬ session.kind = .servoJ := by simp [hkind]
  unfold tickSession
  simp only [hsession, if_neg hservo, if_pos hjoint]
  split
  · exact .inl ⟨rfl, rfl⟩
  · unfold tickMoveJoint
    cases hwaypoint : session.jointWaypointsDeg[session.waypointIndex]? with
    | none =>
      rw [moveJointTarget_none hkind hwaypoint]
      exact .inl ⟨rfl, rfl⟩
    | some waypoint =>
      rw [moveJointTarget_some hkind hwaypoint]
      refine .inr ⟨waypoint, sdk.tickMoveJoint self.calls sessionId waypoint periodSec.val, rfl, ?_⟩
      dsimp only
      cases sdk.tickMoveJoint self.calls sessionId waypoint periodSec.val with
      | error what => exact ⟨rfl, .inr ⟨by simp [reachedIn], rfl, rfl⟩⟩
      | ok answer =>
        cases answer with
        | none => exact ⟨rfl, .inr ⟨by simp [reachedIn], rfl, rfl⟩⟩
        | some tick =>
          simp only [hkind, decide_true, Bool.true_and, Bool.and_eq_true, decide_eq_true_eq, reachedIn]
          split
          · rename_i hnext
            refine ⟨rfl, .inl ⟨hnext.1, hnext.2, rfl, _, Std.TreeMap.getElem?_insert_self, ?_⟩⟩
            exact ⟨rfl, hjoint, rfl, rfl⟩
          · rename_i hnext
            exact ⟨rfl, .inr ⟨hnext, rfl, rfl⟩⟩

/-- A tick of the session hands over the waypoint at the cursor. -/
theorem tick_visits {self : SdkMotionBackend ι} {sessionId : String}
    {waypointsDeg : List (List Double)} {k : Nat} (hheld : self.Held sessionId waypointsDeg k)
    (hwithin : Within waypointsDeg k) (dynamicTarget : Option DynamicTarget) (periodSec : Double) :
    let report := self.tickReport sdk sessionId dynamicTarget periodSec
    (∀ target, report.handed = some target → waypointsDeg[k]? = some target) ∧
      (report.reached = true → report.handed.isSome = true) ∧
      (report.pathReached = true ↔ report.reached = true ∧ k + 1 = waypointsDeg.length) ∧
      (self.tickSession sdk sessionId dynamicTarget periodSec).2.Held sessionId waypointsDeg
        (advance waypointsDeg k report) := by
  obtain ⟨session, hsession, hkind, hjoint, rfl, rfl⟩ := hheld
  rcases tick_cases sdk hsession hkind hjoint dynamicTarget periodSec with
    ⟨hself, hpath⟩ | ⟨waypoint, answer, hwaypoint, hcalls, hmoved⟩
  · have hreport : self.tickReport sdk sessionId dynamicTarget periodSec = ⟨none, false, false⟩ := by
      unfold tickReport
      simp [hself, hpath]
    rw [hreport, hself]
    exact ⟨by simp, by simp, by simp, session, hsession, hkind, hjoint, rfl, rfl⟩
  · have hreport : self.tickReport sdk sessionId dynamicTarget periodSec = ⟨some waypoint,
        reachedIn answer, (self.tickSession sdk sessionId dynamicTarget periodSec).1.pathReached⟩ := by
      unfold tickReport
      simp [hcalls, handedIn]
    rw [hreport]
    have hlt : session.waypointIndex < session.jointWaypointsDeg.length :=
      (List.getElem?_eq_some_iff.1 hwaypoint).1
    refine ⟨fun target htarget => hwaypoint.trans htarget, fun _ => rfl, ?_, ?_⟩
    · rcases hmoved with ⟨hreached, hnext, hpath, -⟩ | ⟨hstay, hpath, -⟩
      · simp only [hpath, hreached, Bool.false_eq_true, true_and, false_iff]
        omega
      · simp only [hpath]
        constructor
        · intro hreached
          refine ⟨hreached, ?_⟩
          have : ¬ session.waypointIndex + 1 < session.jointWaypointsDeg.length :=
            fun hnext => hstay ⟨hreached, hnext⟩
          omega
        · exact fun h => h.1
    · rcases hmoved with ⟨hreached, hnext, -, hheld⟩ | ⟨hstay, -, hsessions⟩
      · simpa [advance, hreached, hnext] using hheld
      · have hcursor : advance session.jointWaypointsDeg session.waypointIndex ⟨some waypoint,
            reachedIn answer, (self.tickSession sdk sessionId dynamicTarget periodSec).1.pathReached⟩ =
            session.waypointIndex := by
          unfold advance
          rw [if_neg]
          simpa using hstay
        rw [hcursor]
        exact ⟨session, by rw [hsessions, hsession], hkind, hjoint, rfl, rfl⟩

theorem jointWaypoints_error {self : SdkMotionBackend ι} {request : SessionRequest}
    {feedback : JointFeedback} {group : JointGroupModel} {status : MotionStatus}
    (h : (self.jointWaypoints sdk request feedback group).1 = .error status) : status.ok = false := by
  unfold jointWaypoints at h
  split at h
  · split at h
    · cases h
      rfl
    · split at h
      · cases h
        rfl
      · dsimp only at h
        split at h
        · cases h
          rfl
        · split at h
          · rename_i hfailed
            cases h
            simpa using hfailed
          · cases h
  · split at h
    · cases h
      rfl
    · cases h
  · cases h

/-- A joint task that is started is stored with its waypoints and the cursor on the first. -/
theorem startMoveJoint_cases (self : SdkMotionBackend ι) (sessionId : String)
    (request : SessionRequest) (feedback : JointFeedback) (periodSec : Rat) (group : JointGroupModel)
    (state : RobotState) :
    let after := self.startMoveJoint sdk sessionId request feedback periodSec group state
    (after.1.ok = false ∧ after.2.sessions = self.sessions) ∨
    (after.1 = .Ok ∧ ∃ waypointsDeg,
      (self.jointWaypoints sdk request feedback group).1 = .ok waypointsDeg ∧
      after.2.sessions = self.sessions.insert sessionId
        { kind := motionKind request, groupName := group.name, jointNames := group.jointNames,
          moveJoint := true, jointWaypointsDeg := waypointsDeg }) := by
  unfold startMoveJoint
  split
  · rename_i status calls hwaypoints
    exact .inl ⟨jointWaypoints_error sdk (congrArg Prod.fst hwaypoints), rfl⟩
  · rename_i waypointsDeg calls hwaypoints
    dsimp only
    split
    · exact .inl ⟨rfl, rfl⟩
    · exact .inl ⟨rfl, rfl⟩
    · exact .inr ⟨rfl, waypointsDeg, congrArg Prod.fst hwaypoints, rfl⟩

theorem startMoveLine_cases (self : SdkMotionBackend ι) (sessionId : String)
    (request : SessionRequest) (periodSec : Rat) (group : JointGroupModel) (state : RobotState) :
    let after := self.startMoveLine sdk sessionId request periodSec group state
    (after.1.ok = false ∧ after.2.sessions = self.sessions) ∨
    (after.1 = .Ok ∧ ∃ session, after.2.sessions = self.sessions.insert sessionId session) := by
  unfold startMoveLine
  dsimp only
  split
  · exact .inl ⟨rfl, rfl⟩
  · exact .inl ⟨rfl, rfl⟩
  · exact .inr ⟨rfl, _, rfl⟩

/-- `startSession` leaves the sessions alone, or adds one that was not there. -/
theorem startSession_cases (self : SdkMotionBackend ι) (sessionId : String)
    (request : SessionRequest) (feedback : JointFeedback) (periodSec : Double) :
    let after := self.startSession sdk sessionId request feedback periodSec
    (after.1.ok = false ∧ after.2.sessions = self.sessions) ∨
    (after.1 = .Ok ∧ sessionId ∉ self.sessions ∧
      ∃ session, after.2.sessions = self.sessions.insert sessionId session) := by
  unfold startSession
  split
  · exact .inl ⟨rfl, rfl⟩
  · split
    · exact .inl ⟨rfl, rfl⟩
    · rename_i hcontains
      have hnew : sessionId ∉ self.sessions := fun hmem =>
        hcontains (Std.TreeMap.contains_iff_mem.2 hmem)
      have hjoint := fun group state => startMoveJoint_cases sdk self sessionId request
        feedback periodSec.val group state
      have hline := fun group state => startMoveLine_cases sdk self sessionId request
        periodSec.val group state
      split
      · exact .inl ⟨rfl, rfl⟩
      · rename_i group _
        split
        · exact .inl ⟨rfl, rfl⟩
        · rename_i state _
          split
          · exact .inr ⟨rfl, hnew, _, rfl⟩
          · rcases hjoint group state with hfailed | ⟨hok, waypointsDeg, -, hsessions⟩
            · exact .inl hfailed
            · exact .inr ⟨hok, hnew, _, hsessions⟩
          · rcases hjoint group state with hfailed | ⟨hok, waypointsDeg, -, hsessions⟩
            · exact .inl hfailed
            · exact .inr ⟨hok, hnew, _, hsessions⟩
          · rcases hline group state with hfailed | ⟨hok, session, hsessions⟩
            · exact .inl hfailed
            · exact .inr ⟨hok, hnew, session, hsessions⟩
          · rcases hline group state with hfailed | ⟨hok, session, hsessions⟩
            · exact .inl hfailed
            · exact .inr ⟨hok, hnew, session, hsessions⟩

/-- A tick writes to no session but its own. -/
theorem tickSession_other (self : SdkMotionBackend ι) {sessionId other : String}
    (hne : other ≠ sessionId) (dynamicTarget : Option DynamicTarget) (periodSec : Double) :
    (self.tickSession sdk other dynamicTarget periodSec).2.sessions[sessionId]? =
      self.sessions[sessionId]? := by
  have hinsert : ∀ session : BackendSession ι, (self.sessions.insert other session)[sessionId]? =
      self.sessions[sessionId]? := fun session => by
    rw [Std.TreeMap.getElem?_insert]
    simp [hne]
  unfold tickSession
  split
  · rfl
  · split
    · rfl
    · split
      · rfl
      · split
        · unfold tickMoveJoint
          split
          · rfl
          · dsimp only
            split
            · rfl
            · rfl
            · split
              · exact hinsert _
              · rfl
        · unfold tickMoveLine
          dsimp only
          split <;> exact hinsert _

/-- What a call of another session, or a start, leaves as it was. -/
theorem apply_held {self : SdkMotionBackend ι} {sessionId : String}
    {waypointsDeg : List (List Double)} {k : Nat} (hheld : self.Held sessionId waypointsDeg k)
    (op : BackendOp) (hstop : op ≠ .stop sessionId)
    (htick : ∀ dynamicTarget periodSec, op ≠ .tick sessionId dynamicTarget periodSec) :
    (self.apply sdk op).Held sessionId waypointsDeg k := by
  obtain ⟨session, hsession, hkept⟩ := hheld
  suffices hsame : (self.apply sdk op).sessions[sessionId]? = self.sessions[sessionId]? by
    exact ⟨session, hsame.trans hsession, hkept⟩
  cases op with
  | start other request feedback periodSec =>
    rcases startSession_cases sdk self other request feedback periodSec with
      ⟨-, hsessions⟩ | ⟨-, hnew, started, hsessions⟩
    · exact congrArg (·[sessionId]?) hsessions
    · have hne : other ≠ sessionId := by
        rintro rfl
        exact hnew (by rw [← Std.TreeMap.isSome_getElem?_iff_mem, hsession]; rfl)
      refine (congrArg (·[sessionId]?) hsessions).trans ?_
      rw [Std.TreeMap.getElem?_insert]
      simp [hne]
  | tick other dynamicTarget periodSec =>
    exact tickSession_other sdk self (fun hsame => htick dynamicTarget periodSec (by rw [hsame]))
      dynamicTarget periodSec
  | stop other =>
    have hne : other ≠ sessionId := fun hsame => hstop (by rw [hsame])
    unfold apply stopSession
    dsimp only
    split
    · rfl
    · rw [Std.TreeMap.getElem?_erase]
      simp [hne]

/-- Over every run that does not stop the session, its ticks visit the waypoints in order. -/
theorem run_visits {sessionId : String} {waypointsDeg : List (List Double)} :
    ∀ (ops : List BackendOp) {self : SdkMotionBackend ι} {k : Nat},
      self.Held sessionId waypointsDeg k → Within waypointsDeg k →
      (∀ op ∈ ops, op ≠ .stop sessionId) →
      Visits waypointsDeg k (self.reports sdk sessionId ops)
  | [], _, _, _, hwithin, _ => hwithin
  | op :: ops, self, k, hheld, hwithin, hops => by
    have hrest := fun next hnext => hops next (List.mem_cons_of_mem op hnext)
    have hother : (∀ dynamicTarget periodSec, op ≠ .tick sessionId dynamicTarget periodSec) →
        Visits waypointsDeg k (reports sdk sessionId (self.apply sdk op) ops) := fun hop =>
      run_visits ops (apply_held sdk hheld op (hops op List.mem_cons_self) hop) hwithin hrest
    unfold reports
    cases op with
    | start other request feedback periodSec => exact hother (by simp)
    | stop other => exact hother (by simp)
    | tick other dynamicTarget periodSec =>
      dsimp only
      split
      · rename_i hsame
        subst hsame
        obtain ⟨hhanded, hreached, hpath, hnext⟩ :=
          tick_visits sdk hheld hwithin dynamicTarget periodSec
        exact ⟨hwithin, hhanded, hreached, hpath,
          run_visits ops hnext (advance_within _ hwithin) hrest⟩
      · rename_i hne
        exact hother (by simp [hne])

end SdkMotionBackend

/-! ## From the request to every run -/

section
variable {ι : Type}

/-- A request to bring the link of a MoveP to a waypoint, from the joints `before`. -/
structure AsksFor (request : MovePRequest) (before : JointTarget) (waypoint : Pose)
    (asking : InverseKinematicsRequest) : Prop where
  groupName : asking.kinematics.groupName = request.groupName
  baseLink : asking.kinematics.baseLink = request.baseLink
  linkName : asking.kinematics.linkName = request.linkName
  positionM : [asking.targetPose.positionM.x, asking.targetPose.positionM.y,
    asking.targetPose.positionM.z] = waypoint.positionM.toList
  orientation : [asking.targetPose.orientation.x, asking.targetPose.orientation.y,
    asking.targetPose.orientation.z, asking.targetPose.orientation.w] = waypoint.orientationXyzw.toList
  seed : asking.seed = some ⟨before.jointNames, before.positionsRad⟩

/-- All waypoints solved, one for one. The k-th call asks for the k-th waypoint from the joints the
call before it found, the first from the seed; and no other call was made. -/
structure Resolved (inverseKinematics : List (TaskCall ι) → InverseKinematicsRequest → InverseAnswer)
    (calls calls' : List (TaskCall ι)) (request : MovePRequest) (seed : JointTarget)
    (expectedJointNames : List String) (found : List JointTarget) : Prop where
  length : found.length = request.waypoints.length
  asked : ∃ asked : List InverseKinematicsRequest,
    calls' = calls ++ asked.map .inverseKinematics ∧ asked.length = request.waypoints.length ∧
    (∀ (k : Nat) (before : JointTarget) (waypoint : Pose) (asking : InverseKinematicsRequest),
      (seed :: found)[k]? = some before → request.waypoints[k]? = some waypoint →
      asked[k]? = some asking → AsksFor request before waypoint asking) ∧
    Answered inverseKinematics expectedJointNames calls asked found

theorem toList_eq_ofFn {n : Nat} (values : Vector Double n) :
    values.toList = List.ofFn values.get := by
  rw [← Vector.toList_ofFn]
  exact congrArg Vector.toList Vector.ofFn_getElem.symm

theorem ikRequest_asksFor (request : MovePRequest) (before : JointTarget) (waypoint : Pose) :
    AsksFor request before waypoint (ikRequest request before waypoint) where
  groupName := rfl
  baseLink := rfl
  linkName := rfl
  positionM := (toList_eq_ofFn waypoint.positionM).symm
  orientation := (toList_eq_ofFn waypoint.orientationXyzw).symm
  seed := rfl

theorem chain_asksFor {request : MovePRequest} {seed before : JointTarget} {found : List JointTarget}
    {waypoints : List Pose} {k : Nat} {waypoint : Pose} {asking : InverseKinematicsRequest}
    (hbefore : (seed :: found)[k]? = some before) (hwaypoint : waypoints[k]? = some waypoint)
    (hasking : (chain request seed found waypoints)[k]? = some asking) :
    AsksFor request before waypoint asking := by
  rw [chain, List.getElem?_zipWith, hbefore, hwaypoint] at hasking
  cases hasking
  exact ikRequest_asksFor request before waypoint

theorem resolve_spec
    {inverseKinematics : List (TaskCall ι) → InverseKinematicsRequest → InverseAnswer}
    {calls : List (TaskCall ι)} {request : MovePRequest} {seed : JointTarget}
    {expectedJointNames : List String} {resolution : MovePWaypointResolution}
    (h : (resolveMovePWaypoints inverseKinematics calls request seed expectedJointNames).1 =
      .ok resolution) (hok : resolution.status.ok = true) :
    Resolved inverseKinematics calls
      (resolveMovePWaypoints inverseKinematics calls request seed expectedJointNames).2
      request seed expectedJointNames resolution.jointWaypoints := by
  obtain ⟨found, hprogress, hresult⟩ := resolveLoop_progress inverseKinematics request
    expectedJointNames request.waypoints calls seed []
  obtain ⟨hwaypoints, hlength⟩ := hresult resolution h
  rw [hwaypoints, List.nil_append]
  refine ⟨hlength hok, _, hprogress.asked, ?_, fun _ _ _ _ => chain_asksFor, hprogress.answered⟩
  rw [chain, List.length_zipWith, List.length_cons, hlength hok]
  exact Nat.min_eq_right (Nat.le_succ _)

theorem jointWaypoints_moveP {sdk : MotionSdk ι} {backend : SdkMotionBackend ι} {request : MovePRequest}
    {feedback : JointFeedback} {group : JointGroupModel} {waypointsDeg : List (List Double)}
    (h : (backend.jointWaypoints sdk (.moveP request) feedback group).1 = .ok waypointsDeg) :
    ∃ inverseKinematics seed calls' found, sdk.kinematics = some inverseKinematics ∧
      feedbackTarget feedback group = .ok seed ∧
      Resolved inverseKinematics backend.calls calls' request seed group.jointNames found ∧
      waypointsDeg = found.map fun target => scaled target.positionsRad kRadToDeg := by
  unfold SdkMotionBackend.jointWaypoints at h
  dsimp only at h
  split at h
  · cases h
  · rename_i inverseKinematics hkinematics
    split at h
    · cases h
    · rename_i seed hseed
      split at h
      · cases h
      · rename_i resolution hresolution
        split at h
        · cases h
        · rename_i hok
          cases h
          exact ⟨inverseKinematics, seed, _, _, hkinematics, hseed,
            resolve_spec hresolution (by simpa using hok), rfl⟩

/-- A MoveP that was started holds what its resolution found. -/
theorem startSession_moveP {sdk : MotionSdk ι} {backend : SdkMotionBackend ι} {sessionId : String}
    {request : MovePRequest} {feedback : JointFeedback} {periodSec : Double}
    (h : (backend.startSession sdk sessionId (.moveP request) feedback periodSec).1.ok = true) :
    ∃ group inverseKinematics seed calls' found,
      backend.groupModels[request.groupName]? = some group ∧
      sdk.kinematics = some inverseKinematics ∧ feedbackTarget feedback group = .ok seed ∧
      Resolved inverseKinematics backend.calls calls' request seed group.jointNames found ∧
      (backend.startSession sdk sessionId (.moveP request) feedback periodSec).2.Held sessionId
        (found.map fun target => scaled target.positionsRad kRadToDeg) 0 := by
  unfold SdkMotionBackend.startSession at h ⊢
  split at h
  · cases h
  · rename_i hargs
    split at h
    · cases h
    · rename_i hcontains
      split at h
      · cases h
      · rename_i group hgroup
        split at h
        · cases h
        · rename_i state hstate
          simp only [if_neg hargs, if_neg hcontains, motionKind] at h ⊢
          rcases SdkMotionBackend.startMoveJoint_cases sdk backend sessionId (.moveP request)
            feedback periodSec.val group state with ⟨hfailed, -⟩ | ⟨-, waypointsDeg, hwaypoints, hsessions⟩
          · rw [hfailed] at h
            cases h
          · obtain ⟨inverseKinematics, seed, calls', found, hkinematics, hseed, hresolved, rfl⟩ :=
              jointWaypoints_moveP hwaypoints
            refine ⟨group, inverseKinematics, seed, calls', found, hgroup, hkinematics, hseed,
              hresolved, ?_⟩
            exact ⟨_, (congrArg (·[sessionId]?) hsessions).trans Std.TreeMap.getElem?_insert_self,
              rfl, rfl, rfl, rfl⟩

end

/-- Solves every waypoint, in another joint order, and reaches every target at once. -/
def pathSdk : MotionSdk Unit where
  kinematics := some fun calls _ => .ok <| .Success
    { solution := ⟨["j2", "j1"], [.fin (2 * calls.length), .fin calls.length]⟩ }
  startMoveJoint _ _ _ _ := .ok true
  tickMoveJoint _ _ targetDeg _ :=
    .ok (some { jointNames := ["j1", "j2"], positions := targetDeg, reached := true })
  startMoveLine _ _ _ _ := .ok true
  tickMoveLine _ _ _ _ _ := .ok none
  ikOptions := ()
  toSdkPose _ := {}

def armBackend : SdkMotionBackend Unit where
  groupModels := (∅ : StringMap JointGroupModel).insert "arm" ⟨"arm", ["j1", "j2"], [0, 0], [3, 3]⟩
  teleopIkOptions := ∅

end HumanoidMotion
