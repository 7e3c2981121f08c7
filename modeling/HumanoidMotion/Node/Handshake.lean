import HumanoidMotion.Motion.Epoch
import HumanoidMotion.Node.Permission
/-
# The ownership handshake over runs

Permits and expiries are processed one at a time, between any other calls of
the pipeline. The node remembers the last accepted handshake message; a grant
opens the gate only right after a revoke of its own key.

* `PermitEvent`, `permitMachine` — the events the permission depends on.
* `Coherent` — flag, generation and pipeline agree; phase and intervention too.
* `handshakeAt`, `legacyAt` — the permit a stage accepts.
* `Remembers` — the node knows the last accepted handshake message.
* `ownership_handshake` — the rules of the handshake, over every run.
-/

namespace HumanoidMotion

open ControlNode

variable {β : Type} {B : Platform β} {lib : MathLib}

/-- A call of the pipeline by another part of the node. -/
abbrev PipelineCall := { op : Op // op.isGate = false }

inductive PermitEvent where
  | receive (message : Header) (nowNs steadyNs : Int)
  | expire (steadyNs : Int)
  | call (op : PipelineCall)

namespace ControlNode

variable (B lib)

def serve (self : ControlNode β) (op : PipelineCall) : ControlNode β :=
  { self with pipeline := (exec B lib self.pipeline op.1).2 }

def permitStep (self : ControlNode β) : PermitEvent → Option OwnershipAck × ControlNode β
  | .receive message nowNs steadyNs => self.receivePermit B message nowNs steadyNs
  | .expire steadyNs => (none, self.expirePermit B steadyNs)
  | .call op => (none, self.serve B lib op)

/-- A node as its constructor leaves it when there is a permit topic. -/
def start (backend : β) (groups : List JointGroupModel) (config : CommandPipelineConfig)
    (instanceId : String) : ControlNode β :=
  awaitPermit B { pipeline := .create backend groups config, ownershipInstance := instanceId }

end ControlNode

def permitMachine (B : Platform β) (lib : MathLib) :
    Machine (ControlNode β) PermitEvent (Option OwnershipAck) := ⟨fun s e => s.permitStep B lib e⟩

abbrev PermitStage (β : Type) := Machine.Stage (ControlNode β) PermitEvent (Option OwnershipAck)

/-! ## Closing the gate -/

/-- Disabling output ends every session. -/
theorem setOutputPermit_false_sessions (p : CommandPipeline β) (generation : Nat) (id : String) :
    (p.setOutputPermit B false generation).sessions[id]? = none := by
  unfold CommandPipeline.setOutputPermit
  simp only [Bool.not_false, Bool.true_or, if_true]
  exact p.endAll_keys_sessions _ _ id

/-- Disabling output reports every session as canceled. -/
theorem setOutputPermit_false_reported (p : CommandPipeline β) (generation : Nat) {id : String}
    {session : Session} (hfound : p.sessions[id]? = some session) :
    { sessionId := id, state := .canceled, status := CommandPipeline.permissionRevokedStatus } ∈
      (p.setOutputPermit B false generation).pendingEvents := by
  unfold CommandPipeline.setOutputPermit
  simp only [Bool.not_false, Bool.true_or, if_true]
  refine p.mem_endAll_pending .canceled CommandPipeline.permissionRevokedStatus hfound ?_
  exact Std.TreeMap.mem_keys.2 ((p.mem_sessions_iff id).2 ⟨session, hfound⟩)

/-- The pipeline closed for a generation and opened for it again. -/
def reopened (B : Platform β) (p : CommandPipeline β) (generation : Nat) : CommandPipeline β :=
  (p.setOutputPermit B false generation).setOutputPermit B true generation

/-! ## What an accepted permit does -/

section
variable (n : ControlNode β) (permit : OwnershipPermit) (legacy : LegacyPermit) (steadyNs : Int)

theorem acceptOwnership_enabled : (n.acceptOwnership B permit steadyNs).permitEnabled =
    if n.ownershipChanges permit then permit.phase == .grant else n.permitEnabled := by
  unfold acceptOwnership
  split
  · cases hphase : permit.phase <;>
      simp [concludeOwnership, renewOwnership, beginOwnership, setOutputPermit, hphase]
  · rfl

theorem acceptOwnership_generation : (n.acceptOwnership B permit steadyNs).permitGeneration =
    if n.ownershipChanges permit then n.permitGeneration + 1 else n.permitGeneration := by
  unfold acceptOwnership
  split
  · cases hphase : permit.phase <;>
      simp [concludeOwnership, renewOwnership, beginOwnership, setOutputPermit, hphase]
  · rfl

theorem acceptOwnership_pipeline : (n.acceptOwnership B permit steadyNs).pipeline =
    if n.ownershipChanges permit then
      if permit.phase = .grant then reopened B n.pipeline (n.permitGeneration + 1)
      else n.pipeline.setOutputPermit B false (n.permitGeneration + 1)
    else n.pipeline := by
  unfold acceptOwnership
  split
  · cases hphase : permit.phase <;>
      simp [concludeOwnership, renewOwnership, beginOwnership, setOutputPermit, hphase, reopened]
  · rfl

/-- The node remembers the message. -/
theorem acceptOwnership_remembered :
    (n.acceptOwnership B permit steadyNs).ownershipKey = permit.key ∧
      (n.acceptOwnership B permit steadyNs).ownershipPhase = some permit.phase ∧
      (n.acceptOwnership B permit steadyNs).permitSourceStamp = permit.stamp ∧
      (n.acceptOwnership B permit steadyNs).interventionActive = (permit.phase != .off) := by
  unfold acceptOwnership
  split
  · cases hphase : permit.phase <;>
      simp [concludeOwnership, renewOwnership, beginOwnership, setOutputPermit, hphase]
  · rename_i hsame
    simp only [ownershipChanges, Bool.or_eq_true, bne_iff_ne, ne_eq, not_or, not_not] at hsame
    exact ⟨hsame.1.symm, hsame.2.symm, rfl, rfl⟩

theorem acceptLegacy_enabled : (n.acceptLegacy B legacy steadyNs).permitEnabled = true := by
  unfold acceptLegacy
  split <;> rfl

theorem acceptLegacy_generation : (n.acceptLegacy B legacy steadyNs).permitGeneration =
    if n.rearms legacy then n.permitGeneration + 1 else n.permitGeneration := by
  unfold acceptLegacy
  split <;> rfl

theorem acceptLegacy_pipeline : (n.acceptLegacy B legacy steadyNs).pipeline =
    if n.rearms legacy then reopened B n.pipeline (n.permitGeneration + 1) else n.pipeline := by
  unfold acceptLegacy
  split <;> rfl

/-- A legacy permit leaves the handshake alone. -/
theorem acceptLegacy_remembered :
    (n.acceptLegacy B legacy steadyNs).ownershipKey = n.ownershipKey ∧
      (n.acceptLegacy B legacy steadyNs).ownershipPhase = n.ownershipPhase ∧
      (n.acceptLegacy B legacy steadyNs).permitSourceStamp = legacy.stamp ∧
      (n.acceptLegacy B legacy steadyNs).interventionActive = n.interventionActive := by
  unfold acceptLegacy
  split <;> exact ⟨rfl, rfl, rfl, rfl⟩

end

/-! ## What the checks say -/

/-- A handshake message that passes is fresh, and a grant is for the key the node remembers. -/
structure Accepted (n : ControlNode β) (message : Header) (nowNs : Int) (permit : OwnershipPermit) :
    Prop where
  stamp : permit.stamp = sourceStampNs message.stamp
  newer : n.permitSourceStamp < permit.stamp
  fresh : outOfDate (nowNs - permit.stamp) = false
  named : permit.key ≠ ""
  granted : permit.phase = .grant → permit.key = n.ownershipKey ∧ n.ownershipPhase ≠ some .off

theorem ownershipPermit_some {n : ControlNode β} {message : Header} {nowNs : Int}
    {permit : OwnershipPermit} (h : n.ownershipPermit message nowNs = some permit) :
    Accepted n message nowNs permit := by
  unfold ownershipPermit at h
  simp only at h
  split at h
  · rename_i key phase instanceId rest hfields
    split at h
    · cases h
    · rename_i hfresh
      simp only [Bool.or_eq_true, Bool.not_eq_true', not_or, Bool.not_eq_false, bne_iff_ne,
        ne_eq, not_not] at hfresh
      simp only [freshStamp, Bool.and_eq_true, decide_eq_true_eq, Bool.not_eq_true'] at hfresh
      split at h
      · rename_i parsed kind a b c source d hphase hparts
        split at h
        · rename_i hok
          simp only [Bool.and_eq_true] at hok
          obtain rfl := Option.some.inj h
          refine ⟨rfl, hfresh.2.1, hfresh.2.2, ?_, fun hgrant => ?_⟩
          · rintro (rfl : key = "")
            simp [keyParts, getlines, splitFields] at hparts
          · have hmay := hok.2
            simp only at hgrant
            simpa [mayGrant, hgrant] using hmay
        · cases h
      · cases h
  · cases h

theorem legacyPermit_some {n : ControlNode β} {message : Header} {nowNs : Int}
    {permit : LegacyPermit} (h : n.legacyPermit message nowNs = some permit) :
    permit.stamp = sourceStampNs message.stamp ∧ n.permitSourceStamp < permit.stamp ∧
      n.interventionActive = false := by
  unfold legacyPermit at h
  simp only at h
  split at h
  · cases h
  · rename_i hok
    simp only [Bool.or_eq_true, not_or, Bool.not_eq_true, Bool.not_eq_false', freshStamp,
      Bool.and_eq_true, decide_eq_true_eq] at hok
    obtain rfl := Option.some.inj h
    exact ⟨rfl, hok.1.1.2.1, hok.1.1.1⟩

/-- A message that is not newer than every accepted one changes nothing. -/
theorem receivePermit_old {n : ControlNode β} {message : Header} {nowNs steadyNs : Int}
    (h : sourceStampNs message.stamp ≤ n.permitSourceStamp) :
    n.receivePermit B message nowNs steadyNs = (none, n) := by
  have hhandshake : n.ownershipPermit message nowNs = none := by
    rw [Option.eq_none_iff_forall_ne_some]
    intro permit hpermit
    obtain ⟨hstamp, hnewer, -⟩ := ownershipPermit_some hpermit
    omega
  have hlegacy : n.legacyPermit message nowNs = none := by
    rw [Option.eq_none_iff_forall_ne_some]
    intro permit hpermit
    obtain ⟨hstamp, hnewer, -⟩ := legacyPermit_some hpermit
    omega
  unfold receivePermit receiveOwnershipPermit
  rw [hhandshake, hlegacy]
  split <;> rfl

/-! ## Stages -/

/-- The handshake message a stage accepts. -/
def handshakeAt (g : PermitStage β) : Option OwnershipPermit :=
  match g.input with
  | .receive message nowNs _ =>
    if isOwnership message then g.before.ownershipPermit message nowNs else none
  | _ => none

/-- The legacy permit a stage accepts. -/
def legacyAt (g : PermitStage β) : Option LegacyPermit :=
  match g.input with
  | .receive message nowNs _ =>
    if isOwnership message then none else g.before.legacyPermit message nowNs
  | _ => none

/-- The source stamp a stage accepts, of either protocol. -/
def acceptedStamp (g : PermitStage β) : Option Int :=
  ((handshakeAt g).map (·.stamp)).or ((legacyAt g).map (·.stamp))

/-- The last handshake message that was accepted. -/
def lastHandshake (past : List (PermitStage β)) : Option OwnershipPermit :=
  (past.filterMap handshakeAt).getLast?

theorem lastHandshake_snoc (past : List (PermitStage β)) (g : PermitStage β) :
    lastHandshake (past ++ [g]) = (handshakeAt g).or (lastHandshake past) := by
  unfold lastHandshake
  rw [List.filterMap_append]
  cases h : handshakeAt g with
  | none => simp [h]
  | some permit => simp [h]

/-- What a stage can be. -/
inductive PermitEffect (B : Platform β) (lib : MathLib) (g : PermitStage β) : Prop
  | handshake (message : Header) (nowNs steadyNs : Int) (permit : OwnershipPermit)
      (hinput : g.input = .receive message nowNs steadyNs) (h : handshakeAt g = some permit)
      (hlegacy : legacyAt g = none) (haccepted : Accepted g.before message nowNs permit)
      (hafter : g.after = g.before.acceptOwnership B permit steadyNs)
  | legacy (permit : LegacyPermit) (steadyNs : Int) (h : handshakeAt g = none)
      (hlegacy : legacyAt g = some permit) (hnewer : g.before.permitSourceStamp < permit.stamp)
      (hinactive : g.before.interventionActive = false)
      (hafter : g.after = g.before.acceptLegacy B permit steadyNs)
  | expired (h : handshakeAt g = none) (hlegacy : legacyAt g = none)
      (hafter : g.after = setOutputPermit B { g.before with
        permitEnabled := false, permitGeneration := g.before.permitGeneration + 1 } false
        (g.before.permitGeneration + 1))
  | called (op : PipelineCall) (h : handshakeAt g = none) (hlegacy : legacyAt g = none)
      (hafter : g.after = g.before.serve B lib op)
  | ignored (h : handshakeAt g = none) (hlegacy : legacyAt g = none) (hafter : g.after = g.before)

variable (B lib) in
theorem permitStep_effect (n : ControlNode β) (e : PermitEvent) :
    PermitEffect B lib ⟨n, e, (n.permitStep B lib e).1, (n.permitStep B lib e).2⟩ := by
  cases e with
  | receive message nowNs steadyNs =>
    simp only [permitStep, receivePermit, receiveOwnershipPermit]
    cases hkind : isOwnership message with
    | true =>
      cases hpermit : n.ownershipPermit message nowNs with
      | none => exact .ignored (by simp [handshakeAt, hkind, hpermit]) (by simp [legacyAt, hkind]) rfl
      | some permit =>
        exact .handshake message nowNs steadyNs permit rfl (by simp [handshakeAt, hkind, hpermit])
          (by simp [legacyAt, hkind]) (ownershipPermit_some hpermit) rfl
    | false =>
      cases hpermit : n.legacyPermit message nowNs with
      | none => exact .ignored (by simp [handshakeAt, hkind]) (by simp [legacyAt, hkind, hpermit]) rfl
      | some permit =>
        obtain ⟨-, hnewer, hinactive⟩ := legacyPermit_some hpermit
        exact .legacy permit steadyNs (by simp [handshakeAt, hkind])
          (by simp [legacyAt, hkind, hpermit]) hnewer hinactive rfl
  | expire steadyNs =>
    simp only [permitStep, expirePermit]
    split
    · exact .expired rfl rfl rfl
    · exact .ignored rfl rfl rfl
  | call op => exact .called op rfl rfl rfl

/-! ## What a run keeps -/

/-- The flag and the generation of the node are those of the pipeline. -/
structure Coherent (n : ControlNode β) : Prop where
  sound : Sound n.pipeline
  gate : n.pipeline.gate = (n.permitEnabled, n.permitGeneration)

theorem setOutputPermit_sound {p : CommandPipeline β} (h : Sound p) (enabled : Bool)
    (generation : Nat) : Sound (p.setOutputPermit B enabled generation) := by
  have helems := setOutputPermit_elems (B := B) p enabled generation
  exact helems.sound h

theorem reopened_sound {p : CommandPipeline β} (h : Sound p) (generation : Nat) :
    Sound (reopened B p generation) := setOutputPermit_sound (setOutputPermit_sound h _ _) _ _

theorem PermitEffect.coherent {g : PermitStage β} (he : PermitEffect B lib g)
    (h : Coherent g.before) : Coherent g.after := by
  obtain ⟨hsound, hgate⟩ := h
  cases he with
  | handshake message nowNs steadyNs permit _ _ _ _ hafter =>
    rw [hafter]
    constructor
    · rw [acceptOwnership_pipeline]
      split
      · split
        · exact reopened_sound hsound _
        · exact setOutputPermit_sound hsound _ _
      · exact hsound
    · rw [acceptOwnership_pipeline, acceptOwnership_enabled, acceptOwnership_generation]
      split
      · split
        · rename_i hgrant
          simp [hgrant, CommandPipeline.gate, reopened, CommandPipeline.setOutputPermit]
        · rename_i hother
          simp [hother, CommandPipeline.gate, CommandPipeline.setOutputPermit]
      · exact hgate
  | legacy permit steadyNs _ _ _ _ hafter =>
    rw [hafter]
    constructor
    · rw [acceptLegacy_pipeline]
      split
      · exact reopened_sound hsound _
      · exact hsound
    · rw [acceptLegacy_pipeline, acceptLegacy_enabled, acceptLegacy_generation]
      split
      · rfl
      · rename_i hkept
        simp only [rearms, Bool.or_eq_true, Bool.not_eq_true', not_or, Bool.not_eq_false] at hkept
        rw [hgate, hkept.2]
  | expired _ _ hafter =>
    rw [hafter]
    exact ⟨setOutputPermit_sound hsound _ _, rfl⟩
  | called op _ _ hafter =>
    rw [hafter]
    exact ⟨exec_sound _ hsound op.1, (exec_kept B lib hsound op.2).1.trans hgate⟩
  | ignored _ _ hafter =>
    rw [hafter]
    exact ⟨hsound, hgate⟩

/-- What the node knows about the permits it has accepted. -/
structure Remembers (past : List (PermitStage β)) (n : ControlNode β) : Prop where
  phase : n.ownershipPhase = (lastHandshake past).map (·.phase)
  key : n.ownershipKey = ((lastHandshake past).map (·.key)).getD ""
  active : n.interventionActive = (lastHandshake past).any (·.phase != .off)
  stamps : ∀ t ∈ past.filterMap acceptedStamp, t ≤ n.permitSourceStamp
  increasing : (past.filterMap acceptedStamp).Pairwise (· < ·)

/-- A stage that accepts nothing leaves what is known as it is. -/
theorem Remembers.skip {past : List (PermitStage β)} {g : PermitStage β}
    (h : Remembers past g.before) (hhandshake : handshakeAt g = none) (hlegacy : legacyAt g = none)
    (hkey : g.after.ownershipKey = g.before.ownershipKey)
    (hphase : g.after.ownershipPhase = g.before.ownershipPhase)
    (hactive : g.after.interventionActive = g.before.interventionActive)
    (hstamp : g.after.permitSourceStamp = g.before.permitSourceStamp) :
    Remembers (past ++ [g]) g.after := by
  have hlast : lastHandshake (past ++ [g]) = lastHandshake past := by
    rw [lastHandshake_snoc, hhandshake, Option.none_or]
  have hstamps : (past ++ [g]).filterMap acceptedStamp = past.filterMap acceptedStamp := by
    simp [List.filterMap_append, acceptedStamp, hhandshake, hlegacy]
  constructor
  · rw [hlast, hphase, h.phase]
  · rw [hlast, hkey, h.key]
  · rw [hlast, hactive, h.active]
  · rw [hstamps, hstamp]
    exact h.stamps
  · rw [hstamps]
    exact h.increasing

/-- An accepted stamp is later than every one before it. -/
theorem Remembers.later {past : List (PermitStage β)} {g : PermitStage β} {stamp : Int}
    (h : Remembers past g.before) (hstamp : acceptedStamp g = some stamp)
    (hnewer : g.before.permitSourceStamp < stamp) :
    (∀ t ∈ (past ++ [g]).filterMap acceptedStamp, t ≤ stamp) ∧
      ((past ++ [g]).filterMap acceptedStamp).Pairwise (· < ·) := by
  have hsplit : (past ++ [g]).filterMap acceptedStamp = past.filterMap acceptedStamp ++ [stamp] := by
    simp [List.filterMap_append, hstamp]
  rw [hsplit]
  constructor
  · intro t ht
    rcases List.mem_append.1 ht with ht | ht
    · have := h.stamps t ht
      omega
    · rw [List.mem_singleton.1 ht]
  · refine List.pairwise_append.2 ⟨h.increasing, List.pairwise_singleton _ _, fun t ht u hu => ?_⟩
    rw [List.mem_singleton.1 hu]
    have := h.stamps t ht
    omega

theorem PermitEffect.remembers {past : List (PermitStage β)} {g : PermitStage β}
    (he : PermitEffect B lib g) (h : Remembers past g.before) : Remembers (past ++ [g]) g.after := by
  cases he with
  | handshake message nowNs steadyNs permit _ hpermit hlegacy haccepted hafter =>
    have hlast : lastHandshake (past ++ [g]) = some permit := by
      rw [lastHandshake_snoc, hpermit, Option.some_or]
    have hstamp : acceptedStamp g = some permit.stamp := by simp [acceptedStamp, hpermit]
    obtain ⟨hstamps, hincreasing⟩ := h.later hstamp haccepted.newer
    obtain ⟨hkey, hphase, hsource, hactive⟩ :=
      acceptOwnership_remembered (B := B) g.before permit steadyNs
    rw [hafter]
    refine ⟨?_, ?_, ?_, by rw [hsource]; exact hstamps, hincreasing⟩
    · rw [hlast, hphase, Option.map_some]
    · rw [hlast, hkey, Option.map_some, Option.getD_some]
    · rw [hlast, hactive, Option.any_some]
  | legacy permit steadyNs hnone hpermit hnewer _ hafter =>
    have hlast : lastHandshake (past ++ [g]) = lastHandshake past := by
      rw [lastHandshake_snoc, hnone, Option.none_or]
    have hstamp : acceptedStamp g = some permit.stamp := by simp [acceptedStamp, hnone, hpermit]
    obtain ⟨hstamps, hincreasing⟩ := h.later hstamp hnewer
    obtain ⟨hkey, hphase, hsource, hactive⟩ :=
      acceptLegacy_remembered (B := B) g.before permit steadyNs
    rw [hafter]
    refine ⟨?_, ?_, ?_, by rw [hsource]; exact hstamps, hincreasing⟩
    · rw [hlast, hphase, h.phase]
    · rw [hlast, hkey, h.key]
    · rw [hlast, hactive, h.active]
  | expired hhandshake hlegacy hafter =>
    exact h.skip hhandshake hlegacy (by rw [hafter]; rfl) (by rw [hafter]; rfl) (by rw [hafter]; rfl)
      (by rw [hafter]; rfl)
  | called op hhandshake hlegacy hafter =>
    exact h.skip hhandshake hlegacy (by rw [hafter]; rfl) (by rw [hafter]; rfl) (by rw [hafter]; rfl)
      (by rw [hafter]; rfl)
  | ignored hhandshake hlegacy hafter =>
    exact h.skip hhandshake hlegacy (by rw [hafter]) (by rw [hafter]) (by rw [hafter])
      (by rw [hafter])

/-- While a handshake is in force the node knows it. -/
theorem Remembers.inForce {past : List (PermitStage β)} {n : ControlNode β} (h : Remembers past n) :
    n.interventionActive = n.ownershipPhase.any (· != .off) := by
  rw [h.active, h.phase]
  cases lastHandshake past <;> rfl

/-- Where a run stands. -/
structure Known (past : List (PermitStage β)) (n : ControlNode β) : Prop where
  coherent : Coherent n
  remembers : Remembers past n

theorem start_known (backend : β) (groups : List JointGroupModel) (config : CommandPipelineConfig)
    (instanceId : String) : Known [] (ControlNode.start B backend groups config instanceId) where
  coherent := by
    have hinit : Initial (CommandPipeline.create backend groups config) := ⟨_, _, _, rfl⟩
    exact ⟨setOutputPermit_sound hinit.sound _ _, rfl⟩
  remembers := ⟨rfl, rfl, rfl, by simp, by simp⟩

theorem PermitEffect.known {past : List (PermitStage β)} {g : PermitStage β}
    (he : PermitEffect B lib g) (h : Known past g.before) : Known (past ++ [g]) g.after :=
  ⟨he.coherent h.coherent, he.remembers h.remembers⟩

/-! ## The rules -/

/-- The stage opens the gate, of the node or of the pipeline. -/
def Opens (g : PermitStage β) : Prop :=
  (g.before.permitEnabled = false ∧ g.after.permitEnabled = true) ∨
    (g.before.pipeline.outputEnabled = false ∧ g.after.pipeline.outputEnabled = true)

/-- The gate was opened for a new generation, with every session ended before it was opened. -/
structure OpenedAfresh (B : Platform β) (before after : ControlNode β) : Prop where
  generation : before.permitGeneration < after.permitGeneration
  sessions : ∀ id : String,
    (before.pipeline.setOutputPermit B false after.permitGeneration).sessions[id]? = none
  reported : ∀ (id : String) session, before.pipeline.sessions[id]? = some session →
    { sessionId := id, state := .canceled, status := CommandPipeline.permissionRevokedStatus } ∈
      (before.pipeline.setOutputPermit B false after.permitGeneration).pendingEvents
  opened : after.pipeline =
    (before.pipeline.setOutputPermit B false after.permitGeneration).setOutputPermit B true
      after.permitGeneration

theorem openedAfresh_of_reopened {before after : ControlNode β}
    (hgeneration : after.permitGeneration = before.permitGeneration + 1)
    (hpipeline : after.pipeline = reopened B before.pipeline after.permitGeneration) :
    OpenedAfresh B before after where
  generation := by omega
  sessions := setOutputPermit_false_sessions _ _
  reported _ _ hfound := setOutputPermit_false_reported _ _ hfound
  opened := hpipeline

theorem PermitEffect.opens {g : PermitStage β} (he : PermitEffect B lib g) (h : Coherent g.before)
    (hopens : Opens g) : OpenedAfresh B g.before g.after := by
  -- flag and pipeline agree on both sides, so both were closed and both are open
  have hafter := he.coherent h
  obtain ⟨henabled, -⟩ := Prod.mk.inj h.gate
  obtain ⟨henabled', -⟩ := Prod.mk.inj hafter.gate
  obtain ⟨hclosed, hopen⟩ : g.before.permitEnabled = false ∧ g.after.permitEnabled = true := by
    rcases hopens with hflag | ⟨hb, ha⟩
    · exact hflag
    · exact ⟨henabled ▸ hb, henabled' ▸ ha⟩
  cases he with
  | handshake message nowNs steadyNs permit _ _ _ _ hafter =>
    rw [hafter, acceptOwnership_enabled] at hopen
    split at hopen
    · rename_i hchanges
      have hgrant : permit.phase = .grant := by simpa using hopen
      refine openedAfresh_of_reopened ?_ ?_
      · rw [hafter, acceptOwnership_generation, if_pos hchanges]
      · rw [hafter, acceptOwnership_pipeline, acceptOwnership_generation, if_pos hchanges,
          if_pos hgrant, if_pos hchanges]
    · rw [hclosed] at hopen; cases hopen
  | legacy permit steadyNs _ _ _ _ hafter =>
    have hrearms : g.before.rearms permit = true := by simp [rearms, hclosed]
    refine openedAfresh_of_reopened ?_ ?_
    · rw [hafter, acceptLegacy_generation, if_pos hrearms]
    · rw [hafter, acceptLegacy_pipeline, acceptLegacy_generation, if_pos hrearms, if_pos hrearms]
  | expired _ _ hafter => rw [hafter] at hopen; cases hopen
  | called op _ _ hafter =>
    rw [hafter, show (g.before.serve B lib op).permitEnabled = g.before.permitEnabled from rfl,
      hclosed] at hopen
    cases hopen
  | ignored _ _ hafter => rw [hafter, hclosed] at hopen; cases hopen

/-- The stage accepts a fresh grant for the key of the last accepted handshake message, which was a
revoke. -/
structure GrantsAfterRevoke (past : List (PermitStage β)) (g : PermitStage β) : Prop where
  granted : ∃ message nowNs steadyNs permit last,
    g.input = .receive message nowNs steadyNs ∧ handshakeAt g = some permit ∧
      Accepted g.before message nowNs permit ∧ permit.phase = .grant ∧
      permit.key = g.after.ownershipKey ∧
      lastHandshake past = some last ∧ last.phase = .revoke ∧ last.key = permit.key

/-- A handshake in force is opened by a grant right after a revoke only. -/
theorem PermitEffect.grants {past : List (PermitStage β)} {g : PermitStage β}
    (he : PermitEffect B lib g) (h : Remembers past g.before)
    (hclosed : g.before.permitEnabled = false) (hopen : g.after.permitEnabled = true)
    (hforce : g.after.interventionActive = true) : GrantsAfterRevoke past g := by
  cases he with
  | handshake message nowNs steadyNs permit hinput hpermit _ haccepted hafter =>
    rw [hafter, acceptOwnership_enabled] at hopen
    split at hopen
    · rename_i hchanges
      have hgrant : permit.phase = .grant := by simpa using hopen
      obtain ⟨hkey, hnotOff⟩ := haccepted.granted hgrant
      obtain ⟨hkept, -⟩ := acceptOwnership_remembered (B := B) g.before permit steadyNs
      have hphase : g.before.ownershipPhase ≠ some .grant := by
        simp only [ownershipChanges, Bool.or_eq_true, bne_iff_ne, ne_eq, hkey, not_true,
          false_or, hgrant] at hchanges
        exact fun heq => hchanges heq.symm
      -- a key was remembered, so there is a last message, neither a grant nor off
      cases hlast : lastHandshake past with
      | none =>
        have hnone : g.before.ownershipKey = "" := by rw [h.key, hlast]; rfl
        exact absurd (hkey.trans hnone) haccepted.named
      | some last =>
        have hlastPhase : g.before.ownershipPhase = some last.phase := by rw [h.phase, hlast]; rfl
        have hlastKey : g.before.ownershipKey = last.key := by rw [h.key, hlast]; rfl
        have hrevoke : last.phase = .revoke := by
          cases hp : last.phase with
          | revoke => rfl
          | grant => exact absurd (hlastPhase.trans (congrArg some hp)) hphase
          | off => exact absurd (hlastPhase.trans (congrArg some hp)) hnotOff
        exact ⟨message, nowNs, steadyNs, permit, last, hinput, hpermit, haccepted, hgrant,
          by rw [hafter, hkept], hlast, hrevoke, (hkey.trans hlastKey).symm⟩
    · rw [hclosed] at hopen; cases hopen
  | legacy permit steadyNs _ _ _ hinactive hafter =>
    rw [hafter, (acceptLegacy_remembered g.before permit steadyNs).2.2.2, hinactive] at hforce
    cases hforce
  | expired _ _ hafter => rw [hafter] at hopen; cases hopen
  | called op _ _ hafter =>
    rw [hafter, show (g.before.serve B lib op).permitEnabled = g.before.permitEnabled from rfl,
      hclosed] at hopen
    cases hopen
  | ignored _ _ hafter => rw [hafter, hclosed] at hopen; cases hopen

/-- A renewal of a grant for `key`: the last message is no revoke of that key, and where a handshake
is in force its output is closed. -/
structure Closed (key : String) (n : ControlNode β) : Prop where
  begun : n.ownershipPhase ≠ none
  unrevoked : n.ownershipPhase = some .revoke → n.ownershipKey ≠ key
  closed : n.interventionActive = true → n.permitEnabled = false

/-- Renewals of a grant do not open what is closed. -/
theorem PermitEffect.stays_closed {past : List (PermitStage β)} {g : PermitStage β} {key : String}
    (he : PermitEffect B lib g) (hr : Remembers past g.before) (h : Closed key g.before)
    (hrenewals : ∀ permit, handshakeAt g = some permit → permit.phase = .grant ∧ permit.key = key) :
    Closed key g.after := by
  cases he with
  | handshake message nowNs steadyNs permit _ hpermit _ haccepted hafter =>
    obtain ⟨hgrant, hkey⟩ := hrenewals permit hpermit
    obtain ⟨hknown, hnotOff⟩ := haccepted.granted hgrant
    obtain ⟨-, hphase, -, -⟩ := acceptOwnership_remembered (B := B) g.before permit steadyNs
    -- the key is remembered, so the last message is a grant for it, and this one changes nothing
    have hlast : g.before.ownershipPhase = some .grant := by
      cases hp : g.before.ownershipPhase with
      | none => exact absurd hp h.begun
      | some phase =>
        cases phase with
        | grant => rfl
        | revoke => exact absurd (hknown.symm.trans hkey) (h.unrevoked hp)
        | off => exact absurd hp hnotOff
    have hsame : ¬ g.before.ownershipChanges permit = true := by
      simp [ownershipChanges, hknown, hgrant, hlast]
    have hforce : g.before.interventionActive = true := by
      rw [hr.inForce, hlast]
      rfl
    rw [hafter]
    refine ⟨by rw [hphase]; exact Option.some_ne_none _, fun hrevoke => ?_, fun _ => ?_⟩
    · rw [hphase, hgrant] at hrevoke
      cases hrevoke
    · rw [acceptOwnership_enabled, if_neg hsame]
      exact h.closed hforce
  | legacy permit steadyNs _ _ _ hinactive hafter =>
    obtain ⟨hkey, hphase, -, hactive⟩ := acceptLegacy_remembered (B := B) g.before permit steadyNs
    rw [hafter]
    refine ⟨by rw [hphase]; exact h.begun, by rw [hphase, hkey]; exact h.unrevoked, fun hforce => ?_⟩
    rw [hactive, hinactive] at hforce
    cases hforce
  | expired _ _ hafter =>
    rw [hafter]
    exact ⟨h.begun, h.unrevoked, fun _ => rfl⟩
  | called op _ _ hafter =>
    rw [hafter]
    exact ⟨h.begun, h.unrevoked, h.closed⟩
  | ignored _ _ hafter =>
    rw [hafter]
    exact h

/-- What holds of every stage; `past` are the stages before it. -/
structure HandshakeRules (B : Platform β) (past : List (PermitStage β)) (g : PermitStage β) :
    Prop where
  /-- Under a handshake the flag is set by a fresh grant right after a revoke of the same key. -/
  granted : g.before.permitEnabled = false → g.after.permitEnabled = true →
    g.after.interventionActive = true → GrantsAfterRevoke past g
  /-- A message not newer than an accepted one changes nothing. -/
  replayed : ∀ message nowNs steadyNs, g.input = .receive message nowNs steadyNs →
    (∃ t ∈ past.filterMap acceptedStamp, sourceStampNs message.stamp ≤ t) →
    g.output = none ∧ g.after = g.before
  /-- While a handshake is in force legacy permits change nothing. -/
  legacy : ∀ last, lastHandshake past = some last → last.phase ≠ .off →
    ∀ message nowNs steadyNs, g.input = .receive message nowNs steadyNs →
      isOwnership message = false → g.output = none ∧ g.after = g.before
  opened : Opens g → OpenedAfresh B g.before g.after

variable (B lib) in
theorem handshakeRules_step (past : List (PermitStage β)) (n : ControlNode β) (e : PermitEvent)
    (h : Known past n) :
    HandshakeRules B past ⟨n, e, (n.permitStep B lib e).1, (n.permitStep B lib e).2⟩ := by
  have he := permitStep_effect B lib n e
  refine ⟨he.grants h.remembers, ?_, ?_, he.opens h.coherent⟩
  · rintro message nowNs steadyNs rfl ⟨t, ht, hold⟩
    have hstamp := h.remembers.stamps t ht
    have hnone : n.receivePermit B message nowNs steadyNs = (none, n) :=
      receivePermit_old (hold.trans hstamp)
    simp only [permitStep, hnone, and_self]
  · rintro last hlast hphase message nowNs steadyNs rfl hkind
    have hforce : n.interventionActive = true := by
      rw [h.remembers.active, hlast]
      simpa using hphase
    have hnone : n.legacyPermit message nowNs = none := by simp [legacyPermit, hforce]
    simp [permitStep, receivePermit, hkind, hnone]

/-- Between the stages `j` and `k` only renewals of the grant for `key` are accepted. -/
def OnlyRenewals (stages : List (PermitStage β)) (key : String) (j k : Nat) : Prop :=
  ∀ (l : Nat) g permit, j < l → l ≤ k → stages[l]? = some g → handshakeAt g = some permit →
    permit.phase = .grant ∧ permit.key = key

/-- A grant that has expired, or that a revoke of another key or the end of the handshake has
revoked, is not revived by its renewals. -/
def NeverRevived (stages : List (PermitStage β)) : Prop :=
  ∀ (key : String) (j k : Nat) gj gk last, j ≤ k → stages[j]? = some gj → stages[k]? = some gk →
    lastHandshake (stages.take (j + 1)) = some last → (last.phase = .revoke → last.key ≠ key) →
    gj.after.permitEnabled = false → OnlyRenewals stages key j k →
    gk.after.interventionActive = true → gk.after.permitEnabled = false

section
variable {n : ControlNode β} {events : List PermitEvent}

theorem trace_known (h : Known [] n) {k : Nat} {g : PermitStage β}
    (hk : ((permitMachine B lib).trace n events)[k]? = some g) :
    Known (((permitMachine B lib).trace n events).take k) g.before :=
  Machine.trace_history (M := permitMachine B lib)
    (fun _ s e hs => (permitStep_effect B lib s e).known hs) h hk

theorem trace_effect {k : Nat} {g : PermitStage β}
    (hk : ((permitMachine B lib).trace n events)[k]? = some g) : PermitEffect B lib g := by
  have hstep : (permitMachine B lib).step g.before g.input = (g.output, g.after) :=
    Machine.trace_step (List.mem_of_getElem? hk)
  have he := permitStep_effect B lib g.before g.input
  rw [show g.before.permitStep B lib g.input = (g.output, g.after) from hstep] at he
  exact he

theorem trace_neverRevived (h : Known [] n) :
    NeverRevived ((permitMachine B lib).trace n events) := by
  intro key j k gj gk last hjk hj hk hlast hunrevoked hclosed hrenewals
  have hfirst : Closed key gj.after := by
    have hknown : Known (((permitMachine B lib).trace n events).take (j + 1)) gj.after := by
      have := (trace_effect hj).known (trace_known h hj)
      rwa [List.take_add_one, hj]
    have hphase : gj.after.ownershipPhase = some last.phase := by
      rw [hknown.remembers.phase, hlast]; rfl
    have hkey : gj.after.ownershipKey = last.key := by rw [hknown.remembers.key, hlast]; rfl
    refine ⟨by rw [hphase]; exact Option.some_ne_none _, fun hrevoke => ?_, fun _ => hclosed⟩
    rw [hkey]
    exact hunrevoked (Option.some.inj (hphase.symm.trans hrevoke))
  have hall : ∀ k gk, j ≤ k → ((permitMachine B lib).trace n events)[k]? = some gk →
      OnlyRenewals ((permitMachine B lib).trace n events) key j k → Closed key gk.after := by
    intro k
    induction k with
    | zero =>
      intro gk hjk hk _
      obtain rfl : j = 0 := by omega
      obtain rfl : gj = gk := Option.some.inj (hj.symm.trans hk)
      exact hfirst
    | succ k ih =>
      intro gk hjk hk hrenewals
      by_cases hend : j = k + 1
      · subst hend
        obtain rfl : gj = gk := Option.some.inj (hj.symm.trans hk)
        exact hfirst
      · obtain ⟨g, hg, hbefore⟩ := Machine.trace_succ hk
        have hprev := ih g (by omega) hg fun l gl permit hl hlk => hrenewals l gl permit hl (by omega)
        refine (trace_effect hk).stays_closed (trace_known h hk).remembers (hbefore ▸ hprev) ?_
        exact fun permit => hrenewals (k + 1) gk permit (by omega) (le_refl _) hk
  exact (hall k gk hjk hk hrenewals).closed

end

/-- The ownership handshake, over every sequence of permits of both protocols, of expiries and of
other calls of the pipeline, processed one at a time. -/
theorem ownership_handshake (B : Platform β) (lib : MathLib) (backend : β)
    (groups : List JointGroupModel) (config : CommandPipelineConfig) (instanceId : String)
    (events : List PermitEvent) :
    (∀ (k : Nat) g,
      ((permitMachine B lib).trace (ControlNode.start B backend groups config instanceId)
        events)[k]? = some g →
      HandshakeRules B (((permitMachine B lib).trace
        (ControlNode.start B backend groups config instanceId) events).take k) g) ∧
    (((permitMachine B lib).trace (ControlNode.start B backend groups config instanceId)
      events).filterMap acceptedStamp).Pairwise (· < ·) ∧
    NeverRevived ((permitMachine B lib).trace
      (ControlNode.start B backend groups config instanceId) events) := by
  have hstart := start_known (B := B) backend groups config instanceId
  refine ⟨fun k g hk => ?_, ?_, trace_neverRevived hstart⟩
  · have hstep : (permitMachine B lib).step g.before g.input = (g.output, g.after) :=
      Machine.trace_step (List.mem_of_getElem? hk)
    have hrules := handshakeRules_step B lib _ g.before g.input (trace_known hstart hk)
    rw [show g.before.permitStep B lib g.input = (g.output, g.after) from hstep] at hrules
    exact hrules
  · have hend := Machine.history_invariant (M := permitMachine B lib)
      (fun _ s e hs => (permitStep_effect B lib s e).known hs) hstart events
    exact hend.remembers.increasing

namespace Fixture

/-- A header with a stamp in nanoseconds. -/
def header (frameId : String) (stampNs : Nat) : Header := ⟨⟨0, stampNs⟩, frameId⟩

/-- A permit that arrives at once. -/
def permit (frameId : String) (stampNs : Nat) : PermitEvent :=
  .receive (header frameId stampNs) stampNs stampNs

def permitStart : ControlNode FakeSdk :=
  ControlNode.start FakeSdk.platform.toPlatform {} allGroups {} "me"

/-- Revoke and grant open the gate; the grant expires, and its renewal does not open it again. -/
example : ((permitMachine FakeSdk.platform.toPlatform mathLib).trace permitStart
    [permit "hc1:a:b:c:motion:#revoke#me#x" 1000, permit "hc1:a:b:c:motion:#grant#me#x" 2000,
      .expire 300002001, permit "hc1:a:b:c:motion:#grant#me#x" 300003000]).map
        (fun g => g.after.permitEnabled) = [false, true, false, false] := by
  decide +kernel

end Fixture

end HumanoidMotion
