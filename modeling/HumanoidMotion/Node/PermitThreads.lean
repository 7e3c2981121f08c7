import HumanoidMotion.Node.Handshake
/-
# Two threads and the permission

The control timer and the permit subscription run in different callback groups
of a multi-threaded executor. The expiry check of `control_tick` and the permit
callback meet at every load, store, exchange and increment of the three atomics
and at every locked call of the pipeline.

* `ControlAt`, `CallbackAt` — where the two threads stand: the step that is next.
* `PermitThreads`, `threadsMachine` — their interleavings, with any other calls
  of the pipeline in between.
* `callback_uninterrupted`, `check_uninterrupted` — a handler that runs alone
  does what `receivePermit` and `expirePermit` do.
* `undisturbed` — no expiry is under way where a handler would overtake it.
* `permission_agrees` — then flag and pipeline agree between the handlers.
* `expiry_straddles_rearm` — and where an expiry straddles a re-arm they do not.
-/

namespace HumanoidMotion

open ControlNode

variable {β : Type} {B : Platform β} {lib : MathLib}

/-- The control thread in `control_tick` (`:1605`). -/
inductive ControlAt where
  | idle
  /-- The permit was found stale; `permit_enabled_.exchange(false)` is next. -/
  | exchanging
  /-- The flag was set; `++permit_generation_` is next. -/
  | counting
  /-- `setOutputPermit(false, generation)` is next. -/
  | closing (generation : Nat)
deriving DecidableEq, Repr

/-- The callback thread; each constructor names the step that is next. -/
inductive CallbackAt where
  | idle
  -- the legacy permit (`:440`-`:452`)
  | testing (permit : LegacyPermit)
  | disarming (permit : LegacyPermit)
  | counting (permit : LegacyPermit)
  | closing (permit : LegacyPermit) (generation : Nat)
  | stamping (permit : LegacyPermit) (rearm : Bool)
  | loading
  | opening (generation : Nat)
  | enabling (rearm : Bool)
  -- the handshake message (`:1102`-`:1130`)
  | revoking (permit : OwnershipPermit)
  | raising (permit : OwnershipPermit)
  | renewing (permit : OwnershipPermit) (changed : Bool)
  | reading (permit : OwnershipPermit)
  | shutting (permit : OwnershipPermit) (generation : Nat)
  | rereading (permit : OwnershipPermit)
  | reopening (permit : OwnershipPermit) (generation : Nat)
  | granting (permit : OwnershipPermit)
  | answering (permit : OwnershipPermit) (changed : Bool)
deriving DecidableEq, Repr

structure PermitThreads (β : Type) where
  node : ControlNode β
  control : ControlAt := .idle
  callback : CallbackAt := .idle

inductive ThreadEvent where
  /-- A message reaches an idle callback thread. -/
  | receive (message : Header) (nowNs : Int)
  /-- The callback thread takes its next step; a step that stamps reads the steady clock. -/
  | callback (steadyNs : Int)
  /-- An idle control thread loads `permit_received_`. -/
  | check (steadyNs : Int)
  /-- The control thread takes its next step. -/
  | control
  | call (op : PipelineCall)

section
variable (B : Platform β) (lib : MathLib)

/-- The checks of a message, up to the first step on an atomic. -/
def beginCallback (n : ControlNode β) (message : Header) (nowNs : Int) :
    CallbackAt × ControlNode β :=
  if isOwnership message then
    match n.ownershipPermit message nowNs with
    | none => (.idle, n)
    | some permit => (if n.ownershipChanges permit then .revoking permit else .renewing permit false,
        { n with permitSourceStamp := permit.stamp })
  else match n.legacyPermit message nowNs with
    | none => (.idle, n)
    -- `permit_epoch_ != frame_id || !permit_enabled_.load()`: another epoch re-arms without a load
    | some permit => (if n.permitEpoch != permit.epoch then .disarming permit else .testing permit,
        { n with permitSourceStamp := permit.stamp })

def callbackStep (n : ControlNode β) (steadyNs : Int) : CallbackAt → CallbackAt × ControlNode β
  | .idle => (.idle, n)
  | .testing permit => (if n.permitEnabled then .stamping permit false else .disarming permit, n)
  | .disarming permit => (.counting permit, { n with permitEnabled := false })
  | .counting permit =>
    (.closing permit (n.permitGeneration + 1), { n with permitGeneration := n.permitGeneration + 1 })
  | .closing permit generation => (.stamping permit true,
      { n.setOutputPermit B false generation with
        permitEpoch := permit.epoch, permitCutoffNs := permit.stamp })
  | .stamping permit rearm => (if rearm then .loading else .enabling false,
      { n with permitNormal := permit.normal, permitReceived := steadyNs })
  | .loading => (.opening n.permitGeneration, n)
  | .opening generation => (.enabling true, n.setOutputPermit B true generation)
  | .enabling _ => (.idle, { n with permitEnabled := true })
  | .revoking permit => (.raising permit, { n with permitEnabled := false })
  | .raising permit => (.renewing permit true,
      { n with
        permitGeneration := n.permitGeneration + 1
        ownershipKey := permit.key
        ownershipPhase := some permit.phase
        ownershipAckKey := ""
        permitCutoffNs := permit.stamp })
  | .renewing permit changed => (if changed then .reading permit else .answering permit false,
      { n with
        interventionActive := permit.phase != .off
        permitNormal := permit.source == "motion"
        permitReceived := steadyNs })
  | .reading permit => (.shutting permit n.permitGeneration, n)
  | .shutting permit generation =>
    (if permit.phase = .grant then .rereading permit else .answering permit true,
      { n.setOutputPermit B false generation with latestServos := ∅ })
  | .rereading permit => (.reopening permit n.permitGeneration, n)
  | .reopening permit generation => (.granting permit, n.setOutputPermit B true generation)
  | .granting permit => (.answering permit true, { n with permitEnabled := true })
  -- the answer loads the flag and changes nothing
  | .answering permit changed => (.idle,
      if changed then
        { n with ownershipAckKey := permit.key, ownershipAckPhase := some permit.phase }
      else n)

def controlStep (n : ControlNode β) : ControlAt → ControlAt × ControlNode β
  | .idle => (.idle, n)
  | .exchanging => (if n.permitEnabled then .counting else .idle, { n with permitEnabled := false })
  | .counting =>
    (.closing (n.permitGeneration + 1), { n with permitGeneration := n.permitGeneration + 1 })
  | .closing generation => (.idle, n.setOutputPermit B false generation)

namespace PermitThreads

/-- A message for a busy callback thread, and a check of a busy control thread, wait. -/
def step (w : PermitThreads β) : ThreadEvent → PermitThreads β
  | .receive message nowNs =>
    if w.callback = .idle then
      { w with
        callback := (beginCallback w.node message nowNs).1
        node := (beginCallback w.node message nowNs).2 }
    else w
  | .callback steadyNs =>
    { w with
      callback := (callbackStep B w.node steadyNs w.callback).1
      node := (callbackStep B w.node steadyNs w.callback).2 }
  | .check steadyNs =>
    if w.control = .idle then
      { w with control := if w.node.permitStale steadyNs then .exchanging else .idle }
    else w
  | .control =>
    { w with
      control := (controlStep B w.node w.control).1
      node := (controlStep B w.node w.control).2 }
  | .call op => { w with node := w.node.serve B lib op }

end PermitThreads

def threadsMachine : Machine (PermitThreads β) ThreadEvent Unit := ⟨fun w e => ((), w.step B lib e)⟩

end

/-! ## Handlers that run alone -/

/-- A permit handler that is not interrupted does what `receivePermit` does. -/
theorem callback_uninterrupted (n : ControlNode β) (message : Header) (nowNs steadyNs : Int) :
    (threadsMachine B lib).run { node := n }
        (.receive message nowNs :: List.replicate 9 (.callback steadyNs)) =
      { node := (n.receivePermit B message nowNs steadyNs).2 } := by
  simp only [threadsMachine, Machine.run_cons, Machine.run_nil, List.replicate, PermitThreads.step,
    if_true]
  unfold receivePermit receiveOwnershipPermit beginCallback
  cases isOwnership message with
  | true =>
    simp only [if_true]
    cases n.ownershipPermit message nowNs with
    | none => rfl
    | some permit =>
      simp only [acceptOwnership]
      cases hchanges : n.ownershipChanges permit with
      | false => rfl
      | true =>
        cases hphase : permit.phase <;>
          simp [callbackStep, hphase, beginOwnership, renewOwnership, concludeOwnership,
            ControlNode.setOutputPermit]
  | false =>
    simp only [Bool.false_eq_true, if_false]
    cases n.legacyPermit message nowNs with
    | none => rfl
    | some permit =>
      simp only [acceptLegacy, rearms]
      by_cases hepoch : n.permitEpoch = permit.epoch
      · by_cases henabled : n.permitEnabled = true
        · simp [callbackStep, hepoch, henabled, renewLegacy]
        · simp [callbackStep, hepoch, henabled, rearm, renewLegacy, ControlNode.setOutputPermit]
      · simp [callbackStep, hepoch, rearm, renewLegacy, ControlNode.setOutputPermit]

/-- An expiry check that is not interrupted does what `expirePermit` does. -/
theorem check_uninterrupted (n : ControlNode β) (steadyNs : Int) :
    (threadsMachine B lib).run { node := n } (.check steadyNs :: List.replicate 3 .control) =
      { node := n.expirePermit B steadyNs } := by
  simp only [threadsMachine, Machine.run_cons, Machine.run_nil, List.replicate, PermitThreads.step,
    if_true, expirePermit]
  cases n.permitStale steadyNs with
  | false => rfl
  | true =>
    by_cases henabled : n.permitEnabled = true
    · simp [controlStep, henabled, ControlNode.setOutputPermit]
    · have hsame : { n with permitEnabled := false } = n := by
        rw [← Bool.eq_false_iff.2 henabled]
      simp [controlStep, henabled, hsame]

/-! ## What the threads keep -/

/-- The control thread has cleared the flag and owes the pipeline the rest. -/
def ControlAt.owing : ControlAt → Bool
  | .counting | .closing _ => true
  | _ => false

namespace CallbackAt

/-- A renewal found the flag set and is going to set it. -/
def renews : CallbackAt → Bool
  | .stamping _ false | .enabling false => true
  | _ => false

/-- The flag was cleared by the handler and is going to be set by it, or the key was revoked. -/
def rearms : CallbackAt → Bool
  | .counting _ | .closing _ _ | .stamping _ true | .loading | .opening _ | .enabling true
  | .raising _ | .renewing _ true | .reading _ | .shutting _ _ | .rereading _ | .reopening _ _
  | .granting _ => true
  | _ => false

/-- The generation the pipeline is going to be opened for. -/
def loaded : CallbackAt → Option Nat
  | .opening generation | .reopening _ generation => some generation
  | _ => none

/-- The pipeline was opened and the flag is set next. -/
def opened : CallbackAt → Bool
  | .enabling true | .granting _ => true
  | _ => false

end CallbackAt

/-- What the callback thread relies on where it stands. -/
structure CallbackOk (n : ControlNode β) (control : ControlAt) (callback : CallbackAt) : Prop where
  renewal : callback.renews = true → n.permitEnabled = true
  closed : callback.rearms = true → n.permitEnabled = false
  current : ∀ generation, callback.loaded = some generation →
    generation = n.permitGeneration ∧ control ≠ .counting
  opened : callback.opened = true →
    control.owing = false ∧ n.pipeline.gate = (true, n.permitGeneration)

/-- Where the flag is set the pipeline is open for the generation, and no expiry is under way. -/
structure Synchronised (w : PermitThreads β) : Prop where
  sound : Sound w.node.pipeline
  agrees : w.node.permitEnabled = true →
    w.control.owing = false ∧ w.node.pipeline.gate = (true, w.node.permitGeneration)
  callback : CallbackOk w.node w.control w.callback

/-- The step does not take an expiry and a permit handler past each other: the flag is not exchanged
while a renewal is about to set it, and a handler that opens the pipeline finds no expiry between
its exchange and its last step. -/
def undisturbed (w : PermitThreads β) : ThreadEvent → Bool
  | .control => !(w.control == .exchanging && w.node.permitEnabled && w.callback.renews)
  | .callback _ =>
    match w.callback with
    | .loading | .rereading _ => w.control != .counting
    | .opening _ | .reopening _ _ => !w.control.owing
    | _ => true
  | _ => true

/-- Where nothing is relied on, nothing can go wrong. -/
theorem CallbackOk.free {n : ControlNode β} {control : ControlAt} {callback : CallbackAt}
    (hrenews : callback.renews = false) (hrearms : callback.rearms = false)
    (hloaded : callback.loaded = none) (hopened : callback.opened = false) :
    CallbackOk n control callback := by
  constructor
  · simp [hrenews]
  · simp [hrearms]
  · simp [hloaded]
  · simp [hopened]

/-- A handler on its way from clearing the flag to opening the pipeline. -/
theorem CallbackOk.rearming {n : ControlNode β} {control : ControlAt} {callback : CallbackAt}
    (hclosed : n.permitEnabled = false) (hrenews : callback.renews = false)
    (hloaded : callback.loaded = none) (hopened : callback.opened = false) :
    CallbackOk n control callback := by
  constructor
  · simp [hrenews]
  · exact fun _ => hclosed
  · simp [hloaded]
  · simp [hopened]

/-! ## One step -/

/-- The checks of a message decide nothing about flag, generation and pipeline. -/
theorem Synchronised.receive {w : PermitThreads β} (h : Synchronised w) (message : Header)
    (nowNs : Int) : Synchronised (w.step B lib (.receive message nowNs)) := by
  obtain ⟨hsound, hagrees, hcallback⟩ := h
  simp only [PermitThreads.step]
  split
  · unfold beginCallback
    split
    · split
      · exact ⟨hsound, hagrees, .free rfl rfl rfl rfl⟩
      · refine ⟨hsound, hagrees, ?_⟩
        simp only
        split <;> exact .free rfl rfl rfl rfl
    · split
      · exact ⟨hsound, hagrees, .free rfl rfl rfl rfl⟩
      · refine ⟨hsound, hagrees, ?_⟩
        simp only
        split <;> exact .free rfl rfl rfl rfl
  · exact ⟨hsound, hagrees, hcallback⟩

theorem Synchronised.check {w : PermitThreads β} (h : Synchronised w) (steadyNs : Int) :
    Synchronised (w.step B lib (.check steadyNs)) := by
  obtain ⟨hsound, hagrees, hcallback⟩ := h
  simp only [PermitThreads.step]
  split
  · split
    · exact ⟨hsound, fun henabled => ⟨rfl, (hagrees henabled).2⟩, hcallback.renewal, hcallback.closed,
        fun generation hloaded => ⟨(hcallback.current generation hloaded).1, by simp⟩,
        fun hopened => ⟨rfl, (hcallback.opened hopened).2⟩⟩
    · exact ⟨hsound, fun henabled => ⟨rfl, (hagrees henabled).2⟩, hcallback.renewal, hcallback.closed,
        fun generation hloaded => ⟨(hcallback.current generation hloaded).1, by simp⟩,
        fun hopened => ⟨rfl, (hcallback.opened hopened).2⟩⟩
  · exact ⟨hsound, hagrees, hcallback⟩

theorem Synchronised.call {w : PermitThreads β} (h : Synchronised w) (op : PipelineCall) :
    Synchronised (w.step B lib (.call op)) := by
  obtain ⟨hsound, hagrees, hcallback⟩ := h
  have hgate : (w.node.serve B lib op).pipeline.gate = w.node.pipeline.gate :=
    (exec_kept B lib hsound op.2).1
  refine ⟨exec_sound _ hsound op.1, fun henabled => ?_, hcallback.renewal, hcallback.closed,
    hcallback.current, fun hopened => ?_⟩
  · exact (hagrees henabled).imp_right hgate.trans
  · exact (hcallback.opened hopened).imp_right hgate.trans

/-- The control thread clears the flag before it owes anything. -/
theorem Synchronised.closed_of_owing {w : PermitThreads β} (h : Synchronised w)
    (howing : w.control.owing = true) : w.node.permitEnabled = false ∧ w.callback.opened = false := by
  constructor
  · rw [← Bool.not_eq_true]
    intro henabled
    exact absurd (howing.symm.trans (h.agrees henabled).1) (by decide)
  · rw [← Bool.not_eq_true]
    intro hopened
    exact absurd (howing.symm.trans (h.callback.opened hopened).1) (by decide)

theorem Synchronised.control {w : PermitThreads β} (h : Synchronised w)
    (hok : undisturbed w .control = true) : Synchronised (w.step B lib .control) := by
  have hclosed := h.closed_of_owing
  obtain ⟨hsound, hagrees, hcallback⟩ := h
  simp only [PermitThreads.step]
  cases hcontrol : w.control with
  | idle =>
    rw [hcontrol] at hagrees hcallback
    exact ⟨hsound, hagrees, hcallback⟩
  | exchanging =>
    simp only [controlStep]
    refine ⟨hsound, fun hfalse => (Bool.false_ne_true hfalse).elim, ?_⟩
    by_cases henabled : w.node.permitEnabled = true
    · -- a handler that has cleared the flag is not under way, nor may a renewal be
      have hrenews : w.callback.renews = false := by
        simpa [undisturbed, hcontrol, henabled] using hok
      have hrearms : w.callback.rearms = false := by
        rw [← Bool.not_eq_true]
        intro hrearms
        exact absurd (henabled.symm.trans (hcallback.closed hrearms)) (by decide)
      have hfree : w.callback.loaded = none ∧ w.callback.opened = false := by
        cases hat : w.callback <;> rw [hat] at hrearms <;>
          first | exact ⟨rfl, rfl⟩ | cases hrearms | skip
        case enabling rearm =>
          cases rearm with
          | false => exact ⟨rfl, rfl⟩
          | true => cases hrearms
      exact .free hrenews hrearms hfree.1 hfree.2
    · rw [if_neg henabled]
      refine ⟨fun hrenews => absurd (hcallback.renewal hrenews) henabled, fun _ => rfl,
        fun generation hloaded => ⟨(hcallback.current generation hloaded).1, by simp⟩,
        fun hopened => ⟨rfl, (hcallback.opened hopened).2⟩⟩
  | counting =>
    obtain ⟨hdisabled, hopened⟩ := hclosed (by rw [hcontrol]; rfl)
    simp only [controlStep]
    refine ⟨hsound, fun henabled => absurd (hdisabled.symm.trans henabled) (by decide),
      hcallback.renewal, hcallback.closed, fun generation hloaded => ?_, fun hat => ?_⟩
    · exact absurd hcontrol (hcallback.current generation hloaded).2
    · exact absurd (hopened.symm.trans hat) (by decide)
  | closing generation =>
    obtain ⟨hdisabled, hopened⟩ := hclosed (by rw [hcontrol]; rfl)
    simp only [controlStep]
    refine ⟨setOutputPermit_sound hsound _ _,
      fun henabled => absurd (hdisabled.symm.trans henabled) (by decide),
      hcallback.renewal, hcallback.closed, fun loaded hloaded => ?_, fun hat => ?_⟩
    · exact ⟨(hcallback.current loaded hloaded).1, by simp⟩
    · exact absurd (hopened.symm.trans hat) (by decide)

theorem Synchronised.proceed {w : PermitThreads β} (h : Synchronised w) (steadyNs : Int)
    (hok : undisturbed w (.callback steadyNs) = true) :
    Synchronised (w.step B lib (.callback steadyNs)) := by
  obtain ⟨hsound, hagrees, hcallback⟩ := h
  simp only [PermitThreads.step]
  simp only [undisturbed] at hok
  cases hat : w.callback with
  | idle => exact ⟨hsound, hagrees, .free rfl rfl rfl rfl⟩
  | testing permit =>
    refine ⟨hsound, hagrees, ?_⟩
    simp only [callbackStep]
    by_cases henabled : w.node.permitEnabled = true
    · rw [if_pos henabled]
      exact ⟨fun _ => henabled, by simp [CallbackAt.rearms], by simp [CallbackAt.loaded],
        by simp [CallbackAt.opened]⟩
    · rw [if_neg henabled]
      exact .free rfl rfl rfl rfl
  | disarming permit | revoking permit =>
    exact ⟨hsound, fun hfalse => (Bool.false_ne_true hfalse).elim, .rearming rfl rfl rfl rfl⟩
  | counting permit | raising permit =>
    -- the generation changes while the flag is clear
    have hclosed : w.node.permitEnabled = false := hcallback.closed (by rw [hat]; rfl)
    exact ⟨hsound, fun henabled => absurd (hclosed.symm.trans henabled) (by decide),
      .rearming hclosed rfl rfl rfl⟩
  | closing permit generation =>
    have hclosed : w.node.permitEnabled = false := hcallback.closed (by rw [hat]; rfl)
    exact ⟨setOutputPermit_sound hsound _ _,
      fun henabled => absurd (hclosed.symm.trans henabled) (by decide), .rearming hclosed rfl rfl rfl⟩
  | stamping permit rearm =>
    cases rearm with
    | false =>
      have henabled : w.node.permitEnabled = true := hcallback.renewal (by rw [hat]; rfl)
      exact ⟨hsound, hagrees, fun _ => henabled, by simp [callbackStep, CallbackAt.rearms],
        by simp [callbackStep, CallbackAt.loaded], by simp [callbackStep, CallbackAt.opened]⟩
    | true =>
      exact ⟨hsound, hagrees, .rearming (hcallback.closed (by rw [hat]; rfl)) rfl rfl rfl⟩
  | renewing permit changed =>
    cases changed with
    | false => exact ⟨hsound, hagrees, .free rfl rfl rfl rfl⟩
    | true => exact ⟨hsound, hagrees, .rearming (hcallback.closed (by rw [hat]; rfl)) rfl rfl rfl⟩
  | reading permit =>
    exact ⟨hsound, hagrees, .rearming (hcallback.closed (by rw [hat]; rfl)) rfl rfl rfl⟩
  | shutting permit generation =>
    have hclosed : w.node.permitEnabled = false := hcallback.closed (by rw [hat]; rfl)
    refine ⟨setOutputPermit_sound hsound _ _,
      fun henabled => absurd (hclosed.symm.trans henabled) (by decide), ?_⟩
    simp only [callbackStep]
    split
    · exact .rearming hclosed rfl rfl rfl
    · exact .free rfl rfl rfl rfl
  | loading | rereading permit =>
    -- the generation is loaded where no increment is due
    rw [hat] at hok
    have hclosed : w.node.permitEnabled = false := hcallback.closed (by rw [hat]; rfl)
    refine ⟨hsound, hagrees, by simp [callbackStep, CallbackAt.renews], fun _ => hclosed, ?_,
      by simp [callbackStep, CallbackAt.opened]⟩
    rintro _ ⟨⟩
    exact ⟨rfl, by simpa using hok⟩
  | opening generation | reopening permit generation =>
    rw [hat] at hok
    have hclosed : w.node.permitEnabled = false := hcallback.closed (by rw [hat]; rfl)
    obtain ⟨hcurrent, -⟩ := hcallback.current generation (by rw [hat]; rfl)
    refine ⟨setOutputPermit_sound hsound _ _,
      fun henabled => absurd (hclosed.symm.trans henabled) (by decide),
      by simp [callbackStep, CallbackAt.renews], fun _ => hclosed,
      by simp [callbackStep, CallbackAt.loaded], fun _ => ⟨by simpa using hok, ?_⟩⟩
    rw [hcurrent]
    rfl
  | enabling rearm =>
    refine ⟨hsound, fun _ => ?_, .free rfl rfl rfl rfl⟩
    cases rearm with
    | false => exact hagrees (hcallback.renewal (by rw [hat]; rfl))
    | true => exact hcallback.opened (by rw [hat]; rfl)
  | granting permit =>
    exact ⟨hsound, fun _ => hcallback.opened (by rw [hat]; rfl), .free rfl rfl rfl rfl⟩
  | answering permit changed =>
    simp only [callbackStep]
    cases changed <;> exact ⟨hsound, hagrees, .free rfl rfl rfl rfl⟩

theorem Synchronised.step {w : PermitThreads β} (h : Synchronised w) (e : ThreadEvent)
    (hok : undisturbed w e = true) : Synchronised (w.step B lib e) := by
  cases e with
  | receive message nowNs => exact h.receive message nowNs
  | callback steadyNs => exact h.proceed steadyNs hok
  | check steadyNs => exact h.check steadyNs
  | control => exact h.control hok
  | call op => exact h.call op

/-! ## Every interleaving -/

/-- Between the handlers the flag is set only where the pipeline is open for the generation. -/
def Agreed (w : PermitThreads β) : Prop :=
  w.control = .idle → w.callback = .idle → w.node.permitEnabled = true →
    w.node.pipeline.outputEnabled = true ∧
      w.node.pipeline.outputGeneration = w.node.permitGeneration

theorem Synchronised.agreed {w : PermitThreads β} (h : Synchronised w) : Agreed w :=
  fun _ _ henabled => Prod.mk.inj (h.agrees henabled).2

theorem start_synchronised (backend : β) (groups : List JointGroupModel)
    (config : CommandPipelineConfig) (instanceId : String) :
    Synchronised { node := ControlNode.start B backend groups config instanceId } where
  sound := (start_known (B := B) backend groups config instanceId).coherent.sound
  agrees hfalse := (Bool.false_ne_true hfalse).elim
  callback := .free rfl rfl rfl rfl

/-- In every interleaving of the two threads, with any messages and any other calls of the pipeline,
whose steps are undisturbed, flag and pipeline agree whenever neither thread is in its handler. -/
theorem permission_agrees (B : Platform β) (lib : MathLib) (backend : β)
    (groups : List JointGroupModel) (config : CommandPipelineConfig) (instanceId : String)
    (events : List ThreadEvent)
    (h : (threadsMachine B lib).Meets (fun w e => undisturbed w e = true)
      { node := ControlNode.start B backend groups config instanceId } events) :
    ∀ g ∈ (threadsMachine B lib).trace
        { node := ControlNode.start B backend groups config instanceId } events,
      Agreed g.before ∧ Agreed g.after := by
  intro g hg
  have hstart := start_synchronised (B := B) backend groups config instanceId
  obtain ⟨hbefore, hafter⟩ := Machine.trace_invariant (I := Synchronised)
    (fun w e hw hok => hw.step e hok) hstart h g hg
  exact ⟨hbefore.agreed, hafter.agreed⟩

namespace Fixture

def threadStart : PermitThreads FakeSdk := { node := permitStart }

/-- A legacy permit of the epoch `motion:1`, handled to its end. -/
def legacyHandled (stampNs steps : Nat) : List ThreadEvent :=
  .receive (header "motion:1" stampNs) stampNs :: List.replicate steps (.callback stampNs)

/-- A permit arms the node, expires, and the next one arms it again. -/
def rearmed : List ThreadEvent :=
  legacyHandled 1000 7 ++ [.check 400000000, .control, .control, .control] ++
    legacyHandled 400000000 8

end Fixture

open Fixture in
theorem permission_agrees_rearmed :
    ∃ g, ((threadsMachine FakeSdk.platform.toPlatform mathLib).trace threadStart rearmed)[20]? =
        some g ∧
      g.after.node.permitEnabled = true ∧ Agreed g.before ∧ Agreed g.after := by
  have hagrees := permission_agrees FakeSdk.platform.toPlatform mathLib {} allGroups {} "me" rearmed
    (by unfold Machine.Meets; decide +kernel)
  exact ⟨_, rfl, by decide +kernel, hagrees _ (List.mem_of_getElem? (i := 20) rfl)⟩

open Fixture in
/-- The expiry check clears the flag; before it counts, the next permit arms the node again; then
the check disables the pipeline. The flag stays set over a closed pipeline, and since it is set, no
later permit of this epoch opens the pipeline. -/
theorem expiry_straddles_rearm :
    ¬ Agreed ((threadsMachine FakeSdk.platform.toPlatform mathLib).run threadStart
      (legacyHandled 1000 7 ++ [.check 400000000, .control] ++ legacyHandled 400000000 8 ++
        [.control, .control])) := by
  unfold Agreed
  decide +kernel

end HumanoidMotion
