import HumanoidMotion.Node.Output
/-
# Handshake messages taken over

The permit callback takes a handshake message over in one step and brings the
pipeline and the flag behind it in later ones. What the other threads may rely
on in between is told by the stages of the run.

* `raisedBy` — the step that takes a handshake message over.
* `RaisedLast`, `Stands` — the last one, the stages since, and the node that stands at it.
* `Granted` — it was a grant, and the pipeline was closed since.
* `HandshakeOk` — what the callback keeps: where the flag is set under a handshake,
  its key is granted.
-/

namespace HumanoidMotion

variable {β : Type} {B : Platform β}

/-! ## The handshake, as the stages tell it -/

/-- The handshake message that the node takes over next. -/
def CallbackAt.raises : CallbackAt → Option OwnershipPermit
  | raising permit => some permit
  | _ => none

/-- The handshake message that the step takes over. -/
def raisedBy (g : OutputStage β) : Option OwnershipPermit :=
  match g.input with
  | .callback _ => g.before.callback.raises
  | _ => none

/-- The last message that was taken over, and the stages since. -/
structure RaisedLast (stages : List (OutputStage β)) (permit : OwnershipPermit)
    (since : List (OutputStage β)) : Prop where
  split : ∃ before g, stages = before ++ g :: since ∧ raisedBy g = some permit
  unraised : ∀ g ∈ since, raisedBy g = none

/-- The node stands where the last message has put it. -/
structure Stands (n : ControlNode β) (permit : OwnershipPermit) : Prop where
  key : n.ownershipKey = permit.key
  phase : n.ownershipPhase = some permit.phase

/-- The last message was a grant, and the pipeline was closed since it was taken over. -/
def Granted (stages : List (OutputStage β)) (n : ControlNode β) : Prop :=
  ∃ permit since, RaisedLast stages permit since ∧ Stands n permit ∧ permit.phase = .grant ∧
    ∃ call ∈ pipelinePast since, ClosesEpoch call

section
variable {stages : List (OutputStage β)} {g : OutputStage β} {n n' : ControlNode β}
  {permit : OwnershipPermit} {since : List (OutputStage β)}

@[simp] theorem pipelinePast_append (past more : List (OutputStage β)) :
    pipelinePast (past ++ more) = pipelinePast past ++ pipelinePast more := by
  simp [pipelinePast]

@[simp] theorem pipelinePast_single : pipelinePast [g] = g.output.calls := by simp [pipelinePast]

theorem RaisedLast.snoc (h : RaisedLast stages permit since) (hg : raisedBy g = none) :
    RaisedLast (stages ++ [g]) permit (since ++ [g]) := by
  obtain ⟨⟨before, first, rfl, hfirst⟩, hnone⟩ := h
  refine ⟨⟨before, first, by simp, hfirst⟩, fun x hx => ?_⟩
  rcases List.mem_append.1 hx with hx | hx
  · exact hnone x hx
  · rw [List.mem_singleton.1 hx, hg]

theorem RaisedLast.first (hg : raisedBy g = some permit) : RaisedLast (stages ++ [g]) permit [] :=
  ⟨⟨stages, g, rfl, hg⟩, by simp⟩

theorem Stands.congr (h : Stands n permit) (hkey : n'.ownershipKey = n.ownershipKey)
    (hphase : n'.ownershipPhase = n.ownershipPhase) : Stands n' permit :=
  ⟨hkey.trans h.key, hphase.trans h.phase⟩

theorem Granted.snoc (h : Granted stages n) (hg : raisedBy g = none)
    (hkey : n'.ownershipKey = n.ownershipKey) (hphase : n'.ownershipPhase = n.ownershipPhase) :
    Granted (stages ++ [g]) n' := by
  obtain ⟨permit, since, hlast, hstands, hgrant, call, hcall, hcloses⟩ := h
  exact ⟨permit, since ++ [g], hlast.snoc hg, hstands.congr hkey hphase, hgrant, call,
    by rw [pipelinePast_append]; exact List.mem_append_left _ hcall, hcloses⟩

end

/-! ## What the callback keeps -/

namespace CallbackAt

/-- The stages of the legacy permit. -/
def legacy : CallbackAt → Bool
  | testing _ | disarming _ | counting _ | closing _ _ | stamping _ _ | loading | opening _
  | enabling _ => true
  | _ => false

/-- A message was taken over and is not in force yet. -/
def isRenewing : CallbackAt → Bool
  | renewing _ true => true
  | _ => false

/-- The handshake message that the node stands at. -/
def concluding : CallbackAt → Option OwnershipPermit
  | renewing permit _ | reading permit | shutting permit _ | rereading permit | reopening permit _
  | granting permit => some permit
  | _ => none

/-- The pipeline was closed for a grant and is going to be opened. -/
def reopens : CallbackAt → Bool
  | rereading _ | reopening _ _ | granting _ => true
  | _ => false

end CallbackAt

/-- `phase != "off"` of the message in force. -/
def intervening (phase : Option OwnershipPhase) : Bool := phase.any (· != .off)

structure HandshakeOk (stages : List (OutputStage β)) (n : ControlNode β) (callback : CallbackAt) :
    Prop where
  legacy : callback.legacy = true → n.interventionActive = false
  concluding : ∀ permit, callback.concluding = some permit → Stands n permit
  raised : n.ownershipPhase ≠ none → ∃ permit since, RaisedLast stages permit since ∧ Stands n permit
  intervention : callback.isRenewing = false → n.interventionActive = intervening n.ownershipPhase
  disarmed : callback.rearms = true → n.permitEnabled = false
  reopens : callback.reopens = true → Granted stages n
  armed : n.permitEnabled = true → n.interventionActive = true → Granted stages n

/-- A step that leaves handshake, flag and callback alone. -/
theorem HandshakeOk.snoc {stages : List (OutputStage β)} {g : OutputStage β} {n n' : ControlNode β}
    {callback : CallbackAt} (h : HandshakeOk stages n callback) (hg : raisedBy g = none)
    (hkey : n'.ownershipKey = n.ownershipKey) (hphase : n'.ownershipPhase = n.ownershipPhase)
    (hactive : n'.interventionActive = n.interventionActive)
    (henabled : n'.permitEnabled = true → n.permitEnabled = true) :
    HandshakeOk (stages ++ [g]) n' callback where
  legacy hat := hactive.trans (h.legacy hat)
  concluding permit hat := (h.concluding permit hat).congr hkey hphase
  raised hsome := by
    obtain ⟨permit, since, hlast, hstands⟩ := h.raised (hphase ▸ hsome)
    exact ⟨permit, _, hlast.snoc hg, hstands.congr hkey hphase⟩
  intervention hat := by rw [hactive, hphase, h.intervention hat]
  disarmed hat := by
    rw [← Bool.not_eq_true]
    intro hon
    exact absurd ((h.disarmed hat).symm.trans (henabled hon)) (by decide)
  reopens hat := (h.reopens hat).snoc hg hkey hphase
  armed hon hin := (h.armed (henabled hon) (hactive ▸ hin)).snoc hg hkey hphase

section
variable {stages : List (OutputStage β)} {g : OutputStage β} {n : ControlNode β}
  {callback next : CallbackAt}

/-- The callback goes on, and the node stays as it is. -/
theorem HandshakeOk.goto (h : HandshakeOk stages n callback)
    (hlegacy : next.legacy = true → n.interventionActive = false)
    (hconcluding : ∀ permit, next.concluding = some permit → Stands n permit)
    (hactive : next.isRenewing = false → n.interventionActive = intervening n.ownershipPhase)
    (hdisarmed : next.rearms = true → n.permitEnabled = false)
    (hreopens : next.reopens = true → Granted stages n) : HandshakeOk stages n next :=
  ⟨hlegacy, hconcluding, h.raised, hactive, hdisarmed, hreopens, h.armed⟩

/-- The checks of a message, which take nothing over. -/
theorem HandshakeOk.receive (h : HandshakeOk stages n .idle) (hg : raisedBy g = none)
    (message : Header) (nowNs : Int) :
    HandshakeOk (stages ++ [g]) (beginCallback n message nowNs).2
      (beginCallback n message nowNs).1 := by
  have hactive := h.intervention rfl
  unfold beginCallback
  split
  · split
    · exact h.snoc hg rfl rfl rfl id
    · rename_i permit hpermit
      have hsame : HandshakeOk (stages ++ [g]) { n with permitSourceStamp := permit.stamp } .idle :=
        h.snoc hg rfl rfl rfl id
      cases hchanges : n.ownershipChanges permit with
      | true =>
        exact hsame.goto (fun hat => by cases hat) (fun _ hat => by cases hat) (fun _ => hactive)
          (fun hat => by cases hat) fun hat => by cases hat
      | false =>
        obtain ⟨hkey, hphase⟩ : permit.key = n.ownershipKey ∧ some permit.phase = n.ownershipPhase := by
          simpa [ControlNode.ownershipChanges] using hchanges
        refine hsame.goto (fun hat => by cases hat) (fun renewed hat => ?_) (fun _ => hactive)
          (fun hat => by cases hat) fun hat => by cases hat
        obtain rfl := Option.some.inj hat
        exact ⟨hkey.symm, hphase.symm⟩
  · split
    · exact h.snoc hg rfl rfl rfl id
    · rename_i permit hpermit
      have hidle : n.interventionActive = false := by
        rw [← Bool.not_eq_true]
        intro hin
        simp [ControlNode.legacyPermit, hin] at hpermit
      have hsame : HandshakeOk (stages ++ [g]) { n with permitSourceStamp := permit.stamp } .idle :=
        h.snoc hg rfl rfl rfl id
      simp only
      split <;>
        exact hsame.goto (fun _ => hidle) (fun _ hat => by cases hat) (fun _ => hactive)
          (fun hat => by cases hat) fun hat => by cases hat

theorem HandshakeOk.proceed (h : HandshakeOk stages n callback) (steadyNs : Int)
    (hg : raisedBy g = callback.raises)
    (hcalls : ∀ op, callback.op = some op → ∃ call ∈ g.output.calls, call.input = op) :
    HandshakeOk (stages ++ [g]) (callbackStep B n steadyNs callback).2
      (callbackStep B n steadyNs callback).1 := by
  cases callback with
  | idle => exact h.snoc hg rfl rfl rfl id
  | testing permit =>
    have hsame : HandshakeOk (stages ++ [g]) n _ := h.snoc hg rfl rfl rfl id
    have hidle := h.legacy rfl
    simp only [callbackStep]
    split <;>
      exact hsame.goto (fun _ => hidle) (fun _ hat => by cases hat) (fun _ => h.intervention rfl)
        (fun hat => by cases hat) fun hat => by cases hat
  | disarming permit =>
    have hsame : HandshakeOk (stages ++ [g]) { n with permitEnabled := false } (.disarming permit) :=
      h.snoc hg rfl rfl rfl fun hon => by cases hon
    exact hsame.goto (fun _ => h.legacy rfl) (fun _ hat => by cases hat) (fun _ => h.intervention rfl)
      (fun _ => rfl) fun hat => by cases hat
  | counting permit =>
    have hsame : HandshakeOk (stages ++ [g])
        { n with permitGeneration := n.permitGeneration + 1 } (.counting permit) :=
      h.snoc hg rfl rfl rfl id
    exact hsame.goto (fun _ => h.legacy rfl) (fun _ hat => by cases hat) (fun _ => h.intervention rfl)
      (fun _ => h.disarmed rfl) fun hat => by cases hat
  | closing permit generation =>
    have hsame : HandshakeOk (stages ++ [g]) { n.setOutputPermit B false generation with
        permitEpoch := permit.epoch, permitCutoffNs := permit.stamp } (.closing permit generation) :=
      h.snoc hg rfl rfl rfl id
    exact hsame.goto (fun _ => h.legacy rfl) (fun _ hat => by cases hat) (fun _ => h.intervention rfl)
      (fun _ => h.disarmed rfl) fun hat => by cases hat
  | stamping permit rearm =>
    have hsame : HandshakeOk (stages ++ [g])
        { n with permitNormal := permit.normal, permitReceived := steadyNs } (.stamping permit rearm) :=
      h.snoc hg rfl rfl rfl id
    cases rearm with
    | false =>
      exact hsame.goto (fun _ => h.legacy rfl) (fun _ hat => by cases hat)
        (fun _ => h.intervention rfl) (fun hat => by cases hat) fun hat => by cases hat
    | true =>
      exact hsame.goto (fun _ => h.legacy rfl) (fun _ hat => by cases hat)
        (fun _ => h.intervention rfl) (fun _ => h.disarmed rfl) fun hat => by cases hat
  | loading =>
    have hsame : HandshakeOk (stages ++ [g]) n _ := h.snoc hg rfl rfl rfl id
    exact hsame.goto (fun _ => h.legacy rfl) (fun _ hat => by cases hat) (fun _ => h.intervention rfl)
      (fun _ => h.disarmed rfl) fun hat => by cases hat
  | opening generation =>
    have hsame : HandshakeOk (stages ++ [g]) (n.setOutputPermit B true generation)
        (.opening generation) := h.snoc hg rfl rfl rfl id
    exact hsame.goto (fun _ => h.legacy rfl) (fun _ hat => by cases hat) (fun _ => h.intervention rfl)
      (fun _ => h.disarmed rfl) fun hat => by cases hat
  | enabling rearm =>
    -- the legacy permit sets the flag where no handshake is in force
    have hidle := h.legacy rfl
    refine ⟨fun hat => (by cases hat), fun _ hat => (by cases hat), fun hsome => ?_,
      fun _ => h.intervention rfl, fun hat => (by cases hat), fun hat => (by cases hat),
      fun _ hin => absurd (hidle.symm.trans hin) (by decide)⟩
    obtain ⟨permit, since, hlast, hstands⟩ := h.raised hsome
    exact ⟨permit, _, hlast.snoc hg, hstands.congr rfl rfl⟩
  | revoking permit =>
    have hsame : HandshakeOk (stages ++ [g]) { n with permitEnabled := false } (.revoking permit) :=
      h.snoc hg rfl rfl rfl fun hon => by cases hon
    exact hsame.goto (fun hat => by cases hat) (fun _ hat => by cases hat)
      (fun _ => h.intervention rfl) (fun _ => rfl) fun hat => by cases hat
  | raising permit =>
    have hclosed := h.disarmed rfl
    refine ⟨fun hat => (by cases hat), fun taken hat => ?_, fun _ => ?_, fun hat => (by cases hat),
      fun _ => hclosed, fun hat => (by cases hat), fun hon => absurd (hclosed.symm.trans hon) (by decide)⟩
    · obtain rfl := Option.some.inj hat
      exact ⟨rfl, rfl⟩
    · exact ⟨permit, [], .first hg, rfl, rfl⟩
  | renewing permit changed =>
    have hstands := h.concluding permit rfl
    have hactive : (permit.phase != .off) = intervening n.ownershipPhase := by
      rw [hstands.phase]
      rfl
    have hraised : ∀ n' : ControlNode β, n'.ownershipKey = n.ownershipKey →
        n'.ownershipPhase = n.ownershipPhase → n'.ownershipPhase ≠ none →
        ∃ permit since, RaisedLast (stages ++ [g]) permit since ∧ Stands n' permit := by
      intro n' hkey hphase hsome
      obtain ⟨last, since, hlast, hat⟩ := h.raised (hphase ▸ hsome)
      exact ⟨last, _, hlast.snoc hg, hat.congr hkey hphase⟩
    cases changed with
    | false =>
      refine ⟨fun hat => (by cases hat), fun _ hat => (by cases hat), hraised _ rfl rfl,
        fun _ => hactive, fun hat => (by cases hat), fun hat => (by cases hat), fun hon hin => ?_⟩
      have hbefore : n.interventionActive = true := by
        rw [h.intervention rfl, ← hactive]
        exact hin
      exact (h.armed hon hbefore).snoc hg rfl rfl
    | true =>
      have hclosed := h.disarmed rfl
      refine ⟨fun hat => (by cases hat), fun taken hat => ?_, hraised _ rfl rfl, fun _ => hactive,
        fun _ => hclosed, fun hat => (by cases hat),
        fun hon => absurd (hclosed.symm.trans hon) (by decide)⟩
      obtain rfl := Option.some.inj hat
      exact hstands.congr rfl rfl
  | reading permit =>
    have hsame : HandshakeOk (stages ++ [g]) n _ := h.snoc hg rfl rfl rfl id
    exact hsame.goto (fun hat => by cases hat) hsame.concluding (fun _ => h.intervention rfl)
      (fun _ => h.disarmed rfl) fun hat => by cases hat
  | shutting permit generation =>
    have hsame : HandshakeOk (stages ++ [g])
        { n.setOutputPermit B false generation with latestServos := ∅ } (.shutting permit generation) :=
      h.snoc hg rfl rfl rfl id
    simp only [callbackStep]
    split
    · rename_i hgrant
      refine hsame.goto (fun hat => by cases hat) hsame.concluding (fun _ => h.intervention rfl)
        (fun _ => h.disarmed rfl) fun _ => ?_
      -- the pipeline is closed for the message that was taken over last
      have hstands := h.concluding permit rfl
      obtain ⟨last, since, hlast, hat⟩ := h.raised (by rw [hstands.phase]; exact Option.some_ne_none _)
      obtain ⟨call, hcall, hinput⟩ := hcalls _ rfl
      refine ⟨last, _, hlast.snoc hg, hat.congr rfl rfl, ?_, call, ?_, ?_⟩
      · have hphase : some last.phase = some permit.phase := hat.phase.symm.trans hstands.phase
        rw [Option.some.inj hphase, hgrant]
      · rw [pipelinePast_append, pipelinePast_single]
        exact List.mem_append_right _ hcall
      · simp [ClosesEpoch, hinput, Op.closesEpoch]
    · exact hsame.goto (fun hat => by cases hat) (fun _ hat => by cases hat)
        (fun _ => h.intervention rfl) (fun hat => by cases hat) fun hat => by cases hat
  | rereading permit =>
    have hsame : HandshakeOk (stages ++ [g]) n _ := h.snoc hg rfl rfl rfl id
    exact hsame.goto (fun hat => by cases hat) hsame.concluding (fun _ => h.intervention rfl)
      (fun _ => h.disarmed rfl) fun _ => hsame.reopens rfl
  | reopening permit generation =>
    have hsame : HandshakeOk (stages ++ [g]) (n.setOutputPermit B true generation)
        (.reopening permit generation) := h.snoc hg rfl rfl rfl id
    exact hsame.goto (fun hat => by cases hat) hsame.concluding (fun _ => h.intervention rfl)
      (fun _ => h.disarmed rfl) fun _ => hsame.reopens rfl
  | granting permit =>
    have hgranted : Granted (stages ++ [g]) { n with permitEnabled := true } :=
      (h.reopens rfl).snoc hg rfl rfl
    refine ⟨fun hat => (by cases hat), fun _ hat => (by cases hat), fun hsome => ?_,
      fun _ => h.intervention rfl, fun hat => (by cases hat), fun hat => (by cases hat), fun _ _ => hgranted⟩
    obtain ⟨last, since, hlast, hstands⟩ := h.raised hsome
    exact ⟨last, _, hlast.snoc hg, hstands.congr rfl rfl⟩
  | answering permit changed =>
    have hidle : ∀ n' : ControlNode β, HandshakeOk (stages ++ [g]) n' (.answering permit changed) →
        HandshakeOk (stages ++ [g]) n' .idle := fun n' hsame =>
      hsame.goto (fun hat => by cases hat) (fun _ hat => by cases hat)
        (fun _ => hsame.intervention rfl) (fun hat => by cases hat) fun hat => by cases hat
    cases changed <;> exact hidle _ (h.snoc hg rfl rfl rfl id)

end

end HumanoidMotion
