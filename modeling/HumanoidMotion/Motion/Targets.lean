import HumanoidMotion.Motion.AtRest
import HumanoidMotion.Motion.Consistency
import HumanoidMotion.Motion.Epoch
/-
# The newest target of an endpoint

A servo session carries the target that was last accepted for its endpoint, and
the time this target was received at.

* `acceptedWith` — what a step that accepts a target takes of it.
* `Carries` — the stored session has it; `Carries.step` keeps that.
-/

namespace HumanoidMotion

open Tick

variable {β γ : Type} {B : Platform β} {lib : MathLib} {endpoint : String}
  {take : SessionRequest → SteadyTime → γ}

/-- What `take` reads off the target of the endpoint that a step has accepted. -/
def acceptedWith (take : SessionRequest → SteadyTime → γ) (endpoint : String)
    (g : PipelineStage β) : Option γ :=
  match g.input with
  | .updateServo name request receivedAt _ _ =>
    if name = endpoint && g.output.accepted then some (take request receivedAt) else none
  | _ => none

/-- That of the last target that was accepted for the endpoint. -/
def lastWith (take : SessionRequest → SteadyTime → γ) (endpoint : String)
    (past : List (PipelineStage β)) : Option γ := (past.filterMap (acceptedWith take endpoint)).getLast?

theorem lastWith_concat (past : List (PipelineStage β)) (g : PipelineStage β) :
    lastWith take endpoint (past ++ [g]) =
      (acceptedWith take endpoint g).or (lastWith take endpoint past) := by
  unfold lastWith
  rw [List.filterMap_append]
  cases h : acceptedWith take endpoint g <;> simp [h]

/-- An accepted target is the request of the session that is stored for its endpoint, from the time it
was received at. -/
theorem ServoOutcome.newest {s p : CommandPipeline β} (hsound : Sound s) {request : SessionRequest}
    {receivedAt now : SteadyTime} {generation : Nat} {result : SubmissionResult}
    (hout : ServoOutcome B s endpoint request receivedAt now generation result p)
    (hok : result.status.ok = true) {session : Session}
    (hfound : p.sessions[servoId endpoint]? = some session) :
    session.request = request ∧ session.submittedAt = receivedAt := by
  cases hout with
  | refused _ h => rw [h] at hok; cases hok
  | rejected _ _ _ _ _ _ _ _ _ _ h => rw [h] at hok; cases hok
  | accepted policy arbPolicy made existing base settled _ hupdated hsettled hresult =>
    have hmade := madeFor_of_valid hsound hupdated.valid.registered hupdated.valid.checked
    have hkept : settled.sessions[made.sessionId]? = some session := by
      rw [hmade.derived rfl]
      split at hfound
      · exact hfound
      · exact hfound
    rw [hsettled, CommandPipeline.settle_sessions] at hkept
    split at hkept
    · cases hkept
    obtain ⟨-, -, hstart⟩ := hupdated.start.tables
    have hbefore : (base.withArbiter (base.arbiter.displace (CommandPipeline.claimOf endpoint made)
        arbPolicy receivedAt now)).sessions[made.sessionId]? = existing := hstart
    obtain ⟨hrequest, htime⟩ := CommandPipeline.storeServo_self _ _ _ _ _ hbefore hkept
    exact ⟨hrequest.trans hmade.requestEq, htime⟩

theorem ServoOutcome.answer {s p : CommandPipeline β} (hsound : Sound s) {request : SessionRequest}
    {receivedAt now : SteadyTime} {generation : Nat} {result : SubmissionResult}
    (hout : ServoOutcome B s endpoint request receivedAt now generation result p)
    (hok : result.status.ok = true) : result.sessionId = servoId endpoint := by
  cases hout with
  | refused _ h => rw [h] at hok; cases hok
  | rejected _ _ _ _ _ _ _ _ _ _ h => rw [h] at hok; cases hok
  | accepted policy arbPolicy made existing base settled _ hupdated hsettled hresult =>
    have hmade := madeFor_of_valid hsound hupdated.valid.registered hupdated.valid.checked
    rw [hresult, hmade.derived rfl]

theorem MoveOutcome.answer {s p : CommandPipeline β} (hsound : Sound s) {request : SessionRequest}
    {now : SteadyTime} {generation : Nat} {result : SubmissionResult}
    (hout : MoveOutcome B s endpoint request now generation result p)
    (hok : result.status.ok = true) : result.sessionId = requestId request := by
  cases hout with
  | refused _ h => rw [h] at hok; cases hok
  | lost _ _ _ _ _ _ _ _ _ h => rw [h] at hok; cases hok
  | admitted policy arbPolicy made _ arbitration hvalid _ _ _ settled hsettled hresult =>
    have hmade := madeFor_of_valid hsound hvalid.registered hvalid.checked
    rw [hresult, hmade.chosen rfl]

/-- The session of the endpoint carries what was last accepted for it. -/
def Carries (take : SessionRequest → SteadyTime → γ) (endpoint : String)
    (past : List (PipelineStage β)) (s : CommandPipeline β) : Prop :=
  ∀ session, s.sessions[servoId endpoint]? = some session →
    lastWith take endpoint past = some (take session.request session.submittedAt)

variable {names : List String} {s : CommandPipeline β} {past : List (PipelineStage β)} {op : Op}

variable (B lib) in
theorem Carries.step (h : Carries take endpoint past s) (hsound : Sound s)
    (hfree : ∀ id, op.moveId? = some id → id ≠ servoId endpoint) :
    Carries take endpoint (past ++ [⟨s, op, (exec B lib s op).1, (exec B lib s op).2⟩])
      (exec B lib s op).2 := by
  intro session hfound
  rw [lastWith_concat]
  obtain ⟨t, helems, hpipeline, -, -⟩ := exec_elems B lib s hsound op
  -- a call that stores no session leaves the newest target as it is
  have hquiet : op.arbitratedAt = none →
      lastWith take endpoint past = some (take session.request session.submittedAt) := by
    intro hop
    rw [hpipeline] at hfound
    obtain ⟨old, hold, hsame⟩ := helems.descends hop _ session hfound
    rw [hsame.request, hsame.submittedAt, h old hold]
  cases op with
  | submitMove name request now generation =>
    have hout := submitMove_outcome B s name request now generation
    rcases hout.origin hfound with hold | ⟨hresult, -, -, -⟩
    · exact h session hold
    · have hid := hout.answer hsound (by rw [hresult]; rfl)
      rw [hresult] at hid
      exact absurd hid.symm (hfree _ rfl)
  | updateServo name request receivedAt now generation =>
    have hout := updateServo_outcome B s name request receivedAt now generation
    have hother : (name ≠ endpoint ∨
        (s.updateServo B name request receivedAt now generation).1.status.ok = false) →
        acceptedWith take endpoint ⟨s, .updateServo name request receivedAt now generation,
          (exec B lib s (.updateServo name request receivedAt now generation)).1,
          (exec B lib s (.updateServo name request receivedAt now generation)).2⟩ = none := by
      rintro (hne | hok)
      · simp [acceptedWith, hne]
      · simp [acceptedWith, exec, Reply.accepted, hok]
    cases hok : (s.updateServo B name request receivedAt now generation).1.status.ok with
    | false =>
      rw [hother (.inr hok), Option.none_or]
      rcases hout.origin hfound with hold | ⟨hresult, -, -, -⟩
      · exact h session hold
      · rw [hresult] at hok
        cases hok
    | true =>
      by_cases heq : name = endpoint
      · subst heq
        obtain ⟨hrequest, htime⟩ := hout.newest hsound hok hfound
        simp [acceptedWith, exec, Reply.accepted, hok, hrequest, htime]
      · rw [hother (.inl heq), Option.none_or]
        rcases hout.origin hfound with hold | ⟨hresult, -, -, -⟩
        · exact h session hold
        · have hid := hout.answer hsound hok
          rw [hresult] at hid
          exact absurd (servoId_injective hid).symm heq
  | _ => exact hquiet rfl

end HumanoidMotion
