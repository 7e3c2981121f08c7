import HumanoidMotion.Pose.MoveJPose
/-
# What pose execution says about its goals

An error that denies motion must mean that every goal sent was rejected or has
its result. The cleanup pairs handles and result futures by position, which is
sound as long as both lists have grown together.

* `Waited` — what waiting may change: futures complete, and nothing else.
* `Good` — every accepted handle has its result future, in its place.
* `Left` — what the `try` block leaves to the cleanup.
* `Reported` — what is said is true; `Overlooked` — the cleanup misses a goal.
* `pose_verdict` — what is said is true exactly if no goal is overlooked.
* `unasked_result_denied` — a goal is overlooked when `get_result_async` raises.
-/

namespace HumanoidMotion

open Prog

variable {env : PoseEnv} {goals : List PoseGoal} {s s' s'' : PoseRun}

/-- A `get_result_async` before the cleanup has raised. -/
def AskedInVain (s : PoseRun) : Prop := ∃ goal, (false, PoseCall.getResult goal) ∈ s.log

/-- A call in the cleanup has raised. -/
def LateRaised (s : PoseRun) : Prop := ∃ call, (true, call) ∈ s.log

/-! ## Waiting -/

/-- Futures may have completed; nothing else has happened. -/
structure Waited (s s' : PoseRun) : Prop where
  acceptance : s'.acceptance = s.acceptance
  accepted : s'.accepted = s.accepted
  results : s'.results = s.results
  errors : s'.errors = s.errors
  processed : s'.processed = s.processed
  canceled : s'.canceled = s.canceled
  uncertain : s'.uncertain = s.uncertain
  log : s'.log = s.log
  acceptances : ∀ goal answer, s.acceptances goal = some answer → s'.acceptances goal = some answer
  answers : ∀ goal answer, s.answers goal = some answer → s'.answers goal = some answer
  created : ∀ goal, s'.answers goal ≠ none → s.answers goal ≠ none ∨ goal ∈ s.results

theorem Waited.refl (s : PoseRun) : Waited s s :=
  ⟨rfl, rfl, rfl, rfl, rfl, rfl, rfl, rfl, fun _ _ => id, fun _ _ => id, fun _ => .inl⟩

theorem Waited.trans (h : Waited s s') (h' : Waited s' s'') : Waited s s'' where
  acceptance := h'.acceptance.trans h.acceptance
  accepted := h'.accepted.trans h.accepted
  results := h'.results.trans h.results
  errors := h'.errors.trans h.errors
  processed := h'.processed.trans h.processed
  canceled := h'.canceled.trans h.canceled
  uncertain := h'.uncertain.trans h.uncertain
  log := h'.log.trans h.log
  acceptances goal answer hdone := h'.acceptances goal answer (h.acceptances goal answer hdone)
  answers goal answer hdone := h'.answers goal answer (h.answers goal answer hdone)
  created goal hdone := by
    rcases h'.created goal hdone with hmid | hmid
    · exact h.created goal hmid
    · exact .inr (h.results ▸ hmid)

theorem deliver_waited (s : PoseRun) (arrival : Arrival) : Waited s (s.deliver arrival) := by
  cases arrival with
  | acceptance goal answer =>
    simp only [PoseRun.deliver]
    split
    · rename_i hopen
      refine { Waited.refl s with acceptances := fun other given hdone => ?_ }
      have hne : other ≠ goal := by
        rintro rfl
        rw [hopen.2] at hdone
        cases hdone
      exact (Function.update_of_ne hne _ _).trans hdone
    · exact .refl s
  | result goal answer =>
    simp only [PoseRun.deliver]
    split
    · rename_i hopen
      refine { Waited.refl s with
        answers := fun other given hdone => ?_, created := fun other hdone => ?_ }
      · have hne : other ≠ goal := by
          rintro rfl
          rw [hopen.2] at hdone
          cases hdone
        exact (Function.update_of_ne hne _ _).trans hdone
      · by_cases heq : other = goal
        · exact .inr (heq ▸ hopen.1)
        · exact .inl fun hnone => hdone ((Function.update_of_ne heq _ _).trans hnone)
    · exact .refl s

theorem foldl_deliver_waited (arrivals : List Arrival) (s : PoseRun) :
    Waited s (arrivals.foldl PoseRun.deliver s) := by
  induction arrivals generalizing s with
  | nil => exact .refl s
  | cons arrival arrivals ih => exact (deliver_waited s arrival).trans (ih _)

section
variable {α : Type} {Q : α → PoseRun → Prop} {E : PoseExit → PoseRun → Prop}

theorem wp_isSet {Q : Bool → PoseRun → Prop} (h : ∀ answer s', Waited s s' → Q answer s') :
    wp (isSet env) Q E s := by
  unfold isSet
  rw [wp_modifyGet]
  exact h _ _ { Waited.refl s with }

theorem wp_monotonic {Q : Rat → PoseRun → Prop} (h : ∀ now s', Waited s s' → Q now s') :
    wp (monotonic env) Q E s := by
  unfold monotonic
  rw [wp_modifyGet]
  exact h _ _ { Waited.refl s with }

/-- A call returns what it returns, or raises and is logged. -/
theorem wp_invoke (late : Bool) (call : PoseCall) (outcome : Except String α)
    (hok : ∀ a, outcome = .ok a → Q a s)
    (hraised : ∀ message, outcome = .error message →
      E (.raised { message }) { s with log := s.log ++ [(late, call)] }) :
    wp (invoke late call outcome) Q E s := by
  cases outcome with
  | ok a => exact hok a rfl
  | error message => exact hraised message rfl

theorem wp_spinOnce {Q : Unit → PoseRun → Prop} (late : Bool) (hok : ∀ s', Waited s s' → Q () s')
    (hraised : ∀ message s', Waited s s' →
      E (.raised { message }) { s' with log := s'.log ++ [(late, .spinOnce)] }) :
    wp (spinOnce env late) Q E s := by
  unfold spinOnce
  rw [wp_bind, wp_modifyGet, wp_bind]
  refine wp_invoke late .spinOnce _ (fun arrivals _ => ?_) fun message _ => ?_
  · rw [wp_modify]
    exact hok _ (({ Waited.refl s with } : Waited s { s with spins := s.spins + 1 }).trans
      (foldl_deliver_waited arrivals _))
  · exact hraised message { s with spins := s.spins + 1 } { Waited.refl s with }

end

/-! ## The `try` block -/

/-- Every accepted handle has its result future, in its place, and nothing has gone wrong that the
cleanup does not see. -/
structure Good (s : PoseRun) : Prop where
  paired : s.results = s.accepted
  asked : ¬ AskedInVain s
  early : ¬ LateRaised s
  certain : s.uncertain = false
  accepted : ∀ goal ∈ s.accepted, goal ∈ s.acceptance ∧ s.acceptances goal = some (.ok true)
  answered : ∀ goal, s.answers goal ≠ none → goal ∈ s.results

theorem Good.waited (h : Good s) (hwait : Waited s s') : Good s' where
  paired := by rw [hwait.results, hwait.accepted, h.paired]
  asked := by
    unfold AskedInVain
    rw [hwait.log]
    exact h.asked
  early := by
    unfold LateRaised
    rw [hwait.log]
    exact h.early
  certain := hwait.uncertain.trans h.certain
  accepted goal hgoal := by
    rw [hwait.accepted] at hgoal
    rw [hwait.acceptance]
    exact ⟨(h.accepted goal hgoal).1, hwait.acceptances goal _ (h.accepted goal hgoal).2⟩
  answered goal hdone := by
    rw [hwait.results]
    rcases hwait.created goal hdone with hold | hnew
    · exact h.answered goal hold
    · exact hnew

/-- A call of another kind has raised. -/
theorem Good.logged (h : Good s) {call : PoseCall} (hcall : ∀ goal, call ≠ .getResult goal) :
    Good { s with log := s.log ++ [(false, call)] } where
  paired := h.paired
  asked := by
    rintro ⟨goal, hgoal⟩
    rcases List.mem_append.1 hgoal with hold | hnew
    · exact h.asked ⟨goal, hold⟩
    · exact hcall goal (Prod.mk.inj (List.mem_singleton.1 hnew)).2.symm
  early := by
    rintro ⟨late, hlate⟩
    rcases List.mem_append.1 hlate with hold | hnew
    · exact h.early ⟨late, hold⟩
    · cases List.mem_singleton.1 hnew
  certain := h.certain
  accepted := h.accepted
  answered := h.answered

/-- What the `try` block leaves to the cleanup: handles and futures in their places, or a handle
whose future was asked for in vain. -/
structure Left (s : PoseRun) : Prop where
  early : ¬ LateRaised s
  certain : s.uncertain = false
  accepted : ∀ goal ∈ s.accepted, goal ∈ s.acceptance ∧ s.acceptances goal = some (.ok true)
  answered : ∀ goal, s.answers goal ≠ none → goal ∈ s.results
  paired : (s.results = s.accepted ∧ ¬ AskedInVain s) ∨
    (AskedInVain s ∧ ∃ goal ∈ s.accepted, goal ∉ s.results)

theorem Good.left (h : Good s) : Left s :=
  ⟨h.early, h.certain, h.accepted, h.answered, .inl ⟨h.paired, h.asked⟩⟩

/-- Where a program is left through an exception, it is left like this. -/
def Raising (P : PoseRun → Prop) (exit : PoseExit) (s : PoseRun) : Prop :=
  ∀ error, exit = .raised error → P s

theorem raising {P : PoseRun → Prop} (exit : PoseExit) (h : P s) : Raising P exit s := fun _ _ => h

theorem unfinished (P : PoseRun → Prop) : Raising P .unfinished s := by
  rintro _ ⟨⟩

theorem prepareOne_good (h : Good s) (goal : Nat) :
    wp (prepareOne env goals goal) (fun _ s' => Good s' ∧ Waited s s') (Raising Good) s := by
  unfold prepareOne
  rw [wp_bind]
  refine wp_isSet fun answer s' hwait => ?_
  have hgood := h.waited hwait
  cases answer with
  | true => exact raising _ hgood
  | false =>
    simp only [Bool.false_eq_true, if_false, wp_bind]
    refine wp_invoke false .waitForServer _ (fun ready _ => ?_) fun message _ => ?_
    · cases ready with
      | true => exact ⟨hgood, hwait⟩
      | false => exact raising _ hgood
    · exact raising _ (hgood.logged (by simp))

theorem sendOne_good (h : Good s) (hnone : s.accepted = []) (goal : Nat) :
    wp (sendOne env goals goal)
      (fun _ s' => Good s' ∧ s'.accepted = [] ∧ s'.errors = s.errors ∧
        s'.acceptance = s.acceptance ++ [goal]) (Raising Good) s := by
  unfold sendOne
  rw [wp_bind]
  refine wp_invoke false .sendGoal _ (fun _ _ => ?_) fun message _ => ?_
  · rw [wp_modify]
    refine ⟨⟨h.paired, h.asked, h.early, h.certain, ?_, h.answered⟩, hnone, rfl, rfl⟩
    simp [hnone]
  · exact raising _ (h.logged (by simp))

theorem spinUntil_good (h : Good s) (fuel : Nat) (deadline : Rat) :
    wp (spinUntil env fuel deadline)
      (fun complete s' => Waited s s' ∧
        (complete = true → ∀ goal ∈ s.acceptance, s'.acceptances goal ≠ none))
      (Raising Good) s := by
  induction fuel generalizing s with
  | zero => exact unfinished Good
  | succ fuel ih =>
    unfold spinUntil
    rw [wp_bind, wp_get]
    split
    · rename_i hdone
      simp only [List.all_eq_true] at hdone
      exact ⟨.refl s, fun _ goal hgoal => Option.isSome_iff_ne_none.1 (hdone goal hgoal)⟩
    · rw [wp_bind]
      refine wp_monotonic fun now s₁ h₁ => ?_
      split
      · exact ⟨h₁, by simp⟩
      · rw [wp_bind]
        refine wp_spinOnce false (fun s₂ h₂ => ?_) fun message s₂ h₂ => ?_
        · have hwait := h₁.trans h₂
          refine (ih (h.waited hwait)).imp (fun complete s₃ hpost => ?_) fun _ _ => id
          refine ⟨hwait.trans hpost.1, fun hcomplete goal hgoal => ?_⟩
          exact hpost.2 hcomplete goal (by rw [hwait.acceptance]; exact hgoal)
        · exact raising _ ((h.waited (h₁.trans h₂)).logged (by simp))

/-- The first pass, with `rest` still to come. -/
structure Collecting (sent : List Nat) (answers : Nat → Option (Except String Bool))
    (rest : List Nat) (s : PoseRun) : Prop where
  good : Good s
  acceptance : s.acceptance = sent
  acceptances : s.acceptances = answers
  nodup : rest.Nodup
  among : ∀ goal ∈ rest, goal ∈ sent
  fresh : ∀ goal ∈ s.accepted, goal ∉ rest
  seen : ∀ goal ∈ sent, goal ∉ rest →
    s.acceptances goal = none ∨ s.errors ≠ [] ∨ goal ∈ s.accepted

theorem collectOne_collecting {sent rest : List Nat} {answers : Nat → Option (Except String Bool)}
    (goal : Nat) (h : Collecting sent answers (goal :: rest) s) :
    wp (collectOne env goals goal) (fun _ s' => Collecting sent answers rest s') (Raising Left) s := by
  obtain ⟨hgood, hsent, hanswers, hnodup, hamong, hfresh, hseen⟩ := h
  obtain ⟨hnew, hrest⟩ := List.nodup_cons.1 hnodup
  have hamong' : ∀ g ∈ rest, g ∈ sent := fun g hg => hamong g (List.mem_cons_of_mem _ hg)
  have hfresh' : ∀ g ∈ s.accepted, g ∉ rest := fun g hg hr => hfresh g hg (List.mem_cons_of_mem _ hr)
  have hother : ∀ g, g ≠ goal → g ∉ rest → g ∉ goal :: rest := fun g hne hr hg =>
    (List.mem_cons.1 hg).elim hne hr
  unfold collectOne
  rw [wp_bind, wp_get]
  split
  · rename_i hnone
    refine ⟨hgood, hsent, hanswers, hrest, hamong', hfresh', fun g hg hr => ?_⟩
    by_cases heq : g = goal
    · exact .inl (heq ▸ hnone)
    · exact hseen g hg (hother g heq hr)
  · exact ⟨{ hgood with }, hsent, hanswers, hrest, hamong', hfresh', fun _ _ _ => .inr (.inl (by simp))⟩
  · exact ⟨{ hgood with }, hsent, hanswers, hrest, hamong', hfresh', fun _ _ _ => .inr (.inl (by simp))⟩
  · rename_i haccepted
    have hsentGoal : goal ∈ s.acceptance := hsent ▸ hamong goal List.mem_cons_self
    have hunasked : goal ∉ s.results := by
      rw [hgood.paired]
      exact fun hg => hfresh goal hg List.mem_cons_self
    have hall : ∀ g ∈ s.accepted ++ [goal], g ∈ s.acceptance ∧ s.acceptances g = some (.ok true) := by
      intro g hg
      rcases List.mem_append.1 hg with hold | hlast
      · exact hgood.accepted g hold
      · rw [List.mem_singleton.1 hlast]
        exact ⟨hsentGoal, haccepted⟩
    rw [wp_bind, wp_set, wp_bind]
    refine wp_invoke false (.getResult goal) _ (fun _ _ => ?_) fun message _ => ?_
    · rw [wp_modify]
      refine ⟨⟨by rw [hgood.paired], hgood.asked, hgood.early, hgood.certain, hall, fun g hg => ?_⟩,
        hsent, hanswers, hrest, hamong', fun g hg hr => ?_, fun g hg hr => ?_⟩
      · exact List.mem_append_left _ (hgood.answered g hg)
      · rcases List.mem_append.1 hg with hold | hlast
        · exact hfresh' g hold hr
        · exact hnew (List.mem_singleton.1 hlast ▸ hr)
      · by_cases heq : g = goal
        · exact .inr (.inr (List.mem_append_right _ (List.mem_singleton.2 heq)))
        · rcases hseen g hg (hother g heq hr) with hnone | herrors | hold
          · exact .inl hnone
          · exact .inr (.inl herrors)
          · exact .inr (.inr (List.mem_append_left _ hold))
    · -- the handle is in its list, the future is not
      refine raising _ ⟨?_, hgood.certain, hall, hgood.answered, .inr ⟨⟨goal, ?_⟩, goal, ?_, hunasked⟩⟩
      · rintro ⟨call, hcall⟩
        rcases List.mem_append.1 hcall with hold | hlast
        · exact hgood.early ⟨call, hold⟩
        · cases List.mem_singleton.1 hlast
      · exact List.mem_append_right _ List.mem_cons_self
      · exact List.mem_append_right _ List.mem_cons_self

theorem awaitResults_good (h : Good s) (fuel : Nat) (deadline : Rat) :
    wp (awaitResults env fuel deadline) (fun _ s' => Waited s s') (Raising Good) s := by
  induction fuel generalizing s with
  | zero => exact unfinished Good
  | succ fuel ih =>
    unfold awaitResults
    rw [wp_bind, wp_get]
    split
    · exact .refl s
    · rw [wp_bind]
      refine wp_isSet fun answer s₁ h₁ => ?_
      split
      · exact raising _ (h.waited h₁)
      · rw [wp_bind]
        refine wp_monotonic fun now s₂ h₂ => ?_
        split
        · exact raising _ (h.waited (h₁.trans h₂))
        · rw [wp_bind]
          refine wp_spinOnce false (fun s₃ h₃ => ?_) fun message s₃ h₃ => ?_
          · have hwait := (h₁.trans h₂).trans h₃
            rw [wp_bind, wp_get]
            split
            · exact raising _ (h.waited hwait)
            · exact (ih (h.waited hwait)).imp (fun _ _ => hwait.trans) fun _ _ => id
          · exact raising _ ((h.waited ((h₁.trans h₂).trans h₃)).logged (by simp))

/-- The goal has finished as it should. -/
def Succeeded (env : PoseEnv) (s : PoseRun) (goal : Nat) : Prop :=
  ∃ wrapped, s.answers goal = some (.ok wrapped) ∧ wrapped.status = statusSucceeded ∧
    wrapped.code = env.statusOk

theorem outputOne_succeeded (pair : Nat × Nat) :
    wp (outputOne env goals pair) (fun _ s' => s' = s ∧ Succeeded env s pair.2) (Raising (· = s)) s := by
  unfold outputOne
  rw [wp_bind, wp_get]
  split
  · exact raising _ rfl
  · exact raising _ rfl
  · rename_i wrapped hanswer
    split
    · exact raising _ rfl
    · rename_i hfine
      simp only [failed, Bool.or_eq_true, bne_iff_ne, ne_eq, not_or, not_not] at hfine
      exact ⟨rfl, wrapped, hanswer, hfine⟩

theorem outputs_succeeded (pairs : List (Nat × Nat)) :
    wp (outputs env goals pairs)
      (fun _ s' => s' = s ∧ ∀ pair ∈ pairs, Succeeded env s pair.2) (Raising (· = s)) s := by
  induction pairs with
  | nil => exact ⟨rfl, by simp⟩
  | cons pair rest ih =>
    unfold outputs
    refine (outputOne_succeeded pair).bind ?_
    rintro _ _ ⟨rfl, hfirst⟩
    refine ih.bind ?_
    rintro _ _ ⟨rfl, hrest⟩
    refine ⟨rfl, fun other hother => ?_⟩
    rcases List.mem_cons.1 hother with rfl | hother
    · exact hfirst
    · exact hrest other hother

/-- Every goal was accepted and has succeeded. -/
def AllSucceeded (env : PoseEnv) (goals : List PoseGoal) (s : PoseRun) : Prop :=
  ∀ goal < goals.length, s.acceptances goal = some (.ok true) ∧ Succeeded env s goal

theorem Raising.imp {P P' : PoseRun → Prop} (himp : ∀ s, P s → P' s) (exit : PoseExit) (s : PoseRun)
    (h : Raising P exit s) : Raising P' exit s := fun error hexit => himp s (h error hexit)

/-- The goals are sent in their order. -/
theorem sending_good (h : Good s) (hnone : s.accepted = []) (herrors : s.errors = [])
    (hsent : s.acceptance = []) (count : Nat) :
    wp ((List.range count).forM (sendOne env goals))
      (fun _ s' => Good s' ∧ s'.accepted = [] ∧ s'.errors = [] ∧ s'.acceptance = List.range count)
      (Raising Good) s := by
  refine (wp_forM (sendOne env goals) (fun rest s => Good s ∧ s.accepted = [] ∧ s.errors = [] ∧
    s.acceptance ++ rest = List.range count) ?_ (List.range count) s
      ⟨h, hnone, herrors, by simp [hsent]⟩).imp ?_ fun _ _ => id
  · rintro goal rest s ⟨hgood, hnone, herrors, hsplit⟩
    refine (sendOne_good hgood hnone goal).imp ?_ fun _ _ => id
    rintro _ s' ⟨hgood', hnone', herrors', hsent'⟩
    refine ⟨hgood', hnone', herrors'.trans herrors, ?_⟩
    rw [hsent', List.append_assoc]
    exact hsplit
  · rintro _ s' ⟨hgood', hnone', herrors', hsplit⟩
    exact ⟨hgood', hnone', herrors', by simpa using hsplit⟩

theorem body_spec (h : Good s) (hnone : s.accepted = []) (herrors : s.errors = [])
    (hsent : s.acceptance = []) (fuel : Nat) :
    wp (body env goals fuel) (fun _ s' => AllSucceeded env goals s' ∧ ¬ AskedInVain s')
      (Raising Left) s := by
  have hleft := Raising.imp fun s => @Good.left s
  unfold body
  rw [wp_bind]
  refine wp_invoke false .setup _ (fun _ _ => ?_) fun message _ =>
    raising _ (h.logged (by simp)).left
  have hprepare : wp ((List.range goals.length).forM (prepareOne env goals))
      (fun _ s' => Good s' ∧ Waited s s') (Raising Good) s :=
    wp_forM _ (fun _ s' => Good s' ∧ Waited s s')
      (fun goal _ s₁ hs₁ => (prepareOne_good hs₁.1 goal).imp
        (fun _ _ hpost => ⟨hpost.1, hs₁.2.trans hpost.2⟩) fun _ _ => id) _ s ⟨h, .refl s⟩
  refine (hprepare.imp (fun _ _ => id) hleft).bind ?_
  rintro _ s₁ ⟨hgood₁, hwait₁⟩
  rw [wp_bind]
  refine wp_isSet fun answer s₂ hwait₂ => ?_
  have hgood₂ := hgood₁.waited hwait₂
  have hwait := hwait₁.trans hwait₂
  split
  · exact raising _ hgood₂.left
  refine ((sending_good hgood₂ (hwait.accepted.trans hnone) (hwait.errors.trans herrors)
    (hwait.acceptance.trans hsent) goals.length).imp (fun _ _ => id) hleft).bind ?_
  rintro _ s₃ ⟨hgood₃, hnone₃, herrors₃, hsent₃⟩
  rw [wp_bind]
  refine wp_monotonic fun now s₄ hwait₄ => ?_
  refine ((spinUntil_good (hgood₃.waited hwait₄) fuel (now + 5)).imp (fun _ _ => id) hleft).bind ?_
  rintro complete s₅ ⟨hwait₅, hdone⟩
  have hwait₅' := hwait₄.trans hwait₅
  have hgood₅ := hgood₃.waited hwait₅'
  rw [wp_bind, wp_get]
  have hsent₅ : s₅.acceptance = List.range goals.length := hwait₅'.acceptance.trans hsent₃
  have hcollecting : Collecting s₅.acceptance s₅.acceptances s₅.acceptance s₅ := by
    refine ⟨hgood₅, rfl, rfl, ?_, fun _ => id, ?_, fun goal hgoal hnot => absurd hgoal hnot⟩
    · rw [hsent₅]
      exact List.nodup_range
    · rw [hwait₅'.accepted, hnone₃]
      simp
  have hloop : wp (s₅.acceptance.forM (collectOne env goals))
      (fun _ s' => Collecting s₅.acceptance s₅.acceptances [] s') (Raising Left) s₅ :=
    wp_forM _ (Collecting s₅.acceptance s₅.acceptances)
      (fun goal _ _ h => collectOne_collecting goal h) _ s₅ hcollecting
  refine hloop.bind ?_
  rintro _ s₆ hcollected
  rw [wp_bind, wp_get]
  split
  · exact raising _ hcollected.good.left
  rename_i hcomplete
  split
  · exact raising _ hcollected.good.left
  rename_i hclean
  have haccepted : ∀ goal ∈ s₅.acceptance, goal ∈ s₆.accepted := by
    intro goal hgoal
    rcases hcollected.seen goal hgoal (by simp) with hnone | herrors | haccepted
    · rw [hcollected.acceptances] at hnone
      exact absurd hnone (hdone (by simpa using hcomplete) goal (by rw [← hwait₅.acceptance]; exact hgoal))
    · exact absurd (by simpa using hclean) herrors
    · exact haccepted
  rw [wp_bind]
  refine wp_monotonic fun now' s₇ hwait₇ => ?_
  have hgood₇ := hcollected.good.waited hwait₇
  refine ((awaitResults_good hgood₇ fuel _).imp (fun _ _ => id) hleft).bind ?_
  rintro _ s₈ hwait₈
  have hgood₈ := hgood₇.waited hwait₈
  rw [wp_bind, wp_get]
  refine (outputs_succeeded _).imp ?_ (Raising.imp (by rintro _ rfl; exact hgood₈.left))
  rintro _ s₉ ⟨rfl, hsucceeded⟩
  refine ⟨fun goal hgoal => ?_, hgood₈.asked⟩
  have hin : goal ∈ s₉.accepted := by
    rw [hwait₈.accepted, hwait₇.accepted]
    exact haccepted goal (hsent₅ ▸ List.mem_range.2 hgoal)
  refine ⟨(hgood₈.accepted goal hin).2, hsucceeded (goal, goal) ?_⟩
  rw [hgood₈.paired, List.zip, List.zipWith_self]
  exact List.mem_map.2 ⟨goal, hin, rfl⟩

/-! ## The cleanup -/

/-- The cleanup, between two of its calls. -/
structure Cleaning (s : PoseRun) : Prop where
  processed : s.processed = s.accepted
  doubted : s.uncertain = true ↔ LateRaised s
  accepted : ∀ goal ∈ s.accepted, goal ∈ s.acceptance ∧ s.acceptances goal = some (.ok true)
  answered : ∀ goal, s.answers goal ≠ none → goal ∈ s.results
  paired : (s.results = s.accepted ∧ ¬ AskedInVain s) ∨
    (AskedInVain s ∧ ∃ goal ∈ s.accepted, goal ∉ s.results)

theorem Left.cleaning (h : Left s) : Cleaning { s with processed := s.accepted, canceled := [] } where
  processed := rfl
  doubted := iff_of_false (by simp [h.certain]) h.early
  accepted := h.accepted
  answered := h.answered
  paired := h.paired

theorem Cleaning.waited (h : Cleaning s) (hwait : Waited s s') : Cleaning s' where
  processed := by rw [hwait.processed, hwait.accepted, h.processed]
  doubted := by
    unfold LateRaised
    rw [hwait.log, hwait.uncertain]
    exact h.doubted
  accepted goal hgoal := by
    rw [hwait.accepted] at hgoal
    rw [hwait.acceptance]
    exact ⟨(h.accepted goal hgoal).1, hwait.acceptances goal _ (h.accepted goal hgoal).2⟩
  answered goal hdone := by
    rw [hwait.results]
    rcases hwait.created goal hdone with hold | hnew
    · exact h.answered goal hold
    · exact hnew
  paired := by
    unfold AskedInVain
    rw [hwait.log, hwait.results, hwait.accepted]
    exact h.paired

/-- A late handle that is taken over gets the future of its result. -/
theorem Cleaning.taken (h : Cleaning s) {goal : Nat} (hsent : goal ∈ s.acceptance)
    (haccepted : s.acceptances goal = some (.ok true)) (hnew : goal ∉ s.processed) :
    Cleaning { s with
      processed := s.processed ++ [goal]
      accepted := s.accepted ++ [goal]
      results := s.results ++ [goal] } where
  processed := by rw [h.processed]
  doubted := h.doubted
  accepted g hg := by
    rcases List.mem_append.1 hg with hold | hlast
    · exact h.accepted g hold
    · rw [List.mem_singleton.1 hlast]
      exact ⟨hsent, haccepted⟩
  answered g hdone := List.mem_append_left _ (h.answered g hdone)
  paired := by
    rcases h.paired with ⟨hpaired, hasked⟩ | ⟨hasked, other, hother, hmissing⟩
    · exact .inl ⟨by rw [hpaired], hasked⟩
    · refine .inr ⟨hasked, other, List.mem_append_left _ hother, fun hin => ?_⟩
      rcases List.mem_append.1 hin with hold | hlast
      · exact hmissing hold
      · rw [h.processed] at hnew
        exact hnew (List.mem_singleton.1 hlast ▸ hother)

theorem lateRaised_logged (s : PoseRun) (call : PoseCall) :
    LateRaised { s with log := s.log ++ [(true, call)] } :=
  ⟨call, List.mem_append_right _ List.mem_cons_self⟩

theorem granted_iff (answer : Option (Except String Bool)) :
    PoseRun.granted answer = true ↔ answer = some (.ok true) := by
  rcases answer with _ | _ | _ | _ <;> simp [PoseRun.granted]

theorem fine_iff {α : Type} (answer : Option (Except String α)) :
    PoseRun.fine answer = true ↔ ∃ a, answer = some (.ok a) := by
  rcases answer with _ | _ | a <;> simp [PoseRun.fine]

/-- No handle has been overlooked among the acceptances that are no longer to come. -/
def TakenOver (rest : List Nat) (s : PoseRun) : Prop :=
  ∀ goal ∈ s.acceptance, s.acceptances goal = some (.ok true) → goal ∈ rest ∨ goal ∈ s.accepted

theorem lateAcceptance_cleaning {rest : List Nat} (goal : Nat) (h : Cleaning s)
    (hsent : goal ∈ s.acceptance) (htaken : TakenOver (goal :: rest) s) :
    wp (lateAcceptance env goal)
      (fun _ s' => Cleaning s' ∧ s'.acceptance = s.acceptance ∧ TakenOver rest s')
      (Raising LateRaised) s := by
  unfold lateAcceptance
  rw [wp_bind, wp_get]
  split
  · rename_i hopen
    obtain ⟨haccepted, hnew⟩ := hopen
    rw [granted_iff] at haccepted
    rw [wp_bind, wp_set, wp_bind]
    refine wp_invoke true (.getResult goal) _ (fun _ _ => ?_) fun message _ =>
      raising _ (lateRaised_logged _ _)
    rw [wp_modify]
    refine ⟨h.taken hsent haccepted hnew, rfl, fun g hg hacc => ?_⟩
    rcases htaken g hg hacc with hin | hold
    · rcases List.mem_cons.1 hin with rfl | hrest
      · exact .inr (List.mem_append_right _ List.mem_cons_self)
      · exact .inl hrest
    · exact .inr (List.mem_append_left _ hold)
  · rename_i hclosed
    refine ⟨h, rfl, fun g hg hacc => ?_⟩
    rcases htaken g hg hacc with hin | hold
    · rcases List.mem_cons.1 hin with rfl | hrest
      · -- accepted, so it is among the processed
        rw [← h.processed]
        exact .inr (by_contra fun hnew => hclosed ⟨(granted_iff _).2 hacc, hnew⟩)
      · exact .inl hrest
    · exact .inr hold

theorem cancelOne_cleaning (pair : Nat × Nat) (h : Cleaning s) (htaken : TakenOver [] s) :
    wp (cancelOne env pair) (fun _ s' => Cleaning s' ∧ TakenOver [] s') (Raising LateRaised) s := by
  unfold cancelOne
  rw [wp_bind, wp_get]
  split
  · rw [wp_bind, wp_set, wp_tryCatch]
    refine wp_invoke true (.cancelGoal pair.1) _ (fun _ _ => ⟨{ h with }, htaken⟩) fun message _ => ?_
    refine ⟨⟨h.processed, iff_of_true rfl (lateRaised_logged _ _), h.accepted, h.answered, ?_⟩, htaken⟩
    have hasked : AskedInVain { s with
        canceled := s.canceled ++ [pair.1]
        log := s.log ++ [(true, .cancelGoal pair.1)]
        uncertain := true } ↔ AskedInVain s := by
      simp [AskedInVain]
    rw [hasked]
    exact h.paired
  · exact ⟨h, htaken⟩

theorem settle_cleaning (h : Cleaning s) (fuel : Nat) (deadline : Rat) :
    wp (settle env fuel deadline) (fun _ s' => Cleaning s' ∧ TakenOver [] s')
      (Raising LateRaised) s := by
  induction fuel generalizing s with
  | zero => exact unfinished LateRaised
  | succ fuel ih =>
    unfold settle
    rw [wp_bind, wp_get]
    have hlate : wp (s.acceptance.forM (lateAcceptance env))
        (fun _ s' => Cleaning s' ∧ TakenOver [] s') (Raising LateRaised) s := by
      refine (wp_forM (lateAcceptance env) (fun rest s₁ => Cleaning s₁ ∧
        s₁.acceptance = s.acceptance ∧ (∀ goal ∈ rest, goal ∈ s.acceptance) ∧ TakenOver rest s₁)
        ?_ _ s ⟨h, rfl, fun _ => id, fun _ hg _ => .inl hg⟩).imp
          (fun _ _ hpost => ⟨hpost.1, hpost.2.2.2⟩) fun _ _ => id
      rintro goal rest s₁ ⟨h₁, hsame, hrest, htaken⟩
      refine (lateAcceptance_cleaning goal h₁ (hsame ▸ hrest goal List.mem_cons_self) htaken).imp ?_
        fun _ _ => id
      rintro _ s₂ ⟨h₂, hsame₂, htaken₂⟩
      exact ⟨h₂, hsame₂.trans hsame, fun g hg => hrest g (List.mem_cons_of_mem _ hg), htaken₂⟩
    refine hlate.bind ?_
    rintro _ s₁ ⟨h₁, htaken₁⟩
    rw [wp_bind, wp_get]
    have hcancel : wp ((s₁.accepted.zip s₁.results).forM (cancelOne env))
        (fun _ s' => Cleaning s' ∧ TakenOver [] s') (Raising LateRaised) s₁ :=
      wp_forM _ (fun _ s' => Cleaning s' ∧ TakenOver [] s')
        (fun pair _ _ h => cancelOne_cleaning pair h.1 h.2) _ s₁ ⟨h₁, htaken₁⟩
    refine hcancel.bind ?_
    rintro _ s₂ ⟨h₂, htaken₂⟩
    rw [wp_bind, wp_get]
    split
    · exact ⟨h₂, htaken₂⟩
    · -- no future completes while the clock is read
      unfold monotonic
      rw [wp_bind, wp_modifyGet]
      split
      · exact ⟨{ h₂ with }, htaken₂⟩
      · rw [wp_bind]
        refine wp_spinOnce true (fun s₄ hwait₄ => ?_) fun message s₄ _ =>
          raising _ (lateRaised_logged _ _)
        have hread : Waited s₂ { s₂ with ticks := s₂.ticks + 1 } := { Waited.refl s₂ with }
        exact ih (h₂.waited (hread.trans hwait₄))

/-! ## The verdict -/

/-- Every goal that was sent has been rejected, or its result has been received. -/
def Settled (s : PoseRun) : Prop :=
  ∀ goal ∈ s.acceptance, s.acceptances goal = some (.ok false) ∨
    ∃ wrapped, s.answers goal = some (.ok wrapped)

/-- The future of a result was asked for in vain before the cleanup, and the cleanup has met with
nothing else: none of its calls has raised, and all futures it knows are done and without exception. -/
def Overlooked (s : PoseRun) : Prop :=
  AskedInVain s ∧ ¬ LateRaised s ∧ (∀ goal ∈ s.acceptance, ∃ answer, s.acceptances goal = some (.ok answer)) ∧
    ∀ goal ∈ s.results, ∃ wrapped, s.answers goal = some (.ok wrapped)

/-- What has been returned or raised is true. -/
def Reported (env : PoseEnv) (goals : List PoseGoal) :
    Except PoseExit (List PoseOutput) × PoseRun → Prop
  | (.ok _, s) => AllSucceeded env goals s
  | (.error (.raised error), s) => error.mayBeActive = false → Settled s
  | (.error .unfinished, _) => True

theorem allFine_iff (s : PoseRun) :
    s.allFine = true ↔ (∀ goal ∈ s.acceptance, ∃ answer, s.acceptances goal = some (.ok answer)) ∧
      ∀ goal ∈ s.results, ∃ wrapped, s.answers goal = some (.ok wrapped) := by
  simp only [PoseRun.allFine, Bool.and_eq_true, List.all_eq_true, fine_iff]

/-- What the cleanup knows at its end. -/
structure Cleaned (s : PoseRun) : Prop where
  doubted : s.uncertain = true ↔ LateRaised s ∨ s.allFine = false
  settled : s.uncertain = false → (Settled s ↔ ¬ AskedInVain s)

theorem Cleaning.cleaned (h : Cleaning s) (htaken : TakenOver [] s) :
    Cleaned { s with uncertain := s.uncertain || !s.allFine } where
  doubted := by
    simp only [Bool.or_eq_true, Bool.not_eq_true', h.doubted]
    rfl
  settled hcertain := by
    simp only [Bool.or_eq_false_iff, Bool.not_eq_false', allFine_iff] at hcertain
    obtain ⟨-, hacceptance, hresults⟩ := hcertain
    constructor
    · rintro hsettled hasked
      rcases h.paired with ⟨-, hnot⟩ | ⟨-, goal, hgoal, hmissing⟩
      · exact hnot hasked
      · -- the goal has been accepted, and no result of it can have come
        obtain ⟨hsent, haccepted⟩ := h.accepted goal hgoal
        rcases hsettled goal hsent with hrejected | ⟨wrapped, hanswer⟩
        · rw [show s.acceptances goal = some (.ok false) from hrejected] at haccepted
          cases haccepted
        · refine hmissing (h.answered goal ?_)
          rw [show s.answers goal = some (.ok wrapped) from hanswer]
          simp
    · intro hnot goal hsent
      obtain ⟨hpaired, -⟩ | ⟨hasked, -⟩ := h.paired
      · obtain ⟨answer, hanswer⟩ := hacceptance goal hsent
        cases answer with
        | false => exact .inl hanswer
        | true =>
          rcases htaken goal hsent hanswer with hin | hin
          · cases hin
          · exact .inr (hresults goal (hpaired ▸ hin))
      · exact absurd hasked hnot

theorem cleanup_cleaned (h : Left s) (fuel : Nat) :
    wp (cleanup env fuel) (fun _ s' => Cleaned s') (Raising LateRaised) s := by
  unfold cleanup
  rw [wp_bind, wp_modify, wp_bind]
  refine wp_monotonic fun now s₁ hwait => ?_
  have h₁ := h.cleaning.waited hwait
  rw [wp_bind, wp_get]
  split
  · refine (settle_cleaning h₁ fuel _).bind ?_
    rintro _ s₂ ⟨h₂, htaken⟩
    exact h₂.cleaned htaken
  · rename_i hempty
    refine h₁.cleaned fun goal hgoal => ?_
    simp only [Bool.not_eq_true', Bool.not_eq_false, List.isEmpty_iff] at hempty
    rw [hempty] at hgoal
    cases hgoal

theorem overlooked_iff (s : PoseRun) :
    Overlooked s ↔ AskedInVain s ∧ ¬ LateRaised s ∧ s.allFine = true := by
  rw [Overlooked, allFine_iff]

theorem conclude_reported (h : Left s) (fuel : Nat) (original : PoseError) :
    wp (conclude env fuel original : PoseProg (List PoseOutput)) (fun _ _ => False)
      (fun exit s' => exit = .unfinished ∨ (Reported env goals (.error exit, s') ↔ ¬ Overlooked s')) s := by
  unfold conclude
  have hcleanup : wp (tryCatch (cleanup env fuel) doubt)
      (fun _ s' => Cleaned s' ∨ (s'.uncertain = true ∧ LateRaised s')) (fun exit _ => exit = .unfinished) s := by
    rw [wp_tryCatch]
    refine (cleanup_cleaned h fuel).imp (fun _ _ => .inl) fun exit s' hraised => ?_
    cases exit with
    | raised error => exact .inr ⟨rfl, hraised error rfl⟩
    | unfinished => rfl
  refine (hcleanup.imp (fun _ _ => id) fun _ _ => .inl).bind ?_
  intro _ s' hpost
  rw [wp_bind, wp_get, wp_throw]
  right
  rw [overlooked_iff]
  simp only [Reported, PoseError.mayBeActive, Option.getD_some]
  rcases hpost with hcleaned | ⟨huncertain, hraised⟩
  · by_cases huncertain : s'.uncertain = true
    · have hseen := hcleaned.doubted.1 huncertain
      refine iff_of_true (fun hnot => by rw [huncertain] at hnot; cases hnot) ?_
      rintro ⟨-, hnot, hfine⟩
      rcases hseen with hraised | hbad
      · exact hnot hraised
      · rw [hfine] at hbad
        cases hbad
    · have hcertain := Bool.eq_false_iff.2 huncertain
      have hunseen := mt hcleaned.doubted.2 huncertain
      rw [not_or, Bool.not_eq_false] at hunseen
      rw [hcleaned.settled hcertain]
      constructor
      · rintro himp ⟨hasked, -⟩
        exact himp hcertain hasked
      · rintro hnot - hasked
        exact hnot ⟨hasked, hunseen⟩
  · refine iff_of_true (fun hnot => by rw [huncertain] at hnot; cases hnot) ?_
    rintro ⟨-, hnot, -⟩
    exact hnot hraised

/-- What is returned or raised is true exactly if no goal has been overlooked. -/
theorem pose_verdict (env : PoseEnv) (goals : List PoseGoal) (fuel : Nat)
    (hdone : ((executeMoveJPose env goals fuel).exec {}).1 ≠ .error .unfinished) :
    Reported env goals ((executeMoveJPose env goals fuel).exec {}) ↔
      ¬ Overlooked ((executeMoveJPose env goals fuel).exec {}).2 := by
  have hgood : Good {} := by
    refine ⟨rfl, ?_, ?_, rfl, ?_, ?_⟩
    · rintro ⟨goal, hgoal⟩
      cases hgoal
    · rintro ⟨call, hcall⟩
      cases hcall
    · rintro goal ⟨⟩
    · intro goal hanswer
      exact absurd rfl hanswer
  have hspec : wp (executeMoveJPose env goals fuel)
      (fun outputs s' => Reported env goals (.ok outputs, s') ↔ ¬ Overlooked s')
      (fun exit s' => exit = .unfinished ∨ (Reported env goals (.error exit, s') ↔ ¬ Overlooked s')) {} := by
    unfold executeMoveJPose
    split
    · refine .inr (iff_of_true (fun _ goal hgoal => by cases hgoal) ?_)
      rintro ⟨hasked, -⟩
      exact hgood.asked hasked
    · rw [wp_tryCatch]
      refine (body_spec hgood rfl rfl rfl fuel).imp (fun outputs s' hpost => ?_) fun exit s' hleft => ?_
      · exact iff_of_true hpost.1 fun hover => hpost.2 hover.1
      · cases exit with
        | raised original =>
          refine (conclude_reported (hleft original rfl) fuel original).imp ?_ fun _ _ => id
          rintro _ _ ⟨⟩
        | unfinished => exact .inl rfl
  unfold wp at hspec
  split at hspec
  · rename_i outputs s' heq
    rw [heq]
    exact hspec
  · rename_i exit s' heq
    rw [heq] at hdone ⊢
    exact hspec.resolve_left fun hunfinished => hdone (by rw [hunfinished])

/-! ## A goal that is overlooked -/

def raisingGoal : PoseGoal := ⟨"right", "/right/move_j", "right_arm", ["r1"], [1 / 4], 1, 1, 1, 5⟩

/-- The goal is accepted at once; asking for its result raises. -/
def raisingEnv : PoseEnv where
  getResult late _ := if late then .ok () else .error "context is not valid"
  spin n := if n = 0 then .ok [.acceptance 0 (.ok true)] else .ok []
  monotonic n := n / 10

def raisingRun : Except PoseExit (List PoseOutput) × PoseRun :=
  (executeMoveJPose raisingEnv [raisingGoal] 100).exec {}

theorem raisingRun_outcome :
    raisingRun.1 = .error (.raised ⟨"context is not valid", true, some false⟩) := by
  decide +kernel

theorem raisingRun_goal : 0 ∈ raisingRun.2.acceptance ∧
    raisingRun.2.acceptances 0 = some (.ok true) ∧ raisingRun.2.answers 0 = none := by
  decide +kernel

/-- Motion is denied, while the goal is accepted and its result has never been asked for. -/
theorem unasked_result_denied :
    ¬ Reported raisingEnv [raisingGoal] ((executeMoveJPose raisingEnv [raisingGoal] 100).exec {}) := by
  have houtcome := raisingRun_outcome
  obtain ⟨hsent, haccepted, hnone⟩ := raisingRun_goal
  unfold raisingRun at houtcome hsent haccepted hnone
  generalize (executeMoveJPose raisingEnv [raisingGoal] 100).exec {} = run at *
  obtain ⟨outcome, s⟩ := run
  subst houtcome
  intro hreported
  rcases hreported rfl 0 hsent with hrejected | ⟨wrapped, hanswer⟩
  · cases haccepted.symm.trans hrejected
  · cases hnone.symm.trans hanswer

theorem pose_verdict_raising :
    Reported raisingEnv [raisingGoal] ((executeMoveJPose raisingEnv [raisingGoal] 100).exec {}) ↔
      ¬ Overlooked ((executeMoveJPose raisingEnv [raisingGoal] 100).exec {}).2 :=
  pose_verdict raisingEnv [raisingGoal] 100 fun h => by
    rw [show ((executeMoveJPose raisingEnv [raisingGoal] 100).exec {}).1 = _ from raisingRun_outcome] at h
    cases h

end HumanoidMotion
