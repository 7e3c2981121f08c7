import Mathlib.Tactic.Linarith
import Mathlib.Tactic.Positivity
import HumanoidMotion.Simulation.Plant
/-
# The plant stays inside its limits and moves on live commands only

* `CommandDone`, `slot_exec` — what a call does to the slot of a joint.
* `Safe` — inside the limits, kept by every call.
* `Record` — the deadline and the stamp of a slot, by the commands accepted so far.
* `plant_safety` — all of it, over every sequence of calls.
-/

namespace HumanoidMotion

/-! ## One joint -/

/-- `x` lies between `a` and `b`. -/
def Between (a x b : Rat) : Prop := (a ≤ x ∧ x ≤ b) ∨ (b ≤ x ∧ x ≤ a)

theorem Joint.contains_iff (joint : Joint) (value : Rat) : joint.contains value = true ↔
    (∀ lower ∈ joint.lower, lower ≤ value) ∧ ∀ upper ∈ joint.upper, value ≤ upper := by
  unfold Joint.contains
  cases joint.lower <;> cases joint.upper <;> simp

/-- The limits are an interval. -/
theorem Joint.contains_between {joint : Joint} {a x b : Rat} (ha : joint.contains a = true)
    (hb : joint.contains b = true) (h : Between a x b) : joint.contains x = true := by
  rw [contains_iff] at *
  rcases h with ⟨hax, hxb⟩ | ⟨hbx, hxa⟩
  · exact ⟨fun l hl => (ha.1 l hl).trans hax, fun u hu => hxb.trans (hb.2 u hu)⟩
  · exact ⟨fun l hl => (hb.1 l hl).trans hbx, fun u hu => hxa.trans (ha.2 u hu)⟩

namespace Slot

variable {slot : Slot} {speedLimit now dt : Rat}

theorem maximum_nonneg (hspeed : 0 < speedLimit) (hdt : 0 ≤ dt) : 0 ≤ slot.maximum speedLimit dt :=
  mul_nonneg (le_min slot.joint.speed_pos.le hspeed.le) hdt

/-- A distance cut to `±maximum` keeps its direction and does not grow. -/
theorem clamp_spec (distance : Rat) {maximum : Rat} (h : 0 ≤ maximum) :
    |min (max distance (-maximum)) maximum| ≤ maximum ∧
      Between 0 (min (max distance (-maximum)) maximum) distance := by
  have hlow : -maximum ≤ min (max distance (-maximum)) maximum :=
    le_min (le_max_right _ _) (by linarith)
  refine ⟨abs_le.2 ⟨hlow, min_le_right _ _⟩, ?_⟩
  rcases le_total 0 distance with hd | hd
  · rw [max_eq_left (by linarith)]
    exact .inl ⟨le_min hd h, min_le_left _ _⟩
  · refine .inr ⟨le_min (le_max_left _ _) (hd.trans h), ?_⟩
    exact (min_le_left _ _).trans (max_le hd (by linarith))

variable (now) in
/-- The joint goes towards its target, and no further than it may. -/
theorem step_spec (h : 0 ≤ slot.maximum speedLimit dt) :
    |(slot.step speedLimit now dt).position - slot.position| ≤ slot.maximum speedLimit dt ∧
      Between slot.position (slot.step speedLimit now dt).position
        (slot.step speedLimit now dt).target := by
  obtain ⟨hbound, hbetween⟩ := clamp_spec ((slot.step speedLimit now dt).target - slot.position) h
  have hposition : (slot.step speedLimit now dt).position = slot.position +
      min (max ((slot.step speedLimit now dt).target - slot.position)
        (-slot.maximum speedLimit dt)) (slot.maximum speedLimit dt) := rfl
  rw [hposition]
  refine ⟨by rwa [add_sub_cancel_left], ?_⟩
  rcases hbetween with ⟨h₁, h₂⟩ | ⟨h₁, h₂⟩
  · exact .inl ⟨by linarith, by linarith⟩
  · exact .inr ⟨by linarith, by linarith⟩

/-- A joint moves only while its deadline lies ahead, and then towards the target it had. -/
theorem step_moves (h : 0 ≤ slot.maximum speedLimit dt)
    (hmoved : (slot.step speedLimit now dt).position ≠ slot.position) :
    (∃ deadline, slot.deadline = some deadline ∧ now < deadline) ∧
      (slot.step speedLimit now dt).target = slot.target ∧ dt ≠ 0 := by
  have htarget : slot.expired now = false := by
    by_contra hexpired
    rw [Bool.not_eq_false] at hexpired
    have hstay : (slot.step speedLimit now dt).target = slot.position := by simp [step, hexpired]
    have hbetween := (step_spec now h).2
    rw [hstay] at hbetween
    rcases hbetween with ⟨h₁, h₂⟩ | ⟨h₁, h₂⟩
    · exact hmoved (le_antisymm h₂ h₁)
    · exact hmoved (le_antisymm h₂ h₁)
  refine ⟨?_, by simp [step, htarget], ?_⟩
  · cases hdeadline : slot.deadline with
    | none => simp [expired, hdeadline] at htarget
    | some deadline => exact ⟨deadline, rfl, by simpa [expired, hdeadline] using htarget⟩
  · rintro rfl
    have hbound := (step_spec now h).1
    rw [maximum, mul_zero] at hbound
    exact hmoved (sub_eq_zero.1 (abs_eq_zero.1 (le_antisymm hbound (abs_nonneg _))))

end Slot

/-! ## What a call does to a slot -/

/-- A rewind stops the joint and forgets its stamp. -/
def Slot.forget (slot : Slot) : Slot := { slot.hold with stamp := 0 }

/-- The joint takes a target. -/
def Slot.take (slot : Slot) (value : Rat) (stampNs : Int) (deadline : Rat) : Slot :=
  { slot with target := value, stamp := stampNs, deadline := some deadline }

namespace KinematicPlant

variable {self : KinematicPlant} {name : String}

theorem slot_hold : self.hold.slots[name]? = self.slots[name]?.map Slot.hold := by
  simp [hold]

theorem slot_observeClock (rosNs : Int) : (self.observeClock rosNs).slots[name]? =
    if self.rewound rosNs then self.slots[name]?.map Slot.forget else self.slots[name]? := by
  unfold observeClock
  split
  · simp only [hold, Std.TreeMap.getElem?_map, Option.map_map]
    rfl
  · rfl

variable (name) in
theorem slot_accept (stampNs : Int) (deadline : Rat) (entries : List (String × Double)) :
    ∀ slots : StringMap Slot,
    ((∀ value, (name, value) ∉ entries) ∧
      (entries.foldl (accept stampNs deadline) slots)[name]? = slots[name]?) ∨
    ∃ value, (name, value) ∈ entries ∧
      (entries.foldl (accept stampNs deadline) slots)[name]? =
        slots[name]?.map fun slot => slot.take value.val stampNs deadline := by
  induction entries with
  | nil => exact fun slots => .inl ⟨by simp, rfl⟩
  | cons entry entries ih =>
    intro slots
    have hfirst : (accept stampNs deadline slots entry)[name]? =
        if entry.1 = name then slots[name]?.map fun slot => slot.take entry.2.val stampNs deadline
        else slots[name]? := by
      simp only [accept, Std.TreeMap.getElem?_modify, Std.LawfulEqOrd.compare_eq_iff_eq]
      split
      · rename_i heq
        rw [heq]
        rfl
      · rfl
    rw [List.foldl_cons]
    rcases ih (accept stampNs deadline slots entry) with ⟨hno, hrest⟩ | ⟨value, hin, hrest⟩
    · rw [hrest, hfirst]
      by_cases heq : entry.1 = name
      · exact .inr ⟨entry.2, by simp [← heq], by simp [heq]⟩
      · refine .inl ⟨fun value hin => ?_, by simp [heq]⟩
        rcases List.mem_cons.1 hin with rfl | hin
        · exact heq rfl
        · exact hno value hin
    · refine .inr ⟨value, List.mem_cons_of_mem _ hin, ?_⟩
      rw [hrest, hfirst]
      split
      · rw [Option.map_map]
        rfl
      · rfl

/-- A command is refused once the clock is noted, or takes every one of its entries. -/
inductive CommandDone (self : KinematicPlant) (names : List String) (positions : List Double)
    (stampNs rosNs : Int) (monotonicNow : Rat) : Bool × KinematicPlant → Prop
  | refused : CommandDone self names positions stampNs rosNs monotonicNow
      (false, self.observeClock rosNs)
  | accepted (hlen : names.length = positions.length)
      (hentries : (self.observeClock rosNs).entriesOk (names.zip positions) stampNs = true) :
      CommandDone self names positions stampNs rosNs monotonicNow
        (true, { self.observeClock rosNs with
          slots := (names.zip positions).foldl
            (accept stampNs ((self.observeClock rosNs).deadline stampNs rosNs monotonicNow))
            (self.observeClock rosNs).slots })

theorem command_done (self : KinematicPlant) (names : List String) (positions : List Double)
    (stampNs rosNs : Int) (monotonicNow : Rat) :
    CommandDone self names positions stampNs rosNs monotonicNow
      (self.command names positions stampNs rosNs monotonicNow) := by
  unfold command
  dsimp only
  split
  · exact .refused
  · rename_i hshape
    split
    · exact .refused
    · split
      · exact .refused
      · rename_i hentries
        simp only [ne_eq, decide_not, Bool.or_eq_true, Bool.not_eq_true', decide_eq_false_iff_not,
          not_or, not_not, Bool.not_eq_false] at hshape hentries
        exact .accepted hshape.1.2 hentries

@[simp] theorem watchdog_observeClock (rosNs : Int) :
    (self.observeClock rosNs).watchdog = self.watchdog := by
  unfold observeClock
  split <;> rfl

@[simp] theorem speedLimit_observeClock (rosNs : Int) :
    (self.observeClock rosNs).speedLimit = self.speedLimit := by
  unfold observeClock
  split <;> rfl

/-- The settings of a plant do not change. -/
theorem exec_settings (self : KinematicPlant) (op : PlantOp) :
    (self.exec op).2.watchdog = self.watchdog ∧ (self.exec op).2.speedLimit = self.speedLimit := by
  cases op with
  | command names positions stampNs rosNs monotonicNow =>
    have hdone := self.command_done names positions stampNs rosNs monotonicNow
    simp only [exec]
    revert hdone
    generalize self.command names positions stampNs rosNs monotonicNow = done
    intro hdone
    cases hdone <;> simp
  | observeClock rosNs => simp [exec]
  | hold => exact ⟨rfl, rfl⟩
  | step now =>
    simp only [exec, step]
    split <;> exact ⟨rfl, rfl⟩

/-- A call that takes a target for the joint. -/
def Takes (name : String) (op : PlantOp) (reply : Option Bool) : Prop :=
  reply = some true ∧ ∃ names positions stampNs rosNs monotonicNow,
    op = .command names positions stampNs rosNs monotonicNow ∧ name ∈ names

/-- What a call does to the slot of a joint. -/
inductive SlotStep (self : KinematicPlant) (name : String) (op : PlantOp) (reply : Option Bool)
    (slot : Slot) : Slot → Prop
  | kept (htakes : ¬ Takes name op reply) : SlotStep self name op reply slot slot
  | held (htakes : ¬ Takes name op reply) : SlotStep self name op reply slot slot.hold
  | forgot (htakes : ¬ Takes name op reply)
      (hrewound : ∃ rosNs, op.rosNs = some rosNs ∧ self.rewound rosNs = true) :
      SlotStep self name op reply slot slot.forget
  | took (names : List String) (positions : List Double) (stampNs rosNs : Int)
      (monotonicNow : Rat) (base : Slot) (value : Double)
      (hop : op = .command names positions stampNs rosNs monotonicNow) (hreply : reply = some true)
      (hname : name ∈ names)
      (hbase : base = if self.rewound rosNs then slot.forget else slot)
      (hadmits : admits slot.joint value = true) (hnewer : base.stamp < stampNs) :
      SlotStep self name op reply slot
        (base.take value.val stampNs (self.deadline stampNs rosNs monotonicNow))
  | moved (now : Rat) (hop : op = .step now) (hback : 0 ≤ self.elapsed now)
      (hstall : self.elapsed now ≤ self.watchdog) :
      SlotStep self name op reply slot (slot.step self.speedLimit now (self.elapsed now))

/-- A clock reading holds a joint if it has gone back, and does nothing else. -/
theorem SlotStep.observed {op : PlantOp} {reply : Option Bool} {slot : Slot} {rosNs : Int}
    (hop : op.rosNs = some rosNs) (htakes : ¬ Takes name op reply) :
    SlotStep self name op reply slot (if self.rewound rosNs then slot.forget else slot) := by
  split
  · rename_i hrewound
    exact .forgot htakes ⟨rosNs, hop, hrewound⟩
  · exact .kept htakes

/-- The slots before and after a call. -/
theorem slot_exec (self : KinematicPlant) (name : String) (op : PlantOp) :
    (self.slots[name]? = none ∧ (self.exec op).2.slots[name]? = none) ∨
    ∃ slot slot', self.slots[name]? = some slot ∧ (self.exec op).2.slots[name]? = some slot' ∧
      SlotStep self name op (self.exec op).1 slot slot' := by
  have hobserve : ∀ rosNs, (self.observeClock rosNs).slots[name]? =
      self.slots[name]?.map fun slot => if self.rewound rosNs then slot.forget else slot := by
    intro rosNs
    rw [slot_observeClock]
    split
    · rfl
    · simp
  cases hslot : self.slots[name]? with
  | none =>
    left
    refine ⟨rfl, ?_⟩
    cases op with
    | command names positions stampNs rosNs monotonicNow =>
      have hdone := self.command_done names positions stampNs rosNs monotonicNow
      simp only [exec]
      revert hdone
      generalize self.command names positions stampNs rosNs monotonicNow = done
      intro hdone
      cases hdone with
      | refused => simp [hobserve, hslot]
      | accepted =>
        rcases slot_accept name stampNs
          ((self.observeClock rosNs).deadline stampNs rosNs monotonicNow) (names.zip positions)
          (self.observeClock rosNs).slots with ⟨-, h⟩ | ⟨_, -, h⟩
        · simp only [h, hobserve, hslot, Option.map_none]
        · simp only [h, hobserve, hslot, Option.map_none]
    | observeClock rosNs => simp [exec, hobserve, hslot]
    | hold => simp [exec, slot_hold, hslot]
    | step now =>
      simp only [exec, step]
      split
      · simp [hold, hslot]
      · simp [hslot]
  | some slot =>
    right
    suffices h : ∃ slot', (self.exec op).2.slots[name]? = some slot' ∧
        SlotStep self name op (self.exec op).1 slot slot' by
      obtain ⟨slot', hslot', hstep⟩ := h
      exact ⟨slot, slot', rfl, hslot', hstep⟩
    have hnot : ∀ {op reply}, op.rosNs = none → ¬ Takes name op reply := by
      rintro op reply hnone ⟨-, names, positions, stampNs, rosNs, monotonicNow, rfl, -⟩
      cases hnone
    cases op with
    | command names positions stampNs rosNs monotonicNow =>
      have hdone := self.command_done names positions stampNs rosNs monotonicNow
      simp only [exec]
      revert hdone
      generalize self.command names positions stampNs rosNs monotonicNow = done
      intro hdone
      cases hdone with
      | refused =>
        refine ⟨_, by rw [hobserve, hslot]; rfl, .observed rfl ?_⟩
        rintro ⟨h, -⟩
        cases h
      | accepted hlen hentries =>
        rcases slot_accept name stampNs
          ((self.observeClock rosNs).deadline stampNs rosNs monotonicNow) (names.zip positions)
          (self.observeClock rosNs).slots with ⟨hno, h⟩ | ⟨value, hin, h⟩
        · refine ⟨_, by simp only [h, hobserve, hslot, Option.map_some], .observed rfl ?_⟩
          rintro ⟨-, names', positions', _, _, _, hop, hname⟩
          cases hop
          rw [← List.map_fst_zip hlen.le] at hname
          obtain ⟨⟨_, value⟩, hin, rfl⟩ := List.mem_map.1 hname
          exact hno value hin
        · have hentry := List.all_eq_true.1 hentries (name, value) hin
          simp only [hobserve, hslot, Option.map_some, Option.any_some, Bool.and_eq_true,
            decide_eq_true_eq] at hentry
          have hjoint : (if self.rewound rosNs then slot.forget else slot).joint = slot.joint := by
            split <;> rfl
          have hdeadline : (self.observeClock rosNs).deadline stampNs rosNs monotonicNow =
              self.deadline stampNs rosNs monotonicNow := by
            simp [deadline]
          rw [hjoint] at hentry
          rw [hdeadline] at h ⊢
          simp only [hobserve, hslot, Option.map_some] at h
          exact ⟨_, h, .took names positions stampNs rosNs monotonicNow _ value rfl rfl
            (List.of_mem_zip hin).1 rfl hentry.1 hentry.2⟩
    | observeClock rosNs =>
      refine ⟨_, by simp only [exec, hobserve, hslot, Option.map_some], .observed rfl ?_⟩
      rintro ⟨h, -⟩
      cases h
    | hold =>
      exact ⟨_, by simp [exec, slot_hold, hslot], .held (hnot rfl)⟩
    | step now =>
      simp only [exec, step]
      split
      · exact ⟨_, by simp [hold, hslot], .held (hnot rfl)⟩
      · rename_i hdt
        simp only [Bool.or_eq_true, decide_eq_true_eq, not_or, not_lt] at hdt
        exact ⟨_, by simp [hslot], .moved now rfl hdt.1 hdt.2⟩

/-- A command is accepted for joints of the plant only. -/
theorem Takes.slot {op : PlantOp} (h : Takes name op (self.exec op).1) :
    ∃ slot, self.slots[name]? = some slot := by
  obtain ⟨hreply, names, positions, stampNs, rosNs, monotonicNow, rfl, hname⟩ := h
  have hdone := self.command_done names positions stampNs rosNs monotonicNow
  simp only [exec] at hreply
  generalize self.command names positions stampNs rosNs monotonicNow = done at hdone hreply
  cases hdone with
  | refused => cases hreply
  | accepted hlen hentries =>
    rw [← List.map_fst_zip hlen.le] at hname
    obtain ⟨entry, hin, hfirst⟩ := List.mem_map.1 hname
    have hentry := List.all_eq_true.1 hentries entry hin
    simp only [hfirst, slot_observeClock] at hentry
    cases hslot : self.slots[name]? with
    | none => simp [hslot] at hentry
    | some slot => exact ⟨slot, rfl⟩

/-! ## Inside the limits -/

/-- Every joint and every target is inside the limits, and the settings are positive. -/
structure Safe (plant : KinematicPlant) : Prop where
  speedLimit : 0 < plant.speedLimit
  position : ∀ (name : String) slot, plant.slots[name]? = some slot →
    slot.joint.contains slot.position = true
  target : ∀ (name : String) slot, plant.slots[name]? = some slot →
    slot.joint.contains slot.target = true

/-- The target a step follows is inside the limits. -/
theorem step_target {slot : Slot} (speedLimit now dt : Rat)
    (hposition : slot.joint.contains slot.position = true)
    (htarget : slot.joint.contains slot.target = true) :
    slot.joint.contains (slot.step speedLimit now dt).target = true := by
  simp only [Slot.step]
  split
  · exact hposition
  · exact htarget

theorem SlotStep.contains (hspeed : 0 < self.speedLimit) {op : PlantOp} {reply : Option Bool}
    {slot slot' : Slot} (h : SlotStep self name op reply slot slot')
    (hposition : slot.joint.contains slot.position = true)
    (htarget : slot.joint.contains slot.target = true) :
    slot'.joint.contains slot'.position = true ∧ slot'.joint.contains slot'.target = true := by
  cases h with
  | kept => exact ⟨hposition, htarget⟩
  | held | forgot => exact ⟨hposition, hposition⟩
  | took names positions stampNs rosNs monotonicNow base value _ _ _ hbase hadmits _ =>
    have hjoint : base.joint = slot.joint ∧ base.position = slot.position := by
      rw [hbase]
      split <;> exact ⟨rfl, rfl⟩
    simp only [Slot.take, hjoint]
    simp only [admits, Bool.and_eq_true] at hadmits
    exact ⟨hposition, hadmits.2⟩
  | moved now hop hback hstall =>
    have hstep := step_target self.speedLimit now (self.elapsed now) hposition htarget
    exact ⟨Joint.contains_between hposition hstep
      (Slot.step_spec now (Slot.maximum_nonneg hspeed hback)).2, hstep⟩

theorem Safe.exec (h : Safe self) (op : PlantOp) : Safe (self.exec op).2 := by
  have hslots : ∀ (name : String) slot', (self.exec op).2.slots[name]? = some slot' →
      slot'.joint.contains slot'.position = true ∧ slot'.joint.contains slot'.target = true := by
    intro name slot' hslot'
    rcases slot_exec self name op with ⟨-, hnone⟩ | ⟨slot, found, hslot, hfound, hstep⟩
    · rw [hnone] at hslot'
      cases hslot'
    · obtain rfl : found = slot' := Option.some.inj (hfound.symm.trans hslot')
      exact hstep.contains h.speedLimit (h.position name slot hslot) (h.target name slot hslot)
  exact ⟨(exec_settings self op).2 ▸ h.speedLimit, fun name slot hs => (hslots name slot hs).1,
    fun name slot hs => (hslots name slot hs).2⟩

/-- A plant that could be built starts inside the limits. -/
theorem create_safe {joints : StringMap Joint} {initial : StringMap Double}
    {watchdog speedLimit : Double} (h : create joints initial watchdog speedLimit = .ok self) :
    Safe self ∧ ∀ (name : String) slot, self.slots[name]? = some slot →
      slot.deadline = none ∧ joints[name]? = some slot.joint := by
  unfold create at h
  split at h
  · cases h
  · rename_i hsettings
    simp only [Bool.or_eq_true, Bool.not_eq_true', not_or, Bool.not_eq_false] at hsettings
    split at h
    · cases h
    · split at h
      · cases h
      · rename_i hinside
        cases h
        have hslot : ∀ {name : String} {slot : Slot},
            (joints.map fun name joint => Slot.start joint (initial.getD name 0).val)[name]? =
              some slot → ∃ joint, joints[name]? = some joint ∧
                slot = .start joint (initial.getD name 0).val ∧
                joint.contains (initial.getD name 0).val = true := by
          intro name slot hfound
          rw [Std.TreeMap.getElem?_map, Option.map_eq_some_iff] at hfound
          obtain ⟨joint, hjoint, rfl⟩ := hfound
          have hadmits := List.find?_eq_none.1 hinside (name, joint)
            (Std.TreeMap.mem_toList_iff_getElem?_eq_some.2 hjoint)
          simp only [admits, Bool.not_and, Bool.or_eq_true, Bool.not_eq_true', not_or,
            Bool.not_eq_false] at hadmits
          exact ⟨joint, hjoint, rfl, hadmits.2⟩
        refine ⟨⟨?_, fun name slot hfound => ?_, fun name slot hfound => ?_⟩,
          fun name slot hfound => ?_⟩
        · have := hsettings.2
          simp only [Double.isPositive, Bool.and_eq_true, decide_eq_true_eq] at this
          exact this.2
        · obtain ⟨joint, -, rfl, hcontains⟩ := hslot hfound
          exact hcontains
        · obtain ⟨joint, -, rfl, hcontains⟩ := hslot hfound
          exact hcontains
        · obtain ⟨joint, hjoint, rfl, -⟩ := hslot hfound
          exact ⟨rfl, hjoint⟩

end KinematicPlant

/-! ## What the commands so far have left behind -/

namespace PlantRun

open KinematicPlant

abbrev Stage := Machine.Stage KinematicPlant PlantOp (Option Bool)

/-- The stage takes a target for the joint, with stamp `stamp`, to be followed until `limit`. -/
def Accepts (watchdog : Rat) (g : Stage) (name : String) (stamp : Int) (limit : Rat) : Prop :=
  g.output = some true ∧ ∃ names positions rosNs receivedAt,
    g.input = .command names positions stamp rosNs receivedAt ∧ name ∈ names ∧
      limit = receivedAt + watchdog - max 0 (sourceAge stamp rosNs)

/-- The ROS clock goes back at this stage. -/
def Rewinds (g : Stage) : Prop :=
  ∃ rosNs, g.input.rosNs = some rosNs ∧ g.before.rewound rosNs = true

def stageOf (plant : KinematicPlant) (op : PlantOp) : Stage :=
  ⟨plant, op, (plant.exec op).1, (plant.exec op).2⟩

/-- The deadline of a slot is that of the last command accepted for it, and its stamp is no older
than those accepted since the clock went back. -/
structure Record (watchdog : Rat) (past : List Stage) (plant : KinematicPlant) : Prop where
  settings : plant.watchdog = watchdog
  deadline : ∀ (name : String) slot limit, plant.slots[name]? = some slot →
    slot.deadline = some limit → ∃ (i : Nat) (g : Stage) (stamp : Int), past[i]? = some g ∧
      Accepts watchdog g name stamp limit ∧
      ∀ (n : Nat) (g' : Stage), i < n → past[n]? = some g' → ¬ Takes name g'.input g'.output
  stamp : ∀ (name : String) slot (i : Nat) (g : Stage) (stamp : Int) (limit : Rat),
    plant.slots[name]? = some slot → past[i]? = some g → Accepts watchdog g name stamp limit →
    (∀ (n : Nat) (g' : Stage), i < n → past[n]? = some g' → ¬ Rewinds g') → stamp ≤ slot.stamp

variable {watchdog : Rat} {past : List Stage} {plant : KinematicPlant} {name : String}

theorem Accepts.takes {g : Stage} {stamp : Int} {limit : Rat}
    (h : Accepts watchdog g name stamp limit) : Takes name g.input g.output := by
  obtain ⟨houtput, names, positions, rosNs, receivedAt, hinput, hname, -⟩ := h
  exact ⟨houtput, names, positions, stamp, rosNs, receivedAt, hinput, hname⟩

/-- An index into the past with one more stage. -/
theorem snoc_cases {g g' : Stage} {n : Nat} (h : (past ++ [g])[n]? = some g') :
    past[n]? = some g' ∨ (n = past.length ∧ g' = g) := by
  rcases Nat.lt_or_ge n past.length with hlt | hge
  · rw [List.getElem?_append_left hlt] at h
    exact .inl h
  · rw [List.getElem?_append_right hge, List.getElem?_singleton] at h
    split at h
    · cases h
      exact .inr ⟨by omega, rfl⟩
    · cases h

/-- A deadline that is kept is still the last one, unless the stage takes a target. -/
theorem Record.deadline_snoc (h : Record watchdog past plant) {op : PlantOp} {slot : Slot}
    {limit : Rat} (hslot : plant.slots[name]? = some slot) (hlimit : slot.deadline = some limit)
    (htakes : ¬ Takes name op (plant.exec op).1) :
    ∃ (i : Nat) (g : Stage) (stamp : Int), (past ++ [stageOf plant op])[i]? = some g ∧
      Accepts watchdog g name stamp limit ∧ ∀ (n : Nat) (g' : Stage), i < n →
        (past ++ [stageOf plant op])[n]? = some g' → ¬ Takes name g'.input g'.output := by
  obtain ⟨i, g, stamp, hg, hacc, hlast⟩ := h.deadline name slot limit hslot hlimit
  refine ⟨i, g, stamp, ?_, hacc, fun n g' hn hg' => ?_⟩
  · rw [List.getElem?_append_left (List.getElem?_eq_some_iff.1 hg).1]
    exact hg
  · rcases snoc_cases hg' with hold | ⟨-, rfl⟩
    · exact hlast n g' hn hold
    · exact htakes

theorem Record.exec (h : Record watchdog past plant) (op : PlantOp) :
    Record watchdog (past ++ [stageOf plant op]) (plant.exec op).2 where
  settings := (exec_settings plant op).1.trans h.settings
  deadline := by
    intro name slot' limit hslot' hlimit
    rcases slot_exec plant name op with ⟨-, hnone⟩ | ⟨slot, found, hslot, hfound, hstep⟩
    · rw [hnone] at hslot'
      cases hslot'
    obtain rfl : found = slot' := Option.some.inj (hfound.symm.trans hslot')
    generalize hreply : (plant.exec op).1 = reply at hstep
    cases hstep with
    | kept htakes => exact h.deadline_snoc hslot hlimit (hreply ▸ htakes)
    | held | forgot => cases hlimit
    | took names positions stampNs rosNs receivedAt base value hop htrue hname _ _ _ =>
      refine ⟨past.length, stageOf plant op, stampNs, by simp, ?_, fun n g' hn hg' => ?_⟩
      · refine ⟨hreply.trans htrue, names, positions, rosNs, receivedAt, hop, hname, ?_⟩
        rw [← h.settings]
        exact (Option.some.inj hlimit).symm
      · have := (List.getElem?_eq_some_iff.1 hg').1
        simp only [List.length_append, List.length_singleton] at this
        omega
    | moved now hop _ _ =>
      refine h.deadline_snoc hslot hlimit ?_
      rintro ⟨-, _, _, _, _, _, hcommand, -⟩
      rw [hop] at hcommand
      cases hcommand
  stamp := by
    intro name slot' i g stamp limit hslot' hg hacc hnorewind
    rcases slot_exec plant name op with ⟨-, hnone⟩ | ⟨slot, found, hslot, hfound, hstep⟩
    · rw [hnone] at hslot'
      cases hslot'
    obtain rfl : found = slot' := Option.some.inj (hfound.symm.trans hslot')
    generalize hreply : (plant.exec op).1 = reply at hstep
    -- the stamps accepted before this stage
    have hbefore : past[i]? = some g → stamp ≤ slot.stamp := by
      intro hold
      refine h.stamp name slot i g stamp limit hslot hold hacc fun n g' hn hg' => ?_
      refine hnorewind n g' hn ?_
      rw [List.getElem?_append_left (List.getElem?_eq_some_iff.1 hg').1]
      exact hg'
    have hquiet : past[i]? = some g → ¬ Rewinds (stageOf plant op) := fun hold =>
      hnorewind past.length _ (List.getElem?_eq_some_iff.1 hold).1 (by simp)
    have hown : ∀ (htakes : ¬ Takes name op reply), past[i]? = some g := by
      intro htakes
      rcases snoc_cases hg with hold | ⟨-, rfl⟩
      · exact hold
      · exact absurd (hreply ▸ hacc.takes) htakes
    cases hstep with
    | kept htakes => exact hbefore (hown htakes)
    | held htakes => exact hbefore (hown htakes)
    | forgot htakes hrewound => exact absurd hrewound (hquiet (hown htakes))
    | took names positions stampNs rosNs receivedAt base value hop htrue hname hbase _ hnewer =>
      rcases snoc_cases hg with hold | ⟨-, rfl⟩
      · have hkept : ¬ plant.rewound rosNs = true := fun hrewound =>
          hquiet hold ⟨rosNs, by rw [stageOf, hop]; rfl, hrewound⟩
        rw [if_neg hkept] at hbase
        exact (hbefore hold).trans (hbase ▸ hnewer.le)
      · obtain ⟨-, _, _, _, _, hinput, -, -⟩ := hacc
        rw [stageOf, hop] at hinput
        cases hinput
        exact le_rfl
    | moved now hop _ _ =>
      refine hbefore (hown ?_)
      rintro ⟨-, _, _, _, _, _, hcommand, -⟩
      rw [hop] at hcommand
      cases hcommand

/-! ## Every run -/

/-- What every call keeps of a plant built from `joints`. -/
structure Built (joints : StringMap Joint) (watchdog speedLimit : Rat) (plant : KinematicPlant) :
    Prop where
  safe : Safe plant
  joint : ∀ (name : String) slot, plant.slots[name]? = some slot → joints[name]? = some slot.joint
  watchdogEq : plant.watchdog = watchdog
  speedLimitEq : plant.speedLimit = speedLimit

theorem joint_of_step {op : PlantOp} {reply : Option Bool} {slot slot' : Slot}
    (h : SlotStep plant name op reply slot slot') : slot'.joint = slot.joint := by
  cases h with
  | took _ _ _ _ _ base _ _ _ _ hbase _ _ =>
    have hjoint : base.joint = slot.joint := by
      rw [hbase]
      split <;> rfl
    exact hjoint
  | _ => rfl

theorem Built.exec {joints : StringMap Joint} {watchdog speedLimit : Rat}
    (h : Built joints watchdog speedLimit plant) (op : PlantOp) :
    Built joints watchdog speedLimit (plant.exec op).2 where
  safe := h.safe.exec op
  joint name slot' hslot' := by
    rcases slot_exec plant name op with ⟨-, hnone⟩ | ⟨slot, found, hslot, hfound, hstep⟩
    · rw [hnone] at hslot'
      cases hslot'
    · obtain rfl : found = slot' := Option.some.inj (hfound.symm.trans hslot')
      rw [joint_of_step hstep]
      exact h.joint name slot hslot
  watchdogEq := (exec_settings plant op).1.trans h.watchdogEq
  speedLimitEq := (exec_settings plant op).2.trans h.speedLimitEq

/-- A joint that has moved was stepped, on a live deadline and towards its target. -/
theorem moved_by_step (hsafe : Safe plant) {op : PlantOp} {slot slot' : Slot}
    (hstep : SlotStep plant name op (plant.exec op).1 slot slot')
    (hmoved : slot'.position ≠ slot.position) :
    ∃ now last limit, op = .step now ∧ plant.lastStep = some last ∧ 0 < now - last ∧
      now - last ≤ plant.watchdog ∧
      |slot'.position - slot.position| ≤ min slot.joint.speed plant.speedLimit * (now - last) ∧
      Between slot.position slot'.position slot.target ∧
      slot.deadline = some limit ∧ now < limit := by
  cases hstep with
  | kept | held | forgot => exact absurd rfl hmoved
  | took _ _ _ _ _ base _ _ _ _ hbase _ _ =>
    refine absurd ?_ hmoved
    have hposition : base.position = slot.position := by
      rw [hbase]
      split <;> rfl
    exact hposition
  | moved now hop hback hstall =>
    have hmax : 0 ≤ slot.maximum plant.speedLimit (plant.elapsed now) :=
      Slot.maximum_nonneg hsafe.speedLimit hback
    obtain ⟨⟨limit, hlimit, hlive⟩, htarget, hne⟩ := Slot.step_moves hmax hmoved
    obtain ⟨hbound, hbetween⟩ := Slot.step_spec now hmax
    rw [htarget] at hbetween
    obtain ⟨last, hlast⟩ : ∃ last, plant.lastStep = some last := by
      cases hlast : plant.lastStep with
      | none => simp [elapsed, hlast] at hne
      | some last => exact ⟨last, rfl⟩
    have helapsed : plant.elapsed now = now - last := by simp [elapsed, hlast]
    rw [Slot.maximum, helapsed] at hbound
    rw [helapsed] at hback hstall hne hbetween
    exact ⟨now, last, limit, hop, hlast, lt_of_le_of_ne hback (Ne.symm hne), hstall,
      helapsed ▸ hbound, helapsed ▸ hbetween, hlimit, hlive⟩

/-- Unless the clock goes back, an accepted stamp is newer than that of the slot. -/
theorem newer_of_accepts {watchdog : Rat} {g : Stage} {slot : Slot} {stamp : Int} {limit : Rat}
    (hexec : g.before.exec g.input = (g.output, g.after)) (hslot : g.before.slots[name]? = some slot)
    (hacc : Accepts watchdog g name stamp limit) (hquiet : ¬ Rewinds g) : slot.stamp < stamp := by
  rcases slot_exec g.before name g.input with ⟨hnone, -⟩ | ⟨first, second, hfirst, -, hstep⟩
  · rw [hnone] at hslot
    cases hslot
  obtain rfl : first = slot := Option.some.inj (hfirst.symm.trans hslot)
  rw [hexec] at hstep
  have htakes := hacc.takes
  obtain ⟨-, names, positions, rosNs, receivedAt, hinput, -, -⟩ := hacc
  cases hstep with
  | kept hnot | held hnot | forgot hnot => exact absurd htakes hnot
  | took _ _ _ rosNs' _ base _ hop _ _ hbase _ hnewer =>
    rw [hinput] at hop
    cases hop
    have hkept : ¬ g.before.rewound rosNs = true := fun hrewound =>
      hquiet ⟨rosNs, by rw [hinput]; rfl, hrewound⟩
    rw [if_neg hkept] at hbase
    exact hbase ▸ hnewer
  | moved now hop _ _ =>
    rw [hinput] at hop
    cases hop

end PlantRun

open KinematicPlant PlantRun in
/-- Over every sequence of calls on a plant that could be built: joints and targets stay inside the
limits; a joint moves in a step only, no further than its speed allows and not past its target, on
the deadline of the last command accepted for it; a refused command changes nothing that a rewind
of the clock does not; and until such a rewind the accepted stamps of a joint grow. -/
theorem plant_safety {joints : StringMap Joint} {initial : StringMap Double}
    {watchdog speedLimit : Double} {plant : KinematicPlant}
    (hbuilt : create joints initial watchdog speedLimit = .ok plant) (ops : List PlantOp) :
    (∀ (name : String) slot, (plantMachine.run plant ops).slots[name]? = some slot →
      joints[name]? = some slot.joint ∧ slot.joint.contains slot.position = true ∧
        slot.joint.contains slot.target = true) ∧
    (∀ (k : Nat) (g : Stage), (plantMachine.trace plant ops)[k]? = some g →
      ∀ (name : String) slot slot', g.before.slots[name]? = some slot →
        g.after.slots[name]? = some slot' → slot'.position ≠ slot.position →
      ∃ now last, g.input = .step now ∧ g.before.lastStep = some last ∧ 0 < now - last ∧
        now - last ≤ watchdog.val ∧
        |slot'.position - slot.position| ≤ min slot.joint.speed speedLimit.val * (now - last) ∧
        Between slot.position slot'.position slot.target ∧
        ∃ (i : Nat) (gi : Stage) (stamp : Int) (limit : Rat), i < k ∧
          (plantMachine.trace plant ops)[i]? = some gi ∧
          Accepts watchdog.val gi name stamp limit ∧ now < limit ∧
          ∀ (n : Nat) (gn : Stage), i < n → n < k → (plantMachine.trace plant ops)[n]? = some gn →
            ¬ Takes name gn.input gn.output) ∧
    (∀ g ∈ plantMachine.trace plant ops, ∀ names positions stampNs rosNs receivedAt,
      g.input = .command names positions stampNs rosNs receivedAt → g.output = some false →
      g.after.slots = (g.before.observeClock rosNs).slots ∧
        (g.before.rewound rosNs = false → g.after.slots = g.before.slots)) ∧
    (∀ (i j : Nat) (gi gj : Stage) (name : String) (stamp stamp' : Int) (limit limit' : Rat),
      i < j → (plantMachine.trace plant ops)[i]? = some gi →
      (plantMachine.trace plant ops)[j]? = some gj →
      Accepts watchdog.val gi name stamp limit → Accepts watchdog.val gj name stamp' limit' →
      (∀ (n : Nat) (gn : Stage), i < n → n ≤ j → (plantMachine.trace plant ops)[n]? = some gn →
        ¬ Rewinds gn) →
      stamp < stamp') := by
  obtain ⟨hsafe, hstart⟩ := create_safe hbuilt
  obtain ⟨hwatchdog, hspeed⟩ : plant.watchdog = watchdog.val ∧ plant.speedLimit = speedLimit.val := by
    unfold create at hbuilt
    split at hbuilt
    · cases hbuilt
    · split at hbuilt
      · cases hbuilt
      · split at hbuilt <;> cases hbuilt
        exact ⟨rfl, rfl⟩
  have hinit : Built joints watchdog.val speedLimit.val plant :=
    ⟨hsafe, fun name slot hslot => (hstart name slot hslot).2, hwatchdog, hspeed⟩
  have hkeeps : ∀ (s : KinematicPlant) (op : PlantOp), Built joints watchdog.val speedLimit.val s →
      True → Built joints watchdog.val speedLimit.val (plantMachine.step s op).2 :=
    fun s op h _ => h.exec op
  have hrecord : Record watchdog.val [] plant := by
    refine ⟨hwatchdog, fun name slot limit hslot hlimit => ?_, fun name slot i g stamp limit _ hg => ?_⟩
    · rw [(hstart name slot hslot).1] at hlimit
      cases hlimit
    · cases hg
  have hpast : ∀ (k : Nat) (g : Stage), (plantMachine.trace plant ops)[k]? = some g →
      Record watchdog.val ((plantMachine.trace plant ops).take k) g.before := fun k g hg =>
    Machine.trace_history (M := plantMachine) (H := Record watchdog.val)
      (fun past s op h => h.exec op) hrecord hg
  refine ⟨fun name slot hslot => ?_, fun k g hg name slot slot' hslot hslot' hmoved => ?_,
    fun g hg names positions stampNs rosNs receivedAt hinput houtput => ?_,
    fun i j gi gj name stamp stamp' limit limit' hij hi hj hacc hacc' hquiet => ?_⟩
  · have hend := Machine.run_invariant hkeeps hinit (Machine.meets_true plant ops)
    exact ⟨hend.joint name slot hslot, hend.safe.position name slot hslot,
      hend.safe.target name slot hslot⟩
  · have hbefore := (Machine.trace_invariant hkeeps hinit (Machine.meets_true plant ops) g
      (List.mem_of_getElem? hg)).1
    have hexec : g.before.exec g.input = (g.output, g.after) :=
      Machine.trace_step (List.mem_of_getElem? hg)
    rcases slot_exec g.before name g.input with ⟨hnone, -⟩ | ⟨first, second, hfirst, hsecond, hstep⟩
    · rw [hnone] at hslot
      cases hslot
    rw [hexec] at hsecond
    obtain rfl : first = slot := Option.some.inj (hfirst.symm.trans hslot)
    obtain rfl : second = slot' := Option.some.inj (hsecond.symm.trans hslot')
    obtain ⟨now, last, limit, hop, hlast, hpos, hstall, hbound, hbetween, hdeadline, hlive⟩ :=
      moved_by_step hbefore.safe hstep hmoved
    obtain ⟨i, gi, stamp, hgi, haccepts, hnone⟩ := (hpast k g hg).deadline name first limit hfirst hdeadline
    have hik : i < k := by
      have := (List.getElem?_eq_some_iff.1 hgi).1
      simp only [List.length_take] at this
      omega
    rw [List.getElem?_take_of_lt hik] at hgi
    refine ⟨now, last, hop, hlast, hpos, hbefore.watchdogEq ▸ hstall, hbefore.speedLimitEq ▸ hbound,
      hbetween, i, gi, stamp, limit, hik, hgi, haccepts, hlive, fun n gn hn hnk hgn => ?_⟩
    exact hnone n gn hn (by rw [List.getElem?_take_of_lt hnk]; exact hgn)
  · have hexec : g.before.exec g.input = (g.output, g.after) := Machine.trace_step hg
    have hdone := g.before.command_done names positions stampNs rosNs receivedAt
    rw [hinput] at hexec
    simp only [KinematicPlant.exec, Prod.mk.injEq] at hexec
    rw [← hexec.2]
    have hfalse : (g.before.command names positions stampNs rosNs receivedAt).1 = false :=
      Option.some.inj (hexec.1.trans houtput)
    revert hdone hfalse
    generalize g.before.command names positions stampNs rosNs receivedAt = done
    intro hdone hfalse
    cases hdone with
    | refused => exact ⟨rfl, fun hquiet => by simp [observeClock, hquiet]⟩
    | accepted => cases hfalse
  · have hexec : gj.before.exec gj.input = (gj.output, gj.after) :=
      Machine.trace_step (List.mem_of_getElem? hj)
    have htakes : Takes name gj.input (gj.before.exec gj.input).1 := by
      rw [hexec]
      exact hacc'.takes
    obtain ⟨slot, hslot⟩ := htakes.slot
    have hold : stamp ≤ slot.stamp := by
      refine (hpast j gj hj).stamp name slot i gi stamp limit hslot ?_ hacc fun n gn hn hgn => ?_
      · rw [List.getElem?_take_of_lt hij]
        exact hi
      · have hnj : n < j := by
          have := (List.getElem?_eq_some_iff.1 hgn).1
          simp only [List.length_take] at this
          omega
        rw [List.getElem?_take_of_lt hnj] at hgn
        exact hquiet n gn hn hnj.le hgn
    exact hold.trans_lt (newer_of_accepts hexec hslot hacc' (hquiet j gj hij le_rfl hj))

namespace Fixture

/-- One joint of the plant of `test_simulation.py:165`, at rest. -/
def oneJoint : StringMap Joint := (∅ : StringMap Joint).insert "left" ⟨some (-2), some 2, 1, by decide⟩

def atRest : StringMap Double := (∅ : StringMap Double).insert "left" 0

def restingPlant : KinematicPlant where
  slots := oneJoint.map fun name joint => .start joint (atRest.getD name 0).val
  watchdog := 1 / 10
  speedLimit := 3

theorem restingPlant_built :
    KinematicPlant.create oneJoint atRest (.fin (1 / 10)) 3 = .ok restingPlant := by
  unfold KinematicPlant.create
  rw [if_neg (by decide +kernel)]
  split
  · rename_i joint h
    have hnone : oneJoint.toList.find? (fun joint => !atRest.contains joint.1) = none := by
      decide +kernel
    rw [hnone] at h
    cases h
  · split
    · rename_i joint h
      have hnone : oneJoint.toList.find? (fun joint =>
          !KinematicPlant.admits joint.2 (atRest.getD joint.1 0)) = none := by
        decide +kernel
      rw [hnone] at h
      cases h
    · rfl

/-- A command for one joint, a step of 10 ms on it, and a replay of the command. -/
def plantOps : List PlantOp :=
  [.step 10, .command ["left"] [1] 1000000000 1000000000 10, .step (1001 / 100),
    .command ["left"] [1] 1000000000 1040000000 (1004 / 100)]

end Fixture

open KinematicPlant Fixture in
theorem plant_safety_replay :
    ((plantMachine.run restingPlant (plantOps.take 3)).exec
        (.command ["left"] [1] 1000000000 1040000000 (1004 / 100))).2.slots =
      (plantMachine.run restingPlant (plantOps.take 3)).slots :=
  ((plant_safety restingPlant_built plantOps).2.2.1 _ (.tail _ (.tail _ (.tail _ (.head _))))
    ["left"] [1] 1000000000 1040000000 (1004 / 100) rfl (by decide +kernel)).2 (by decide +kernel)

end HumanoidMotion
