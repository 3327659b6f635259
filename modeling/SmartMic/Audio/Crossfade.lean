import SmartMic.Audio.SampleArithmetic

set_option autoImplicit false

/-! The two ramps of the router. `Crossfade` and `GainRamp` keep the same four
fields and move them in the same way, so both are the one record `Ramp`; they
differ in the start value and in the gain curve read off the position.

Positions, steps and targets are rationals, rounded after every operation as the
arithmetic of the samples rounds. The cosine and the sine of the curves are a
parameter. -/

namespace SmartMic.Audio

/-- `std::clamp`. -/
def clamp (value low high : ℚ) : ℚ :=
  if value < low then low else if high < value then high else value

structure Ramp (α : Type := Sample) where
  position : ℚ
  target : ℚ
  step : ℚ
  remaining : Nat
  deriving DecidableEq

/-- The samples of a full 0 to 1 traversal. -/
def fullSamples (durationMs : BitVec 32) : Nat := max 1 (millisToSamples durationMs)

/-- The curves from a ramp position to a gain: cosine and sine of the quarter
turn for the two sides of the crossfade, raised cosine for the gate. -/
structure GainCurves (α : Type := Sample) where
  cosine : ℚ → α
  sine : ℚ → α
  raisedCosine : ℚ → α

/-- `GainPair`; `local` is a keyword here. -/
structure GainPair (α : Type := Sample) where
  local_ : α
  phone : α

/-- `Crossfade`, 0 = local and 1 = phone. -/
abbrev Crossfade (α : Type := Sample) := Ramp α

/-- `GainRamp`, 0 = silent and 1 = open. -/
abbrev GainRamp (α : Type := Sample) := Ramp α

section

variable {α : Type}

def Ramp.active (ramp : Ramp α) : Bool := decide (0 < ramp.remaining)

theorem Ramp.active_iff (ramp : Ramp α) : ramp.active = true ↔ 0 < ramp.remaining :=
  decide_eq_true_iff

variable [SampleArithmetic α]

def Ramp.moveTo (ramp : Ramp α) (target : ℚ) (durationMs : BitVec 32) : Ramp α :=
  let target := clamp target 0 1
  let distance := rounded α (target - ramp.position)
  if distance = 0 then { ramp with target := target, remaining := 0, step := 0 }
  else
    let full := rounded α (fullSamples durationMs)
    let samples := max 1 ⌈rounded α (full * |distance|)⌉₊
    { ramp with
      target := target
      remaining := samples
      step := rounded α (distance / rounded α samples) }

def Ramp.snapTo (target : ℚ) : Ramp α :=
  { position := clamp target 0 1
    target := clamp target 0 1
    step := 0
    remaining := 0 }

/-- The part of `next` that both ramps share: one sample of movement. -/
def Ramp.advance (ramp : Ramp α) : Ramp α :=
  if ramp.remaining = 0 then ramp
  else
    let moved := rounded α (ramp.position + ramp.step)
    -- land exactly, no drift
    let landed := if ramp.remaining - 1 = 0 then ramp.target else moved
    { ramp with position := clamp landed 0 1, remaining := ramp.remaining - 1 }

def Crossfade.initial : Crossfade α :=
  { position := 0, target := 0, step := 0, remaining := 0 }

def Crossfade.fadeTo (fade : Crossfade α) (target : ℚ) (durationMs : BitVec 32) : Crossfade α :=
  Ramp.moveTo fade target durationMs

def Crossfade.snapTo (_fade : Crossfade α) (target : ℚ) : Crossfade α := Ramp.snapTo target

def Crossfade.next (curves : GainCurves α) (fade : Crossfade α) : GainPair α × Crossfade α :=
  let fade := Ramp.advance fade
  ({ local_ := curves.cosine fade.position, phone := curves.sine fade.position }, fade)

def GainRamp.initial (value : ℚ) : GainRamp α :=
  { position := value, target := value, step := 0, remaining := 0 }

def GainRamp.rampTo (gate : GainRamp α) (target : ℚ) (durationMs : BitVec 32) : GainRamp α :=
  Ramp.moveTo gate target durationMs

def GainRamp.snapTo (_gate : GainRamp α) (target : ℚ) : GainRamp α := Ramp.snapTo target

def GainRamp.next (curves : GainCurves α) (gate : GainRamp α) : α × GainRamp α :=
  let gate := Ramp.advance gate
  (curves.raisedCosine gate.position, gate)

end

/-! ### What every ramp keeps -/

/-- A ramp whose full traversal takes `full` samples: it is inside the unit interval at
numbers of the format, never has more than a full traversal left, is at its target when it
rests, and does not step away from 0 when it heads there. -/
structure Ramp.Sound {α : Type} [SampleArithmetic α] (full : Nat) (ramp : Ramp α) : Prop where
  positionLow : 0 ≤ ramp.position
  positionHigh : ramp.position ≤ 1
  targetLow : 0 ≤ ramp.target
  targetHigh : ramp.target ≤ 1
  positionHeld : (SampleArithmetic.rounding α).Holds ramp.position
  targetHeld : (SampleArithmetic.rounding α).Holds ramp.target
  bounded : ramp.remaining ≤ full
  rests : ramp.remaining = 0 → ramp.position = ramp.target
  homeward : ramp.target = 0 → ramp.step ≤ 0

theorem clamp_low (value : ℚ) : 0 ≤ clamp value 0 1 := by
  unfold clamp
  split
  · exact le_refl 0
  · rename_i low
    split
    · exact zero_le_one
    · exact not_lt.mp low

theorem clamp_high (value : ℚ) : clamp value 0 1 ≤ 1 := by
  unfold clamp
  split
  · exact zero_le_one
  · split
    · exact le_refl 1
    · rename_i high
      exact not_lt.mp high

theorem clamp_inside {value : ℚ} (low : 0 ≤ value) (high : value ≤ 1) :
    clamp value 0 1 = value := by
  unfold clamp
  rw [if_neg (not_lt.mpr low), if_neg (not_lt.mpr high)]

@[simp]
theorem clamp_zero : clamp 0 0 1 = 0 := clamp_inside (le_refl 0) zero_le_one

@[simp]
theorem clamp_one : clamp 1 0 1 = 1 := clamp_inside zero_le_one (le_refl 1)

theorem fullSamples_pos (durationMs : BitVec 32) : 0 < fullSamples durationMs :=
  Nat.lt_of_lt_of_le Nat.zero_lt_one (Nat.le_max_left _ _)

section

variable {α : Type} [SampleArithmetic α]

def rampSamples (α : Type) [SampleArithmetic α] (durationMs : BitVec 32) : Nat :=
  max 1 ⌈rounded α (fullSamples durationMs)⌉₊

theorem clamp_holds {value : ℚ} (holds : (SampleArithmetic.rounding α).Holds value) :
    (SampleArithmetic.rounding α).Holds (clamp value 0 1) := by
  unfold clamp
  split
  · exact Rounding.holds_zero _
  · split
    · exact Rounding.holds_one _
    · exact holds

theorem Ramp.sound_rest (full : Nat) {value : ℚ} (low : 0 ≤ value) (high : value ≤ 1)
    (holds : (SampleArithmetic.rounding α).Holds value) :
    Ramp.Sound full
      ({ position := value, target := value, step := 0, remaining := 0 } : Ramp α) :=
  { positionLow := low
    positionHigh := high
    targetLow := low
    targetHigh := high
    positionHeld := holds
    targetHeld := holds
    bounded := Nat.zero_le _
    rests := fun _rest => rfl
    homeward := fun _home => le_refl 0 }

@[simp]
theorem Ramp.moveTo_target (ramp : Ramp α) (target : ℚ) (durationMs : BitVec 32) :
    (ramp.moveTo target durationMs).target = clamp target 0 1 := by
  unfold Ramp.moveTo
  dsimp only
  split <;> rfl

@[simp]
theorem Ramp.moveTo_position (ramp : Ramp α) (target : ℚ) (durationMs : BitVec 32) :
    (ramp.moveTo target durationMs).position = ramp.position := by
  unfold Ramp.moveTo
  dsimp only
  split <;> rfl

/-- A retarget overwrites everything but the position. -/
theorem Ramp.moveTo_of_position {ramp other : Ramp α} (same : ramp.position = other.position)
    (target : ℚ) (durationMs : BitVec 32) :
    ramp.moveTo target durationMs = other.moveTo target durationMs := by
  unfold Ramp.moveTo
  rw [same]

theorem Ramp.moveTo_of_there {ramp : Ramp α} {target : ℚ} (durationMs : BitVec 32)
    (there : ramp.position = clamp target 0 1) :
    (ramp.moveTo target durationMs).remaining = 0 := by
  unfold Ramp.moveTo
  dsimp only
  rw [if_pos (by rw [there, sub_self]; exact Rounding.zero _)]

theorem samples_le_full {distance : ℚ} (durationMs : BitVec 32) (short : |distance| ≤ 1) :
    max 1 ⌈rounded α (rounded α (fullSamples durationMs) * |distance|)⌉₊ ≤
      rampSamples α durationMs := by
  have positive : 0 ≤ rounded α (fullSamples durationMs : ℚ) :=
    Rounding.nonneg (Nat.cast_nonneg _)
  apply max_le_max_left
  apply Nat.ceil_mono
  apply (Rounding.holds_round _ _).round_le
  exact mul_le_of_le_one_right positive short

theorem Ramp.Sound.moveTo {ramp : Ramp α} (durationMs : BitVec 32)
    (sound : ramp.Sound (rampSamples α durationMs)) {target : ℚ}
    (holds : (SampleArithmetic.rounding α).Holds target) :
    (ramp.moveTo target durationMs).Sound (rampSamples α durationMs) := by
  have held := clamp_holds holds
  have low := clamp_low target
  have high := clamp_high target
  unfold Ramp.moveTo
  dsimp only
  split
  · rename_i zero
    exact
      { positionLow := sound.positionLow
        positionHigh := sound.positionHigh
        targetLow := low
        targetHigh := high
        positionHeld := sound.positionHeld
        targetHeld := held
        bounded := Nat.zero_le _
        rests := fun _rest => ((held.sub_eq_zero_iff sound.positionHeld).mp zero).symm
        homeward := fun _home => le_refl 0 }
  · have short : |rounded α (clamp target 0 1 - ramp.position)| ≤ 1 := by
      have one := Rounding.holds_one (SampleArithmetic.rounding α)
      rw [abs_le]
      constructor
      · exact one.neg.le_round (by linarith [sound.positionHigh])
      · exact one.round_le (by linarith [sound.positionLow])
    exact
      { positionLow := sound.positionLow
        positionHigh := sound.positionHigh
        targetLow := low
        targetHigh := high
        positionHeld := sound.positionHeld
        targetHeld := held
        bounded := samples_le_full durationMs short
        rests := fun rest => absurd (rest.symm.trans_ge (Nat.le_max_left 1 _)) (by decide)
        homeward := by
          intro home
          have back : rounded α (clamp target 0 1 - ramp.position) ≤ 0 :=
            Rounding.nonpos (by linarith [sound.positionLow, (home : clamp target 0 1 = 0)])
          exact Rounding.nonpos (div_nonpos_of_nonpos_of_nonneg back
            (Rounding.nonneg (Nat.cast_nonneg _))) }

@[simp]
theorem Ramp.advance_remaining (ramp : Ramp α) :
    ramp.advance.remaining = ramp.remaining - 1 := by
  unfold Ramp.advance
  split
  · rename_i done
    rw [done]
  · rfl

@[simp]
theorem Ramp.advance_target (ramp : Ramp α) : ramp.advance.target = ramp.target := by
  unfold Ramp.advance
  split <;> rfl

theorem Ramp.advance_step (ramp : Ramp α) : ramp.advance.step = ramp.step := by
  unfold Ramp.advance
  split <;> rfl

theorem Ramp.advance_of_rest {ramp : Ramp α} (rest : ramp.remaining = 0) :
    ramp.advance = ramp := by
  unfold Ramp.advance
  rw [if_pos rest]

theorem Ramp.Sound.advance {full : Nat} {ramp : Ramp α} (sound : ramp.Sound full) :
    ramp.advance.Sound full := by
  unfold Ramp.advance
  dsimp only
  split
  · exact sound
  · have held : (SampleArithmetic.rounding α).Holds
        (if ramp.remaining - 1 = 0 then ramp.target
          else rounded α (ramp.position + ramp.step)) := by
      split
      · exact sound.targetHeld
      · exact Rounding.holds_round _ _
    exact
      { positionLow := clamp_low _
        positionHigh := clamp_high _
        targetLow := sound.targetLow
        targetHigh := sound.targetHigh
        positionHeld := clamp_holds held
        targetHeld := sound.targetHeld
        bounded := (Nat.sub_le _ _).trans sound.bounded
        rests := by
          intro rest
          change clamp (if ramp.remaining - 1 = 0 then _ else _) 0 1 = ramp.target
          rw [if_pos rest, clamp_inside sound.targetLow sound.targetHigh]
        homeward := sound.homeward }

/-! ### A run of `next` calls -/

theorem Ramp.Sound.iterate {full : Nat} {ramp : Ramp α} (sound : ramp.Sound full) (count : Nat) :
    (Ramp.advance^[count] ramp).Sound full := by
  induction count with
  | zero => exact sound
  | succ count ih =>
      rw [Function.iterate_succ_apply']
      exact ih.advance

@[simp]
theorem Ramp.iterate_remaining (ramp : Ramp α) (count : Nat) :
    (Ramp.advance^[count] ramp).remaining = ramp.remaining - count := by
  induction count with
  | zero => rfl
  | succ count ih =>
      rw [Function.iterate_succ_apply', Ramp.advance_remaining, ih]
      omega

@[simp]
theorem Ramp.iterate_target (ramp : Ramp α) (count : Nat) :
    (Ramp.advance^[count] ramp).target = ramp.target := by
  induction count with
  | zero => rfl
  | succ count ih => rw [Function.iterate_succ_apply', Ramp.advance_target, ih]

end

/-! ### What exact arithmetic adds -/

@[simp]
theorem rounded_exact (value : ℚ) : rounded Sample value = value := rfl

theorem rampSamples_exact (durationMs : BitVec 32) :
    rampSamples Sample durationMs = fullSamples durationMs := by
  unfold rampSamples
  rw [rounded_exact, Nat.ceil_natCast]
  exact Nat.max_eq_right (fullSamples_pos durationMs)

/-- A ramp whose full traversal takes `full` samples: it is inside the unit
interval, its remaining steps lead exactly to its target and do move it, no step
is longer than one part in `full`, and it never has more than a full traversal left. -/
structure Ramp.Exact (full : Nat) (ramp : Ramp) : Prop where
  positionLow : 0 ≤ ramp.position
  positionHigh : ramp.position ≤ 1
  targetLow : 0 ≤ ramp.target
  targetHigh : ramp.target ≤ 1
  lands : ramp.position + ramp.remaining * ramp.step = ramp.target
  moves : ramp.remaining ≠ 0 → ramp.step ≠ 0
  slow : |ramp.step| * full ≤ 1
  bounded : ramp.remaining ≤ full

theorem Ramp.exact_rest (full : Nat) (value : ℚ) (low : 0 ≤ value) (high : value ≤ 1) :
    Ramp.Exact full { position := value, target := value, step := 0, remaining := 0 } :=
  { positionLow := low
    positionHigh := high
    targetLow := low
    targetHigh := high
    lands := by simp
    moves := fun moving => absurd rfl moving
    slow := by simp
    bounded := Nat.zero_le _ }

theorem Ramp.moveTo_exact (ramp : Ramp) (target : ℚ) (durationMs : BitVec 32) :
    ramp.moveTo target durationMs =
      if clamp target 0 1 - ramp.position = 0 then
        { ramp with target := clamp target 0 1, remaining := 0, step := 0 }
      else
        { ramp with
          target := clamp target 0 1
          remaining := max 1 ⌈(fullSamples durationMs : ℚ) * |clamp target 0 1 - ramp.position|⌉₊
          step := (clamp target 0 1 - ramp.position) /
            (max 1 ⌈(fullSamples durationMs : ℚ) * |clamp target 0 1 - ramp.position|⌉₊ : Nat) } :=
  rfl

theorem Ramp.moveTo_remaining {ramp : Ramp} {target : Sample} (durationMs : BitVec 32)
    (away : ramp.position ≠ clamp target 0 1) :
    (ramp.moveTo target durationMs).remaining =
      max 1 ⌈(fullSamples durationMs : Sample) * |clamp target 0 1 - ramp.position|⌉₊ := by
  rw [Ramp.moveTo_exact]
  rw [if_neg (fun zero => away (sub_eq_zero.mp zero).symm)]

theorem ceil_distance_le {full : Nat} {distance : Sample} (positive : 0 < full)
    (short : |distance| ≤ 1) : max 1 ⌈(full : Sample) * |distance|⌉₊ ≤ full := by
  apply max_le positive
  apply Nat.ceil_le.mpr
  exact mul_le_of_le_one_right (Nat.cast_nonneg full) short

theorem Ramp.Exact.distance {full : Nat} {ramp : Ramp} (sound : ramp.Exact full)
    {target : Sample} (low : 0 ≤ target) (high : target ≤ 1) : |target - ramp.position| ≤ 1 := by
  rw [abs_le]
  constructor <;> linarith [sound.positionLow, sound.positionHigh]

/-- Retargeting keeps a ramp exact: the new step covers the distance in the
samples it is given, at no more than the full rate. -/
theorem Ramp.Exact.moveTo {ramp : Ramp} (durationMs : BitVec 32)
    (sound : ramp.Exact (fullSamples durationMs)) (target : Sample) :
    (ramp.moveTo target durationMs).Exact (fullSamples durationMs) := by
  have positive := fullSamples_pos durationMs
  have short := sound.distance (clamp_low target) (clamp_high target)
  rw [Ramp.moveTo_exact]
  split
  · rename_i zero
    exact
      { positionLow := sound.positionLow
        positionHigh := sound.positionHigh
        targetLow := clamp_low target
        targetHigh := clamp_high target
        lands := by simp only [mul_zero, add_zero]; linarith
        moves := fun moving => absurd rfl moving
        slow := by simp
        bounded := Nat.zero_le _ }
  · rename_i away
    have atLeast : (fullSamples durationMs : Sample) * |clamp target 0 1 - ramp.position| ≤
        (max 1 ⌈(fullSamples durationMs : Sample) * |clamp target 0 1 - ramp.position|⌉₊ : Nat) :=
      le_trans (Nat.le_ceil _) (Nat.cast_le.mpr (Nat.le_max_right _ _))
    have some : (0 : Sample) <
        (max 1 ⌈(fullSamples durationMs : Sample) * |clamp target 0 1 - ramp.position|⌉₊ : Nat) :=
      Nat.cast_pos.mpr (Nat.lt_of_lt_of_le Nat.zero_lt_one (Nat.le_max_left _ _))
    have within := ceil_distance_le positive short
    revert atLeast some within
    generalize max 1 ⌈(fullSamples durationMs : Sample) * |clamp target 0 1 - ramp.position|⌉₊ =
      samples
    intro atLeast some within
    exact
      { positionLow := sound.positionLow
        positionHigh := sound.positionHigh
        targetLow := clamp_low target
        targetHigh := clamp_high target
        lands := by
          change ramp.position + samples * ((clamp target 0 1 - ramp.position) / samples) = _
          rw [mul_div_cancel₀ _ (ne_of_gt some)]
          ring
        moves := fun _moving => div_ne_zero away (ne_of_gt some)
        slow := by
          change |(clamp target 0 1 - ramp.position) / (samples : Sample)| * _ ≤ 1
          rw [abs_div, abs_of_pos some, div_mul_eq_mul_div, div_le_one some, mul_comm]
          exact atLeast
        bounded := within }

theorem Ramp.Exact.moved_inside {full : Nat} {ramp : Ramp} (sound : ramp.Exact full)
    (moving : 0 < ramp.remaining) :
    0 ≤ ramp.position + ramp.step ∧ ramp.position + ramp.step ≤ 1 := by
  have lands := sound.lands
  have one : (1 : Sample) ≤ ramp.remaining := Nat.one_le_cast.mpr moving
  rcases le_total 0 ramp.step with up | down
  · have within : ramp.step ≤ ramp.remaining * ramp.step := le_mul_of_one_le_left up one
    constructor <;>
      linarith [sound.positionLow, sound.targetHigh]
  · have within : ramp.remaining * ramp.step ≤ ramp.step := by nlinarith
    constructor <;>
      linarith [sound.positionHigh, sound.targetLow]

/-- The clamp of `next` never acts. -/
theorem Ramp.Exact.advance_position {full : Nat} {ramp : Ramp} (sound : ramp.Exact full)
    (moving : 0 < ramp.remaining) :
    ramp.advance.position = ramp.position + ramp.step := by
  obtain ⟨low, high⟩ := sound.moved_inside moving
  unfold Ramp.advance
  rw [if_neg (Nat.ne_of_gt moving)]
  simp only [rounded_exact]
  split
  · rename_i last
    have single : ramp.remaining = 1 := by omega
    have lands := sound.lands
    rw [single, Nat.cast_one, one_mul] at lands
    rw [clamp_inside sound.targetLow sound.targetHigh, lands]
  · exact clamp_inside low high

theorem Ramp.Exact.advance {full : Nat} {ramp : Ramp} (sound : ramp.Exact full) :
    ramp.advance.Exact full := by
  rcases Nat.eq_zero_or_pos ramp.remaining with rest | moving
  · rw [Ramp.advance_of_rest rest]
    exact sound
  · obtain ⟨low, high⟩ := sound.moved_inside moving
    have position := sound.advance_position moving
    exact
      { positionLow := by rw [position]; exact low
        positionHigh := by rw [position]; exact high
        targetLow := by rw [Ramp.advance_target]; exact sound.targetLow
        targetHigh := by rw [Ramp.advance_target]; exact sound.targetHigh
        lands := by
          rw [position, Ramp.advance_step, Ramp.advance_remaining, Ramp.advance_target,
            Nat.cast_sub moving, Nat.cast_one]
          linarith [sound.lands]
        moves := by
          rw [Ramp.advance_step]
          exact fun _still => sound.moves (Nat.ne_of_gt moving)
        slow := by rw [Ramp.advance_step]; exact sound.slow
        bounded := by
          rw [Ramp.advance_remaining]
          exact le_trans (Nat.sub_le _ _) sound.bounded }

theorem Ramp.Exact.iterate {full : Nat} {ramp : Ramp} (sound : ramp.Exact full) (count : Nat) :
    (Ramp.advance^[count] ramp).Exact full := by
  induction count with
  | zero => exact sound
  | succ count ih =>
      rw [Function.iterate_succ_apply']
      exact ih.advance

theorem Ramp.Exact.position_of_rest {full : Nat} {ramp : Ramp} (sound : ramp.Exact full)
    (rest : ramp.remaining = 0) : ramp.position = ramp.target := by
  have lands := sound.lands
  rw [rest, Nat.cast_zero, zero_mul, add_zero] at lands
  exact lands

theorem Ramp.Exact.near {full : Nat} {ramp : Ramp} (sound : ramp.Exact full) :
    (full : Sample) * |ramp.target - ramp.position| ≤ ramp.remaining := by
  have apart : ramp.target - ramp.position = ramp.remaining * ramp.step := by
    linarith [sound.lands]
  rw [apart, abs_mul, Nat.abs_cast]
  calc (full : Sample) * (ramp.remaining * |ramp.step|)
      = ramp.remaining * (|ramp.step| * full) := by ring
    _ ≤ ramp.remaining * 1 := mul_le_mul_of_nonneg_left sound.slow (Nat.cast_nonneg _)
    _ = ramp.remaining := mul_one _

theorem Ramp.Exact.rest_iff {full : Nat} {ramp : Ramp} (sound : ramp.Exact full) :
    ramp.remaining = 0 ↔ ramp.position = ramp.target := by
  constructor
  · exact sound.position_of_rest
  · intro there
    by_contra moving
    have lands := sound.lands
    rw [there, add_eq_left, mul_eq_zero] at lands
    rcases lands with none | still
    · exact moving (Nat.cast_eq_zero.mp none)
    · exact sound.moves moving still

end SmartMic.Audio
