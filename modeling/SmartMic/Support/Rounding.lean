import Mathlib.Tactic

set_option autoImplicit false

/-! Rounding a rational to a number of a format, in general and for the binary
formats with gradual underflow. A rounded operation is the exact one followed by the
rounding, so a program is written once for every rounding, the exact one included. -/

namespace SmartMic

structure Rounding where
  round : ℚ → ℚ
  monotone : Monotone round
  idempotent : ∀ value, round (round value) = round value
  odd : ∀ value, round (-value) = -round value
  one : round 1 = 1
  /-- The difference of two different numbers of the format is not lost. -/
  apart : ∀ left right, round left = left → round right = right → left ≠ right →
    round (left - right) ≠ 0

namespace Rounding

variable (rounding : Rounding)

/-- The numbers of the format. -/
def Holds (value : ℚ) : Prop := rounding.round value = value

theorem holds_round (value : ℚ) : rounding.Holds (rounding.round value) :=
  rounding.idempotent value

@[simp]
theorem zero : rounding.round 0 = 0 := by
  have odd := rounding.odd 0
  rw [neg_zero] at odd
  linarith

theorem holds_zero : rounding.Holds 0 := rounding.zero

theorem holds_one : rounding.Holds 1 := rounding.one

variable {rounding}

theorem Holds.neg {value : ℚ} (holds : rounding.Holds value) : rounding.Holds (-value) := by
  unfold Holds at holds ⊢
  rw [rounding.odd, holds]

theorem nonneg {value : ℚ} (sign : 0 ≤ value) : 0 ≤ rounding.round value := by
  have ordered := rounding.monotone sign
  rwa [rounding.zero] at ordered

theorem nonpos {value : ℚ} (sign : value ≤ 0) : rounding.round value ≤ 0 := by
  have ordered := rounding.monotone sign
  rwa [rounding.zero] at ordered

/-- A bound that is a number of the format survives the rounding. -/
theorem Holds.round_le {value bound : ℚ} (holds : rounding.Holds bound) (below : value ≤ bound) :
    rounding.round value ≤ bound :=
  (rounding.monotone below).trans_eq holds

theorem Holds.le_round {value bound : ℚ} (holds : rounding.Holds bound) (above : bound ≤ value) :
    bound ≤ rounding.round value :=
  holds.symm.le.trans (rounding.monotone above)

theorem Holds.sub_eq_zero_iff {left right : ℚ} (holdsLeft : rounding.Holds left)
    (holdsRight : rounding.Holds right) : rounding.round (left - right) = 0 ↔ left = right := by
  constructor
  · intro lost
    by_contra different
    exact rounding.apart left right holdsLeft holdsRight different lost
  · rintro rfl
    rw [sub_self, rounding.zero]

/-- Exact arithmetic. -/
def exact : Rounding :=
  { round := fun value => value
    monotone := monotone_id
    idempotent := fun _value => rfl
    odd := fun _value => rfl
    one := rfl
    apart := fun _left _right _holdsLeft _holdsRight different => sub_ne_zero.mpr different }

/-! ### Nearest, ties to even -/

def nearestEven (value : ℚ) : ℕ :=
  if value - ⌊value⌋₊ < 1 / 2 then ⌊value⌋₊
  else if 1 / 2 < value - ⌊value⌋₊ then ⌊value⌋₊ + 1
  else ⌊value⌋₊ + ⌊value⌋₊ % 2

theorem floor_le_nearestEven (value : ℚ) : ⌊value⌋₊ ≤ nearestEven value := by
  unfold nearestEven
  split
  · exact Nat.le_refl _
  · split <;> omega

theorem nearestEven_le (value : ℚ) : nearestEven value ≤ ⌊value⌋₊ + 1 := by
  unfold nearestEven
  split
  · omega
  · split <;> omega

@[simp]
theorem nearestEven_natCast (whole : ℕ) : nearestEven (whole : ℚ) = whole := by
  unfold nearestEven
  rw [Nat.floor_natCast, sub_self, if_pos one_half_pos]

theorem nearestEven_close {value : ℚ} (sign : 0 ≤ value) :
    |(nearestEven value : ℚ) - value| ≤ 1 / 2 := by
  have below := Nat.floor_le sign
  have above := Nat.lt_floor_add_one value
  unfold nearestEven
  rw [abs_le]
  split
  · constructor <;> linarith
  · split
    · push_cast
      constructor <;> linarith
    · have tie : value - ⌊value⌋₊ = 1 / 2 := by linarith
      push_cast
      rcases Nat.mod_two_eq_zero_or_one ⌊value⌋₊ with even | odd
      · rw [even]
        constructor <;> push_cast <;> linarith
      · rw [odd]
        constructor <;> push_cast <;> linarith

theorem nearestEven_monotone : Monotone nearestEven := by
  intro low high ordered
  have floors := Nat.floor_mono ordered
  rcases Nat.lt_or_eq_of_le floors with less | same
  · exact (nearestEven_le low).trans (Nat.le_trans less (floor_le_nearestEven high))
  · unfold nearestEven
    rw [← same]
    have fractions : low - (⌊low⌋₊ : ℚ) ≤ high - (⌊low⌋₊ : ℚ) := sub_le_sub_right ordered _
    split
    · split
      · exact Nat.le_refl _
      · split <;> omega
    · rename_i lowUpper
      rw [if_neg (not_lt.mpr ((not_lt.mp lowUpper).trans fractions))]
      split
      · rename_i lowAbove
        rw [if_pos (lowAbove.trans_le fractions)]
      · split <;> omega

theorem nearestEven_of_close {value : ℚ} {whole : ℕ} (close : |value - whole| < 1 / 2) :
    nearestEven value = whole := by
  obtain ⟨above, below⟩ := abs_lt.mp close
  unfold nearestEven
  rcases le_or_gt (whole : ℚ) value with reached | short
  · have floor : ⌊value⌋₊ = whole :=
      (Nat.floor_eq_iff ((Nat.cast_nonneg _).trans reached)).mpr ⟨reached, by linarith⟩
    rw [floor, if_pos below]
  · cases whole with
    | zero =>
        rw [Nat.floor_of_nonpos (by exact_mod_cast short.le)]
        rw [if_pos below]
    | succ whole =>
        push_cast at above short
        have floor : ⌊value⌋₊ = whole :=
          (Nat.floor_eq_iff (by linarith [(Nat.cast_nonneg whole : (0 : ℚ) ≤ whole)])).mpr
            ⟨by linarith, short⟩
        rw [floor, if_neg (by linarith), if_pos (by linarith)]

/-! ### Binary formats -/

/-- The distance of neighbouring numbers of a format of that precision around a magnitude,
both in units of the least positive number. -/
def spacing (precision magnitude : ℕ) : ℕ := 2 ^ (Nat.log2 magnitude + 1 - precision)

def onGrid (precision : ℕ) (units : ℚ) : ℕ :=
  nearestEven (units / spacing precision ⌊units⌋₊) * spacing precision ⌊units⌋₊

theorem spacing_pos (precision magnitude : ℕ) : 0 < spacing precision magnitude :=
  Nat.two_pow_pos _

theorem spacing_dvd {precision : ℕ} (some : 0 < precision) (magnitude : ℕ) :
    spacing precision magnitude ∣ 2 ^ (Nat.log2 magnitude) := by
  unfold spacing
  exact pow_dvd_pow 2 (by omega)

theorem floor_lt_two_pow (units : ℚ) : units < (2 ^ (Nat.log2 ⌊units⌋₊ + 1) : ℕ) :=
  Nat.lt_of_floor_lt Nat.lt_log2_self

/-- A whole number that its own spacing divides is a number of the format. -/
theorem onGrid_of_dvd {precision whole : ℕ} (divides : spacing precision whole ∣ whole) :
    onGrid precision (whole : ℚ) = whole := by
  have positive : (spacing precision whole : ℚ) ≠ 0 :=
    Nat.cast_ne_zero.mpr (spacing_pos precision whole).ne'
  obtain ⟨count, product⟩ := divides
  have share : (whole : ℚ) / spacing precision whole = (count : ℕ) := by
    rw [div_eq_iff positive]
    exact_mod_cast product.trans (Nat.mul_comm _ _)
  unfold onGrid
  rw [Nat.floor_natCast, share, nearestEven_natCast, Nat.mul_comm]
  exact product.symm

/-- Rounding does not leave the binade, but for its upper end. -/
theorem onGrid_le {precision : ℕ} (some : 0 < precision) (units : ℚ) :
    onGrid precision units ≤ 2 ^ (Nat.log2 ⌊units⌋₊ + 1) := by
  have divides : spacing precision ⌊units⌋₊ ∣ 2 ^ (Nat.log2 ⌊units⌋₊ + 1) :=
    (spacing_dvd some ⌊units⌋₊).trans (pow_dvd_pow 2 (Nat.le_succ _))
  obtain ⟨count, product⟩ := divides
  have positive : (0 : ℚ) < spacing precision ⌊units⌋₊ :=
    Nat.cast_pos.mpr (spacing_pos precision ⌊units⌋₊)
  have share : units / spacing precision ⌊units⌋₊ ≤ (count : ℕ) := by
    rw [div_le_iff₀ positive]
    refine (floor_lt_two_pow units).le.trans_eq ?_
    exact_mod_cast product.trans (Nat.mul_comm _ _)
  unfold onGrid
  rw [product, Nat.mul_comm]
  apply Nat.mul_le_mul_left
  exact (nearestEven_monotone share).trans_eq (nearestEven_natCast count)

theorem le_onGrid {precision : ℕ} (some : 0 < precision) {units : ℚ} (whole : 1 ≤ units) :
    2 ^ (Nat.log2 ⌊units⌋₊) ≤ onGrid precision units := by
  have divides := spacing_dvd some ⌊units⌋₊
  obtain ⟨count, product⟩ := divides
  have positive : (0 : ℚ) < spacing precision ⌊units⌋₊ :=
    Nat.cast_pos.mpr (spacing_pos precision ⌊units⌋₊)
  have reached : ((2 ^ (Nat.log2 ⌊units⌋₊) : ℕ) : ℚ) ≤ units := by
    refine le_trans ?_ (Nat.floor_le (zero_le_one.trans whole))
    exact Nat.cast_le.mpr (Nat.log2_self_le (Nat.floor_pos.mpr whole).ne')
  have share : (count : ℕ) ≤ units / spacing precision ⌊units⌋₊ := by
    rw [le_div_iff₀ positive]
    refine le_trans (le_of_eq ?_) reached
    exact_mod_cast (product.trans (Nat.mul_comm _ _)).symm
  unfold onGrid
  rw [product, Nat.mul_comm]
  apply Nat.mul_le_mul_right
  exact (nearestEven_natCast count).symm.trans_le (nearestEven_monotone share)

theorem log2_mono {low high : ℕ} (ordered : low ≤ high) : Nat.log2 low ≤ Nat.log2 high := by
  rw [Nat.log2_eq_log_two, Nat.log2_eq_log_two]
  exact Nat.log_mono_right ordered

theorem onGrid_monotone {precision : ℕ} (some : 0 < precision) : Monotone (onGrid precision) := by
  intro low high ordered
  have floors := log2_mono (Nat.floor_mono ordered)
  rcases Nat.lt_or_eq_of_le floors with less | same
  · -- the upper end of the lower binade lies between the two
    have whole : 1 ≤ high := by
      by_contra small
      rw [Nat.floor_eq_zero.mpr (not_le.mp small), Nat.log2_zero] at less
      exact Nat.not_lt_zero _ less
    calc onGrid precision low ≤ 2 ^ (Nat.log2 ⌊low⌋₊ + 1) := onGrid_le some low
      _ ≤ 2 ^ (Nat.log2 ⌊high⌋₊) := Nat.pow_le_pow_right Nat.two_pos less
      _ ≤ onGrid precision high := le_onGrid some whole
  · have spaced : spacing precision ⌊low⌋₊ = spacing precision ⌊high⌋₊ := by
      unfold spacing
      rw [same]
    unfold onGrid
    rw [spaced]
    apply Nat.mul_le_mul_right
    exact nearestEven_monotone (div_le_div_of_nonneg_right ordered (Nat.cast_nonneg _))

theorem onGrid_idempotent {precision : ℕ} (some : 0 < precision) (units : ℚ) :
    onGrid precision (onGrid precision units : ℕ) = onGrid precision units := by
  apply onGrid_of_dvd
  have upper := onGrid_le some units
  rcases Nat.lt_or_eq_of_le upper with inside | top
  · have logs : Nat.log2 (onGrid precision units) ≤ Nat.log2 ⌊units⌋₊ := by
      rcases Nat.eq_zero_or_pos (onGrid precision units) with zero | positive
      · rw [zero, Nat.log2_zero]
        exact Nat.zero_le _
      · exact Nat.lt_succ_iff.mp ((Nat.log2_lt positive.ne').mpr inside)
    have finer : spacing precision (onGrid precision units) ∣ spacing precision ⌊units⌋₊ :=
      pow_dvd_pow 2 (by omega)
    exact finer.trans (Dvd.intro_left _ rfl)
  · rw [top]
    have divides := spacing_dvd some (2 ^ (Nat.log2 ⌊units⌋₊ + 1))
    rwa [Nat.log2_two_pow] at divides

theorem onGrid_close (precision : ℕ) {units : ℚ} (sign : 0 ≤ units) :
    |(onGrid precision units : ℚ) - units| ≤ spacing precision ⌊units⌋₊ / 2 := by
  have positive : (0 : ℚ) < spacing precision ⌊units⌋₊ :=
    Nat.cast_pos.mpr (spacing_pos precision ⌊units⌋₊)
  have close := nearestEven_close (div_nonneg sign positive.le)
  have scaled : (onGrid precision units : ℚ) - units =
      ((nearestEven (units / spacing precision ⌊units⌋₊) : ℚ) -
        units / spacing precision ⌊units⌋₊) * spacing precision ⌊units⌋₊ := by
    unfold onGrid
    rw [sub_mul, div_mul_cancel₀ _ positive.ne']
    push_cast
    rfl
  rw [scaled, abs_mul, abs_of_pos positive]
  calc _ ≤ 1 / 2 * (spacing precision ⌊units⌋₊ : ℚ) :=
        mul_le_mul_of_nonneg_right close positive.le
    _ = _ := by ring

/-- The magnitude of a value of the format with that least positive number. -/
def magnitude (precision least : ℕ) (value : ℚ) : ℚ :=
  (onGrid precision (value * 2 ^ least) : ℕ) / 2 ^ least

theorem magnitude_nonneg (precision least : ℕ) (value : ℚ) :
    0 ≤ magnitude precision least value := by
  unfold magnitude
  positivity

theorem magnitude_monotone {precision : ℕ} (some : 0 < precision) (least : ℕ) :
    Monotone (magnitude precision least) := by
  intro low high ordered
  have scaled : low * 2 ^ least ≤ high * 2 ^ least :=
    mul_le_mul_of_nonneg_right ordered (by positivity)
  unfold magnitude
  exact div_le_div_of_nonneg_right (Nat.cast_le.mpr (onGrid_monotone some scaled))
    (by positivity)

theorem magnitude_idempotent {precision : ℕ} (some : 0 < precision) (least : ℕ) (value : ℚ) :
    magnitude precision least (magnitude precision least value) =
      magnitude precision least value := by
  unfold magnitude
  rw [div_mul_cancel₀ _ (by positivity), onGrid_idempotent some]

theorem magnitude_zero (precision least : ℕ) : magnitude precision least 0 = 0 := by
  have grid := onGrid_of_dvd (dvd_zero (spacing precision 0))
  rw [Nat.cast_zero] at grid
  unfold magnitude
  rw [zero_mul, grid, Nat.cast_zero, zero_div]

theorem magnitude_one {precision : ℕ} (some : 0 < precision) (least : ℕ) :
    magnitude precision least 1 = 1 := by
  have divides := spacing_dvd some (2 ^ least)
  rw [Nat.log2_two_pow] at divides
  have grid := onGrid_of_dvd divides
  unfold magnitude
  rw [one_mul]
  push_cast at grid
  rw [grid]
  push_cast
  exact div_self (by positivity)

theorem magnitude_pos {precision : ℕ} (some : 0 < precision) {least : ℕ} {value : ℚ}
    (large : 1 ≤ value * 2 ^ least) : 0 < magnitude precision least value := by
  have grid := le_onGrid some large
  unfold magnitude
  exact div_pos (Nat.cast_pos.mpr (Nat.lt_of_lt_of_le (Nat.two_pow_pos _) grid)) (by positivity)

/-- Round to nearest, ties to even, in the format of that precision whose least positive
number is `2 ^ -least`. Large values are not cut off. -/
def nearest (precision least : ℕ) (value : ℚ) : ℚ :=
  if value < 0 then -magnitude precision least (-value) else magnitude precision least value

theorem nearest_of_nonneg (precision least : ℕ) {value : ℚ} (sign : 0 ≤ value) :
    nearest precision least value = magnitude precision least value :=
  if_neg (not_lt.mpr sign)

theorem nearest_odd (precision least : ℕ) (value : ℚ) :
    nearest precision least (-value) = -nearest precision least value := by
  unfold nearest
  rcases lt_trichotomy value 0 with below | rfl | above
  · rw [if_neg (not_lt.mpr (neg_nonneg.mpr below.le)), if_pos below, neg_neg]
  · simp only [neg_zero, lt_self_iff_false, if_false, magnitude_zero]
  · rw [if_pos (neg_neg_of_pos above), if_neg (not_lt.mpr above.le), neg_neg]

theorem nearest_monotone {precision : ℕ} (some : 0 < precision) (least : ℕ) :
    Monotone (nearest precision least) := by
  intro low high ordered
  unfold nearest
  split
  · split
    · exact neg_le_neg (magnitude_monotone some least (neg_le_neg ordered))
    · exact (neg_nonpos.mpr (magnitude_nonneg _ _ _)).trans (magnitude_nonneg _ _ _)
  · rename_i sign
    rw [if_neg (not_lt.mpr ((not_lt.mp sign).trans ordered))]
    exact magnitude_monotone some least ordered

theorem nearest_idempotent {precision : ℕ} (some : 0 < precision) (least : ℕ) (value : ℚ) :
    nearest precision least (nearest precision least value) = nearest precision least value := by
  rcases le_total 0 value with sign | sign
  · rw [nearest_of_nonneg precision least sign,
      nearest_of_nonneg precision least (magnitude_nonneg _ _ _), magnitude_idempotent some]
  · obtain ⟨opposite, rfl⟩ : ∃ opposite, value = -opposite := ⟨-value, (neg_neg value).symm⟩
    rw [nearest_odd, nearest_odd, nearest_of_nonneg precision least (neg_nonpos.mp sign),
      nearest_of_nonneg precision least (magnitude_nonneg _ _ _), magnitude_idempotent some]

theorem whole_of_nearest {precision least : ℕ} {value : ℚ}
    (holds : nearest precision least value = value) : ∃ units : ℤ, value * 2 ^ least = units := by
  have scale : (2 ^ least : ℚ) ≠ 0 := by positivity
  unfold nearest magnitude at holds
  split at holds
  · refine ⟨-(onGrid precision (-value * 2 ^ least) : ℕ), ?_⟩
    rw [Int.cast_neg, Int.cast_natCast]
    apply (eq_div_iff scale).mp
    rw [neg_div]
    exact holds.symm
  · refine ⟨(onGrid precision (value * 2 ^ least) : ℕ), ?_⟩
    rw [Int.cast_natCast]
    exact (eq_div_iff scale).mp holds.symm

theorem nearest_ne_zero {precision : ℕ} (some : 0 < precision) {least : ℕ} {value : ℚ} {units : ℤ}
    (whole : value * 2 ^ least = units) (apart : units ≠ 0) :
    nearest precision least value ≠ 0 := by
  have one_le : ∀ {count : ℤ}, 0 < count → (1 : ℚ) ≤ count := fun positive => by
    exact_mod_cast positive
  unfold nearest
  rcases lt_or_gt_of_ne apart with below | above
  · have large : 1 ≤ -value * 2 ^ least := by
      rw [neg_mul, whole, ← Int.cast_neg]
      exact one_le (neg_pos.mpr below)
    have negative : value < 0 := by
      by_contra sign
      have product : 0 ≤ value * 2 ^ least := mul_nonneg (not_lt.mp sign) (by positivity)
      linarith
    rw [if_pos negative]
    exact neg_ne_zero.mpr (magnitude_pos some large).ne'
  · have large : 1 ≤ value * 2 ^ least := by
      rw [whole]
      exact one_le above
    have positive : ¬value < 0 := by
      intro sign
      have product : value * 2 ^ least ≤ 0 :=
        mul_nonpos_of_nonpos_of_nonneg sign.le (by positivity)
      linarith
    rw [if_neg positive]
    exact (magnitude_pos some large).ne'

theorem nearest_of_binade {precision least exponent count : ℕ} {value : ℚ}
    (low : 2 ^ exponent ≤ value * 2 ^ least) (high : value * 2 ^ least < 2 ^ (exponent + 1))
    (close : |value * 2 ^ least / 2 ^ (exponent + 1 - precision) - count| < 1 / 2) :
    nearest precision least value = count * 2 ^ (exponent + 1 - precision) / 2 ^ least := by
  have sign : 0 ≤ value := by
    by_contra negative
    have product : value * 2 ^ least < 0 :=
      mul_neg_of_neg_of_pos (not_le.mp negative) (by positivity)
    have positive : (0 : ℚ) < 2 ^ exponent := by positivity
    linarith
  have lowFloor : 2 ^ exponent ≤ ⌊value * 2 ^ least⌋₊ := Nat.le_floor (by exact_mod_cast low)
  have highFloor : ⌊value * 2 ^ least⌋₊ < 2 ^ (exponent + 1) :=
    (Nat.floor_lt (by positivity)).mpr (by exact_mod_cast high)
  have some : ⌊value * 2 ^ least⌋₊ ≠ 0 := (Nat.lt_of_lt_of_le (Nat.two_pow_pos _) lowFloor).ne'
  have log : Nat.log2 ⌊value * 2 ^ least⌋₊ = exponent :=
    (Nat.log2_eq_iff some).mpr ⟨lowFloor, highFloor⟩
  rw [nearest_of_nonneg precision least sign]
  unfold magnitude onGrid spacing
  rw [log]
  push_cast
  rw [nearestEven_of_close close]

theorem spacing_le {precision : ℕ} (some : 0 < precision) {units : ℚ} (sign : 0 ≤ units) :
    (spacing precision ⌊units⌋₊ : ℚ) ≤ 2 * units / 2 ^ precision + 1 := by
  have share : 0 ≤ 2 * units / 2 ^ precision := by positivity
  unfold spacing
  rcases le_or_gt (Nat.log2 ⌊units⌋₊ + 1) precision with fine | coarse
  · rw [Nat.sub_eq_zero_of_le fine, pow_zero, Nat.cast_one]
    linarith
  · have large : ⌊units⌋₊ ≠ 0 := by
      intro zero
      rw [zero, Nat.log2_zero] at coarse
      omega
    have below : ((2 ^ Nat.log2 ⌊units⌋₊ : ℕ) : ℚ) ≤ units :=
      (Nat.cast_le.mpr (Nat.log2_self_le large)).trans (Nat.floor_le sign)
    have power : (2 : ℚ) ^ (Nat.log2 ⌊units⌋₊ + 1 - precision) * 2 ^ precision =
        2 * 2 ^ Nat.log2 ⌊units⌋₊ := by
      rw [← pow_add, Nat.sub_add_cancel coarse.le, pow_succ, mul_comm]
    have within : (2 : ℚ) ^ (Nat.log2 ⌊units⌋₊ + 1 - precision) ≤ 2 * units / 2 ^ precision := by
      rw [le_div_iff₀ (by positivity), power]
      push_cast at below
      linarith
    push_cast
    linarith

theorem magnitude_close {precision : ℕ} (some : 0 < precision) (least : ℕ) {value : ℚ}
    (sign : 0 ≤ value) :
    |magnitude precision least value - value| ≤ value / 2 ^ precision + 1 / 2 ^ (least + 1) := by
  have scale : (0 : ℚ) < 2 ^ least := by positivity
  have units : 0 ≤ value * 2 ^ least := mul_nonneg sign scale.le
  have close := onGrid_close precision units
  have spaced := spacing_le some units
  have shift : magnitude precision least value - value =
      ((onGrid precision (value * 2 ^ least) : ℕ) - value * 2 ^ least) / 2 ^ least := by
    unfold magnitude
    rw [sub_div, mul_div_cancel_right₀ _ scale.ne']
  have bound : (value / 2 ^ precision + 1 / 2 ^ (least + 1)) * 2 ^ least =
      (2 * (value * 2 ^ least) / 2 ^ precision + 1) / 2 := by
    rw [add_mul, pow_succ]
    field_simp
  rw [shift, abs_div, abs_of_pos scale, div_le_iff₀ scale, bound]
  linarith

/-- The relative error is half a unit of the last place, or the absolute one half a least unit. -/
theorem nearest_close {precision : ℕ} (some : 0 < precision) (least : ℕ) (value : ℚ) :
    |nearest precision least value - value| ≤
      |value| / 2 ^ precision + 1 / 2 ^ (least + 1) := by
  rcases le_or_gt 0 value with sign | sign
  · rw [abs_of_nonneg sign, nearest_of_nonneg precision least sign]
    exact magnitude_close some least sign
  · have close := magnitude_close some least (neg_nonneg.mpr sign.le)
    rw [abs_of_neg sign]
    unfold nearest
    rw [if_pos sign, ← abs_neg]
    convert close using 2
    ring

/-- Whole numbers that the precision has room for are numbers of the format. -/
theorem nearest_of_whole {precision least : ℕ} {whole : ℤ} (small : |whole| < 2 ^ precision) :
    nearest precision least whole = whole := by
  have magnitude_nat : ∀ count : ℕ, count < 2 ^ precision →
      magnitude precision least count = count := by
    intro count inside
    have divides : spacing precision (count * 2 ^ least) ∣ count * 2 ^ least := by
      rcases Nat.eq_zero_or_pos count with zero | positive
      · rw [zero, Nat.zero_mul]
        exact dvd_zero _
      · have below : count * 2 ^ least < 2 ^ (precision + least) := by
          rw [pow_add]
          exact Nat.mul_lt_mul_of_pos_right inside (Nat.two_pow_pos least)
        have log := (Nat.log2_lt (Nat.mul_pos positive (Nat.two_pow_pos least)).ne').mpr below
        exact (pow_dvd_pow 2 (by omega)).trans (Nat.dvd_mul_left _ _)
    have grid := onGrid_of_dvd divides
    unfold magnitude
    push_cast at grid
    rw [grid]
    push_cast
    exact mul_div_cancel_right₀ _ (by positivity)
  obtain ⟨count, rfl | rfl⟩ := Int.eq_nat_or_neg whole
  · rw [abs_of_nonneg (Int.natCast_nonneg count)] at small
    rw [Int.cast_natCast, nearest_of_nonneg precision least (Nat.cast_nonneg count)]
    exact magnitude_nat count (by exact_mod_cast small)
  · rw [abs_neg, abs_of_nonneg (Int.natCast_nonneg count)] at small
    rw [Int.cast_neg, Int.cast_natCast, nearest_odd,
      nearest_of_nonneg precision least (Nat.cast_nonneg count)]
    rw [magnitude_nat count (by exact_mod_cast small)]

theorem nearest_double {precision least : ℕ} {value : ℚ}
    (holds : nearest precision least value = value) :
    nearest precision least (2 * value) = 2 * value := by
  have magnitude_double : ∀ {value : ℚ}, magnitude precision least value = value →
      magnitude precision least (2 * value) = 2 * value := by
    intro value holds
    have scale : (0 : ℚ) < 2 ^ least := by positivity
    obtain ⟨units, whole⟩ : ∃ units : ℕ, onGrid precision (value * 2 ^ least) = units := ⟨_, rfl⟩
    have same : value * 2 ^ least = units := by
      rw [← whole]
      unfold magnitude at holds
      exact ((div_eq_iff scale.ne').mp holds).symm
    have divides : spacing precision units ∣ units := by
      rw [same] at whole
      unfold onGrid at whole
      rw [Nat.floor_natCast] at whole
      exact Dvd.intro_left _ whole
    have finer : spacing precision (2 * units) ∣ 2 * units := by
      rcases Nat.eq_zero_or_pos units with zero | positive
      · rw [zero]
        exact dvd_zero _
      · have log : Nat.log2 (2 * units) = Nat.log2 units + 1 := Nat.log2_two_mul positive.ne'
        have step : spacing precision (2 * units) ∣ 2 * spacing precision units := by
          unfold spacing
          rw [log, ← pow_succ']
          exact pow_dvd_pow 2 (by omega)
        exact step.trans (Nat.mul_dvd_mul_left 2 divides)
    have grid := onGrid_of_dvd finer
    unfold magnitude
    rw [mul_assoc, same]
    push_cast at grid
    rw [grid, div_eq_iff scale.ne', mul_assoc, same]
    push_cast
    rfl
  rcases le_or_gt 0 value with sign | sign
  · rw [nearest_of_nonneg precision least sign] at holds
    rw [nearest_of_nonneg precision least (by linarith)]
    exact magnitude_double holds
  · have opposite : magnitude precision least (-value) = -value := by
      unfold nearest at holds
      rw [if_pos sign] at holds
      linarith
    have double := magnitude_double opposite
    unfold nearest
    rw [if_pos (by linarith)]
    rw [show -(2 * value) = 2 * -value by ring, double]
    ring

def binary (precision least : ℕ) (some : 0 < precision) : Rounding :=
  { round := nearest precision least
    monotone := nearest_monotone some least
    idempotent := nearest_idempotent some least
    odd := nearest_odd precision least
    one := (nearest_of_nonneg precision least zero_le_one).trans (magnitude_one some least)
    apart := by
      intro left right holdsLeft holdsRight different
      obtain ⟨leftUnits, leftWhole⟩ := whole_of_nearest holdsLeft
      obtain ⟨rightUnits, rightWhole⟩ := whole_of_nearest holdsRight
      have whole : (left - right) * 2 ^ least = ((leftUnits - rightUnits : ℤ) : ℚ) := by
        rw [sub_mul, leftWhole, rightWhole, Int.cast_sub]
      apply nearest_ne_zero some whole
      intro same
      have scale : (2 ^ least : ℚ) ≠ 0 := by positivity
      apply different
      apply mul_right_cancel₀ scale
      rw [leftWhole, rightWhole, sub_eq_zero.mp same] }

/-- In single precision a third is a little more than a third. -/
example : (binary 24 149 (by decide)).round (1 / 3) = 11184811 / 2 ^ 25 := by decide +kernel

end Rounding

end SmartMic
