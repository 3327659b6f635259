import SmartMic.Support.Rounding

set_option autoImplicit false

/-! IEEE 754 numbers: the finite numbers of a format, two infinities and the NaN. The
two zeros are one number here, and the NaN carries no payload: neither makes a
difference to sums, products and comparisons. -/

namespace SmartMic

/-- A format: how it rounds, and from where on a rounded magnitude is infinite. -/
structure FloatFormat where
  rounding : Rounding
  bound : ℚ
  large : 1 < bound

inductive Floating (format : FloatFormat) where
  | finite (value : ℚ) (holds : format.rounding.Holds value) (inside : |value| < format.bound)
  | infinite (negative : Bool)
  | nan
  deriving DecidableEq

namespace Floating

variable {format : FloatFormat}

def ofExact (format : FloatFormat) (exact : ℚ) : Floating format :=
  if inside : |format.rounding.round exact| < format.bound then
    .finite (format.rounding.round exact) (format.rounding.holds_round exact) inside
  else .infinite (decide (exact < 0))

instance : Zero (Floating format) := ⟨ofExact format 0⟩

instance : One (Floating format) := ⟨ofExact format 1⟩

def neg : Floating format → Floating format
  | .finite value holds inside => .finite (-value) holds.neg ((abs_neg value).trans_lt inside)
  | .infinite negative => .infinite !negative
  | .nan => .nan

def add : Floating format → Floating format → Floating format
  | .finite left _ _, .finite right _ _ => ofExact format (left + right)
  | .infinite left, .infinite right => if left = right then .infinite left else .nan
  | .infinite negative, .finite _ _ _ => .infinite negative
  | .finite _ _ _, .infinite negative => .infinite negative
  | .nan, _ => .nan
  | _, .nan => .nan

def scaleInfinite (value : ℚ) (negative : Bool) : Floating format :=
  if value = 0 then .nan else .infinite (negative ^^ decide (value < 0))

def mul : Floating format → Floating format → Floating format
  | .finite left _ _, .finite right _ _ => ofExact format (left * right)
  | .infinite left, .infinite right => .infinite (left ^^ right)
  | .infinite negative, .finite value _ _ => scaleInfinite value negative
  | .finite value _ _, .infinite negative => scaleInfinite value negative
  | .nan, _ => .nan
  | _, .nan => .nan

def per (value : Floating format) (count : ℕ) : Floating format :=
  match value with
  | .finite value _ _ => ofExact format (value / format.rounding.round count)
  | .infinite negative => .infinite negative
  | .nan => .nan

/-- The number behind a finite value, and zero where there is none. -/
def toRat : Floating format → ℚ
  | .finite value _ _ => value
  | .infinite _ => 0
  | .nan => 0

/-- Nothing is above or below a NaN. -/
def less : Floating format → Floating format → Bool
  | .finite left _ _, .finite right _ _ => decide (left < right)
  | .infinite left, .infinite right => left && !right
  | .infinite negative, .finite _ _ _ => negative
  | .finite _ _ _, .infinite negative => !negative
  | .nan, _ => false
  | _, .nan => false

instance : Neg (Floating format) := ⟨neg⟩

instance : Add (Floating format) := ⟨add⟩

instance : Sub (Floating format) := ⟨fun left right => left + -right⟩

instance : Mul (Floating format) := ⟨mul⟩

instance : LT (Floating format) := ⟨fun left right => left.less right = true⟩

instance : DecidableLT (Floating format) :=
  fun left right => inferInstanceAs (Decidable (left.less right = true))

/-- `std::isfinite`. -/
def isFinite : Floating format → Bool
  | .finite _ _ _ => true
  | .infinite _ => false
  | .nan => false

/-- A number of the format comes out of the rounding as it is. -/
theorem ofExact_holds {value : ℚ} (holds : format.rounding.Holds value)
    (inside : |value| < format.bound) :
    ofExact format value = .finite value holds inside := by
  have same : format.rounding.round value = value := holds
  unfold ofExact
  rw [dif_pos (by rw [same]; exact inside)]
  congr

theorem zero_inside : |(0 : ℚ)| < format.bound :=
  abs_zero.trans_lt (zero_lt_one.trans format.large)

theorem one_inside : |(1 : ℚ)| < format.bound := abs_one.trans_lt format.large

theorem zero_eq : (0 : Floating format) = .finite 0 format.rounding.holds_zero zero_inside :=
  ofExact_holds _ _

theorem one_eq : (1 : Floating format) = .finite 1 format.rounding.holds_one one_inside :=
  ofExact_holds _ _

theorem ofExact_eq_zero_iff {exact : ℚ} :
    ofExact format exact = 0 ↔ format.rounding.round exact = 0 := by
  rw [zero_eq]
  unfold ofExact
  constructor
  · intro same
    split at same
    · exact (Floating.finite.injEq _ _ _ _ _ _).mp same
    · cases same
  · intro zero
    rw [dif_pos (by rw [zero, abs_zero]; exact zero_lt_one.trans format.large)]
    exact (Floating.finite.injEq _ _ _ _ _ _).mpr zero

theorem ofExact_isFinite {exact : ℚ} (unit : |exact| ≤ 1) :
    (ofExact format exact).isFinite = true := by
  have one := format.rounding.holds_one
  have inside : |format.rounding.round exact| ≤ 1 :=
    abs_le.mpr ⟨one.neg.le_round (abs_le.mp unit).1, one.round_le (abs_le.mp unit).2⟩
  unfold ofExact
  rw [dif_pos (inside.trans_lt format.large)]
  rfl

theorem times_one (value : Floating format) : value * 1 = value := by
  rw [one_eq]
  cases value with
  | finite value holds inside =>
      change ofExact format (value * 1) = _
      rw [mul_one, ofExact_holds holds inside]
  | infinite negative =>
      change scaleInfinite 1 negative = _
      unfold scaleInfinite
      rw [if_neg one_ne_zero, decide_eq_false (not_lt.mpr zero_le_one), Bool.xor_false]
  | nan => rfl

theorem plus_zero (value : Floating format) : value + 0 = value := by
  rw [zero_eq]
  cases value with
  | finite value holds inside =>
      change ofExact format (value + 0) = _
      rw [add_zero, ofExact_holds holds inside]
  | infinite negative => rfl
  | nan => rfl

theorem zero_plus (value : Floating format) : 0 + value = value := by
  rw [zero_eq]
  cases value with
  | finite value holds inside =>
      change ofExact format (0 + value) = _
      rw [zero_add, ofExact_holds holds inside]
  | infinite negative => rfl
  | nan => rfl

theorem times_zero {value : Floating format} (finite : value.isFinite = true) :
    value * 0 = 0 := by
  rw [zero_eq]
  cases value with
  | finite value holds inside =>
      change ofExact format (value * 0) = _
      rw [mul_zero, ofExact_holds]
  | infinite negative => cases finite
  | nan => cases finite

theorem zero_times {value : Floating format} (finite : value.isFinite = true) :
    0 * value = 0 := by
  rw [zero_eq]
  cases value with
  | finite value holds inside =>
      change ofExact format (0 * value) = _
      rw [zero_mul, ofExact_holds]
  | infinite negative => cases finite
  | nan => cases finite

theorem times_finite {left right : Floating format} (finite : left.isFinite = true)
    (finite' : right.isFinite = true) :
    left * right = ofExact format (left.toRat * right.toRat) := by
  cases left with
  | finite value holds inside =>
      cases right with
      | finite value' holds' inside' => rfl
      | infinite negative => cases finite'
      | nan => cases finite'
  | infinite negative => cases finite
  | nan => cases finite

theorem less_finite {left right : Floating format} (finite : left.isFinite = true)
    (finite' : right.isFinite = true) : left < right ↔ left.toRat < right.toRat := by
  cases left with
  | finite value holds inside =>
      cases right with
      | finite value' holds' inside' => exact decide_eq_true_iff
      | infinite negative => cases finite'
      | nan => cases finite'
  | infinite negative => cases finite
  | nan => cases finite

theorem one_finite : (1 : Floating format).isFinite = true ∧ (1 : Floating format).toRat = 1 := by
  rw [one_eq]
  exact ⟨rfl, rfl⟩

theorem minus_one_finite :
    (-1 : Floating format).isFinite = true ∧ (-1 : Floating format).toRat = -1 := by
  rw [one_eq]
  exact ⟨rfl, rfl⟩

/-- An infinity does not vanish with its factor. -/
theorem infinite_times_zero (negative : Bool) :
    (.infinite negative : Floating format) * 0 = .nan := by
  rw [zero_eq]
  change scaleInfinite 0 negative = .nan
  unfold scaleInfinite
  rw [if_pos rfl]

theorem nan_plus (value : Floating format) : .nan + value = .nan := by
  cases value <;> rfl

theorem per_one (value : Floating format) : value.per 1 = value := by
  cases value with
  | finite value holds inside =>
      change ofExact format (value / format.rounding.round ((1 : ℕ) : ℚ)) = _
      rw [Nat.cast_one, format.rounding.one, div_one, ofExact_holds holds inside]
  | infinite negative => rfl
  | nan => rfl

/-- The mean of two equal numbers, if their sum is not too large. -/
theorem per_two {value : Floating format}
    (double : ∀ {value : ℚ}, format.rounding.Holds value → format.rounding.Holds (2 * value))
    (finite : (value + value).isFinite = true) : (value + value).per 2 = value := by
  cases value with
  | finite value holds inside =>
      have twice : (.finite value holds inside + .finite value holds inside : Floating format) =
          ofExact format (2 * value) := by
        rw [two_mul]
        rfl
      have two : format.rounding.Holds 2 := by
        have doubled := double format.rounding.holds_one
        rwa [mul_one] at doubled
      have same : format.rounding.round (2 * value) = 2 * value := double holds
      rw [twice] at finite ⊢
      by_cases below : |2 * value| < format.bound
      · rw [ofExact_holds (double holds) below]
        change ofExact format (2 * value / format.rounding.round ((2 : ℕ) : ℚ)) = _
        rw [Nat.cast_two, two, mul_div_cancel_left₀ _ two_ne_zero, ofExact_holds holds inside]
      · unfold ofExact at finite
        rw [dif_neg (by rw [same]; exact below)] at finite
        cases finite
  | infinite negative => cases negative <;> cases finite
  | nan => cases finite

theorem ofExact_inside {exact : ℚ} (inside : |format.rounding.round exact| < format.bound) :
    (ofExact format exact).isFinite = true ∧
      (ofExact format exact).toRat = format.rounding.round exact := by
  unfold ofExact
  rw [dif_pos inside]
  exact ⟨rfl, rfl⟩

theorem less_irrefl (value : Floating format) : ¬value < value := by
  cases value with
  | finite value holds inside => exact fun less => lt_irrefl value (of_decide_eq_true less)
  | infinite negative => cases negative <;> exact Bool.noConfusion
  | nan => exact Bool.noConfusion

end Floating

/-- IEEE 754 single precision, the `float` of C++. -/
def FloatFormat.binary32 : FloatFormat :=
  { rounding := .binary 24 149 (by decide)
    bound := 2 ^ 128
    large := by norm_num }

abbrev Binary32 := Floating .binary32

theorem binary32_holds_whole {whole : ℤ} (small : |whole| < 2 ^ 24) :
    FloatFormat.binary32.rounding.Holds (whole : ℚ) :=
  @Rounding.nearest_of_whole 24 149 whole small

theorem binary32_whole {whole : ℤ} (small : |whole| < 2 ^ 24) :
    (Floating.ofExact .binary32 (whole : ℚ)).isFinite = true ∧
      (Floating.ofExact .binary32 (whole : ℚ)).toRat = whole := by
  have inside : |(whole : ℚ)| < FloatFormat.binary32.bound := by
    have cast : |(whole : ℚ)| < 2 ^ 24 := by exact_mod_cast small
    refine cast.trans ?_
    change (2 : ℚ) ^ 24 < 2 ^ 128
    norm_num
  rw [Floating.ofExact_holds (binary32_holds_whole small) inside]
  exact ⟨rfl, rfl⟩

theorem binary32_close {value : ℚ} {most : ℕ} (small : |value| ≤ 2 ^ most) :
    |FloatFormat.binary32.rounding.round value - value| ≤ 2 ^ most / 2 ^ 24 + 1 / 2 ^ 150 := by
  have close := @Rounding.nearest_close 24 (by decide) 149 value
  have relative : |value| / 2 ^ 24 ≤ 2 ^ most / 2 ^ 24 :=
    div_le_div_of_nonneg_right small (by positivity)
  exact close.trans (add_le_add relative (le_refl _))

/-- How the `double` of C++ rounds. -/
def Rounding.binary64 : Rounding := .binary 53 1074 (by decide)

theorem Rounding.binary64_close {value : ℚ} (small : |value| ≤ 2 ^ 34) :
    |Rounding.binary64.round value - value| ≤ 1 / 2 ^ 18 := by
  have close := @Rounding.nearest_close 53 (by decide) 1074 value
  have relative : |value| / 2 ^ 53 ≤ 1 / 2 ^ 19 := by
    rw [div_le_div_iff₀ (by positivity) (by positivity)]
    linarith
  have absolute : (1 : ℚ) / 2 ^ (1074 + 1) ≤ 1 / 2 ^ 19 :=
    one_div_le_one_div_of_le (by positivity) (pow_le_pow_right₀ one_le_two (by decide))
  refine close.trans ((add_le_add relative absolute).trans ?_)
  norm_num

theorem Rounding.binary64_whole {whole : ℤ} (small : |whole| ≤ 2 ^ 34) :
    Rounding.binary64.round whole = whole :=
  Rounding.nearest_of_whole (by omega)

end SmartMic
