import SmartMic.Format
import SmartMic.Support.Floating

set_option autoImplicit false

/-! The arithmetic of the mixer and of the conversions around it. The source computes in
`float`, where samples and gains may be infinite or no number at all; with rationals for the
samples the same program is the exact one. The position of a ramp never leaves the unit
interval and that of a resampler never a block by much, so they are rationals in either case,
rounded as the arithmetic rounds. -/

namespace SmartMic.Audio

class SampleArithmetic (α : Type) extends Zero α, One α, Add α, Sub α, Mul α, Neg α, LT α where
  decidableLt : DecidableLT α
  rounding : Rounding
  /-- Of the positions in a stream, which are `double` in the source. -/
  wide : Rounding
  wide_close : ∀ value : ℚ, |value| ≤ 2 ^ 34 → |wide.round value - value| ≤ 1 / 2 ^ 18
  wide_whole : ∀ whole : ℤ, |whole| ≤ 2 ^ 34 → wide.round whole = whole
  /-- `static_cast<float>`. -/
  nearest : ℚ → α
  /-- The number behind a finite sample. -/
  toRat : α → ℚ
  per : α → ℕ → α
  /-- The limiter's literal. -/
  ceiling : α
  /-- Neither infinite nor a NaN. -/
  IsFinite : α → Prop
  finite_zero : IsFinite 0
  mul_one : ∀ sample : α, sample * 1 = sample
  add_zero : ∀ sample : α, sample + 0 = sample
  zero_add : ∀ sample : α, 0 + sample = sample
  mul_zero : ∀ sample : α, IsFinite sample → sample * 0 = 0
  zero_mul : ∀ sample : α, IsFinite sample → 0 * sample = 0
  lt_irrefl : ∀ sample : α, ¬sample < sample
  ceiling_above : ¬ceiling < 0 ∧ ¬ceiling < -ceiling
  floor_below : ¬0 < -ceiling

-- where the type is known its own operations are taken
attribute [instance (100)] SampleArithmetic.toZero SampleArithmetic.toOne SampleArithmetic.toAdd
  SampleArithmetic.toSub SampleArithmetic.toMul SampleArithmetic.toNeg SampleArithmetic.toLT

instance (priority := 100) SampleArithmetic.comparison {α : Type} [SampleArithmetic α] :
    DecidableLT α :=
  SampleArithmetic.decidableLt

/-- The value of the format that an operation with this exact result gives. -/
def rounded (α : Type) [SampleArithmetic α] (value : ℚ) : ℚ :=
  (SampleArithmetic.rounding α).round value

/-- The `double` that an operation with this exact result gives. -/
def widened (α : Type) [SampleArithmetic α] (value : ℚ) : ℚ :=
  (SampleArithmetic.wide α).round value

/-- `kCeiling`, just below full scale. -/
def kCeiling {α : Type} [SampleArithmetic α] : α := SampleArithmetic.ceiling

/-- `std::clamp`; a NaN stays one. -/
def clampTo {α : Type} [SampleArithmetic α] (low high sample : α) : α :=
  if sample < low then low else if high < sample then high else sample

/-- `std::lround`: halves away from zero. -/
def lround (value : ℚ) : Int :=
  if 0 ≤ value then ⌊value + 1 / 2⌋ else -⌊-value + 1 / 2⌋

/-- A sample limited on both sides and scaled to 16 bits. Of a NaN any number may come, here
zero. -/
def toSixteenBits {α : Type} [SampleArithmetic α] (limit sample : α) : BitVec 16 :=
  BitVec.ofInt 16
    (lround (SampleArithmetic.toRat
      (clampTo (-limit) limit sample * SampleArithmetic.nearest 32767)))

/-- The sum over the channels of a frame, in the order of the loop. -/
def acrossChannels {β : Type} [Zero β] [Add β] (ch : Nat) (item : Nat → β) (i : Nat) : β :=
  (List.range ch).foldl (fun acc c => acc + item (i * ch + c)) 0

instance : SampleArithmetic Sample where
  decidableLt := inferInstance
  rounding := .exact
  wide := .exact
  wide_close value _ := (abs_eq_zero.mpr (sub_self value)).trans_le (by norm_num)
  wide_whole _ _ := rfl
  nearest value := value
  toRat sample := sample
  per sample count := sample / count
  ceiling := 999 / 1000
  IsFinite _ := True
  finite_zero := trivial
  mul_one := mul_one
  add_zero := add_zero
  zero_add := zero_add
  mul_zero sample _ := mul_zero sample
  zero_mul sample _ := zero_mul sample
  lt_irrefl := lt_irrefl
  ceiling_above := by norm_num
  floor_below := by norm_num

@[simp]
theorem widened_exact (value : ℚ) : widened Sample value = value := rfl

@[simp]
theorem nearest_exact (value : ℚ) : (SampleArithmetic.nearest value : Sample) = value := rfl

instance : SampleArithmetic Binary32 where
  decidableLt := inferInstance
  rounding := FloatFormat.binary32.rounding
  wide := .binary64
  wide_close _ := Rounding.binary64_close
  wide_whole _ := Rounding.binary64_whole
  nearest := .ofExact _
  toRat := Floating.toRat
  per := Floating.per
  ceiling := .ofExact _ (999 / 1000)
  IsFinite sample := sample.isFinite = true
  finite_zero := congrArg Floating.isFinite Floating.zero_eq
  mul_one := Floating.times_one
  add_zero := Floating.plus_zero
  zero_add := Floating.zero_plus
  mul_zero _ := Floating.times_zero
  zero_mul _ := Floating.zero_times
  lt_irrefl := Floating.less_irrefl
  ceiling_above := by decide +kernel
  floor_below := by decide +kernel

end SmartMic.Audio
