import SmartMic.Audio.SampleArithmetic

set_option autoImplicit false

/-! The sample formats of the sound system of the PC. What a device delivers becomes one
channel of samples, and one channel of samples becomes what a device plays. A device that
plays into a microphone is heard again, and the second half is about what is heard then. -/

namespace SmartMic.Audio

/-- `wFormatTag`, with the sub-format of an extensible one. -/
inductive FormatTag where
  | ieeeFloat
  | extensible (ieeeFloat : Bool)
  | other
  deriving DecidableEq

structure WaveFormat where
  tag : FormatTag
  channels : BitVec 16
  rate : BitVec 32
  blockAlign : BitVec 16
  bits : BitVec 16
  deriving DecidableEq

def isFloatFormat (fmt : WaveFormat) : Bool :=
  match fmt.tag with
  | .ieeeFloat => true
  | .extensible ieeeFloat => ieeeFloat
  | .other => false

/-- A device without channels is taken for one with a single channel. -/
def WaveFormat.ch (fmt : WaveFormat) : Nat :=
  if fmt.channels = 0#16 then 1 else fmt.channels.toNat

structure DeviceData (α : Type) where
  floats : Nat → α
  shorts : Nat → BitVec 16
  longs : Nat → BitVec 32

/-- A rational cut to a whole number, towards zero. -/
def towardsZero (value : ℚ) : Int := if value < 0 then ⌈value⌉ else ⌊value⌋

/-- What `fromMonoFloat` writes to a device buffer. -/
inductive DeviceOutput (α : Type) where
  | floats (items : List α)
  | shorts (items : List (BitVec 16))
  | zeros (bytes : Nat)

section

variable {α : Type} [SampleArithmetic α]

/-- One sample of `toMonoFloat`. Sums of whole numbers are exact, also where they are
`double`. -/
def monoSample (fmt : WaveFormat) (src : DeviceData α) (i : Nat) : α :=
  if isFloatFormat fmt = true ∧ fmt.bits = 32#16 then
    SampleArithmetic.per (acrossChannels fmt.ch src.floats i) fmt.ch
  else if fmt.bits = 16#16 then
    let acc : Int := acrossChannels fmt.ch (fun at_ => (src.shorts at_).toInt) i
    SampleArithmetic.nearest (rounded α acc / (32768 * fmt.ch))
  else if fmt.bits = 32#16 then
    let acc : Int := acrossChannels fmt.ch (fun at_ => (src.longs at_).toInt) i
    SampleArithmetic.nearest (widened α (acc / (2147483648 * fmt.ch)))
  else 0

def toMonoFloat (fmt : WaveFormat) (src : DeviceData α) (frames : Nat) : List α :=
  (List.range frames).map (monoSample fmt src)

/-- The clamped sample as a `int16_t`. Of a NaN any number may come, here zero. -/
def quantised (value : α) : BitVec 16 :=
  BitVec.ofInt 16 (towardsZero
    (SampleArithmetic.toRat (clampTo (-1) 1 value * SampleArithmetic.nearest 32767)))

def fromMonoFloat (fmt : WaveFormat) (src : List α) : DeviceOutput α :=
  if isFloatFormat fmt = true ∧ fmt.bits = 32#16 then
    .floats (src.flatMap fun value => List.replicate fmt.ch value)
  else if fmt.bits = 16#16 then
    .shorts (src.flatMap fun value => List.replicate fmt.ch (quantised value))
  else .zeros (src.length * fmt.blockAlign.toNat)

end

/-! ### What is heard of what was played -/

/-- A device buffer that reads as this output. Of bytes that are all zero only the view as
`int32_t` matters. -/
def DeviceOutput.HeardIn {α : Type} (output : DeviceOutput α) (src : DeviceData α) : Prop :=
  match output with
  | .floats items => ∀ place item, items[place]? = some item → src.floats place = item
  | .shorts items => ∀ place item, items[place]? = some item → src.shorts place = item
  | .zeros bytes => ∀ place, 4 * place + 4 ≤ bytes → src.longs place = 0#32

theorem WaveFormat.ch_positive (fmt : WaveFormat) : 0 < fmt.ch := by
  unfold WaveFormat.ch
  split
  · exact Nat.one_pos
  · rename_i channels
    exact Nat.pos_of_ne_zero fun none_ => channels (BitVec.eq_of_toNat_eq none_)

theorem getElem?_acrossFrames {α β : Type} (ch : Nat) (convert : α → β) (src : List α) :
    ∀ {i c : Nat} {value : α}, src[i]? = some value → c < ch →
      (src.flatMap fun value => List.replicate ch (convert value))[i * ch + c]? =
        some (convert value) := by
  induction src with
  | nil => exact fun here _inside => by simp at here
  | cons head tail ih =>
      intro i c value here inside
      rw [List.flatMap_cons]
      cases i with
      | zero =>
          obtain rfl : head = value := by simpa using here
          rw [Nat.zero_mul, Nat.zero_add, List.getElem?_append_left (by simpa using inside)]
          simp [inside]
      | succ i =>
          rw [List.getElem?_append_right (by rw [List.length_replicate, Nat.succ_mul]; omega),
            List.length_replicate]
          have place : (i + 1) * ch + c - ch = i * ch + c := by
            rw [Nat.succ_mul]
            omega
          rw [place]
          exact ih (by simpa using here) inside

theorem acrossChannels_const {ch i : Nat} {item : Nat → Int} {value : Int}
    (same : ∀ c < ch, item (i * ch + c) = value) : acrossChannels ch item i = ch * value := by
  have sum : acrossChannels ch item i = ((List.range ch).map fun c => item (i * ch + c)).sum := by
    rw [List.sum_eq_foldl, List.foldl_map]
    rfl
  rw [sum, List.map_congr_left (g := fun _c => value) fun c inside =>
    same c (List.mem_range.mp inside)]
  rw [List.map_const', List.length_range, List.sum_replicate, nsmul_eq_mul]

theorem towardsZero_near (value : ℚ) : |(towardsZero value : ℚ) - value| < 1 := by
  have below := Int.floor_le value
  have above := Int.lt_floor_add_one value
  have over_ := Int.le_ceil value
  have under := Int.ceil_lt_add_one value
  unfold towardsZero
  rw [abs_lt]
  split
  · constructor <;> linarith
  · constructor <;> linarith

theorem towardsZero_le {value : ℚ} {most : Nat} (within : |value| ≤ most) :
    |towardsZero value| ≤ most := by
  have near := towardsZero_near value
  have close : |(towardsZero value : ℚ)| < (most + 1 : Nat) := by
    have sum := abs_sub_abs_le_abs_sub (towardsZero value : ℚ) value
    push_cast
    linarith
  have whole : |towardsZero value| < ((most + 1 : Nat) : Int) := by exact_mod_cast close
  omega

theorem toMonoFloat_of_samples {α : Type} [SampleArithmetic α] {fmt : WaveFormat}
    {src : DeviceData α} {samples : List α} {back : α → α}
    (each : ∀ i value, samples[i]? = some value → monoSample fmt src i = back value) :
    toMonoFloat fmt src samples.length = samples.map back := by
  unfold toMonoFloat
  apply List.ext_getElem?
  intro i
  rw [List.getElem?_map, List.getElem?_map]
  cases here : samples[i]? with
  | none =>
      rw [List.getElem?_eq_none (by simpa using here)]
      rfl
  | some value =>
      obtain ⟨inside, -⟩ := List.getElem?_eq_some_iff.mp here
      rw [List.getElem?_range inside]
      exact congrArg some (each i value here)

/-! ### The 16 bits of a `float` -/

/-- A finite sample as a device plays it. -/
def clamped (sample : Binary32) : ℚ := max (-1) (min sample.toRat 1)

theorem clamped_abs_le (sample : Binary32) : |clamped sample| ≤ 1 :=
  abs_le.mpr ⟨le_max_left _ _, max_le (by norm_num) (min_le_right _ _)⟩

theorem clampTo_finite {sample : Binary32} (finite : sample.isFinite = true) :
    (clampTo (-1) 1 sample).isFinite = true ∧
      (clampTo (-1) 1 sample).toRat = clamped sample := by
  obtain ⟨one, full⟩ := @Floating.one_finite .binary32
  obtain ⟨minusOne, empty⟩ := @Floating.minus_one_finite .binary32
  have low := Floating.less_finite finite minusOne
  have high := Floating.less_finite one finite
  rw [empty] at low
  rw [full] at high
  unfold clampTo clamped
  split
  · rename_i below
    rw [low] at below
    rw [min_eq_left (by linarith), max_eq_left below.le]
    exact ⟨minusOne, empty⟩
  · rename_i notBelow
    rw [low, not_lt] at notBelow
    split
    · rename_i above
      rw [high] at above
      rw [min_eq_right above.le, max_eq_right (by norm_num)]
      exact ⟨one, full⟩
    · rename_i notAbove
      rw [high, not_lt] at notAbove
      rw [min_eq_left notAbove, max_eq_right notBelow]
      exact ⟨finite, rfl⟩

/-- The product that becomes 16 bits: rounded, and no larger than they hold. -/
theorem scaled_product {sample : Binary32} (finite : sample.isFinite = true) :
    ∃ product : ℚ,
      SampleArithmetic.toRat (clampTo (-1) 1 sample * SampleArithmetic.nearest 32767) = product ∧
        |product| ≤ (32767 : ℕ) ∧ |product - clamped sample * 32767| ≤ 1 / 2 ^ 8 := by
  obtain ⟨clamps, value⟩ := clampTo_finite finite
  obtain ⟨full, scale⟩ := @binary32_whole 32767 (by decide)
  have whole := @binary32_holds_whole 32767 (by decide)
  have most := clamped_abs_le sample
  have small : |clamped sample * 32767| ≤ 32767 := by
    rw [abs_mul]
    norm_num
    linarith
  have bound := abs_le.mp small
  have least := Rounding.Holds.le_round whole.neg (by push_cast; exact bound.1)
  have greatest := Rounding.Holds.round_le whole (by push_cast; exact bound.2)
  push_cast at least greatest
  have within : |FloatFormat.binary32.rounding.round (clamped sample * 32767)| ≤ (32767 : ℕ) :=
    abs_le.mpr ⟨by push_cast; exact least, by push_cast; exact greatest⟩
  refine ⟨FloatFormat.binary32.rounding.round (clamped sample * 32767), ?_, within, ?_⟩
  · push_cast at full scale
    change (clampTo (-1) 1 sample * Floating.ofExact .binary32 32767).toRat = _
    rw [Floating.times_finite clamps full, value, scale]
    refine (Floating.ofExact_inside (within.trans_lt ?_)).2
    change ((32767 : ℕ) : ℚ) < 2 ^ 128
    norm_num
  · have close := @binary32_close _ 15 (small.trans (by norm_num))
    refine close.trans ?_
    norm_num

theorem quantised_product {sample : Binary32} (finite : sample.isFinite = true) :
    ∃ product : ℚ, (quantised sample).toInt = towardsZero product ∧
      |(quantised sample).toInt| ≤ 32767 ∧ |product - clamped sample * 32767| ≤ 1 / 2 ^ 8 := by
  obtain ⟨product, scaled, within, close⟩ := scaled_product finite
  have fits := towardsZero_le within
  have quantises : (quantised sample).toInt = towardsZero product := by
    have sides := abs_le.mp fits
    unfold quantised
    rw [scaled, BitVec.toInt_ofInt, Int.bmod_def]
    push_cast at sides
    omega
  exact ⟨product, quantises, quantises ▸ fits, close⟩

theorem mean_near {ch : Nat} (some : 0 < ch) {value : ℤ} (short : |value| ≤ 32767) :
    let mean := Floating.ofExact .binary32
      (FloatFormat.binary32.rounding.round ((ch * value : ℤ) : ℚ) / (32768 * ch))
    mean.isFinite = true ∧ |mean.toRat - value / 32768| ≤ 1 / 2 ^ 20 := by
  have positive : (1 : ℚ) ≤ ch := by exact_mod_cast some
  have size : |(value : ℚ)| ≤ 32767 := by exact_mod_cast short
  obtain ⟨sum, sumIs⟩ : ∃ sum,
      FloatFormat.binary32.rounding.round ((ch * value : ℤ) : ℚ) = sum := ⟨_, rfl⟩
  have summed : |sum - ch * value| ≤ ch * |(value : ℚ)| / 2 ^ 24 + 1 / 2 ^ 150 := by
    have close := @Rounding.nearest_close 24 (by decide) 149 ((ch * value : ℤ) : ℚ)
    rw [← sumIs]
    push_cast at close ⊢
    rw [abs_mul, abs_of_nonneg (show (0 : ℚ) ≤ ch from Nat.cast_nonneg ch)] at close
    exact close
  have mean : |sum / (32768 * ch) - value / 32768| ≤ 1 / 2 ^ 23 := by
    have shift : sum / (32768 * ch) - (value : ℚ) / 32768 =
        (sum - ch * value) / (32768 * ch) := by
      field_simp
    rw [shift, abs_div, abs_of_pos (show (0 : ℚ) < 32768 * ch by linarith),
      div_le_iff₀ (by linarith)]
    have tiny : (1 : ℚ) / 2 ^ 150 ≤ 1 / 2 ^ 24 := by norm_num
    have product : ch * |(value : ℚ)| ≤ ch * 32767 :=
      mul_le_mul_of_nonneg_left size (by linarith)
    norm_num at summed tiny product ⊢
    linarith
  have half : |(value : ℚ) / 32768| ≤ 1 := by
    rw [abs_div, div_le_one (by norm_num)]
    norm_num
    linarith
  have small : |sum / (32768 * ch)| ≤ 2 ^ 1 := by
    have apart := abs_sub_abs_le_abs_sub (sum / (32768 * ch)) ((value : ℚ) / 32768)
    norm_num at mean apart half ⊢
    linarith
  have close := binary32_close small
  have inside : |FloatFormat.binary32.rounding.round (sum / (32768 * ch))| <
      FloatFormat.binary32.bound := by
    have apart := abs_sub_abs_le_abs_sub
      (FloatFormat.binary32.rounding.round (sum / (32768 * ch))) (sum / (32768 * ch))
    change _ < (2 : ℚ) ^ 128
    norm_num at close small apart ⊢
    linarith
  obtain ⟨finite, exact⟩ := Floating.ofExact_inside inside
  rw [sumIs]
  refine ⟨finite, ?_⟩
  rw [exact]
  have total := abs_sub_le (FloatFormat.binary32.rounding.round (sum / (32768 * ch)))
    (sum / (32768 * ch)) ((value : ℚ) / 32768)
  norm_num at close mean total ⊢
  linarith

/-- Four steps of the 16 bits: one for the cut, one for the two scales, and the roundings. -/
theorem quantised_near {sample : Binary32} (finite : sample.isFinite = true) :
    |((quantised sample).toInt : ℚ) / 32768 - clamped sample| ≤ 5 / 2 ^ 16 := by
  obtain ⟨product, whole, -, close⟩ := quantised_product finite
  have cut := abs_lt.mp (towardsZero_near product)
  have most := abs_le.mp (clamped_abs_le sample)
  have near := abs_le.mp close
  rw [whole, abs_le]
  norm_num at near ⊢
  constructor <;> linarith

section

variable {fmt : WaveFormat} {samples : List Binary32} {src : DeviceData Binary32}

/-- The mean over the channels of copies of one sample is that sample, for one channel or two. -/
theorem toMonoFloat_of_floats (heard : (fromMonoFloat fmt samples).HeardIn src)
    (floats : isFloatFormat fmt = true ∧ fmt.bits = 32#16)
    (channels : fmt.ch = 1 ∨
      (fmt.ch = 2 ∧ ∀ sample ∈ samples, (sample + sample).isFinite = true)) :
    toMonoFloat fmt src samples.length = samples := by
  unfold fromMonoFloat at heard
  rw [if_pos floats] at heard
  have same := @toMonoFloat_of_samples _ _ fmt src samples id fun i value here => by
    have each : ∀ c < fmt.ch, src.floats (i * fmt.ch + c) = value := fun c inside =>
      heard _ value (getElem?_acrossFrames fmt.ch id samples here inside)
    have member := List.mem_of_getElem? here
    unfold monoSample
    rw [if_pos floats]
    rcases channels with mono | ⟨stereo, double⟩
    · have sum : acrossChannels 1 src.floats i = 0 + src.floats (i * 1 + 0) := rfl
      rw [mono] at each ⊢
      rw [sum, each 0 Nat.one_pos, Floating.zero_plus]
      exact Floating.per_one value
    · have sum : acrossChannels 2 src.floats i =
          0 + src.floats (i * 2 + 0) + src.floats (i * 2 + 1) := rfl
      rw [stereo] at each ⊢
      rw [sum, each 0 Nat.two_pos, each 1 Nat.one_lt_two, Floating.zero_plus]
      exact Floating.per_two (fun holds => Rounding.nearest_double holds) (double value member)
  rw [same, List.map_id]

/-- The error of the cut to 16 bits and the error of the mean. -/
theorem toMonoFloat_of_shorts (heard : (fromMonoFloat fmt samples).HeardIn src)
    (finite : ∀ sample ∈ samples, sample.isFinite = true) (short : fmt.bits = 16#16) :
    List.Forall₂ (fun sample heard => heard.isFinite = true ∧
      |heard.toRat - clamped sample| ≤ 1 / 8192) samples
      (toMonoFloat fmt src samples.length) := by
  have noFloats : ¬(isFloatFormat fmt = true ∧ fmt.bits = 32#16) := by
    rw [short]
    exact fun both => absurd both.2 (by decide)
  unfold fromMonoFloat at heard
  rw [if_neg noFloats, if_pos short] at heard
  have same := @toMonoFloat_of_samples _ _ fmt src samples
    (fun sample => Floating.ofExact .binary32 (FloatFormat.binary32.rounding.round
      ((fmt.ch * (quantised sample).toInt : ℤ) : ℚ) / (32768 * fmt.ch))) fun i value here => by
    unfold monoSample
    rw [if_neg noFloats, if_pos short, acrossChannels_const fun c inside =>
      congrArg BitVec.toInt
        (heard _ _ (getElem?_acrossFrames fmt.ch quantised samples here inside))]
    rfl
  rw [same, List.forall₂_map_right_iff]
  refine List.forall₂_same.mpr fun sample played => ?_
  obtain ⟨-, -, fits, -⟩ := quantised_product (finite sample played)
  obtain ⟨sound, back⟩ := mean_near fmt.ch_positive fits
  refine ⟨sound, ?_⟩
  have cut := quantised_near (finite sample played)
  have total := abs_sub_le (Floating.ofExact .binary32 (FloatFormat.binary32.rounding.round
    ((fmt.ch * (quantised sample).toInt : ℤ) : ℚ) / (32768 * fmt.ch))).toRat
    ((quantised sample).toInt / 32768) (clamped sample)
  norm_num at back cut ⊢
  norm_num at total
  linarith

/-- What is written is zero bytes, which only a device of 32-bit numbers reads. -/
theorem toMonoFloat_of_others (heard : (fromMonoFloat fmt samples).HeardIn src)
    (aligned : 4 * fmt.ch ≤ fmt.blockAlign.toNat ∨ fmt.bits ≠ 32#16)
    (others : ¬(isFloatFormat fmt = true ∧ fmt.bits = 32#16)) (notShort : fmt.bits ≠ 16#16) :
    toMonoFloat fmt src samples.length = List.replicate samples.length 0 := by
  unfold fromMonoFloat at heard
  rw [if_neg others, if_neg notShort] at heard
  have same :=
      @toMonoFloat_of_samples _ _ fmt src samples (fun _value => 0) fun i value here => by
    unfold monoSample
    rw [if_neg others, if_neg notShort]
    split
    · rename_i long
      obtain ⟨inside, -⟩ := List.getElem?_eq_some_iff.mp here
      have aligned := aligned.resolve_right fun other => other long
      have silent : ∀ c < fmt.ch, (src.longs (i * fmt.ch + c)).toInt = 0 := by
        intro c inFrame
        have written : 4 * (i * fmt.ch + c) + 4 ≤ samples.length * fmt.blockAlign.toNat := calc
          4 * (i * fmt.ch + c) + 4 ≤ 4 * (i * fmt.ch + fmt.ch) := by omega
          _ = (i + 1) * (4 * fmt.ch) := by ring
          _ ≤ samples.length * fmt.blockAlign.toNat := Nat.mul_le_mul inside aligned
        rw [heard _ written]
        rfl
      dsimp only
      rw [acrossChannels_const silent, mul_zero, Int.cast_zero, zero_div]
      exact congrArg (Floating.ofExact .binary32) Rounding.binary64.zero
    · rfl
  rw [same, List.map_const']

end

/-- What is heard of what was played on a device of `float`: on one with a single channel the
samples themselves, on one with two as long as twice a sample is no infinity. On a device of
16 bits the clamped samples are heard up to four steps, and otherwise silence. -/
theorem format_round_trip (fmt : WaveFormat) (samples : List Binary32)
    (finite : ∀ sample ∈ samples, sample.isFinite = true) (src : DeviceData Binary32)
    (heard : (fromMonoFloat fmt samples).HeardIn src)
    (aligned : 4 * fmt.ch ≤ fmt.blockAlign.toNat ∨ fmt.bits ≠ 32#16) :
    (isFloatFormat fmt = true ∧ fmt.bits = 32#16 →
        fmt.ch = 1 ∨ (fmt.ch = 2 ∧ ∀ sample ∈ samples, (sample + sample).isFinite = true) →
        toMonoFloat fmt src samples.length = samples) ∧
      (fmt.bits = 16#16 →
        List.Forall₂ (fun sample heard => heard.isFinite = true ∧
          |heard.toRat - clamped sample| ≤ 1 / 8192) samples
          (toMonoFloat fmt src samples.length)) ∧
      (¬(isFloatFormat fmt = true ∧ fmt.bits = 32#16) → fmt.bits ≠ 16#16 →
        toMonoFloat fmt src samples.length = List.replicate samples.length 0) :=
  ⟨toMonoFloat_of_floats heard, toMonoFloat_of_shorts heard finite,
    toMonoFloat_of_others heard aligned⟩

/-- A stereo device of `float`, and what it hears of two samples. -/
def stereoFloats : WaveFormat :=
  { tag := .extensible true, channels := 2#16, rate := 44100#32, blockAlign := 8#16, bits := 32#16 }

theorem format_round_trip_stereo :
    toMonoFloat stereoFloats
        { floats := fun place =>
            Floating.ofExact .binary32
              (if place < 2 then 1 / 2 else if place < 4 then -1 / 4 else 0)
          shorts := fun _place => 0#16
          longs := fun _place => 0#32 } 2 =
      [Floating.ofExact .binary32 (1 / 2), Floating.ofExact .binary32 (-1 / 4)] := by
  refine (format_round_trip stereoFloats
    [Floating.ofExact .binary32 (1 / 2), Floating.ofExact .binary32 (-1 / 4)] ?_ _ ?_
    (.inl (by decide))).1 (by decide) (.inr ⟨by decide, ?_⟩)
  · decide +kernel
  · intro place item here
    match place, here with
    | 0, here => simpa [stereoFloats, WaveFormat.ch] using here
    | 1, here => simpa [stereoFloats, WaveFormat.ch] using here
    | 2, here => simpa [stereoFloats, WaveFormat.ch] using here
    | 3, here => simpa [stereoFloats, WaveFormat.ch] using here
    | place + 4, here => simp [stereoFloats, WaveFormat.ch] at here
  · decide +kernel

end SmartMic.Audio
