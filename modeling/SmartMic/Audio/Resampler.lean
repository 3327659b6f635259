import SmartMic.Audio.SampleArithmetic
import Mathlib.Data.List.GetD
import Mathlib.Algebra.Order.Floor.Semiring
import Mathlib.Algebra.Order.Floor.Ring

set_option autoImplicit false

/-! The stateful linear resampler, rounded as the arithmetic rounds. A read outside the block
is no value here, so that a result shows that there was none. With exact samples the
outputs are those of the whole stream at once. -/

namespace SmartMic.Audio

/-- An input rate of 48 kHz, or none, is handed through. -/
def passesThrough (inputRate : BitVec 32) : Bool :=
  decide (inputRate.toNat = kSampleRate) || decide (inputRate = 0#32)

/-- The input samples consumed per output sample. -/
def ratioOf (α : Type) [SampleArithmetic α] (inputRate : BitVec 32) : ℚ :=
  if passesThrough inputRate then 1 else widened α ((inputRate.toNat : ℚ) / kSampleRate)

structure LinearResampler (α : Type) where
  inputRate : BitVec 32
  passthrough : Bool
  ratio : ℚ
  phase : ℚ
  last : α
  primed : Bool

section

variable {α : Type} [SampleArithmetic α]

/-- `LinearResampler(inputRate)`, by `reset`. -/
def LinearResampler.new (inputRate : BitVec 32) : LinearResampler α :=
  { inputRate := inputRate
    passthrough := passesThrough inputRate
    ratio := ratioOf α inputRate
    phase := 0
    last := 0
    primed := false }

def LinearResampler.estimateOutput (resampler : LinearResampler α) (inputSamples : Nat) : Nat :=
  if resampler.passthrough then inputSamples
  else ⌈widened α ((inputSamples : ℚ) / resampler.ratio)⌉₊ + 1

def sampleAt (input : List α) : Int → Option α
  | .ofNat index => input[index]?
  | .negSucc _ => none

/-- Position -1 refers to the final sample of the previous block. -/
def LinearResampler.leftSample (resampler : LinearResampler α) (input : List α) (i : Int) :
    Option α :=
  if i < 0 then (if resampler.primed then some resampler.last else input[0]?)
  else sampleAt input i

/-- The loop of `process`, with so many rounds: the samples it appends and the position it
stops at. -/
def LinearResampler.emit (resampler : LinearResampler α) (input : List α) :
    Nat → ℚ → Option (List α × ℚ)
  | 0, _ => none
  | rounds + 1, pos =>
      let i := ⌊pos⌋
      if (input.length : Int) ≤ i + 1 then some ([], pos)
      else do
        let a ← resampler.leftSample input i
        let b ← sampleAt input (i + 1)
        let frac : α := SampleArithmetic.nearest (widened α (pos - i))
        let (rest, stop) ← resampler.emit input rounds (widened α (pos + resampler.ratio))
        some ((a + (b - a) * frac) :: rest, stop)

/-- Enough for a block of that length, since a step is no shorter than `2 ^ -17`. -/
def roundsFor (count : Nat) : Nat := (count + 2) * 2 ^ 17

/-- The samples appended to `out`, and the resampler that is left. -/
def LinearResampler.process (resampler : LinearResampler α) (input out : List α) :
    Option (List α × LinearResampler α) :=
  if input.length = 0 then some (out, resampler)
  else if resampler.passthrough then some (out ++ input, resampler)
  else do
    let (emitted, pos) ← resampler.emit input (roundsFor input.length) resampler.phase
    let last ← input.getLast?
    some (out ++ emitted,
      { resampler with
        last := last
        primed := true
        phase := widened α (pos - input.length) })

def LinearResampler.processBlocks (resampler : LinearResampler α) (blocks : List (List α)) :
    Option (List α × LinearResampler α) :=
  blocks.foldlM (fun state block => state.2.process block state.1) ([], resampler)

end

/-! ### The one-shot definition -/

/-- Linear interpolation between the two samples around a position. -/
def interpolate (samples : List Sample) (position : ℚ) : Sample :=
  let before := samples.getD ⌊position⌋.toNat 0
  let after := samples.getD (⌊position⌋.toNat + 1) 0
  before + (after - before) * (position - ⌊position⌋)

/-- How many output positions from this one on have both their samples. -/
def steps (ratio position : ℚ) (length : Nat) : Nat := ⌈((length : ℚ) - 1 - position) / ratio⌉₊

theorem lt_steps_iff {ratio : ℚ} (forward : 0 < ratio) (position : ℚ) (length index : Nat) :
    index < steps ratio position length ↔ ⌊position + index * ratio⌋ + 1 < (length : Int) := by
  have shift : ⌊position + index * ratio⌋ + 1 < (length : Int) ↔
      ⌊position + index * ratio⌋ < (length : Int) - 1 := by omega
  unfold steps
  rw [shift, Int.floor_lt, Nat.lt_ceil, lt_div_iff₀ forward]
  push_cast
  constructor
  · intro inside
    linarith
  · intro inside
    linarith

theorem steps_zero_iff {ratio : ℚ} (forward : 0 < ratio) (position : ℚ) (length : Nat) :
    steps ratio position length = 0 ↔ (length : Int) ≤ ⌊position⌋ + 1 := by
  have first := lt_steps_iff forward position length 0
  rw [Nat.cast_zero, zero_mul, add_zero] at first
  rw [← not_lt, ← first]
  omega

theorem steps_add {ratio : ℚ} (forward : 0 < ratio) (position : ℚ) (length passed : Nat) :
    steps ratio (position + passed * ratio) length = steps ratio position length - passed := by
  have split : ((length : ℚ) - 1 - (position + passed * ratio)) / ratio =
      ((length : ℚ) - 1 - position) / ratio - passed := by
    rw [← sub_sub, sub_div, mul_div_cancel_right₀ _ (ne_of_gt forward)]
  unfold steps
  rw [split, Nat.ceil_sub_natCast]

theorem steps_none {ratio : ℚ} (forward : 0 < ratio) : steps ratio 0 0 = 0 := by
  rw [steps_zero_iff forward, Int.floor_zero]
  decide

theorem steps_shift (ratio position : ℚ) (before length : Nat) :
    steps ratio (position - before) length = steps ratio position (before + length) := by
  unfold steps
  push_cast
  congr 2
  ring

theorem steps_mono {ratio : ℚ} (forward : 0 < ratio) (position : ℚ) {length longer : Nat}
    (more : length ≤ longer) : steps ratio position length ≤ steps ratio position longer := by
  have cast : (length : ℚ) ≤ longer := Nat.cast_le.mpr more
  unfold steps
  gcongr

def resampled (ratio : ℚ) (samples : List Sample) : List Sample :=
  (List.range (steps ratio 0 samples.length)).map fun index : Nat =>
    interpolate samples (index * ratio)

theorem resampled_getElem? {ratio : ℚ} (forward : 0 < ratio) (samples : List Sample)
    (index : Nat) :
    (resampled ratio samples)[index]? =
      if ⌊index * ratio⌋ + 1 < (samples.length : Int) then
        some (interpolate samples (index * ratio)) else none := by
  have inside := lt_steps_iff forward 0 samples.length index
  rw [zero_add] at inside
  unfold resampled
  rw [List.getElem?_map]
  split
  · rename_i within
    rw [List.getElem?_range (inside.mpr within)]
    rfl
  · rename_i outside
    rw [List.getElem?_eq_none (by rw [List.length_range]; exact not_lt.mp (mt inside.mp outside))]
    rfl

/-- The outputs of a block go on from those of the samples before it. -/
theorem steps_split {ratio : ℚ} (forward : 0 < ratio) (before length : Nat) :
    steps ratio 0 before + steps ratio (steps ratio 0 before * ratio - before) length =
      steps ratio 0 (before + length) := by
  have passed := steps_add forward 0 (before + length) (steps ratio 0 before)
  have fewer := steps_mono forward 0 (Nat.le_add_right before length)
  rw [zero_add] at passed
  rw [steps_shift, passed]
  omega

theorem interpolate_append {before : List Sample} (input : List Sample) {position : ℚ}
    (low : 0 ≤ position) (inside : ⌊position⌋ + 1 < (before.length : Int)) :
    interpolate (before ++ input) position = interpolate before position := by
  have natural := Int.floor_nonneg.mpr low
  unfold interpolate
  rw [List.getD_append _ _ _ _ (by omega), List.getD_append _ _ _ _ (by omega)]

theorem resampled_append {ratio : ℚ} (forward : 0 < ratio) (before input : List Sample) :
    resampled ratio (before ++ input) = resampled ratio before ++
      (List.range (steps ratio (steps ratio 0 before.length * ratio - before.length)
        input.length)).map fun index : Nat => interpolate (before ++ input)
          (before.length + ((steps ratio 0 before.length * ratio - before.length) +
            index * ratio)) := by
  unfold resampled
  rw [List.length_append, ← steps_split forward, List.range_add, List.map_append, List.map_map]
  congr 1
  · apply List.map_congr_left
    intro index within
    have inside := (lt_steps_iff forward 0 before.length index).mp (List.mem_range.mp within)
    rw [zero_add] at inside
    exact interpolate_append input (by positivity) inside
  · apply List.map_congr_left
    intro index _within
    dsimp only [Function.comp]
    congr 1
    push_cast
    ring

/-! ### One block -/

/-- What a resampler remembers of the samples before the block. -/
def LinearResampler.Remembers (resampler : LinearResampler Sample) (before : List Sample) : Prop :=
  (before = [] ∧ resampler.primed = false) ∨
    (resampler.primed = true ∧ before.getLast? = some resampler.last)

theorem interpolate_shift {samples : List Sample} {before : Nat} {pos a b : ℚ}
    (first : samples[((before : Int) + ⌊pos⌋).toNat]? = some a)
    (second : samples[((before : Int) + ⌊pos⌋).toNat + 1]? = some b) :
    interpolate samples (before + pos) = a + (b - a) * (pos - ⌊pos⌋) := by
  have floor : ⌊(before : ℚ) + pos⌋ = (before : Int) + ⌊pos⌋ := Int.floor_natCast_add _ _
  unfold interpolate
  rw [floor, List.getD_eq_getElem?_getD, List.getD_eq_getElem?_getD, first, second]
  push_cast
  simp only [Option.getD_some]
  ring

theorem LinearResampler.Remembers.last {resampler : LinearResampler Sample} {before : List Sample}
    (remembers : resampler.Remembers before) (some : before ≠ []) :
    resampler.primed = true ∧ before[before.length - 1]? = .some resampler.last := by
  rcases remembers with ⟨none, -⟩ | ⟨primed, last⟩
  · exact absurd none some
  · rw [List.getLast?_eq_getElem?] at last
    exact ⟨primed, last⟩

theorem LinearResampler.Remembers.reads {resampler : LinearResampler Sample}
    {before input : List Sample}
    (remembers : resampler.Remembers before) {pos : ℚ}
    (low : -1 ≤ pos) (fresh : before = [] → 0 ≤ pos)
    (inside : ⌊pos⌋ + 1 < (input.length : Int)) :
    ∃ a b, resampler.leftSample input ⌊pos⌋ = some a ∧
      sampleAt input (⌊pos⌋ + 1) = some b ∧
      interpolate (before ++ input) (before.length + pos) = a + (b - a) * (pos - ⌊pos⌋) := by
  have lowest : -1 ≤ ⌊pos⌋ := Int.le_floor.mpr (by push_cast; exact low)
  by_cases negative : ⌊pos⌋ < 0
  · have minusOne : ⌊pos⌋ = -1 := by omega
    have nonempty : before ≠ [] := by
      intro none
      exact absurd (Int.floor_nonneg.mpr (fresh none)) (not_le.mpr negative)
    obtain ⟨primed, last⟩ := remembers.last nonempty
    have positive : 0 < before.length := List.length_pos_iff.mpr nonempty
    obtain ⟨b, second⟩ : ∃ b, input[0]? = some b :=
      ⟨_, List.getElem?_eq_getElem (by omega)⟩
    have place : ((before.length : Int) + ⌊pos⌋).toNat = before.length - 1 := by omega
    refine ⟨resampler.last, b, ?_, ?_, interpolate_shift ?_ ?_⟩
    · unfold LinearResampler.leftSample
      rw [if_pos negative, if_pos primed]
    · rw [minusOne]
      exact second
    · rw [place, List.getElem?_append_left (by omega)]
      exact last
    · rw [place, Nat.sub_add_cancel positive, List.getElem?_append_right (le_refl _), Nat.sub_self]
      exact second
  · obtain ⟨index, at_⟩ := Int.eq_ofNat_of_zero_le (not_lt.mp negative)
    obtain ⟨a, first⟩ : ∃ a, input[index]? = some a :=
      ⟨_, List.getElem?_eq_getElem (by omega)⟩
    obtain ⟨b, second⟩ : ∃ b, input[index + 1]? = some b :=
      ⟨_, List.getElem?_eq_getElem (by omega)⟩
    have place : ((before.length : Int) + ⌊pos⌋).toNat = before.length + index := by omega
    refine ⟨a, b, ?_, ?_, interpolate_shift ?_ ?_⟩
    · unfold LinearResampler.leftSample
      rw [if_neg negative, at_]
      exact first
    · rw [at_]
      exact second
    · rw [place, List.getElem?_append_right (Nat.le_add_right _ _), Nat.add_sub_cancel_left]
      exact first
    · rw [place, Nat.add_assoc, List.getElem?_append_right (Nat.le_add_right _ _),
        Nat.add_sub_cancel_left]
      exact second

/-- The loop emits what the whole stream gives from its position on, and stops after it. -/
theorem LinearResampler.Remembers.emit {resampler : LinearResampler Sample} {before : List Sample}
    (remembers : resampler.Remembers before) (forward : 0 < resampler.ratio)
    (input : List Sample) {pos : ℚ} (low : -1 ≤ pos) (fresh : before = [] → 0 ≤ pos)
    {rounds : Nat} (enough : steps resampler.ratio pos input.length < rounds) :
    resampler.emit input rounds pos = some (
      (List.range (steps resampler.ratio pos input.length)).map (fun index : Nat =>
        interpolate (before ++ input) (before.length + (pos + index * resampler.ratio))),
      pos + steps resampler.ratio pos input.length * resampler.ratio) := by
  induction rounds generalizing pos with
  | zero => exact absurd enough (Nat.not_lt_zero _)
  | succ rounds ih =>
      rw [LinearResampler.emit]
      cases many : steps resampler.ratio pos input.length with
      | zero =>
          rw [if_pos ((steps_zero_iff forward pos input.length).mp many)]
          simp
      | succ count =>
          have inside : ⌊pos⌋ + 1 < (input.length : Int) := by
            rw [← not_le, ← steps_zero_iff forward]
            omega
          obtain ⟨a, b, first, second, value⟩ := remembers.reads low fresh inside
          have later : steps resampler.ratio (pos + resampler.ratio) input.length = count := by
            have one := steps_add forward pos input.length 1
            rw [Nat.cast_one, one_mul] at one
            omega
          have rest := @ih (pos + resampler.ratio) (by linarith)
            (fun none => by linarith [fresh none]) (by omega)
          rw [later] at rest
          rw [if_neg (not_le.mpr inside)]
          simp only [first, second, widened_exact, nearest_exact, rest, Option.bind_eq_bind,
            Option.bind_some]
          rw [List.range_succ_eq_map, List.map_cons, List.map_map, ← value]
          congr 2
          · congr 1
            · rw [Nat.cast_zero, zero_mul, add_zero]
            · apply List.map_congr_left
              intro index _within
              congr 1
              simp only [Nat.succ_eq_add_one]
              push_cast
              ring
          · push_cast
            ring

/-! ### Any cut into blocks -/

/-- The state after the samples so far: the outputs so far, and the position of the next. -/
structure LinearResampler.Carried (resampler : LinearResampler Sample) (before out : List Sample) :
    Prop where
  resamples : resampler.passthrough = false
  forward : 1 / kSampleRate ≤ resampler.ratio
  remembers : resampler.Remembers before
  position : resampler.phase =
    steps resampler.ratio 0 before.length * resampler.ratio - before.length
  low : -1 ≤ resampler.phase
  emitted : out = resampled resampler.ratio before

theorem LinearResampler.Carried.moves {resampler : LinearResampler Sample}
    {before out : List Sample} (carried : resampler.Carried before out) : 0 < resampler.ratio :=
  lt_of_lt_of_le (by unfold kSampleRate; norm_num) carried.forward

theorem LinearResampler.Carried.fresh {resampler : LinearResampler Sample}
    {before out : List Sample}
    (carried : resampler.Carried before out) (none : before = []) : 0 ≤ resampler.phase := by
  rw [carried.position, none]
  simp only [List.length_nil, Nat.cast_zero, sub_zero]
  have forward := carried.moves
  positivity

theorem stop_low {ratio : ℚ} (forward : 0 < ratio) (position : ℚ) (length : Nat) :
    -1 ≤ position + steps ratio position length * ratio - length := by
  have spent := steps_add forward position length (steps ratio position length)
  rw [Nat.sub_self, steps_zero_iff forward] at spent
  have below := Int.floor_le (position + steps ratio position length * ratio)
  have cast : ((length : Int) : ℚ) ≤
      ((⌊position + steps ratio position length * ratio⌋ + 1 : Int) : ℚ) := Int.cast_le.mpr spent
  push_cast at cast
  linarith

/-- A block takes at most one output more than its length in output samples. -/
theorem steps_le_estimate {ratio position : ℚ} (forward : 0 < ratio) (low : -1 ≤ position)
    (length : Nat) : steps ratio position length ≤ ⌈(length : ℚ) / ratio⌉₊ := by
  unfold steps
  apply Nat.ceil_le_ceil
  gcongr
  linarith

theorem LinearResampler.Carried.enough {resampler : LinearResampler Sample}
    {before out : List Sample} (carried : resampler.Carried before out) (length : Nat) :
    steps resampler.ratio resampler.phase length < roundsFor length := by
  have few := steps_le_estimate carried.moves carried.low length
  have many : ⌈(length : ℚ) / resampler.ratio⌉₊ ≤ length * kSampleRate := by
    rw [Nat.ceil_le, div_le_iff₀ carried.moves]
    have forward := mul_le_mul_of_nonneg_left carried.forward
      (show (0 : ℚ) ≤ ((length * kSampleRate : Nat) : ℚ) from Nat.cast_nonneg _)
    refine le_trans (le_of_eq ?_) forward
    unfold kSampleRate
    push_cast
    ring
  unfold roundsFor
  unfold kSampleRate at many
  omega

theorem LinearResampler.Carried.process {resampler : LinearResampler Sample}
    {before out : List Sample}
    (carried : resampler.Carried before out) (input : List Sample) :
    ∃ longer next, resampler.process input out = some (longer, next) ∧
      next.Carried (before ++ input) longer ∧ next.ratio = resampler.ratio ∧
      longer.length ≤ out.length + resampler.estimateOutput input.length := by
  have forward := carried.moves
  by_cases empty : input.length = 0
  · have none : input = [] := List.eq_nil_of_length_eq_zero empty
    refine ⟨out, resampler, if_pos empty, ?_, rfl, Nat.le_add_right _ _⟩
    rw [none, List.append_nil]
    exact carried
  · have nonempty : input ≠ [] := fun none => empty (by rw [none]; rfl)
    have emitted := carried.remembers.emit forward input carried.low carried.fresh
      (carried.enough input.length)
    have final := List.getLast?_eq_some_getLast nonempty
    have whole : steps resampler.ratio 0 (before ++ input).length =
        steps resampler.ratio 0 before.length +
          steps resampler.ratio resampler.phase input.length := by
      rw [List.length_append, carried.position, steps_split forward]
    have outputs : resampled resampler.ratio (before ++ input) = out ++
        (List.range (steps resampler.ratio resampler.phase input.length)).map
          fun index : Nat => interpolate (before ++ input)
            (before.length + (resampler.phase + index * resampler.ratio)) := by
      rw [resampled_append forward, carried.emitted, carried.position]
    refine ⟨resampled resampler.ratio (before ++ input),
      { resampler with
        last := input.getLast nonempty
        primed := true
        phase := resampler.phase +
          steps resampler.ratio resampler.phase input.length * resampler.ratio - input.length },
      ?_, ⟨carried.resamples, carried.forward, Or.inr ⟨rfl, ?_⟩, ?_, ?_, rfl⟩, rfl, ?_⟩
    · unfold LinearResampler.process
      rw [if_neg empty, if_neg (by rw [carried.resamples]; decide), emitted, final, outputs]
      rfl
    · rw [List.getLast?_append, final]
      rfl
    · change resampler.phase + _ - _ = _
      rw [whole, List.length_append, carried.position]
      push_cast
      ring
    · exact stop_low forward resampler.phase input.length
    · unfold LinearResampler.estimateOutput
      have few := steps_le_estimate forward carried.low input.length
      rw [outputs, if_neg (by rw [carried.resamples]; decide), List.length_append, List.length_map,
        List.length_range, widened_exact]
      omega

theorem LinearResampler.Carried.processBlocks {resampler : LinearResampler Sample}
    {before out : List Sample} (carried : resampler.Carried before out)
    (blocks : List (List Sample)) :
    ∃ longer next,
      blocks.foldlM (fun state block => LinearResampler.process state.2 block state.1)
        (out, resampler) = some (longer, next) ∧
      next.Carried (before ++ blocks.flatten) longer ∧ next.ratio = resampler.ratio := by
  induction blocks generalizing before out resampler with
  | nil =>
      refine ⟨out, resampler, rfl, ?_, rfl⟩
      rw [List.flatten_nil, List.append_nil]
      exact carried
  | cons block rest ih =>
      obtain ⟨middle, next, processed, kept, ratio, -⟩ := carried.process block
      obtain ⟨longer, final, finished, after, same⟩ := ih kept
      refine ⟨longer, final, ?_, ?_, same.trans ratio⟩
      · rw [List.foldlM_cons, processed]
        exact finished
      · rw [List.flatten_cons, ← List.append_assoc]
        exact after

theorem passesThrough_nonzero {inputRate : BitVec 32}
    (resamples : passesThrough inputRate = false) : 1 ≤ inputRate.toNat := by
  by_contra none
  have zero : inputRate = 0#32 := by bv_omega
  rw [zero] at resamples
  cases resamples

theorem ratioOf_exact {inputRate : BitVec 32} (resamples : passesThrough inputRate = false) :
    ratioOf Sample inputRate = (inputRate.toNat : ℚ) / kSampleRate :=
  if_neg (by rw [resamples]; decide)

theorem LinearResampler.carried_new {inputRate : BitVec 32}
    (resamples : passesThrough inputRate = false) :
    (LinearResampler.new inputRate : LinearResampler Sample).Carried [] [] := by
  have forward : 1 / (kSampleRate : ℚ) ≤ ratioOf Sample inputRate := by
    rw [ratioOf_exact resamples]
    have some : (1 : ℚ) ≤ inputRate.toNat := by exact_mod_cast passesThrough_nonzero resamples
    exact div_le_div_of_nonneg_right some (Nat.cast_nonneg _)
  have none := steps_none (lt_of_lt_of_le (by unfold kSampleRate; norm_num) forward)
  exact
    { resamples := resamples
      forward := forward
      remembers := Or.inl ⟨rfl, rfl⟩
      position := by
        change 0 = ((steps (ratioOf Sample inputRate) 0 0 : Nat) : ℚ) * _ - ((0 : Nat) : ℚ)
        rw [none]
        norm_num
      low := neg_one_lt_zero.le
      emitted := by
        unfold resampled
        change [] = (List.range (steps (ratioOf Sample inputRate) 0 0)).map _
        rw [none]
        rfl }

theorem passesThrough_eq_false {inputRate : BitVec 32}
    (resamples : 1 ≤ inputRate.toNat ∧ inputRate.toNat ≠ kSampleRate) :
    passesThrough inputRate = false := by
  have nonzero : inputRate ≠ 0#32 := by
    rintro rfl
    exact absurd resamples.1 (by decide)
  unfold passesThrough
  rw [decide_eq_false resamples.2, decide_eq_false nonzero]
  rfl

/-- However the stream is cut into blocks, the output is that of the whole stream, and no
call emits more than its estimate. -/
theorem resampler_blocks (inputRate : BitVec 32) (blocks : List (List Sample))
    (resamples : 1 ≤ inputRate.toNat ∧ inputRate.toNat ≠ kSampleRate) :
    ∃ out resampler,
      (LinearResampler.new inputRate).processBlocks blocks = some (out, resampler) ∧
      (∀ index : Nat, out[index]? =
        if ⌊(index : ℚ) * inputRate.toNat / kSampleRate⌋ + 1 < (blocks.flatten.length : Int) then
          some (interpolate blocks.flatten (index * inputRate.toNat / kSampleRate))
        else none) ∧
      ∀ block, ∃ longer next, resampler.process block out = some (longer, next) ∧
        longer.length ≤ out.length + resampler.estimateOutput block.length := by
  have active := passesThrough_eq_false resamples
  have ratio : (LinearResampler.new inputRate : LinearResampler Sample).ratio =
      (inputRate.toNat : ℚ) / kSampleRate := ratioOf_exact active
  obtain ⟨out, resampler, processed, carried, same⟩ :=
    (LinearResampler.carried_new active).processBlocks blocks
  refine ⟨out, resampler, processed, fun index => ?_, fun block => ?_⟩
  · have place : (index : ℚ) * inputRate.toNat / kSampleRate = index * resampler.ratio := by
      rw [same, ratio, mul_div_assoc]
    rw [carried.emitted, resampled_getElem? carried.moves, place, List.nil_append]
  · obtain ⟨longer, next, called, -, -, few⟩ := carried.process block
    exact ⟨longer, next, called, few⟩

/-- Doubling the rate of three samples, the first alone. -/
theorem resampler_blocks_doubled :
    ∃ out resampler,
      (LinearResampler.new 24000#32).processBlocks [[0], [], [1, 0]] = some (out, resampler) ∧
      (∀ index : Nat, out[index]? =
        if ⌊(index : ℚ) * (24000#32).toNat / kSampleRate⌋ + 1 <
            ([[0], [], [1, 0]].flatten.length : Int) then
          some (interpolate [[0], [], [1, 0]].flatten (index * (24000#32).toNat / kSampleRate))
        else none) ∧
      ∀ block, ∃ longer next, resampler.process block out = some (longer, next) ∧
        longer.length ≤ out.length + resampler.estimateOutput block.length :=
  resampler_blocks 24000#32 [[0], [], [1, 0]] ⟨by decide, by decide⟩

end SmartMic.Audio
