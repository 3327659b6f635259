import SmartMic.Media.MissingSlot

set_option autoImplicit false

/-! The jitter estimate and the target depth under a clock that may jump. The time between
two arrivals is an unsigned 64-bit difference: where the clock steps back it is close to
`2 ^ 64` milliseconds. The smoothing is exact here; the source rounds it to doubles. -/

namespace SmartMic.Media

/-- What an arrival changes of a buffer besides its packets. -/
def JitterBuffer.timing (buffer : JitterBuffer) : ℚ × BitVec 64 × Bool × BitVec 32 :=
  (buffer.jitterEstimate, buffer.prevArrivalMs, buffer.havePrevArrival, buffer.targetMs)

/-- Sixteen times the estimate after an arrival. -/
def JitterBuffer.weighted (buffer : JitterBuffer) (arrivalMs : BitVec 64) : ℚ :=
  if buffer.havePrevArrival then
    15 * buffer.jitterEstimate + |((arrivalMs - buffer.prevArrivalMs).toNat : ℚ) - kFrameMillis|
  else 16 * buffer.jitterEstimate

theorem JitterBuffer.estimate_eq (buffer : JitterBuffer) (arrivalMs : BitVec 64) :
    buffer.estimate arrivalMs = buffer.weighted arrivalMs / 16 := by
  unfold JitterBuffer.estimate JitterBuffer.weighted
  split_ifs <;> ring

/-- The depth that such an estimate asks for, in 32 bits and within the bounds. -/
def JitterConfig.depth (config : JitterConfig) (weighted : ℚ) : BitVec 32 :=
  clamp (BitVec.ofInt 32 ⌈weighted / 16 * 3⌉ + config.minMs) config.minMs config.maxMs

/-- Up to the wanted depth at once, down to it by one frame. -/
def JitterConfig.follow (config : JitterConfig) (targetMs wanted : BitVec 32) : BitVec 32 :=
  if config.adaptive = false then targetMs
  else if targetMs < wanted then wanted
  else if wanted + BitVec.ofNat 32 kFrameMillis < targetMs then
    targetMs - BitVec.ofNat 32 kFrameMillis
  else targetMs

theorem JitterBuffer.adapt_timing (buffer : JitterBuffer) (arrivalMs : BitVec 64) :
    (buffer.adapt arrivalMs).timing =
      (buffer.weighted arrivalMs / 16, arrivalMs, true,
        buffer.cfg.follow buffer.targetMs (buffer.cfg.depth (buffer.weighted arrivalMs))) := by
  unfold JitterBuffer.adapt JitterConfig.follow JitterConfig.depth
  rw [buffer.estimate_eq]
  dsimp only
  split_ifs <;> rfl

theorem JitterBuffer.startAt_timing (buffer : JitterBuffer) (seq : Seq) :
    (buffer.startAt seq).timing = buffer.timing := by
  unfold JitterBuffer.startAt
  split_ifs <;> rfl

theorem JitterBuffer.take_timing (buffer : JitterBuffer) (arrival : Arrival) :
    (buffer.take arrival).timing =
      (buffer.weighted arrival.arrivalMs / 16, arrival.arrivalMs, true,
        buffer.cfg.follow buffer.targetMs
          (buffer.cfg.depth (buffer.weighted arrival.arrivalMs))) := by
  have arrived : (buffer.take arrival).timing =
      (buffer.arrive arrival.seq arrival.arrivalMs).timing := by
    unfold JitterBuffer.take JitterBuffer.push
    dsimp only
    split_ifs <;> rfl
  rw [arrived]
  unfold JitterBuffer.arrive
  rw [JitterBuffer.startAt_timing, JitterBuffer.adapt_timing]
  rfl

/-! ### The bounds of the target -/

theorem clamp_within {low high : BitVec 32} (ordered : low ≤ high) (value : BitVec 32) :
    low ≤ clamp value low high ∧ clamp value low high ≤ high := by
  unfold clamp
  split_ifs with below above
  · exact ⟨BitVec.le_refl _, ordered⟩
  · exact ⟨ordered, BitVec.le_refl _⟩
  · exact ⟨BitVec.not_lt.mp below, BitVec.not_lt.mp above⟩

/-- The frame that is added to the wanted depth wraps, and the target is about to sink
below its least value. -/
def JitterConfig.Dips (config : JitterConfig) (targetMs wanted : BitVec 32) : Prop :=
  2 ^ 32 ≤ wanted.toNat + kFrameMillis ∧ wanted ≤ targetMs ∧
    targetMs.toNat < config.minMs.toNat + kFrameMillis

/-- Only a target of almost 2 ^ 32 milliseconds can dip, and only next to its least value. -/
theorem JitterConfig.not_dips {config : JitterConfig} {targetMs : BitVec 32}
    (level : targetMs.toNat + kFrameMillis < 2 ^ 32 ∨
      config.minMs.toNat + kFrameMillis ≤ targetMs.toNat) (wanted : BitVec 32) :
    ¬ config.Dips targetMs wanted := by
  rintro ⟨wraps, reached, low⟩
  have := BitVec.le_def.mp reached
  omega

theorem JitterConfig.follow_falls (config : JitterConfig) (targetMs wanted : BitVec 32) :
    targetMs.toNat ≤ (config.follow targetMs wanted).toNat + kFrameMillis := by
  unfold JitterConfig.follow kFrameMillis
  split_ifs with fixed rises falls
  · omega
  · have := BitVec.lt_def.mp rises
    omega
  · rw [BitVec.toNat_sub]
    have := targetMs.isLt
    simp only [BitVec.toNat_ofNat]
    omega
  · omega

theorem JitterConfig.follow_within {config : JitterConfig} {targetMs wanted : BitVec 32}
    (target : config.minMs ≤ targetMs ∧ targetMs ≤ config.maxMs)
    (depth : config.minMs ≤ wanted ∧ wanted ≤ config.maxMs) :
    (config.minMs ≤ config.follow targetMs wanted ∧
        config.follow targetMs wanted ≤ config.maxMs) ↔
      (config.adaptive = true → ¬ config.Dips targetMs wanted) := by
  unfold JitterConfig.follow JitterConfig.Dips kFrameMillis
  split_ifs with fixed rises falls
  · simp [fixed, target]
  · have := BitVec.lt_def.mp rises
    simp only [BitVec.le_def] at target depth ⊢
    constructor
    · rintro - - ⟨-, below, -⟩
      omega
    · exact fun _ => depth
  · have adaptive : config.adaptive = true := by simpa using fixed
    have range := targetMs.isLt
    simp only [BitVec.le_def, BitVec.lt_def, BitVec.toNat_sub, BitVec.toNat_add,
      BitVec.toNat_ofNat, adaptive, true_implies] at *
    omega
  · have adaptive : config.adaptive = true := by simpa using fixed
    have range := targetMs.isLt
    simp only [BitVec.le_def, BitVec.lt_def, BitVec.toNat_add, BitVec.toNat_ofNat,
      adaptive, true_implies] at *
    omega

/-! ### The estimate -/

/-- How far the time since the previous arrival is from one frame. -/
def JitterBuffer.deviation (buffer : JitterBuffer) (arrivalMs : BitVec 64) : Nat :=
  ((arrivalMs.toNat : Int) - buffer.prevArrivalMs.toNat - kFrameMillis).natAbs

theorem JitterBuffer.deviation_forward {buffer : JitterBuffer} {arrivalMs : BitVec 64}
    (forward : buffer.prevArrivalMs ≤ arrivalMs) :
    |((arrivalMs - buffer.prevArrivalMs).toNat : ℚ) - kFrameMillis| =
      buffer.deviation arrivalMs := by
  have elapsed : ((arrivalMs - buffer.prevArrivalMs).toNat : Int) =
      (arrivalMs.toNat : Int) - buffer.prevArrivalMs.toNat := by
    have := BitVec.le_def.mp forward
    rw [BitVec.toNat_sub_of_le forward]
    omega
  unfold JitterBuffer.deviation
  rw [← elapsed, Nat.cast_natAbs]
  push_cast
  rfl

structure Clocked where
  buffer : JitterBuffer
  /-- The largest deviation so far. -/
  largest : Nat
  previousTarget : BitVec 32

def Clocked.initial (config : JitterConfig) : Clocked :=
  { buffer := JitterBuffer.new config, largest := 0, previousTarget := config.targetMs }

def Clocked.reach (clock : Clocked) (arrivalMs : BitVec 64) : Nat :=
  if clock.buffer.havePrevArrival then max clock.largest (clock.buffer.deviation arrivalMs)
  else clock.largest

def Clocked.step (clock : Clocked) (arrival : Arrival) : Clocked :=
  { buffer := clock.buffer.take arrival
    largest := clock.reach arrival.arrivalMs
    previousTarget := clock.buffer.targetMs }

structure Clocked.Sane (clock : Clocked) : Prop where
  estimate : clock.buffer.jitterEstimate ≤ clock.largest
  converts : clock.buffer.cfg.adaptive = true →
    0 ≤ ⌈clock.buffer.jitterEstimate * 3⌉ ∧ ⌈clock.buffer.jitterEstimate * 3⌉ < 2 ^ 32
  within : clock.buffer.cfg.minMs ≤ clock.buffer.targetMs ∧
    clock.buffer.targetMs ≤ clock.buffer.cfg.maxMs
  falls : clock.previousTarget.toNat ≤ clock.buffer.targetMs.toNat + kFrameMillis

/-- The longest time to the next arrival, one frame apart, for which three times the next
estimate fits 32 bits. -/
def JitterBuffer.longest (buffer : JitterBuffer) : ℚ :=
  (16 * (2 ^ 32 - 1) - 45 * buffer.jitterEstimate) / 3

/-- What the next arrival must meet: the clock does not step back, and where the depth adapts
it does not jump too far ahead and the target is not next to `2 ^ 32`. -/
structure Clocked.Allows (clock : Clocked) (arrival : Arrival) : Prop where
  forward : clock.buffer.havePrevArrival = true → clock.buffer.prevArrivalMs ≤ arrival.arrivalMs
  soon : clock.buffer.cfg.adaptive = true → clock.buffer.havePrevArrival = true →
    (arrival.arrivalMs.toNat : ℚ) ≤
      clock.buffer.prevArrivalMs.toNat + kFrameMillis + clock.buffer.longest
  level : clock.buffer.cfg.adaptive = true →
    clock.buffer.targetMs.toNat + kFrameMillis < 2 ^ 32 ∨
      clock.buffer.cfg.minMs.toNat + kFrameMillis ≤ clock.buffer.targetMs.toNat

/-- The clock steps back, by less than `2 ^ 59` as all it did so far, or it jumps too far
ahead where the depth adapts. -/
def Clocked.Strays (clock : Clocked) (arrival : Arrival) : Prop :=
  clock.buffer.havePrevArrival = true ∧
    ((arrival.arrivalMs < clock.buffer.prevArrivalMs ∧
        clock.buffer.prevArrivalMs.toNat + kFrameMillis < arrival.arrivalMs.toNat + 2 ^ 59 ∧
        clock.largest < 2 ^ 59) ∨
      (clock.buffer.cfg.adaptive = true ∧
        clock.buffer.prevArrivalMs ≤ arrival.arrivalMs ∧
        (clock.buffer.prevArrivalMs.toNat + kFrameMillis + clock.buffer.longest : ℚ) <
          arrival.arrivalMs.toNat))

structure Clocked.Sound (clock : Clocked) : Prop extends clock.Sane where
  nonneg : 0 ≤ clock.buffer.jitterEstimate

theorem JitterBuffer.weighted_nonneg {buffer : JitterBuffer}
    (nonneg : 0 ≤ buffer.jitterEstimate) (arrivalMs : BitVec 64) :
    0 ≤ buffer.weighted arrivalMs := by
  unfold JitterBuffer.weighted
  split_ifs <;> positivity

theorem Clocked.step_timing (clock : Clocked) (arrival : Arrival) :
    (clock.step arrival).buffer.jitterEstimate =
        clock.buffer.weighted arrival.arrivalMs / 16 ∧
      (clock.step arrival).buffer.prevArrivalMs = arrival.arrivalMs ∧
      (clock.step arrival).buffer.havePrevArrival = true ∧
      (clock.step arrival).buffer.targetMs = clock.buffer.cfg.follow clock.buffer.targetMs
        (clock.buffer.cfg.depth (clock.buffer.weighted arrival.arrivalMs)) := by
  have timing := clock.buffer.take_timing arrival
  simp only [JitterBuffer.timing, Prod.mk.injEq] at timing
  exact timing

theorem Clocked.step_cfg (clock : Clocked) (arrival : Arrival) :
    (clock.step arrival).buffer.cfg = clock.buffer.cfg :=
  clock.buffer.push_cfg arrival.seq arrival.payload arrival.arrivalMs

theorem ceil_three_lt_iff (weighted : ℚ) :
    ⌈weighted / 16 * 3⌉ < 2 ^ 32 ↔ 3 * weighted ≤ 16 * (2 ^ 32 - 1) := by
  rw [Int.lt_iff_add_one_le, ← le_sub_iff_add_le, Int.ceil_le]
  push_cast
  constructor
  · intro small
    linarith
  · intro small
    linarith

theorem Clocked.Sane.depth_within {clock : Clocked} (sane : clock.Sane) (weighted : ℚ) :
    clock.buffer.cfg.minMs ≤ clock.buffer.cfg.depth weighted ∧
      clock.buffer.cfg.depth weighted ≤ clock.buffer.cfg.maxMs :=
  clamp_within (BitVec.le_trans sane.within.1 sane.within.2) _

/-- While the clock does not step back, the estimate is a mean of deviations. -/
theorem Clocked.Sane.weighted_le {clock : Clocked} (sane : clock.Sane) {arrivalMs : BitVec 64}
    (forward : clock.buffer.havePrevArrival = true → clock.buffer.prevArrivalMs ≤ arrivalMs) :
    clock.buffer.weighted arrivalMs ≤ 16 * clock.reach arrivalMs := by
  have below := sane.estimate
  unfold JitterBuffer.weighted Clocked.reach
  split_ifs with known
  · rw [JitterBuffer.deviation_forward (forward known)]
    have first : (clock.largest : ℚ) ≤ (max clock.largest (clock.buffer.deviation arrivalMs) : ℕ) :=
      Nat.cast_le.mpr (le_max_left _ _)
    have second : (clock.buffer.deviation arrivalMs : ℚ) ≤
        (max clock.largest (clock.buffer.deviation arrivalMs) : ℕ) :=
      Nat.cast_le.mpr (le_max_right _ _)
    linarith
  · linarith

theorem JitterBuffer.weighted_known {buffer : JitterBuffer} (known : buffer.havePrevArrival = true)
    (arrivalMs : BitVec 64) :
    buffer.weighted arrivalMs = 15 * buffer.jitterEstimate +
      |((arrivalMs - buffer.prevArrivalMs).toNat : ℚ) - kFrameMillis| :=
  if_pos known

theorem Clocked.Sane.weighted_fits {clock : Clocked} {arrival : Arrival} (sane : clock.Sane)
    (allows : clock.Allows arrival) (adaptive : clock.buffer.cfg.adaptive = true) :
    3 * clock.buffer.weighted arrival.arrivalMs ≤ 16 * (2 ^ 32 - 1) := by
  have before : 3 * clock.buffer.jitterEstimate ≤ 2 ^ 32 - 1 := by
    have small := (ceil_three_lt_iff (16 * clock.buffer.jitterEstimate)).mp (by
      rw [mul_div_cancel_left₀ _ (by norm_num)]
      exact (sane.converts adaptive).2)
    linarith
  by_cases known : clock.buffer.havePrevArrival = true
  · have soon := allows.soon adaptive known
    have forward := allows.forward known
    have elapsed : (((arrival.arrivalMs - clock.buffer.prevArrivalMs).toNat : ℕ) : ℚ) =
        arrival.arrivalMs.toNat - clock.buffer.prevArrivalMs.toNat := by
      rw [BitVec.toNat_sub_of_le forward, Nat.cast_sub (BitVec.le_def.mp forward)]
    have later : (clock.buffer.prevArrivalMs.toNat : ℚ) ≤ arrival.arrivalMs.toNat :=
      Nat.cast_le.mpr (BitVec.le_def.mp forward)
    have deviation : |((arrival.arrivalMs - clock.buffer.prevArrivalMs).toNat : ℚ) -
        kFrameMillis| ≤ clock.buffer.longest := by
      rw [elapsed, abs_le]
      unfold JitterBuffer.longest kFrameMillis at *
      constructor
      · push_cast
        linarith
      · push_cast at soon ⊢
        linarith
    rw [JitterBuffer.weighted_known known]
    unfold JitterBuffer.longest at deviation
    linarith
  · unfold JitterBuffer.weighted
    rw [if_neg known]
    linarith

/-! ### One arrival, and every run -/

theorem Clocked.Sound.step {clock : Clocked} {arrival : Arrival} (sound : clock.Sound)
    (allows : clock.Allows arrival) : (clock.step arrival).Sound := by
  obtain ⟨estimate, -, -, target⟩ := clock.step_timing arrival
  have nonneg := JitterBuffer.weighted_nonneg sound.nonneg arrival.arrivalMs
  constructor
  · constructor
    · have small := sound.weighted_le allows.forward
      rw [estimate]
      change _ ≤ (clock.reach arrival.arrivalMs : ℚ)
      linarith
    · rw [estimate, Clocked.step_cfg, ceil_three_lt_iff]
      exact fun adaptive =>
        ⟨Int.ceil_nonneg (by positivity), sound.weighted_fits allows adaptive⟩
    · rw [target, Clocked.step_cfg]
      exact (JitterConfig.follow_within sound.within (sound.depth_within _)).mpr
        fun adaptive => JitterConfig.not_dips (allows.level adaptive) _
    · rw [target]
      exact JitterConfig.follow_falls _ _ _
  · rw [estimate]
    positivity

/-- A clock that strays breaks the estimate or the conversion at once. -/
theorem Clocked.Sound.strays {clock : Clocked} {arrival : Arrival} (sound : clock.Sound)
    (strays : clock.Strays arrival) : ¬ (clock.step arrival).Sane := by
  intro sane
  obtain ⟨estimate, -, -, -⟩ := clock.step_timing arrival
  have nonneg := sound.nonneg
  obtain ⟨known, ⟨back, near, small⟩ | ⟨adaptive, forward, far⟩⟩ := strays
  · have below := sane.estimate
    rw [estimate, JitterBuffer.weighted_known known] at below
    have reach : (clock.step arrival).largest < 2 ^ 59 := by
      change clock.reach arrival.arrivalMs < 2 ^ 59
      unfold Clocked.reach JitterBuffer.deviation
      rw [if_pos known]
      have := BitVec.lt_def.mp back
      omega
    -- the difference is taken for almost 2 ^ 64
    have elapsed : 2 ^ 64 - 2 ^ 59 <
        (arrival.arrivalMs - clock.buffer.prevArrivalMs).toNat := by
      have := BitVec.lt_def.mp back
      rw [BitVec.toNat_sub]
      omega
    generalize (arrival.arrivalMs - clock.buffer.prevArrivalMs).toNat = taken at below elapsed
    generalize (clock.step arrival).largest = largest at below reach
    have far : ((17870283321406128128 : ℕ) : ℚ) < taken := Nat.cast_lt.mpr elapsed
    have bound : (largest : ℚ) < (576460752303423488 : ℕ) := Nat.cast_lt.mpr reach
    have deviation := le_abs_self ((taken : ℚ) - kFrameMillis)
    unfold kFrameMillis at deviation below
    push_cast at bound far deviation below
    linarith
  · have converts := sane.converts
    rw [estimate, Clocked.step_cfg, ceil_three_lt_iff,
      JitterBuffer.weighted_known known] at converts
    have fits := (converts adaptive).2
    have elapsed : (((arrival.arrivalMs - clock.buffer.prevArrivalMs).toNat : ℕ) : ℚ) =
        arrival.arrivalMs.toNat - clock.buffer.prevArrivalMs.toNat := by
      rw [BitVec.toNat_sub_of_le forward, Nat.cast_sub (BitVec.le_def.mp forward)]
    have deviation := le_abs_self
      (((arrival.arrivalMs - clock.buffer.prevArrivalMs).toNat : ℚ) - kFrameMillis)
    rw [elapsed] at deviation fits
    unfold JitterBuffer.longest at far
    linarith

theorem Clocked.initial_sound {config : JitterConfig}
    (ordered : config.minMs ≤ config.targetMs ∧ config.targetMs ≤ config.maxMs) :
    (Clocked.initial config).Sound := by
  constructor
  · constructor
    · exact le_refl _
    · intro _
      simp [Clocked.initial, JitterBuffer.new]
    · exact ordered
    · exact Nat.le_add_right _ _
  · exact le_refl _

theorem Clocked.sound_final (config : JitterConfig) (arrivals : List Arrival)
    (ordered : config.minMs ≤ config.targetMs ∧ config.targetMs ≤ config.maxMs)
    (allowed : Run.Meets Clocked.step Clocked.Allows (Clocked.initial config) arrivals) :
    (Run.final Clocked.step (Clocked.initial config) arrivals).Sound :=
  Run.invariant_final Clocked.Sound (fun _clock _arrival sound allows => sound.step allows)
    arrivals _ (Clocked.initial_sound ordered) allowed

/-- While the clock neither steps back nor jumps too far ahead, the estimate and the target
are what they should be, and the first arrival at which it strays breaks them. -/
theorem jitterEstimate_sane (config : JitterConfig) (arrivals : List Arrival)
    (ordered : config.minMs ≤ config.targetMs ∧ config.targetMs ≤ config.maxMs)
    (allowed : Run.Meets Clocked.step Clocked.Allows (Clocked.initial config) arrivals) :
    Run.Throughout Clocked.step Clocked.Sane (Clocked.initial config) arrivals ∧
      ∀ arrival, (Run.final Clocked.step (Clocked.initial config) arrivals).Strays arrival →
        ¬ ((Run.final Clocked.step (Clocked.initial config) arrivals).step arrival).Sane := by
  constructor
  · rw [Run.throughout_iff_prefix]
    intro first within
    obtain ⟨rest, rfl⟩ := within
    rw [Run.meets_append] at allowed
    exact (Clocked.sound_final config first ordered allowed.1).toSane
  · intro arrival
    exact (Clocked.sound_final config arrivals ordered allowed).strays

theorem Clocked.initial_weighted (config : JitterConfig) (arrivalMs : BitVec 64) :
    (Clocked.initial config).buffer.weighted arrivalMs = 0 :=
  mul_zero 16

def twoPackets : List Arrival :=
  [{ seq := 1#32, payload := [1], arrivalMs := 1000#64 },
    { seq := 2#32, payload := [2], arrivalMs := 1025#64 }]

theorem jitterEstimate_sane_two :
    Run.Throughout Clocked.step Clocked.Sane (Clocked.initial {}) twoPackets ∧
      ∀ arrival, (Run.final Clocked.step (Clocked.initial {}) twoPackets).Strays arrival →
        ¬ ((Run.final Clocked.step (Clocked.initial {}) twoPackets).step arrival).Sane := by
  have ordered : ({} : JitterConfig).minMs ≤ ({} : JitterConfig).targetMs ∧
      ({} : JitterConfig).targetMs ≤ ({} : JitterConfig).maxMs := ⟨by decide, by decide⟩
  have first : (Clocked.initial {}).Allows
      { seq := 1#32, payload := [1], arrivalMs := 1000#64 } :=
    { forward := fun known => by cases known
      soon := fun _ known => by cases known
      level := fun _ => Or.inl (by decide) }
  apply jitterEstimate_sane {} _ ordered
  refine ⟨first, ?_, trivial⟩
  have sound := (Clocked.initial_sound ordered).step first
  obtain ⟨estimate, previous, -, -⟩ := (Clocked.initial {}).step_timing
    { seq := 1#32, payload := [1], arrivalMs := 1000#64 }
  rw [Clocked.initial_weighted] at estimate
  refine ⟨fun _ => ?_, fun _ _ => ?_, fun _ => Or.inl ?_⟩
  · rw [previous]
    decide
  · unfold JitterBuffer.longest
    rw [estimate, previous]
    norm_num [kFrameMillis]
  · have most := BitVec.le_def.mp sound.within.2
    rw [Clocked.step_cfg] at most
    exact Nat.lt_of_le_of_lt (Nat.add_le_add_right most _) (by decide)

/-- The wall clock is set back by one millisecond between two packets. -/
theorem jitterEstimate_stepBack :
    ¬ ∀ (config : JitterConfig) (arrivals : List Arrival),
      config.minMs ≤ config.targetMs ∧ config.targetMs ≤ config.maxMs →
        Run.Throughout Clocked.step Clocked.Sane (Clocked.initial config) arrivals := by
  intro always
  have sane := always {}
    [{ seq := 1#32, payload := [1], arrivalMs := 1000#64 },
      { seq := 2#32, payload := [2], arrivalMs := 999#64 }] ⟨by decide, by decide⟩
  obtain ⟨estimate, previous, known, -⟩ := (Clocked.initial {}).step_timing
    { seq := 1#32, payload := [1], arrivalMs := 1000#64 }
  rw [Clocked.initial_weighted] at estimate
  have second := sane.2.2.estimate
  rw [(Clocked.step_timing _ _).1, JitterBuffer.weighted_known known, estimate, previous] at second
  have largest : (((Clocked.initial {}).step
      { seq := 1#32, payload := [1], arrivalMs := 1000#64 }).step
      { seq := 2#32, payload := [2], arrivalMs := 999#64 }).largest = 21 := by
    change Clocked.reach _ _ = 21
    unfold Clocked.reach JitterBuffer.deviation
    rw [if_pos known, previous]
    decide
  rw [largest] at second
  norm_num [kFrameMillis] at second

end SmartMic.Media
