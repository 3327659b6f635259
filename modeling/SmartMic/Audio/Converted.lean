import SmartMic.Audio.Resampler

set_option autoImplicit false

/-! What a resampler makes of blocks that are fed to it one after the other, at every rate and
in every arithmetic. It answers each block, and with more and more input makes more and more
output. With rounded positions the output depends on the cut into blocks; with exact ones it
does not. -/

namespace SmartMic.Audio

section

variable {α : Type} [SampleArithmetic α] {inputRate : BitVec 32}

/-- What is made of the blocks since the reset to that rate. -/
def converted (inputRate : BitVec 32) (blocks : List (List α)) : List α :=
  (((LinearResampler.new inputRate).processBlocks blocks).map Prod.fst).getD []

@[simp]
theorem converted_nil (inputRate : BitVec 32) :
    converted inputRate ([] : List (List α)) = [] := rfl

/-- A block of a device or of a file, whose length the source has in 32 bits. -/
def BlockSized (block : List α) : Prop := block.length < 2 ^ 32

/-! ### One step of the loop -/

/-- A ratio as the rates have it. -/
structure StepSized (α : Type) [SampleArithmetic α] (ratio : ℚ) : Prop where
  slow : 1 / 2 ^ 16 ≤ ratio
  fast : ratio ≤ 2 ^ 17

theorem widened_close {value : ℚ} (small : |value| ≤ 2 ^ 34) :
    |widened α value - value| ≤ 1 / 2 ^ 18 :=
  SampleArithmetic.wide_close value small

theorem widened_le_whole {value : ℚ} {whole : ℤ} (small : |whole| ≤ 2 ^ 34)
    (below : value ≤ whole) : widened α value ≤ whole :=
  Rounding.Holds.round_le (SampleArithmetic.wide_whole whole small) below

theorem whole_le_widened {value : ℚ} {whole : ℤ} (small : |whole| ≤ 2 ^ 34)
    (above : whole ≤ value) : whole ≤ widened α value :=
  Rounding.Holds.le_round (SampleArithmetic.wide_whole whole small) above

theorem paced_ratioOf (resamples : passesThrough inputRate = false) :
    StepSized α (ratioOf α inputRate) := by
  have some : (1 : ℚ) ≤ inputRate.toNat := by exact_mod_cast passesThrough_nonzero resamples
  have bound : (inputRate.toNat : ℚ) ≤ 2 ^ 32 := by exact_mod_cast inputRate.isLt.le
  have ratio : ratioOf α inputRate = widened α ((inputRate.toNat : ℚ) / 48000) := by
    unfold ratioOf
    rw [if_neg (by rw [resamples]; decide)]
    norm_num [kSampleRate]
  have small : |(inputRate.toNat : ℚ) / 48000| ≤ 2 ^ 34 := by
    rw [abs_of_nonneg (by positivity)]
    linarith
  have close := abs_le.mp (widened_close (α := α) small)
  rw [ratio]
  constructor
  · norm_num at close ⊢
    linarith
  · norm_num at close ⊢
    linarith

theorem StepSized.advance {ratio pos : ℚ} (paced : StepSized α ratio) (low : -1 ≤ pos)
    (high : pos ≤ 2 ^ 32) :
    pos + 1 / 2 ^ 17 ≤ widened α (pos + ratio) ∧ widened α (pos + ratio) ≤ pos + 2 ^ 18 := by
  have slow := paced.slow
  have fast := paced.fast
  have small : |pos + ratio| ≤ 2 ^ 34 := by
    norm_num at slow fast high
    rw [abs_le]
    constructor <;> norm_num <;> linarith
  have close := abs_le.mp (widened_close (α := α) small)
  norm_num at slow fast close ⊢
  constructor <;> linarith

omit [SampleArithmetic α] in
theorem leftSample_some {resampler : LinearResampler α} {input : List α} {i : Int}
    (inside : i + 1 < (input.length : Int)) (low : -1 ≤ i) :
    ∃ a, resampler.leftSample input i = some a := by
  unfold LinearResampler.leftSample
  split
  · split
    · exact ⟨_, rfl⟩
    · exact ⟨_, List.getElem?_eq_getElem (by omega)⟩
  · rename_i natural
    obtain ⟨index, rfl⟩ := Int.eq_ofNat_of_zero_le (not_lt.mp natural)
    exact ⟨_, List.getElem?_eq_getElem (by omega)⟩

omit [SampleArithmetic α] in
theorem sampleAt_some {input : List α} {i : Int} (inside : i < (input.length : Int))
    (low : 0 ≤ i) : ∃ b, sampleAt input i = some b := by
  obtain ⟨index, rfl⟩ := Int.eq_ofNat_of_zero_le low
  exact ⟨_, List.getElem?_eq_getElem (by omega)⟩

/-- What the loop leaves: it has passed the block, and every output has moved it on. -/
structure Emitted (length : Nat) (pos : ℚ) (out : List α) (stop : ℚ) : Prop where
  passed : (length : ℚ) - 1 ≤ stop
  near : stop ≤ max pos (length + 2 ^ 18)
  spent : stop ≤ pos + out.length * 2 ^ 18

theorem LinearResampler.emits (resampler : LinearResampler α) {input : List α}
    (short : BlockSized input) (paced : StepSized α resampler.ratio) :
    ∀ (rounds : Nat) (pos : ℚ), -1 ≤ pos → ((input.length : ℚ) - pos) * 2 ^ 17 + 1 ≤ rounds →
      0 < rounds →
      ∃ out stop, resampler.emit input rounds pos = some (out, stop) ∧
        Emitted input.length pos out stop := by
  have length : input.length < 2 ^ 32 := short
  have block : (input.length : ℚ) ≤ 2 ^ 32 := by exact_mod_cast length.le
  intro rounds
  induction rounds with
  | zero => exact fun _pos _low _enough some => absurd some (Nat.lt_irrefl 0)
  | succ rounds ih =>
      intro pos low enough _some
      rw [LinearResampler.emit]
      by_cases over_ : (input.length : Int) ≤ ⌊pos⌋ + 1
      · refine ⟨[], pos, if_pos over_, ?_, le_max_left _ _, ?_⟩
        · have below := Int.floor_le pos
          have cast : ((input.length : Int) : ℚ) ≤ ((⌊pos⌋ + 1 : Int) : ℚ) := Int.cast_le.mpr over_
          push_cast at cast
          linarith
        · simp
      · have lowest : -1 ≤ ⌊pos⌋ := Int.le_floor.mpr (by push_cast; exact low)
        have inside : pos < input.length := by
          have floor : ⌊pos⌋ < (input.length : Int) := by omega
          exact_mod_cast Int.floor_lt.mp floor
        obtain ⟨a, first⟩ := @leftSample_some α resampler input ⌊pos⌋ (by omega) lowest
        obtain ⟨b, second⟩ := @sampleAt_some α input (⌊pos⌋ + 1) (by omega) (by omega)
        obtain ⟨further, most⟩ := paced.advance low (inside.le.trans block)
        push_cast at enough
        have left_ : (0 : ℚ) < rounds := by
          have positive : 0 < ((input.length : ℚ) - pos) * 2 ^ 17 :=
            mul_pos (by linarith) (by positivity)
          linarith
        obtain ⟨out, stop, rest, emitted⟩ := ih (widened α (pos + resampler.ratio))
          (by linarith) (by linarith) (by exact_mod_cast left_)
        refine ⟨(a + (b - a) * SampleArithmetic.nearest (widened α (pos - ⌊pos⌋))) :: out, stop, ?_,
          emitted.passed, ?_, ?_⟩
        · rw [if_neg over_]
          simp only [first, second, rest, Option.bind_eq_bind, Option.bind_some]
        · refine emitted.near.trans ((max_le ?_ (le_refl _)).trans (le_max_right _ _))
          linarith
        · have spent := emitted.spent
          rw [List.length_cons]
          push_cast
          linarith

/-! ### One block -/

structure LinearResampler.Steady (inputRate : BitVec 32) (resampler : LinearResampler α) :
    Prop where
  mode : resampler.passthrough = passesThrough inputRate
  ratio : resampler.ratio = ratioOf α inputRate
  low : -1 ≤ resampler.phase
  high : resampler.phase ≤ 2 ^ 18

theorem LinearResampler.steady_new (inputRate : BitVec 32) :
    (LinearResampler.new inputRate : LinearResampler α).Steady inputRate where
  mode := rfl
  ratio := rfl
  low := neg_one_lt_zero.le
  high := by
    change (0 : ℚ) ≤ 2 ^ 18
    positivity

/-- A block is answered, whatever was appended before it, and every two samples move the
position back by one that the outputs do not move on. -/
theorem LinearResampler.Steady.process {resampler : LinearResampler α}
    (steady : resampler.Steady inputRate) {input : List α} (short : BlockSized input) :
    ∃ next added, (∀ out, resampler.process input out = some (out ++ added, next)) ∧
      next.Steady inputRate ∧
      (passesThrough inputRate = true → added = input) ∧
      (passesThrough inputRate = false →
        (input.length : ℚ) / 2 + next.phase ≤ resampler.phase + added.length * 2 ^ 18) := by
  by_cases empty : input.length = 0
  · refine ⟨resampler, [], fun out => ?_, steady, fun _through => ?_, fun _resamples => ?_⟩
    · unfold LinearResampler.process
      rw [if_pos empty, List.append_nil]
    · exact (List.eq_nil_of_length_eq_zero empty).symm
    · rw [empty]
      simp
  cases through : passesThrough inputRate with
  | true =>
      refine ⟨resampler, input, fun out => ?_, steady, fun _through => rfl,
        fun resamples => Bool.noConfusion resamples⟩
      unfold LinearResampler.process
      rw [if_neg empty, if_pos (steady.mode.trans through)]
  | false =>
      have nonempty : input ≠ [] := fun none => empty (by rw [none]; rfl)
      have final := List.getLast?_eq_some_getLast nonempty
      have paced : StepSized α resampler.ratio := by
        rw [steady.ratio]
        exact paced_ratioOf through
      have low := steady.low
      have high := steady.high
      obtain ⟨added, stop, emitted, moved⟩ := resampler.emits short paced
        (roundsFor input.length) resampler.phase low
        (by
          unfold roundsFor
          push_cast
          linarith)
        (by
          unfold roundsFor
          positivity)
      have one : (1 : ℚ) ≤ input.length := by exact_mod_cast Nat.one_le_iff_ne_zero.mpr empty
      have passed := moved.passed
      have within : stop - input.length ≤ 2 ^ 18 := by
        have near := moved.near
        rcases le_max_iff.mp near with before | behind
        · linarith
        · linarith
      have close := abs_le.mp (widened_close (α := α) (show |stop - input.length| ≤ 2 ^ 34 by
        rw [abs_le]
        norm_num at within ⊢
        constructor <;> linarith))
      refine ⟨{ resampler with
          last := input.getLast nonempty
          primed := true
          phase := widened α (stop - input.length) },
        added, fun out => ?_, ⟨steady.mode, steady.ratio, ?_, ?_⟩,
        fun through => Bool.noConfusion through, fun _resamples => ?_⟩
      · unfold LinearResampler.process
        rw [if_neg empty, if_neg (by rw [steady.mode, through]; decide), emitted, final]
        rfl
      · have above : ((-1 : ℤ) : ℚ) ≤ stop - input.length := by
          push_cast
          linarith
        have kept := whole_le_widened (α := α) (by decide) above
        push_cast at kept
        exact kept
      · have below : stop - input.length ≤ ((2 ^ 18 : ℤ) : ℚ) := by
          push_cast
          exact within
        have kept := widened_le_whole (α := α) (by decide) below
        push_cast at kept
        exact kept
      · have spent := moved.spent
        norm_num at close spent ⊢
        linarith

/-! ### Any blocks -/

structure LinearResampler.Fed (inputRate : BitVec 32) (resampler : LinearResampler α)
    (blocks : List (List α)) : Prop where
  made : (LinearResampler.new inputRate).processBlocks blocks =
    some (converted inputRate blocks, resampler)
  steady : resampler.Steady inputRate
  through : passesThrough inputRate = true → converted inputRate blocks = blocks.flatten
  paid : passesThrough inputRate = false → (blocks.flatten.length : ℚ) / 2 + resampler.phase ≤
    (converted inputRate blocks).length * 2 ^ 18

theorem LinearResampler.fed_new (inputRate : BitVec 32) :
    (LinearResampler.new inputRate : LinearResampler α).Fed inputRate [] where
  made := rfl
  steady := LinearResampler.steady_new inputRate
  through _ := rfl
  paid _ := by
    change ((0 : Nat) : ℚ) / 2 + 0 ≤ ((0 : Nat) : ℚ) * 2 ^ 18
    norm_num

theorem LinearResampler.Fed.process {resampler : LinearResampler α} {blocks : List (List α)}
    (fed : resampler.Fed inputRate blocks) {input : List α} (short : BlockSized input) :
    ∃ next added, (∀ out, resampler.process input out = some (out ++ added, next)) ∧
      converted inputRate (blocks ++ [input]) = converted inputRate blocks ++ added ∧
      next.Fed inputRate (blocks ++ [input]) := by
  obtain ⟨next, added, processed, steady, through, paid⟩ := fed.steady.process short
  have made : (LinearResampler.new inputRate).processBlocks (blocks ++ [input]) =
      some (converted inputRate blocks ++ added, next) := by
    unfold LinearResampler.processBlocks
    rw [List.foldlM_append]
    change ((LinearResampler.new inputRate).processBlocks blocks).bind _ = _
    rw [fed.made]
    change (resampler.process input (converted inputRate blocks)).bind _ = _
    rw [processed]
    rfl
  have longer : converted inputRate (blocks ++ [input]) = converted inputRate blocks ++ added := by
    rw [converted, made]
    rfl
  refine ⟨next, added, processed, longer, longer ▸ made, steady, fun passes => ?_,
    fun resamples => ?_⟩
  · rw [longer, through passes, fed.through passes, List.flatten_append, List.flatten_singleton]
  · have before := fed.paid resamples
    have here := paid resamples
    rw [longer, List.flatten_append, List.flatten_singleton, List.length_append,
      List.length_append]
    push_cast
    linarith

theorem LinearResampler.Fed.process_nil {resampler : LinearResampler α} {blocks : List (List α)}
    (fed : resampler.Fed inputRate blocks) :
    resampler.Fed inputRate (blocks ++ [[]]) ∧
      converted inputRate (blocks ++ [[]]) = converted inputRate blocks := by
  obtain ⟨next, added, processed, longer, still⟩ := fed.process
    (show BlockSized [] from Nat.two_pow_pos 32)
  have same : resampler.process [] [] = some ([], resampler) := if_pos rfl
  have both := (processed []).symm.trans same
  rw [Option.some.injEq, Prod.mk.injEq, List.nil_append] at both
  obtain ⟨none, rfl⟩ := both
  rw [none, List.append_nil] at longer
  exact ⟨still, longer⟩

theorem LinearResampler.Fed.feed {resampler : LinearResampler α} {blocks : List (List α)}
    (fed : resampler.Fed inputRate blocks) (more : List (List α))
    (short : ∀ block ∈ more, BlockSized block) :
    ∃ next : LinearResampler α, next.Fed inputRate (blocks ++ more) ∧
      converted inputRate blocks <+: converted inputRate (blocks ++ more) := by
  induction more generalizing resampler blocks with
  | nil =>
      rw [List.append_nil]
      exact ⟨resampler, fed, List.prefix_rfl⟩
  | cons block rest ih =>
      obtain ⟨first, others⟩ := List.forall_mem_cons.mp short
      obtain ⟨middle, added, -, longer, fed⟩ := fed.process first
      obtain ⟨next, fed, further⟩ := ih fed others
      rw [List.append_assoc, List.singleton_append] at fed further
      exact ⟨next, fed, (longer ▸ List.prefix_append _ _).trans further⟩

theorem converted_prefix {blocks more : List (List α)}
    (short : ∀ block ∈ blocks ++ more, BlockSized block) :
    converted inputRate blocks <+: converted inputRate (blocks ++ more) := by
  obtain ⟨first, second⟩ := List.forall_mem_append.mp short
  obtain ⟨resampler, fed, -⟩ := (LinearResampler.fed_new inputRate).feed blocks first
  obtain ⟨-, -, longer⟩ := fed.feed more second
  exact longer

theorem converted_through {blocks : List (List α)} (through : passesThrough inputRate = true)
    (short : ∀ block ∈ blocks, BlockSized block) : converted inputRate blocks = blocks.flatten := by
  obtain ⟨resampler, fed, -⟩ := (LinearResampler.fed_new inputRate).feed blocks short
  exact fed.through through

theorem converted_reaches (inputRate : BitVec 32) (total : Nat) :
    ∃ goal, ∀ blocks : List (List α), (∀ block ∈ blocks, BlockSized block) →
      goal ≤ blocks.flatten.length → total ≤ (converted inputRate blocks).length := by
  refine ⟨2 * (total * 2 ^ 18 + 1), fun blocks short long => ?_⟩
  obtain ⟨resampler, fed, -⟩ := (LinearResampler.fed_new inputRate).feed blocks short
  rw [List.nil_append] at fed
  cases through : passesThrough inputRate with
  | true =>
      rw [fed.through through]
      omega
  | false =>
      have paid := fed.paid through
      have low := fed.steady.low
      have input : ((2 * (total * 2 ^ 18 + 1) : Nat) : ℚ) ≤ blocks.flatten.length := by
        exact_mod_cast long
      push_cast at input
      have outputs : (total : ℚ) ≤ (converted inputRate blocks).length := by linarith
      exact_mod_cast outputs

end

/-- In exact arithmetic the cut into blocks does not show. -/
theorem converted_exact (inputRate : BitVec 32) (blocks : List (List Sample))
    (resamples : passesThrough inputRate = false) :
    converted inputRate blocks = resampled (ratioOf Sample inputRate) blocks.flatten := by
  obtain ⟨out, resampler, processed, carried, ratio⟩ :=
    (LinearResampler.carried_new resamples).processBlocks blocks
  have made : (LinearResampler.new inputRate).processBlocks blocks = some (out, resampler) :=
    processed
  rw [converted, made]
  rw [List.nil_append] at carried
  change out = _
  rw [carried.emitted, ratio]
  rfl

end SmartMic.Audio
