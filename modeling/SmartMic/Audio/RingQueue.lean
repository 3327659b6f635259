import SmartMic.Audio.RingBuffer

set_option autoImplicit false

/-! The ring over whole runs, against a queue that drops its oldest items. The queue
counts what it dropped and what was missing without bound; the ring does so in 64 bits. -/

namespace SmartMic.Audio

variable {α : Type*}

/-- One call on the ring, with what it hands over. -/
inductive RingCall (α : Type*) where
  | write (src : List α)
  | read (count : BitVec 64)
  | readOrSilence (count : BitVec 64)
  | clear
  deriving DecidableEq

structure RingAnswer (α : Type*) where
  destination : List α
  returned : Nat
  deriving DecidableEq

def RingBuffer.step [Zero α] (buffer : RingBuffer α) : RingCall α → RingBuffer α
  | .write src => (buffer.write src).1
  | .read count => (buffer.read count).buffer
  | .readOrSilence count => (buffer.readOrSilence count).buffer
  | .clear => buffer.clear

def RingBuffer.answer [Zero α] (buffer : RingBuffer α) : RingCall α → RingAnswer α
  | .write src => { destination := [], returned := (buffer.write src).2.toNat }
  | .read count =>
      { destination := (buffer.read count).destination
        returned := (buffer.read count).real.toNat }
  | .readOrSilence count =>
      { destination := (buffer.readOrSilence count).destination
        returned := (buffer.readOrSilence count).real.toNat }
  | .clear => { destination := [], returned := 0 }

/-! ### The queue -/

structure DropQueue (α : Type*) where
  contents : List α
  discarded : Nat
  missing : Nat

namespace DropQueue

def empty : DropQueue α := { contents := [], discarded := 0, missing := 0 }

def step (capacity : Nat) (queue : DropQueue α) : RingCall α → DropQueue α
  | .write src =>
      { queue with
        contents := pushDropping capacity queue.contents src
        discarded := queue.discarded + (queue.contents.length + src.length - capacity) }
  | .read count | .readOrSilence count =>
      { queue with
        contents := queue.contents.drop count.toNat
        missing := queue.missing + (count.toNat - queue.contents.length) }
  | .clear => { queue with contents := [] }

def answer [Zero α] (capacity : Nat) (queue : DropQueue α) : RingCall α → RingAnswer α
  | .write src =>
      { destination := [], returned := queue.contents.length + src.length - capacity }
  | .read count =>
      { destination := queue.contents.take count.toNat
        returned := min queue.contents.length count.toNat }
  | .readOrSilence count =>
      { destination := queue.contents.take count.toNat ++
          List.replicate (count.toNat - queue.contents.length) 0
        returned := min queue.contents.length count.toNat }
  | .clear => { destination := [], returned := 0 }

/-- The sum of the level and of what a write copies does not wrap in a `size_t`. -/
def Roomy (capacity : Nat) (queue : DropQueue α) : RingCall α → Prop
  | .write src => queue.contents.length + min src.length capacity < 2 ^ 64
  | _ => True

instance (capacity : Nat) (queue : DropQueue α) (call : RingCall α) :
    Decidable (queue.Roomy capacity call) := by
  cases call <;> unfold Roomy <;> infer_instance

end DropQueue

/-- The length that a write is handed is a `size_t`. -/
def RingCall.Word : RingCall α → Prop
  | .write src => src.length < 2 ^ 64
  | _ => True

instance (call : RingCall α) : Decidable call.Word := by
  cases call <;> unfold RingCall.Word <;> infer_instance

/-! ### One call -/

/-- The ring holds what the queue holds, and its totals are those of the queue, as far as
64 bits hold them. -/
structure RingBuffer.Matches (buffer : RingBuffer α) (queue : DropQueue α) : Prop where
  holding : buffer.Holding queue.contents
  overruns : buffer.overruns_ = BitVec.ofNat 64 queue.discarded
  underruns : buffer.underruns_ = BitVec.ofNat 64 queue.missing

/-- Ring and queue after a call, where they answered the same. -/
structure RingBuffer.Follows [Zero α] (buffer : RingBuffer α) (queue : DropQueue α)
    (call : RingCall α) : Prop where
  matching : (buffer.step call).Matches (queue.step buffer.capacity call)
  answer : buffer.answer call = queue.answer buffer.capacity call
  capacity : (buffer.step call).capacity = buffer.capacity

section

variable [Zero α] {buffer : RingBuffer α} {queue : DropQueue α}

theorem RingBuffer.Matches.write (matching : buffer.Matches queue) {src : List α}
    (word : src.length < 2 ^ 64) (roomy : queue.Roomy buffer.capacity (.write src)) :
    buffer.Follows queue (.write src) := by
  have fits := matching.holding.fits
  have wrote := matching.holding.write src roomy
  exact
    { matching :=
        { holding := wrote.holding
          overruns := by
            change (buffer.write src).1.overruns_ = _
            rw [wrote.overruns, wrote.dropped, matching.overruns, ← BitVec.ofNat_add]
            rfl
          underruns := wrote.underruns.trans matching.underruns }
      answer := by
        simp only [RingBuffer.answer, DropQueue.answer, wrote.dropped, BitVec.toNat_ofNat]
        rw [Nat.mod_eq_of_lt (by omega)]
      capacity := wrote.capacity }

theorem RingBuffer.Matches.read (matching : buffer.Matches queue) (count : BitVec 64) :
    buffer.Follows queue (.read count) := by
  have took := matching.holding.read count
  exact
    { matching :=
        { holding := took.holding
          overruns := took.overruns.trans matching.overruns
          underruns := by
            change (buffer.read count).buffer.underruns_ = _
            rw [took.underruns, matching.underruns, ← BitVec.ofNat_add]
            rfl }
      answer := by
        simp only [RingBuffer.answer, DropQueue.answer, took.destination, took.real]
      capacity := took.capacity }

theorem RingBuffer.Matches.readOrSilence (matching : buffer.Matches queue) (count : BitVec 64) :
    buffer.Follows queue (.readOrSilence count) := by
  have took := matching.holding.readOrSilence count
  exact
    { matching :=
        { holding := took.holding
          overruns := took.overruns.trans matching.overruns
          underruns := by
            change (buffer.readOrSilence count).buffer.underruns_ = _
            rw [took.underruns, matching.underruns, ← BitVec.ofNat_add]
            rfl }
      answer := by
        simp only [RingBuffer.answer, DropQueue.answer, took.destination, took.real]
      capacity := took.capacity }

theorem RingBuffer.Matches.clear (matching : buffer.Matches queue) :
    buffer.Follows queue .clear :=
  { matching :=
      { holding := matching.holding.clear
        overruns := matching.overruns
        underruns := matching.underruns }
    answer := rfl
    capacity := rfl }

theorem RingBuffer.Matches.step (matching : buffer.Matches queue) {call : RingCall α}
    (word : call.Word) (roomy : queue.Roomy buffer.capacity call) :
    buffer.Follows queue call := by
  cases call with
  | write src => exact matching.write word roomy
  | read count => exact matching.read count
  | readOrSilence count => exact matching.readOrSilence count
  | clear => exact matching.clear

/-! ### Runs -/

/-- Over every run the ring holds what the queue holds, also when its indices wrap. -/
theorem RingBuffer.run_matches (calls : List (RingCall α)) :
    ∀ (buffer : RingBuffer α) (queue : DropQueue α), buffer.Matches queue →
      (∀ call ∈ calls, call.Word) →
      Run.Meets (DropQueue.step buffer.capacity) (DropQueue.Roomy buffer.capacity) queue calls →
      (Run.final RingBuffer.step buffer calls).Matches
          (Run.final (DropQueue.step buffer.capacity) queue calls) ∧
        (Run.final RingBuffer.step buffer calls).capacity = buffer.capacity := by
  induction calls with
  | nil => exact fun _buffer _queue matching _words _roomy => ⟨matching, rfl⟩
  | cons call rest ih =>
      intro buffer queue matching words roomy
      obtain ⟨word, laterWords⟩ := List.forall_mem_cons.mp words
      have follows := matching.step word roomy.1
      have next := ih (buffer.step call) _ follows.matching laterWords
        (by rw [follows.capacity]; exact roomy.2)
      rw [follows.capacity] at next
      exact next

end

def RingBuffer.reached [Zero α] (capacity : Nat) (calls : List (RingCall α)) : RingBuffer α :=
  Run.final RingBuffer.step (RingBuffer.new capacity) calls

def DropQueue.reached (capacity : Nat) (calls : List (RingCall α)) : DropQueue α :=
  Run.final (DropQueue.step (roundUpPow2 capacity)) DropQueue.empty calls

/-- The ring is the queue: the same answers, and the levels follow. -/
structure RefinesQueue [Zero α] (capacity : Nat) (calls : List (RingCall α)) : Prop where
  least : ∃ bits, roundUpPow2 capacity = 2 ^ bits ∧ capacity ≤ 2 ^ bits ∧
    ∀ fewer, capacity ≤ 2 ^ fewer → bits ≤ fewer
  answers : ∀ first call, first ++ [call] <+: calls →
    (RingBuffer.reached capacity first).answer call =
      (DropQueue.reached capacity first).answer (roundUpPow2 capacity) call
  levels : ∀ first, first <+: calls →
    let ring : RingBuffer α := RingBuffer.reached capacity first
    ring.available.toNat = (DropQueue.reached capacity first).contents.length ∧
      ring.available.toNat ≤ roundUpPow2 capacity ∧
      ring.available.toNat + ring.freeSpace.toNat = roundUpPow2 capacity
  totals : ∀ first, first <+: calls →
    let ring : RingBuffer α := RingBuffer.reached capacity first
    ring.overruns_.toNat = (DropQueue.reached capacity first).discarded % 2 ^ 64 ∧
      ring.underruns_.toNat = (DropQueue.reached capacity first).missing % 2 ^ 64

/-- The totals as they would be without a bound. -/
def ExactTotals [Zero α] (capacity : Nat) (calls : List (RingCall α)) : Prop :=
  ∀ first, first <+: calls →
    let ring : RingBuffer α := RingBuffer.reached capacity first
    ring.overruns_.toNat = (DropQueue.reached capacity first).discarded ∧
      ring.underruns_.toNat = (DropQueue.reached capacity first).missing

theorem pushDropping_length_le (limit : Nat) (contents addition : List α) :
    (pushDropping limit contents addition).length ≤ limit := by
  unfold pushDropping
  rw [List.length_drop, List.length_append]
  omega

theorem DropQueue.roomy_of_small {limit : Nat} (small : limit < 2 ^ 63)
    (calls : List (RingCall α)) :
    Run.Meets (DropQueue.step limit) (DropQueue.Roomy limit) (DropQueue.empty : DropQueue α)
      calls := by
  apply Run.meets_of_invariant (fun queue => queue.contents.length ≤ limit) _ _ calls
    DropQueue.empty (Nat.zero_le _)
    (Run.meets_of_forall (fun call _member => trivial) DropQueue.empty :
      Run.Meets (DropQueue.step limit) (fun _ _ => True) DropQueue.empty calls)
  · intro queue call level _any
    cases call with
    | write src =>
        change queue.contents.length + min src.length limit < 2 ^ 64
        omega
    | _ => trivial
  · intro queue call level _any
    cases call with
    | write src => exact pushDropping_length_le limit queue.contents src
    | read count =>
        simp only [DropQueue.step, List.length_drop]
        omega
    | readOrSilence count =>
        simp only [DropQueue.step, List.length_drop]
        omega
    | clear => exact Nat.zero_le _

theorem roundUpPow2_least {capacity : Nat} (most : capacity ≤ 2 ^ 63) :
    ∃ bits, bits ≤ 63 ∧ roundUpPow2 capacity = 2 ^ bits ∧ capacity ≤ 2 ^ bits ∧
      ∀ fewer, capacity ≤ 2 ^ fewer → bits ≤ fewer := by
  obtain ⟨bits, word, covers, same⟩ := roundUpPow2_eq most (Nat.le_refl 63)
  refine ⟨bits, word, same, covers, fun fewer reached => ?_⟩
  by_cases within : fewer ≤ 63
  · obtain ⟨other, below, -, equal⟩ := roundUpPow2_eq reached within
    have exponents := Nat.pow_right_injective (Nat.le_refl 2) (same.symm.trans equal)
    omega
  · omega

section

variable [Zero α] {capacity : Nat}

theorem RingBuffer.new_matches (most : capacity ≤ 2 ^ 63) :
    (RingBuffer.new capacity : RingBuffer α).Matches DropQueue.empty :=
  { holding := RingBuffer.new_holding most (Nat.le_refl 63)
    overruns := rfl
    underruns := rfl }

theorem RingBuffer.matches_reached (most : capacity ≤ 2 ^ 63) {calls first : List (RingCall α)}
    (words : ∀ call ∈ calls, call.Word)
    (roomy : Run.Meets (DropQueue.step (roundUpPow2 capacity))
      (DropQueue.Roomy (roundUpPow2 capacity)) DropQueue.empty calls)
    (within : first <+: calls) :
    (RingBuffer.reached capacity first).Matches (DropQueue.reached capacity first) ∧
      (RingBuffer.reached capacity first).capacity = roundUpPow2 capacity := by
  obtain ⟨rest, rfl⟩ := within
  rw [Run.meets_append] at roomy
  have part : ∀ call ∈ first, call.Word :=
    fun call member => words call (List.mem_append_left rest member)
  exact RingBuffer.run_matches first (RingBuffer.new capacity) DropQueue.empty
    (RingBuffer.new_matches most) part roomy.1

theorem refinesQueue_of_roomy (most : capacity ≤ 2 ^ 63) (calls : List (RingCall α))
    (words : ∀ call ∈ calls, call.Word)
    (roomy : Run.Meets (DropQueue.step (roundUpPow2 capacity))
      (DropQueue.Roomy (roundUpPow2 capacity)) DropQueue.empty calls) :
    RefinesQueue capacity calls where
  least := by
    obtain ⟨bits, -, least⟩ := roundUpPow2_least most
    exact ⟨bits, least⟩
  answers := fun first call within => by
    have before := (List.prefix_append first [call]).trans within
    obtain ⟨matching, same⟩ := RingBuffer.matches_reached most words roomy before
    obtain ⟨rest, whole⟩ := within
    rw [← whole] at words roomy
    rw [List.append_assoc, Run.meets_append] at roomy
    have word := words call (by simp)
    have step := matching.step word (by rw [same]; exact roomy.2.1)
    rw [step.answer, same]
  levels := fun first within => by
    obtain ⟨matching, same⟩ := RingBuffer.matches_reached most words roomy within
    have level := matching.holding.available
    have fits := matching.holding.fits
    have free := matching.holding.freeSpace
    rw [same] at fits free
    exact ⟨level, by omega, free⟩
  totals := fun first within => by
    obtain ⟨matching, -⟩ := RingBuffer.matches_reached most words roomy within
    exact ⟨by rw [matching.overruns, BitVec.toNat_ofNat],
      by rw [matching.underruns, BitVec.toNat_ofNat]⟩

/-- The ring is the queue in every run up to `2^62`, and in every run for a larger capacity
in which no write brings `2^63` items or more to a full ring. -/
theorem ring_refines_queue (most : capacity ≤ 2 ^ 63) (calls : List (RingCall α))
    (words : ∀ call ∈ calls, call.Word)
    (roomy : 2 ^ 62 < capacity → Run.Meets (DropQueue.step (roundUpPow2 capacity))
      (DropQueue.Roomy (roundUpPow2 capacity)) DropQueue.empty calls) :
    RefinesQueue capacity calls := by
  by_cases large : 2 ^ 62 < capacity
  · exact refinesQueue_of_roomy most calls words (roomy large)
  · obtain ⟨bits, -, same, -, least⟩ := roundUpPow2_least most
    have few := least 62 (not_lt.mp large)
    have small : roundUpPow2 capacity < 2 ^ 63 := by
      rw [same]
      exact Nat.pow_lt_pow_right (Nat.lt_succ_self 1) (Nat.lt_succ_of_le few)
    exact refinesQueue_of_roomy most calls words (DropQueue.roomy_of_small small calls)

end

/-- Six samples for a ring of four, a short read, a clear and a read of silence. -/
theorem ring_refines_queue_sample :
    RefinesQueue 3 ([.write [1#16, 2#16, 3#16, 4#16, 5#16, 6#16], .read 3#64, .write [7#16, 8#16],
      .clear, .readOrSilence 2#64] : List (RingCall (BitVec 16))) :=
  ring_refines_queue (by decide) _ (by decide) (fun large => absurd large (by decide))

/-! ### Where it is not the queue -/

/-- The sum of a full level and a whole ring is zero in a word: nothing makes room, and
the ring looks empty. -/
theorem RingBuffer.write_whole_to_full {buffer : RingBuffer α} {contents src : List α}
    (holding : buffer.Holding contents) (largest : buffer.capacity = 2 ^ 63)
    (full : contents.length = 2 ^ 63) (whole : src.length = 2 ^ 63) :
    (buffer.write src).1.available = 0#64 := by
  have level := holding.level
  rw [full] at level
  unfold RingBuffer.write RingBuffer.available
  rw [if_neg (by omega), largest]
  dsimp only
  rw [List.length_drop, whole, level, Nat.sub_self, Nat.sub_zero]
  have sum : buffer.read_ + BitVec.ofNat 64 (2 ^ 63) - buffer.read_ + BitVec.ofNat 64 (2 ^ 63) =
      0#64 := by bv_omega
  rw [sum, if_neg (by decide)]
  bv_omega

theorem pushDropping_length_of_whole {limit : Nat} (contents : List α) {src : List α}
    (whole : src.length = limit) : (pushDropping limit contents src).length = limit := by
  unfold pushDropping
  rw [List.length_drop, List.length_append]
  omega

theorem not_refinesQueue_of_whole [Zero α] {capacity : Nat} (largest : capacity = 2 ^ 63)
    {src : List α} (whole : src.length = capacity) :
    ¬ RefinesQueue capacity [.write src, .write src] := by
  intro refines
  have most : capacity ≤ 2 ^ 63 := Nat.le_of_eq largest
  obtain ⟨bits, word, same, covers, -⟩ := roundUpPow2_least most
  have rounded : roundUpPow2 capacity = capacity := by
    rw [same]
    exact Nat.le_antisymm (largest ▸ Nat.pow_le_pow_right (by decide) word) covers
  have once : (RingBuffer.new capacity : RingBuffer α).Follows DropQueue.empty (.write src) :=
    (RingBuffer.new_matches most).write (by omega)
      (show 0 + min src.length (roundUpPow2 capacity) < 2 ^ 64 by omega)
  have empty := RingBuffer.write_whole_to_full once.matching.holding
    (once.capacity.trans (rounded.trans largest))
    ((pushDropping_length_of_whole [] (whole.trans rounded.symm)).trans (rounded.trans largest))
    (whole.trans largest)
  have claimed := (refines.levels [.write src, .write src] List.prefix_rfl).1
  have shown : (DropQueue.reached capacity [.write src, .write src]).contents.length =
      capacity := by
    rw [← rounded] at whole
    exact (pushDropping_length_of_whole _ whole).trans rounded
  have seen : (0#64).toNat = capacity := by
    rw [← empty]
    exact claimed.trans shown
  rw [largest] at seen
  exact absurd seen (by decide)

theorem not_refinesQueue_of_replicate {count : Nat} (largest : count = 2 ^ 63) (item : BitVec 16) :
    ¬ RefinesQueue count [.write (List.replicate count item),
      .write (List.replicate count item)] :=
  not_refinesQueue_of_whole largest List.length_replicate

/-- Two reads of the largest size from an empty ring are more than the counter can
say; two writes of a whole ring of `2^63` items leave it empty. -/
theorem totals_and_largest_ring_fail :
    ¬ ExactTotals 1 ([.read (BitVec.allOnes 64), .read (BitVec.allOnes 64)] :
      List (RingCall (BitVec 16))) ∧
    ¬ RefinesQueue (2 ^ 63) [.write (List.replicate (2 ^ 63) (0#16)),
      .write (List.replicate (2 ^ 63) (0#16))] := by
  constructor
  · intro counted
    have totals := (counted _ List.prefix_rfl).2
    revert totals
    decide +kernel
  · exact not_refinesQueue_of_replicate rfl 0#16

end SmartMic.Audio
