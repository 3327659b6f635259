import SmartMic.Audio.RingBuffer
import SmartMic.Driver.RingSteps

set_option autoImplicit false

/-! The portable ring beside the ring of the driver, given the same calls. The two agree
as long as the service keeps the ring between empty and full: a full portable ring drops
the oldest samples where the link drops the new ones, and after a shortfall the reader of
the driver is ahead of the producer where the portable reader waits. -/

namespace SmartMic.Driver

open Audio (RingBuffer pushDropping_of_room)

structure RingTwins where
  buffer : RingBuffer PcmFrame
  ring : SharedRing

/-- Both empty. The service has attached at `now`, and a stream is open. -/
def RingTwins.opened (now : BitVec 64) : RingTwins :=
  { buffer := RingBuffer.new ringFrames
    ring := (SharedRing.beat SharedRing.initialize now).setStreamOpen true }

inductive TwinCall where
  | write (frames : List PcmFrame) (now : BitVec 64)
  | read (count : BitVec 32) (now : BitVec 64)
deriving DecidableEq

/-- What a caller can tell of one call: the samples that came out, how many of them are
real, the samples that were dropped, and the two totals. -/
structure RingOutcome where
  samples : List PcmFrame
  real : Nat
  dropped : List PcmFrame
  overruns : Nat
  underruns : Nat
deriving DecidableEq

/-- The samples that a write makes room with, and the head of a source that is too long. -/
def droppedFor (buffer : RingBuffer PcmFrame) (src : List PcmFrame) : List PcmFrame :=
  buffer.copyOut buffer.read_ ((buffer.write src).1.read_ - buffer.read_).toNat ++
    src.take (src.length - buffer.capacity)

def portableCall (buffer : RingBuffer PcmFrame) : TwinCall → RingBuffer PcmFrame × RingOutcome
  | .write frames _ =>
      let after := (buffer.write frames).1
      (after,
        { samples := []
          real := 0
          dropped := droppedFor buffer frames
          overruns := after.overruns_.toNat
          underruns := after.underruns_.toNat })
  | .read count _ =>
      let taken := buffer.readOrSilence (count.setWidth 64)
      (taken.buffer,
        { samples := taken.destination
          real := taken.real.toNat
          dropped := []
          overruns := taken.buffer.overruns_.toNat
          underruns := taken.buffer.underruns_.toNat })

def SharedRing.lapped (ring : SharedRing) (drain : Drain) : List PcmFrame :=
  (List.range (drain.ring.header.overrunCount - ring.header.overrunCount).toNat).map
    fun position => ring.payload (slot (ring.header.readIndex + BitVec.ofNat 64 position))

def driverCall (ring : SharedRing) : TwinCall → SharedRing × RingOutcome
  | .write frames now =>
      let after := ring.writeFrames frames now
      (after,
        { samples := []
          real := 0
          dropped := if ring.header.Fits frames.length then [] else frames
          overruns := after.header.overrunCount.toNat
          underruns := after.header.underrunCount.toNat })
  | .read count now =>
      let drain := ring.read count now
      (drain.ring,
        { samples := drain.destination
          real := drain.realFrames.toNat
          dropped := ring.lapped drain
          overruns := drain.ring.header.overrunCount.toNat
          underruns := drain.ring.header.underrunCount.toNat })

namespace RingTwins

def step (twins : RingTwins) (call : TwinCall) : RingTwins :=
  { buffer := (portableCall twins.buffer call).1
    ring := (driverCall twins.ring call).1 }

/-- At most a whole ring for each call, and a fresh heartbeat. -/
def Given (twins : RingTwins) : TwinCall → Prop
  | .write frames _ => frames.length ≤ ringFrames
  | .read count now =>
      count.toNat ≤ ringFrames ∧ twins.ring.header.producerAlive now = true

instance (twins : RingTwins) : ∀ call, Decidable (twins.Given call)
  | .write _ _ => inferInstanceAs (Decidable (_ ≤ _))
  | .read _ _ => inferInstanceAs (Decidable (_ ∧ _))

def Agree (twins : RingTwins) (call : TwinCall) : Prop :=
  (portableCall twins.buffer call).2 = (driverCall twins.ring call).2

instance (twins : RingTwins) (call : TwinCall) : Decidable (twins.Agree call) :=
  inferInstanceAs (Decidable (_ = _))

/-- A write finds the reader no further than the producer and room for all of it; the
index words and the 32-bit underrun total do not wrap. -/
def Level (twins : RingTwins) : TwinCall → Prop
  | .write frames _ =>
      frames = [] ∨
        (twins.ring.header.readIndex.toNat ≤ twins.ring.header.writeIndex.toNat ∧
          twins.ring.header.writeIndex.toNat + frames.length ≤
            twins.ring.header.readIndex.toNat + ringFrames ∧
          twins.ring.header.writeIndex.toNat + frames.length < 2 ^ 64)
  | .read count _ =>
      twins.ring.header.readIndex.toNat + count.toNat < 2 ^ 64 ∧
        twins.ring.header.underrunCount.toNat +
          (count.toNat - twins.ring.header.unread) < 2 ^ 32

instance (twins : RingTwins) : ∀ call, Decidable (twins.Level call)
  | .write _ _ => inferInstanceAs (Decidable (_ ∨ _))
  | .read _ _ => inferInstanceAs (Decidable (_ ∧ _))

/-- The two rings hold the same samples and the same totals. -/
structure InStep (twins : RingTwins) (contents : List PcmFrame) : Prop where
  holding : twins.buffer.Holding contents
  capacity : twins.buffer.capacity = ringFrames
  unread : twins.ring.header.unread = contents.length
  holds : Circular.Holds ringFrames twins.ring.payload twins.ring.header.readIndex.toNat contents
  portableOverruns : twins.buffer.overruns_ = 0#64
  driverOverruns : twins.ring.header.overrunCount = 0#32
  underruns : twins.buffer.underruns_.toNat = twins.ring.header.underrunCount.toNat

end RingTwins

theorem RingTwins.opened_inStep (now : BitVec 64) : (RingTwins.opened now).InStep [] :=
  { holding := RingBuffer.new_holding (show ringFrames ≤ 2 ^ 13 by decide) (by decide)
    capacity := show Audio.roundUpPow2 ringFrames = ringFrames by decide
    unread := rfl
    holds := Circular.holds_nil _ _ _
    portableOverruns := rfl
    driverOverruns := rfl
    underruns := rfl }

/-! ### Writes -/

/-- What a full portable ring drops are the oldest samples of all. -/
theorem droppedFor_eq {buffer : RingBuffer PcmFrame} {contents : List PcmFrame}
    (holding : buffer.Holding contents) (small : buffer.capacity < 2 ^ 63)
    (src : List PcmFrame) :
    droppedFor buffer src =
      (contents ++ src).take (contents.length + src.length - buffer.capacity) := by
  have fits := holding.fits
  have gone : ((buffer.write src).1.read_ - buffer.read_).toNat =
      contents.length + min src.length buffer.capacity - buffer.capacity := by
    rw [(holding.write src (holding.room_of_small small src)).reader, BitVec.add_comm,
      BitVec.add_sub_cancel, BitVec.toNat_ofNat]
    exact Nat.mod_eq_of_lt (by omega)
  unfold droppedFor
  rw [gone, holding.copyOut_eq, holding.holds.load holding.positive (by omega) (by omega),
    List.take_append]
  by_cases whole : src.length ≤ buffer.capacity
  · have early : src.length - buffer.capacity =
        contents.length + src.length - buffer.capacity - contents.length := by omega
    rw [Nat.min_eq_left whole, early]
  · have level : contents.length + src.length - buffer.capacity =
        contents.length + (src.length - buffer.capacity) := by omega
    rw [Nat.min_eq_right (by omega), Nat.add_sub_cancel, level, Nat.add_sub_cancel_left,
      List.take_length, List.take_of_length_le (Nat.le_add_right _ _)]

theorem RingHeader.fits_of_room {header : RingHeader} {count : Nat}
    (ordered : header.readIndex.toNat ≤ header.writeIndex.toNat)
    (room : header.writeIndex.toNat + count ≤ header.readIndex.toNat + ringFrames) :
    header.Fits count := by
  have writer := header.writeIndex.isLt
  unfold RingHeader.Fits
  rw [BitVec.le_def]
  simp only [BitVec.toNat_add, BitVec.toNat_sub, BitVec.toNat_ofNat, ringFrames] at *
  omega

theorem SharedRing.writeFrames_nil (ring : SharedRing) (now : BitVec 64) :
    ring.SameBut (ring.writeFrames [] now) := by
  by_cases fits : ring.header.Fits ([] : List PcmFrame).length
  · obtain ⟨header, payload⟩ := ring.writeFrames_accepted [] now fits
    constructor
    · rw [header]
      exact BitVec.add_zero _
    · rw [header]
    · rw [header]
    · rw [header]
    · rw [payload, Circular.wrapStore_nil]
  · obtain ⟨header, payload⟩ := ring.writeFrames_refused [] now fits
    constructor
    · rw [header]
    · rw [header]
    · rw [header]
    · rw [header]
      exact BitVec.add_zero _
    · exact payload

namespace RingTwins

variable {twins : RingTwins} {contents : List PcmFrame}

theorem InStep.write_of_ring (inStep : twins.InStep contents) {frames : List PcmFrame}
    {now : BitVec 64} (room : contents.length + frames.length ≤ ringFrames)
    (kept : (if twins.ring.header.Fits frames.length then [] else frames) = [])
    (unread : (twins.ring.writeFrames frames now).header.unread =
      contents.length + frames.length)
    (holds : Circular.Holds ringFrames (twins.ring.writeFrames frames now).payload
      (twins.ring.writeFrames frames now).header.readIndex.toNat (contents ++ frames))
    (overruns : (twins.ring.writeFrames frames now).header.overrunCount =
      twins.ring.header.overrunCount)
    (underruns : (twins.ring.writeFrames frames now).header.underrunCount =
      twins.ring.header.underrunCount) :
    (twins.step (.write frames now)).InStep (contents ++ frames) ∧
      twins.Agree (.write frames now) := by
  have small : twins.buffer.capacity < 2 ^ 63 := by
    rw [inStep.capacity]
    decide
  have wrote := inStep.holding.write frames (inStep.holding.room_of_small small frames)
  have none : contents.length + frames.length - twins.buffer.capacity = 0 := by
    rw [inStep.capacity]
    exact Nat.sub_eq_zero_of_le room
  have portable : (twins.buffer.write frames).1.overruns_ = 0#64 := by
    rw [wrote.overruns, wrote.dropped, none, inStep.portableOverruns]
    rfl
  have driver := overruns.trans inStep.driverOverruns
  have totals : (twins.buffer.write frames).1.underruns_.toNat =
      (twins.ring.writeFrames frames now).header.underrunCount.toNat := by
    rw [wrote.underruns, underruns, inStep.underruns]
  constructor
  · exact
      { holding := by
          have fitted := pushDropping_of_room (show contents.length + frames.length ≤
            twins.buffer.capacity by rw [inStep.capacity]; exact room)
          rw [← fitted]
          exact wrote.holding
        capacity := wrote.capacity.trans inStep.capacity
        unread := by
          rw [List.length_append]
          exact unread
        holds := holds
        portableOverruns := portable
        driverOverruns := driver
        underruns := totals }
  · unfold Agree portableCall driverCall
    dsimp only
    rw [kept, droppedFor_eq inStep.holding small, none, List.take_zero, portable, driver, totals]
    rfl

theorem InStep.write (inStep : twins.InStep contents) {frames : List PcmFrame}
    {now : BitVec 64} (level : twins.Level (.write frames now)) :
    (twins.step (.write frames now)).InStep (contents ++ frames) ∧
      twins.Agree (.write frames now) := by
  have fits := inStep.holding.fits
  have unread := inStep.unread
  rw [inStep.capacity] at fits
  rcases level with empty | ⟨ordered, room, word⟩
  · have same := twins.ring.writeFrames_nil now
    rw [empty]
    apply inStep.write_of_ring
    · rw [List.length_nil]
      exact fits
    · split <;> rfl
    · unfold RingHeader.unread
      rw [same.writeIndex, same.readIndex]
      exact unread
    · rw [same.readIndex, same.payload, List.append_nil]
      exact inStep.holds
    · exact same.overrunCount
    · exact same.underrunCount
  · have accepted := RingHeader.fits_of_room ordered room
    obtain ⟨header, payload⟩ := twins.ring.writeFrames_accepted frames now accepted
    unfold RingHeader.unread at unread
    have behind : twins.ring.header.writeIndex.toNat =
        twins.ring.header.readIndex.toNat + contents.length := by omega
    have short : contents.length + frames.length ≤ ringFrames := by omega
    apply inStep.write_of_ring short
    · exact if_pos accepted
    · unfold RingHeader.unread
      rw [header]
      dsimp only
      rw [BitVec.toNat_add, BitVec.toNat_ofNat, Nat.add_mod_mod, Nat.mod_eq_of_lt word]
      omega
    · rw [header, payload, behind]
      exact inStep.holds.append (by decide) short
    · rw [header]
    · rw [header]

/-! ### Reads -/

theorem InStep.read (inStep : twins.InStep contents) {count : BitVec 32} {now : BitVec 64}
    (given : twins.Given (.read count now)) (level : twins.Level (.read count now)) :
    (twins.step (.read count now)).InStep (contents.drop count.toNat) ∧
      twins.Agree (.read count now) := by
  obtain ⟨-, alive⟩ := given
  obtain ⟨word, total⟩ := level
  have fits := inStep.holding.fits
  have unread := inStep.unread
  rw [inStep.capacity] at fits
  rw [unread] at total
  have near : twins.ring.header.writeIndex.toNat ≤
      twins.ring.header.readIndex.toNat + ringFrames := by
    unfold RingHeader.unread at unread
    omega
  have widened : (count.setWidth 64).toNat = count.toNat := by
    simp only [BitVec.toNat_setWidth]
    exact Nat.mod_eq_of_lt (Nat.lt_trans count.isLt (by decide))
  have portable := inStep.holding.readOrSilence (count.setWidth 64)
  have driver := SharedRing.reads_fresh near count alive
  have reader : (twins.ring.read count now).ring.header.readIndex.toNat =
      twins.ring.header.readIndex.toNat + count.toNat := by
    rw [driver.readIndex, BitVec.toNat_add, widened]
    exact Nat.mod_eq_of_lt word
  have overruns : (twins.ring.read count now).ring.header.overrunCount = 0#32 :=
    driver.overrunCount.trans inStep.driverOverruns
  have shortfall : count.toNat - min count.toNat contents.length =
      count.toNat - contents.length := by omega
  have underruns :
      (twins.buffer.readOrSilence (count.setWidth 64)).buffer.underruns_.toNat =
        (twins.ring.read count now).ring.header.underrunCount.toNat := by
    rw [portable.underruns, driver.underrunCount, widened, unread, shortfall,
      BitVec.toNat_add, BitVec.toNat_add, BitVec.toNat_ofNat, BitVec.toNat_ofNat,
      inStep.underruns]
    omega
  have samples : (twins.buffer.readOrSilence (count.setWidth 64)).destination =
      (twins.ring.read count now).destination := by
    rw [portable.destination, driver.destination, widened, unread, shortfall,
      inStep.holds.load (by decide) (Nat.min_le_right _ _) (by omega), ← List.take_take,
      List.take_length]
    rfl
  constructor
  · have moved := portable.holding
    rw [widened] at moved
    exact
      { holding := moved
        capacity := portable.capacity.trans inStep.capacity
        unread := by
          have left := unread
          unfold RingHeader.unread at left ⊢
          change (twins.ring.read count now).ring.header.writeIndex.toNat -
            (twins.ring.read count now).ring.header.readIndex.toNat = _
          rw [reader, driver.writeIndex, List.length_drop]
          omega
        holds := by
          change Circular.Holds ringFrames (twins.ring.read count now).ring.payload
            (twins.ring.read count now).ring.header.readIndex.toNat _
          rw [reader, driver.payload]
          exact inStep.holds.drop count.toNat
        portableOverruns := portable.overruns.trans inStep.portableOverruns
        driverOverruns := overruns
        underruns := underruns }
  · have lapped : twins.ring.lapped (twins.ring.read count now) = [] := by
      unfold SharedRing.lapped
      rw [overruns, inStep.driverOverruns]
      rfl
    have real : (twins.buffer.readOrSilence (count.setWidth 64)).real.toNat =
        (twins.ring.read count now).realFrames.toNat := by
      rw [portable.real, driver.realFrames, widened, unread, Nat.min_comm]
    unfold Agree portableCall driverCall
    dsimp only
    rw [samples, real, lapped, underruns, overruns, portable.overruns,
      inStep.portableOverruns]
    rfl

/-! ### Runs -/

theorem InStep.step (inStep : twins.InStep contents) {call : TwinCall}
    (given : twins.Given call) (level : twins.Level call) :
    (∃ after, (twins.step call).InStep after) ∧ twins.Agree call := by
  cases call with
  | write frames now =>
      obtain ⟨after, agree⟩ := inStep.write level
      exact ⟨⟨_, after⟩, agree⟩
  | read count now =>
      obtain ⟨after, agree⟩ := inStep.read given level
      exact ⟨⟨_, after⟩, agree⟩

end RingTwins

/-- From empty rings on, the two agree on every call of a run that keeps the ring of the
driver between empty and full. -/
theorem twins_agree_while_level (now : BitVec 64) (calls : List TwinCall)
    (given : Run.Meets RingTwins.step RingTwins.Given (RingTwins.opened now) calls)
    (level : Run.Meets RingTwins.step RingTwins.Level (RingTwins.opened now) calls) :
    Run.Meets RingTwins.step RingTwins.Agree (RingTwins.opened now) calls := by
  have both : Run.Meets RingTwins.step (fun twins call => twins.Given call ∧ twins.Level call)
      (RingTwins.opened now) calls := Run.meets_and.mpr ⟨given, level⟩
  refine Run.meets_of_invariant (fun twins => ∃ contents, twins.InStep contents) ?_ ?_ calls
    _ ⟨[], RingTwins.opened_inStep now⟩ both
  · intro twins call ⟨contents, inStep⟩ ⟨permitted, keeps⟩
    exact (inStep.step permitted keeps).2
  · intro twins call ⟨contents, inStep⟩ ⟨permitted, keeps⟩
    exact (inStep.step permitted keeps).1

/-- Two frames go in and come out, and one read of the empty ring counts its shortfall. -/
theorem twins_agree_while_level_drained :
    Run.Meets RingTwins.step RingTwins.Agree (RingTwins.opened 1#64)
      [.write [5#16, 6#16] 2#64, .read 2#32 3#64, .read 1#32 4#64] :=
  twins_agree_while_level 1#64 _ (by decide +kernel) (by decide +kernel)

/-- A read of one frame from the empty ring, then a frame, then a read of one frame: the
portable ring returns the frame and the driver silence. -/
theorem twins_part_after_shortfall :
    ¬ ∀ (now : BitVec 64) (calls : List TwinCall),
      Run.Meets RingTwins.step RingTwins.Given (RingTwins.opened now) calls →
        Run.Meets RingTwins.step RingTwins.Agree (RingTwins.opened now) calls := by
  intro always
  have agree := always 1#64 [.read 1#32 1#64, .write [7#16] 2#64, .read 1#32 2#64]
    (by decide +kernel)
  have last : RingTwins.Agree _ (TwinCall.read 1#32 2#64) := agree.2.2.1
  revert last
  decide +kernel

end SmartMic.Driver
