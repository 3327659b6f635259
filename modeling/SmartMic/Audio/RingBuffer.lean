import Mathlib.Data.BitVec
import SmartMic.Audio.Router
import SmartMic.Support.Circular

set_option autoImplicit false

/-! The portable ring of the audio service. Its indices are 64-bit words that only
grow; a capacity that is a power of two divides their range, so that the slots stay in
step when an index wraps.

`RingBuffer.Holding` says which items are in the ring, oldest first. The producer and the
consumer are each taken as one call at a time. A capacity of `2^63` is the largest that
`roundUpPow2` reaches; with it a level and the length of an addition can add up to `2^64`,
which is the one case that a write gets wrong. -/

namespace SmartMic.Audio

structure RingBuffer (α : Type*) where
  capacity : Nat
  data : Nat → α
  write_ : BitVec 64
  read_ : BitVec 64
  overruns_ : BitVec 64
  underruns_ : BitVec 64

variable {α : Type*}

/-- The loop of `roundUpPow2`, for as many rounds as a `size_t` has bits. -/
def roundUpPow2Loop (v : Nat) : Nat → Nat → Nat
  | 0, p => p
  | rounds + 1, p => if p < v then roundUpPow2Loop v rounds (p <<< 1) else p

def roundUpPow2 (v : Nat) : Nat := roundUpPow2Loop v 64 1

namespace RingBuffer

/-- The constructor. The vector is value-initialised. -/
def new [Zero α] (capacity : Nat) : RingBuffer α :=
  { capacity := roundUpPow2 capacity
    data := fun _ => 0
    write_ := 0#64
    read_ := 0#64
    overruns_ := 0#64
    underruns_ := 0#64 }

def mask (buffer : RingBuffer α) : BitVec 64 := BitVec.ofNat 64 (buffer.capacity - 1)

def copyIn (buffer : RingBuffer α) (position : BitVec 64) (src : List α) : Nat → α :=
  let off := (position &&& buffer.mask).toNat
  let first := if src.length < buffer.capacity - off then src.length else buffer.capacity - off
  Circular.store (Circular.store buffer.data off (src.take first)) 0 (src.drop first)

def copyOut (buffer : RingBuffer α) (position : BitVec 64) (count : Nat) : List α :=
  let off := (position &&& buffer.mask).toNat
  let first := if count < buffer.capacity - off then count else buffer.capacity - off
  Circular.load buffer.data off first ++ Circular.load buffer.data 0 (count - first)

/-- `write`; the second component is the number of items dropped. -/
def write (buffer : RingBuffer α) (src : List α) : RingBuffer α × BitVec 64 :=
  if src.length = 0 then (buffer, 0#64)
  else
    -- pathological: keep only the tail
    let early := src.length - buffer.capacity
    let kept := src.drop early
    let count := BitVec.ofNat 64 kept.length
    let used := buffer.write_ - buffer.read_
    let overflow :=
      if BitVec.ofNat 64 buffer.capacity < used + count then
        used + count - BitVec.ofNat 64 buffer.capacity
      else 0#64
    let dropped := BitVec.ofNat 64 early + overflow
    ({ buffer with
        data := buffer.copyIn buffer.write_ kept
        read_ := buffer.read_ + overflow
        write_ := buffer.write_ + count
        overruns_ := buffer.overruns_ + dropped },
      dropped)

/-- What `read` and `readOrSilence` leave behind: the ring, what was written from the
start of the destination, and how many items of it are real. -/
structure Taken (α : Type*) where
  buffer : RingBuffer α
  destination : List α
  real : BitVec 64

def read (buffer : RingBuffer α) (count : BitVec 64) : Taken α :=
  let avail := buffer.write_ - buffer.read_
  let n := if avail < count then avail else count
  { buffer :=
      { buffer with
        read_ := buffer.read_ + n
        underruns_ := if n < count then buffer.underruns_ + (count - n) else buffer.underruns_ }
    destination := buffer.copyOut buffer.read_ n.toNat
    real := n }

def clear (buffer : RingBuffer α) : RingBuffer α := { buffer with read_ := buffer.write_ }

def available (buffer : RingBuffer α) : BitVec 64 := buffer.write_ - buffer.read_

def freeSpace (buffer : RingBuffer α) : BitVec 64 :=
  BitVec.ofNat 64 buffer.capacity - buffer.available

def readOrSilence [Zero α] (buffer : RingBuffer α) (count : BitVec 64) : Taken α :=
  let taken := buffer.read count
  if taken.real < count then
    { taken with
      destination := taken.destination ++ List.replicate (count - taken.real).toNat 0 }
  else taken

end RingBuffer

/-! ### What the ring is for -/

/-- The items of a bounded queue after an addition: the oldest make room. -/
def pushDropping (capacity : Nat) (contents addition : List α) : List α :=
  (contents ++ addition).drop (contents.length + addition.length - capacity)

/-- `contents` are in the ring, oldest first. -/
structure RingBuffer.Holding (buffer : RingBuffer α) (contents : List α) : Prop where
  power : ∃ bits ≤ 63, buffer.capacity = 2 ^ bits
  level : buffer.write_ = buffer.read_ + BitVec.ofNat 64 contents.length
  fits : contents.length ≤ buffer.capacity
  holds : Circular.Holds buffer.capacity buffer.data buffer.read_.toNat contents

theorem pushDropping_of_room {capacity : Nat} {contents addition : List α}
    (room : contents.length + addition.length ≤ capacity) :
    pushDropping capacity contents addition = contents ++ addition := by
  unfold pushDropping
  rw [Nat.sub_eq_zero_of_le room, List.drop_zero]

/-! ### The capacity -/

theorem roundUpPow2Loop_eq (v : Nat) {bits : Nat} (reached : v ≤ 2 ^ bits) :
    ∀ rounds power, power ≤ bits → bits - power < rounds →
      ∃ result, power ≤ result ∧ result ≤ bits ∧ v ≤ 2 ^ result ∧
        roundUpPow2Loop v rounds (2 ^ power) = 2 ^ result := by
  intro rounds
  induction rounds with
  | zero =>
      intro power _below none
      exact absurd none (Nat.not_lt_zero _)
  | succ rounds ih =>
      intro power below enough
      unfold roundUpPow2Loop
      by_cases short : 2 ^ power < v
      · have smaller : power < bits := by
          by_contra level
          rw [Nat.le_antisymm below (not_lt.mp level)] at short
          omega
        have doubled : 2 ^ power <<< 1 = 2 ^ (power + 1) := by
          rw [Nat.shiftLeft_eq, pow_one, pow_succ]
        obtain ⟨result, above, least, covers, same⟩ := ih (power + 1) smaller (by omega)
        rw [if_pos short, doubled]
        exact ⟨result, by omega, least, covers, same⟩
      · rw [if_neg short]
        exact ⟨power, Nat.le_refl _, below, not_lt.mp short, rfl⟩

theorem roundUpPow2_eq {v bits : Nat} (reached : v ≤ 2 ^ bits) (word : bits ≤ 63) :
    ∃ result ≤ bits, v ≤ 2 ^ result ∧ roundUpPow2 v = 2 ^ result := by
  obtain ⟨result, -, least, covers, same⟩ :=
    roundUpPow2Loop_eq v reached 64 0 (Nat.zero_le _) (by omega)
  exact ⟨result, least, covers, same⟩

namespace RingBuffer

variable {buffer : RingBuffer α} {contents : List α}

theorem Holding.positive (holding : buffer.Holding contents) : 0 < buffer.capacity := by
  obtain ⟨bits, -, power⟩ := holding.power
  rw [power]
  exact Nat.two_pow_pos bits

theorem Holding.small (holding : buffer.Holding contents) : buffer.capacity ≤ 2 ^ 63 := by
  obtain ⟨bits, word, power⟩ := holding.power
  rw [power]
  exact Nat.pow_le_pow_right (by decide) word

theorem Holding.masked (holding : buffer.Holding contents) (position : BitVec 64) :
    (position &&& buffer.mask).toNat = position.toNat % buffer.capacity := by
  obtain ⟨bits, word, power⟩ := holding.power
  have small := holding.small
  unfold mask
  rw [BitVec.toNat_and, BitVec.toNat_ofNat, Nat.mod_eq_of_lt (by omega), power]
  exact Nat.and_two_pow_sub_one_eq_mod position.toNat bits

theorem Holding.wraps (holding : buffer.Holding contents) (position : Nat) :
    position % 2 ^ 64 % buffer.capacity = position % buffer.capacity := by
  obtain ⟨bits, word, power⟩ := holding.power
  rw [power]
  exact Nat.mod_mod_of_dvd position (Nat.pow_dvd_pow 2 (by omega))

theorem Holding.copyIn_eq (holding : buffer.Holding contents) (position : BitVec 64)
    (src : List α) :
    buffer.copyIn position src =
      Circular.wrapStore buffer.capacity buffer.data position.toNat src := by
  unfold copyIn Circular.wrapStore Circular.firstPiece
  rw [holding.masked position]
  dsimp only
  rw [← min_def_lt]

theorem Holding.copyOut_eq (holding : buffer.Holding contents) (position : BitVec 64)
    (count : Nat) :
    buffer.copyOut position count =
      Circular.wrapLoad buffer.capacity buffer.data position.toNat count := by
  unfold copyOut Circular.wrapLoad Circular.firstPiece
  rw [holding.masked position]
  dsimp only
  rw [← min_def_lt]

/-! ### What the calls do to the contents -/

theorem new_holding [Zero α] {capacity bits : Nat} (reached : capacity ≤ 2 ^ bits)
    (word : bits ≤ 63) : (new capacity : RingBuffer α).Holding [] := by
  obtain ⟨result, least, -, same⟩ := roundUpPow2_eq reached word
  exact
    { power := ⟨result, Nat.le_trans least word, same⟩
      level := rfl
      fits := Nat.zero_le _
      holds := Circular.holds_nil _ _ _ }

theorem Holding.used (holding : buffer.Holding contents) :
    buffer.write_ - buffer.read_ = BitVec.ofNat 64 contents.length := by
  rw [holding.level, BitVec.add_comm, BitVec.add_sub_cancel]

theorem Holding.write_toNat (holding : buffer.Holding contents) :
    buffer.write_.toNat = (buffer.read_.toNat + contents.length) % 2 ^ 64 := by
  rw [holding.level, BitVec.toNat_add, BitVec.toNat_ofNat, Nat.add_mod_mod]

theorem Holding.skip (holding : buffer.Holding contents) (count : Nat) :
    Circular.Holds buffer.capacity buffer.data (buffer.read_ + BitVec.ofNat 64 count).toNat
      (contents.drop count) := by
  apply (holding.holds.drop count).congr
  rw [BitVec.toNat_add, BitVec.toNat_ofNat, Nat.add_mod_mod, holding.wraps]

theorem Holding.replace (holding : buffer.Holding contents) {gone : Nat} {kept : List α}
    (available : gone ≤ contents.length)
    (fits : contents.length - gone + kept.length ≤ buffer.capacity)
    (overruns underruns : BitVec 64) :
    RingBuffer.Holding
      { buffer with
        data := buffer.copyIn buffer.write_ kept
        read_ := buffer.read_ + BitVec.ofNat 64 gone
        write_ := buffer.write_ + BitVec.ofNat 64 kept.length
        overruns_ := overruns
        underruns_ := underruns }
      (contents.drop gone ++ kept) := by
  have rest : (contents.drop gone).length = contents.length - gone := List.length_drop
  constructor
  · exact holding.power
  · change buffer.write_ + BitVec.ofNat 64 kept.length =
      buffer.read_ + BitVec.ofNat 64 gone + BitVec.ofNat 64 (contents.drop gone ++ kept).length
    have split : contents.length = gone + (contents.length - gone) := by omega
    rw [List.length_append, rest, holding.level, BitVec.add_assoc, BitVec.add_assoc,
      ← BitVec.ofNat_add, ← BitVec.ofNat_add, ← Nat.add_assoc, ← split]
  · rw [List.length_append, rest]
    exact fits
  · have behind : ((buffer.read_ + BitVec.ofNat 64 gone).toNat + (contents.drop gone).length) %
        buffer.capacity = buffer.write_.toNat % buffer.capacity := by
      rw [rest, holding.write_toNat, holding.wraps, BitVec.toNat_add, BitVec.toNat_ofNat,
        Nat.add_mod_mod, Nat.add_mod, holding.wraps, ← Nat.add_mod]
      congr 1
      omega
    have short : (contents.drop gone).length + kept.length ≤ buffer.capacity := by
      rw [rest]
      exact fits
    have appended := (holding.skip gone).append holding.positive short
    rw [Circular.wrapStore_congr behind] at appended
    change Circular.Holds buffer.capacity (buffer.copyIn buffer.write_ kept) _ _
    rw [holding.copyIn_eq]
    exact appended

structure Writes (buffer : RingBuffer α) (contents src : List α)
    (result : RingBuffer α × BitVec 64) : Prop where
  holding : result.1.Holding (pushDropping buffer.capacity contents src)
  dropped : result.2 = BitVec.ofNat 64 (contents.length + src.length - buffer.capacity)
  reader : result.1.read_ = buffer.read_ +
    BitVec.ofNat 64 (contents.length + min src.length buffer.capacity - buffer.capacity)
  overruns : result.1.overruns_ = buffer.overruns_ + result.2
  underruns : result.1.underruns_ = buffer.underruns_
  capacity : result.1.capacity = buffer.capacity

theorem Holding.overflow (holding : buffer.Holding contents) {count : Nat}
    (room : contents.length + count < 2 ^ 64) :
    (if BitVec.ofNat 64 buffer.capacity < buffer.write_ - buffer.read_ + BitVec.ofNat 64 count
      then buffer.write_ - buffer.read_ + BitVec.ofNat 64 count -
        BitVec.ofNat 64 buffer.capacity
      else 0#64) = BitVec.ofNat 64 (contents.length + count - buffer.capacity) := by
  have small := holding.small
  rw [holding.used, ← BitVec.ofNat_add]
  apply BitVec.eq_of_toNat_eq
  split
  · rename_i above
    rw [BitVec.lt_def, BitVec.toNat_ofNat, BitVec.toNat_ofNat] at above
    rw [BitVec.toNat_sub, BitVec.toNat_ofNat, BitVec.toNat_ofNat, BitVec.toNat_ofNat]
    omega
  · rename_i below
    rw [BitVec.lt_def, BitVec.toNat_ofNat, BitVec.toNat_ofNat] at below
    rw [BitVec.toNat_ofNat, BitVec.toNat_ofNat]
    omega

theorem Holding.room_of_small (holding : buffer.Holding contents)
    (small : buffer.capacity < 2 ^ 63) (src : List α) :
    contents.length + min src.length buffer.capacity < 2 ^ 64 := by
  have fits := holding.fits
  omega

theorem pushDropping_split (capacity : Nat) (contents src : List α) :
    contents.drop (contents.length + min src.length capacity - capacity) ++
        src.drop (src.length - capacity) = pushDropping capacity contents src := by
  unfold pushDropping
  rw [List.drop_append]
  by_cases whole : src.length ≤ capacity
  · have early : src.length - capacity =
        contents.length + src.length - capacity - contents.length := by omega
    rw [Nat.min_eq_left whole, early]
  · have level : contents.length + src.length - capacity =
        contents.length + (src.length - capacity) := by omega
    rw [Nat.min_eq_right (by omega), Nat.add_sub_cancel, List.drop_length, level,
      Nat.add_sub_cancel_left, List.drop_eq_nil_of_le (Nat.le_add_right contents.length _)]

theorem Holding.write (holding : buffer.Holding contents) (src : List α)
    (room : contents.length + min src.length buffer.capacity < 2 ^ 64) :
    buffer.Writes contents src (buffer.write src) := by
  have fits := holding.fits
  unfold RingBuffer.write
  by_cases none : src.length = 0
  · have empty : src = [] := List.length_eq_zero_iff.mp none
    rw [if_pos none, empty]
    exact
      { holding := by
          rw [pushDropping_of_room (by rw [List.length_nil]; omega), List.append_nil]
          exact holding
        dropped := by
          rw [List.length_nil, Nat.add_zero, Nat.sub_eq_zero_of_le fits]
        reader := by
          rw [List.length_nil, Nat.zero_min, Nat.add_zero, Nat.sub_eq_zero_of_le fits,
            BitVec.add_zero]
        overruns := (BitVec.add_zero _).symm
        underruns := rfl
        capacity := rfl }
  · rw [if_neg none]
    have kept : (src.drop (src.length - buffer.capacity)).length =
        min src.length buffer.capacity := by
      rw [List.length_drop]
      omega
    have overflow := holding.overflow room
    rw [← kept] at overflow
    dsimp only
    rw [overflow, kept]
    exact
      { holding := by
          rw [← pushDropping_split, ← kept]
          exact holding.replace (by omega) (by omega) _ _
        dropped := by
          have both : src.length - buffer.capacity +
              (contents.length + min src.length buffer.capacity - buffer.capacity) =
                contents.length + src.length - buffer.capacity := by omega
          rw [← BitVec.ofNat_add, both]
        reader := rfl
        overruns := rfl
        underruns := rfl
        capacity := rfl }

structure Takes (buffer : RingBuffer α) (contents : List α) (count : BitVec 64)
    (taken : Taken α) : Prop where
  holding : taken.buffer.Holding (contents.drop count.toNat)
  destination : taken.destination = contents.take count.toNat
  real : taken.real.toNat = min contents.length count.toNat
  overruns : taken.buffer.overruns_ = buffer.overruns_
  underruns : taken.buffer.underruns_ =
    buffer.underruns_ + BitVec.ofNat 64 (count.toNat - contents.length)
  capacity : taken.buffer.capacity = buffer.capacity

structure Reads [Zero α] (buffer : RingBuffer α) (contents : List α) (count : BitVec 64)
    (taken : Taken α) : Prop where
  holding : taken.buffer.Holding (contents.drop count.toNat)
  destination : taken.destination = contents.take count.toNat ++
    List.replicate (count.toNat - contents.length) 0
  real : taken.real.toNat = min contents.length count.toNat
  overruns : taken.buffer.overruns_ = buffer.overruns_
  underruns : taken.buffer.underruns_ =
    buffer.underruns_ + BitVec.ofNat 64 (count.toNat - contents.length)
  capacity : taken.buffer.capacity = buffer.capacity

theorem Holding.real_toNat (holding : buffer.Holding contents) (count : BitVec 64) :
    (if buffer.write_ - buffer.read_ < count then buffer.write_ - buffer.read_
      else count).toNat = min contents.length count.toNat := by
  have fits := holding.fits
  have small := holding.small
  have word : (BitVec.ofNat 64 contents.length).toNat = contents.length := by
    rw [BitVec.toNat_ofNat]
    exact Nat.mod_eq_of_lt (by omega)
  rw [holding.used]
  split
  · rename_i short
    rw [BitVec.lt_def, word] at short
    rw [word]
    omega
  · rename_i enough
    rw [BitVec.lt_def, word] at enough
    omega

theorem Holding.taken (holding : buffer.Holding contents) {count n : BitVec 64}
    (real : n.toNat = min contents.length count.toNat) (underruns : BitVec 64) :
    RingBuffer.Holding { buffer with read_ := buffer.read_ + n, underruns_ := underruns }
      (contents.drop count.toNat) := by
  have word : BitVec.ofNat 64 n.toNat = n := by rw [BitVec.ofNat_toNat, BitVec.setWidth_eq]
  have left : contents.drop n.toNat = contents.drop count.toNat := by
    by_cases whole : contents.length ≤ count.toNat
    · rw [List.drop_eq_nil_of_le whole, List.drop_eq_nil_of_le (by omega)]
    · congr 1
      omega
  have level : buffer.write_ =
      buffer.read_ + n + BitVec.ofNat 64 (contents.drop count.toNat).length := by
    have both : n.toNat + (contents.length - n.toNat) = contents.length := by omega
    calc buffer.write_ = buffer.read_ + BitVec.ofNat 64 contents.length := holding.level
      _ = buffer.read_ + (BitVec.ofNat 64 n.toNat +
            BitVec.ofNat 64 (contents.length - n.toNat)) := by rw [← BitVec.ofNat_add, both]
      _ = _ := by rw [word, ← BitVec.add_assoc, ← left, List.length_drop]
  have skipped := holding.skip n.toNat
  rw [word, left] at skipped
  exact
    { power := holding.power
      level := level
      fits := by
        rw [List.length_drop]
        exact Nat.le_trans (Nat.sub_le _ _) holding.fits
      holds := skipped }

theorem Holding.read (holding : buffer.Holding contents) (count : BitVec 64) :
    buffer.Takes contents count (buffer.read count) := by
  have fits := holding.fits
  have real := holding.real_toNat count
  unfold RingBuffer.read
  dsimp only
  generalize (if buffer.write_ - buffer.read_ < count then buffer.write_ - buffer.read_
    else count) = n at real
  have copied : buffer.copyOut buffer.read_ n.toNat = contents.take count.toNat := by
    rw [holding.copyOut_eq, holding.holds.load holding.positive (by omega) (by omega), real,
      ← List.take_take, List.take_of_length_le (by rw [List.length_take]; omega)]
  have missing : (if n < count then buffer.underruns_ + (count - n) else buffer.underruns_) =
      buffer.underruns_ + BitVec.ofNat 64 (count.toNat - contents.length) := by
    by_cases short : n < count
    · have order := BitVec.lt_def.mp short
      have shortfall : (count - n).toNat = count.toNat - contents.length := by
        rw [BitVec.toNat_sub_of_le (BitVec.le_of_lt short)]
        omega
      rw [if_pos short, ← shortfall, BitVec.ofNat_toNat, BitVec.setWidth_eq]
    · have order := BitVec.lt_def.not.mp short
      have none : count.toNat - contents.length = 0 := by omega
      rw [if_neg short, none, BitVec.add_zero]
  exact
    { holding := holding.taken real _
      destination := copied
      real := real
      overruns := rfl
      underruns := missing
      capacity := rfl }

theorem Holding.readOrSilence [Zero α] (holding : buffer.Holding contents)
    (count : BitVec 64) : buffer.Reads contents count (buffer.readOrSilence count) := by
  have taken := holding.read count
  have real := taken.real
  have same : (buffer.readOrSilence count).buffer = (buffer.read count).buffer ∧
      (buffer.readOrSilence count).real = (buffer.read count).real ∧
      (buffer.readOrSilence count).destination = (buffer.read count).destination ++
        List.replicate (count.toNat - contents.length) 0 := by
    unfold RingBuffer.readOrSilence
    by_cases short : (buffer.read count).real < count
    · have order := BitVec.lt_def.mp short
      have shortfall : (count - (buffer.read count).real).toNat =
          count.toNat - contents.length := by
        rw [BitVec.toNat_sub_of_le (BitVec.le_of_lt short)]
        omega
      rw [if_pos short, shortfall]
      exact ⟨rfl, rfl, rfl⟩
    · have order := BitVec.lt_def.not.mp short
      have none : count.toNat - contents.length = 0 := by omega
      rw [if_neg short, none, List.replicate_zero, List.append_nil]
      exact ⟨rfl, rfl, rfl⟩
  obtain ⟨sameBuffer, sameReal, destination⟩ := same
  exact
    { holding := by rw [sameBuffer]; exact taken.holding
      destination := by rw [destination, taken.destination]
      real := by rw [sameReal]; exact real
      overruns := by rw [sameBuffer]; exact taken.overruns
      underruns := by rw [sameBuffer]; exact taken.underruns
      capacity := by rw [sameBuffer]; exact taken.capacity }

theorem Holding.clear (holding : buffer.Holding contents) : buffer.clear.Holding [] :=
  { power := holding.power
    level := (BitVec.add_zero _).symm
    fits := Nat.zero_le _
    holds := Circular.holds_nil _ _ _ }

theorem Holding.available (holding : buffer.Holding contents) :
    buffer.available.toNat = contents.length := by
  have fits := holding.fits
  have small := holding.small
  unfold RingBuffer.available
  rw [holding.used, BitVec.toNat_ofNat]
  exact Nat.mod_eq_of_lt (by omega)

theorem Holding.freeSpace (holding : buffer.Holding contents) :
    buffer.available.toNat + buffer.freeSpace.toNat = buffer.capacity := by
  have fits := holding.fits
  have small := holding.small
  have level := holding.available
  have word : (BitVec.ofNat 64 buffer.capacity).toNat = buffer.capacity := by
    rw [BitVec.toNat_ofNat]
    exact Nat.mod_eq_of_lt (by omega)
  unfold RingBuffer.freeSpace
  rw [BitVec.toNat_sub_of_le (by rw [BitVec.le_def, word, level]; exact fits), word, level]
  omega

end RingBuffer

end SmartMic.Audio
