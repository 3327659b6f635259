import SmartMic.Driver.RingRead
import SmartMic.Driver.RingStarvation

set_option autoImplicit false

/-! The two programs on a ring whose producer is at most a whole ring ahead. Below the
wrap the index words are naturals there: a write stores the new frames behind the old
ones, and a read takes the oldest. -/

namespace SmartMic.Driver

/-- At most a whole ring is unread, and a whole ring more fits below the wrap. -/
structure RingHeader.Unwrapped (header : RingHeader) : Prop where
  near : header.writeIndex.toNat ≤ header.readIndex.toNat + ringFrames
  below : header.readIndex.toNat + ringFrames < 2 ^ 64

def RingHeader.unread (header : RingHeader) : Nat :=
  header.writeIndex.toNat - header.readIndex.toNat

structure SharedRing.SameBut (before after : SharedRing) : Prop where
  writeIndex : after.header.writeIndex = before.header.writeIndex
  readIndex : after.header.readIndex = before.header.readIndex
  underrunCount : after.header.underrunCount = before.header.underrunCount
  overrunCount : after.header.overrunCount = before.header.overrunCount
  payload : after.payload = before.payload

theorem SharedRing.SameBut.refl (ring : SharedRing) : ring.SameBut ring :=
  { writeIndex := rfl, readIndex := rfl, underrunCount := rfl, overrunCount := rfl
    payload := rfl }

theorem SharedRing.beat_sameBut (ring : SharedRing) (now : BitVec 64) :
    ring.SameBut (ring.beat now) :=
  { writeIndex := rfl, readIndex := rfl, underrunCount := rfl, overrunCount := rfl
    payload := rfl }

theorem SmartMicDriverLink.start_sameBut (link : SmartMicDriverLink) (ring : SharedRing)
    (replies : DeviceReplies) (now : BitVec 64) :
    ring.SameBut (link.start ring replies now).2.2 := by
  unfold SmartMicDriverLink.start
  have refl := SharedRing.SameBut.refl ring
  have beaten := ring.beat_sameBut now
  cases replies.version with
  | none => split_ifs <;> exact refl
  | some version =>
      dsimp only
      split_ifs
      · exact refl
      · exact refl
      · exact refl
      · exact refl
      · exact refl
      · exact beaten

/-! ### The producer -/

section Producer

variable {header : RingHeader}

/-- A write fits when it reaches the reader and does not pass it by more than a ring. -/
theorem RingHeader.Unwrapped.fits_iff (unwrapped : header.Unwrapped) {count : Nat}
    (short : count ≤ ringFrames) :
    header.Fits count ↔ header.readIndex.toNat ≤ header.writeIndex.toNat + count ∧
      header.writeIndex.toNat + count ≤ header.readIndex.toNat + ringFrames := by
  have near := unwrapped.near
  have below := unwrapped.below
  have writer := header.writeIndex.isLt
  unfold RingHeader.Fits
  rw [BitVec.le_def]
  simp only [BitVec.toNat_add, BitVec.toNat_sub, BitVec.toNat_ofNat, ringFrames] at *
  omega

theorem SharedRing.writeFrames_accepted (ring : SharedRing) (scratch : List PcmFrame)
    (now : BitVec 64) (fits : ring.header.Fits scratch.length) :
    (ring.writeFrames scratch now).header =
        { ring.header with
          writeIndex := ring.header.writeIndex + BitVec.ofNat 64 scratch.length
          producerHeartbeat := now } ∧
      (ring.writeFrames scratch now).payload =
        Circular.wrapStore ringFrames ring.payload ring.header.writeIndex.toNat scratch := by
  have room : ¬ BitVec.ofNat 64 ringFrames <
      ring.header.writeIndex - ring.header.readIndex + BitVec.ofNat 64 scratch.length :=
    BitVec.not_lt.mpr fits
  have offset : (ring.header.writeIndex &&& ringMask).toNat =
      ring.header.writeIndex.toNat % ringFrames := slot_eq ring.header.writeIndex
  unfold SharedRing.writeFrames
  dsimp only
  rw [if_neg room, copyIn_eq, copyIn_eq, offset]
  exact ⟨rfl, rfl⟩

theorem SharedRing.writeFrames_refused (ring : SharedRing) (scratch : List PcmFrame)
    (now : BitVec 64) (full : ¬ ring.header.Fits scratch.length) :
    (ring.writeFrames scratch now).header =
        { ring.header with
          overrunCount := ring.header.overrunCount + BitVec.ofNat 32 scratch.length
          producerHeartbeat := now } ∧
      (ring.writeFrames scratch now).payload = ring.payload := by
  have crowded : BitVec.ofNat 64 ringFrames <
      ring.header.writeIndex - ring.header.readIndex + BitVec.ofNat 64 scratch.length :=
    BitVec.not_le.mp full
  unfold SharedRing.writeFrames
  dsimp only
  rw [if_pos crowded]
  exact ⟨rfl, rfl⟩

theorem Pair.step_write_detached {pair : Pair} (detached : pair.link.attached = false)
    (input : List Binary32) (now : BitVec 64) : pair.step (.write input now) = pair := by
  change { pair with ring := (pair.link.write pair.ring input now).2 } = pair
  unfold SmartMicDriverLink.write
  rw [if_pos detached]

theorem Pair.step_write_attached {pair : Pair} (attached : pair.link.attached = true)
    (input : List Binary32) (now : BitVec 64) :
    pair.step (.write input now) =
      { pair with ring := pair.ring.writeFrames (input.map toPcm16) now } := by
  change { pair with ring := (pair.link.write pair.ring input now).2 } = _
  unfold SmartMicDriverLink.write
  rw [if_neg (by rw [attached]; decide)]

end Producer

/-! ### The consumer -/

section Consumer

variable {header : RingHeader}

theorem RingHeader.skipLapped_near
    (near : header.writeIndex.toNat ≤ header.readIndex.toNat + ringFrames) :
    header.skipLapped = (header, BitVec.ofNat 64 header.unread) := by
  have writer := header.writeIndex.isLt
  unfold RingHeader.skipLapped
  by_cases ahead : header.readIndex ≤ header.writeIndex
  · have order := BitVec.le_def.mp ahead
    have available : header.writeIndex - header.readIndex = BitVec.ofNat 64 header.unread := by
      apply BitVec.eq_of_toNat_eq
      rw [BitVec.toNat_sub_of_le ahead, BitVec.toNat_ofNat]
      exact (Nat.mod_eq_of_lt (Nat.lt_of_le_of_lt (Nat.sub_le _ _) writer)).symm
    rw [if_pos ahead, available]
    dsimp only
    have level : ¬ BitVec.ofNat 64 ringFrames < BitVec.ofNat 64 header.unread := by
      rw [BitVec.lt_def, BitVec.toNat_ofNat, BitVec.toNat_ofNat]
      unfold RingHeader.unread
      simp only [ringFrames] at near ⊢
      omega
    rw [if_neg level]
  · have order := BitVec.not_le.mp ahead
    have none : header.unread = 0 :=
      Nat.sub_eq_zero_of_le (Nat.le_of_lt (BitVec.lt_def.mp order))
    rw [if_neg ahead, none]

theorem RingHeader.producerAlive_now {now : BitVec 64} (beaten : header.producerHeartbeat = now)
    (started : now ≠ 0#64) : header.producerAlive now = true := by
  unfold RingHeader.producerAlive
  rw [beaten, if_neg started, BitVec.sub_self, decide_eq_true (BitVec.le_refl now)]
  rfl

structure SharedRing.Reads (ring : SharedRing) (frames : BitVec 32) (drain : Drain) : Prop where
  writeIndex : drain.ring.header.writeIndex = ring.header.writeIndex
  readIndex : drain.ring.header.readIndex = ring.header.readIndex + frames.setWidth 64
  underrunCount : drain.ring.header.underrunCount = ring.header.underrunCount +
    BitVec.ofNat 32 (frames.toNat - min frames.toNat ring.header.unread)
  overrunCount : drain.ring.header.overrunCount = ring.header.overrunCount
  payload : drain.ring.payload = ring.payload
  realFrames : drain.realFrames.toNat = min frames.toNat ring.header.unread
  destination : drain.destination =
    Circular.wrapLoad ringFrames ring.payload ring.header.readIndex.toNat
        (min frames.toNat ring.header.unread) ++
      silence (frames.toNat - min frames.toNat ring.header.unread)

theorem SharedRing.reads_fresh {ring : SharedRing}
    (near : ring.header.writeIndex.toNat ≤ ring.header.readIndex.toNat + ringFrames)
    (frames : BitVec 32) {now : BitVec 64} (alive : ring.header.producerAlive now = true) :
    ring.Reads frames (ring.read frames now) := by
  have available : (BitVec.ofNat 64 ring.header.unread).toNat = ring.header.unread := by
    rw [BitVec.toNat_ofNat]
    exact Nat.mod_eq_of_lt
      (Nat.lt_of_le_of_lt (Nat.sub_le _ _) ring.header.writeIndex.isLt)
  have real : (BitVec.ofNat 32 (min frames.toNat ring.header.unread)).toNat =
      min frames.toNat ring.header.unread := by
    rw [BitVec.toNat_ofNat]
    exact Nat.mod_eq_of_lt (Nat.lt_of_le_of_lt (Nat.min_le_left _ _) frames.isLt)
  rcases ring.read_cases frames now with ⟨none, read⟩ | ⟨dead, -⟩ | ⟨-, -, read⟩
  · rw [read, none]
    constructor
    · rfl
    · exact (BitVec.add_zero _).symm
    · exact (BitVec.add_zero _).symm
    · rfl
    · rfl
    · exact (Nat.zero_min _).symm
    · rw [show (0#32).toNat = 0 from rfl, Nat.zero_min]
      unfold Circular.wrapLoad Circular.firstPiece
      rw [Nat.zero_min]
      rfl
  · rw [alive] at dead
    cases dead
  · rw [RingHeader.skipLapped_near near] at read
    dsimp only at read
    rw [available] at read
    rw [read]
    exact
      { writeIndex := rfl
        readIndex := rfl
        underrunCount := rfl
        overrunCount := rfl
        payload := rfl
        realFrames := real
        destination := by rw [← copyOut_eq] }

theorem SharedRing.read_stale (ring : SharedRing) (frames : BitVec 32) {now : BitVec 64}
    (dead : ring.header.producerAlive now = false) :
    (ring.read frames now).ring.header =
        { ring.header with underrunCount := ring.header.underrunCount + frames } ∧
      (ring.read frames now).ring.payload = ring.payload ∧
      (ring.read frames now).realFrames = 0#32 := by
  rcases ring.read_cases frames now with ⟨none, read⟩ | ⟨-, read⟩ | ⟨-, alive, -⟩
  · rw [read, none, BitVec.add_zero]
    exact ⟨rfl, rfl, rfl⟩
  · rw [read]
    exact ⟨rfl, rfl, rfl⟩
  · rw [dead] at alive
    cases alive

end Consumer

end SmartMic.Driver
