import SmartMic.Driver.Ring
import SmartMic.Support.Circular

set_option autoImplicit false

/-! What `CSmartMicRing::Read` does on a header that user mode may have filled with
anything. The two pieces of its copy are one read of a ring modulo `ringFrames`,
whatever the indices are. -/

namespace SmartMic.Driver

/-- The payload frame that an index is masked to. -/
def slot (index : BitVec 64) : Nat := (index &&& ringMask).toNat

/-- Where `Read` starts to copy: past what a lapping producer has overwritten. -/
def RingHeader.effectiveReadIndex (header : RingHeader) : BitVec 64 :=
  header.skipLapped.1.readIndex

/-- What one call of `Read` may do: a prefix of real frames from consecutive masked
indices, silence behind it, and the shortfall counted. -/
structure SharedRing.ReadsSafely (ring : SharedRing) (frames : BitVec 32) (now : BitVec 64) :
    Prop where
  returned : (ring.read frames now).realFrames ≤ frames
  complete : (ring.read frames now).destination.length = frames.toNat
  content : (ring.read frames now).destination =
    (List.range (ring.read frames now).realFrames.toNat).map
        (fun position => ring.payload
          (slot (ring.header.effectiveReadIndex + BitVec.ofNat 64 position))) ++
      silence (frames.toNat - (ring.read frames now).realFrames.toNat)
  inside : ∀ payload : Nat → PcmFrame,
    (∀ position < ringFrames, payload position = ring.payload position) →
      (SharedRing.read { ring with payload := payload } frames now).destination =
        (ring.read frames now).destination
  counted : (ring.read frames now).ring.header.underrunCount =
    ring.header.underrunCount + (frames - (ring.read frames now).realFrames)

/-! ### Masked indices -/

theorem slot_eq (index : BitVec 64) : slot index = index.toNat % ringFrames := by
  unfold slot ringMask ringFrames
  rw [BitVec.toNat_and]
  exact Nat.and_two_pow_sub_one_eq_mod index.toNat 13

theorem slot_lt (index : BitVec 64) : slot index < ringFrames := by
  rw [slot_eq]
  exact Nat.mod_lt _ (by decide)

theorem slot_add (index : BitVec 64) (position : Nat) :
    slot (index + BitVec.ofNat 64 position) = (index.toNat + position) % ringFrames := by
  rw [slot_eq, BitVec.toNat_add, BitVec.toNat_ofNat]
  unfold ringFrames
  omega

theorem copyIn_eq (payload : Nat → PcmFrame) (offset : Nat) (source : List PcmFrame) :
    copyIn payload offset source = Circular.store payload offset source := by
  funext position
  unfold copyIn Circular.store
  by_cases reached : offset ≤ position
  · rw [if_pos reached]
    by_cases inside : position < offset + source.length
    · have held : position - offset < source.length := by omega
      rw [if_pos ⟨reached, inside⟩, List.getD_eq_getElem?_getD, List.getElem?_eq_getElem held]
      rfl
    · rw [if_neg (fun both => inside both.2), List.getElem?_eq_none (by omega)]
      rfl
  · rw [if_neg reached, if_neg (fun both => reached both.1)]

theorem copyOut_eq (payload : Nat → PcmFrame) (index : BitVec 64) (count : Nat) :
    copyOut payload index count = Circular.wrapLoad ringFrames payload index.toNat count := by
  have offset : (index &&& ringMask).toNat = index.toNat % ringFrames := slot_eq index
  unfold copyOut Circular.wrapLoad Circular.load Circular.firstPiece
  simp only [offset, Nat.zero_add]

/-! ### One read -/

theorem RingHeader.skipLapped_le (header : RingHeader) :
    header.skipLapped.2.toNat ≤ ringFrames := by
  unfold RingHeader.skipLapped
  split
  · dsimp only
    split
    · exact Nat.le_refl _
    · rename_i near
      exact BitVec.le_def.mp (BitVec.not_lt.mp near)
  · exact Nat.zero_le _

theorem RingHeader.skipLapped_underrunCount (header : RingHeader) :
    header.skipLapped.1.underrunCount = header.underrunCount := by
  unfold RingHeader.skipLapped
  split
  · dsimp only
    split <;> rfl
  · rfl

theorem copyOut_slots (payload : Nat → PcmFrame) (index : BitVec 64) {count : Nat}
    (short : count ≤ ringFrames) :
    copyOut payload index count =
      (List.range count).map fun position =>
        payload (slot (index + BitVec.ofNat 64 position)) := by
  rw [copyOut_eq, Circular.wrapLoad_eq (by decide) payload index.toNat short]
  apply List.map_congr_left
  intro position _member
  rw [slot_add]

theorem SharedRing.read_cases (ring : SharedRing) (frames : BitVec 32) (now : BitVec 64) :
    (frames = 0#32 ∧ ring.read frames now =
      { ring := ring, destination := silence ((frames * 2#32).toNat / 2), realFrames := 0#32 }) ∨
    (ring.header.producerAlive now = false ∧ ring.read frames now =
      { ring :=
          { ring with header :=
              { ring.header with underrunCount := ring.header.underrunCount + frames } }
        destination := silence ((frames * 2#32).toNat / 2)
        realFrames := 0#32 }) ∨
    (frames ≠ 0#32 ∧ ring.header.producerAlive now = true ∧ ring.read frames now =
      { ring :=
          { ring with header :=
              { ring.header.skipLapped.1 with
                underrunCount := ring.header.skipLapped.1.underrunCount +
                  BitVec.ofNat 32 (frames.toNat - min frames.toNat ring.header.skipLapped.2.toNat)
                readIndex := ring.header.skipLapped.1.readIndex + frames.setWidth 64
                framesDelivered :=
                  ring.header.skipLapped.1.framesDelivered + frames.setWidth 64 } }
        destination := copyOut ring.payload ring.header.skipLapped.1.readIndex
            (min frames.toNat ring.header.skipLapped.2.toNat) ++
          silence (frames.toNat - min frames.toNat ring.header.skipLapped.2.toNat)
        realFrames := BitVec.ofNat 32 (min frames.toNat ring.header.skipLapped.2.toNat) }) := by
  unfold SharedRing.read
  by_cases none : frames = 0#32
  · left
    rw [if_pos none]
    exact ⟨none, rfl⟩
  · right
    rw [if_neg none]
    cases alive : ring.header.producerAlive now with
    | false => exact Or.inl ⟨rfl, rfl⟩
    | true => exact Or.inr ⟨none, rfl, rfl⟩

section

variable (ring : SharedRing) (frames : BitVec 32) (now : BitVec 64)

theorem RingHeader.real_toNat (header : RingHeader) (frames : BitVec 32) :
    (BitVec.ofNat 32 (min frames.toNat header.skipLapped.2.toNat)).toNat =
      min frames.toNat header.skipLapped.2.toNat := by
  rw [BitVec.toNat_ofNat]
  exact Nat.mod_eq_of_lt (Nat.lt_of_le_of_lt (Nat.min_le_left _ _) frames.isLt)

theorem wantBytes_toNat {frames : BitVec 32} (fits : 2 * frames.toNat < 2 ^ 32) :
    (frames * 2#32).toNat / 2 = frames.toNat := by
  rw [BitVec.toNat_mul]
  change frames.toNat * 2 % 2 ^ 32 / 2 = frames.toNat
  omega

theorem SharedRing.read_realFrames_le : (ring.read frames now).realFrames ≤ frames := by
  rw [BitVec.le_def]
  rcases ring.read_cases frames now with ⟨-, read⟩ | ⟨-, read⟩ | ⟨-, -, read⟩
  · rw [read]
    exact Nat.zero_le _
  · rw [read]
    exact Nat.zero_le _
  · rw [read]
    dsimp only
    rw [ring.header.real_toNat frames]
    exact Nat.min_le_left _ _

theorem SharedRing.read_content (fits : 2 * frames.toNat < 2 ^ 32) :
    (ring.read frames now).destination =
      (List.range (ring.read frames now).realFrames.toNat).map
          (fun position => ring.payload
            (slot (ring.header.effectiveReadIndex + BitVec.ofNat 64 position))) ++
        silence (frames.toNat - (ring.read frames now).realFrames.toNat) := by
  rcases ring.read_cases frames now with ⟨-, read⟩ | ⟨-, read⟩ | ⟨-, -, read⟩
  · rw [read, wantBytes_toNat fits]
    rfl
  · rw [read, wantBytes_toNat fits]
    rfl
  · have short : min frames.toNat ring.header.skipLapped.2.toNat ≤ ringFrames :=
      Nat.le_trans (Nat.min_le_right _ _) ring.header.skipLapped_le
    rw [read]
    dsimp only
    rw [ring.header.real_toNat frames, copyOut_slots _ _ short]
    rfl

theorem SharedRing.read_underrunCount :
    (ring.read frames now).ring.header.underrunCount =
      ring.header.underrunCount + (frames - (ring.read frames now).realFrames) := by
  rcases ring.read_cases frames now with ⟨none, read⟩ | ⟨-, read⟩ | ⟨-, -, read⟩
  · rw [read, none, BitVec.sub_zero, BitVec.add_zero]
  · rw [read, BitVec.sub_zero]
  · have below := Nat.min_le_left frames.toNat ring.header.skipLapped.2.toNat
    have shortfall : BitVec.ofNat 32
        (frames.toNat - min frames.toNat ring.header.skipLapped.2.toNat) =
          frames - BitVec.ofNat 32 (min frames.toNat ring.header.skipLapped.2.toNat) := by
      apply BitVec.eq_of_toNat_eq
      rw [BitVec.toNat_sub_of_le (by rw [BitVec.le_def, ring.header.real_toNat]; exact below),
        ring.header.real_toNat, BitVec.toNat_ofNat]
      exact Nat.mod_eq_of_lt (Nat.lt_of_le_of_lt (Nat.sub_le _ _) frames.isLt)
    rw [read]
    dsimp only
    rw [ring.header.skipLapped_underrunCount, shortfall]

theorem SharedRing.read_realFrames_payload (payload : Nat → PcmFrame) :
    (SharedRing.read { ring with payload := payload } frames now).realFrames =
      (ring.read frames now).realFrames := by
  unfold SharedRing.read
  dsimp only
  split
  · rfl
  · split <;> rfl

end

/-- Whatever the two indices, the heartbeat and the counters hold, `Read` copies only
frames of the payload, fills the whole destination and counts the shortfall. -/
theorem read_safe_on_any_header (ring : SharedRing) (frames : BitVec 32) (now : BitVec 64)
    (fits : 2 * frames.toNat < 2 ^ 32) : ring.ReadsSafely frames now := by
  have content := ring.read_content frames now fits
  constructor
  · exact ring.read_realFrames_le frames now
  · have returned := BitVec.le_def.mp (ring.read_realFrames_le frames now)
    rw [content, List.length_append, List.length_map, List.length_range]
    unfold silence
    rw [List.length_replicate]
    omega
  · exact content
  · intro payload agree
    rw [content, SharedRing.read_content { ring with payload := payload } frames now fits,
      ring.read_realFrames_payload frames now payload]
    congr 1
    apply List.map_congr_left
    intro position _member
    exact agree _ (slot_lt _)
  · exact ring.read_underrunCount frames now

/-- A request of 960 frames on a ring whose indices have wrapped apart. -/
theorem read_safe_on_any_header_wrapped :
    SharedRing.ReadsSafely
      { SharedRing.initialize with header :=
          { SharedRing.initialize.header with
            readIndex := 0#64, writeIndex := 0xffffffffffffffff#64, producerHeartbeat := 1#64 } }
      960#32 1#64 :=
  read_safe_on_any_header _ 960#32 1#64 (by decide)

end SmartMic.Driver
