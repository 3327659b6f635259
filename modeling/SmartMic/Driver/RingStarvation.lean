import SmartMic.Driver.Ring

set_option autoImplicit false

/-! What a starved ring does to the producer. `Read` moves `readIndex` past
`writeIndex` on a shortfall, `write` measures the fill with an unsigned
difference of the two. The question is which writes still go in afterwards. -/

namespace SmartMic.Driver

/-- The ring holds no unread frame: `readIndex` has reached or passed
`writeIndex`, compared the way `Read` compares them. -/
def RingHeader.Drained (header : RingHeader) : Prop :=
  header.writeIndex ≤ header.readIndex

instance (header : RingHeader) : Decidable header.Drained :=
  inferInstanceAs (Decidable (header.writeIndex ≤ header.readIndex))

/-- How many frames the reader is ahead of the writer on a drained ring. -/
def RingHeader.ahead (header : RingHeader) : Nat :=
  header.readIndex.toNat - header.writeIndex.toNat

/-- The write goes in: `writeIndex` advances by its length and nothing is
counted as an overrun. -/
def Accepted (pair : Pair) (input : List Binary32) (now : BitVec 64) : Prop :=
  (pair.step (.write input now)).ring.header.writeIndex =
      pair.ring.header.writeIndex + BitVec.ofNat 64 input.length ∧
    (pair.step (.write input now)).ring.header.overrunCount = pair.ring.header.overrunCount

/-- Calls that neither reopen the stream nor write more than a whole ring. -/
def StaysOpen : Call → Prop
  | .setStreamOpen isOpen => isOpen = false
  | .write input _ => input.length ≤ ringFrames
  | _ => True

def Call.framesAsked : Call → Nat
  | .read frames _ => frames.toNat
  | _ => 0

def framesAsked (calls : List Call) : Nat := (calls.map Call.framesAsked).sum

/-! ### One write -/

@[simp]
theorem SharedRing.beat_writeIndex (ring : SharedRing) (now : BitVec 64) :
    (ring.beat now).header.writeIndex = ring.header.writeIndex := rfl

@[simp]
theorem SharedRing.beat_overrunCount (ring : SharedRing) (now : BitVec 64) :
    (ring.beat now).header.overrunCount = ring.header.overrunCount := rfl

/-- There is room for `count` more frames, in the producer's own arithmetic. -/
def RingHeader.Fits (header : RingHeader) (count : Nat) : Prop :=
  header.writeIndex - header.readIndex + BitVec.ofNat 64 count ≤ BitVec.ofNat 64 ringFrames

instance (header : RingHeader) (count : Nat) : Decidable (header.Fits count) :=
  inferInstanceAs (Decidable
    (header.writeIndex - header.readIndex + BitVec.ofNat 64 count ≤ BitVec.ofNat 64 ringFrames))

theorem SharedRing.writeFrames_fits (ring : SharedRing) (scratch : List PcmFrame)
    (now : BitVec 64) (fits : ring.header.Fits scratch.length) :
    (ring.writeFrames scratch now).header.writeIndex =
        ring.header.writeIndex + BitVec.ofNat 64 scratch.length ∧
      (ring.writeFrames scratch now).header.overrunCount = ring.header.overrunCount := by
  have room : ¬ BitVec.ofNat 64 ringFrames <
      ring.header.writeIndex - ring.header.readIndex + BitVec.ofNat 64 scratch.length :=
    BitVec.not_lt.mpr fits
  simp only [SharedRing.writeFrames, if_neg room, beat_writeIndex, beat_overrunCount, and_self]

theorem SharedRing.writeFrames_full (ring : SharedRing) (scratch : List PcmFrame)
    (now : BitVec 64) (full : ¬ ring.header.Fits scratch.length) :
    (ring.writeFrames scratch now).header.writeIndex = ring.header.writeIndex ∧
      (ring.writeFrames scratch now).header.overrunCount =
        ring.header.overrunCount + BitVec.ofNat 32 scratch.length := by
  have crowded : BitVec.ofNat 64 ringFrames <
      ring.header.writeIndex - ring.header.readIndex + BitVec.ofNat 64 scratch.length :=
    BitVec.not_le.mp full
  simp only [SharedRing.writeFrames, if_pos crowded, beat_writeIndex, beat_overrunCount, and_self]

@[simp]
theorem SharedRing.writeFrames_readIndex (ring : SharedRing) (scratch : List PcmFrame)
    (now : BitVec 64) :
    (ring.writeFrames scratch now).header.readIndex = ring.header.readIndex := by
  simp only [SharedRing.writeFrames]
  split <;> rfl

theorem SmartMicDriverLink.start_indices (link : SmartMicDriverLink) (ring : SharedRing)
    (replies : DeviceReplies) (now : BitVec 64) :
    (link.start ring replies now).2.2.header.writeIndex = ring.header.writeIndex ∧
      (link.start ring replies now).2.2.header.readIndex = ring.header.readIndex := by
  unfold SmartMicDriverLink.start
  cases replies.version with
  | none => split_ifs <;> exact ⟨rfl, rfl⟩
  | some version =>
      simp only
      split_ifs <;> exact ⟨rfl, rfl⟩

/-- The producer's unsigned test, read back as an inequality of naturals: a write
fits a drained ring when it is long enough to catch up with the reader, or when
the indices only look drained because `writeIndex` has wrapped and the reader has
not. -/
theorem RingHeader.fits_of_drained_iff (header : RingHeader) (drained : header.Drained)
    (count : Nat) (short : count ≤ ringFrames) :
    header.Fits count ↔
      header.ahead ≤ count ∨ 2 ^ 64 + count ≤ header.ahead + ringFrames := by
  have reader := header.readIndex.isLt
  have writer := header.writeIndex.isLt
  have order : header.writeIndex.toNat ≤ header.readIndex.toNat := BitVec.le_def.mp drained
  simp only [RingHeader.Fits, RingHeader.ahead, ringFrames, BitVec.le_def, BitVec.toNat_add,
    BitVec.toNat_sub, BitVec.toNat_ofNat] at *
  omega

/-- A write goes in exactly when it is empty or the service is attached and the
ring has room for it. -/
theorem accepted_iff (pair : Pair) (input : List Binary32) (now : BitVec 64)
    (short : input.length ≤ ringFrames) :
    Accepted pair input now ↔
      input = [] ∨ (pair.link.attached = true ∧ pair.ring.header.Fits input.length) := by
  have converted : (input.map toPcm16).length = input.length := List.length_map _
  cases attached : pair.link.attached with
  | false =>
      have unchanged : pair.step (.write input now) = pair := by
        simp [Pair.step, SmartMicDriverLink.write, attached]
      simp only [Accepted, unchanged, and_true, Bool.false_eq_true, false_and, or_false]
      constructor
      · intro same
        have noFrames : input.length = 0 := by
          simp only [ringFrames] at short
          have value := congrArg BitVec.toNat same
          simp only [BitVec.toNat_add, BitVec.toNat_ofNat] at value
          have bound := pair.ring.header.writeIndex.isLt
          omega
        exact List.eq_nil_of_length_eq_zero noFrames
      · rintro rfl
        simp
  | true =>
      have written : (pair.step (.write input now)).ring =
          pair.ring.writeFrames (input.map toPcm16) now := by
        simp [Pair.step, SmartMicDriverLink.write, attached]
      simp only [Accepted, written, true_and]
      by_cases fits : pair.ring.header.Fits input.length
      · have spec := pair.ring.writeFrames_fits (input.map toPcm16) now (converted ▸ fits)
        rw [converted] at spec
        exact iff_of_true spec (Or.inr fits)
      · have spec := pair.ring.writeFrames_full (input.map toPcm16) now (converted ▸ fits)
        rw [converted] at spec
        constructor
        · rintro ⟨-, counted⟩
          rw [spec.2] at counted
          have noFrames : input.length = 0 := by
            simp only [ringFrames] at short
            have value := congrArg BitVec.toNat counted
            simp only [BitVec.toNat_add, BitVec.toNat_ofNat] at value
            have bound := pair.ring.header.overrunCount.isLt
            omega
          exact Or.inl (List.eq_nil_of_length_eq_zero noFrames)
        · rintro (rfl | room)
          · simpa using spec
          · exact absurd room fits

/-! ### A starved stream -/

/-- The reader is more than a whole ring ahead, and stays below the wrap while
`budget` more frames are read. -/
structure Starved (header : RingHeader) (budget : Nat) : Prop where
  behind : header.writeIndex.toNat + ringFrames < header.readIndex.toNat
  below : header.readIndex.toNat + budget + ringFrames ≤ 2 ^ 64

theorem Starved.drained {header : RingHeader} {budget : Nat} (starved : Starved header budget) :
    header.Drained := by
  have behind := starved.behind
  exact BitVec.le_def.mpr (by omega)

theorem Starved.not_fits {header : RingHeader} {budget : Nat} (starved : Starved header budget)
    (count : Nat) (short : count ≤ ringFrames) (some : 0 < count) : ¬ header.Fits count := by
  rw [header.fits_of_drained_iff starved.drained count short, RingHeader.ahead]
  have behind := starved.behind
  have below := starved.below
  omega

theorem RingHeader.skipLapped_drained (header : RingHeader) (drained : header.Drained) :
    header.skipLapped = (header, 0#64) := by
  have order : header.writeIndex.toNat ≤ header.readIndex.toNat := BitVec.le_def.mp drained
  unfold RingHeader.skipLapped
  by_cases level : header.readIndex ≤ header.writeIndex
  · have same : header.writeIndex = header.readIndex :=
      BitVec.eq_of_toNat_eq (Nat.le_antisymm order (BitVec.le_def.mp level))
    simp [same]
  · rw [if_neg level]

theorem SharedRing.read_drained (ring : SharedRing) (drained : ring.header.Drained)
    (frames : BitVec 32) (now : BitVec 64) :
    (ring.read frames now).realFrames = 0#32 ∧
      (∀ frame ∈ (ring.read frames now).destination, frame = 0#16) ∧
      (ring.read frames now).ring.header.writeIndex = ring.header.writeIndex ∧
      ((ring.read frames now).ring.header.readIndex = ring.header.readIndex ∨
        (ring.read frames now).ring.header.readIndex =
          ring.header.readIndex + frames.setWidth 64) := by
  unfold SharedRing.read
  simp only
  split
  · refine ⟨rfl, ?_, rfl, Or.inl rfl⟩
    intro frame member
    exact List.eq_of_mem_replicate member
  · split
    · refine ⟨rfl, ?_, rfl, Or.inl rfl⟩
      intro frame member
      exact List.eq_of_mem_replicate member
    · rw [ring.header.skipLapped_drained drained]
      refine ⟨by simp, ?_, rfl, Or.inr rfl⟩
      intro frame member
      have silent : frame ∈ silence (frames.toNat - 0) := by
        simpa [copyOut] using member
      exact List.eq_of_mem_replicate silent

/-- Only reopening the stream, or the wrap, ends a starvation of more than a
whole ring: one call takes its frames off the budget and nothing else. -/
theorem Starved.step {pair : Pair} {budget : Nat} (call : Call)
    (starved : Starved pair.ring.header (call.framesAsked + budget)) (stays : StaysOpen call) :
    Starved (pair.step call).ring.header budget := by
  have behind := starved.behind
  have below := starved.below
  cases call with
  | start replies now =>
      have indices := pair.link.start_indices pair.ring replies now
      simp only [Call.framesAsked] at below
      simp only [Pair.step]
      exact ⟨by rw [indices.1, indices.2]; exact behind, by rw [indices.2]; omega⟩
  | stop =>
      simp only [Call.framesAsked] at below
      exact ⟨behind, by simp only [Pair.step]; omega⟩
  | write input now =>
      have indices : (pair.step (.write input now)).ring.header.writeIndex =
            pair.ring.header.writeIndex ∧
          (pair.step (.write input now)).ring.header.readIndex =
            pair.ring.header.readIndex := by
        simp only [Pair.step, SmartMicDriverLink.write]
        split
        · exact ⟨rfl, rfl⟩
        · refine ⟨?_, by simp⟩
          cases input with
          | nil =>
              by_cases fits : pair.ring.header.Fits 0
              · simpa using (pair.ring.writeFrames_fits [] now fits).1
              · simpa using (pair.ring.writeFrames_full [] now fits).1
          | cons head tail =>
              exact (pair.ring.writeFrames_full _ now
                (starved.not_fits _ (by rw [List.length_map]; exact stays) (by simp))).1
      simp only [Call.framesAsked] at below
      exact ⟨by rw [indices.1, indices.2]; exact behind, by rw [indices.2]; omega⟩
  | read frames now =>
      obtain ⟨-, -, writer, reader⟩ := pair.ring.read_drained starved.drained frames now
      simp only [Call.framesAsked] at below
      have width : (frames.setWidth 64).toNat = frames.toNat := by
        have small := frames.isLt
        simp only [BitVec.toNat_setWidth]
        omega
      constructor
      · simp only [Pair.step]
        rw [writer]
        rcases reader with still | moved
        · rw [still]; exact behind
        · simp only [moved, BitVec.toNat_add, width, ringFrames] at behind below ⊢
          omega
      · simp only [Pair.step]
        rcases reader with still | moved
        · rw [still]; omega
        · simp only [moved, BitVec.toNat_add, width, ringFrames] at behind below ⊢
          omega
  | setStreamOpen isOpen =>
      simp only [StaysOpen] at stays
      subst stays
      simp only [Call.framesAsked] at below
      refine ⟨?_, ?_⟩
      · simpa [Pair.step, SharedRing.setStreamOpen] using behind
      · simp only [Pair.step, SharedRing.setStreamOpen, Bool.false_eq_true, if_false]
        omega

theorem Starved.final (calls : List Call) :
    ∀ pair : Pair, Starved pair.ring.header (framesAsked calls) →
      (∀ call ∈ calls, StaysOpen call) →
      Starved (Run.final Pair.step pair calls).ring.header 0 := by
  induction calls with
  | nil => intro pair starved _stays; exact starved
  | cons call rest ih =>
      intro pair starved stays
      have split : framesAsked (call :: rest) = call.framesAsked + framesAsked rest := by
        simp [framesAsked]
      rw [split] at starved
      exact ih _ (starved.step call (stays call List.mem_cons_self))
        (fun later member => stays later (List.mem_cons_of_mem call member))

/-- From here on, as long as the stream is not reopened and `readIndex` stays
below the wrap, every write is dropped and every drain is silence. -/
def StuckUntilReopened (pair : Pair) : Prop :=
  ∀ later : List Call, (∀ call ∈ later, StaysOpen call) →
    pair.ring.header.readIndex.toNat + framesAsked later + ringFrames ≤ 2 ^ 64 →
    (∀ input now, input ≠ [] → input.length ≤ ringFrames →
      ¬ Accepted (Run.final Pair.step pair later) input now) ∧
    (∀ frames now, ∀ frame ∈
      ((Run.final Pair.step pair later).ring.read frames now).destination, frame = 0#16)

theorem stuckUntilReopened_iff (pair : Pair) (attached : pair.link.attached = true)
    (drained : pair.ring.header.Drained)
    (below : pair.ring.header.readIndex.toNat + ringFrames ≤ 2 ^ 64) :
    StuckUntilReopened pair ↔ ringFrames < pair.ring.header.ahead := by
  have order : pair.ring.header.writeIndex.toNat ≤ pair.ring.header.readIndex.toNat :=
    BitVec.le_def.mp drained
  constructor
  · intro stuck
    by_contra caughtUp
    -- a write of a whole ring catches up with the reader at once
    have wholeRing : (List.replicate ringFrames (0 : Binary32)).length = ringFrames :=
      List.length_replicate
    have someFrames : List.replicate ringFrames (0 : Binary32) ≠ [] :=
      List.ne_nil_of_length_pos (by rw [wholeRing]; decide)
    have dropped := (stuck [] (by simp) (by simpa [framesAsked] using below)).1
      (List.replicate ringFrames 0) 0#64 someFrames (Nat.le_of_eq wholeRing)
    refine dropped ((accepted_iff _ _ _ (Nat.le_of_eq wholeRing)).mpr (Or.inr ⟨attached, ?_⟩))
    rw [wholeRing]
    exact (pair.ring.header.fits_of_drained_iff drained ringFrames (Nat.le_refl _)).mpr
      (Or.inl (Nat.le_of_not_lt caughtUp))
  · intro behind later stays room
    have starved : Starved pair.ring.header (framesAsked later) :=
      ⟨by rw [RingHeader.ahead] at behind; omega, room⟩
    have still := Starved.final later pair starved stays
    constructor
    · intro input now someFrames short goesIn
      rcases (accepted_iff _ input now short).mp goesIn with none | ⟨-, fits⟩
      · exact someFrames none
      · exact still.not_fits input.length short (List.length_pos_iff.mpr someFrames) fits
    · intro frames now
      exact ((Run.final Pair.step pair later).ring.read_drained still.drained frames now).2.1

/-! ### Every reachable pair -/

/-- On a drained ring a write goes in exactly when it is empty, or the service is
attached and the write is at least as long as the reader is ahead (or the order
of the indices is only apparent, `writeIndex` having wrapped). A starvation by
more than a whole ring lasts until the stream is reopened, and no shorter one
does. -/
theorem drained_write_accepted_iff (calls : List Call)
    (drained : (Run.final Pair.step Pair.initial calls).ring.header.Drained) :
    let pair := Run.final Pair.step Pair.initial calls
    (∀ input now, input.length ≤ ringFrames →
      (Accepted pair input now ↔
        input = [] ∨ (pair.link.attached = true ∧
          (pair.ring.header.ahead ≤ input.length ∨
            2 ^ 64 + input.length ≤ pair.ring.header.ahead + ringFrames)))) ∧
    (pair.link.attached = true → pair.ring.header.readIndex.toNat + ringFrames ≤ 2 ^ 64 →
      (¬ StuckUntilReopened pair ↔ pair.ring.header.ahead ≤ ringFrames)) := by
  refine ⟨?_, ?_⟩
  · intro input now short
    rw [accepted_iff _ input now short, RingHeader.fits_of_drained_iff _ drained _ short]
  · intro attached below
    rw [stuckUntilReopened_iff _ attached drained below, Nat.not_lt]

/-- The service attaches, a stream opens, and the driver asks for 961 frames
before the service has written any. -/
def starvedByOne : List Call :=
  [.start { opened := true, version := some ⟨1#32, ringVersion, ringTotalBytes⟩, mapped := true }
      1#64,
    .setStreamOpen true,
    .read 961#32 1#64]

/-- After that starvation a frame of 961 samples would still go in. -/
theorem drained_write_accepted_starvedByOne :
    Accepted (Run.final Pair.step Pair.initial starvedByOne) (List.replicate 961 0) 1#64 :=
  ((drained_write_accepted_iff starvedByOne (by decide)).1 (List.replicate 961 0) 1#64
    (by rw [List.length_replicate]; decide)).mpr
      (Or.inr ⟨rfl, Or.inl (by rw [List.length_replicate]; decide)⟩)

/-- The router's frame of 960 samples does not go in, although every `Read` saw a
fresh heartbeat and the ring holds no unread frame. -/
theorem drained_write_dropped :
    ¬ ∀ (calls : List Call) (input : List Binary32) (now : BitVec 64),
      Run.Meets Pair.step FreshRead Pair.initial calls → input.length ≤ ringFrames →
      (Run.final Pair.step Pair.initial calls).link.attached = true →
      (Run.final Pair.step Pair.initial calls).ring.header.Drained →
      Accepted (Run.final Pair.step Pair.initial calls) input now := by
  intro everyWrite
  have length : (List.replicate 960 (0 : Binary32)).length = 960 := List.length_replicate
  have short : (List.replicate 960 (0 : Binary32)).length ≤ ringFrames := by rw [length]; decide
  have goesIn := everyWrite starvedByOne (List.replicate 960 0) 1#64
    ⟨trivial, trivial, rfl, trivial⟩ short rfl (by decide)
  rcases (accepted_iff _ _ _ short).mp goesIn with none | ⟨-, fits⟩
  · rw [none] at length
    cases length
  · rw [List.length_replicate] at fits
    revert fits
    decide

end SmartMic.Driver
