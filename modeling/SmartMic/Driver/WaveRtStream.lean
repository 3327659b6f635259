import SmartMic.Driver.RingRead

set_option autoImplicit false

/-! The WaveRT capture stream of the driver. A timer plays the part of the DMA engine:
each tick copies one notification period out of the ring into the buffer that the audio
engine reads, and moves a cursor through it. Sizes are 32-bit words throughout, and so
is the product that the requested size is rounded down by.

The samples in the buffer, the notification events and the property sets are left out.
Calls follow one another; the lock between the calls and the timer is not modelled. -/

namespace SmartMic.Driver

/-- `SMARTMIC_BYTES_PER_FRAME`, an unsigned 32-bit constant. -/
def bytesPerFrame : BitVec 32 := 2#32

def notifyMs : BitVec 32 := 10#32

/-- `SMARTMIC_NOTIFY_FRAMES`: 10 ms at 48 kHz. -/
def notifyFrames : Nat := 480

inductive KsState where
  | stop
  | acquire
  | pause
  | run
deriving DecidableEq

/-- `CMiniportWaveRTStream` after its `Init`. `bufferMdl` and `bufferVa` tell whether the
pointers are set; `timerPeriod` is what the timer was last started with. -/
structure WaveRtStream where
  ring : SharedRing
  state : KsState
  bufferMdl : Bool
  bufferVa : Bool
  bufferBytes : BitVec 32
  notificationsPerBuffer : BitVec 32
  bytesPerNotification : BitVec 32
  writeOffset : BitVec 32
  framesWritten : BitVec 64
  timerRunning : Bool
  timerPeriod : BitVec 32

namespace WaveRtStream

/-- `Init` with the fixed endpoint format. -/
def init (ring : SharedRing) : WaveRtStream :=
  { ring := ring.setStreamOpen true
    state := .stop
    bufferMdl := false
    bufferVa := false
    bufferBytes := 0#32
    notificationsPerBuffer := 0#32
    bytesPerNotification := 0#32
    writeOffset := 0#32
    framesWritten := 0#64
    timerRunning := false
    timerPeriod := 0#32 }

def startTimer (stream : WaveRtStream) : WaveRtStream :=
  if stream.timerRunning then stream
  else { stream with timerRunning := true, timerPeriod := notifyMs }

def stopTimer (stream : WaveRtStream) : WaveRtStream := { stream with timerRunning := false }

def freeBufferInternal (stream : WaveRtStream) : WaveRtStream :=
  if stream.bufferMdl then
    { stream with bufferMdl := false, bufferVa := false, bufferBytes := 0#32 }
  else stream

/-- What `AllocatePagesForMdl` and `MapAllocatedPages` answer. -/
structure PageReplies where
  allocated : Bool
  mapped : Bool

def withBuffer (stream : WaveRtStream) (notificationCount size : BitVec 32) : WaveRtStream :=
  { stream with
    bufferMdl := true
    bufferVa := true
    bufferBytes := size
    notificationsPerBuffer := notificationCount
    bytesPerNotification := size / notificationCount
    writeOffset := 0#32
    framesWritten := 0#64 }

/-- `AllocateBufferWithNotification`; `none` is an integer division by zero. -/
def allocateBufferWithNotification (stream : WaveRtStream)
    (notificationCount requestedSize : BitVec 32) (pages : PageReplies) :
    Option (NtStatus × WaveRtStream) :=
  if requestedSize = 0#32 ∨ notificationCount = 0#32 then some (.unsuccessful, stream)
  else
    let divisor := bytesPerFrame * notificationCount
    if divisor = 0#32 then none
    else
      let size := requestedSize - requestedSize % divisor
      if size = 0#32 then some (.unsuccessful, stream)
      else if pages.allocated = false then some (.insufficientResources, stream)
      else if pages.mapped = false then some (.insufficientResources, stream)
      else some (.success, stream.withBuffer notificationCount size)

def allocateAudioBuffer (stream : WaveRtStream) (requestedSize : BitVec 32)
    (pages : PageReplies) : Option (NtStatus × WaveRtStream) :=
  stream.allocateBufferWithNotification 1#32 requestedSize pages

def freeAudioBuffer (stream : WaveRtStream) : WaveRtStream := stream.freeBufferInternal

def freeBufferWithNotification (stream : WaveRtStream) : WaveRtStream :=
  stream.stopTimer.freeBufferInternal

def setState (stream : WaveRtStream) : KsState → NtStatus × WaveRtStream
  | .stop =>
      (.success,
        { stream.stopTimer with state := .stop, writeOffset := 0#32, framesWritten := 0#64 })
  | .acquire => (.success, { stream.stopTimer with state := .acquire })
  | .pause => (.success, { stream.stopTimer with state := .pause })
  | .run =>
      if stream.bufferVa = false then (.deviceNotReady, stream)
      else
        (.success,
          { WaveRtStream.startTimer { stream with ring := stream.ring.setStreamOpen true } with
            state := .run })

/-- `GetPosition`: both offsets are this many bytes. -/
def position (stream : WaveRtStream) : BitVec 64 := stream.framesWritten * 2#64

/-- The part of the buffer that one tick copies to, and the frames it asks the ring for. -/
structure Period where
  offset : BitVec 32
  bytes : BitVec 32
  frames : BitVec 32

def period (stream : WaveRtStream) : Option Period :=
  if stream.timerRunning = false ∨ stream.bufferVa = false ∨
      stream.bytesPerNotification = 0#32 then none
  else
    some
      { offset := stream.writeOffset
        bytes := stream.bytesPerNotification
        frames := stream.bytesPerNotification / bytesPerFrame }

def onTimerTick (stream : WaveRtStream) (now : BitVec 64) : WaveRtStream :=
  match stream.period with
  | none => stream
  | some period =>
      let offset := stream.writeOffset + period.bytes
      { stream with
        ring := (stream.ring.read period.frames now).ring
        writeOffset := if stream.bufferBytes ≤ offset then 0#32 else offset
        framesWritten := stream.framesWritten + period.frames.setWidth 64 }

inductive StreamCall where
  | setState (state : KsState)
  | allocateBufferWithNotification (notificationCount requestedSize : BitVec 32)
      (pages : PageReplies)
  | allocateAudioBuffer (requestedSize : BitVec 32) (pages : PageReplies)
  | freeBufferWithNotification
  | freeAudioBuffer
  | onTimerTick (now : BitVec 64)

/-- One call; a machine that has divided by zero stays down. -/
def step (machine : Option WaveRtStream) (call : StreamCall) : Option WaveRtStream :=
  machine.bind fun stream =>
    match call with
    | .setState state => some (stream.setState state).2
    | .allocateBufferWithNotification notificationCount requestedSize pages =>
        (stream.allocateBufferWithNotification notificationCount requestedSize pages).map
          Prod.snd
    | .allocateAudioBuffer requestedSize pages =>
        (stream.allocateAudioBuffer requestedSize pages).map Prod.snd
    | .freeBufferWithNotification => some stream.freeBufferWithNotification
    | .freeAudioBuffer => some stream.freeAudioBuffer
    | .onTimerTick now => some (stream.onTimerTick now)

/-- What a caller may rely on: no division by zero; a failed call changes nothing; and the
buffer of a successful one holds whole notifications of whole frames. -/
def AllocationSound (stream : WaveRtStream) (notificationCount requestedSize : BitVec 32)
    (pages : PageReplies) : Prop :=
  ∃ status after,
    stream.allocateBufferWithNotification notificationCount requestedSize pages =
        some (status, after) ∧
      ((status ≠ .success ∧ after = stream) ∨
        (status = .success ∧
          0 < after.bufferBytes.toNat ∧ after.bufferBytes.toNat ≤ requestedSize.toNat ∧
          after.bufferBytes.toNat =
            notificationCount.toNat * after.bytesPerNotification.toNat ∧
          0 < after.bytesPerNotification.toNat ∧
          bytesPerFrame.toNat ∣ after.bytesPerNotification.toNat))

/-- Where a tick copies, it copies inside the buffer. -/
def CopiesInside (machine : Option WaveRtStream) : StreamCall → Prop
  | .onTimerTick _ =>
      ∀ stream, machine = some stream → ∀ period, stream.period = some period →
        period.offset.toNat + period.bytes.toNat ≤ stream.bufferBytes.toNat
  | _ => True

/-- The product of the notification count and the frame size fits in 32 bits; or it wraps,
but the call fails before it has done harm. -/
def AllocationFits (notificationCount requestedSize : BitVec 32) (pages : PageReplies) : Prop :=
  notificationCount.toNat < 2 ^ 31 ∨ requestedSize = 0#32 ∨
    (2 ^ 31 < notificationCount.toNat ∧
      (requestedSize.toNat < 2 * (notificationCount.toNat - 2 ^ 31) ∨
        pages.allocated = false ∨ pages.mapped = false))

/-! ### Allocation -/

section Allocation

variable (stream : WaveRtStream) {notificationCount requestedSize : BitVec 32}
  (pages : PageReplies)

theorem divisor_low (low : notificationCount.toNat < 2 ^ 31) :
    (bytesPerFrame * notificationCount).toNat = 2 * notificationCount.toNat := by
  unfold bytesPerFrame
  rw [BitVec.toNat_mul]
  change 2 * notificationCount.toNat % 2 ^ 32 = _
  omega

theorem divisor_high (high : 2 ^ 31 ≤ notificationCount.toNat) :
    (bytesPerFrame * notificationCount).toNat = 2 * (notificationCount.toNat - 2 ^ 31) := by
  have word := notificationCount.isLt
  unfold bytesPerFrame
  rw [BitVec.toNat_mul]
  change 2 * notificationCount.toNat % 2 ^ 32 = _
  omega

theorem rounded_toNat (requestedSize divisor : BitVec 32) :
    (requestedSize - requestedSize % divisor).toNat =
      divisor.toNat * (requestedSize.toNat / divisor.toNat) := by
  have split := Nat.div_add_mod requestedSize.toNat divisor.toNat
  have below : requestedSize % divisor ≤ requestedSize := by
    rw [BitVec.le_def, BitVec.toNat_umod]
    exact Nat.mod_le _ _
  rw [BitVec.toNat_sub_of_le below, BitVec.toNat_umod]
  omega

/-- What one call can do: divide by zero, fail and change nothing, or set the buffer. -/
inductive Outcome (stream : WaveRtStream) (notificationCount requestedSize : BitVec 32)
    (pages : PageReplies) : Option (NtStatus × WaveRtStream) → Prop where
  | faults (requested : requestedSize ≠ 0#32) (counted : notificationCount ≠ 0#32)
      (zero : bytesPerFrame * notificationCount = 0#32) :
      Outcome stream notificationCount requestedSize pages none
  | refuses (status : NtStatus) (failed : status ≠ .success)
      (empty : requestedSize = 0#32 ∨ notificationCount = 0#32) :
      Outcome stream notificationCount requestedSize pages (some (status, stream))
  | fails (status : NtStatus) (failed : status ≠ .success)
      (divides : bytesPerFrame * notificationCount ≠ 0#32)
      (short : requestedSize - requestedSize % (bytesPerFrame * notificationCount) = 0#32 ∨
        pages.allocated = false ∨ pages.mapped = false) :
      Outcome stream notificationCount requestedSize pages (some (status, stream))
  | grants (divides : bytesPerFrame * notificationCount ≠ 0#32)
      (some_ : requestedSize - requestedSize % (bytesPerFrame * notificationCount) ≠ 0#32)
      (allocated : pages.allocated = true) (mapped : pages.mapped = true) :
      Outcome stream notificationCount requestedSize pages
        (some (.success, stream.withBuffer notificationCount
          (requestedSize - requestedSize % (bytesPerFrame * notificationCount))))

theorem allocate_outcome :
    Outcome stream notificationCount requestedSize pages
      (stream.allocateBufferWithNotification notificationCount requestedSize pages) := by
  unfold allocateBufferWithNotification
  by_cases absent : requestedSize = 0#32 ∨ notificationCount = 0#32
  · rw [if_pos absent]
    exact .refuses .unsuccessful (by decide) absent
  · obtain ⟨requested, counted⟩ := not_or.mp absent
    rw [if_neg absent]
    dsimp only
    by_cases zero : bytesPerFrame * notificationCount = 0#32
    · rw [if_pos zero]
      exact .faults requested counted zero
    · rw [if_neg zero]
      by_cases empty : requestedSize - requestedSize % (bytesPerFrame * notificationCount) = 0#32
      · rw [if_pos empty]
        exact .fails .unsuccessful (by decide) zero (Or.inl empty)
      · rw [if_neg empty]
        cases allocated : pages.allocated with
        | false =>
            exact .fails .insufficientResources (by decide) zero (Or.inr (Or.inl allocated))
        | true =>
            cases mapped : pages.mapped with
            | false =>
                exact .fails .insufficientResources (by decide) zero (Or.inr (Or.inr mapped))
            | true => exact .grants zero empty allocated mapped

theorem granted_low (low : notificationCount.toNat < 2 ^ 31)
    (some_ : requestedSize - requestedSize % (bytesPerFrame * notificationCount) ≠ 0#32) :
    let size := requestedSize - requestedSize % (bytesPerFrame * notificationCount)
    let periods := requestedSize.toNat / (2 * notificationCount.toNat)
    0 < periods ∧ size.toNat = notificationCount.toNat * (2 * periods) ∧
      (size / notificationCount).toNat = 2 * periods := by
  intro size periods
  have rounded : size.toNat = 2 * notificationCount.toNat * periods := by
    rw [rounded_toNat, divisor_low low]
  have positive : 0 < size.toNat := by
    apply Nat.pos_of_ne_zero
    intro zero
    exact some_ (BitVec.eq_of_toNat_eq zero)
  have counted : 0 < notificationCount.toNat := by
    apply Nat.pos_of_ne_zero
    intro zero
    rw [rounded, zero] at positive
    omega
  refine ⟨?_, ?_, ?_⟩
  · apply Nat.pos_of_ne_zero
    intro zero
    rw [rounded, zero] at positive
    omega
  · rw [rounded]
    ring
  · rw [BitVec.toNat_udiv, rounded, Nat.mul_comm 2, Nat.mul_assoc]
    exact Nat.mul_div_cancel_left _ counted

/-- From 2^31 notifications on a notification is a byte or nothing. -/
theorem granted_high (high : 2 ^ 31 ≤ notificationCount.toNat) (size : BitVec 32) :
    (size / notificationCount).toNat ≤ 1 := by
  have word := size.isLt
  rw [BitVec.toNat_udiv]
  apply Nat.lt_succ_iff.mp
  exact Nat.div_lt_of_lt_mul (by omega)

theorem rounded_eq_zero_iff (divides : bytesPerFrame * notificationCount ≠ 0#32) :
    requestedSize - requestedSize % (bytesPerFrame * notificationCount) = 0#32 ↔
      requestedSize.toNat < (bytesPerFrame * notificationCount).toNat := by
  have positive : 0 < (bytesPerFrame * notificationCount).toNat := by
    apply Nat.pos_of_ne_zero
    intro zero
    exact divides (BitVec.eq_of_toNat_eq zero)
  constructor
  · intro empty
    have rounded := rounded_toNat requestedSize (bytesPerFrame * notificationCount)
    rw [empty] at rounded
    rcases Nat.mul_eq_zero.mp rounded.symm with none | none
    · omega
    · exact (Nat.div_eq_zero_iff.mp none).resolve_left (by omega)
  · intro short
    apply BitVec.eq_of_toNat_eq
    rw [rounded_toNat, Nat.div_eq_of_lt short]
    rfl

theorem zero_toNat {word : BitVec 32} (zero : word.toNat = 0) : word = 0#32 :=
  BitVec.eq_of_toNat_eq zero

theorem allocationFits_of_fails (divides : bytesPerFrame * notificationCount ≠ 0#32)
    (short : requestedSize - requestedSize % (bytesPerFrame * notificationCount) = 0#32 ∨
      pages.allocated = false ∨ pages.mapped = false) :
    AllocationFits notificationCount requestedSize pages := by
  by_cases low : notificationCount.toNat < 2 ^ 31
  · exact Or.inl low
  · have wrapped := divisor_high (not_lt.mp low)
    have above : 2 ^ 31 < notificationCount.toNat := by
      by_contra level
      apply divides
      apply zero_toNat
      omega
    right
    right
    refine ⟨above, short.imp_left fun empty => ?_⟩
    rw [← wrapped]
    exact (rounded_eq_zero_iff divides).mp empty

theorem not_allocationFits_of_high (high : 2 ^ 31 ≤ notificationCount.toNat)
    (requested : requestedSize ≠ 0#32)
    (taken : notificationCount.toNat = 2 ^ 31 ∨
      (2 * (notificationCount.toNat - 2 ^ 31) ≤ requestedSize.toNat ∧
        pages.allocated = true ∧ pages.mapped = true)) :
    ¬ AllocationFits notificationCount requestedSize pages := by
  intro fits
  rcases fits with low | none | ⟨above, short⟩
  · omega
  · exact requested none
  · rcases taken with level | ⟨long, allocated, mapped⟩
    · omega
    · rw [allocated, mapped] at short
      rcases short with short | short | short
      · omega
      · cases short
      · cases short

theorem divisor_zero (counted : notificationCount ≠ 0#32)
    (zero : bytesPerFrame * notificationCount = 0#32) : notificationCount.toNat = 2 ^ 31 := by
  have word := congrArg BitVec.toNat zero
  by_cases low : notificationCount.toNat < 2 ^ 31
  · rw [divisor_low low] at word
    change 2 * notificationCount.toNat = 0 at word
    exact absurd (zero_toNat (show notificationCount.toNat = 0 by omega)) counted
  · rw [divisor_high (not_lt.mp low)] at word
    change 2 * (notificationCount.toNat - 2 ^ 31) = 0 at word
    omega

theorem granted_low_sound (low : notificationCount.toNat < 2 ^ 31)
    (some_ : requestedSize - requestedSize % (bytesPerFrame * notificationCount) ≠ 0#32) :
    let size := requestedSize - requestedSize % (bytesPerFrame * notificationCount)
    0 < size.toNat ∧ size.toNat ≤ requestedSize.toNat ∧
      size.toNat = notificationCount.toNat * (size / notificationCount).toNat ∧
      0 < (size / notificationCount).toNat ∧
      bytesPerFrame.toNat ∣ (size / notificationCount).toNat := by
  intro size
  obtain ⟨positive, whole, notification⟩ := granted_low low some_
  refine ⟨Nat.pos_of_ne_zero fun zero => some_ (zero_toNat zero), ?_, ?_, ?_, ?_⟩
  · rw [rounded_toNat]
    exact Nat.mul_div_le _ _
  · rw [notification]
    exact whole
  · rw [notification]
    omega
  · rw [notification]
    exact Nat.dvd_mul_right 2 _

/-- One of more notifications has not even a whole frame, and nothing excuses it. -/
theorem granted_high_unsound (high : 2 ^ 31 ≤ notificationCount.toNat)
    (divides : bytesPerFrame * notificationCount ≠ 0#32)
    (some_ : requestedSize - requestedSize % (bytesPerFrame * notificationCount) ≠ 0#32)
    (allocated : pages.allocated = true) (mapped : pages.mapped = true) :
    ¬ (0 < ((requestedSize - requestedSize % (bytesPerFrame * notificationCount)) /
          notificationCount).toNat ∧
        bytesPerFrame.toNat ∣ ((requestedSize - requestedSize %
          (bytesPerFrame * notificationCount)) / notificationCount).toNat) ∧
      ¬ AllocationFits notificationCount requestedSize pages := by
  constructor
  · rintro ⟨positive, whole⟩
    have small := granted_high high
      (requestedSize - requestedSize % (bytesPerFrame * notificationCount))
    have two := Nat.le_of_dvd positive whole
    change 2 ≤ (_ / notificationCount).toNat at two
    omega
  · have requested : requestedSize ≠ 0#32 := by
      intro none
      apply some_
      rw [none]
      exact (rounded_eq_zero_iff divides).mpr (Nat.pos_of_ne_zero fun zero =>
        divides (zero_toNat zero))
    refine not_allocationFits_of_high pages high requested (Or.inr ⟨?_, allocated, mapped⟩)
    rw [← divisor_high high]
    exact not_lt.mp fun short => some_ ((rounded_eq_zero_iff divides).mpr short)

theorem allocationSound_iff :
    stream.AllocationSound notificationCount requestedSize pages ↔
      AllocationFits notificationCount requestedSize pages := by
  have outcome := @allocate_outcome stream notificationCount requestedSize pages
  unfold AllocationSound
  generalize stream.allocateBufferWithNotification notificationCount requestedSize pages =
    answer at outcome
  cases outcome with
  | faults requested counted zero =>
      apply iff_of_false
      · intro sound
        obtain ⟨status, after, answered, -⟩ := sound
        cases answered
      · have level := divisor_zero counted zero
        exact not_allocationFits_of_high pages (by omega) requested (Or.inl level)
  | refuses status failed empty =>
      apply iff_of_true
      · exact ⟨status, stream, rfl, Or.inl ⟨failed, rfl⟩⟩
      · rcases empty with none | none
        · exact Or.inr (Or.inl none)
        · left
          rw [none]
          decide
  | fails status failed divides short =>
      apply iff_of_true
      · exact ⟨status, stream, rfl, Or.inl ⟨failed, rfl⟩⟩
      · exact allocationFits_of_fails pages divides short
  | grants divides some_ allocated mapped =>
      by_cases low : notificationCount.toNat < 2 ^ 31
      · apply iff_of_true
        · exact ⟨.success, _, rfl, Or.inr ⟨rfl, granted_low_sound low some_⟩⟩
        · exact Or.inl low
      · obtain ⟨unsound, unfit⟩ := granted_high_unsound pages (not_lt.mp low) divides some_
          allocated mapped
        apply iff_of_false
        · rintro ⟨status, after, answered, ⟨failed, -⟩ | ⟨-, -, -, -, positive, whole⟩⟩
          · cases answered
            exact failed rfl
          · cases answered
            exact unsound ⟨positive, whole⟩
        · exact unfit

end Allocation

/-! ### What every call keeps -/

/-- A property that survives each of the things a call does to a stream. -/
structure Kept (holds : WaveRtStream → Prop) : Prop where
  setState : ∀ stream state, holds stream → holds (stream.setState state).2
  withBuffer : ∀ (stream : WaveRtStream) (notificationCount requestedSize : BitVec 32),
    requestedSize - requestedSize % (bytesPerFrame * notificationCount) ≠ 0#32 →
      holds stream → holds (stream.withBuffer notificationCount
        (requestedSize - requestedSize % (bytesPerFrame * notificationCount)))
  stopTimer : ∀ stream, holds stream → holds stream.stopTimer
  freeBufferInternal : ∀ stream, holds stream → holds stream.freeBufferInternal
  onTimerTick : ∀ stream now, holds stream → holds (stream.onTimerTick now)

theorem Kept.allocate {holds : WaveRtStream → Prop} (kept : Kept holds)
    {stream after : WaveRtStream} {notificationCount requestedSize : BitVec 32}
    {pages : PageReplies} {status : NtStatus} (standing : holds stream)
    (answered : stream.allocateBufferWithNotification notificationCount requestedSize pages =
      some (status, after)) : holds after := by
  have outcome := @allocate_outcome stream notificationCount requestedSize pages
  rw [answered] at outcome
  cases outcome with
  | refuses => exact standing
  | fails => exact standing
  | grants divides some_ allocated mapped =>
      exact kept.withBuffer stream notificationCount requestedSize some_ standing

theorem Kept.step {holds : WaveRtStream → Prop} (kept : Kept holds)
    (machine : Option WaveRtStream) (call : StreamCall)
    (before : ∀ stream, machine = some stream → holds stream) :
    ∀ stream, WaveRtStream.step machine call = some stream → holds stream := by
  intro after stepped
  cases machine with
  | none => cases stepped
  | some stream =>
      have standing := before stream rfl
      cases call with
      | setState state =>
          cases stepped
          exact kept.setState stream state standing
      | freeBufferWithNotification =>
          cases stepped
          exact kept.freeBufferInternal _ (kept.stopTimer stream standing)
      | freeAudioBuffer =>
          cases stepped
          exact kept.freeBufferInternal stream standing
      | onTimerTick now =>
          cases stepped
          exact kept.onTimerTick stream now standing
      | allocateBufferWithNotification notificationCount requestedSize pages =>
          obtain ⟨⟨status, reached⟩, answered, same⟩ := Option.map_eq_some_iff.mp stepped
          rw [← same]
          exact kept.allocate standing answered
      | allocateAudioBuffer requestedSize pages =>
          obtain ⟨⟨status, reached⟩, answered, same⟩ := Option.map_eq_some_iff.mp stepped
          rw [← same]
          exact kept.allocate standing answered

theorem Kept.reached {holds : WaveRtStream → Prop} (kept : Kept holds) {ring : SharedRing}
    (start : holds (init ring)) {calls : List StreamCall} {stream : WaveRtStream}
    (reached : Run.final WaveRtStream.step (some (init ring)) calls = some stream) :
    holds stream := by
  apply Run.invariant_always
    (fun machine : Option WaveRtStream => ∀ stream, machine = some stream → holds stream)
    kept.step (some (init ring)) calls
  · intro first same
    cases same
    exact start
  · exact reached

/-! ### The cursor -/

/-- While there is a buffer, the cursor stands at a notification inside it. -/
def Cursor (stream : WaveRtStream) : Prop :=
  stream.bufferVa = true → stream.bytesPerNotification ≠ 0#32 →
    stream.bytesPerNotification.toNat ∣ stream.bufferBytes.toNat ∧
      stream.bytesPerNotification.toNat ∣ stream.writeOffset.toNat ∧
      stream.writeOffset.toNat < stream.bufferBytes.toNat

variable {stream : WaveRtStream}

theorem Cursor.room (cursor : stream.Cursor) {period : Period}
    (copies : stream.period = some period) :
    period.offset.toNat + period.bytes.toNat ≤ stream.bufferBytes.toNat := by
  unfold WaveRtStream.period at copies
  split at copies
  · cases copies
  · rename_i ready
    obtain ⟨-, mapped, some_⟩ := not_or.mp ready |>.imp_right not_or.mp
    cases copies
    obtain ⟨whole, placed, inside⟩ := cursor (Bool.eq_true_of_not_eq_false mapped) some_
    obtain ⟨periods, whole⟩ := whole
    obtain ⟨place, placed⟩ := placed
    dsimp only
    rw [whole, placed] at inside ⊢
    have earlier : place < periods := Nat.lt_of_mul_lt_mul_left inside
    calc stream.bytesPerNotification.toNat * place + stream.bytesPerNotification.toNat
        = stream.bytesPerNotification.toNat * (place + 1) := by ring
      _ ≤ stream.bytesPerNotification.toNat * periods := Nat.mul_le_mul_left _ earlier

theorem init_cursor (ring : SharedRing) : (init ring).Cursor :=
  fun mapped => Bool.noConfusion mapped

theorem Cursor.freeBufferInternal (cursor : stream.Cursor) : stream.freeBufferInternal.Cursor := by
  unfold WaveRtStream.freeBufferInternal
  split
  · exact fun mapped => Bool.noConfusion mapped
  · exact cursor

theorem Cursor.setState (cursor : stream.Cursor) (state : KsState) :
    (stream.setState state).2.Cursor := by
  cases state with
  | stop =>
      intro mapped some_
      obtain ⟨whole, -, inside⟩ := cursor mapped some_
      exact ⟨whole, Nat.dvd_zero _, Nat.lt_of_le_of_lt (Nat.zero_le _) inside⟩
  | acquire => exact cursor
  | pause => exact cursor
  | run =>
      unfold WaveRtStream.setState WaveRtStream.startTimer
      dsimp only
      split
      · exact cursor
      · split <;> exact cursor

/-- A granted buffer holds whole notifications, also where one is a single byte. -/
theorem withBuffer_cursor (stream : WaveRtStream) {notificationCount requestedSize : BitVec 32}
    (some_ : requestedSize - requestedSize % (bytesPerFrame * notificationCount) ≠ 0#32) :
    (stream.withBuffer notificationCount
      (requestedSize - requestedSize % (bytesPerFrame * notificationCount))).Cursor := by
  intro _mapped notified
  change (_ / notificationCount) ≠ 0#32 at notified
  refine ⟨?_, Nat.dvd_zero _, Nat.pos_of_ne_zero fun zero => some_ (zero_toNat zero)⟩
  change (_ / notificationCount).toNat ∣ _
  by_cases low : notificationCount.toNat < 2 ^ 31
  · obtain ⟨-, size, notification⟩ := granted_low low some_
    rw [notification]
    exact ⟨notificationCount.toNat, size.trans (Nat.mul_comm _ _)⟩
  · have small := granted_high (not_lt.mp low)
      (requestedSize - requestedSize % (bytesPerFrame * notificationCount))
    have one : ((requestedSize - requestedSize % (bytesPerFrame * notificationCount)) /
        notificationCount).toNat = 1 := by
      have positive := Nat.pos_of_ne_zero fun zero => notified (zero_toNat zero)
      omega
    rw [one]
    exact Nat.one_dvd _

theorem Cursor.onTimerTick (cursor : stream.Cursor) (now : BitVec 64) :
    (stream.onTimerTick now).Cursor := by
  unfold WaveRtStream.onTimerTick
  cases copies : stream.period with
  | none => exact cursor
  | some period =>
      have room := cursor.room copies
      have word := stream.bufferBytes.isLt
      unfold WaveRtStream.period at copies
      split at copies
      · cases copies
      · cases copies
        intro mapped some_
        obtain ⟨whole, placed, inside⟩ := cursor mapped some_
        dsimp only at room ⊢
        have moved : (stream.writeOffset + stream.bytesPerNotification).toNat =
            stream.writeOffset.toNat + stream.bytesPerNotification.toNat := by
          rw [BitVec.toNat_add]
          exact Nat.mod_eq_of_lt (Nat.lt_of_le_of_lt room word)
        split
        · exact ⟨whole, Nat.dvd_zero _, Nat.lt_of_le_of_lt (Nat.zero_le _) inside⟩
        · rename_i before
          rw [BitVec.le_def, moved] at before
          rw [moved]
          exact ⟨whole, Nat.dvd_add placed (Nat.dvd_refl _), not_le.mp before⟩

theorem kept_cursor : Kept Cursor :=
  { setState := fun _stream state cursor => cursor.setState state
    withBuffer := fun stream _notificationCount _requestedSize some_ _cursor =>
      withBuffer_cursor stream some_
    stopTimer := fun _stream cursor => cursor
    freeBufferInternal := fun _stream cursor => cursor.freeBufferInternal
    onTimerTick := fun _stream now cursor => cursor.onTimerTick now }

theorem copiesInside_of_cursor (machine : Option WaveRtStream) (calls : List StreamCall)
    (cursor : ∀ stream, machine = some stream → stream.Cursor) :
    Run.Meets step CopiesInside machine calls := by
  have all : Run.Meets step (fun _ _ => True) machine calls :=
    Run.meets_of_forall (fun _ _ => trivial) machine
  refine Run.meets_of_invariant
    (fun machine => ∀ stream, machine = some stream → stream.Cursor) ?_ ?_ calls machine cursor
    all
  · intro machine call standing _any
    cases call with
    | onTimerTick now => exact fun stream same _period copies => (standing stream same).room copies
    | setState state => trivial
    | allocateBufferWithNotification notificationCount requestedSize pages => trivial
    | allocateAudioBuffer requestedSize pages => trivial
    | freeBufferWithNotification => trivial
    | freeAudioBuffer => trivial
  · intro machine call standing _any
    exact kept_cursor.step machine call standing

end WaveRtStream

open WaveRtStream in
/-- In every stream that calls can lead to: the allocation is sound, and every later tick
copies inside the buffer, exactly when the notification count is below 2^31 or the call
fails without dividing by zero. -/
theorem wavert_buffer_sound_iff (ring : SharedRing) (calls : List StreamCall)
    (stream : WaveRtStream) (reached : Run.final step (some (init ring)) calls = some stream)
    (notificationCount requestedSize : BitVec 32) (pages : PageReplies) :
    (stream.AllocationSound notificationCount requestedSize pages ∧
      ∀ later, Run.Meets step CopiesInside (some stream)
        (.allocateBufferWithNotification notificationCount requestedSize pages :: later)) ↔
      AllocationFits notificationCount requestedSize pages := by
  have cursor : stream.Cursor := kept_cursor.reached (init_cursor ring) reached
  rw [allocationSound_iff]
  constructor
  · exact And.left
  · intro fits
    refine ⟨fits, fun later => copiesInside_of_cursor _ _ ?_⟩
    intro other same
    cases same
    exact cursor

open WaveRtStream in
def runningCalls : List StreamCall :=
  [.allocateBufferWithNotification 4#32 3840#32 { allocated := true, mapped := true },
    .setState .run, .onTimerTick 1#64]

open WaveRtStream in
theorem wavert_buffer_sound_iff_running :
    ∃ stream, Run.final step (some (init SharedRing.initialize)) runningCalls = some stream ∧
      ((stream.AllocationSound 2#32 1000#32 { allocated := true, mapped := true } ∧
        ∀ later, Run.Meets step CopiesInside (some stream)
          (.allocateBufferWithNotification 2#32 1000#32 { allocated := true, mapped := true } ::
            later)) ↔
        AllocationFits 2#32 1000#32 { allocated := true, mapped := true }) :=
  ⟨_, rfl, wavert_buffer_sound_iff SharedRing.initialize runningCalls _ rfl _ _ _⟩

open WaveRtStream in
/-- 2^31 notifications: twice the count is 0 in 32 bits, and the size is divided by it. -/
theorem wavert_allocation_divides_by_zero :
    ((init SharedRing.initialize).allocateBufferWithNotification 0x80000000#32 1920#32
        { allocated := true, mapped := true }).isNone = true ∧
      ¬ ∀ (ring : SharedRing) (calls : List StreamCall) (stream : WaveRtStream),
        Run.final step (some (init ring)) calls = some stream →
        ∀ (notificationCount requestedSize : BitVec 32) (pages : PageReplies),
          stream.AllocationSound notificationCount requestedSize pages ∧
            ∀ later, Run.Meets step CopiesInside (some stream)
              (.allocateBufferWithNotification notificationCount requestedSize pages ::
                later) := by
  constructor
  · rfl
  · intro always
    obtain ⟨⟨status, after, answered, -⟩, -⟩ := always SharedRing.initialize [] _ rfl
      0x80000000#32 1920#32 { allocated := true, mapped := true }
    cases answered

end SmartMic.Driver
