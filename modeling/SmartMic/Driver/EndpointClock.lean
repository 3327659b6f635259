import SmartMic.Driver.WaveRtStream

set_option autoImplicit false

/-! The rate of the capture endpoint. The timer period is a constant and the frames of a
tick come from the buffer that the audio engine asked for; the rate is right where the
two agree. -/

namespace SmartMic.Driver

namespace WaveRtStream

/-- The two ways to ask for a buffer. -/
inductive BufferRequest where
  | withNotification (notificationCount requestedSize : BitVec 32)
  | audioBuffer (requestedSize : BitVec 32)

def BufferRequest.notificationCount : BufferRequest → BitVec 32
  | .withNotification notificationCount _ => notificationCount
  | .audioBuffer _ => 1#32

def BufferRequest.requestedSize : BufferRequest → BitVec 32
  | .withNotification _ requestedSize => requestedSize
  | .audioBuffer requestedSize => requestedSize

def allocate (stream : WaveRtStream) (request : BufferRequest) (pages : PageReplies) :
    Option (NtStatus × WaveRtStream) :=
  match request with
  | .withNotification notificationCount requestedSize =>
      stream.allocateBufferWithNotification notificationCount requestedSize pages
  | .audioBuffer requestedSize => stream.allocateAudioBuffer requestedSize pages

/-- The frames that the next tick asks the ring for. -/
def tickFrames (stream : WaveRtStream) : Nat :=
  match stream.period with
  | none => 0
  | some period => period.frames.toNat

/-- The frames that the ticks at these times ask the ring for. -/
def drained : WaveRtStream → List (BitVec 64) → Nat
  | _, [] => 0
  | stream, now :: rest => stream.tickFrames + drained (stream.onTimerTick now) rest

/-- The timer ticks every 10 ms; after these ticks 480 frames for each have come out of
the ring, and the position tells as many. -/
structure OnRate (stream : WaveRtStream) (nows : List (BitVec 64)) : Prop where
  timer : stream.timerRunning = true ∧ stream.timerPeriod = notifyMs
  drained : stream.drained nows = nows.length * notifyFrames
  reported : (Run.final onTimerTick stream nows).position.toNat =
    nows.length * notifyFrames * bytesPerFrame.toNat

/-- A notification of 480 frames fits the request, and of 481 does not; the position stays
below the wrap of its word. -/
def AsksForNotifyPeriods (request : BufferRequest) (ticks : Nat) : Prop :=
  960 * request.notificationCount.toNat ≤ request.requestedSize.toNat ∧
    request.requestedSize.toNat < 962 * request.notificationCount.toNat ∧
    960 * ticks < 2 ^ 64

variable {stream : WaveRtStream}

/-! ### The timer -/

/-- A running timer was started with the constant period. -/
def Timed (stream : WaveRtStream) : Prop :=
  stream.timerRunning = true → stream.timerPeriod = notifyMs

theorem Timed.freeBufferInternal (timed : stream.Timed) : stream.freeBufferInternal.Timed := by
  unfold WaveRtStream.freeBufferInternal
  split <;> exact timed

theorem Timed.run (timed : stream.Timed) : (stream.setState .run).2.Timed := by
  unfold setState startTimer
  dsimp only
  split
  · exact timed
  · split
    · exact timed
    · exact fun _running => rfl

theorem Timed.onTimerTick (timed : stream.Timed) (now : BitVec 64) :
    (stream.onTimerTick now).Timed := by
  unfold WaveRtStream.onTimerTick
  split <;> exact timed

theorem Timed.setState (timed : stream.Timed) (state : KsState) :
    (stream.setState state).2.Timed := by
  cases state with
  | stop => exact fun impossible => Bool.noConfusion impossible
  | acquire => exact fun impossible => Bool.noConfusion impossible
  | pause => exact fun impossible => Bool.noConfusion impossible
  | run => exact timed.run

theorem kept_timed : Kept Timed :=
  { setState := fun _stream state timed => timed.setState state
    withBuffer := fun _stream _notificationCount _requestedSize _some timed => timed
    stopTimer := fun _stream _timed impossible => Bool.noConfusion impossible
    freeBufferInternal := fun _stream timed => timed.freeBufferInternal
    onTimerTick := fun _stream now timed => timed.onTimerTick now }

/-! ### Ticks -/

structure Ticking (stream : WaveRtStream) : Prop where
  running : stream.timerRunning = true
  mapped : stream.bufferVa = true

theorem Ticking.tickFrames (ticking : stream.Ticking) :
    stream.tickFrames = stream.bytesPerNotification.toNat / 2 := by
  unfold WaveRtStream.tickFrames period
  rw [ticking.running, ticking.mapped]
  by_cases none : stream.bytesPerNotification = 0#32
  · rw [if_pos (Or.inr (Or.inr none)), none]
    rfl
  · rw [if_neg (by simp [none])]
    exact BitVec.toNat_udiv

theorem Ticking.onTimerTick (ticking : stream.Ticking) (now : BitVec 64) :
    (stream.onTimerTick now).Ticking ∧
      (stream.onTimerTick now).bytesPerNotification = stream.bytesPerNotification ∧
      (stream.onTimerTick now).framesWritten =
        stream.framesWritten + BitVec.ofNat 64 stream.tickFrames := by
  unfold WaveRtStream.onTimerTick WaveRtStream.tickFrames
  cases stream.period with
  | none => exact ⟨ticking, rfl, (BitVec.add_zero _).symm⟩
  | some period =>
      refine ⟨{ running := ticking.running, mapped := ticking.mapped }, rfl, ?_⟩
      dsimp only
      rw [BitVec.ofNat_toNat]

theorem Ticking.run (nows : List (BitVec 64)) :
    ∀ stream : WaveRtStream, stream.Ticking →
      stream.drained nows = nows.length * (stream.bytesPerNotification.toNat / 2) ∧
      (Run.final WaveRtStream.onTimerTick stream nows).framesWritten = stream.framesWritten +
        BitVec.ofNat 64 (nows.length * (stream.bytesPerNotification.toNat / 2)) := by
  induction nows with
  | nil =>
      intro stream _ticking
      simp only [List.length_nil, Nat.zero_mul]
      exact ⟨rfl, (BitVec.add_zero _).symm⟩
  | cons now rest ih =>
      intro stream ticking
      obtain ⟨later, same, written⟩ := ticking.onTimerTick now
      obtain ⟨drains, reports⟩ := ih (stream.onTimerTick now) later
      rw [same] at drains reports
      have split : (now :: rest).length * (stream.bytesPerNotification.toNat / 2) =
          stream.bytesPerNotification.toNat / 2 +
            rest.length * (stream.bytesPerNotification.toNat / 2) := by
        rw [List.length_cons]
        ring
      rw [split]
      constructor
      · change stream.tickFrames + (stream.onTimerTick now).drained rest = _
        rw [ticking.tickFrames, drains]
      · rw [Run.final_cons, reports, written, ticking.tickFrames, BitVec.add_assoc,
          ← BitVec.ofNat_add]

/-! ### A granted buffer -/

theorem allocate_granted {request : BufferRequest} {pages : PageReplies} {after : WaveRtStream}
    (granted : stream.allocate request pages = some (.success, after)) :
    let divisor := bytesPerFrame * request.notificationCount
    let size := request.requestedSize - request.requestedSize % divisor
    size ≠ 0#32 ∧ after = stream.withBuffer request.notificationCount size := by
  intro divisor size
  have same : stream.allocate request pages = stream.allocateBufferWithNotification
      request.notificationCount request.requestedSize pages := by
    cases request with
    | withNotification notificationCount requestedSize => rfl
    | audioBuffer requestedSize => rfl
  rw [same] at granted
  have outcome := @allocate_outcome stream request.notificationCount request.requestedSize pages
  rw [granted] at outcome
  cases outcome with
  | refuses status failed empty => exact absurd rfl failed
  | fails status failed divides short => exact absurd rfl failed
  | grants divides some_ allocated mapped => exact ⟨some_, rfl⟩

/-- The frames of a notification are the 480 of the timer period for these requests only. -/
theorem notification_frames_iff {notificationCount requestedSize : BitVec 32}
    (some_ : requestedSize - requestedSize % (bytesPerFrame * notificationCount) ≠ 0#32) :
    ((requestedSize - requestedSize % (bytesPerFrame * notificationCount)) /
        notificationCount).toNat / 2 = notifyFrames ↔
      960 * notificationCount.toNat ≤ requestedSize.toNat ∧
        requestedSize.toNat < 962 * notificationCount.toNat := by
  have word := requestedSize.isLt
  by_cases low : notificationCount.toNat < 2 ^ 31
  · obtain ⟨positive, -, notification⟩ := granted_low low some_
    have counted : 0 < 2 * notificationCount.toNat := by
      apply Nat.pos_of_ne_zero
      intro zero
      rw [zero, Nat.div_zero] at positive
      exact absurd positive (Nat.lt_irrefl 0)
    rw [notification, Nat.mul_div_cancel_left _ (by decide : 0 < 2)]
    unfold notifyFrames
    rw [Nat.div_eq_iff counted]
    omega
  · have small := granted_high (not_lt.mp low)
      (requestedSize - requestedSize % (bytesPerFrame * notificationCount))
    unfold notifyFrames
    omega

theorem withBuffer_run (stream : WaveRtStream) (notificationCount size : BitVec 32) :
    let running := ((stream.withBuffer notificationCount size).setState .run).2
    running.Ticking ∧ running.bytesPerNotification = size / notificationCount ∧
      running.framesWritten = 0#64 := by
  intro running
  have started : running = { WaveRtStream.startTimer
      { stream.withBuffer notificationCount size with
        ring := (stream.withBuffer notificationCount size).ring.setStreamOpen true } with
      state := .run } := rfl
  rw [started]
  unfold startTimer
  split
  · rename_i ticking
    exact ⟨{ running := ticking, mapped := rfl }, rfl, rfl⟩
  · exact ⟨{ running := rfl, mapped := rfl }, rfl, rfl⟩

end WaveRtStream

open WaveRtStream in
/-- In every stream that calls can lead to, and for every buffer that is granted: after any
ticks in the running state the endpoint is on its rate exactly when there was none, or the
request asks for notifications of 480 frames. -/
theorem endpoint_clock_iff (ring : SharedRing) (calls : List StreamCall) (stream : WaveRtStream)
    (reached : Run.final step (some (init ring)) calls = some stream) (request : BufferRequest)
    (pages : PageReplies) (after : WaveRtStream)
    (granted : stream.allocate request pages = some (.success, after))
    (nows : List (BitVec 64)) :
    (after.setState .run).2.OnRate nows ↔ nows = [] ∨ AsksForNotifyPeriods request nows.length := by
  obtain ⟨some_, buffer⟩ := allocate_granted granted
  have frames := notification_frames_iff some_
  obtain ⟨ticking, notification, fresh⟩ := withBuffer_run stream request.notificationCount
    (request.requestedSize - request.requestedSize % (bytesPerFrame * request.notificationCount))
  have timed : (after.setState .run).2.Timed := by
    have standing : stream.Timed :=
      kept_timed.reached (fun impossible => Bool.noConfusion impossible) reached
    rw [buffer]
    exact Timed.run (show (stream.withBuffer _ _).Timed from standing)
  rw [← buffer] at ticking notification fresh
  obtain ⟨drains, writes⟩ := Ticking.run nows _ ticking
  rw [notification] at drains writes
  rw [fresh, BitVec.zero_add] at writes
  have reports : (Run.final onTimerTick (after.setState .run).2 nows).position.toNat =
      nows.length * (((request.requestedSize - request.requestedSize %
        (bytesPerFrame * request.notificationCount)) / request.notificationCount).toNat / 2) *
          2 % 2 ^ 64 := by
    unfold position
    rw [writes, BitVec.toNat_mul, BitVec.toNat_ofNat]
    change _ % 2 ^ 64 * 2 % 2 ^ 64 = _
    omega
  constructor
  · intro rate
    by_cases none : nows = []
    · exact Or.inl none
    · right
      have some' : 0 < nows.length := List.length_pos_of_ne_nil none
      have drained := rate.drained
      rw [drains] at drained
      have level := Nat.eq_of_mul_eq_mul_left some' drained
      obtain ⟨least, most⟩ := frames.mp level
      refine ⟨least, most, ?_⟩
      have reported := rate.reported
      have word := (Run.final onTimerTick (after.setState .run).2 nows).position.isLt
      rw [reported] at word
      change nows.length * 480 * 2 < 2 ^ 64 at word
      omega
  · intro asks
    have level : nows.length * (((request.requestedSize - request.requestedSize %
        (bytesPerFrame * request.notificationCount)) / request.notificationCount).toNat / 2) =
          nows.length * notifyFrames ∧ nows.length * notifyFrames * 2 < 2 ^ 64 := by
      rcases asks with none | ⟨least, most, below⟩
      · rw [none]
        exact ⟨by simp, by decide⟩
      · rw [frames.mpr ⟨least, most⟩]
        refine ⟨rfl, ?_⟩
        change nows.length * 480 * 2 < 2 ^ 64
        omega
    exact
      { timer := ⟨ticking.running, timed ticking.running⟩
        drained := drains.trans level.1
        reported := by
          rw [reports, level.1]
          exact Nat.mod_eq_of_lt level.2 }

open WaveRtStream in
/-- The buffer that the driver itself has in mind: four notifications of 10 ms. -/
theorem endpoint_clock_iff_periods :
    ((WaveRtStream.withBuffer (init SharedRing.initialize) 4#32 3840#32).setState
        .run).2.OnRate [1#64, 2#64, 3#64] ↔
      [1#64, 2#64, 3#64] = [] ∨
        AsksForNotifyPeriods (.withNotification 4#32 3840#32) [1#64, 2#64, 3#64].length :=
  endpoint_clock_iff SharedRing.initialize [] _ rfl (.withNotification 4#32 3840#32)
    { allocated := true, mapped := true } _ rfl _

open WaveRtStream in
/-- Two notifications in 3840 bytes: a tick of 10 ms drains 960 frames. -/
theorem endpoint_clock_double :
    ((WaveRtStream.withBuffer (init SharedRing.initialize) 2#32 3840#32).setState
        .run).2.drained [1#64] = 960 ∧
      ¬ ∀ (ring : SharedRing) (calls : List StreamCall) (stream : WaveRtStream),
        Run.final step (some (init ring)) calls = some stream →
        ∀ (request : BufferRequest) (pages : PageReplies) (after : WaveRtStream),
          stream.allocate request pages = some (.success, after) →
          ∀ nows : List (BitVec 64), (after.setState .run).2.OnRate nows := by
  constructor
  · decide
  · intro always
    have rate := always SharedRing.initialize [] _ rfl (.withNotification 2#32 3840#32)
      { allocated := true, mapped := true } _ rfl [1#64]
    have drained := rate.drained
    revert drained
    decide

end SmartMic.Driver
