import SmartMic.Driver.WaveRtStream

set_option autoImplicit false

/-! What the audio engine finds in the buffer of the stream. The buffer is memory behind the
cursor of the stream; every tick of the timer drains one notification period of the ring into
it, and it is cleared when it is made and when the stream stops. An engine that looks behind
the position finds the latest of what was drained. -/

namespace SmartMic.Driver

/-! ### Frames as bytes -/

/-- The bytes of a frame, low byte first. -/
def frameBytes (frame : PcmFrame) : List (BitVec 8) :=
  [frame.setWidth 8, (frame >>> 8).setWidth 8]

def pcmBytes (frames : List PcmFrame) : List (BitVec 8) := frames.flatMap frameBytes

@[simp]
theorem pcmBytes_nil : pcmBytes [] = [] := rfl

@[simp]
theorem pcmBytes_append (first second : List PcmFrame) :
    pcmBytes (first ++ second) = pcmBytes first ++ pcmBytes second := List.flatMap_append

@[simp]
theorem pcmBytes_length (frames : List PcmFrame) :
    (pcmBytes frames).length = 2 * frames.length := by
  induction frames with
  | nil => rfl
  | cons frame rest ih =>
      change (frameBytes frame ++ pcmBytes rest).length = _
      rw [List.length_append, ih, List.length_cons]
      change 2 + _ = _
      omega

theorem SharedRing.read_length (ring : SharedRing) {frames : BitVec 32} (now : BitVec 64)
    (fits : 2 * frames.toNat < 2 ^ 32) :
    (ring.read frames now).destination.length = frames.toNat := by
  have real := BitVec.le_def.mp (ring.read_realFrames_le frames now)
  rw [ring.read_content frames now fits, List.length_append, List.length_map, List.length_range]
  unfold silence
  rw [List.length_replicate]
  omega

/-! ### The buffer -/

/-- `RtlZeroMemory` of so many bytes. -/
def zeroMemory (memory : Nat → BitVec 8) (bytes : BitVec 32) : Nat → BitVec 8 :=
  fun position => if position < bytes.toNat then 0#8 else memory position

/-- A stream with the memory at `m_bufferVa`. `heard` is what the ticks have drained since
the cursor was last put to the start of a cleared buffer. -/
structure CaptureBuffer where
  stream : WaveRtStream
  memory : Nat → BitVec 8
  heard : List PcmFrame

namespace CaptureBuffer

open WaveRtStream (AllocationFits StreamCall)

def init (ring : SharedRing) (memory : Nat → BitVec 8) : CaptureBuffer :=
  { stream := .init ring
    memory := memory
    heard := [] }

def setState (buffer : CaptureBuffer) (state : KsState) : CaptureBuffer :=
  { stream := (buffer.stream.setState state).2
    memory :=
      if state = .stop ∧ buffer.stream.bufferVa = true then
        zeroMemory buffer.memory buffer.stream.bufferBytes
      else buffer.memory
    heard := if state = .stop then [] else buffer.heard }

/-- A granted allocation hands out cleared pages. -/
def allocated (buffer : CaptureBuffer) (answer : NtStatus × WaveRtStream) : CaptureBuffer :=
  if answer.1 = .success then
    { stream := answer.2
      memory := zeroMemory buffer.memory answer.2.bufferBytes
      heard := [] }
  else { buffer with stream := answer.2 }

def onTimerTick (buffer : CaptureBuffer) (now : BitVec 64) : CaptureBuffer :=
  match buffer.stream.period with
  | none => buffer
  | some period =>
      let drain := buffer.stream.ring.read period.frames now
      { stream := buffer.stream.onTimerTick now
        memory := Circular.store buffer.memory period.offset.toNat (pcmBytes drain.destination)
        heard := buffer.heard ++ drain.destination }

def step (machine : Option CaptureBuffer) (call : StreamCall) : Option CaptureBuffer :=
  machine.bind fun buffer =>
    match call with
    | .setState state => some (buffer.setState state)
    | .allocateBufferWithNotification notificationCount requestedSize pages =>
        (buffer.stream.allocateBufferWithNotification notificationCount requestedSize pages).map
          buffer.allocated
    | .allocateAudioBuffer requestedSize pages =>
        (buffer.stream.allocateAudioBuffer requestedSize pages).map buffer.allocated
    | .freeBufferWithNotification =>
        some { buffer with stream := buffer.stream.freeBufferWithNotification }
    | .freeAudioBuffer => some { buffer with stream := buffer.stream.freeAudioBuffer }
    | .onTimerTick now => some (buffer.onTimerTick now)

/-- A buffer with notifications is asked for within the 32 bits. -/
def Fits : StreamCall → Prop
  | .allocateBufferWithNotification notificationCount requestedSize pages =>
      AllocationFits notificationCount requestedSize pages
  | _ => True

/-! ### What the memory holds -/

/-- The buffer is cut into whole periods of whole frames, the cursor stands behind what was
heard, and the latest of it stands in front of the cursor. -/
structure Filled (buffer : CaptureBuffer) : Prop where
  some_ : 0 < buffer.stream.bytesPerNotification.toNat
  even : 2 ∣ buffer.stream.bytesPerNotification.toNat
  periods : buffer.stream.bytesPerNotification.toNat ∣ buffer.stream.bufferBytes.toNat
  room : 0 < buffer.stream.bufferBytes.toNat
  whole : buffer.stream.bytesPerNotification.toNat ∣ 2 * buffer.heard.length
  offset : buffer.stream.writeOffset.toNat =
    2 * buffer.heard.length % buffer.stream.bufferBytes.toNat
  recent : Circular.Recent buffer.stream.bufferBytes.toNat buffer.memory
    (List.replicate buffer.stream.bufferBytes.toNat 0#8 ++ pcmBytes buffer.heard)

structure Faithful (buffer : CaptureBuffer) : Prop where
  written : buffer.stream.framesWritten = BitVec.ofNat 64 buffer.heard.length
  filled : buffer.stream.bufferVa = true → buffer.Filled

variable {buffer : CaptureBuffer}

theorem faithful_init (ring : SharedRing) (memory : Nat → BitVec 8) :
    (init ring memory).Faithful :=
  { written := rfl
    filled := fun mapped => Bool.noConfusion mapped }

theorem filled_cleared {stream : WaveRtStream} (memory : Nat → BitVec 8)
    (some_ : 0 < stream.bytesPerNotification.toNat)
    (even : 2 ∣ stream.bytesPerNotification.toNat)
    (periods : stream.bytesPerNotification.toNat ∣ stream.bufferBytes.toNat)
    (room : 0 < stream.bufferBytes.toNat) (start : stream.writeOffset = 0#32) :
    Filled
      { stream := stream, memory := zeroMemory memory stream.bufferBytes, heard := [] } :=
  { some_ := some_
    even := even
    periods := periods
    room := room
    whole := Nat.dvd_zero _
    offset := by
      change stream.writeOffset.toNat = 0 % _
      rw [start, Nat.zero_mod]
      rfl
    recent := by
      rw [pcmBytes_nil, List.append_nil]
      exact Circular.recent_replicate fun position inside => if_pos inside }

structure SameBuffer (before after : WaveRtStream) : Prop where
  bufferBytes : after.bufferBytes = before.bufferBytes
  bytesPerNotification : after.bytesPerNotification = before.bytesPerNotification
  writeOffset : after.writeOffset = before.writeOffset

theorem Faithful.keep (faithful : buffer.Faithful) {stream : WaveRtStream}
    (written : stream.framesWritten = buffer.stream.framesWritten)
    (kept : stream.bufferVa = true →
      buffer.stream.bufferVa = true ∧ SameBuffer buffer.stream stream) :
    Faithful { buffer with stream := stream } := by
  refine { written := written.trans faithful.written, filled := fun mapped => ?_ }
  obtain ⟨before, same⟩ := kept mapped
  have filled := faithful.filled before
  constructor
  · rw [same.bytesPerNotification]
    exact filled.some_
  · rw [same.bytesPerNotification]
    exact filled.even
  · rw [same.bytesPerNotification, same.bufferBytes]
    exact filled.periods
  · rw [same.bufferBytes]
    exact filled.room
  · rw [same.bytesPerNotification]
    exact filled.whole
  · rw [same.writeOffset, same.bufferBytes]
    exact filled.offset
  · rw [same.bufferBytes]
    exact filled.recent

theorem Faithful.setState (faithful : buffer.Faithful) (state : KsState) :
    (buffer.setState state).Faithful := by
  cases state with
  | stop =>
      refine { written := rfl, filled := fun mapped => ?_ }
      have filled := faithful.filled mapped
      unfold CaptureBuffer.setState
      rw [if_pos ⟨rfl, mapped⟩, if_pos rfl]
      exact filled_cleared _ filled.some_ filled.even filled.periods filled.room rfl
  | acquire => exact faithful.keep rfl fun mapped => ⟨mapped, rfl, rfl, rfl⟩
  | pause => exact faithful.keep rfl fun mapped => ⟨mapped, rfl, rfl, rfl⟩
  | run =>
      unfold CaptureBuffer.setState WaveRtStream.setState WaveRtStream.startTimer
      dsimp only
      split
      · exact faithful.keep rfl fun mapped => ⟨mapped, rfl, rfl, rfl⟩
      · split
        · exact faithful.keep rfl fun mapped => ⟨mapped, rfl, rfl, rfl⟩
        · exact faithful.keep rfl fun mapped => ⟨mapped, rfl, rfl, rfl⟩

theorem Faithful.freeBufferInternal (faithful : buffer.Faithful) :
    Faithful { buffer with stream := buffer.stream.freeBufferInternal } := by
  unfold WaveRtStream.freeBufferInternal
  split
  · exact faithful.keep rfl fun mapped => Bool.noConfusion mapped
  · exact faithful

theorem Faithful.allocate (faithful : buffer.Faithful) {notificationCount requestedSize : BitVec 32}
    {pages : WaveRtStream.PageReplies}
    (fits : AllocationFits notificationCount requestedSize pages) :
    ∃ answer, buffer.stream.allocateBufferWithNotification notificationCount requestedSize pages =
      some answer ∧ (buffer.allocated answer).Faithful := by
  obtain ⟨status, after, answered, sound⟩ :=
    (WaveRtStream.allocationSound_iff buffer.stream pages).mpr fits
  refine ⟨_, answered, ?_⟩
  unfold CaptureBuffer.allocated
  rcases sound with ⟨failed, same⟩ | ⟨granted, room, -, whole, some_, even⟩
  · rw [if_neg failed, same]
    exact faithful
  · rw [if_pos granted]
    have outcome :=
      @WaveRtStream.allocate_outcome buffer.stream notificationCount requestedSize pages
    rw [answered, granted] at outcome
    cases outcome with
    | refuses _status failed => exact absurd rfl failed
    | fails _status failed => exact absurd rfl failed
    | grants divides large allocated mapped =>
        exact
          { written := rfl
            filled := fun _mapped => filled_cleared _ some_ even
              ⟨notificationCount.toNat, whole.trans (Nat.mul_comm _ _)⟩ room rfl }

theorem Filled.copies (filled : buffer.Filled) {period : WaveRtStream.Period}
    (copies : buffer.stream.period = some period) :
    period.offset = buffer.stream.writeOffset ∧
      period.bytes = buffer.stream.bytesPerNotification ∧
      2 * period.frames.toNat = period.bytes.toNat ∧
      period.offset.toNat + period.bytes.toNat ≤ buffer.stream.bufferBytes.toNat := by
  unfold WaveRtStream.period at copies
  split at copies
  · cases copies
  · cases copies
    refine ⟨rfl, rfl, ?_, ?_⟩
    · dsimp only
      rw [BitVec.toNat_udiv]
      exact Nat.mul_div_cancel' filled.even
    · dsimp only
      rw [filled.offset]
      obtain ⟨periods, cut⟩ := filled.periods
      obtain ⟨heard, whole⟩ := filled.whole
      have positive : 0 < periods := by
        apply Nat.pos_of_ne_zero
        intro none
        have room := filled.room
        rw [cut, none] at room
        exact Nat.lt_irrefl _ room
      rw [cut, whole, Nat.mul_mod_mul_left]
      calc
        _ = buffer.stream.bytesPerNotification.toNat * (heard % periods + 1) := by ring
        _ ≤ _ := Nat.mul_le_mul_left _ (Nat.mod_lt heard positive)

theorem Faithful.onTimerTick (faithful : buffer.Faithful) (now : BitVec 64) :
    (buffer.onTimerTick now).Faithful := by
  unfold CaptureBuffer.onTimerTick
  cases copies : buffer.stream.period with
  | none => exact faithful
  | some period =>
      have mapped : buffer.stream.bufferVa = true := by
        have ready := copies
        unfold WaveRtStream.period at ready
        split at ready
        · cases ready
        · rename_i runs
          exact Bool.eq_true_of_not_eq_false (not_or.mp (not_or.mp runs).2).1
      have filled := faithful.filled mapped
      obtain ⟨offset, bytes, frames, room⟩ := filled.copies copies
      have word := period.bytes.isLt
      have bufferWord := buffer.stream.bufferBytes.isLt
      have drained := @SharedRing.read_length buffer.stream.ring period.frames now (by omega)
      have piece : (pcmBytes (buffer.stream.ring.read period.frames now).destination).length =
          period.bytes.toNat := by
        rw [pcmBytes_length, drained, frames]
      have stored : (List.replicate buffer.stream.bufferBytes.toNat 0#8 ++
          pcmBytes buffer.heard).length % buffer.stream.bufferBytes.toNat =
            period.offset.toNat := by
        rw [List.length_append, List.length_replicate, pcmBytes_length, Nat.add_mod_left, offset,
          filled.offset]
      have longer : (buffer.heard ++
          (buffer.stream.ring.read period.frames now).destination).length =
            buffer.heard.length + period.frames.toNat := by
        rw [List.length_append, drained]
      have moved : (period.offset + period.bytes).toNat =
          period.offset.toNat + period.bytes.toNat := by
        rw [BitVec.toNat_add]
        exact Nat.mod_eq_of_lt (Nat.lt_of_le_of_lt room bufferWord)
      have twice : 2 * (buffer.heard.length + period.frames.toNat) =
          2 * buffer.heard.length + period.bytes.toNat := by omega
      dsimp only
      unfold WaveRtStream.onTimerTick
      rw [copies]
      dsimp only
      constructor
      · dsimp only
        rw [faithful.written, longer, BitVec.ofNat_add]
        congr 1
        apply BitVec.eq_of_toNat_eq
        rw [BitVec.toNat_setWidth, BitVec.toNat_ofNat]
      · intro _mapped
        constructor
        · exact filled.some_
        · exact filled.even
        · exact filled.periods
        · exact filled.room
        · dsimp only
          rw [longer, twice, bytes]
          exact Nat.dvd_add filled.whole (Nat.dvd_refl _)
        · dsimp only
          rw [longer, twice, ← offset, Nat.add_mod, ← filled.offset, ← offset, Nat.add_mod_mod]
          split
          · rename_i reached
            rw [BitVec.le_def, moved] at reached
            have end_ : period.offset.toNat + period.bytes.toNat =
                buffer.stream.bufferBytes.toNat := Nat.le_antisymm room reached
            rw [end_, Nat.mod_self]
            rfl
          · rename_i before
            rw [BitVec.le_def, moved] at before
            rw [moved, Nat.mod_eq_of_lt (not_le.mp before)]
        · dsimp only
          rw [pcmBytes_append, ← List.append_assoc, ← stored]
          apply filled.recent.store
          rw [stored, piece]
          exact room

theorem step_stream (buffer : CaptureBuffer) (call : StreamCall) :
    (step (some buffer) call).map CaptureBuffer.stream =
      WaveRtStream.step (some buffer.stream) call := by
  have kept : ∀ answer, (buffer.allocated answer).stream = answer.2 := by
    intro answer
    unfold CaptureBuffer.allocated
    split <;> rfl
  cases call with
  | setState state => rfl
  | freeBufferWithNotification => rfl
  | freeAudioBuffer => rfl
  | onTimerTick now =>
      change some (buffer.onTimerTick now).stream = some (buffer.stream.onTimerTick now)
      unfold CaptureBuffer.onTimerTick
      cases copies : buffer.stream.period with
      | none =>
          unfold WaveRtStream.onTimerTick
          rw [copies]
      | some period => rfl
  | allocateBufferWithNotification notificationCount requestedSize pages =>
      change Option.map _ (Option.map _ _) = Option.map Prod.snd _
      rw [Option.map_map]
      exact congrArg (fun f => Option.map f _) (funext kept)
  | allocateAudioBuffer requestedSize pages =>
      change Option.map _ (Option.map _ _) = Option.map Prod.snd _
      rw [Option.map_map]
      exact congrArg (fun f => Option.map f _) (funext kept)

theorem Faithful.step (faithful : buffer.Faithful) {call : StreamCall} (fits : Fits call) :
    ∃ next, CaptureBuffer.step (some buffer) call = some next ∧ next.Faithful := by
  cases call with
  | setState state => exact ⟨_, rfl, faithful.setState state⟩
  | freeBufferWithNotification =>
      have stopped : Faithful { buffer with stream := buffer.stream.stopTimer } :=
        faithful.keep rfl fun mapped => ⟨mapped, rfl, rfl, rfl⟩
      exact ⟨_, rfl, stopped.freeBufferInternal⟩
  | freeAudioBuffer => exact ⟨_, rfl, faithful.freeBufferInternal⟩
  | onTimerTick now => exact ⟨_, rfl, faithful.onTimerTick now⟩
  | allocateBufferWithNotification notificationCount requestedSize pages =>
      obtain ⟨answer, answered, next⟩ := faithful.allocate fits
      refine ⟨_, ?_, next⟩
      change Option.map _ _ = _
      rw [answered]
      rfl
  | allocateAudioBuffer requestedSize pages =>
      obtain ⟨answer, answered, next⟩ := faithful.allocate
        (show AllocationFits 1#32 requestedSize pages from .inl (by decide))
      refine ⟨_, ?_, next⟩
      change Option.map _ (buffer.stream.allocateBufferWithNotification _ _ _) = _
      rw [answered]
      rfl

theorem Faithful.run (calls : List StreamCall) (fits : ∀ call ∈ calls, Fits call) :
    ∀ buffer : CaptureBuffer, buffer.Faithful →
      ∃ last, Run.final CaptureBuffer.step (some buffer) calls = some last ∧ last.Faithful ∧
        Run.final WaveRtStream.step (some buffer.stream) calls = some last.stream := by
  induction calls with
  | nil => exact fun buffer faithful => ⟨buffer, rfl, faithful, rfl⟩
  | cons call rest ih =>
      intro buffer faithful
      obtain ⟨first, later⟩ := List.forall_mem_cons.mp fits
      obtain ⟨next, stepped, faithful⟩ := faithful.step first
      obtain ⟨last, reached, kept, stream⟩ := ih later next faithful
      have alone := step_stream buffer call
      rw [stepped] at alone
      refine ⟨last, ?_, kept, ?_⟩
      · rw [Run.final_cons, stepped, reached]
      · rw [Run.final_cons, ← alone]
        exact stream

end CaptureBuffer

/-! ### The service in between -/

/-- The service and the driver, with the ring between them in the stream of the driver. -/
structure DriverPath where
  link : SmartMicDriverLink
  buffer : CaptureBuffer

inductive PathCall where
  | start (replies : DeviceReplies) (now : BitVec 64)
  | stop
  | write (input : List Binary32) (now : BitVec 64)
  | stream (call : WaveRtStream.StreamCall)

namespace DriverPath

def init (ring : SharedRing) (memory : Nat → BitVec 8) : DriverPath :=
  { link := .closed
    buffer := .init ring memory }

def ring (path : DriverPath) : SharedRing := path.buffer.stream.ring

def withRing (path : DriverPath) (ring : SharedRing) : DriverPath :=
  { path with buffer := { path.buffer with stream := { path.buffer.stream with ring := ring } } }

def step (machine : Option DriverPath) (call : PathCall) : Option DriverPath :=
  machine.bind fun path =>
    match call with
    | .start replies now =>
        let (_, link, ring) := path.link.start path.ring replies now
        some { path.withRing ring with link := link }
    | .stop => some { path with link := path.link.stop }
    | .write input now => some (path.withRing (path.link.write path.ring input now).2)
    | .stream call =>
        (CaptureBuffer.step (some path.buffer) call).map fun buffer =>
          { path with buffer := buffer }

end DriverPath

def PathCall.Fits : PathCall → Prop
  | .stream call => CaptureBuffer.Fits call
  | _ => True

namespace DriverPath

variable {path : DriverPath}

/-- The link changes the ring alone, and the buffer does not depend on the ring. -/
theorem faithful_withRing (faithful : path.buffer.Faithful) (ring : SharedRing) :
    (path.withRing ring).buffer.Faithful :=
  faithful.keep rfl fun mapped => ⟨mapped, rfl, rfl, rfl⟩

theorem faithful_step (faithful : path.buffer.Faithful) {call : PathCall} (fits : call.Fits) :
    ∃ next, step (some path) call = some next ∧ next.buffer.Faithful := by
  cases call with
  | start replies now => exact ⟨_, rfl, faithful_withRing faithful _⟩
  | stop => exact ⟨_, rfl, faithful⟩
  | write input now => exact ⟨_, rfl, faithful_withRing faithful _⟩
  | stream call =>
      obtain ⟨buffer, stepped, next⟩ := faithful.step fits
      refine ⟨{ path with buffer := buffer }, ?_, next⟩
      change Option.map _ (CaptureBuffer.step (some path.buffer) call) = _
      rw [stepped]
      rfl

theorem faithful_run (calls : List PathCall) (fits : ∀ call ∈ calls, call.Fits) :
    ∀ path : DriverPath, path.buffer.Faithful →
      ∃ last, Run.final step (some path) calls = some last ∧ last.buffer.Faithful := by
  induction calls with
  | nil => exact fun path faithful => ⟨path, rfl, faithful⟩
  | cons call rest ih =>
      intro path faithful
      obtain ⟨first, later⟩ := List.forall_mem_cons.mp fits
      obtain ⟨next, stepped, faithful⟩ := faithful_step faithful first
      obtain ⟨last, reached, kept⟩ := ih later next faithful
      exact ⟨last, by rw [Run.final_cons, stepped, reached], kept⟩

theorem run_stream (link : SmartMicDriverLink) (calls : List WaveRtStream.StreamCall) :
    ∀ machine : Option CaptureBuffer,
      Run.final step (machine.map fun buffer => ⟨link, buffer⟩) (calls.map .stream) =
        (Run.final CaptureBuffer.step machine calls).map fun buffer => ⟨link, buffer⟩ := by
  induction calls with
  | nil => exact fun machine => rfl
  | cons call rest ih =>
      intro machine
      rw [List.map_cons, Run.final_cons, Run.final_cons, ← ih]
      cases machine with
      | none => rfl
      | some buffer => rfl

end DriverPath

/-- In every run of driver and service whose allocations stay within the 32 bits, the bytes
behind the position are the latest frames that came out of the ring, each as far back as it was
drained, and bytes that no tick has reached since the buffer was last cleared are silence. -/
theorem capture_buffer_holds_recent (ring : SharedRing) (memory : Nat → BitVec 8)
    (calls : List PathCall) (fits : ∀ call ∈ calls, call.Fits) :
    ∃ path, Run.final DriverPath.step (some (.init ring memory)) calls = some path ∧
      (∀ streamCalls, calls = streamCalls.map .stream →
        Run.final WaveRtStream.step (some (.init ring)) streamCalls = some path.buffer.stream) ∧
      path.buffer.stream.position.toNat = (pcmBytes path.buffer.heard).length % 2 ^ 64 ∧
      (path.buffer.stream.bufferVa = true →
        Circular.Recent path.buffer.stream.bufferBytes.toNat path.buffer.memory
            (pcmBytes path.buffer.heard) ∧
          ∀ place < path.buffer.stream.bufferBytes.toNat,
            (pcmBytes path.buffer.heard).length ≤ place → path.buffer.memory place = 0#8) := by
  obtain ⟨path, reached, faithful⟩ := DriverPath.faithful_run calls fits (.init ring memory)
    (CaptureBuffer.faithful_init ring memory)
  refine ⟨path, reached, ?_, ?_, fun mapped => ?_⟩
  · rintro streamCalls rfl
    obtain ⟨buffer, alone, -, stream⟩ := CaptureBuffer.Faithful.run streamCalls
      (fun call member => fits (.stream call) (List.mem_map_of_mem member)) _
      (CaptureBuffer.faithful_init ring memory)
    have driven := DriverPath.run_stream .closed streamCalls (some (.init ring memory))
    rw [alone] at driven
    obtain rfl : _ = path := Option.some.inj (driven.symm.trans reached)
    exact stream
  · unfold WaveRtStream.position
    rw [faithful.written, BitVec.toNat_mul, BitVec.toNat_ofNat, pcmBytes_length,
      Nat.mod_mul_mod, Nat.mul_comm 2]
    rfl
  · have recent := (faithful.filled mapped).recent
    exact ⟨recent.of_replicate, fun _place inside beyond => recent.untouched inside beyond⟩

def twoFrames : List PathCall :=
  [.start { opened := true, version := some ⟨1#32, ringVersion, ringTotalBytes⟩, mapped := true }
      1#64,
    .stream (.allocateBufferWithNotification 2#32 5#32 ⟨true, true⟩), .stream (.setState .run),
    .write [1, -1] 1#64, .stream (.onTimerTick 1#64), .stream (.onTimerTick 2#64)]

theorem capture_buffer_holds_recent_written :
    ∃ path, Run.final DriverPath.step
        (some (.init SharedRing.initialize fun _place => 0xff#8)) twoFrames = some path ∧
      path.buffer.stream.bufferVa = true ∧ path.buffer.stream.position.toNat = 4 ∧
      Circular.Recent 4 path.buffer.memory [0xde#8, 0x7f#8, 0x22#8, 0x80#8] := by
  obtain ⟨path, reached, -, position, held⟩ := capture_buffer_holds_recent
    SharedRing.initialize (fun _place => 0xff#8) twoFrames
    (by
      intro call member
      fin_cases member
      · trivial
      · exact .inl (by decide)
      · trivial
      · trivial
      · trivial
      · trivial)
  have heard : (Run.final DriverPath.step
      (some (.init SharedRing.initialize fun _place => 0xff#8)) twoFrames).map (fun path =>
        (path.buffer.stream.bufferVa, path.buffer.stream.bufferBytes,
          pcmBytes path.buffer.heard)) =
      some (true, 4#32, [0xde#8, 0x7f#8, 0x22#8, 0x80#8]) := by decide +kernel
  rw [reached] at heard
  obtain ⟨mapped, bytes, frames⟩ : path.buffer.stream.bufferVa = true ∧
      path.buffer.stream.bufferBytes = 4#32 ∧
      pcmBytes path.buffer.heard = [0xde#8, 0x7f#8, 0x22#8, 0x80#8] := by
    simpa using heard
  have recent := (held mapped).1
  rw [bytes, frames] at recent
  rw [frames] at position
  exact ⟨path, reached, mapped, position, recent⟩

end SmartMic.Driver
