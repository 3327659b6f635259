import SmartMic.Driver.CaptureBuffer
import SmartMic.Driver.RingTwins

set_option autoImplicit false

/-! From the frames of the router to the buffer of an application. The audio service writes
its frames into the ring, and the timer of the stream takes ten milliseconds at a time out of
it. Neither side waits for the other. As long as the writes are ahead of the ticks, but never
by more than what the ring holds, nothing is lost on the way and nothing is silence; how the
calls of the two sides interleave and how long the frames are does not matter.

A call is one step here, and the index words stay below the wrap. -/

namespace SmartMic.Driver

/-! ### The pace -/

/-- How many frames the writes are ahead of the ticks, and when the last write was. -/
structure Pace where
  ahead : Nat
  beat : BitVec 64

namespace Pace

def start : Pace := { ahead := 0, beat := 0#64 }

def step (pace : Pace) : PathCall → Pace
  | .write input now => { ahead := pace.ahead + input.length, beat := now }
  | .stream (.onTimerTick _) => { pace with ahead := pace.ahead - notifyFrames }
  | _ => pace

theorem step_write (pace : Pace) (input : List Binary32) (now : BitVec 64) :
    pace.step (.write input now) = { ahead := pace.ahead + input.length, beat := now } := rfl

theorem step_tick (pace : Pace) (now : BitVec 64) :
    pace.step (.stream (.onTimerTick now)) =
      { ahead := pace.ahead - notifyFrames, beat := pace.beat } := by
  unfold step
  rfl

/-- The ring has room for a write; a tick finds a period, and the last write is younger than the
time after which the service counts as gone. -/
def Allowed (pace : Pace) : PathCall → Prop
  | .write input now => pace.ahead + input.length ≤ ringFrames ∧ now ≠ 0#64
  | .stream (.onTimerTick now) =>
      notifyFrames ≤ pace.ahead ∧ pace.beat ≤ now ∧ now - pace.beat < producerTimeout
  | _ => False

end Pace

def writtenBy (calls : List PathCall) : List PcmFrame :=
  calls.flatMap fun call =>
    match call with
    | .write input _ => input.map toPcm16
    | _ => []

theorem writtenBy_cons (call : PathCall) (rest : List PathCall) :
    writtenBy (call :: rest) = writtenBy [call] ++ writtenBy rest := by
  unfold writtenBy
  rw [List.flatMap_cons, List.flatMap_cons, List.flatMap_nil, List.append_nil]

theorem SharedRing.read_heartbeat (ring : SharedRing) (frames : BitVec 32) (now : BitVec 64) :
    (ring.read frames now).ring.header.producerHeartbeat = ring.header.producerHeartbeat := by
  have skipped : ring.header.skipLapped.1.producerHeartbeat = ring.header.producerHeartbeat := by
    unfold RingHeader.skipLapped
    dsimp only
    split_ifs <;> rfl
  rcases ring.read_cases frames now with ⟨-, read⟩ | ⟨-, read⟩ | ⟨-, -, read⟩
  · rw [read]
  · rw [read]
  · rw [read]
    exact skipped

/-! ### Paced calls -/

namespace DriverPath

variable {path : DriverPath}

/-- The stream runs in periods of ten milliseconds, and these frames wait in the ring. -/
structure Carries (path : DriverPath) (pace : Pace) (waiting : List PcmFrame) : Prop where
  attached : path.link.attached = true
  running : path.buffer.stream.timerRunning = true
  mapped : path.buffer.stream.bufferVa = true
  period : path.buffer.stream.bytesPerNotification = 960#32
  faithful : path.buffer.Faithful
  within : pace.ahead ≤ ringFrames
  level : waiting.length = pace.ahead
  writer : path.ring.header.writeIndex.toNat =
    path.ring.header.readIndex.toNat + waiting.length
  holds : Circular.Holds ringFrames path.ring.payload path.ring.header.readIndex.toNat waiting
  beaten : 0 < pace.ahead →
    path.ring.header.producerHeartbeat = pace.beat ∧ pace.beat ≠ 0#64

/-- From one path to another these frames went in, none got lost and none was missing. -/
structure Went (path next : DriverPath) (waiting rest added : List PcmFrame) : Prop where
  flow : next.buffer.heard ++ rest = path.buffer.heard ++ waiting ++ added
  writer : next.ring.header.writeIndex.toNat =
    path.ring.header.writeIndex.toNat + added.length
  underruns : next.ring.header.underrunCount = path.ring.header.underrunCount
  overruns : next.ring.header.overrunCount = path.ring.header.overrunCount

theorem Went.trans {middle last : DriverPath} {waiting kept rest first second : List PcmFrame}
    (before : path.Went middle waiting kept first) (after : middle.Went last kept rest second) :
    path.Went last waiting rest (first ++ second) :=
  { flow := by rw [after.flow, before.flow, List.append_assoc]
    writer := by rw [after.writer, before.writer, List.length_append, Nat.add_assoc]
    underruns := after.underruns.trans before.underruns
    overruns := after.overruns.trans before.overruns }

variable {pace : Pace} {waiting : List PcmFrame}

theorem Carries.write (carries : path.Carries pace waiting) (input : List Binary32)
    (now : BitVec 64) (allowed : pace.Allowed (.write input now))
    (below : path.ring.header.writeIndex.toNat + input.length < 2 ^ 64) :
    ∃ next, step (some path) (.write input now) = some next ∧
      next.Carries (pace.step (.write input now)) (waiting ++ input.map toPcm16) ∧
      path.Went next waiting (waiting ++ input.map toPcm16) (input.map toPcm16) := by
  obtain ⟨room, alive⟩ := allowed
  have level := carries.level
  have writer := carries.writer
  have samples : (input.map toPcm16).length = input.length := List.length_map _
  have space : path.ring.header.writeIndex.toNat + (input.map toPcm16).length ≤
      path.ring.header.readIndex.toNat + ringFrames := by
    rw [samples]
    omega
  have fits := RingHeader.fits_of_room (by omega) space
  obtain ⟨header, payload⟩ := path.ring.writeFrames_accepted (input.map toPcm16) now fits
  have written : (path.ring.writeFrames (input.map toPcm16) now).header.writeIndex.toNat =
      path.ring.header.writeIndex.toNat + (input.map toPcm16).length := by
    rw [header]
    change (path.ring.header.writeIndex + BitVec.ofNat 64 _).toNat = _
    rw [BitVec.toNat_add, BitVec.toNat_ofNat, Nat.add_mod_mod, samples]
    exact Nat.mod_eq_of_lt below
  have reader : (path.ring.writeFrames (input.map toPcm16) now).header.readIndex =
      path.ring.header.readIndex := by rw [header]
  have whole : (path.link.write path.ring input now).2 =
      path.ring.writeFrames (input.map toPcm16) now := by
    unfold SmartMicDriverLink.write
    rw [if_neg (by rw [carries.attached]; decide)]
  refine ⟨path.withRing (path.link.write path.ring input now).2, rfl, ?_, ?_⟩
  · rw [whole]
    exact
      { attached := carries.attached
        running := carries.running
        mapped := carries.mapped
        period := carries.period
        faithful := faithful_withRing carries.faithful _
        within := room
        level := by
          rw [List.length_append, level, samples]
          rfl
        writer := by
          change (path.ring.writeFrames _ now).header.writeIndex.toNat =
            (path.ring.writeFrames _ now).header.readIndex.toNat + _
          rw [written, reader, List.length_append, writer, Nat.add_assoc]
        holds := by
          change Circular.Holds _ (path.ring.writeFrames _ now).payload
            (path.ring.writeFrames _ now).header.readIndex.toNat _
          rw [payload, reader, writer]
          exact carries.holds.append (by decide) (by omega)
        beaten := by
          intro _ahead
          change (path.ring.writeFrames _ now).header.producerHeartbeat = now ∧ _
          rw [header]
          exact ⟨rfl, alive⟩ }
  · rw [whole]
    exact
      { flow := (List.append_assoc _ _ _).symm
        writer := written
        underruns := by
          change (path.ring.writeFrames _ now).header.underrunCount = _
          rw [header]
        overruns := by
          change (path.ring.writeFrames _ now).header.overrunCount = _
          rw [header] }

/-- A period has been taken out of the ring, and nothing else has changed. -/
structure PeriodTaken (ring : SharedRing) (waiting : List PcmFrame) (drain : Drain) : Prop where
  destination : drain.destination = waiting.take notifyFrames
  readIndex : drain.ring.header.readIndex.toNat = ring.header.readIndex.toNat + notifyFrames
  writeIndex : drain.ring.header.writeIndex = ring.header.writeIndex
  payload : drain.ring.payload = ring.payload
  heartbeat : drain.ring.header.producerHeartbeat = ring.header.producerHeartbeat
  underruns : drain.ring.header.underrunCount = ring.header.underrunCount
  overruns : drain.ring.header.overrunCount = ring.header.overrunCount

theorem Carries.takes_period (carries : path.Carries pace waiting) {now : BitVec 64}
    (allowed : pace.Allowed (.stream (.onTimerTick now))) :
    PeriodTaken path.ring waiting (path.ring.read 480#32 now) := by
  obtain ⟨whole_period, earlier, young⟩ := allowed
  have level := carries.level
  have writer := carries.writer
  have within := carries.within
  have below := path.ring.header.writeIndex.isLt
  obtain ⟨beat, alive⟩ := carries.beaten (Nat.lt_of_lt_of_le (by decide) whole_period)
  have fresh : path.ring.header.producerAlive now = true := by
    unfold RingHeader.producerAlive
    rw [beat, if_neg alive, decide_eq_true earlier, decide_eq_true young]
    rfl
  have unread : path.ring.header.unread = waiting.length := by
    unfold RingHeader.unread
    omega
  have enough : notifyFrames ≤ waiting.length := by
    rw [level]
    exact whole_period
  have whole : min (480#32).toNat path.ring.header.unread = notifyFrames := by
    rw [unread]
    exact Nat.min_eq_left enough
  have near : path.ring.header.writeIndex.toNat ≤
      path.ring.header.readIndex.toNat + ringFrames := by
    omega
  have reads := SharedRing.reads_fresh near 480#32 fresh
  exact
    { destination := by
        rw [reads.destination, whole, carries.holds.load (by decide) enough (by decide)]
        exact List.append_nil _
      readIndex := by
        rw [reads.readIndex, BitVec.toNat_add]
        change (_ + 480) % 2 ^ 64 = _ + 480
        simp only [notifyFrames] at enough
        omega
      writeIndex := reads.writeIndex
      payload := reads.payload
      heartbeat := path.ring.read_heartbeat _ _
      underruns := by
        rw [reads.underrunCount, whole]
        exact BitVec.add_zero _
      overruns := reads.overrunCount }

/-- The tick copies one period, and the stream goes on. -/
theorem Carries.onTimerTick (carries : path.Carries pace waiting) (now : BitVec 64) :
    (path.buffer.onTimerTick now).heard =
        path.buffer.heard ++ (path.ring.read 480#32 now).destination ∧
      (path.buffer.onTimerTick now).stream.ring = (path.ring.read 480#32 now).ring ∧
      (path.buffer.onTimerTick now).stream.timerRunning = true ∧
      (path.buffer.onTimerTick now).stream.bufferVa = true ∧
      (path.buffer.onTimerTick now).stream.bytesPerNotification = 960#32 := by
  have copies : path.buffer.stream.period =
      some { offset := path.buffer.stream.writeOffset, bytes := 960#32, frames := 480#32 } := by
    unfold WaveRtStream.period
    rw [carries.running, carries.mapped, carries.period]
    rfl
  unfold CaptureBuffer.onTimerTick
  rw [copies]
  dsimp only
  unfold WaveRtStream.onTimerTick
  rw [copies]
  exact ⟨rfl, rfl, carries.running, carries.mapped, carries.period⟩

theorem Carries.tick (carries : path.Carries pace waiting) {now : BitVec 64}
    (allowed : pace.Allowed (.stream (.onTimerTick now))) :
    ∃ next, step (some path) (.stream (.onTimerTick now)) = some next ∧
      next.Carries (pace.step (.stream (.onTimerTick now))) (waiting.drop notifyFrames) ∧
      path.Went next waiting (waiting.drop notifyFrames) [] := by
  have taken := carries.takes_period allowed
  obtain ⟨heard, after, running, mapped, period⟩ := carries.onTimerTick now
  have beaten := carries.beaten (Nat.lt_of_lt_of_le (by decide) allowed.1)
  have enough : notifyFrames ≤ waiting.length := carries.level.ge.trans' allowed.1
  refine ⟨{ path with buffer := path.buffer.onTimerTick now }, rfl, ?_, ?_⟩
  · exact
      { attached := carries.attached
        running := running
        mapped := mapped
        period := period
        faithful := carries.faithful.onTimerTick now
        within := (Nat.sub_le pace.ahead notifyFrames).trans carries.within
        level := by
          rw [List.length_drop, carries.level]
          rfl
        writer := by
          change (path.buffer.onTimerTick now).stream.ring.header.writeIndex.toNat =
            (path.buffer.onTimerTick now).stream.ring.header.readIndex.toNat + _
          rw [after, taken.writeIndex, taken.readIndex, List.length_drop, carries.writer]
          omega
        holds := by
          change Circular.Holds _ (path.buffer.onTimerTick now).stream.ring.payload
            (path.buffer.onTimerTick now).stream.ring.header.readIndex.toNat _
          rw [after, taken.payload, taken.readIndex]
          exact carries.holds.drop notifyFrames
        beaten := by
          intro _ahead
          rw [Pace.step_tick]
          change (path.buffer.onTimerTick now).stream.ring.header.producerHeartbeat = _ ∧ _
          rw [after, taken.heartbeat]
          exact beaten }
  · exact
      { flow := by
          change (path.buffer.onTimerTick now).heard ++ _ = _
          rw [heard, taken.destination, List.append_assoc, List.take_append_drop, List.append_nil]
        writer := by
          change (path.buffer.onTimerTick now).stream.ring.header.writeIndex.toNat = _
          rw [after, taken.writeIndex]
          rfl
        underruns := by
          change (path.buffer.onTimerTick now).stream.ring.header.underrunCount = _
          rw [after, taken.underruns]
        overruns := by
          change (path.buffer.onTimerTick now).stream.ring.header.overrunCount = _
          rw [after, taken.overruns] }

theorem Carries.step (carries : path.Carries pace waiting) {call : PathCall}
    (allowed : pace.Allowed call)
    (below : path.ring.header.writeIndex.toNat + (writtenBy [call]).length < 2 ^ 64) :
    ∃ next rest, DriverPath.step (some path) call = some next ∧
      next.Carries (pace.step call) rest ∧ path.Went next waiting rest (writtenBy [call]) := by
  cases call with
  | start replies now => exact absurd allowed id
  | stop => exact absurd allowed id
  | write input now =>
      have single : writtenBy [.write input now] = input.map toPcm16 := List.append_nil _
      rw [single] at below ⊢
      rw [List.length_map] at below
      obtain ⟨next, stepped, kept, went⟩ := carries.write _ _ allowed below
      exact ⟨next, _, stepped, kept, went⟩
  | stream call =>
      cases call with
      | onTimerTick now =>
          obtain ⟨next, stepped, kept, went⟩ := carries.tick allowed
          exact ⟨next, _, stepped, kept, went⟩
      | setState state => exact absurd allowed id
      | allocateBufferWithNotification notificationCount requestedSize pages =>
          exact absurd allowed id
      | allocateAudioBuffer requestedSize pages => exact absurd allowed id
      | freeBufferWithNotification => exact absurd allowed id
      | freeAudioBuffer => exact absurd allowed id

theorem Carries.run (calls : List PathCall) :
    ∀ (path : DriverPath) (pace : Pace) (waiting : List PcmFrame), path.Carries pace waiting →
      Run.Meets Pace.step Pace.Allowed pace calls →
      path.ring.header.writeIndex.toNat + (writtenBy calls).length < 2 ^ 64 →
      ∃ last rest, Run.final DriverPath.step (some path) calls = some last ∧
        last.Carries (Run.final Pace.step pace calls) rest ∧
        path.Went last waiting rest (writtenBy calls) := by
  induction calls with
  | nil =>
      intro path pace waiting carries _paced _below
      exact ⟨path, waiting, rfl, carries, ⟨(List.append_nil _).symm, rfl, rfl, rfl⟩⟩
  | cons call calls ih =>
      intro path pace waiting carries paced below
      rw [writtenBy_cons, List.length_append] at below
      obtain ⟨next, kept, stepped, carries, first⟩ := carries.step paced.1 (by omega)
      have writer := first.writer
      obtain ⟨last, rest, reached, carries, later⟩ := ih next _ kept carries paced.2 (by omega)
      refine ⟨last, rest, ?_, carries, ?_⟩
      · rw [Run.final_cons, stepped, reached]
      · rw [writtenBy_cons]
        exact first.trans later

theorem setState_run {stream : WaveRtStream} (mapped : stream.bufferVa = true) :
    (stream.setState .run).2.ring = stream.ring.setStreamOpen true ∧
      (stream.setState .run).2.timerRunning = true ∧
      (stream.setState .run).2.bufferVa = true ∧
      (stream.setState .run).2.bytesPerNotification = stream.bytesPerNotification := by
  unfold WaveRtStream.setState WaveRtStream.startTimer
  dsimp only
  rw [if_neg (by rw [mapped]; decide)]
  by_cases running : stream.timerRunning = true
  · rw [if_pos running]
    exact ⟨rfl, running, mapped, rfl⟩
  · rw [if_neg running]
    exact ⟨rfl, rfl, mapped, rfl⟩

theorem carries_run (faithful : path.buffer.Faithful) (attached : path.link.attached = true)
    (mapped : path.buffer.stream.bufferVa = true)
    (period : path.buffer.stream.bytesPerNotification = 960#32) :
    ∃ next, DriverPath.step (some path) (.stream (.setState .run)) = some next ∧
      next.Carries .start [] ∧ path.Went next [] [] [] := by
  obtain ⟨ring, running, still, bytes⟩ := setState_run mapped
  refine ⟨{ path with buffer := path.buffer.setState .run }, rfl, ?_, ?_⟩
  · exact
      { attached := attached
        running := running
        mapped := still
        period := bytes.trans period
        faithful := faithful.setState .run
        within := Nat.zero_le _
        level := rfl
        writer := by
          change (path.buffer.stream.setState .run).2.ring.header.writeIndex.toNat =
            (path.buffer.stream.setState .run).2.ring.header.readIndex.toNat
          rw [ring]
          rfl
        holds := Circular.holds_nil _ _ _
        beaten := fun none_ => absurd none_ (Nat.lt_irrefl 0) }
  · exact
      { flow := (List.append_nil _).symm
        writer := by
          change (path.buffer.stream.setState .run).2.ring.header.writeIndex.toNat = _
          rw [ring]
          rfl
        underruns := by
          change (path.buffer.stream.setState .run).2.ring.header.underrunCount = _
          rw [ring]
          rfl
        overruns := by
          change (path.buffer.stream.setState .run).2.ring.header.overrunCount = _
          rw [ring]
          rfl }

end DriverPath

open DriverPath in
/-- From any state of service and driver in which the service is attached and the stream has a
buffer with periods of ten milliseconds: once the stream runs, every interleaving of writes
and ticks in which the writes, of any lengths, stay a period ahead of the ticks and within what
the ring holds brings every frame that was written since to the application, in order and
without silence, but for those that still wait in the ring, and neither of the two counters
moves. -/
theorem paced_path_is_lossless (ring : SharedRing) (memory : Nat → BitVec 8)
    (before paced : List PathCall) (fits : ∀ call ∈ before, call.Fits) (path : DriverPath)
    (reached : Run.final step (some (init ring memory)) before = some path)
    (attached : path.link.attached = true) (mapped : path.buffer.stream.bufferVa = true)
    (period : path.buffer.stream.bytesPerNotification = 960#32)
    (pace : Run.Meets Pace.step Pace.Allowed .start paced)
    (words : path.ring.header.writeIndex.toNat + (writtenBy paced).length < 2 ^ 64) :
    ∃ last waiting,
      Run.final step (some path) (.stream (.setState .run) :: paced) = some last ∧
      path.buffer.heard ++ writtenBy paced = last.buffer.heard ++ waiting ∧
      waiting.length = (Run.final Pace.step .start paced).ahead ∧
      Circular.Recent last.buffer.stream.bufferBytes.toNat last.buffer.memory
        (pcmBytes last.buffer.heard) ∧
      last.ring.header.underrunCount = path.ring.header.underrunCount ∧
      last.ring.header.overrunCount = path.ring.header.overrunCount := by
  obtain ⟨same, found, faithful⟩ :=
    faithful_run before fits (init ring memory) (CaptureBuffer.faithful_init ring memory)
  rw [reached] at found
  cases found
  obtain ⟨next, stepped, carries, first⟩ := carries_run faithful attached mapped period
  have writer := first.writer
  obtain ⟨last, waiting, ran, carries, later⟩ := carries.run paced next _ [] pace (by
    rw [writer]
    exact words)
  have went := first.trans later
  refine ⟨last, waiting, ?_, ?_, carries.level, ?_, went.underruns, went.overruns⟩
  · rw [Run.final_cons, stepped, ran]
  · have flow := went.flow
    rw [List.append_nil, List.nil_append] at flow
    exact flow.symm
  · exact (carries.faithful.filled carries.mapped).recent.of_replicate

/-- The service attaches, and the audio engine asks for two periods. -/
def attachedCalls : List PathCall :=
  [.start { opened := true, version := some ⟨1#32, ringVersion, ringTotalBytes⟩, mapped := true }
      1#64,
    .stream (.allocateBufferWithNotification 2#32 1920#32 ⟨true, true⟩)]

def halfScale : Binary32 := .ofExact .binary32 (1 / 2)

def routerFrame : List PathCall :=
  [.write (List.replicate 960 halfScale) 2#64, .stream (.onTimerTick 3#64),
    .stream (.onTimerTick 4#64)]

theorem routerFrame_written : writtenBy routerFrame = List.replicate 960 (toPcm16 halfScale) := by
  change List.map toPcm16 (List.replicate 960 halfScale) ++ [] = _
  rw [List.append_nil, List.map_replicate]

theorem routerFrame_length : (List.replicate 960 halfScale).length = 960 := List.length_replicate

theorem routerFrame_paced : Run.Meets Pace.step Pace.Allowed .start routerFrame := by
  refine ⟨⟨?_, by decide⟩, ?_⟩
  · rw [routerFrame_length]
    decide
  · rw [Pace.step_write, routerFrame_length]
    refine ⟨⟨by decide, by decide, by decide⟩, ?_⟩
    rw [Pace.step_tick]
    exact ⟨⟨by decide, by decide, by decide⟩, trivial⟩

open DriverPath in
theorem paced_path_is_lossless_once :
    ∃ path last,
      Run.final step (some (init SharedRing.initialize fun _place => 0#8)) attachedCalls =
        some path ∧
      Run.final step (some path) (.stream (.setState .run) :: routerFrame) = some last ∧
      last.buffer.heard = List.replicate 960 (toPcm16 halfScale) := by
  obtain ⟨last, waiting, ran, flow, level, -, -, -⟩ := paced_path_is_lossless SharedRing.initialize
    (fun _place => 0#8) attachedCalls routerFrame
    (by
      intro call member
      fin_cases member
      · trivial
      · exact .inl (by decide)) _ rfl rfl rfl (by decide) routerFrame_paced
    (by
      rw [routerFrame_written, List.length_replicate]
      decide)
  have drained : (Run.final Pace.step .start routerFrame).ahead = 0 := by
    unfold routerFrame
    rw [Run.final_cons, Pace.step_write, routerFrame_length]
    rfl
  obtain rfl : waiting = [] := List.eq_nil_of_length_eq_zero (level.trans drained)
  rw [List.append_nil, routerFrame_written] at flow
  exact ⟨_, last, rfl, ran, flow.symm⟩

end SmartMic.Driver
