import SmartMic.Audio.Converted
import SmartMic.Audio.RingAlone
import SmartMic.Audio.RingQueue
import SmartMic.Audio.WasapiFormat
import SmartMic.Support.StreamTap

set_option autoImplicit false

/-! The end of the audio service at a microphone of the PC. The capture thread converts what
the device delivers and puts it into a ring that the router reads. The ring is a tap: the
router takes the stream in order, and what it is too late for is lost and counted.

The calls that open a device are a success or a failure here. A call on a ring is one step:
the calls of the two threads on it are taken not to overlap, and then their accesses come to
that step. What may happen where they overlap is the subject of the ring's own modules. -/

namespace SmartMic.Audio

/-! ### A ring as a tap -/

/-- The ring holds what waits at the tap, and has counted the losses since it was made. -/
structure RingBuffer.Taps {α : Type*} (buffer : RingBuffer α) (tap : Tap α) (earlier : Nat) :
    Prop where
  holding : buffer.Holding tap.waiting
  overruns : buffer.overruns_ = BitVec.ofNat 64 (earlier + tap.lost)
  capacity : buffer.capacity = 16384

section Tap

variable {α : Type*} {buffer : RingBuffer α} {tap : Tap α} {earlier : Nat}

theorem roundUpPow2_ends : roundUpPow2 (millisToSamples 200#32) = 16384 := by decide

theorem RingBuffer.taps_new [Zero α] :
    (RingBuffer.new (millisToSamples 200#32) : RingBuffer α).Taps Tap.fresh 0 := by
  have matching : (RingBuffer.new (millisToSamples 200#32) : RingBuffer α).Matches .empty :=
    RingBuffer.new_matches (by decide)
  exact
    { holding := matching.holding
      overruns := matching.overruns
      capacity := roundUpPow2_ends }

theorem RingBuffer.Taps.write (taps : buffer.Taps tap earlier) {added : List α} :
    (buffer.write added).1.Taps (tap.feed 16384 added) earlier := by
  have fits := taps.holding.fits
  rw [taps.capacity] at fits
  have wrote := taps.holding.write added (by rw [taps.capacity]; omega)
  have capacity := taps.capacity
  exact
    { holding := by
        have holding := wrote.holding
        rw [capacity] at holding
        rw [Tap.feed_waiting]
        exact holding
      overruns := by
        rw [wrote.overruns, wrote.dropped, taps.overruns, ← BitVec.ofNat_add, capacity,
          Nat.add_assoc]
        rfl
      capacity := wrote.capacity.trans capacity }

theorem RingBuffer.Taps.readOrSilence [Zero α] (taps : buffer.Taps tap earlier)
    (count : BitVec 64) :
    (buffer.readOrSilence count).buffer.Taps (tap.draw count.toNat) earlier ∧
      (buffer.readOrSilence count).destination = tap.waiting.take count.toNat ++
        List.replicate (count.toNat - tap.waiting.length) 0 ∧
      (buffer.readOrSilence count).real.toNat = min tap.waiting.length count.toNat := by
  have took := taps.holding.readOrSilence count
  refine ⟨?_, took.destination, took.real⟩
  exact
    { holding := by
        rw [Tap.draw_waiting]
        exact took.holding
      overruns := took.overruns.trans taps.overruns
      capacity := took.capacity.trans taps.capacity }

theorem RingBuffer.Taps.read_alone [Zero α] (taps : buffer.Taps tap earlier)
    (count : BitVec 64) :
    buffer.ReadsAlone count (tap.waiting.take count.toNat)
      (buffer.readOrSilence count).buffer := by
  rw [← (taps.holding.read count).destination]
  exact buffer.readOrSilence_alone count

theorem RingBuffer.Taps.clear (taps : buffer.Taps tap earlier) :
    buffer.clear.Taps Tap.fresh (earlier + tap.lost) :=
  { holding := taps.holding.clear
    overruns := taps.overruns
    capacity := taps.capacity }

end Tap

/-! ### Capture -/

structure WasapiCaptureSource (α : Type) where
  mixFormat : WaveFormat
  resampler : LinearResampler α
  ring : RingBuffer α
  running : Bool
  failed : Bool
  /-- The capture thread, from `start` until `stop` has joined it. -/
  thread : Bool

/-- How a `start` ends: in front of the reset, at the last call, or with a running thread. -/
inductive StartOutcome where
  | refused
  | stalled (fmt : WaveFormat)
  | started (fmt : WaveFormat)

structure CapturePacket (α : Type) where
  silent : Bool
  data : DeviceData α
  frames : BitVec 32

inductive CaptureInput (α : Type) where
  | start (outcome : StartOutcome)
  | timedOut
  | packet (packet : CapturePacket α)
  | read (samples : BitVec 64)
  | stop
  | joined

section Capture

variable {α : Type} [SampleArithmetic α]

def WasapiCaptureSource.new (fmt : WaveFormat) : WasapiCaptureSource α :=
  { mixFormat := fmt
    resampler := LinearResampler.new 0#32
    ring := RingBuffer.new (millisToSamples 200#32)
    running := false
    failed := false
    thread := false }

/-- What a successful `start` has done before its last call. -/
def WasapiCaptureSource.reset (source : WasapiCaptureSource α) (fmt : WaveFormat) :
    WasapiCaptureSource α :=
  { source with
    mixFormat := fmt
    resampler := LinearResampler.new fmt.rate
    ring := source.ring.clear
    failed := false }

def WasapiCaptureSource.start (source : WasapiCaptureSource α) (outcome : StartOutcome) :
    WasapiCaptureSource α :=
  if source.running then source
  else
    match outcome with
    | .refused => source
    | .stalled fmt => source.reset fmt
    | .started fmt => { source.reset fmt with running := true, thread := true }

/-- The `scratch_` of a packet. -/
def CapturePacket.mono (fmt : WaveFormat) (packet : CapturePacket α) : List α :=
  if packet.silent then List.replicate packet.frames.toNat 0
  else toMonoFloat fmt packet.data packet.frames.toNat

/-- The body of the packet loop; none is a read outside the block. -/
def WasapiCaptureSource.onPacket (source : WasapiCaptureSource α) (packet : CapturePacket α) :
    Option (WasapiCaptureSource α) :=
  if source.thread = false then some source
  else do
    let (converted, resampler) ← source.resampler.process (packet.mono source.mixFormat) []
    some
      { source with
        resampler := resampler
        ring := if converted = [] then source.ring else (source.ring.write converted).1 }

/-- `read`: the status and what is in the caller's buffer afterwards. -/
def WasapiCaptureSource.read (source : WasapiCaptureSource α) (samples : BitVec 64) :
    (SourceStatus × List α) × WasapiCaptureSource α :=
  if source.failed then ((.failed, List.replicate samples.toNat 0), source)
  else
    let got := source.ring.readOrSilence samples
    let status : SourceStatus :=
      if source.running = false then .failed
      else if got.real = samples then .ok
      else .underrun
    ((status, got.destination), { source with ring := got.buffer })

def WasapiCaptureSource.droppedFrames (source : WasapiCaptureSource α) : BitVec 64 :=
  source.ring.overruns_

/-- A wait that times out while the source runs is a failure; the thread has ended once it
has found that the source no longer runs. -/
def WasapiCaptureSource.react (source : WasapiCaptureSource α) :
    CaptureInput α → Option (WasapiCaptureSource α)
  | .start outcome => some (source.start outcome)
  | .timedOut => some { source with failed := source.failed || (source.thread && source.running) }
  | .packet packet => source.onPacket packet
  | .read samples => some (source.read samples).2
  | .stop => some { source with running := false }
  | .joined => some { source with thread := source.thread && source.running }

def WasapiCaptureSource.step (source : Option (WasapiCaptureSource α)) (input : CaptureInput α) :
    Option (WasapiCaptureSource α) :=
  source.bind fun source => source.react input

/-- What the source is for: a tap on what the resampler makes of the blocks since the last
start, and the state that decides about the status of a read. -/
structure CaptureTap (α : Type) where
  fmt : WaveFormat
  /-- The blocks since the last start. -/
  heard : List (List α)
  tap : Tap α
  /-- The losses before the last start. -/
  earlier : Nat
  running : Bool
  failed : Bool
  thread : Bool

namespace CaptureTap

def new (fmt : WaveFormat) : CaptureTap α :=
  { fmt := fmt
    heard := []
    tap := .fresh
    earlier := 0
    running := false
    failed := false
    thread := false }

def reset (tapped : CaptureTap α) (fmt : WaveFormat) : CaptureTap α :=
  { tapped with
    fmt := fmt
    heard := []
    tap := .fresh
    earlier := tapped.earlier + tapped.tap.lost
    failed := false }

/-- The converted stream goes on by what the new block adds to it. -/
def hear (tapped : CaptureTap α) (block : List α) : CaptureTap α :=
  { tapped with
    heard := tapped.heard ++ [block]
    tap := tapped.tap.feed 16384
      ((converted tapped.fmt.rate (tapped.heard ++ [block])).drop
        (converted tapped.fmt.rate tapped.heard).length) }

def read (tapped : CaptureTap α) (samples : Nat) : SourceStatus × List α :=
  if tapped.failed then (.failed, List.replicate samples 0)
  else
    (if tapped.running = false then .failed
      else if samples ≤ tapped.tap.waiting.length then .ok
      else .underrun,
      tapped.tap.waiting.take samples ++
        List.replicate (samples - tapped.tap.waiting.length) 0)

def step (tapped : CaptureTap α) : CaptureInput α → CaptureTap α
  | .start outcome =>
      if tapped.running then tapped
      else
        match outcome with
        | .refused => tapped
        | .stalled fmt => tapped.reset fmt
        | .started fmt => { tapped.reset fmt with running := true, thread := true }
  | .timedOut => { tapped with failed := tapped.failed || (tapped.thread && tapped.running) }
  | .packet packet => if tapped.thread = false then tapped else tapped.hear (packet.mono tapped.fmt)
  | .read samples =>
      if tapped.failed then tapped else { tapped with tap := tapped.tap.draw samples.toNat }
  | .stop => { tapped with running := false }
  | .joined => { tapped with thread := tapped.thread && tapped.running }

end CaptureTap

/-- The source is that tap. -/
structure WasapiCaptureSource.Taps (source : WasapiCaptureSource α) (tapped : CaptureTap α) :
    Prop where
  ring : source.ring.Taps tapped.tap tapped.earlier
  /-- From the first start on the resampler has been fed what was heard. -/
  fed : source.thread = true → source.resampler.Fed tapped.fmt.rate tapped.heard
  stream : tapped.tap.stream = converted tapped.fmt.rate tapped.heard
  fmt : source.mixFormat = tapped.fmt
  running : source.running = tapped.running
  failed : source.failed = tapped.failed
  thread : source.thread = tapped.thread

variable {source : WasapiCaptureSource α} {tapped : CaptureTap α}

theorem RingBuffer.Taps.feed_nil {α : Type*} {buffer : RingBuffer α} {tap : Tap α}
    {earlier : Nat} (taps : buffer.Taps tap earlier) :
    buffer.Taps (tap.feed 16384 []) earlier := by
  have fits := taps.holding.fits
  rw [taps.capacity] at fits
  have none_ : tap.overflow 16384 [] = 0 := by
    unfold Tap.overflow
    rw [List.length_nil]
    omega
  exact
    { holding := by
        rw [Tap.feed_waiting, none_, List.drop_zero, List.append_nil]
        exact taps.holding
      overruns := by
        change _ = BitVec.ofNat 64 (earlier + (tap.lost + tap.overflow 16384 []))
        rw [none_]
        exact taps.overruns
      capacity := taps.capacity }

theorem WasapiCaptureSource.taps_new (fmt : WaveFormat) :
    (WasapiCaptureSource.new fmt : WasapiCaptureSource α).Taps (CaptureTap.new fmt) :=
  { ring := RingBuffer.taps_new
    fed := fun alive => Bool.noConfusion alive
    stream := (converted_nil _).symm
    fmt := rfl
    running := rfl
    failed := rfl
    thread := rfl }

theorem WasapiCaptureSource.Taps.reset (taps : source.Taps tapped) (fmt : WaveFormat) :
    (source.reset fmt).Taps (tapped.reset fmt) :=
  { ring := taps.ring.clear
    fed := fun _alive => LinearResampler.fed_new fmt.rate
    stream := (converted_nil _).symm
    fmt := rfl
    running := taps.running
    failed := rfl
    thread := taps.thread }

theorem WasapiCaptureSource.Taps.start (taps : source.Taps tapped) (outcome : StartOutcome) :
    (source.start outcome).Taps (tapped.step (.start outcome)) := by
  unfold WasapiCaptureSource.start CaptureTap.step
  dsimp only
  rw [← taps.running]
  cases running : source.running with
  | true => exact taps
  | false =>
      cases outcome with
      | refused => exact taps
      | stalled fmt => exact taps.reset fmt
      | started fmt =>
          have fresh := taps.reset fmt
          exact
            { ring := fresh.ring
              fed := fun _alive => LinearResampler.fed_new fmt.rate
              stream := fresh.stream
              fmt := rfl
              running := rfl
              failed := rfl
              thread := rfl }

theorem CapturePacket.mono_sized (fmt : WaveFormat) (packet : CapturePacket α) :
    BlockSized (packet.mono fmt) := by
  have bound := packet.frames.isLt
  unfold CapturePacket.mono BlockSized
  split
  · rw [List.length_replicate]
    exact bound
  · unfold toMonoFloat
    rw [List.length_map, List.length_range]
    exact bound

/-- What a packet adds to the ring is what it adds to the converted stream. -/
theorem WasapiCaptureSource.Taps.packet (taps : source.Taps tapped) (packet : CapturePacket α) :
    ∃ next, source.onPacket packet = some next ∧ next.Taps (tapped.step (.packet packet)) := by
  unfold WasapiCaptureSource.onPacket CaptureTap.step
  dsimp only
  rw [← taps.thread]
  by_cases ended : source.thread = false
  · rw [if_pos ended, if_pos ended]
    exact ⟨source, rfl, taps⟩
  · have alive : source.thread = true := by simpa using ended
    have mono : packet.mono source.mixFormat = packet.mono tapped.fmt := by rw [taps.fmt]
    rw [if_neg ended, if_neg ended, mono]
    obtain ⟨resampler, added, processed, longer, fed⟩ :=
      (taps.fed alive).process (packet.mono_sized tapped.fmt)
    have new : (converted tapped.fmt.rate (tapped.heard ++ [packet.mono tapped.fmt])).drop
        (converted tapped.fmt.rate tapped.heard).length = added := by
      rw [longer, List.drop_left]
    refine ⟨{ source with
      resampler := resampler
      ring := if added = [] then source.ring else (source.ring.write added).1 }, ?_, ?_⟩
    · rw [processed []]
      rfl
    · refine
        { ring := ?_
          fed := fun _alive => fed
          stream := ?_
          fmt := taps.fmt
          running := taps.running
          failed := taps.failed
          thread := taps.thread }
      · unfold CaptureTap.hear
        dsimp only
        rw [new]
        split
        · rename_i nothing
          rw [nothing]
          exact taps.ring.feed_nil
        · exact taps.ring.write
      · unfold CaptureTap.hear
        dsimp only
        rw [new, Tap.feed_stream, taps.stream, longer]

theorem WasapiCaptureSource.Taps.read (taps : source.Taps tapped) (samples : BitVec 64) :
    (source.read samples).1 = tapped.read samples.toNat ∧
      (source.read samples).2.Taps (tapped.step (.read samples)) := by
  unfold WasapiCaptureSource.read CaptureTap.read CaptureTap.step
  dsimp only
  rw [← taps.failed, ← taps.running]
  by_cases failed : source.failed = true
  · rw [if_pos failed, if_pos failed, if_pos failed]
    exact ⟨rfl, taps⟩
  · rw [if_neg failed, if_neg failed, if_neg failed]
    obtain ⟨ring, destination, real⟩ := taps.ring.readOrSilence samples
    constructor
    · have whole : (source.ring.readOrSilence samples).real = samples ↔
          samples.toNat ≤ tapped.tap.waiting.length := by
        rw [← BitVec.toNat_inj, real]
        omega
      simp only [whole, destination]
    · exact
        { ring := ring
          fed := taps.fed
          stream := taps.stream
          fmt := taps.fmt
          running := rfl
          failed := rfl
          thread := taps.thread }

theorem WasapiCaptureSource.Taps.step (taps : source.Taps tapped) (input : CaptureInput α) :
    ∃ next, source.react input = some next ∧ next.Taps (tapped.step input) := by
  cases input with
  | start outcome => exact ⟨_, rfl, taps.start outcome⟩
  | timedOut =>
      refine ⟨_, rfl, { taps with failed := ?_ }⟩
      change (source.failed || (source.thread && source.running)) = _
      rw [taps.failed, taps.thread, taps.running]
      rfl
  | packet packet => exact taps.packet packet
  | read samples => exact ⟨_, rfl, (taps.read samples).2⟩
  | stop => exact ⟨_, rfl, { taps with running := rfl }⟩
  | joined =>
      refine ⟨_, rfl, { taps with fed := fun alive => ?_, thread := ?_ }⟩
      · exact taps.fed (Bool.and_eq_true_iff.mp alive).1
      · change (source.thread && source.running) = _
        rw [taps.thread, taps.running]
        rfl

theorem WasapiCaptureSource.Taps.run (inputs : List (CaptureInput α)) :
    ∀ (source : WasapiCaptureSource α) (tapped : CaptureTap α), source.Taps tapped →
      ∃ last, Run.final WasapiCaptureSource.step (some source) inputs = some last ∧
        last.Taps (Run.final CaptureTap.step tapped inputs) := by
  induction inputs with
  | nil => exact fun source _tapped taps => ⟨source, rfl, taps⟩
  | cons input rest ih =>
      intro source tapped taps
      obtain ⟨next, reacted, taps⟩ := taps.step input
      rw [Run.final_cons, Run.final_cons]
      change ∃ last, Run.final _ (source.react input) rest = some last ∧ _
      rw [reacted]
      exact ih next _ taps

theorem WasapiCaptureSource.onPacket_alone {packet : CapturePacket α}
    {next : WasapiCaptureSource α} (taken : source.onPacket packet = some next) :
    ∃ items, source.ring.WritesAlone items next.ring := by
  unfold WasapiCaptureSource.onPacket at taken
  split at taken
  · rw [Option.some.injEq] at taken
    subst taken
    exact ⟨[], source.ring.write_alone []⟩
  · cases processed : source.resampler.process (packet.mono source.mixFormat) [] with
    | none =>
        rw [processed] at taken
        cases taken
    | some result =>
        rw [processed] at taken
        change some _ = some next at taken
        rw [Option.some.injEq] at taken
        subst taken
        refine ⟨result.1, ?_⟩
        dsimp only
        split
        · rename_i nothing
          rw [nothing]
          exact source.ring.write_alone []
        · exact source.ring.write_alone result.1

theorem WasapiCaptureSource.Taps.read_alone (taps : source.Taps tapped)
    (healthy : source.failed = false) (samples : BitVec 64) :
    source.ring.ReadsAlone samples (tapped.tap.waiting.take samples.toNat)
      (source.read samples).2.ring := by
  unfold WasapiCaptureSource.read
  rw [healthy, if_neg Bool.false_ne_true]
  exact taps.ring.read_alone samples

/-- Over every run in which the calls of the two threads on the ring do not overlap, with
restarts, packets of any size and reads of any size in any order, the source reads like a tap
on what the resampler makes of the blocks of its microphone: nothing is read twice or out of
order, and what was lost is what `droppedFrames` says. -/
theorem wasapi_capture_is_tap {α : Type} [SampleArithmetic α] (fmt : WaveFormat)
    (inputs : List (CaptureInput α)) :
    ∃ source : WasapiCaptureSource α,
      Run.final WasapiCaptureSource.step (some (WasapiCaptureSource.new fmt)) inputs =
        some source ∧
      let tapped := Run.final CaptureTap.step (CaptureTap.new fmt) inputs
      tapped.tap.stream = converted tapped.fmt.rate tapped.heard ∧
        tapped.tap.taken.Sublist tapped.tap.stream ∧
        tapped.tap.stream.length =
          tapped.tap.taken.length + tapped.tap.lost + tapped.tap.waiting.length ∧
        tapped.tap.waiting.length ≤ 16384 ∧
        source.droppedFrames.toNat = (tapped.earlier + tapped.tap.lost) % 2 ^ 64 ∧
        (∀ samples, (source.read samples).1 = tapped.read samples.toNat) ∧
        (∀ packet next, source.onPacket packet = some next →
          ∃ items, source.ring.WritesAlone items next.ring) ∧
        (source.failed = false → ∀ samples, source.ring.ReadsAlone samples
          (tapped.tap.waiting.take samples.toNat) (source.read samples).2.ring) := by
  obtain ⟨source, reached, taps⟩ :=
    WasapiCaptureSource.Taps.run inputs _ _ (WasapiCaptureSource.taps_new fmt)
  have fits := taps.ring.holding.fits
  rw [taps.ring.capacity] at fits
  refine ⟨source, reached, taps.stream, Tap.taken_sublist _, Tap.account _, fits, ?_,
    fun samples => (taps.read samples).1, fun _packet _next => source.onPacket_alone,
    fun healthy samples => taps.read_alone healthy samples⟩
  unfold WasapiCaptureSource.droppedFrames
  rw [taps.ring.overruns, BitVec.toNat_ofNat]

end Capture

end SmartMic.Audio
