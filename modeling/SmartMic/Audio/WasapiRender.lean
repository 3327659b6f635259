import SmartMic.Audio.WasapiCapture
import SmartMic.Support.Simulation

set_option autoImplicit false

/-! The end of the audio service at a render device of the PC. The router writes into a ring
as long as the sink runs; the render thread fills what is free in the buffer of the device.
The ring is a tap here as well, with the device as the reader, and what the device finds
missing is silence and is counted. The calls of the two threads on the ring are taken not to
overlap, as at a microphone. -/

namespace SmartMic.Audio

structure WasapiRenderSink (α : Type) where
  mixFormat : WaveFormat
  bufferFrames : BitVec 32
  ring : RingBuffer α
  running : Bool
  /-- The render thread, from `start` until `stop` has joined it. -/
  thread : Bool

/-- How a `start` ends, as at a microphone; a device also has the length of its buffer. -/
inductive RenderStart where
  | refused
  | stalled (fmt : WaveFormat) (bufferFrames : BitVec 32)
  | started (fmt : WaveFormat) (bufferFrames : BitVec 32)

inductive RenderInput (α : Type) where
  | start (outcome : RenderStart)
  | write (samples : List α)
  /-- The event of the device, the padding it reports, and whether it hands out a buffer. -/
  | event (padding : BitVec 32) (granted : Bool)
  | stop
  | joined

section Render

variable {α : Type} [SampleArithmetic α]

def WasapiRenderSink.new (fmt : WaveFormat) : WasapiRenderSink α :=
  { mixFormat := fmt
    bufferFrames := 0#32
    ring := RingBuffer.new (millisToSamples 200#32)
    running := false
    thread := false }

def WasapiRenderSink.reset (sink : WasapiRenderSink α) (fmt : WaveFormat)
    (bufferFrames : BitVec 32) : WasapiRenderSink α :=
  { sink with
    mixFormat := fmt
    bufferFrames := bufferFrames
    ring := sink.ring.clear }

def WasapiRenderSink.start (sink : WasapiRenderSink α) (outcome : RenderStart) :
    WasapiRenderSink α :=
  if sink.running then sink
  else
    match outcome with
    | .refused => sink
    | .stalled fmt bufferFrames => sink.reset fmt bufferFrames
    | .started fmt bufferFrames =>
        { sink.reset fmt bufferFrames with running := true, thread := true }

def WasapiRenderSink.write (sink : WasapiRenderSink α) (samples : List α) :
    Bool × WasapiRenderSink α :=
  if sink.running = false then (false, sink)
  else (true, { sink with ring := (sink.ring.write samples).1 })

/-- How much of the device buffer the render thread fills after its event. -/
def available (thread : Bool) (bufferFrames padding : BitVec 32) (granted : Bool) :
    Option (BitVec 32) :=
  if thread = false then none
  else if bufferFrames - padding = 0#32 then none
  else if granted = false then none
  else some (bufferFrames - padding)

/-- One turn of the render loop: what the device gets to play, if anything. -/
def WasapiRenderSink.onEvent (sink : WasapiRenderSink α) (padding : BitVec 32) (granted : Bool) :
    Option (DeviceOutput α) × WasapiRenderSink α :=
  match available sink.thread sink.bufferFrames padding granted with
  | none => (none, sink)
  | some frames =>
      let got := sink.ring.readOrSilence (frames.setWidth 64)
      (some (fromMonoFloat sink.mixFormat got.destination), { sink with ring := got.buffer })

def WasapiRenderSink.underrunCount (sink : WasapiRenderSink α) : BitVec 64 :=
  sink.ring.underruns_

def WasapiRenderSink.step (sink : WasapiRenderSink α) : RenderInput α → WasapiRenderSink α
  | .start outcome => sink.start outcome
  | .write samples => (sink.write samples).2
  | .event padding granted => (sink.onEvent padding granted).2
  | .stop => { sink with running := false }
  | .joined => { sink with thread := sink.thread && sink.running }

def WasapiRenderSink.plays (sink : WasapiRenderSink α) : RenderInput α → Option (DeviceOutput α)
  | .event padding granted => (sink.onEvent padding granted).1
  | _ => none

/-! ### The sink as a tap -/

/-- What the sink is for: a tap on what the router has written since the last start. -/
structure RenderTap (α : Type) where
  fmt : WaveFormat
  bufferFrames : BitVec 32
  tap : Tap α
  /-- The losses before the last start. -/
  earlier : Nat
  /-- The frames that were silence because nothing was there. -/
  silent : Nat
  running : Bool
  thread : Bool

namespace RenderTap

def new (fmt : WaveFormat) : RenderTap α :=
  { fmt := fmt
    bufferFrames := 0#32
    tap := .fresh
    earlier := 0
    silent := 0
    running := false
    thread := false }

def reset (tapped : RenderTap α) (fmt : WaveFormat) (bufferFrames : BitVec 32) : RenderTap α :=
  { tapped with
    fmt := fmt
    bufferFrames := bufferFrames
    tap := .fresh
    earlier := tapped.earlier + tapped.tap.lost }

def start (tapped : RenderTap α) (outcome : RenderStart) : RenderTap α :=
  if tapped.running then tapped
  else
    match outcome with
    | .refused => tapped
    | .stalled fmt bufferFrames => tapped.reset fmt bufferFrames
    | .started fmt bufferFrames =>
        { tapped.reset fmt bufferFrames with running := true, thread := true }

def play (tapped : RenderTap α) (frames : Nat) : RenderTap α :=
  { tapped with
    tap := tapped.tap.draw frames
    silent := tapped.silent + (frames - tapped.tap.waiting.length) }

def frames (tapped : RenderTap α) (count : Nat) : List α :=
  tapped.tap.waiting.take count ++ List.replicate (count - tapped.tap.waiting.length) 0

def step (tapped : RenderTap α) : RenderInput α → RenderTap α
  | .start outcome => tapped.start outcome
  | .write samples =>
      if tapped.running = false then tapped
      else { tapped with tap := tapped.tap.feed 16384 samples }
  | .event padding granted =>
      match available tapped.thread tapped.bufferFrames padding granted with
      | none => tapped
      | some count => tapped.play count.toNat
  | .stop => { tapped with running := false }
  | .joined => { tapped with thread := tapped.thread && tapped.running }

def plays (tapped : RenderTap α) : RenderInput α → Option (DeviceOutput α)
  | .event padding granted =>
      (available tapped.thread tapped.bufferFrames padding granted).map fun count =>
        fromMonoFloat tapped.fmt (tapped.frames count.toNat)
  | _ => none

end RenderTap

structure WasapiRenderSink.Taps (sink : WasapiRenderSink α) (tapped : RenderTap α) : Prop where
  ring : sink.ring.Taps tapped.tap tapped.earlier
  underruns : sink.ring.underruns_ = BitVec.ofNat 64 tapped.silent
  fmt : sink.mixFormat = tapped.fmt
  bufferFrames : sink.bufferFrames = tapped.bufferFrames
  running : sink.running = tapped.running
  thread : sink.thread = tapped.thread

variable {sink : WasapiRenderSink α} {tapped : RenderTap α}

theorem WasapiRenderSink.taps_new (fmt : WaveFormat) :
    (WasapiRenderSink.new fmt : WasapiRenderSink α).Taps (RenderTap.new fmt) :=
  { ring := RingBuffer.taps_new
    underruns := rfl
    fmt := rfl
    bufferFrames := rfl
    running := rfl
    thread := rfl }

omit [SampleArithmetic α] in
theorem WasapiRenderSink.Taps.reset (taps : sink.Taps tapped) (fmt : WaveFormat)
    (bufferFrames : BitVec 32) :
    (sink.reset fmt bufferFrames).Taps (tapped.reset fmt bufferFrames) :=
  { ring := taps.ring.clear
    underruns := taps.underruns
    fmt := rfl
    bufferFrames := rfl
    running := taps.running
    thread := taps.thread }

omit [SampleArithmetic α] in
theorem WasapiRenderSink.Taps.start (taps : sink.Taps tapped) (outcome : RenderStart) :
    (sink.start outcome).Taps (tapped.start outcome) := by
  unfold WasapiRenderSink.start RenderTap.start
  rw [← taps.running]
  cases running : sink.running with
  | true => exact taps
  | false =>
      cases outcome with
      | refused => exact taps
      | stalled fmt bufferFrames => exact taps.reset fmt bufferFrames
      | started fmt bufferFrames =>
          exact { taps.reset fmt bufferFrames with running := rfl, thread := rfl }

omit [SampleArithmetic α] in
theorem WasapiRenderSink.Taps.write (taps : sink.Taps tapped) (samples : List α) :
    (sink.write samples).2.Taps (tapped.step (.write samples)) := by
  unfold WasapiRenderSink.write RenderTap.step
  dsimp only
  rw [← taps.running]
  by_cases stopped : sink.running = false
  · rw [if_pos stopped, if_pos stopped]
    exact taps
  · rw [if_neg stopped, if_neg stopped]
    have fits := taps.ring.holding.fits
    rw [taps.ring.capacity] at fits
    have wrote := taps.ring.holding.write samples (by rw [taps.ring.capacity]; omega)
    exact
      { taps with
        ring := taps.ring.write
        underruns := wrote.underruns.trans taps.underruns
        running := rfl }

theorem WasapiRenderSink.Taps.event (taps : sink.Taps tapped) (padding : BitVec 32)
    (granted : Bool) :
    (sink.onEvent padding granted).1 = tapped.plays (.event padding granted) ∧
      (sink.onEvent padding granted).2.Taps (tapped.step (.event padding granted)) := by
  have free : available sink.thread sink.bufferFrames padding granted =
      available tapped.thread tapped.bufferFrames padding granted := by
    rw [taps.thread, taps.bufferFrames]
  unfold WasapiRenderSink.onEvent RenderTap.plays RenderTap.step
  dsimp only
  rw [free]
  cases available tapped.thread tapped.bufferFrames padding granted with
  | none => exact ⟨rfl, taps⟩
  | some count =>
      obtain ⟨ring, destination, -⟩ := taps.ring.readOrSilence (count.setWidth 64)
      have took := taps.ring.holding.readOrSilence (count.setWidth 64)
      have width : (count.setWidth 64).toNat = count.toNat :=
        BitVec.toNat_setWidth_of_le (by decide)
      rw [width] at ring destination
      constructor
      · dsimp only
        rw [destination, taps.fmt]
        rfl
      · exact
          { taps with
            ring := ring
            underruns := by
              change (sink.ring.readOrSilence (count.setWidth 64)).buffer.underruns_ = _
              rw [took.underruns, taps.underruns, ← BitVec.ofNat_add, width]
              rfl }

theorem WasapiRenderSink.Taps.step (taps : sink.Taps tapped) (input : RenderInput α) :
    sink.plays input = tapped.plays input ∧ (sink.step input).Taps (tapped.step input) := by
  cases input with
  | start outcome => exact ⟨rfl, taps.start outcome⟩
  | write samples => exact ⟨rfl, taps.write samples⟩
  | event padding granted => exact taps.event padding granted
  | stop => exact ⟨rfl, { taps with running := rfl }⟩
  | joined =>
      refine ⟨rfl, { taps with thread := ?_ }⟩
      change (sink.thread && sink.running) = _
      rw [taps.thread, taps.running]
      rfl

theorem WasapiRenderSink.Taps.run (inputs : List (RenderInput α)) :
    ∀ (sink : WasapiRenderSink α) (tapped : RenderTap α), sink.Taps tapped →
      Run.observed WasapiRenderSink.step WasapiRenderSink.plays sink inputs =
          Run.observed RenderTap.step RenderTap.plays tapped inputs ∧
        (Run.final WasapiRenderSink.step sink inputs).Taps
          (Run.final RenderTap.step tapped inputs) := by
  induction inputs with
  | nil => exact fun _sink _tapped taps => ⟨rfl, taps⟩
  | cons input rest ih =>
      intro sink tapped taps
      obtain ⟨played, next⟩ := taps.step input
      obtain ⟨later, last⟩ := ih _ _ next
      refine ⟨?_, last⟩
      rw [Run.observed_cons, Run.observed_cons, played, later]

omit [SampleArithmetic α] in
theorem WasapiRenderSink.write_alone (runs : sink.running = true) (samples : List α) :
    sink.ring.WritesAlone samples (sink.write samples).2.ring := by
  unfold WasapiRenderSink.write
  rw [runs, if_neg (by decide)]
  exact sink.ring.write_alone samples

theorem WasapiRenderSink.Taps.event_alone (taps : sink.Taps tapped) {padding : BitVec 32}
    {granted : Bool} {frames : BitVec 32}
    (takes : available sink.thread sink.bufferFrames padding granted = some frames) :
    sink.ring.ReadsAlone (frames.setWidth 64) (tapped.tap.waiting.take frames.toNat)
      (sink.onEvent padding granted).2.ring := by
  have width : (frames.setWidth 64).toNat = frames.toNat :=
    BitVec.toNat_setWidth_of_le (by decide)
  unfold WasapiRenderSink.onEvent
  rw [takes, ← width]
  exact taps.ring.read_alone (frames.setWidth 64)

/-- Over every run in which the calls of the two threads on the ring do not overlap, the device
is given what a tap on the writes of the router gives: every sample at most once and in order,
silence where nothing waits, and both what was lost and what was missing are counted. -/
theorem wasapi_render_is_tap {α : Type} [SampleArithmetic α] (fmt : WaveFormat)
    (inputs : List (RenderInput α)) :
    let sink := Run.final WasapiRenderSink.step (WasapiRenderSink.new fmt) inputs
    let tapped := Run.final RenderTap.step (RenderTap.new fmt) inputs
    Run.observed WasapiRenderSink.step WasapiRenderSink.plays (WasapiRenderSink.new fmt) inputs =
        Run.observed RenderTap.step RenderTap.plays (RenderTap.new fmt) inputs ∧
      tapped.tap.taken.Sublist tapped.tap.stream ∧
      tapped.tap.stream.length =
        tapped.tap.taken.length + tapped.tap.lost + tapped.tap.waiting.length ∧
      tapped.tap.waiting.length ≤ 16384 ∧
      sink.underrunCount.toNat = tapped.silent % 2 ^ 64 ∧
      (∀ samples, (sink.write samples).1 = tapped.running) ∧
      (sink.running = true → ∀ samples,
        sink.ring.WritesAlone samples (sink.write samples).2.ring) ∧
      ∀ padding granted frames,
        available sink.thread sink.bufferFrames padding granted = some frames →
        sink.ring.ReadsAlone (frames.setWidth 64) (tapped.tap.waiting.take frames.toNat)
          (sink.onEvent padding granted).2.ring := by
  obtain ⟨played, taps⟩ :=
    WasapiRenderSink.Taps.run inputs _ _ (WasapiRenderSink.taps_new fmt)
  dsimp only
  have fits := taps.ring.holding.fits
  rw [taps.ring.capacity] at fits
  refine ⟨played, Tap.taken_sublist _, Tap.account _, fits, ?_, fun samples => ?_,
    fun runs samples => WasapiRenderSink.write_alone runs samples,
    fun _padding _granted _frames takes => taps.event_alone takes⟩
  · unfold WasapiRenderSink.underrunCount
    rw [taps.underruns, BitVec.toNat_ofNat]
  · unfold WasapiRenderSink.write
    rw [← taps.running]
    split
    · rename_i stopped
      exact stopped.symm
    · rename_i runs
      exact (Bool.eq_true_of_not_eq_false runs).symm

end Render

end SmartMic.Audio
