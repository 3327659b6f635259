import SmartMic.Audio.Audible
import SmartMic.Audio.SettledOutput
import SmartMic.Audio.WasapiCapture
import SmartMic.Driver.PacedPath

set_option autoImplicit false

/-! The microphone of the PC while no phone is pressed. The capture source, the router and the
link to the driver are put together, with the driver behind the link. Packets of the device,
rounds of the router and ticks of the stream's timer come in any order that keeps the two
rings between empty and full, each a step of its own. Then the application hears the
microphone: every sample, in order, through the limiter.

The clocks of the device, of the service and of the driver are not related to each other. -/

namespace SmartMic.Apps

open SmartMic.Audio SmartMic.Driver

/-! ### The parts together -/

structure PcAudio where
  capture : WasapiCaptureSource Binary32
  router : AudioRouter Binary32
  path : DriverPath

inductive PcCall where
  | packet (packet : CapturePacket Binary32)
  | round (phone : SourceRead Binary32) (now : BitVec 64)
  | timer (now : BitVec 64)

def readOf (answer : SourceStatus × List Binary32) : SourceRead Binary32 :=
  { status := answer.1, samples := fun index => answer.2.getD index 0 }

def PcAudio.around (pc : PcAudio) (phone : SourceRead Binary32) (sinkAccepts : Bool) :
    Surroundings Binary32 :=
  { local_ := readOf (pc.capture.read 960#64).1
    phone := phone
    sinkAccepts := sinkAccepts }

def PcAudio.frame (curves : GainCurves Binary32) (pc : PcAudio) (phone : SourceRead Binary32) :
    List Binary32 :=
  (pc.router.produceFrame curves (pc.around phone true)).outBuf

/-- `router.tick()` between its source and its sink; a source that is not wanted is not read. -/
def PcAudio.round (curves : GainCurves Binary32) (phone : SourceRead Binary32)
    (now : BitVec 64) (pc : PcAudio) : PcAudio :=
  let written := pc.path.link.write pc.path.ring (pc.frame curves phone) now
  { capture :=
      if pc.router.skipsLocal = true ∨ pc.router.wiring.local_ = false then pc.capture
      else (pc.capture.read 960#64).2
    router := pc.router.tick curves (pc.around phone written.1)
    path := if pc.router.wiring.sink then pc.path.withRing written.2 else pc.path }

def PcAudio.step (curves : GainCurves Binary32) (machine : Option PcAudio) (call : PcCall) :
    Option PcAudio :=
  machine.bind fun pc =>
    match call with
    | .packet packet => (pc.capture.onPacket packet).map fun capture =>
        { pc with capture := capture }
    | .round phone now => some (pc.round curves phone now)
    | .timer now =>
        (DriverPath.step (some pc.path) (.stream (.onTimerTick now))).map fun path =>
          { pc with path := path }

/-! ### The pace -/

/-- The tap at the microphone, and how far the router is ahead of the driver. -/
structure MicPace where
  tapped : CaptureTap Binary32
  pace : Pace

namespace MicPace

def step (mic : MicPace) : PcCall → MicPace
  | .packet packet => { mic with tapped := mic.tapped.step (.packet packet) }
  | .round _ now =>
      { tapped := mic.tapped.step (.read 960#64)
        pace := { ahead := mic.pace.ahead + kFrameSamples, beat := now } }
  | .timer now => { mic with pace := mic.pace.step (.stream (.onTimerTick now)) }

/-- Nothing of a packet is lost, a round finds a frame in the one ring and room for it in the
other, and a tick finds a period of a service that is there. -/
def Allowed (mic : MicPace) : PcCall → Prop
  | .packet packet => (mic.tapped.step (.packet packet)).tap.lost = mic.tapped.tap.lost
  | .round _ now =>
      kFrameSamples ≤ mic.tapped.tap.waiting.length ∧
        mic.pace.ahead + kFrameSamples ≤ ringFrames ∧ now ≠ 0#64
  | .timer now => mic.pace.Allowed (.stream (.onTimerTick now))

end MicPace

def roundSamples (calls : List PcCall) : Nat :=
  kFrameSamples * calls.countP fun call =>
    match call with
    | .round _ _ => true
    | _ => false

/-- A sample of the microphone as the application gets it. -/
def throughRouter (config : RouterConfig Binary32) (sample : Binary32) : PcmFrame :=
  toPcm16 (limit (sample * config.localGainLinear))

/-! ### A router that passes the microphone on -/

/-- The router rests on the local source, and nobody has called. -/
structure AtMicrophone (config : RouterConfig Binary32) (router : AudioRouter Binary32) : Prop where
  sound : router.Sound
  gains : config.FiniteGains
  config : router.config = config
  state : router.state = .localActive ∨ router.state = .localOnly
  events : router.events = []
  fadeRest : router.fade.remaining = 0
  gateRest : router.gate.remaining = 0
  source : router.wiring.local_ = true
  sink : router.wiring.sink = true

section Router

variable {config : RouterConfig Binary32} {router : AudioRouter Binary32}

theorem AtMicrophone.wants (at_ : AtMicrophone config router) :
    router.sm.wantsLocal = true ∧ router.sm.wantsPhone = false := by
  have state := at_.state
  unfold AudioRouter.state at state
  unfold SourceStateMachine.wantsLocal SourceStateMachine.wantsPhone
  rcases state with state | state <;> rw [state] <;> exact ⟨rfl, rfl⟩

theorem AtMicrophone.gate_still (at_ : AtMicrophone config router) :
    router.gate.active = false := by
  rw [Bool.eq_false_iff]
  intro moving
  have some_ := (Ramp.active_iff _).mp moving
  rw [at_.gateRest] at some_
  exact absurd some_ (Nat.lt_irrefl 0)

theorem AtMicrophone.reading (at_ : AtMicrophone config router) : router.reading = router := by
  have drained : router.drainEvents = router := by
    unfold AudioRouter.drainEvents
    rw [at_.events]
    have same := at_.events
    cases router
    dsimp only at same
    subst same
    rfl
  have calm : router.state ≠ .errorRecovery ∧ router.state ≠ .phoneArming ∧
      router.state ≠ .phoneActive := by
    rcases at_.state with state | state <;> rw [state] <;> decide
  unfold AudioRouter.reading
  rw [drained]
  unfold AudioRouter.updateTimers
  rw [if_neg calm.1, if_neg fun arming => calm.2.1 arming.1, if_neg fun active => calm.2.2 active.1]

theorem AtMicrophone.reads (at_ : AtMicrophone config router) : router.skipsLocal = false := by
  unfold AudioRouter.skipsLocal
  rw [at_.reading, at_.wants.1]
  rfl

theorem AtMicrophone.ready (at_ : AtMicrophone config router) {around : Surroundings Binary32}
    (answers : around.local_.status ≠ .failed) :
    ∃ localBuf phoneBuf, router.ready around =
      { router with localBuf := localBuf, phoneBuf := phoneBuf } := by
  have ready : router.ready around = router.reading.readSources around := rfl
  rw [ready, at_.reading]
  rcases router.readSources_cases around with heard | ⟨-, failed | failed⟩
  · exact heard
  · unfold AudioRouter.localFails at failed
    rw [decide_eq_false answers, Bool.and_false] at failed
    cases failed
  · unfold AudioRouter.phoneFails at failed
    rw [at_.wants.2, at_.gate_still, Bool.or_false, Bool.and_false, Bool.false_and] at failed
    cases failed

/-- A tick hands the frame of the microphone on, and leaves the router where it was. -/
theorem AtMicrophone.tick (at_ : AtMicrophone config router) {curves : GainCurves Binary32}
    (exact_ : curves.ExactAtLocal) {around : Surroundings Binary32}
    (answers : around.local_.status ≠ .failed) :
    AtMicrophone config (router.tick curves around) ∧
      (router.tick curves around).outBuf = (List.range kFrameSamples).map fun index =>
        limit (around.local_.samples index * config.localGainLinear) := by
  obtain ⟨localBuf, phoneBuf, ready⟩ := at_.ready answers
  obtain ⟨outBuf, limited, sinkFailures, written⟩ := AudioRouter.written_eq curves router around
  have still : (router.produceFrame curves around).writeSink around =
      { router with
        localBuf := localBuf
        phoneBuf := phoneBuf
        outBuf := outBuf
        limited := limited
        sinkFailures := sinkFailures
        frameIndex := router.frameIndex + 1
        framesProduced := router.frameIndex + 1 } := by
    rw [written, ready]
    dsimp only
    rw [Ramp.iterate_of_rest at_.fadeRest, Ramp.iterate_of_rest at_.gateRest]
  have ticked : router.tick curves around =
      (router.produceFrame curves around).writeSink around := by
    rcases AudioRouter.closeFade_cases ((router.produceFrame curves around).writeSink around) with
      ⟨same, -⟩ | ⟨-, returning⟩
    · exact same
    · rw [still] at returning
      change router.state = _ at returning
      rcases at_.state with state | state <;> rw [state] at returning <;> cases returning
  have same : (router.tick curves around).transitions = router.transitions := by
    rw [ticked, still]
  have settling := at_.sound.settling curves (at_.config ▸ at_.gains) around at_.fadeRest
    at_.gateRest same
  have here : (router.ready around).state = .localActive ∨
      (router.ready around).state = .localOnly ∨
      (router.ready around).state = .phoneArming := by
    rw [ready]
    exact at_.state.imp id .inl
  have frame := router.tick_frame curves around
    fun index _inside => settling.frame_local exact_ here index
  have sound := at_.sound.tick curves around
  rw [ready] at frame
  rw [ticked, still] at frame sound ⊢
  refine ⟨⟨sound, at_.gains, at_.config, at_.state, at_.events, at_.fadeRest, at_.gateRest,
    at_.source, at_.sink⟩, ?_⟩
  rw [frame]
  unfold SourceRead.delivered
  dsimp only
  rw [if_pos at_.source, at_.config]

end Router

/-! ### One call -/

/-- The parts are together, and these frames wait in the ring to the driver. -/
structure PcAudio.Speaks (config : RouterConfig Binary32) (pc : PcAudio) (mic : MicPace)
    (waiting : List PcmFrame) : Prop where
  capture : pc.capture.Taps mic.tapped
  running : mic.tapped.running = true
  healthy : mic.tapped.failed = false
  router : AtMicrophone config pc.router
  path : pc.path.Carries mic.pace waiting

theorem map_range_getD {α β : Type} {items : List α} {count : Nat}
    (length : items.length = count) (missing : α) (f : α → β) :
    (List.range count).map (fun index => f (items.getD index missing)) = items.map f := by
  subst length
  apply List.ext_getElem
  · simp
  · intro index _inside inside'
    have here : index < items.length := by simpa using inside'
    simp [here]

theorem CaptureTap.packet_step (tapped : CaptureTap Binary32) (packet : CapturePacket Binary32)
    (kept : (tapped.step (.packet packet)).tap.lost = tapped.tap.lost) :
    (tapped.step (.packet packet)).running = tapped.running ∧
      (tapped.step (.packet packet)).failed = tapped.failed ∧
      (tapped.step (.packet packet)).earlier = tapped.earlier ∧
      tapped.tap.Since (tapped.step (.packet packet)).tap [] := by
  unfold CaptureTap.step at kept ⊢
  dsimp only at kept ⊢
  by_cases ended : tapped.thread = false
  · rw [if_pos ended]
    exact ⟨rfl, rfl, rfl, Tap.since_refl _⟩
  · rw [if_neg ended] at kept ⊢
    exact ⟨rfl, rfl, rfl, (Tap.since_refl _).feed kept⟩

section Calls

variable {config : RouterConfig Binary32} {pc : PcAudio} {mic : MicPace} {waiting : List PcmFrame}

theorem PcAudio.Speaks.answer (speaks : pc.Speaks config mic waiting)
    (there : kFrameSamples ≤ mic.tapped.tap.waiting.length) :
    (pc.capture.read 960#64).1 = (.ok, mic.tapped.tap.waiting.take kFrameSamples) := by
  rw [(speaks.capture.read 960#64).1]
  unfold CaptureTap.read
  rw [speaks.healthy, speaks.running, if_neg Bool.false_ne_true,
    if_neg (show ¬true = false by decide), if_pos (show (960#64).toNat ≤ _ from there),
    Nat.sub_eq_zero_of_le (show (960#64).toNat ≤ _ from there), List.replicate_zero,
    List.append_nil]
  rfl

/-- The frame of a round is the next frame of the microphone through gain and limiter. -/
theorem PcAudio.Speaks.frame (speaks : pc.Speaks config mic waiting) {curves : GainCurves Binary32}
    (exact_ : curves.ExactAtLocal) (there : kFrameSamples ≤ mic.tapped.tap.waiting.length)
    (phone : SourceRead Binary32) (sinkAccepts : Bool) :
    AtMicrophone config (pc.router.tick curves (pc.around phone sinkAccepts)) ∧
      pc.frame curves phone = (mic.tapped.tap.waiting.take kFrameSamples).map
        fun sample => limit (sample * config.localGainLinear) := by
  have answers : ∀ accepts, (pc.around phone accepts).local_.status ≠ .failed := by
    intro accepts failed
    change (pc.capture.read 960#64).1.1 = _ at failed
    rw [speaks.answer there] at failed
    cases failed
  obtain ⟨stays, -⟩ := speaks.router.tick exact_ (answers sinkAccepts)
  obtain ⟨-, out⟩ := speaks.router.tick exact_ (answers true)
  refine ⟨stays, ?_⟩
  have same : pc.frame curves phone = (pc.router.tick curves (pc.around phone true)).outBuf := by
    rw [AudioRouter.tick_outBuf]
    unfold PcAudio.frame AudioRouter.produceFrame AudioRouter.mixAndWrite
    dsimp only
    rw [AudioRouter.mixFold_out, List.nil_append]
  rw [same, out]
  change (List.range kFrameSamples).map (fun index =>
    limit ((pc.capture.read 960#64).1.2.getD index 0 * _)) = _
  rw [speaks.answer there]
  exact map_range_getD (by rw [List.length_take, Nat.min_eq_left there]) 0
    fun sample => limit (sample * config.localGainLinear)

/-- From one state to a later one these samples of the microphone went to the driver. -/
structure PcAudio.Spoke (config : RouterConfig Binary32) (pc next : PcAudio) (mic later : MicPace)
    (waiting rest : List PcmFrame) (samples : List Binary32) : Prop where
  went : pc.path.Went next.path waiting rest (samples.map (throughRouter config))
  since : mic.tapped.tap.Since later.tapped.tap samples
  earlier : later.tapped.earlier = mic.tapped.earlier

theorem PcAudio.Speaks.packet (speaks : pc.Speaks config mic waiting)
    {packet : CapturePacket Binary32}
    (allowed : mic.Allowed (.packet packet)) (curves : GainCurves Binary32) :
    ∃ next, PcAudio.step curves (some pc) (.packet packet) = some next ∧
      next.Speaks config (mic.step (.packet packet)) waiting ∧
      pc.Spoke config next mic (mic.step (.packet packet)) waiting waiting [] := by
  obtain ⟨capture, taken, taps⟩ := speaks.capture.packet packet
  obtain ⟨running, failed, earlier, since⟩ := CaptureTap.packet_step mic.tapped packet allowed
  refine ⟨{ pc with capture := capture }, ?_, ?_, ?_⟩
  · unfold PcAudio.step
    change Option.map _ (pc.capture.onPacket packet) = _
    rw [taken]
    rfl
  · exact
      { capture := taps
        running := running.trans speaks.running
        healthy := failed.trans speaks.healthy
        router := speaks.router
        path := speaks.path }
  · exact
      { went := ⟨(List.append_nil _).symm, rfl, rfl, rfl⟩
        since := since
        earlier := earlier }

theorem PcAudio.Speaks.round (speaks : pc.Speaks config mic waiting) {curves : GainCurves Binary32}
    (exact_ : curves.ExactAtLocal) {phone : SourceRead Binary32} {now : BitVec 64}
    (allowed : mic.Allowed (.round phone now))
    (below : pc.path.ring.header.writeIndex.toNat + kFrameSamples < 2 ^ 64) :
    ∃ next, PcAudio.step curves (some pc) (.round phone now) = some next ∧
      next.Speaks config (mic.step (.round phone now))
        (waiting ++ (mic.tapped.tap.waiting.take kFrameSamples).map (throughRouter config)) ∧
      pc.Spoke config next mic (mic.step (.round phone now)) waiting
        (waiting ++ (mic.tapped.tap.waiting.take kFrameSamples).map (throughRouter config))
        (mic.tapped.tap.waiting.take kFrameSamples) := by
  obtain ⟨there, room, alive⟩ := allowed
  obtain ⟨-, frame⟩ := speaks.frame exact_ there phone true
  have length : (pc.frame curves phone).length = kFrameSamples := by
    rw [frame, List.length_map, List.length_take, Nat.min_eq_left there]
  have sound : (pc.frame curves phone).map toPcm16 =
      (mic.tapped.tap.waiting.take kFrameSamples).map (throughRouter config) := by
    rw [frame, List.map_map]
    rfl
  obtain ⟨path, written, carries, went⟩ := speaks.path.write
    (pc.frame curves phone) now ⟨length ▸ room, alive⟩ (length ▸ below)
  rw [sound] at carries went
  obtain rfl : pc.path.withRing (pc.path.link.write pc.path.ring (pc.frame curves phone) now).2 =
      path := Option.some.inj written
  obtain ⟨stays, -⟩ := speaks.frame exact_ there phone
    (pc.path.link.write pc.path.ring (pc.frame curves phone) now).1
  have rounded : pc.round curves phone now =
      { capture := (pc.capture.read 960#64).2
        router := pc.router.tick curves (pc.around phone
          (pc.path.link.write pc.path.ring (pc.frame curves phone) now).1)
        path := pc.path.withRing
          (pc.path.link.write pc.path.ring (pc.frame curves phone) now).2 } := by
    unfold PcAudio.round
    dsimp only
    rw [if_neg, if_pos speaks.router.sink]
    rintro (skips | unwired)
    · rw [speaks.router.reads] at skips
      cases skips
    · rw [speaks.router.source] at unwired
      cases unwired
  have drawn : (mic.tapped.step (.read 960#64)) =
      { mic.tapped with tap := mic.tapped.tap.draw kFrameSamples } := by
    unfold CaptureTap.step
    dsimp only
    rw [speaks.healthy, if_neg Bool.false_ne_true]
    rfl
  have taps := (speaks.capture.read 960#64).2
  rw [drawn] at taps
  have ahead : mic.pace.step (.write (pc.frame curves phone) now) =
      { ahead := mic.pace.ahead + kFrameSamples, beat := now } := by
    rw [Pace.step_write, length]
  rw [ahead] at carries
  have mic_step : mic.step (.round phone now) =
      { tapped := { mic.tapped with tap := mic.tapped.tap.draw kFrameSamples }
        pace := { ahead := mic.pace.ahead + kFrameSamples, beat := now } } := by
    unfold MicPace.step
    dsimp only
    rw [drawn]
  rw [mic_step]
  refine ⟨pc.round curves phone now, rfl, ?_, ?_⟩
  · rw [rounded]
    exact
      { capture := taps
        running := speaks.running
        healthy := speaks.healthy
        router := stays
        path := carries }
  · rw [rounded]
    exact
      { went := went
        since := (Tap.since_refl _).draw kFrameSamples
        earlier := rfl }

theorem PcAudio.Speaks.timer (speaks : pc.Speaks config mic waiting) {now : BitVec 64}
    (allowed : mic.Allowed (.timer now)) (curves : GainCurves Binary32) :
    ∃ next, PcAudio.step curves (some pc) (.timer now) = some next ∧
      next.Speaks config (mic.step (.timer now)) (waiting.drop notifyFrames) ∧
      pc.Spoke config next mic (mic.step (.timer now)) waiting (waiting.drop notifyFrames) [] := by
  obtain ⟨path, ticked, carries, went⟩ :=
    speaks.path.tick allowed
  have mic_step : mic.step (.timer now) =
      { tapped := mic.tapped, pace := mic.pace.step (.stream (.onTimerTick now)) } := by
    unfold MicPace.step
    rfl
  rw [mic_step]
  refine ⟨{ pc with path := path }, ?_, ?_, ?_⟩
  · unfold PcAudio.step
    rw [Option.bind_some]
    dsimp only
    rw [ticked]
    rfl
  · exact
      { capture := speaks.capture
        running := speaks.running
        healthy := speaks.healthy
        router := speaks.router
        path := carries }
  · exact
      { went := went
        since := Tap.since_refl _
        earlier := rfl }

theorem PcAudio.Spoke.trans {middle last : PcAudio} {later latest : MicPace}
    {kept rest : List PcmFrame} {first second : List Binary32}
    (before : pc.Spoke config middle mic later waiting kept first)
    (after : middle.Spoke config last later latest kept rest second) :
    pc.Spoke config last mic latest waiting rest (first ++ second) :=
  { went := by
      rw [List.map_append]
      exact before.went.trans after.went
    since := before.since.trans after.since
    earlier := after.earlier.trans before.earlier }

theorem PcAudio.Speaks.step (speaks : pc.Speaks config mic waiting) {curves : GainCurves Binary32}
    (exact_ : curves.ExactAtLocal) {call : PcCall} (allowed : mic.Allowed call)
    (below : pc.path.ring.header.writeIndex.toNat + roundSamples [call] < 2 ^ 64) :
    ∃ next rest samples, PcAudio.step curves (some pc) call = some next ∧
      next.Speaks config (mic.step call) rest ∧
      pc.Spoke config next mic (mic.step call) waiting rest samples ∧
      samples.length = roundSamples [call] := by
  cases call with
  | packet packet =>
      obtain ⟨next, stepped, speaks, spoke⟩ := speaks.packet allowed curves
      exact ⟨next, _, _, stepped, speaks, spoke, rfl⟩
  | round phone now =>
      obtain ⟨next, stepped, kept, spoke⟩ := speaks.round exact_ allowed below
      refine ⟨next, _, _, stepped, kept, spoke, ?_⟩
      rw [List.length_take, Nat.min_eq_left allowed.1]
      rfl
  | timer now =>
      obtain ⟨next, stepped, speaks, spoke⟩ := speaks.timer allowed curves
      exact ⟨next, _, _, stepped, speaks, spoke, rfl⟩

theorem roundSamples_cons (call : PcCall) (rest : List PcCall) :
    roundSamples (call :: rest) = roundSamples [call] + roundSamples rest := by
  unfold roundSamples
  rw [← List.singleton_append, List.countP_append, Nat.mul_add]

theorem PcAudio.Speaks.run {curves : GainCurves Binary32} (exact_ : curves.ExactAtLocal)
    (calls : List PcCall) :
    ∀ (pc : PcAudio) (mic : MicPace) (waiting : List PcmFrame), pc.Speaks config mic waiting →
      Run.Meets MicPace.step MicPace.Allowed mic calls →
      pc.path.ring.header.writeIndex.toNat + roundSamples calls < 2 ^ 64 →
      ∃ last rest samples, Run.final (PcAudio.step curves) (some pc) calls = some last ∧
        last.Speaks config (Run.final MicPace.step mic calls) rest ∧
        pc.Spoke config last mic (Run.final MicPace.step mic calls) waiting rest samples ∧
        samples.length = roundSamples calls := by
  induction calls with
  | nil =>
      intro pc mic waiting speaks _paced _below
      refine ⟨pc, waiting, [], rfl, speaks, ?_, rfl⟩
      exact ⟨⟨(List.append_nil _).symm, rfl, rfl, rfl⟩, Tap.since_refl _, rfl⟩
  | cons call calls ih =>
      intro pc mic waiting speaks paced below
      rw [roundSamples_cons] at below
      obtain ⟨next, kept, first, stepped, still, spoke, taken⟩ :=
        speaks.step exact_ paced.1 (by omega)
      have writer := spoke.went.writer
      rw [List.length_map, taken] at writer
      obtain ⟨last, rest, later, reached, still, spokeLater, takenLater⟩ :=
        ih next _ kept still paced.2 (by omega)
      refine ⟨last, rest, first ++ later, ?_, still, spoke.trans spokeLater, ?_⟩
      · rw [Run.final_cons, stepped, reached]
      · rw [List.length_append, taken, takenLater]
        exact (roundSamples_cons call calls).symm

end Calls

theorem AudioRouter.final_wiring (curves : GainCurves Binary32) (config : RouterConfig Binary32)
    (wiring : Wiring) (inputs : List (RouterInput Binary32)) :
    (Run.final (AudioRouter.step curves) (AudioRouter.initial config wiring) inputs).wiring =
      wiring := by
  apply Run.invariant_always (fun router : AudioRouter Binary32 => router.wiring = wiring)
  · intro router input same
    cases input with
    | control call =>
        obtain ⟨events, lastHeartbeatFrame, called⟩ := router.control_eq call
        change (router.control call).wiring = wiring
        rw [called]
        exact same
    | tick around => exact (AudioRouter.tick_wiring router curves around).trans same
  · rfl

/-- From any state that its own calls can lead to in which the source runs, the router rests on
the microphone and the stream is set running: in every run of packets, rounds and ticks that
keeps the two rings between empty and full, the application hears exactly the samples of the
converted microphone stream that the rounds took, from the first that was waiting on, through
gain, limiter and 16 bits, in order and without a gap, but for those that still wait in the
driver's ring. -/
theorem microphone_reaches_application (curves : GainCurves Binary32)
    (exact_ : curves.ExactAtLocal) (fmt : WaveFormat) (inputs : List (CaptureInput Binary32))
    (capture : WasapiCaptureSource Binary32)
    (captured : Run.final WasapiCaptureSource.step (some (WasapiCaptureSource.new fmt)) inputs =
      some capture)
    (running : capture.running = true) (healthy : capture.failed = false)
    (config : RouterConfig Binary32) (gains : config.FiniteGains) (wiring : Wiring)
    (wired : wiring.local_ = true ∧ wiring.sink = true)
    (routed : List (RouterInput Binary32)) (router : AudioRouter Binary32)
    (routes : Run.final (AudioRouter.step curves) (AudioRouter.initial config wiring) routed =
      router)
    (state : router.state = .localActive ∨ router.state = .localOnly)
    (events : router.events = []) (rest : router.fade.remaining = 0 ∧ router.gate.remaining = 0)
    (ring : SharedRing) (memory : Nat → BitVec 8) (before : List PathCall)
    (fits : ∀ call ∈ before, call.Fits) (path : DriverPath)
    (reached : Run.final DriverPath.step (some (.init ring memory)) before = some path)
    (attached : path.link.attached = true) (mapped : path.buffer.stream.bufferVa = true)
    (period : path.buffer.stream.bytesPerNotification = 960#32)
    (calls : List PcCall)
    (paced : Run.Meets MicPace.step MicPace.Allowed
      { tapped := Run.final CaptureTap.step (CaptureTap.new fmt) inputs, pace := .start } calls)
    (words : path.ring.header.writeIndex.toNat + roundSamples calls < 2 ^ 64) :
    let start : MicPace :=
      { tapped := Run.final CaptureTap.step (CaptureTap.new fmt) inputs, pace := .start }
    let finish := Run.final MicPace.step start calls
    let stream := converted finish.tapped.fmt.rate finish.tapped.heard
    ∃ opened last waiting,
      DriverPath.step (some path) (.stream (.setState .run)) = some opened ∧
        Run.final (PcAudio.step curves)
          (some { capture := capture, router := router, path := opened }) calls = some last ∧
        path.buffer.heard ++ ((stream.drop start.tapped.tap.position).take
            (roundSamples calls)).map (throughRouter config) =
          last.path.buffer.heard ++ waiting ∧
        waiting.length = finish.pace.ahead ∧
        Circular.Recent last.path.buffer.stream.bufferBytes.toNat last.path.buffer.memory
          (pcmBytes last.path.buffer.heard) ∧
        last.capture.droppedFrames = capture.droppedFrames ∧
        last.path.ring.header.underrunCount = path.ring.header.underrunCount ∧
        last.path.ring.header.overrunCount = path.ring.header.overrunCount := by
  intro start finish stream
  obtain ⟨source, found, taps⟩ :=
    WasapiCaptureSource.Taps.run inputs _ _ (WasapiCaptureSource.taps_new fmt)
  rw [captured] at found
  obtain rfl : capture = source := Option.some.inj found
  have settled : AtMicrophone config router := by
    subst routes
    exact
      { sound := AudioRouter.sound_final curves config wiring routed
        config := AudioRouter.final_config curves config wiring routed
        gains := gains
        state := state
        events := events
        fadeRest := rest.1
        gateRest := rest.2
        source := by rw [AudioRouter.final_wiring, wired.1]
        sink := by rw [AudioRouter.final_wiring, wired.2] }
  obtain ⟨same, kept, faithful⟩ :=
    DriverPath.faithful_run before fits (.init ring memory)
      (CaptureBuffer.faithful_init ring memory)
  rw [reached] at kept
  obtain rfl : path = same := Option.some.inj kept
  obtain ⟨opened, opens, carries, first⟩ :=
    DriverPath.carries_run faithful attached mapped period
  have speaks : PcAudio.Speaks config { capture := capture, router := router, path := opened }
      start [] :=
    { capture := taps
      running := taps.running ▸ running
      healthy := taps.failed ▸ healthy
      router := settled
      path := carries }
  obtain ⟨last, waiting, samples, ran, still, spoke, taken⟩ := PcAudio.Speaks.run exact_ calls _
    start [] speaks paced (by
      have writer := first.writer
      change opened.ring.header.writeIndex.toNat + _ < _
      rw [writer]
      exact words)
  have went := first.trans spoke.went
  refine ⟨opened, last, waiting, opens, ran, ?_, still.path.level, ?_, ?_, went.underruns,
    went.overruns⟩
  · have flow := went.flow
    rw [List.append_nil, List.nil_append] at flow
    have items := spoke.since.items
    rw [taken, still.capture.stream] at items
    rw [flow, ← items]
  · exact (still.path.faithful.filled still.path.mapped).recent.of_replicate
  · change last.capture.ring.overruns_ = capture.ring.overruns_
    rw [still.capture.ring.overruns, taps.ring.overruns, spoke.since.lost, spoke.earlier]

/-! ### One frame -/

def monoFloats : WaveFormat :=
  { tag := .ieeeFloat, channels := 1#16, rate := 48000#32, blockAlign := 4#16, bits := 32#16 }

def startedTap : CaptureTap Binary32 :=
  Run.final CaptureTap.step (CaptureTap.new monoFloats) [.start (.started monoFloats)]

def tone (index : Nat) : Binary32 :=
  if index % 2 = 0 then .ofExact _ (1 / 2) else .ofExact _ (-1 / 4)

def tonePacket : CapturePacket Binary32 :=
  { silent := false
    data := { floats := tone, shorts := fun _ => 0#16, longs := fun _ => 0#32 }
    frames := 960#32 }

/-- A packet, the round that takes it, and the two ticks that take the frame. -/
def oneFrameOn : List PcCall :=
  [.packet tonePacket, .round { status := .underrun, samples := silentFrame } 2#64,
    .timer 3#64, .timer 4#64]

theorem tonePacket_mono : tonePacket.mono monoFloats = (List.range 960).map tone := by
  unfold CapturePacket.mono
  rw [if_neg (show ¬tonePacket.silent = true by decide)]
  unfold toMonoFloat
  apply List.map_congr_left
  intro index _inside
  have single : monoSample monoFloats tonePacket.data index =
      Floating.per (0 + tone (index * 1 + 0)) 1 := rfl
  rw [single, Floating.zero_plus, Floating.per_one, Nat.mul_one, Nat.add_zero]

theorem tonePacket_length : (tonePacket.mono monoFloats).length = 960 := by
  rw [tonePacket_mono, List.length_map, List.length_range]

theorem tonePacket_through :
    converted 48000#32 [tonePacket.mono monoFloats] = tonePacket.mono monoFloats := by
  have sized : ∀ block ∈ [tonePacket.mono monoFloats], BlockSized block := by
    intro block member
    rw [List.mem_singleton.mp member]
    unfold BlockSized
    rw [tonePacket_length]
    decide
  rw [converted_through (by decide) sized, List.flatten_singleton]

theorem startedTap_hear {block : List Binary32} (through : converted 48000#32 [block] = block) :
    (startedTap.hear block).tap = (Tap.fresh : Tap Binary32).feed 16384 block := by
  change (Tap.fresh : Tap Binary32).feed 16384 ((converted 48000#32 [block]).drop 0) = _
  rw [through, List.drop_zero]

theorem startedTap_packet :
    (startedTap.step (.packet tonePacket)).tap.lost = 0 ∧
      (startedTap.step (.packet tonePacket)).tap.waiting.length = kFrameSamples := by
  have heard : startedTap.step (.packet tonePacket) =
      startedTap.hear (tonePacket.mono monoFloats) := by
    unfold CaptureTap.step
    dsimp only
    rw [if_neg (show ¬startedTap.thread = false by decide)]
    rfl
  have none_ : (Tap.fresh : Tap Binary32).overflow 16384 (tonePacket.mono monoFloats) = 0 := by
    unfold Tap.overflow
    rw [tonePacket_length]
    rfl
  rw [heard, startedTap_hear tonePacket_through]
  constructor
  · rw [Tap.feed_lost, none_]
    rfl
  · rw [Tap.feed_waiting, none_, List.drop_zero, List.length_append, tonePacket_length]
    rfl

theorem oneFrameOn_paced : Run.Meets MicPace.step MicPace.Allowed
    { tapped := startedTap, pace := .start } oneFrameOn := by
  obtain ⟨lost, waits⟩ := startedTap_packet
  refine ⟨lost, ⟨?_, by decide, by decide⟩, ⟨by decide, by decide, by decide⟩, ?_⟩
  · exact Nat.le_of_eq waits.symm
  · refine ⟨?_, trivial⟩
    unfold MicPace.step
    dsimp only
    rw [Pace.step_tick]
    exact ⟨by decide, by decide, by decide⟩

theorem tone_quantised (index : Nat) :
    throughRouter {} (tone index) = if index % 2 = 0 then 0x4000#16 else 0xe000#16 := by
  unfold tone
  split
  · decide +kernel
  · decide +kernel

open DriverPath in
theorem microphone_reaches_application_tone :
    ∃ capture path opened last,
      Run.final WasapiCaptureSource.step (some (WasapiCaptureSource.new monoFloats))
          [.start (.started monoFloats)] = some capture ∧
        Run.final DriverPath.step (some (.init SharedRing.initialize fun _place => 0#8))
          attachedCalls = some path ∧
        DriverPath.step (some path) (.stream (.setState .run)) = some opened ∧
        Run.final (PcAudio.step (straightCurves cosineHalfPi))
            (some { capture := capture
                    router := .initial {} fullyWired
                    path := opened }) oneFrameOn = some last ∧
        last.path.buffer.heard = (List.range kFrameSamples).map fun index =>
          if index % 2 = 0 then 0x4000#16 else 0xe000#16 := by
  obtain ⟨opened, last, waiting, opens, ran, flow, level, -, -, -, -⟩ :=
    microphone_reaches_application (straightCurves cosineHalfPi)
      (straightCurves_exactAtLocal cosineHalfPi) monoFloats
      [.start (.started monoFloats)] _ rfl rfl rfl {} unityGains_finite fullyWired ⟨rfl, rfl⟩ [] _
      rfl (.inl rfl) rfl ⟨rfl, rfl⟩ SharedRing.initialize (fun _place => 0#8) attachedCalls
      (by
        intro call member
        fin_cases member
        · trivial
        · exact .inl (by decide)) _ rfl rfl rfl (by decide) oneFrameOn oneFrameOn_paced
      (by decide)
  have drained : (Run.final MicPace.step { tapped := startedTap, pace := .start }
      oneFrameOn).pace.ahead = 0 := rfl
  refine ⟨_, _, opened, last, rfl, rfl, opens, ran, ?_⟩
  obtain rfl : waiting = [] := List.eq_nil_of_length_eq_zero (level.trans drained)
  have stream : ((converted 48000#32 [tonePacket.mono monoFloats]).drop 0).take
      (roundSamples oneFrameOn) = (List.range 960).map tone := by
    rw [tonePacket_through, List.drop_zero, tonePacket_mono]
    apply List.take_of_length_le
    rw [List.length_map, List.length_range]
    exact (show roundSamples oneFrameOn = 960 from rfl).ge
  change ([] : List PcmFrame) ++ (((converted 48000#32 [tonePacket.mono monoFloats]).drop 0).take
    (roundSamples oneFrameOn)).map (throughRouter {}) = _ at flow
  rw [stream, List.nil_append, List.append_nil, List.map_map] at flow
  rw [← flow]
  exact List.map_congr_left fun index _inside => tone_quantised index

end SmartMic.Apps
