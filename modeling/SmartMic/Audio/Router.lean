import SmartMic.Support.Run
import SmartMic.Audio.Crossfade
import SmartMic.Audio.SourceStateMachine

set_option autoImplicit false

/-! `AudioRouter`: the component that decides what the world hears, one frame per
tick.

Control methods post events that the next tick drains. A call is atomic here and
falls between two ticks; the posting itself is a bounded queue that drops its
oldest event. What the sources return and whether the sink accepts a frame is
the environment of a tick. The device registry is not part of this module. -/

namespace SmartMic.Audio

inductive SourceStatus where
  | ok
  | underrun
  | failed
  deriving DecidableEq, Repr

/-- One canonical frame, by sample index; indices from `kFrameSamples` on lie
outside the frame. -/
abbrev AudioFrame (α : Type := Sample) := Nat → α

def silentFrame {α : Type} [SampleArithmetic α] : AudioFrame α := fun _ => 0

structure SourceRead (α : Type := Sample) where
  status : SourceStatus
  samples : AudioFrame α

structure RouterConfig (α : Type := Sample) [SampleArithmetic α] where
  crossfadeMs : BitVec 32 := 15#32
  armTimeoutMs : BitVec 32 := 1500#32
  phoneLostTimeoutMs : BitVec 32 := 600#32
  localGainLinear : α := 1
  phoneGainLinear : α := 1

/-- The sources and the sink as `setLocalSource`, `setPhoneSource` and `setSink`
left them: a null pointer is an absent one. -/
structure Wiring where
  local_ : Bool
  phone : Bool
  sink : Bool

structure AudioRouter (α : Type := Sample) [SampleArithmetic α] where
  config : RouterConfig α
  wiring : Wiring
  sm : SourceStateMachine
  fade : Crossfade α
  gate : GainRamp α
  localBuf : AudioFrame α
  phoneBuf : AudioFrame α
  outBuf : List α
  events : List Event
  frameIndex : Nat
  armStartedFrame : Nat
  lastHeartbeatFrame : Nat
  framesProduced : Nat
  transitions : Nat
  phoneLost : Nat
  armTimeouts : Nat
  sourceFailures : Nat
  sinkFailures : Nat
  limited : Nat
  /-- What `applyEvent` was called with and the transition it made, oldest first. -/
  applied : List (Event × Transition)

section

variable {α : Type} [SampleArithmetic α]

def AudioRouter.initial (config : RouterConfig α) (wiring : Wiring) : AudioRouter α :=
  { config := config
    wiring := wiring
    sm := SourceStateMachine.initial
    fade := Crossfade.initial.snapTo 0
    gate := GainRamp.initial 1
    localBuf := silentFrame
    phoneBuf := silentFrame
    outBuf := List.replicate kFrameSamples 0
    events := []
    frameIndex := 0
    armStartedFrame := 0
    lastHeartbeatFrame := 0
    framesProduced := 0
    transitions := 0
    phoneLost := 0
    armTimeouts := 0
    sourceFailures := 0
    sinkFailures := 0
    limited := 0
    applied := [] }

def AudioRouter.state (router : AudioRouter α) : SourceState := router.sm.state

def AudioRouter.mode (router : AudioRouter α) : RoutingMode := router.sm.mode

def framesFor (ms : BitVec 32) : Nat := max 1 (ms.toNat / kFrameMillis)

/-- The difference of two 64-bit frame clocks, wrapping below zero. -/
def framesSince (start now : Nat) : Nat :=
  if start ≤ now then now - start else now + 2 ^ 64 - start

/-! ### Control surface -/

def eventCapacity : Nat := 256

/-- A one-item write to the event ring: a full ring loses its oldest event. -/
def post (events : List Event) (event : Event) : List Event :=
  (events ++ [event]).drop (events.length + 1 - eventCapacity)

def AudioRouter.setMode (router : AudioRouter α) (mode : RoutingMode) : AudioRouter α :=
  match mode with
  | .auto => { router with events := post router.events .modeAuto }
  | .phoneOnly => { router with events := post router.events .modePhoneOnly }
  | .localOnly => { router with events := post router.events .modeLocalOnly }
  | .mute => { router with events := post router.events .modeMute }

/-- The request itself counts as liveness. -/
def AudioRouter.startPtt (router : AudioRouter α) : AudioRouter α :=
  { router with
    lastHeartbeatFrame := router.framesProduced
    events := post router.events .startPtt }

def AudioRouter.stopPtt (router : AudioRouter α) : AudioRouter α :=
  { router with events := post router.events .stopPtt }

def AudioRouter.notifyPhoneReady (router : AudioRouter α) : AudioRouter α :=
  { router with
    lastHeartbeatFrame := router.framesProduced
    events := post router.events .phoneReady }

def AudioRouter.notifyPhoneHeartbeat (router : AudioRouter α) : AudioRouter α :=
  { router with lastHeartbeatFrame := router.framesProduced }

def AudioRouter.notifyPhoneGone (router : AudioRouter α) : AudioRouter α :=
  { router with events := post router.events .phoneLost }

inductive Control where
  | setMode (mode : RoutingMode)
  | startPtt
  | stopPtt
  | notifyPhoneReady
  | notifyPhoneHeartbeat
  | notifyPhoneGone
  deriving DecidableEq, Repr

def AudioRouter.control (router : AudioRouter α) : Control → AudioRouter α
  | .setMode mode => router.setMode mode
  | .startPtt => router.startPtt
  | .stopPtt => router.stopPtt
  | .notifyPhoneReady => router.notifyPhoneReady
  | .notifyPhoneHeartbeat => router.notifyPhoneHeartbeat
  | .notifyPhoneGone => router.notifyPhoneGone

/-! ### Audio thread -/

/-- Whether the gate is closed in this state. -/
def SourceState.silent (state : SourceState) : Bool :=
  decide (state = .muted ∨ state = .errorRecovery)

def AudioRouter.applyEvent (router : AudioRouter α) (event : Event) : AudioRouter α :=
  let (machine, transition) := router.sm.apply event
  let router := { router with
    sm := machine
    applied := router.applied ++ [(event, transition)] }
  if transition.accepted = false then router
  else if transition.changed = false then router
  else
    -- the gate is opened or closed on a ramp, never as a step
    let router := { router with
      transitions := router.transitions + 1
      gate := router.gate.rampTo (if transition.to_.silent then 0 else 1)
        router.config.crossfadeMs }
    match transition.to_ with
    | .phoneActive | .phoneOnly =>
        { router with fade := router.fade.fadeTo 1 router.config.crossfadeMs }
    | .phoneArming =>
        { router with
          armStartedFrame := router.frameIndex
          fade := router.fade.fadeTo 0 router.config.crossfadeMs }
    | .returningToLocal | .localActive | .localOnly | .muted =>
        { router with fade := router.fade.fadeTo 0 router.config.crossfadeMs }
    -- the crossfade stays where it is
    | .errorRecovery => router

def AudioRouter.drainEvents (router : AudioRouter α) : AudioRouter α :=
  router.events.foldl AudioRouter.applyEvent { router with events := [] }

def AudioRouter.updateTimers (router : AudioRouter α) : AudioRouter α :=
  if router.state = .errorRecovery then router.applyEvent .recovered
  else if router.state = .phoneArming ∧
      framesFor router.config.armTimeoutMs <
        framesSince router.armStartedFrame router.frameIndex then
    AudioRouter.applyEvent { router with armTimeouts := router.armTimeouts + 1 } .armTimeout
  else if router.state = .phoneActive ∧ router.lastHeartbeatFrame < router.frameIndex ∧
      framesFor router.config.phoneLostTimeoutMs <
        framesSince router.lastHeartbeatFrame router.frameIndex then
    AudioRouter.applyEvent { router with phoneLost := router.phoneLost + 1 } .phoneLost
  else router

/-- The lambda `fill` of `readSources`: the router after the read, and the buffer. -/
def AudioRouter.fill (router : AudioRouter α) (attached wanted : Bool) (read : SourceRead α) :
    AudioRouter α × AudioFrame α :=
  if wanted = false ∨ attached = false then (router, silentFrame)
  else
    match read.status with
    | .failed =>
        (AudioRouter.applyEvent { router with sourceFailures := router.sourceFailures + 1 }
          .sourceFailure, silentFrame)
    | .ok | .underrun => (router, read.samples)

/-- What one tick meets outside the router. -/
structure Surroundings (α : Type := Sample) where
  local_ : SourceRead α
  phone : SourceRead α
  sinkAccepts : Bool

def AudioRouter.readLocal (router : AudioRouter α) (holdForGate : Bool) (around : Surroundings α) :
    AudioRouter α :=
  let (next, localBuf) :=
    router.fill router.wiring.local_ (router.sm.wantsLocal || holdForGate) around.local_
  { next with localBuf := localBuf }

def AudioRouter.readPhone (router : AudioRouter α) (holdForGate : Bool) (around : Surroundings α) :
    AudioRouter α :=
  let (next, phoneBuf) :=
    router.fill router.wiring.phone (router.sm.wantsPhone || holdForGate) around.phone
  { next with phoneBuf := phoneBuf }

/-- The phone is asked for in the state the local read leaves. -/
def AudioRouter.readSources (router : AudioRouter α) (around : Surroundings α) : AudioRouter α :=
  let holdForGate := router.gate.active
  (router.readLocal holdForGate around).readPhone holdForGate around

structure Mix (α : Type := Sample) where
  fade : Crossfade α
  gate : GainRamp α
  limited : Nat
  out : List α

/-- One iteration of the loop of `mixAndWrite`. -/
def AudioRouter.mixSample (curves : GainCurves α) (router : AudioRouter α) (mix : Mix α)
    (index : Nat) : Mix α :=
  let (gains, fade) := mix.fade.next curves
  let mixed := router.localBuf index * gains.local_ * router.config.localGainLinear +
    router.phoneBuf index * gains.phone * router.config.phoneGainLinear
  let (opening, gate) := mix.gate.next curves
  let gated := mixed * opening
  if kCeiling < gated then
    { fade := fade, gate := gate, limited := mix.limited + 1, out := mix.out ++ [kCeiling] }
  else if gated < -kCeiling then
    { fade := fade, gate := gate, limited := mix.limited + 1, out := mix.out ++ [-kCeiling] }
  else { fade := fade, gate := gate, limited := mix.limited, out := mix.out ++ [gated] }

def AudioRouter.mixAndWrite (curves : GainCurves α) (router : AudioRouter α) : AudioRouter α :=
  let mix := (List.range kFrameSamples).foldl (router.mixSample curves)
    { fade := router.fade, gate := router.gate, limited := 0, out := [] }
  { router with
    fade := mix.fade
    gate := mix.gate
    outBuf := mix.out
    limited := router.limited + mix.limited }

/-- The first three steps of a tick: the router as the mix sees it. -/
def AudioRouter.ready (router : AudioRouter α) (around : Surroundings α) : AudioRouter α :=
  (router.drainEvents.updateTimers).readSources around

/-- The tick up to the frame that is handed to the sink. -/
def AudioRouter.produceFrame (curves : GainCurves α) (router : AudioRouter α)
    (around : Surroundings α) : AudioRouter α :=
  let router := (router.ready around).mixAndWrite curves
  { router with
    frameIndex := router.frameIndex + 1
    framesProduced := router.frameIndex + 1 }

def AudioRouter.writeSink (router : AudioRouter α) (around : Surroundings α) : AudioRouter α :=
  if router.wiring.sink = true ∧ around.sinkAccepts = false then
    { router with sinkFailures := router.sinkFailures + 1 }
  else router

/-- A release fade that the mix has finished closes its state in the same tick. -/
def AudioRouter.closeFade (router : AudioRouter α) : AudioRouter α :=
  if router.state = .returningToLocal ∧ router.fade.active = false then
    router.applyEvent .fadeComplete
  else router

def AudioRouter.tick (curves : GainCurves α) (router : AudioRouter α) (around : Surroundings α) :
    AudioRouter α :=
  ((router.produceFrame curves around).writeSink around).closeFade

def AudioRouter.tickAccepted (router : AudioRouter α) (around : Surroundings α) : Bool :=
  !router.wiring.sink || around.sinkAccepts

inductive RouterInput (α : Type := Sample) where
  | control (call : Control)
  | tick (around : Surroundings α)

def AudioRouter.step (curves : GainCurves α) (router : AudioRouter α) :
    RouterInput α → AudioRouter α
  | .control call => router.control call
  | .tick around => router.tick curves around

theorem AudioRouter.control_eq (router : AudioRouter α) (call : Control) :
    ∃ (events : List Event) (lastHeartbeatFrame : Nat),
      router.control call =
        { router with events := events, lastHeartbeatFrame := lastHeartbeatFrame } := by
  cases call with
  | setMode mode => cases mode <;> exact ⟨_, router.lastHeartbeatFrame, rfl⟩
  | startPtt => exact ⟨_, _, rfl⟩
  | stopPtt => exact ⟨_, router.lastHeartbeatFrame, rfl⟩
  | notifyPhoneReady => exact ⟨_, _, rfl⟩
  | notifyPhoneHeartbeat => exact ⟨router.events, _, rfl⟩
  | notifyPhoneGone => exact ⟨_, router.lastHeartbeatFrame, rfl⟩

/-! ### What an event touches -/

/-- Every part of the router outside the state machine, the two ramps, the arming
clock, the counter and the record of events is the same after an event. -/
theorem AudioRouter.applyEvent_frame {Part : Type} (part : AudioRouter α → Part)
    (blind : ∀ (router : AudioRouter α) (sm : SourceStateMachine) (fade : Crossfade α)
      (gate : GainRamp α) (armStartedFrame transitions : Nat) (applied : List (Event × Transition)),
      part { router with
        sm := sm
        fade := fade
        gate := gate
        armStartedFrame := armStartedFrame
        transitions := transitions
        applied := applied } = part router)
    (router : AudioRouter α) (event : Event) : part (router.applyEvent event) = part router := by
  unfold AudioRouter.applyEvent
  dsimp only
  split
  · exact blind router _ router.fade router.gate router.armStartedFrame router.transitions _
  · split
    · exact blind router _ router.fade router.gate router.armStartedFrame router.transitions _
    · split
      · exact blind router _ _ _ router.armStartedFrame _ _
      · exact blind router _ _ _ router.armStartedFrame _ _
      · exact blind router _ _ _ _ _ _
      · exact blind router _ _ _ router.armStartedFrame _ _
      · exact blind router _ _ _ router.armStartedFrame _ _
      · exact blind router _ _ _ router.armStartedFrame _ _
      · exact blind router _ _ _ router.armStartedFrame _ _
      · exact blind router _ router.fade _ router.armStartedFrame _ _

@[simp]
theorem AudioRouter.applyEvent_config (router : AudioRouter α) (event : Event) :
    (router.applyEvent event).config = router.config :=
  AudioRouter.applyEvent_frame AudioRouter.config (fun _ _ _ _ _ _ _ => rfl) router event

@[simp]
theorem AudioRouter.applyEvent_wiring (router : AudioRouter α) (event : Event) :
    (router.applyEvent event).wiring = router.wiring :=
  AudioRouter.applyEvent_frame AudioRouter.wiring (fun _ _ _ _ _ _ _ => rfl) router event

@[simp]
theorem AudioRouter.applyEvent_events (router : AudioRouter α) (event : Event) :
    (router.applyEvent event).events = router.events :=
  AudioRouter.applyEvent_frame AudioRouter.events (fun _ _ _ _ _ _ _ => rfl) router event

@[simp]
theorem AudioRouter.applyEvent_frameIndex (router : AudioRouter α) (event : Event) :
    (router.applyEvent event).frameIndex = router.frameIndex :=
  AudioRouter.applyEvent_frame AudioRouter.frameIndex (fun _ _ _ _ _ _ _ => rfl) router event

@[simp]
theorem AudioRouter.applyEvent_lastHeartbeatFrame (router : AudioRouter α) (event : Event) :
    (router.applyEvent event).lastHeartbeatFrame = router.lastHeartbeatFrame :=
  AudioRouter.applyEvent_frame AudioRouter.lastHeartbeatFrame (fun _ _ _ _ _ _ _ => rfl)
    router event

@[simp]
theorem AudioRouter.applyEvent_framesProduced (router : AudioRouter α) (event : Event) :
    (router.applyEvent event).framesProduced = router.framesProduced :=
  AudioRouter.applyEvent_frame AudioRouter.framesProduced (fun _ _ _ _ _ _ _ => rfl) router event

@[simp]
theorem AudioRouter.applyEvent_sm (router : AudioRouter α) (event : Event) :
    (router.applyEvent event).sm = (router.sm.apply event).1 := by
  unfold AudioRouter.applyEvent
  dsimp only
  split
  · rfl
  · split
    · rfl
    · split <;> rfl

@[simp]
theorem AudioRouter.applyEvent_applied (router : AudioRouter α) (event : Event) :
    (router.applyEvent event).applied = router.applied ++ [(event, (router.sm.apply event).2)] := by
  unfold AudioRouter.applyEvent
  dsimp only
  split
  · rfl
  · split
    · rfl
    · split <;> rfl

/-- Where the crossfade heads in a state; recovery leaves it where it is. -/
def SourceState.fadeTarget : SourceState → Option ℚ
  | .phoneActive | .phoneOnly => some 1
  | .errorRecovery => none
  | _ => some 0

def SourceState.gateTarget (state : SourceState) : ℚ := if state.silent then 0 else 1

/-- An event either leaves the state and with it both ramps and the arming clock
alone, or enters a state and retargets both ramps for it. -/
theorem AudioRouter.applyEvent_cases (router : AudioRouter α) (event : Event) :
    ((router.applyEvent event).state = router.state ∧
      (router.applyEvent event).fade = router.fade ∧
      (router.applyEvent event).gate = router.gate ∧
      (router.applyEvent event).armStartedFrame = router.armStartedFrame) ∨
    ((router.applyEvent event).state ≠ router.state ∧
      (router.sm.apply event).2.changed = true ∧
      (router.applyEvent event).gate =
        router.gate.rampTo (router.applyEvent event).state.gateTarget router.config.crossfadeMs ∧
      (router.applyEvent event).fade =
        (match (router.applyEvent event).state.fadeTarget with
        | some target => router.fade.fadeTo target router.config.crossfadeMs
        | none => router.fade) ∧
      (router.applyEvent event).armStartedFrame =
        if (router.applyEvent event).state = .phoneArming then router.frameIndex
        else router.armStartedFrame) := by
  have state : (router.applyEvent event).state = (router.sm.apply event).2.to_ := by
    unfold AudioRouter.state
    rw [AudioRouter.applyEvent_sm, SourceStateMachine.apply_enters]
  cases changed : (router.sm.apply event).2.changed with
  | false =>
      left
      refine ⟨?_, ?_⟩
      · rw [state, SourceStateMachine.apply_enters]
        exact SourceStateMachine.apply_unchanged changed
      · unfold AudioRouter.applyEvent
        simp only [changed, if_true]
        split <;> exact ⟨rfl, rfl, rfl⟩
  | true =>
      right
      have accepted := SourceStateMachine.changed_accepted changed
      refine ⟨?_, rfl, ?_⟩
      · rw [state]
        exact SourceStateMachine.changed_moves changed
      · rw [state]
        unfold AudioRouter.applyEvent
        simp only [changed, accepted, Bool.true_eq_false, if_false]
        cases entered : (router.sm.apply event).2.to_ <;>
          exact ⟨rfl, rfl, rfl⟩

/-! ### A router with everything attached, in a quiet room -/

def fullyWired : Wiring := { local_ := true, phone := true, sink := true }

def quietRoom : Surroundings α :=
  { local_ := { status := .ok, samples := silentFrame }
    phone := { status := .underrun, samples := silentFrame }
    sinkAccepts := true }

end

end SmartMic.Audio
