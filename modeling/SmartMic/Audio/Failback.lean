import SmartMic.Audio.RouterWaits

set_option autoImplicit false

/-! Failback: where the router comes to rest once nobody calls it any more, and the
one behaviour of the other source that keeps it from getting there. While the gate
moves both sources are read, wanted or not, and a failure of the unwanted one is
taken for a failure of the source in use. -/

namespace SmartMic.Audio

/-! ### Ticks without pending events -/

def Event.setsMode : Event → Bool
  | .modeAuto | .modePhoneOnly | .modeLocalOnly | .modeMute => true
  | _ => false

theorem SourceStateMachine.apply_mode (machine : SourceStateMachine) {event : Event}
    (other : event.setsMode = false) : (machine.apply event).1.mode = machine.mode := by
  obtain ⟨state, mode⟩ := machine
  cases event with
  | modeAuto => cases other
  | modePhoneOnly => cases other
  | modeLocalOnly => cases other
  | modeMute => cases other
  | startPtt => cases mode <;> cases state <;> rfl
  | stopPtt => cases mode <;> cases state <;> rfl
  | phoneReady => cases state <;> rfl
  | phoneLost => cases state <;> rfl
  | armTimeout => cases state <;> rfl
  | fadeComplete => cases state <;> rfl
  | sourceFailure => rfl
  | recovered => cases state <;> rfl

theorem AudioRouter.applyEvent_mode (router : AudioRouter) {event : Event}
    (other : event.setsMode = false) : (router.applyEvent event).mode = router.mode := by
  unfold AudioRouter.mode
  rw [AudioRouter.applyEvent_sm, SourceStateMachine.apply_mode _ other]

theorem AudioRouter.steady_mode (mode : RoutingMode) :
    Steady (fun router : AudioRouter => router.mode = mode) :=
  { event := by
      intro router event ofTick same
      have other : event.setsMode = false := by
        cases event with
        | modeAuto => cases ofTick
        | modePhoneOnly => cases ofTick
        | modeLocalOnly => cases ofTick
        | modeMute => cases ofTick
        | _ => rfl
      exact (AudioRouter.applyEvent_mode router other).trans same
    bookkeeping := fun _router _ _ _ _ _ same => same }

theorem AudioRouter.updateTimers_mode (router : AudioRouter) :
    router.updateTimers.mode = router.mode :=
  (AudioRouter.steady_mode router.mode).updateTimers rfl

theorem AudioRouter.stable_events : Stable (fun router : AudioRouter => router.events = []) :=
  { event := by
      intro router event emptied
      rw [AudioRouter.applyEvent_events]
      exact emptied
    emptied := fun _router _ => rfl
    bookkeeping := fun _router _ _ _ _ _ emptied => emptied }

theorem AudioRouter.tick_quiet (curves : GainCurves) (router : AudioRouter)
    (around : Surroundings) :
    (router.tick curves around).events = [] ∧
      (router.tick curves around).mode = router.drainEvents.mode := by
  constructor
  · apply AudioRouter.stable_events.steady.tick router.drainEvents_events curves around
    exact fun _ready _written mixed quiet => mixed.events.trans quiet
  · apply (AudioRouter.steady_mode router.drainEvents.mode).tick rfl curves around
    exact fun _ready _written mixed same =>
      (congrArg SourceStateMachine.mode mixed.sm).trans same

/-! ### Rest, and what can disturb it -/

/-- The resting state of the mode, with the gate fully open and the crossfade fully
on the source of the mode, both for good. -/
structure AudioRouter.Settled (mode : RoutingMode) (router : AudioRouter) : Prop where
  state : router.state = restingStateFor mode
  gateOpen : router.gate.position = 1 ∧ router.gate.active = false
  onSource : router.fade.position = (if mode = .phoneOnly then 1 else 0) ∧
    router.fade.active = false

/-- The mode has a source of its own, and it does not fail. -/
def Surroundings.healthyFor (around : Surroundings) : RoutingMode → Prop
  | .auto | .localOnly => around.local_.status ≠ .failed
  | .phoneOnly => around.phone.status ≠ .failed
  | .mute => False

/-- A source that the state does not want is read in this tick, because the gate is
moving, and reports a failure. -/
def AudioRouter.spuriousFailure (router : AudioRouter) (around : Surroundings) : Bool :=
  let reading := router.drainEvents.updateTimers
  (reading.localFails around && !reading.sm.wantsLocal) ||
    (reading.phoneFails around && !reading.sm.wantsPhone)

def ticksFor (samples : Nat) : Nat := (samples + (kFrameSamples - 1)) / kFrameSamples

/-- The ticks a full ramp takes at most. -/
def RouterConfig.rampTicks (config : RouterConfig) : Nat :=
  ticksFor (fullSamples config.crossfadeMs)

/-- Enough ticks to settle: one for the pending events, the two timeouts, and two
full ramps. -/
def RouterConfig.failbackTicks (config : RouterConfig) : Nat :=
  framesFor config.armTimeoutMs + framesFor config.phoneLostTimeoutMs +
    2 * config.rampTicks + 5

/-- From `router` on, nobody calls: it is settled from tick `bound` on. -/
def AudioRouter.FailsBack (curves : GainCurves) (router : AudioRouter)
    (around : Nat → Surroundings) (bound : Nat) : Prop :=
  ∀ instant, bound ≤ instant →
    (Run.trace (AudioRouter.tick curves) router around instant).Settled router.drainEvents.mode

/-! ### The rank -/

/-- A bound on the ticks that are left until the router rests. -/
def AudioRouter.failbackRank (router : AudioRouter) : Nat :=
  match router.state with
  | .localActive | .localOnly | .phoneOnly =>
      max (ticksFor router.fade.remaining) (ticksFor router.gate.remaining)
  | .errorRecovery => router.config.rampTicks + 1
  | .returningToLocal => router.config.rampTicks + 2 + ticksFor router.fade.remaining
  | .phoneActive =>
      2 * router.config.rampTicks + 3 +
        (framesFor router.config.phoneLostTimeoutMs + 1 -
          (router.frameIndex - router.lastHeartbeatFrame))
  | .phoneArming =>
      router.config.rampTicks + 2 +
        (framesFor router.config.armTimeoutMs + 1 -
          (router.frameIndex - router.armStartedFrame))
  | .muted => 0

theorem ticksFor_sub (samples : Nat) :
    ticksFor (samples - kFrameSamples) = ticksFor samples - 1 := by
  unfold ticksFor kFrameSamples
  omega

theorem ticksFor_le {samples full : Nat} (short : samples ≤ full) :
    ticksFor samples ≤ ticksFor full := by
  unfold ticksFor kFrameSamples
  omega

theorem ticksFor_pos {samples : Nat} (some : 0 < samples) : 0 < ticksFor samples := by
  unfold ticksFor kFrameSamples
  omega

theorem ticksFor_eq_zero {samples : Nat} : ticksFor samples = 0 ↔ samples = 0 := by
  unfold ticksFor kFrameSamples
  omega

theorem AudioRouter.Sound.fade_ticks {router : AudioRouter} (sound : router.Sound) :
    ticksFor router.fade.remaining ≤ router.config.rampTicks := by
  have bounded := sound.fadeSound.bounded
  rw [rampSamples_exact] at bounded
  exact ticksFor_le bounded

theorem AudioRouter.Sound.gate_ticks {router : AudioRouter} (sound : router.Sound) :
    ticksFor router.gate.remaining ≤ router.config.rampTicks := by
  have bounded := sound.gateSound.bounded
  rw [rampSamples_exact] at bounded
  exact ticksFor_le bounded

theorem AudioRouter.Sound.failbackRank_le {router : AudioRouter} (sound : router.Sound) :
    router.failbackRank + 1 ≤ router.config.failbackTicks := by
  have fade := sound.fade_ticks
  have gate := sound.gate_ticks
  unfold AudioRouter.failbackRank RouterConfig.failbackTicks
  split <;> omega

theorem AudioRouter.failbackRank_resting {router : AudioRouter} (mode : RoutingMode)
    (audible : mode ≠ .mute) (resting : router.state = restingStateFor mode) :
    router.failbackRank =
      max (ticksFor router.fade.remaining) (ticksFor router.gate.remaining) := by
  unfold AudioRouter.failbackRank
  cases mode with
  | mute => exact absurd rfl audible
  | auto => rw [resting]; rfl
  | phoneOnly => rw [resting]; rfl
  | localOnly => rw [resting]; rfl

theorem AudioRouter.failbackRank_recovering {router : AudioRouter}
    (recovering : router.state = .errorRecovery) :
    router.failbackRank = router.config.rampTicks + 1 := by
  unfold AudioRouter.failbackRank
  rw [recovering]

theorem AudioRouter.failbackRank_returning {router : AudioRouter}
    (returning : router.state = .returningToLocal) :
    router.failbackRank = router.config.rampTicks + 2 + ticksFor router.fade.remaining := by
  unfold AudioRouter.failbackRank
  rw [returning]

theorem AudioRouter.failbackRank_active {router : AudioRouter}
    (active : router.state = .phoneActive) :
    router.failbackRank = 2 * router.config.rampTicks + 3 +
      (framesFor router.config.phoneLostTimeoutMs + 1 -
        (router.frameIndex - router.lastHeartbeatFrame)) := by
  unfold AudioRouter.failbackRank
  rw [active]

theorem AudioRouter.failbackRank_arming {router : AudioRouter}
    (arming : router.state = .phoneArming) :
    router.failbackRank = router.config.rampTicks + 2 +
      (framesFor router.config.armTimeoutMs + 1 -
        (router.frameIndex - router.armStartedFrame)) := by
  unfold AudioRouter.failbackRank
  rw [arming]

theorem AudioRouter.Sound.mute_of_muted {router : AudioRouter} (sound : router.Sound)
    (muted : router.state = .muted) : router.mode = .mute := by
  have region := sound.region
  unfold SourceStateMachine.InRegion at region
  unfold AudioRouter.state at muted
  unfold AudioRouter.mode
  cases mode : router.sm.mode with
  | mute => rfl
  | auto =>
      rw [mode] at region
      exact absurd muted region.2.2
  | phoneOnly =>
      rw [mode, muted] at region
      rcases region with resting | recovering
      · cases resting
      · cases recovering
  | localOnly =>
      rw [mode, muted] at region
      rcases region with resting | recovering
      · cases resting
      · cases recovering

/-- A failure that is not spurious, in a mode whose own source does not fail, is one
of the phone while it is in use. -/
theorem AudioRouter.Sound.failure_in_use {reading : AudioRouter} (sound : reading.Sound)
    {around : Surroundings} (healthy : around.healthyFor reading.mode)
    (wantedLocal : reading.localFails around = true → reading.sm.wantsLocal = true)
    (wantedPhone : reading.phoneFails around = true → reading.sm.wantsPhone = true)
    (fails : reading.localFails around = true ∨ reading.phoneFails around = true) :
    reading.state = .phoneActive ∨ reading.state = .returningToLocal := by
  have localStatus : reading.localFails around = true → around.local_.status = .failed := by
    intro failed
    unfold AudioRouter.localFails at failed
    exact of_decide_eq_true (Bool.and_eq_true_iff.mp failed).2
  have phoneStatus : reading.phoneFails around = true → around.phone.status = .failed := by
    intro failed
    unfold AudioRouter.phoneFails at failed
    exact of_decide_eq_true (Bool.and_eq_true_iff.mp failed).2
  have region := sound.region
  unfold SourceStateMachine.InRegion at region
  unfold AudioRouter.mode at healthy
  unfold AudioRouter.state
  unfold SourceStateMachine.wantsLocal at wantedLocal
  unfold SourceStateMachine.wantsPhone at wantedPhone
  cases mode : reading.sm.mode with
  | mute =>
      rw [mode] at healthy
      exact healthy.elim
  | auto =>
      rw [mode] at healthy region
      rcases fails with failed | failed
      · exact absurd (localStatus failed) healthy
      · have wanted := wantedPhone failed
        cases state : reading.sm.state <;> simp_all
  | localOnly =>
      rw [mode] at healthy region
      rcases fails with failed | failed
      · exact absurd (localStatus failed) healthy
      · have wanted := wantedPhone failed
        rcases region with state | state <;> rw [state] at wanted <;> cases wanted
  | phoneOnly =>
      rw [mode] at healthy region
      rcases fails with failed | failed
      · have wanted := wantedLocal failed
        rcases region with state | state <;> rw [state] at wanted <;> cases wanted
      · exact absurd (phoneStatus failed) healthy

theorem AudioRouter.Sound.calm_failbackRank {router written : AudioRouter}
    (sound : router.Sound) (writtenSound : written.Sound) (audible : router.mode ≠ .mute)
    (mixed : router.MixedFrom written) (calm : router.state ≠ .errorRecovery)
    (inTime : router.InTime)
    (moving : written.state = .returningToLocal → 0 < written.fade.remaining) :
    written.failbackRank ≤ router.failbackRank - 1 := by
  have state := mixed.state
  have config := mixed.config
  have fadeTicks := writtenSound.fade_ticks
  have gateTicks := writtenSound.gate_ticks
  rw [config] at fadeTicks gateTicks
  have fadeLeft : ticksFor written.fade.remaining = ticksFor router.fade.remaining - 1 := by
    rw [mixed.fade, Ramp.iterate_remaining, ticksFor_sub]
  have gateLeft : ticksFor written.gate.remaining = ticksFor router.gate.remaining - 1 := by
    rw [mixed.gate, Ramp.iterate_remaining, ticksFor_sub]
  cases now : router.state with
  | errorRecovery => exact absurd now calm
  | phoneArming =>
      have recent := inTime.arming now
      have ordered := sound.armed
      rw [AudioRouter.failbackRank_arming now,
        AudioRouter.failbackRank_arming (state.trans now), config, mixed.armed, mixed.index]
      omega
  | phoneActive =>
      have recent := inTime.heard now
      have ordered := sound.heard
      rw [AudioRouter.failbackRank_active now,
        AudioRouter.failbackRank_active (state.trans now), config, mixed.heard,
        mixed.index]
      omega
  | returningToLocal =>
      have going := ticksFor_pos (moving (state.trans now))
      rw [AudioRouter.failbackRank_returning now,
        AudioRouter.failbackRank_returning (state.trans now), config]
      omega
  | localActive =>
      rw [AudioRouter.failbackRank_resting .auto (by decide) now,
        AudioRouter.failbackRank_resting .auto (by decide) (state.trans now)]
      omega
  | localOnly =>
      rw [AudioRouter.failbackRank_resting .localOnly (by decide) now,
        AudioRouter.failbackRank_resting .localOnly (by decide) (state.trans now)]
      omega
  | phoneOnly =>
      rw [AudioRouter.failbackRank_resting .phoneOnly (by decide) now,
        AudioRouter.failbackRank_resting .phoneOnly (by decide) (state.trans now)]
      omega
  | muted =>
      exfalso
      apply audible
      exact sound.mute_of_muted now

theorem AudioRouter.Sound.filled_failbackRank {router written after : AudioRouter}
    (sound : router.Sound) (afterSound : after.Sound) (config : after.config = router.config)
    (audible : router.mode ≠ .mute)
    (mixed : router.updateTimers.MixedFrom written)
    (closes : (after = written ∧
        (written.state = .returningToLocal → 0 < written.fade.remaining)) ∨
      (after = written.applyEvent .fadeComplete ∧ written.state = .returningToLocal)) :
    after.failbackRank ≤ router.failbackRank - 1 := by
  have state := mixed.state
  have fadeTicks := afterSound.fade_ticks
  have gateTicks := afterSound.gate_ticks
  rw [config] at fadeTicks gateTicks
  have closedRank : after = written.applyEvent .fadeComplete →
      written.state = .returningToLocal → after.failbackRank ≤ router.config.rampTicks := by
    intro closed returning
    have home : after.state = restingStateFor .auto := by
      rw [closed]
      exact AudioRouter.fadeComplete_state returning
    rw [AudioRouter.failbackRank_resting .auto (by decide) home]
    omega
  rcases sound.updateTimers_cases with
    ⟨recovering, left⟩ | ⟨arming, left⟩ | ⟨active, left⟩ | ⟨calm, same, inTime⟩
  · rw [AudioRouter.failbackRank_recovering recovering]
    rcases closes with ⟨still, -⟩ | ⟨-, returning⟩
    · have resting : after.state = restingStateFor router.mode := by rw [still, state, left]
      rw [AudioRouter.failbackRank_resting _ audible resting]
      omega
    · rw [state, left] at returning
      cases mode : router.mode <;> rw [mode] at returning <;> cases returning
  · rw [AudioRouter.failbackRank_arming arming]
    rcases closes with ⟨still, -⟩ | ⟨-, returning⟩
    · have recovering : after.state = .errorRecovery := by rw [still, state, left]
      rw [AudioRouter.failbackRank_recovering recovering, config]
      omega
    · rw [state, left] at returning
      cases returning
  · rw [AudioRouter.failbackRank_active active]
    rcases closes with ⟨still, -⟩ | ⟨closed, returning⟩
    · have returning : after.state = .returningToLocal := by rw [still, state, left]
      rw [AudioRouter.failbackRank_returning returning, config]
      omega
    · have bound := closedRank closed returning
      omega
  · rw [same] at state mixed
    rcases closes with ⟨still, moving⟩ | ⟨closed, returning⟩
    · rw [still] at afterSound ⊢
      exact sound.calm_failbackRank afterSound audible mixed calm inTime moving
    · have bound := closedRank closed returning
      rw [AudioRouter.failbackRank_returning (state.symm.trans returning)]
      omega

/-- One quiet tick lowers the rank until it is zero. -/
theorem AudioRouter.Sound.tick_failbackRank {router : AudioRouter} (sound : router.Sound)
    (curves : GainCurves) (quiet : router.events = []) {around : Surroundings}
    (healthy : around.healthyFor router.mode)
    (honest : router.spuriousFailure around = false) :
    (router.tick curves around).failbackRank ≤ router.failbackRank - 1 := by
  have after := sound.tick curves around
  have config := AudioRouter.tick_config curves router around
  have audible : router.mode ≠ .mute := by
    intro mute
    rw [mute] at healthy
    exact healthy
  have fadeTicks := after.fade_ticks
  have gateTicks := after.gate_ticks
  rw [config] at fadeTicks gateTicks
  have reading := AudioRouter.stable_sound.updateTimers sound
  have readyEq : router.ready around = router.updateTimers.readSources around := by
    unfold AudioRouter.ready
    rw [AudioRouter.drainEvents_of_empty quiet]
  obtain ⟨written, mixed, closes⟩ := AudioRouter.tick_cases curves router around
  rw [readyEq] at mixed
  rcases router.updateTimers.readSources_cases around with
    ⟨localBuf, phoneBuf, read⟩ | ⟨failed, fails⟩
  · rw [read] at mixed
    have filled : router.updateTimers.MixedFrom written :=
      { config := mixed.config
        wiring := mixed.wiring
        sm := mixed.sm
        fade := mixed.fade
        gate := mixed.gate
        events := mixed.events
        armed := mixed.armed
        heard := mixed.heard
        index := mixed.index
        produced := mixed.produced
        applied := mixed.applied }
    exact sound.filled_failbackRank after config audible filled closes
  · -- the failure ends the tick in recovery
    have recovering : (router.tick curves around).state = .errorRecovery := by
      rcases closes with ⟨same, -⟩ | ⟨-, returning⟩
      · rw [same, mixed.state, failed]
      · rw [mixed.state, failed] at returning
        cases returning
    rw [AudioRouter.failbackRank_recovering recovering, config]
    unfold AudioRouter.spuriousFailure at honest
    rw [AudioRouter.drainEvents_of_empty quiet] at honest
    simp only [Bool.or_eq_false_iff, Bool.and_eq_false_iff, Bool.not_eq_false'] at honest
    have inUse := reading.failure_in_use (by rw [AudioRouter.updateTimers_mode]; exact healthy)
      (fun fails => honest.1.resolve_left (by rw [fails]; decide))
      (fun fails => honest.2.resolve_left (by rw [fails]; decide)) fails
    rcases sound.updateTimers_cases with
      ⟨-, left⟩ | ⟨-, left⟩ | ⟨active, -⟩ | ⟨-, same, -⟩
    · exfalso
      rw [left] at inUse
      cases mode : router.mode <;> rw [mode] at inUse <;> rcases inUse with use | use <;> cases use
    · exfalso
      rw [left] at inUse
      rcases inUse with use | use <;> cases use
    · rw [AudioRouter.failbackRank_active active]
      omega
    · rw [same] at inUse
      rcases inUse with active | returning
      · rw [AudioRouter.failbackRank_active active]
        omega
      · rw [AudioRouter.failbackRank_returning returning]
        omega

/-! ### Runs -/

theorem AudioRouter.Sound.settled_of_rank_zero {router : AudioRouter} (sound : router.Sound)
    (audible : router.mode ≠ .mute) (zero : router.failbackRank = 0) :
    router.Settled router.mode := by
  have resting : router.state = restingStateFor router.mode := by
    have region := sound.region
    unfold SourceStateMachine.InRegion at region
    unfold AudioRouter.failbackRank AudioRouter.state at zero
    unfold AudioRouter.mode at audible ⊢
    unfold AudioRouter.state
    cases mode : router.sm.mode <;> cases state : router.sm.state <;>
      simp_all [restingStateFor]
  rw [AudioRouter.failbackRank_resting _ audible resting] at zero
  have fadeDone : router.fade.remaining = 0 := ticksFor_eq_zero.mp (by omega)
  have gateDone : router.gate.remaining = 0 := ticksFor_eq_zero.mp (by omega)
  have open_ : router.state.gateTarget = 1 := by
    rw [resting]
    cases mode : router.mode with
    | mute => exact absurd mode audible
    | auto => rfl
    | phoneOnly => rfl
    | localOnly => rfl
  have heads : router.state.fadeTarget =
      some (if router.mode = .phoneOnly then 1 else 0) := by
    rw [resting]
    cases mode : router.mode with
    | mute => exact absurd mode audible
    | auto => rfl
    | phoneOnly => rfl
    | localOnly => rfl
  exact
    { state := resting
      gateOpen := by
        refine ⟨?_, decide_eq_false (by omega)⟩
        rw [sound.gateSound.rests gateDone, sound.gateHeads, open_]
      onSource := by
        refine ⟨?_, decide_eq_false (by omega)⟩
        rw [sound.fadeSound.rests fadeDone, sound.fadeHeads _ heads] }

/-- Ticks alone, in a mode whose source does not fail and without a spurious failure,
settle a sound router. -/
theorem AudioRouter.Sound.failsBack {router : AudioRouter} (sound : router.Sound)
    (curves : GainCurves) (around : Nat → Surroundings)
    (healthy : ∀ instant, (around instant).healthyFor router.drainEvents.mode)
    (honest : ∀ instant, (Run.trace (AudioRouter.tick curves) router around
      instant).spuriousFailure (around instant) = false) :
    router.FailsBack curves around router.config.failbackTicks := by
  have audible : router.drainEvents.mode ≠ .mute := by
    intro mute
    have own := healthy 0
    rw [mute] at own
    exact own
  -- from the second state on no event is pending
  have later : ∀ instant,
      let current := Run.trace (AudioRouter.tick curves) router around (instant + 1)
      current.Sound ∧ current.events = [] ∧ current.mode = router.drainEvents.mode ∧
        current.config = router.config := by
    intro instant
    induction instant with
    | zero =>
        obtain ⟨events, mode⟩ := AudioRouter.tick_quiet curves router (around 0)
        exact ⟨sound.tick curves (around 0), events, mode,
          AudioRouter.tick_config curves router (around 0)⟩
    | succ instant ih =>
        obtain ⟨sound, quiet, mode, config⟩ := ih
        rw [Run.trace_succ]
        obtain ⟨events, drained⟩ := AudioRouter.tick_quiet curves
          (Run.trace (AudioRouter.tick curves) router around (instant + 1)) (around (instant + 1))
        rw [AudioRouter.drainEvents_of_empty quiet] at drained
        exact ⟨sound.tick curves _, events, drained.trans mode,
          (AudioRouter.tick_config curves _ _).trans config⟩
  intro instant late
  obtain ⟨elapsed, rfl⟩ : ∃ elapsed, instant = elapsed + 1 := by
    refine ⟨instant - 1, ?_⟩
    unfold RouterConfig.failbackTicks at late
    omega
  obtain ⟨settling, -, mode, -⟩ := later elapsed
  rw [← mode]
  apply settling.settled_of_rank_zero (by rw [mode]; exact audible)
  rw [Run.trace_shift]
  apply Run.trace_rank_zero AudioRouter.failbackRank
  · intro count
    rw [← Run.trace_shift, ← Run.trace_shift, Run.trace_succ]
    obtain ⟨sound, quiet, mode, -⟩ := later count
    exact sound.tick_failbackRank curves quiet (by rw [mode]; exact healthy _) (honest _)
  · have first := sound.tick curves (around 0)
    have bound := first.failbackRank_le
    rw [AudioRouter.tick_config] at bound
    omega

/-- From every reachable router, whatever is pending: when its mode has a source that
does not fail, and the other source reports no failure in a tick in which it is read
only because the gate moves, the router is settled after `failbackTicks` ticks without
a call, and stays so. -/
theorem router_fails_back (curves : GainCurves) (config : RouterConfig) (wiring : Wiring)
    (inputs : List RouterInput) (around : Nat → Surroundings) :
    let router := Run.final (AudioRouter.step curves) (AudioRouter.initial config wiring) inputs
    (∀ instant, (around instant).healthyFor router.drainEvents.mode) →
    (∀ instant, (Run.trace (AudioRouter.tick curves) router around
      instant).spuriousFailure (around instant) = false) →
    router.FailsBack curves around config.failbackTicks := by
  intro router healthy honest
  have sound := AudioRouter.sound_final curves config wiring inputs
  have failsBack := sound.failsBack curves around healthy honest
  rw [AudioRouter.final_config] at failsBack
  exact failsBack

def linearCurves : GainCurves :=
  { cosine := fun position => 1 - position
    sine := fun position => position
    raisedCosine := fun position => position }

/-- A press that nobody follows up: the default router is back on the local source. -/
theorem router_fails_back_after_press :
    (Run.final (AudioRouter.step linearCurves) (AudioRouter.initial {} fullyWired)
      [.control .startPtt]).FailsBack linearCurves (fun _ => quietRoom)
      (RouterConfig.failbackTicks {}) := by
  apply router_fails_back linearCurves {} fullyWired [.control .startPtt] (fun _ => quietRoom)
  · intro _instant
    exact SourceStatus.noConfusion
  · intro _instant
    simp [AudioRouter.spuriousFailure, AudioRouter.localFails, AudioRouter.phoneFails, quietRoom]

end SmartMic.Audio
