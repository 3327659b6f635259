import SmartMic.Audio.Failback

set_option autoImplicit false

/-! The loop that a spurious failure closes. A phone that fails for good takes a router
in use into error recovery; recovery opens the gate, the moving gate has the unwanted
phone read, and its failure shuts the gate again. -/

namespace SmartMic.Audio

/-! ### The gate in exact arithmetic -/

/-- The gate moves at the rate of a full traversal and lands where it heads. -/
def AudioRouter.GateExact (router : AudioRouter) : Prop :=
  router.gate.Exact (fullSamples router.config.crossfadeMs)

theorem AudioRouter.stable_gateExact : Stable AudioRouter.GateExact :=
  { event := by
      intro router event kept
      unfold AudioRouter.GateExact at kept ⊢
      rw [AudioRouter.applyEvent_config]
      rcases router.applyEvent_cases event with ⟨-, -, gate, -⟩ | ⟨-, -, gate, -⟩
      · rw [gate]
        exact kept
      · rw [gate]
        exact kept.moveTo _ _
    emptied := fun _router kept => kept
    bookkeeping := fun _router _ _ _ _ _ kept => kept }

theorem AudioRouter.GateExact.tick {router : AudioRouter} (kept : router.GateExact)
    (curves : GainCurves) (around : Surroundings) : (router.tick curves around).GateExact :=
  AudioRouter.stable_gateExact.tick kept curves around fun _ready _written mixed kept => by
    unfold AudioRouter.GateExact at kept ⊢
    rw [mixed.gate, mixed.config]
    exact kept.iterate _

theorem AudioRouter.GateExact.step {router : AudioRouter} (kept : router.GateExact)
    (curves : GainCurves) (input : RouterInput) : (router.step curves input).GateExact := by
  cases input with
  | control call =>
      obtain ⟨events, lastHeartbeatFrame, called⟩ := router.control_eq call
      change (router.control call).GateExact
      rw [called]
      exact kept
  | tick around => exact kept.tick curves around

theorem AudioRouter.gateExact_initial (config : RouterConfig) (wiring : Wiring) :
    (AudioRouter.initial config wiring).GateExact :=
  Ramp.exact_rest _ 1 zero_le_one (le_refl 1)

/-! ### The loop -/

/-- In recovery after a tick, with a phone source and a gate that is not fully open. -/
structure AudioRouter.Looping (router : AudioRouter) : Prop where
  sound : router.Sound
  gateExact : router.GateExact
  quiet : router.events = []
  audible : router.mode ≠ .mute
  attached : router.wiring.phone = true
  recovering : router.state = .errorRecovery
  moved : router.gate.remaining < fullSamples router.config.crossfadeMs

theorem AudioRouter.readPhone_failed {router : AudioRouter} {holdForGate : Bool}
    {around : Surroundings} (attached : router.wiring.phone = true)
    (wanted : (router.sm.wantsPhone || holdForGate) = true)
    (failed : around.phone.status = .failed) :
    (router.readPhone holdForGate around).state = .errorRecovery := by
  unfold AudioRouter.readPhone AudioRouter.fill
  rw [attached, wanted, failed]
  exact AudioRouter.sourceFailure_state _

theorem AudioRouter.readSources_of_phoneFails {router : AudioRouter} {around : Surroundings}
    (fails : router.phoneFails around = true) :
    (router.readSources around).state = .errorRecovery := by
  have inOrder : router.readSources around =
      (router.readLocal router.gate.active around).readPhone router.gate.active around := rfl
  rw [inOrder]
  unfold AudioRouter.phoneFails at fails
  simp only [Bool.and_eq_true, decide_eq_true_eq] at fails
  obtain ⟨⟨attached, wanted⟩, failed⟩ := fails
  rcases router.readLocal_cases router.gate.active around with
    ⟨localBuf, read⟩ | ⟨recovering, -⟩
  · rw [read]
    exact AudioRouter.readPhone_failed attached wanted failed
  · exact AudioRouter.readPhone_stays recovering

theorem AudioRouter.Sound.tick_looping {router : AudioRouter} (sound : router.Sound)
    (gateExact : router.GateExact) (curves : GainCurves) {around : Surroundings}
    (audible : router.drainEvents.mode ≠ .mute)
    (attached : router.wiring.phone = true)
    (fails : router.drainEvents.updateTimers.phoneFails around = true) :
    (router.tick curves around).Looping := by
  obtain ⟨quiet, mode⟩ := AudioRouter.tick_quiet curves router around
  have ready := AudioRouter.stable_sound.ready sound around
  have wiring := router.tick_wiring curves around
  have recovering : (router.ready around).state = .errorRecovery :=
    AudioRouter.readSources_of_phoneFails fails
  obtain ⟨written, mixed, closes⟩ := AudioRouter.tick_cases curves router around
  rcases closes with ⟨same, -⟩ | ⟨-, returning⟩
  · exact
      { sound := sound.tick curves around
        gateExact := gateExact.tick curves around
        quiet := quiet
        audible := by rw [mode]; exact audible
        attached := by rw [wiring]; exact attached
        recovering := by rw [same, mixed.state, recovering]
        moved := by
          rw [same, mixed.gate, mixed.config, Ramp.iterate_remaining]
          have bounded := ready.gateSound.bounded
          rw [rampSamples_exact] at bounded
          have positive := fullSamples_pos (router.ready around).config.crossfadeMs
          unfold kFrameSamples
          omega }
  · rw [mixed.state, recovering] at returning
    cases returning

theorem AudioRouter.Looping.gate_active {router : AudioRouter} (looping : router.Looping) :
    router.updateTimers.gate.active = true := by
  have recovers : router.updateTimers = router.applyEvent .recovered := by
    unfold AudioRouter.updateTimers
    rw [if_pos looping.recovering]
  have left := AudioRouter.recovered_state looping.recovering
  have heads : (restingStateFor router.mode).gateTarget = 1 := by
    cases mode : router.mode with
    | mute => exact absurd mode looping.audible
    | auto => rfl
    | phoneOnly => rfl
    | localOnly => rfl
  rw [recovers]
  rcases router.applyEvent_cases .recovered with ⟨stays, -⟩ | ⟨-, -, gate, -⟩
  · rw [left, looping.recovering] at stays
    exact absurd stays (restingStateFor_calm router.mode)
  · rw [gate, left, heads, Ramp.active_iff]
    have closing : router.gate.target = 0 := by
      rw [looping.sound.gateHeads, looping.recovering]
      rfl
    have near := looping.gateExact.near
    rw [closing, zero_sub, abs_neg, abs_of_nonneg looping.sound.gateSound.positionLow] at near
    have away : router.gate.position ≠ clamp 1 0 1 := by
      rw [clamp_one]
      intro opened
      rw [opened, mul_one] at near
      exact absurd (Nat.cast_le.mp near) (not_le.mpr looping.moved)
    change 0 < (router.gate.moveTo 1 router.config.crossfadeMs).remaining
    rw [Ramp.moveTo_remaining _ away]
    exact Nat.lt_of_lt_of_le Nat.zero_lt_one (Nat.le_max_left _ _)

/-- With a phone that keeps failing, the loop is never left. -/
theorem AudioRouter.Looping.tick {router : AudioRouter} (looping : router.Looping)
    (curves : GainCurves) {around : Surroundings} (failed : around.phone.status = .failed) :
    (router.tick curves around).Looping := by
  apply looping.sound.tick_looping looping.gateExact curves
  · rw [AudioRouter.drainEvents_of_empty looping.quiet]
    exact looping.audible
  · exact looping.attached
  · rw [AudioRouter.drainEvents_of_empty looping.quiet]
    have wiring := (AudioRouter.stable_wiring router.wiring).updateTimers rfl
    unfold AudioRouter.phoneFails
    rw [wiring, looping.attached, looping.gate_active, failed, Bool.or_true]
    rfl

theorem AudioRouter.Looping.trace {router : AudioRouter} (looping : router.Looping)
    (curves : GainCurves) (around : Nat → Surroundings)
    (failed : ∀ instant, (around instant).phone.status = .failed) (instant : Nat) :
    (Run.trace (AudioRouter.tick curves) router around instant).Looping := by
  induction instant with
  | zero => exact looping
  | succ instant ih =>
      rw [Run.trace_succ]
      exact ih.tick curves (failed instant)

def deadPhone : Surroundings :=
  { local_ := { status := .ok, samples := silentFrame }
    phone := { status := .failed, samples := silentFrame }
    sinkAccepts := true }

def pressedRouter : AudioRouter :=
  Run.final (AudioRouter.step linearCurves) (AudioRouter.initial {} fullyWired)
    [.control .startPtt, .control .notifyPhoneReady]

theorem pressedRouter_drained :
    pressedRouter.drainEvents.mode = .auto ∧ pressedRouter.drainEvents.state = .phoneActive ∧
      pressedRouter.wiring.phone = true := by
  have events : pressedRouter.events = [.startPtt, .phoneReady] := rfl
  have machine : pressedRouter.sm = SourceStateMachine.initial := rfl
  unfold AudioRouter.drainEvents AudioRouter.mode AudioRouter.state
  rw [events, List.foldl_cons, List.foldl_cons, List.foldl_nil, AudioRouter.applyEvent_sm,
    AudioRouter.applyEvent_sm, machine]
  exact ⟨rfl, rfl, rfl⟩

/-- The default router, in `auto` with a healthy local source, never comes back to it
once the phone in use has failed for good. -/
theorem router_never_fails_back :
    deadPhone.healthyFor pressedRouter.drainEvents.mode ∧
    ¬ ∃ bound, pressedRouter.FailsBack linearCurves (fun _ => deadPhone) bound := by
  obtain ⟨mode, active, attached⟩ := pressedRouter_drained
  have sound : pressedRouter.Sound :=
    AudioRouter.sound_final linearCurves {} fullyWired _
  have gateExact : pressedRouter.GateExact :=
    Run.invariant_always AudioRouter.GateExact
      (fun _router input kept => kept.step linearCurves input) _ _
      (AudioRouter.gateExact_initial {} fullyWired)
  constructor
  · rw [mode]
    exact SourceStatus.noConfusion
  · rintro ⟨bound, settles⟩
    have drained := AudioRouter.stable_sound.drainEvents sound
    -- the phone is in use after the timers, heard of in time or not
    have wanted : pressedRouter.drainEvents.updateTimers.sm.wantsPhone = true := by
      rcases drained.updateTimers_cases with
        ⟨recovering, -⟩ | ⟨arming, -⟩ | ⟨-, left⟩ | ⟨-, same, -⟩
      · rw [active] at recovering
        cases recovering
      · rw [active] at arming
        cases arming
      · unfold AudioRouter.state at left
        unfold SourceStateMachine.wantsPhone
        rw [left]
      · unfold AudioRouter.state at active
        unfold SourceStateMachine.wantsPhone
        rw [same, active]
    have wiring := ((AudioRouter.stable_wiring pressedRouter.wiring).updateTimers
      ((AudioRouter.stable_wiring pressedRouter.wiring).drainEvents rfl))
    have looping : (pressedRouter.tick linearCurves deadPhone).Looping := by
      apply sound.tick_looping gateExact linearCurves
      · rw [mode]
        decide
      · exact attached
      · unfold AudioRouter.phoneFails
        rw [wiring, attached, wanted]
        rfl
    have settled := settles (bound + 1) (Nat.le_succ bound)
    rw [Run.trace_shift] at settled
    have stuck := (looping.trace linearCurves (fun _ => deadPhone) (fun _ => rfl)
      bound).recovering
    rw [settled.state] at stuck
    exact restingStateFor_calm _ stuck

end SmartMic.Audio
