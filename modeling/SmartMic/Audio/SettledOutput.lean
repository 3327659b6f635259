import SmartMic.Audio.MixedFrame
import SmartMic.Audio.Failback

set_option autoImplicit false

/-! Where the two ramps head in each state, and what comes out once they are there:
one source, scaled and limited, and nothing of the other. The gain curves are taken
exact at their end points only. -/

namespace SmartMic.Audio

variable {α : Type} [SampleArithmetic α]

/-! ### The counter of applied state changes -/

@[simp]
theorem AudioRouter.applyEvent_transitions (router : AudioRouter α) (event : Event) :
    (router.applyEvent event).transitions =
      router.transitions + (router.sm.apply event).2.changed.toNat := by
  unfold AudioRouter.applyEvent
  dsimp only
  cases changed : (router.sm.apply event).2.changed with
  | false => split <;> rfl
  | true =>
      rw [if_neg (by rw [SourceStateMachine.changed_accepted changed]; decide),
        if_neg (by decide)]
      split <;> rfl

/-- Since `start` no state change was applied, or the counter has moved. -/
def AudioRouter.SameSince (start router : AudioRouter α) : Prop :=
  start.transitions ≤ router.transitions ∧
    (router.transitions = start.transitions →
      router.state = start.state ∧ router.fade = start.fade ∧ router.gate = start.gate)

theorem AudioRouter.sameSince_refl (start : AudioRouter α) : start.SameSince start :=
  ⟨Nat.le_refl _, fun _same => ⟨rfl, rfl, rfl⟩⟩

theorem AudioRouter.SameSince.applyEvent {start router : AudioRouter α}
    (since : start.SameSince router) (event : Event) :
    start.SameSince (router.applyEvent event) := by
  obtain ⟨counted, unmoved⟩ := since
  unfold AudioRouter.SameSince
  rw [AudioRouter.applyEvent_transitions]
  refine ⟨Nat.le_add_right_of_le counted, ?_⟩
  intro same
  have still : (router.sm.apply event).2.changed = false := by
    cases changed : (router.sm.apply event).2.changed with
    | false => rfl
    | true =>
        rw [changed, Bool.toNat_true] at same
        omega
  rw [still, Bool.toNat_false, Nat.add_zero] at same
  rcases router.applyEvent_cases event with ⟨state, fade, gate, -⟩ | ⟨-, changed, -⟩
  · rw [state, fade, gate]
    exact unmoved same
  · rw [still] at changed
    cases changed

theorem AudioRouter.stable_sameSince (start : AudioRouter α) : Stable start.SameSince :=
  { event := fun _router event since => since.applyEvent event
    emptied := fun _router since => since
    bookkeeping := fun _router _ _ _ _ _ since => since }

/-- A tick without a state change moves both ramps by one frame, from where they were. -/
theorem AudioRouter.tick_sameSince (curves : GainCurves α) (router : AudioRouter α)
    (around : Surroundings α) :
    router.transitions ≤ (router.tick curves around).transitions ∧
      ((router.tick curves around).transitions = router.transitions →
        ((router.ready around).state = router.state ∧
          (router.ready around).fade = router.fade ∧
          (router.ready around).gate = router.gate) ∧
        (router.tick curves around).state = router.state ∧
        (router.tick curves around).fade = Ramp.advance^[kFrameSamples] router.fade ∧
        (router.tick curves around).gate = Ramp.advance^[kFrameSamples] router.gate) := by
  obtain ⟨counted, unmoved⟩ :=
    (AudioRouter.stable_sameSince router).ready router.sameSince_refl around
  obtain ⟨outBuf, limited, sinkFailures, written⟩ := AudioRouter.written_eq curves router around
  unfold AudioRouter.tick
  rcases ((router.produceFrame curves around).writeSink around).closeFade_cases with
    ⟨same, -⟩ | ⟨completes, returning⟩
  · rw [same, written]
    refine ⟨counted, ?_⟩
    intro still
    obtain ⟨state, fade, gate⟩ := unmoved still
    refine ⟨⟨state, fade, gate⟩, ?_, ?_, ?_⟩
    · unfold AudioRouter.state at state ⊢
      dsimp only
      exact state
    · dsimp only
      rw [fade]
    · dsimp only
      rw [gate]
  · -- the end of a release fade is a state change of its own
    have changed : (((router.produceFrame curves around).writeSink around).sm.apply
        .fadeComplete).2.changed = true := by
      unfold AudioRouter.state at returning
      simp [SourceStateMachine.apply, SourceStateMachine.edge, returning]
    rw [completes, AudioRouter.applyEvent_transitions, changed, Bool.toNat_true, written]
    refine ⟨Nat.le_succ_of_le counted, ?_⟩
    intro still
    change (router.ready around).transitions + 1 = router.transitions at still
    omega

def RouterInput.isTick : RouterInput α → Bool
  | .control _ => false
  | .tick _ => true

theorem AudioRouter.control_sameSince (router : AudioRouter α) (call : Control) :
    (router.control call).transitions = router.transitions ∧
      (router.control call).state = router.state ∧ (router.control call).fade = router.fade ∧
      (router.control call).gate = router.gate := by
  obtain ⟨events, lastHeartbeatFrame, called⟩ := router.control_eq call
  rw [called]
  exact ⟨rfl, rfl, rfl, rfl⟩

theorem AudioRouter.run_sameSince (curves : GainCurves α) (inputs : List (RouterInput α)) :
    ∀ router : AudioRouter α,
      router.transitions ≤
          (Run.final (AudioRouter.step curves) router inputs).transitions ∧
        ((Run.final (AudioRouter.step curves) router inputs).transitions =
            router.transitions →
          (Run.final (AudioRouter.step curves) router inputs).state = router.state ∧
          (Run.final (AudioRouter.step curves) router inputs).fade =
            Ramp.advance^[kFrameSamples * inputs.countP RouterInput.isTick] router.fade ∧
          (Run.final (AudioRouter.step curves) router inputs).gate =
            Ramp.advance^[kFrameSamples * inputs.countP RouterInput.isTick] router.gate) := by
  induction inputs with
  | nil => exact fun router => ⟨Nat.le_refl _, fun _same => ⟨rfl, rfl, rfl⟩⟩
  | cons input rest ih =>
      intro router
      rw [Run.final_cons]
      cases input with
      | control call =>
          obtain ⟨transitions, state, fade, gate⟩ := router.control_sameSince call
          rw [← transitions, ← state, ← fade, ← gate]
          exact ih (router.control call)
      | tick around =>
          obtain ⟨counted, unmoved⟩ := AudioRouter.tick_sameSince curves router around
          obtain ⟨later, unmovedLater⟩ := ih (router.tick curves around)
          refine ⟨Nat.le_trans counted later, ?_⟩
          intro same
          have first : (router.tick curves around).transitions = router.transitions :=
            Nat.le_antisymm (same ▸ later) counted
          obtain ⟨-, state, fade, gate⟩ := unmoved first
          obtain ⟨stateLater, fadeLater, gateLater⟩ :=
            unmovedLater (same.trans first.symm)
          have ticks : kFrameSamples *
              (RouterInput.tick around :: rest).countP RouterInput.isTick =
              kFrameSamples * rest.countP RouterInput.isTick + kFrameSamples := by
            rw [List.countP_cons_of_pos rfl, Nat.mul_succ]
          rw [ticks, Function.iterate_add_apply, Function.iterate_add_apply, ← fade, ← gate]
          exact ⟨stateLater.trans state, fadeLater, gateLater⟩

/-! ### The settled output -/

structure GainCurves.ExactAtEnds (curves : GainCurves α) : Prop where
  cosineStart : curves.cosine 0 = 1
  cosineEnd : curves.cosine 1 = 0
  sineStart : curves.sine 0 = 0
  sineEnd : curves.sine 1 = 1
  closed : curves.raisedCosine 0 = 0
  opened : curves.raisedCosine 1 = 1

/-- The curves where the local source is heard alone. -/
structure GainCurves.ExactAtLocal (curves : GainCurves α) : Prop where
  cosineStart : curves.cosine 0 = 1
  sineStart : curves.sine 0 = 0
  opened : curves.raisedCosine 1 = 1

theorem GainCurves.ExactAtEnds.atLocal {curves : GainCurves α} (exact_ : curves.ExactAtEnds) :
    curves.ExactAtLocal :=
  ⟨exact_.cosineStart, exact_.sineStart, exact_.opened⟩

structure RouterConfig.FiniteGains (config : RouterConfig α) : Prop where
  local_ : SampleArithmetic.IsFinite config.localGainLinear
  phone : SampleArithmetic.IsFinite config.phoneGainLinear

/-- No sample of the frame is infinite or a NaN. -/
def SourceRead.Finite (read : SourceRead α) : Prop :=
  ∀ index < kFrameSamples, SampleArithmetic.IsFinite (read.samples index)

/-- The targets of the two ramps, read off the state alone. -/
structure AudioRouter.HeadsByState (router : AudioRouter α) : Prop where
  fade : router.state ≠ .errorRecovery →
    router.fade.target =
      if router.state = .phoneActive ∨ router.state = .phoneOnly then 1 else 0
  gate : router.gate.target =
    if router.state = .muted ∨ router.state = .errorRecovery then 0 else 1

/-- What a source of that wiring delivered in a tick. -/
def SourceRead.delivered (read : SourceRead α) (attached : Bool) : AudioFrame α :=
  if attached = true then read.samples else silentFrame

/-- The last frame is that of one source alone, or silence, by the state. While the phone
is on the air the local source is read as well, and its numbers have to be finite. -/
structure AudioRouter.Isolated (router : AudioRouter α) (around : Surroundings α) : Prop where
  local_ : router.state = .localActive ∨ router.state = .localOnly ∨
      router.state = .phoneArming →
    router.outBuf = (List.range kFrameSamples).map (fun index =>
      limit (around.local_.delivered router.wiring.local_ index *
        router.config.localGainLinear))
  phone : router.state = .phoneActive ∧ around.local_.Finite ∨ router.state = .phoneOnly →
    router.outBuf = (List.range kFrameSamples).map (fun index =>
      limit (around.phone.delivered router.wiring.phone index *
        router.config.phoneGainLinear))
  muted : router.state = .muted → router.outBuf = List.replicate kFrameSamples 0

theorem AudioRouter.Sound.headsByState {router : AudioRouter α} (sound : router.Sound) :
    router.HeadsByState := by
  constructor
  · intro calm
    apply sound.fadeHeads
    revert calm
    cases router.state <;> intro calm <;> first | rfl | exact absurd rfl calm
  · rw [sound.gateHeads]
    cases router.state <;> rfl

theorem AudioRouter.applyEvent_keeps_fade {router : AudioRouter α} {event : Event}
    (recovers : (router.applyEvent event).state = .errorRecovery) :
    (router.applyEvent event).fade = router.fade := by
  rcases router.applyEvent_cases event with ⟨-, fade, -⟩ | ⟨-, -, -, fade, -⟩
  · exact fade
  · rw [recovers] at fade
    exact fade

theorem AudioRouter.outputAt_of_rest (curves : GainCurves α) {router : AudioRouter α}
    {fade : Crossfade α} {gate : GainRamp α} (fadeRest : fade.remaining = 0)
    (gateRest : gate.remaining = 0) (index : Nat) :
    router.outputAt curves fade gate index =
      limit ((router.localBuf index * curves.cosine fade.position *
          router.config.localGainLinear +
        router.phoneBuf index * curves.sine fade.position * router.config.phoneGainLinear) *
          curves.raisedCosine gate.position) := by
  unfold AudioRouter.outputAt Ramp.gainsAt Ramp.openingAt
  rw [Ramp.iterate_of_rest fadeRest, Ramp.iterate_of_rest gateRest]

theorem faded_away {sample gain : α} (finite : SampleArithmetic.IsFinite sample)
    (gainFinite : SampleArithmetic.IsFinite gain) : sample * 0 * gain = 0 := by
  rw [SampleArithmetic.mul_zero sample finite, SampleArithmetic.zero_mul gain gainFinite]

section Rest

variable {router : AudioRouter α} {curves : GainCurves α}

theorem AudioRouter.Sound.open_rest (sound : router.Sound)
    (audible : router.state ≠ .muted ∧ router.state ≠ .errorRecovery)
    (gateRest : router.gate.remaining = 0) : router.gate.position = 1 := by
  rw [sound.gateSound.rests gateRest, sound.headsByState.gate, if_neg]
  rintro (muted | recovering)
  · exact audible.1 muted
  · exact audible.2 recovering

theorem AudioRouter.Sound.outputAt_local (sound : router.Sound) (exact_ : curves.ExactAtLocal)
    (local_ : router.state = .localActive ∨ router.state = .localOnly ∨
      router.state = .phoneArming)
    (fadeRest : router.fade.remaining = 0) (gateRest : router.gate.remaining = 0)
    (index : Nat) :
    router.outputAt curves router.fade router.gate index =
      limit (router.localBuf index * router.config.localGainLinear +
        router.phoneBuf index * 0 * router.config.phoneGainLinear) := by
  have fadeAt : router.fade.position = 0 := by
    rw [sound.fadeSound.rests fadeRest, sound.fadeHeads 0]
    rcases local_ with state | state | state <;> rw [state] <;> rfl
  have gateAt : router.gate.position = 1 := by
    apply sound.open_rest _ gateRest
    rcases local_ with state | state | state <;> rw [state] <;> decide
  rw [AudioRouter.outputAt_of_rest curves fadeRest gateRest, fadeAt, gateAt,
    exact_.cosineStart, exact_.sineStart, exact_.opened, SampleArithmetic.mul_one,
    SampleArithmetic.mul_one]

theorem AudioRouter.Sound.outputAt_phone (sound : router.Sound) (exact_ : curves.ExactAtEnds)
    (phone : router.state = .phoneActive ∨ router.state = .phoneOnly)
    (fadeRest : router.fade.remaining = 0) (gateRest : router.gate.remaining = 0)
    (index : Nat) :
    router.outputAt curves router.fade router.gate index =
      limit (router.localBuf index * 0 * router.config.localGainLinear +
        router.phoneBuf index * router.config.phoneGainLinear) := by
  have fadeAt : router.fade.position = 1 := by
    rw [sound.fadeSound.rests fadeRest, sound.fadeHeads 1]
    rcases phone with state | state <;> rw [state] <;> rfl
  have gateAt : router.gate.position = 1 := by
    apply sound.open_rest _ gateRest
    rcases phone with state | state <;> rw [state] <;> decide
  rw [AudioRouter.outputAt_of_rest curves fadeRest gateRest, fadeAt, gateAt,
    exact_.cosineEnd, exact_.sineEnd, exact_.opened, SampleArithmetic.mul_one,
    SampleArithmetic.mul_one]

theorem AudioRouter.Sound.outputAt_muted (sound : router.Sound) (exact_ : curves.ExactAtEnds)
    (gains : router.config.FiniteGains) (muted : router.state = .muted)
    (fadeRest : router.fade.remaining = 0) (gateRest : router.gate.remaining = 0) (index : Nat)
    (unread : router.localBuf index = 0 ∧ router.phoneBuf index = 0) :
    router.outputAt curves router.fade router.gate index = 0 := by
  have fadeAt : router.fade.position = 0 := by
    rw [sound.fadeSound.rests fadeRest, sound.fadeHeads 0]
    rw [muted]
    rfl
  have gateAt : router.gate.position = 0 := by
    rw [sound.gateSound.rests gateRest, sound.headsByState.gate, if_pos (Or.inl muted)]
  rw [AudioRouter.outputAt_of_rest curves fadeRest gateRest, fadeAt, gateAt, unread.1, unread.2,
    exact_.cosineStart, exact_.sineStart, exact_.closed, SampleArithmetic.mul_one,
    SampleArithmetic.zero_mul _ gains.local_,
    faded_away SampleArithmetic.finite_zero gains.phone, SampleArithmetic.add_zero,
    SampleArithmetic.mul_zero _ SampleArithmetic.finite_zero, limit_zero]

end Rest

/-- Both buffers after a read that ends outside error recovery: they hold what the source
delivered when the state wants it, and nothing when it does not and the gate is at rest. -/
theorem AudioRouter.ready_heard {router : AudioRouter α} {around : Surroundings α}
    (calm : (router.ready around).state ≠ .errorRecovery) :
    (router.ready around).localBuf = around.local_.heard (router.ready around).wiring.local_
        ((router.ready around).sm.wantsLocal || (router.ready around).gate.active) ∧
      (router.ready around).phoneBuf = around.phone.heard (router.ready around).wiring.phone
        ((router.ready around).sm.wantsPhone || (router.ready around).gate.active) := by
  unfold AudioRouter.ready at calm ⊢
  rw [AudioRouter.readSources_heard calm]
  exact ⟨rfl, rfl⟩

theorem SourceRead.heard_wanted (read : SourceRead α) (attached : Bool) {wanted : Bool}
    (asked : wanted = true) : read.heard attached wanted = read.delivered attached := by
  unfold SourceRead.heard SourceRead.delivered
  cases attached <;> simp [asked]

theorem SourceRead.heard_unwanted (read : SourceRead α) (attached : Bool) {wanted : Bool}
    (unasked : wanted = false) : read.heard attached wanted = silentFrame := by
  unfold SourceRead.heard
  rw [if_pos (Or.inl unasked)]

theorem SourceRead.Finite.delivered {read : SourceRead α} (finite : read.Finite)
    (attached : Bool) {index : Nat} (inside : index < kFrameSamples) :
    SampleArithmetic.IsFinite (read.delivered attached index) := by
  unfold SourceRead.delivered
  split
  · exact finite index inside
  · exact SampleArithmetic.finite_zero

/-- What the mix finds when both ramps rest and the state stays. -/
structure AudioRouter.Settling (router : AudioRouter α) (around : Surroundings α) : Prop where
  sound : (router.ready around).Sound
  gains : (router.ready around).config.FiniteGains
  fadeRest : (router.ready around).fade.remaining = 0
  gateRest : (router.ready around).gate.remaining = 0

namespace AudioRouter.Settling

variable {router : AudioRouter α} {around : Surroundings α} {curves : GainCurves α}

theorem unasked (settling : router.Settling around) {wanted : Bool} (unwanted : wanted = false) :
    (wanted || (router.ready around).gate.active) = false := by
  rw [unwanted, Bool.false_or]
  apply Bool.eq_false_iff.mpr
  rw [ne_eq, Ramp.active_iff, settling.gateRest]
  exact Nat.lt_irrefl 0

theorem frame_local (settling : router.Settling around) (exact_ : curves.ExactAtLocal)
    (local_ : (router.ready around).state = .localActive ∨
      (router.ready around).state = .localOnly ∨ (router.ready around).state = .phoneArming)
    (index : Nat) :
    (router.ready around).outputAt curves (router.ready around).fade
        (router.ready around).gate index =
      limit (around.local_.delivered (router.ready around).wiring.local_ index *
        (router.ready around).config.localGainLinear) := by
  have calm : (router.ready around).state ≠ .errorRecovery := by
    rcases local_ with state | state | state <;> rw [state] <;> decide
  obtain ⟨localBuf, phoneBuf⟩ := AudioRouter.ready_heard calm
  have wants : (router.ready around).sm.wantsLocal = true ∧
      (router.ready around).sm.wantsPhone = false := by
    unfold AudioRouter.state at local_
    unfold SourceStateMachine.wantsLocal SourceStateMachine.wantsPhone
    rcases local_ with state | state | state <;> rw [state] <;> exact ⟨rfl, rfl⟩
  rw [settling.sound.outputAt_local exact_ local_ settling.fadeRest settling.gateRest,
    localBuf, phoneBuf, SourceRead.heard_wanted _ _ (by rw [wants.1, Bool.true_or]),
    SourceRead.heard_unwanted _ _ (settling.unasked wants.2)]
  unfold silentFrame
  rw [faded_away SampleArithmetic.finite_zero settling.gains.phone, SampleArithmetic.add_zero]

theorem frame_phone (settling : router.Settling around) (exact_ : curves.ExactAtEnds)
    (phone : (router.ready around).state = .phoneActive ∧ around.local_.Finite ∨
      (router.ready around).state = .phoneOnly)
    {index : Nat} (inside : index < kFrameSamples) :
    (router.ready around).outputAt curves (router.ready around).fade
        (router.ready around).gate index =
      limit (around.phone.delivered (router.ready around).wiring.phone index *
        (router.ready around).config.phoneGainLinear) := by
  have phoneSide : (router.ready around).state = .phoneActive ∨
      (router.ready around).state = .phoneOnly := phone.imp_left And.left
  have calm : (router.ready around).state ≠ .errorRecovery := by
    rcases phoneSide with state | state <;> rw [state] <;> decide
  obtain ⟨localBuf, phoneBuf⟩ := AudioRouter.ready_heard calm
  have wants : (router.ready around).sm.wantsPhone = true := by
    unfold AudioRouter.state at phoneSide
    unfold SourceStateMachine.wantsPhone
    rcases phoneSide with state | state <;> rw [state]
  have finite : SampleArithmetic.IsFinite ((router.ready around).localBuf index) := by
    rw [localBuf]
    rcases phone with ⟨active, finite⟩ | only
    · unfold AudioRouter.state at active
      rw [SourceRead.heard_wanted _ _ (by
        unfold SourceStateMachine.wantsLocal
        rw [active, Bool.true_or])]
      exact finite.delivered _ inside
    · unfold AudioRouter.state at only
      rw [SourceRead.heard_unwanted _ _ (settling.unasked (by
        unfold SourceStateMachine.wantsLocal
        rw [only]))]
      exact SampleArithmetic.finite_zero
  rw [settling.sound.outputAt_phone exact_ phoneSide settling.fadeRest settling.gateRest,
    faded_away finite settling.gains.local_, SampleArithmetic.zero_add, phoneBuf,
    SourceRead.heard_wanted _ _ (by rw [wants, Bool.true_or])]

theorem frame_muted (settling : router.Settling around) (exact_ : curves.ExactAtEnds)
    (muted : (router.ready around).state = .muted) (index : Nat) :
    (router.ready around).outputAt curves (router.ready around).fade
        (router.ready around).gate index = 0 := by
  have calm : (router.ready around).state ≠ .errorRecovery := by
    rw [muted]
    decide
  obtain ⟨localBuf, phoneBuf⟩ := AudioRouter.ready_heard calm
  have unwanted : (router.ready around).sm.wantsLocal = false ∧
      (router.ready around).sm.wantsPhone = false := by
    unfold AudioRouter.state at muted
    unfold SourceStateMachine.wantsLocal SourceStateMachine.wantsPhone
    rw [muted]
    exact ⟨rfl, rfl⟩
  apply settling.sound.outputAt_muted exact_ settling.gains muted settling.fadeRest
    settling.gateRest
  rw [localBuf, phoneBuf, SourceRead.heard_unwanted _ _ (settling.unasked unwanted.1),
    SourceRead.heard_unwanted _ _ (settling.unasked unwanted.2)]
  exact ⟨rfl, rfl⟩

end AudioRouter.Settling

theorem AudioRouter.Sound.settling {router : AudioRouter α} (sound : router.Sound)
    (curves : GainCurves α) (gains : router.config.FiniteGains) (around : Surroundings α)
    (fadeRest : router.fade.remaining = 0) (gateRest : router.gate.remaining = 0)
    (same : (router.tick curves around).transitions = router.transitions) :
    router.Settling around := by
  obtain ⟨-, unmoved⟩ := AudioRouter.tick_sameSince curves router around
  obtain ⟨⟨-, readyFade, readyGate⟩, -⟩ := unmoved same
  have config : (router.ready around).config = router.config :=
    (AudioRouter.stable_config router.config).ready rfl around
  exact
    { sound := AudioRouter.stable_sound.ready sound around
      gains := config ▸ gains
      fadeRest := readyFade ▸ fadeRest
      gateRest := readyGate ▸ gateRest }

theorem AudioRouter.tick_frame (curves : GainCurves α) (router : AudioRouter α)
    (around : Surroundings α) {alone : AudioFrame α}
    (each : ∀ index < kFrameSamples, (router.ready around).outputAt curves
      (router.ready around).fade (router.ready around).gate index = alone index) :
    (router.tick curves around).outBuf = (List.range kFrameSamples).map alone := by
  rw [AudioRouter.tick_outBuf]
  exact List.map_congr_left (fun index inside => each index (List.mem_range.mp inside))

theorem AudioRouter.Settling.tick_isolated {router : AudioRouter α} {around : Surroundings α}
    (settling : router.Settling around) {curves : GainCurves α} (exact_ : curves.ExactAtEnds)
    (same : (router.tick curves around).transitions = router.transitions) :
    (router.tick curves around).Isolated around := by
  obtain ⟨-, unmoved⟩ := AudioRouter.tick_sameSince curves router around
  obtain ⟨⟨readyState, -, -⟩, state, -, -⟩ := unmoved same
  have config : (router.tick curves around).config = (router.ready around).config :=
    (AudioRouter.tick_config curves router around).trans
      ((AudioRouter.stable_config router.config).ready rfl around).symm
  have wiring : (router.tick curves around).wiring = (router.ready around).wiring :=
    (router.tick_wiring curves around).trans
      ((AudioRouter.stable_wiring router.wiring).ready rfl around).symm
  have stateAt := state.trans readyState.symm
  constructor
  · intro local_
    rw [stateAt] at local_
    rw [config, wiring]
    exact router.tick_frame curves around
      (fun index _inside => settling.frame_local exact_.atLocal local_ index)
  · intro phone
    rw [stateAt] at phone
    rw [config, wiring]
    exact router.tick_frame curves around
      (fun index inside => settling.frame_phone exact_ phone inside)
  · intro muted
    rw [stateAt] at muted
    rw [router.tick_frame curves around
      (fun index _inside => settling.frame_muted exact_ muted index)]
    rw [List.map_const', List.length_range]

theorem rest_of_ticks {remaining full ticks : Nat} (bounded : remaining ≤ full)
    (enough : ticksFor full ≤ ticks) : remaining - kFrameSamples * ticks = 0 := by
  unfold ticksFor kFrameSamples at *
  omega

theorem AudioRouter.Sound.rest_after {start : AudioRouter α} (sound : start.Sound)
    (curves : GainCurves α) {quiet : List (RouterInput α)}
    (still : (Run.final (AudioRouter.step curves) start quiet).transitions = start.transitions)
    (enough : ticksFor (rampSamples α start.config.crossfadeMs) ≤
      quiet.countP RouterInput.isTick) :
    (Run.final (AudioRouter.step curves) start quiet).fade.remaining = 0 ∧
      (Run.final (AudioRouter.step curves) start quiet).gate.remaining = 0 := by
  obtain ⟨-, fade, gate⟩ := (AudioRouter.run_sameSince curves quiet start).2 still
  rw [fade, gate, Ramp.iterate_remaining, Ramp.iterate_remaining]
  exact ⟨rest_of_ticks sound.fadeSound.bounded enough,
    rest_of_ticks sound.gateSound.bounded enough⟩

theorem AudioRouter.settling_of_quiet (curves : GainCurves α) {config : RouterConfig α}
    (gains : config.FiniteGains) (wiring : Wiring) (before quiet : List (RouterInput α))
    (around : Surroundings α) :
    let start :=
      Run.final (AudioRouter.step curves) (AudioRouter.initial config wiring) before
    let settled := Run.final (AudioRouter.step curves) start quiet
    (settled.tick curves around).transitions = start.transitions →
    ticksFor (rampSamples α config.crossfadeMs) ≤ quiet.countP RouterInput.isTick →
    settled.Settling around ∧
      (settled.tick curves around).transitions = settled.transitions := by
  intro start settled same enough
  have sound : start.Sound := AudioRouter.sound_final curves config wiring before
  have configured : start.config = config :=
    AudioRouter.final_config curves config wiring before
  have counted := (AudioRouter.run_sameSince curves quiet start).1
  have last := (AudioRouter.tick_sameSince curves settled around).1
  have still : settled.transitions = start.transitions := Nat.le_antisymm (same ▸ last) counted
  obtain ⟨fadeRest, gateRest⟩ := sound.rest_after curves still (configured.symm ▸ enough)
  have whole := Run.final_append (AudioRouter.step curves) (AudioRouter.initial config wiring)
    before quiet
  have soundLater := AudioRouter.sound_final curves config wiring (before ++ quiet)
  have configLater := AudioRouter.final_config curves config wiring (before ++ quiet)
  rw [whole] at soundLater configLater
  have gainsLater : settled.config.FiniteGains := by
    rw [show settled.config = config from configLater]
    exact gains
  have unchanged := same.trans still.symm
  exact ⟨soundLater.settling curves gainsLater around fadeRest gateRest unchanged, unchanged⟩

/-- In every run the state alone says where the two ramps head, entering error
recovery leaves the crossfade as it is, and once as many ticks as a full ramp takes have
passed without a state change, the frame of a tick without one comes from one source
alone. -/
theorem settled_output_isolated (curves : GainCurves α) (config : RouterConfig α)
    (wiring : Wiring) (before : List (RouterInput α)) :
    let start :=
      Run.final (AudioRouter.step curves) (AudioRouter.initial config wiring) before
    (∀ around, (start.tick curves around).HeadsByState) ∧
      (∀ (router : AudioRouter α) (event : Event),
        (router.applyEvent event).state = .errorRecovery →
        (router.applyEvent event).fade = router.fade) ∧
      (curves.ExactAtEnds → config.FiniteGains →
        ∀ (quiet : List (RouterInput α)) (around : Surroundings α),
        let after := (Run.final (AudioRouter.step curves) start quiet).tick curves around
        after.transitions = start.transitions →
        ticksFor (max 1 ⌈rounded α (max 1 (48 * config.crossfadeMs.toNat) : Nat)⌉₊) ≤
          quiet.countP RouterInput.isTick →
        after.Isolated around) := by
  intro start
  have sound : start.Sound := AudioRouter.sound_final curves config wiring before
  refine ⟨fun around => (sound.tick curves around).headsByState,
    fun _router _event => AudioRouter.applyEvent_keeps_fade, ?_⟩
  intro exact_ gains quiet around after same enough
  rw [← millisToSamples_eq] at enough
  obtain ⟨settling, unchanged⟩ :=
    AudioRouter.settling_of_quiet curves gains wiring before quiet around same enough
  exact settling.tick_isolated exact_ unchanged

/-! ### Single precision -/

/-- Straight lines in single precision, with that gain of the local source at the end. -/
def straightCurves (atEnd : Binary32) : GainCurves Binary32 :=
  { cosine := fun position => if position = 1 then atEnd else .ofExact _ (1 - position)
    sine := .ofExact _
    raisedCosine := .ofExact _ }

theorem straightCurves_exactAtLocal (atEnd : Binary32) : (straightCurves atEnd).ExactAtLocal :=
  { cosineStart := by
      unfold straightCurves
      dsimp only
      rw [if_neg zero_ne_one, sub_zero]
      rfl
    sineStart := rfl
    opened := rfl }

theorem straightCurves_exactAtEnds : (straightCurves 0).ExactAtEnds :=
  { cosineStart := (straightCurves_exactAtLocal 0).cosineStart
    cosineEnd := by
      unfold straightCurves
      dsimp only
      rw [if_pos rfl]
    sineStart := rfl
    sineEnd := rfl
    closed := rfl
    opened := rfl }

theorem unityGains_finite : ({} : RouterConfig Binary32).FiniteGains :=
  { local_ := congrArg Floating.isFinite Floating.one_eq
    phone := congrArg Floating.isFinite Floating.one_eq }

def busyRoom (sample : Binary32) : Surroundings Binary32 :=
  { local_ := { status := .ok, samples := fun _ => sample }
    phone := { status := .ok, samples := fun _ => .ofExact _ (1 / 4) }
    sinkAccepts := true }

def answered : List (RouterInput Binary32) :=
  [.control .startPtt, .control .notifyPhoneReady, .tick (busyRoom (.ofExact _ (1 / 2)))]

/-- Two frames later the phone is heard alone. -/
theorem settled_output_isolated_answered :
    (Run.final (AudioRouter.step (straightCurves 0)) (AudioRouter.initial {} fullyWired)
      (answered ++ [.tick (busyRoom (.ofExact _ (1 / 2))),
        .tick (busyRoom (.ofExact _ (1 / 2)))])).outBuf =
      (List.range kFrameSamples).map (fun _index => limit (.ofExact _ (1 / 4) * 1)) := by
  obtain ⟨-, -, settles⟩ := settled_output_isolated (straightCurves 0) {} fullyWired answered
  have half : (Floating.ofExact FloatFormat.binary32 (1 / 2)).isFinite = true := by
    decide +kernel
  have finite : (busyRoom (.ofExact _ (1 / 2))).local_.Finite := fun _index _inside => half
  have isolated := settles straightCurves_exactAtEnds unityGains_finite
    [.tick (busyRoom (.ofExact _ (1 / 2)))] (busyRoom (.ofExact _ (1 / 2)))
    (by decide +kernel) (by decide +kernel)
  exact isolated.phone (Or.inl ⟨by decide +kernel, finite⟩)

theorem limit_nan : limit (.nan : Binary32) = .nan := by decide +kernel

/-- On the air the local gain is 0, and an infinity times it is no number. -/
theorem AudioRouter.Settling.frame_infinite {router : AudioRouter Binary32}
    {around : Surroundings Binary32} {curves : GainCurves Binary32}
    (settling : router.Settling around) (exact_ : curves.ExactAtEnds)
    (active : (router.ready around).state = .phoneActive)
    (attached : (router.ready around).wiring.local_ = true) {negative : Bool} {index : Nat}
    (infinite : around.local_.samples index = .infinite negative)
    (gain : (router.ready around).config.localGainLinear = 1) :
    (router.ready around).outputAt curves (router.ready around).fade
      (router.ready around).gate index = .nan := by
  have calm : (router.ready around).state ≠ .errorRecovery := by
    rw [active]
    decide
  obtain ⟨localBuf, -⟩ := AudioRouter.ready_heard calm
  have wants : (router.ready around).sm.wantsLocal = true := by
    unfold AudioRouter.state at active
    unfold SourceStateMachine.wantsLocal
    rw [active]
  have heard : (router.ready around).localBuf index = .infinite negative := by
    rw [localBuf, SourceRead.heard_wanted _ _ (by rw [wants, Bool.true_or]), attached]
    exact infinite
  rw [settling.sound.outputAt_phone exact_ (Or.inl active) settling.fadeRest settling.gateRest,
    heard, Floating.infinite_times_zero, gain, SampleArithmetic.mul_one, Floating.nan_plus,
    limit_nan]

/-- The local source delivers infinities while the phone is on the air, a frame after the
crossfade is over: the settled output is no number. -/
theorem infinity_of_other_source_heard :
    let start := Run.final (AudioRouter.step (straightCurves 0))
      (AudioRouter.initial {} fullyWired) answered
    let after := (Run.final (AudioRouter.step (straightCurves 0)) start
      [.tick (busyRoom (.ofExact _ (1 / 2)))]).tick (straightCurves 0)
        (busyRoom (.infinite false))
    after.transitions = start.transitions ∧ ticksFor (max 1 (48 * 15)) ≤ 1 ∧
      after.state = .phoneActive ∧
      after.outBuf = (List.range kFrameSamples).map (fun _index => .nan) ∧
      after.outBuf ≠ (List.range kFrameSamples).map (fun _index =>
        limit (.ofExact _ (1 / 4) * 1)) := by
  intro start after
  have same : after.transitions = start.transitions := by decide +kernel
  have state : after.state = .phoneActive := by decide +kernel
  obtain ⟨settling, unchanged⟩ := AudioRouter.settling_of_quiet (straightCurves 0)
    unityGains_finite fullyWired answered [.tick (busyRoom (.ofExact _ (1 / 2)))]
    (busyRoom (.infinite false)) same (by decide +kernel)
  have infinite : ∀ index, (busyRoom (.infinite false)).local_.samples index =
      .infinite false := fun _index => rfl
  have frame : after.outBuf = (List.range kFrameSamples).map (fun _index => .nan) := by
    apply AudioRouter.tick_frame
    intro index _inside
    apply settling.frame_infinite straightCurves_exactAtEnds
    · decide +kernel
    · decide +kernel
    · exact infinite index
    · decide +kernel
  refine ⟨same, by decide, state, frame, ?_⟩
  rw [frame]
  intro same
  have first := List.map_inj_left.mp same 0 (List.mem_range.mpr (by decide))
  revert first
  decide +kernel

end SmartMic.Audio
