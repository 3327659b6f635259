import SmartMic.Audio.Router

set_option autoImplicit false

/-! What every reachable router keeps. A property is stable when events and the
bookkeeping around them keep it; a stable property passes through the part of a
tick that comes before the mix. -/

namespace SmartMic.Audio

variable {α : Type} [SampleArithmetic α]

/-! ### Stable properties -/

structure Stable (holds : AudioRouter α → Prop) : Prop where
  event : ∀ router event, holds router → holds (router.applyEvent event)
  emptied : ∀ router : AudioRouter α, holds router → holds { router with events := [] }
  bookkeeping : ∀ (router : AudioRouter α) (armTimeouts phoneLost sourceFailures : Nat)
    (localBuf phoneBuf : AudioFrame α),
    holds router → holds { router with
      armTimeouts := armTimeouts
      phoneLost := phoneLost
      sourceFailures := sourceFailures
      localBuf := localBuf
      phoneBuf := phoneBuf }

/-- The events that a tick raises itself, in its timers, its reads or at its end. -/
def Event.ofTick : Event → Bool
  | .phoneLost | .armTimeout | .fadeComplete | .sourceFailure | .recovered => true
  | _ => false

/-- A property that a tick keeps from the drained events on. -/
structure Steady (holds : AudioRouter α → Prop) : Prop where
  event : ∀ router event, event.ofTick = true → holds router → holds (router.applyEvent event)
  bookkeeping : ∀ (router : AudioRouter α) (armTimeouts phoneLost sourceFailures : Nat)
    (localBuf phoneBuf : AudioFrame α),
    holds router → holds { router with
      armTimeouts := armTimeouts
      phoneLost := phoneLost
      sourceFailures := sourceFailures
      localBuf := localBuf
      phoneBuf := phoneBuf }

section Phases

variable {holds : AudioRouter α → Prop} {router : AudioRouter α}

theorem Stable.steady (stable : Stable holds) : Steady holds :=
  { event := fun router event _ofTick => stable.event router event
    bookkeeping := stable.bookkeeping }

theorem Steady.updateTimers (steady : Steady holds) (start : holds router) :
    holds router.updateTimers := by
  unfold AudioRouter.updateTimers
  split
  · exact steady.event _ _ rfl start
  · split
    · apply steady.event _ _ rfl
      exact steady.bookkeeping router _ router.phoneLost router.sourceFailures
        router.localBuf router.phoneBuf start
    · split
      · apply steady.event _ _ rfl
        exact steady.bookkeeping router router.armTimeouts _ router.sourceFailures
          router.localBuf router.phoneBuf start
      · exact start

theorem Steady.fill (steady : Steady holds) (start : holds router) (attached wanted : Bool)
    (read : SourceRead α) : holds (router.fill attached wanted read).1 := by
  unfold AudioRouter.fill
  split
  · exact start
  · cases read.status with
    | failed =>
        change holds (AudioRouter.applyEvent _ .sourceFailure)
        apply steady.event _ _ rfl
        exact steady.bookkeeping router router.armTimeouts router.phoneLost _
          router.localBuf router.phoneBuf start
    | ok => exact start
    | underrun => exact start

theorem Steady.readLocal (steady : Steady holds) (start : holds router) (holdForGate : Bool)
    (around : Surroundings α) : holds (router.readLocal holdForGate around) := by
  have read := steady.fill start router.wiring.local_ (router.sm.wantsLocal || holdForGate)
    around.local_
  unfold AudioRouter.readLocal
  revert read
  generalize router.fill router.wiring.local_ (router.sm.wantsLocal || holdForGate)
    around.local_ = filled
  obtain ⟨next, localBuf⟩ := filled
  intro read
  exact steady.bookkeeping next next.armTimeouts next.phoneLost next.sourceFailures
    localBuf next.phoneBuf read

theorem Steady.readPhone (steady : Steady holds) (start : holds router) (holdForGate : Bool)
    (around : Surroundings α) : holds (router.readPhone holdForGate around) := by
  have read := steady.fill start router.wiring.phone (router.sm.wantsPhone || holdForGate)
    around.phone
  unfold AudioRouter.readPhone
  revert read
  generalize router.fill router.wiring.phone (router.sm.wantsPhone || holdForGate)
    around.phone = filled
  obtain ⟨next, phoneBuf⟩ := filled
  intro read
  exact steady.bookkeeping next next.armTimeouts next.phoneLost next.sourceFailures
    next.localBuf phoneBuf read

theorem Steady.readSources (steady : Steady holds) (start : holds router)
    (around : Surroundings α) : holds (router.readSources around) :=
  steady.readPhone (steady.readLocal start _ around) _ around

theorem Stable.drainEvents (stable : Stable holds) (start : holds router) :
    holds router.drainEvents :=
  Run.invariant_always holds stable.event _ router.events (stable.emptied router start)

theorem Stable.updateTimers (stable : Stable holds) (start : holds router) :
    holds router.updateTimers :=
  stable.steady.updateTimers start

theorem Stable.readLocal (stable : Stable holds) (start : holds router) (holdForGate : Bool)
    (around : Surroundings α) : holds (router.readLocal holdForGate around) :=
  stable.steady.readLocal start holdForGate around

theorem Stable.readSources (stable : Stable holds) (start : holds router)
    (around : Surroundings α) : holds (router.readSources around) :=
  stable.steady.readSources start around

end Phases

/-! ### The mix moves both ramps by one frame and nothing else that matters here -/

theorem AudioRouter.mixFold (curves : GainCurves α) (router : AudioRouter α) (mix : Mix α)
    (count : Nat) :
    ((List.range count).foldl (router.mixSample curves) mix).fade =
        Ramp.advance^[count] mix.fade ∧
      ((List.range count).foldl (router.mixSample curves) mix).gate =
        Ramp.advance^[count] mix.gate := by
  induction count with
  | zero => exact ⟨rfl, rfl⟩
  | succ count ih =>
      rw [List.range_succ, List.foldl_append, List.foldl_cons, List.foldl_nil,
        Function.iterate_succ_apply', Function.iterate_succ_apply', ← ih.1, ← ih.2]
      unfold AudioRouter.mixSample
      dsimp only
      split
      · exact ⟨rfl, rfl⟩
      · split <;> exact ⟨rfl, rfl⟩

theorem AudioRouter.mixAndWrite_eq (curves : GainCurves α) (router : AudioRouter α) :
    ∃ (outBuf : List α) (limited : Nat),
      router.mixAndWrite curves = { router with
        fade := Ramp.advance^[kFrameSamples] router.fade
        gate := Ramp.advance^[kFrameSamples] router.gate
        outBuf := outBuf
        limited := limited } := by
  unfold AudioRouter.mixAndWrite
  obtain ⟨fade, gate⟩ := AudioRouter.mixFold curves router
    { fade := router.fade, gate := router.gate, limited := 0, out := [] } kFrameSamples
  revert fade gate
  generalize (List.range kFrameSamples).foldl (router.mixSample curves)
    { fade := router.fade, gate := router.gate, limited := 0, out := [] } = mix
  intro fade gate
  refine ⟨mix.out, router.limited + mix.limited, ?_⟩
  rw [← fade, ← gate]

theorem Stable.ready {holds : AudioRouter α → Prop} {router : AudioRouter α} (stable : Stable holds)
    (start : holds router) (around : Surroundings α) : holds (router.ready around) :=
  stable.readSources (stable.updateTimers (stable.drainEvents start)) around

theorem AudioRouter.written_eq (curves : GainCurves α) (router : AudioRouter α)
    (around : Surroundings α) :
    ∃ (outBuf : List α) (limited sinkFailures : Nat),
      (router.produceFrame curves around).writeSink around = { router.ready around with
        fade := Ramp.advance^[kFrameSamples] (router.ready around).fade
        gate := Ramp.advance^[kFrameSamples] (router.ready around).gate
        outBuf := outBuf
        limited := limited
        sinkFailures := sinkFailures
        frameIndex := (router.ready around).frameIndex + 1
        framesProduced := (router.ready around).frameIndex + 1 } := by
  obtain ⟨outBuf, limited, mixed⟩ :=
    AudioRouter.mixAndWrite_eq curves (router.ready around)
  unfold AudioRouter.writeSink AudioRouter.produceFrame
  rw [mixed]
  dsimp only
  split
  · refine ⟨outBuf, limited, (router.ready around).sinkFailures + 1, ?_⟩
    rfl
  · refine ⟨outBuf, limited, (router.ready around).sinkFailures, ?_⟩
    rfl

theorem AudioRouter.closeFade_cases (router : AudioRouter α) :
    (router.closeFade = router ∧
      (router.state = .returningToLocal → 0 < router.fade.remaining)) ∨
    (router.closeFade = router.applyEvent .fadeComplete ∧
      router.state = .returningToLocal) := by
  unfold AudioRouter.closeFade
  split
  · rename_i finished
    exact Or.inr ⟨rfl, finished.1⟩
  · rename_i going
    refine Or.inl ⟨rfl, ?_⟩
    intro returning
    rw [← Ramp.active_iff]
    by_contra inactive
    exact going ⟨returning, Bool.eq_false_iff.mpr inactive⟩

/-- What the mix and the sink make of a ready router, up to buffers and counters. -/
structure AudioRouter.MixedFrom (ready written : AudioRouter α) : Prop where
  config : written.config = ready.config
  wiring : written.wiring = ready.wiring
  sm : written.sm = ready.sm
  fade : written.fade = Ramp.advance^[kFrameSamples] ready.fade
  gate : written.gate = Ramp.advance^[kFrameSamples] ready.gate
  events : written.events = ready.events
  armed : written.armStartedFrame = ready.armStartedFrame
  heard : written.lastHeartbeatFrame = ready.lastHeartbeatFrame
  index : written.frameIndex = ready.frameIndex + 1
  produced : written.framesProduced = ready.frameIndex + 1
  applied : written.applied = ready.applied

theorem AudioRouter.MixedFrom.state {ready written : AudioRouter α}
    (mixed : ready.MixedFrom written) : written.state = ready.state :=
  congrArg SourceStateMachine.state mixed.sm

theorem AudioRouter.written_mixed (curves : GainCurves α) (router : AudioRouter α)
    (around : Surroundings α) :
    (router.ready around).MixedFrom ((router.produceFrame curves around).writeSink around) := by
  obtain ⟨outBuf, limited, sinkFailures, written⟩ := AudioRouter.written_eq curves router around
  constructor <;> rw [written]

theorem AudioRouter.tick_cases (curves : GainCurves α) (router : AudioRouter α)
    (around : Surroundings α) :
    ∃ written : AudioRouter α, (router.ready around).MixedFrom written ∧
      ((router.tick curves around = written ∧
          (written.state = .returningToLocal → 0 < written.fade.remaining)) ∨
        (router.tick curves around = written.applyEvent .fadeComplete ∧
          written.state = .returningToLocal)) :=
  ⟨(router.produceFrame curves around).writeSink around, router.written_mixed curves around,
    AudioRouter.closeFade_cases _⟩

theorem AudioRouter.tick_moving (curves : GainCurves α) (router : AudioRouter α)
    (around : Surroundings α)
    (moving : kFrameSamples < (router.ready around).fade.remaining) :
    (router.ready around).MixedFrom (router.tick curves around) := by
  have mixed := router.written_mixed curves around
  have going : 0 < ((router.produceFrame curves around).writeSink around).fade.remaining := by
    rw [mixed.fade, Ramp.iterate_remaining]
    exact Nat.sub_pos_of_lt moving
  unfold AudioRouter.tick AudioRouter.closeFade
  rw [if_neg]
  · exact mixed
  · rintro ⟨-, inactive⟩
    rw [(Ramp.active_iff _).mpr going] at inactive
    cases inactive

/-- What the events of a tick keep, the tick keeps once its pending events are drained. -/
theorem Steady.tick {holds : AudioRouter α → Prop} (steady : Steady holds) {router : AudioRouter α}
    (drained : holds router.drainEvents) (curves : GainCurves α) (around : Surroundings α)
    (mixes : ∀ ready written : AudioRouter α, ready.MixedFrom written → holds ready →
      holds written) : holds (router.tick curves around) := by
  have ready : holds (router.ready around) :=
    steady.readSources (steady.updateTimers drained) around
  obtain ⟨written, mixed, closes⟩ := AudioRouter.tick_cases curves router around
  rcases closes with ⟨same, -⟩ | ⟨closed, -⟩
  · rw [same]
    exact mixes _ _ mixed ready
  · rw [closed]
    exact steady.event _ _ rfl (mixes _ _ mixed ready)

theorem Stable.tick {holds : AudioRouter α → Prop} (stable : Stable holds) {router : AudioRouter α}
    (start : holds router) (curves : GainCurves α) (around : Surroundings α)
    (mixes : ∀ ready written : AudioRouter α, ready.MixedFrom written → holds ready →
      holds written) : holds (router.tick curves around) :=
  stable.steady.tick (stable.drainEvents start) curves around mixes

theorem AudioRouter.stable_wiring (wiring : Wiring) :
    Stable (fun router : AudioRouter α => router.wiring = wiring) :=
  { event := by
      intro router event same
      rw [AudioRouter.applyEvent_wiring]
      exact same
    emptied := fun _router same => same
    bookkeeping := fun _router _ _ _ _ _ same => same }

theorem AudioRouter.tick_wiring (router : AudioRouter α) (curves : GainCurves α)
    (around : Surroundings α) : (router.tick curves around).wiring = router.wiring :=
  (AudioRouter.stable_wiring router.wiring).tick rfl curves around
    (fun _ready _written mixed same => mixed.wiring.trans same)

/-! ### The configuration -/

theorem AudioRouter.stable_config (config : RouterConfig α) :
    Stable (fun router : AudioRouter α => router.config = config) :=
  { event := by
      intro router event same
      rw [AudioRouter.applyEvent_config]
      exact same
    emptied := fun _router same => same
    bookkeeping := fun _router _ _ _ _ _ same => same }

theorem AudioRouter.tick_config (curves : GainCurves α) (router : AudioRouter α)
    (around : Surroundings α) : (router.tick curves around).config = router.config :=
  (AudioRouter.stable_config router.config).tick rfl curves around
    (fun _ready _written mixed same => mixed.config.trans same)

theorem AudioRouter.control_config (router : AudioRouter α) (call : Control) :
    (router.control call).config = router.config := by
  obtain ⟨events, lastHeartbeatFrame, called⟩ := router.control_eq call
  rw [called]

theorem AudioRouter.final_config (curves : GainCurves α) (config : RouterConfig α) (wiring : Wiring)
    (inputs : List (RouterInput α)) :
    (Run.final (AudioRouter.step curves) (AudioRouter.initial config wiring) inputs).config =
      config := by
  apply Run.invariant_always (fun router : AudioRouter α => router.config = config)
  · intro router input same
    cases input with
    | control call => exact (AudioRouter.control_config router call).trans same
    | tick around => exact (AudioRouter.tick_config curves router around).trans same
  · rfl

/-! ### Events with one outcome -/

theorem AudioRouter.recovered_state {router : AudioRouter α}
    (recovering : router.state = .errorRecovery) :
    (router.applyEvent .recovered).state = restingStateFor router.mode := by
  unfold AudioRouter.state at recovering ⊢
  simp [SourceStateMachine.apply, SourceStateMachine.edge, recovering, AudioRouter.mode]

theorem AudioRouter.fadeComplete_state {router : AudioRouter α}
    (returning : router.state = .returningToLocal) :
    (router.applyEvent .fadeComplete).state = .localActive := by
  unfold AudioRouter.state at returning ⊢
  simp [SourceStateMachine.apply, SourceStateMachine.edge, returning]

theorem AudioRouter.sourceFailure_state (router : AudioRouter α) :
    (router.applyEvent .sourceFailure).state = .errorRecovery := by
  unfold AudioRouter.state
  rw [AudioRouter.applyEvent_sm, SourceStateMachine.apply_sourceFailure]

/-! ### Reading the sources -/

theorem AudioRouter.fill_cases (router : AudioRouter α) (attached wanted : Bool)
    (read : SourceRead α) :
    (router.fill attached wanted read).1 = router ∨
    (read.status = .failed ∧ wanted = true ∧ attached = true ∧
      (router.fill attached wanted read).1 =
        AudioRouter.applyEvent { router with sourceFailures := router.sourceFailures + 1 }
          .sourceFailure) := by
  unfold AudioRouter.fill
  split
  · exact Or.inl rfl
  · rename_i asked
    cases status : read.status with
    | ok => exact Or.inl rfl
    | underrun => exact Or.inl rfl
    | failed =>
        refine Or.inr ⟨rfl, ?_, ?_, rfl⟩
        · cases wanted with
          | true => rfl
          | false => exact absurd (Or.inl rfl) asked
        · cases attached with
          | true => rfl
          | false => exact absurd (Or.inr rfl) asked

/-- The local source is read, because it is wanted or because the gate is moving,
and reports a failure. -/
def AudioRouter.localFails (router : AudioRouter α) (around : Surroundings α) : Bool :=
  router.wiring.local_ && (router.sm.wantsLocal || router.gate.active) &&
    decide (around.local_.status = .failed)

def AudioRouter.phoneFails (router : AudioRouter α) (around : Surroundings α) : Bool :=
  router.wiring.phone && (router.sm.wantsPhone || router.gate.active) &&
    decide (around.phone.status = .failed)

theorem AudioRouter.readLocal_cases (router : AudioRouter α) (holdForGate : Bool)
    (around : Surroundings α) :
    (∃ localBuf, router.readLocal holdForGate around = { router with localBuf := localBuf }) ∨
    ((router.readLocal holdForGate around).state = .errorRecovery ∧
      around.local_.status = .failed ∧ (router.sm.wantsLocal || holdForGate) = true ∧
      router.wiring.local_ = true) := by
  have filled : router.readLocal holdForGate around =
      { (router.fill router.wiring.local_ (router.sm.wantsLocal || holdForGate)
          around.local_).1 with
        localBuf := (router.fill router.wiring.local_ (router.sm.wantsLocal || holdForGate)
          around.local_).2 } := rfl
  rw [filled]
  rcases router.fill_cases router.wiring.local_ (router.sm.wantsLocal || holdForGate)
    around.local_ with same | ⟨status, wanted, attached, failed⟩
  · rw [same]
    exact Or.inl ⟨_, rfl⟩
  · rw [failed]
    exact Or.inr ⟨AudioRouter.sourceFailure_state _, status, wanted, attached⟩

theorem AudioRouter.readPhone_cases (router : AudioRouter α) (holdForGate : Bool)
    (around : Surroundings α) :
    (∃ phoneBuf, router.readPhone holdForGate around = { router with phoneBuf := phoneBuf }) ∨
    ((router.readPhone holdForGate around).state = .errorRecovery ∧
      around.phone.status = .failed ∧ (router.sm.wantsPhone || holdForGate) = true ∧
      router.wiring.phone = true) := by
  have filled : router.readPhone holdForGate around =
      { (router.fill router.wiring.phone (router.sm.wantsPhone || holdForGate)
          around.phone).1 with
        phoneBuf := (router.fill router.wiring.phone (router.sm.wantsPhone || holdForGate)
          around.phone).2 } := rfl
  rw [filled]
  rcases router.fill_cases router.wiring.phone (router.sm.wantsPhone || holdForGate)
    around.phone with same | ⟨status, wanted, attached, failed⟩
  · rw [same]
    exact Or.inl ⟨_, rfl⟩
  · rw [failed]
    exact Or.inr ⟨AudioRouter.sourceFailure_state _, status, wanted, attached⟩

theorem AudioRouter.readLocal_stays {router : AudioRouter α} {holdForGate : Bool}
    {around : Surroundings α} (recovering : router.state = .errorRecovery) :
    (router.readLocal holdForGate around).state = .errorRecovery := by
  rcases router.readLocal_cases holdForGate around with ⟨localBuf, read⟩ | ⟨again, -⟩
  · rw [read]
    exact recovering
  · exact again

theorem AudioRouter.readPhone_stays {router : AudioRouter α} {holdForGate : Bool}
    {around : Surroundings α} (recovering : router.state = .errorRecovery) :
    (router.readPhone holdForGate around).state = .errorRecovery := by
  rcases router.readPhone_cases holdForGate around with ⟨phoneBuf, read⟩ | ⟨again, -⟩
  · rw [read]
    exact recovering
  · exact again

/-- Reading the sources either fills the two buffers or ends in error recovery. -/
theorem AudioRouter.readSources_cases (router : AudioRouter α) (around : Surroundings α) :
    (∃ localBuf phoneBuf : AudioFrame α,
      router.readSources around = { router with localBuf := localBuf, phoneBuf := phoneBuf }) ∨
    ((router.readSources around).state = .errorRecovery ∧
      (router.localFails around = true ∨ router.phoneFails around = true)) := by
  have inOrder : router.readSources around =
      (router.readLocal router.gate.active around).readPhone router.gate.active around := rfl
  rw [inOrder]
  rcases router.readLocal_cases router.gate.active around with
    ⟨localBuf, read⟩ | ⟨failed, status, wanted, attached⟩
  · rw [read]
    rcases AudioRouter.readPhone_cases { router with localBuf := localBuf } router.gate.active
      around with ⟨phoneBuf, read⟩ | ⟨failed, status, wanted, attached⟩
    · rw [read]
      exact Or.inl ⟨localBuf, phoneBuf, rfl⟩
    · refine Or.inr ⟨failed, Or.inr ?_⟩
      unfold AudioRouter.phoneFails
      rw [attached, wanted, status]
      rfl
  · refine Or.inr ⟨?_, Or.inl ?_⟩
    · exact AudioRouter.readPhone_stays failed
    · unfold AudioRouter.localFails
      rw [attached, wanted, status]
      rfl

/-! ### A tick whose sources answer -/

theorem AudioRouter.drainEvents_of_empty {router : AudioRouter α} (quiet : router.events = []) :
    router.drainEvents = router := by
  unfold AudioRouter.drainEvents
  rw [quiet, List.foldl_nil]
  cases router
  cases quiet
  rfl

theorem AudioRouter.drainEvents_events (router : AudioRouter α) :
    router.drainEvents.events = [] := by
  apply Run.invariant_always (fun router : AudioRouter α => router.events = [])
  · intro current event emptied
    rw [AudioRouter.applyEvent_events]
    exact emptied
  · rfl

/-- The machine after all pending events. -/
def AudioRouter.ahead (router : AudioRouter α) : SourceStateMachine :=
  router.events.foldl (fun machine event => (machine.apply event).1) router.sm

theorem AudioRouter.drainEvents_sm (router : AudioRouter α) :
    router.drainEvents.sm = router.ahead := by
  have fold : ∀ (events : List Event) (current : AudioRouter α),
      (events.foldl AudioRouter.applyEvent current).sm =
        events.foldl (fun machine event => (machine.apply event).1) current.sm := by
    intro events
    induction events with
    | nil => exact fun _current => rfl
    | cons event rest ih =>
        intro current
        rw [List.foldl_cons, List.foldl_cons, ih, AudioRouter.applyEvent_sm]
  exact fold router.events { router with events := [] }

/-- Both sources answer without a failure. -/
structure Surroundings.Healthy (around : Surroundings α) : Prop where
  local_ : around.local_.status ≠ .failed
  phone : around.phone.status ≠ .failed

/-- The router as `readSources` finds it. -/
def AudioRouter.reading (router : AudioRouter α) : AudioRouter α :=
  router.drainEvents.updateTimers

theorem AudioRouter.ready_healthy (router : AudioRouter α) {around : Surroundings α}
    (healthy : around.Healthy) :
    ∃ localBuf phoneBuf : AudioFrame α,
      router.ready around = { router.reading with localBuf := localBuf, phoneBuf := phoneBuf } := by
  have inOrder : router.ready around = router.reading.readSources around := rfl
  rw [inOrder]
  rcases router.reading.readSources_cases around with read | ⟨-, fails⟩
  · exact read
  · exfalso
    rcases fails with fails | fails
    · unfold AudioRouter.localFails at fails
      rw [decide_eq_false healthy.local_, Bool.and_false] at fails
      cases fails
    · unfold AudioRouter.phoneFails at fails
      rw [decide_eq_false healthy.phone, Bool.and_false] at fails
      cases fails

theorem AudioRouter.MixedFrom.of_healthy {router written : AudioRouter α}
    {around : Surroundings α} (healthy : around.Healthy)
    (mixed : (router.ready around).MixedFrom written) : router.reading.MixedFrom written := by
  obtain ⟨localBuf, phoneBuf, read⟩ := router.ready_healthy healthy
  rw [read] at mixed
  exact
    { config := mixed.config
      wiring := mixed.wiring
      sm := mixed.sm
      fade := mixed.fade
      gate := mixed.gate
      events := mixed.events
      armed := mixed.armed
      heard := mixed.heard
      index := mixed.index
      produced := mixed.produced
      applied := mixed.applied }

theorem AudioRouter.tick_healthy (curves : GainCurves α) (router : AudioRouter α)
    {around : Surroundings α} (healthy : around.Healthy) :
    ∃ written : AudioRouter α, router.reading.MixedFrom written ∧
      ((router.tick curves around = written ∧
          (written.state = .returningToLocal → 0 < written.fade.remaining)) ∨
        (router.tick curves around = written.applyEvent .fadeComplete ∧
          written.state = .returningToLocal)) := by
  obtain ⟨written, mixed, closes⟩ := AudioRouter.tick_cases curves router around
  exact ⟨written, mixed.of_healthy healthy, closes⟩

theorem quietRoom_healthy : (quietRoom : Surroundings α).Healthy :=
  { local_ := SourceStatus.noConfusion
    phone := SourceStatus.noConfusion }

/-! ### Sound routers -/

/-- Both ramps are sound and head where the state says, the machine is in the
region of its mode, and no frame clock is ahead of the frame counter. -/
structure AudioRouter.Sound (router : AudioRouter α) : Prop where
  fadeSound : router.fade.Sound (rampSamples α router.config.crossfadeMs)
  gateSound : router.gate.Sound (rampSamples α router.config.crossfadeMs)
  fadeHeads : ∀ target, router.state.fadeTarget = some target → router.fade.target = target
  gateHeads : router.gate.target = router.state.gateTarget
  region : router.sm.InRegion
  armed : router.armStartedFrame ≤ router.frameIndex
  heard : router.lastHeartbeatFrame ≤ router.frameIndex
  counted : router.framesProduced = router.frameIndex

theorem AudioRouter.sound_initial (config : RouterConfig α) (wiring : Wiring) :
    (AudioRouter.initial config wiring).Sound :=
  { fadeSound := by
      change Ramp.Sound _ (Ramp.snapTo 0)
      unfold Ramp.snapTo
      rw [clamp_zero]
      exact Ramp.sound_rest _ (le_refl 0) zero_le_one (Rounding.holds_zero _)
    gateSound := Ramp.sound_rest _ zero_le_one (le_refl 1) (Rounding.holds_one _)
    fadeHeads := by
      intro target heads
      cases heads
      exact clamp_zero
    gateHeads := rfl
    region := SourceStateMachine.inRegion_initial
    armed := Nat.le_refl _
    heard := Nat.le_refl _
    counted := rfl }

theorem SourceState.clamp_fadeTarget {state : SourceState} {target : ℚ}
    (heads : state.fadeTarget = some target) : clamp target 0 1 = target := by
  cases state <;> cases heads <;> simp

theorem SourceState.clamp_gateTarget (state : SourceState) :
    clamp state.gateTarget 0 1 = state.gateTarget := by
  unfold SourceState.gateTarget
  split <;> simp

theorem SourceState.fadeTarget_holds {state : SourceState} {target : ℚ}
    (heads : state.fadeTarget = some target) : (SampleArithmetic.rounding α).Holds target := by
  cases state <;> cases heads <;> first | exact Rounding.holds_zero _ | exact Rounding.holds_one _

theorem SourceState.gateTarget_holds (state : SourceState) :
    (SampleArithmetic.rounding α).Holds state.gateTarget := by
  unfold SourceState.gateTarget
  split
  · exact Rounding.holds_zero _
  · exact Rounding.holds_one _

theorem AudioRouter.Sound.applyEvent {router : AudioRouter α} (sound : router.Sound)
    (event : Event) : (router.applyEvent event).Sound := by
  have region : (router.applyEvent event).sm.InRegion := by
    rw [AudioRouter.applyEvent_sm]
    exact SourceStateMachine.apply_inRegion event sound.region
  rcases router.applyEvent_cases event with
    ⟨stays, fade, gate, armed⟩ | ⟨-, -, gate, fade, armed⟩
  · exact
      { fadeSound := by rw [fade, AudioRouter.applyEvent_config]; exact sound.fadeSound
        gateSound := by rw [gate, AudioRouter.applyEvent_config]; exact sound.gateSound
        fadeHeads := by rw [stays, fade]; exact sound.fadeHeads
        gateHeads := by rw [stays, gate]; exact sound.gateHeads
        region := region
        armed := by rw [armed, AudioRouter.applyEvent_frameIndex]; exact sound.armed
        heard := by
          rw [AudioRouter.applyEvent_lastHeartbeatFrame, AudioRouter.applyEvent_frameIndex]
          exact sound.heard
        counted := by
          rw [AudioRouter.applyEvent_framesProduced, AudioRouter.applyEvent_frameIndex]
          exact sound.counted }
  · exact
      { fadeSound := by
          rw [fade, AudioRouter.applyEvent_config]
          cases heads : (router.applyEvent event).state.fadeTarget with
          | none => exact sound.fadeSound
          | some target => exact sound.fadeSound.moveTo _ (SourceState.fadeTarget_holds heads)
        gateSound := by
          rw [gate, AudioRouter.applyEvent_config]
          exact sound.gateSound.moveTo _ (SourceState.gateTarget_holds _)
        fadeHeads := by
          intro target heads
          rw [fade, heads]
          exact (Ramp.moveTo_target _ _ _).trans (SourceState.clamp_fadeTarget heads)
        gateHeads := by
          rw [gate]
          exact (Ramp.moveTo_target _ _ _).trans (SourceState.clamp_gateTarget _)
        region := region
        armed := by
          rw [armed, AudioRouter.applyEvent_frameIndex]
          split
          · exact Nat.le_refl _
          · exact sound.armed
        heard := by
          rw [AudioRouter.applyEvent_lastHeartbeatFrame, AudioRouter.applyEvent_frameIndex]
          exact sound.heard
        counted := by
          rw [AudioRouter.applyEvent_framesProduced, AudioRouter.applyEvent_frameIndex]
          exact sound.counted }

theorem AudioRouter.stable_sound : Stable (fun router : AudioRouter α => router.Sound) :=
  { event := fun _router event sound => sound.applyEvent event
    emptied := fun _router sound =>
      { fadeSound := sound.fadeSound
        gateSound := sound.gateSound
        fadeHeads := sound.fadeHeads
        gateHeads := sound.gateHeads
        region := sound.region
        armed := sound.armed
        heard := sound.heard
        counted := sound.counted }
    bookkeeping := fun _router _ _ _ _ _ sound =>
      { fadeSound := sound.fadeSound
        gateSound := sound.gateSound
        fadeHeads := sound.fadeHeads
        gateHeads := sound.gateHeads
        region := sound.region
        armed := sound.armed
        heard := sound.heard
        counted := sound.counted } }

theorem AudioRouter.Sound.control {router : AudioRouter α} (sound : router.Sound)
    (call : Control) : (router.control call).Sound := by
  have posted : ∀ events lastHeartbeatFrame, lastHeartbeatFrame ≤ router.frameIndex →
      AudioRouter.Sound
        { router with events := events, lastHeartbeatFrame := lastHeartbeatFrame } := by
    intro events lastHeartbeatFrame heard
    exact
      { fadeSound := sound.fadeSound
        gateSound := sound.gateSound
        fadeHeads := sound.fadeHeads
        gateHeads := sound.gateHeads
        region := sound.region
        armed := sound.armed
        heard := heard
        counted := sound.counted }
  have now := Nat.le_of_eq sound.counted
  cases call with
  | setMode mode => cases mode <;> exact posted _ _ sound.heard
  | startPtt => exact posted _ _ now
  | stopPtt => exact posted _ _ sound.heard
  | notifyPhoneReady => exact posted _ _ now
  | notifyPhoneHeartbeat => exact posted _ _ now
  | notifyPhoneGone => exact posted _ _ sound.heard

theorem AudioRouter.Sound.mixed {ready written : AudioRouter α} (sound : ready.Sound)
    (mixed : ready.MixedFrom written) : written.Sound :=
  { fadeSound := by rw [mixed.fade, mixed.config]; exact sound.fadeSound.iterate _
    gateSound := by rw [mixed.gate, mixed.config]; exact sound.gateSound.iterate _
    fadeHeads := by
      rw [mixed.fade, Ramp.iterate_target, mixed.state]
      exact sound.fadeHeads
    gateHeads := by
      rw [mixed.gate, Ramp.iterate_target, mixed.state]
      exact sound.gateHeads
    region := by rw [mixed.sm]; exact sound.region
    armed := by rw [mixed.armed, mixed.index]; exact Nat.le_succ_of_le sound.armed
    heard := by rw [mixed.heard, mixed.index]; exact Nat.le_succ_of_le sound.heard
    counted := by rw [mixed.produced, mixed.index] }

theorem AudioRouter.Sound.tick {router : AudioRouter α} (sound : router.Sound)
    (curves : GainCurves α) (around : Surroundings α) : (router.tick curves around).Sound :=
  AudioRouter.stable_sound.tick sound curves around
    (fun _ready _written mixed sound => sound.mixed mixed)

theorem AudioRouter.Sound.step {router : AudioRouter α} (sound : router.Sound)
    (curves : GainCurves α) (input : RouterInput α) : (router.step curves input).Sound := by
  cases input with
  | control call => exact sound.control call
  | tick around => exact sound.tick curves around

theorem AudioRouter.sound_final (curves : GainCurves α) (config : RouterConfig α) (wiring : Wiring)
    (inputs : List (RouterInput α)) :
    (Run.final (AudioRouter.step curves) (AudioRouter.initial config wiring) inputs).Sound :=
  Run.invariant_always AudioRouter.Sound (fun _router input sound => sound.step curves input) _
    inputs (AudioRouter.sound_initial config wiring)

end SmartMic.Audio
