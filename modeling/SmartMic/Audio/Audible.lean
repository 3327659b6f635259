import SmartMic.Audio.SettledOutput

set_option autoImplicit false

/-! Sources that are cut while they can still be heard. Which sources a tick reads
is decided from the state and the gate; the gains come from the crossfade, which may
still be moving when the state no longer wants the source it fades out. -/

namespace SmartMic.Audio

variable {α : Type} [SampleArithmetic α]

/-! ### The sources a tick leaves unread -/

/-- The local source is not wanted and the gate does not move: the buffer is zeros. -/
def AudioRouter.skipsLocal (router : AudioRouter α) : Bool :=
  !(router.reading.sm.wantsLocal || router.reading.gate.active)

/-- The same for the phone, in the state that the local read leaves. -/
def AudioRouter.skipsPhone (router : AudioRouter α) (around : Surroundings α) : Bool :=
  !((router.reading.readLocal router.reading.gate.active around).sm.wantsPhone ||
    router.reading.gate.active)

/-- In this tick no source is cut: what is not read has no gain in any sample. -/
structure AudioRouter.NoneCut (curves : GainCurves α) (router : AudioRouter α)
    (around : Surroundings α) : Prop where
  local_ : router.skipsLocal = true → ∀ index, index < kFrameSamples →
    ((router.ready around).fade.gainsAt curves index).local_ *
      (router.ready around).gate.openingAt curves index = 0
  phone : router.skipsPhone around = true → ∀ index, index < kFrameSamples →
    ((router.ready around).fade.gainsAt curves index).phone *
      (router.ready around).gate.openingAt curves index = 0

/-- The next sample of the crossfade is at the local end. -/
def Ramp.Home (fade : Crossfade α) : Prop := fade.advance.position = 0

/-- Where the sources are read with the gate at rest, the local gain never vanishes, and
the phone's has to when the state is one of the local source. -/
def AudioRouter.FadeHome (router : AudioRouter α) : Prop :=
  router.reading.gate.active = false →
    router.reading.state ≠ .phoneOnly ∧
    (router.reading.state = .localActive ∨ router.reading.state = .phoneArming ∨
      router.reading.state = .localOnly → router.reading.fade.Home)

/-- The curves as the code computes them. The cosine of the rounded quarter turn is not 0. -/
structure GainCurves.Computed (curves : GainCurves α) : Prop where
  cosine : ∀ position, (SampleArithmetic.rounding α).Holds position → 0 ≤ position →
    position ≤ 1 → curves.cosine position ≠ 0 ∧ SampleArithmetic.IsFinite (curves.cosine position)
  sine : ∀ position, (SampleArithmetic.rounding α).Holds position → 0 ≤ position →
    position ≤ 1 → (curves.sine position = 0 ↔ position = 0) ∧
      SampleArithmetic.IsFinite (curves.sine position)
  closed : curves.raisedCosine 0 = 0
  opened : curves.raisedCosine 1 = 1

/-! ### The gains of a frame -/

theorem Ramp.Sound.stays_home {full : Nat} {ramp : Ramp α} (sound : ramp.Sound full)
    (heads : ramp.target = 0) (there : ramp.position = 0) : ramp.advance.position = 0 := by
  unfold Ramp.advance
  split
  · exact there
  · change clamp (if _ then ramp.target else rounded α (ramp.position + ramp.step)) 0 1 = 0
    split
    · rw [heads, clamp_zero]
    · have down : rounded α (ramp.position + ramp.step) ≤ 0 := by
        rw [there, zero_add]
        exact Rounding.nonpos (sound.homeward heads)
      unfold clamp
      split
      · rfl
      · rename_i up
        rw [le_antisymm down (not_lt.mp up), if_neg (not_lt.mpr zero_le_one)]

/-- It is there through a whole frame exactly when the first sample takes it there. -/
theorem Ramp.Sound.home_throughout_iff {full : Nat} {ramp : Ramp α} (sound : ramp.Sound full)
    (heads : ramp.target = 0) :
    (∀ index, index < kFrameSamples → (Ramp.advance^[index + 1] ramp).position = 0) ↔
      ramp.Home := by
  constructor
  · intro throughout
    exact throughout 0 (by decide)
  · intro home index inside
    induction index with
    | zero => exact home
    | succ index ih =>
        rw [Function.iterate_succ_apply']
        apply (sound.iterate (index + 1)).stays_home
        · rw [Ramp.iterate_target]
          exact heads
        · exact ih (Nat.lt_of_succ_lt inside)

section Gains

variable {router : AudioRouter α} {curves : GainCurves α}

theorem AudioRouter.Sound.gate_closed (sound : router.Sound)
    (silent : router.state.silent = true) (rest : router.gate.remaining = 0)
    (computed : curves.Computed) (index : Nat) : router.gate.openingAt curves index = 0 := by
  have closed : router.gate.position = 0 := by
    rw [sound.gateSound.rests rest, sound.gateHeads]
    unfold SourceState.gateTarget
    rw [if_pos silent]
  unfold Ramp.openingAt
  rw [Ramp.iterate_of_rest rest, closed, computed.closed]

theorem AudioRouter.Sound.gate_open (sound : router.Sound)
    (audible : router.state.silent = false) (rest : router.gate.remaining = 0)
    (computed : curves.Computed) (index : Nat) : router.gate.openingAt curves index = 1 := by
  have opened : router.gate.position = 1 := by
    rw [sound.gateSound.rests rest, sound.gateHeads]
    unfold SourceState.gateTarget
    rw [audible]
    rfl
  unfold Ramp.openingAt
  rw [Ramp.iterate_of_rest rest, opened, computed.opened]

theorem AudioRouter.Sound.local_gain (sound : router.Sound) (computed : curves.Computed)
    (index : Nat) :
    (router.fade.gainsAt curves index).local_ ≠ 0 ∧
      SampleArithmetic.IsFinite (router.fade.gainsAt curves index).local_ := by
  have there := sound.fadeSound.iterate (index + 1)
  exact computed.cosine _ there.positionHeld there.positionLow there.positionHigh

theorem AudioRouter.Sound.phone_gain (sound : router.Sound) (computed : curves.Computed)
    (index : Nat) :
    ((router.fade.gainsAt curves index).phone = 0 ↔
        (Ramp.advance^[index + 1] router.fade).position = 0) ∧
      SampleArithmetic.IsFinite (router.fade.gainsAt curves index).phone := by
  have there := sound.fadeSound.iterate (index + 1)
  exact computed.sine _ there.positionHeld there.positionLow there.positionHigh

end Gains

/-! ### Healthy sources -/

theorem AudioRouter.ready_of_healthy (router : AudioRouter α) {around : Surroundings α}
    (healthy : around.Healthy) :
    (router.ready around).fade = router.reading.fade ∧
      (router.ready around).gate = router.reading.gate := by
  obtain ⟨localBuf, phoneBuf, read⟩ := router.ready_healthy healthy
  rw [read]
  exact ⟨rfl, rfl⟩

theorem AudioRouter.skipsPhone_of_healthy (router : AudioRouter α) {around : Surroundings α}
    (healthy : around.Healthy) :
    router.skipsPhone around = !(router.reading.sm.wantsPhone || router.reading.gate.active) := by
  unfold AudioRouter.skipsPhone
  rcases router.reading.readLocal_cases router.reading.gate.active around with
    ⟨localBuf, read⟩ | ⟨-, status, -⟩
  · rw [read]
  · exact absurd status healthy.local_

/-- The states in which a tick with a resting gate leaves the local source unread. -/
theorem SourceStateMachine.leaves_local {machine : SourceStateMachine}
    (unwanted : machine.wantsLocal = false) :
    machine.state = .phoneOnly ∨ machine.state.silent = true := by
  unfold SourceStateMachine.wantsLocal at unwanted
  revert unwanted
  cases machine.state <;> decide

theorem SourceStateMachine.leaves_phone {machine : SourceStateMachine}
    (unwanted : machine.wantsPhone = false) :
    (machine.state = .localActive ∨ machine.state = .phoneArming ∨
      machine.state = .localOnly) ∨ machine.state.silent = true := by
  unfold SourceStateMachine.wantsPhone at unwanted
  revert unwanted
  cases machine.state <;> decide

section Skipped

variable {router : AudioRouter α} {curves : GainCurves α}

theorem AudioRouter.Sound.local_cut_iff (sound : router.Sound) (computed : curves.Computed)
    (rest : router.gate.remaining = 0) :
    (router.sm.wantsLocal = false → ∀ index, index < kFrameSamples →
        (router.fade.gainsAt curves index).local_ * router.gate.openingAt curves index = 0) ↔
      router.state ≠ .phoneOnly := by
  constructor
  · intro vanish phoneOnly
    have opened := sound.gate_open (by rw [phoneOnly]; rfl) rest computed 0
    apply (sound.local_gain computed 0).1
    have vanished := vanish (by
      unfold AudioRouter.state at phoneOnly
      unfold SourceStateMachine.wantsLocal
      rw [phoneOnly]) 0 (by decide)
    rw [opened, SampleArithmetic.mul_one] at vanished
    exact vanished
  · intro other unwanted index _inside
    rcases SourceStateMachine.leaves_local unwanted with phoneOnly | silent
    · exact absurd phoneOnly other
    · rw [sound.gate_closed silent rest computed]
      exact SampleArithmetic.mul_zero _ (sound.local_gain computed index).2

theorem AudioRouter.Sound.phone_cut_iff (sound : router.Sound) (computed : curves.Computed)
    (rest : router.gate.remaining = 0) :
    (router.sm.wantsPhone = false → ∀ index, index < kFrameSamples →
        (router.fade.gainsAt curves index).phone * router.gate.openingAt curves index = 0) ↔
      (router.state = .localActive ∨ router.state = .phoneArming ∨ router.state = .localOnly →
        router.fade.Home) := by
  have heads : router.state = .localActive ∨ router.state = .phoneArming ∨
      router.state = .localOnly → router.fade.target = 0 ∧ router.state.silent = false := by
    intro local_
    refine ⟨sound.fadeHeads 0 ?_, ?_⟩ <;>
      rcases local_ with state | state | state <;> rw [state] <;> rfl
  constructor
  · intro vanish local_
    obtain ⟨target, audible⟩ := heads local_
    apply (sound.fadeSound.home_throughout_iff target).mp
    intro index inside
    apply (sound.phone_gain computed index).1.mp
    have vanished := vanish (by
      unfold AudioRouter.state at local_
      unfold SourceStateMachine.wantsPhone
      rcases local_ with state | state | state <;> rw [state]) index inside
    rw [sound.gate_open audible rest computed, SampleArithmetic.mul_one] at vanished
    exact vanished
  · intro home unwanted index inside
    rcases SourceStateMachine.leaves_phone unwanted with local_ | silent
    · obtain ⟨target, audible⟩ := heads local_
      rw [sound.gate_open audible rest computed, SampleArithmetic.mul_one]
      apply (sound.phone_gain computed index).1.mpr
      exact (sound.fadeSound.home_throughout_iff target).mpr (home local_) index inside
    · rw [sound.gate_closed silent rest computed]
      exact SampleArithmetic.mul_zero _ (sound.phone_gain computed index).2

end Skipped

/-- In a tick with healthy sources, nothing is cut exactly when the crossfade is home. -/
theorem AudioRouter.Sound.noneCut_iff {router : AudioRouter α} (sound : router.Sound)
    {curves : GainCurves α} (computed : curves.Computed) {around : Surroundings α}
    (healthy : around.Healthy) : router.NoneCut curves around ↔ router.FadeHome := by
  have reading : router.reading.Sound :=
    AudioRouter.stable_sound.updateTimers (AudioRouter.stable_sound.drainEvents sound)
  obtain ⟨fade, gate⟩ := router.ready_of_healthy healthy
  have phoneSkipped := router.skipsPhone_of_healthy healthy
  cases still : router.reading.gate.active with
  | true =>
      -- both sources are read while the gate moves
      rw [still, Bool.or_true] at phoneSkipped
      have localSkipped : router.skipsLocal = false := by
        unfold AudioRouter.skipsLocal
        rw [still, Bool.or_true]
        rfl
      constructor
      · intro _none inactive
        rw [still] at inactive
        cases inactive
      · intro _home
        constructor
        · intro skipped
          rw [localSkipped] at skipped
          cases skipped
        · intro skipped
          rw [phoneSkipped] at skipped
          cases skipped
  | false =>
      have rest : router.reading.gate.remaining = 0 := by
        unfold Ramp.active at still
        exact Nat.eq_zero_of_not_pos (of_decide_eq_false still)
      have localSkipped : router.skipsLocal = true ↔ router.reading.sm.wantsLocal = false := by
        unfold AudioRouter.skipsLocal
        rw [still, Bool.or_false, Bool.not_eq_true']
      rw [still, Bool.or_false] at phoneSkipped
      have localSide := reading.local_cut_iff computed rest
      have phoneSide := reading.phone_cut_iff computed rest
      rw [← fade, ← gate, ← localSkipped] at localSide
      rw [← fade, ← gate, ← Bool.not_eq_true', ← phoneSkipped, fade] at phoneSide
      constructor
      · intro none _inactive
        exact ⟨localSide.mp none.local_, phoneSide.mp (fade ▸ none.phone)⟩
      · intro home
        obtain ⟨audible, gone⟩ := home still
        exact
          { local_ := localSide.mpr audible
            phone := fade.symm ▸ phoneSide.mpr gone }

/-! ### Runs -/

/-- In every run with both sources attached, a tick in which neither fails cuts no
audible source exactly when the gate moves, the state asks for both sources or for none, or
the crossfade is home in a state of the local source. -/
theorem no_audible_source_cut_iff (curves : GainCurves α) (computed : curves.Computed)
    (config : RouterConfig α) (sink : Bool) (inputs : List (RouterInput α))
    (around : Surroundings α) (healthy : around.Healthy) :
    let router := Run.final (AudioRouter.step curves)
      (AudioRouter.initial config { local_ := true, phone := true, sink := sink }) inputs
    router.NoneCut curves around ↔ router.FadeHome :=
  (AudioRouter.sound_final curves config _ inputs).noneCut_iff computed healthy

/-! ### Single precision -/

theorem straightCurves_computed {atEnd : Binary32} (left : atEnd ≠ 0)
    (finite : atEnd.isFinite = true) : (straightCurves atEnd).Computed :=
  { cosine := by
      intro position holds low high
      unfold straightCurves
      dsimp only
      split
      · exact ⟨left, finite⟩
      · rename_i short
        have unit : |1 - position| ≤ 1 := abs_le.mpr ⟨by linarith, by linarith⟩
        have apart := (Rounding.holds_one _).sub_eq_zero_iff holds
        refine ⟨?_, Floating.ofExact_isFinite unit⟩
        rw [Ne, Floating.ofExact_eq_zero_iff]
        exact fun lost => short (apart.mp lost).symm
    sine := by
      intro position holds low high
      have unit : |position| ≤ 1 := abs_le.mpr ⟨by linarith, high⟩
      refine ⟨?_, Floating.ofExact_isFinite unit⟩
      have same : FloatFormat.binary32.rounding.round position = position := holds
      change Floating.ofExact _ position = 0 ↔ _
      rw [Floating.ofExact_eq_zero_iff, same]
    closed := rfl
    opened := rfl }

/-- `cos` of the `kHalfPi` of the source. -/
def cosineHalfPi : Binary32 := .ofExact _ (-6151831 / 2 ^ 47)

theorem cosineHalfPi_computed : (straightCurves cosineHalfPi).Computed :=
  straightCurves_computed (by decide +kernel) (by decide +kernel)

theorem AudioRouter.stable_fadePosition :
    Stable (fun router : AudioRouter α => router.fade.position = 0) :=
  { event := by
      intro router event there
      rcases router.applyEvent_cases event with ⟨-, fade, -⟩ | ⟨-, -, -, fade, -⟩
      · rw [fade]
        exact there
      · rw [fade]
        split
        · exact (Ramp.moveTo_position _ _ _).trans there
        · exact there
    emptied := fun _router there => there
    bookkeeping := fun _router _ _ _ _ _ there => there }

theorem busyRoom_healthy {sample : Binary32} : (busyRoom sample).Healthy :=
  { local_ := SourceStatus.noConfusion
    phone := SourceStatus.noConfusion }

def armingRouter : AudioRouter Binary32 :=
  Run.final (AudioRouter.step (straightCurves cosineHalfPi)) (AudioRouter.initial {} fullyWired)
    [.tick (busyRoom 1), .control .startPtt]

theorem armingRouter_position : armingRouter.fade.position = 0 := by
  have start : (AudioRouter.initial {} fullyWired : AudioRouter Binary32).fade.position = 0 :=
    clamp_zero
  obtain ⟨-, unmoved⟩ := AudioRouter.tick_sameSince (straightCurves cosineHalfPi)
    (AudioRouter.initial {} fullyWired) (busyRoom 1)
  obtain ⟨-, -, fade, -⟩ := unmoved (by decide +kernel)
  rw [Ramp.iterate_of_rest rfl] at fade
  change ((AudioRouter.tick _ _ _).control .startPtt).fade.position = 0
  rw [(AudioRouter.control_sameSince _ .startPtt).2.2.1, fade]
  exact start

/-- The phone is not read while it arms, and its gain is 0. -/
theorem no_audible_source_cut_arming :
    armingRouter.NoneCut (straightCurves cosineHalfPi) (busyRoom 1) := by
  have sound : armingRouter.reading.Sound :=
    AudioRouter.stable_sound.updateTimers (AudioRouter.stable_sound.drainEvents
      (AudioRouter.sound_final _ _ _ _))
  have there : armingRouter.reading.fade.position = 0 :=
    AudioRouter.stable_fadePosition.updateTimers
      (AudioRouter.stable_fadePosition.drainEvents armingRouter_position)
  have state : armingRouter.reading.state = .phoneArming := by decide +kernel
  apply (no_audible_source_cut_iff _ cosineHalfPi_computed {} true _ _
    busyRoom_healthy).mpr
  intro _still
  change armingRouter.reading.state ≠ _ ∧ (_ → armingRouter.reading.fade.Home)
  rw [state]
  refine ⟨by decide, ?_⟩
  intro _local
  exact sound.fadeSound.stays_home (sound.fadeHeads 0 (by rw [state]; rfl)) there

/-- The default router goes from the local source to the phone because the mode
changes: the local source is cut with the whole crossfade still ahead. -/
theorem local_cut_by_mode_change :
    let router := Run.final (AudioRouter.step (straightCurves cosineHalfPi))
      (AudioRouter.initial {} fullyWired) [.control (.setMode .phoneOnly)]
    router.reading.fade.position = 0 ∧ router.reading.fade.remaining = 720 ∧
      ¬router.NoneCut (straightCurves cosineHalfPi) (busyRoom 1) := by
  intro router
  have sound : router.Sound := AudioRouter.sound_final _ _ _ _
  refine ⟨by decide +kernel, by decide +kernel, ?_⟩
  intro none
  have home := (sound.noneCut_iff cosineHalfPi_computed busyRoom_healthy).mp none
  exact (home (by decide +kernel)).1 (by decide +kernel)

end SmartMic.Audio
