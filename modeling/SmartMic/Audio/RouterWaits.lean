import SmartMic.Audio.RouterInvariants

set_option autoImplicit false

/-! No state of the router waits for ever: what bounds the stay in each of the four
transient states, after every tick of every run. -/

namespace SmartMic.Audio

variable {α : Type} [SampleArithmetic α]

theorem framesSince_of_le {start now : Nat} (ordered : start ≤ now) :
    framesSince start now = now - start := if_pos ordered

/-! ### The two frame clocks -/

structure AudioRouter.InTime (router : AudioRouter α) : Prop where
  arming : router.state = .phoneArming →
    router.frameIndex - router.armStartedFrame ≤ framesFor router.config.armTimeoutMs
  heard : router.state = .phoneActive →
    router.frameIndex - router.lastHeartbeatFrame ≤ framesFor router.config.phoneLostTimeoutMs

theorem restingStateFor_calm (mode : RoutingMode) : restingStateFor mode ≠ .errorRecovery := by
  cases mode <;> decide

theorem AudioRouter.inTime_of_state {router : AudioRouter α} (arming : router.state ≠ .phoneArming)
    (active : router.state ≠ .phoneActive) : router.InTime :=
  { arming := fun state => absurd state arming
    heard := fun state => absurd state active }

/-- The timers end a recovery, an arming that takes too long or a session that has
gone quiet, or else leave a router in time alone. -/
theorem AudioRouter.Sound.updateTimers_cases {router : AudioRouter α} (sound : router.Sound) :
    (router.state = .errorRecovery ∧
      router.updateTimers.state = restingStateFor router.mode) ∨
    (router.state = .phoneArming ∧ router.updateTimers.state = .errorRecovery) ∨
    (router.state = .phoneActive ∧ router.updateTimers.state = .returningToLocal) ∨
    (router.state ≠ .errorRecovery ∧ router.updateTimers = router ∧ router.InTime) := by
  unfold AudioRouter.updateTimers
  split
  · rename_i recovering
    exact Or.inl ⟨recovering, AudioRouter.recovered_state recovering⟩
  · rename_i calm
    split
    · rename_i late
      refine Or.inr (Or.inl ⟨late.1, ?_⟩)
      have arming := late.1
      unfold AudioRouter.state at arming ⊢
      simp [SourceStateMachine.apply, SourceStateMachine.edge, arming]
    · rename_i soon
      rw [framesSince_of_le sound.armed] at soon
      split
      · rename_i lost
        refine Or.inr (Or.inr (Or.inl ⟨lost.1, ?_⟩))
        have active := lost.1
        unfold AudioRouter.state at active ⊢
        simp [SourceStateMachine.apply, SourceStateMachine.edge, active]
      · rename_i alive
        rw [framesSince_of_le sound.heard] at alive
        refine Or.inr (Or.inr (Or.inr ⟨calm, rfl, ?_⟩))
        exact
          { arming := fun arming => not_lt.mp fun late => soon ⟨arming, late⟩
            heard := by
              intro active
              by_contra late
              exact alive ⟨active, by omega, not_le.mp late⟩ }

theorem AudioRouter.InTime.readSources {router : AudioRouter α} (inTime : router.InTime)
    (around : Surroundings α) : (router.readSources around).InTime := by
  rcases router.readSources_cases around with ⟨localBuf, phoneBuf, read⟩ | ⟨failed, -⟩
  · rw [read]
    exact { arming := inTime.arming, heard := inTime.heard }
  · apply AudioRouter.inTime_of_state <;> rw [failed] <;> decide

/-- The router is in error recovery only if an event applied from `mark` on led there. -/
def AudioRouter.RecoveryFrom (mark : Nat) (router : AudioRouter α) : Prop :=
  mark ≤ router.applied.length ∧
  (router.state = .errorRecovery →
    ∃ entry ∈ router.applied.drop mark, entry.2.changed = true ∧ entry.2.to_ = .errorRecovery)

theorem AudioRouter.RecoveryFrom.applyEvent {mark : Nat} {router : AudioRouter α}
    (recovery : router.RecoveryFrom mark) (event : Event) :
    (router.applyEvent event).RecoveryFrom mark := by
  obtain ⟨long, entered⟩ := recovery
  unfold AudioRouter.RecoveryFrom
  rw [AudioRouter.applyEvent_applied, List.drop_append_of_le_length long]
  constructor
  · rw [List.length_append]
    exact Nat.le_add_right_of_le long
  · intro recovering
    rcases router.applyEvent_cases event with ⟨stays, -⟩ | ⟨-, changed, -⟩
    · rw [stays] at recovering
      obtain ⟨entry, member, changed⟩ := entered recovering
      exact ⟨entry, List.mem_append_left _ member, changed⟩
    · refine ⟨(event, (router.sm.apply event).2), List.mem_append_right _ ?_, changed, ?_⟩
      · exact List.mem_singleton_self _
      · rw [SourceStateMachine.apply_enters]
        unfold AudioRouter.state at recovering
        rw [AudioRouter.applyEvent_sm] at recovering
        exact recovering

theorem AudioRouter.stable_appliedLength (mark : Nat) :
    Stable (fun router : AudioRouter α => mark ≤ router.applied.length) :=
  { event := by
      intro router event long
      rw [AudioRouter.applyEvent_applied, List.length_append]
      exact Nat.le_add_right_of_le long
    emptied := fun _router long => long
    bookkeeping := fun _router _ _ _ _ _ long => long }

/-- The crossfade has not moved since `start`, and a way home it is on now is the one that
`start` was on or a fresh one from the same place. -/
def AudioRouter.HomeFrom (start : AudioRouter α) (router : AudioRouter α) : Prop :=
  router.config = start.config ∧ router.fade.position = start.fade.position ∧
  (router.fade.target = 0 → router.fade = start.fade ∨
    router.fade = start.fade.fadeTo 0 start.config.crossfadeMs)

theorem AudioRouter.HomeFrom.applyEvent {start router : AudioRouter α}
    (home : start.HomeFrom router) (event : Event) :
    start.HomeFrom (router.applyEvent event) := by
  obtain ⟨config, position, way⟩ := home
  rcases router.applyEvent_cases event with ⟨-, fade, -⟩ | ⟨-, -, -, fade, -⟩
  · unfold AudioRouter.HomeFrom
    rw [AudioRouter.applyEvent_config, fade]
    exact ⟨config, position, way⟩
  · unfold AudioRouter.HomeFrom
    rw [AudioRouter.applyEvent_config, fade]
    cases heads : (router.applyEvent event).state.fadeTarget with
    | none => exact ⟨config, position, way⟩
    | some target =>
        refine ⟨config, (Ramp.moveTo_position _ _ _).trans position, ?_⟩
        intro home
        have clamped : clamp target 0 1 = 0 := (Ramp.moveTo_target _ _ _).symm.trans home
        have zero : target = 0 := (SourceState.clamp_fadeTarget heads).symm.trans clamped
        right
        rw [zero, config]
        exact Ramp.moveTo_of_position position 0 _

theorem AudioRouter.stable_homeFrom (start : AudioRouter α) : Stable start.HomeFrom :=
  { event := fun _router event home => home.applyEvent event
    emptied := fun _router home => home
    bookkeeping := fun _router _ _ _ _ _ home => home }

/-- A tick that ends in a release fade has moved it by one frame, from where it was or from
a fresh start. -/
theorem AudioRouter.Sound.tick_returning {router : AudioRouter α} (sound : router.Sound)
    (curves : GainCurves α) (around : Surroundings α)
    (returning : (router.tick curves around).state = .returningToLocal) :
    (router.tick curves around).fade.target = 0 ∧
      0 < (router.tick curves around).fade.remaining ∧
      ((router.tick curves around).fade = Ramp.advance^[kFrameSamples] router.fade ∨
        (router.tick curves around).fade = Ramp.advance^[kFrameSamples]
          (router.fade.fadeTo 0 router.config.crossfadeMs)) := by
  have home := (sound.tick curves around).fadeHeads 0 (by rw [returning]; rfl)
  refine ⟨home, ?_⟩
  obtain ⟨written, mixed, closes⟩ := AudioRouter.tick_cases curves router around
  rcases closes with ⟨same, moving⟩ | ⟨closed, ended⟩
  · rw [same] at returning home ⊢
    refine ⟨moving returning, ?_⟩
    obtain ⟨-, -, way⟩ := (AudioRouter.stable_homeFrom router).ready
      ⟨rfl, rfl, fun _ => Or.inl rfl⟩ around
    rw [mixed.fade, Ramp.iterate_target] at home
    rw [mixed.fade]
    rcases way home with still | fresh
    · exact Or.inl (congrArg _ still)
    · exact Or.inr (congrArg _ fresh)
  · rw [closed, AudioRouter.fadeComplete_state ended] at returning
    cases returning

/-! ### All four waits -/

theorem AudioRouter.Sound.releasing {before : AudioRouter α} (sound : before.Sound)
    (curves : GainCurves α) (around : Surroundings α)
    (returning : (before.tick curves around).state = .returningToLocal) :
    ((before.tick curves around).fade.target = 0 ∧
      0 < (before.tick curves around).fade.remaining ∧
      (before.tick curves around).fade.remaining ≤
        max 1 ⌈rounded α (max 1 (48 * (before.tick curves around).config.crossfadeMs.toNat) :
          Nat)⌉₊) ∧
    ((before.tick curves around).fade.remaining + 960 = before.fade.remaining ∨
      (before.tick curves around).fade.remaining + 960 =
        (before.fade.fadeTo 0 before.config.crossfadeMs).remaining) := by
  obtain ⟨target, moving, way⟩ := sound.tick_returning curves around returning
  have bounded := (sound.tick curves around).fadeSound.bounded
  unfold rampSamples fullSamples at bounded
  rw [millisToSamples_eq] at bounded
  refine ⟨⟨target, moving, bounded⟩, ?_⟩
  rcases way with same | fresh
  · left
    rw [same, Ramp.iterate_remaining] at moving ⊢
    exact Nat.sub_add_cancel (Nat.le_of_lt (Nat.lt_of_sub_pos moving))
  · right
    rw [fresh, Ramp.iterate_remaining] at moving ⊢
    exact Nat.sub_add_cancel (Nat.le_of_lt (Nat.lt_of_sub_pos moving))

/-- From the upper half of the unit interval down, each sample of a 40 ms fade takes off the
same whole number of spacings: what the step has beyond it is rounded away. -/
theorem rounded_release {spacings : Nat} (low : 8397347 ≤ spacings)
    (high : spacings ≤ 16777216) :
    rounded Binary32 ((spacings : ℚ) / 16777216 + -8947849 / 17179869184) =
      ((spacings - 8738 : Nat) : ℚ) / 16777216 := by
  have lowCast : (8397347 : ℚ) ≤ spacings := by exact_mod_cast low
  have highCast : (spacings : ℚ) ≤ 16777216 := by exact_mod_cast high
  have left : ((spacings - 8738 : Nat) : ℚ) = spacings - 8738 := by
    rw [Nat.cast_sub (by omega)]
    rfl
  have units : ((spacings : ℚ) / 16777216 + -8947849 / 17179869184) * 2 ^ 149 =
      (spacings * 2 ^ 10 - 8947849) * 2 ^ 115 := by ring
  have above : (2 : ℚ) ^ 148 ≤
      ((spacings : ℚ) / 16777216 + -8947849 / 17179869184) * 2 ^ 149 := by
    rw [units]
    linarith
  have below : ((spacings : ℚ) / 16777216 + -8947849 / 17179869184) * 2 ^ 149 <
      2 ^ (148 + 1) := by
    rw [units]
    change _ < (2 : ℚ) ^ 149
    linarith
  have close : |((spacings : ℚ) / 16777216 + -8947849 / 17179869184) * 2 ^ 149 /
      2 ^ (148 + 1 - 24) - ((spacings - 8738 : Nat) : ℚ)| < 1 / 2 := by
    rw [units, left, abs_lt]
    constructor <;> linarith
  refine (Rounding.nearest_of_binade above below close).trans ?_
  ring

def releaseFade : Crossfade Binary32 :=
  { position := 1, target := 0, step := -8947849 / 17179869184, remaining := 1920 }

theorem releaseFade_iterate (count : Nat) (short : count ≤ 960) :
    Ramp.advance^[count] releaseFade =
      { releaseFade with
        position := ((16777216 - 8738 * count : Nat) : ℚ) / 16777216
        remaining := 1920 - count } := by
  induction count with
  | zero =>
      rw [Function.iterate_zero_apply, Nat.mul_zero, Nat.sub_zero, Nat.sub_zero,
        Nat.cast_ofNat, div_self (by positivity)]
      rfl
  | succ count ih =>
      have low : 8397347 ≤ 16777216 - 8738 * count := by omega
      have moved := rounded_release low (Nat.sub_le _ _)
      have inside : ((16777216 - 8738 * count - 8738 : Nat) : ℚ) / 16777216 ≤ 1 := by
        rw [div_le_one (by positivity)]
        exact_mod_cast (by omega : 16777216 - 8738 * count - 8738 ≤ 16777216)
      rw [Function.iterate_succ_apply', ih (by omega)]
      unfold Ramp.advance
      dsimp only
      rw [if_neg (by omega), if_neg (by omega)]
      unfold releaseFade
      dsimp only
      rw [moved, clamp_inside (div_nonneg (Nat.cast_nonneg _) (by norm_num)) inside,
        Nat.mul_succ, Nat.sub_sub, Nat.sub_sub]

/-- Gains that do not move: where the ramps are does not depend on them. -/
def levelCurves : GainCurves Binary32 :=
  { cosine := fun _position => 1
    sine := fun _position => 1
    raisedCosine := fun _position => 1 }

/-- The phone has been on the air for that many frames with a fade of 40 ms. -/
structure AudioRouter.OnAir (frames : Nat) (router : AudioRouter Binary32) : Prop where
  sound : router.Sound
  config : router.config = { crossfadeMs := 40#32 }
  sm : router.sm = { state := .phoneActive, mode := .auto }
  events : router.events = []
  fade : router.fade.remaining = 1920 - 960 * frames
  index : router.frameIndex = frames
  heard : router.lastHeartbeatFrame = 0

structure AudioRouter.Releasing (router : AudioRouter Binary32) : Prop where
  sm : router.sm = { state := .returningToLocal, mode := .auto }
  events : router.events = []
  config : router.config = { crossfadeMs := 40#32 }
  fade : router.fade = { releaseFade with position := 65537 / 131072, remaining := 960 }

theorem AudioRouter.OnAir.reading {frames : Nat} {router : AudioRouter Binary32}
    (onAir : router.OnAir frames) (soon : frames ≤ 30) : router.reading = router := by
  unfold AudioRouter.reading AudioRouter.updateTimers AudioRouter.state
  rw [AudioRouter.drainEvents_of_empty onAir.events, onAir.sm, onAir.config, onAir.heard,
    onAir.index, framesSince_of_le (Nat.zero_le _), if_neg SourceState.noConfusion,
    if_neg (fun arming => SourceState.noConfusion arming.1), if_neg]
  rintro ⟨-, -, late⟩
  exact absurd late (not_lt.mpr soon)

theorem AudioRouter.OnAir.tick {frames : Nat} {router : AudioRouter Binary32}
    (sound : router.Sound) (onAir : router.reading.OnAir frames) :
    (router.tick levelCurves quietRoom).OnAir (frames + 1) := by
  obtain ⟨written, mixed, closes⟩ :=
    AudioRouter.tick_healthy levelCurves router quietRoom_healthy
  have state : written.state = .phoneActive :=
    mixed.state.trans (congrArg SourceStateMachine.state onAir.sm)
  rcases closes with ⟨same, -⟩ | ⟨-, returning⟩
  · have after := sound.tick levelCurves quietRoom
    rw [same] at after ⊢
    exact
      { sound := after
        config := mixed.config.trans onAir.config
        sm := mixed.sm.trans onAir.sm
        events := mixed.events.trans onAir.events
        fade := by
          rw [mixed.fade, Ramp.iterate_remaining, onAir.fade]
          unfold kFrameSamples
          omega
        index := mixed.index.trans (congrArg (· + 1) onAir.index)
        heard := mixed.heard.trans onAir.heard }
  · rw [state] at returning
    cases returning

theorem AudioRouter.tick_release {router : AudioRouter α} (curves : GainCurves α)
    {around : Surroundings α} (healthy : around.Healthy) {earlier : List Event}
    (events : router.events = earlier ++ [.stopPtt])
    (active : earlier.foldl (fun machine event => (machine.apply event).1) router.sm =
      { state := .phoneActive, mode := .auto })
    (long : kFrameSamples < (router.fade.fadeTo 0 router.config.crossfadeMs).remaining) :
    (router.tick curves around).sm = { state := .returningToLocal, mode := .auto } ∧
      (router.tick curves around).events = [] ∧
      (router.tick curves around).config = router.config ∧
      (router.tick curves around).fade =
        Ramp.advance^[kFrameSamples] (router.fade.fadeTo 0 router.config.crossfadeMs) := by
  -- the router just before the release
  obtain ⟨talking, drained⟩ : ∃ talking : AudioRouter α,
      talking = AudioRouter.drainEvents { router with events := earlier } := ⟨_, rfl⟩
  have released : router.drainEvents = talking.applyEvent .stopPtt := by
    unfold AudioRouter.drainEvents at drained ⊢
    rw [events, List.foldl_append, drained]
    rfl
  have machine : talking.sm = { state := .phoneActive, mode := .auto } := by
    rw [drained, AudioRouter.drainEvents_sm]
    exact active
  have home : AudioRouter.HomeFrom { router with events := earlier } talking := by
    rw [drained]
    exact (AudioRouter.stable_homeFrom _).drainEvents ⟨rfl, rfl, fun _home => Or.inl rfl⟩
  obtain ⟨config, position, -⟩ := home
  have sm : router.drainEvents.sm = { state := .returningToLocal, mode := .auto } := by
    rw [released, AudioRouter.applyEvent_sm, machine]
    rfl
  have fade : router.drainEvents.fade = router.fade.fadeTo 0 router.config.crossfadeMs := by
    have entered : (talking.applyEvent .stopPtt).state = .returningToLocal := by
      rw [← released]
      exact congrArg SourceStateMachine.state sm
    rcases talking.applyEvent_cases .stopPtt with ⟨stays, -⟩ | ⟨-, -, -, fade, -⟩
    · rw [entered] at stays
      exact absurd (stays.trans (congrArg SourceStateMachine.state machine))
        SourceState.noConfusion
    · rw [entered] at fade
      rw [released, fade, config]
      exact Ramp.moveTo_of_position position 0 _
  have reading : router.reading = router.drainEvents := by
    have state : router.drainEvents.state = .returningToLocal :=
      congrArg SourceStateMachine.state sm
    unfold AudioRouter.reading AudioRouter.updateTimers
    rw [state, if_neg SourceState.noConfusion,
      if_neg (fun arming => SourceState.noConfusion arming.1),
      if_neg (fun active => SourceState.noConfusion active.1)]
  obtain ⟨localBuf, phoneBuf, ready⟩ := router.ready_healthy healthy
  have mixed := AudioRouter.tick_moving curves router around
    (by rw [ready, reading]; dsimp only; rw [fade]; exact long)
  have after := mixed.of_healthy healthy
  rw [reading] at after
  refine ⟨after.sm.trans sm, ?_, ?_, ?_⟩
  · exact after.events.trans router.drainEvents_events
  · rw [after.config, released, AudioRouter.applyEvent_config, config]
  · rw [after.fade, fade]

theorem AudioRouter.OnAir.release {router : AudioRouter Binary32} (onAir : router.OnAir 2) :
    ((router.control .stopPtt).tick levelCurves quietRoom).Releasing := by
  have position : router.fade.position = 1 := by
    rw [onAir.sound.fadeSound.rests onAir.fade]
    exact onAir.sound.fadeHeads 1 (by unfold AudioRouter.state; rw [onAir.sm]; rfl)
  have fresh : releaseFade.fadeTo 0 40#32 = releaseFade := by decide +kernel
  have fade : router.fade.fadeTo 0 router.config.crossfadeMs = releaseFade := by
    rw [onAir.config]
    exact (Ramp.moveTo_of_position position 0 40#32).trans fresh
  have called : router.control .stopPtt = { router with events := [] ++ [.stopPtt] } := by
    unfold AudioRouter.control AudioRouter.stopPtt
    rw [onAir.events]
    rfl
  have events : AudioRouter.events { router with events := [] ++ [.stopPtt] } =
      [] ++ [.stopPtt] := rfl
  have long : kFrameSamples < (router.fade.fadeTo 0 router.config.crossfadeMs).remaining := by
    rw [fade]
    decide
  rw [called]
  obtain ⟨sm, emptied, config, after⟩ :=
    AudioRouter.tick_release levelCurves quietRoom_healthy events onAir.sm long
  refine ⟨sm, emptied, config.trans onAir.config, ?_⟩
  rw [after]
  dsimp only
  rw [fade]
  unfold kFrameSamples
  rw [releaseFade_iterate 960 (Nat.le_refl _)]
  norm_num

end SmartMic.Audio
