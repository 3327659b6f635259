import SmartMic.Audio.SettledOutput
import SmartMic.Support.Simulation

set_option autoImplicit false

/-! What the counters of the router are worth. The events that were applied tell the whole
story of the state machine: replayed from the start they give the transitions that were
recorded and lead to the present state. The counters are counts of these events and of the
ticks, and no sample leaves the limiter above the ceiling. -/

namespace SmartMic.Audio

variable {α : Type} [SampleArithmetic α]

/-! ### The events that were applied -/

namespace SourceStateMachine

def after (machine : SourceStateMachine) (event : Event) : SourceStateMachine :=
  (machine.apply event).1

def entry (machine : SourceStateMachine) (event : Event) : Option (Event × Transition) :=
  some (event, (machine.apply event).2)

end SourceStateMachine

/-- The applied events are the story of the state machine, and the counters count them. Events
that only a tick raises are never posted. -/
structure AudioRouter.Booked (router : AudioRouter α) : Prop where
  machine : Run.final SourceStateMachine.after .initial (router.applied.map Prod.fst) = router.sm
  entries : Run.observed SourceStateMachine.after SourceStateMachine.entry .initial
    (router.applied.map Prod.fst) = router.applied
  transitions : router.transitions = router.applied.countP fun entry => entry.2.changed
  armTimeouts : router.armTimeouts =
    router.applied.countP fun entry => decide (entry.1 = .armTimeout)
  sourceFailures : router.sourceFailures =
    router.applied.countP fun entry => decide (entry.1 = .sourceFailure)
  phoneLost : router.phoneLost ≤ router.applied.countP fun entry => decide (entry.1 = .phoneLost)
  posted : ∀ event ∈ router.events, event ≠ .armTimeout ∧ event ≠ .sourceFailure

namespace AudioRouter

variable {router : AudioRouter α}

theorem booked_initial (config : RouterConfig α) (wiring : Wiring) :
    (AudioRouter.initial config wiring).Booked :=
  { machine := rfl
    entries := rfl
    transitions := rfl
    armTimeouts := rfl
    sourceFailures := rfl
    phoneLost := Nat.le_refl _
    posted := fun _event member => absurd member List.not_mem_nil }

theorem Booked.raise (booked : router.Booked) (event : Event)
    {armTimeouts phoneLost sourceFailures : Nat}
    (armed : armTimeouts = router.armTimeouts + (decide (event = .armTimeout)).toNat)
    (failed : sourceFailures = router.sourceFailures + (decide (event = .sourceFailure)).toNat)
    (lost : phoneLost ≤ router.phoneLost + (decide (event = .phoneLost)).toNat) :
    (AudioRouter.applyEvent
      { router with
        armTimeouts := armTimeouts
        phoneLost := phoneLost
        sourceFailures := sourceFailures } event).Booked := by
  have count : ∀ counts : Event × Transition → Bool,
      (router.applied ++ [(event, (router.sm.apply event).2)]).countP counts =
        router.applied.countP counts + (counts (event, (router.sm.apply event).2)).toNat := by
    intro counts
    rw [List.countP_append, List.countP_singleton]
    cases counts (event, (router.sm.apply event).2) <;> rfl
  have kept : ∀ {Part : Type} (part : AudioRouter α → Part),
      (∀ (router : AudioRouter α) (sm : SourceStateMachine) (fade : Crossfade α) (gate : GainRamp α)
        (armStartedFrame transitions : Nat) (applied : List (Event × Transition)),
        part { router with
          sm := sm
          fade := fade
          gate := gate
          armStartedFrame := armStartedFrame
          transitions := transitions
          applied := applied } = part router) → _ :=
    fun part blind => AudioRouter.applyEvent_frame part blind
      { router with
        armTimeouts := armTimeouts
        phoneLost := phoneLost
        sourceFailures := sourceFailures } event
  constructor
  · rw [applyEvent_applied, applyEvent_sm, List.map_append, Run.final_append, booked.machine]
    rfl
  · rw [applyEvent_applied, List.map_append, Run.observed_append, booked.machine, booked.entries]
    rfl
  · rw [applyEvent_transitions, applyEvent_applied, count, ← booked.transitions]
  · rw [applyEvent_applied, count, ← booked.armTimeouts]
    exact (kept AudioRouter.armTimeouts fun _ _ _ _ _ _ _ => rfl).trans armed
  · rw [applyEvent_applied, count, ← booked.sourceFailures]
    exact (kept AudioRouter.sourceFailures fun _ _ _ _ _ _ _ => rfl).trans failed
  · rw [applyEvent_applied, count]
    have same := kept AudioRouter.phoneLost fun _ _ _ _ _ _ _ => rfl
    exact same.le.trans (lost.trans (Nat.add_le_add_right booked.phoneLost _))
  · rw [applyEvent_events]
    exact booked.posted

theorem Booked.applyEvent (booked : router.Booked) {event : Event}
    (plain : event ≠ .armTimeout ∧ event ≠ .sourceFailure) : (router.applyEvent event).Booked :=
  booked.raise event
    (by rw [decide_eq_false plain.1]; rfl) (by rw [decide_eq_false plain.2]; rfl)
    (Nat.le_add_right _ _)

theorem Booked.drainEvents (booked : router.Booked) : router.drainEvents.Booked := by
  have emptied : AudioRouter.Booked { router with events := [] } :=
    { booked with posted := fun _event member => absurd member List.not_mem_nil }
  exact Run.invariant_final AudioRouter.Booked
    (fun _router _event booked plain => booked.applyEvent plain) router.events _ emptied
    (Run.meets_of_forall booked.posted _)

theorem Booked.updateTimers (booked : router.Booked) : router.updateTimers.Booked := by
  unfold AudioRouter.updateTimers
  split
  · exact booked.applyEvent ⟨Event.noConfusion, Event.noConfusion⟩
  · split
    · exact booked.raise .armTimeout rfl rfl (Nat.le_add_right _ _)
    · split
      · exact booked.raise .phoneLost rfl rfl (Nat.le_refl _)
      · exact booked

theorem Booked.fill (booked : router.Booked) (attached wanted : Bool) (read : SourceRead α) :
    (router.fill attached wanted read).1.Booked := by
  unfold AudioRouter.fill
  split
  · exact booked
  · cases read.status with
    | failed => exact booked.raise .sourceFailure rfl rfl (Nat.le_add_right _ _)
    | ok => exact booked
    | underrun => exact booked

theorem Booked.readLocal (booked : router.Booked) (holdForGate : Bool) (around : Surroundings α) :
    (router.readLocal holdForGate around).Booked :=
  { booked.fill router.wiring.local_ (router.sm.wantsLocal || holdForGate) around.local_ with }

theorem Booked.readPhone (booked : router.Booked) (holdForGate : Bool) (around : Surroundings α) :
    (router.readPhone holdForGate around).Booked :=
  { booked.fill router.wiring.phone (router.sm.wantsPhone || holdForGate) around.phone with }

theorem Booked.ready (booked : router.Booked) (around : Surroundings α) :
    (router.ready around).Booked :=
  (booked.drainEvents.updateTimers.readLocal _ around).readPhone _ around

theorem Booked.tick (booked : router.Booked) (curves : GainCurves α) (around : Surroundings α) :
    (router.tick curves around).Booked := by
  obtain ⟨outBuf, limited, sinkFailures, written⟩ := AudioRouter.written_eq curves router around
  have mixed : ((router.produceFrame curves around).writeSink around).Booked := by
    have ready := booked.ready around
    rw [written]
    exact ⟨ready.machine, ready.entries, ready.transitions, ready.armTimeouts,
      ready.sourceFailures, ready.phoneLost, ready.posted⟩
  unfold AudioRouter.tick AudioRouter.closeFade
  split
  · exact mixed.applyEvent ⟨Event.noConfusion, Event.noConfusion⟩
  · exact mixed

theorem Booked.control (booked : router.Booked) (call : Control) :
    (router.control call).Booked := by
  have posts : ∀ event : Event, event ≠ .armTimeout ∧ event ≠ .sourceFailure →
      ∀ other ∈ post router.events event, other ≠ .armTimeout ∧ other ≠ .sourceFailure := by
    intro event plain other member
    rcases List.mem_append.mp (List.mem_of_mem_drop member) with before | new
    · exact booked.posted other before
    · rw [List.mem_singleton.mp new]
      exact plain
  have noted : ∀ (events : List Event) (lastHeartbeatFrame : Nat),
      (∀ other ∈ events, other ≠ .armTimeout ∧ other ≠ .sourceFailure) →
        AudioRouter.Booked
          { router with events := events, lastHeartbeatFrame := lastHeartbeatFrame } :=
    fun _events _lastHeartbeatFrame posted =>
      ⟨booked.machine, booked.entries, booked.transitions, booked.armTimeouts,
        booked.sourceFailures, booked.phoneLost, posted⟩
  cases call with
  | setMode mode =>
      cases mode <;> exact noted _ _ (posts _ ⟨Event.noConfusion, Event.noConfusion⟩)
  | startPtt => exact noted _ _ (posts _ ⟨Event.noConfusion, Event.noConfusion⟩)
  | stopPtt => exact noted _ _ (posts _ ⟨Event.noConfusion, Event.noConfusion⟩)
  | notifyPhoneReady => exact noted _ _ (posts _ ⟨Event.noConfusion, Event.noConfusion⟩)
  | notifyPhoneHeartbeat => exact noted _ _ booked.posted
  | notifyPhoneGone => exact noted _ _ (posts _ ⟨Event.noConfusion, Event.noConfusion⟩)

theorem Booked.step (booked : router.Booked) (curves : GainCurves α) (input : RouterInput α) :
    (router.step curves input).Booked := by
  cases input with
  | control call => exact booked.control call
  | tick around => exact booked.tick curves around

/-! ### The limiter -/

def mixedAt (curves : GainCurves α) (router : AudioRouter α) (fade : Crossfade α)
    (gate : GainRamp α) (index : Nat) : α :=
  (router.localBuf index * (fade.gainsAt curves index).local_ * router.config.localGainLinear +
    router.phoneBuf index * (fade.gainsAt curves index).phone * router.config.phoneGainLinear) *
      gate.openingAt curves index

def cuts (curves : GainCurves α) (router : AudioRouter α) (fade : Crossfade α) (gate : GainRamp α)
    (index : Nat) : Bool :=
  decide (kCeiling < router.mixedAt curves fade gate index ∨
    router.mixedAt curves fade gate index < -kCeiling)

/-- Neither above the ceiling nor below its negative: a NaN is neither. -/
def Within (sample : α) : Prop := ¬kCeiling < sample ∧ ¬sample < -kCeiling

theorem limit_within (sample : α) : Within (limit sample) := by
  unfold Within limit
  split
  · exact ⟨SampleArithmetic.lt_irrefl _, SampleArithmetic.ceiling_above.2⟩
  · split
    · exact ⟨SampleArithmetic.ceiling_above.2, SampleArithmetic.lt_irrefl _⟩
    · rename_i above below
      exact ⟨above, below⟩

theorem mixSample_limited (curves : GainCurves α) (router : AudioRouter α) (mix : Mix α)
    (index : Nat) :
    (router.mixSample curves mix index).limited = mix.limited +
      (decide (kCeiling < (router.localBuf index * curves.cosine mix.fade.advance.position *
          router.config.localGainLinear +
        router.phoneBuf index * curves.sine mix.fade.advance.position *
          router.config.phoneGainLinear) * curves.raisedCosine mix.gate.advance.position ∨
        (router.localBuf index * curves.cosine mix.fade.advance.position *
          router.config.localGainLinear +
        router.phoneBuf index * curves.sine mix.fade.advance.position *
          router.config.phoneGainLinear) * curves.raisedCosine mix.gate.advance.position <
            -kCeiling)).toNat := by
  unfold AudioRouter.mixSample Crossfade.next GainRamp.next
  dsimp only
  generalize (router.localBuf index * curves.cosine mix.fade.advance.position *
      router.config.localGainLinear +
    router.phoneBuf index * curves.sine mix.fade.advance.position *
      router.config.phoneGainLinear) * curves.raisedCosine mix.gate.advance.position = gated
  split
  · rename_i above
    rw [decide_eq_true (.inl above)]
    rfl
  · rename_i low
    split
    · rename_i below
      rw [decide_eq_true (.inr below)]
      rfl
    · rename_i high
      rw [decide_eq_false (not_or.mpr ⟨low, high⟩)]
      rfl

theorem mixFold_limited (curves : GainCurves α) (router : AudioRouter α) (mix : Mix α)
    (count : Nat) :
    ((List.range count).foldl (router.mixSample curves) mix).limited =
      mix.limited + (List.range count).countP (router.cuts curves mix.fade mix.gate) := by
  induction count with
  | zero => rfl
  | succ count ih =>
      obtain ⟨fade, gate⟩ := AudioRouter.mixFold curves router mix count
      rw [List.range_succ, List.foldl_append, List.foldl_cons, List.foldl_nil,
        mixSample_limited, ih, fade, gate, List.countP_append, List.countP_singleton,
        ← Function.iterate_succ_apply' Ramp.advance, ← Function.iterate_succ_apply' Ramp.advance,
        ← Nat.add_assoc]
      congr 1
      change (router.cuts curves mix.fade mix.gate count).toNat = _
      cases router.cuts curves mix.fade mix.gate count <;> rfl

/-! ### The counters of a tick -/

def frames (_router : AudioRouter α) : RouterInput α → Nat
  | .control _ => 0
  | .tick _ => 1

def refusals (router : AudioRouter α) : RouterInput α → Nat
  | .control _ => 0
  | .tick around => (router.wiring.sink && !around.sinkAccepts).toNat

def cutSamples (curves : GainCurves α) (router : AudioRouter α) : RouterInput α → Nat
  | .control _ => 0
  | .tick around =>
      (List.range kFrameSamples).countP
        ((router.ready around).cuts curves (router.ready around).fade (router.ready around).gate)

theorem applyEvent_counters (router : AudioRouter α) (event : Event) :
    (router.applyEvent event).frameIndex = router.frameIndex ∧
      (router.applyEvent event).sinkFailures = router.sinkFailures ∧
      (router.applyEvent event).limited = router.limited ∧
      (router.applyEvent event).wiring = router.wiring :=
  ⟨applyEvent_frame AudioRouter.frameIndex (fun _ _ _ _ _ _ _ => rfl) router event,
    applyEvent_frame AudioRouter.sinkFailures (fun _ _ _ _ _ _ _ => rfl) router event,
    applyEvent_frame AudioRouter.limited (fun _ _ _ _ _ _ _ => rfl) router event,
    applyEvent_frame AudioRouter.wiring (fun _ _ _ _ _ _ _ => rfl) router event⟩

/-- The part of the router that neither an event nor a read touches. -/
structure SameCounters (before after : AudioRouter α) : Prop where
  frameIndex : after.frameIndex = before.frameIndex
  sinkFailures : after.sinkFailures = before.sinkFailures
  limited : after.limited = before.limited
  wiring : after.wiring = before.wiring

theorem stable_sameCounters (before : AudioRouter α) : Stable (SameCounters before) :=
  { event := by
      intro router event same
      obtain ⟨frameIndex, sinkFailures, limited, wiring⟩ := applyEvent_counters router event
      exact
        { frameIndex := frameIndex.trans same.frameIndex
          sinkFailures := sinkFailures.trans same.sinkFailures
          limited := limited.trans same.limited
          wiring := wiring.trans same.wiring }
    emptied := fun _router same =>
      ⟨same.frameIndex, same.sinkFailures, same.limited, same.wiring⟩
    bookkeeping := fun _router _armTimeouts _phoneLost _sourceFailures _localBuf _phoneBuf same =>
      ⟨same.frameIndex, same.sinkFailures, same.limited, same.wiring⟩ }

theorem tick_counters (curves : GainCurves α) (router : AudioRouter α) (around : Surroundings α) :
    (router.tick curves around).frameIndex = router.frameIndex + 1 ∧
      (router.tick curves around).sinkFailures =
        router.sinkFailures + router.refusals (.tick around) ∧
      (router.tick curves around).limited =
        router.limited + router.cutSamples curves (.tick around) := by
  have ready : SameCounters router (router.ready around) :=
    (stable_sameCounters router).ready ⟨rfl, rfl, rfl, rfl⟩ around
  have produced : (router.produceFrame curves around).frameIndex = router.frameIndex + 1 ∧
      (router.produceFrame curves around).sinkFailures = router.sinkFailures ∧
      (router.produceFrame curves around).limited =
        router.limited + router.cutSamples curves (.tick around) ∧
      (router.produceFrame curves around).wiring = router.wiring := by
    unfold AudioRouter.produceFrame AudioRouter.mixAndWrite
    dsimp only
    rw [mixFold_limited, ready.frameIndex, ready.sinkFailures, ready.limited, ready.wiring,
      Nat.zero_add]
    exact ⟨rfl, rfl, rfl, rfl⟩
  obtain ⟨frameIndex, sinkFailures, limited, wiring⟩ := produced
  have written : ((router.produceFrame curves around).writeSink around).frameIndex =
        router.frameIndex + 1 ∧
      ((router.produceFrame curves around).writeSink around).sinkFailures =
        router.sinkFailures + router.refusals (.tick around) ∧
      ((router.produceFrame curves around).writeSink around).limited =
        router.limited + router.cutSamples curves (.tick around) := by
    unfold AudioRouter.writeSink AudioRouter.refusals
    dsimp only
    rw [wiring]
    split
    · rename_i refused
      rw [refused.1, refused.2]
      exact ⟨frameIndex, congrArg (· + 1) sinkFailures, limited⟩
    · rename_i taken
      have none_ : (router.wiring.sink && !around.sinkAccepts) = false := by
        simpa using taken
      rw [none_]
      exact ⟨frameIndex, sinkFailures, limited⟩
  unfold AudioRouter.tick AudioRouter.closeFade
  split
  · obtain ⟨frameIndex, sinkFailures, limited, -⟩ :=
      applyEvent_counters ((router.produceFrame curves around).writeSink around) .fadeComplete
    exact ⟨frameIndex.trans written.1, sinkFailures.trans written.2.1,
      limited.trans written.2.2⟩
  · exact written

theorem control_counters (router : AudioRouter α) (call : Control) :
    (router.control call).frameIndex = router.frameIndex ∧
      (router.control call).sinkFailures = router.sinkFailures ∧
      (router.control call).limited = router.limited ∧
      (router.control call).outBuf = router.outBuf := by
  obtain ⟨events, lastHeartbeatFrame, same⟩ := router.control_eq call
  rw [same]
  exact ⟨rfl, rfl, rfl, rfl⟩

def FrameWithin (router : AudioRouter α) : Prop :=
  router.outBuf.length = kFrameSamples ∧ ∀ sample ∈ router.outBuf, Within sample

theorem frameWithin_initial (config : RouterConfig α) (wiring : Wiring) :
    (AudioRouter.initial config wiring).FrameWithin := by
  refine ⟨List.length_replicate, fun sample member => ?_⟩
  rw [(List.mem_replicate.mp member).2]
  exact ⟨SampleArithmetic.ceiling_above.1, SampleArithmetic.floor_below⟩

theorem FrameWithin.step (within : router.FrameWithin) (curves : GainCurves α)
    (input : RouterInput α) : (router.step curves input).FrameWithin := by
  cases input with
  | control call =>
      obtain ⟨-, -, -, same⟩ := control_counters router call
      unfold FrameWithin AudioRouter.step
      rw [same]
      exact within
  | tick around =>
      unfold FrameWithin AudioRouter.step
      rw [tick_outBuf]
      refine ⟨by rw [List.length_map, List.length_range], fun sample member => ?_⟩
      obtain ⟨index, -, rfl⟩ := List.mem_map.mp member
      exact limit_within _

end AudioRouter

open AudioRouter in
/-- In every run the applied events replay to the present state, the statistics count them, the
ticks, the refusals of the sink and the samples that the limiter had to cut, and the frame
that goes out is whole and nowhere beyond the ceiling. -/
theorem router_stats_replay_events (curves : GainCurves α) (config : RouterConfig α)
    (wiring : Wiring) (inputs : List (RouterInput α)) :
    let start := AudioRouter.initial config wiring
    let router := Run.final (AudioRouter.step curves) start inputs
    router.Booked ∧
      router.framesProduced = Run.total (AudioRouter.step curves) frames start inputs ∧
      router.sinkFailures = Run.total (AudioRouter.step curves) refusals start inputs ∧
      router.limited = Run.total (AudioRouter.step curves) (cutSamples curves) start inputs ∧
      router.FrameWithin := by
  intro start router
  have frame : router.frameIndex = 0 + Run.total (AudioRouter.step curves) frames start inputs :=
    Run.final_total AudioRouter.frameIndex (fun router input => by
      cases input with
      | control call => exact (control_counters router call).1
      | tick around => exact (tick_counters curves router around).1) inputs start
  have refused : router.sinkFailures =
      0 + Run.total (AudioRouter.step curves) refusals start inputs :=
    Run.final_total AudioRouter.sinkFailures (fun router input => by
      cases input with
      | control call => exact (control_counters router call).2.1
      | tick around => exact (tick_counters curves router around).2.1) inputs start
  have cut : router.limited =
      0 + Run.total (AudioRouter.step curves) (cutSamples curves) start inputs :=
    Run.final_total AudioRouter.limited (fun router input => by
      cases input with
      | control call => exact (control_counters router call).2.2.1
      | tick around => exact (tick_counters curves router around).2.2) inputs start
  have sound : router.Sound := AudioRouter.sound_final curves config wiring inputs
  rw [Nat.zero_add] at frame refused cut
  refine ⟨?_, ?_, refused, cut, ?_⟩
  · exact Run.invariant_always AudioRouter.Booked
      (fun _router input booked => booked.step curves input) start inputs
      (booked_initial config wiring)
  · exact sound.counted.trans frame
  · exact Run.invariant_always AudioRouter.FrameWithin
      (fun _router input within => within.step curves input) start inputs
      (frameWithin_initial config wiring)

end SmartMic.Audio
