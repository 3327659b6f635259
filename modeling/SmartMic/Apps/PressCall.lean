import SmartMic.Support.Simulation
import SmartMic.Apps.LiveDisplay

set_option autoImplicit false

/-! What becomes of a press that the service has handled, as long as no further press,
release or change of mode reaches it. The rounds of the audio loop take the press
through a small machine of its own: the arming waits for the phone source, the air
waits for media, and both waits run out. -/

namespace SmartMic.Audio

/-! ### A tick whose sources answer -/

theorem AudioRouter.tick_keeps {router : AudioRouter} (curves : GainCurves)
    {around : Surroundings} (healthy : around.Healthy)
    (elsewhere : router.reading.state ≠ .returningToLocal) :
    (router.tick curves around).sm = router.reading.sm ∧
      (router.tick curves around).armStartedFrame = router.reading.armStartedFrame ∧
      (router.tick curves around).lastHeartbeatFrame = router.reading.lastHeartbeatFrame ∧
      (router.tick curves around).frameIndex = router.reading.frameIndex + 1 := by
  obtain ⟨written, mixed, closes⟩ := AudioRouter.tick_healthy curves router healthy
  rcases closes with ⟨same, -⟩ | ⟨-, returning⟩
  · rw [same]
    exact ⟨mixed.sm, mixed.armed, mixed.heard, mixed.index⟩
  · rw [mixed.state] at returning
    exact absurd returning elsewhere

theorem AudioRouter.tick_home {router : AudioRouter} {curves : GainCurves}
    {around : Surroundings} (healthy : around.Healthy)
    (home : router.reading.state = .returningToLocal ∨ router.reading.state = .localActive) :
    (router.tick curves around).state = .returningToLocal ∨
      (router.tick curves around).state = .localActive := by
  obtain ⟨written, mixed, closes⟩ := AudioRouter.tick_healthy curves router healthy
  rcases closes with ⟨same, -⟩ | ⟨closed, returning⟩
  · rw [same, mixed.state]
    exact home
  · rw [closed]
    exact Or.inr (AudioRouter.fadeComplete_state returning)

theorem AudioRouter.Sound.auto_of_arming {router : AudioRouter} (sound : router.Sound)
    (arming : router.state = .phoneArming) : router.mode = .auto := by
  have inside := sound.region
  unfold SourceStateMachine.InRegion at inside
  unfold AudioRouter.state at arming
  unfold AudioRouter.mode
  cases mode : router.sm.mode with
  | auto => rfl
  | phoneOnly =>
      rw [mode, arming] at inside
      rcases inside with other | other <;> cases other
  | localOnly =>
      rw [mode, arming] at inside
      rcases inside with other | other <;> cases other
  | mute =>
      rw [mode, arming] at inside
      rcases inside with other | other <;> cases other

theorem AudioRouter.stable_frameIndex (index : Nat) :
    Stable (fun router : AudioRouter => router.frameIndex = index) :=
  { event := by
      intro router event same
      rw [AudioRouter.applyEvent_frameIndex]
      exact same
    emptied := fun _router same => same
    bookkeeping := fun _router _ _ _ _ _ same => same }

/-! ### A press among the posted events -/

/-- The last event posted is a START_PTT, and those before it leave the machine in a
state of AUTO from which a press arms. -/
def AudioRouter.PostsPress (router : AudioRouter) : Prop :=
  ∃ earlier, router.events = earlier ++ [.startPtt] ∧
    (AudioRouter.ahead { router with events := earlier }).mode = .auto ∧
    ((AudioRouter.ahead { router with events := earlier }).state = .localActive ∨
      (AudioRouter.ahead { router with events := earlier }).state = .returningToLocal)

theorem SourceStateMachine.apply_press {machine : SourceStateMachine}
    (auto : machine.mode = .auto)
    (rests : machine.state = .localActive ∨ machine.state = .returningToLocal) :
    (machine.apply .startPtt).1.state = .phoneArming := by
  obtain ⟨state, mode⟩ := machine
  cases auto
  rcases rests with local_ | returning
  · cases local_
    rfl
  · cases returning
    rfl

/-- Applying the posted events ends in an arming that begins with this frame. -/
theorem AudioRouter.PostsPress.drained {router : AudioRouter} (posts : router.PostsPress) :
    router.drainEvents.state = .phoneArming ∧
      router.drainEvents.armStartedFrame = router.frameIndex := by
  obtain ⟨earlier, events, auto, rests⟩ := posts
  generalize before : AudioRouter.drainEvents { router with events := earlier } = drained
  have inOrder : router.drainEvents = drained.applyEvent .startPtt := by
    rw [← before]
    unfold AudioRouter.drainEvents
    rw [events, List.foldl_append]
    rfl
  have sm : drained.sm = AudioRouter.ahead { router with events := earlier } := by
    rw [← before]
    exact AudioRouter.drainEvents_sm _
  have index : drained.frameIndex = router.frameIndex := by
    rw [← before]
    exact (AudioRouter.stable_frameIndex router.frameIndex).drainEvents rfl
  have arming : (drained.applyEvent .startPtt).state = .phoneArming := by
    unfold AudioRouter.state
    rw [AudioRouter.applyEvent_sm]
    exact SourceStateMachine.apply_press (by rw [sm]; exact auto) (by rw [sm]; exact rests)
  rw [inOrder]
  refine ⟨arming, ?_⟩
  rcases drained.applyEvent_cases .startPtt with ⟨stays, -⟩ | ⟨-, -, -, -, armed⟩
  · rw [arming] at stays
    unfold AudioRouter.state at stays
    rw [sm] at stays
    rcases rests with other | other <;> rw [other] at stays <;> cases stays
  · rw [armed, if_pos arming, index]

/-! ### The timers of a drained router -/

theorem AudioRouter.updateTimers_same {router : AudioRouter}
    (calm : router.state ≠ .errorRecovery) (arming : router.state ≠ .phoneArming)
    (active : router.state ≠ .phoneActive) : router.updateTimers = router := by
  unfold AudioRouter.updateTimers
  rw [if_neg calm, if_neg (fun late => arming late.1), if_neg (fun lost => active lost.1)]

theorem AudioRouter.updateTimers_arming {router : AudioRouter}
    (arming : router.state = .phoneArming)
    (ordered : router.armStartedFrame ≤ router.frameIndex) :
    (framesFor router.config.armTimeoutMs < router.frameIndex - router.armStartedFrame ∧
      router.updateTimers.state = .errorRecovery) ∨
    (router.frameIndex - router.armStartedFrame ≤ framesFor router.config.armTimeoutMs ∧
      router.updateTimers = router) := by
  have calm : router.state ≠ .errorRecovery := by rw [arming]; decide
  have inactive : router.state ≠ .phoneActive := by rw [arming]; decide
  unfold AudioRouter.updateTimers
  rw [if_neg calm, framesSince_of_le ordered]
  by_cases late : framesFor router.config.armTimeoutMs <
      router.frameIndex - router.armStartedFrame
  · refine Or.inl ⟨late, ?_⟩
    rw [if_pos ⟨arming, late⟩]
    unfold AudioRouter.state at arming ⊢
    simp [SourceStateMachine.apply, SourceStateMachine.edge, arming]
  · refine Or.inr ⟨not_lt.mp late, ?_⟩
    rw [if_neg (fun both => late both.2), if_neg (fun lost => inactive lost.1)]

theorem AudioRouter.updateTimers_active {router : AudioRouter}
    (active : router.state = .phoneActive)
    (ordered : router.lastHeartbeatFrame ≤ router.frameIndex) :
    (framesFor router.config.phoneLostTimeoutMs <
        router.frameIndex - router.lastHeartbeatFrame ∧
      router.updateTimers.state = .returningToLocal) ∨
    (router.frameIndex - router.lastHeartbeatFrame ≤
        framesFor router.config.phoneLostTimeoutMs ∧
      router.updateTimers = router) := by
  have calm : router.state ≠ .errorRecovery := by rw [active]; decide
  have armed : router.state ≠ .phoneArming := by rw [active]; decide
  unfold AudioRouter.updateTimers
  rw [if_neg calm, if_neg (fun late => armed late.1), framesSince_of_le ordered]
  by_cases quiet : framesFor router.config.phoneLostTimeoutMs <
      router.frameIndex - router.lastHeartbeatFrame
  · refine Or.inl ⟨quiet, ?_⟩
    rw [if_pos ⟨active, by omega, quiet⟩]
    unfold AudioRouter.state at active ⊢
    simp [SourceStateMachine.apply, SourceStateMachine.edge, active]
  · refine Or.inr ⟨not_lt.mp quiet, ?_⟩
    rw [if_neg (fun lost => quiet lost.2.2)]

end SmartMic.Audio

namespace SmartMic.Apps

open SmartMic.Protocol SmartMic.Session SmartMic.Media SmartMic.Audio

/-! ### A press on its way -/

/-- What a press goes through. The numbers are frames: since the arming began, and
since the phone was last heard. -/
inductive Call where
  | posted
  | arming (waited : Nat)
  | onAir (quiet : Nat)
  | dropped
  | expired
  | home
  deriving DecidableEq, Repr

/-- Media of the phone arrives, or the loop goes round with a phone source that has
audio or has none. -/
inductive CallInput where
  | media
  | round (ready : Bool)
  deriving DecidableEq, Repr

def Call.step (armLimit lostLimit : Nat) (call : Call) : CallInput → Call
  | .media =>
      match call with
      | .onAir _ => .onAir 0
      | other => other
  | .round ready =>
      match call with
      | .posted => .arming 1
      | .arming waited =>
          if ready then .onAir 1
          else if armLimit < waited then .expired
          else .arming (waited + 1)
      | .onAir quiet => if lostLimit < quiet then .dropped else .onAir (quiet + 1)
      | .dropped => .dropped
      | .expired => .home
      | .home => .home

def Call.answers (call : Call) : CallInput → Bool
  | .media => false
  | .round ready =>
      match call with
      | .arming _ => ready
      | _ => false

section

variable {Decoder : Type}

/-- The service with a press it has handled, at that stage of the call. -/
def Service.At (service : Service Decoder) : Call → Prop
  | .posted =>
      service.announcedReady = false ∧ service.router.state ≠ .phoneArming ∧
        service.router.PostsPress
  | .arming waited =>
      service.announcedReady = false ∧ service.router.events = [] ∧
        service.router.state = .phoneArming ∧
        service.router.frameIndex = service.router.armStartedFrame + waited
  | .onAir quiet =>
      service.announcedReady = true ∧ service.router.events = [] ∧
        service.router.state = .phoneActive ∧
        service.router.frameIndex = service.router.lastHeartbeatFrame + quiet
  | .dropped =>
      service.announcedReady = true ∧ service.router.events = [] ∧
        (service.router.state = .returningToLocal ∨ service.router.state = .localActive)
  | .expired =>
      service.announcedReady = false ∧ service.router.events = [] ∧
        service.router.state = .errorRecovery ∧ service.router.mode = .auto
  | .home =>
      service.announcedReady = false ∧ service.router.events = [] ∧
        service.router.state = .localActive

/-- What a service keeps whatever it is called with. -/
structure Service.Fit (config : RouterConfig) (service : Service Decoder) : Prop where
  sound : service.router.Sound
  config : service.router.config = config
  started : service.phoneSource.started = true

/-- The service is at that stage of a press that it has been asked for. -/
structure Service.Follows (config : RouterConfig) (service : Service Decoder) (call : Call) :
    Prop where
  fit : service.Fit config
  requested : service.pttRequested = true
  stage : service.At call

/-! ### A started phone source -/

theorem readPhoneSource_started {opus : OpusLibrary Decoder} {source : PhoneMediaSource Decoder}
    (started : source.started = true) :
    (readPhoneSource opus source).1.status ≠ .failed ∧
      (readPhoneSource opus source).2.started = true := by
  unfold readPhoneSource
  rw [if_neg (by rw [started]; exact Bool.noConfusion)]
  refine ⟨?_, started⟩
  dsimp only
  split <;> exact SourceStatus.noConfusion

theorem onMediaPayload_started {source : PhoneMediaSource Decoder} (data : Bytes)
    (nowMs : BitVec 64) :
    (source.onMediaPayload data nowMs).2.started = source.started := by
  unfold PhoneMediaSource.onMediaPayload
  split
  · rfl
  · dsimp only
    split <;> rfl

/-! ### One round of the loop -/

theorem Service.Fit.control {config : RouterConfig} {service : Service Decoder}
    (fit : service.Fit config) (call : Control) (pttRequested announcedReady : Bool) :
    Service.Fit config { service with
      router := service.router.control call
      pttRequested := pttRequested
      announcedReady := announcedReady } :=
  { sound := fit.sound.control call
    config := by
      obtain ⟨events, lastHeartbeatFrame, called⟩ := service.router.control_eq call
      dsimp only
      rw [called]
      exact fit.config
    started := fit.started }

theorem Service.announce_fit {config : RouterConfig} {service : Service Decoder}
    (fit : service.Fit config) (nowUnixMs : BitVec 64) :
    (service.announce nowUnixMs).1.Fit config := by
  unfold Service.announce
  split
  · exact fit.control .notifyPhoneReady service.pttRequested true
  · exact fit

theorem Service.loop_fit {config : RouterConfig} {service : Service Decoder}
    (fit : service.Fit config) (curves : GainCurves) (opus : OpusLibrary Decoder) (room : Room) :
    (service.loop curves opus room).1.Fit config := by
  have announced := Service.announce_fit fit room.nowUnixMs
  unfold Service.loop Service.tick
  dsimp only
  exact
    { sound := announced.sound.tick curves _
      config := (AudioRouter.tick_config curves _ _).trans announced.config
      started := by
        dsimp only
        split
        · exact announced.started
        · exact (readPhoneSource_started announced.started).2 }

theorem Service.surroundings_healthy {config : RouterConfig} {service : Service Decoder}
    (fit : service.Fit config) (opus : OpusLibrary Decoder) {room : Room}
    (answers : room.local_.status ≠ .failed) : (service.surroundings opus room).Healthy :=
  { local_ := answers
    phone := (readPhoneSource_started fit.started).1 }

theorem Service.announces_iff {service : Service Decoder}
    (requested : service.pttRequested = true) :
    service.announces = true ↔ service.announcedReady = false ∧
      service.router.state = .phoneArming ∧ service.phoneSource.ready = true := by
  unfold Service.announces
  rw [requested, Bool.true_and, Bool.and_eq_true, Bool.and_eq_true, decide_eq_true_iff,
    Bool.not_eq_true', and_assoc]

def Call.stepFor (config : RouterConfig) : Call → CallInput → Call :=
  Call.step (framesFor config.armTimeoutMs) (framesFor config.phoneLostTimeoutMs)

theorem Service.announces_eq_answers {config : RouterConfig} {service : Service Decoder}
    {call : Call} (follows : service.Follows config call) :
    service.announces = call.answers (.round service.phoneSource.ready) := by
  rw [Bool.eq_iff_iff, Service.announces_iff follows.requested]
  have stage := follows.stage
  cases call with
  | posted => exact iff_of_false (fun announces => stage.2.1 announces.2.1) Bool.false_ne_true
  | arming waited =>
      exact ⟨fun announces => announces.2.2, fun ready => ⟨stage.1, stage.2.2.1, ready⟩⟩
  | onAir quiet =>
      rw [stage.1]
      exact iff_of_false (fun announces => Bool.noConfusion announces.1) Bool.false_ne_true
  | dropped =>
      rw [stage.1]
      exact iff_of_false (fun announces => Bool.noConfusion announces.1) Bool.false_ne_true
  | expired =>
      rw [stage.2.2.1]
      exact iff_of_false (fun announces => SourceState.noConfusion announces.2.1)
        Bool.false_ne_true
  | home =>
      rw [stage.2.2]
      exact iff_of_false (fun announces => SourceState.noConfusion announces.2.1)
        Bool.false_ne_true

theorem Service.loop_unannounced {service : Service Decoder} (quiet : service.announces = false)
    (curves : GainCurves) (opus : OpusLibrary Decoder) (room : Room) :
    service.loop curves opus room = (service.tick curves opus room, []) := by
  unfold Service.loop Service.announce
  rw [quiet]
  rfl

theorem Service.Follows.posted_round {config : RouterConfig} {service : Service Decoder}
    (follows : service.Follows config .posted) (curves : GainCurves) (opus : OpusLibrary Decoder)
    {room : Room} (answers : room.local_.status ≠ .failed) :
    (service.tick curves opus room).At (.arming 1) := by
  obtain ⟨unannounced, -, posted⟩ := follows.stage
  obtain ⟨arming, armed⟩ := posted.drained
  have healthy := Service.surroundings_healthy follows.fit opus answers
  have drained := AudioRouter.stable_sound.drainEvents follows.fit.sound
  have index : service.router.drainEvents.frameIndex = service.router.frameIndex :=
    (AudioRouter.stable_frameIndex service.router.frameIndex).drainEvents rfl
  have timed : service.router.reading = service.router.drainEvents := by
    rcases AudioRouter.updateTimers_arming arming drained.armed with ⟨late, -⟩ | ⟨-, same⟩
    · rw [index, armed, Nat.sub_self] at late
      exact absurd late (Nat.not_lt_zero _)
    · exact same
  obtain ⟨sm, armed', -, index'⟩ := AudioRouter.tick_keeps curves healthy
    (by rw [timed, arming]; decide)
  refine ⟨unannounced, (AudioRouter.tick_quiet curves _ _).1, ?_, ?_⟩
  · exact (congrArg SourceStateMachine.state (sm.trans (congrArg _ timed))).trans arming
  · change (service.router.tick curves _).frameIndex =
      (service.router.tick curves _).armStartedFrame + 1
    rw [index', armed', timed, index, armed]

theorem Service.Follows.arming_round {config : RouterConfig} {service : Service Decoder}
    {waited : Nat} (follows : service.Follows config (.arming waited)) (curves : GainCurves)
    (opus : OpusLibrary Decoder) {room : Room} (answers : room.local_.status ≠ .failed) :
    (service.tick curves opus room).At
      (Call.stepFor config (.arming waited) (.round false)) := by
  obtain ⟨unannounced, quiet, arming, armed⟩ := follows.stage
  have healthy := Service.surroundings_healthy follows.fit opus answers
  have reading : service.router.reading = service.router.updateTimers := by
    unfold AudioRouter.reading
    rw [AudioRouter.drainEvents_of_empty quiet]
  have limit := congrArg (fun config => framesFor config.armTimeoutMs) follows.fit.config
  have events := (AudioRouter.tick_quiet curves service.router
    (service.surroundings opus room)).1
  change Service.At _ (if framesFor config.armTimeoutMs < waited then .expired
    else .arming (waited + 1))
  rw [← limit]
  rcases AudioRouter.updateTimers_arming arming follows.fit.sound.armed with
    ⟨late, recovering⟩ | ⟨soon, same⟩
  · rw [if_pos (by rw [armed, Nat.add_sub_cancel_left] at late; exact late)]
    obtain ⟨sm, -⟩ := AudioRouter.tick_keeps curves healthy
      (by rw [reading, recovering]; decide)
    refine ⟨unannounced, events, ?_, ?_⟩
    · exact (congrArg SourceStateMachine.state (sm.trans (congrArg _ reading))).trans recovering
    · have mode := (AudioRouter.tick_quiet curves service.router
        (service.surroundings opus room)).2
      rw [AudioRouter.drainEvents_of_empty quiet] at mode
      exact mode.trans (follows.fit.sound.auto_of_arming arming)
  · rw [if_neg (by rw [armed, Nat.add_sub_cancel_left] at soon; exact not_lt.mpr soon)]
    have timed := reading.trans same
    obtain ⟨sm, armed', -, index⟩ := AudioRouter.tick_keeps curves healthy
      (by rw [timed, arming]; decide)
    refine ⟨unannounced, events, ?_, ?_⟩
    · exact (congrArg SourceStateMachine.state (sm.trans (congrArg _ timed))).trans arming
    · change (service.router.tick curves _).frameIndex =
        (service.router.tick curves _).armStartedFrame + (waited + 1)
      rw [index, armed', timed, armed, Nat.add_assoc]

theorem Service.Follows.answering_round {config : RouterConfig} {service : Service Decoder}
    {waited : Nat} (follows : service.Follows config (.arming waited))
    (ready : service.phoneSource.ready = true) (curves : GainCurves)
    (opus : OpusLibrary Decoder) {room : Room} (answers : room.local_.status ≠ .failed) :
    (service.loop curves opus room).1.At (.onAir 1) := by
  obtain ⟨unannounced, quiet, arming, -⟩ := follows.stage
  have announces : service.announces = true :=
    (Service.announces_iff follows.requested).mpr ⟨unannounced, arming, ready⟩
  have fit := Service.announce_fit follows.fit room.nowUnixMs
  have healthy := Service.surroundings_healthy fit opus answers
  unfold Service.loop
  dsimp only
  revert fit healthy
  unfold Service.announce
  rw [if_pos announces]
  dsimp only
  intro fit healthy
  generalize hold : ({ service with
    router := service.router.notifyPhoneReady
    announcedReady := true } : Service Decoder) = told at fit healthy ⊢
  have drained : told.router.drainEvents =
      AudioRouter.applyEvent { service.router with
        lastHeartbeatFrame := service.router.framesProduced
        events := [] } .phoneReady := by
    rw [← hold]
    unfold AudioRouter.drainEvents AudioRouter.notifyPhoneReady
    dsimp only
    rw [quiet, post_of_room (by decide)]
    rfl
  have active : told.router.drainEvents.state = .phoneActive := by
    rw [drained]
    unfold AudioRouter.state
    rw [AudioRouter.applyEvent_sm]
    exact SourceStateMachine.apply_ready (Or.inl arming)
  have heard : told.router.drainEvents.lastHeartbeatFrame =
      told.router.drainEvents.frameIndex := by
    rw [drained, AudioRouter.applyEvent_lastHeartbeatFrame, AudioRouter.applyEvent_frameIndex]
    exact follows.fit.sound.counted
  have timed : told.router.reading = told.router.drainEvents := by
    rcases AudioRouter.updateTimers_active active (Nat.le_of_eq heard) with ⟨late, -⟩ | ⟨-, same⟩
    · rw [heard, Nat.sub_self] at late
      exact absurd late (Nat.not_lt_zero _)
    · exact same
  obtain ⟨sm, -, heard', index⟩ := AudioRouter.tick_keeps curves healthy
    (by rw [timed, active]; decide)
  refine ⟨by rw [← hold]; rfl, (AudioRouter.tick_quiet curves _ _).1, ?_, ?_⟩
  · exact (congrArg SourceStateMachine.state (sm.trans (congrArg _ timed))).trans active
  · change (told.router.tick curves _).frameIndex =
      (told.router.tick curves _).lastHeartbeatFrame + 1
    rw [index, heard', timed, heard]

theorem Service.Follows.onAir_round {config : RouterConfig} {service : Service Decoder}
    {quiet : Nat} (follows : service.Follows config (.onAir quiet)) (ready : Bool)
    (curves : GainCurves) (opus : OpusLibrary Decoder) {room : Room}
    (answers : room.local_.status ≠ .failed) :
    (service.tick curves opus room).At (Call.stepFor config (.onAir quiet) (.round ready)) := by
  obtain ⟨announced, empty, active, heard⟩ := follows.stage
  have healthy := Service.surroundings_healthy follows.fit opus answers
  have reading : service.router.reading = service.router.updateTimers := by
    unfold AudioRouter.reading
    rw [AudioRouter.drainEvents_of_empty empty]
  have limit := congrArg (fun config => framesFor config.phoneLostTimeoutMs) follows.fit.config
  have events := (AudioRouter.tick_quiet curves service.router
    (service.surroundings opus room)).1
  change Service.At _ (if framesFor config.phoneLostTimeoutMs < quiet then .dropped
    else .onAir (quiet + 1))
  rw [← limit]
  rcases AudioRouter.updateTimers_active active follows.fit.sound.heard with
    ⟨late, lost⟩ | ⟨soon, same⟩
  · rw [if_pos (by rw [heard, Nat.add_sub_cancel_left] at late; exact late)]
    exact ⟨announced, events,
      AudioRouter.tick_home healthy (Or.inl (by rw [reading, lost]))⟩
  · rw [if_neg (by rw [heard, Nat.add_sub_cancel_left] at soon; exact not_lt.mpr soon)]
    have timed := reading.trans same
    obtain ⟨sm, -, heard', index⟩ := AudioRouter.tick_keeps curves healthy
      (by rw [timed, active]; decide)
    refine ⟨announced, events, ?_, ?_⟩
    · exact (congrArg SourceStateMachine.state (sm.trans (congrArg _ timed))).trans active
    · change (service.router.tick curves _).frameIndex =
        (service.router.tick curves _).lastHeartbeatFrame + (quiet + 1)
      rw [index, heard', timed, heard, Nat.add_assoc]

theorem Service.Follows.dropped_round {config : RouterConfig} {service : Service Decoder}
    (follows : service.Follows config .dropped) (curves : GainCurves)
    (opus : OpusLibrary Decoder) {room : Room} (answers : room.local_.status ≠ .failed) :
    (service.tick curves opus room).At .dropped := by
  obtain ⟨announced, empty, home⟩ := follows.stage
  have healthy := Service.surroundings_healthy follows.fit opus answers
  refine ⟨announced, (AudioRouter.tick_quiet curves _ _).1,
    AudioRouter.tick_home healthy ?_⟩
  unfold AudioRouter.reading
  rw [AudioRouter.drainEvents_of_empty empty, AudioRouter.updateTimers_same]
  · exact home
  · rcases home with state | state <;> rw [state] <;> decide
  · rcases home with state | state <;> rw [state] <;> decide
  · rcases home with state | state <;> rw [state] <;> decide

theorem Service.Follows.local_round {config : RouterConfig} {service : Service Decoder}
    (fit : service.Fit config) (unannounced : service.announcedReady = false)
    (timed : service.router.reading.state = .localActive) (curves : GainCurves)
    (opus : OpusLibrary Decoder) {room : Room} (answers : room.local_.status ≠ .failed) :
    (service.tick curves opus room).At .home := by
  have healthy := Service.surroundings_healthy fit opus answers
  obtain ⟨sm, -⟩ := AudioRouter.tick_keeps curves healthy
    (by rw [timed]; decide)
  exact ⟨unannounced, (AudioRouter.tick_quiet curves _ _).1,
    (congrArg SourceStateMachine.state sm).trans timed⟩

/-! ### The call is followed -/

theorem Service.loop_requested (curves : GainCurves) (opus : OpusLibrary Decoder)
    (service : Service Decoder) (room : Room) :
    (service.loop curves opus room).1.pttRequested = service.pttRequested := by
  have kept : (service.announce room.nowUnixMs).1.pttRequested = service.pttRequested := by
    unfold Service.announce
    split <;> rfl
  exact kept

theorem Service.Follows.loop {config : RouterConfig} {service : Service Decoder} {call : Call}
    (follows : service.Follows config call) (curves : GainCurves) (opus : OpusLibrary Decoder)
    {room : Room} (answers : room.local_.status ≠ .failed) :
    (service.loop curves opus room).1.Follows config
      (Call.stepFor config call (.round service.phoneSource.ready)) := by
  have announces := Service.announces_eq_answers follows
  refine ⟨Service.loop_fit follows.fit curves opus room,
    (Service.loop_requested curves opus service room).trans follows.requested, ?_⟩
  cases call with
  | posted =>
      rw [Service.loop_unannounced announces]
      exact follows.posted_round curves opus answers
  | arming waited =>
      cases ready : service.phoneSource.ready with
      | true => exact follows.answering_round ready curves opus answers
      | false =>
          rw [ready] at announces
          rw [Service.loop_unannounced announces]
          exact follows.arming_round curves opus answers
  | onAir quiet =>
      rw [Service.loop_unannounced announces]
      exact follows.onAir_round _ curves opus answers
  | dropped =>
      rw [Service.loop_unannounced announces]
      exact follows.dropped_round curves opus answers
  | expired =>
      obtain ⟨unannounced, empty, recovering, auto⟩ := follows.stage
      rw [Service.loop_unannounced announces]
      apply Service.Follows.local_round follows.fit unannounced _ curves opus answers
      unfold AudioRouter.reading AudioRouter.updateTimers
      rw [AudioRouter.drainEvents_of_empty empty, if_pos recovering,
        AudioRouter.recovered_state recovering, auto]
      rfl
  | home =>
      obtain ⟨unannounced, empty, resting⟩ := follows.stage
      rw [Service.loop_unannounced announces]
      apply Service.Follows.local_round follows.fit unannounced _ curves opus answers
      unfold AudioRouter.reading
      rw [AudioRouter.drainEvents_of_empty empty, AudioRouter.updateTimers_same]
      · exact resting
      · rw [resting]; decide
      · rw [resting]; decide
      · rw [resting]; decide

theorem Service.onMedia_fit {config : RouterConfig} {service : Service Decoder}
    (fit : service.Fit config) (nowMs : BitVec 64) (data : Bytes) :
    (service.onMedia nowMs data).Fit config :=
  { sound := fit.sound.control .notifyPhoneHeartbeat
    config := fit.config
    started := (onMediaPayload_started data nowMs).trans fit.started }

theorem Service.Follows.onMedia {config : RouterConfig} {service : Service Decoder} {call : Call}
    (follows : service.Follows config call) (nowMs : BitVec 64) (data : Bytes) :
    (service.onMedia nowMs data).Follows config (Call.stepFor config call .media) := by
  refine ⟨Service.onMedia_fit follows.fit nowMs data, follows.requested, ?_⟩
  have stage := follows.stage
  cases call with
  | onAir quiet =>
      obtain ⟨announced, empty, active, -⟩ := stage
      exact ⟨announced, empty, active, follows.fit.sound.counted.symm⟩
  | posted => exact stage
  | arming waited => exact stage
  | dropped => exact stage
  | expired => exact stage
  | home => exact stage

/-! ### The call by itself -/

def Call.open_ : Call → Bool
  | .posted | .arming _ => true
  | _ => false

/-- The phone is heard often enough: `quiet` rounds have gone by without media, and no
round finds more than `limit` of them. -/
def CallInput.heard (limit : Nat) : Nat → List CallInput → Prop
  | _, [] => True
  | _, .media :: rest => CallInput.heard limit 0 rest
  | quiet, .round _ :: rest => quiet ≤ limit ∧ CallInput.heard limit (quiet + 1) rest

def CallInput.found : CallInput → Option Bool
  | .media => none
  | .round ready => some ready

section

variable {armLimit lostLimit : Nat}

theorem Call.dropped_stays (actions : List CallInput) :
    Run.final (Call.step armLimit lostLimit) .dropped actions = .dropped := by
  refine Run.invariant_always (fun call : Call => call = .dropped) ?_ .dropped actions rfl
  rintro call action rfl
  cases action <;> rfl

theorem Call.onAir_final (armLimit lostLimit : Nat) (actions : List CallInput) :
    ∀ quiet,
      (CallInput.heard lostLimit quiet actions ∧
        ∃ later, Run.final (Call.step armLimit lostLimit) (.onAir quiet) actions =
          .onAir later) ∨
      (¬ CallInput.heard lostLimit quiet actions ∧
        Run.final (Call.step armLimit lostLimit) (.onAir quiet) actions = .dropped) := by
  induction actions with
  | nil => exact fun quiet => Or.inl ⟨trivial, quiet, rfl⟩
  | cons action rest ih =>
      intro quiet
      cases action with
      | media => exact ih 0
      | round ready =>
          by_cases late : lostLimit < quiet
          · have drops : Call.step armLimit lostLimit (.onAir quiet) (.round ready) =
                .dropped := if_pos late
            refine Or.inr ⟨fun heard => absurd heard.1 (not_le.mpr late), ?_⟩
            rw [Run.final_cons, drops, Call.dropped_stays]
          · have stays : Call.step armLimit lostLimit (.onAir quiet) (.round ready) =
                .onAir (quiet + 1) := if_neg late
            rw [Run.final_cons, stays]
            rcases ih (quiet + 1) with ⟨heard, air⟩ | ⟨unheard, dropped⟩
            · exact Or.inl ⟨⟨not_lt.mp late, heard⟩, air⟩
            · exact Or.inr ⟨fun heard => unheard heard.2, dropped⟩

end

end

end SmartMic.Apps
