import SmartMic.Apps.Duplex

set_option autoImplicit false

/-! Whether LIVE on the phone means that the router is on the phone. With control
messages that arrive in order, the display runs behind what the service has told it;
the router is where the service says only as long as it leaves PHONE_ACTIVE in no
other way than by a STOP_PTT. -/

namespace SmartMic.Audio

/-! ### The state the posted events lead to -/

theorem post_of_room {events : List Event} (room : events.length < eventCapacity) (event : Event) :
    post events event = events ++ [event] := by
  unfold post
  rw [Nat.sub_eq_zero_of_le (Nat.succ_le_of_lt room), List.drop_zero]

theorem AudioRouter.ahead_post {router : AudioRouter}
    (room : router.events.length < eventCapacity) (event : Event) (lastHeartbeatFrame : Nat) :
    AudioRouter.ahead { router with
      events := post router.events event
      lastHeartbeatFrame := lastHeartbeatFrame } =
        (router.ahead.apply event).1 := by
  unfold AudioRouter.ahead
  dsimp only
  rw [post_of_room room, List.foldl_append, List.foldl_cons, List.foldl_nil]

/-- The watchdog's condition in `updateTimers`, apart from the state. -/
def AudioRouter.watchdogDue (router : AudioRouter) : Bool :=
  decide (router.lastHeartbeatFrame < router.frameIndex) &&
    decide (framesFor router.config.phoneLostTimeoutMs <
      framesSince router.lastHeartbeatFrame router.frameIndex)

/-- A tick that is on the phone once the events are applied finds no watchdog due and no
source that fails. -/
def AudioRouter.holds (router : AudioRouter) (around : Surroundings) : Prop :=
  router.drainEvents.state = .phoneActive →
    router.drainEvents.watchdogDue = false ∧
      router.drainEvents.localFails around = false ∧
      router.drainEvents.phoneFails around = false

theorem AudioRouter.holds_tick {router : AudioRouter} {around : Surroundings}
    (holds : router.holds around) (active : router.ahead.state = .phoneActive)
    (curves : GainCurves) : (router.tick curves around).ahead.state = .phoneActive := by
  have drained : router.drainEvents.state = .phoneActive := by
    unfold AudioRouter.state
    rw [AudioRouter.drainEvents_sm]
    exact active
  obtain ⟨watch, local_, phone⟩ := holds drained
  have timers : router.drainEvents.updateTimers = router.drainEvents := by
    unfold AudioRouter.updateTimers
    rw [drained, if_neg SourceState.noConfusion,
      if_neg (fun arming => SourceState.noConfusion arming.1), if_neg]
    rintro ⟨-, late, due⟩
    unfold AudioRouter.watchdogDue at watch
    rw [decide_eq_true late, decide_eq_true due] at watch
    cases watch
  have ready : (router.ready around).state = .phoneActive := by
    unfold AudioRouter.ready
    rw [timers]
    rcases router.drainEvents.readSources_cases around with
      ⟨localBuf, phoneBuf, read⟩ | ⟨-, fails⟩
    · rw [read]
      exact drained
    · rw [local_, phone] at fails
      rcases fails with fails | fails <;> cases fails
  have ticked : (router.tick curves around).state = .phoneActive := by
    obtain ⟨written, mixed, closes⟩ := AudioRouter.tick_cases curves router around
    have written := mixed.state.trans ready
    rcases closes with ⟨same, -⟩ | ⟨-, returning⟩
    · rw [same]
      exact written
    · rw [written] at returning
      cases returning
  unfold AudioRouter.ahead
  rw [(AudioRouter.tick_quiet curves router around).1]
  exact ticked

theorem SourceStateMachine.apply_active {machine : SourceStateMachine}
    (active : machine.state = .phoneActive) :
    (machine.apply .startPtt).1.state = .phoneActive := by
  obtain ⟨state, mode⟩ := machine
  cases active
  cases mode <;> rfl

theorem SourceStateMachine.apply_ready {machine : SourceStateMachine}
    (near : machine.state = .phoneArming ∨ machine.state = .phoneActive) :
    (machine.apply .phoneReady).1.state = .phoneActive := by
  obtain ⟨state, mode⟩ := machine
  rcases near with arming | active
  · cases arming
    rfl
  · cases active
    rfl

theorem SourceStateMachine.active_from {machine : SourceStateMachine} {event : Event}
    (other : event ≠ .phoneReady) (active : (machine.apply event).1.state = .phoneActive) :
    machine.state = .phoneActive := by
  obtain ⟨state, mode⟩ := machine
  cases event with
  | phoneReady => exact absurd rfl other
  | modeAuto => cases active
  | modePhoneOnly => cases active
  | modeLocalOnly => cases active
  | modeMute => cases active
  | sourceFailure => cases active
  | startPtt => cases mode <;> cases state <;> first | rfl | cases active
  | stopPtt => cases mode <;> cases state <;> first | rfl | cases active
  | phoneLost => cases state <;> first | rfl | cases active
  | armTimeout => cases state <;> first | rfl | cases active
  | fadeComplete => cases state <;> first | rfl | cases active
  | recovered => cases mode <;> cases state <;> first | rfl | cases active

theorem AudioRouter.active_from {router : AudioRouter} {event : Event}
    (other : event ≠ .phoneReady) (active : (router.applyEvent event).state = .phoneActive) :
    router.state = .phoneActive := by
  unfold AudioRouter.state at active ⊢
  rw [AudioRouter.applyEvent_sm] at active
  exact SourceStateMachine.active_from other active

theorem AudioRouter.tick_active {router : AudioRouter} {curves : GainCurves}
    {around : Surroundings} (active : (router.tick curves around).state = .phoneActive) :
    router.ahead.state = .phoneActive := by
  have ready : (router.ready around).state = .phoneActive := by
    obtain ⟨written, mixed, closes⟩ := AudioRouter.tick_cases curves router around
    rw [← mixed.state]
    rcases closes with ⟨same, -⟩ | ⟨closed, -⟩
    · rw [same] at active
      exact active
    · rw [closed] at active
      exact AudioRouter.active_from Event.noConfusion active
  have timed : router.drainEvents.updateTimers.state = .phoneActive := by
    unfold AudioRouter.ready at ready
    rcases router.drainEvents.updateTimers.readSources_cases around with
      ⟨localBuf, phoneBuf, read⟩ | ⟨failed, -⟩
    · rw [read] at ready
      exact ready
    · rw [failed] at ready
      cases ready
  rw [← AudioRouter.drainEvents_sm]
  unfold AudioRouter.updateTimers at timed
  split at timed
  · exact AudioRouter.active_from Event.noConfusion timed
  · split at timed
    · have arming := AudioRouter.active_from Event.noConfusion timed
      exact arming
    · split at timed
      · have watched := AudioRouter.active_from Event.noConfusion timed
        exact watched
      · exact timed

end SmartMic.Audio

namespace SmartMic.Apps

open SmartMic.Protocol SmartMic.Session SmartMic.Media SmartMic.Audio

/-! ### What the phone has been told -/

/-- What a message does to LIVE on a phone whose button is down. -/
def tells (live : Bool) (answer : Answer) : Bool :=
  match answer.message.type with
  | .pttReady => true
  | .pttStopped => false
  | _ => live

section

variable {Decoder : Type}

/-- LIVE on the phone once everything in flight has arrived, if the button stays down. -/
def Duplex.toldLive (duplex : Duplex Decoder) : Bool :=
  duplex.toPhone.foldl tells (decide (duplex.phone.pttState = .live))

/-- Control messages are handled in the order they were sent. -/
def Duplex.InOrder (_duplex : Duplex Decoder) : DuplexInput → Prop
  | .atPc index _ _ => index = 0
  | .atPhone index _ => index = 0
  | _ => True

/-- While the phone has been told LIVE, no SET_MODE is handled, the event ring has room
for a START_PTT, and no tick takes the phone off the air. PTT_READY is announced only
where the posted events lead to arming or to the air. -/
def Duplex.Steady (opus : OpusLibrary Decoder) (duplex : Duplex Decoder) : DuplexInput → Prop
  | .atPc index _ _ =>
      duplex.toldLive = true → ∀ request ∈ duplex.toPc[index]?,
        request.message.type ≠ .setMode ∧
          (request.message.type = .startPtt →
            duplex.service.router.events.length < eventCapacity)
  | .loop _ room =>
      (duplex.service.announces = true →
        duplex.service.router.events.length < eventCapacity ∧
          (duplex.service.router.ahead.state = .phoneArming ∨
            duplex.service.router.ahead.state = .phoneActive)) ∧
      (duplex.toldLive = true ∨ duplex.service.announces = true →
        (duplex.service.announce room.nowUnixMs).1.router.holds
          ((duplex.service.announce room.nowUnixMs).1.surroundings opus room))
  | _ => True

def Duplex.Quiet (duplex : Duplex Decoder) : Prop :=
  duplex.toPc = [] ∧ duplex.toPhone = [] ∧ duplex.service.router.events = []

/-- When all is quiet, a LIVE phone is on the air. -/
def Duplex.DisplayAgrees (duplex : Duplex Decoder) : Prop :=
  duplex.Quiet → duplex.phone.pttState = .live → duplex.service.router.state = .phoneActive

/-- Whoever has been told LIVE is on the air once the posted events are applied. -/
def Duplex.Told (duplex : Duplex Decoder) : Prop :=
  duplex.toldLive = true → duplex.service.router.ahead.state = .phoneActive

theorem Duplex.Told.displayAgrees {duplex : Duplex Decoder} (told : duplex.Told) :
    duplex.DisplayAgrees := by
  rintro ⟨-, arrived, applied⟩ live
  unfold Duplex.Told Duplex.toldLive at told
  rw [arrived] at told
  have active := told (decide_eq_true live)
  unfold AudioRouter.ahead at active
  rw [applied] at active
  exact active

/-- What is told depends on the display before it in one direction. -/
theorem tells_mono {answers : List Answer} {live live' : Bool} (less : live' = true → live = true)
    (told : answers.foldl tells live' = true) : answers.foldl tells live = true := by
  induction answers generalizing live live' with
  | nil => exact less told
  | cons answer rest ih =>
      rw [List.foldl_cons] at told ⊢
      apply ih _ told
      unfold tells
      split
      · exact fun _ => rfl
      · exact id
      · exact less

variable {library : JsonLibrary} {curves : GainCurves} {opus : OpusLibrary Decoder}
  {duplex : Duplex Decoder}

theorem Duplex.Told.phone (told : duplex.Told) {next : Duplex Decoder}
    (service : next.service = duplex.service) (toPhone : next.toPhone = duplex.toPhone)
    (less : next.phone.pttState = .live → duplex.phone.pttState = .live) : next.Told := by
  intro live
  unfold Duplex.toldLive at live
  rw [toPhone] at live
  rw [service]
  apply told
  apply tells_mono _ live
  intro lived
  exact decide_eq_true (less (of_decide_eq_true lived))

theorem Duplex.Told.service (told : duplex.Told) {envelope : Envelope}
    {result : Service Decoder × List Command}
    (silent : ∀ command ∈ result.2, command.type ≠ .pttReady ∧ command.type ≠ .pttStopped)
    (stays : duplex.toldLive = true → duplex.service.router.ahead.state = .phoneActive →
      result.1.router.ahead.state = .phoneActive) :
    (duplex.fromService envelope result).Told := by
  have same : ∀ (commands : List Command) (live : Bool),
      (∀ command ∈ commands, command.type ≠ .pttReady ∧ command.type ≠ .pttStopped) →
      (commands.map fun command => ({ message := envelope.wrap duplex.sessionId command
                                      handled := duplex.handled } : Answer)).foldl tells live =
        live := by
    intro commands
    induction commands with
    | nil => exact fun _live _silent => rfl
    | cons command rest ih =>
        intro live silent
        obtain ⟨ready, stopped⟩ := silent command List.mem_cons_self
        rw [List.map_cons, List.foldl_cons, ih _
          (fun other member => silent other (List.mem_cons_of_mem _ member))]
        unfold tells
        split
        · rename_i type
          exact absurd type ready
        · rename_i type
          exact absurd type stopped
        · rfl
  intro live
  unfold Duplex.toldLive Duplex.fromService at live
  dsimp only at live
  rw [List.foldl_append, same _ _ silent] at live
  exact stays live (told live)

theorem Duplex.Told.onRequest (told : duplex.Told) (envelope : Envelope)
    (localSourceName : Bytes) {index : Nat} {request : Request}
    (found : duplex.toPc[index]? = some request)
    (steady : duplex.toldLive = true → request.message.type ≠ .setMode ∧
      (request.message.type = .startPtt →
        duplex.service.router.events.length < eventCapacity)) :
    (duplex.onRequest index envelope localSourceName).Told := by
  unfold Duplex.onRequest
  rw [found]
  dsimp only
  cases handled : duplex.service.onControl localSourceName request.message with
  | none => exact told
  | some result =>
      obtain ⟨next, commands⟩ := result
      dsimp only
      have kept : Duplex.Told { duplex with
          toPc := duplex.toPc.eraseIdx index
          handled :=
            if request.message.type = .startPtt then request.press :: duplex.handled
            else duplex.handled } := told
      have silently : (∀ command ∈ commands,
            command.type ≠ .pttReady ∧ command.type ≠ .pttStopped) →
          (duplex.toldLive = true → duplex.service.router.ahead.state = .phoneActive →
            next.router.ahead.state = .phoneActive) →
          Duplex.Told (Duplex.fromService { duplex with
            toPc := duplex.toPc.eraseIdx index
            handled :=
              if request.message.type = .startPtt then request.press :: duplex.handled
              else duplex.handled } envelope (next, commands)) :=
        fun silent stays => kept.service silent stays
      unfold Service.onControl at handled
      split at handled
      · rename_i type
        cases handled
        apply silently
        · intro command sent
          rw [List.mem_singleton.mp sent]
          exact ⟨MsgType.noConfusion, MsgType.noConfusion⟩
        · intro live active
          have room := (steady live).2 type
          change (AudioRouter.ahead duplex.service.router.startPtt).state = .phoneActive
          unfold AudioRouter.startPtt
          rw [AudioRouter.ahead_post room]
          exact SourceStateMachine.apply_active active
      · -- the answer to a STOP_PTT ends what the phone has been told
        cases handled
        intro live
        unfold Duplex.toldLive Duplex.fromService at live
        dsimp only at live
        rw [List.foldl_append] at live
        cases live
      · rename_i type
        split at handled
        · split at handled
          · cases handled
            apply silently
            · exact fun _command member => absurd member List.not_mem_nil
            · exact fun live => absurd type (steady live).1
          · cases handled
        · cases handled
      · cases handled
        apply silently
        · intro command sent
          rw [List.mem_singleton.mp sent]
          exact ⟨MsgType.noConfusion, MsgType.noConfusion⟩
        · exact fun _live active => active
      · cases handled
        apply silently
        · intro command sent
          rw [List.mem_singleton.mp sent]
          exact ⟨MsgType.noConfusion, MsgType.noConfusion⟩
        · exact fun _live active => active
      · cases handled
        apply silently
        · exact fun _command member => absurd member List.not_mem_nil
        · exact fun _live active => active

theorem Duplex.Told.onAnswer (told : duplex.Told) (nowMs : BitVec 64) :
    (duplex.onAnswer library 0 nowMs).Told := by
  unfold Duplex.onAnswer
  cases waiting : duplex.toPhone with
  | nil => exact told
  | cons answer rest =>
      rw [List.getElem?_cons_zero]
      dsimp only
      cases handled : duplex.phone.onControl library nowMs answer.message with
      | none =>
          rw [← waiting]
          exact told
      | some next =>
          intro live
          apply told
          unfold Duplex.toldLive at live ⊢
          rw [waiting, List.foldl_cons]
          change rest.foldl tells (decide (next.pttState = .live)) = true at live
          apply tells_mono _ live
          intro lived
          unfold tells
          rcases PhoneState.onControl_live handled (of_decide_eq_true lived) with
            ready | ⟨before, unstopped⟩
          · rw [ready]
          · split
            · rfl
            · rename_i stopped
              exact absurd stopped unstopped
            · exact decide_eq_true before

theorem Duplex.Told.loop (told : duplex.Told) (envelope : Envelope) {room : Room}
    (announcing : duplex.service.announces = true →
      duplex.service.router.events.length < eventCapacity ∧
        (duplex.service.router.ahead.state = .phoneArming ∨
          duplex.service.router.ahead.state = .phoneActive))
    (holds : duplex.toldLive = true ∨ duplex.service.announces = true →
      (duplex.service.announce room.nowUnixMs).1.router.holds
        ((duplex.service.announce room.nowUnixMs).1.surroundings opus room)) :
    (duplex.fromService envelope (duplex.service.loop curves opus room)).Told := by
  -- whoever is told LIVE by the end of the round is on the air when it ticks
  have ticked : duplex.toldLive = true ∨ duplex.service.announces = true →
      (duplex.service.announce room.nowUnixMs).1.router.ahead.state = .phoneActive →
      (duplex.service.loop curves opus room).1.router.ahead.state = .phoneActive := by
    intro live active
    unfold Service.loop Service.tick
    exact AudioRouter.holds_tick (holds live) active curves
  by_cases announces : duplex.service.announces = true
  · intro _live
    obtain ⟨space, near⟩ := announcing announces
    apply ticked (Or.inr announces)
    unfold Service.announce
    rw [if_pos announces]
    unfold AudioRouter.notifyPhoneReady
    dsimp only
    rw [AudioRouter.ahead_post space]
    exact SourceStateMachine.apply_ready near
  · have quiet : duplex.service.announce room.nowUnixMs = (duplex.service, []) := by
      unfold Service.announce
      rw [if_neg announces]
    rw [quiet] at ticked
    apply told.service
    · unfold Service.loop
      rw [quiet]
      exact fun _command member => absurd member List.not_mem_nil
    · exact fun live => ticked (Or.inl live)

theorem Duplex.Told.step (told : duplex.Told) {input : DuplexInput}
    (inOrder : duplex.InOrder input) (steady : duplex.Steady opus input) :
    (duplex.step library curves opus input).Told := by
  unfold Duplex.step
  split
  · exact told
  · cases input with
    | press envelope nowMs =>
        change (duplex.onPress envelope nowMs).Told
        unfold Duplex.onPress
        dsimp only
        split
        · exact told.phone rfl rfl PhoneState.press_live
        · exact told.phone rfl rfl PhoneState.press_live
    | release envelope nowMs =>
        exact told.phone rfl rfl
          (fun live => absurd live (PhoneState.release_not_live duplex.phone nowMs))
    | setMode envelope mode => exact told.phone rfl rfl id
    | stateChanged state =>
        change Duplex.Told { duplex with phone := duplex.phone.onStateChanged state }
        refine Duplex.Told.phone told rfl rfl ?_
        intro live
        dsimp only at live
        rw [PhoneState.onStateChanged_pttState] at live
        exact live
    | takeHaptic => exact told.phone rfl rfl id
    | workerCheck envelope pings now =>
        change (duplex.onWorkerCheck envelope pings now).Told
        unfold Duplex.onWorkerCheck
        split
        · exact told
        · refine Duplex.Told.phone told rfl rfl ?_
          intro live
          have found := PhoneState.checks_live live
          split at found <;> exact found
    | atPc index envelope localSourceName =>
        cases found : duplex.toPc[index]? with
        | none =>
            change (duplex.onRequest index envelope localSourceName).Told
            unfold Duplex.onRequest
            rw [found]
            exact told
        | some request =>
            exact told.onRequest envelope localSourceName found
              (fun live => steady live request found)
    | atPhone index nowMs =>
        change index = 0 at inOrder
        subst inOrder
        exact told.onAnswer nowMs
    | media nowMs data =>
        intro live
        change duplex.toldLive = true at live
        exact told live
    | loop envelope room =>
        obtain ⟨announcing, holds⟩ := steady
        exact told.loop envelope announcing holds

/-- A round that announces nothing leaves no event posted, and is on the phone only if
the events posted before it led there. -/
theorem Duplex.loop_active (library : JsonLibrary) (curves : GainCurves)
    (opus : OpusLibrary Decoder) (envelope : Envelope) (room : Room)
    (running : duplex.ended = false) (silent : duplex.service.announces = false) :
    let next := duplex.step library curves opus (.loop envelope room)
    next.service.router.events = [] ∧
      (next.service.router.state = .phoneActive →
        duplex.service.router.ahead.state = .phoneActive) := by
  intro next
  have ticked : next.service.router = duplex.service.router.tick curves
      (duplex.service.surroundings opus room) := by
    change (Duplex.step library curves opus duplex (.loop envelope room)).service.router = _
    unfold Duplex.step
    rw [if_neg (by rw [running]; exact Bool.noConfusion)]
    change (duplex.service.loop curves opus room).1.router = _
    unfold Service.loop Service.announce
    rw [if_neg (by rw [silent]; exact Bool.noConfusion)]
    rfl
  rw [ticked]
  exact ⟨(AudioRouter.tick_quiet curves _ _).1, AudioRouter.tick_active⟩

/-- In every run with reliable delivery in order in which the router leaves the phone by
a STOP_PTT only, a LIVE phone is on the air whenever all is quiet. -/
theorem live_display_agrees (library : JsonLibrary) (curves : GainCurves)
    (opus : OpusLibrary Decoder) (sessionId : Bytes) (decoder : Option Decoder)
    (inputs : List DuplexInput)
    (inOrder : Run.Meets (Duplex.step library curves opus) Duplex.InOrder
      (Duplex.start sessionId decoder) inputs)
    (steady : Run.Meets (Duplex.step library curves opus) (Duplex.Steady opus)
      (Duplex.start sessionId decoder) inputs) :
    (Run.final (Duplex.step library curves opus) (Duplex.start sessionId decoder)
      inputs).DisplayAgrees := by
  have told : (Duplex.start sessionId decoder).Told := fun impossible => by cases impossible
  have meets := Run.meets_and.mpr ⟨inOrder, steady⟩
  exact (Run.invariant_final Duplex.Told
    (fun _duplex _input told allowed => told.step allowed.1 allowed.2) inputs _ told
    meets).displayAgrees

end

/-! ### Two concrete runs -/

instance (router : AudioRouter) (around : Surroundings) : Decidable (router.holds around) :=
  inferInstanceAs (Decidable (_ → _))

instance {Decoder : Type} (duplex : Duplex Decoder) :
    (input : DuplexInput) → Decidable (duplex.InOrder input)
  | .atPc index _ _ => inferInstanceAs (Decidable (index = 0))
  | .atPhone index _ => inferInstanceAs (Decidable (index = 0))
  | .press _ _ => inferInstanceAs (Decidable True)
  | .release _ _ => inferInstanceAs (Decidable True)
  | .setMode _ _ => inferInstanceAs (Decidable True)
  | .stateChanged _ => inferInstanceAs (Decidable True)
  | .takeHaptic => inferInstanceAs (Decidable True)
  | .workerCheck _ _ _ => inferInstanceAs (Decidable True)
  | .media _ _ => inferInstanceAs (Decidable True)
  | .loop _ _ => inferInstanceAs (Decidable True)

instance {Decoder : Type} (opus : OpusLibrary Decoder) (duplex : Duplex Decoder) :
    (input : DuplexInput) → Decidable (duplex.Steady opus input)
  | .atPc index _ _ =>
      inferInstanceAs (Decidable (_ → ∀ request ∈ duplex.toPc[index]?, _))
  | .loop _ _ => inferInstanceAs (Decidable (_ ∧ _))
  | .atPhone _ _ => inferInstanceAs (Decidable True)
  | .press _ _ => inferInstanceAs (Decidable True)
  | .release _ _ => inferInstanceAs (Decidable True)
  | .setMode _ _ => inferInstanceAs (Decidable True)
  | .stateChanged _ => inferInstanceAs (Decidable True)
  | .takeHaptic => inferInstanceAs (Decidable True)
  | .workerCheck _ _ _ => inferInstanceAs (Decidable True)
  | .media _ _ => inferInstanceAs (Decidable True)

def livePress : List DuplexInput := armedPress ++ [.atPhone 0 1040#64, .atPhone 0 1050#64]

theorem live_display_agrees_first :
    (Run.final (Duplex.step StandIn.json linearCurves silentOpus) (Duplex.start [] (some ()))
      livePress).DisplayAgrees := by
  apply live_display_agrees
  · decide +kernel
  · decide +kernel

def localOnlyPicked : List DuplexInput :=
  livePress ++ [.setMode plainEnvelope 2, .atPc 0 plainEnvelope []]

/-- The router leaves the phone, nobody tells it. -/
theorem live_display_after_mode_change :
    let inputs := localOnlyPicked ++ [.loop plainEnvelope silentRoom]
    Run.Meets (Duplex.step StandIn.json linearCurves silentOpus) Duplex.InOrder
        (Duplex.start [] (some ())) inputs ∧
      ¬ (Run.final (Duplex.step StandIn.json linearCurves silentOpus) (Duplex.start [] (some ()))
        inputs).DisplayAgrees := by
  intro inputs
  refine ⟨by decide +kernel, ?_⟩
  intro agrees
  let picked := Run.final (Duplex.step StandIn.json linearCurves silentOpus)
    (Duplex.start [] (some ())) localOnlyPicked
  have leaves : picked.service.router.ahead.state = .localOnly := by decide +kernel
  have running : picked.ended = false := by decide +kernel
  have silent : picked.service.announces = false := by decide +kernel
  have last : Run.final (Duplex.step StandIn.json linearCurves silentOpus)
      (Duplex.start [] (some ())) inputs =
        picked.step StandIn.json linearCurves silentOpus (.loop plainEnvelope silentRoom) :=
    Run.final_snoc _ _ _ _
  obtain ⟨applied, before⟩ := Duplex.loop_active StandIn.json linearCurves silentOpus
    plainEnvelope silentRoom running silent
  rw [← last] at applied before
  have onAir := agrees ⟨List.isEmpty_iff.mp (by decide +kernel),
    List.isEmpty_iff.mp (by decide +kernel), applied⟩ (by decide +kernel)
  have found := before onAir
  rw [leaves] at found
  cases found

end SmartMic.Apps
