import SmartMic.Apps.PressCall

set_option autoImplicit false

/-! The answer to a press, in the runs of the phone and the service together: when the
PTT_READY is sent, when none is and the router goes home instead, and how long the
phone then stays on the air. -/

namespace SmartMic.Apps

open SmartMic.Protocol SmartMic.Session SmartMic.Media SmartMic.Audio

section

variable {Decoder : Type}

/-! ### The whole of phone and service -/

/-- Nothing further is asked of the router: no START_PTT, STOP_PTT or SET_MODE is
handled, and the local source answers. -/
def Duplex.Undisturbed (duplex : Duplex Decoder) : DuplexInput → Prop
  | .atPc index _ _ => ∀ request ∈ duplex.toPc[index]?, request.message.type ≠ .startPtt ∧
      request.message.type ≠ .stopPtt ∧ request.message.type ≠ .setMode
  | .loop _ room => room.local_.status ≠ .failed
  | _ => True

def Duplex.observe (duplex : Duplex Decoder) (input : DuplexInput) : Option CallInput :=
  if duplex.ended then none
  else
    match input with
    | .media _ _ => some .media
    | .loop _ _ => some (.round duplex.service.phoneSource.ready)
    | _ => none

def Duplex.answersPress (duplex : Duplex Decoder) : DuplexInput → Bool
  | .loop _ _ => !duplex.ended && duplex.service.announces
  | _ => false

theorem Service.onControl_unasked {service next : Service Decoder} {localSourceName : Bytes}
    {message : Message} {commands : List Command}
    (unasked : message.type ≠ .startPtt ∧ message.type ≠ .stopPtt ∧ message.type ≠ .setMode)
    (handled : service.onControl localSourceName message = some (next, commands)) :
    next = service := by
  unfold Service.onControl at handled
  split at handled
  · rename_i type
    exact absurd type unasked.1
  · rename_i type
    exact absurd type unasked.2.1
  · rename_i type
    exact absurd type unasked.2.2
  · cases handled
    rfl
  · cases handled
    rfl
  · cases handled
    rfl

theorem Service.onControl_fit {config : RouterConfig} {service next : Service Decoder}
    {localSourceName : Bytes} {message : Message} {commands : List Command}
    (fit : service.Fit config)
    (handled : service.onControl localSourceName message = some (next, commands)) :
    next.Fit config := by
  unfold Service.onControl Service.startPtt Service.stopPtt at handled
  repeat' split at handled
  all_goals cases handled
  · exact fit.control .startPtt true false
  · exact fit.control .stopPtt false service.announcedReady
  · exact fit.control (.setMode _) service.pttRequested service.announcedReady
  · exact fit
  · exact fit
  · exact fit

theorem Service.create_fit (decoder : Decoder) : (Service.create (some decoder)).Fit {} :=
  { sound := AudioRouter.sound_initial {} _
    config := rfl
    started := rfl }

variable {library : JsonLibrary} {curves : GainCurves} {opus : OpusLibrary Decoder}

theorem Duplex.step_service (property : Service Decoder → Prop) {duplex : Duplex Decoder}
    (input : DuplexInput) (before : property duplex.service)
    (handles : ∀ index envelope name request next commands,
      input = .atPc index envelope name → request ∈ duplex.toPc[index]? →
      duplex.service.onControl name request.message = some (next, commands) → property next)
    (hears : ∀ nowMs data, input = .media nowMs data →
      property (duplex.service.onMedia nowMs data))
    (rounds : ∀ envelope room, input = .loop envelope room →
      property (duplex.service.loop curves opus room).1) :
    property (duplex.step library curves opus input).service := by
  unfold Duplex.step
  split
  · exact before
  · cases input with
    | press envelope nowMs =>
        have same : (duplex.onPress envelope nowMs).service = duplex.service := by
          unfold Duplex.onPress
          dsimp only
          split <;> rfl
        change property (duplex.onPress envelope nowMs).service
        rw [same]
        exact before
    | release envelope nowMs => exact before
    | setMode envelope mode => exact before
    | stateChanged state => exact before
    | takeHaptic => exact before
    | workerCheck envelope pings now =>
        have same : (duplex.onWorkerCheck envelope pings now).service = duplex.service := by
          unfold Duplex.onWorkerCheck
          split <;> rfl
        change property (duplex.onWorkerCheck envelope pings now).service
        rw [same]
        exact before
    | atPc index envelope localSourceName =>
        change property (duplex.onRequest index envelope localSourceName).service
        unfold Duplex.onRequest
        split
        · exact before
        · rename_i request found
          split
          · exact before
          · rename_i result handled
            exact handles index envelope localSourceName request result.1 result.2 rfl found
              handled
    | atPhone index nowMs =>
        have same : (duplex.onAnswer library index nowMs).service = duplex.service := by
          unfold Duplex.onAnswer
          split
          · rfl
          · split <;> rfl
        change property (duplex.onAnswer library index nowMs).service
        rw [same]
        exact before
    | media nowMs data => exact hears nowMs data rfl
    | loop envelope room => exact rounds envelope room rfl

theorem Duplex.fit_final (sessionId : Bytes) (decoder : Decoder) (inputs : List DuplexInput) :
    (Run.final (Duplex.step library curves opus) (Duplex.start sessionId (some decoder))
      inputs).service.Fit {} := by
  refine Run.invariant_always (fun duplex : Duplex Decoder => duplex.service.Fit {}) ?_ _ inputs
    (Service.create_fit decoder)
  intro duplex input fit
  apply Duplex.step_service (Service.Fit {}) input fit
  · intro index envelope name request next commands _same _found handled
    exact Service.onControl_fit fit handled
  · intro nowMs data _same
    exact Service.onMedia_fit fit nowMs data
  · intro envelope room _same
    exact Service.loop_fit fit curves opus room

/-- Undisturbed steps of phone and service move the call as its own machine moves. -/
theorem Duplex.simulates_call (library : JsonLibrary) (curves : GainCurves)
    (opus : OpusLibrary Decoder) (config : RouterConfig) :
    Run.Simulates (Duplex.step library curves opus) Duplex.Undisturbed Duplex.observe
      (Call.stepFor config)
      (fun duplex call => duplex.service.Follows config call) where
  moves := by
    intro duplex call input action follows undisturbed seen
    unfold Duplex.observe at seen
    split at seen
    · cases seen
    · rename_i running
      unfold Duplex.step
      rw [if_neg running]
      cases input with
      | media nowMs data =>
          cases seen
          exact follows.onMedia nowMs data
      | loop envelope room =>
          cases seen
          exact follows.loop curves opus undisturbed
      | _ => cases seen
  stutters := by
    intro duplex call input follows undisturbed unseen
    by_cases running : duplex.ended = true
    · unfold Duplex.step
      rw [if_pos running]
      exact follows
    · unfold Duplex.observe at unseen
      rw [if_neg running] at unseen
      apply Duplex.step_service (fun service => service.Follows config call) input follows
      · intro index envelope name request next commands same found handled
        rw [same] at undisturbed
        rw [Service.onControl_unasked (undisturbed request found) handled]
        exact follows
      · intro nowMs data same
        rw [same] at unseen
        cases unseen
      · intro envelope room same
        rw [same] at unseen
        cases unseen

theorem Duplex.answersPress_seen {config : RouterConfig} {duplex : Duplex Decoder} {call : Call}
    (follows : duplex.service.Follows config call) {input : DuplexInput} {action : CallInput}
    (seen : duplex.observe input = some action) :
    duplex.answersPress input = call.answers action := by
  unfold Duplex.observe at seen
  split at seen
  · cases seen
  · rename_i running
    cases input with
    | media nowMs data =>
        cases seen
        rfl
    | loop envelope room =>
        cases seen
        unfold Duplex.answersPress
        rw [Bool.eq_false_iff.mpr running]
        exact Service.announces_eq_answers follows
    | _ => cases seen

theorem Duplex.answersPress_unseen {duplex : Duplex Decoder} {input : DuplexInput}
    (unseen : duplex.observe input = none) : duplex.answersPress input = false := by
  unfold Duplex.observe at unseen
  split at unseen
  · rename_i ended
    cases input with
    | loop envelope room =>
        unfold Duplex.answersPress
        rw [ended]
        rfl
    | _ => rfl
  · cases input with
    | loop envelope room => cases unseen
    | media nowMs data => cases unseen
    | _ => rfl

/-- The router is not arming, and will arm on a START_PTT that is handled now. -/
structure Duplex.TakesPress (duplex : Duplex Decoder) : Prop where
  running : duplex.ended = false
  room : duplex.service.router.events.length < eventCapacity
  unarmed : duplex.service.router.state ≠ .phoneArming
  auto : duplex.service.router.ahead.mode = .auto
  rests : duplex.service.router.ahead.state = .localActive ∨
    duplex.service.router.ahead.state = .returningToLocal

theorem Duplex.TakesPress.posted {duplex : Duplex Decoder} (takes : duplex.TakesPress)
    {config : RouterConfig} (fit : duplex.service.Fit config) {index : Nat} {request : Request}
    (found : duplex.toPc[index]? = some request) (start : request.message.type = .startPtt)
    (envelope : Envelope) (localSourceName : Bytes) :
    (duplex.step library curves opus (.atPc index envelope localSourceName)).service.Follows
      config .posted := by
  have handled : (duplex.step library curves opus
      (.atPc index envelope localSourceName)).service = duplex.service.startPtt.1 := by
    unfold Duplex.step
    rw [if_neg (by rw [takes.running]; exact Bool.noConfusion)]
    unfold Duplex.react Duplex.onRequest Service.onControl
    dsimp only
    rw [found]
    dsimp only
    rw [start]
    rfl
  have unarmed := takes.unarmed
  have auto := takes.auto
  have rests := takes.rests
  unfold AudioRouter.state at unarmed
  unfold AudioRouter.ahead at auto rests
  rw [handled]
  refine ⟨fit.control .startPtt true false, rfl, rfl, ?_, duplex.service.router.events, ?_, ?_⟩
  · simp only [Service.startPtt, AudioRouter.startPtt, AudioRouter.state]
    exact unarmed
  · simp only [Service.startPtt, AudioRouter.startPtt]
    exact post_of_room takes.room _
  · simp only [Service.startPtt, AudioRouter.startPtt, AudioRouter.ahead]
    exact ⟨auto, rests⟩

theorem Duplex.follows_call {config : RouterConfig} {duplex : Duplex Decoder} {call : Call}
    (follows : duplex.service.Follows config call) (inputs : List DuplexInput)
    (undisturbed : Run.Meets (Duplex.step library curves opus) Duplex.Undisturbed duplex
      inputs) :
    (Run.final (Duplex.step library curves opus) duplex inputs).service.Follows config
        (Run.final (Call.stepFor config) call
          (Run.observed (Duplex.step library curves opus) Duplex.observe duplex inputs)) ∧
      Run.marked (Duplex.step library curves opus) Duplex.answersPress duplex inputs =
        Run.marked (Call.stepFor config) Call.answers call
          (Run.observed (Duplex.step library curves opus) Duplex.observe duplex inputs) := by
  have simulates := Duplex.simulates_call library curves opus config
  constructor
  · exact simulates.final inputs duplex call follows undisturbed
  · exact simulates.marked
      (fun _duplex _call _input _action follows _allowed seen =>
        Duplex.answersPress_seen follows seen)
      (fun _duplex _call _input _follows _allowed unseen => Duplex.answersPress_unseen unseen)
      inputs duplex call follows undisturbed

theorem Duplex.answering_step (library : JsonLibrary) (curves : GainCurves)
    (opus : OpusLibrary Decoder) {config : RouterConfig} {duplex : Duplex Decoder} {call : Call}
    (follows : duplex.service.Follows config call) {envelope : Envelope} {room : Room}
    (told : duplex.answersPress (.loop envelope room) = true) :
    (duplex.step library curves opus (.loop envelope room)).toPhone =
        duplex.toPhone ++
          [{ message := envelope.wrap duplex.sessionId (pttReadyCommand room.nowUnixMs)
             handled := duplex.handled }] ∧
      ∃ waited, call = .arming waited ∧ duplex.service.phoneSource.ready = true ∧
        duplex.ended = false := by
  unfold Duplex.answersPress at told
  rw [Bool.and_eq_true, Bool.not_eq_true'] at told
  obtain ⟨running, announces⟩ := told
  constructor
  · unfold Duplex.step
    rw [if_neg (by rw [running]; exact Bool.noConfusion)]
    unfold Duplex.react Duplex.fromService Service.loop Service.announce
    dsimp only
    rw [if_pos announces]
    rfl
  · obtain ⟨-, -, ready⟩ := (Service.announces_iff follows.requested).mp announces
    rw [Service.announces_eq_answers follows] at announces
    cases call with
    | arming waited => exact ⟨waited, rfl, ready, running⟩
    | _ => cases announces

/-- The round that tells the phone sends it a PTT_READY that makes it LIVE if its button
is still down. From then on the router is on the phone exactly as long as no round
finds the phone quiet for more than 30 frames. -/
theorem told_phone_on_air (library : JsonLibrary) (curves : GainCurves)
    (opus : OpusLibrary Decoder) (sessionId : Bytes) (decoder : Decoder)
    (before first rest : List DuplexInput) (index : Nat) (envelope answering : Envelope)
    (localSourceName : Bytes) (request : Request) (room : Room)
    (met handled waiting told : Duplex Decoder)
    (reached : met = Run.final (Duplex.step library curves opus)
      (Duplex.start sessionId (some decoder)) before)
    (found : met.toPc[index]? = some request) (start : request.message.type = .startPtt)
    (takes : met.TakesPress)
    (next : handled = met.step library curves opus (.atPc index envelope localSourceName))
    (waits : waiting = Run.final (Duplex.step library curves opus) handled first)
    (tells : waiting.answersPress (.loop answering room) = true)
    (after : told = waiting.step library curves opus (.loop answering room))
    (undisturbed : Run.Meets (Duplex.step library curves opus) Duplex.Undisturbed handled
      (first ++ .loop answering room :: rest)) :
    (∃ answer, told.toPhone = waiting.toPhone ++ [answer] ∧
        ∀ (phone : PhoneState) (nowMs : BitVec 64), phone.pressed = true →
          ∃ live, phone.onControl library nowMs answer.message = some live ∧
            live.pttState = .live ∧ live.haptic = .wentLive) ∧
      ((Run.final (Duplex.step library curves opus) told rest).service.router.state =
          .phoneActive ↔
        CallInput.heard 30 1
          (Run.observed (Duplex.step library curves opus) Duplex.observe told rest)) := by
  have fit : met.service.Fit {} := by
    rw [reached]
    exact Duplex.fit_final sessionId decoder before
  have posted : handled.service.Follows {} .posted := by
    rw [next]
    exact takes.posted fit found start envelope localSourceName
  obtain ⟨early, later⟩ := (Run.meets_append _ _ _ _ _).mp undisturbed
  rw [← waits] at later
  obtain ⟨follows, -⟩ := Duplex.follows_call posted first early
  rw [← waits] at follows
  obtain ⟨sent, waited, arming, ready, running⟩ :=
    Duplex.answering_step library curves opus follows tells
  rw [← after] at sent
  have air : told.service.Follows {} (.onAir 1) := by
    rw [arming] at follows
    have looped := follows.loop curves opus later.1
    rw [ready] at looped
    rw [after]
    unfold Duplex.step
    rw [if_neg (by rw [running]; exact Bool.noConfusion)]
    exact looped
  constructor
  · refine ⟨_, sent, fun phone nowMs pressed => ⟨_, rfl, ?_⟩⟩
    unfold PhoneState.onPttReady
    rw [if_pos pressed]
    exact ⟨rfl, rfl⟩
  · have undisturbed := later.2
    rw [← after] at undisturbed
    obtain ⟨follows, -⟩ := Duplex.follows_call air rest undisturbed
    have stage := follows.stage
    have limit : framesFor 600#32 = 30 := by decide
    have ends := Call.onAir_final (framesFor 1500#32) (framesFor 600#32)
      (Run.observed (Duplex.step library curves opus) Duplex.observe told rest) 1
    rw [limit] at ends
    rcases ends with ⟨heard, quiet, same⟩ | ⟨unheard, same⟩
    · refine iff_of_true ?_ heard
      rw [Call.stepFor, limit, same] at stage
      exact stage.2.2.1
    · refine iff_of_false ?_ unheard
      rw [Call.stepFor, limit, same] at stage
      intro active
      rcases stage.2.2 with other | other <;> rw [other] at active <;> cases active

end

/-! ### A press that is answered -/

theorem silentRoom_undisturbed {Decoder : Type} (duplex : Duplex Decoder) (envelope : Envelope) :
    duplex.Undisturbed (.loop envelope silentRoom) := by
  change silentRoom.local_.status ≠ .failed
  decide

def pressInFlight : Duplex Unit :=
  Run.final (Duplex.step StandIn.json linearCurves silentOpus) (Duplex.start [] (some ()))
    (armedPress.take 2)

def pressHandled : Duplex Unit :=
  pressInFlight.step StandIn.json linearCurves silentOpus (.atPc 0 plainEnvelope [])

def pressWaiting : Duplex Unit :=
  Run.final (Duplex.step StandIn.json linearCurves silentOpus) pressHandled
    ((armedPress.drop 3).take 3)

def startRequest : Request :=
  { message := plainEnvelope.wrap [] { type := .startPtt, payload := .object [] }, press := 1 }

theorem pressInFlight_found : pressInFlight.toPc[0]? = some startRequest := rfl

theorem pressInFlight_takes : pressInFlight.TakesPress :=
  { running := by decide +kernel
    room := by decide +kernel
    unarmed := by decide +kernel
    auto := by decide +kernel
    rests := by decide +kernel }

theorem told_phone_on_air_first :
    (Run.final (Duplex.step StandIn.json linearCurves silentOpus)
      (pressWaiting.step StandIn.json linearCurves silentOpus (.loop plainEnvelope silentRoom))
      [.loop plainEnvelope silentRoom,
        .media 1050#64 (mediaPayload false 9#32)]).service.router.state = .phoneActive := by
  refine (told_phone_on_air StandIn.json linearCurves silentOpus [] () (armedPress.take 2)
    ((armedPress.drop 3).take 3)
    [.loop plainEnvelope silentRoom, .media 1050#64 (mediaPayload false 9#32)] 0 plainEnvelope
    plainEnvelope [] startRequest silentRoom pressInFlight pressHandled pressWaiting _ rfl
    pressInFlight_found rfl pressInFlight_takes rfl rfl (by decide +kernel) rfl
    ⟨silentRoom_undisturbed _ _, trivial, trivial, silentRoom_undisturbed _ _,
      silentRoom_undisturbed _ _, trivial, trivial⟩).2.mpr ?_
  exact ⟨by decide, trivial⟩

end SmartMic.Apps
