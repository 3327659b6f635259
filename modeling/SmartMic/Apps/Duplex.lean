import SmartMic.Apps.Service
import SmartMic.Media.JitterRecovery
import SmartMic.Session.StandIn

set_option autoImplicit false

/-! The phone and the service with the control messages between them. A message that
is sent waits in flight until the other end handles it; which one is handled next is
part of the run, and a message may wait for ever. The sessions underneath appear only
as the envelopes they put around a command.

Every press has a number. A START_PTT carries its own, and an answer carries those
that the service had handled when it was sent; no code reads them. -/

namespace SmartMic.Apps

open SmartMic.Protocol SmartMic.Session SmartMic.Media SmartMic.Audio

/-- What the sender's session adds to a command. -/
structure Envelope where
  stamp : Stamp
  deviceId : Bytes
  seq : BitVec 64

def Envelope.wrap (envelope : Envelope) (sessionId : Bytes) (command : Command) : Message :=
  Message.make envelope.stamp command.type sessionId envelope.deviceId envelope.seq
    command.payload

/-- A message on its way to the PC, with the number of the press it was sent in. -/
structure Request where
  message : Message
  press : Nat

/-- A message on its way to the phone, with the presses handled before it was sent. -/
structure Answer where
  message : Message
  handled : List Nat

structure Duplex (Decoder : Type) where
  phone : PhoneState
  service : Service Decoder
  sessionId : Bytes
  toPc : List Request
  toPhone : List Answer
  /-- The number of the most recent press. -/
  press : Nat
  /-- The presses whose START_PTT the service has handled. -/
  handled : List Nat
  /-- An exception has ended one of the two processes. -/
  ended : Bool

inductive DuplexInput where
  | press (envelope : Envelope) (nowMs : BitVec 64)
  | release (envelope : Envelope) (nowMs : BitVec 64)
  | setMode (envelope : Envelope) (mode : Int)
  | stateChanged (state : SessionState)
  | takeHaptic
  | workerCheck (envelope : Envelope) (pings : Bool) (now : BitVec 64)
  | atPc (index : Nat) (envelope : Envelope) (localSourceName : Bytes)
  | atPhone (index : Nat) (nowMs : BitVec 64)
  | media (nowMs : BitVec 64) (data : Bytes)
  | loop (envelope : Envelope) (room : Room)

section

variable {Decoder : Type}

def Duplex.start (sessionId : Bytes) (decoder : Option Decoder) : Duplex Decoder :=
  { phone := PhoneState.initial
    service := Service.create decoder
    sessionId := sessionId
    toPc := []
    toPhone := []
    press := 0
    handled := []
    ended := false }

def Duplex.fromPhone (duplex : Duplex Decoder) (envelope : Envelope)
    (result : PhoneState × List Command) : Duplex Decoder :=
  { duplex with
    phone := result.1
    toPc := duplex.toPc ++ result.2.map fun command =>
      { message := envelope.wrap duplex.sessionId command, press := duplex.press } }

def Duplex.fromService (duplex : Duplex Decoder) (envelope : Envelope)
    (result : Service Decoder × List Command) : Duplex Decoder :=
  { duplex with
    service := result.1
    toPhone := duplex.toPhone ++ result.2.map fun command =>
      { message := envelope.wrap duplex.sessionId command, handled := duplex.handled } }

def Duplex.onPress (duplex : Duplex Decoder) (envelope : Envelope) (nowMs : BitVec 64) :
    Duplex Decoder :=
  let result := duplex.phone.press nowMs
  let counted := if result.2 = [] then duplex else { duplex with press := duplex.press + 1 }
  counted.fromPhone envelope result

/-- The ping of a round, and its two timeouts. -/
def Duplex.onWorkerCheck (duplex : Duplex Decoder) (envelope : Envelope) (pings : Bool)
    (now : BitVec 64) : Duplex Decoder :=
  if duplex.phone.connState ≠ .authenticated then duplex
  else
    let phone := if pings then { duplex.phone with pingSentMs := now } else duplex.phone
    duplex.fromPhone envelope
      ((phone.checkArming now).checkReleasing now,
        if pings then
          [{ type := .ping
             payload := .object [(ascii "pttActive", .boolean duplex.phone.pressed)] }]
        else [])

def Duplex.onRequest (duplex : Duplex Decoder) (index : Nat) (envelope : Envelope)
    (localSourceName : Bytes) : Duplex Decoder :=
  match duplex.toPc[index]? with
  | none => duplex
  | some request =>
      match duplex.service.onControl localSourceName request.message with
      | none => { duplex with ended := true }
      | some result =>
          Duplex.fromService { duplex with
            toPc := duplex.toPc.eraseIdx index
            handled :=
              if request.message.type = .startPtt then request.press :: duplex.handled
              else duplex.handled } envelope result

def Duplex.onAnswer (library : JsonLibrary) (duplex : Duplex Decoder) (index : Nat)
    (nowMs : BitVec 64) : Duplex Decoder :=
  match duplex.toPhone[index]? with
  | none => duplex
  | some answer =>
      match duplex.phone.onControl library nowMs answer.message with
      | none => { duplex with ended := true }
      | some phone => { duplex with phone := phone, toPhone := duplex.toPhone.eraseIdx index }

def Duplex.react (library : JsonLibrary) (curves : GainCurves) (opus : OpusLibrary Decoder)
    (duplex : Duplex Decoder) : DuplexInput → Duplex Decoder
  | .press envelope nowMs => duplex.onPress envelope nowMs
  | .release envelope nowMs => duplex.fromPhone envelope (duplex.phone.release nowMs)
  | .setMode envelope mode => duplex.fromPhone envelope (duplex.phone, duplex.phone.setMode mode)
  | .stateChanged state => { duplex with phone := duplex.phone.onStateChanged state }
  | .takeHaptic => { duplex with phone := duplex.phone.takeHaptic.2 }
  | .workerCheck envelope pings now => duplex.onWorkerCheck envelope pings now
  | .atPc index envelope localSourceName => duplex.onRequest index envelope localSourceName
  | .atPhone index nowMs => duplex.onAnswer library index nowMs
  | .media nowMs data => { duplex with service := duplex.service.onMedia nowMs data }
  | .loop envelope room =>
      duplex.fromService envelope (duplex.service.loop curves opus room)

def Duplex.step (library : JsonLibrary) (curves : GainCurves) (opus : OpusLibrary Decoder)
    (duplex : Duplex Decoder) (input : DuplexInput) : Duplex Decoder :=
  if duplex.ended then duplex else duplex.react library curves opus input

/-! ### Whose answer makes the phone LIVE -/

def Duplex.GoesLive (library : JsonLibrary) (curves : GainCurves) (opus : OpusLibrary Decoder)
    (duplex : Duplex Decoder) (input : DuplexInput) : Prop :=
  duplex.phone.pttState ≠ .live ∧
    (duplex.step library curves opus input).phone.pttState = .live

/-- If the step takes the phone to LIVE, it handles a PTT_READY that was sent after the
START_PTT of the most recent press was handled. -/
def Duplex.LiveOnAnswer (library : JsonLibrary) (curves : GainCurves)
    (opus : OpusLibrary Decoder) (duplex : Duplex Decoder) (input : DuplexInput) : Prop :=
  duplex.GoesLive library curves opus input →
    ∃ index nowMs answer, input = .atPhone index nowMs ∧
      duplex.toPhone[index]? = some answer ∧ answer.message.type = .pttReady ∧
      duplex.press ∈ answer.handled

/-- The service may still announce an earlier request. -/
def Service.pending (service : Service Decoder) : Bool :=
  service.pttRequested && !service.announcedReady

/-- A press that takes effect finds no START_PTT and no PTT_READY in flight, and no
request that the service may still announce. -/
def Duplex.PressesAlone (duplex : Duplex Decoder) : DuplexInput → Prop
  | .press _ nowMs =>
      (duplex.phone.press nowMs).2 ≠ [] →
        (∀ request ∈ duplex.toPc, request.message.type ≠ .startPtt) ∧
        (∀ answer ∈ duplex.toPhone, answer.message.type ≠ .pttReady) ∧
        duplex.service.pending = false
  | _ => True

/-- Every START_PTT in flight, every request the service may announce and every
PTT_READY in flight belongs to the most recent press. -/
structure Duplex.Current (duplex : Duplex Decoder) : Prop where
  requests : ∀ request ∈ duplex.toPc, request.message.type = .startPtt →
    request.press = duplex.press
  pending : duplex.service.pending = true → duplex.press ∈ duplex.handled
  answers : ∀ answer ∈ duplex.toPhone, answer.message.type = .pttReady →
    duplex.press ∈ answer.handled

theorem Duplex.current_start (sessionId : Bytes) (decoder : Option Decoder) :
    (Duplex.start sessionId decoder).Current :=
  { requests := fun _request member => absurd member List.not_mem_nil
    pending := fun impossible => Bool.noConfusion impossible
    answers := fun _answer member => absurd member List.not_mem_nil }

variable {library : JsonLibrary} {curves : GainCurves} {opus : OpusLibrary Decoder}
  {duplex : Duplex Decoder}

theorem Duplex.Current.fromPhone (current : duplex.Current) (envelope : Envelope)
    {result : PhoneState × List Command}
    (quiet : ∀ command ∈ result.2, command.type ≠ .startPtt) :
    (duplex.fromPhone envelope result).Current :=
  { requests := by
      intro request member start
      rcases List.mem_append.mp member with old | new
      · exact current.requests request old start
      · obtain ⟨command, sent, rfl⟩ := List.mem_map.mp new
        exact absurd start (quiet command sent)
    pending := current.pending
    answers := current.answers }

/-- A handler of the service keeps the presses when what it may announce afterwards and
what it announces belong to the press that was handled. -/
theorem Duplex.Current.fromService (current : duplex.Current) (envelope : Envelope)
    {result : Service Decoder × List Command}
    (pending : result.1.pending = true → duplex.press ∈ duplex.handled)
    (ready : ∀ command ∈ result.2, command.type = .pttReady → duplex.press ∈ duplex.handled) :
    (duplex.fromService envelope result).Current :=
  { requests := current.requests
    pending := pending
    answers := by
      intro answer member type
      rcases List.mem_append.mp member with old | new
      · exact current.answers answer old type
      · obtain ⟨command, sent, rfl⟩ := List.mem_map.mp new
        exact ready command sent type }

theorem Duplex.Current.onPress (current : duplex.Current) (envelope : Envelope)
    (nowMs : BitVec 64) (alone : duplex.PressesAlone (.press envelope nowMs)) :
    (duplex.onPress envelope nowMs).Current := by
  unfold Duplex.PressesAlone at alone
  unfold Duplex.onPress
  dsimp only
  by_cases none : (duplex.phone.press nowMs).2 = []
  · rw [if_pos none]
    apply current.fromPhone
    rw [none]
    exact fun _command member => absurd member List.not_mem_nil
  · rw [if_neg none]
    obtain ⟨starts, readies, idle⟩ := alone none
    exact
      { requests := by
          intro request member start
          rcases List.mem_append.mp member with old | new
          · exact absurd start (starts request old)
          · obtain ⟨command, -, rfl⟩ := List.mem_map.mp new
            rfl
        pending := by
          intro pending
          change duplex.service.pending = true at pending
          rw [idle] at pending
          cases pending
        answers := fun answer member type => absurd type (readies answer member) }

/-- What the service makes of a control message: only a START_PTT makes it pending, and
no reply is a PTT_READY. -/
theorem Service.onControl_replies {service next : Service Decoder} {localSourceName : Bytes}
    {message : Message} {commands : List Command}
    (handled : service.onControl localSourceName message = some (next, commands)) :
    (next.pending = true → message.type = .startPtt ∨ service.pending = true) ∧
      ∀ command ∈ commands, command.type ≠ .pttReady := by
  unfold Service.onControl Service.startPtt Service.stopPtt at handled
  unfold Service.pending
  repeat' split at handled
  all_goals cases handled
  · rename_i type
    exact ⟨fun _ => Or.inl type, by simp⟩
  · exact ⟨fun impossible => Bool.noConfusion impossible, by simp⟩
  · exact ⟨Or.inr, by simp⟩
  · exact ⟨Or.inr, by simp⟩
  · exact ⟨Or.inr, by simp⟩
  · exact ⟨Or.inr, by simp⟩

theorem Duplex.Current.onRequest (current : duplex.Current) (index : Nat) (envelope : Envelope)
    (localSourceName : Bytes) :
    (duplex.onRequest index envelope localSourceName).Current := by
  unfold Duplex.onRequest
  split
  · exact current
  · rename_i request found
    split
    · exact
        { requests := current.requests
          pending := current.pending
          answers := current.answers }
    · rename_i result handled
      obtain ⟨next, commands⟩ := result
      obtain ⟨pending, replies⟩ := Service.onControl_replies handled
      have own : request.message.type = .startPtt → request.press = duplex.press :=
        current.requests request (List.mem_of_getElem? found)
      -- the press of a START_PTT that is handled now is the most recent one
      have belongs : next.pending = true → duplex.press ∈
          if request.message.type = .startPtt then request.press :: duplex.handled
          else duplex.handled := by
        intro waiting
        by_cases start : request.message.type = .startPtt
        · rw [if_pos start, own start]
          exact List.mem_cons_self
        · rw [if_neg start]
          exact current.pending ((pending waiting).resolve_left start)
      exact
        { requests := fun other member => current.requests other (List.mem_of_mem_eraseIdx member)
          pending := belongs
          answers := by
            intro answer member type
            rcases List.mem_append.mp member with old | new
            · exact current.answers answer old type
            · obtain ⟨command, sent, rfl⟩ := List.mem_map.mp new
              exact absurd type (replies command sent) }

theorem Service.loop_replies (curves : GainCurves) (opus : OpusLibrary Decoder)
    (service : Service Decoder) (room : Room) :
    ((service.loop curves opus room).1.pending = true → service.pending = true) ∧
      ∀ command ∈ (service.loop curves opus room).2, service.pending = true := by
  unfold Service.loop Service.announce
  by_cases announces : service.announces = true
  · rw [if_pos announces]
    have pending : service.pending = true := by
      unfold Service.announces at announces
      unfold Service.pending
      rw [Bool.and_eq_true, Bool.and_eq_true] at announces
      exact announces.1.1
    exact ⟨fun _ => pending, fun _command _sent => pending⟩
  · rw [if_neg announces]
    exact ⟨id, fun _command member => absurd member List.not_mem_nil⟩

theorem Duplex.Current.step (current : duplex.Current) {input : DuplexInput}
    (alone : duplex.PressesAlone input) : (duplex.step library curves opus input).Current := by
  unfold Duplex.step
  split
  · exact current
  · cases input with
    | press envelope nowMs => exact current.onPress envelope nowMs alone
    | release envelope nowMs =>
        apply current.fromPhone
        unfold PhoneState.release
        dsimp only
        split <;> simp
    | setMode envelope mode =>
        apply current.fromPhone
        unfold PhoneState.setMode
        dsimp only
        split <;> simp
    | stateChanged state =>
        exact
          { requests := current.requests
            pending := current.pending
            answers := current.answers }
    | takeHaptic =>
        exact
          { requests := current.requests
            pending := current.pending
            answers := current.answers }
    | workerCheck envelope pings now =>
        change (duplex.onWorkerCheck envelope pings now).Current
        unfold Duplex.onWorkerCheck
        split
        · exact current
        · apply current.fromPhone
          dsimp only
          split <;> simp
    | atPc index envelope localSourceName =>
        exact current.onRequest index envelope localSourceName
    | atPhone index nowMs =>
        change (duplex.onAnswer library index nowMs).Current
        unfold Duplex.onAnswer
        split
        · exact current
        · split
          · exact
              { requests := current.requests
                pending := current.pending
                answers := current.answers }
          · exact
              { requests := current.requests
                pending := current.pending
                answers := fun answer member =>
                  current.answers answer (List.mem_of_mem_eraseIdx member) }
    | media nowMs data =>
        exact
          { requests := current.requests
            pending := current.pending
            answers := current.answers }
    | loop envelope room =>
        obtain ⟨pending, replies⟩ := Service.loop_replies curves opus duplex.service room
        exact current.fromService envelope (fun waiting => current.pending (pending waiting))
          (fun command sent _type => current.pending (replies command sent))

/-! ### Where LIVE comes from -/

theorem PhoneState.press_live {phone : PhoneState} {nowMs : BitVec 64}
    (live : (phone.press nowMs).1.pttState = .live) : phone.pttState = .live := by
  unfold PhoneState.press at live
  split at live
  · exact live
  · split at live
    · exact live
    · cases live

theorem PhoneState.release_not_live (phone : PhoneState) (nowMs : BitVec 64) :
    (phone.release nowMs).1.pttState ≠ .live := by
  unfold PhoneState.release
  dsimp only
  split
  · exact PttState.noConfusion
  · dsimp only
    split
    · exact PttState.noConfusion
    · rename_i ready
      rw [not_not] at ready
      rw [ready]
      exact PttState.noConfusion

theorem PhoneState.checks_live {phone : PhoneState} {now : BitVec 64}
    (live : ((phone.checkArming now).checkReleasing now).pttState = .live) :
    phone.pttState = .live := by
  unfold PhoneState.checkReleasing at live
  split at live
  · cases live
  · unfold PhoneState.checkArming at live
    split at live
    · cases live
    · exact live

theorem PhoneState.onStateChanged_pttState (phone : PhoneState) (state : SessionState) :
    (phone.onStateChanged state).pttState = phone.pttState := by
  cases state <;> rfl

theorem PhoneState.onControl_live {phone next : PhoneState} {nowMs : BitVec 64}
    {message : Message} (handled : phone.onControl library nowMs message = some next)
    (live : next.pttState = .live) :
    message.type = .pttReady ∨ (phone.pttState = .live ∧ message.type ≠ .pttStopped) := by
  unfold PhoneState.onControl at handled
  split at handled
  · rename_i type
    exact Or.inl type
  · cases handled
    cases live
  · rename_i type
    cases handled
    refine Or.inr ⟨?_, by rw [type]; decide⟩
    unfold PhoneState.onPong at live
    split at live <;> exact live
  · rename_i type
    refine Or.inr ⟨?_, by rw [type]; decide⟩
    split at handled
    · cases handled
      exact live
    · cases handled
  · rename_i type
    refine Or.inr ⟨?_, by rw [type]; decide⟩
    split at handled
    · split at handled
      · cases handled
        exact live
      · cases handled
    · cases handled
  · rename_i other _ _ _
    cases handled
    exact Or.inr ⟨live, other⟩

theorem Duplex.Current.liveOnAnswer (current : duplex.Current) (input : DuplexInput) :
    duplex.LiveOnAnswer library curves opus input := by
  rintro ⟨before, live⟩
  unfold Duplex.step at live
  split at live
  · exact absurd live before
  · cases input with
    | press envelope nowMs =>
        have lived : (duplex.phone.press nowMs).1.pttState = .live := by
          change (duplex.onPress envelope nowMs).phone.pttState = .live at live
          unfold Duplex.onPress at live
          dsimp only at live
          split at live <;> exact live
        exact absurd (PhoneState.press_live lived) before
    | release envelope nowMs => exact absurd live (PhoneState.release_not_live _ _)
    | setMode envelope mode => exact absurd live before
    | stateChanged state =>
        change (duplex.phone.onStateChanged state).pttState = .live at live
        rw [PhoneState.onStateChanged_pttState] at live
        exact absurd live before
    | takeHaptic => exact absurd live before
    | workerCheck envelope pings now =>
        change (duplex.onWorkerCheck envelope pings now).phone.pttState = .live at live
        unfold Duplex.onWorkerCheck at live
        split at live
        · exact absurd live before
        · have found := PhoneState.checks_live live
          split at found <;> exact absurd found before
    | atPc index envelope localSourceName =>
        change (duplex.onRequest index envelope localSourceName).phone.pttState = .live at live
        unfold Duplex.onRequest at live
        split at live
        · exact absurd live before
        · split at live <;> exact absurd live before
    | atPhone index nowMs =>
        change (duplex.onAnswer library index nowMs).phone.pttState = .live at live
        unfold Duplex.onAnswer at live
        split at live
        · exact absurd live before
        · rename_i answer found
          split at live
          · exact absurd live before
          · rename_i next handled
            have type := (PhoneState.onControl_live handled live).resolve_right
              (fun lived => before lived.1)
            exact ⟨index, nowMs, answer, rfl, found, type,
              current.answers answer (List.mem_of_getElem? found) type⟩
    | media nowMs data => exact absurd live before
    | loop envelope room => exact absurd live before

/-- In every run whose presses are alone, whatever is delayed or lost in both
directions, only an answer to the most recent press takes the phone to LIVE. -/
theorem live_only_for_current_press (library : JsonLibrary) (curves : GainCurves)
    (opus : OpusLibrary Decoder) (sessionId : Bytes) (decoder : Option Decoder)
    (inputs : List DuplexInput)
    (alone : Run.Meets (Duplex.step library curves opus) Duplex.PressesAlone
      (Duplex.start sessionId decoder) inputs) :
    Run.Meets (Duplex.step library curves opus) (Duplex.LiveOnAnswer library curves opus)
      (Duplex.start sessionId decoder) inputs := by
  apply Run.meets_of_invariant Duplex.Current _ _ inputs _
    (Duplex.current_start sessionId decoder) alone
  · intro duplex input current _alone
    exact current.liveOnAnswer input
  · intro duplex input current alone
    exact current.step alone

end

/-! ### Two concrete runs -/

instance {Decoder : Type} (duplex : Duplex Decoder) :
    (input : DuplexInput) → Decidable (duplex.PressesAlone input)
  | .press _ _ => inferInstanceAs (Decidable (_ → _))
  | .release _ _ => inferInstanceAs (Decidable True)
  | .setMode _ _ => inferInstanceAs (Decidable True)
  | .stateChanged _ => inferInstanceAs (Decidable True)
  | .takeHaptic => inferInstanceAs (Decidable True)
  | .workerCheck _ _ _ => inferInstanceAs (Decidable True)
  | .atPc _ _ _ => inferInstanceAs (Decidable True)
  | .atPhone _ _ => inferInstanceAs (Decidable True)
  | .media _ _ => inferInstanceAs (Decidable True)
  | .loop _ _ => inferInstanceAs (Decidable True)

def plainEnvelope : Envelope :=
  { stamp := { messageId := [], nowUnixMs := 1000#64 }, deviceId := [], seq := 1#64 }

def armedPress : List DuplexInput :=
  [.stateChanged .authenticated, .press plainEnvelope 1000#64, .atPc 0 plainEnvelope [],
    .loop plainEnvelope silentRoom, .media 1010#64 (mediaPayload true 7#32),
    .media 1030#64 (mediaPayload false 8#32), .loop plainEnvelope silentRoom]

theorem live_only_for_current_press_first :
    Run.Meets (Duplex.step StandIn.json linearCurves silentOpus)
      (Duplex.LiveOnAnswer StandIn.json linearCurves silentOpus)
      (Duplex.start [] (some ())) (armedPress ++ [.atPhone 1 1050#64]) := by
  apply live_only_for_current_press
  decide +kernel

/-- The button goes up and down again while the PTT_READY of the first press is on its
way; that answer makes the second press LIVE. -/
theorem live_on_stale_answer :
    ¬ Run.Meets (Duplex.step StandIn.json linearCurves silentOpus)
      (Duplex.LiveOnAnswer StandIn.json linearCurves silentOpus)
      (Duplex.start [] (some ()))
      (armedPress ++ [.release plainEnvelope 1040#64, .press plainEnvelope 1045#64] ++
        [.atPhone 1 1050#64]) := by
  intro meets
  obtain ⟨-, last⟩ := (Run.meets_append _ _ _ _ _).mp meets
  have goes : Duplex.GoesLive StandIn.json linearCurves silentOpus
      (Run.final (Duplex.step StandIn.json linearCurves silentOpus) (Duplex.start [] (some ()))
        (armedPress ++ [.release plainEnvelope 1040#64, .press plainEnvelope 1045#64]))
      (.atPhone 1 1050#64) := by
    constructor <;> decide +kernel
  have stale : ∀ answer ∈ (Run.final (Duplex.step StandIn.json linearCurves silentOpus)
      (Duplex.start [] (some ())) (armedPress ++
        [.release plainEnvelope 1040#64, .press plainEnvelope 1045#64])).toPhone[1]?,
      2 ∉ answer.handled := by
    decide +kernel
  obtain ⟨index, nowMs, answer, same, found, -, current⟩ := last.1 goes
  cases same
  exact stale answer found current

end SmartMic.Apps
