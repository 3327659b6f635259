import SmartMic.Support.Run
import SmartMic.Apps.PhoneRuntime
import SmartMic.Session.Deliveries
import SmartMic.Session.StandIn

set_option autoImplicit false

/-! Transmission is decided by `pressed` and `connState`, the display by `pttState`. The
two agree until a PTT_STOPPED finds the button pressed again, or the session ends while
the phone is LIVE. -/

namespace SmartMic.Apps

open SmartMic.Protocol SmartMic.Security SmartMic.Media SmartMic.Session

/-- No idle display while frames go out, and LIVE only with an open microphone. -/
structure PhoneState.Truthful (phone : PhoneState) : Prop where
  transmitting : phone.transmits = true →
    phone.pttState = .connecting ∨ phone.pttState = .live
  live : phone.pttState = .live →
    phone.pressed = true ∧ phone.connState = .authenticated

theorem PhoneState.transmits_iff (phone : PhoneState) :
    phone.transmits = true ↔ phone.pressed = true ∧ phone.connState = .authenticated := by
  unfold PhoneState.transmits
  rw [Bool.and_eq_true, beq_iff_eq]

/-- What the handlers keep: the button alone decides between the displays, whatever the
connection does. -/
structure PhoneState.Shown (phone : PhoneState) : Prop where
  pressed : phone.pressed = true → phone.pttState = .connecting ∨ phone.pttState = .live
  live : phone.pttState = .live →
    phone.pressed = true ∧ phone.connState = .authenticated

theorem PhoneState.shown_initial : PhoneState.initial.Shown :=
  { pressed := fun impossible => Bool.noConfusion impossible
    live := fun impossible => PttState.noConfusion impossible }

theorem PhoneState.Shown.truthful {phone : PhoneState} (shown : phone.Shown) : phone.Truthful :=
  { transmitting := fun transmits => shown.pressed (phone.transmits_iff.mp transmits).1
    live := shown.live }

/-! ### Handlers -/

theorem PhoneState.Shown.press {phone : PhoneState} (shown : phone.Shown) (nowMs : BitVec 64) :
    (phone.press nowMs).1.Shown := by
  unfold PhoneState.press
  split
  · exact shown
  · split
    · exact shown
    · exact { pressed := fun _ => Or.inl rfl
              live := fun impossible => PttState.noConfusion impossible }

theorem PhoneState.Shown.release {phone : PhoneState} (nowMs : BitVec 64) :
    (phone.release nowMs).1.Shown := by
  have open_ : ∀ released : PhoneState, released.pressed = false → released.pttState ≠ .live →
      released.Shown := by
    intro released up other
    constructor
    · intro down
      rw [up] at down
      cases down
    · intro live
      exact absurd live other
  unfold PhoneState.release
  dsimp only
  split
  · exact open_ _ rfl PttState.noConfusion
  · apply open_ _ rfl
    dsimp only
    split
    · exact PttState.noConfusion
    · rename_i ready
      rw [not_not.mp ready]
      exact PttState.noConfusion

theorem PhoneState.Shown.checkArming {phone : PhoneState} (shown : phone.Shown)
    (now : BitVec 64) : (phone.checkArming now).Shown := by
  unfold PhoneState.checkArming
  split
  · exact { pressed := fun impossible => Bool.noConfusion impossible
            live := fun impossible => PttState.noConfusion impossible }
  · exact shown

theorem PhoneState.Shown.checkReleasing {phone : PhoneState} (shown : phone.Shown)
    (now : BitVec 64) : (phone.checkReleasing now).Shown := by
  unfold PhoneState.checkReleasing
  split
  · rename_i releasing
    constructor
    · intro down
      rcases shown.pressed down with connecting | live
      · rw [releasing.1] at connecting
        cases connecting
      · rw [releasing.1] at live
        cases live
    · intro impossible
      cases impossible
  · exact shown

theorem PhoneState.Shown.onPttReady {phone : PhoneState} (shown : phone.Shown)
    (connected : phone.connState = .authenticated) : phone.onPttReady.Shown := by
  unfold PhoneState.onPttReady
  split
  · rename_i down
    exact { pressed := fun _ => Or.inr rfl, live := fun _ => ⟨down, connected⟩ }
  · exact shown

theorem PhoneState.Shown.onPttStopped {phone : PhoneState} (up : phone.pressed = false) :
    phone.onPttStopped.Shown :=
  { pressed := fun down => absurd (up.symm.trans down) Bool.false_ne_true
    live := fun impossible => PttState.noConfusion impossible }

theorem PhoneState.Shown.onControl {phone next : PhoneState} (shown : phone.Shown)
    {library : JsonLibrary} {nowMs : BitVec 64} {message : Message}
    (connected : phone.connState = .authenticated)
    (stopped : phone.pressed = true → message.type ≠ .pttStopped)
    (handled : phone.onControl library nowMs message = some next) :
    next.Shown ∧ next.connState = phone.connState := by
  have same : ∀ other : PhoneState, other.pressed = phone.pressed →
      other.pttState = phone.pttState → other.connState = phone.connState →
      other.Shown ∧ other.connState = phone.connState := by
    intro other pressed pttState connState
    refine ⟨?_, connState⟩
    constructor
    · rw [pressed, pttState]
      exact shown.pressed
    · rw [pressed, pttState, connState]
      exact shown.live
  unfold PhoneState.onControl at handled
  split at handled
  · cases handled
    refine ⟨shown.onPttReady connected, ?_⟩
    unfold PhoneState.onPttReady
    split <;> rfl
  · rename_i isStopped
    cases handled
    refine ⟨PhoneState.Shown.onPttStopped ?_, rfl⟩
    cases down : phone.pressed with
    | false => rfl
    | true => exact absurd isStopped (stopped down)
  · cases handled
    unfold PhoneState.onPong
    split
    · exact same _ rfl rfl rfl
    · exact same _ rfl rfl rfl
  · split at handled
    · cases handled
      exact same _ rfl rfl rfl
    · cases handled
  · split at handled
    · split at handled
      · cases handled
        exact same _ rfl rfl rfl
      · cases handled
    · cases handled
  · cases handled
    exact same _ rfl rfl rfl

/-! ### The handle -/

section

variable {Encoder : Type}

structure SmPhone.Consistent (phone : SmPhone Encoder) : Prop where
  shown : phone.state.Shown
  connected : phone.state.connState = .authenticated ↔ phone.peer.state = .authenticated

theorem SmPhone.consistent_create (identity : DeviceIdentity) (encoder : Option Encoder)
    (sessionId : Bytes) : (SmPhone.create identity encoder sessionId).Consistent :=
  { shown := PhoneState.shown_initial
    connected :=
      ⟨fun impossible => ConnState.noConfusion impossible,
        fun impossible => SessionState.noConfusion impossible⟩ }

variable (sodium : Sodium) (library : JsonLibrary)

theorem PhoneState.onStateChanged_connected {phone : PhoneState} {before after : SessionState}
    (connected : phone.connState = .authenticated ↔ before = .authenticated)
    (told : after = before ∨ after = .pairing ∨ after = .authenticated ∨ after = .failed) :
    (if after = before then phone else phone.onStateChanged after).connState = .authenticated ↔
      after = .authenticated := by
  by_cases same : after = before
  · rw [if_pos same, same]
    exact connected
  · rw [if_neg same]
    rcases told with impossible | pairing | authenticated | failed
    · exact absurd impossible same
    · rw [pairing]
      exact ⟨fun impossible => ConnState.noConfusion impossible,
        fun impossible => SessionState.noConfusion impossible⟩
    · rw [authenticated]
      exact ⟨fun _ => rfl, fun _ => rfl⟩
    · rw [failed]
      exact ⟨fun impossible => ConnState.noConfusion impossible,
        fun impossible => SessionState.noConfusion impossible⟩

/-- The display survives a state change unless LIVE meets the end of the session. -/
theorem PhoneState.Shown.onStateChanged {phone : PhoneState} (shown : phone.Shown)
    {after : SessionState} (calm : phone.pttState = .live → after = .authenticated) :
    (phone.onStateChanged after).Shown := by
  cases after with
  | idle => exact shown
  | pairing =>
      exact { pressed := shown.pressed
              live := fun live => SessionState.noConfusion (calm live) }
  | authenticated =>
      exact { pressed := shown.pressed
              live := fun live => ⟨(shown.live live).1, rfl⟩ }
  | failed =>
      exact { pressed := shown.pressed
              live := fun live => SessionState.noConfusion (calm live) }
  | revoked => exact shown

theorem SmPhone.sendControl_frame (phone : SmPhone Encoder) (stamp : Stamp)
    (command : Command) :
    (phone.sendControl sodium library stamp command).phone.state = phone.state ∧
    (phone.sendControl sodium library stamp command).phone.peer.state = phone.peer.state := by
  refine ⟨rfl, ?_⟩
  obtain ⟨channel, moved⟩ := (phone.peer.nextSeq.2.react_sends sodium library
    (Or.inl ⟨Message.make stamp command.type phone.sessionId
      (phone.peer.nextSeq.2.self_.deviceId sodium) phone.peer.nextSeq.1 command.payload, rfl⟩)).1
  have same := congrArg PeerSession.state moved
  exact same

theorem SmPhone.sendAll_frame (stamp : Stamp) (commands : List Command) :
    ∀ phone : SmPhone Encoder,
      (phone.sendAll sodium library stamp commands).phone.state = phone.state ∧
      (phone.sendAll sodium library stamp commands).phone.peer.state = phone.peer.state := by
  induction commands with
  | nil => exact fun _ => ⟨rfl, rfl⟩
  | cons command rest ih =>
      intro phone
      have first := phone.sendControl_frame sodium library stamp command
      have later := ih (phone.sendControl sodium library stamp command).phone
      exact ⟨later.1.trans first.1, later.2.trans first.2⟩

theorem SmPhone.Consistent.moved {phone next : SmPhone Encoder} (consistent : phone.Consistent)
    (shown : next.state.Shown) (connState : next.state.connState = phone.state.connState)
    (peer : next.peer.state = phone.peer.state) : next.Consistent := by
  refine { shown := shown, connected := ?_ }
  rw [connState, peer]
  exact consistent.connected

/-- What a datagram must not do: tell a pressed phone that it has stopped, or end the
session of a phone that is LIVE. -/
def SmPhone.Undisturbed (phone : SmPhone Encoder) : PhoneInput → Prop
  | .datagram _ moment bytes =>
      (phone.state.pressed = true →
        ∀ message, Delivery.control message ∈
          (phone.peer.onDatagram sodium library moment bytes).delivered →
            message.type ≠ .pttStopped) ∧
      (phone.state.pttState = .live →
        (phone.peer.onDatagram sodium library moment bytes).session.state = .authenticated)
  | .beginPairing _ _ _ => phone.state.pttState ≠ .live
  | _ => True

theorem SmPhone.Consistent.adopt {phone : SmPhone Encoder} (consistent : phone.Consistent)
    (nowMs : BitVec 64) {reaction : Reaction} (nothing : reaction.delivered = [])
    (told : reaction.session.state = phone.peer.state ∨ reaction.session.state = .pairing ∨
      reaction.session.state = .authenticated ∨ reaction.session.state = .failed) :
    ((phone.state.pttState = .live → reaction.session.state = .authenticated) →
      (phone.adopt library nowMs reaction).Consistent) ∧
    ((phone.adopt library nowMs reaction).state.Truthful →
      phone.state.pttState = .live → reaction.session.state = .authenticated) := by
  have connected := PhoneState.onStateChanged_connected consistent.connected told
  have adopted : phone.adopt library nowMs reaction =
      { phone with
        peer := reaction.session
        state :=
          if reaction.session.state = phone.peer.state then phone.state
          else phone.state.onStateChanged reaction.session.state
        terminated := phone.terminated || reaction.threw } := by
    unfold SmPhone.adopt
    rw [nothing]
    rfl
  rw [adopted]
  constructor
  · intro calm
    refine { shown := ?_, connected := connected }
    dsimp only
    split
    · exact consistent.shown
    · exact consistent.shown.onStateChanged calm
  · intro truthful live
    apply connected.mp
    apply (truthful.live _).2
    dsimp only
    split
    · exact live
    · rename_i moved
      rcases told with impossible | pairing | authenticated | failed
      · exact absurd impossible moved
      · rw [pairing]
        exact live
      · rw [authenticated]
        exact live
      · rw [failed]
        exact live

/-- A datagram keeps the display in order exactly when it does not disturb it. -/
theorem SmPhone.Consistent.datagram {phone : SmPhone Encoder} (consistent : phone.Consistent)
    (nowMs : BitVec 64) (moment : Moment) (bytes : Bytes) :
    let next := phone.adopt library nowMs (phone.peer.onDatagram sodium library moment bytes)
    (phone.Undisturbed sodium library (.datagram nowMs moment bytes) → next.Consistent) ∧
    (next.state.Truthful → phone.Undisturbed sodium library (.datagram nowMs moment bytes)) := by
  intro next
  rcases phone.peer.onDatagram_tells sodium library moment bytes with
    ⟨nothing, told⟩ | ⟨delivery, delivered, authenticated, same⟩
  · obtain ⟨keeps, breaks⟩ := consistent.adopt library nowMs nothing (told.imp id Or.inr)
    refine ⟨fun undisturbed => keeps undisturbed.2, fun truthful => ⟨?_, breaks truthful⟩⟩
    intro _pressed message member
    rw [nothing] at member
    exact absurd member List.not_mem_nil
  · have connected := consistent.connected.mpr authenticated
    have adopted : next = SmPhone.onDelivery library nowMs
        { phone with
          peer := (phone.peer.onDatagram sodium library moment bytes).session
          terminated := phone.terminated ||
            (phone.peer.onDatagram sodium library moment bytes).threw } delivery := by
      change SmPhone.adopt library nowMs phone _ = _
      unfold SmPhone.adopt
      rw [delivered, if_pos same]
      rfl
    rw [adopted]
    cases delivery with
    | media payload =>
        constructor
        · intro _undisturbed
          exact consistent.moved consistent.shown rfl same
        · intro _truthful
          constructor
          · intro _pressed message member
            rw [delivered] at member
            cases List.mem_singleton.mp member
          · exact fun _ => same.trans authenticated
    | control message =>
        unfold SmPhone.onDelivery
        dsimp only
        constructor
        · intro undisturbed
          split
          · rename_i state handled
            obtain ⟨shown, connState⟩ := consistent.shown.onControl connected
              (fun pressed => undisturbed.1 pressed message
                (by rw [delivered]; exact List.mem_singleton_self _)) handled
            exact consistent.moved shown connState same
          · exact consistent.moved consistent.shown rfl same
        · intro truthful
          refine ⟨?_, fun _ => same.trans authenticated⟩
          intro pressed stopped member isStopped
          rw [delivered] at member
          cases List.mem_singleton.mp member
          unfold PhoneState.onControl at truthful
          rw [isStopped] at truthful
          have transmits : phone.state.onPttStopped.transmits = true :=
            (PhoneState.transmits_iff _).mpr ⟨pressed, connected⟩
          rcases truthful.transmitting transmits with impossible | impossible
          · cases impossible
          · cases impossible

theorem SmPhone.Consistent.beginPairing {phone : SmPhone Encoder} (consistent : phone.Consistent)
    (nowMs : BitVec 64) (code : Bytes) (scalar : Scalar) :
    let next := (phone.beginPairing sodium library nowMs code scalar).phone
    (phone.state.pttState ≠ .live → next.Consistent) ∧
    (next.state.Truthful → phone.state.pttState ≠ .live) := by
  have begun : (phone.peer.beginPairing sodium library phone.sessionId code scalar).delivered = [] ∧
      (phone.peer.beginPairing sodium library phone.sessionId code scalar).session.state =
        .pairing := by
    unfold PeerSession.beginPairing
    dsimp only
    split <;> exact ⟨rfl, rfl⟩
  intro next
  obtain ⟨keeps, breaks⟩ := consistent.adopt library nowMs begun.1 (Or.inr (Or.inl begun.2))
  constructor
  · intro calm
    exact keeps fun live => absurd live calm
  · intro truthful live
    have ended := breaks truthful live
    rw [begun.2] at ended
    cases ended

theorem SmPhone.Consistent.press {phone : SmPhone Encoder} (consistent : phone.Consistent)
    (stamp : Stamp) (nowMs : BitVec 64) :
    (phone.press sodium library stamp nowMs).phone.Consistent := by
  have shown := consistent.shown.press nowMs
  have connState : (phone.state.press nowMs).1.connState = phone.state.connState := by
    unfold PhoneState.press
    split
    · rfl
    · split <;> rfl
  unfold SmPhone.press
  split
  · exact consistent
  · rename_i state commands _ pressed
    rw [pressed] at shown connState
    have frame := SmPhone.sendAll_frame sodium library stamp commands
      { phone with state := state, sender := phone.sender.resetStream }
    apply consistent.moved _ _ frame.2
    · rw [frame.1]
      exact shown
    · rw [frame.1]
      exact connState

theorem SmPhone.Consistent.release {phone : SmPhone Encoder} (consistent : phone.Consistent)
    (stamp : Stamp) (nowMs : BitVec 64) :
    (phone.release sodium library stamp nowMs).phone.Consistent := by
  have shown : (phone.state.release nowMs).1.Shown := PhoneState.Shown.release nowMs
  have connState : (phone.state.release nowMs).1.connState = phone.state.connState := by
    unfold PhoneState.release
    dsimp only
    split <;> rfl
  unfold SmPhone.release
  split
  rename_i state commands released
  rw [released] at shown connState
  have frame := SmPhone.sendAll_frame sodium library stamp commands { phone with state := state }
  apply consistent.moved _ _ frame.2
  · rw [frame.1]
    exact shown
  · rw [frame.1]
    exact connState

theorem SmPhone.Consistent.onCaptureFrame {phone : SmPhone Encoder}
    (consistent : phone.Consistent) (opus : OpusEncoderLibrary Encoder) (pcm : List Sample) :
    (phone.onCaptureFrame sodium opus pcm).phone.Consistent := by
  unfold SmPhone.onCaptureFrame
  split
  · exact consistent
  · split
    · exact consistent
    · split
      · exact consistent.moved consistent.shown rfl rfl
      · exact consistent.moved consistent.shown rfl (phone.peer.sendMedia_state sodium _)
  
theorem SmPhone.Consistent.workerCheck {phone : SmPhone Encoder} (consistent : phone.Consistent)
    (stamp : Stamp) (now : BitVec 64) :
    (phone.workerCheck sodium library stamp now).phone.Consistent := by
  have retried : (phone.retryPairing now).phone.Consistent := by
    unfold SmPhone.retryPairing
    have same : phone.peer.resendPairingHello.session.state = phone.peer.state := by
      unfold PeerSession.resendPairingHello
      split <;> rfl
    split
    · exact consistent.moved consistent.shown rfl same
    · exact consistent
  have pinged :
      ((phone.retryPairing now).phone.ping sodium library stamp now).phone.Consistent := by
    unfold SmPhone.ping
    split
    · have frame := SmPhone.sendControl_frame sodium library
        { (phone.retryPairing now).phone with
          state := { (phone.retryPairing now).phone.state with pingSentMs := now }
          lastPing := now } stamp
        { type := .ping
          payload := .object
            [(ascii "pttActive", .boolean (phone.retryPairing now).phone.state.pressed)] }
      apply retried.moved _ _ frame.2
      · rw [frame.1]
        exact { pressed := retried.shown.pressed, live := retried.shown.live }
      · rw [frame.1]
    · exact retried
  unfold SmPhone.workerCheck
  dsimp only
  split
  · exact retried
  · have connState : ∀ state : PhoneState,
        ((state.checkArming now).checkReleasing now).connState = state.connState := by
      intro state
      unfold PhoneState.checkReleasing PhoneState.checkArming
      split
      · split <;> rfl
      · split <;> rfl
    exact pinged.moved ((pinged.shown.checkArming now).checkReleasing now) (connState _) rfl

/-! ### Runs -/

/-- The condition on one step of a phone that still runs. -/
def SmPhone.Allowed (phone : SmPhone Encoder) (input : PhoneInput) : Prop :=
  phone.terminated = false → phone.Undisturbed sodium library input

theorem SmPhone.Consistent.step {phone : SmPhone Encoder} (consistent : phone.Consistent)
    (opus : OpusEncoderLibrary Encoder) (input : PhoneInput) :
    (phone.Allowed sodium library input →
      (phone.step sodium library opus input).Consistent) ∧
    ((phone.step sodium library opus input).state.Truthful →
      phone.Allowed sodium library input) := by
  have steady : ∀ {next : SmPhone Encoder}, next.Consistent →
      phone.Undisturbed sodium library input →
      (phone.Allowed sodium library input → next.Consistent) ∧
      (next.state.Truthful → phone.Allowed sodium library input) :=
    fun kept undisturbed => ⟨fun _ => kept, fun _ _ => undisturbed⟩
  unfold SmPhone.step
  by_cases ended : phone.terminated = true
  · rw [if_pos ended]
    refine ⟨fun _ => consistent, fun _ running => ?_⟩
    rw [ended] at running
    cases running
  · rw [if_neg ended]
    have running : phone.terminated = false := by simpa using ended
    cases input with
    | beginPairing nowMs code scalar =>
        obtain ⟨keeps, breaks⟩ := consistent.beginPairing sodium library nowMs code scalar
        exact ⟨fun allowed => keeps (allowed running), fun truthful _ => breaks truthful⟩
    | press stamp nowMs => exact steady (consistent.press sodium library stamp nowMs) trivial
    | release stamp nowMs => exact steady (consistent.release sodium library stamp nowMs) trivial
    | setMode stamp mode =>
        have frame := SmPhone.sendAll_frame sodium library stamp (phone.state.setMode mode) phone
        apply steady _ trivial
        apply consistent.moved _ _ frame.2
        · rw [frame.1]
          exact consistent.shown
        · exact congrArg PhoneState.connState frame.1
    | takeHaptic =>
        have shown : phone.state.takeHaptic.2.Shown :=
          { pressed := consistent.shown.pressed, live := consistent.shown.live }
        exact steady (consistent.moved shown rfl rfl) trivial
    | captureFrame pcm =>
        exact steady (consistent.onCaptureFrame sodium opus pcm) trivial
    | datagram nowMs moment bytes =>
        obtain ⟨keeps, breaks⟩ := consistent.datagram sodium library nowMs moment bytes
        exact ⟨fun allowed => keeps (allowed running), fun truthful _ => breaks truthful⟩
    | workerCheck stamp now =>
        exact steady (consistent.workerCheck sodium library stamp now) trivial

end

/-- Over every run of a phone, the display never lies exactly when no PTT_STOPPED is passed
to a pressed phone and the session never ends while the phone is LIVE. -/
theorem phone_display_truthful_iff {Encoder : Type} (sodium : Sodium) (library : JsonLibrary)
    (opus : OpusEncoderLibrary Encoder) (identity : DeviceIdentity) (encoder : Option Encoder)
    (sessionId : Bytes) (inputs : List PhoneInput) :
    Run.Throughout (SmPhone.step sodium library opus) (fun phone => phone.state.Truthful)
        (SmPhone.create identity encoder sessionId) inputs ↔
      Run.Meets (SmPhone.step sodium library opus) (SmPhone.Allowed sodium library)
        (SmPhone.create identity encoder sessionId) inputs :=
  Run.throughout_iff_meets SmPhone.Consistent
    (fun _ consistent => consistent.shown.truthful)
    (fun _ input consistent => (consistent.step sodium library opus input).1)
    (fun _ input consistent => (consistent.step sodium library opus input).2)
    inputs _ (SmPhone.consistent_create identity encoder sessionId)

instance (phone : PhoneState) : Decidable phone.Truthful :=
  decidable_of_iff
    ((phone.transmits = true → phone.pttState = .connecting ∨ phone.pttState = .live) ∧
      (phone.pttState = .live → phone.pressed = true ∧ phone.connState = .authenticated))
    ⟨fun both => ⟨both.1, both.2⟩, fun truthful => ⟨truthful.transmitting, truthful.live⟩⟩

namespace StandIn

open SmartMic.StandIn SmartMic.Session.StandIn

def encoder : OpusEncoderLibrary Unit := { encodeFloat := fun state _ => (state, some [0]) }

def phonePressesTwice : List PhoneInput :=
  [.beginPairing 0#64 code (scalar 3), .datagram 10#64 moment pair2, .datagram 20#64 moment pair4,
    .press stamp 100#64, .release stamp 200#64, .press stamp 300#64]

def stopped : Bytes := sentBy (sendMessage deskPaired.session .pttStopped 1#64)

end StandIn

/-- The PTT_STOPPED of the first release arrives after the second press: READY is shown
while the microphone is open. -/
theorem phone_shows_ready_while_transmitting :
    ¬ Run.Throughout (SmPhone.step StandIn.sodium StandIn.controlJson StandIn.encoder)
      (fun phone => phone.state.Truthful)
      (SmPhone.create (StandIn.identity 1) (some ()) StandIn.sessionId)
      (StandIn.phonePressesTwice ++ [.datagram 400#64 StandIn.moment StandIn.stopped]) := by
  decide +kernel

end SmartMic.Apps
