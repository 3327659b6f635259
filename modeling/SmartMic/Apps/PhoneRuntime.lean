import SmartMic.Media.PhoneMediaSource
import SmartMic.Session.PeerSession

set_option autoImplicit false

/-! The phone runtime. `PhoneState` is the set of variables the threads of the phone
share, and every handler is a function on it that returns what it passes to
`sendControl`; `SmPhone` puts the peer session, the media sender and the worker's own
variables beside it. Each API call, each datagram and each worker check is one step.

The level meter and the text getters are left out, and so is a handle whose transport
never started: it has no session to speak to. An exception on one of the threads ends
the process. -/

namespace SmartMic.Apps

open SmartMic.Protocol SmartMic.Security SmartMic.Media SmartMic.Session

inductive ConnState where
  | idle
  | pairing
  | authenticated
  | failed
  deriving DecidableEq, Repr

inductive PttState where
  | ready
  | connecting
  | live
  | releasing
  | failed
  deriving DecidableEq, Repr

inductive Haptic where
  | none
  | wentLive
  | returned
  | failed
  deriving DecidableEq, Repr

def kArmTimeoutMs : BitVec 64 := 1500#64
def kReleaseTimeoutMs : BitVec 64 := 800#64

structure Command where
  type : MsgType
  payload : Json

structure PhoneState where
  connState : ConnState
  pttState : PttState
  rttMs : BitVec 32
  haptic : Haptic
  pressed : Bool
  pressedAtMs : BitVec 64
  releasedAtMs : BitVec 64
  pingSentMs : BitVec 64
  lastError : Bytes
  pcStatus : Bytes

def PhoneState.initial : PhoneState :=
  { connState := .idle
    pttState := .ready
    rttMs := BitVec.ofInt 32 (-1)
    haptic := .none
    pressed := false
    pressedAtMs := 0#64
    releasedAtMs := 0#64
    pingSentMs := 0#64
    lastError := []
    pcStatus := [] }

def PhoneState.setError (phone : PhoneState) (text : Bytes) : PhoneState :=
  { phone with lastError := text }

/-! ### Handlers -/

def PhoneState.onPttReady (phone : PhoneState) : PhoneState :=
  if phone.pressed then { phone with pttState := .live, haptic := .wentLive } else phone

def PhoneState.onPttStopped (phone : PhoneState) : PhoneState :=
  { phone with pttState := .ready, haptic := .returned }

def PhoneState.onPong (nowMs : BitVec 64) (phone : PhoneState) : PhoneState :=
  if phone.pingSentMs ≠ 0#64 then
    { phone with rttMs := (nowMs - phone.pingSentMs).setWidth 32 }
  else phone

/-- `onControl` of the phone; none is an exception. -/
def PhoneState.onControl (library : JsonLibrary) (nowMs : BitVec 64) (phone : PhoneState)
    (message : Message) : Option PhoneState :=
  match message.type with
  | .pttReady => some phone.onPttReady
  | .pttStopped => some phone.onPttStopped
  | .pong => some (phone.onPong nowMs)
  | .status =>
      match library.dump message.payload with
      | some text => some { phone with pcStatus := text }
      | none => none
  | .error =>
      match message.payload with
      | .object fields =>
          match JsonFields.value fields "message" (ascii "the PC reported an error") with
          | .found text => some (phone.setError text)
          | .typeError => none
      | _ => none
  | _ => some phone

def PhoneState.onStateChanged (phone : PhoneState) : SessionState → PhoneState
  | .pairing => { phone with connState := .pairing }
  | .authenticated => { phone with connState := .authenticated }
  | .failed =>
      { phone with connState := .failed }.setError
        (ascii "pairing failed -- wrong code, or the code expired")
  | _ => phone

def PhoneState.press (nowMs : BitVec 64) (phone : PhoneState) : PhoneState × List Command :=
  if phone.connState ≠ .authenticated then (phone, [])
  else if phone.pressed then (phone, [])
  else
    ({ phone with pressed := true, pressedAtMs := nowMs, pttState := .connecting },
      [{ type := .startPtt, payload := .object [] }])

def PhoneState.release (nowMs : BitVec 64) (phone : PhoneState) : PhoneState × List Command :=
  -- deliberately not gated on `pressed`
  let phone := { phone with pressed := false }
  if phone.connState ≠ .authenticated then ({ phone with pttState := .ready }, [])
  else
    ({ phone with
        releasedAtMs := nowMs
        pttState := if phone.pttState ≠ .ready then .releasing else phone.pttState },
      [{ type := .stopPtt, payload := .object [(ascii "reason", .string (ascii "release"))] }])

/-- The name `sm_phone_set_mode` sends for a mode number. -/
def modeName (mode : Int) : String :=
  if mode = 1 then "PhoneOnly"
  else if mode = 2 then "LocalOnly"
  else if mode = 3 then "Mute"
  else "Auto"

def PhoneState.setMode (mode : Int) (phone : PhoneState) : List Command :=
  if phone.connState ≠ .authenticated then []
  else
    [{ type := .setMode
       payload := .object [(ascii "mode", .string (ascii (modeName mode)))] }]

def PhoneState.takeHaptic (phone : PhoneState) : Haptic × PhoneState :=
  (phone.haptic, { phone with haptic := .none })

def PhoneState.transmits (phone : PhoneState) : Bool :=
  phone.pressed && phone.connState == .authenticated

/-- The worker's two timeouts: arming must not hang, and a lost PTT_STOPPED must not
pin the display in RELEASING. -/
def PhoneState.checkArming (now : BitVec 64) (phone : PhoneState) : PhoneState :=
  if phone.pttState = .connecting ∧ kArmTimeoutMs < now - phone.pressedAtMs then
    { phone with pttState := .failed, haptic := .failed, pressed := false }.setError
      (ascii "the PC did not accept the microphone in time")
  else phone

def PhoneState.checkReleasing (now : BitVec 64) (phone : PhoneState) : PhoneState :=
  if phone.pttState = .releasing ∧ kReleaseTimeoutMs < now - phone.releasedAtMs then
    { phone with pttState := .ready }
  else phone

/-! ### The handle -/

structure SmPhone (Encoder : Type) where
  state : PhoneState
  peer : PeerSession
  sender : MediaSender Encoder
  sessionId : Bytes
  lastPairingRetry : BitVec 64
  lastPing : BitVec 64
  terminated : Bool

/-- The phone after one step, with the datagrams it handed to its transport. -/
structure PhoneReaction (Encoder : Type) where
  phone : SmPhone Encoder
  sent : List Bytes

section

variable {Encoder : Type}

/-- What the session passes on: the phone has no media callback. -/
def SmPhone.onDelivery (library : JsonLibrary) (nowMs : BitVec 64) (phone : SmPhone Encoder) :
    Delivery → SmPhone Encoder
  | .media _ => phone
  | .control message =>
      match phone.state.onControl library nowMs message with
      | some state => { phone with state := state }
      | none => { phone with terminated := true }

def SmPhone.adopt (library : JsonLibrary) (nowMs : BitVec 64) (phone : SmPhone Encoder)
    (reaction : Reaction) : SmPhone Encoder :=
  let told :=
    if reaction.session.state = phone.peer.state then phone.state
    else phone.state.onStateChanged reaction.session.state
  reaction.delivered.foldl (SmPhone.onDelivery library nowMs)
    { phone with
      peer := reaction.session
      state := told
      terminated := phone.terminated || reaction.threw }

/-- `peer->sendControl(Message::make(type, sessionId, deviceId, peer->nextSeq(), payload))`. -/
def SmPhone.sendControl (sodium : Sodium) (library : JsonLibrary) (stamp : Stamp)
    (phone : SmPhone Encoder) (command : Command) : PhoneReaction Encoder :=
  match phone.peer.nextSeq with
  | (seq, peer) =>
      let reaction := peer.sendControl sodium library
        (Message.make stamp command.type phone.sessionId (peer.self_.deviceId sodium) seq
          command.payload)
      { phone :=
          { phone with
            peer := reaction.session
            terminated := phone.terminated || reaction.threw }
        sent := reaction.sent }

def SmPhone.sendAll (sodium : Sodium) (library : JsonLibrary) (stamp : Stamp)
    (phone : SmPhone Encoder) : List Command → PhoneReaction Encoder
  | [] => { phone := phone, sent := [] }
  | command :: rest =>
      let first := phone.sendControl sodium library stamp command
      let later := first.phone.sendAll sodium library stamp rest
      { phone := later.phone, sent := first.sent ++ later.sent }

/-- `sm_phone_create` up to the start of the worker. -/
def SmPhone.create (identity : DeviceIdentity) (encoder : Option Encoder) (sessionId : Bytes) :
    SmPhone Encoder :=
  { state := PhoneState.initial
    peer := PeerSession.create identity .initiator
    sender := MediaSender.opened encoder
    sessionId := sessionId
    lastPairingRetry := 0#64
    lastPing := 0#64
    terminated := false }

/-- The `beginPairing` that `sm_phone_create` ends with. -/
def SmPhone.beginPairing (sodium : Sodium) (library : JsonLibrary) (nowMs : BitVec 64)
    (phone : SmPhone Encoder) (code : Bytes) (scalar : Scalar) : PhoneReaction Encoder :=
  let reaction := phone.peer.beginPairing sodium library phone.sessionId code scalar
  { phone := phone.adopt library nowMs reaction, sent := reaction.sent }

def SmPhone.press (sodium : Sodium) (library : JsonLibrary) (stamp : Stamp) (nowMs : BitVec 64)
    (phone : SmPhone Encoder) : PhoneReaction Encoder :=
  match phone.state.press nowMs with
  | (_, []) => { phone := phone, sent := [] }
  | (state, commands) =>
      { phone with state := state, sender := phone.sender.resetStream }.sendAll sodium library
        stamp commands

def SmPhone.release (sodium : Sodium) (library : JsonLibrary) (stamp : Stamp) (nowMs : BitVec 64)
    (phone : SmPhone Encoder) : PhoneReaction Encoder :=
  match phone.state.release nowMs with
  | (state, commands) => { phone with state := state }.sendAll sodium library stamp commands

def SmPhone.setMode (sodium : Sodium) (library : JsonLibrary) (stamp : Stamp) (mode : Int)
    (phone : SmPhone Encoder) : PhoneReaction Encoder :=
  phone.sendAll sodium library stamp (phone.state.setMode mode)

def SmPhone.onCaptureFrame (sodium : Sodium) (opus : OpusEncoderLibrary Encoder)
    (phone : SmPhone Encoder) (pcm : List Sample) : PhoneReaction Encoder :=
  if phone.state.transmits = false then { phone := phone, sent := [] }
  else if pcm.length ≠ kFrameSamples then { phone := phone, sent := [] }
  else
    match phone.sender.packFrame opus pcm true with
    | (none, sender) => { phone := { phone with sender := sender }, sent := [] }
    | (some payload, sender) =>
        let reaction := phone.peer.sendMedia sodium payload
        { phone := { phone with sender := sender, peer := reaction.session }
          sent := reaction.sent }

def SmPhone.retryPairing (now : BitVec 64) (phone : SmPhone Encoder) : PhoneReaction Encoder :=
  if phone.state.connState = .pairing ∧ 400#64 < now - phone.lastPairingRetry then
    let reaction := phone.peer.resendPairingHello
    { phone := { phone with peer := reaction.session, lastPairingRetry := now }
      sent := reaction.sent }
  else { phone := phone, sent := [] }

def SmPhone.ping (sodium : Sodium) (library : JsonLibrary) (stamp : Stamp) (now : BitVec 64)
    (phone : SmPhone Encoder) : PhoneReaction Encoder :=
  if 1000#64 < now - phone.lastPing then
    { phone with
      state := { phone.state with pingSentMs := now }
      lastPing := now }.sendControl sodium library stamp
        { type := .ping
          payload := .object [(ascii "pttActive", .boolean phone.state.pressed)] }
  else { phone := phone, sent := [] }

/-- One round of `workerMain`, at the time it read. -/
def SmPhone.workerCheck (sodium : Sodium) (library : JsonLibrary) (stamp : Stamp)
    (now : BitVec 64) (phone : SmPhone Encoder) : PhoneReaction Encoder :=
  let retried := phone.retryPairing now
  if retried.phone.state.connState ≠ .authenticated then retried
  else
    let pinged := retried.phone.ping sodium library stamp now
    { phone :=
        { pinged.phone with
          state := (pinged.phone.state.checkArming now).checkReleasing now }
      sent := retried.sent ++ pinged.sent }

/-! ### One step after another -/

inductive PhoneInput where
  | beginPairing (nowMs : BitVec 64) (code : Bytes) (scalar : Scalar)
  | press (stamp : Stamp) (nowMs : BitVec 64)
  | release (stamp : Stamp) (nowMs : BitVec 64)
  | setMode (stamp : Stamp) (mode : Int)
  | takeHaptic
  | captureFrame (pcm : List Sample)
  | datagram (nowMs : BitVec 64) (moment : Moment) (bytes : Bytes)
  | workerCheck (stamp : Stamp) (now : BitVec 64)

def SmPhone.react (sodium : Sodium) (library : JsonLibrary) (opus : OpusEncoderLibrary Encoder)
    (phone : SmPhone Encoder) : PhoneInput → PhoneReaction Encoder
  | .beginPairing nowMs code scalar => phone.beginPairing sodium library nowMs code scalar
  | .press stamp nowMs => phone.press sodium library stamp nowMs
  | .release stamp nowMs => phone.release sodium library stamp nowMs
  | .setMode stamp mode => phone.setMode sodium library stamp mode
  | .takeHaptic => { phone := { phone with state := phone.state.takeHaptic.2 }, sent := [] }
  | .captureFrame pcm => phone.onCaptureFrame sodium opus pcm
  | .datagram nowMs moment bytes =>
      let reaction := phone.peer.onDatagram sodium library moment bytes
      { phone := phone.adopt library nowMs reaction, sent := reaction.sent }
  | .workerCheck stamp now => phone.workerCheck sodium library stamp now

/-- A process that an exception has ended takes no further step. -/
def SmPhone.step (sodium : Sodium) (library : JsonLibrary) (opus : OpusEncoderLibrary Encoder)
    (phone : SmPhone Encoder) (input : PhoneInput) : SmPhone Encoder :=
  if phone.terminated then phone else (phone.react sodium library opus input).phone

end

end SmartMic.Apps
