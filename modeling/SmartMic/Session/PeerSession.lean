import SmartMic.Protocol.Codec
import SmartMic.Media.SecureChannel

set_option autoImplicit false

/-! The datagram multiplexer and session state shared by both ends. Every entry point
is a function from the session to a reaction: the session after it, the datagrams
handed to the transport, the callbacks made, and whether an exception left it.

The offer book behind the responder's pointer is kept by value; `withBook` is how its
owner works on it. Randomness and the clock are arguments. Log lines and the
state-change callback are left out. -/

namespace SmartMic.Session

open SmartMic.Protocol SmartMic.Security SmartMic.Media

/-- `Tag`, by its byte. -/
def tagPairing : UInt8 := 0x00
def tagControl : UInt8 := 0x01
def tagMedia : UInt8 := 0x02

inductive SessionState where
  | idle
  | pairing
  | authenticated
  | failed
  | revoked
  deriving DecidableEq, Repr

structure PeerSession where
  self_ : DeviceIdentity
  role : PairingRole
  exchange : Option PairingExchange
  book : Option PairingOfferBook
  pairingSessionId : Bytes
  pairingHello : Bytes
  pendingCode : Bytes
  peerPublic : PublicKey
  havePeerPublic : Bool
  channel : SecureChannel
  sessionKey : SessionKey
  state : SessionState
  seq : BitVec 64
  rejected : Nat
  pairingFailures : Nat
  controlReplay : ReplayWindow 512

def PeerSession.create (self_ : DeviceIdentity) (role : PairingRole) : PeerSession :=
  { self_ := self_
    role := role
    exchange := none
    book := none
    pairingSessionId := []
    pairingHello := []
    pendingCode := []
    peerPublic := FixedBytes.zero _
    havePeerPublic := false
    channel := SecureChannel.create
    sessionKey := FixedBytes.zero _
    state := .idle
    seq := 0#64
    rejected := 0
    pairingFailures := 0
    controlReplay := ReplayWindow.fresh 512 }

inductive Delivery where
  | control (message : Message)
  | media (payload : Bytes)

structure Reaction where
  session : PeerSession
  sent : List Bytes
  delivered : List Delivery
  threw : Bool

def Reaction.quiet (session : PeerSession) : Reaction :=
  { session := session, sent := [], delivered := [], threw := false }

def Reaction.throwing (session : PeerSession) : Reaction :=
  { session := session, sent := [], delivered := [], threw := true }

structure Moment where
  nowMs : BitVec 64
  scalar : Scalar

/-! ### Pairing texts -/

def fromB64 (sodium : Sodium) (fields : JsonFields) (key : String) (size : Nat) :
    Option (FixedBytes size) :=
  match fields.find key with
  | some (.string text) => FixedBytes.ofBytes size (fromBase64 sodium text)
  | _ => none

def pair1Json (sodium : Sodium) (sid : Bytes) (public_ : PublicKey) (share : GroupElement) :
    Json :=
  .object
    [(ascii "pub", .string (toBase64 sodium public_.val)),
      (ascii "share", .string (toBase64 sodium share.val)),
      (ascii "sid", .string sid),
      (ascii "t", .string (ascii "PAIR1"))]

def pair2Json (sodium : Sodium) (public_ : PublicKey) (share : GroupElement) : Json :=
  .object
    [(ascii "pub", .string (toBase64 sodium public_.val)),
      (ascii "share", .string (toBase64 sodium share.val)),
      (ascii "t", .string (ascii "PAIR2"))]

def pair3Json (sodium : Sodium) (signature : Signature) : Json :=
  .object
    [(ascii "sig", .string (toBase64 sodium signature.val)),
      (ascii "t", .string (ascii "PAIR3"))]

def pair4Json (sodium : Sodium) (signature : Signature) : Json :=
  .object
    [(ascii "sig", .string (toBase64 sodium signature.val)),
      (ascii "t", .string (ascii "PAIR4"))]

def pairErrJson (reason : String) : Json :=
  .object
    [(ascii "reason", .string (ascii reason)),
      (ascii "t", .string (ascii "PAIRERR"))]

/-! ### Control surface -/

def PeerSession.armPairing (session : PeerSession) (sessionId code : Bytes)
    (book : Option PairingOfferBook) : PeerSession :=
  { session with
    pairingSessionId := sessionId
    pendingCode := code
    book := book
    exchange := none
    state := .pairing }

/-- The owner of the book works on it. -/
def PeerSession.withBook (session : PeerSession)
    (work : PairingOfferBook → PairingOfferBook) : PeerSession :=
  { session with book := session.book.map work }

def PeerSession.beginPairing (sodium : Sodium) (library : JsonLibrary) (session : PeerSession)
    (sessionId code : Bytes) (scalar : Scalar) : Reaction :=
  let exchange := PairingExchange.create sodium session.self_ session.role sessionId code scalar
  let session := { session with
    pairingSessionId := sessionId
    exchange := some exchange
    state := .pairing }
  match library.dump (pair1Json sodium sessionId session.self_.public_ exchange.ourShare) with
  | none => .throwing session
  | some hello =>
      { session := { session with pairingHello := hello }
        sent := [tagPairing :: hello]
        delivered := []
        threw := false }

def PeerSession.resendPairingHello (session : PeerSession) : Reaction :=
  if session.state ≠ .pairing ∨ session.pairingHello = [] then .quiet session
  else
    { session := session
      sent := [tagPairing :: session.pairingHello]
      delivered := []
      threw := false }

def PeerSession.sendDirection (session : PeerSession) : Direction :=
  match session.role with
  | .initiator => .phoneToPc
  | .responder => .pcToPhone

def PeerSession.adoptSessionKey (sodium : Sodium) (session : PeerSession) (key : SessionKey) :
    PeerSession :=
  { session with
    sessionKey := key
    channel := session.channel.init sodium key session.sendDirection
    state := .authenticated }

def PeerSession.establish (sodium : Sodium) (session : PeerSession) (exchange : PairingExchange) :
    PeerSession :=
  { session with
    sessionKey := exchange.sessionKey
    channel := session.channel.init sodium exchange.sessionKey session.sendDirection
    controlReplay := ReplayWindow.fresh 512
    book := session.book.map fun book => book.consume session.pairingSessionId
    -- the code is destroyed the moment it has done its job
    pendingCode := []
    state := .authenticated }

/-! ### Pairing datagrams -/

def PeerSession.reject (session : PeerSession) : Reaction :=
  .quiet { session with rejected := session.rejected + 1 }

/-- `sendPairingJson(message.dump())` and what follows it. -/
def PeerSession.sendPairingJson (library : JsonLibrary) (session : PeerSession) (message : Json)
    (next : Reaction) : Reaction :=
  match library.dump message with
  | none => .throwing session
  | some text => { next with sent := (tagPairing :: text) :: next.sent }

/-- `++pairingFailures_`, with the attempt charged to the book. -/
def PeerSession.chargeFailure (session : PeerSession) : PeerSession :=
  { session with
    pairingFailures := session.pairingFailures + 1
    book := session.book.map fun book => book.noteFailedAttempt session.pairingSessionId }

/-- Why the book refuses a pairing now; without a book nothing does. -/
def PeerSession.refusal (session : PeerSession) (sid : Bytes) (nowMs : BitVec 64) :
    Option OfferStatus :=
  match session.book with
  | none => none
  | some book =>
      match book.check sid nowMs with
      | .valid => none
      | status => some status

/-- A PAIR1 that is no retry: a new exchange takes the place of the old one. -/
def PeerSession.startExchange (sodium : Sodium) (library : JsonLibrary) (scalar : Scalar)
    (session : PeerSession) (pub : PublicKey) (share : GroupElement) : Reaction :=
  let exchange := PairingExchange.create sodium session.self_ session.role
    session.pairingSessionId session.pendingCode scalar
  match exchange.onPeer sodium pub share with
  | (.none, exchange) =>
      let session := { session with
        exchange := some exchange
        peerPublic := pub
        havePeerPublic := true }
      session.sendPairingJson library
        (pair2Json sodium session.self_.public_ exchange.ourShare) (.quiet session)
  | (_, exchange) =>
      let session := { session with exchange := some exchange }
      session.chargeFailure.sendPairingJson library (pairErrJson "bad element")
        (.quiet { session.chargeFailure with state := .failed })

def PeerSession.onPair1 (sodium : Sodium) (library : JsonLibrary) (moment : Moment)
    (session : PeerSession) (fields : JsonFields) : Reaction :=
  match fields.value "sid" [] with
  | .typeError => .throwing session
  | .found sid =>
      if sid ≠ session.pairingSessionId then session.reject
      else
        match session.refusal sid moment.nowMs with
        | some status =>
            session.sendPairingJson library (pairErrJson status.toText)
              (.quiet { session with state := .failed })
        | none =>
            match fromB64 sodium fields "pub" kPublicKeyBytes,
                fromB64 sodium fields "share" kGroupElementBytes with
            | some pub, some share =>
                match session.exchange with
                | some exchange =>
                    if session.havePeerPublic = true ∧ session.peerPublic = pub then
                      -- a retried PAIR1: our PAIR2 was lost
                      session.sendPairingJson library
                        (pair2Json sodium session.self_.public_ exchange.ourShare) (.quiet session)
                    else session.startExchange sodium library moment.scalar pub share
                | none => session.startExchange sodium library moment.scalar pub share
            | _, _ => session.reject

def PeerSession.onPair2 (sodium : Sodium) (library : JsonLibrary) (session : PeerSession)
    (fields : JsonFields) : Reaction :=
  match session.exchange with
  | none => session.reject
  | some exchange =>
      match fromB64 sodium fields "pub" kPublicKeyBytes,
          fromB64 sodium fields "share" kGroupElementBytes with
      | some pub, some share =>
          match exchange.onPeer sodium pub share with
          | (.none, exchange) =>
              let session := { session with
                exchange := some exchange
                peerPublic := pub
                havePeerPublic := true }
              session.sendPairingJson library (pair3Json sodium (exchange.authSignature sodium))
                (.quiet session)
          | (_, exchange) =>
              .quiet { session with
                exchange := some exchange
                pairingFailures := session.pairingFailures + 1
                state := .failed }
      | _, _ => session.reject

def PeerSession.onPair3 (sodium : Sodium) (library : JsonLibrary) (session : PeerSession)
    (fields : JsonFields) : Reaction :=
  match session.exchange with
  | none => session.reject
  | some exchange =>
      match fromB64 sodium fields "sig" kSignatureBytes with
      | none => session.reject
      | some signature =>
          match exchange.verifyPeerAuth sodium signature with
          | .none =>
              session.sendPairingJson library (pair4Json sodium (exchange.authSignature sodium))
                (.quiet (session.establish sodium exchange))
          | _ =>
              session.chargeFailure.sendPairingJson library (pairErrJson "auth failed")
                (.quiet { session.chargeFailure with state := .failed })

def PeerSession.onPair4 (sodium : Sodium) (session : PeerSession) (fields : JsonFields) :
    Reaction :=
  match session.exchange with
  | none => session.reject
  | some exchange =>
      match fromB64 sodium fields "sig" kSignatureBytes with
      | none => session.reject
      | some signature =>
          match exchange.verifyPeerAuth sodium signature with
          | .none => .quiet (session.establish sodium exchange)
          | _ =>
              .quiet { session with
                pairingFailures := session.pairingFailures + 1
                state := .failed }

def PeerSession.onPairErr (session : PeerSession) (fields : JsonFields) : Reaction :=
  let counted := { session with pairingFailures := session.pairingFailures + 1 }
  match fields.value "reason" (ascii "?") with
  | .typeError => .throwing counted
  | .found _ => .quiet { counted with state := .failed }

/-- The dispatch of `handlePairing` on the type of a message. -/
def PeerSession.onPairingMessage (sodium : Sodium) (library : JsonLibrary) (moment : Moment)
    (session : PeerSession) (type : Bytes) (fields : JsonFields) : Reaction :=
  if type = ascii "PAIR1" ∧ session.role = .responder then
    session.onPair1 sodium library moment fields
  else if type = ascii "PAIR2" ∧ session.role = .initiator then
    session.onPair2 sodium library fields
  else if type = ascii "PAIR3" ∧ session.role = .responder then
    session.onPair3 sodium library fields
  else if type = ascii "PAIR4" ∧ session.role = .initiator then
    session.onPair4 sodium fields
  else if type = ascii "PAIRERR" then session.onPairErr fields
  else session.reject

/-- The head of `handlePairing`: an object with a type, if it is one. -/
inductive PairingText where
  | malformed
  | typeError
  | message (type : Bytes) (fields : JsonFields)

def readPairing (library : JsonLibrary) (text : Bytes) : PairingText :=
  match library.parse text with
  | some (.object fields) =>
      match JsonFields.find fields "t" with
      | none => .malformed
      | some (.string type) => .message type fields
      | some _ => .typeError
  | _ => .malformed

def PeerSession.handlePairing (sodium : Sodium) (library : JsonLibrary) (moment : Moment)
    (session : PeerSession) (text : Bytes) : Reaction :=
  match readPairing library text with
  | .malformed => session.reject
  | .typeError => .throwing session
  | .message type fields => session.onPairingMessage sodium library moment type fields

/-! ### All datagrams -/

/-- A body that has opened, by its tag. -/
def PeerSession.dispatch (library : JsonLibrary) (session : PeerSession) (tag : UInt8)
    (plain : Bytes) : Reaction :=
  if tag = tagMedia then
    { session := session, sent := [], delivered := [.media plain], threw := false }
  else if tag = tagControl then
    match decode library plain with
    | .error _ => session.reject
    | .ok message =>
        -- sealed and replay-checked
        match session.controlReplay.accept message.seq with
        | (false, controlReplay) =>
            PeerSession.reject { session with controlReplay := controlReplay }
        | (true, controlReplay) =>
            { session := { session with controlReplay := controlReplay }
              sent := []
              delivered := [.control message]
              threw := false }
  else session.reject

def PeerSession.onDatagram (sodium : Sodium) (library : JsonLibrary) (moment : Moment)
    (session : PeerSession) (datagram : Bytes) : Reaction :=
  match datagram with
  | [] => session.reject
  | tag :: body =>
      if tag = tagPairing then session.handlePairing sodium library moment body
      else if session.state ≠ .authenticated then session.reject
      else
        match session.channel.open_ sodium body with
        | (none, channel) => PeerSession.reject { session with channel := channel }
        | (some plain, channel) =>
            PeerSession.dispatch library { session with channel := channel } tag plain

/-! ### Sending -/

def PeerSession.nextSeq (session : PeerSession) : BitVec 64 × PeerSession :=
  (session.seq + 1#64, { session with seq := session.seq + 1#64 })

def PeerSession.sendSealed (sodium : Sodium) (session : PeerSession) (tag : UInt8)
    (plain : Bytes) : Reaction :=
  match session.channel.seal sodium plain with
  | (none, channel) => .quiet { session with channel := channel }
  | (some packet, channel) =>
      { session := { session with channel := channel }
        sent := [tag :: packet]
        delivered := []
        threw := false }

def PeerSession.sendControl (sodium : Sodium) (library : JsonLibrary) (session : PeerSession)
    (message : Message) : Reaction :=
  if session.state ≠ .authenticated then .quiet session
  else
    match encode library message with
    | none => .throwing session
    | some text => session.sendSealed sodium tagControl text

def PeerSession.sendMedia (sodium : Sodium) (session : PeerSession) (payload : Bytes) : Reaction :=
  if session.state ≠ .authenticated then .quiet session
  else session.sendSealed sodium tagMedia payload

/-! ### One call after another -/

inductive SessionInput where
  | datagram (moment : Moment) (bytes : Bytes)
  | armPairing (sessionId code : Bytes) (book : Option PairingOfferBook)
  | beginPairing (sessionId code : Bytes) (scalar : Scalar)
  | resendPairingHello
  | adoptSessionKey (key : SessionKey)
  | sendControl (message : Message)
  | sendMedia (payload : Bytes)
  | withBook (work : PairingOfferBook → PairingOfferBook)

def PeerSession.react (sodium : Sodium) (library : JsonLibrary) (session : PeerSession) :
    SessionInput → Reaction
  | .datagram moment bytes => session.onDatagram sodium library moment bytes
  | .armPairing sessionId code book => .quiet (session.armPairing sessionId code book)
  | .beginPairing sessionId code scalar =>
      session.beginPairing sodium library sessionId code scalar
  | .resendPairingHello => session.resendPairingHello
  | .adoptSessionKey key => .quiet (session.adoptSessionKey sodium key)
  | .sendControl message => session.sendControl sodium library message
  | .sendMedia payload => session.sendMedia sodium payload
  | .withBook work => .quiet (session.withBook work)

def PeerSession.step (sodium : Sodium) (library : JsonLibrary) (session : PeerSession)
    (input : SessionInput) : PeerSession :=
  (session.react sodium library input).session

end SmartMic.Session
