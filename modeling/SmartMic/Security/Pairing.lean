import SmartMic.Security.Identity

set_option autoImplicit false

/-! One side of a pairing exchange, and the book of pairing offers. The random scalar
of an exchange is an argument of its construction. -/

namespace SmartMic.Security

inductive PairingRole where
  | initiator
  | responder
  deriving DecidableEq, Repr

inductive PairingError where
  | none
  | notReady
  | invalidPeerElement
  | scalarMultFailed
  | badSignature
  | wrongState
  deriving DecidableEq, Repr

def kDsiGenerator : Bytes := ascii "SmartMic-CPace-v1-generator"
def kDsiTranscript : Bytes := ascii "SmartMic-CPace-v1-transcript"
def kDsiSessionKey : Bytes := ascii "SmartMic-CPace-v1-sessionkey"
def kDsiAuth : Bytes := ascii "SmartMic-CPace-v1-auth"

/-- What `appendLengthPrefixed` appends: the low four bytes of the length, then the
data. -/
def lengthPrefixed (data : Bytes) : Bytes := littleEndian 4 data.length ++ data

structure PairingExchange where
  self_ : DeviceIdentity
  role : PairingRole
  sessionId : Bytes
  selfPublic : PublicKey
  peerPublic : PublicKey
  generator : GroupElement
  ourShare : GroupElement
  peerShare : GroupElement
  scalar : Scalar
  sessionKey : SessionKey
  transcript : Bytes
  derived : Bool

def generatorSeed (sessionId code : Bytes) : Bytes :=
  lengthPrefixed kDsiGenerator ++ lengthPrefixed code ++ lengthPrefixed sessionId

/-- The code is hashed into the generator. -/
def generatorFor (sodium : Sodium) (sessionId code : Bytes) : GroupElement :=
  sodium.ristrettoFromHash (sodium.genericHash 64 [] (generatorSeed sessionId code))

def shareFor (sodium : Sodium) (scalar : Scalar) (generator : GroupElement) : GroupElement :=
  (sodium.ristrettoScalarMult scalar generator).getD (FixedBytes.zero _)

/-- The constructor of `PairingExchange`. -/
def PairingExchange.create (sodium : Sodium) (self_ : DeviceIdentity) (role : PairingRole)
    (sessionId code : Bytes) (scalar : Scalar) : PairingExchange :=
  { self_ := self_
    role := role
    sessionId := sessionId
    selfPublic := self_.public_
    peerPublic := FixedBytes.zero _
    generator := generatorFor sodium sessionId code
    ourShare := shareFor sodium scalar (generatorFor sodium sessionId code)
    peerShare := FixedBytes.zero _
    scalar := scalar
    sessionKey := FixedBytes.zero _
    transcript := []
    derived := false }

def transcriptOf (sessionId : Bytes) (initiatorPub responderPub : PublicKey)
    (initiatorY responderY : GroupElement) : Bytes :=
  lengthPrefixed kDsiTranscript ++ lengthPrefixed [1, 0, 0, 0] ++ lengthPrefixed sessionId ++
    lengthPrefixed initiatorPub.val ++ lengthPrefixed responderPub.val ++
    lengthPrefixed initiatorY.val ++ lengthPrefixed responderY.val

def PairingExchange.buildTranscript (exchange : PairingExchange) : Bytes :=
  match exchange.role with
  | .initiator =>
      transcriptOf exchange.sessionId exchange.selfPublic exchange.peerPublic exchange.ourShare
        exchange.peerShare
  | .responder =>
      transcriptOf exchange.sessionId exchange.peerPublic exchange.selfPublic exchange.peerShare
        exchange.ourShare

def deriveSessionKey (sodium : Sodium) (shared : GroupElement) (transcript : Bytes) : SessionKey :=
  sodium.genericHash 32 kDsiSessionKey (shared.val ++ transcript)

def PairingExchange.onPeer (sodium : Sodium) (exchange : PairingExchange) (peerPublic : PublicKey)
    (peerShare : GroupElement) : PairingError × PairingExchange :=
  if exchange.derived then (.wrongState, exchange)
  else if isZero peerShare.val then (.invalidPeerElement, exchange)
  else if sodium.ristrettoIsValidPoint peerShare = false then (.invalidPeerElement, exchange)
  else
    let exchange := { exchange with peerPublic := peerPublic, peerShare := peerShare }
    match sodium.ristrettoScalarMult exchange.scalar peerShare with
    | none => (.scalarMultFailed, exchange)
    | some shared =>
        (.none, { exchange with
          transcript := exchange.buildTranscript
          sessionKey := deriveSessionKey sodium shared exchange.buildTranscript
          -- one-shot; no reuse
          scalar := FixedBytes.zero _
          derived := true })

def authMessage (transcript : Bytes) (sessionKey : SessionKey) : Bytes :=
  lengthPrefixed kDsiAuth ++ lengthPrefixed transcript ++ lengthPrefixed sessionKey.val

def PairingExchange.authSignature (sodium : Sodium) (exchange : PairingExchange) : Signature :=
  if exchange.derived then
    exchange.self_.sign sodium (authMessage exchange.transcript exchange.sessionKey)
  else FixedBytes.zero _

def PairingExchange.verifyPeerAuth (sodium : Sodium) (exchange : PairingExchange)
    (signature : Signature) : PairingError :=
  if exchange.derived then
    if DeviceIdentity.verify sodium exchange.peerPublic
        (authMessage exchange.transcript exchange.sessionKey) signature then .none
    else .badSignature
  else .notReady

/-! ### Offers -/

structure PairingPolicy where
  ttlSeconds : BitVec 32 := 300#32
  maxAttempts : BitVec 32 := 5#32
  deriving DecidableEq

structure PairingOffer where
  sessionId : Bytes
  code : Bytes
  expiresAtMs : BitVec 64
  deriving DecidableEq

inductive OfferStatus where
  | valid
  | expired
  | throttled
  | unknown
  | consumed
  deriving DecidableEq, Repr

def OfferStatus.toText : OfferStatus → String
  | .valid => "valid"
  | .expired => "expired"
  | .throttled => "throttled"
  | .unknown => "unknown session"
  | .consumed => "already used"

structure PairingOfferBook where
  policy : PairingPolicy
  offer : PairingOffer
  has : Bool
  consumed : Bool
  attempts : BitVec 32
  deriving DecidableEq

def PairingOfferBook.create (policy : PairingPolicy) : PairingOfferBook :=
  { policy := policy
    offer := { sessionId := [], code := [], expiresAtMs := 0#64 }
    has := false
    consumed := false
    attempts := 0#32 }

/-- `issue`, with the session id and the code it drew or was given. -/
def PairingOfferBook.issue (book : PairingOfferBook) (sessionId code : Bytes)
    (nowMs : BitVec 64) : PairingOfferBook :=
  { book with
    offer :=
      { sessionId := sessionId
        code := code
        expiresAtMs := nowMs + book.policy.ttlSeconds.setWidth 64 * 1000#64 }
    has := true
    consumed := false
    attempts := 0#32 }

def PairingOfferBook.check (book : PairingOfferBook) (sessionId : Bytes) (nowMs : BitVec 64) :
    OfferStatus :=
  if book.has = false ∨ sessionId ≠ book.offer.sessionId then .unknown
  else if book.consumed then .consumed
  else if book.offer.expiresAtMs ≤ nowMs then .expired
  else if book.policy.maxAttempts ≤ book.attempts then .throttled
  else .valid

def PairingOfferBook.hasOutstanding (book : PairingOfferBook) (nowMs : BitVec 64) : Bool :=
  book.has && !book.consumed && decide (nowMs < book.offer.expiresAtMs) &&
    decide (book.attempts < book.policy.maxAttempts)

def PairingOfferBook.verify (book : PairingOfferBook) (sessionId code : Bytes)
    (nowMs : BitVec 64) : OfferStatus × PairingOfferBook :=
  if book.has = false ∨ sessionId ≠ book.offer.sessionId then (.unknown, book)
  else if book.consumed then (.consumed, book)
  else if book.offer.expiresAtMs ≤ nowMs then (.expired, book)
  else if book.policy.maxAttempts ≤ book.attempts then (.throttled, book)
  else
    -- counted before comparing
    let book := { book with attempts := book.attempts + 1#32 }
    if code = book.offer.code then (.valid, book)
    else if book.policy.maxAttempts ≤ book.attempts then (.throttled, book)
    else (.unknown, book)

def PairingOfferBook.noteFailedAttempt (book : PairingOfferBook) (sessionId : Bytes) :
    PairingOfferBook :=
  if book.has = true ∧ sessionId = book.offer.sessionId then
    { book with attempts := book.attempts + 1#32 }
  else book

def PairingOfferBook.consume (book : PairingOfferBook) (sessionId : Bytes) : PairingOfferBook :=
  if book.has = true ∧ sessionId = book.offer.sessionId then { book with consumed := true }
  else book

def PairingOfferBook.clear (book : PairingOfferBook) : PairingOfferBook :=
  { book with has := false }

end SmartMic.Security
