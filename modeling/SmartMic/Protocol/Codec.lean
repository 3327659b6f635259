import SmartMic.Protocol.Json

set_option autoImplicit false

/-! Control messages and their codec. The conversions of `get<T>` are those of the
JSON library; a fractional number outside the range of its target is undefined
behaviour there and is taken modulo the width here. -/

namespace SmartMic.Protocol

def kProtocolVersion : BitVec 32 := 1#32
def kMinimumAcceptedVersion : BitVec 32 := 1#32
def kMaxMessageBytes : Nat := 8 * 1024

inductive MsgType where
  | hello | auth | capabilities | ping | pong
  | startPtt | pttPreparing | pttReady | stopPtt | pttStopped
  | setMode | setLocalSource | getStatus | status | error
  deriving DecidableEq, Repr

def MsgType.names : List (MsgType × String) :=
  [(.hello, "HELLO"), (.auth, "AUTH"), (.capabilities, "CAPABILITIES"), (.ping, "PING"),
    (.pong, "PONG"), (.startPtt, "START_PTT"), (.pttPreparing, "PTT_PREPARING"),
    (.pttReady, "PTT_READY"), (.stopPtt, "STOP_PTT"), (.pttStopped, "PTT_STOPPED"),
    (.setMode, "SET_MODE"), (.setLocalSource, "SET_LOCAL_SOURCE"), (.getStatus, "GET_STATUS"),
    (.status, "STATUS"), (.error, "ERROR")]

def MsgType.toText (type : MsgType) : String := (MsgType.names.lookup type).getD "?"

def msgTypeFromString (text : Bytes) : Option MsgType :=
  (MsgType.names.find? fun entry => ascii entry.2 == text).map Prod.fst

structure Message where
  protocolVersion : BitVec 32
  sessionId : Bytes
  messageId : Bytes
  seq : BitVec 64
  timestamp : BitVec 64
  deviceId : Bytes
  type : MsgType
  payload : Json

/-- What `Message::make` draws by itself: an id from the random source, and the time. -/
structure Stamp where
  messageId : Bytes
  nowUnixMs : BitVec 64

def Message.make (stamp : Stamp) (type : MsgType) (sessionId deviceId : Bytes)
    (seq : BitVec 64) (payload : Json) : Message :=
  { protocolVersion := kProtocolVersion
    sessionId := sessionId
    messageId := stamp.messageId
    seq := seq
    timestamp := stamp.nowUnixMs
    deviceId := deviceId
    type := type
    payload := payload }

inductive DecodeError where
  | notJson
  | notAnObject
  | missingField
  | badFieldType
  | unknownType
  | unsupportedVersion
  | tooLarge
  deriving DecidableEq, Repr

/-- A `static_cast` of a fraction to an integer: towards zero. -/
def truncate (value : ℚ) : Int := if value < 0 then ⌈value⌉ else ⌊value⌋

/-- `get<uint32_t>`, which takes booleans as well. -/
def Json.getUint32 : Json → Option (BitVec 32)
  | .unsigned value => some (BitVec.ofNat 32 value)
  | .integer value => some (BitVec.ofInt 32 value)
  | .float value => some (BitVec.ofInt 32 (truncate value))
  | .boolean value => some (if value then 1#32 else 0#32)
  | _ => none

def Json.getUint64 : Json → Option (BitVec 64)
  | .unsigned value => some (BitVec.ofNat 64 value)
  | .integer value => some (BitVec.ofInt 64 value)
  | .float value => some (BitVec.ofInt 64 (truncate value))
  | _ => none

def Json.getString : Json → Option Bytes
  | .string text => some text
  | _ => none

def take {Value : Type} (fields : JsonFields) (key : String) (get : Json → Option Value) :
    Except DecodeError Value :=
  match fields.find key with
  | none => .error .missingField
  | some json =>
      match get json with
      | none => .error .badFieldType
      | some value => .ok value

/-- `is_null() || empty()` of a payload. -/
def Json.isEmpty : Json → Bool
  | .null => true
  | .array items => items.isEmpty
  | .object fields => fields.isEmpty
  | _ => false

/-- The object `encode` dumps, in key order. -/
def Message.toJson (message : Message) : Json :=
  .object <|
    [(ascii "deviceId", .string message.deviceId),
      (ascii "messageId", .string message.messageId)] ++
    (if message.payload.isEmpty then [] else [(ascii "payload", message.payload)]) ++
    [(ascii "protocolVersion", .unsigned message.protocolVersion.toNat),
      (ascii "seq", .unsigned message.seq.toNat),
      (ascii "sessionId", .string message.sessionId),
      (ascii "timestamp", .unsigned message.timestamp.toNat),
      (ascii "type", .string (ascii message.type.toText))]

def encode (library : JsonLibrary) (message : Message) : Option Bytes :=
  library.dump message.toJson

/-- The optional payload: absent is the empty object. -/
def decodePayload (fields : JsonFields) : Except DecodeError Json :=
  match fields.find "payload" with
  | none => .ok (.object [])
  | some (.object payload) => .ok (.object payload)
  | some _ => .error .badFieldType

def decodeFields (fields : JsonFields) : Except DecodeError Message := do
  let protocolVersion ← take fields "protocolVersion" Json.getUint32
  let sessionId ← take fields "sessionId" Json.getString
  let messageId ← take fields "messageId" Json.getString
  let seq ← take fields "seq" Json.getUint64
  let timestamp ← take fields "timestamp" Json.getUint64
  let deviceId ← take fields "deviceId" Json.getString
  let typeName ← take fields "type" Json.getString
  if protocolVersion < kMinimumAcceptedVersion ∨ kProtocolVersion < protocolVersion then
    .error .unsupportedVersion
  else
    match msgTypeFromString typeName with
    | none => .error .unknownType
    | some type => do
        let payload ← decodePayload fields
        .ok { protocolVersion, sessionId, messageId, seq, timestamp, deviceId, type, payload }

def decode (library : JsonLibrary) (text : Bytes) : Except DecodeError Message :=
  if kMaxMessageBytes < text.length then .error .tooLarge
  else
    match library.parse text with
    | none => .error .notJson
    | some (.object fields) => decodeFields fields
    | some _ => .error .notAnObject

end SmartMic.Protocol
