import SmartMic.Protocol.CodecSound

set_option autoImplicit false

/-! A control message through `encode` and `decode`. Of the JSON library one value is
assumed to come back from its text; a signed integer that is not negative comes back as an
unsigned one, which the library's `==` does not tell apart. -/

namespace SmartMic.Protocol

mutual

/-- A value as the parser holds it. -/
def Json.normal : Json → Json
  | .null => .null
  | .boolean value => .boolean value
  | .integer value => if 0 ≤ value then .unsigned value.toNat else .integer value
  | .unsigned value => .unsigned value
  | .float value => .float value
  | .string text => .string text
  | .array items => .array (normalItems items)
  | .object fields => .object (normalFields fields)

def normalItems : List Json → List Json
  | [] => []
  | item :: rest => item.normal :: normalItems rest

def normalFields : JsonFields → JsonFields
  | [] => []
  | (key, value) :: rest => (key, value.normal) :: normalFields rest

end

/-- The value can be written, and its text is read as the same value. -/
def JsonLibrary.Inverts (library : JsonLibrary) (json : Json) : Prop :=
  ∃ text, library.dump json = some text ∧ library.parse text = some json.normal

/-- The message with its payload as the parser holds it. -/
def Message.normal (message : Message) : Message :=
  { message with payload := message.payload.normal }

/-! ### What the decoder finds in an encoded message -/

/-- The fields that `encode` writes, with the payload as the parser holds it. -/
def encodedFields (message : Message) (payload : JsonFields) : JsonFields :=
  [(ascii "deviceId", .string message.deviceId),
    (ascii "messageId", .string message.messageId)] ++
  (if payload.isEmpty then [] else [(ascii "payload", .object payload)]) ++
  [(ascii "protocolVersion", .unsigned message.protocolVersion.toNat),
    (ascii "seq", .unsigned message.seq.toNat),
    (ascii "sessionId", .string message.sessionId),
    (ascii "timestamp", .unsigned message.timestamp.toNat),
    (ascii "type", .string (ascii message.type.toText))]

theorem normalFields_isEmpty (fields : JsonFields) :
    (normalFields fields).isEmpty = fields.isEmpty := by
  cases fields with
  | nil => rfl
  | cons field rest =>
      obtain ⟨key, value⟩ := field
      rfl

theorem Message.toJson_normal {message : Message} {payload : JsonFields}
    (object : message.payload = .object payload) :
    message.toJson.normal = .object (encodedFields message (normalFields payload)) := by
  unfold Message.toJson encodedFields
  rw [object, normalFields_isEmpty]
  change (Json.object (_ ++ (if payload.isEmpty then [] else _) ++ _)).normal = _
  cases payload.isEmpty with
  | true => rfl
  | false => rfl

theorem msgTypeFromString_toText (type : MsgType) :
    msgTypeFromString (ascii type.toText) = some type := by
  cases type <;> decide

theorem getUint64_toNat (value : BitVec 64) :
    (Json.unsigned value.toNat).getUint64 = some value := by
  change some (BitVec.ofNat 64 value.toNat) = some value
  rw [BitVec.ofNat_toNat, BitVec.setWidth_eq]

theorem decodes_encoded (message : Message) (payload : JsonFields)
    (version : message.protocolVersion = kProtocolVersion) :
    Decodes (encodedFields message payload) { message with payload := .object payload } := by
  unfold encodedFields
  cases empty : payload.isEmpty with
  | true =>
      have none : payload = [] := List.isEmpty_iff.mp empty
      exact
        { protocolVersion := by
            rw [version]
            rfl
          sessionId := rfl
          messageId := rfl
          seq := getUint64_toNat message.seq
          timestamp := getUint64_toNat message.timestamp
          deviceId := rfl
          version := version
          type := ⟨_, rfl, msgTypeFromString_toText message.type⟩
          payload := by
            rw [none]
            rfl }
  | false =>
      exact
        { protocolVersion := by
            rw [version]
            rfl
          sessionId := rfl
          messageId := rfl
          seq := getUint64_toNat message.seq
          timestamp := getUint64_toNat message.timestamp
          deviceId := rfl
          version := version
          type := ⟨_, rfl, msgTypeFromString_toText message.type⟩
          payload := rfl }

/-- A message whose JSON value comes back from its text comes back itself. -/
theorem decode_encode {library : JsonLibrary} {message : Message}
    (version : message.protocolVersion = kProtocolVersion)
    (object : ∃ payload, message.payload = .object payload)
    (inverts : library.Inverts message.toJson) :
    ∃ text, encode library message = some text ∧
      (text.length ≤ kMaxMessageBytes → decode library text = .ok message.normal) := by
  obtain ⟨payload, isObject⟩ := object
  obtain ⟨text, dumped, parsed⟩ := inverts
  rw [Message.toJson_normal isObject] at parsed
  refine ⟨text, dumped, fun short => ?_⟩
  rw [decode_ok_iff]
  have same : message.normal = { message with payload := .object (normalFields payload) } := by
    unfold Message.normal
    rw [isObject]
    rfl
  rw [same]
  exact ⟨short, _, parsed, decodes_encoded message _ version⟩

/-- Encoding and decoding gives the same message, for every message of version one with an
object for a payload, and for every message that was decoded. -/
theorem codec_roundTrip (library : JsonLibrary) :
    (∀ message : Message, message.protocolVersion = 1#32 →
      (∃ payload, message.payload = .object payload) → library.Inverts message.toJson →
      ∃ text, encode library message = some text ∧
        (text.length ≤ kMaxMessageBytes → decode library text = .ok message.normal)) ∧
    ∀ received message, decode library received = .ok message →
      library.Inverts message.toJson →
      ∃ text, encode library message = some text ∧
        (text.length ≤ kMaxMessageBytes → decode library text = .ok message.normal) := by
  constructor
  · intro message version object inverts
    exact decode_encode version object inverts
  · intro received message decoded inverts
    obtain ⟨-, fields, -, decodes⟩ := (decode_ok_iff _ _ _).mp decoded
    refine decode_encode decodes.version ?_ inverts
    rcases (decodePayload_ok_iff _ _).mp decodes.payload with ⟨-, empty⟩ | ⟨found, -, same⟩
    · exact ⟨[], empty⟩
    · exact ⟨found, same⟩

def sampleMessage : Message :=
  { protocolVersion := 1#32
    sessionId := ascii "s"
    messageId := ascii "m"
    seq := 7#64
    timestamp := 1000#64
    deviceId := ascii "d"
    type := .setMode
    payload := .object
      [(ascii "deep", .object [(ascii "level", .unsigned 5), (ascii "on", .boolean true)]),
        (ascii "mode", .string (ascii "PhoneOnly"))] }

set_option maxRecDepth 2000 in
open StandIn in
theorem codec_roundTrip_sample :
    ∃ text, encode controlJson sampleMessage = some text ∧
      (text.length ≤ kMaxMessageBytes → decode controlJson text = .ok sampleMessage.normal) :=
  (codec_roundTrip controlJson).1 sampleMessage rfl ⟨_, rfl⟩
    ⟨(controlJson.dump sampleMessage.toJson).getD [], by rfl, by rfl⟩

end SmartMic.Protocol
