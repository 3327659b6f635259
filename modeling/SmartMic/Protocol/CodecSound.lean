import SmartMic.Protocol.Codec
import SmartMic.Protocol.StandIn

set_option autoImplicit false

/-! What a decoded control message says of the text it came from. A number counts as an
integer by its value, as in the schema, so that `1.0` is one. -/

namespace SmartMic.Protocol

/-! ### What the decoder checks -/

theorem except_bind_ok_iff {Failure First Second : Type} (first : Except Failure First)
    (next : First → Except Failure Second) (result : Second) :
    (first >>= next) = .ok result ↔ ∃ value, first = .ok value ∧ next value = .ok result := by
  cases first with
  | error failure => exact ⟨nofun, fun ⟨_, impossible, _⟩ => nomatch impossible⟩
  | ok value =>
      constructor
      · exact fun done => ⟨value, rfl, done⟩
      · rintro ⟨_, same, done⟩
        cases same
        exact done

theorem take_ok_iff {Value : Type} (fields : JsonFields) (key : String)
    (get : Json → Option Value) (value : Value) :
    take fields key get = .ok value ↔ (fields.find key).bind get = some value := by
  unfold take
  cases fields.find key with
  | none => simp
  | some json =>
      rw [Option.bind_some]
      dsimp only
      cases get json with
      | none => simp
      | some found => simp

theorem find_string_iff (fields : JsonFields) (key : String) (text : Bytes) :
    (fields.find key).bind Json.getString = some text ↔ fields.find key = some (.string text) := by
  cases fields.find key with
  | none => exact ⟨nofun, nofun⟩
  | some json =>
      rw [Option.bind_some, Option.some_inj]
      cases json with
      | string found =>
          rw [Json.string.injEq]
          exact Option.some_inj
      | _ => exact ⟨nofun, nofun⟩

/-- The fields as the library converts them, and the checks that they pass. -/
structure Decodes (fields : JsonFields) (message : Message) : Prop where
  protocolVersion : (fields.find "protocolVersion").bind Json.getUint32 =
    some message.protocolVersion
  sessionId : fields.find "sessionId" = some (.string message.sessionId)
  messageId : fields.find "messageId" = some (.string message.messageId)
  seq : (fields.find "seq").bind Json.getUint64 = some message.seq
  timestamp : (fields.find "timestamp").bind Json.getUint64 = some message.timestamp
  deviceId : fields.find "deviceId" = some (.string message.deviceId)
  version : message.protocolVersion = kProtocolVersion
  type : ∃ name, fields.find "type" = some (.string name) ∧
    msgTypeFromString name = some message.type
  payload : decodePayload fields = .ok message.payload

theorem version_unsupported_iff (version : BitVec 32) :
    (version < kMinimumAcceptedVersion ∨ kProtocolVersion < version) ↔
      version ≠ kProtocolVersion := by
  unfold kMinimumAcceptedVersion kProtocolVersion
  constructor
  · rintro outside rfl
    rcases outside with below | above
    · exact absurd below (by decide)
    · exact absurd above (by decide)
  · intro other
    bv_omega

theorem decodeFields_ok_iff (fields : JsonFields) (message : Message) :
    decodeFields fields = .ok message ↔ Decodes fields message := by
  unfold decodeFields
  simp only [except_bind_ok_iff, take_ok_iff, find_string_iff, version_unsupported_iff]
  constructor
  · rintro ⟨version, versionOk, sessionId, sessionIdOk, messageId, messageIdOk, seq, seqOk,
      timestamp, timestampOk, deviceId, deviceIdOk, name, nameOk, rest⟩
    split at rest
    · cases rest
    · rename_i current
      split at rest
      · cases rest
      · rename_i type known
        obtain ⟨payload, payloadOk, done⟩ := (except_bind_ok_iff _ _ _).mp rest
        cases done
        exact
          { protocolVersion := versionOk
            sessionId := sessionIdOk
            messageId := messageIdOk
            seq := seqOk
            timestamp := timestampOk
            deviceId := deviceIdOk
            version := not_not.mp current
            type := ⟨name, nameOk, known⟩
            payload := payloadOk }
  · intro decodes
    obtain ⟨name, nameOk, known⟩ := decodes.type
    refine ⟨_, decodes.protocolVersion, _, decodes.sessionId, _, decodes.messageId, _,
      decodes.seq, _, decodes.timestamp, _, decodes.deviceId, name, nameOk, ?_⟩
    rw [if_neg (not_not.mpr decodes.version), known]
    exact (except_bind_ok_iff _ _ _).mpr ⟨_, decodes.payload, rfl⟩

theorem decode_ok_iff (library : JsonLibrary) (text : Bytes) (message : Message) :
    decode library text = .ok message ↔
      text.length ≤ kMaxMessageBytes ∧
        ∃ fields, library.parse text = some (.object fields) ∧ Decodes fields message := by
  unfold decode
  split
  · rename_i long
    exact ⟨nofun, fun short => absurd short.1 (not_le.mpr long)⟩
  · rename_i short
    rw [and_iff_right (not_lt.mp short)]
    cases parsed : library.parse text with
    | none => exact ⟨nofun, fun ⟨_, impossible, _⟩ => nomatch impossible⟩
    | some json =>
        cases json with
        | object fields =>
            rw [show (decodeFields fields = .ok message ↔ _) from decodeFields_ok_iff _ _]
            constructor
            · exact fun decodes => ⟨fields, rfl, decodes⟩
            · rintro ⟨_, same, decodes⟩
              cases same
              exact decodes
        | _ => exact ⟨nofun, fun ⟨_, impossible, _⟩ => nomatch impossible⟩

/-! ### What a message should stand for -/

/-- The integer that a number is. -/
def Json.whole : Json → Option Int
  | .unsigned value => some value
  | .integer value => some value
  | .float value => if value.den = 1 then some value.num else none
  | _ => none

/-- The text is a JSON object of the schema, and the message has its fields. -/
structure StandsFor (library : JsonLibrary) (text : Bytes) (message : Message)
    (fields : JsonFields) : Prop where
  short : text.length ≤ 8192
  parses : library.parse text = some (.object fields)
  protocolVersion : (fields.find "protocolVersion").bind Json.whole = some 1 ∧
    message.protocolVersion = 1#32
  seq : (fields.find "seq").bind Json.whole = some (message.seq.toNat : Int)
  timestamp : (fields.find "timestamp").bind Json.whole = some (message.timestamp.toNat : Int)
  sessionId : fields.find "sessionId" = some (.string message.sessionId)
  messageId : fields.find "messageId" = some (.string message.messageId)
  deviceId : fields.find "deviceId" = some (.string message.deviceId)
  type : ∃ name, fields.find "type" = some (.string (ascii name)) ∧
    (message.type, name) ∈ MsgType.names
  payload : (fields.find "payload" = none ∧ message.payload = .object []) ∨
    ∃ payload, fields.find "payload" = some (.object payload) ∧
      message.payload = .object payload

def WholeBelow (limit : Int) (json : Option Json) : Prop :=
  ∃ number, json.bind Json.whole = some number ∧ 0 ≤ number ∧ number < limit

/-- What the decoder checks, apart from the numbers, of which it sees only what they are
converted to. -/
structure OtherwiseFine (fields : JsonFields) : Prop where
  sessionId : ∃ text, fields.find "sessionId" = some (.string text)
  messageId : ∃ text, fields.find "messageId" = some (.string text)
  deviceId : ∃ text, fields.find "deviceId" = some (.string text)
  type : ∃ name type, fields.find "type" = some (.string name) ∧
    msgTypeFromString name = some type
  payload : fields.find "payload" = none ∨
    ∃ payload, fields.find "payload" = some (.object payload)
  version : (fields.find "protocolVersion").bind Json.getUint32 = some 1#32
  seq : ∃ seq, (fields.find "seq").bind Json.getUint64 = some seq
  timestamp : ∃ timestamp, (fields.find "timestamp").bind Json.getUint64 = some timestamp

/-- The numbers are integers that fit their fields. -/
structure WholeNumbers (fields : JsonFields) : Prop where
  version : WholeBelow (2 ^ 32) (fields.find "protocolVersion")
  seq : WholeBelow (2 ^ 64) (fields.find "seq")
  timestamp : WholeBelow (2 ^ 64) (fields.find "timestamp")

theorem truncate_whole {value : ℚ} {number : Int} (whole : (Json.float value).whole = some number) :
    truncate value = number := by
  change (if value.den = 1 then some value.num else none) = some number at whole
  split at whole
  · rename_i integral
    cases whole
    have cast : truncate (value.num : ℚ) = value.num := by
      unfold truncate
      rw [Int.ceil_intCast, Int.floor_intCast, ite_self]
    rwa [Rat.coe_int_num_of_den_eq_one integral] at cast
  · cases whole

theorem Json.getUint32_whole {json : Json} {number : Int} (whole : json.whole = some number) :
    json.getUint32 = some (BitVec.ofInt 32 number) := by
  cases json with
  | unsigned value =>
      cases whole
      exact congrArg some (BitVec.ofInt_natCast 32 value).symm
  | integer value =>
      cases whole
      rfl
  | float value =>
      exact congrArg (fun cut => some (BitVec.ofInt 32 cut)) (truncate_whole whole)
  | _ => cases whole

theorem Json.getUint64_whole {json : Json} {number : Int} (whole : json.whole = some number) :
    json.getUint64 = some (BitVec.ofInt 64 number) := by
  cases json with
  | unsigned value =>
      cases whole
      exact congrArg some (BitVec.ofInt_natCast 64 value).symm
  | integer value =>
      cases whole
      rfl
  | float value =>
      exact congrArg (fun cut => some (BitVec.ofInt 64 cut)) (truncate_whole whole)
  | _ => cases whole

theorem decodePayload_ok_iff (fields : JsonFields) (payload : Json) :
    decodePayload fields = .ok payload ↔
      (fields.find "payload" = none ∧ payload = .object []) ∨
        ∃ found, fields.find "payload" = some (.object found) ∧ payload = .object found := by
  unfold decodePayload
  cases fields.find "payload" with
  | none =>
      rw [Except.ok.injEq]
      constructor
      · exact fun same => Or.inl ⟨rfl, same.symm⟩
      · rintro (⟨-, same⟩ | ⟨_, impossible, -⟩)
        · exact same.symm
        · cases impossible
  | some json =>
      cases json with
      | object found =>
          rw [Except.ok.injEq]
          constructor
          · exact fun same => Or.inr ⟨found, rfl, same.symm⟩
          · rintro (⟨impossible, -⟩ | ⟨_, here, same⟩)
            · cases impossible
            · cases here
              exact same.symm
      | _ =>
          constructor
          · exact nofun
          · rintro (⟨impossible, -⟩ | ⟨_, impossible, -⟩)
            · cases impossible
            · cases impossible

theorem msgTypeFromString_iff (text : Bytes) (type : MsgType) :
    msgTypeFromString text = some type ↔
      ∃ name, text = ascii name ∧ (type, name) ∈ MsgType.names := by
  constructor
  · intro known
    obtain ⟨entry, found, rfl⟩ := Option.map_eq_some_iff.mp known
    have spelled : (ascii entry.2 == text) = true :=
      @List.find?_some _ (fun entry : MsgType × String => ascii entry.2 == text) _ _ found
    exact ⟨entry.2, (eq_of_beq spelled).symm, List.mem_of_find?_eq_some found⟩
  · rintro ⟨name, rfl, member⟩
    have table : ∀ entry ∈ MsgType.names, msgTypeFromString (ascii entry.2) = some entry.1 := by
      decide
    exact table (type, name) member

/-! ### When the decoder is sound -/

theorem WholeBelow.of {limit number : Int} {json : Option Json}
    (whole : json.bind Json.whole = some number) (low : 0 ≤ number) (high : number < limit) :
    WholeBelow limit json :=
  ⟨number, whole, low, high⟩

theorem WholeBelow.uint64 {json : Option Json} (below : WholeBelow (2 ^ 64) json)
    {value : BitVec 64} (converted : json.bind Json.getUint64 = some value) :
    json.bind Json.whole = some (value.toNat : Int) := by
  obtain ⟨number, read, low, high⟩ := below
  obtain ⟨found, rfl, whole⟩ := Option.bind_eq_some_iff.mp read
  rw [Option.bind_some, Json.getUint64_whole whole] at converted
  cases converted
  rw [read, BitVec.toNat_ofInt, Int.toNat_of_nonneg (by omega)]
  congr 1
  omega

theorem WholeBelow.version {json : Option Json} (below : WholeBelow (2 ^ 32) json)
    (converted : json.bind Json.getUint32 = some 1#32) : json.bind Json.whole = some 1 := by
  obtain ⟨number, read, low, high⟩ := below
  obtain ⟨found, rfl, whole⟩ := Option.bind_eq_some_iff.mp read
  rw [Option.bind_some, Json.getUint32_whole whole, Option.some_inj] at converted
  have value := congrArg BitVec.toNat converted
  rw [BitVec.toNat_ofInt] at value
  rw [read]
  congr 1
  change (number % (2 ^ 32 : Nat)).toNat = 1 at value
  omega

theorem Decodes.fine {fields : JsonFields} {message : Message} (decodes : Decodes fields message) :
    OtherwiseFine fields where
  sessionId := ⟨_, decodes.sessionId⟩
  messageId := ⟨_, decodes.messageId⟩
  deviceId := ⟨_, decodes.deviceId⟩
  type := by
    obtain ⟨name, named, known⟩ := decodes.type
    exact ⟨name, message.type, named, known⟩
  payload := by
    rcases (decodePayload_ok_iff _ _).mp decodes.payload with ⟨absent, -⟩ | ⟨found, present, -⟩
    · exact Or.inl absent
    · exact Or.inr ⟨found, present⟩
  version := by
    rw [decodes.protocolVersion, decodes.version]
    rfl
  seq := ⟨_, decodes.seq⟩
  timestamp := ⟨_, decodes.timestamp⟩

theorem OtherwiseFine.decodes {fields : JsonFields} (fine : OtherwiseFine fields) :
    ∃ message, Decodes fields message := by
  obtain ⟨sessionId, sessionIdOk⟩ := fine.sessionId
  obtain ⟨messageId, messageIdOk⟩ := fine.messageId
  obtain ⟨deviceId, deviceIdOk⟩ := fine.deviceId
  obtain ⟨name, type, named, known⟩ := fine.type
  obtain ⟨seq, seqOk⟩ := fine.seq
  obtain ⟨timestamp, timestampOk⟩ := fine.timestamp
  obtain ⟨payload, payloadOk⟩ : ∃ payload, decodePayload fields = .ok payload := by
    rcases fine.payload with absent | ⟨found, present⟩
    · exact ⟨_, (decodePayload_ok_iff _ _).mpr (Or.inl ⟨absent, rfl⟩)⟩
    · exact ⟨_, (decodePayload_ok_iff _ _).mpr (Or.inr ⟨found, present, rfl⟩)⟩
  exact ⟨{ protocolVersion := 1#32, sessionId, messageId, seq, timestamp, deviceId, type, payload },
    { protocolVersion := fine.version
      sessionId := sessionIdOk
      messageId := messageIdOk
      seq := seqOk
      timestamp := timestampOk
      deviceId := deviceIdOk
      version := rfl
      type := ⟨name, named, known⟩
      payload := payloadOk }⟩

/-- Where every decoded message stands for its text, a text that passes all other checks
has integers that fit. -/
theorem wholeNumbers_of_sound {library : JsonLibrary} {text : Bytes}
    (sound : ∀ message, decode library text = .ok message →
      ∃ fields, StandsFor library text message fields)
    (short : text.length ≤ kMaxMessageBytes) {fields : JsonFields}
    (parsed : library.parse text = some (.object fields)) (fine : OtherwiseFine fields) :
    WholeNumbers fields := by
  obtain ⟨message, decodes⟩ := fine.decodes
  obtain ⟨other, stands⟩ :=
    sound message ((decode_ok_iff _ _ _).mpr ⟨short, fields, parsed, decodes⟩)
  have same := stands.parses.symm.trans parsed
  cases same
  exact
    { version := WholeBelow.of stands.protocolVersion.1 (by decide) (by decide)
      seq := WholeBelow.of stands.seq (by omega) (by have := message.seq.isLt; omega)
      timestamp :=
        WholeBelow.of stands.timestamp (by omega) (by have := message.timestamp.isLt; omega) }

/-- A decoded message stands for its text exactly when the numbers of a text that passes
all other checks are integers that fit. -/
theorem decode_sound_iff (library : JsonLibrary) (text : Bytes) :
    (∀ message, decode library text = .ok message →
        ∃ fields, StandsFor library text message fields) ↔
      (text.length ≤ kMaxMessageBytes → ∀ fields, library.parse text = some (.object fields) →
        OtherwiseFine fields → WholeNumbers fields) := by
  constructor
  · intro sound short fields parsed fine
    exact wholeNumbers_of_sound sound short parsed fine
  · intro whole message decoded
    obtain ⟨short, fields, parsed, decodes⟩ := (decode_ok_iff _ _ _).mp decoded
    have numbers := whole short fields parsed decodes.fine
    obtain ⟨name, named, known⟩ := decodes.type
    obtain ⟨spelled, same, member⟩ := (msgTypeFromString_iff _ _).mp known
    refine ⟨fields, ?_⟩
    exact
      { short := short
        parses := parsed
        protocolVersion := ⟨numbers.version.version decodes.fine.version, decodes.version⟩
        seq := numbers.seq.uint64 decodes.seq
        timestamp := numbers.timestamp.uint64 decodes.timestamp
        sessionId := decodes.sessionId
        messageId := decodes.messageId
        deviceId := decodes.deviceId
        type := ⟨spelled, by rw [named, same], member⟩
        payload := (decodePayload_ok_iff _ _).mp decodes.payload }

def wideVersion : JsonFields :=
  [(ascii "deviceId", .string (ascii "d")), (ascii "messageId", .string (ascii "m")),
    (ascii "protocolVersion", .unsigned 4294967297), (ascii "seq", .unsigned 1),
    (ascii "sessionId", .string (ascii "s")), (ascii "timestamp", .unsigned 1),
    (ascii "type", .string (ascii "PING"))]

theorem wideVersion_fine : OtherwiseFine wideVersion :=
  { sessionId := ⟨_, rfl⟩
    messageId := ⟨_, rfl⟩
    deviceId := ⟨_, rfl⟩
    type := ⟨ascii "PING", .ping, rfl, by decide⟩
    payload := Or.inl rfl
    version := rfl
    seq := ⟨_, rfl⟩
    timestamp := ⟨_, rfl⟩ }

open StandIn in
/-- A version of 2 ^ 32 + 1 is converted to one. -/
theorem decode_wideVersion :
    ¬ ∀ library text message, decode library text = .ok message →
      ∃ fields, StandsFor library text message fields := by
  intro sound
  have parsed : controlJson.parse ((controlJson.dump (.object wideVersion)).getD []) =
      some (.object wideVersion) := by rfl
  have numbers := wholeNumbers_of_sound (sound controlJson _) (by decide +kernel) parsed
    wideVersion_fine
  obtain ⟨number, read, -, high⟩ := numbers.version
  have value : (4294967297 : Int) = number := Option.some_inj.mp read
  omega

end SmartMic.Protocol
