import SmartMic.Media.JitterBuffer
import SmartMic.Protocol.Bytes

set_option autoImplicit false

/-! The media payload: a fixed header in front of one Opus packet. The phone's sender
writes it, the PC's phone source reads it and feeds the jitter buffer. The Opus
encoder is a parameter, as the decoder is. -/

namespace SmartMic.Media

def kMediaVersion : UInt8 := 1
def kFlagNone : UInt8 := 0
def kFlagPttActive : UInt8 := 1
def kFlagMarker : UInt8 := 2

structure MediaHeader where
  version : UInt8
  flags : UInt8
  reserved : BitVec 16
  seq : Seq
  timestampSamples : BitVec 32

/-- `sizeof(MediaHeader)`, packed. -/
def mediaHeaderBytes : Nat := 12

def writeHeader (header : MediaHeader) : Bytes :=
  header.version :: header.flags ::
    (littleEndian 2 header.reserved.toNat ++ littleEndian 4 header.seq.toNat ++
      littleEndian 4 header.timestampSamples.toNat)

/-- `readHeader`: the header, unless the data is too short or of another version. -/
def readHeader (data : Bytes) : Option MediaHeader :=
  if data.length < mediaHeaderBytes then none
  else
    let header : MediaHeader :=
      { version := data.getD 0 0
        flags := data.getD 1 0
        reserved := BitVec.ofNat 16 (fromLittleEndian ((data.drop 2).take 2))
        seq := BitVec.ofNat 32 (fromLittleEndian ((data.drop 4).take 4))
        timestampSamples := BitVec.ofNat 32 (fromLittleEndian ((data.drop 8).take 4)) }
    if header.version = kMediaVersion then some header else none

theorem writeHeader_length (header : MediaHeader) :
    (writeHeader header).length = mediaHeaderBytes := by
  simp [writeHeader, mediaHeaderBytes]

theorem ofNat_littleEndian {width : Nat} (count : Nat) (value : BitVec width)
    (bytes : 2 ^ width = 256 ^ count) :
    BitVec.ofNat width (fromLittleEndian (littleEndian count value.toNat)) = value := by
  have small : value.toNat < 256 ^ count := by
    rw [← bytes]
    exact value.isLt
  rw [fromLittleEndian_littleEndian count value.toNat small, BitVec.ofNat_toNat,
    BitVec.setWidth_eq]

theorem readHeader_writeHeader (header : MediaHeader) (rest : Bytes)
    (current : header.version = kMediaVersion) :
    readHeader (writeHeader header ++ rest) = some header := by
  have long : ¬ (writeHeader header ++ rest).length < mediaHeaderBytes := by
    rw [List.length_append, writeHeader_length]
    omega
  have reserved : ((writeHeader header ++ rest).drop 2).take 2 =
      littleEndian 2 header.reserved.toNat := by
    unfold writeHeader
    rw [List.cons_append, List.cons_append, List.drop_succ_cons, List.drop_succ_cons,
      List.drop_zero, List.append_assoc, List.append_assoc,
      List.take_left' (littleEndian_length _ _)]
  have seq : ((writeHeader header ++ rest).drop 4).take 4 =
      littleEndian 4 header.seq.toNat := by
    unfold writeHeader
    rw [List.cons_append, List.cons_append, List.drop_succ_cons, List.drop_succ_cons,
      List.append_assoc, List.append_assoc, List.drop_left' (littleEndian_length _ _),
      List.take_left' (littleEndian_length _ _)]
  have timestamp : ((writeHeader header ++ rest).drop 8).take 4 =
      littleEndian 4 header.timestampSamples.toNat := by
    unfold writeHeader
    rw [List.cons_append, List.cons_append, List.drop_succ_cons, List.drop_succ_cons,
      List.append_assoc, List.drop_left' (by simp), List.take_left' (littleEndian_length _ _)]
  unfold readHeader
  rw [if_neg long, reserved, seq, timestamp, ofNat_littleEndian 2 _ (by norm_num),
    ofNat_littleEndian 4 _ (by norm_num), ofNat_littleEndian 4 _ (by norm_num)]
  exact if_pos current

/-! ### Sender -/

structure OpusEncoderLibrary (Encoder : Type) where
  encodeFloat : Encoder → List Sample → Encoder × Option Bytes

structure MediaSender (Encoder : Type) where
  encoder : Option Encoder
  seq : Seq
  timestamp : BitVec 32
  marker : Bool

section

variable {Encoder : Type}

/-- `open`, with the encoder the library created, if it did. -/
def MediaSender.opened (encoder : Option Encoder) : MediaSender Encoder :=
  { encoder := encoder, seq := 0#32, timestamp := 0#32, marker := true }

def MediaSender.resetStream (sender : MediaSender Encoder) : MediaSender Encoder :=
  { sender with marker := true }

def MediaSender.encode (opus : OpusEncoderLibrary Encoder) (sender : MediaSender Encoder)
    (pcm : List Sample) : Option Bytes × MediaSender Encoder :=
  match sender.encoder with
  | none => (none, sender)
  | some encoder =>
      if pcm.length ≠ kFrameSamples then (none, sender)
      else
        match opus.encodeFloat encoder pcm with
        | (next, packet) => (packet, { sender with encoder := some next })

def MediaSender.packFrame (opus : OpusEncoderLibrary Encoder) (sender : MediaSender Encoder)
    (pcm : List Sample) (pttActive : Bool) : Option Bytes × MediaSender Encoder :=
  match sender.encode opus pcm with
  | (none, sender) => (none, sender)
  | (some packet, sender) =>
      let header : MediaHeader :=
        { version := kMediaVersion
          flags :=
            (if pttActive then kFlagPttActive else kFlagNone) |||
              (if sender.marker then kFlagMarker else kFlagNone)
          reserved := 0#16
          seq := sender.seq
          timestampSamples := sender.timestamp }
      (some (writeHeader header ++ packet),
        { sender with
          seq := sender.seq + 1#32
          timestamp := sender.timestamp + BitVec.ofNat 32 pcm.length
          marker := false })

end

/-! ### Source -/

structure PhoneMediaSource (Decoder : Type) where
  buffer : JitterBuffer
  decoder : Option Decoder
  started : Bool
  malformed : Nat
  lastPacketMs : BitVec 64

section

variable {Decoder : Type}

def PhoneMediaSource.create (config : JitterConfig) : PhoneMediaSource Decoder :=
  { buffer := JitterBuffer.new config
    decoder := none
    started := false
    malformed := 0
    lastPacketMs := 0#64 }

/-- `start`, with the decoder the library created, if it did. -/
def PhoneMediaSource.start (source : PhoneMediaSource Decoder) (decoder : Option Decoder) :
    PhoneMediaSource Decoder :=
  match decoder with
  | none => { source with decoder := none }
  | some decoder =>
      { source with decoder := some decoder, buffer := source.buffer.reset, started := true }

def PhoneMediaSource.resetStream (source : PhoneMediaSource Decoder) :
    PhoneMediaSource Decoder :=
  { source with buffer := source.buffer.reset }

def MediaHeader.marker (header : MediaHeader) : Bool :=
  header.flags &&& kFlagMarker != 0

/-- `onMediaPayload`: whether the payload was well formed, and the source after it. -/
def PhoneMediaSource.onMediaPayload (source : PhoneMediaSource Decoder) (data : Bytes)
    (nowMs : BitVec 64) : Bool × PhoneMediaSource Decoder :=
  match readHeader data with
  | none => (false, { source with malformed := source.malformed + 1 })
  | some header =>
      let payload := data.drop mediaHeaderBytes
      if payload = [] then (false, { source with malformed := source.malformed + 1 })
      else
        -- a marker opens a new talk spurt: the old sequence space is gone
        let buffer := if header.marker then source.buffer.reset else source.buffer
        (true,
          { source with
            lastPacketMs := nowMs
            buffer := buffer.push header.seq payload nowMs })

def PhoneMediaSource.ready (source : PhoneMediaSource Decoder) : Bool :=
  source.started && source.buffer.ready

def PhoneMediaSource.stalled (source : PhoneMediaSource Decoder) (nowMs : BitVec 64) : Bool :=
  source.buffer.stalled nowMs

end

end SmartMic.Media
