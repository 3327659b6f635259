import SmartMic.Audio.Resampler
import SmartMic.Audio.Router
import SmartMic.Audio.WasapiFormat
import SmartMic.Driver.Ring
import SmartMic.Protocol.Bytes
import SmartMic.Support.BoundedLoop
import SmartMic.Support.FileCursor

set_option autoImplicit false

/-! The recordings of the portable back end: a sink that writes a WAV file of 16-bit samples
and a source that plays one, resampled and mixed to one channel.

A file that is open is a `FileCursor`. How many bits a `long` has differs between the hosts
and is a parameter. A loop of the source that need not end has a bound on its rounds, and a
read outside an array is no value, so that a result shows that there was none. -/

namespace SmartMic.Audio

open SmartMic.Driver

abbrev ByteFile := FileCursor UInt8

/-! ### Numbers in a file -/

/-- `static_cast<long>`. -/
def toLong (longBits : Nat) (value : BitVec 32) : Int := Int.bmod value.toNat (2 ^ longBits)

/-- `std::ftell`, which fails where a `long` is too short. -/
def ftell (longBits : Nat) (file : ByteFile) : Int :=
  if file.position < 2 ^ (longBits - 1) then file.position else -1

def readLE16 (bytes : Bytes) : BitVec 16 := BitVec.ofNat 16 (fromLittleEndian (bytes.take 2))

def readLE32 (bytes : Bytes) : BitVec 32 := BitVec.ofNat 32 (fromLittleEndian (bytes.take 4))

def writeLE16 (value : BitVec 16) : Bytes := littleEndian 2 value.toNat

def writeLE32 (value : BitVec 32) : Bytes := littleEndian 4 value.toNat

/-- The 16-bit items in a string; half an item at the end is none. -/
def shortsOf : Bytes → List (BitVec 16)
  | low :: high :: rest => readLE16 [low, high] :: shortsOf rest
  | _ => []

/-! ### The sink -/

/-- `fwrite` is taken to succeed except for samples, where the disk may be full. -/
structure WavFileSink where
  fp : Option ByteFile
  framesWritten : BitVec 32

def WavFileSink.new : WavFileSink :=
  { fp := none, framesWritten := 0#32 }

def ByteFile.put (file : ByteFile) (piece : Bytes) : ByteFile := FileCursor.write 0 file piece

/-- What `start` writes, with the two sizes that `finalise` patches. -/
def wavHeader (riffBytes dataBytes : BitVec 32) : Bytes :=
  ascii "RIFF" ++ (writeLE32 riffBytes ++
    (ascii "WAVEfmt " ++ writeLE32 16#32 ++ writeLE16 1#16 ++ writeLE16 1#16 ++
      writeLE32 48000#32 ++ writeLE32 96000#32 ++ writeLE16 2#16 ++ writeLE16 16#16 ++
      ascii "data" ++ (writeLE32 dataBytes ++ [])))

/-- `opened` says whether the file can be created. -/
def WavFileSink.start (sink : WavFileSink) (opened : Bool) : Bool × WavFileSink :=
  if opened then
    (true,
      { fp := some (ByteFile.put { contents := [], position := 0 } (wavHeader 0#32 0#32))
        framesWritten := 0#32 })
  else (false, { sink with fp := none })

def pcmSample {α : Type} [SampleArithmetic α] (sample : α) : BitVec 16 := toSixteenBits 1 sample

/-- The disk takes up to `room` samples. -/
def WavFileSink.write {α : Type} [SampleArithmetic α] (sink : WavFileSink) (room : Nat)
    (samples : List α) : Bool × WavFileSink :=
  match sink.fp with
  | none => (false, sink)
  | some file =>
      let written := (samples.map pcmSample).take room
      (decide (written.length = samples.length),
        { fp := some (file.put (written.flatMap writeLE16))
          framesWritten := sink.framesWritten + BitVec.ofNat 32 written.length })

def WavFileSink.finalise (file : ByteFile) (framesWritten : BitVec 32) : ByteFile :=
  let dataBytes := framesWritten * 2#32
  let sized := ByteFile.put (file.seek 4) (writeLE32 (36#32 + dataBytes))
  ByteFile.put (sized.seek 40) (writeLE32 dataBytes)

def WavFileSink.stop (sink : WavFileSink) : Option Bytes × WavFileSink :=
  match sink.fp with
  | none => (none, sink)
  | some file =>
      (some (WavFileSink.finalise file sink.framesWritten).contents, { sink with fp := none })

/-! ### The source -/

structure WavFileSource (α : Type) where
  loop : Bool
  fp : Option ByteFile
  dataStart : Int
  dataBytes : Int
  consumed : Int
  rate : BitVec 32
  channels : BitVec 16
  resampler : LinearResampler α
  pending : List α
  pendingPos : Nat

section

variable {α : Type} [SampleArithmetic α]

def WavFileSource.new (loop : Bool) : WavFileSource α :=
  { loop := loop
    fp := none
    dataStart := 0
    dataBytes := 0
    consumed := 0
    rate := 48000#32
    channels := 1#16
    resampler := LinearResampler.new 48000#32
    pending := []
    pendingPos := 0 }

/-- How the loop over the chunks ends: `start` goes on, or it gives up. -/
structure Scanned (α : Type) where
  accepted : Bool
  source : WavFileSource α
  file : ByteFile

abbrev Scan (α : Type) := Round (WavFileSource α × ByteFile) (Scanned α)

/-- A `fmt ` chunk: none where it is shorter than what is read of it. -/
def WavFileSource.onFormat (source : WavFileSource α) (size : BitVec 32) (file : ByteFile) :
    Option (Scan α) :=
  let (fmt, behind) := file.read size.toNat
  if fmt.length ≠ size.toNat then
    some (.done { accepted := false, source := source, file := behind })
  else if size.toNat < 16 then none
  else
    let known :=
      { source with
        channels := readLE16 (fmt.drop 2)
        rate := readLE32 (fmt.drop 4) }
    if readLE16 (fmt.drop 14) ≠ 16#16 then
      some (.done { accepted := false, source := known, file := behind })
    else some (.next (known, behind))

/-- One round of the loop over the chunks. -/
def WavFileSource.onChunk (longBits : Nat) : WavFileSource α × ByteFile → Option (Scan α)
  | (source, file) =>
      let (chunk, behind) := file.read 8
      if chunk.length ≠ 8 then
        some (.done { accepted := true, source := source, file := behind })
      else
        let size := readLE32 (chunk.drop 4)
        if chunk.take 4 = ascii "fmt " then source.onFormat size behind
        else if chunk.take 4 = ascii "data" then
          let known :=
            { source with
              dataStart := ftell longBits behind
              dataBytes := toLong longBits size }
          some (.done { accepted := true, source := known, file := behind })
        else
          let skipped := behind.position + toLong longBits (size + (size &&& 1#32))
          some (.next (source, behind.seek skipped))

/-- `found` is the file at the path. -/
def WavFileSource.start (longBits rounds : Nat) (source : WavFileSource α) (found : Option Bytes) :
    Option (Bool × WavFileSource α) :=
  match found with
  | none => some (false, { source with fp := none })
  | some contents =>
      let (hdr, behind) := FileCursor.read { contents := contents, position := 0 } 12
      if hdr.length ≠ 12 ∨ hdr.take 4 ≠ ascii "RIFF" ∨ hdr.drop 8 ≠ ascii "WAVE" then
        some (false, { source with fp := some behind })
      else
        match loopFor (WavFileSource.onChunk longBits) rounds (source, behind) with
        | none => none
        | some scanned =>
            let left := { scanned.source with fp := some scanned.file }
            if scanned.accepted = false ∨ left.dataStart = 0 then some (false, left)
            else some (true,
              { left with resampler := LinearResampler.new left.rate, consumed := 0 })

def kChunkFrames : Nat := 1024

/-- The frames of the items, mixed to one channel; an incomplete frame at the end is none. -/
def mixedDown (channels : Nat) (items : List (BitVec 16)) : List α :=
  (List.range (items.length / channels)).map fun frame =>
    let acc : Int := acrossChannels channels (fun place => (items.getD place 0#16).toInt) frame
    SampleArithmetic.nearest (rounded α acc / (32768 * channels))

/-- What a round of `refill` gets of the file, and the bytes consumed before that. -/
def WavFileSource.fetch (source : WavFileSource α) (file : ByteFile) :
    List (BitVec 16) × Int × ByteFile :=
  let again := decide (source.dataBytes ≤ source.consumed)
  let start := if again then file.seek source.dataStart else file
  let consumed := if again then 0 else source.consumed
  let want := min (kChunkFrames * source.channels.toNat)
    (((source.dataBytes - consumed) % 2 ^ 64).toNat / 2)
  let (bytes, behind) := start.read (2 * want)
  (shortsOf bytes, consumed, behind)

structure Refilled (α : Type) where
  ok : Bool
  source : WavFileSource α
  file : ByteFile

def WavFileSource.waits (source : WavFileSource α) : Nat :=
  source.pending.length - source.pendingPos

/-- One round of the loop of `refill`. -/
def WavFileSource.refillRound (needed : Nat) :
    WavFileSource α × ByteFile → Option (Round (WavFileSource α × ByteFile) (Refilled α))
  | (source, file) =>
      if needed ≤ source.waits then
        some (.done { ok := true, source := source, file := file })
      else if source.dataBytes ≤ source.consumed ∧ source.loop = false then
        some (.done { ok := false, source := source, file := file })
      else
        match source.fetch file with
        | (raw, consumed, behind) =>
            if raw.length = 0 then
              if source.loop = false then
                some (.done { ok := false, source := source, file := behind })
              else some (.next ({ source with consumed := source.dataBytes }, behind))
            else
              match source.resampler.process (mixedDown source.channels.toNat raw)
                source.pending with
              | none => none
              | some (pending, resampler) =>
                  some (.next
                    ({ source with
                        consumed := consumed + 2 * raw.length
                        pending := pending
                        resampler := resampler },
                      behind))

/-- `read`; what has been handed out is forgotten from time to time. -/
def WavFileSource.read (rounds : Nat) (source : WavFileSource α) (samples : Nat) :
    Option ((SourceStatus × List α) × WavFileSource α) :=
  match source.fp with
  | none => some ((.failed, List.replicate samples 0), source)
  | some file =>
      match loopFor (WavFileSource.refillRound samples) rounds (source, file) with
      | none => none
      | some { ok, source := filled, file := behind } =>
          let n := min samples filled.waits
          let out := (filled.pending.drop filled.pendingPos).take n ++
            List.replicate (samples - n) 0
          let position := filled.pendingPos + n
          let forgets := decide (2 ^ 16 < position)
          some ((if ok = true ∧ n = samples then .ok else .underrun, out),
            { filled with
              fp := some behind
              pending := if forgets then filled.pending.drop position else filled.pending
              pendingPos := if forgets then 0 else position })

def WavFileSource.stop (source : WavFileSource α) : WavFileSource α := { source with fp := none }

end

end SmartMic.Audio
