import SmartMic.Audio.SampleArithmetic
import SmartMic.Support.Run

set_option autoImplicit false

/-! The PCM ring shared by the driver and the audio service, with the two
programs that touch it: `CSmartMicRing` drains it in the kernel and
`SmartMicDriverLink` fills it in user mode. Indices are 64-bit words and every
sum and difference of them wraps, as it does in both programs.

The mapping claim and the process bookkeeping of `CSmartMicRing` are not part of
this module; memory ordering between the two sides is taken as sequential. -/

namespace SmartMic.Driver

open SmartMic.Audio (SampleArithmetic kCeiling toSixteenBits)

/-- One PCM16 mono frame of the ring. -/
abbrev PcmFrame := BitVec 16

def ringMagic : BitVec 32 := 0x534D5231#32
def ringVersion : BitVec 32 := 1#32
def ringFrames : Nat := 8192
def ringMask : BitVec 64 := 8191#64
def ringTotalBytes : BitVec 32 := 16640#32

/-- `SMARTMIC_PRODUCER_TIMEOUT_100NS`: 250 ms of interrupt time. -/
def producerTimeout : BitVec 64 := 2500000#64

/-- `SMARTMIC_RING_HEADER` without its reserved words and the format constants
that neither program reads back. -/
structure RingHeader where
  magic : BitVec 32
  writeIndex : BitVec 64
  producerHeartbeat : BitVec 64
  readIndex : BitVec 64
  underrunCount : BitVec 32
  overrunCount : BitVec 32
  framesDelivered : BitVec 64
  streamOpen : BitVec 32

/-- The mapped section. The payload is indexed by frame; frames from
`ringFrames` on lie outside the section. -/
structure SharedRing where
  header : RingHeader
  payload : Nat → PcmFrame

def SharedRing.initialize : SharedRing :=
  { header :=
      { magic := ringMagic
        writeIndex := 0#64
        producerHeartbeat := 0#64
        readIndex := 0#64
        underrunCount := 0#32
        overrunCount := 0#32
        framesDelivered := 0#64
        streamOpen := 0#32 }
    payload := fun _ => 0#16 }

/-- `NTSTATUS`, as far as the driver's own paths return one. -/
inductive NtStatus where
  | success
  | unsuccessful
  | notSupported
  | invalidParameter
  | accessDenied
  | deviceBusy
  | deviceNotReady
  | insufficientResources
deriving DecidableEq

/-! ### The consumer -/

def RingHeader.producerAlive (header : RingHeader) (now : BitVec 64) : Bool :=
  if header.producerHeartbeat = 0#64 then false
  else decide (header.producerHeartbeat ≤ now) &&
    decide (now - header.producerHeartbeat < producerTimeout)

/-- What one drain leaves behind: the section, the frames written from the start
of the destination, and the number of real frames among them. -/
structure Drain where
  ring : SharedRing
  destination : List PcmFrame
  realFrames : BitVec 32

def silence (count : Nat) : List PcmFrame := List.replicate count 0#16

/-- The producer lapped us: skip forward to the newest `ringFrames` frames. -/
def RingHeader.skipLapped (header : RingHeader) : RingHeader × BitVec 64 :=
  if header.readIndex ≤ header.writeIndex then
    let available := header.writeIndex - header.readIndex
    if BitVec.ofNat 64 ringFrames < available then
      let skipped := available - BitVec.ofNat 64 ringFrames
      ({ header with
          readIndex := header.readIndex + skipped
          overrunCount := header.overrunCount + BitVec.ofNat 32 (min skipped.toNat 0x7fffffff) },
        BitVec.ofNat 64 ringFrames)
    else (header, available)
  -- writeIndex is behind our own read index: the ring counts as empty
  else (header, 0#64)

/-- `count` frames from the masked index on, in two pieces where they wrap. -/
def copyOut (payload : Nat → PcmFrame) (index : BitVec 64) (count : Nat) : List PcmFrame :=
  let offset := (index &&& ringMask).toNat
  let first := min count (ringFrames - offset)
  (List.range first).map (fun position => payload (offset + position)) ++
    (List.range (count - first)).map payload

def SharedRing.read (ring : SharedRing) (frames : BitVec 32) (now : BitVec 64) : Drain :=
  let wantBytes := frames * 2#32
  if frames = 0#32 then
    { ring := ring, destination := silence (wantBytes.toNat / 2), realFrames := 0#32 }
  else if ring.header.producerAlive now = false then
    { ring :=
        { ring with header :=
            { ring.header with underrunCount := ring.header.underrunCount + frames } }
      destination := silence (wantBytes.toNat / 2)
      realFrames := 0#32 }
  else
    let (header, available) := ring.header.skipLapped
    let realFrames := min frames.toNat available.toNat
    let shortfall := frames.toNat - realFrames
    { ring :=
        { ring with header :=
            { header with
              underrunCount := header.underrunCount + BitVec.ofNat 32 shortfall
              -- past the whole request, the silent shortfall included
              readIndex := header.readIndex + frames.setWidth 64
              framesDelivered := header.framesDelivered + frames.setWidth 64 } }
      destination := copyOut ring.payload header.readIndex realFrames ++ silence shortfall
      realFrames := BitVec.ofNat 32 realFrames }

def SharedRing.setStreamOpen (ring : SharedRing) (isOpen : Bool) : SharedRing :=
  { ring with header :=
      { ring.header with
        streamOpen := if isOpen then 1#32 else 0#32
        readIndex := if isOpen then ring.header.writeIndex else ring.header.readIndex } }

/-! ### The producer -/

/-- `SMARTMIC_VERSION_INFO` as the service reads it. -/
structure VersionInfo where
  driverVersion : BitVec 32
  ringVersion : BitVec 32
  ringTotalBytes : BitVec 32

/-- What the device answers while the service attaches: whether it was found and
opened, GET_VERSION's reply, and whether MAP_RING returned an address. -/
structure DeviceReplies where
  opened : Bool
  version : Option VersionInfo
  mapped : Bool

/-- `attached` is `ring_ != nullptr`: the section is mapped. -/
structure SmartMicDriverLink where
  attached : Bool
  driverVersion : BitVec 32

def SmartMicDriverLink.closed : SmartMicDriverLink :=
  { attached := false, driverVersion := 0#32 }

/-- `closeDevice`, which is all of `stop`. -/
def SmartMicDriverLink.stop (link : SmartMicDriverLink) : SmartMicDriverLink :=
  { link with attached := false }

def SharedRing.beat (ring : SharedRing) (now : BitVec 64) : SharedRing :=
  { ring with header := { ring.header with producerHeartbeat := now } }

def SmartMicDriverLink.start (link : SmartMicDriverLink) (ring : SharedRing)
    (replies : DeviceReplies) (now : BitVec 64) : Bool × SmartMicDriverLink × SharedRing :=
  if link.attached then (true, link, ring)
  else if replies.opened = false then (false, link, ring)
  else
    match replies.version with
    | none => (false, link.stop, ring)
    | some version =>
        let known := { link with driverVersion := version.driverVersion }
        if version.ringVersion ≠ ringVersion ∨ version.ringTotalBytes ≠ ringTotalBytes then
          (false, known.stop, ring)
        else if replies.mapped = false then (false, known.stop, ring)
        else if ring.header.magic ≠ ringMagic then (false, known.stop, ring)
        else (true, { known with attached := true }, ring.beat now)

/-- Canonical sample to the driver's PCM16, hard limited. -/
def toPcm16 {α : Type} [SampleArithmetic α] (sample : α) : PcmFrame :=
  toSixteenBits kCeiling sample

/-- `memcpy` of `source` over the payload from frame `offset` on. -/
def copyIn (payload : Nat → PcmFrame) (offset : Nat) (source : List PcmFrame) :
    Nat → PcmFrame :=
  fun position =>
    if offset ≤ position ∧ position < offset + source.length then
      source.getD (position - offset) 0#16
    else payload position

/-- `SmartMicDriverLink::write` from the converted frames on, on a mapped ring. -/
def SharedRing.writeFrames (ring : SharedRing) (scratch : List PcmFrame) (now : BitVec 64) :
    SharedRing :=
  let samples := BitVec.ofNat 64 scratch.length
  let write := ring.header.writeIndex
  let used := write - ring.header.readIndex
  if BitVec.ofNat 64 ringFrames < used + samples then
    -- not draining: the new frames are dropped and counted
    SharedRing.beat
      { ring with header :=
          { ring.header with
            overrunCount := ring.header.overrunCount + BitVec.ofNat 32 scratch.length } } now
  else
    let offset := (write &&& ringMask).toNat
    let first := min scratch.length (ringFrames - offset)
    SharedRing.beat
      { header := { ring.header with writeIndex := write + samples }
        payload := copyIn (copyIn ring.payload offset (scratch.take first)) 0 (scratch.drop first) }
      now

/-- `SmartMicDriverLink::write`; the first component is its return value. -/
def SmartMicDriverLink.write {α : Type} [SampleArithmetic α] (link : SmartMicDriverLink)
    (ring : SharedRing) (input : List α) (now : BitVec 64) : Bool × SharedRing :=
  if link.attached = false then (false, ring)
  else (true, ring.writeFrames (input.map toPcm16) now)

/-! ### Both halves together -/

structure Pair where
  link : SmartMicDriverLink
  ring : SharedRing

def Pair.initial : Pair :=
  { link := SmartMicDriverLink.closed, ring := SharedRing.initialize }

/-- One call on either side. -/
inductive Call where
  | start (replies : DeviceReplies) (now : BitVec 64)
  | stop
  | write (input : List Binary32) (now : BitVec 64)
  | read (frames : BitVec 32) (now : BitVec 64)
  | setStreamOpen (isOpen : Bool)

def Pair.step (pair : Pair) : Call → Pair
  | .start replies now =>
      let (_, link, ring) := pair.link.start pair.ring replies now
      { link := link, ring := ring }
  | .stop => { pair with link := pair.link.stop }
  | .write input now => { pair with ring := (pair.link.write pair.ring input now).2 }
  | .read frames now => { pair with ring := (pair.ring.read frames now).ring }
  | .setStreamOpen isOpen => { pair with ring := pair.ring.setStreamOpen isOpen }

/-- The producer heartbeat is fresh whenever the driver reads. -/
def FreshRead (pair : Pair) : Call → Prop
  | .read _ now => pair.ring.header.producerAlive now = true
  | _ => True

end SmartMic.Driver
