import SmartMic.Apps.PhoneRuntime
import SmartMic.Audio.Audible

set_option autoImplicit false

/-! The service: the callbacks it gives its session and the body of its audio loop, on
the variables they share. Each callback and each round of the loop is one step; what
the service passes to `sendControl` is the second component.

The local source, the sink and the name of the local device come from outside. The
printing is left out. -/

namespace SmartMic.Apps

open SmartMic.Protocol SmartMic.Media SmartMic.Audio

section

variable {Decoder : Type}

/-- `PhoneMediaSource::read` of one canonical frame. -/
def readPhoneSource (opus : OpusLibrary Decoder) (source : PhoneMediaSource Decoder) :
    SourceRead × PhoneMediaSource Decoder :=
  if source.started = false then
    ({ status := .failed, samples := fun _ => 0 }, source)
  else
    let popped := source.buffer.pop opus source.decoder kFrameSamples
    ({ status := if popped.real then .ok else .underrun
       samples := fun index => popped.out.getD index 0 },
      { source with buffer := popped.buffer, decoder := popped.decoder })

structure Service (Decoder : Type) where
  router : AudioRouter
  phoneSource : PhoneMediaSource Decoder
  pttRequested : Bool
  announcedReady : Bool
  lastMediaMs : BitVec 64

/-- The default router with all three ends attached, and a phone source that has
started if its decoder opened. -/
def Service.create (decoder : Option Decoder) : Service Decoder :=
  { router := AudioRouter.initial {} { local_ := true, phone := true, sink := true }
    phoneSource := (PhoneMediaSource.create {}).start decoder
    pttRequested := false
    announcedReady := false
    lastMediaMs := 0#64 }

/-- `onMedia`: the arrival of media is liveness, whatever the payload. -/
def Service.onMedia (nowMs : BitVec 64) (service : Service Decoder) (data : Bytes) :
    Service Decoder :=
  { service with
    lastMediaMs := nowMs
    phoneSource := (service.phoneSource.onMediaPayload data nowMs).2
    router := service.router.notifyPhoneHeartbeat }

def modeNamed (name : Bytes) : RoutingMode :=
  if name = ascii "PhoneOnly" then .phoneOnly
  else if name = ascii "LocalOnly" then .localOnly
  else if name = ascii "Mute" then .mute
  else .auto

def Service.status (localSourceName : Bytes) (service : Service Decoder) : Json :=
  .object
    [(ascii "driverReady", .boolean true),
      (ascii "localSourceName", .string localSourceName),
      (ascii "mode", .string (ascii service.router.mode.toText)),
      (ascii "routerState", .string (ascii service.router.state.toText))]

def Service.startPtt (service : Service Decoder) : Service Decoder × List Command :=
  ({ service with
      pttRequested := true
      announcedReady := false
      router := service.router.startPtt },
    [{ type := .pttPreparing, payload := .object [] }])

def Service.stopPtt (service : Service Decoder) : Service Decoder × List Command :=
  ({ service with
      pttRequested := false
      router := service.router.stopPtt },
    [{ type := .pttStopped, payload := .object [] }])

/-- `onControl` of the service; none is an exception. -/
def Service.onControl (localSourceName : Bytes) (service : Service Decoder)
    (message : Message) : Option (Service Decoder × List Command) :=
  match message.type with
  | .startPtt => some service.startPtt
  | .stopPtt => some service.stopPtt
  | .setMode =>
      match message.payload with
      | .object fields =>
          match JsonFields.value fields "mode" (ascii "Auto") with
          | .found name =>
              some ({ service with router := service.router.setMode (modeNamed name) }, [])
          | .typeError => none
      | _ => none
  | .ping => some (service, [{ type := .pong, payload := .object [] }])
  | .getStatus => some (service, [{ type := .status, payload := service.status localSourceName }])
  | _ => some (service, [])

/-! ### The audio loop -/

/-- The condition under which a round announces PTT_READY. -/
def Service.announces (service : Service Decoder) : Bool :=
  service.pttRequested && !service.announcedReady &&
    decide (service.router.state = .phoneArming) && service.phoneSource.ready

/-- `makePttReady`. -/
def pttReadyCommand (acceptedAtMs : BitVec 64) : Command :=
  { type := .pttReady
    payload := .object
      [(ascii "acceptedAt", .unsigned acceptedAtMs.toNat),
        (ascii "routerState", .string (ascii "PHONE_ACTIVE"))] }

def Service.announce (nowUnixMs : BitVec 64) (service : Service Decoder) :
    Service Decoder × List Command :=
  if service.announces then
    ({ service with
        router := service.router.notifyPhoneReady
        announcedReady := true },
      [pttReadyCommand nowUnixMs])
  else (service, [])

/-- What one round of the loop meets outside the service. -/
structure Room where
  local_ : SourceRead
  sinkAccepts : Bool
  nowUnixMs : BitVec 64

/-- The surroundings of the tick: the phone source answers for the phone. -/
def Service.surroundings (opus : OpusLibrary Decoder) (service : Service Decoder) (room : Room) :
    Surroundings :=
  { local_ := room.local_
    phone := (readPhoneSource opus service.phoneSource).1
    sinkAccepts := room.sinkAccepts }

/-- `router.tick()`; the phone source moves only if the router reads it. -/
def Service.tick (curves : GainCurves) (opus : OpusLibrary Decoder) (service : Service Decoder)
    (room : Room) : Service Decoder :=
  let around := service.surroundings opus room
  { service with
    phoneSource :=
      if service.router.skipsPhone around then service.phoneSource
      else (readPhoneSource opus service.phoneSource).2
    router := service.router.tick curves around }

def Service.loop (curves : GainCurves) (opus : OpusLibrary Decoder) (service : Service Decoder)
    (room : Room) : Service Decoder × List Command :=
  match service.announce room.nowUnixMs with
  | (announced, commands) => (announced.tick curves opus room, commands)

end

/-! ### For concrete runs -/

def mediaPayload (marker : Bool) (seq : Seq) : Bytes :=
  writeHeader
    { version := kMediaVersion
      flags := kFlagPttActive ||| (if marker then kFlagMarker else kFlagNone)
      reserved := 0#16
      seq := seq
      timestampSamples := 0#32 } ++ [0x5a]

def silentRoom : Room :=
  { local_ := quietRoom.local_, sinkAccepts := true, nowUnixMs := 1000#64 }

end SmartMic.Apps
