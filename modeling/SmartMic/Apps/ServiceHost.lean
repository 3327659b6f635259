import SmartMic.Apps.Service
import SmartMic.Media.ChannelDelivery
import SmartMic.Media.SlotPlayout

set_option autoImplicit false

/-! The process on the PC: the session beside the service it drives. A datagram goes
through the session to the callbacks, what these send goes back through the session, and
the audio loop takes its rounds in between. Each datagram and each round is one step.

An exception on one of the threads ends the process. The printing is left out. -/

namespace SmartMic.Apps

open SmartMic.Protocol SmartMic.Security SmartMic.Media SmartMic.Session SmartMic.Audio

structure Host (Decoder : Type) where
  peer : PeerSession
  service : Service Decoder
  sessionId : Bytes
  terminated : Bool

structure HostReaction (Decoder : Type) where
  host : Host Decoder
  sent : List Bytes

section

variable {Decoder : Type}

def HostReaction.quiet (host : Host Decoder) : HostReaction Decoder :=
  { host := host, sent := [] }

def HostReaction.andThen (first : HostReaction Decoder)
    (action : Host Decoder → HostReaction Decoder) : HostReaction Decoder :=
  { host := (action first.host).host, sent := first.sent ++ (action first.host).sent }

def Host.create (identity : DeviceIdentity) (decoder : Option Decoder)
    (sessionId code : Bytes) (book : PairingOfferBook) : Host Decoder :=
  { peer := (PeerSession.create identity .responder).armPairing sessionId code (some book)
    service := Service.create decoder
    sessionId := sessionId
    terminated := false }

/-- `peer.sendControl(Message::make(type, sessionId, deviceId, peer.nextSeq(), payload))`. -/
def Host.sendControl (sodium : Sodium) (library : JsonLibrary) (stamp : Stamp) (sessionId : Bytes)
    (command : Command) (host : Host Decoder) : HostReaction Decoder :=
  match host.peer.nextSeq with
  | (seq, peer) =>
      let reaction := peer.sendControl sodium library
        (Message.make stamp command.type sessionId (peer.self_.deviceId sodium) seq
          command.payload)
      { host :=
          { host with
            peer := reaction.session
            terminated := host.terminated || reaction.threw }
        sent := reaction.sent }

def Host.sendAll (sodium : Sodium) (library : JsonLibrary) (stamp : Stamp) (sessionId : Bytes) :
    List Command → Host Decoder → HostReaction Decoder
  | [], host => .quiet host
  | command :: rest, host =>
      (host.sendControl sodium library stamp sessionId command).andThen
        (Host.sendAll sodium library stamp sessionId rest)

/-- `onMedia` and `onControl`; a reply carries the session id of what it answers. -/
def Host.onDelivery (sodium : Sodium) (library : JsonLibrary) (stamp : Stamp)
    (nowMs : BitVec 64) (localSourceName : Bytes) (host : Host Decoder) :
    Delivery → HostReaction Decoder
  | .media payload => .quiet { host with service := host.service.onMedia nowMs payload }
  | .control message =>
      match host.service.onControl localSourceName message with
      | none => .quiet { host with terminated := true }
      | some (service, commands) =>
          Host.sendAll sodium library stamp message.sessionId commands
            { host with service := service }

def Host.onDeliveries (sodium : Sodium) (library : JsonLibrary) (stamp : Stamp)
    (nowMs : BitVec 64) (localSourceName : Bytes) :
    List Delivery → Host Decoder → HostReaction Decoder
  | [], host => .quiet host
  | delivery :: rest, host =>
      (host.onDelivery sodium library stamp nowMs localSourceName delivery).andThen
        (Host.onDeliveries sodium library stamp nowMs localSourceName rest)

/-- A datagram that reaches the process, with what the world supplies to its handling. -/
structure Incoming where
  bytes : Bytes
  moment : Moment
  nowMs : BitVec 64
  stamp : Stamp
  localSourceName : Bytes

def Host.hear (sodium : Sodium) (library : JsonLibrary) (host : Host Decoder)
    (incoming : Incoming) : HostReaction Decoder :=
  let reaction := host.peer.onDatagram sodium library incoming.moment incoming.bytes
  HostReaction.andThen
    { host :=
        { host with
          peer := reaction.session
          terminated := host.terminated || reaction.threw }
      sent := reaction.sent }
    (Host.onDeliveries sodium library incoming.stamp incoming.nowMs incoming.localSourceName
      reaction.delivered)

def Host.round (sodium : Sodium) (library : JsonLibrary) (curves : GainCurves)
    (opus : OpusLibrary Decoder) (stamp : Stamp) (room : Room) (host : Host Decoder) :
    HostReaction Decoder :=
  match host.service.announce room.nowUnixMs with
  | (service, commands) =>
      (Host.sendAll sodium library stamp host.sessionId commands
        { host with service := service }).andThen
        fun host => .quiet { host with service := host.service.tick curves opus room }

inductive HostInput where
  | datagram (incoming : Incoming)
  | round (stamp : Stamp) (room : Room)

def Host.react (sodium : Sodium) (library : JsonLibrary) (curves : GainCurves)
    (opus : OpusLibrary Decoder) (host : Host Decoder) : HostInput → HostReaction Decoder
  | .datagram incoming => host.hear sodium library incoming
  | .round stamp room => host.round sodium library curves opus stamp room

/-- A process that an exception has ended takes no further step. -/
def Host.step (sodium : Sodium) (library : JsonLibrary) (curves : GainCurves)
    (opus : OpusLibrary Decoder) (host : Host Decoder) (input : HostInput) : Host Decoder :=
  if host.terminated then host else (host.react sodium library curves opus input).host

/-! ### Replies -/

/-- What the session sends leaves alone: the service, the keys, the window, the state. -/
structure Host.Replied (before after : Host Decoder) : Prop where
  service : after.service = before.service
  sessionId : after.sessionId = before.sessionId
  state : after.peer.state = before.peer.state
  keys : before.peer.channel.SameKeys after.peer.channel
  replay : after.peer.channel.replay = before.peer.channel.replay

theorem Host.Replied.refl (host : Host Decoder) : host.Replied host :=
  { service := rfl, sessionId := rfl, state := rfl
    keys := SecureChannel.SameKeys.refl _, replay := rfl }

theorem Host.Replied.trans {first second third : Host Decoder} (replied : first.Replied second)
    (replied' : second.Replied third) : first.Replied third :=
  { service := replied'.service.trans replied.service
    sessionId := replied'.sessionId.trans replied.sessionId
    state := replied'.state.trans replied.state
    keys := replied.keys.trans replied'.keys
    replay := replied'.replay.trans replied.replay }

section

variable (sodium : Sodium) (library : JsonLibrary) (stamp : Stamp)

theorem sendSealed_keeps (session : PeerSession) (tag : UInt8) (plain : Bytes) :
    (session.sendSealed sodium tag plain).session.state = session.state ∧
      session.channel.SameKeys (session.sendSealed sodium tag plain).session.channel ∧
      (session.sendSealed sodium tag plain).session.channel.replay = session.channel.replay := by
  have kept := session.channel.seal_keeps sodium plain
  unfold PeerSession.sendSealed
  rcases packed : session.channel.seal sodium plain with ⟨packet, channel⟩
  rw [packed] at kept
  cases packet with
  | none => exact ⟨rfl, kept⟩
  | some packet => exact ⟨rfl, kept⟩

theorem Host.sendControl_replied (sessionId : Bytes) (command : Command) (host : Host Decoder) :
    host.Replied (host.sendControl sodium library stamp sessionId command).host := by
  unfold Host.sendControl PeerSession.nextSeq PeerSession.sendControl
  dsimp only
  split
  · exact { Host.Replied.refl host with }
  · split
    · exact { Host.Replied.refl host with }
    · rename_i text _encoded
      obtain ⟨state, keys, replay⟩ := sendSealed_keeps sodium
        { host.peer with seq := host.peer.seq + 1#64 } tagControl text
      exact { service := rfl, sessionId := rfl, state := state, keys := keys, replay := replay }

theorem Host.sendAll_replied (sessionId : Bytes) (commands : List Command)
    (host : Host Decoder) :
    host.Replied (Host.sendAll sodium library stamp sessionId commands host).host := by
  induction commands generalizing host with
  | nil => exact Host.Replied.refl host
  | cons command rest ih =>
      exact (host.sendControl_replied sodium library stamp sessionId command).trans (ih _)

end

theorem Service.onControl_phoneSource {service next : Service Decoder} {localSourceName : Bytes}
    {message : Message} {commands : List Command}
    (handled : service.onControl localSourceName message = some (next, commands)) :
    next.phoneSource = service.phoneSource := by
  unfold Service.onControl Service.startPtt Service.stopPtt at handled
  repeat' split at handled
  all_goals cases handled
  all_goals rfl

theorem Service.announce_phoneSource (service : Service Decoder) (nowUnixMs : BitVec 64) :
    (service.announce nowUnixMs).1.phoneSource = service.phoneSource := by
  unfold Service.announce
  split <;> rfl

end

end SmartMic.Apps
