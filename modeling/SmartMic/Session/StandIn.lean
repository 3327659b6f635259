import SmartMic.Protocol.StandIn
import SmartMic.Security.StandIn
import SmartMic.Session.PeerSession

set_option autoImplicit false

/-! A phone and a desk that pair over a perfect network, with libraries that run. -/

namespace SmartMic.Session.StandIn

open SmartMic.Protocol SmartMic.Security SmartMic.StandIn

def moment : Moment := { nowMs := 1000#64, scalar := scalar 4 }

def sentBy (reaction : Reaction) : Bytes := reaction.sent.headD []

def receive (session : PeerSession) (datagram : Bytes) : Reaction :=
  session.onDatagram sodium json moment datagram

def phone : PeerSession := PeerSession.create (identity 1) .initiator
def desk : PeerSession := PeerSession.create (identity 2) .responder

def phoneBegun : Reaction := phone.beginPairing sodium json sessionId code (scalar 3)
def deskArmed : PeerSession := desk.armPairing sessionId code (some book)
def pair1 : Bytes := sentBy phoneBegun
def deskAnswered : Reaction := receive deskArmed pair1
def pair2 : Bytes := sentBy deskAnswered
def phoneDerived : Reaction := receive phoneBegun.session pair2
def pair3 : Bytes := sentBy phoneDerived
def deskPaired : Reaction := receive deskAnswered.session pair3
def pair4 : Bytes := sentBy deskPaired
def phonePaired : Reaction := receive phoneDerived.session pair4

/-! ### Control messages between the two -/

def stamp : Stamp := { messageId := ascii "4d", nowUnixMs := 1000#64 }

def controlMessage (type : MsgType) (seq : BitVec 64) : Message :=
  Message.make stamp type sessionId [] seq (.object [])

def sendMessage (session : PeerSession) (type : MsgType) (seq : BitVec 64) : Reaction :=
  session.sendControl sodium controlJson (controlMessage type seq)

end SmartMic.Session.StandIn
