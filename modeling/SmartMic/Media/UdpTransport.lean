import SmartMic.Format

set_option autoImplicit false

/-! One UDP socket with one peer. `recvfrom` fills the buffer it is given and drops what
is left of the datagram. Starting, stopping and resolving a peer are left out; whether
`sendto` takes a datagram is an argument. -/

namespace SmartMic.Media

def kMaxDatagram : Nat := 2048

structure Address where
  ip : BitVec 32
  port : BitVec 16
  deriving DecidableEq, Repr

structure TransportStats where
  packetsSent : Nat
  packetsReceived : Nat
  bytesSent : Nat
  bytesReceived : Nat
  sendFailures : Nat

structure UdpTransport where
  socketOpen : Bool
  running : Bool
  peer : Option Address
  stats : TransportStats

def UdpTransport.failed (transport : UdpTransport) : UdpTransport :=
  { transport with stats :=
      { transport.stats with sendFailures := transport.stats.sendFailures + 1 } }

/-- `send`: what leaves the socket, and for whom. -/
def UdpTransport.send (transport : UdpTransport) (taken : Bool) (data : Bytes) :
    Option (Address × Bytes) × UdpTransport :=
  if transport.socketOpen = false then (none, transport.failed)
  else
    match transport.peer with
    | none => (none, transport.failed)
    | some peer =>
        if taken = false then (none, transport.failed)
        else
          (some (peer, data),
            { transport with stats :=
                { transport.stats with
                  packetsSent := transport.stats.packetsSent + 1
                  bytesSent := transport.stats.bytesSent + data.length } })

/-- One turn of `receiveLoop`: the bytes for the handler, if it is called. -/
def UdpTransport.receive (transport : UdpTransport) (sender : Address) (datagram : Bytes) :
    Option Bytes × UdpTransport :=
  let buf := datagram.take kMaxDatagram
  if transport.running = false ∨ buf = [] then (none, transport)
  else
    (some buf,
      { transport with
        -- the first contact on a listening socket tells where to reply
        peer := some (transport.peer.getD sender)
        stats :=
          { transport.stats with
            packetsReceived := transport.stats.packetsReceived + 1
            bytesReceived := transport.stats.bytesReceived + buf.length } })

structure UdpTransport.ConnectedTo (transport : UdpTransport) (peer : Address) : Prop where
  socketOpen : transport.socketOpen = true
  running : transport.running = true
  peer : transport.peer = some peer

section

variable {transport : UdpTransport} {peer : Address}

theorem UdpTransport.ConnectedTo.sends (connected : transport.ConnectedTo peer) (data : Bytes) :
    (transport.send true data).1 = some (peer, data) ∧
      (transport.send true data).2.ConnectedTo peer := by
  unfold UdpTransport.send
  rw [if_neg (by rw [connected.socketOpen]; decide), connected.peer]
  dsimp only
  rw [if_neg (by decide)]
  exact ⟨rfl, connected.socketOpen, connected.running, rfl⟩

theorem UdpTransport.ConnectedTo.receives (connected : transport.ConnectedTo peer)
    (sender : Address) (first : UInt8) (rest : Bytes) :
    (transport.receive sender (first :: rest)).1 =
        some (first :: rest.take (kMaxDatagram - 1)) ∧
      (transport.receive sender (first :: rest)).2.ConnectedTo peer := by
  have head : (first :: rest).take kMaxDatagram = first :: rest.take (kMaxDatagram - 1) := rfl
  have handled : ¬ (transport.running = false ∨
      first :: rest.take (kMaxDatagram - 1) = []) := by
    rw [connected.running]
    simp
  unfold UdpTransport.receive
  rw [head]
  dsimp only
  rw [if_neg handled]
  refine ⟨rfl, connected.socketOpen, connected.running, ?_⟩
  rw [connected.peer]
  rfl

end

end SmartMic.Media
