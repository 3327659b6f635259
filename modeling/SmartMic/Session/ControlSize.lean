import SmartMic.Media.ChannelDelivery
import SmartMic.Media.UdpTransport
import SmartMic.Protocol.CodecRoundTrip
import SmartMic.Session.TypedDelivery

set_option autoImplicit false

/-! Two authenticated sessions, each on its own UDP socket, with the other for a peer.
Nothing is lost: what one side sends the other receives, through the buffer of its
socket. The JSON encoding of a control message has a limit of its own, which is larger
than what this buffer leaves for it. -/

namespace SmartMic.Session

open SmartMic.Protocol SmartMic.Security SmartMic.Media

/-- A session on its transport, with the address of its socket. -/
structure Endpoint where
  session : PeerSession
  transport : UdpTransport
  address : Address

/-- The two sides, by their roles. -/
abbrev Link := PairingRole → Endpoint

def otherRole : PairingRole → PairingRole
  | .initiator => .responder
  | .responder => .initiator

def Given.input : Given → SessionInput
  | .control message => .sendControl message
  | .media payload => .sendMedia payload

def sendAll (transport : UdpTransport) : List Bytes → List (Address × Bytes) × UdpTransport
  | [] => ([], transport)
  | data :: rest =>
      let sent := transport.send true data
      let later := sendAll sent.2 rest
      (sent.1.toList ++ later.1, later.2)

section

variable (sodium : Sodium) (library : JsonLibrary)

def Endpoint.send (end_ : Endpoint) (given : Given) : List (Address × Bytes) × Endpoint :=
  let reaction := end_.session.react sodium library given.input
  let sent := sendAll end_.transport reaction.sent
  (sent.1, { end_ with session := reaction.session, transport := sent.2 })

/-- A datagram from the socket to the session. Replies are left out: a sealed datagram
has none. -/
def Endpoint.receive (moment : Moment) (sender : Address) (end_ : Endpoint) (datagram : Bytes) :
    List Delivery × Endpoint :=
  match end_.transport.receive sender datagram with
  | (none, transport) => ([], { end_ with transport := transport })
  | (some bytes, transport) =>
      let reaction := end_.session.onDatagram sodium library moment bytes
      (reaction.delivered, { end_ with session := reaction.session, transport := transport })

def Endpoint.receiveAll (moment : Moment) (sender : Address) :
    Endpoint → List Bytes → List Delivery × Endpoint
  | end_, [] => ([], end_)
  | end_, datagram :: rest =>
      let received := end_.receive sodium library moment sender datagram
      let later := Endpoint.receiveAll moment sender received.2 rest
      (received.1 ++ later.1, later.2)

/-- One side sends; what is addressed to the other side arrives there. -/
def Link.carry (link : Link) (role : PairingRole) (moment : Moment) (given : Given) :
    List Delivery × Link :=
  let sent := (link role).send sodium library given
  let arriving := sent.1.filter fun entry => decide (entry.1 = (link (otherRole role)).address)
  let received := (link (otherRole role)).receiveAll sodium library moment (link role).address
    (arriving.map Prod.snd)
  (received.1, fun side => if side = role then sent.2 else received.2)

structure LinkSend where
  role : PairingRole
  moment : Moment
  given : Given

def Link.step (link : Link) (event : LinkSend) : Link :=
  (link.carry sodium library event.role event.moment event.given).2

/-- Both sides are authenticated under one session key and have just set up their
channels; their sockets are connected to each other. -/
structure Link.Joined (link : Link) (sessionKey : SessionKey) : Prop where
  role : ∀ role, (link role).session.role = role
  authenticated : ∀ role, (link role).session.state = .authenticated
  channel : ∀ role, ∃ before : SecureChannel, (link role).session.channel =
    before.init sodium sessionKey (link role).session.sendDirection
  transport : ∀ role, (link role).transport.ConnectedTo (link (otherRole role)).address

def kBoxRoom : Nat := kMaxDatagram - (1 + 8)

/-- The longest text whose datagram fits the buffer: 2023 bytes. -/
def kCarriedBytes : Nat := kMaxDatagram - (1 + kSecureOverhead)

structure Link.Ready (link : Link) (role : PairingRole) (message : Message)
    (text cipher : Bytes) : Prop where
  version : message.protocolVersion = 1#32
  object : ∃ payload, message.payload = .object payload
  inverts : library.Inverts message.toJson
  encoded : encode library message = some text
  fresh : ((link (otherRole role)).session.controlReplay.accept message.seq).1 = true
  boxed : sodium.secretboxEasy text (link role).session.channel.sendNonce
    (link role).session.channel.sendKey = some cipher
  cut : kBoxRoom < cipher.length → sodium.secretboxOpenEasy (cipher.take kBoxRoom)
    (link role).session.channel.sendNonce (link role).session.channel.sendKey = none

end

/-! ### What one side keeps -/

structure Endpoint.Keeps (before after : Endpoint) : Prop where
  state : after.session.state = before.session.state
  keys : before.session.channel.SameKeys after.session.channel
  address : after.address = before.address
  transport : ∀ peer, before.transport.ConnectedTo peer → after.transport.ConnectedTo peer

theorem Endpoint.Keeps.refl (end_ : Endpoint) : end_.Keeps end_ :=
  { state := rfl, keys := SecureChannel.SameKeys.refl _, address := rfl
    transport := fun _ connected => connected }

theorem Endpoint.Keeps.trans {first second third : Endpoint} (keeps : first.Keeps second)
    (keeps' : second.Keeps third) : first.Keeps third :=
  { state := keeps'.state.trans keeps.state
    keys := keeps.keys.trans keeps'.keys
    address := keeps'.address.trans keeps.address
    transport := fun peer connected => keeps'.transport peer (keeps.transport peer connected) }

/-- A datagram of a seal at this counter, under one of the two sealed tags. -/
def SealedAt (counter : BitVec 64) (datagram : Bytes) : Prop :=
  ∃ tag cipher, tag ≠ tagPairing ∧ datagram = tag :: (littleEndian 8 counter.toNat ++ cipher)

/-- What a send can do: it may use up a counter, and does so for every datagram. -/
structure PeerSession.SendsAt (session : PeerSession) (reaction : Reaction) : Prop where
  state : reaction.session.state = session.state
  keys : session.channel.SameKeys reaction.session.channel
  window : reaction.session.channel.replay = session.channel.replay
  counter : reaction.session.channel.counter = session.channel.counter ∨
    reaction.session.channel.counter = session.channel.counter + 1#64
  sent : ∀ datagram ∈ reaction.sent,
    reaction.session.channel.counter = session.channel.counter + 1#64 ∧
      SealedAt session.channel.counter datagram

section

variable {sodium : Sodium} {library : JsonLibrary} {peer : Address}

theorem sendAll_connected (datagrams : List Bytes) :
    ∀ transport : UdpTransport, transport.ConnectedTo peer →
      (sendAll transport datagrams).1 = datagrams.map (fun data => (peer, data)) ∧
        (sendAll transport datagrams).2.ConnectedTo peer := by
  induction datagrams with
  | nil => exact fun _transport connected => ⟨rfl, connected⟩
  | cons data rest ih =>
      intro transport connected
      obtain ⟨leaves, still⟩ := connected.sends data
      obtain ⟨later, last⟩ := ih _ still
      unfold sendAll
      dsimp only
      rw [leaves, later]
      exact ⟨rfl, last⟩

theorem PeerSession.sendsAt_quiet (session : PeerSession) {reaction : Reaction}
    (same : reaction.session = session) (silent : reaction.sent = []) :
    session.SendsAt reaction := by
  constructor
  · rw [same]
  · rw [same]
    exact SecureChannel.SameKeys.refl _
  · rw [same]
  · rw [same]
    exact Or.inl rfl
  · rw [silent]
    exact fun datagram member => absurd member List.not_mem_nil

theorem PeerSession.sendsAt_sendSealed (session : PeerSession) {tag : UInt8}
    (foreign : tag ≠ tagPairing) (plain : Bytes) :
    session.SendsAt (session.sendSealed sodium tag plain) := by
  obtain ⟨keys, window⟩ := session.channel.seal_keeps sodium plain
  obtain ⟨used, moved⟩ := session.channel.seal_counter sodium plain
  have after : (session.sendSealed sodium tag plain).session =
      { session with channel := (session.channel.seal sodium plain).2 } := by
    unfold PeerSession.sendSealed
    split
    · rename_i failed
      rw [failed]
      rfl
    · rename_i made
      rw [made]
  constructor
  · rw [after]
  · rw [after]
    exact keys
  · rw [after]
    exact window
  · rw [after]
    exact moved
  · rw [after]
    intro datagram member
    unfold PeerSession.sendSealed at member
    split at member
    · cases member
    · rename_i packet channel made
      have some_ : (session.channel.seal sodium plain).1.isSome = true := by
        rw [made]
        rfl
      refine ⟨(used some_).2, ?_⟩
      rw [List.mem_singleton.mp member]
      unfold SecureChannel.seal at made
      rw [if_neg (by rw [(used some_).1]; decide)] at made
      dsimp only at made
      split at made
      · cases made
      · cases made
        exact ⟨tag, _, foreign, rfl⟩

theorem PeerSession.sendsAt_react (session : PeerSession) (given : Given) :
    session.SendsAt (session.react sodium library given.input) := by
  cases given with
  | control message =>
      change session.SendsAt (session.sendControl sodium library message)
      unfold PeerSession.sendControl
      split
      · exact session.sendsAt_quiet rfl rfl
      · split
        · exact session.sendsAt_quiet rfl rfl
        · exact session.sendsAt_sendSealed (by decide) _
  | media payload =>
      change session.SendsAt (session.sendMedia sodium payload)
      unfold PeerSession.sendMedia
      split
      · exact session.sendsAt_quiet rfl rfl
      · exact session.sendsAt_sendSealed (by decide) _

theorem Endpoint.send_keeps {end_ : Endpoint} (connected : end_.transport.ConnectedTo peer)
    (given : Given) :
    end_.Keeps (end_.send sodium library given).2 ∧
      (end_.send sodium library given).1 =
        (end_.session.react sodium library given.input).sent.map fun data => (peer, data) := by
  have reacted : end_.session.SendsAt (end_.session.react sodium library given.input) :=
    end_.session.sendsAt_react given
  refine ⟨?_, (sendAll_connected _ _ connected).1⟩
  exact
    { state := reacted.state
      keys := reacted.keys
      address := rfl
      transport := fun other still => (sendAll_connected _ _ still).2 }

/-! ### What the other side keeps -/

/-- Every number that the window has taken is below the bound. -/
def Below (window : ReplayWindow 1024) (bound : BitVec 64) : Prop :=
  window.initialised = true → window.highest < bound

theorem Below.accept {window : ReplayWindow 1024} {bound seq : BitVec 64}
    (below : Below window bound) (next : seq < bound) : Below (window.accept seq).2 bound := by
  unfold ReplayWindow.accept
  by_cases first : window.initialised = false
  · rw [if_pos first]
    exact fun _ => next
  · rw [if_neg first]
    by_cases newer : window.highest < seq
    · rw [if_pos newer]
      exact fun _ => next
    · rw [if_neg newer]
      dsimp only
      split
      · exact below
      · split
        · exact below
        · exact below

theorem Below.fresh {window : ReplayWindow 1024} {seq : BitVec 64} (below : Below window seq) :
    (window.accept seq).1 = true := by
  unfold ReplayWindow.accept
  by_cases first : window.initialised = false
  · rw [if_pos first]
  · rw [if_neg first, if_pos (below (by simpa using first))]

theorem packetCounter_take (counter : BitVec 64) (cipher : Bytes) {kept : Nat}
    (behind : 8 ≤ kept) :
    packetCounter ((littleEndian 8 counter.toNat ++ cipher).take kept) = counter := by
  have whole := SealedPacket.packetCounter_packet
    { counter := counter, plain := [], nonce := [], cipher := cipher }
  unfold packetCounter at whole ⊢
  rw [List.take_take, Nat.min_eq_left behind]
  exact whole

theorem Endpoint.receive_eq {end_ : Endpoint} (connected : end_.transport.ConnectedTo peer)
    (moment : Moment) (sender : Address) (first : UInt8) (rest : Bytes) :
    end_.receive sodium library moment sender (first :: rest) =
      let reaction := end_.session.onDatagram sodium library moment
        (first :: rest.take (kMaxDatagram - 1))
      (reaction.delivered,
        { end_ with
          session := reaction.session
          transport := (end_.transport.receive sender (first :: rest)).2 }) := by
  obtain ⟨handed, -⟩ := connected.receives sender first rest
  unfold Endpoint.receive
  rcases received : end_.transport.receive sender (first :: rest) with ⟨bytes, transport⟩
  rw [received] at handed
  dsimp only at handed
  rw [handed]

/-- A sealed datagram moves the window by the counter of its body at most. -/
theorem PeerSession.onDatagram_window (session : PeerSession) (moment : Moment) {tag : UInt8}
    (body : Bytes) (foreign : tag ≠ tagPairing) :
    let after := (session.onDatagram sodium library moment (tag :: body)).session
    after.state = session.state ∧ session.channel.SameKeys after.channel ∧
      after.channel.counter = session.channel.counter ∧
      (after.channel.replay = session.channel.replay ∨
        after.channel.replay = (session.channel.replay.accept (packetCounter body)).2) := by
  intro after
  obtain ⟨-, -, state, channel, -⟩ := session.react_sealed sodium library moment body foreign
  change after.state = _ at state
  change after.channel = _ ∨ after.channel = _ at channel
  rcases channel with still | opened
  · rw [still]
    exact ⟨state, SecureChannel.SameKeys.refl _, rfl, Or.inl rfl⟩
  · obtain ⟨keys, same⟩ := session.channel.open_keeps sodium body
    rw [opened]
    exact ⟨state, keys, same, (session.channel.open_window sodium body).2⟩

theorem Endpoint.receive_keeps {end_ : Endpoint} (connected : end_.transport.ConnectedTo peer)
    (moment : Moment) (sender : Address) {counter : BitVec 64} {datagram : Bytes}
    (sealed_ : SealedAt counter datagram) :
    let after := (end_.receive sodium library moment sender datagram).2
    end_.Keeps after ∧
      after.session.channel.counter = end_.session.channel.counter ∧
      (after.session.channel.replay = end_.session.channel.replay ∨
        after.session.channel.replay = (end_.session.channel.replay.accept counter).2) := by
  intro after
  obtain ⟨tag, cipher, foreign, rfl⟩ := sealed_
  have reached := congrArg Prod.snd (@Endpoint.receive_eq sodium library peer end_ connected
    moment sender tag (littleEndian 8 counter.toNat ++ cipher))
  change after = _ at reached
  obtain ⟨state, keys, same, window⟩ := @PeerSession.onDatagram_window sodium library
    end_.session moment tag ((littleEndian 8 counter.toNat ++ cipher).take (kMaxDatagram - 1))
    foreign
  rw [packetCounter_take counter cipher (by decide)] at window
  rw [reached]
  refine ⟨{ state := state, keys := keys, address := rfl, transport := ?_ }, same, window⟩
  intro other still
  exact (still.receives sender tag _).2

theorem Endpoint.receiveAll_keeps (moment : Moment) (sender : Address) {counter : BitVec 64}
    (datagrams : List Bytes) :
    ∀ end_ : Endpoint, end_.transport.ConnectedTo peer →
      (∀ datagram ∈ datagrams, SealedAt counter datagram) →
      let after := (end_.receiveAll sodium library moment sender datagrams).2
      end_.Keeps after ∧
        after.session.channel.counter = end_.session.channel.counter ∧
        ∀ bound, (datagrams ≠ [] → counter < bound) →
          Below end_.session.channel.replay bound → Below after.session.channel.replay bound := by
  induction datagrams with
  | nil =>
      intro end_ _connected _sealed
      exact ⟨Endpoint.Keeps.refl end_, rfl, fun _bound _next below => below⟩
  | cons datagram rest ih =>
      intro end_ connected sealed_
      obtain ⟨keeps, same, window⟩ := @Endpoint.receive_keeps sodium library peer end_ connected
        moment sender counter datagram (sealed_ datagram List.mem_cons_self)
      obtain ⟨keeps', same', later⟩ := ih _ (keeps.transport peer connected)
        (fun other member => sealed_ other (List.mem_cons_of_mem _ member))
      refine ⟨keeps.trans keeps', same'.trans same, ?_⟩
      intro bound next below
      have step := next (List.cons_ne_nil _ _)
      apply later bound (fun _ => step)
      rcases window with still | moved
      · rw [still]
        exact below
      · rw [moved]
        exact below.accept step

/-! ### The link over a run -/

structure Link.Alike (link : Link) : Prop where
  authenticated : ∀ role, (link role).session.state = .authenticated
  initialised : ∀ role, (link role).session.channel.initialised = true
  key : ∀ role, (link (otherRole role)).session.channel.recvKey =
    (link role).session.channel.sendKey
  noncePrefix : ∀ role, (link (otherRole role)).session.channel.recvNoncePrefix =
    (link role).session.channel.sendNoncePrefix
  transport : ∀ role, (link role).transport.ConnectedTo (link (otherRole role)).address

/-- The windows are behind the counters that the other side has come to. -/
def Link.Ahead (sent : Nat) (link : Link) : Prop :=
  ∀ role, (link role).session.channel.counter.toNat ≤ sent ∧
    Below (link (otherRole role)).session.channel.replay (link role).session.channel.counter

theorem otherRole_otherRole (role : PairingRole) : otherRole (otherRole role) = role := by
  cases role with
  | initiator => rfl
  | responder => rfl

theorem otherRole_ne (role : PairingRole) : otherRole role ≠ role := by
  cases role with
  | initiator => decide
  | responder => decide

theorem eq_or_eq_otherRole (side role : PairingRole) : side = role ∨ side = otherRole role := by
  cases side with
  | initiator => cases role <;> decide
  | responder => cases role <;> decide

variable {link : Link} {sessionKey : SessionKey}

theorem Link.Joined.alike (joined : link.Joined sodium sessionKey) : link.Alike := by
  have directions : ∀ role, (link (otherRole role)).session.sendDirection =
      (link role).session.sendDirection.other := by
    intro role
    unfold PeerSession.sendDirection
    rw [joined.role, joined.role]
    cases role with
    | initiator => rfl
    | responder => rfl
  have back : ∀ direction : Direction, direction.other.other = direction := by
    intro direction
    cases direction with
    | phoneToPc => rfl
    | pcToPhone => rfl
  constructor
  · exact joined.authenticated
  · intro role
    obtain ⟨before, channel⟩ := joined.channel role
    rw [channel]
    rfl
  · intro role
    obtain ⟨before, channel⟩ := joined.channel role
    obtain ⟨before', channel'⟩ := joined.channel (otherRole role)
    rw [channel, channel', directions]
    unfold SecureChannel.init
    rw [back]
  · intro role
    obtain ⟨before, channel⟩ := joined.channel role
    obtain ⟨before', channel'⟩ := joined.channel (otherRole role)
    rw [channel, channel', directions]
    unfold SecureChannel.init
    rw [back]
  · exact joined.transport

theorem Link.Joined.ahead (joined : link.Joined sodium sessionKey) : link.Ahead 0 := by
  intro role
  obtain ⟨before, channel⟩ := joined.channel role
  obtain ⟨before', channel'⟩ := joined.channel (otherRole role)
  rw [channel, channel']
  exact ⟨Nat.le_refl _, fun impossible => Bool.noConfusion impossible⟩

variable (sodium library) in
theorem Link.carry_side (link : Link) (role : PairingRole) (moment : Moment) (given : Given) :
    (link.carry sodium library role moment given).2 role =
        ((link role).send sodium library given).2 ∧
      (link.carry sodium library role moment given).2 (otherRole role) =
        ((link (otherRole role)).receiveAll sodium library moment (link role).address
          ((((link role).send sodium library given).1.filter
            fun entry => decide (entry.1 = (link (otherRole role)).address)).map Prod.snd)).2 := by
  constructor
  · exact if_pos rfl
  · exact if_neg (otherRole_ne role)

theorem Link.Alike.arriving (alike : link.Alike) (role : PairingRole) (given : Given) :
    ((((link role).send sodium library given).1.filter
        fun entry => decide (entry.1 = (link (otherRole role)).address)).map Prod.snd) =
      ((link role).session.react sodium library given.input).sent := by
  rw [(Endpoint.send_keeps (alike.transport role) given).2]
  induction ((link role).session.react sodium library given.input).sent with
  | nil => rfl
  | cons data rest ih =>
      simp only [List.map_cons, List.filter_cons, decide_true, if_true, ih]

theorem Link.Alike.keeps (alike : link.Alike) (role : PairingRole) (moment : Moment)
    (given : Given) (side : PairingRole) :
    (link side).Keeps ((link.carry sodium library role moment given).2 side) := by
  obtain ⟨sender, receiver⟩ := link.carry_side sodium library role moment given
  rcases eq_or_eq_otherRole side role with same | same
  · rw [same, sender]
    exact (Endpoint.send_keeps (alike.transport role) given).1
  · rw [same, receiver, alike.arriving role given]
    have reacted : (link role).session.SendsAt
        ((link role).session.react sodium library given.input) :=
      (link role).session.sendsAt_react given
    exact (Endpoint.receiveAll_keeps moment _ _ _ (alike.transport (otherRole role))
      (fun datagram member => (reacted.sent datagram member).2)).1

theorem Link.Alike.step (alike : link.Alike) (event : LinkSend) :
    (link.step sodium library event).Alike := by
  have keeps : ∀ side, (link side).Keeps (link.step sodium library event side) :=
    alike.keeps event.role event.moment event.given
  constructor
  · intro role
    exact (keeps role).state.trans (alike.authenticated role)
  · intro role
    exact (keeps role).keys.initialised.trans (alike.initialised role)
  · intro role
    rw [(keeps role).keys.sendKey, (keeps (otherRole role)).keys.recvKey]
    exact alike.key role
  · intro role
    rw [(keeps role).keys.sendNoncePrefix, (keeps (otherRole role)).keys.recvNoncePrefix]
    exact alike.noncePrefix role
  · intro role
    rw [(keeps (otherRole role)).address]
    exact (keeps role).transport _ (alike.transport role)

theorem Link.Ahead.step {sent : Nat} (alike : link.Alike) (ahead : link.Ahead sent)
    (few : sent + 1 < 2 ^ 64) (event : LinkSend) :
    (link.step sodium library event).Ahead (sent + 1) := by
  obtain ⟨role, moment, given⟩ := event
  obtain ⟨sender, receiver⟩ := link.carry_side sodium library role moment given
  generalize stepped : link.step sodium library { role, moment, given } = next
  have same : next = (link.carry sodium library role moment given).2 := stepped.symm
  have reacted : (link role).session.SendsAt
      ((link role).session.react sodium library given.input) :=
    (link role).session.sendsAt_react given
  rw [alike.arriving] at receiver
  rw [← same] at sender receiver
  obtain ⟨-, counter, window⟩ := Endpoint.receiveAll_keeps moment (link role).address
    _ _ (alike.transport (otherRole role)) (fun datagram member => (reacted.sent datagram member).2)
  rw [← receiver] at counter window
  have channel : (next role).session.channel =
      ((link role).session.react sodium library given.input).session.channel := by
    rw [sender]
    rfl
  have moved := reacted.counter
  have used := reacted.sent
  rw [← channel] at moved used
  intro side
  rcases eq_or_eq_otherRole side role with sends | hears
  · obtain ⟨low, behind⟩ := ahead role
    have grown : (link role).session.channel.counter ≤ (next role).session.channel.counter := by
      bv_omega
    rw [sends]
    constructor
    · bv_omega
    · apply window
      · intro some_
        obtain ⟨datagram, member⟩ := List.exists_mem_of_ne_nil _ some_
        have up := (used datagram member).1
        bv_omega
      · intro initialised
        have old := behind initialised
        bv_omega
  · obtain ⟨low, behind⟩ := ahead (otherRole role)
    rw [otherRole_otherRole] at behind
    rw [hears, otherRole_otherRole, counter, channel, reacted.window]
    exact ⟨Nat.le_succ_of_le low, behind⟩

theorem Link.Alike.final (alike : link.Alike) (events : List LinkSend) :
    (Run.final (Link.step sodium library) link events).Alike :=
  Run.invariant_always Link.Alike (fun _ event alike => alike.step event) link events alike

/-- In fewer than 2^64 sends every window stays behind the counters. -/
theorem Link.Joined.ahead_final (joined : link.Joined sodium sessionKey)
    (events : List LinkSend) (few : events.length < 2 ^ 64) :
    (Run.final (Link.step sodium library) link events).Ahead events.length := by
  have always : List.countP (fun _ : LinkSend => true) events = events.length :=
    congrFun List.countP_true events
  have counted := @Run.invariant_counted Link LinkSend (Link.step sodium library)
    (fun _ _ => True) (fun _ => true) (2 ^ 64) (fun sent link => link.Alike ∧ link.Ahead sent)
    (fun sent _link event holds _ below => ⟨holds.1.step event, holds.2.step holds.1 below event⟩)
    events 0 link ⟨joined.alike, joined.ahead⟩ (Run.meets_of_forall (fun _ _ => trivial) link)
  rw [always, Nat.zero_add] at counted
  exact (counted few).2

/-! ### One message -/

theorem Link.Alike.carry_control (alike : link.Alike) {role : PairingRole} {message : Message}
    {text cipher : Bytes} (ready : link.Ready sodium library role message text cipher)
    (moment : Moment) :
    (link.carry sodium library role moment (.control message)).1 =
      ((link (otherRole role)).session.onDatagram sodium library moment
        (tagControl :: (littleEndian 8 (link role).session.channel.counter.toNat ++ cipher).take
          (kMaxDatagram - 1))).delivered := by
  have sent : ((link role).session.react sodium library (Given.control message).input).sent =
      [tagControl :: (littleEndian 8 (link role).session.channel.counter.toNat ++ cipher)] := by
    change ((link role).session.sendControl sodium library message).sent = _
    unfold PeerSession.sendControl PeerSession.sendSealed SecureChannel.seal
    rw [if_neg (not_not.mpr (alike.authenticated role)), ready.encoded]
    dsimp only
    rw [if_neg (by rw [alike.initialised role]; decide)]
    have boxed := ready.boxed
    unfold SecureChannel.sendNonce at boxed
    rw [boxed]
  unfold Link.carry
  dsimp only
  rw [alike.arriving, sent]
  unfold Endpoint.receiveAll Endpoint.receiveAll
  dsimp only
  rw [Endpoint.receive_eq (alike.transport (otherRole role)), List.append_nil]

theorem PeerSession.onDatagram_deaf {session : PeerSession} (moment : Moment) {tag : UInt8}
    (foreign : tag ≠ tagPairing) {body : Bytes}
    (shut : (session.channel.open_ sodium body).1 = none) :
    (session.onDatagram sodium library moment (tag :: body)).delivered = [] := by
  rcases session.onDatagram_passes sodium library moment body foreign with
    ⟨plain, channel, delivery, window, -, opened, -, -⟩ | ⟨-, channel, rejected, -, dropped⟩
  · rw [opened] at shut
    cases shut
  · rw [dropped]
    rfl

/-- An authentic message is heard exactly when its counter is fresh. -/
theorem PeerSession.onDatagram_hears {session : PeerSession}
    (authenticated : session.state = .authenticated) (moment : Moment) {body text : Bytes}
    {message : Message} (opened : (session.channel.open_ sodium body).1 = some text)
    (decoded : decode library text = .ok message)
    (fresh : (session.controlReplay.accept message.seq).1 = true) :
    (session.onDatagram sodium library moment (tagControl :: body)).delivered =
      [.control message] := by
  rcases @PeerSession.onDatagram_passes sodium library session moment tagControl body
    (by decide) with ⟨plain, channel, delivery, window, -, opened', passes, passed⟩ | ⟨stopped, -⟩
  · rw [opened'] at opened
    cases opened
    rcases passes.cases with ⟨media, -⟩ | ⟨-, other, decoded', -, delivered⟩
    · exact absurd media (by decide)
    · rw [decoded] at decoded'
      cases decoded'
      rw [passed, delivered]
  · have passes := @PeerSession.Passes.control library session text message
      (session.controlReplay.accept message.seq).2 decoded (by rw [← fresh])
    exact absurd passes (stopped text authenticated opened _ _)

theorem Link.Alike.authentic (alike : link.Alike) (role : PairingRole) (cipher : Bytes) :
    (link (otherRole role)).session.channel.authentic sodium
        ((littleEndian 8 (link role).session.channel.counter.toNat ++ cipher).take
          (kMaxDatagram - 1)) =
      sodium.secretboxOpenEasy (cipher.take kBoxRoom) (link role).session.channel.sendNonce
        (link role).session.channel.sendKey := by
  have head := littleEndian_length 8 (link role).session.channel.counter.toNat
  have body : ((littleEndian 8 (link role).session.channel.counter.toNat ++ cipher).take
      (kMaxDatagram - 1)).drop 8 = cipher.take kBoxRoom := by
    rw [List.take_append, List.take_of_length_le (by rw [head]; decide), head,
      List.drop_left' head]
    rfl
  have nonce : buildNonce (link (otherRole role)).session.channel.recvNoncePrefix
      (link role).session.channel.counter = (link role).session.channel.sendNonce := by
    rw [alike.noncePrefix]
    rfl
  unfold SecureChannel.authentic
  rw [body, packetCounter_take _ _ (by decide), alike.key, nonce]

/-- The body of the datagram opens when the buffer holds all of it and its counter is
fresh; the box that the buffer has cut does not. -/
theorem Link.Alike.opens (boxes : Boxes sodium) (alike : link.Alike) {role : PairingRole}
    {message : Message} {text cipher : Bytes}
    (ready : link.Ready sodium library role message text cipher) :
    ((link (otherRole role)).session.channel.open_ sodium
        ((littleEndian 8 (link role).session.channel.counter.toNat ++ cipher).take
          (kMaxDatagram - 1))).1 =
      if text.length ≤ kCarriedBytes ∧ ((link (otherRole role)).session.channel.replay.accept
          (link role).session.channel.counter).1 = true then
        some text
      else none := by
  have length := boxes.length _ _ _ _ ready.boxed
  have authentic := @Link.Alike.authentic sodium link alike role cipher
  have counted := packetCounter_take (link role).session.channel.counter cipher
    (show 8 ≤ kMaxDatagram - 1 by decide)
  have room : kBoxRoom = kCarriedBytes + 16 := rfl
  by_cases short : text.length ≤ kCarriedBytes
  · rw [List.take_of_length_le (show cipher.length ≤ kBoxRoom by omega),
      boxes.opens _ _ _ _ ready.boxed] at authentic
    have long : kSecureOverhead ≤ ((littleEndian 8 (link role).session.channel.counter.toNat ++
        cipher).take (kMaxDatagram - 1)).length := by
      have overhead : kSecureOverhead = 24 := rfl
      have limit : kMaxDatagram = 2048 := rfl
      rw [List.length_take, List.length_append, littleEndian_length]
      omega
    rw [SecureChannel.open_authentic (alike.initialised _) long authentic, counted]
    by_cases fresh : ((link (otherRole role)).session.channel.replay.accept
        (link role).session.channel.counter).1 = true
    · rw [if_pos fresh, if_pos ⟨short, fresh⟩]
    · rw [if_neg fresh, if_neg fun both => fresh both.2]
  · rw [ready.cut (by omega)] at authentic
    rw [if_neg fun both => short both.1]
    cases opened : ((link (otherRole role)).session.channel.open_ sodium
        ((littleEndian 8 (link role).session.channel.counter.toNat ++ cipher).take
          (kMaxDatagram - 1))).1 with
    | none => rfl
    | some plain =>
        obtain ⟨-, some_⟩ := SecureChannel.authentic_of_open opened
        rw [authentic] at some_
        cases some_

theorem Link.Alike.hears_iff (boxes : Boxes sodium) (alike : link.Alike) {role : PairingRole}
    {message : Message} {text cipher : Bytes}
    (ready : link.Ready sodium library role message text cipher) (moment : Moment) :
    (link.carry sodium library role moment (.control message)).1 = [.control message.normal] ↔
      text.length ≤ kCarriedBytes ∧ ((link (otherRole role)).session.channel.replay.accept
        (link role).session.channel.counter).1 = true := by
  have opens := alike.opens boxes ready
  rw [alike.carry_control ready moment]
  by_cases gets : text.length ≤ kCarriedBytes ∧
      ((link (otherRole role)).session.channel.replay.accept
        (link role).session.channel.counter).1 = true
  · rw [if_pos gets] at opens
    obtain ⟨written, encoded, decodes⟩ := decode_encode ready.version ready.object ready.inverts
    rw [ready.encoded] at encoded
    cases encoded
    have decoded := decodes (Nat.le_trans gets.1 (by decide))
    refine iff_of_true ?_ gets
    exact PeerSession.onDatagram_hears (alike.authenticated _) moment opens decoded ready.fresh
  · rw [if_neg gets] at opens
    refine iff_of_false ?_ gets
    rw [PeerSession.onDatagram_deaf moment (by decide) opens]
    exact (List.cons_ne_nil _ _).symm

end

/-- Over any exchange of two joined sessions a control message arrives exactly when its
text has at most 2023 bytes, unless 2^64 sends have brought its counter back. -/
theorem control_arrives_iff (sodium : Sodium) (library : JsonLibrary) (boxes : Boxes sodium)
    (sessionKey : SessionKey) (start : Link) (joined : start.Joined sodium sessionKey)
    (events : List LinkSend) (role : PairingRole) (moment : Moment) (message : Message)
    (text cipher : Bytes)
    (ready : (Run.final (Link.step sodium library) start events).Ready sodium library role message
      text cipher) :
    let link := Run.final (Link.step sodium library) start events
    let counterFresh := ((link (otherRole role)).session.channel.replay.accept
      (link role).session.channel.counter).1 = true
    ((link.carry sodium library role moment (.control message)).1 = [.control message.normal] ↔
      text.length ≤ kCarriedBytes ∧ counterFresh) ∧
    (events.length < 2 ^ 64 → counterFresh) := by
  intro link counterFresh
  constructor
  · exact (joined.alike.final events).hears_iff boxes ready moment
  · intro few
    exact (joined.ahead_final events few role).2.fresh

namespace StandIn

open SmartMic.StandIn

def socketOf : PairingRole → Address
  | .initiator => { ip := 0xc0a80014#32, port := 40000#16 }
  | .responder => { ip := 0xc0a8000a#32, port := 47820#16 }

def sessionOf : PairingRole → PeerSession
  | .initiator => phone
  | .responder => desk

def joinedLink : Link := fun role =>
  { session := (sessionOf role).adoptSessionKey sodium standInKey
    transport :=
      { socketOpen := true
        running := true
        peer := some (socketOf (otherRole role))
        stats :=
          { packetsSent := 0, packetsReceived := 0, bytesSent := 0, bytesReceived := 0
            sendFailures := 0 } }
    address := socketOf role }

theorem joinedLink_joined : joinedLink.Joined sodium standInKey := by
  constructor
  · intro role
    cases role with
    | initiator => rfl
    | responder => rfl
  · exact fun _role => rfl
  · exact fun role => ⟨(sessionOf role).channel, rfl⟩
  · exact fun _role => { socketOpen := rfl, running := rfl, peer := rfl }

end StandIn

set_option maxRecDepth 2000 in
open SmartMic.StandIn SmartMic.Session.StandIn in
theorem control_arrives_sample :
    let link := Run.final (Link.step sodium controlJson) joinedLink
      [{ role := .responder, moment := moment, given := .media [1, 2, 3] }]
    let counterFresh := ((link .responder).session.channel.replay.accept
      (link .initiator).session.channel.counter).1 = true
    ((link.carry sodium controlJson .initiator moment (.control sampleMessage)).1 =
        [.control sampleMessage.normal] ↔
      ((controlJson.dump sampleMessage.toJson).getD []).length ≤ kCarriedBytes ∧ counterFresh) ∧
    ([({ role := .responder, moment := moment, given := .media [1, 2, 3] } : LinkSend)].length <
      2 ^ 64 → counterFresh) :=
  control_arrives_iff sodium controlJson standIn_boxes standInKey joinedLink joinedLink_joined
    [{ role := .responder, moment := moment, given := .media [1, 2, 3] }] .initiator moment
    sampleMessage ((controlJson.dump sampleMessage.toJson).getD []) _
    { version := rfl
      object := ⟨_, rfl⟩
      inverts := ⟨(controlJson.dump sampleMessage.toJson).getD [], by rfl, by rfl⟩
      encoded := by rfl
      fresh := by decide +kernel
      boxed := by rfl
      cut := by decide +kernel }

namespace StandIn

open SmartMic.StandIn

def longMessage (deviceId : Bytes) : Message :=
  { protocolVersion := 1#32
    sessionId := ascii "s"
    messageId := ascii "m"
    seq := 1#64
    timestamp := 1000#64
    deviceId := deviceId
    type := .ping
    payload := .object [] }

def longRest : JsonFields :=
  [(ascii "messageId", .string (ascii "m")), (ascii "protocolVersion", .unsigned 1),
    (ascii "seq", .unsigned 1), (ascii "sessionId", .string (ascii "s")),
    (ascii "timestamp", .unsigned 1000), (ascii "type", .string (ascii "PING"))]

def longFields : List Bytes :=
  [dumpString (ascii "messageId") ++ 0x3a :: dumpString (ascii "m"),
    dumpString (ascii "protocolVersion") ++ 0x3a :: decimal 20 1,
    dumpString (ascii "seq") ++ 0x3a :: decimal 20 1,
    dumpString (ascii "sessionId") ++ 0x3a :: dumpString (ascii "s"),
    dumpString (ascii "timestamp") ++ 0x3a :: decimal 20 1000,
    dumpString (ascii "type") ++ 0x3a :: dumpString (ascii "PING")]

def longTail : Bytes := 0x2c :: joinFields longFields ++ [0x7d]

def longInner (deviceId : Bytes) : Bytes :=
  ascii "deviceId" ++ quote :: 0x3a :: 0x22 :: (deviceId ++ quote :: longTail)

def longText (deviceId : Bytes) : Bytes := 0x7b :: 0x22 :: longInner deviceId

def dumpFieldWith (depth : Nat) (field : Bytes × Json) : Option Bytes :=
  if field.1.all isUnescaped then
    (dumpValue depth field.2).map fun text => dumpString field.1 ++ 0x3a :: text
  else none

theorem dump_longMessage {deviceId : Bytes} (plain : deviceId.all isUnescaped = true) :
    controlJson.dump (longMessage deviceId).toJson = some (longText deviceId) := by
  change (((ascii "deviceId", Json.string deviceId) :: longRest).mapM (dumpFieldWith 3)).map
    (fun texts => 0x7b :: joinFields texts ++ [0x7d]) = _
  have first : dumpFieldWith 3 (ascii "deviceId", .string deviceId) =
      some (dumpString (ascii "deviceId") ++ 0x3a :: dumpString deviceId) := by
    change (dumpValue 3 (.string deviceId)).map _ = _
    have text : dumpValue 3 (.string deviceId) = some (dumpString deviceId) := if_pos plain
    rw [text]
    rfl
  have rest : longRest.mapM (dumpFieldWith 3) = some longFields := by rfl
  rw [List.mapM_cons, first, rest]
  change some (0x7b :: (dumpString (ascii "deviceId") ++ 0x3a :: dumpString deviceId ++
    0x2c :: joinFields longFields) ++ [0x7d]) = _
  unfold longText longInner longTail dumpString
  simp only [List.cons_append, List.append_assoc, List.nil_append]
  rfl

theorem parse_longText {deviceId : Bytes} (plain : deviceId.all isUnescaped = true) :
    controlJson.parse (longText deviceId) = some (longMessage deviceId).toJson.normal := by
  obtain ⟨more, long⟩ : ∃ more, (0x22 :: longInner deviceId : Bytes).length = more + 8 := by
    refine ⟨(0x22 :: longInner deviceId : Bytes).length - 8, ?_⟩
    unfold longInner
    simp only [List.length_cons, List.length_append]
    have key : (ascii "deviceId").length = 8 := rfl
    omega
  have later : readFieldsWith (readValue 3) (more + 7) (joinFields longFields ++ [0x7d]) =
      some (longRest, []) := by rfl
  have value : readValue 3 (0x22 :: (deviceId ++ quote :: longTail)) =
      some (.string deviceId, longTail) := by
    change (readString (deviceId ++ quote :: longTail)).map _ = _
    rw [readString_append plain]
    rfl
  have fields : readFieldsWith (readValue 3) (more + 8) (0x22 :: longInner deviceId) =
      some ((ascii "deviceId", .string deviceId) :: longRest, []) := by
    have key : readString (longInner deviceId) =
        some (ascii "deviceId", 0x3a :: 0x22 :: (deviceId ++ quote :: longTail)) :=
      readString_append (by decide) _
    unfold readFieldsWith
    simp only [key, value]
    unfold longTail
    simp only [List.cons_append, later]
    rfl
  have whole : readValue 4 (longText deviceId) =
      some (.object ((ascii "deviceId", .string deviceId) :: longRest), []) := by
    change (readFieldsWith (readValue 3) (0x22 :: longInner deviceId).length
      (0x22 :: longInner deviceId)).map _ = _
    rw [long, fields]
    rfl
  unfold controlJson
  dsimp only
  rw [whole]
  rfl

def longId : Bytes := List.replicate 2000 0x78

theorem longId_plain : longId.all isUnescaped = true := by decide +kernel

theorem longId_length : kCarriedBytes < (longText longId).length ∧
    (longText longId).length ≤ kMaxMessageBytes := by decide +kernel

theorem joinedLink_ready (cipher : Bytes)
    (boxed : sodium.secretboxEasy (longText longId)
      (joinedLink .initiator).session.channel.sendNonce
      (joinedLink .initiator).session.channel.sendKey = some cipher) :
    joinedLink.Ready sodium controlJson .initiator (longMessage longId) (longText longId)
      cipher := by
  refine
    { version := rfl
      object := ⟨_, rfl⟩
      inverts := ⟨_, dump_longMessage longId_plain, parse_longText longId_plain⟩
      encoded := dump_longMessage longId_plain
      fresh := by decide +kernel
      boxed := boxed
      cut := ?_ }
  intro _long
  rw [← Option.some.inj boxed]
  decide +kernel

end StandIn

open SmartMic.StandIn SmartMic.Session.StandIn in
/-- A device name of 2000 bytes makes a message that the codec takes and that does not
arrive. -/
theorem long_control_lost :
    ¬ ∀ (sodium : Sodium) (library : JsonLibrary), Boxes sodium →
      ∀ (sessionKey : SessionKey) (start : Link), start.Joined sodium sessionKey →
      ∀ (events : List LinkSend) (role : PairingRole) (moment : Moment) (message : Message)
        (text cipher : Bytes),
        (Run.final (Link.step sodium library) start events).Ready sodium library role message
          text cipher →
        text.length ≤ kMaxMessageBytes →
        ((Run.final (Link.step sodium library) start events).carry sodium library role moment
          (.control message)).1 = [.control message.normal] := by
  intro always
  have ready := joinedLink_ready _ rfl
  have arrives := always sodium controlJson standIn_boxes standInKey joinedLink joinedLink_joined
    [] .initiator moment (longMessage longId) (longText longId) _ ready longId_length.2
  have short := (joinedLink_joined.alike.hears_iff standIn_boxes ready moment).mp arrives
  exact absurd short.1 (Nat.not_le.mpr longId_length.1)

end SmartMic.Session
