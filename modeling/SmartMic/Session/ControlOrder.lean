import SmartMic.Support.Run
import SmartMic.Protocol.ReplayHistory
import SmartMic.Session.Deliveries
import SmartMic.Session.StandIn

set_option autoImplicit false

/-! The order in which one session handles control messages. The window takes a late
message on purpose, once, as long as it is near enough to the newest one; nothing tells a
late START_PTT from another late message. -/

namespace SmartMic.Session

open SmartMic.Protocol SmartMic.Security SmartMic.Media

structure ControlLink where
  session : PeerSession
  handled : List Message

structure SealedDatagram where
  tag : UInt8
  body : Bytes
  sealed_ : tag ≠ tagPairing

inductive LinkInput where
  | receive (moment : Moment) (datagram : SealedDatagram)
  | sendControl (message : Message)
  | sendMedia (payload : Bytes)

def controlsIn : List Delivery → List Message
  | [] => []
  | .media _ :: rest => controlsIn rest
  | .control message :: rest => message :: controlsIn rest

def ControlLink.numbers (link : ControlLink) : List (BitVec 64) := link.handled.map Message.seq

section

variable (sodium : Sodium) (library : JsonLibrary)

def ControlLink.step (link : ControlLink) : LinkInput → ControlLink
  | .receive moment datagram =>
      let reaction :=
        link.session.onDatagram sodium library moment (datagram.tag :: datagram.body)
      { session := reaction.session
        handled := (controlsIn reaction.delivered).reverse ++ link.handled }
  | .sendControl message =>
      { link with session := (link.session.sendControl sodium library message).session }
  | .sendMedia payload =>
      { link with session := (link.session.sendMedia sodium payload).session }

/-- The link as the handshake that completes `exchange` leaves it. -/
def ControlLink.open_ (session : PeerSession) (exchange : PairingExchange) : ControlLink :=
  { session := session.establish sodium exchange
    handled := [] }

def ControlLink.message (link : ControlLink) (datagram : SealedDatagram) : Option Message :=
  if datagram.tag = tagControl ∧ link.session.state = .authenticated then
    match (link.session.channel.open_ sodium datagram.body).1 with
    | none => none
    | some plain => (decode library plain).toOption
  else none

end

/-- The order in which messages come to be handled: no number twice, and none that is the
width of the window behind an earlier one. -/
def InWindowOrder (handled : List Message) : Prop :=
  handled.Pairwise fun later earlier =>
    later.seq ≠ earlier.seq ∧
      (later.seq < earlier.seq → (earlier.seq - later.seq).toNat < 512)

/-- The order that would make every handled release final. -/
def ReleasesFinal (handled : List Message) : Prop :=
  handled.Pairwise fun later earlier =>
    later.type = .startPtt → earlier.type = .stopPtt → ¬ later.seq < earlier.seq

instance (handled : List Message) : Decidable (ReleasesFinal handled) :=
  inferInstanceAs (Decidable (List.Pairwise _ handled))

section

variable (sodium : Sodium) (library : JsonLibrary)

theorem ControlLink.message_eq_some (link : ControlLink) (datagram : SealedDatagram)
    (message : Message) :
    link.message sodium library datagram = some message ↔
      datagram.tag = tagControl ∧ link.session.state = .authenticated ∧
      ∃ plain, (link.session.channel.open_ sodium datagram.body).1 = some plain ∧
        decode library plain = .ok message := by
  unfold ControlLink.message
  by_cases meant : datagram.tag = tagControl ∧ link.session.state = .authenticated
  · rw [if_pos meant]
    cases (link.session.channel.open_ sodium datagram.body).1 with
    | none => simp
    | some plain =>
        dsimp only
        cases decoded : decode library plain with
        | error problem => simp [Except.toOption, decoded]
        | ok read => simp [Except.toOption, meant, decoded]
  · rw [if_neg meant]
    refine iff_of_false (Option.some_ne_none message).symm ?_
    intro held
    exact meant ⟨held.1, held.2.1⟩

/-- One sealed datagram: its message is handled when the window takes its number; any
other datagram leaves the window and the handled messages as they are. -/
theorem ControlLink.step_receive (link : ControlLink) (moment : Moment)
    (datagram : SealedDatagram) :
    let next := link.step sodium library (.receive moment datagram)
    (∃ message, link.message sodium library datagram = some message ∧
      (link.session.controlReplay.accept message.seq).1 = true ∧
      next.session.controlReplay = (link.session.controlReplay.accept message.seq).2 ∧
      next.handled = message :: link.handled) ∨
    ((∀ message, link.message sodium library datagram = some message →
        (link.session.controlReplay.accept message.seq).1 = false) ∧
      next.session.controlReplay = link.session.controlReplay ∧
      next.handled = link.handled) := by
  intro next
  have stepped : ∀ reaction, link.session.onDatagram sodium library moment
        (datagram.tag :: datagram.body) = reaction →
      next = { session := reaction.session
               handled := (controlsIn reaction.delivered).reverse ++ link.handled } := by
    intro reaction same
    rw [← same]
    rfl
  have foreign : ∀ message, datagram.tag = tagMedia →
      link.message sodium library datagram ≠ some message := by
    intro message media held
    have control := ((link.message_eq_some sodium library datagram message).mp held).1
    rw [media] at control
    exact absurd control (by decide)
  rcases link.session.onDatagram_passes sodium library moment datagram.body datagram.sealed_ with
    ⟨plain, channel, delivery, controlReplay, authenticated, opened, passes, reacted⟩ |
      ⟨stopped, channel, rejected, _, reacted⟩
  · rw [stepped _ reacted]
    rcases passes.cases with ⟨media, isMedia, same⟩ | ⟨control, message, decoded, taken, isControl⟩
    · right
      rw [isMedia]
      exact ⟨fun message held => absurd held (foreign message media), same, rfl⟩
    · left
      refine ⟨message, ?_, by rw [taken], by rw [taken], by rw [isControl]; rfl⟩
      rw [link.message_eq_some]
      exact ⟨control, authenticated, plain, by rw [opened], decoded⟩
  · rw [stepped _ reacted]
    right
    refine ⟨?_, rfl, rfl⟩
    intro message held
    obtain ⟨control, authenticated, plain, opened, decoded⟩ :=
      (link.message_eq_some sodium library datagram message).mp held
    cases taken : (link.session.controlReplay.accept message.seq).1 with
    | false => rfl
    | true =>
        have passes := PeerSession.Passes.control plain message
          (link.session.controlReplay.accept message.seq).2 decoded (by rw [← taken])
        rw [← control] at passes
        exact absurd passes (stopped plain authenticated opened _ _)

/-! ### Runs -/

/-- What every step keeps: the window records the numbers handled, and these came in the
order that the window allows. -/
structure ControlLink.Ordered (link : ControlLink) : Prop where
  records : link.session.controlReplay.Records link.numbers
  order : InWindowOrder link.handled

theorem ControlLink.ordered_open (session : PeerSession) (exchange : PairingExchange) :
    (ControlLink.open_ sodium session exchange).Ordered :=
  { records := ReplayWindow.records_fresh 512
    order := List.Pairwise.nil }

theorem ControlLink.Ordered.handle {link next : ControlLink} (ordered : link.Ordered)
    {message : Message} (taken : (link.session.controlReplay.accept message.seq).1 = true)
    (window : next.session.controlReplay = (link.session.controlReplay.accept message.seq).2)
    (handled : next.handled = message :: link.handled) : next.Ordered := by
  have fresh := (ordered.records.accepts_iff (by decide) message.seq).mp taken
  constructor
  · unfold ControlLink.numbers
    rw [window, handled, List.map_cons]
    exact ordered.records.accept (by decide) taken
  · rw [handled]
    refine List.pairwise_cons.mpr ⟨?_, ordered.order⟩
    intro earlier member
    have number : earlier.seq ∈ link.numbers := List.mem_map_of_mem member
    constructor
    · intro same
      exact fresh.1 (same ▸ number)
    · exact fresh.2 earlier.seq number

theorem ControlLink.Ordered.keep {link next : ControlLink} (ordered : link.Ordered)
    (window : next.session.controlReplay = link.session.controlReplay)
    (handled : next.handled = link.handled) : next.Ordered := by
  constructor
  · unfold ControlLink.numbers
    rw [window, handled]
    exact ordered.records
  · rw [handled]
    exact ordered.order

theorem ControlLink.Ordered.step {link : ControlLink} (ordered : link.Ordered)
    (input : LinkInput) : (link.step sodium library input).Ordered := by
  cases input with
  | receive moment datagram =>
      rcases link.step_receive sodium library moment datagram with
        ⟨message, _, taken, window, handled⟩ | ⟨_, window, handled⟩
      · exact ordered.handle taken window handled
      · exact ordered.keep window handled
  | sendControl message =>
      obtain ⟨channel, moved⟩ :=
        (link.session.react_sends sodium library (Or.inl ⟨message, rfl⟩)).1
      have window := congrArg PeerSession.controlReplay moved
      exact ordered.keep window rfl
  | sendMedia payload =>
      obtain ⟨channel, moved⟩ :=
        (link.session.react_sends sodium library (Or.inr ⟨payload, rfl⟩)).1
      have window := congrArg PeerSession.controlReplay moved
      exact ordered.keep window rfl

theorem ControlLink.ordered_final (session : PeerSession) (exchange : PairingExchange)
    (inputs : List LinkInput) :
    (Run.final (ControlLink.step sodium library) (ControlLink.open_ sodium session exchange)
      inputs).Ordered :=
  Run.invariant_always ControlLink.Ordered
    (fun _ input ordered => ordered.step sodium library input) _ inputs
    (ControlLink.ordered_open sodium session exchange)

end

/-- In every order of delivery a session handles no number twice and none that is 512 behind
an earlier one; within these bounds it handles every message, a START_PTT after its
STOP_PTT as well. -/
theorem control_messages_in_window_order (sodium : Sodium) (library : JsonLibrary)
    (session : PeerSession) (exchange : PairingExchange) (inputs : List LinkInput) :
    let link := Run.final (ControlLink.step sodium library)
      (ControlLink.open_ sodium session exchange) inputs
    InWindowOrder link.handled ∧
    ∀ moment datagram message, link.message sodium library datagram = some message →
      (link.step sodium library (.receive moment datagram)).handled =
        if FreshAfter 512 link.numbers message.seq then message :: link.handled
        else link.handled := by
  intro link
  have ordered : link.Ordered := ControlLink.ordered_final sodium library session exchange inputs
  refine ⟨ordered.order, ?_⟩
  intro moment datagram message held
  have decides := ordered.records.accepts_iff (by decide) message.seq
  rcases link.step_receive sodium library moment datagram with
    ⟨other, meant, taken, _, handled⟩ | ⟨refused, _, handled⟩
  · rw [held] at meant
    cases meant
    rw [handled, if_pos (decides.mp taken)]
  · have stale : ¬ FreshAfter 512 link.numbers message.seq := by
      intro fresh
      have taken := decides.mpr fresh
      rw [refused message held] at taken
      cases taken
    rw [handled, if_neg stale]

namespace StandIn

open SmartMic.StandIn

def deskExchange : PairingExchange :=
  deskAnswered.session.exchange.getD
    (PairingExchange.create sodium (identity 2) .responder sessionId code (scalar 4))

def pressed : Reaction := sendMessage phonePaired.session .startPtt 1#64
def released : Reaction := sendMessage pressed.session .stopPtt 2#64

def controlDatagram (reaction : Reaction) : SealedDatagram :=
  { tag := tagControl, body := (sentBy reaction).tail, sealed_ := by decide }

end StandIn

/-- The release overtakes the press: the START_PTT is handled after its STOP_PTT. -/
theorem late_press_handled_after_release :
    ¬ ReleasesFinal (Run.final (ControlLink.step StandIn.sodium StandIn.controlJson)
      (ControlLink.open_ StandIn.sodium StandIn.deskAnswered.session StandIn.deskExchange)
      [.receive StandIn.moment (StandIn.controlDatagram StandIn.released),
        .receive StandIn.moment (StandIn.controlDatagram StandIn.pressed)]).handled := by
  decide +kernel

end SmartMic.Session
