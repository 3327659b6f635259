import SmartMic.Support.Run
import SmartMic.Media.ChannelUse
import SmartMic.Session.DatagramSteps

set_option autoImplicit false

/-! The sealed traffic of one session over its whole life, beside the session itself:
the nonces it sealed under and the packets it delivered, each with the session key
in force. -/

namespace SmartMic.Session

open SmartMic.Protocol SmartMic.Security SmartMic.Media

section

variable (sodium : Sodium) (library : JsonLibrary)

/-- The key that a call sets the channel up with, if it does. -/
def PeerSession.keying (session : PeerSession) : SessionInput → Option SessionKey
  | .datagram _ (tag :: text) =>
      if tag = tagPairing then (session.completes sodium library text).map (·.sessionKey)
      else none
  | .adoptSessionKey key => some key
  | _ => none

def SessionInput.sends : SessionInput → Bool
  | .sendControl _ | .sendMedia _ => true
  | _ => false

def SessionInput.body : SessionInput → Bytes
  | .datagram _ bytes => bytes.drop 1
  | _ => []

theorem SessionInput.kinds (input : SessionInput) :
    input.sends = true ∨
    (∃ moment tag body, input = .datagram moment (tag :: body) ∧ tag ≠ tagPairing) ∨
    (input.sends = false ∧
      ∀ moment tag body, input = .datagram moment (tag :: body) → tag = tagPairing) := by
  cases quiet : input.sends with
  | true => exact Or.inl rfl
  | false =>
      right
      by_cases sealed : ∃ moment tag body, input = .datagram moment (tag :: body) ∧ tag ≠ tagPairing
      · exact Or.inl sealed
      · right
        refine ⟨rfl, fun moment tag body same => ?_⟩
        by_contra foreign
        exact sealed ⟨moment, tag, body, same, foreign⟩

structure Ledger where
  session : PeerSession
  sealedUnder : List (SessionKey × Bytes)
  delivered : List (SessionKey × Bytes)

def Ledger.open_ (session : PeerSession) : Ledger :=
  { session := session, sealedUnder := [], delivered := [] }

def Ledger.step (ledger : Ledger) (input : SessionInput) : Ledger :=
  let reaction := ledger.session.react sodium library input
  { session := reaction.session
    sealedUnder :=
      if input.sends = true ∧ reaction.sent ≠ [] then
        (ledger.session.sessionKey, ledger.session.channel.sendNonce) :: ledger.sealedUnder
      else ledger.sealedUnder
    delivered :=
      if reaction.delivered ≠ [] then
        (ledger.session.sessionKey, input.body) :: ledger.delivered
      else ledger.delivered }

/-- The call does not set the channel up with a key that a packet was delivered under. -/
def Ledger.KeepsWindow (ledger : Ledger) (input : SessionInput) : Prop :=
  ∀ key ∈ ledger.session.keying sodium library input, ∀ entry ∈ ledger.delivered, entry.1 ≠ key

/-- The call does not set the channel up with a key that a packet was sealed under. -/
def Ledger.KeepsCounter (ledger : Ledger) (input : SessionInput) : Prop :=
  ∀ key ∈ ledger.session.keying sodium library input, ∀ entry ∈ ledger.sealedUnder, entry.1 ≠ key

instance (ledger : Ledger) (input : SessionInput) :
    Decidable (ledger.KeepsWindow sodium library input) :=
  inferInstanceAs (Decidable (∀ key ∈ ledger.session.keying sodium library input, _))

instance (ledger : Ledger) (input : SessionInput) :
    Decidable (ledger.KeepsCounter sodium library input) :=
  inferInstanceAs (Decidable (∀ key ∈ ledger.session.keying sodium library input, _))

end

/-- The channel has just been set up with the key. -/
structure PeerSession.Rekeyed (sodium : Sodium) (key : SessionKey)
    (before after : PeerSession) : Prop where
  role : after.role = before.role
  sessionKey : after.sessionKey = key
  channel : after.channel = before.channel.init sodium key before.sendDirection

section

variable {sodium : Sodium} {library : JsonLibrary}

theorem PeerSession.establish_rekeyed (session : PeerSession) (exchange : PairingExchange) :
    session.Rekeyed sodium exchange.sessionKey (session.establish sodium exchange) :=
  { role := rfl, sessionKey := rfl, channel := rfl }

/-! ### Deliveries -/

theorem PeerSession.onPairingMessage_delivered (session : PeerSession) (moment : Moment)
    (type : Bytes) (fields : JsonFields) :
    (session.onPairingMessage sodium library moment type fields).delivered = [] := by
  have started : ∀ pub share,
      (session.startExchange sodium library moment.scalar pub share).delivered = [] := by
    intro pub share
    unfold PeerSession.startExchange
    dsimp only
    split <;> exact PeerSession.sendPairingJson_delivered _ _ _ rfl
  unfold PeerSession.onPairingMessage
  split
  · unfold PeerSession.onPair1
    repeat' split
    all_goals first
      | rfl
      | exact started _ _
      | exact PeerSession.sendPairingJson_delivered _ _ _ rfl
  · split
    · unfold PeerSession.onPair2
      repeat' split
      all_goals first
        | rfl
        | exact PeerSession.sendPairingJson_delivered _ _ _ rfl
    · split
      · unfold PeerSession.onPair3
        repeat' split
        all_goals first
          | rfl
          | exact PeerSession.sendPairingJson_delivered _ _ _ rfl
      · split
        · unfold PeerSession.onPair4
          repeat' split
          all_goals rfl
        · split
          · unfold PeerSession.onPairErr
            dsimp only
            split <;> rfl
          · rfl

theorem PeerSession.handlePairing_delivered (session : PeerSession) (moment : Moment)
    (text : Bytes) : (session.handlePairing sodium library moment text).delivered = [] := by
  unfold PeerSession.handlePairing
  split
  · rfl
  · rfl
  · exact session.onPairingMessage_delivered moment _ _

/-! ### What a call does to the sealed traffic -/

variable (sodium library)

theorem PeerSession.react_pairing (session : PeerSession) {input : SessionInput}
    (quiet : input.sends = false)
    (plain : ∀ moment tag body, input = .datagram moment (tag :: body) → tag = tagPairing) :
    (session.react sodium library input).delivered = [] ∧
    ((∃ key, session.keying sodium library input = some key ∧
        ((session.react sodium library input).session = session ∨
          session.Rekeyed sodium key (session.react sodium library input).session)) ∨
      (session.keying sodium library input = none ∧
        session.SameKeying (session.react sodium library input).session)) := by
  cases input with
  | datagram moment bytes =>
      cases bytes with
      | nil => exact ⟨rfl, Or.inr ⟨rfl, session.reject_touched.sameKeying⟩⟩
      | cons tag text =>
          have pairing := plain moment tag text rfl
          subst pairing
          have handled : session.react sodium library (.datagram moment (tagPairing :: text)) =
              session.handlePairing sodium library moment text := rfl
          have keying : session.keying sodium library (.datagram moment (tagPairing :: text)) =
              (session.completes sodium library text).map (·.sessionKey) := rfl
          rw [handled, keying]
          refine ⟨session.handlePairing_delivered moment text, ?_⟩
          rcases session.handlePairing_cases moment text with
            ⟨exchange, completed, outcome⟩ | ⟨nothing, same⟩
          · left
            refine ⟨exchange.sessionKey, by rw [completed]; rfl, ?_⟩
            rcases outcome with same | established
            · exact Or.inl same
            · right
              rw [established]
              exact session.establish_rekeyed exchange
          · right
            exact ⟨by rw [nothing]; rfl, same.sameKeying⟩
  | armPairing sessionId code book =>
      refine ⟨rfl, Or.inr ⟨rfl, ?_⟩⟩
      exact
        { role := rfl, channel := rfl, sessionKey := rfl, controlReplay := rfl
          state := fun impossible => SessionState.noConfusion impossible }
  | beginPairing sessionId code scalar =>
      have kept : (session.beginPairing sodium library sessionId code scalar).delivered = [] ∧
          session.SameKeying
            (session.beginPairing sodium library sessionId code scalar).session := by
        unfold PeerSession.beginPairing
        dsimp only
        split
        · exact ⟨rfl,
            { role := rfl, channel := rfl, sessionKey := rfl, controlReplay := rfl
              state := fun impossible => SessionState.noConfusion impossible }⟩
        · exact ⟨rfl,
            { role := rfl, channel := rfl, sessionKey := rfl, controlReplay := rfl
              state := fun impossible => SessionState.noConfusion impossible }⟩
      exact ⟨kept.1, Or.inr ⟨rfl, kept.2⟩⟩
  | resendPairingHello =>
      have kept : session.resendPairingHello.delivered = [] ∧
          session.resendPairingHello.session = session := by
        unfold PeerSession.resendPairingHello
        split <;> exact ⟨rfl, rfl⟩
      refine ⟨kept.1, Or.inr ⟨rfl, ?_⟩⟩
      change session.SameKeying session.resendPairingHello.session
      rw [kept.2]
      exact PeerSession.SameKeying.refl session
  | adoptSessionKey key =>
      exact ⟨rfl, Or.inl ⟨key, rfl, Or.inr { role := rfl, sessionKey := rfl, channel := rfl }⟩⟩
  | sendControl message => cases quiet
  | sendMedia payload => cases quiet
  | withBook work =>
      refine ⟨rfl, Or.inr ⟨rfl, ?_⟩⟩
      exact { role := rfl, channel := rfl, sessionKey := rfl, controlReplay := rfl, state := id }

theorem PeerSession.react_sealed (session : PeerSession) (moment : Moment) {tag : UInt8}
    (body : Bytes) (foreign : tag ≠ tagPairing) :
    let reaction := session.react sodium library (.datagram moment (tag :: body))
    reaction.session.role = session.role ∧
    reaction.session.sessionKey = session.sessionKey ∧
    reaction.session.state = session.state ∧
    (reaction.session.channel = session.channel ∨
      reaction.session.channel = (session.channel.open_ sodium body).2) ∧
    (reaction.delivered ≠ [] → session.state = .authenticated ∧
      (session.channel.open_ sodium body).1.isSome = true ∧
      reaction.session.channel = (session.channel.open_ sodium body).2) := by
  intro reaction
  have unfolded : reaction = session.onDatagram sodium library moment (tag :: body) := rfl
  rcases session.onDatagram_passes sodium library moment body foreign with
    ⟨plain, channel, delivery, controlReplay, authenticated, opened, -, passed⟩ |
      ⟨-, channel, rejected, moved, dropped⟩
  · rw [unfolded, passed, opened]
    exact ⟨rfl, rfl, rfl, Or.inr rfl, fun _delivered => ⟨authenticated, rfl, rfl⟩⟩
  · rw [unfolded, dropped]
    exact ⟨rfl, rfl, rfl, moved, fun impossible => absurd rfl impossible⟩

theorem PeerSession.react_send (session : PeerSession) {input : SessionInput}
    (sends : input.sends = true) :
    let reaction := session.react sodium library input
    reaction.delivered = [] ∧ session.keying sodium library input = none ∧
    reaction.session.role = session.role ∧
    reaction.session.sessionKey = session.sessionKey ∧
    reaction.session.state = session.state ∧
    ∃ plain, (reaction.session.channel = session.channel ∨
        reaction.session.channel = (session.channel.seal sodium plain).2) ∧
      (reaction.sent ≠ [] → session.state = .authenticated ∧
        (session.channel.seal sodium plain).1.isSome = true ∧
        reaction.session.channel = (session.channel.seal sodium plain).2) := by
  have sealing : ∀ tag plain,
      (session.sendSealed sodium tag plain).delivered = [] ∧
      (session.sendSealed sodium tag plain).session.role = session.role ∧
      (session.sendSealed sodium tag plain).session.sessionKey = session.sessionKey ∧
      (session.sendSealed sodium tag plain).session.state = session.state ∧
      (session.sendSealed sodium tag plain).session.channel =
        (session.channel.seal sodium plain).2 ∧
      ((session.sendSealed sodium tag plain).sent ≠ [] →
        (session.channel.seal sodium plain).1.isSome = true) := by
    intro tag plain
    unfold PeerSession.sendSealed
    split
    · rename_i failed
      rw [failed]
      exact ⟨rfl, rfl, rfl, rfl, rfl, fun impossible => absurd rfl impossible⟩
    · rename_i sealed
      rw [sealed]
      exact ⟨rfl, rfl, rfl, rfl, rfl, fun _ => rfl⟩
  intro reaction
  cases input with
  | sendControl message =>
      have unfolded : reaction = session.sendControl sodium library message := rfl
      rw [unfolded]
      unfold PeerSession.sendControl
      split
      · exact ⟨rfl, rfl, rfl, rfl, rfl, [], Or.inl rfl, fun impossible => absurd rfl impossible⟩
      · rename_i authenticated
        split
        · exact ⟨rfl, rfl, rfl, rfl, rfl, [], Or.inl rfl,
            fun impossible => absurd rfl impossible⟩
        · rename_i text _encoded
          obtain ⟨silent, role, key, state, channel, sealed⟩ := sealing tagControl text
          exact ⟨silent, rfl, role, key, state, text, Or.inr channel,
            fun sent => ⟨not_not.mp authenticated, sealed sent, channel⟩⟩
  | sendMedia payload =>
      have unfolded : reaction = session.sendMedia sodium payload := rfl
      rw [unfolded]
      unfold PeerSession.sendMedia
      split
      · exact ⟨rfl, rfl, rfl, rfl, rfl, [], Or.inl rfl, fun impossible => absurd rfl impossible⟩
      · rename_i authenticated
        obtain ⟨silent, role, key, state, channel, sealed⟩ := sealing tagMedia payload
        exact ⟨silent, rfl, role, key, state, payload, Or.inr channel,
          fun sent => ⟨not_not.mp authenticated, sealed sent, channel⟩⟩
  | datagram moment bytes => cases sends
  | armPairing sessionId code book => cases sends
  | beginPairing sessionId code scalar => cases sends
  | resendPairingHello => cases sends
  | adoptSessionKey key => cases sends
  | withBook work => cases sends

end

end SmartMic.Session
