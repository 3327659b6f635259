import SmartMic.Session.DatagramSteps

set_option autoImplicit false

/-! What a datagram can do to the exchange of a session and to the peer key it holds. -/

namespace SmartMic.Session

open SmartMic.Protocol SmartMic.Security SmartMic.Media

/-- The exchange that a peer is handed to: a new one at a responder whose offer nothing
refuses, the one it holds at an initiator. -/
def PeerSession.Offers (sodium : Sodium) (moment : Moment) (session : PeerSession)
    (exchange : PairingExchange) : Prop :=
  (session.role = .responder ∧
    session.refusal session.pairingSessionId moment.nowMs = none ∧
    exchange = PairingExchange.create sodium session.self_ session.role
      session.pairingSessionId session.pendingCode moment.scalar) ∨
  (session.role = .initiator ∧ session.exchange = some exchange)

/-- The exchange and the peer key stay, or an exchange on offer is handed a peer; the
session holds the key of a peer that was taken. -/
inductive PeerSession.Exchanges (sodium : Sodium) (moment : Moment)
    (before after : PeerSession) : Prop where
  | keeps (exchange : after.exchange = before.exchange)
      (peerPublic : after.peerPublic = before.peerPublic)
  | hands (exchange : PairingExchange) (pub : PublicKey) (share : GroupElement)
      (offers : before.Offers sodium moment exchange)
      (holds : after.exchange = some (exchange.onPeer sodium pub share).2)
      (taken : (exchange.onPeer sodium pub share).1 = .none → after.peerPublic = pub)
      (refused : (exchange.onPeer sodium pub share).1 ≠ .none →
        after.peerPublic = before.peerPublic)

section

variable {sodium : Sodium} {library : JsonLibrary} {session : PeerSession} {moment : Moment}

theorem PeerSession.Exchanges.refl (session : PeerSession) :
    session.Exchanges sodium moment session :=
  .keeps rfl rfl

theorem PeerSession.Exchanges.send {before current : PeerSession} {message : Json}
    {next : Reaction} (thrown : before.Exchanges sodium moment current)
    (sent : before.Exchanges sodium moment next.session) :
    before.Exchanges sodium moment (current.sendPairingJson library message next).session := by
  rcases current.sendPairingJson_session library message next with same | same
  · rw [same]
    exact thrown
  · rw [same]
    exact sent

theorem PeerSession.startExchange_exchanges (responder : session.role = .responder)
    (open_ : session.refusal session.pairingSessionId moment.nowMs = none) (pub : PublicKey)
    (share : GroupElement) :
    session.Exchanges sodium moment
      (session.startExchange sodium library moment.scalar pub share).session := by
  have offers : session.Offers sodium moment (PairingExchange.create sodium session.self_
      session.role session.pairingSessionId session.pendingCode moment.scalar) :=
    Or.inl ⟨responder, open_, rfl⟩
  unfold PeerSession.startExchange
  dsimp only
  split
  · rename_i exchange outcome
    have taken : session.Exchanges sodium moment { session with
        exchange := some exchange
        peerPublic := pub
        havePeerPublic := true } :=
      .hands _ pub share offers (by rw [outcome]) (fun _ => rfl)
        (fun refused => absurd (by rw [outcome]) refused)
    exact taken.send taken
  · rename_i error exchange refused outcome
    have left : ∀ after : PeerSession, after.exchange = some exchange →
        after.peerPublic = session.peerPublic → session.Exchanges sodium moment after := by
      intro after holds same
      exact .hands _ pub share offers (by rw [outcome]; exact holds)
        (fun taken => absurd (by rw [← taken, outcome]) refused) (fun _ => same)
    exact PeerSession.Exchanges.send (left _ rfl rfl) (left _ rfl rfl)

theorem PeerSession.onPair1_exchanges (responder : session.role = .responder)
    (fields : JsonFields) :
    session.Exchanges sodium moment (session.onPair1 sodium library moment fields).session := by
  have refl : session.Exchanges sodium moment session := .refl session
  unfold PeerSession.onPair1
  split
  · exact refl
  · split
    · exact .keeps rfl rfl
    · rename_i sid _read named
      rw [not_not.mp named]
      split
      · exact refl.send (.keeps rfl rfl)
      · rename_i open_
        split
        · split
          · split
            · exact refl.send refl
            · exact PeerSession.startExchange_exchanges responder open_ _ _
          · exact PeerSession.startExchange_exchanges responder open_ _ _
        · exact .keeps rfl rfl

theorem PeerSession.onPair2_exchanges (initiator : session.role = .initiator)
    (fields : JsonFields) :
    session.Exchanges sodium moment (session.onPair2 sodium library fields).session := by
  unfold PeerSession.onPair2
  split
  · exact .keeps rfl rfl
  · rename_i exchange held
    split
    · rename_i pub share _pub _share
      split
      · rename_i taken outcome
        have takes : session.Exchanges sodium moment { session with
            exchange := some taken
            peerPublic := pub
            havePeerPublic := true } :=
          .hands exchange pub share (Or.inr ⟨initiator, held⟩) (by rw [outcome]) (fun _ => rfl)
            (fun refused => absurd (by rw [outcome]) refused)
        exact takes.send takes
      · rename_i error left refused outcome
        exact .hands exchange pub share (Or.inr ⟨initiator, held⟩) (by rw [outcome]; rfl)
          (fun taken => absurd (by rw [← taken, outcome]) refused) (fun _ => rfl)
    · exact .keeps rfl rfl

theorem PeerSession.onPair3_exchanges (fields : JsonFields) :
    session.Exchanges sodium moment (session.onPair3 sodium library fields).session := by
  unfold PeerSession.onPair3
  split
  · exact .keeps rfl rfl
  · split
    · exact .keeps rfl rfl
    · split
      · exact PeerSession.Exchanges.send (.keeps rfl rfl) (.keeps rfl rfl)
      · exact PeerSession.Exchanges.send (.keeps rfl rfl) (.keeps rfl rfl)

theorem PeerSession.onPair4_exchanges (fields : JsonFields) :
    session.Exchanges sodium moment (session.onPair4 sodium fields).session := by
  unfold PeerSession.onPair4
  repeat' split
  all_goals exact .keeps rfl rfl

theorem PeerSession.handlePairing_exchanges (session : PeerSession) (moment : Moment)
    (text : Bytes) :
    session.Exchanges sodium moment
      (session.handlePairing sodium library moment text).session := by
  unfold PeerSession.handlePairing
  split
  · exact .keeps rfl rfl
  · exact .refl session
  · unfold PeerSession.onPairingMessage
    split
    · rename_i pair1
      exact PeerSession.onPair1_exchanges pair1.2 _
    · split
      · rename_i pair2
        exact PeerSession.onPair2_exchanges pair2.2 _
      · split
        · exact PeerSession.onPair3_exchanges _
        · split
          · exact PeerSession.onPair4_exchanges _
          · split
            · unfold PeerSession.onPairErr
              dsimp only
              split <;> exact .keeps rfl rfl
            · exact .keeps rfl rfl

theorem PeerSession.onDatagram_exchanges (session : PeerSession) (moment : Moment)
    (datagram : Bytes) :
    session.Exchanges sodium moment
      (session.onDatagram sodium library moment datagram).session := by
  cases datagram with
  | nil => exact .keeps rfl rfl
  | cons tag body =>
      by_cases pairing : tag = tagPairing
      · subst pairing
        exact session.handlePairing_exchanges moment body
      · obtain ⟨-, channel, controlReplay, rejected, reached⟩ :=
          session.onDatagram_sealed sodium library moment body pairing
        rw [reached]
        exact .keeps rfl rfl

end

end SmartMic.Session
