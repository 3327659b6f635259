import SmartMic.Security.Transcript

set_option autoImplicit false

/-! What two honest exchanges about one session id and one code come to: each takes
the other's share, and then both hold the same key and accept each other's signature. -/

namespace SmartMic.Security

/-- An exchange of one device, made with a usable scalar on one generator. Once derived
its key is that scalar applied to the share of the peer. -/
structure PairingExchange.Keyed (sodium : Sodium) (device : DeviceIdentity) (role : PairingRole)
    (sessionId : Bytes) (generator : GroupElement) (exchange : PairingExchange) : Prop where
  consistent : exchange.Consistent device role
  sessionId : exchange.sessionId = sessionId
  drawn : ∃ scalar, sodium.Usable scalar ∧
    exchange.ourShare = shareFor sodium scalar generator ∧
    (exchange.derived = false → exchange.scalar = scalar) ∧
    (exchange.derived = true → ∃ shared,
      sodium.ristrettoScalarMult scalar exchange.peerShare = some shared ∧
        exchange.sessionKey = deriveSessionKey sodium shared exchange.transcript)

section

variable {sodium : Sodium} {device : DeviceIdentity} {role : PairingRole} {sessionId : Bytes}
  {generator : GroupElement} {exchange : PairingExchange}

theorem shareFor_spec {scalar : Scalar} (usable : sodium.Usable scalar)
    (point : sodium.IsPoint generator) :
    sodium.ristrettoScalarMult scalar generator = some (shareFor sodium scalar generator) ∧
      sodium.IsPoint (shareFor sodium scalar generator) := by
  obtain ⟨product, multiplied, isPoint⟩ := usable generator point
  have share : shareFor sodium scalar generator = product := by
    unfold shareFor
    rw [multiplied]
    rfl
  rw [share]
  exact ⟨multiplied, isPoint⟩

theorem PairingExchange.create_keyed (device : DeviceIdentity) (role : PairingRole)
    (sessionId code : Bytes) {scalar : Scalar} (usable : sodium.Usable scalar) :
    (PairingExchange.create sodium device role sessionId code scalar).Keyed sodium device role
      sessionId (generatorFor sodium sessionId code) :=
  { consistent := PairingExchange.create_consistent sodium device role sessionId code scalar
    sessionId := rfl
    drawn := ⟨scalar, usable, rfl, fun _ => rfl, fun impossible => Bool.noConfusion impossible⟩ }

theorem PairingExchange.Keyed.share_isPoint
    (keyed : exchange.Keyed sodium device role sessionId generator)
    (point : sodium.IsPoint generator) : sodium.IsPoint exchange.ourShare := by
  obtain ⟨scalar, usable, share, -, -⟩ := keyed.drawn
  rw [share]
  exact (shareFor_spec usable point).2

structure PairingExchange.Took (before : PairingExchange) (pub : PublicKey)
    (share : GroupElement) (after : PairingExchange) : Prop where
  derived : after.derived = true
  peerPublic : after.peerPublic = pub
  peerShare : after.peerShare = share
  ourShare : after.ourShare = before.ourShare

theorem PairingExchange.Keyed.onPeer
    (keyed : exchange.Keyed sodium device role sessionId generator) (pub : PublicKey)
    (share : GroupElement) :
    (exchange.onPeer sodium pub share).2.Keyed sodium device role sessionId generator := by
  have consistent := keyed.consistent.onPeer sodium pub share
  obtain ⟨scalar, usable, ours, held, key⟩ := keyed.drawn
  unfold PairingExchange.onPeer at consistent ⊢
  split
  · exact keyed
  · rename_i fresh
    rw [if_neg fresh] at consistent
    have same := held (Bool.eq_false_iff.mpr fresh)
    split
    · exact keyed
    · rename_i nonzero
      rw [if_neg nonzero] at consistent
      split
      · exact keyed
      · rename_i valid
        rw [if_neg valid] at consistent
        dsimp only at consistent ⊢
        cases multiplied : sodium.ristrettoScalarMult exchange.scalar share with
        | none =>
            rw [multiplied] at consistent
            exact
              { consistent := consistent
                sessionId := keyed.sessionId
                drawn := ⟨scalar, usable, ours, held, fun derived => absurd derived fresh⟩ }
        | some shared =>
            rw [multiplied] at consistent
            exact
              { consistent := consistent
                sessionId := keyed.sessionId
                drawn := ⟨scalar, usable, ours, fun impossible => Bool.noConfusion impossible,
                  fun _ => ⟨shared, by rw [← same]; exact multiplied, rfl⟩⟩ }

theorem PairingExchange.Keyed.takes
    (keyed : exchange.Keyed sodium device role sessionId generator)
    (fresh : exchange.derived = false) (pub : PublicKey) {share : GroupElement}
    (point : sodium.IsPoint share) :
    ∃ after, exchange.onPeer sodium pub share = (.none, after) ∧
      after.Keyed sodium device role sessionId generator ∧ exchange.Took pub share after := by
  obtain ⟨scalar, usable, -, held, -⟩ := keyed.drawn
  obtain ⟨shared, multiplied, -⟩ := usable share point
  rw [← held fresh] at multiplied
  have stays := keyed.onPeer pub share
  unfold PairingExchange.onPeer at stays ⊢
  rw [if_neg (Bool.eq_false_iff.mp fresh), if_neg (Bool.eq_false_iff.mp point.1),
    if_neg (Bool.eq_false_iff.not.mpr (not_not.mpr point.2))] at stays ⊢
  dsimp only at stays ⊢
  rw [multiplied] at stays ⊢
  exact ⟨_, rfl, stays,
    { derived := rfl, peerPublic := rfl, peerShare := rfl, ourShare := rfl }⟩

theorem PairingExchange.onPeer_of_derived (derived : exchange.derived = true) (pub : PublicKey)
    (share : GroupElement) : exchange.onPeer sodium pub share = (.wrongState, exchange) := by
  unfold PairingExchange.onPeer
  rw [if_pos derived]

end

section Agreement

variable {sodium : Sodium} {phone desk : DeviceIdentity} {sessionId : Bytes}
  {generator : GroupElement} {ours theirs : PairingExchange}

structure PairingExchange.Facing (ours theirs : PairingExchange) : Prop where
  derived : ours.derived = true ∧ theirs.derived = true
  publics : ours.peerPublic = theirs.selfPublic ∧ theirs.peerPublic = ours.selfPublic
  shares : ours.peerShare = theirs.ourShare ∧ theirs.peerShare = ours.ourShare

/-- An initiator and a responder that face each other hold one transcript and one key. -/
theorem PairingExchange.Facing.agree (facing : ours.Facing theirs)
    (initiator : ours.Keyed sodium phone .initiator sessionId generator)
    (responder : theirs.Keyed sodium desk .responder sessionId generator)
    (point : sodium.IsPoint generator) (commutes : sodium.Commutes) :
    ours.transcript = theirs.transcript ∧ ours.sessionKey = theirs.sessionKey := by
  obtain ⟨first, firstUsable, firstShare, -, firstKey⟩ := initiator.drawn
  obtain ⟨second, secondUsable, secondShare, -, secondKey⟩ := responder.drawn
  obtain ⟨shared, multiplied, key⟩ := firstKey facing.derived.1
  obtain ⟨shared', multiplied', key'⟩ := secondKey facing.derived.2
  have transcripts : ours.transcript = theirs.transcript := by
    rw [initiator.consistent.transcript facing.derived.1,
      responder.consistent.transcript facing.derived.2]
    unfold PairingExchange.buildTranscript
    rw [initiator.consistent.role, responder.consistent.role]
    dsimp only
    rw [initiator.sessionId, responder.sessionId, facing.publics.1, facing.publics.2,
      facing.shares.1, facing.shares.2]
  have secrets : shared = shared' := by
    rw [facing.shares.1, secondShare] at multiplied
    rw [facing.shares.2, firstShare] at multiplied'
    have swapped := commutes first second generator _ _ (shareFor_spec firstUsable point).1
      (shareFor_spec secondUsable point).1
    rw [multiplied, multiplied'] at swapped
    exact Option.some.inj swapped
  refine ⟨transcripts, ?_⟩
  rw [key, key', transcripts, secrets]

theorem PairingExchange.verifyPeerAuth_of_signed {signer verifier : PairingExchange}
    {device : DeviceIdentity} {role : PairingRole} (owner : signer.Consistent device role)
    (paired : device.Paired sodium) (derived : signer.derived = true ∧ verifier.derived = true)
    (peer : verifier.peerPublic = signer.selfPublic)
    (message : signer.transcript = verifier.transcript ∧ signer.sessionKey = verifier.sessionKey) :
    verifier.verifyPeerAuth sodium (signer.authSignature sodium) = .none := by
  unfold PairingExchange.verifyPeerAuth PairingExchange.authSignature
  rw [if_pos derived.1, if_pos derived.2, peer, owner.selfPublic, owner.owner, message.1, message.2,
    if_pos (paired _)]

/-- The signature on one message is no signature on another. -/
def DeviceIdentity.Binds (sodium : Sodium) (device : DeviceIdentity) (message other : Bytes) :
    Prop :=
  DeviceIdentity.verify sodium device.public_ other (device.sign sodium message) = true →
    other = message

/-- An accepted signature that holds for one message only was made on the message of the
side that accepts it. -/
theorem PairingExchange.message_of_verified {signer verifier : PairingExchange}
    {device : DeviceIdentity} {role : PairingRole} (owner : signer.Consistent device role)
    (derived : signer.derived = true) (peer : verifier.peerPublic = device.public_)
    (binds : device.Binds sodium signer.signedMessage verifier.signedMessage)
    (verified : verifier.verifyPeerAuth sodium (signer.authSignature sodium) = .none) :
    verifier.signedMessage = signer.signedMessage := by
  unfold PairingExchange.verifyPeerAuth at verified
  split at verified
  · split at verified
    · rename_i accepted
      unfold PairingExchange.authSignature at accepted
      rw [peer, if_pos derived, owner.owner] at accepted
      exact binds accepted
    · cases verified
  · cases verified

theorem PairingExchange.Keyed.refuses
    (initiator : ours.Keyed sodium phone .initiator sessionId generator)
    (responder : theirs.Keyed sodium desk .responder sessionId generator)
    (derived : ours.derived = true) (peer : theirs.derived = true →
      theirs.peerPublic = phone.public_)
    (binds : phone.Binds sodium ours.signedMessage theirs.signedMessage)
    (stale : ¬ (theirs.derived = true ∧ theirs.peerShare = ours.ourShare)) :
    theirs.verifyPeerAuth sodium (ours.authSignature sodium) ≠ .none := by
  intro verified
  have theirsDerived : theirs.derived = true := by
    unfold PairingExchange.verifyPeerAuth at verified
    split at verified
    · assumption
    · cases verified
  have message := PairingExchange.message_of_verified initiator.consistent derived
    (peer theirsDerived) binds verified
  have agrees := PairingExchange.agrees_of_message (initiator.consistent.transcript derived)
    (responder.consistent.transcript theirsDerived) message
    (by rw [initiator.consistent.role, responder.consistent.role]; exact PairingRole.noConfusion)
  exact stale ⟨theirsDerived, agrees.ourShare⟩

/-- Two exchanges that face each other accept each other's signatures. -/
theorem PairingExchange.Facing.verify (facing : ours.Facing theirs)
    (initiator : ours.Keyed sodium phone .initiator sessionId generator)
    (responder : theirs.Keyed sodium desk .responder sessionId generator)
    (point : sodium.IsPoint generator) (commutes : sodium.Commutes)
    (phonePaired : phone.Paired sodium) (deskPaired : desk.Paired sodium) :
    theirs.verifyPeerAuth sodium (ours.authSignature sodium) = .none ∧
      ours.verifyPeerAuth sodium (theirs.authSignature sodium) = .none := by
  obtain ⟨transcripts, keys⟩ := facing.agree initiator responder point commutes
  constructor
  · exact PairingExchange.verifyPeerAuth_of_signed initiator.consistent phonePaired facing.derived
      facing.publics.2 ⟨transcripts, keys⟩
  · exact PairingExchange.verifyPeerAuth_of_signed responder.consistent deskPaired
      facing.derived.symm facing.publics.1 ⟨transcripts.symm, keys.symm⟩

end Agreement

end SmartMic.Security
