import SmartMic.Security.Pairing

set_option autoImplicit false

/-! What a transcript and the message that is signed over it determine: both are
concatenations of length-prefixed fields, all but one of a fixed length. -/

namespace SmartMic.Security

theorem lengthPrefixed_injective {first second : Bytes}
    (same : lengthPrefixed first = lengthPrefixed second) : first = second := by
  unfold lengthPrefixed at same
  apply (List.append_inj same _).2
  rw [littleEndian_length, littleEndian_length]

theorem lengthPrefixed_length (data : Bytes) : (lengthPrefixed data).length = 4 + data.length := by
  unfold lengthPrefixed
  rw [List.length_append, littleEndian_length]

theorem append_lengthPrefixed_injective {size : Nat} {before before' : Bytes}
    {last last' : FixedBytes size}
    (same : before ++ lengthPrefixed last.val = before' ++ lengthPrefixed last'.val) :
    before = before' ∧ last = last' := by
  have lengths : (lengthPrefixed last.val).length = (lengthPrefixed last'.val).length := by
    rw [lengthPrefixed_length, lengthPrefixed_length, last.property, last'.property]
  obtain ⟨front, back⟩ := List.append_inj' same lengths
  exact ⟨front, Subtype.ext (lengthPrefixed_injective back)⟩

theorem transcriptOf_injective {sessionId sessionId' : Bytes}
    {initiatorPub responderPub initiatorPub' responderPub' : PublicKey}
    {initiatorY responderY initiatorY' responderY' : GroupElement}
    (same : transcriptOf sessionId initiatorPub responderPub initiatorY responderY =
      transcriptOf sessionId' initiatorPub' responderPub' initiatorY' responderY') :
    sessionId = sessionId' ∧ initiatorPub = initiatorPub' ∧ responderPub = responderPub' ∧
      initiatorY = initiatorY' ∧ responderY = responderY' := by
  unfold transcriptOf at same
  obtain ⟨same, responderShare⟩ := append_lengthPrefixed_injective same
  obtain ⟨same, initiatorShare⟩ := append_lengthPrefixed_injective same
  obtain ⟨same, responderKey⟩ := append_lengthPrefixed_injective same
  obtain ⟨same, initiatorKey⟩ := append_lengthPrefixed_injective same
  have session := lengthPrefixed_injective (List.append_cancel_left same)
  exact ⟨session, initiatorKey, responderKey, initiatorShare, responderShare⟩

theorem authMessage_injective {transcript transcript' : Bytes} {sessionKey sessionKey' : SessionKey}
    (same : authMessage transcript sessionKey = authMessage transcript' sessionKey') :
    transcript = transcript' ∧ sessionKey = sessionKey' := by
  unfold authMessage at same
  obtain ⟨same, key⟩ := append_lengthPrefixed_injective same
  exact ⟨lengthPrefixed_injective (List.append_cancel_left same), key⟩

/-- What an exchange of one device and role keeps: its transcript is the one its
fields make. -/
structure PairingExchange.Consistent (device : DeviceIdentity) (role : PairingRole)
    (exchange : PairingExchange) : Prop where
  owner : exchange.self_ = device
  role : exchange.role = role
  selfPublic : exchange.selfPublic = device.public_
  transcript : exchange.derived = true → exchange.transcript = exchange.buildTranscript

theorem PairingExchange.create_consistent (sodium : Sodium) (self_ : DeviceIdentity)
    (role : PairingRole) (sessionId code : Bytes) (scalar : Scalar) :
    (PairingExchange.create sodium self_ role sessionId code scalar).Consistent self_ role :=
  { owner := rfl
    role := rfl
    selfPublic := rfl
    transcript := fun impossible => Bool.noConfusion impossible }

/-- `onPeer` derives a key with that peer, or leaves the exchange as derived as it was. -/
theorem PairingExchange.onPeer_cases (sodium : Sodium) (exchange : PairingExchange)
    (peerPublic : PublicKey) (peerShare : GroupElement) :
    ((exchange.onPeer sodium peerPublic peerShare).1 = .none ∧ exchange.derived = false ∧
      ∃ sessionKey,
        (exchange.onPeer sodium peerPublic peerShare).2 = { exchange with
          peerPublic := peerPublic
          peerShare := peerShare
          transcript :=
            { exchange with peerPublic := peerPublic, peerShare := peerShare }.buildTranscript
          sessionKey := sessionKey
          scalar := FixedBytes.zero _
          derived := true }) ∨
    ((exchange.onPeer sodium peerPublic peerShare).1 ≠ .none ∧
      ((exchange.onPeer sodium peerPublic peerShare).2 = exchange ∨
        (exchange.derived = false ∧
          (exchange.onPeer sodium peerPublic peerShare).2 =
            { exchange with peerPublic := peerPublic, peerShare := peerShare }))) := by
  unfold PairingExchange.onPeer
  split
  · exact Or.inr ⟨PairingError.noConfusion, Or.inl rfl⟩
  · rename_i fresh
    have underived : exchange.derived = false := Bool.eq_false_iff.mpr fresh
    split
    · exact Or.inr ⟨PairingError.noConfusion, Or.inl rfl⟩
    · split
      · exact Or.inr ⟨PairingError.noConfusion, Or.inl rfl⟩
      · dsimp only
        cases sodium.ristrettoScalarMult exchange.scalar peerShare with
        | none => exact Or.inr ⟨PairingError.noConfusion, Or.inr ⟨underived, rfl⟩⟩
        | some shared => exact Or.inl ⟨rfl, underived, _, rfl⟩

theorem PairingExchange.Consistent.onPeer {device : DeviceIdentity} {role : PairingRole}
    {exchange : PairingExchange} (consistent : exchange.Consistent device role) (sodium : Sodium)
    (peerPublic : PublicKey) (peerShare : GroupElement) :
    (exchange.onPeer sodium peerPublic peerShare).2.Consistent device role := by
  rcases exchange.onPeer_cases sodium peerPublic peerShare with
    ⟨-, -, sessionKey, derives⟩ | ⟨-, same | ⟨fresh, learns⟩⟩
  · rw [derives]
    exact
      { owner := consistent.owner
        role := consistent.role
        selfPublic := consistent.selfPublic
        transcript := fun _derived => rfl }
  · rw [same]
    exact consistent
  · rw [learns]
    exact
      { owner := consistent.owner
        role := consistent.role
        selfPublic := consistent.selfPublic
        transcript := by
          intro derived
          change exchange.derived = true at derived
          rw [fresh] at derived
          cases derived }

/-! ### What one message says about two exchanges -/

/-- The bytes that `authSignature` signs. -/
def PairingExchange.signedMessage (exchange : PairingExchange) : Bytes :=
  authMessage exchange.transcript exchange.sessionKey

/-- Two exchanges of opposite roles about one session: the keys and the shares of
each stand where the other has its peer's. -/
structure PairingExchange.Agrees (ours theirs : PairingExchange) : Prop where
  role : theirs.role ≠ ours.role
  sessionId : theirs.sessionId = ours.sessionId
  peerPublic : theirs.selfPublic = ours.peerPublic
  selfPublic : theirs.peerPublic = ours.selfPublic
  peerShare : theirs.ourShare = ours.peerShare
  ourShare : theirs.peerShare = ours.ourShare
  sessionKey : theirs.sessionKey = ours.sessionKey

section Messages

variable {ours theirs : PairingExchange}

theorem PairingExchange.agrees_of_message
    (oursBuilt : ours.transcript = ours.buildTranscript)
    (theirsBuilt : theirs.transcript = theirs.buildTranscript)
    (message : theirs.signedMessage = ours.signedMessage) (opposite : theirs.role ≠ ours.role) :
    ours.Agrees theirs := by
  obtain ⟨transcript, key⟩ := authMessage_injective message
  rw [oursBuilt, theirsBuilt] at transcript
  unfold PairingExchange.buildTranscript at transcript
  cases ourRole : ours.role with
  | initiator =>
      cases theirRole : theirs.role with
      | initiator => exact absurd (theirRole.trans ourRole.symm) opposite
      | responder =>
          rw [ourRole, theirRole] at transcript
          obtain ⟨session, initiator, responder, initiatorY, responderY⟩ :=
            transcriptOf_injective transcript
          exact
            { role := opposite
              sessionId := session
              peerPublic := responder
              selfPublic := initiator
              peerShare := responderY
              ourShare := initiatorY
              sessionKey := key }
  | responder =>
      cases theirRole : theirs.role with
      | responder => exact absurd (theirRole.trans ourRole.symm) opposite
      | initiator =>
          rw [ourRole, theirRole] at transcript
          obtain ⟨session, initiator, responder, initiatorY, responderY⟩ :=
            transcriptOf_injective transcript
          exact
            { role := opposite
              sessionId := session
              peerPublic := initiator
              selfPublic := responder
              peerShare := initiatorY
              ourShare := responderY
              sessionKey := key }

theorem PairingExchange.same_of_message
    (oursBuilt : ours.transcript = ours.buildTranscript)
    (theirsBuilt : theirs.transcript = theirs.buildTranscript)
    (message : theirs.signedMessage = ours.signedMessage) (same : theirs.role = ours.role) :
    theirs.selfPublic = ours.selfPublic ∧ theirs.peerPublic = ours.peerPublic := by
  obtain ⟨transcript, -⟩ := authMessage_injective message
  rw [oursBuilt, theirsBuilt] at transcript
  unfold PairingExchange.buildTranscript at transcript
  rw [same] at transcript
  cases role : ours.role with
  | initiator =>
      rw [role] at transcript
      obtain ⟨-, initiator, responder, -, -⟩ := transcriptOf_injective transcript
      exact ⟨initiator, responder⟩
  | responder =>
      rw [role] at transcript
      obtain ⟨-, initiator, responder, -, -⟩ := transcriptOf_injective transcript
      exact ⟨responder, initiator⟩

end Messages

end SmartMic.Security
