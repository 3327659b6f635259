import SmartMic.Security.KeyAgreement
import SmartMic.Session.Immunity

set_option autoImplicit false

/-! What a session makes of the pairing messages of an honest peer: the datagram is
there, it reads back as what was written, and the session answers in one of two ways. -/

namespace SmartMic.Session

open SmartMic.Protocol SmartMic.Security SmartMic.Media

def Reaction.saying (session : PeerSession) (text : Bytes) : Reaction :=
  { session := session, sent := [tagPairing :: text], delivered := [], threw := false }

section

variable {sodium : Sodium} {library : JsonLibrary} {session : PeerSession} {moment : Moment}
  {text : Bytes}

theorem PeerSession.sendPairingJson_saying {message : Json}
    (dumped : library.dump message = some text) (session next : PeerSession) :
    session.sendPairingJson library message (.quiet next) = .saying next text := by
  unfold PeerSession.sendPairingJson
  rw [dumped]
  rfl

/-! ### PAIR1 -/

theorem PeerSession.hears_pair1 (documented : library.Documented)
    (responder : session.role = .responder) {sid : Bytes} {pub : PublicKey} {share : GroupElement}
    (dumped : library.dump (pair1Json sodium sid pub share) = some text) :
    session.onDatagram sodium library moment (tagPairing :: text) =
      session.onPair1 sodium library moment
        ((PairingMessage.pair1 sid pub share).fields sodium) := by
  change session.handlePairing sodium library moment text = _
  unfold PeerSession.handlePairing
  rw [@PairingMessage.reads sodium library documented (.pair1 sid pub share) text dumped]
  exact PeerSession.onPairingMessage_pair1 responder moment _

theorem PeerSession.onPair1_open (library : JsonLibrary) (base64 : sodium.Base64)
    (pub : PublicKey) (share : GroupElement)
    (open_ : session.refusal session.pairingSessionId moment.nowMs = none) :
    (∃ exchange, session.exchange = some exchange ∧ session.Answered pub ∧
      session.onPair1 sodium library moment
          ((PairingMessage.pair1 session.pairingSessionId pub share).fields sodium) =
        session.sendPairingJson library
          (pair2Json sodium session.self_.public_ exchange.ourShare) (.quiet session)) ∨
    (¬ session.Answered pub ∧
      session.onPair1 sodium library moment
          ((PairingMessage.pair1 session.pairingSessionId pub share).fields sodium) =
        session.startExchange sodium library moment.scalar pub share) := by
  obtain ⟨pubRead, shareRead⟩ := PairingMessage.peer_read base64
    (Or.inl ⟨session.pairingSessionId, rfl⟩ : PairingMessage.BringsPeer _ pub share)
  unfold PeerSession.onPair1
  rw [show JsonFields.value _ "sid" [] = .found session.pairingSessionId from rfl]
  dsimp only
  rw [if_neg (not_not.mpr rfl), open_]
  dsimp only
  rw [pubRead, shareRead]
  dsimp only
  cases held : session.exchange with
  | none =>
      right
      refine ⟨?_, rfl⟩
      rintro ⟨some_, -⟩
      rw [held] at some_
      cases some_
  | some exchange =>
      by_cases answered : session.havePeerPublic = true ∧ session.peerPublic = pub
      · left
        refine ⟨exchange, rfl, ⟨by rw [held]; rfl, answered⟩, ?_⟩
        dsimp only
        rw [if_pos answered]
      · right
        refine ⟨fun impossible => answered impossible.2, ?_⟩
        dsimp only
        rw [if_neg answered]

theorem PeerSession.onPair1_refused (documented : library.Documented) (pub : PublicKey)
    (share : GroupElement)
    (refused : session.refusal session.pairingSessionId moment.nowMs ≠ none) :
    (session.onPair1 sodium library moment
      ((PairingMessage.pair1 session.pairingSessionId pub share).fields sodium)).session.state =
        .failed := by
  obtain ⟨status, refusal⟩ := Option.ne_none_iff_exists'.mp refused
  obtain ⟨text, dumped⟩ := pairErrJson_dumps documented (OfferStatus.toText_unescaped status)
  unfold PeerSession.onPair1
  rw [show JsonFields.value _ "sid" [] = .found session.pairingSessionId from rfl]
  dsimp only
  rw [if_neg (not_not.mpr rfl), refusal]
  dsimp only
  rw [PeerSession.sendPairingJson_saying dumped]
  rfl

theorem PeerSession.startExchange_answers (session : PeerSession) (documented : library.Documented)
    (base64 : sodium.Base64) {scalar : Scalar} (usable : sodium.Usable scalar) (pub : PublicKey)
    {share : GroupElement} (point : sodium.IsPoint share) :
    ∃ exchange text,
      exchange.Keyed sodium session.self_ session.role session.pairingSessionId
        (generatorFor sodium session.pairingSessionId session.pendingCode) ∧
      exchange.derived = true ∧ exchange.peerPublic = pub ∧ exchange.peerShare = share ∧
      library.dump (pair2Json sodium session.self_.public_ exchange.ourShare) = some text ∧
      session.startExchange sodium library scalar pub share =
        .saying { session with
          exchange := some exchange
          peerPublic := pub
          havePeerPublic := true } text := by
  have created := PairingExchange.create_keyed session.self_ session.role
    session.pairingSessionId session.pendingCode usable
  obtain ⟨exchange, outcome, keyed, took⟩ := created.takes rfl pub point
  obtain ⟨text, dumped⟩ := pair2Json_dumps documented base64 session.self_.public_ exchange.ourShare
  refine ⟨exchange, text, keyed, took.derived, took.peerPublic, took.peerShare, dumped, ?_⟩
  unfold PeerSession.startExchange
  dsimp only
  rw [outcome]
  exact PeerSession.sendPairingJson_saying dumped _ _

/-! ### PAIR2 -/

theorem PeerSession.hears_pair2 (documented : library.Documented)
    (initiator : session.role = .initiator) {pub : PublicKey} {share : GroupElement}
    (dumped : library.dump (pair2Json sodium pub share) = some text) :
    session.onDatagram sodium library moment (tagPairing :: text) =
      session.onPair2 sodium library ((PairingMessage.pair2 pub share).fields sodium) := by
  change session.handlePairing sodium library moment text = _
  unfold PeerSession.handlePairing
  rw [@PairingMessage.reads sodium library documented (.pair2 pub share) text dumped]
  exact PeerSession.onPairingMessage_pair2 initiator moment _

theorem PeerSession.onPair2_takes (documented : library.Documented) (base64 : sodium.Base64)
    {exchange taken : PairingExchange} {pub : PublicKey} {share : GroupElement}
    (held : session.exchange = some exchange)
    (takes : exchange.onPeer sodium pub share = (.none, taken)) :
    ∃ text, library.dump (pair3Json sodium (taken.authSignature sodium)) = some text ∧
      session.onPair2 sodium library ((PairingMessage.pair2 pub share).fields sodium) =
        .saying { session with
          exchange := some taken
          peerPublic := pub
          havePeerPublic := true } text := by
  obtain ⟨text, dumped⟩ := @PairingMessage.dumps sodium library documented base64
    (.pair3 (taken.authSignature sodium)) trivial
  refine ⟨text, dumped, ?_⟩
  obtain ⟨pubRead, shareRead⟩ := PairingMessage.peer_read base64
    (Or.inr rfl : PairingMessage.BringsPeer _ pub share)
  unfold PeerSession.onPair2
  rw [held]
  dsimp only
  rw [pubRead, shareRead]
  dsimp only
  rw [takes]
  exact PeerSession.sendPairingJson_saying dumped _ _

theorem PeerSession.takes_pair2 (moment : Moment) (documented : library.Documented)
    (base64 : sodium.Base64)
    (initiator : session.role = .initiator) {device : DeviceIdentity} {sid : Bytes}
    {generator : GroupElement} {exchange : PairingExchange} {pub : PublicKey}
    {share : GroupElement} (held : session.exchange = some exchange)
    (keyed : exchange.Keyed sodium device .initiator sid generator)
    (fresh : exchange.derived = false) (point : sodium.IsPoint share)
    (dumped : library.dump (pair2Json sodium pub share) = some text) :
    ∃ taken reply, taken.Keyed sodium device .initiator sid generator ∧
      exchange.Took pub share taken ∧
      library.dump (pair3Json sodium (taken.authSignature sodium)) = some reply ∧
      session.onDatagram sodium library moment (tagPairing :: text) =
        .saying { session with
          exchange := some taken
          peerPublic := pub
          havePeerPublic := true } reply := by
  obtain ⟨taken, outcome, stays, took⟩ := keyed.takes fresh pub point
  obtain ⟨reply, replied, derives⟩ := PeerSession.onPair2_takes documented base64 held outcome
  refine ⟨taken, reply, stays, took, replied, ?_⟩
  rw [PeerSession.hears_pair2 documented initiator dumped]
  exact derives

/-- A derived exchange does not, and the session fails. -/
theorem PeerSession.onPair2_repeated (base64 : sodium.Base64) {exchange : PairingExchange}
    (pub : PublicKey) (share : GroupElement) (held : session.exchange = some exchange)
    (derived : exchange.derived = true) :
    (session.onPair2 sodium library
      ((PairingMessage.pair2 pub share).fields sodium)).session.state = .failed := by
  obtain ⟨pubRead, shareRead⟩ := PairingMessage.peer_read base64
    (Or.inr rfl : PairingMessage.BringsPeer _ pub share)
  unfold PeerSession.onPair2
  rw [held]
  dsimp only
  rw [pubRead, shareRead]
  dsimp only
  rw [PairingExchange.onPeer_of_derived derived]
  rfl

/-! ### PAIR3 and PAIR4 -/

theorem PeerSession.hears_pair3 (moment : Moment) (documented : library.Documented)
    (responder : session.role = .responder) {signature : Signature}
    (dumped : library.dump (pair3Json sodium signature) = some text) :
    session.onDatagram sodium library moment (tagPairing :: text) =
      session.onPair3 sodium library ((PairingMessage.pair3 signature).fields sodium) := by
  change session.handlePairing sodium library moment text = _
  unfold PeerSession.handlePairing
  rw [@PairingMessage.reads sodium library documented (.pair3 signature) text dumped]
  exact PeerSession.onPairingMessage_pair3 responder moment _

theorem PeerSession.onPair3_verified (documented : library.Documented) (base64 : sodium.Base64)
    {exchange : PairingExchange} {signature : Signature}
    (held : session.exchange = some exchange)
    (verified : exchange.verifyPeerAuth sodium signature = .none) :
    ∃ text, library.dump (pair4Json sodium (exchange.authSignature sodium)) = some text ∧
      session.onPair3 sodium library ((PairingMessage.pair3 signature).fields sodium) =
        .saying (session.establish sodium exchange) text := by
  obtain ⟨text, dumped⟩ := @PairingMessage.dumps sodium library documented base64
    (.pair4 (exchange.authSignature sodium)) trivial
  refine ⟨text, dumped, ?_⟩
  rw [PeerSession.onPair3_eq_onSignature,
    PeerSession.onSignature_right held (fromB64_of_find base64 rfl) verified]
  exact PeerSession.sendPairingJson_saying dumped _ _

theorem PeerSession.onPair3_unverified (documented : library.Documented) (base64 : sodium.Base64)
    {exchange : PairingExchange} {signature : Signature}
    (held : session.exchange = some exchange)
    (unverified : exchange.verifyPeerAuth sodium signature ≠ .none) :
    (session.onPair3 sodium library
      ((PairingMessage.pair3 signature).fields sodium)).session.state = .failed := by
  obtain ⟨text, dumped⟩ : ∃ text, library.dump (pairErrJson "auth failed") = some text :=
    pairErrJson_dumps documented (by decide +kernel)
  rw [PeerSession.onPair3_eq_onSignature,
    PeerSession.onSignature_wrong held (fromB64_of_find base64 rfl) unverified,
    PeerSession.sendPairingJson_saying dumped]
  rfl

theorem PeerSession.hears_pair4 (moment : Moment) (documented : library.Documented)
    (initiator : session.role = .initiator) {signature : Signature}
    (dumped : library.dump (pair4Json sodium signature) = some text) :
    session.onDatagram sodium library moment (tagPairing :: text) =
      session.onPair4 sodium ((PairingMessage.pair4 signature).fields sodium) := by
  change session.handlePairing sodium library moment text = _
  unfold PeerSession.handlePairing
  rw [@PairingMessage.reads sodium library documented (.pair4 signature) text dumped]
  exact PeerSession.onPairingMessage_pair4 initiator moment _

theorem PeerSession.onPair4_verified (base64 : sodium.Base64) {exchange : PairingExchange}
    {signature : Signature} (held : session.exchange = some exchange)
    (verified : exchange.verifyPeerAuth sodium signature = .none) :
    session.onPair4 sodium ((PairingMessage.pair4 signature).fields sodium) =
      .quiet (session.establish sodium exchange) := by
  rw [PeerSession.onPair4_eq_onSignature,
    PeerSession.onSignature_right held (fromB64_of_find base64 rfl) verified]

/-! ### The opener -/

theorem PeerSession.beginPairing_opens (initiator : session.role = .initiator) {sid code : Bytes}
    {scalar : Scalar} (usable : sodium.Usable scalar)
    (returns : (session.beginPairing sodium library sid code scalar).threw = false) :
    ∃ exchange text,
      exchange.Keyed sodium session.self_ .initiator sid (generatorFor sodium sid code) ∧
      exchange.derived = false ∧
      exchange.ourShare = shareFor sodium scalar (generatorFor sodium sid code) ∧
      library.dump (pair1Json sodium sid session.self_.public_ exchange.ourShare) = some text ∧
      session.beginPairing sodium library sid code scalar =
        .saying { session with
          pairingSessionId := sid
          exchange := some exchange
          state := .pairing
          pairingHello := text } text := by
  have keyed := PairingExchange.create_keyed session.self_ session.role sid code usable
  rw [initiator] at keyed
  unfold PeerSession.beginPairing at returns ⊢
  dsimp only at returns ⊢
  rw [initiator] at returns ⊢
  cases dumped : library.dump (pair1Json sodium sid session.self_.public_
      (PairingExchange.create sodium session.self_ .initiator sid code scalar).ourShare) with
  | none =>
      rw [dumped] at returns
      cases returns
  | some text => exact ⟨_, text, keyed, rfl, rfl, dumped, rfl⟩

end

end SmartMic.Session
