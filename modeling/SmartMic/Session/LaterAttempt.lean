import SmartMic.Security.OfferBook
import SmartMic.Session.Agreement
import SmartMic.Session.Handshake

set_option autoImplicit false

/-! A later attempt to pair, after any earlier pairing traffic that left the offer valid.
The responder decides from the public key alone whether a PAIR1 is a retry, so an
attempt of a device that was answered before meets the exchange of that time. -/

namespace SmartMic.Session

open SmartMic.Protocol SmartMic.Security SmartMic.Media

/-- A datagram from anyone, with what the outside world supplies on its arrival. -/
structure TimedDatagram where
  moment : Moment
  bytes : Bytes

section

variable (sodium : Sodium) (library : JsonLibrary)

def PeerSession.hear (session : PeerSession) (arrival : TimedDatagram) : PeerSession :=
  (session.onDatagram sodium library arrival.moment arrival.bytes).session

def PeerSession.hearAll (session : PeerSession) (moment : Moment) (datagrams : List Bytes) :
    PeerSession × List Bytes :=
  datagrams.foldl
    (fun heard datagram =>
      let reaction := heard.1.onDatagram sodium library moment datagram
      (reaction.session, heard.2 ++ reaction.sent))
    (session, [])

/-- What the outside world supplies to the four steps of an attempt. -/
structure AttemptMoments where
  pair1 : Moment
  pair2 : Moment
  pair3 : Moment
  pair4 : Moment

def attemptBegun (device : DeviceIdentity) (sid code : Bytes) (scalar : Scalar) : Reaction :=
  (PeerSession.create device .initiator).beginPairing sodium library sid code scalar

def attemptAnswered (desk : PeerSession) (begun : Reaction) (moments : AttemptMoments) :
    (PeerSession × List Bytes) × (PeerSession × List Bytes) :=
  let answered := desk.hearAll sodium library moments.pair1 begun.sent
  (answered, begun.session.hearAll sodium library moments.pair2 answered.2)

def attemptClosed (answering derived : PeerSession) (moments : AttemptMoments)
    (proofs : List Bytes) : PeerSession × PeerSession :=
  let paired := answering.hearAll sodium library moments.pair3 proofs
  (paired.1, (derived.hearAll sodium library moments.pair4 paired.2).1)

def attempt (desk : PeerSession) (begun : Reaction) (moments : AttemptMoments) :
    PeerSession × PeerSession :=
  let (answered, derived) := attemptAnswered sodium library desk begun moments
  attemptClosed sodium library answered.1 derived.1 moments derived.2

end

/-- Both sessions are authenticated under one key. -/
def Paired (ends : PeerSession × PeerSession) : Prop :=
  ends.1.state = .authenticated ∧ ends.2.state = .authenticated ∧
    ends.1.sessionKey = ends.2.sessionKey

/-- The session takes a PAIR1 of this device for a retry, though its exchange is not
derived with the share that the PAIR1 brings. -/
def PeerSession.TakesForRetry (session : PeerSession) (pub : PublicKey) (share : GroupElement) :
    Prop :=
  session.Answered pub ∧
    ∀ exchange ∈ session.exchange, ¬ (exchange.derived = true ∧ exchange.peerShare = share)

/-! ### A responder under any traffic -/

/-- What every datagram keeps of a responder that was armed for a session id and a code:
its exchange is made with them, and it has the code as long as the offer may be used. -/
structure PeerSession.Primed (sodium : Sodium) (desk : DeviceIdentity) (sid code : Bytes)
    (session : PeerSession) : Prop where
  self_ : session.self_ = desk
  role : session.role = .responder
  pairingSessionId : session.pairingSessionId = sid
  aligned : session.Aligned
  keyed : ∀ exchange, session.exchange = some exchange →
    exchange.Keyed sodium desk .responder sid (generatorFor sodium sid code)
  offer : ∃ book, session.book = some book ∧ (session.pendingCode = code ∨ book.ClosedFor sid)

section

variable {sodium : Sodium} {library : JsonLibrary} {session : PeerSession}
  {desk : DeviceIdentity} {sid code : Bytes}

theorem PeerSession.primed_armed {base : PeerSession} (responder : base.role = .responder)
    (sid code : Bytes) (book : PairingOfferBook) :
    (base.armPairing sid code (some book)).Primed sodium base.self_ sid code :=
  { self_ := rfl
    role := responder
    pairingSessionId := rfl
    aligned := fun _exchange impossible => by cases impossible
    keyed := fun _exchange impossible => by cases impossible
    offer := ⟨book, rfl, Or.inl rfl⟩ }

theorem PeerSession.Primed.open_ (primed : session.Primed sodium desk sid code)
    {nowMs : BitVec 64} (open_ : session.refusal sid nowMs = none) :
    session.pendingCode = code := by
  obtain ⟨book, same, offer⟩ := primed.offer
  unfold PeerSession.refusal at open_
  rw [same] at open_
  dsimp only at open_
  split at open_
  · rename_i valid
    exact offer.resolve_right (PairingOfferBook.not_closedFor_of_valid valid)
  · cases open_

theorem PeerSession.Primed.hear (primed : session.Primed sodium desk sid code)
    {arrival : TimedDatagram} (usable : sodium.Usable arrival.moment.scalar) :
    (session.hear sodium library arrival).Primed sodium desk sid code := by
  have aligned : (session.hear sodium library arrival).Aligned :=
    primed.aligned.step (.datagram arrival.moment arrival.bytes)
  have keyed : ∀ exchange, (session.hear sodium library arrival).exchange = some exchange →
      exchange.Keyed sodium desk .responder sid (generatorFor sodium sid code) := by
    intro exchange held
    cases session.onDatagram_exchanges arrival.moment arrival.bytes with
    | keeps same peerPublic => exact primed.keyed exchange (same.symm.trans held)
    | hands handed pub share offers holds taken refused =>
        rcases offers with ⟨-, open_, fresh⟩ | ⟨initiator, -⟩
        · have created := PairingExchange.create_keyed session.self_ session.role
            session.pairingSessionId session.pendingCode usable
          rw [primed.pairingSessionId] at open_
          rw [← fresh, primed.self_, primed.role, primed.pairingSessionId, primed.open_ open_]
            at created
          cases holds.symm.trans held
          exact created.onPeer pub share
        · rw [primed.role] at initiator
          cases initiator
  obtain ⟨book, same, offer⟩ := primed.offer
  rcases session.onDatagram_cases sodium library arrival.moment arrival.bytes with
    ⟨text, exchange, -, -, unmoved | established⟩ | kept
  · have reached : session.hear sodium library arrival = session := unmoved
    rw [reached]
    exact primed
  · have reached : session.hear sodium library arrival = session.establish sodium exchange :=
      established
    rw [reached] at aligned keyed ⊢
    exact
      { self_ := primed.self_
        role := primed.role
        pairingSessionId := primed.pairingSessionId
        aligned := aligned
        keyed := keyed
        offer := by
          refine ⟨book.consume sid, ?_, Or.inr (book.closedFor_consume sid)⟩
          unfold PeerSession.establish
          rw [same, primed.pairingSessionId]
          rfl }
  · exact
      { self_ := kept.self_.trans primed.self_
        role := kept.role.trans primed.role
        pairingSessionId := kept.pairingSessionId.trans primed.pairingSessionId
        aligned := aligned
        keyed := keyed
        offer := by
          have code_ := kept.pendingCode
          rcases kept.book with unmoved | charged
          · refine ⟨book, unmoved.trans same, ?_⟩
            unfold PeerSession.hear
            rw [code_]
            exact offer
          · rw [same, primed.pairingSessionId] at charged
            refine ⟨book.noteFailedAttempt sid, charged, ?_⟩
            unfold PeerSession.hear
            rw [code_]
            exact offer.imp id (fun closed => closed.noteFailedAttempt sid) }

theorem PeerSession.primed_final {base : PeerSession} (responder : base.role = .responder)
    (sid code : Bytes) (book : PairingOfferBook) {traffic : List TimedDatagram}
    (drawn : ∀ arrival ∈ traffic, sodium.Usable arrival.moment.scalar) :
    (Run.final (PeerSession.hear sodium library) (base.armPairing sid code (some book))
      traffic).Primed sodium base.self_ sid code :=
  Run.invariant_final (PeerSession.Primed sodium base.self_ sid code)
    (fun _session _arrival primed usable => primed.hear usable) traffic _
    (PeerSession.primed_armed responder sid code book) (Run.meets_of_forall drawn _)

/-! ### The attempt -/

theorem PeerSession.hearAll_saying {moment : Moment} {datagram : Bytes} {next : PeerSession}
    {text : Bytes}
    (spoken : session.onDatagram sodium library moment datagram = .saying next text) :
    session.hearAll sodium library moment [datagram] = (next, [tagPairing :: text]) := by
  unfold PeerSession.hearAll
  rw [List.foldl_cons, List.foldl_nil]
  dsimp only
  rw [spoken]
  rfl

theorem PeerSession.hearAll_session (moment : Moment) (datagram : Bytes) :
    (session.hearAll sodium library moment [datagram]).1 =
      (session.onDatagram sodium library moment datagram).session := rfl

/-- The desk's answer to the PAIR1: either an exchange it has just made, or the one of an
earlier attempt of the same device. -/
theorem PeerSession.Primed.answers (documented : library.Documented) (base64 : sodium.Base64)
    (primed : session.Primed sodium desk sid code)
    (point : sodium.IsPoint (generatorFor sodium sid code)) {moment : Moment}
    (usable : sodium.Usable moment.scalar) (open_ : session.refusal sid moment.nowMs = none)
    {pub : PublicKey} {share : GroupElement} (sharePoint : sodium.IsPoint share) {text : Bytes}
    (dumped : library.dump (pair1Json sodium sid pub share) = some text) :
    ∃ answering exchange reply, answering.role = .responder ∧ answering.self_ = desk ∧
      answering.exchange = some exchange ∧
      exchange.Keyed sodium desk .responder sid (generatorFor sodium sid code) ∧
      library.dump (pair2Json sodium desk.public_ exchange.ourShare) = some reply ∧
      session.onDatagram sodium library moment (tagPairing :: text) = .saying answering reply ∧
      (session.Answered pub → answering = session) ∧
      (¬ session.Answered pub → exchange.derived = true ∧ exchange.peerPublic = pub ∧
        exchange.peerShare = share) := by
  rw [PeerSession.hears_pair1 documented primed.role dumped]
  have armed := primed.pairingSessionId
  subst armed
  rcases PeerSession.onPair1_open library base64 pub share open_ with
    ⟨exchange, held, answered, retries⟩ | ⟨unanswered, starts⟩
  · obtain ⟨reply, replied⟩ := pair2Json_dumps documented base64 session.self_.public_
      exchange.ourShare
    rw [PeerSession.sendPairingJson_saying replied] at retries
    rw [primed.self_] at replied
    exact ⟨session, exchange, reply, primed.role, primed.self_, held, primed.keyed exchange held,
      replied, retries, fun _ => rfl, fun impossible => absurd answered impossible⟩
  · obtain ⟨exchange, reply, keyed, derived, peerPublic, peerShare, replied, answers⟩ :=
      session.startExchange_answers documented base64 usable pub sharePoint
    rw [primed.self_, primed.role, primed.open_ open_] at keyed
    rw [primed.self_] at replied
    refine ⟨_, exchange, reply, ?_, ?_, rfl, keyed, replied, starts.trans answers,
      fun impossible => absurd impossible unanswered, fun _ => ⟨derived, peerPublic, peerShare⟩⟩
    · exact primed.role
    · exact primed.self_

/-- A device that the desk answered before and does not take for a retry is the one that its
exchange is derived with. -/
theorem PeerSession.Primed.derived_with (primed : session.Primed sodium desk sid code)
    {exchange : PairingExchange} (held : session.exchange = some exchange) {pub : PublicKey}
    {share : GroupElement} (answered : session.Answered pub)
    (notRetry : ¬ session.TakesForRetry pub share) :
    exchange.derived = true ∧ exchange.peerPublic = pub ∧ exchange.peerShare = share := by
  have derived : exchange.derived = true ∧ exchange.peerShare = share := by
    by_contra stale
    apply notRetry
    refine ⟨answered, ?_⟩
    intro other same
    cases held.symm.trans same
    exact stale
  exact ⟨derived.1, ((primed.aligned exchange held).2 derived.1).trans answered.2.2, derived.2⟩

theorem attemptBegun_opens {device : DeviceIdentity} {scalar : Scalar}
    (usable : sodium.Usable scalar)
    (returns : (attemptBegun sodium library device sid code scalar).threw = false) :
    ∃ fresh hello,
      (attemptBegun sodium library device sid code scalar).session.role = .initiator ∧
      (attemptBegun sodium library device sid code scalar).session.exchange = some fresh ∧
      (attemptBegun sodium library device sid code scalar).sent = [tagPairing :: hello] ∧
      fresh.Keyed sodium device .initiator sid (generatorFor sodium sid code) ∧
      fresh.derived = false ∧
      fresh.ourShare = shareFor sodium scalar (generatorFor sodium sid code) ∧
      library.dump (pair1Json sodium sid device.public_ fresh.ourShare) = some hello := by
  obtain ⟨fresh, hello, keyed, underived, share, opened, begins⟩ :=
    PeerSession.beginPairing_opens rfl usable returns
  unfold attemptBegun
  rw [begins]
  exact ⟨fresh, hello, rfl, rfl, rfl, keyed, underived, share, opened⟩

/-- PAIR1 and PAIR2 have passed: the phone has derived with the share that the desk
answered, and its signature is on the way. -/
structure Halfway (sodium : Sodium) (library : JsonLibrary) (desk device : DeviceIdentity)
    (sid : Bytes) (generator : GroupElement) (answering derived : PeerSession)
    (theirs ours : PairingExchange) (reply : Bytes) : Prop where
  responder : answering.role = .responder
  initiator : derived.role = .initiator
  deskHolds : answering.exchange = some theirs
  phoneHolds : derived.exchange = some ours
  deskKeyed : theirs.Keyed sodium desk .responder sid generator
  phoneKeyed : ours.Keyed sodium device .initiator sid generator
  phoneDerived : ours.derived = true
  peerPublic : ours.peerPublic = desk.public_
  peerShare : ours.peerShare = theirs.ourShare
  signed : library.dump (pair3Json sodium (ours.authSignature sodium)) = some reply

section Halfway

variable {device : DeviceIdentity} {generator : GroupElement} {answering derived : PeerSession}
  {theirs ours : PairingExchange} {reply : Bytes} {moments : AttemptMoments}

/-- A desk that derived with this very PAIR1 completes the attempt. -/
theorem Halfway.pairs
    (halfway : Halfway sodium library desk device sid generator answering derived theirs ours reply)
    (documented : library.Documented) (base64 : sodium.Base64) (commutes : sodium.Commutes)
    (point : sodium.IsPoint generator) (phonePaired : device.Paired sodium)
    (deskPaired : desk.Paired sodium) (deskDerived : theirs.derived = true)
    (peerPublic : theirs.peerPublic = device.public_)
    (peerShare : theirs.peerShare = ours.ourShare) :
    Paired (attemptClosed sodium library answering derived moments [tagPairing :: reply]) := by
  have facing : ours.Facing theirs :=
    { derived := ⟨halfway.phoneDerived, deskDerived⟩
      publics := by
        rw [halfway.deskKeyed.consistent.selfPublic, halfway.phoneKeyed.consistent.selfPublic]
        exact ⟨halfway.peerPublic, peerPublic⟩
      shares := ⟨halfway.peerShare, peerShare⟩ }
  obtain ⟨deskVerifies, phoneVerifies⟩ := facing.verify halfway.phoneKeyed halfway.deskKeyed
    point commutes phonePaired deskPaired
  obtain ⟨confirmation, confirmed, pairs⟩ :=
    PeerSession.onPair3_verified documented base64 halfway.deskHolds deskVerifies
  rw [← PeerSession.hears_pair3 moments.pair3 documented halfway.responder
    halfway.signed] at pairs
  have closes := PeerSession.onPair4_verified base64 halfway.phoneHolds phoneVerifies
  rw [← PeerSession.hears_pair4 moments.pair4 documented halfway.initiator
    confirmed] at closes
  unfold attemptClosed
  rw [PeerSession.hearAll_saying pairs]
  dsimp only
  rw [PeerSession.hearAll_session, closes]
  have keys := (facing.agree halfway.phoneKeyed halfway.deskKeyed point commutes).2
  exact ⟨rfl, rfl, keys.symm⟩

theorem Halfway.fails
    (halfway : Halfway sodium library desk device sid generator answering derived theirs ours reply)
    (documented : library.Documented) (base64 : sodium.Base64)
    (refused : theirs.verifyPeerAuth sodium (ours.authSignature sodium) ≠ .none) :
    ¬ Paired (attemptClosed sodium library answering derived moments [tagPairing :: reply]) := by
  have failed := PeerSession.onPair3_unverified documented base64
    halfway.deskHolds refused
  rw [← PeerSession.hears_pair3 moments.pair3 documented halfway.responder
    halfway.signed] at failed
  rintro ⟨authenticated, -⟩
  unfold attemptClosed at authenticated
  dsimp only at authenticated
  rw [PeerSession.hearAll_session, failed] at authenticated
  cases authenticated

end Halfway

/-- A responder that is armed for a session id and a code meets any traffic; while its
offer is still valid a fresh initiator with both attempts to pair, without loss or
interference. It succeeds exactly when the responder does not take it for a retry. -/
theorem later_attempt_pairs_iff (documented : library.Documented) (base64 : sodium.Base64)
    (commutes : sodium.Commutes) {base : PeerSession} (responder : base.role = .responder)
    (deskPaired : base.self_.Paired sodium) (sid code : Bytes) (book : PairingOfferBook)
    (point : sodium.IsPoint (generatorFor sodium sid code)) {traffic : List TimedDatagram}
    (drawn : ∀ arrival ∈ traffic, sodium.Usable arrival.moment.scalar) {reached : PeerSession}
    (reaches : Run.final (PeerSession.hear sodium library)
      (base.armPairing sid code (some book)) traffic = reached)
    {device : DeviceIdentity} (phonePaired : device.Paired sodium) {scalar : Scalar}
    (usable : sodium.Usable scalar) (moments : AttemptMoments)
    (answerUsable : sodium.Usable moments.pair1.scalar)
    (valid : reached.book.map (fun book => book.check sid moments.pair1.nowMs) = some .valid)
    (returns : (attemptBegun sodium library device sid code scalar).threw = false)
    (binds : ∀ ours theirs,
      (attemptAnswered sodium library reached
        (attemptBegun sodium library device sid code scalar) moments).2.1.exchange = some ours →
      reached.exchange = some theirs →
      device.Binds sodium ours.signedMessage theirs.signedMessage) :
    Paired (attempt sodium library reached
        (attemptBegun sodium library device sid code scalar) moments) ↔
      ¬ reached.TakesForRetry device.public_
        (shareFor sodium scalar (generatorFor sodium sid code)) := by
  have primed : reached.Primed sodium base.self_ sid code := by
    rw [← reaches]
    exact PeerSession.primed_final responder sid code book drawn
  have open_ : reached.refusal sid moments.pair1.nowMs = none := by
    obtain ⟨offered, same, valid⟩ := Option.map_eq_some_iff.mp valid
    unfold PeerSession.refusal
    rw [same]
    dsimp only
    rw [valid]
  obtain ⟨fresh, hello, phoneRole, phoneHolds, opener, keyed, underived, share, opened⟩ :=
    attemptBegun_opens usable returns
  obtain ⟨answering, theirs, answer, deskRole, deskSelf, deskHolds, deskKeyed, answered, answers,
      retried, renewed⟩ :=
    primed.answers documented base64 point answerUsable open_ (keyed.share_isPoint point) opened
  obtain ⟨ours, reply, oursKeyed, took, signed, derives⟩ :=
    PeerSession.takes_pair2 moments.pair2 documented base64 phoneRole phoneHolds keyed underived
      (deskKeyed.share_isPoint point) answered
  have passed : attemptAnswered sodium library reached
      (attemptBegun sodium library device sid code scalar) moments =
        ((answering, [tagPairing :: answer]),
          ({ (attemptBegun sodium library device sid code scalar).session with
            exchange := some ours
            peerPublic := base.self_.public_
            havePeerPublic := true }, [tagPairing :: reply])) := by
    unfold attemptAnswered
    rw [opener, PeerSession.hearAll_saying answers]
    dsimp only
    rw [PeerSession.hearAll_saying derives]
  unfold attempt
  rw [passed] at binds ⊢
  dsimp only at binds ⊢
  have halfway : Halfway sodium library base.self_ device sid (generatorFor sodium sid code)
      answering { (attemptBegun sodium library device sid code scalar).session with
        exchange := some ours
        peerPublic := base.self_.public_
        havePeerPublic := true } theirs ours reply :=
    { responder := deskRole
      initiator := phoneRole
      deskHolds := deskHolds
      phoneHolds := rfl
      deskKeyed := deskKeyed
      phoneKeyed := oursKeyed
      phoneDerived := took.derived
      peerPublic := took.peerPublic
      peerShare := took.peerShare
      signed := signed }
  have sameShare : ours.ourShare = shareFor sodium scalar (generatorFor sodium sid code) :=
    took.ourShare.trans share
  constructor
  · rintro pairs ⟨before, stale⟩
    have unmoved := retried before
    subst unmoved
    apply halfway.fails documented base64 _ pairs
    apply oursKeyed.refuses deskKeyed took.derived
    · intro derived
      exact ((primed.aligned theirs deskHolds).2 derived).trans before.2.2
    · exact binds ours theirs rfl deskHolds
    · rw [sameShare]
      exact stale theirs deskHolds
  · intro notRetry
    have current : theirs.derived = true ∧ theirs.peerPublic = device.public_ ∧
        theirs.peerShare = ours.ourShare := by
      by_cases before : reached.Answered device.public_
      · have unmoved := retried before
        subst unmoved
        obtain ⟨derived, peerPublic, peerShare⟩ := primed.derived_with deskHolds before notRetry
        exact ⟨derived, peerPublic, peerShare.trans sameShare.symm⟩
      · obtain ⟨derived, peerPublic, peerShare⟩ := renewed before
        exact ⟨derived, peerPublic, peerShare.trans took.ourShare.symm⟩
    exact halfway.pairs documented base64 commutes point phonePaired deskPaired current.1
      current.2.1 current.2.2

end

/-! ### Two concrete attempts -/

instance (ends : PeerSession × PeerSession) : Decidable (Paired ends) :=
  inferInstanceAs (Decidable (_ ∧ _ ∧ _))

namespace StandIn

open SmartMic.StandIn

def moments : AttemptMoments :=
  { pair1 := { nowMs := 2000#64, scalar := scalar 7 }
    pair2 := moment
    pair3 := moment
    pair4 := moment }

def wrongAttempt (device : DeviceIdentity) : List TimedDatagram :=
  let begun := attemptBegun sodium json device sessionId (ascii "000000") (scalar 3)
  let (_, derived) := attemptAnswered sodium json deskArmed begun
    { moments with pair1 := moment }
  [{ moment := moment, bytes := begun.sent.headD [] },
    { moment := moment, bytes := derived.2.headD [] }]

def deskTried (device : DeviceIdentity) : PeerSession :=
  Run.final (PeerSession.hear sodium json) deskArmed (wrongAttempt device)

end StandIn

section

open SmartMic.StandIn SmartMic.Session.StandIn

/-- After the wrong code of one device another device pairs. -/
theorem later_attempt_pairs_iff_other_device :
    Paired (attempt sodium json (deskTried (identity 3))
      (attemptBegun sodium json (identity 1) sessionId code (scalar 5)) moments) := by
  have drawn : ∀ arrival ∈ wrongAttempt (identity 3), sodium.Usable arrival.moment.scalar :=
    fun arrival _member => sodium_usable arrival.moment.scalar
  have reaches : Run.final (PeerSession.hear sodium json) deskArmed (wrongAttempt (identity 3)) =
      deskTried (identity 3) := rfl
  have unsigned : ∀ ours ∈ (attemptAnswered sodium json (deskTried (identity 3))
      (attemptBegun sodium json (identity 1) sessionId code (scalar 5)) moments).2.1.exchange,
      ∀ theirs ∈ (deskTried (identity 3)).exchange,
      DeviceIdentity.verify sodium (identity 1).public_ theirs.signedMessage
        ((identity 1).sign sodium ours.signedMessage) = false := by
    decide +kernel
  have binds : ∀ ours theirs, (attemptAnswered sodium json (deskTried (identity 3))
      (attemptBegun sodium json (identity 1) sessionId code (scalar 5)) moments).2.1.exchange =
        some ours → (deskTried (identity 3)).exchange = some theirs →
      (identity 1).Binds sodium ours.signedMessage theirs.signedMessage := by
    intro ours theirs derives held accepted
    rw [unsigned ours derives theirs held] at accepted
    cases accepted
  have unknown : (deskTried (identity 3)).peerPublic ≠ (identity 1).public_ := by
    decide +kernel
  exact (later_attempt_pairs_iff json_documented sodium_base64 sodium_commutes
    (rfl : desk.role = .responder) (identity_paired 2) sessionId code book (element_isPoint _)
    drawn reaches (identity_paired 1) (sodium_usable (scalar 5)) moments
    (sodium_usable (scalar 7)) (by decide +kernel) (by decide +kernel) binds).mpr
    (fun retry => unknown retry.1.2.2)

/-- After its own wrong code the device that tries again with the right one is taken for a
retry, and fails. -/
theorem later_attempt_of_same_device_fails :
    (deskTried (identity 1)).book.map
        (fun book => book.check sessionId moments.pair1.nowMs) = some .valid ∧
      ¬ Paired (attempt sodium json (deskTried (identity 1))
        (attemptBegun sodium json (identity 1) sessionId code (scalar 5)) moments) := by
  constructor
  · decide +kernel
  · decide +kernel

end

end SmartMic.Session
