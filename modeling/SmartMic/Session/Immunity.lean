import SmartMic.Session.Ledger
import SmartMic.Session.PairingTexts
import SmartMic.Session.StandIn

set_option autoImplicit false

/-! Which unauthenticated datagrams move an authenticated session. Pairing messages are
handled in every state, so several of them do; the condition below is exact. -/

namespace SmartMic.Session

open SmartMic.Protocol SmartMic.Security SmartMic.Media

/-- The session without its rejection and failure counters. -/
def PeerSession.uncounted (session : PeerSession) : PeerSession :=
  { session with
    rejected := 0
    pairingFailures := 0
    channel := session.channel.uncounted }

/-- Only rejection and failure counters moved, later datagrams fare as before, and no
exception ends the receive thread. -/
structure PeerSession.Immune (sodium : Sodium) (library : JsonLibrary)
    (before : PeerSession) (handled : Reaction) : Prop where
  counters : handled.session.uncounted = before.uncounted
  acceptance : ∀ moment later,
    (handled.session.onDatagram sodium library moment later).delivered =
      (before.onDatagram sodium library moment later).delivered
  returns : handled.threw = false

/-- The held exchange is the answer to this peer. -/
def PeerSession.Answered (session : PeerSession) (pub : PublicKey) : Prop :=
  session.exchange.isSome = true ∧ session.havePeerPublic = true ∧ session.peerPublic = pub

/-- The exchange set this session up, and nothing was sent or received since. -/
structure PeerSession.JustEstablished (sodium : Sodium) (session : PeerSession)
    (exchange : PairingExchange) : Prop where
  sessionKey : session.sessionKey = exchange.sessionKey
  keys : (session.channel.init sodium exchange.sessionKey session.sendDirection).SameKeys
    session.channel
  counter : session.channel.counter = 0#64
  replay : session.channel.replay = ReplayWindow.fresh 1024
  controlReplay : session.controlReplay = ReplayWindow.fresh 512
  book : ∀ book, session.book = some book → book.consume session.pairingSessionId = book
  pendingCode : session.pendingCode = []

/-- A PAIR1 whose session id is no string, or for this session and either refused by the
book or no retry. -/
def PeerSession.UnsettledByPair1 (sodium : Sodium) (session : PeerSession) (nowMs : BitVec 64)
    (fields : JsonFields) : Prop :=
  JsonFields.value fields "sid" [] = .typeError ∨
  (JsonFields.value fields "sid" [] = .found session.pairingSessionId ∧
    (session.refusal session.pairingSessionId nowMs ≠ none ∨
      ∃ pub share, fromB64 sodium fields "pub" kPublicKeyBytes = some pub ∧
        fromB64 sodium fields "share" kGroupElementBytes = some share ∧ ¬ session.Answered pub))

def PeerSession.UnsettledByPair2 (sodium : Sodium) (session : PeerSession)
    (fields : JsonFields) : Prop :=
  session.exchange.isSome = true ∧
  ∃ pub share, fromB64 sodium fields "pub" kPublicKeyBytes = some pub ∧
    fromB64 sodium fields "share" kGroupElementBytes = some share

/-- A signature that is wrong, or right when the session has moved on. -/
def PeerSession.UnsettledBySignature (sodium : Sodium) (session : PeerSession)
    (fields : JsonFields) : Prop :=
  ∃ exchange signature, session.exchange = some exchange ∧
    fromB64 sodium fields "sig" kSignatureBytes = some signature ∧
    (exchange.verifyPeerAuth sodium signature = .none → ¬ session.JustEstablished sodium exchange)

def PeerSession.UnsettledByMessage (sodium : Sodium) (session : PeerSession) (nowMs : BitVec 64)
    (type : Bytes) (fields : JsonFields) : Prop :=
  if type = ascii "PAIR1" ∧ session.role = .responder then
    session.UnsettledByPair1 sodium nowMs fields
  else if type = ascii "PAIR2" ∧ session.role = .initiator then
    session.UnsettledByPair2 sodium fields
  else if (type = ascii "PAIR3" ∧ session.role = .responder) ∨
      (type = ascii "PAIR4" ∧ session.role = .initiator) then
    session.UnsettledBySignature sodium fields
  else type = ascii "PAIRERR"

def PeerSession.UnsettledBy (sodium : Sodium) (library : JsonLibrary) (session : PeerSession)
    (nowMs : BitVec 64) (datagram : Bytes) : Prop :=
  match datagram with
  | [] => False
  | tag :: body =>
      if tag = tagPairing then
        readPairing library body = .typeError ∨
        ∃ type fields, readPairing library body = .message type fields ∧
          session.UnsettledByMessage sodium nowMs type fields
      else (session.channel.open_ sodium body).1.isSome = true

section

variable {sodium : Sodium} {library : JsonLibrary}

/-! ### Later datagrams -/

theorem PeerSession.dispatch_delivered {first second : PeerSession}
    (same : first.controlReplay = second.controlReplay) (tag : UInt8) (plain : Bytes) :
    (first.dispatch library tag plain).delivered =
      (second.dispatch library tag plain).delivered := by
  unfold PeerSession.dispatch
  by_cases media : tag = tagMedia
  · rw [if_pos media, if_pos media]
  · rw [if_neg media, if_neg media]
    by_cases control : tag = tagControl
    · rw [if_pos control, if_pos control, same]
      cases decode library plain with
      | error _ => rfl
      | ok message =>
          dsimp only
          split <;> rfl
    · rw [if_neg control, if_neg control]
      rfl

theorem PeerSession.open_uncounted (session : PeerSession) (packet : Bytes) :
    (session.uncounted.channel.open_ sodium packet).1 =
      (session.channel.open_ sodium packet).1 := by
  have authentic : session.uncounted.channel.authentic sodium packet =
      session.channel.authentic sodium packet := rfl
  unfold SecureChannel.open_
  rw [authentic]
  change (if session.channel.initialised = false then _ else _ : Option Bytes × SecureChannel).1 = _
  split
  · rfl
  · split
    · rfl
    · cases session.channel.authentic sodium packet with
      | none => rfl
      | some plain =>
          have replay : session.uncounted.channel.replay = session.channel.replay := rfl
          dsimp only
          rw [replay]
          rcases session.channel.replay.accept (packetCounter packet) with ⟨accepted, replay⟩
          cases accepted <;> rfl

theorem PeerSession.onDatagram_uncounted (session : PeerSession) (moment : Moment)
    (datagram : Bytes) :
    (session.uncounted.onDatagram sodium library moment datagram).delivered =
      (session.onDatagram sodium library moment datagram).delivered := by
  cases datagram with
  | nil => rfl
  | cons tag body =>
      unfold PeerSession.onDatagram
      dsimp only
      by_cases pairing : tag = tagPairing
      · rw [if_pos pairing, if_pos pairing, PeerSession.handlePairing_delivered,
          PeerSession.handlePairing_delivered]
      · rw [if_neg pairing, if_neg pairing]
        change (if session.state ≠ .authenticated then _ else _ : Reaction).delivered = _
        by_cases idle : session.state ≠ .authenticated
        · rw [if_pos idle, if_pos idle]
          rfl
        · rw [if_neg idle, if_neg idle]
          have same := @PeerSession.open_uncounted sodium session body
          rcases opened : session.uncounted.channel.open_ sodium body with ⟨plain, channel⟩
          rcases opened' : session.channel.open_ sodium body with ⟨plain', channel'⟩
          rw [opened, opened'] at same
          dsimp only at same
          subst same
          cases plain with
          | none => rfl
          | some plain =>
              dsimp only
              apply PeerSession.dispatch_delivered
              rfl

/-- Nothing but counters moved, and the call returned. -/
def Reaction.Harmless (handled : Reaction) (session : PeerSession) : Prop :=
  handled.session.uncounted = session.uncounted ∧ handled.threw = false

/-- Later datagrams fare as before by themselves. -/
theorem PeerSession.immune_iff {before : PeerSession} {handled : Reaction} :
    before.Immune sodium library handled ↔ handled.Harmless before := by
  constructor
  · intro immune
    exact ⟨immune.counters, immune.returns⟩
  · rintro ⟨counters, returns⟩
    refine { counters := counters, acceptance := fun moment later => ?_, returns := returns }
    rw [← handled.session.onDatagram_uncounted, counters, before.onDatagram_uncounted]

theorem PeerSession.reject_harmless (session : PeerSession) : session.reject.Harmless session :=
  ⟨rfl, rfl⟩

theorem Reaction.harmful_of_moved {handled : Reaction} {session : PeerSession}
    (moved : handled.session.uncounted ≠ session.uncounted) : ¬ handled.Harmless session :=
  fun harmless => moved harmless.1

/-! ### Pairing messages -/

theorem PairingExchange.onPeer_derived {exchange derived : PairingExchange} {pub : PublicKey}
    {share : GroupElement} (peered : exchange.onPeer sodium pub share = (.none, derived)) :
    exchange.derived = false ∧ derived.derived = true := by
  unfold PairingExchange.onPeer at peered
  split at peered
  · cases peered
  · rename_i fresh
    refine ⟨by simpa using fresh, ?_⟩
    split at peered
    · cases peered
    · split at peered
      · cases peered
      · dsimp only at peered
        split at peered
        · cases peered
        · cases peered
          rfl

theorem PeerSession.sendPairingJson_sent {message : Json} {text : Bytes}
    (dumped : library.dump message = some text) (session : PeerSession) (next : Reaction) :
    (session.sendPairingJson library message next).session = next.session := by
  unfold PeerSession.sendPairingJson
  rw [dumped]

theorem PeerSession.failed_moved {before after : PeerSession}
    (authenticated : before.state = .authenticated) (failed : after.state = .failed) :
    after.uncounted ≠ before.uncounted := by
  intro same
  have state : after.uncounted.state = before.uncounted.state := congrArg PeerSession.state same
  change after.state = before.state at state
  rw [failed, authenticated] at state
  exact SessionState.noConfusion state

theorem PeerSession.pairErr_moved (documented : library.Documented)
    {before session next : PeerSession}
    (authenticated : before.state = .authenticated) {reason : String}
    (plain : Unescaped (ascii reason)) (failed : next.state = .failed) :
    (session.sendPairingJson library (pairErrJson reason) (.quiet next)).session.uncounted ≠
      before.uncounted := by
  obtain ⟨text, dumped⟩ := pairErrJson_dumps documented plain
  rw [PeerSession.sendPairingJson_sent dumped]
  exact PeerSession.failed_moved authenticated failed

theorem PeerSession.startExchange_moved (documented : library.Documented) {session : PeerSession}
    (authenticated : session.state = .authenticated) (scalar : Scalar) {pub : PublicKey}
    (share : GroupElement) (unanswered : ¬ session.Answered pub) :
    (session.startExchange sodium library scalar pub share).session.uncounted ≠
      session.uncounted := by
  unfold PeerSession.startExchange
  dsimp only
  split
  · rename_i exchange _derived
    have kept := PeerSession.sendPairingJson_session library
      { session with exchange := some exchange, peerPublic := pub, havePeerPublic := true }
      (pair2Json sodium session.self_.public_ exchange.ourShare)
      (.quiet { session with
        exchange := some exchange, peerPublic := pub, havePeerPublic := true })
    have reached := kept.elim id id
    intro same
    rw [reached] at same
    apply unanswered
    have held : some exchange = session.exchange := congrArg PeerSession.exchange same
    have have_ : true = session.havePeerPublic := congrArg PeerSession.havePeerPublic same
    have public_ : pub = session.peerPublic := congrArg PeerSession.peerPublic same
    exact ⟨by rw [← held]; rfl, have_.symm, public_.symm⟩
  · exact PeerSession.pairErr_moved documented authenticated (by decide +kernel) rfl

theorem PeerSession.onPair1_immune_iff (documented : library.Documented)
    (base64 : sodium.Base64) {session : PeerSession}
    (authenticated : session.state = .authenticated) (moment : Moment) (fields : JsonFields) :
    (session.onPair1 sodium library moment fields).Harmless session ↔
      ¬ session.UnsettledByPair1 sodium moment.nowMs fields := by
  unfold PeerSession.onPair1 PeerSession.UnsettledByPair1
  cases JsonFields.value fields "sid" [] with
  | typeError =>
      exact iff_of_false (fun harmless => Bool.noConfusion harmless.2) (not_not.mpr (Or.inl rfl))
  | found sid =>
      rw [or_iff_right StringValue.noConfusion]
      dsimp only
      by_cases other : sid ≠ session.pairingSessionId
      · rw [if_pos other]
        refine iff_of_true session.reject_harmless (fun unsettled => other ?_)
        exact StringValue.found.inj unsettled.1
      · rw [if_neg other]
        have same : sid = session.pairingSessionId := not_not.mp other
        rw [same]
        cases session.refusal session.pairingSessionId moment.nowMs with
        | some status =>
            dsimp only
            refine iff_of_false (Reaction.harmful_of_moved ?_)
              (not_not.mpr ⟨rfl, Or.inl (Option.some_ne_none _)⟩)
            exact PeerSession.pairErr_moved documented authenticated
              (OfferStatus.toText_unescaped status) rfl
        | none =>
            dsimp only
            cases pubRead : fromB64 sodium fields "pub" kPublicKeyBytes with
            | none =>
                refine iff_of_true session.reject_harmless ?_
                rintro ⟨-, refused | ⟨_, _, found, _⟩⟩
                · exact refused rfl
                · cases found
            | some pub =>
                cases shareRead : fromB64 sodium fields "share" kGroupElementBytes with
                | none =>
                    refine iff_of_true session.reject_harmless ?_
                    rintro ⟨-, refused | ⟨_, _, _, found, _⟩⟩
                    · exact refused rfl
                    · cases found
                | some share =>
                    have unsettles : ∀ {reached : Reaction},
                        (session.Answered pub → reached.Harmless session) →
                        (¬ session.Answered pub →
                          reached.session.uncounted ≠ session.uncounted) →
                        (reached.Harmless session ↔
                          ¬ (StringValue.found session.pairingSessionId =
                              .found session.pairingSessionId ∧
                            ((none : Option OfferStatus) ≠ none ∨
                              ∃ pub' share', some pub = some pub' ∧ some share = some share' ∧
                                ¬ session.Answered pub'))) := by
                      intro reached kept moved
                      by_cases answered : session.Answered pub
                      · refine iff_of_true (kept answered) ?_
                        rintro ⟨-, refused | ⟨_, _, found, _, unanswered⟩⟩
                        · exact refused rfl
                        · cases found
                          exact unanswered answered
                      · exact iff_of_false (Reaction.harmful_of_moved (moved answered))
                          (not_not.mpr ⟨rfl, Or.inr ⟨pub, share, rfl, rfl, answered⟩⟩)
                    dsimp only
                    apply unsettles
                    · rintro ⟨held, have_, public_⟩
                      obtain ⟨exchange, held⟩ := Option.isSome_iff_exists.mp held
                      rw [held]
                      dsimp only
                      rw [if_pos ⟨have_, public_⟩]
                      have dumps := @pair2Json_dumps sodium library documented base64
                        session.self_.public_ exchange.ourShare
                      obtain ⟨text, dumped⟩ := id dumps
                      refine ⟨?_, PeerSession.sendPairingJson_returns dumps rfl⟩
                      rw [PeerSession.sendPairingJson_sent dumped]
                      rfl
                    · intro unanswered
                      have started : (session.startExchange sodium library moment.scalar pub
                          share).session.uncounted ≠ session.uncounted :=
                        PeerSession.startExchange_moved documented authenticated _ share unanswered
                      cases held : session.exchange with
                      | none => exact started
                      | some exchange =>
                          dsimp only
                          rw [if_neg]
                          · exact started
                          · rintro ⟨have_, public_⟩
                            exact unanswered ⟨by rw [held]; rfl, have_, public_⟩

theorem PeerSession.onPair2_immune_iff {session : PeerSession}
    (authenticated : session.state = .authenticated) (fields : JsonFields) :
    (session.onPair2 sodium library fields).Harmless session ↔
      ¬ session.UnsettledByPair2 sodium fields := by
  unfold PeerSession.onPair2 PeerSession.UnsettledByPair2
  cases held : session.exchange with
  | none =>
      exact iff_of_true session.reject_harmless (fun impossible => Bool.noConfusion impossible.1)
  | some exchange =>
      dsimp only
      cases pubRead : fromB64 sodium fields "pub" kPublicKeyBytes with
      | none =>
          refine iff_of_true session.reject_harmless ?_
          rintro ⟨-, _, _, found, _⟩
          cases found
      | some pub =>
          cases shareRead : fromB64 sodium fields "share" kGroupElementBytes with
          | none =>
              refine iff_of_true session.reject_harmless ?_
              rintro ⟨-, _, _, _, found⟩
              cases found
          | some share =>
              refine iff_of_false (Reaction.harmful_of_moved ?_)
                (not_not.mpr ⟨rfl, pub, share, rfl, rfl⟩)
              dsimp only
              split
              · rename_i derived peered
                have reached := (PeerSession.sendPairingJson_session library
                  { session with
                    exchange := some derived, peerPublic := pub, havePeerPublic := true }
                  (pair3Json sodium (derived.authSignature sodium))
                  (.quiet { session with
                    exchange := some derived, peerPublic := pub, havePeerPublic := true })).elim
                  id id
                intro same
                rw [reached] at same
                have unchanged : some derived = session.exchange :=
                  congrArg PeerSession.exchange same
                rw [held] at unchanged
                cases unchanged
                obtain ⟨before, after⟩ := PairingExchange.onPeer_derived peered
                rw [before] at after
                cases after
              · exact PeerSession.failed_moved authenticated rfl

theorem PeerSession.establish_immune_iff {session : PeerSession}
    (authenticated : session.state = .authenticated) (exchange : PairingExchange) :
    (session.establish sodium exchange).uncounted = session.uncounted ↔
      session.JustEstablished sodium exchange := by
  constructor
  · intro same
    have channel := congrArg PeerSession.channel same
    have book : session.book.map (fun book => book.consume session.pairingSessionId) =
        session.book := congrArg PeerSession.book same
    exact
      { sessionKey := (congrArg PeerSession.sessionKey same).symm
        keys :=
          { initialised := (congrArg SecureChannel.initialised channel).symm
            sendKey := (congrArg SecureChannel.sendKey channel).symm
            recvKey := (congrArg SecureChannel.recvKey channel).symm
            sendNoncePrefix := (congrArg SecureChannel.sendNoncePrefix channel).symm
            recvNoncePrefix := (congrArg SecureChannel.recvNoncePrefix channel).symm }
        counter := (congrArg SecureChannel.counter channel).symm
        replay := (congrArg SecureChannel.replay channel).symm
        controlReplay := (congrArg PeerSession.controlReplay same).symm
        book := by
          intro held given
          rw [given] at book
          exact Option.some.inj book
        pendingCode := (congrArg PeerSession.pendingCode same).symm }
  · intro just
    have channel := SecureChannel.init_of_fresh just.keys just.counter just.replay
    have book : session.book.map (fun book => book.consume session.pairingSessionId) =
        session.book := by
      cases held : session.book with
      | none => rfl
      | some book => exact congrArg some (just.book book held)
    have same : session.establish sodium exchange = session := by
      unfold PeerSession.establish
      rw [channel, book, ← just.sessionKey, ← just.controlReplay, ← just.pendingCode,
        ← authenticated]
    rw [same]

/-- The signature decides whether the session is established again; without one, or without
an exchange, nothing is. -/
theorem PeerSession.onSignature_immune_iff {session : PeerSession}
    (authenticated : session.state = .authenticated) {fields : JsonFields}
    {right : PairingExchange → Reaction} {wrong : Reaction}
    (establishes : ∀ exchange, (right exchange).session = session.establish sodium exchange)
    (returns : ∀ exchange, (right exchange).threw = false)
    (moves : wrong.session.uncounted ≠ session.uncounted) :
    (session.onSignature sodium fields right wrong).Harmless session ↔
      ¬ session.UnsettledBySignature sodium fields := by
  by_cases given : ∃ exchange signature, session.exchange = some exchange ∧
      fromB64 sodium fields "sig" kSignatureBytes = some signature
  · obtain ⟨exchange, signature, held, sigRead⟩ := given
    by_cases verified : exchange.verifyPeerAuth sodium signature = .none
    · rw [PeerSession.onSignature_right held sigRead verified]
      unfold Reaction.Harmless
      rw [and_iff_left (returns exchange), establishes,
        PeerSession.establish_immune_iff authenticated]
      constructor
      · rintro just ⟨exchange', signature', held', sigRead', moved⟩
        cases held.symm.trans held'
        cases sigRead.symm.trans sigRead'
        exact moved verified just
      · intro settled
        by_contra moved
        exact settled ⟨exchange, signature, held, sigRead, fun _verified => moved⟩
    · rw [PeerSession.onSignature_wrong held sigRead verified]
      apply iff_of_false (Reaction.harmful_of_moved moves)
      rw [not_not]
      exact ⟨exchange, signature, held, sigRead, fun other => absurd other verified⟩
  · apply iff_of_true
    · rw [PeerSession.onSignature_without
        (fun exchange signature held sigRead => given ⟨exchange, signature, held, sigRead⟩)]
      exact session.reject_harmless
    · rintro ⟨exchange, signature, held, sigRead, -⟩
      exact given ⟨exchange, signature, held, sigRead⟩

theorem PeerSession.onPair3_immune_iff (documented : library.Documented)
    (base64 : sodium.Base64) {session : PeerSession}
    (authenticated : session.state = .authenticated) (fields : JsonFields) :
    (session.onPair3 sodium library fields).Harmless session ↔
      ¬ session.UnsettledBySignature sodium fields := by
  have dumps : ∀ exchange : PairingExchange,
      ∃ text, library.dump (pair4Json sodium (exchange.authSignature sodium)) = some text :=
    fun exchange => @PairingMessage.dumps sodium library documented base64
      (.pair4 (exchange.authSignature sodium)) trivial
  rw [PeerSession.onPair3_eq_onSignature]
  apply PeerSession.onSignature_immune_iff authenticated
  · intro exchange
    obtain ⟨text, dumped⟩ := dumps exchange
    rw [PeerSession.sendPairingJson_sent dumped]
    rfl
  · intro exchange
    exact PeerSession.sendPairingJson_returns (dumps exchange) rfl
  · exact PeerSession.pairErr_moved documented authenticated (by decide +kernel) rfl

theorem PeerSession.onPair4_immune_iff {session : PeerSession}
    (authenticated : session.state = .authenticated) (fields : JsonFields) :
    (session.onPair4 sodium fields).Harmless session ↔
      ¬ session.UnsettledBySignature sodium fields := by
  rw [PeerSession.onPair4_eq_onSignature]
  exact PeerSession.onSignature_immune_iff authenticated (fun _ => rfl) (fun _ => rfl)
    (PeerSession.failed_moved authenticated rfl)

/-- A PAIRERR fails the session, or its reason throws. -/
theorem PeerSession.onPairErr_harmful {session : PeerSession}
    (authenticated : session.state = .authenticated) (fields : JsonFields) :
    ¬ (session.onPairErr fields).Harmless session := by
  unfold PeerSession.onPairErr
  dsimp only
  cases JsonFields.value fields "reason" (ascii "?") with
  | typeError => exact fun harmless => Bool.noConfusion harmless.2
  | found reason => exact Reaction.harmful_of_moved (PeerSession.failed_moved authenticated rfl)

theorem PeerSession.onPairingMessage_immune_iff (documented : library.Documented)
    (base64 : sodium.Base64) {session : PeerSession}
    (authenticated : session.state = .authenticated) (moment : Moment) (type : Bytes)
    (fields : JsonFields) :
    (session.onPairingMessage sodium library moment type fields).Harmless session ↔
      ¬ session.UnsettledByMessage sodium moment.nowMs type fields := by
  unfold PeerSession.onPairingMessage PeerSession.UnsettledByMessage
  by_cases pair1 : type = ascii "PAIR1" ∧ session.role = .responder
  · rw [if_pos pair1, if_pos pair1]
    exact PeerSession.onPair1_immune_iff documented base64 authenticated moment fields
  rw [if_neg pair1, if_neg pair1]
  by_cases pair2 : type = ascii "PAIR2" ∧ session.role = .initiator
  · rw [if_pos pair2, if_pos pair2]
    exact PeerSession.onPair2_immune_iff authenticated fields
  rw [if_neg pair2, if_neg pair2]
  by_cases pair3 : type = ascii "PAIR3" ∧ session.role = .responder
  · rw [if_pos pair3, if_pos (Or.inl pair3)]
    exact PeerSession.onPair3_immune_iff documented base64 authenticated fields
  rw [if_neg pair3]
  by_cases pair4 : type = ascii "PAIR4" ∧ session.role = .initiator
  · rw [if_pos pair4, if_pos (Or.inr pair4)]
    exact PeerSession.onPair4_immune_iff authenticated fields
  rw [if_neg pair4, if_neg (not_or.mpr ⟨pair3, pair4⟩)]
  by_cases pairErr : type = ascii "PAIRERR"
  · rw [if_pos pairErr]
    exact iff_of_false (PeerSession.onPairErr_harmful authenticated fields) (not_not.mpr pairErr)
  · rw [if_neg pairErr]
    exact iff_of_true session.reject_harmless pairErr

/-! ### Datagrams -/

theorem PeerSession.onDatagram_immune_iff (documented : library.Documented)
    (base64 : sodium.Base64) {session : PeerSession}
    (authenticated : session.state = .authenticated) (moment : Moment) {datagram : Bytes}
    (unopened : ∀ tag body, datagram = tag :: body → tag = tagControl ∨ tag = tagMedia →
      (session.channel.open_ sodium body).1 = none) :
    (session.onDatagram sodium library moment datagram).Harmless session ↔
      ¬ session.UnsettledBy sodium library moment.nowMs datagram := by
  cases datagram with
  | nil => exact iff_of_true session.reject_harmless id
  | cons tag body =>
      unfold PeerSession.onDatagram PeerSession.UnsettledBy
      dsimp only
      by_cases pairing : tag = tagPairing
      · rw [if_pos pairing, if_pos pairing]
        unfold PeerSession.handlePairing
        cases readPairing library body with
        | malformed =>
            refine iff_of_true session.reject_harmless ?_
            rintro (impossible | ⟨_, _, impossible, -⟩)
            · cases impossible
            · cases impossible
        | typeError =>
            exact iff_of_false (fun harmless => Bool.noConfusion harmless.2)
              (not_not.mpr (Or.inl rfl))
        | message type fields =>
            dsimp only
            rw [PeerSession.onPairingMessage_immune_iff documented base64 authenticated]
            apply not_congr
            constructor
            · intro unsettled
              exact Or.inr ⟨type, fields, rfl, unsettled⟩
            · rintro (impossible | ⟨_, _, read, unsettled⟩)
              · cases impossible
              · cases read
                exact unsettled
      · rw [if_neg pairing, if_neg pairing, if_neg (not_not.mpr authenticated)]
        cases opened : (session.channel.open_ sodium body).1 with
        | none =>
            refine iff_of_true ?_ (fun impossible => Bool.noConfusion impossible)
            have kept := SecureChannel.open_refused opened
            rcases outcome : session.channel.open_ sodium body with ⟨plain, channel⟩
            rw [outcome] at opened kept
            dsimp only at opened kept
            subst opened
            dsimp only
            refine ⟨?_, rfl⟩
            unfold PeerSession.reject Reaction.quiet PeerSession.uncounted
            dsimp only
            rw [kept]
        | some plain =>
            refine iff_of_false (Reaction.harmful_of_moved ?_) (not_not.mpr rfl)
            have counted := SecureChannel.open_opened (Option.isSome_of_eq_some opened)
            have foreign : tag ≠ tagMedia ∧ tag ≠ tagControl := by
              constructor
              · intro media
                rw [unopened tag body rfl (Or.inr media)] at opened
                cases opened
              · intro control
                rw [unopened tag body rfl (Or.inl control)] at opened
                cases opened
            rcases outcome : session.channel.open_ sodium body with ⟨result, channel⟩
            rw [outcome] at opened counted
            dsimp only at opened counted
            subst opened
            dsimp only
            unfold PeerSession.dispatch
            rw [if_neg foreign.1, if_neg foreign.2]
            intro same
            have moved : channel.opened = session.channel.opened :=
              congrArg (fun session => session.channel.opened) same
            omega

end

/-- An authenticated session is immune to a datagram that does not open exactly when the
datagram does not unsettle it. -/
theorem authenticated_session_immune_iff (sodium : Sodium) (library : JsonLibrary)
    (documented : library.Documented) (base64 : sodium.Base64) (session : PeerSession)
    (authenticated : session.state = .authenticated) (moment : Moment) (datagram : Bytes)
    (unopened : ∀ tag body, datagram = tag :: body → tag = tagControl ∨ tag = tagMedia →
      (session.channel.open_ sodium body).1 = none) :
    session.Immune sodium library (session.onDatagram sodium library moment datagram) ↔
      ¬ session.UnsettledBy sodium library moment.nowMs datagram := by
  rw [PeerSession.immune_iff]
  exact PeerSession.onDatagram_immune_iff documented base64 authenticated moment unopened

def StandIn.pairErr : Bytes := tagPairing :: (StandIn.json.dump (pairErrJson "x")).getD []

theorem authenticated_session_immune_iff_pairErr :
    StandIn.deskPaired.session.Immune StandIn.sodium StandIn.json
        (StandIn.receive StandIn.deskPaired.session StandIn.pairErr) ↔
      ¬ StandIn.deskPaired.session.UnsettledBy StandIn.sodium StandIn.json
        StandIn.moment.nowMs StandIn.pairErr := by
  apply authenticated_session_immune_iff
  · exact StandIn.json_documented
  · exact StandIn.sodium_base64
  · decide +kernel
  · intro tag body same sealed_
    cases same
    exact absurd sealed_ (by decide)

/-- A forged PAIRERR ends a session that a full handshake authenticated. -/
theorem authenticated_session_not_immune :
    StandIn.deskPaired.session.state = .authenticated ∧
    ¬ StandIn.deskPaired.session.Immune StandIn.sodium StandIn.json
      (StandIn.receive StandIn.deskPaired.session StandIn.pairErr) := by
  have states : StandIn.deskPaired.session.state = .authenticated ∧
      (StandIn.receive StandIn.deskPaired.session StandIn.pairErr).session.state = .failed := by
    decide +kernel
  refine ⟨states.1, fun immune => ?_⟩
  exact PeerSession.failed_moved states.1 states.2 immune.counters

end SmartMic.Session
