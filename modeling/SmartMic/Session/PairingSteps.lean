import SmartMic.Session.PeerSession

set_option autoImplicit false

/-! What a pairing datagram can do to a session: complete the exchange that the
session holds, or leave its keys, its channel and its replay windows alone. -/

namespace SmartMic.Session

open SmartMic.Protocol SmartMic.Security SmartMic.Media

section

variable (sodium : Sodium) (library : JsonLibrary)

/-- The exchange that a message completes: it is the last one of the handshake for
this role, and its signature verifies. -/
def PeerSession.completedBy (session : PeerSession) (type : Bytes) (fields : JsonFields) :
    Option PairingExchange :=
  if (type = ascii "PAIR3" ∧ session.role = .responder) ∨
      (type = ascii "PAIR4" ∧ session.role = .initiator) then
    match session.exchange, fromB64 sodium fields "sig" kSignatureBytes with
    | some exchange, some signature =>
        if exchange.verifyPeerAuth sodium signature = .none then some exchange else none
    | _, _ => none
  else none

def PeerSession.completes (session : PeerSession) (text : Bytes) : Option PairingExchange :=
  match readPairing library text with
  | .message type fields => session.completedBy sodium type fields
  | _ => none

end

/-- Everything that the sealed traffic of a session depends on is the same. -/
structure PeerSession.SameKeying (before after : PeerSession) : Prop where
  role : after.role = before.role
  channel : after.channel = before.channel
  sessionKey : after.sessionKey = before.sessionKey
  controlReplay : after.controlReplay = before.controlReplay
  state : after.state = .authenticated → before.state = .authenticated

theorem PeerSession.SameKeying.refl (session : PeerSession) : session.SameKeying session :=
  { role := rfl, channel := rfl, sessionKey := rfl, controlReplay := rfl, state := id }

/-- What a pairing message leaves alone when it completes nothing: it may hold another
exchange or peer key, fail the session and charge an attempt. -/
structure PeerSession.Touched (before after : PeerSession) : Prop where
  self_ : after.self_ = before.self_
  role : after.role = before.role
  pairingSessionId : after.pairingSessionId = before.pairingSessionId
  pairingHello : after.pairingHello = before.pairingHello
  pendingCode : after.pendingCode = before.pendingCode
  channel : after.channel = before.channel
  sessionKey : after.sessionKey = before.sessionKey
  seq : after.seq = before.seq
  controlReplay : after.controlReplay = before.controlReplay
  state : after.state = before.state ∨ after.state = .failed
  book : after.book = before.book ∨
    after.book = before.book.map fun book => book.noteFailedAttempt before.pairingSessionId

theorem PeerSession.Touched.sameKeying {before after : PeerSession}
    (touched : before.Touched after) : before.SameKeying after :=
  { role := touched.role
    channel := touched.channel
    sessionKey := touched.sessionKey
    controlReplay := touched.controlReplay
    state := by
      intro authenticated
      rcases touched.state with same | failed
      · rw [← same]
        exact authenticated
      · rw [failed] at authenticated
        cases authenticated }

theorem PeerSession.Touched.touch (session : PeerSession) (exchange : Option PairingExchange)
    (peerPublic : PublicKey) (havePeerPublic : Bool) (rejected pairingFailures : Nat) :
    session.Touched { session with
      exchange := exchange
      peerPublic := peerPublic
      havePeerPublic := havePeerPublic
      rejected := rejected
      pairingFailures := pairingFailures } :=
  { self_ := rfl, role := rfl, pairingSessionId := rfl, pairingHello := rfl, pendingCode := rfl
    channel := rfl, sessionKey := rfl, seq := rfl, controlReplay := rfl
    state := Or.inl rfl
    book := Or.inl rfl }

theorem PeerSession.Touched.charge (session : PeerSession) (exchange : Option PairingExchange) :
    session.Touched (PeerSession.chargeFailure { session with exchange := exchange }) :=
  { self_ := rfl, role := rfl, pairingSessionId := rfl, pairingHello := rfl, pendingCode := rfl
    channel := rfl, sessionKey := rfl, seq := rfl, controlReplay := rfl
    state := Or.inl rfl
    book := Or.inr rfl }

theorem PeerSession.Touched.fail {before session : PeerSession}
    (touched : before.Touched session) : before.Touched { session with state := .failed } :=
  { touched with state := Or.inr rfl }

theorem PeerSession.Touched.touchFail (session : PeerSession)
    (exchange : Option PairingExchange) (pairingFailures : Nat) :
    session.Touched { session with
      exchange := exchange
      pairingFailures := pairingFailures
      state := .failed } :=
  (PeerSession.Touched.touch session exchange session.peerPublic session.havePeerPublic
    session.rejected pairingFailures).fail

theorem PeerSession.Touched.refl (session : PeerSession) : session.Touched session :=
  PeerSession.Touched.touch session _ _ _ _ _

theorem PeerSession.sendPairingJson_session (library : JsonLibrary) (session : PeerSession)
    (message : Json) (next : Reaction) :
    (session.sendPairingJson library message next).session = session ∨
      (session.sendPairingJson library message next).session = next.session := by
  unfold PeerSession.sendPairingJson
  cases library.dump message with
  | none => exact Or.inl rfl
  | some text => exact Or.inr rfl

theorem PeerSession.sendPairingJson_delivered (library : JsonLibrary) (session : PeerSession)
    (message : Json) {next : Reaction} (silent : next.delivered = []) :
    (session.sendPairingJson library message next).delivered = [] := by
  unfold PeerSession.sendPairingJson
  cases library.dump message with
  | none => rfl
  | some text => exact silent

section

variable {sodium : Sodium} {library : JsonLibrary}

theorem PeerSession.Touched.send {before session : PeerSession} {message : Json}
    {next : Reaction} (thrown : before.Touched session) (sent : before.Touched next.session) :
    before.Touched (session.sendPairingJson library message next).session := by
  rcases session.sendPairingJson_session library message next with same | same
  · rw [same]
    exact thrown
  · rw [same]
    exact sent

theorem PeerSession.reject_touched (session : PeerSession) :
    session.Touched session.reject.session :=
  PeerSession.Touched.touch session _ _ _ _ _

theorem PeerSession.startExchange_touched (session : PeerSession) (scalar : Scalar)
    (pub : PublicKey) (share : GroupElement) :
    session.Touched (session.startExchange sodium library scalar pub share).session := by
  unfold PeerSession.startExchange
  dsimp only
  split
  · exact PeerSession.Touched.send (PeerSession.Touched.touch session _ _ _ _ _)
      (PeerSession.Touched.touch session _ _ _ _ _)
  · rename_i _error exchange _refused _outcome
    have charged := PeerSession.Touched.charge session (some exchange)
    exact charged.send charged.fail

theorem PeerSession.onPair1_touched (session : PeerSession) (moment : Moment)
    (fields : JsonFields) :
    session.Touched (session.onPair1 sodium library moment fields).session := by
  have refl := PeerSession.Touched.refl session
  unfold PeerSession.onPair1
  split
  · exact refl
  · split
    · exact session.reject_touched
    · split
      · exact refl.send refl.fail
      · split
        · split
          · split
            · exact refl.send refl
            · exact session.startExchange_touched _ _ _
          · exact session.startExchange_touched _ _ _
        · exact session.reject_touched

theorem PeerSession.onPair2_touched (session : PeerSession) (fields : JsonFields) :
    session.Touched (session.onPair2 sodium library fields).session := by
  unfold PeerSession.onPair2
  split
  · exact session.reject_touched
  · split
    · split
      · exact PeerSession.Touched.send (PeerSession.Touched.touch session _ _ _ _ _)
          (PeerSession.Touched.touch session _ _ _ _ _)
      · exact PeerSession.Touched.touchFail session _ _
    · exact session.reject_touched

theorem PeerSession.onPairErr_touched (session : PeerSession) (fields : JsonFields) :
    session.Touched (session.onPairErr fields).session := by
  unfold PeerSession.onPairErr
  dsimp only
  split
  · exact PeerSession.Touched.touch session _ _ _ _ _
  · exact PeerSession.Touched.touchFail session _ _

/-! ### What PAIR3 and PAIR4 share -/

/-- Without an exchange and a signature the message is refused, and otherwise the signature
decides. -/
def PeerSession.onSignature (sodium : Sodium) (session : PeerSession) (fields : JsonFields)
    (right : PairingExchange → Reaction) (wrong : Reaction) : Reaction :=
  match session.exchange with
  | none => session.reject
  | some exchange =>
      match fromB64 sodium fields "sig" kSignatureBytes with
      | none => session.reject
      | some signature =>
          match exchange.verifyPeerAuth sodium signature with
          | .none => right exchange
          | _ => wrong

theorem PeerSession.onPair3_eq_onSignature (session : PeerSession) (fields : JsonFields) :
    session.onPair3 sodium library fields =
      session.onSignature sodium fields
        (fun exchange =>
          session.sendPairingJson library (pair4Json sodium (exchange.authSignature sodium))
            (.quiet (session.establish sodium exchange)))
        (session.chargeFailure.sendPairingJson library (pairErrJson "auth failed")
          (.quiet { session.chargeFailure with state := .failed })) := rfl

theorem PeerSession.onPair4_eq_onSignature (session : PeerSession) (fields : JsonFields) :
    session.onPair4 sodium fields =
      session.onSignature sodium fields
        (fun exchange => .quiet (session.establish sodium exchange))
        (.quiet { session with
          pairingFailures := session.pairingFailures + 1
          state := .failed }) := rfl

section

variable {session : PeerSession} {fields : JsonFields} {exchange : PairingExchange}
  {signature : Signature}

theorem PeerSession.onSignature_right (held : session.exchange = some exchange)
    (sig : fromB64 sodium fields "sig" kSignatureBytes = some signature)
    (verified : exchange.verifyPeerAuth sodium signature = .none)
    (right : PairingExchange → Reaction) (wrong : Reaction) :
    session.onSignature sodium fields right wrong = right exchange := by
  unfold onSignature
  rw [held, sig]
  dsimp only
  rw [verified]

theorem PeerSession.onSignature_wrong (held : session.exchange = some exchange)
    (sig : fromB64 sodium fields "sig" kSignatureBytes = some signature)
    (unverified : exchange.verifyPeerAuth sodium signature ≠ .none)
    (right : PairingExchange → Reaction) (wrong : Reaction) :
    session.onSignature sodium fields right wrong = wrong := by
  unfold onSignature
  rw [held, sig]
  dsimp only
  split
  · rename_i verified
    exact absurd verified unverified
  · rfl

theorem PeerSession.onSignature_without
    (nothing : ∀ exchange signature, session.exchange = some exchange →
      fromB64 sodium fields "sig" kSignatureBytes ≠ some signature)
    (right : PairingExchange → Reaction) (wrong : Reaction) :
    session.onSignature sodium fields right wrong = session.reject := by
  unfold onSignature
  cases held : session.exchange with
  | none => rfl
  | some exchange =>
      cases sig : fromB64 sodium fields "sig" kSignatureBytes with
      | none => rfl
      | some signature => exact absurd sig (nothing exchange signature held)

end

/-- The message completes the exchange, or it touches the session. -/
theorem PeerSession.onSignature_cases (session : PeerSession) (fields : JsonFields)
    (right : PairingExchange → Reaction) {wrong : Reaction}
    (touched : session.Touched wrong.session) :
    (∃ exchange signature, session.exchange = some exchange ∧
      fromB64 sodium fields "sig" kSignatureBytes = some signature ∧
      exchange.verifyPeerAuth sodium signature = .none ∧
      session.onSignature sodium fields right wrong = right exchange) ∨
    ((∀ exchange signature, session.exchange = some exchange →
        fromB64 sodium fields "sig" kSignatureBytes = some signature →
        exchange.verifyPeerAuth sodium signature ≠ .none) ∧
      session.Touched (session.onSignature sodium fields right wrong).session) := by
  by_cases given : ∃ exchange signature, session.exchange = some exchange ∧
      fromB64 sodium fields "sig" kSignatureBytes = some signature
  · obtain ⟨exchange, signature, held, sig⟩ := given
    by_cases verdict : exchange.verifyPeerAuth sodium signature = .none
    · exact Or.inl ⟨exchange, signature, held, sig, verdict,
        PeerSession.onSignature_right held sig verdict right wrong⟩
    · right
      constructor
      · intro exchange' signature' held' sig'
        cases held.symm.trans held'
        cases sig.symm.trans sig'
        exact verdict
      · rw [PeerSession.onSignature_wrong held sig verdict]
        exact touched
  · right
    have nothing : ∀ exchange signature, session.exchange = some exchange →
        fromB64 sodium fields "sig" kSignatureBytes ≠ some signature :=
      fun exchange signature held sig => given ⟨exchange, signature, held, sig⟩
    refine ⟨fun exchange signature held sig => absurd sig (nothing exchange signature held), ?_⟩
    rw [PeerSession.onSignature_without nothing]
    exact session.reject_touched

theorem PeerSession.onPair3_cases (session : PeerSession) (fields : JsonFields) :
    (∃ exchange signature, session.exchange = some exchange ∧
      fromB64 sodium fields "sig" kSignatureBytes = some signature ∧
      exchange.verifyPeerAuth sodium signature = .none ∧
      session.onPair3 sodium library fields =
        session.sendPairingJson library (pair4Json sodium (exchange.authSignature sodium))
          (.quiet (session.establish sodium exchange))) ∨
    ((∀ exchange signature, session.exchange = some exchange →
        fromB64 sodium fields "sig" kSignatureBytes = some signature →
        exchange.verifyPeerAuth sodium signature ≠ .none) ∧
      session.Touched (session.onPair3 sodium library fields).session) := by
  rw [PeerSession.onPair3_eq_onSignature]
  apply PeerSession.onSignature_cases
  have charged := PeerSession.Touched.charge session session.exchange
  exact charged.send charged.fail

theorem PeerSession.onPair4_cases (session : PeerSession) (fields : JsonFields) :
    (∃ exchange signature, session.exchange = some exchange ∧
      fromB64 sodium fields "sig" kSignatureBytes = some signature ∧
      exchange.verifyPeerAuth sodium signature = .none ∧
      session.onPair4 sodium fields = .quiet (session.establish sodium exchange)) ∨
    ((∀ exchange signature, session.exchange = some exchange →
        fromB64 sodium fields "sig" kSignatureBytes = some signature →
        exchange.verifyPeerAuth sodium signature ≠ .none) ∧
      session.Touched (session.onPair4 sodium fields).session) := by
  rw [PeerSession.onPair4_eq_onSignature]
  exact PeerSession.onSignature_cases session fields _
    (PeerSession.Touched.touchFail session _ _)

theorem PeerSession.completedBy_of_final {session : PeerSession} {type : Bytes}
    {fields : JsonFields} (final : (type = ascii "PAIR3" ∧ session.role = .responder) ∨
      (type = ascii "PAIR4" ∧ session.role = .initiator))
    {exchange : PairingExchange} {signature : Signature} (held : session.exchange = some exchange)
    (sig : fromB64 sodium fields "sig" kSignatureBytes = some signature)
    (verified : exchange.verifyPeerAuth sodium signature = .none) :
    session.completedBy sodium type fields = some exchange := by
  unfold PeerSession.completedBy
  rw [if_pos final, held, sig]
  exact if_pos verified

theorem PeerSession.completedBy_final {session : PeerSession} {type : Bytes}
    {fields : JsonFields} {exchange : PairingExchange}
    (completed : session.completedBy sodium type fields = some exchange) :
    ((type = ascii "PAIR3" ∧ session.role = .responder) ∨
      (type = ascii "PAIR4" ∧ session.role = .initiator)) ∧
    session.exchange = some exchange ∧
    ∃ signature, fromB64 sodium fields "sig" kSignatureBytes = some signature ∧
      exchange.verifyPeerAuth sodium signature = .none := by
  unfold PeerSession.completedBy at completed
  split at completed
  · rename_i final
    split at completed
    · rename_i held sig
      split at completed
      · rename_i verified
        cases completed
        exact ⟨final, held, _, sig, verified⟩
      · cases completed
    · cases completed
  · cases completed

/-! ### Messages by type -/

theorem PeerSession.onPairingMessage_pair1 {session : PeerSession}
    (role : session.role = .responder) (moment : Moment) (fields : JsonFields) :
    session.onPairingMessage sodium library moment (ascii "PAIR1") fields =
      session.onPair1 sodium library moment fields := by
  unfold PeerSession.onPairingMessage
  rw [if_pos ⟨rfl, role⟩]

theorem PeerSession.onPairingMessage_pair2 {session : PeerSession}
    (role : session.role = .initiator) (moment : Moment) (fields : JsonFields) :
    session.onPairingMessage sodium library moment (ascii "PAIR2") fields =
      session.onPair2 sodium library fields := by
  have unlike : ascii "PAIR2" ≠ ascii "PAIR1" := by decide
  unfold PeerSession.onPairingMessage
  rw [if_neg (fun both => unlike both.1), if_pos ⟨rfl, role⟩]

theorem PeerSession.onPairingMessage_pair3 {session : PeerSession}
    (role : session.role = .responder) (moment : Moment) (fields : JsonFields) :
    session.onPairingMessage sodium library moment (ascii "PAIR3") fields =
      session.onPair3 sodium library fields := by
  have unlike : ascii "PAIR3" ≠ ascii "PAIR1" ∧ ascii "PAIR3" ≠ ascii "PAIR2" := by decide
  unfold PeerSession.onPairingMessage
  rw [if_neg (fun both => unlike.1 both.1), if_neg (fun both => unlike.2 both.1),
    if_pos ⟨rfl, role⟩]

theorem PeerSession.onPairingMessage_pair4 {session : PeerSession}
    (role : session.role = .initiator) (moment : Moment) (fields : JsonFields) :
    session.onPairingMessage sodium library moment (ascii "PAIR4") fields =
      session.onPair4 sodium fields := by
  have unlike : ascii "PAIR4" ≠ ascii "PAIR1" ∧ ascii "PAIR4" ≠ ascii "PAIR2" ∧
      ascii "PAIR4" ≠ ascii "PAIR3" := by decide
  unfold PeerSession.onPairingMessage
  rw [if_neg (fun both => unlike.1 both.1), if_neg (fun both => unlike.2.1 both.1),
    if_neg (fun both => unlike.2.2 both.1), if_pos ⟨rfl, role⟩]

/-- A pairing message completes the exchange it should and otherwise touches the session. -/
theorem PeerSession.onPairingMessage_cases (session : PeerSession) (moment : Moment)
    (type : Bytes) (fields : JsonFields) :
    (∃ exchange, session.completedBy sodium type fields = some exchange ∧
      ((session.onPairingMessage sodium library moment type fields).session = session ∨
        (session.onPairingMessage sodium library moment type fields).session =
          session.establish sodium exchange)) ∨
    (session.completedBy sodium type fields = none ∧
      session.Touched (session.onPairingMessage sodium library moment type fields).session) := by
  by_cases pair3 : type = ascii "PAIR3" ∧ session.role = .responder
  · have handled : session.onPairingMessage sodium library moment type fields =
        session.onPair3 sodium library fields := by
      rw [pair3.1, PeerSession.onPairingMessage_pair3 pair3.2]
    rw [handled]
    rcases session.onPair3_cases fields with
      ⟨exchange, signature, held, sig, verified, replied⟩ | ⟨unverified, same⟩
    · refine Or.inl
        ⟨exchange, PeerSession.completedBy_of_final (Or.inl pair3) held sig verified, ?_⟩
      rw [replied]
      exact session.sendPairingJson_session _ _ _
    · refine Or.inr ⟨?_, same⟩
      by_contra completed
      obtain ⟨exchange, completed⟩ := Option.ne_none_iff_exists'.mp completed
      obtain ⟨-, held, signature, sig, verified⟩ := PeerSession.completedBy_final completed
      exact unverified exchange signature held sig verified
  · by_cases pair4 : type = ascii "PAIR4" ∧ session.role = .initiator
    · have handled : session.onPairingMessage sodium library moment type fields =
          session.onPair4 sodium fields := by
        rw [pair4.1, PeerSession.onPairingMessage_pair4 pair4.2]
      rw [handled]
      rcases session.onPair4_cases fields with
        ⟨exchange, signature, held, sig, verified, replied⟩ | ⟨unverified, same⟩
      · refine Or.inl
          ⟨exchange, PeerSession.completedBy_of_final (Or.inr pair4) held sig verified, ?_⟩
        rw [replied]
        exact Or.inr rfl
      · refine Or.inr ⟨?_, same⟩
        by_contra completed
        obtain ⟨exchange, completed⟩ := Option.ne_none_iff_exists'.mp completed
        obtain ⟨-, held, signature, sig, verified⟩ := PeerSession.completedBy_final completed
        exact unverified exchange signature held sig verified
    · right
      constructor
      · unfold PeerSession.completedBy
        rw [if_neg (by rintro (final | final); exacts [pair3 final, pair4 final])]
      · unfold PeerSession.onPairingMessage
        rw [if_neg pair3, if_neg pair4]
        split
        · exact session.onPair1_touched moment fields
        · split
          · exact session.onPair2_touched fields
          · split
            · exact session.onPairErr_touched fields
            · exact session.reject_touched

theorem PeerSession.handlePairing_cases (session : PeerSession) (moment : Moment)
    (text : Bytes) :
    (∃ exchange, session.completes sodium library text = some exchange ∧
      ((session.handlePairing sodium library moment text).session = session ∨
        (session.handlePairing sodium library moment text).session =
          session.establish sodium exchange)) ∨
    (session.completes sodium library text = none ∧
      session.Touched (session.handlePairing sodium library moment text).session) := by
  unfold PeerSession.handlePairing PeerSession.completes
  cases readPairing library text with
  | malformed => exact Or.inr ⟨rfl, session.reject_touched⟩
  | typeError => exact Or.inr ⟨rfl, PeerSession.Touched.refl session⟩
  | message type fields => exact session.onPairingMessage_cases moment type fields

end

end SmartMic.Session
