import SmartMic.Session.Deliveries
import SmartMic.Session.PairingTexts
import SmartMic.Session.StandIn

set_option autoImplicit false

/-! Which datagrams a session handles totally: without an exception, and with nothing but
a count for a pairing text that is no message for its role. The guarded helper reads the
base64 fields; `t`, `sid` and `reason` are read by `value`, which throws on a field of
another type. -/

namespace SmartMic.Session

open SmartMic.Protocol SmartMic.Security SmartMic.Media

/-! ### Messages for a role -/

section

variable (sodium : Sodium) (library : JsonLibrary)

def JsonFields.hasString (fields : JsonFields) (key : String) : Bool :=
  match JsonFields.find fields key with
  | some (.string _) => true
  | _ => false

/-- `value` returns: the field is a string, or absent. -/
def JsonFields.readsString (fields : JsonFields) (key : String) : Bool :=
  match JsonFields.value fields key [] with
  | .found _ => true
  | .typeError => false

def bringsPeer (fields : JsonFields) : Bool :=
  (fromB64 sodium fields "pub" kPublicKeyBytes).isSome &&
    (fromB64 sodium fields "share" kGroupElementBytes).isSome

def bringsSignature (fields : JsonFields) : Bool :=
  (fromB64 sodium fields "sig" kSignatureBytes).isSome

/-- A message of a type the role handles, with every field it must have. -/
def isMessageFor (role : PairingRole) (type : Bytes) (fields : JsonFields) : Bool :=
  if type = ascii "PAIR1" ∧ role = .responder then
    JsonFields.hasString fields "sid" && bringsPeer sodium fields
  else if type = ascii "PAIR2" ∧ role = .initiator then bringsPeer sodium fields
  else if type = ascii "PAIR3" ∧ role = .responder then bringsSignature sodium fields
  else if type = ascii "PAIR4" ∧ role = .initiator then bringsSignature sodium fields
  else decide (type = ascii "PAIRERR") && JsonFields.readsString fields "reason"

/-- A pairing text that is a well-formed message for the role. -/
def isTextFor (role : PairingRole) (text : Bytes) : Bool :=
  match readPairing library text with
  | .message type fields => isMessageFor sodium role type fields
  | _ => false

/-- What the handling of one datagram should be. -/
structure PeerSession.HandlesTotally (session : PeerSession) (moment : Moment)
    (datagram : Bytes) : Prop where
  returns : (session.onDatagram sodium library moment datagram).threw = false
  malformed : ∀ text, datagram = tagPairing :: text →
    isTextFor sodium library session.role text = false →
    session.onDatagram sodium library moment datagram = session.reject

/-- The messages that the code mishandles: a `sid` or a `reason` of another type than
string, and a PAIR1 for this pairing with a field wanting that is answered all the same,
since the offer is looked at first, or since a missing `sid` reads as the empty one. -/
def PeerSession.mishandlesMessage (session : PeerSession) (moment : Moment) (type : Bytes)
    (fields : JsonFields) : Bool :=
  if type = ascii "PAIR1" ∧ session.role = .responder then
    match JsonFields.value fields "sid" [] with
    | .typeError => true
    | .found sid =>
        decide (sid = session.pairingSessionId) &&
          !(JsonFields.hasString fields "sid" && bringsPeer sodium fields) &&
          ((session.refusal sid moment.nowMs).isSome || bringsPeer sodium fields)
  else decide (type = ascii "PAIRERR") && !JsonFields.readsString fields "reason"

def PeerSession.mishandles (session : PeerSession) (moment : Moment) : Bytes → Bool
  | [] => false
  | tag :: text =>
      decide (tag = tagPairing) &&
        match readPairing library text with
        | .malformed => false
        | .typeError => true
        | .message type fields => session.mishandlesMessage sodium moment type fields

end

section

variable {sodium : Sodium} {library : JsonLibrary}

/-! ### Replies -/

/-- A reaction that is no rejection: it threw, or it sent something. -/
def Reaction.Speaks (reaction : Reaction) : Prop := reaction.threw = true ∨ reaction.sent ≠ []

theorem PeerSession.sendPairingJson_speaks (session : PeerSession) (message : Json)
    (next : Reaction) : (session.sendPairingJson library message next).Speaks := by
  unfold PeerSession.sendPairingJson
  cases library.dump message with
  | none => exact Or.inl rfl
  | some text => exact Or.inr (List.cons_ne_nil _ _)

theorem Reaction.Speaks.not_reject {reaction : Reaction} (speaks : reaction.Speaks)
    (session : PeerSession) : ¬ (reaction.threw = false ∧ reaction = session.reject) := by
  intro both
  rcases speaks with threw | sent
  · rw [both.1] at threw
    cases threw
  · apply sent
    rw [both.2]
    rfl

/-! ### Messages -/

theorem PeerSession.startExchange_speaks (session : PeerSession) (scalar : Scalar)
    (pub : PublicKey) (share : GroupElement) :
    (session.startExchange sodium library scalar pub share).Speaks := by
  unfold PeerSession.startExchange
  dsimp only
  split
  · exact PeerSession.sendPairingJson_speaks _ _ _
  · exact PeerSession.sendPairingJson_speaks _ _ _

theorem PeerSession.onPair1_admitted {session : PeerSession} {moment : Moment}
    {fields : JsonFields} (sid : JsonFields.value fields "sid" [] = .found session.pairingSessionId)
    (admitted : session.refusal session.pairingSessionId moment.nowMs = none) :
    (bringsPeer sodium fields = true →
      (session.onPair1 sodium library moment fields).Speaks) ∧
    (bringsPeer sodium fields = false →
      session.onPair1 sodium library moment fields = session.reject) ∧
    (library.Documented → sodium.Base64 →
      (session.onPair1 sodium library moment fields).threw = false) := by
  unfold PeerSession.onPair1 bringsPeer
  rw [sid]
  dsimp only
  rw [if_neg (not_not.mpr rfl), admitted]
  dsimp only
  cases pub : fromB64 sodium fields "pub" kPublicKeyBytes with
  | none => exact ⟨fun impossible => Bool.noConfusion impossible, fun _ => rfl, fun _ _ => rfl⟩
  | some pub =>
      cases share : fromB64 sodium fields "share" kGroupElementBytes with
      | none => exact ⟨fun impossible => Bool.noConfusion impossible, fun _ => rfl, fun _ _ => rfl⟩
      | some share =>
          dsimp only
          refine ⟨fun _ => ?_, fun impossible => Bool.noConfusion impossible,
            fun documented base64 => ?_⟩
          · split
            · split
              · exact PeerSession.sendPairingJson_speaks _ _ _
              · exact session.startExchange_speaks _ _ _
            · exact session.startExchange_speaks _ _ _
          · split
            · split
              · exact PeerSession.sendPairingJson_returns
                  (pair2Json_dumps documented base64 _ _) rfl
              · exact session.startExchange_returns documented base64 _ _ _
            · exact session.startExchange_returns documented base64 _ _ _

/-- What a message for the role, or a text that is none, should lead to. -/
def Reaction.Total (reaction : Reaction) (session : PeerSession) (wellFormed : Bool) : Prop :=
  reaction.threw = false ∧ (wellFormed = false → reaction = session.reject)

theorem Reaction.Total.reject (session : PeerSession) (wellFormed : Bool) :
    session.reject.Total session wellFormed :=
  ⟨rfl, fun _ => rfl⟩

theorem Reaction.Speaks.total_iff {reaction : Reaction} (speaks : reaction.Speaks)
    (returns : reaction.threw = false) (session : PeerSession) (wellFormed : Bool) :
    reaction.Total session wellFormed ↔ wellFormed = true := by
  constructor
  · intro total
    cases wellFormed with
    | true => rfl
    | false => exact absurd ⟨total.1, total.2 rfl⟩ (speaks.not_reject session)
  · intro formed
    refine ⟨returns, fun malformed => ?_⟩
    rw [formed] at malformed
    cases malformed

theorem PeerSession.onPair1_total_iff (documented : library.Documented)
    (base64 : sodium.Base64) (session : PeerSession) (moment : Moment) (fields : JsonFields) :
    (session.onPair1 sodium library moment fields).Total session
        (JsonFields.hasString fields "sid" && bringsPeer sodium fields) ↔
      (match JsonFields.value fields "sid" [] with
        | .typeError => true
        | .found sid =>
            decide (sid = session.pairingSessionId) &&
              !(JsonFields.hasString fields "sid" && bringsPeer sodium fields) &&
              ((session.refusal sid moment.nowMs).isSome || bringsPeer sodium fields)) = false := by
  cases sid : JsonFields.value fields "sid" [] with
  | typeError =>
      refine iff_of_false ?_ Bool.noConfusion
      intro total
      have threw : (session.onPair1 sodium library moment fields).threw = true := by
        unfold PeerSession.onPair1
        rw [sid]
        rfl
      rw [total.1] at threw
      cases threw
  | found sid' =>
      dsimp only
      by_cases ours : sid' = session.pairingSessionId
      · rw [ours] at sid ⊢
        rw [decide_eq_true rfl, Bool.true_and]
        cases refused : session.refusal session.pairingSessionId moment.nowMs with
        | some status =>
            have handled : session.onPair1 sodium library moment fields =
                session.sendPairingJson library (pairErrJson status.toText)
                  (.quiet { session with state := .failed }) := by
              unfold PeerSession.onPair1
              rw [sid]
              dsimp only
              rw [if_neg (not_not.mpr rfl), refused]
            rw [handled, (PeerSession.sendPairingJson_speaks _ _ _).total_iff
              (PeerSession.sendPairingJson_returns
                (pairErrJson_dumps documented (OfferStatus.toText_unescaped status)) rfl)]
            simp
        | none =>
            obtain ⟨speaks, rejects, returns⟩ :=
              @PeerSession.onPair1_admitted sodium library session moment fields sid refused
            cases peer : bringsPeer sodium fields with
            | false =>
                rw [rejects peer]
                simp [Reaction.Total.reject]
            | true =>
                rw [(speaks peer).total_iff (returns documented base64)]
                simp
      · have handled : session.onPair1 sodium library moment fields = session.reject := by
          unfold PeerSession.onPair1
          rw [sid]
          exact if_pos ours
        rw [handled, decide_eq_false ours, Bool.false_and, Bool.false_and]
        exact iff_of_true (Reaction.Total.reject _ _) rfl

theorem PeerSession.onPair2_total (documented : library.Documented) (base64 : sodium.Base64)
    (session : PeerSession) (fields : JsonFields) :
    (session.onPair2 sodium library fields).Total session (bringsPeer sodium fields) := by
  unfold PeerSession.onPair2 bringsPeer
  split
  · exact Reaction.Total.reject _ _
  · split
    · rename_i pub share
      refine ⟨?_, fun impossible => by rw [pub, share] at impossible; cases impossible⟩
      split
      · exact PeerSession.sendPairingJson_returns
          (@PairingMessage.dumps sodium library documented base64 (.pair3 _) trivial) rfl
      · rfl
    · exact Reaction.Total.reject _ _

theorem PeerSession.onPair3_total (documented : library.Documented) (base64 : sodium.Base64)
    (session : PeerSession) (fields : JsonFields) :
    (session.onPair3 sodium library fields).Total session (bringsSignature sodium fields) := by
  unfold PeerSession.onPair3 bringsSignature
  split
  · exact Reaction.Total.reject _ _
  · split
    · exact Reaction.Total.reject _ _
    · rename_i sig
      refine ⟨?_, fun impossible => by rw [sig] at impossible; cases impossible⟩
      split
      · exact PeerSession.sendPairingJson_returns
          (@PairingMessage.dumps sodium library documented base64 (.pair4 _) trivial) rfl
      · exact PeerSession.sendPairingJson_returns
          (pairErrJson_dumps documented (by decide +kernel)) rfl

theorem PeerSession.onPair4_total (session : PeerSession) (fields : JsonFields) :
    (session.onPair4 sodium fields).Total session (bringsSignature sodium fields) := by
  unfold PeerSession.onPair4 bringsSignature
  split
  · exact Reaction.Total.reject _ _
  · split
    · exact Reaction.Total.reject _ _
    · rename_i sig
      refine ⟨?_, fun impossible => by rw [sig] at impossible; cases impossible⟩
      split <;> rfl

theorem PeerSession.onPairErr_total_iff (session : PeerSession) (fields : JsonFields) :
    (session.onPairErr fields).Total session (JsonFields.readsString fields "reason") ↔
      JsonFields.readsString fields "reason" = true := by
  have handled : (session.onPairErr fields).threw = !JsonFields.readsString fields "reason" := by
    unfold PeerSession.onPairErr JsonFields.readsString JsonFields.value
    cases JsonFields.find fields "reason" with
    | none => rfl
    | some found => cases found <;> rfl
  constructor
  · intro total
    rw [total.1] at handled
    simpa using handled
  · intro reads
    rw [reads] at handled ⊢
    exact ⟨handled, fun impossible => Bool.noConfusion impossible⟩

/-- A message of any type is handled totally unless it is one of those mishandled. -/
theorem PeerSession.onPairingMessage_total_iff (documented : library.Documented)
    (base64 : sodium.Base64) (session : PeerSession) (moment : Moment) (type : Bytes)
    (fields : JsonFields) :
    (session.onPairingMessage sodium library moment type fields).Total session
        (isMessageFor sodium session.role type fields) ↔
      session.mishandlesMessage sodium moment type fields = false := by
  unfold PeerSession.onPairingMessage isMessageFor PeerSession.mishandlesMessage
  by_cases pair1 : type = ascii "PAIR1" ∧ session.role = .responder
  · rw [if_pos pair1, if_pos pair1, if_pos pair1]
    exact session.onPair1_total_iff documented base64 moment fields
  · rw [if_neg pair1, if_neg pair1, if_neg pair1]
    have other : ∀ name : String, ascii name ≠ ascii "PAIRERR" → type = ascii name →
        (decide (type = ascii "PAIRERR") && !JsonFields.readsString fields "reason") = false := by
      intro name unlike same
      rw [same, decide_eq_false unlike, Bool.false_and]
    by_cases pair2 : type = ascii "PAIR2" ∧ session.role = .initiator
    · rw [if_pos pair2, if_pos pair2]
      exact iff_of_true (session.onPair2_total documented base64 fields)
        (other "PAIR2" (by decide +kernel) pair2.1)
    · rw [if_neg pair2, if_neg pair2]
      by_cases pair3 : type = ascii "PAIR3" ∧ session.role = .responder
      · rw [if_pos pair3, if_pos pair3]
        exact iff_of_true (session.onPair3_total documented base64 fields)
          (other "PAIR3" (by decide +kernel) pair3.1)
      · rw [if_neg pair3, if_neg pair3]
        by_cases pair4 : type = ascii "PAIR4" ∧ session.role = .initiator
        · rw [if_pos pair4, if_pos pair4]
          exact iff_of_true (session.onPair4_total fields)
            (other "PAIR4" (by decide +kernel) pair4.1)
        · rw [if_neg pair4, if_neg pair4]
          by_cases pairErr : type = ascii "PAIRERR"
          · rw [if_pos pairErr, decide_eq_true pairErr, Bool.true_and, Bool.true_and,
              Bool.not_eq_false', session.onPairErr_total_iff fields]
          · rw [if_neg pairErr, decide_eq_false pairErr, Bool.false_and, Bool.false_and]
            exact iff_of_true (Reaction.Total.reject _ _) rfl

/-- A pairing text is handled totally exactly when it is none of those mishandled. -/
theorem PeerSession.handlePairing_total_iff (documented : library.Documented)
    (base64 : sodium.Base64) (session : PeerSession) (moment : Moment) (text : Bytes) :
    (session.handlePairing sodium library moment text).Total session
        (isTextFor sodium library session.role text) ↔
      session.mishandles sodium library moment (tagPairing :: text) = false := by
  unfold PeerSession.handlePairing isTextFor PeerSession.mishandles
  dsimp only
  rw [decide_eq_true rfl, Bool.true_and]
  cases readPairing library text with
  | malformed => exact iff_of_true (Reaction.Total.reject _ _) rfl
  | typeError => exact iff_of_false (fun total => Bool.noConfusion total.1) Bool.noConfusion
  | message type fields =>
      exact session.onPairingMessage_total_iff documented base64 moment type fields

end

/-- A session in any state handles a datagram totally if and only if it is not one of the
pairing messages that the code mishandles. -/
theorem datagram_handled_totally_iff {sodium : Sodium} {library : JsonLibrary}
    (documented : library.Documented) (base64 : sodium.Base64) (session : PeerSession)
    (moment : Moment) (datagram : Bytes) :
    session.HandlesTotally sodium library moment datagram ↔
      session.mishandles sodium library moment datagram = false := by
  cases datagram with
  | nil =>
      refine iff_of_true { returns := rfl, malformed := ?_ } rfl
      intro text impossible
      cases impossible
  | cons tag body =>
      by_cases pairing : tag = tagPairing
      · rw [pairing, ← session.handlePairing_total_iff documented base64 moment body]
        constructor
        · intro total
          exact ⟨total.returns, total.malformed body rfl⟩
        · intro total
          refine { returns := total.1, malformed := ?_ }
          intro text same
          cases same
          exact total.2
      · have returns : (session.onDatagram sodium library moment (tag :: body)).threw = false := by
          rcases session.onDatagram_passes sodium library moment body pairing with
            ⟨_, _, _, _, _, _, _, passed⟩ | ⟨_, _, _, _, dropped⟩
          · rw [passed]
          · rw [dropped]
            rfl
        refine iff_of_true { returns := returns, malformed := ?_ } ?_
        · intro text same
          exact absurd (List.cons.inj same).1 pairing
        · unfold PeerSession.mishandles
          dsimp only
          rw [decide_eq_false pairing, Bool.false_and]

/-- A PAIR1 with the wrong session id is handled totally. -/
theorem datagram_handled_totally_iff_stranger :
    StandIn.desk.HandlesTotally StandIn.sodium StandIn.json StandIn.moment StandIn.pair1 := by
  apply (datagram_handled_totally_iff StandIn.json_documented StandIn.sodium_base64 _ _ _).mpr
  decide +kernel

namespace StandIn

open SmartMic.StandIn

def numberedText : Bytes :=
  (controlJson.dump (.object [(ascii "t", .unsigned 1)])).getD []

end StandIn

/-- It throws on the receive thread of a session that has just been made. -/
theorem numbered_type_throws :
    ¬ StandIn.desk.HandlesTotally StandIn.sodium StandIn.controlJson StandIn.moment
      (tagPairing :: StandIn.numberedText) := by
  intro total
  have returns := total.returns
  revert returns
  decide +kernel

end SmartMic.Session
