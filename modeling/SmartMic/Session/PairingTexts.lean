import SmartMic.Session.PeerSession

set_option autoImplicit false

/-! The texts of the pairing messages: each can be dumped, and reads back as the message
it was. -/

namespace SmartMic.Session

open SmartMic.Protocol SmartMic.Security

def asFields (fields : List (Bytes × Bytes)) : JsonFields :=
  fields.map fun field => (field.1, .string field.2)

/-- A pairing message that an honest side writes, with the values it carries. -/
inductive PairingMessage
  | pair1 (sid : Bytes) (public_ : PublicKey) (share : GroupElement)
  | pair2 (public_ : PublicKey) (share : GroupElement)
  | pair3 (signature : Signature)
  | pair4 (signature : Signature)

def PairingMessage.type : PairingMessage → Bytes
  | .pair1 _ _ _ => ascii "PAIR1"
  | .pair2 _ _ => ascii "PAIR2"
  | .pair3 _ => ascii "PAIR3"
  | .pair4 _ => ascii "PAIR4"

/-- The session id of a PAIR1 needs no escape; the other values never do. -/
def PairingMessage.Plain : PairingMessage → Prop
  | .pair1 sid _ _ => Unescaped sid
  | _ => True

def PairingMessage.texts (sodium : Sodium) : PairingMessage → List (Bytes × Bytes)
  | .pair1 sid public_ share =>
      [(ascii "pub", toBase64 sodium public_.val), (ascii "share", toBase64 sodium share.val),
        (ascii "sid", sid), (ascii "t", ascii "PAIR1")]
  | .pair2 public_ share =>
      [(ascii "pub", toBase64 sodium public_.val), (ascii "share", toBase64 sodium share.val),
        (ascii "t", ascii "PAIR2")]
  | .pair3 signature =>
      [(ascii "sig", toBase64 sodium signature.val), (ascii "t", ascii "PAIR3")]
  | .pair4 signature =>
      [(ascii "sig", toBase64 sodium signature.val), (ascii "t", ascii "PAIR4")]

def PairingMessage.fields (sodium : Sodium) (message : PairingMessage) : JsonFields :=
  asFields (message.texts sodium)

section

variable {sodium : Sodium} {library : JsonLibrary}

/-! ### Dumping -/

theorem messageTexts_unescaped :
    ∀ text ∈ ["pub", "share", "sid", "sig", "reason", "t",
        "PAIR1", "PAIR2", "PAIR3", "PAIR4", "PAIRERR"],
      Unescaped (ascii text) := by
  decide +kernel

theorem pairErrJson_dumps (documented : library.Documented) {reason : String}
    (plain : Unescaped (ascii reason)) :
    ∃ text, library.dump (pairErrJson reason) = some text := by
  apply documented.dumps [(ascii "reason", ascii reason), (ascii "t", ascii "PAIRERR")]
  simp only [List.forall_mem_cons]
  exact ⟨⟨messageTexts_unescaped "reason" (by simp), plain⟩,
    ⟨messageTexts_unescaped "t" (by simp), messageTexts_unescaped "PAIRERR" (by simp)⟩,
    fun _ member => absurd member List.not_mem_nil⟩

theorem OfferStatus.toText_unescaped (status : OfferStatus) : Unescaped (ascii status.toText) := by
  cases status <;> decide +kernel

theorem PairingMessage.dumps (documented : library.Documented) (base64 : sodium.Base64)
    {message : PairingMessage} (plain : message.Plain) :
    ∃ text, library.dump (stringObject (message.texts sodium)) = some text := by
  have known := messageTexts_unescaped
  have encoded : ∀ bytes, Unescaped (toBase64 sodium bytes) := base64.text
  simp only [List.forall_mem_cons] at known
  apply documented.dumps
  cases message with
  | pair1 sid public_ share =>
      have plainSid : Unescaped sid := plain
      simp [PairingMessage.texts, encoded, plainSid, known]
  | pair2 public_ share => simp [PairingMessage.texts, encoded, known]
  | pair3 signature => simp [PairingMessage.texts, encoded, known]
  | pair4 signature => simp [PairingMessage.texts, encoded, known]

/-! ### Reading back -/

/-- A message that was dumped is read as the message it was. -/
theorem PairingMessage.reads (documented : library.Documented) {message : PairingMessage}
    {text : Bytes}
    (dumped : library.dump (stringObject (message.texts sodium)) = some text) :
    readPairing library text = .message message.type (message.fields sodium) := by
  have ordered : ((message.texts sodium).map Prod.fst).Pairwise (· < ·) := by
    have sorted : [ascii "pub", ascii "share", ascii "sid", ascii "t"].Pairwise (· < ·) ∧
        [ascii "pub", ascii "share", ascii "t"].Pairwise (· < ·) ∧
        [ascii "sig", ascii "t"].Pairwise (· < ·) := by decide +kernel
    cases message with
    | pair1 => exact sorted.1
    | pair2 => exact sorted.2.1
    | pair3 => exact sorted.2.2
    | pair4 => exact sorted.2.2
  have typed : JsonFields.find ((message.texts sodium).map fun field => (field.1, .string field.2))
      "t" = some (.string message.type) := by
    cases message <;> rfl
  unfold readPairing
  rw [documented.parses _ text ordered dumped]
  unfold stringObject
  dsimp only
  rw [typed]
  rfl

theorem fromB64_of_find (base64 : sodium.Base64) {fields : JsonFields} {key : String} {size : Nat}
    {bytes : FixedBytes size}
    (found : JsonFields.find fields key = some (.string (toBase64 sodium bytes.val))) :
    fromB64 sodium fields key size = some bytes := by
  unfold fromB64
  rw [found]
  have decoded : fromBase64 sodium (toBase64 sodium bytes.val) = bytes.val := by
    unfold fromBase64 toBase64
    rw [base64.decodes]
    rfl
  simp only [decoded]
  exact FixedBytes.ofBytes_val bytes

/-- The key and the share of a peer, as a PAIR1 or a PAIR2. -/
def PairingMessage.BringsPeer (message : PairingMessage) (public_ : PublicKey)
    (share : GroupElement) : Prop :=
  (∃ sid, message = .pair1 sid public_ share) ∨ message = .pair2 public_ share

theorem PairingMessage.peer_read (base64 : sodium.Base64) {message : PairingMessage}
    {public_ : PublicKey} {share : GroupElement} (brings : message.BringsPeer public_ share) :
    fromB64 sodium (message.fields sodium) "pub" kPublicKeyBytes = some public_ ∧
      fromB64 sodium (message.fields sodium) "share" kGroupElementBytes = some share := by
  rcases brings with ⟨sid, rfl⟩ | rfl
  · exact ⟨fromB64_of_find base64 rfl, fromB64_of_find base64 rfl⟩
  · exact ⟨fromB64_of_find base64 rfl, fromB64_of_find base64 rfl⟩

/-! ### Replies -/

theorem PeerSession.sendPairingJson_returns {session : PeerSession} {message : Json}
    {next : Reaction} (dumps : ∃ text, library.dump message = some text)
    (returns : next.threw = false) :
    (session.sendPairingJson library message next).threw = false := by
  obtain ⟨text, dumped⟩ := dumps
  unfold PeerSession.sendPairingJson
  rw [dumped]
  exact returns

theorem pair2Json_dumps (documented : library.Documented) (base64 : sodium.Base64)
    (public_ : PublicKey) (share : GroupElement) :
    ∃ text, library.dump (pair2Json sodium public_ share) = some text :=
  @PairingMessage.dumps sodium library documented base64 (.pair2 public_ share) trivial

theorem PeerSession.startExchange_returns (documented : library.Documented)
    (base64 : sodium.Base64) (session : PeerSession) (scalar : Scalar) (pub : PublicKey)
    (share : GroupElement) :
    (session.startExchange sodium library scalar pub share).threw = false := by
  unfold PeerSession.startExchange
  dsimp only
  split
  · exact PeerSession.sendPairingJson_returns (pair2Json_dumps documented base64 _ _) rfl
  · exact PeerSession.sendPairingJson_returns
      (pairErrJson_dumps documented (by decide +kernel)) rfl

end

end SmartMic.Session
