import SmartMic.Security.Transcript
import SmartMic.Security.StandIn
import SmartMic.Support.PrefixCode
import SmartMic.Support.Run

set_option autoImplicit false

/-! The three texts that a pairing hashes or signs. Each is a list of length-prefixed
fields behind a name of its own, so no two of them are the same bytes, whatever stands in
their fields. The prefix holds the low four bytes of a length; the strings are shorter
than 2^32. -/

namespace SmartMic.Security

/-- A text for the generator, for the transcript, or for the signature. -/
inductive Serialisation where
  | forGenerator (sessionId code : Bytes)
  | forTranscript (sessionId : Bytes) (initiatorPub responderPub : PublicKey)
      (initiatorY responderY : GroupElement)
  | forSignature (transcript : Bytes) (sessionKey : SessionKey)

def Serialisation.bytes : Serialisation → Bytes
  | .forGenerator sessionId code => generatorSeed sessionId code
  | .forTranscript sessionId initiatorPub responderPub initiatorY responderY =>
      transcriptOf sessionId initiatorPub responderPub initiatorY responderY
  | .forSignature transcript sessionKey => authMessage transcript sessionKey

/-- The strings of any length that the text holds. -/
def Serialisation.strings : Serialisation → List Bytes
  | .forGenerator sessionId code => [sessionId, code]
  | .forTranscript sessionId _ _ _ _ => [sessionId]
  | .forSignature transcript _ => [transcript]

def Short (field : Bytes) : Prop := field.length < 2 ^ 32

instance (field : Bytes) : Decidable (Short field) := inferInstanceAs (Decidable (_ < _))

/-! ### The prefix -/

theorem lengthPrefixed_selfDelimiting :
    PrefixCode.SelfDelimiting lengthPrefixed {field | Short field} := by
  rintro first short second short' ⟨rest, same⟩
  unfold lengthPrefixed at same
  rw [List.append_assoc] at same
  obtain ⟨heads, tails⟩ := List.append_inj same (by
    rw [littleEndian_length, littleEndian_length])
  have lengths : first.length = second.length := by
    rw [← fromLittleEndian_littleEndian 4 _ short, heads,
      fromLittleEndian_littleEndian 4 _ short']
  exact (List.append_inj (tails.trans (List.append_nil _).symm) lengths).1

theorem lengthPrefixed_ne_nil (field : Bytes) : lengthPrefixed field ≠ [] := by
  intro empty
  have length := congrArg List.length empty
  rw [lengthPrefixed_length, List.length_nil] at length
  omega

/-! ### The fields -/

def Serialisation.fields : Serialisation → List Bytes
  | .forGenerator sessionId code => [kDsiGenerator, code, sessionId]
  | .forTranscript sessionId initiatorPub responderPub initiatorY responderY =>
      [kDsiTranscript, [1, 0, 0, 0], sessionId, initiatorPub.val, responderPub.val,
        initiatorY.val, responderY.val]
  | .forSignature transcript sessionKey => [kDsiAuth, transcript, sessionKey.val]

theorem Serialisation.bytes_eq (text : Serialisation) :
    text.bytes = text.fields.flatMap lengthPrefixed := by
  cases text with
  | forGenerator sessionId code =>
      simp [bytes, fields, generatorSeed]
  | forTranscript sessionId initiatorPub responderPub initiatorY responderY =>
      simp [bytes, fields, transcriptOf]
  | forSignature transcript sessionKey =>
      simp [bytes, fields, authMessage]

/-- The name in front tells the three apart, and every field stands at its own place. -/
theorem Serialisation.fields_injective {first second : Serialisation}
    (same : first.fields = second.fields) : first = second := by
  have names : kDsiGenerator ≠ kDsiTranscript ∧ kDsiGenerator ≠ kDsiAuth ∧
      kDsiTranscript ≠ kDsiAuth := by decide
  obtain ⟨notTranscript, notAuth, neither⟩ := names
  cases first with
  | forGenerator sessionId code =>
      cases second with
      | forGenerator sessionId' code' =>
          simp only [fields, List.cons.injEq] at same
          rw [same.2.1, same.2.2.1]
      | forTranscript => exact absurd (List.cons.inj same).1 notTranscript
      | forSignature => exact absurd (List.cons.inj same).1 notAuth
  | forTranscript sessionId initiatorPub responderPub initiatorY responderY =>
      cases second with
      | forGenerator => exact absurd (List.cons.inj same).1.symm notTranscript
      | forTranscript sessionId' initiatorPub' responderPub' initiatorY' responderY' =>
          simp only [fields, List.cons.injEq, Subtype.val_inj] at same
          obtain ⟨-, -, session, initiator, responder, share, share', -⟩ := same
          rw [session, initiator, responder, share, share']
      | forSignature => exact absurd (List.cons.inj same).1 neither
  | forSignature transcript sessionKey =>
      cases second with
      | forGenerator => exact absurd (List.cons.inj same).1.symm notAuth
      | forTranscript => exact absurd (List.cons.inj same).1.symm neither
      | forSignature transcript' sessionKey' =>
          simp only [fields, List.cons.injEq, Subtype.val_inj] at same
          rw [same.2.1, same.2.2.1]

theorem FixedBytes.short {size : Nat} (small : size < 2 ^ 32) (bytes : FixedBytes size) :
    Short bytes.val := by
  unfold Short
  rw [bytes.property]
  exact small

theorem Serialisation.fields_short {text : Serialisation}
    (short : ∀ string ∈ text.strings, Short string) : ∀ field ∈ text.fields, Short field := by
  cases text with
  | forGenerator sessionId code =>
      simp only [strings, List.forall_mem_cons] at short
      simp only [fields, List.forall_mem_cons]
      exact ⟨by decide, short.2.1, short.1, short.2.2⟩
  | forTranscript sessionId initiatorPub responderPub initiatorY responderY =>
      simp only [strings, List.forall_mem_cons] at short
      simp only [fields, List.forall_mem_cons]
      exact ⟨by decide, by decide, short.1, FixedBytes.short (by decide) _,
        FixedBytes.short (by decide) _, FixedBytes.short (by decide) _,
        FixedBytes.short (by decide) _, short.2⟩
  | forSignature transcript sessionKey =>
      simp only [strings, List.forall_mem_cons] at short
      simp only [fields, List.forall_mem_cons]
      exact ⟨by decide, short.1, FixedBytes.short (by decide) _, short.2⟩

theorem Serialisation.bytes_injective {first second : Serialisation}
    (short : ∀ string ∈ first.strings, Short string)
    (short' : ∀ string ∈ second.strings, Short string) (same : first.bytes = second.bytes) :
    first = second := by
  rw [bytes_eq, bytes_eq] at same
  exact fields_injective (lengthPrefixed_selfDelimiting.flatMap_inj
    (fun field _ => lengthPrefixed_ne_nil field) (fields_short short) (fields_short short') same)

/-! ### The two sides of an exchange -/

def PairingExchange.initiatorPub (exchange : PairingExchange) : PublicKey :=
  match exchange.role with
  | .initiator => exchange.selfPublic
  | .responder => exchange.peerPublic

def PairingExchange.responderPub (exchange : PairingExchange) : PublicKey :=
  match exchange.role with
  | .initiator => exchange.peerPublic
  | .responder => exchange.selfPublic

def PairingExchange.initiatorY (exchange : PairingExchange) : GroupElement :=
  match exchange.role with
  | .initiator => exchange.ourShare
  | .responder => exchange.peerShare

def PairingExchange.responderY (exchange : PairingExchange) : GroupElement :=
  match exchange.role with
  | .initiator => exchange.peerShare
  | .responder => exchange.ourShare

/-- Both name the same session, and the same key and share for either side. -/
structure PairingExchange.SameSides (ours theirs : PairingExchange) : Prop where
  sessionId : ours.sessionId = theirs.sessionId
  initiatorPub : ours.initiatorPub = theirs.initiatorPub
  responderPub : ours.responderPub = theirs.responderPub
  initiatorY : ours.initiatorY = theirs.initiatorY
  responderY : ours.responderY = theirs.responderY

theorem PairingExchange.buildTranscript_eq (exchange : PairingExchange) :
    exchange.buildTranscript = transcriptOf exchange.sessionId exchange.initiatorPub
      exchange.responderPub exchange.initiatorY exchange.responderY := by
  unfold buildTranscript initiatorPub responderPub initiatorY responderY
  cases exchange.role with
  | initiator => rfl
  | responder => rfl

theorem PairingExchange.buildTranscript_eq_iff (ours theirs : PairingExchange) :
    ours.buildTranscript = theirs.buildTranscript ↔ ours.SameSides theirs := by
  rw [buildTranscript_eq, buildTranscript_eq]
  constructor
  · intro same
    obtain ⟨session, initiator, responder, share, share'⟩ := transcriptOf_injective same
    exact
      { sessionId := session
        initiatorPub := initiator
        responderPub := responder
        initiatorY := share
        responderY := share' }
  · intro same
    rw [same.sessionId, same.initiatorPub, same.responderPub, same.initiatorY, same.responderY]

/-- How an exchange came about: its construction, and what `onPeer` was called with. -/
structure ExchangeHistory where
  self_ : DeviceIdentity
  role : PairingRole
  sessionId : Bytes
  code : Bytes
  scalar : Scalar
  peers : List (PublicKey × GroupElement)

section

variable (sodium : Sodium)

def ExchangeHistory.exchange (history : ExchangeHistory) : PairingExchange :=
  Run.final (fun exchange peer => (exchange.onPeer sodium peer.1 peer.2).2)
    (PairingExchange.create sodium history.self_ history.role history.sessionId history.code
      history.scalar)
    history.peers

theorem ExchangeHistory.consistent (history : ExchangeHistory) :
    (history.exchange sodium).Consistent history.self_ history.role :=
  Run.invariant_always (PairingExchange.Consistent history.self_ history.role)
    (fun _ peer consistent => consistent.onPeer sodium peer.1 peer.2) _ history.peers
    (PairingExchange.create_consistent sodium history.self_ history.role history.sessionId
      history.code history.scalar)

/-- The three texts are injective in their fields and never the same as one another, for
strings below 2^32 bytes. Two exchanges, of opposite roles or not, make one transcript exactly
when they name the same session and the same two sides; a derived exchange has the one that
it made. -/
theorem serialisations_unambiguous :
    (∀ first second : Serialisation, (∀ string ∈ first.strings, Short string) →
      (∀ string ∈ second.strings, Short string) →
      (first.bytes = second.bytes ↔ first = second)) ∧
    (∀ ours theirs : PairingExchange,
      ours.buildTranscript = theirs.buildTranscript ↔ ours.SameSides theirs) ∧
    ∀ ours theirs : ExchangeHistory,
      (ours.exchange sodium).derived = true → (theirs.exchange sodium).derived = true →
      ((ours.exchange sodium).transcript = (theirs.exchange sodium).transcript ↔
        (ours.exchange sodium).SameSides (theirs.exchange sodium)) := by
  refine ⟨?_, ?_, ?_⟩
  · intro first second short short'
    exact ⟨Serialisation.bytes_injective short short', congrArg Serialisation.bytes⟩
  · exact PairingExchange.buildTranscript_eq_iff
  · intro ours theirs derived derived'
    rw [(ours.consistent sodium).transcript derived, (theirs.consistent sodium).transcript derived']
    exact PairingExchange.buildTranscript_eq_iff _ _

end

def phoneShare : GroupElement :=
  shareFor StandIn.sodium (StandIn.scalar 3)
    (generatorFor StandIn.sodium StandIn.sessionId StandIn.code)

def deskShare : GroupElement :=
  shareFor StandIn.sodium (StandIn.scalar 4)
    (generatorFor StandIn.sodium StandIn.sessionId StandIn.code)

def phoneHistory : ExchangeHistory :=
  { self_ := StandIn.identity 1
    role := .initiator
    sessionId := StandIn.sessionId
    code := StandIn.code
    scalar := StandIn.scalar 3
    peers := [((StandIn.identity 2).public_, deskShare)] }

def deskHistory : ExchangeHistory :=
  { self_ := StandIn.identity 2
    role := .responder
    sessionId := StandIn.sessionId
    code := StandIn.code
    scalar := StandIn.scalar 4
    peers := [((StandIn.identity 3).public_, FixedBytes.zero _),
      ((StandIn.identity 1).public_, phoneShare)] }

/-- A byte that moves from the code to the session id changes the seed; two that met make
one transcript. -/
theorem serialisations_unambiguous_met :
    generatorSeed (ascii "a") (ascii "bc") ≠ generatorSeed (ascii "ab") (ascii "c") ∧
      (phoneHistory.exchange StandIn.sodium).transcript =
        (deskHistory.exchange StandIn.sodium).transcript := by
  obtain ⟨texts, -, histories⟩ := serialisations_unambiguous StandIn.sodium
  constructor
  · intro same
    have equal := (texts (.forGenerator (ascii "a") (ascii "bc"))
      (.forGenerator (ascii "ab") (ascii "c")) (by decide +kernel) (by decide +kernel)).mp same
    have sessions := congrArg Serialisation.strings equal
    revert sessions
    decide
  · apply (histories phoneHistory deskHistory (by decide +kernel) (by decide +kernel)).mpr
    exact
      { sessionId := by decide +kernel
        initiatorPub := by decide +kernel
        responderPub := by decide +kernel
        initiatorY := by decide +kernel
        responderY := by decide +kernel }

end SmartMic.Security
