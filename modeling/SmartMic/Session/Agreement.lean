import SmartMic.Support.Run
import SmartMic.Security.Transcript
import SmartMic.Session.ExchangeSteps
import SmartMic.Session.StandIn

set_option autoImplicit false

/-! Agreement of pairings in a network that belongs to the attacker. Any number of
sessions run beside each other, every datagram is the attacker's choice, and two
ghost lists record every signature computed and every `establish`.

That signatures cannot be forged is a condition on the run: a session verifies a
signature of an honest key only on a message that was signed with it before. The
secrecy of the session key is not the subject here. -/

namespace SmartMic.Session

open SmartMic.Protocol SmartMic.Security SmartMic.Media

/-! ### Signatures computed -/

section

variable (sodium : Sodium) (library : JsonLibrary)

/-- The exchange whose `authSignature` a message makes the session compute. -/
def PeerSession.signsBy (session : PeerSession) (type : Bytes) (fields : JsonFields) :
    Option PairingExchange :=
  if type = ascii "PAIR2" ∧ session.role = .initiator then
    match session.exchange, fromB64 sodium fields "pub" kPublicKeyBytes,
        fromB64 sodium fields "share" kGroupElementBytes with
    | some exchange, some pub, some share =>
        match exchange.onPeer sodium pub share with
        | (.none, exchange) => some exchange
        | _ => none
    | _, _, _ => none
  else if session.role = .responder then session.completedBy sodium type fields
  else none

def PeerSession.signs (session : PeerSession) (text : Bytes) : Option PairingExchange :=
  match readPairing library text with
  | .message type fields => session.signsBy sodium type fields
  | _ => none

end

def SessionInput.pairingText : SessionInput → Option Bytes
  | .datagram _ (tag :: text) => if tag = tagPairing then some text else none
  | _ => none

/-! ### The world -/

structure World where
  sessions : List PeerSession
  /-- Every exchange in which a session has computed `authSignature`. -/
  signed : List PairingExchange
  /-- Every `establish`, with the peer key that the session holds. -/
  established : List (PublicKey × PairingExchange)

def World.empty : World :=
  { sessions := []
    signed := []
    established := [] }

/-- A device constructs a session, or somebody calls one; a datagram is a call. -/
inductive Move where
  | create (device : DeviceIdentity) (role : PairingRole)
  | call (index : Nat) (input : SessionInput)

def World.step (sodium : Sodium) (library : JsonLibrary) (world : World) : Move → World
  | .create device role =>
      { world with sessions := world.sessions ++ [PeerSession.create device role] }
  | .call index input =>
      match world.sessions[index]? with
      | none => world
      | some session =>
          { sessions := world.sessions.set index (session.step sodium library input)
            signed :=
              (input.pairingText.bind (session.signs sodium library)).toList ++ world.signed
            established :=
              ((input.pairingText.bind (session.completes sodium library)).map
                fun exchange => (session.peerPublic, exchange)).toList ++ world.established }

/-- No signature is forged: what a session accepts under an honest key was signed. -/
def World.Unforged (sodium : Sodium) (library : JsonLibrary) (honest : PublicKey → Prop)
    (world : World) : Move → Prop
  | .create _ _ => True
  | .call index input =>
      ∀ session ∈ world.sessions[index]?,
        ∀ exchange ∈ input.pairingText.bind (session.completes sodium library),
          honest exchange.peerPublic →
            ∃ entry ∈ world.signed, entry.selfPublic = exchange.peerPublic ∧
              entry.signedMessage = exchange.signedMessage

/-- An initiator completes a pairing with its own key. -/
def World.Reflected (sodium : Sodium) (library : JsonLibrary) (world : World) : Move → Prop
  | .create _ _ => False
  | .call index input =>
      ∃ session ∈ world.sessions[index]?, session.role = .initiator ∧
        session.peerPublic = session.self_.public_ ∧
        (input.pairingText.bind (session.completes sodium library)).isSome = true

/-- Whoever established a session with an honest peer agrees with an exchange in
which that peer has signed. -/
def World.Agreement (honest : PublicKey → Prop) (world : World) : Prop :=
  ∀ entry ∈ world.established, honest entry.1 →
    ∃ theirs ∈ world.signed, theirs.selfPublic = entry.1 ∧
      entry.2.Agrees theirs

/-! ### What a session keeps about its exchange -/

/-- The exchange of a session is its own, and a derived one is with the peer the
session holds. -/
def PeerSession.Aligned (session : PeerSession) : Prop :=
  ∀ exchange, session.exchange = some exchange →
    exchange.Consistent session.self_ session.role ∧
      (exchange.derived = true → exchange.peerPublic = session.peerPublic)

section Aligned

variable {sodium : Sodium} {library : JsonLibrary} {session : PeerSession}

theorem PeerSession.aligned_create (device : DeviceIdentity) (role : PairingRole) :
    (PeerSession.create device role).Aligned := by
  intro exchange impossible
  cases impossible

theorem PeerSession.aligned_onPeer {device : DeviceIdentity} {role : PairingRole}
    {exchange left : PairingExchange} {error : PairingError} {pub : PublicKey}
    {share : GroupElement} (peer : PublicKey) (consistent : exchange.Consistent device role)
    (before : exchange.derived = true → exchange.peerPublic = peer)
    (outcome : exchange.onPeer sodium pub share = (error, left)) :
    left.Consistent device role ∧
      (error = .none → left.derived = true ∧ left.peerPublic = pub) ∧
      (error ≠ .none → left.derived = true → left.peerPublic = peer) := by
  have after := consistent.onPeer sodium pub share
  have cases_ := exchange.onPeer_cases sodium pub share
  rw [outcome] at after cases_
  refine ⟨after, ?_⟩
  rcases cases_ with ⟨succeeds, -, sessionKey, derives⟩ | ⟨fails, same | ⟨fresh, learns⟩⟩
  · dsimp only at derives
    rw [derives]
    exact ⟨fun _ => ⟨rfl, rfl⟩, fun fails => absurd succeeds fails⟩
  · dsimp only at same
    rw [same]
    exact ⟨fun succeeds => absurd succeeds fails, fun _ => before⟩
  · dsimp only at learns
    refine ⟨fun succeeds => absurd succeeds fails, fun _ derived => ?_⟩
    rw [learns] at derived
    change exchange.derived = true at derived
    rw [fresh] at derived
    cases derived

/-- A datagram keeps a session aligned, whatever it does to the exchange. -/
theorem PeerSession.Aligned.exchanges (aligned : session.Aligned) {moment : Moment}
    {after : PeerSession} (exchanges : session.Exchanges sodium moment after)
    (self_ : after.self_ = session.self_) (role : after.role = session.role) : after.Aligned := by
  cases exchanges with
  | keeps same peer =>
      intro exchange held
      rw [same] at held
      rw [self_, role, peer]
      exact aligned exchange held
  | hands exchange pub share offers holds taken refused =>
      have before : exchange.Consistent session.self_ session.role ∧
          (exchange.derived = true → exchange.peerPublic = session.peerPublic) := by
        rcases offers with ⟨-, -, fresh⟩ | ⟨-, held⟩
        · rw [fresh]
          exact ⟨PairingExchange.create_consistent sodium session.self_ session.role _ _ _,
            fun impossible => Bool.noConfusion impossible⟩
        · exact aligned exchange held
      rcases outcome : exchange.onPeer sodium pub share with ⟨error, left⟩
      obtain ⟨consistent, derives, fails⟩ :=
        PeerSession.aligned_onPeer session.peerPublic before.1 before.2 outcome
      rw [outcome] at holds taken refused
      intro other held
      cases holds.symm.trans held
      rw [self_, role]
      refine ⟨consistent, ?_⟩
      by_cases error_ : error = .none
      · intro _derived
        rw [(derives error_).2]
        exact (taken error_).symm
      · intro derived
        rw [fails error_ derived]
        exact (refused error_).symm

theorem PeerSession.Aligned.onDatagram (aligned : session.Aligned) (moment : Moment)
    (datagram : Bytes) :
    (session.onDatagram sodium library moment datagram).session.Aligned := by
  obtain ⟨self_, role, -⟩ := session.onDatagram_identity sodium library moment datagram
  exact aligned.exchanges (session.onDatagram_exchanges moment datagram) self_ role

theorem PeerSession.Aligned.step (aligned : session.Aligned) (input : SessionInput) :
    (session.step sodium library input).Aligned := by
  unfold PeerSession.step
  cases input with
  | datagram moment bytes => exact aligned.onDatagram moment bytes
  | armPairing sessionId code book =>
      intro exchange impossible
      cases impossible
  | beginPairing sessionId code scalar =>
      have begun : ∀ hello, PeerSession.Aligned { session with
          pairingSessionId := sessionId
          exchange := some (PairingExchange.create sodium session.self_ session.role sessionId
            code scalar)
          state := .pairing
          pairingHello := hello } := by
        intro hello exchange held
        cases held
        exact ⟨PairingExchange.create_consistent sodium session.self_ session.role sessionId code
          scalar, fun impossible => Bool.noConfusion impossible⟩
      change (session.beginPairing sodium library sessionId code scalar).session.Aligned
      unfold PeerSession.beginPairing
      dsimp only
      split
      · exact begun session.pairingHello
      · exact begun _
  | resendPairingHello =>
      change session.resendPairingHello.session.Aligned
      unfold PeerSession.resendPairingHello
      split <;> exact aligned
  | adoptSessionKey key => exact aligned
  | sendControl message =>
      obtain ⟨⟨channel, reached⟩, -⟩ :=
        session.react_sends sodium library (Or.inl ⟨message, rfl⟩)
      rw [reached]
      exact aligned
  | sendMedia payload =>
      obtain ⟨⟨channel, reached⟩, -⟩ :=
        session.react_sends sodium library (Or.inr ⟨payload, rfl⟩)
      rw [reached]
      exact aligned
  | withBook work => exact aligned

theorem PeerSession.Aligned.signs (aligned : session.Aligned) {text : Bytes}
    {exchange : PairingExchange} (signs : session.signs sodium library text = some exchange) :
    exchange.Consistent session.self_ session.role ∧ exchange.derived = true ∧
      (session.role = .responder → session.completes sodium library text = some exchange) := by
  unfold PeerSession.signs at signs
  unfold PeerSession.completes
  cases reads : readPairing library text with
  | malformed => rw [reads] at signs; cases signs
  | typeError => rw [reads] at signs; cases signs
  | message type fields =>
      rw [reads] at signs
      dsimp only at signs ⊢
      unfold PeerSession.signsBy at signs
      split at signs
      · rename_i pair2
        split at signs
        · rename_i held pub share same _pub _share
          obtain ⟨consistent, peer⟩ := aligned _ same
          split at signs
          · rename_i derived outcome
            cases signs
            obtain ⟨after, derives, -⟩ := PeerSession.aligned_onPeer _ consistent peer outcome
            refine ⟨after, (derives rfl).1, fun responder => ?_⟩
            rw [pair2.2] at responder
            cases responder
          · cases signs
        · cases signs
      · split at signs
        · obtain ⟨-, held, signature, -, verified⟩ := PeerSession.completedBy_final signs
          refine ⟨(aligned _ held).1, ?_, fun _ => signs⟩
          unfold PairingExchange.verifyPeerAuth at verified
          split at verified
          · rename_i derived
            exact derived
          · cases verified
        · cases signs

theorem PeerSession.Aligned.completes (aligned : session.Aligned) {text : Bytes}
    {exchange : PairingExchange}
    (completes : session.completes sodium library text = some exchange) :
    exchange.Consistent session.self_ session.role ∧ exchange.derived = true ∧
      exchange.peerPublic = session.peerPublic := by
  unfold PeerSession.completes at completes
  split at completes
  · obtain ⟨-, held, signature, -, verified⟩ := PeerSession.completedBy_final completes
    obtain ⟨consistent, peer⟩ := aligned _ held
    have derived : exchange.derived = true := by
      unfold PairingExchange.verifyPeerAuth at verified
      split at verified
      · assumption
      · cases verified
    exact ⟨consistent, derived, peer derived⟩
  · cases completes

theorem PeerSession.Aligned.signs_call (aligned : session.Aligned) {text : Option Bytes}
    {exchange : PairingExchange} (signs : exchange ∈ text.bind (session.signs sodium library)) :
    exchange.Consistent session.self_ session.role ∧ exchange.derived = true ∧
      (session.role = .responder →
        exchange ∈ text.bind (session.completes sodium library)) := by
  cases text with
  | none => cases signs
  | some text => exact aligned.signs signs

theorem PeerSession.Aligned.completes_call (aligned : session.Aligned) {text : Option Bytes}
    {exchange : PairingExchange}
    (completes : exchange ∈ text.bind (session.completes sodium library)) :
    exchange.Consistent session.self_ session.role ∧ exchange.derived = true ∧
      exchange.peerPublic = session.peerPublic := by
  cases text with
  | none => cases completes
  | some text => exact aligned.completes completes

end Aligned

/-! ### The world over a run -/

/-- Every session is aligned, every signature is over its own transcript, and where a
responder has signed for an honest peer, that peer has signed the same message as an
initiator. -/
structure World.Sound (honest : PublicKey → Prop) (world : World) : Prop where
  aligned : ∀ session ∈ world.sessions, session.Aligned
  built : ∀ entry ∈ world.signed, entry.transcript = entry.buildTranscript
  origin : ∀ entry ∈ world.signed, entry.role = .responder → honest entry.peerPublic →
    ∃ first ∈ world.signed, first.role = .initiator ∧ first.selfPublic = entry.peerPublic ∧
      first.signedMessage = entry.signedMessage
  agreement : world.Agreement honest

section World

variable {sodium : Sodium} {library : JsonLibrary} {honest : PublicKey → Prop} {world : World}

theorem World.sound_empty : World.empty.Sound honest :=
  { aligned := fun _session member => absurd member List.not_mem_nil
    built := fun _entry member => absurd member List.not_mem_nil
    origin := fun _entry member => absurd member List.not_mem_nil
    agreement := fun _entry member => absurd member List.not_mem_nil }

/-- Whatever message an honest device has signed, an initiator has, unless it is the
message of the initiator that looks at it. -/
theorem World.Sound.first_signer (sound : world.Sound honest) {exchange entry : PairingExchange}
    (built : exchange.transcript = exchange.buildTranscript)
    (responder : exchange.role = .responder)
    (trusted : honest exchange.peerPublic) (signed : entry ∈ world.signed)
    (signer : entry.selfPublic = exchange.peerPublic)
    (message : entry.signedMessage = exchange.signedMessage) :
    ∃ first ∈ world.signed, first.role = .initiator ∧
      first.selfPublic = exchange.peerPublic ∧
      first.signedMessage = exchange.signedMessage := by
  cases role : entry.role with
  | initiator => exact ⟨entry, signed, role, signer, message⟩
  | responder =>
      -- the peer is the device itself, and its own signature goes back to an initiator
      obtain ⟨-, peer⟩ := PairingExchange.same_of_message built (sound.built entry signed)
        message (role.trans responder.symm)
      obtain ⟨first, member, initiator, device, same⟩ :=
        sound.origin entry signed role (by rw [peer]; exact trusted)
      exact ⟨first, member, initiator, device.trans peer, same.trans message⟩

/-- A completed exchange with an honest peer agrees with one that the peer has signed. -/
theorem World.Sound.agrees (sound : world.Sound honest) {exchange : PairingExchange}
    (built : exchange.transcript = exchange.buildTranscript)
    (trusted : honest exchange.peerPublic)
    (unreflected : exchange.role = .initiator → exchange.peerPublic ≠ exchange.selfPublic)
    (unforged : ∃ entry ∈ world.signed, entry.selfPublic = exchange.peerPublic ∧
      entry.signedMessage = exchange.signedMessage) :
    ∃ theirs ∈ world.signed, theirs.selfPublic = exchange.peerPublic ∧
      exchange.Agrees theirs := by
  obtain ⟨entry, signed, signer, message⟩ := unforged
  cases role : exchange.role with
  | responder =>
      obtain ⟨first, member, initiator, device, same⟩ :=
        sound.first_signer built role trusted signed signer message
      refine ⟨first, member, device, ?_⟩
      apply PairingExchange.agrees_of_message built (sound.built first member) same
      rw [initiator, role]
      exact PairingRole.noConfusion
  | initiator =>
      refine ⟨entry, signed, signer, ?_⟩
      apply PairingExchange.agrees_of_message built (sound.built entry signed) message
      intro same
      obtain ⟨device, -⟩ :=
        PairingExchange.same_of_message built (sound.built entry signed) message same
      exact unreflected role (signer.symm.trans device)

theorem World.Sound.step (sound : world.Sound honest) {move : Move}
    (unforged : world.Unforged sodium library honest move)
    (unreflected : ¬ world.Reflected sodium library move) :
    (world.step sodium library move).Sound honest := by
  cases move with
  | create device role =>
      exact
        { aligned := by
            intro session member
            rcases List.mem_append.mp member with old | new
            · exact sound.aligned session old
            · rw [List.mem_singleton.mp new]
              exact PeerSession.aligned_create device role
          built := sound.built
          origin := sound.origin
          agreement := sound.agreement }
  | call index input =>
      unfold World.step
      dsimp only
      cases found : world.sessions[index]? with
      | none => exact sound
      | some session =>
          have aligned := sound.aligned session (List.mem_of_getElem? found)
          have accepted := unforged session found
          have kept : ∀ (exchange : Option PairingExchange) {entry : PairingExchange},
              entry ∈ world.signed → entry ∈ exchange.toList ++ world.signed :=
            fun _exchange _entry member => List.mem_append_right _ member
          exact
            { aligned := by
                intro other member
                rcases List.mem_or_eq_of_mem_set member with old | same
                · exact sound.aligned other old
                · rw [same]
                  exact aligned.step input
              built := by
                intro entry member
                rcases List.mem_append.mp member with new | old
                · obtain ⟨consistent, derived, -⟩ :=
                    aligned.signs_call (Option.mem_toList.mp new)
                  exact consistent.transcript derived
                · exact sound.built entry old
              origin := by
                intro entry member responder trusted
                rcases List.mem_append.mp member with new | old
                · obtain ⟨consistent, derived, completing⟩ :=
                    aligned.signs_call (Option.mem_toList.mp new)
                  obtain ⟨other, signed, signer, message⟩ := accepted entry
                    (completing (consistent.role.symm.trans responder)) trusted
                  obtain ⟨first, member, rest⟩ := sound.first_signer
                    (consistent.transcript derived) responder trusted signed signer message
                  exact ⟨first, kept _ member, rest⟩
                · obtain ⟨first, member, rest⟩ := sound.origin entry old responder trusted
                  exact ⟨first, kept _ member, rest⟩
              agreement := by
                intro entry member trusted
                rcases List.mem_append.mp member with new | old
                · obtain ⟨exchange, completed, same⟩ :=
                    Option.map_eq_some_iff.mp (Option.mem_toList.mp new)
                  obtain ⟨consistent, derived, peer⟩ := aligned.completes_call completed
                  subst same
                  dsimp only at trusted ⊢
                  rw [← peer] at trusted ⊢
                  obtain ⟨theirs, member, rest⟩ := sound.agrees (consistent.transcript derived)
                    trusted
                    (by
                      intro initiator own
                      apply unreflected
                      refine ⟨session, found, consistent.role.symm.trans initiator, ?_, ?_⟩
                      · rw [← peer, own, consistent.selfPublic]
                      · rw [completed]
                        rfl)
                    (accepted exchange completed trusted)
                  exact ⟨theirs, kept _ member, rest⟩
                · obtain ⟨theirs, member, rest⟩ := sound.agreement entry old trusted
                  exact ⟨theirs, kept _ member, rest⟩ }

/-- In every run in which no signature is forged and no initiator completes a pairing
with its own key, whoever establishes a session with an honest peer agrees with an
exchange of the opposite role in which that peer has signed. -/
theorem pairing_agreement (sodium : Sodium) (library : JsonLibrary)
    (honest : PublicKey → Prop) (moves : List Move)
    (unforged : Run.Meets (World.step sodium library) (World.Unforged sodium library honest)
      World.empty moves)
    (unreflected : Run.Meets (World.step sodium library)
      (fun world move => ¬ world.Reflected sodium library move) World.empty moves) :
    (Run.final (World.step sodium library) World.empty moves).Agreement honest := by
  have meets := Run.meets_and.mpr ⟨unforged, unreflected⟩
  exact (Run.invariant_final (World.Sound honest)
    (fun _world _move sound allowed => sound.step allowed.1 allowed.2) moves World.empty
    World.sound_empty meets).agreement

end World

/-! ### Two concrete runs -/

instance (sodium : Sodium) (library : JsonLibrary) (honest : PublicKey → Prop)
    [DecidablePred honest] (world : World) :
    (move : Move) → Decidable (world.Unforged sodium library honest move)
  | .create _ _ => inferInstanceAs (Decidable True)
  | .call index _ => inferInstanceAs (Decidable (∀ session ∈ world.sessions[index]?, _))

instance (sodium : Sodium) (library : JsonLibrary) (world : World) :
    (move : Move) → Decidable (world.Reflected sodium library move)
  | .create _ _ => inferInstanceAs (Decidable False)
  | .call index _ => inferInstanceAs (Decidable (∃ session ∈ world.sessions[index]?, _))

namespace StandIn

open SmartMic.StandIn

def honest (key : PublicKey) : Prop := key = (identity 1).public_ ∨ key = (identity 2).public_

instance : DecidablePred honest := fun key =>
  inferInstanceAs (Decidable (key = (identity 1).public_ ∨ key = (identity 2).public_))

def pairingMoves : List Move :=
  [.create (identity 1) .initiator, .create (identity 2) .responder,
    .call 1 (.armPairing sessionId code (some book)),
    .call 0 (.beginPairing sessionId code (scalar 3)),
    .call 1 (.datagram moment pair1), .call 0 (.datagram moment pair2),
    .call 1 (.datagram moment pair3), .call 0 (.datagram moment pair4)]

def reflectedPair2 : Bytes :=
  tagPairing :: (json.dump (pair2Json sodium (identity 1).public_
    (shareFor sodium (scalar 3) (generatorFor sodium sessionId code)))).getD []

/-- The PAIR4 with the signature of a PAIR3. -/
def reflect (datagram : Bytes) : Bytes :=
  match readPairing json (datagram.drop 1) with
  | .message _ fields =>
      match fromB64 sodium fields "sig" kSignatureBytes with
      | some signature => tagPairing :: (json.dump (pair4Json sodium signature)).getD []
      | none => []
  | _ => []

def reflectedMoves : List Move :=
  [.create (identity 1) .initiator, .call 0 (.beginPairing sessionId code (scalar 3)),
    .call 0 (.datagram moment reflectedPair2),
    .call 0 (.datagram moment (reflect (sentBy (receive phoneBegun.session reflectedPair2))))]

end StandIn

open SmartMic.StandIn SmartMic.Session.StandIn in
/-- The phone and the desk pair over a network that only delivers. -/
theorem pairing_agreement_delivered :
    (Run.final (World.step sodium json) World.empty pairingMoves).Agreement honest := by
  apply pairing_agreement
  · decide +kernel
  · decide +kernel

open SmartMic.StandIn SmartMic.Session.StandIn in
/-- The phone pairs with itself: its own signature comes back to it in a PAIR4. -/
theorem reflected_pairing_without_peer :
    Run.Meets (World.step sodium json) (World.Unforged sodium json honest) World.empty
        reflectedMoves ∧
      ¬ (Run.final (World.step sodium json) World.empty reflectedMoves).Agreement honest := by
  refine ⟨by decide +kernel, ?_⟩
  intro agreement
  have established : ∃ entry ∈ (Run.final (World.step sodium json) World.empty
      reflectedMoves).established, honest entry.1 ∧ entry.2.role = .initiator := by
    decide +kernel
  have initiators : ∀ entry ∈ (Run.final (World.step sodium json) World.empty
      reflectedMoves).signed, entry.role = .initiator := by
    decide +kernel
  obtain ⟨entry, member, trusted, role⟩ := established
  obtain ⟨theirs, signed, -, agrees⟩ := agreement entry member trusted
  exact agrees.role ((initiators theirs signed).trans role.symm)

end SmartMic.Session
