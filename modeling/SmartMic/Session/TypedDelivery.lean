import SmartMic.Session.Deliveries
import SmartMic.Session.StandIn

set_option autoImplicit false

/-! Any number of sessions over a network that an attacker controls. The sealed part of a
datagram is authentic as far as the AEAD goes; the tag that selects the handler stands in
front of it. Every call that sealed something is on record, and so is every delivery.

The AEAD and the key derivation are ideal by a condition on the datagrams that are
delivered, not by an assumption on all byte strings. -/

namespace SmartMic.Session

open SmartMic.Protocol SmartMic.Security SmartMic.Media

/-- What an application gave to a session. -/
inductive Given where
  | control (message : Message)
  | media (payload : Bytes)

def Delivery.isMedia : Delivery → Bool
  | .control _ => false
  | .media _ => true

def Given.tag : Given → UInt8
  | .control _ => tagControl
  | .media _ => tagMedia

/-- One use of the AEAD: what was given, the session key and the direction it was sealed
for, and the arguments of `crypto_secretbox_easy`. -/
structure Sealing where
  given : Given
  sessionKey : SessionKey
  direction : Direction
  plain : Bytes
  nonce : Bytes
  key : Bytes

/-- One delivery, with the state, the key and the sending direction of its session. -/
structure Passed where
  delivery : Delivery
  state : SessionState
  sessionKey : SessionKey
  direction : Direction

structure Wire where
  sessions : Nat → PeerSession
  sealings : List Sealing
  passed : List Passed

/-- What a call gives to its session. -/
def SessionInput.given : SessionInput → Option Given
  | .sendControl message => some (.control message)
  | .sendMedia payload => some (.media payload)
  | _ => none

section

variable (sodium : Sodium) (library : JsonLibrary)

/-- The text that is sealed for what was given. -/
def Given.plain : Given → Option Bytes
  | .control message => encode library message
  | .media payload => some payload

def PeerSession.sealing (session : PeerSession) (input : SessionInput) : List Sealing :=
  match input.given with
  | none => []
  | some given =>
      match given.plain library with
      | none => []
      | some plain =>
          if (session.react sodium library input).sent = [] then []
          else
            [{ given := given
               sessionKey := session.sessionKey
               direction := session.sendDirection
               plain := plain
               nonce := session.channel.sendNonce
               key := session.channel.sendKey }]

/-- One call on one of the sessions. -/
def Wire.step (wire : Wire) (input : Nat × SessionInput) : Wire :=
  let session := wire.sessions input.1
  let reaction := session.react sodium library input.2
  { sessions := fun index => if index = input.1 then reaction.session else wire.sessions index
    sealings := session.sealing sodium library input.2 ++ wire.sealings
    passed :=
      reaction.delivered.map
          (fun delivery =>
            { delivery := delivery
              state := session.state
              sessionKey := session.sessionKey
              direction := session.sendDirection }) ++
        wire.passed }

def Wire.open_ (devices : Nat → DeviceIdentity) (roles : Nat → PairingRole) : Wire :=
  { sessions := fun index => PeerSession.create (devices index) (roles index)
    sealings := []
    passed := [] }

/-- The delivery is what the sealing was given: a payload as it was, a message as it reads
from its text. -/
def Sealing.Delivers (sealing : Sealing) : Delivery → Prop
  | .media payload => sealing.given = .media payload
  | .control message =>
      ∃ sent, sealing.given = .control sent ∧ decode library sealing.plain = .ok message

/-- A delivery to an authenticated session of what was given, under the same session key,
for the same handler on the other side. -/
def Wire.TypeAuthentic (wire : Wire) : Prop :=
  ∀ passed ∈ wire.passed, passed.state = .authenticated ∧
    ∃ sealing ∈ wire.sealings, sealing.sessionKey = passed.sessionKey ∧
      sealing.direction = passed.direction.other ∧ sealing.Delivers library passed.delivery

/-- The sealing is the one that this body could stem from. -/
def PeerSession.Stems (session : PeerSession) (body plain : Bytes) (sealing : Sealing) : Prop :=
  sealing.plain = plain ∧ sealing.key = session.channel.recvKey ∧
    sealing.nonce = buildNonce session.channel.recvNoncePrefix (packetCounter body)

instance (session : PeerSession) (body plain : Bytes) (sealing : Sealing) :
    Decidable (session.Stems body plain sealing) :=
  inferInstanceAs (Decidable (_ ∧ _ ∧ _))

/-- No channel key is derived from another session key or for another direction. -/
def Separate (sealing : Sealing) (sessionKey : SessionKey) : Prop :=
  ∀ first ∈ [Direction.phoneToPc, .pcToPhone], ∀ second ∈ [Direction.phoneToPc, .pcToPhone],
    derive sodium 32 (sendKeyId first) sealing.sessionKey =
        derive sodium 32 (sendKeyId second) sessionKey →
      first = second ∧ sealing.sessionKey = sessionKey

instance (sealing : Sealing) (sessionKey : SessionKey) :
    Decidable (Separate sodium sealing sessionKey) :=
  inferInstanceAs (Decidable (∀ first ∈ [Direction.phoneToPc, .pcToPhone], _))

/-- Ideal primitives: a body opens only to what was sealed with its key and its nonce. -/
def Wire.Ideal (wire : Wire) : Nat × SessionInput → Prop
  | (index, .datagram _ (_ :: body)) =>
      (∀ plain ∈ ((wire.sessions index).channel.open_ sodium body).1,
        ∃ sealing ∈ wire.sealings, (wire.sessions index).Stems body plain sealing) ∧
      ∀ sealing ∈ wire.sealings, Separate sodium sealing (wire.sessions index).sessionKey
  | _ => True

/-- The tags that pass a plaintext on: media any, control one that decodes. -/
def handledUnder (tag : UInt8) (plain : Bytes) : Bool :=
  decide (tag = tagMedia) ||
    decide (tag = tagControl) && (decode library plain).toOption.isSome

/-- A genuine body that is passed on comes under a tag that it was sent with. -/
def Wire.Tagged (wire : Wire) : Nat × SessionInput → Prop
  | (index, .datagram _ (tag :: body)) =>
      (wire.sessions index).state = .authenticated →
      ∀ plain ∈ ((wire.sessions index).channel.open_ sodium body).1,
        handledUnder library tag plain = true →
        (∃ sealing ∈ wire.sealings, (wire.sessions index).Stems body plain sealing) →
        ∃ sealing ∈ wire.sealings, (wire.sessions index).Stems body plain sealing ∧
          sealing.given.tag = tag
  | _ => True

instance (wire : Wire) : (input : Nat × SessionInput) → Decidable (wire.Ideal sodium input)
  | (index, .datagram _ (_ :: body)) =>
      inferInstanceAs (Decidable
        ((∀ plain ∈ ((wire.sessions index).channel.open_ sodium body).1, _) ∧ _))
  | (_, .datagram _ []) => isTrue trivial
  | (_, .armPairing _ _ _) => isTrue trivial
  | (_, .beginPairing _ _ _) => isTrue trivial
  | (_, .resendPairingHello) => isTrue trivial
  | (_, .adoptSessionKey _) => isTrue trivial
  | (_, .sendControl _) => isTrue trivial
  | (_, .sendMedia _) => isTrue trivial
  | (_, .withBook _) => isTrue trivial

instance (wire : Wire) : (input : Nat × SessionInput) → Decidable (wire.Tagged sodium library input)
  | (index, .datagram _ (_ :: body)) =>
      inferInstanceAs (Decidable
        (_ → ∀ plain ∈ ((wire.sessions index).channel.open_ sodium body).1, _))
  | (_, .datagram _ []) => isTrue trivial
  | (_, .armPairing _ _ _) => isTrue trivial
  | (_, .beginPairing _ _ _) => isTrue trivial
  | (_, .resendPairingHello) => isTrue trivial
  | (_, .adoptSessionKey _) => isTrue trivial
  | (_, .sendControl _) => isTrue trivial
  | (_, .sendMedia _) => isTrue trivial
  | (_, .withBook _) => isTrue trivial

end

/-! ### Keys -/

section

variable (sodium : Sodium) (library : JsonLibrary)

/-- The keys of a channel that has been set up are derived from the session key. -/
structure PeerSession.Keyed (session : PeerSession) : Prop where
  send : session.channel.initialised = true →
    session.channel.sendKey =
      derive sodium 32 (sendKeyId session.sendDirection) session.sessionKey
  recv : session.channel.initialised = true →
    session.channel.recvKey =
      derive sodium 32 (sendKeyId session.sendDirection.other) session.sessionKey

theorem PeerSession.keyed_create (self_ : DeviceIdentity) (role : PairingRole) :
    (PeerSession.create self_ role).Keyed sodium :=
  { send := fun impossible => Bool.noConfusion impossible
    recv := fun impossible => Bool.noConfusion impossible }

theorem PeerSession.sendDirection_of_role {first second : PeerSession}
    (role : first.role = second.role) : first.sendDirection = second.sendDirection := by
  unfold PeerSession.sendDirection
  rw [role]

theorem PeerSession.Keyed.keep {before after : PeerSession} (keyed : before.Keyed sodium)
    (role : after.role = before.role) (sessionKey : after.sessionKey = before.sessionKey)
    (keys : before.channel.SameKeys after.channel) : after.Keyed sodium := by
  constructor
  · rw [PeerSession.sendDirection_of_role role, sessionKey, keys.initialised, keys.sendKey]
    exact keyed.send
  · rw [PeerSession.sendDirection_of_role role, sessionKey, keys.initialised, keys.recvKey]
    exact keyed.recv

theorem PeerSession.Keyed.rekey {before after : PeerSession} {key : SessionKey}
    (rekeyed : before.Rekeyed sodium key after) : after.Keyed sodium := by
  constructor
  · rw [PeerSession.sendDirection_of_role rekeyed.role, rekeyed.sessionKey, rekeyed.channel]
    exact fun _ => rfl
  · rw [PeerSession.sendDirection_of_role rekeyed.role, rekeyed.sessionKey, rekeyed.channel]
    exact fun _ => rfl

theorem PeerSession.Keyed.react {session : PeerSession} (keyed : session.Keyed sodium)
    (input : SessionInput) : (session.react sodium library input).session.Keyed sodium := by
  rcases input.kinds with sends | ⟨moment, tag, body, isDatagram, foreign⟩ | ⟨quiet, plain⟩
  · obtain ⟨_, _, role, sessionKey, _, text, channel, _⟩ := session.react_send sodium library sends
    apply keyed.keep sodium role sessionKey
    rcases channel with same | sealed_
    · rw [same]
      exact SecureChannel.SameKeys.refl _
    · rw [sealed_]
      exact (session.channel.seal_keeps sodium text).1
  · rw [isDatagram]
    obtain ⟨role, sessionKey, _, channel, _⟩ :=
      session.react_sealed sodium library moment body foreign
    apply keyed.keep sodium role sessionKey
    rcases channel with same | opened
    · rw [same]
      exact SecureChannel.SameKeys.refl _
    · rw [opened]
      exact (session.channel.open_keeps sodium body).1
  · obtain ⟨_, ⟨key, _, same | rekeyed⟩ | ⟨_, same⟩⟩ :=
      session.react_pairing sodium library quiet plain
    · rw [same]
      exact keyed
    · exact PeerSession.Keyed.rekey sodium rekeyed
    · apply keyed.keep sodium same.role same.sessionKey
      rw [same.channel]
      exact SecureChannel.SameKeys.refl _

/-- A record is of the text of what was given, under the key for its direction. -/
structure Sealing.Sound (sealing : Sealing) : Prop where
  key : sealing.key = derive sodium 32 (sendKeyId sealing.direction) sealing.sessionKey
  plain : sealing.given.plain library = some sealing.plain

theorem SessionInput.sends_of_given {input : SessionInput} {given : Given}
    (isGiven : input.given = some given) : input.sends = true := by
  cases input with
  | sendControl message => rfl
  | sendMedia payload => rfl
  | datagram moment bytes => cases isGiven
  | armPairing sessionId code book => cases isGiven
  | beginPairing sessionId code scalar => cases isGiven
  | resendPairingHello => cases isGiven
  | adoptSessionKey key => cases isGiven
  | withBook work => cases isGiven

theorem PeerSession.Keyed.sealing {session : PeerSession} (keyed : session.Keyed sodium)
    (input : SessionInput) :
    ∀ sealing ∈ session.sealing sodium library input, sealing.Sound sodium library := by
  intro sealing member
  unfold PeerSession.sealing at member
  split at member
  · exact absurd member List.not_mem_nil
  · rename_i given isGiven
    split at member
    · exact absurd member List.not_mem_nil
    · rename_i plain isPlain
      split at member
      · exact absurd member List.not_mem_nil
      · rename_i sent
        rw [List.mem_singleton.mp member]
        refine { key := ?_, plain := isPlain }
        obtain ⟨_, _, _, _, _, text, _, seals⟩ :=
          session.react_send sodium library (SessionInput.sends_of_given isGiven)
        obtain ⟨_, sealed_, _⟩ := seals sent
        exact keyed.send ((session.channel.seal_counter sodium text).1 sealed_).1

/-! ### Deliveries -/

theorem PeerSession.react_delivers (session : PeerSession) (input : SessionInput) :
    (session.react sodium library input).delivered = [] ∨
    ∃ moment tag body plain delivery controlReplay, input = .datagram moment (tag :: body) ∧
      (session.react sodium library input).delivered = [delivery] ∧
      session.state = .authenticated ∧
      (session.channel.open_ sodium body).1 = some plain ∧
      session.Passes library tag plain delivery controlReplay := by
  rcases input.kinds with sends | ⟨moment, tag, body, isDatagram, foreign⟩ | ⟨quiet, plain⟩
  · exact Or.inl (session.react_send sodium library sends).1
  · rw [isDatagram]
    rcases session.onDatagram_passes sodium library moment body foreign with
      ⟨plain, channel, delivery, controlReplay, authenticated, opened, passes, reacted⟩ |
        ⟨_, channel, rejected, _, reacted⟩
    · right
      refine ⟨moment, tag, body, plain, delivery, controlReplay, rfl,
        congrArg Reaction.delivered reacted, authenticated, ?_, passes⟩
      rw [opened]
    · exact Or.inl (congrArg Reaction.delivered reacted)
  · exact Or.inl (session.react_pairing sodium library quiet plain).1

/-- A plaintext that is passed on under the tag it was sealed with is what was given. -/
theorem Sealing.Sound.delivers {sealing : Sealing} (sound : sealing.Sound sodium library)
    {session : PeerSession} {delivery : Delivery} {controlReplay : ReplayWindow 512}
    (passes : session.Passes library sealing.given.tag sealing.plain delivery controlReplay) :
    sealing.Delivers library delivery := by
  have plain := sound.plain
  rcases passes.cases with ⟨media, isMedia, _⟩ | ⟨control, message, decoded, _, isControl⟩
  · rw [isMedia]
    cases given : sealing.given with
    | control sent =>
        rw [given] at media
        change tagControl = tagMedia at media
        exact absurd media (by decide)
    | media payload =>
        rw [given] at plain
        change some payload = some sealing.plain at plain
        rw [← Option.some.inj plain]
        exact given
  · rw [isControl]
    cases given : sealing.given with
    | control sent => exact ⟨sent, given, decoded⟩
    | media payload =>
        rw [given] at control
        change tagMedia = tagControl at control
        exact absurd control (by decide)

theorem PeerSession.Passes.handled {session : PeerSession} {tag : UInt8} {plain : Bytes}
    {delivery : Delivery} {controlReplay : ReplayWindow 512}
    (passes : session.Passes library tag plain delivery controlReplay) :
    handledUnder library tag plain = true := by
  unfold handledUnder
  rcases passes.cases with ⟨media, _⟩ | ⟨control, message, decoded, _⟩
  · rw [decide_eq_true media]
    rfl
  · rw [decide_eq_true control, decoded, Bool.true_and]
    exact Bool.or_true _

/-! ### Runs -/

structure Wire.Sound (wire : Wire) : Prop where
  keyed : ∀ index, (wire.sessions index).Keyed sodium
  sealings : ∀ sealing ∈ wire.sealings, sealing.Sound sodium library
  authentic : wire.TypeAuthentic library

theorem Wire.sound_open (devices : Nat → DeviceIdentity) (roles : Nat → PairingRole) :
    (Wire.open_ devices roles).Sound sodium library :=
  { keyed := fun index => PeerSession.keyed_create sodium (devices index) (roles index)
    sealings := fun _ member => absurd member List.not_mem_nil
    authentic := fun _ member => absurd member List.not_mem_nil }

theorem sendKeyId_mem (direction : Direction) :
    direction ∈ [Direction.phoneToPc, .pcToPhone] := by
  cases direction <;> decide

/-- One delivery under ideal primitives, with a tag that its body was sent with. -/
theorem Wire.Sound.delivers {wire : Wire} (sound : wire.Sound sodium library) {index : Nat}
    {moment : Moment} {tag : UInt8} {body plain : Bytes} {delivery : Delivery}
    {controlReplay : ReplayWindow 512}
    (ideal : wire.Ideal sodium (index, .datagram moment (tag :: body)))
    (tagged : wire.Tagged sodium library (index, .datagram moment (tag :: body)))
    (authenticated : (wire.sessions index).state = .authenticated)
    (opens : ((wire.sessions index).channel.open_ sodium body).1 = some plain)
    (passes : (wire.sessions index).Passes library tag plain delivery controlReplay) :
    ∃ sealing ∈ wire.sealings,
      sealing.sessionKey = (wire.sessions index).sessionKey ∧
      sealing.direction = (wire.sessions index).sendDirection.other ∧
      sealing.Delivers library delivery := by
  have ready := SecureChannel.open_initialised opens
  obtain ⟨sealing, member, stems, sameTag⟩ := tagged authenticated plain opens
    (passes.handled library) (ideal.1 plain opens)
  obtain ⟨samePlain, sameKey, _⟩ := stems
  have sealed_ := sound.sealings sealing member
  rw [sealed_.key, (sound.keyed index).recv ready] at sameKey
  obtain ⟨direction, key⟩ := ideal.2 sealing member _ (sendKeyId_mem _) _ (sendKeyId_mem _) sameKey
  refine ⟨sealing, member, key, direction, ?_⟩
  rw [← samePlain, ← sameTag] at passes
  exact sealed_.delivers sodium library passes

theorem Wire.Sound.step {wire : Wire} (sound : wire.Sound sodium library)
    (input : Nat × SessionInput) (ideal : wire.Ideal sodium input)
    (tagged : wire.Tagged sodium library input) :
    (wire.step sodium library input).Sound sodium library := by
  obtain ⟨index, call⟩ := input
  constructor
  · intro other
    change (if other = index then _ else _ : PeerSession).Keyed sodium
    split
    · exact (sound.keyed index).react sodium library call
    · exact sound.keyed other
  · intro sealing member
    rcases List.mem_append.mp member with new | old
    · exact (sound.keyed index).sealing sodium library call sealing new
    · exact sound.sealings sealing old
  · intro passed member
    rcases List.mem_append.mp member with new | old
    · rcases (wire.sessions index).react_delivers sodium library call with
        nothing | ⟨moment, tag, body, plain, delivery, controlReplay, isDatagram, delivered,
          authenticated, opens, passes⟩
      · rw [nothing] at new
        exact absurd new List.not_mem_nil
      · subst isDatagram
        rw [delivered] at new
        rw [List.mem_singleton.mp new]
        refine ⟨authenticated, ?_⟩
        obtain ⟨sealing, given, key, direction, delivers⟩ :=
          sound.delivers sodium library ideal tagged authenticated opens passes
        exact ⟨sealing, List.mem_append_right _ given, key, direction, delivers⟩
    · obtain ⟨authenticated, sealing, given, rest⟩ := sound.authentic passed old
      exact ⟨authenticated, sealing, List.mem_append_right _ given, rest⟩

end

/-- With ideal primitives, any number of sessions under any attack deliver only what was
given for the same handler under the same key, as long as no genuine body is passed on
under a tag that it was not sent with. -/
theorem deliveries_type_authentic (sodium : Sodium) (library : JsonLibrary)
    (devices : Nat → DeviceIdentity) (roles : Nat → PairingRole)
    (inputs : List (Nat × SessionInput))
    (ideal : Run.Meets (Wire.step sodium library) (Wire.Ideal sodium) (Wire.open_ devices roles)
      inputs)
    (tagged : Run.Meets (Wire.step sodium library) (Wire.Tagged sodium library)
      (Wire.open_ devices roles) inputs) :
    (Run.final (Wire.step sodium library) (Wire.open_ devices roles) inputs).TypeAuthentic
      library := by
  have both := Run.meets_and.mpr ⟨ideal, tagged⟩
  exact (Run.invariant_final (Wire.Sound sodium library)
    (fun _ input sound allowed => sound.step sodium library input allowed.1 allowed.2)
    inputs _ (Wire.sound_open sodium library devices roles) both).authentic

namespace StandIn

open SmartMic.StandIn

def devices (index : Nat) : DeviceIdentity := identity (index + 1)
def roles (index : Nat) : PairingRole := if index = 0 then .initiator else .responder

def pairedAndTalking : List (Nat × SessionInput) :=
  [(0, .beginPairing sessionId code (scalar 3)), (1, .armPairing sessionId code (some book)),
    (1, .datagram moment pair1), (0, .datagram moment pair2), (1, .datagram moment pair3),
    (0, .datagram moment pair4), (0, .sendControl (controlMessage .startPtt 1#64))]

def talk : Bytes := sentBy (sendMessage phonePaired.session .startPtt 1#64)
def retagged : Bytes := tagMedia :: talk.tail

end StandIn

theorem deliveries_type_authentic_talking :
    (Run.final (Wire.step StandIn.sodium StandIn.controlJson)
      (Wire.open_ StandIn.devices StandIn.roles)
      (StandIn.pairedAndTalking ++ [(1, .datagram StandIn.moment StandIn.talk)])).TypeAuthentic
        StandIn.controlJson := by
  apply deliveries_type_authentic
  · decide +kernel
  · decide +kernel

/-- A control datagram whose tag is rewritten is delivered as media, with ideal primitives. -/
theorem control_delivered_as_media :
    Run.Meets (Wire.step StandIn.sodium StandIn.controlJson) (Wire.Ideal StandIn.sodium)
      (Wire.open_ StandIn.devices StandIn.roles)
      (StandIn.pairedAndTalking ++ [(1, .datagram StandIn.moment StandIn.retagged)]) ∧
    ¬ (Run.final (Wire.step StandIn.sodium StandIn.controlJson)
      (Wire.open_ StandIn.devices StandIn.roles)
      (StandIn.pairedAndTalking ++ [(1, .datagram StandIn.moment StandIn.retagged)])).TypeAuthentic
        StandIn.controlJson := by
  refine ⟨by decide +kernel, fun authentic => ?_⟩
  have reached : ∀ wire, wire = Run.final (Wire.step StandIn.sodium StandIn.controlJson)
      (Wire.open_ StandIn.devices StandIn.roles) (StandIn.pairedAndTalking ++
        [(1, .datagram StandIn.moment StandIn.retagged)]) →
      wire.passed.any (fun passed => passed.delivery.isMedia) = true ∧
        wire.sealings.all (fun sealing => sealing.given.tag == tagControl) = true := by
    intro wire same
    rw [same]
    decide +kernel
  obtain ⟨media, controls⟩ := reached _ rfl
  obtain ⟨passed, member, isMedia⟩ := List.any_eq_true.mp media
  obtain ⟨_, sealing, given, _, _, delivers⟩ := authentic passed member
  have control := beq_iff_eq.mp (List.all_eq_true.mp controls sealing given)
  cases delivered : passed.delivery with
  | control message =>
      rw [delivered] at isMedia
      cases isMedia
  | media payload =>
      rw [delivered] at delivers
      change sealing.given = .media payload at delivers
      rw [delivers] at control
      change tagMedia = tagControl at control
      exact absurd control (by decide)

end SmartMic.Session
