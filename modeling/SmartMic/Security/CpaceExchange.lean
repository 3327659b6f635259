import SmartMic.Security.KeyAgreement
import SmartMic.Security.StandIn
import Mathlib.Algebra.Module.ZMod
import Mathlib.Data.ZMod.Basic
import Mathlib.FieldTheory.Finite.Basic

set_option autoImplicit false

/-! An initiator and a responder that may have been given different codes and session ids.
The group is one whose scalars are the numbers modulo a prime, behind the encodings of the
library. Hashes and signatures have a fixed length, so that none is injective on all
inputs: what is assumed of them is that the inputs of one exchange do not collide. -/

namespace SmartMic.Security

/-- A group whose scalars are the numbers modulo a prime, and its canonical encodings: the
identity is the zero bytes, and other bytes are refused. -/
structure Sodium.PrimeOrder (sodium : Sodium) (order : Nat) (G : Type*) [AddCommGroup G]
    [Module (ZMod order) G] where
  encode : G → GroupElement
  scalar : Scalar → ZMod order
  canonical : Function.Injective encode
  identity : ∀ point, isZero (encode point).val = true ↔ point = 0
  valid : ∀ element, sodium.ristrettoIsValidPoint element = true ↔
    ∃ point, encode point = element
  scalarMult : ∀ factor point, scalar factor • point ≠ 0 →
    sodium.ristrettoScalarMult factor (encode point) = some (encode (scalar factor • point))
  refused : ∀ factor element, sodium.ristrettoIsValidPoint element = false →
    sodium.ristrettoScalarMult factor element = none
  failed : ∀ factor point, scalar factor • point = 0 →
    sodium.ristrettoScalarMult factor (encode point) = none
  fromHash : ∀ hash, ∃ point, encode point = sodium.ristrettoFromHash hash

section

variable {sodium : Sodium} {order : Nat} {G : Type*} [AddCommGroup G]
  [Module (ZMod order) G]

theorem Sodium.PrimeOrder.isPoint (group : sodium.PrimeOrder order G) {point : G}
    (proper : point ≠ 0) : sodium.IsPoint (group.encode point) :=
  ⟨Bool.eq_false_iff.mpr ((group.identity point).not.mpr proper),
    (group.valid _).mpr ⟨point, rfl⟩⟩

theorem Sodium.PrimeOrder.of_isPoint (group : sodium.PrimeOrder order G)
    {element : GroupElement} (isPoint : sodium.IsPoint element) :
    ∃ point, point ≠ 0 ∧ group.encode point = element := by
  obtain ⟨point, same⟩ := (group.valid element).mp isPoint.2
  refine ⟨point, fun zero => ?_, same⟩
  have flat := (group.identity point).mpr zero
  rw [same, isPoint.1] at flat
  cases flat

theorem Sodium.PrimeOrder.generator (group : sodium.PrimeOrder order G)
    {sessionId code : Bytes} (proper : isZero (generatorFor sodium sessionId code).val = false) :
    sodium.IsPoint (generatorFor sodium sessionId code) :=
  ⟨proper, (group.valid _).mpr (group.fromHash _)⟩

theorem Sodium.PrimeOrder.mult [Fact order.Prime] (group : sodium.PrimeOrder order G)
    {factor : Scalar} (nonzero : group.scalar factor ≠ 0) {point : G} (proper : point ≠ 0) :
    group.scalar factor • point ≠ 0 ∧
      sodium.ristrettoScalarMult factor (group.encode point) =
        some (group.encode (group.scalar factor • point)) :=
  ⟨smul_ne_zero nonzero proper, group.scalarMult factor point (smul_ne_zero nonzero proper)⟩

theorem Sodium.PrimeOrder.usable [Fact order.Prime] (group : sodium.PrimeOrder order G)
    {factor : Scalar} (nonzero : group.scalar factor ≠ 0) :
    sodium.Usable factor := by
  intro element isPoint
  obtain ⟨point, proper, rfl⟩ := group.of_isPoint isPoint
  obtain ⟨away, product⟩ := group.mult nonzero proper
  exact ⟨_, product, group.isPoint away⟩

theorem Sodium.PrimeOrder.of_mult (group : sodium.PrimeOrder order G) {factor : Scalar}
    {element product : GroupElement}
    (given : sodium.ristrettoScalarMult factor element = some product) :
    ∃ point, group.encode point = element ∧
      group.encode (group.scalar factor • point) = product := by
  cases valid : sodium.ristrettoIsValidPoint element with
  | false =>
      rw [group.refused factor element valid] at given
      cases given
  | true =>
      obtain ⟨point, rfl⟩ := (group.valid element).mp valid
      by_cases zero : group.scalar factor • point = 0
      · rw [group.failed factor point zero] at given
        cases given
      · rw [group.scalarMult factor point zero] at given
        exact ⟨point, rfl, Option.some.inj given⟩

theorem Sodium.PrimeOrder.share [Fact order.Prime] (group : sodium.PrimeOrder order G)
    {factor : Scalar} (nonzero : group.scalar factor ≠ 0) {point : G} (proper : point ≠ 0) :
    shareFor sodium factor (group.encode point) = group.encode (group.scalar factor • point) := by
  unfold shareFor
  rw [(group.mult nonzero proper).2]
  rfl

/-- Two generators that come to one secret, with the two scalars applied in either order, are
the same. -/
theorem Sodium.PrimeOrder.generator_of_secret [Fact order.Prime]
    (group : sodium.PrimeOrder order G) {first second : Scalar}
    (nonzero : group.scalar first ≠ 0) (nonzero' : group.scalar second ≠ 0)
    {generator generator' : GroupElement} (isPoint : sodium.IsPoint generator)
    (isPoint' : sodium.IsPoint generator')
    (same : shareFor sodium first (shareFor sodium second generator') =
      shareFor sodium second (shareFor sodium first generator)) : generator = generator' := by
  obtain ⟨point, proper, rfl⟩ := group.of_isPoint isPoint
  obtain ⟨point', proper', rfl⟩ := group.of_isPoint isPoint'
  rw [group.share nonzero proper, group.share nonzero' proper',
    group.share nonzero (smul_ne_zero nonzero' proper'),
    group.share nonzero' (smul_ne_zero nonzero proper)] at same
  have products := group.canonical same
  rw [smul_comm] at products
  have once := smul_right_injective G nonzero' products
  rw [smul_right_injective G nonzero once]

theorem Sodium.PrimeOrder.commutes (group : sodium.PrimeOrder order G) : sodium.Commutes := by
  intro first second element firstShare secondShare given given'
  obtain ⟨point, same, rfl⟩ := group.of_mult given
  obtain ⟨point', same', rfl⟩ := group.of_mult given'
  have equal : point' = point := group.canonical (same'.trans same.symm)
  subst equal
  have swapped := smul_comm (group.scalar first) (group.scalar second) point'
  by_cases zero : group.scalar first • group.scalar second • point' = 0
  · rw [group.failed first _ zero, group.failed second _ (swapped ▸ zero)]
  · rw [group.scalarMult first _ zero, group.scalarMult second _ (swapped ▸ zero), swapped]

end

/-! ### The two sides -/

/-- What the two sides start from. -/
structure CpaceExchange where
  initiator : DeviceIdentity
  responder : DeviceIdentity
  initiatorSession : Bytes
  responderSession : Bytes
  initiatorCode : Bytes
  responderCode : Bytes
  initiatorScalar : Scalar
  responderScalar : Scalar

variable (sodium : Sodium) (exchange : CpaceExchange)

def CpaceExchange.initiatorFresh : PairingExchange :=
  PairingExchange.create sodium exchange.initiator .initiator exchange.initiatorSession
    exchange.initiatorCode exchange.initiatorScalar

def CpaceExchange.responderFresh : PairingExchange :=
  PairingExchange.create sodium exchange.responder .responder exchange.responderSession
    exchange.responderCode exchange.responderScalar

def CpaceExchange.initiatorMeets : PairingError × PairingExchange :=
  (exchange.initiatorFresh sodium).onPeer sodium (exchange.responderFresh sodium).selfPublic
    (exchange.responderFresh sodium).ourShare

def CpaceExchange.responderMeets : PairingError × PairingExchange :=
  (exchange.responderFresh sodium).onPeer sodium (exchange.initiatorFresh sodium).selfPublic
    (exchange.initiatorFresh sodium).ourShare

def CpaceExchange.initiatorSide : PairingExchange := (exchange.initiatorMeets sodium).2

def CpaceExchange.responderSide : PairingExchange := (exchange.responderMeets sodium).2

/-- Both sides were given one code and one session id. -/
def CpaceExchange.Shares (exchange : CpaceExchange) : Prop :=
  exchange.initiatorCode = exchange.responderCode ∧
    exchange.initiatorSession = exchange.responderSession

/-- The secret that a side multiplies out of the share it is given. -/
def CpaceExchange.initiatorSecret : GroupElement :=
  shareFor sodium exchange.initiatorScalar (exchange.responderFresh sodium).ourShare

def CpaceExchange.responderSecret : GroupElement :=
  shareFor sodium exchange.responderScalar (exchange.initiatorFresh sodium).ourShare

/-- What the session keys of the two sides are hashed from. -/
def CpaceExchange.initiatorInput : Bytes :=
  (exchange.initiatorSecret sodium).val ++ (exchange.initiatorSide sodium).buildTranscript

def CpaceExchange.responderInput : Bytes :=
  (exchange.responderSecret sodium).val ++ (exchange.responderSide sodium).buildTranscript

/-- No hash of the exchange collides, no generator is the identity, and each signature
holds for the message it was made on and for no other of the exchange. -/
structure CpaceExchange.Ideal : Prop where
  proper : ∀ seed ∈ [generatorSeed exchange.initiatorSession exchange.initiatorCode,
    generatorSeed exchange.responderSession exchange.responderCode],
    isZero (sodium.ristrettoFromHash (sodium.genericHash 64 [] seed)).val = false
  generators : Set.InjOn (fun seed => sodium.ristrettoFromHash (sodium.genericHash 64 [] seed))
    {generatorSeed exchange.initiatorSession exchange.initiatorCode,
      generatorSeed exchange.responderSession exchange.responderCode}
  keys : Set.InjOn (fun input => sodium.genericHash 32 kDsiSessionKey input)
    {exchange.initiatorInput sodium, exchange.responderInput sodium}
  paired : exchange.initiator.Paired sodium ∧ exchange.responder.Paired sodium
  initiatorBinds : exchange.initiator.Binds sodium (exchange.initiatorSide sodium).signedMessage
    (exchange.responderSide sodium).signedMessage
  responderBinds : exchange.responder.Binds sodium (exchange.responderSide sodium).signedMessage
    (exchange.initiatorSide sodium).signedMessage

structure CpaceExchange.Correct : Prop where
  taken : (exchange.initiatorMeets sodium).1 = .none ∧ (exchange.responderMeets sodium).1 = .none
  key : (exchange.initiatorSide sodium).sessionKey = (exchange.responderSide sodium).sessionKey ↔
    exchange.Shares
  responderVerifies : (exchange.responderSide sodium).verifyPeerAuth sodium
    ((exchange.initiatorSide sodium).authSignature sodium) = .none ↔ exchange.Shares
  initiatorVerifies : (exchange.initiatorSide sodium).verifyPeerAuth sodium
    ((exchange.responderSide sodium).authSignature sodium) = .none ↔ exchange.Shares
  initiatorLater : ∀ peerPublic peerShare,
    (exchange.initiatorSide sodium).onPeer sodium peerPublic peerShare =
      (.wrongState, exchange.initiatorSide sodium)
  responderLater : ∀ peerPublic peerShare,
    (exchange.responderSide sodium).onPeer sodium peerPublic peerShare =
      (.wrongState, exchange.responderSide sodium)

/-! ### Taking the other side -/

theorem PairingExchange.sessionKey_of_point {sodium : Sodium} {exchange : PairingExchange}
    (fresh : exchange.derived = false) (peerPublic : PublicKey) {peerShare : GroupElement}
    (isPoint : sodium.IsPoint peerShare) {shared : GroupElement}
    (product : sodium.ristrettoScalarMult exchange.scalar peerShare = some shared) :
    (exchange.onPeer sodium peerPublic peerShare).2.sessionKey =
      deriveSessionKey sodium shared
        (exchange.onPeer sodium peerPublic peerShare).2.transcript := by
  unfold PairingExchange.onPeer
  rw [if_neg (Bool.eq_false_iff.mp fresh), if_neg (Bool.eq_false_iff.mp isPoint.1),
    if_neg (Bool.eq_false_iff.not.mpr (not_not.mpr isPoint.2))]
  dsimp only
  rw [product]

theorem generatorSeed_injective {sessionId code code' : Bytes}
    (same : generatorSeed sessionId code = generatorSeed sessionId code') : code = code' := by
  unfold generatorSeed at same
  exact lengthPrefixed_injective (List.append_cancel_left (List.append_cancel_right same))

section Sides

variable {sodium : Sodium} {order : Nat} {G : Type*} [AddCommGroup G] [Module (ZMod order) G]
  {exchange : CpaceExchange}

/-- One side, once it was given what the other sends: it took the other, and its key is the
hash of the product and of the transcript. -/
structure PairingExchange.Met (sodium : Sodium) (device : DeviceIdentity) (role : PairingRole)
    (sessionId : Bytes) (generator : GroupElement) (scalar : Scalar)
    (pub : PublicKey) (share : GroupElement) (answer : PairingError × PairingExchange) : Prop where
  taken : answer.1 = .none
  keyed : answer.2.Keyed sodium device role sessionId generator
  derived : answer.2.derived = true
  peerPublic : answer.2.peerPublic = pub
  peerShare : answer.2.peerShare = share
  ourShare : answer.2.ourShare = shareFor sodium scalar generator
  sessionKey : answer.2.sessionKey = sodium.genericHash 32 kDsiSessionKey
    ((shareFor sodium scalar share).val ++ answer.2.buildTranscript)

theorem PairingExchange.create_met {scalar : Scalar} (usable : sodium.Usable scalar)
    (device : DeviceIdentity) (role : PairingRole) (sessionId code : Bytes)
    (peerPublic : PublicKey) {peerShare : GroupElement} (isPoint : sodium.IsPoint peerShare) :
    PairingExchange.Met sodium device role sessionId (generatorFor sodium sessionId code) scalar
      peerPublic peerShare
      ((PairingExchange.create sodium device role sessionId code scalar).onPeer sodium peerPublic
        peerShare) := by
  have keyed := PairingExchange.create_keyed device role sessionId code usable
  have fresh : (PairingExchange.create sodium device role sessionId code scalar).derived = false :=
    rfl
  have key := PairingExchange.sessionKey_of_point fresh peerPublic isPoint
    (shareFor_spec usable isPoint).1
  obtain ⟨after, answer, stays, took⟩ := keyed.takes rfl peerPublic isPoint
  rw [answer] at key ⊢
  exact
    { taken := rfl
      keyed := stays
      derived := took.derived
      peerPublic := took.peerPublic
      peerShare := took.peerShare
      ourShare := took.ourShare
      sessionKey := by
        rw [key, stays.consistent.transcript took.derived]
        rfl }

section

variable (group : sodium.PrimeOrder order G) (ideal : exchange.Ideal sodium)
  (nonzero : group.scalar exchange.initiatorScalar ≠ 0)
  (nonzero' : group.scalar exchange.responderScalar ≠ 0)

include group ideal

theorem CpaceExchange.initiatorGenerator : sodium.IsPoint
    (generatorFor sodium exchange.initiatorSession exchange.initiatorCode) :=
  group.generator (ideal.proper _ (List.mem_cons_self ..))

theorem CpaceExchange.responderGenerator : sodium.IsPoint
    (generatorFor sodium exchange.responderSession exchange.responderCode) :=
  group.generator (ideal.proper _ (List.mem_cons_of_mem _ (List.mem_cons_self ..)))

variable [Fact order.Prime]

include nonzero nonzero'

theorem CpaceExchange.initiator_met : PairingExchange.Met sodium exchange.initiator .initiator
    exchange.initiatorSession (generatorFor sodium exchange.initiatorSession exchange.initiatorCode)
    exchange.initiatorScalar exchange.responder.public_ (exchange.responderFresh sodium).ourShare
    (exchange.initiatorMeets sodium) :=
  PairingExchange.create_met (group.usable nonzero) _ _ _ _ _
    (shareFor_spec (group.usable nonzero') (responderGenerator group ideal)).2

theorem CpaceExchange.responder_met : PairingExchange.Met sodium exchange.responder .responder
    exchange.responderSession (generatorFor sodium exchange.responderSession exchange.responderCode)
    exchange.responderScalar exchange.initiator.public_ (exchange.initiatorFresh sodium).ourShare
    (exchange.responderMeets sodium) :=
  PairingExchange.create_met (group.usable nonzero') _ _ _ _ _
    (shareFor_spec (group.usable nonzero) (initiatorGenerator group ideal)).2

theorem CpaceExchange.facing :
    (exchange.initiatorSide sodium).Facing (exchange.responderSide sodium) := by
  have initiator := initiator_met group ideal nonzero nonzero'
  have responder := responder_met group ideal nonzero nonzero'
  exact
    { derived := ⟨initiator.derived, responder.derived⟩
      publics := ⟨initiator.peerPublic.trans responder.keyed.consistent.selfPublic.symm,
        responder.peerPublic.trans initiator.keyed.consistent.selfPublic.symm⟩
      shares := ⟨initiator.peerShare.trans responder.ourShare.symm,
        responder.peerShare.trans initiator.ourShare.symm⟩ }

/-- Equal keys mean equal secrets and transcripts, equal secrets mean equal generators, and
those mean equal codes. -/
theorem CpaceExchange.key_iff :
    (exchange.initiatorSide sodium).sessionKey = (exchange.responderSide sodium).sessionKey ↔
      exchange.Shares := by
  have initiator := initiator_met group ideal nonzero nonzero'
  have responder := responder_met group ideal nonzero nonzero'
  constructor
  · intro same
    unfold CpaceExchange.initiatorSide CpaceExchange.responderSide at same
    rw [initiator.sessionKey, responder.sessionKey] at same
    have inputs : exchange.initiatorInput sodium = exchange.responderInput sodium :=
      ideal.keys (Set.mem_insert ..) (Set.mem_insert_of_mem _ (Set.mem_singleton _)) same
    obtain ⟨secrets, transcripts⟩ := List.append_inj inputs
      ((exchange.initiatorSecret sodium).property.trans
        (exchange.responderSecret sodium).property.symm)
    unfold PairingExchange.buildTranscript CpaceExchange.initiatorSide
      CpaceExchange.responderSide at transcripts
    rw [initiator.keyed.consistent.role, responder.keyed.consistent.role] at transcripts
    have sessions := (transcriptOf_injective transcripts).1
    rw [initiator.keyed.sessionId, responder.keyed.sessionId] at sessions
    have generators := group.generator_of_secret nonzero nonzero'
      (initiatorGenerator group ideal) (responderGenerator group ideal) (Subtype.ext secrets)
    have seeds := ideal.generators (Set.mem_insert ..)
      (Set.mem_insert_of_mem _ (Set.mem_singleton _)) generators
    rw [sessions] at seeds
    exact ⟨generatorSeed_injective seeds, sessions⟩
  · intro shares
    have theirs := responder.keyed
    rw [← shares.1, ← shares.2] at theirs
    exact ((facing group ideal nonzero nonzero').agree initiator.keyed theirs
      (initiatorGenerator group ideal) group.commutes).2

/-- A side accepts the signature of the other exactly when the keys are the same. -/
theorem CpaceExchange.verifies_iff :
    ((exchange.responderSide sodium).verifyPeerAuth sodium
        ((exchange.initiatorSide sodium).authSignature sodium) = .none ↔ exchange.Shares) ∧
      ((exchange.initiatorSide sodium).verifyPeerAuth sodium
        ((exchange.responderSide sodium).authSignature sodium) = .none ↔ exchange.Shares) := by
  have initiator := initiator_met group ideal nonzero nonzero'
  have responder := responder_met group ideal nonzero nonzero'
  have faces := facing group ideal nonzero nonzero'
  have keys := key_iff group ideal nonzero nonzero'
  have signed : exchange.Shares →
      (exchange.responderSide sodium).verifyPeerAuth sodium
          ((exchange.initiatorSide sodium).authSignature sodium) = .none ∧
        (exchange.initiatorSide sodium).verifyPeerAuth sodium
          ((exchange.responderSide sodium).authSignature sodium) = .none := by
    intro shares
    have theirs := responder.keyed
    rw [← shares.1, ← shares.2] at theirs
    exact faces.verify initiator.keyed theirs (initiatorGenerator group ideal) group.commutes
      ideal.paired.1 ideal.paired.2
  refine ⟨⟨fun verified => ?_, fun shares => (signed shares).1⟩,
    ⟨fun verified => ?_, fun shares => (signed shares).2⟩⟩
  · have message := PairingExchange.message_of_verified initiator.keyed.consistent
      initiator.derived responder.peerPublic ideal.initiatorBinds verified
    exact keys.mp (authMessage_injective message).2.symm
  · have message := PairingExchange.message_of_verified responder.keyed.consistent
      responder.derived initiator.peerPublic ideal.responderBinds verified
    exact keys.mp (authMessage_injective message).2

/-- Over a group of prime order and with non-zero scalars, both sides take each other. Their
keys are the same, and each accepts the other's signature, exactly when they were given one
code and one session id. Neither takes anybody else afterwards. -/
theorem CpaceExchange.exchange_correct : exchange.Correct sodium := by
  have initiator := initiator_met group ideal nonzero nonzero'
  have responder := responder_met group ideal nonzero nonzero'
  obtain ⟨responderVerifies, initiatorVerifies⟩ := verifies_iff group ideal nonzero nonzero'
  exact
    { taken := ⟨initiator.taken, responder.taken⟩
      key := key_iff group ideal nonzero nonzero'
      responderVerifies := responderVerifies
      initiatorVerifies := initiatorVerifies
      initiatorLater := PairingExchange.onPeer_of_derived initiator.derived
      responderLater := PairingExchange.onPeer_of_derived responder.derived }

end

end Sides

/-! ### A group that runs -/

section Residues

def residueEncode (residue : ZMod 251) : GroupElement :=
  ⟨UInt8.ofNat residue.val :: List.replicate 31 0, by simp [kGroupElementBytes]⟩

def residueOf (element : GroupElement) : ZMod 251 := ((element.val.headD 0).toNat : ZMod 251)

def residueScalar (scalar : Scalar) : ZMod 251 := (StandIn.mix scalar.val : ZMod 251)

/-- The stand-in library, over the residues of a prime. -/
def residueSodium : Sodium :=
  { StandIn.sodium with
    ristrettoFromHash := fun hash => residueEncode (StandIn.mix hash.val : ZMod 251)
    ristrettoIsValidPoint := fun element => decide (residueEncode (residueOf element) = element)
    ristrettoScalarMult := fun scalar element =>
      if residueEncode (residueOf element) = element ∧
          residueScalar scalar • residueOf element ≠ 0 then
        some (residueEncode (residueScalar scalar • residueOf element))
      else none }

theorem residueOf_encode (residue : ZMod 251) : residueOf (residueEncode residue) = residue := by
  have small : residue.val < 256 := lt_trans (ZMod.val_lt residue) (by decide)
  have byte : (UInt8.ofNat residue.val).toNat = residue.val := by
    rw [UInt8.toNat_ofNat', Nat.mod_eq_of_lt small]
  change (((UInt8.ofNat residue.val).toNat : Nat) : ZMod 251) = residue
  rw [byte, ZMod.natCast_zmod_val]

theorem residueEncode_isZero (residue : ZMod 251) :
    isZero (residueEncode residue).val = true ↔ residue = 0 := by
  revert residue
  decide +kernel

def residueGroup : residueSodium.PrimeOrder 251 (ZMod 251) :=
  { encode := residueEncode
    scalar := residueScalar
    canonical := Function.LeftInverse.injective residueOf_encode
    identity := residueEncode_isZero
    valid := by
      intro element
      constructor
      · intro valid
        exact ⟨residueOf element, of_decide_eq_true valid⟩
      · rintro ⟨residue, rfl⟩
        exact decide_eq_true (congrArg residueEncode (residueOf_encode residue))
    scalarMult := by
      intro factor residue nonzero
      change (if _ ∧ _ then _ else _) = _
      rw [residueOf_encode, if_pos ⟨rfl, nonzero⟩]
    refused := by
      intro factor element invalid
      exact if_neg fun both => of_decide_eq_false invalid both.1
    failed := by
      intro factor residue zero
      change (if _ ∧ _ then _ else _) = _
      rw [residueOf_encode, if_neg fun both => both.2 zero]
    fromHash := fun hash => ⟨_, rfl⟩ }

def mistypedExchange : CpaceExchange :=
  { initiator := StandIn.identity 1
    responder := StandIn.identity 2
    initiatorSession := StandIn.sessionId
    responderSession := StandIn.sessionId
    initiatorCode := StandIn.code
    responderCode := ascii "123457"
    initiatorScalar := StandIn.scalar 3
    responderScalar := StandIn.scalar 4 }

theorem mistypedExchange_ideal : mistypedExchange.Ideal residueSodium :=
  { proper := by decide +kernel
    generators := Set.injOn_pair.mpr fun same => absurd same (by decide +kernel)
    keys := Set.injOn_pair.mpr fun same => absurd same (by decide +kernel)
    paired := ⟨StandIn.identity_paired 1, StandIn.identity_paired 2⟩
    initiatorBinds := fun accepted => absurd accepted (by decide +kernel)
    responderBinds := fun accepted => absurd accepted (by decide +kernel) }

theorem exchange_correct_mistyped :
    mistypedExchange.Correct residueSodium ∧
      ¬ (mistypedExchange.responderSide residueSodium).verifyPeerAuth residueSodium
        ((mistypedExchange.initiatorSide residueSodium).authSignature residueSodium) = .none := by
  have : Fact (Nat.Prime 251) := ⟨by norm_num⟩
  have correct := CpaceExchange.exchange_correct residueGroup mistypedExchange_ideal
    (by decide +kernel) (by decide +kernel)
  refine ⟨correct, fun verified => ?_⟩
  have shares := correct.responderVerifies.mp verified
  exact absurd shares.1 (by decide +kernel)

end Residues

end SmartMic.Security
