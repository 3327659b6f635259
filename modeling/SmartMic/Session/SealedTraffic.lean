import SmartMic.Session.Ledger
import SmartMic.Session.StandIn

set_option autoImplicit false

/-! At-most-once delivery and nonce uniqueness over the life of a session. Both rest on
the state that `SecureChannel::init` resets, so both hold exactly as long as the channel
is not set up a second time with a key that is already in use. -/

namespace SmartMic.Session

open SmartMic.Protocol SmartMic.Security SmartMic.Media

section

variable {sodium : Sodium} {library : JsonLibrary}

/-! ### Deliveries -/

/-- What was delivered under the current key is spent in the replay window. -/
structure Ledger.Windowed (ledger : Ledger) : Prop where
  nodup : ledger.delivered.Nodup
  spent : ∀ entry ∈ ledger.delivered, entry.1 = ledger.session.sessionKey →
    ledger.session.channel.replay.Spent (packetCounter entry.2)

theorem Ledger.windowed_open (session : PeerSession) : (Ledger.open_ session).Windowed :=
  { nodup := List.nodup_nil
    spent := fun _ member => absurd member List.not_mem_nil }

theorem Ledger.step_silent {ledger : Ledger} {input : SessionInput}
    (silent : (ledger.session.react sodium library input).delivered = []) :
    (ledger.step sodium library input).delivered = ledger.delivered := by
  unfold Ledger.step
  exact if_neg (not_not.mpr silent)

theorem Ledger.step_delivers {ledger : Ledger} {input : SessionInput}
    (loud : (ledger.session.react sodium library input).delivered ≠ []) :
    (ledger.step sodium library input).delivered =
      (ledger.session.sessionKey, input.body) :: ledger.delivered := by
  unfold Ledger.step
  exact if_pos loud

/-- The window only forgets what was delivered when the key changes. -/
theorem Ledger.Windowed.keep {ledger after : Ledger} (windowed : ledger.Windowed)
    (delivered : after.delivered = ledger.delivered)
    (key : after.session.sessionKey = ledger.session.sessionKey)
    (window : ∀ seq, ledger.session.channel.replay.Spent seq →
      after.session.channel.replay.Spent seq) :
    after.Windowed := by
  constructor
  · rw [delivered]
    exact windowed.nodup
  · intro entry member current
    rw [delivered] at member
    rw [key] at current
    exact window _ (windowed.spent entry member current)

theorem Ledger.Windowed.rekey {ledger after : Ledger} (windowed : ledger.Windowed)
    (delivered : after.delivered = ledger.delivered)
    (unused : ∀ entry ∈ ledger.delivered, entry.1 ≠ after.session.sessionKey) :
    after.Windowed := by
  constructor
  · rw [delivered]
    exact windowed.nodup
  · intro entry member current
    rw [delivered] at member
    exact absurd current (unused entry member)

theorem Ledger.Windowed.deliver {ledger after : Ledger} (windowed : ledger.Windowed)
    {body : Bytes}
    (delivered : after.delivered = (ledger.session.sessionKey, body) :: ledger.delivered)
    (key : after.session.sessionKey = ledger.session.sessionKey)
    (opened : (ledger.session.channel.open_ sodium body).1.isSome = true)
    (channel : after.session.channel = (ledger.session.channel.open_ sodium body).2) :
    after.Windowed := by
  obtain ⟨accepted, window⟩ := (ledger.session.channel.open_window sodium body).1 opened
  constructor
  · rw [delivered]
    apply List.nodup_cons.mpr
    refine ⟨fun again => ?_, windowed.nodup⟩
    have spent := windowed.spent _ again rfl
    rw [spent.refused] at accepted
    cases accepted
  · intro entry member current
    rw [delivered] at member
    rw [channel]
    rcases List.mem_cons.mp member with same | earlier
    · rw [same, window]
      exact ReplayWindow.spent_of_accept (by decide) accepted
    · apply SecureChannel.open_spent
      apply windowed.spent entry earlier
      rw [← key]
      exact current

theorem Ledger.Windowed.step {ledger : Ledger} (windowed : ledger.Windowed)
    {input : SessionInput} (keeps : ledger.KeepsWindow sodium library input) :
    (ledger.step sodium library input).Windowed := by
  rcases input.kinds with sends | ⟨moment, tag, body, rfl, foreign⟩ | ⟨quiet, plain⟩
  · obtain ⟨silent, _, _, key, _, text, channel, _⟩ :=
      ledger.session.react_send sodium library sends
    apply windowed.keep (Ledger.step_silent silent) key
    intro seq spent
    change (ledger.session.react sodium library input).session.channel.replay.Spent seq
    rcases channel with same | sealed_
    · rw [same]
      exact spent
    · rw [sealed_, (ledger.session.channel.seal_keeps sodium text).2]
      exact spent
  · obtain ⟨_, key, _, channel, delivers⟩ :=
      ledger.session.react_sealed sodium library moment body foreign
    by_cases silent : (ledger.session.react sodium library
        (.datagram moment (tag :: body))).delivered = []
    · apply windowed.keep (Ledger.step_silent silent) key
      intro seq spent
      change (ledger.session.react sodium library _).session.channel.replay.Spent seq
      rcases channel with same | opened
      · rw [same]
        exact spent
      · rw [opened]
        exact SecureChannel.open_spent sodium body spent
    · obtain ⟨_, opened, channel⟩ := delivers silent
      exact windowed.deliver (Ledger.step_delivers silent) key opened channel
  · obtain ⟨silent, rekeyed | ⟨_, same⟩⟩ :=
      ledger.session.react_pairing sodium library quiet plain
    · obtain ⟨key, keyed, same | rekeyed⟩ := rekeyed
      · apply windowed.keep (Ledger.step_silent silent)
        · exact congrArg PeerSession.sessionKey same
        · intro seq spent
          change (ledger.session.react sodium library input).session.channel.replay.Spent seq
          rw [same]
          exact spent
      · apply windowed.rekey (Ledger.step_silent silent)
        intro entry member
        change entry.1 ≠ (ledger.session.react sodium library input).session.sessionKey
        rw [rekeyed.sessionKey]
        exact keeps key keyed entry member
    · apply windowed.keep (Ledger.step_silent silent) same.sessionKey
      intro seq spent
      change (ledger.session.react sodium library input).session.channel.replay.Spent seq
      rw [same.channel]
      exact spent

end

/-- Whatever arrives, no sealed packet is delivered twice under one session key, as
long as no key is set up again after a delivery under it. -/
theorem sealed_packets_delivered_once (sodium : Sodium) (library : JsonLibrary)
    (self_ : DeviceIdentity) (role : PairingRole) (inputs : List SessionInput)
    (keeps : Run.Meets (Ledger.step sodium library) (Ledger.KeepsWindow sodium library)
      (Ledger.open_ (PeerSession.create self_ role)) inputs) :
    (Run.final (Ledger.step sodium library) (Ledger.open_ (PeerSession.create self_ role))
      inputs).delivered.Nodup :=
  (Run.invariant_final Ledger.Windowed (fun _ _ windowed allowed => windowed.step allowed) inputs _
    (Ledger.windowed_open _) keeps).nodup

namespace StandIn

open SmartMic.StandIn

def phoneMedia : Bytes := sentBy (phonePaired.session.sendMedia sodium [1, 2, 3])

def deskListens : List SessionInput :=
  [.armPairing sessionId code (some book), .datagram moment pair1, .datagram moment pair3,
    .datagram moment phoneMedia]

end StandIn

theorem sealed_packets_delivered_once_replayed :
    (Run.final (Ledger.step StandIn.sodium StandIn.json)
      (Ledger.open_ (PeerSession.create (StandIn.identity 2) .responder))
      (StandIn.deskListens ++ [.datagram StandIn.moment StandIn.phoneMedia])).delivered.Nodup := by
  apply sealed_packets_delivered_once
  decide +kernel

/-- A replayed PAIR3 clears the windows, and the recorded packet is delivered again. -/
theorem sealed_packet_delivered_twice :
    ¬ (Run.final (Ledger.step StandIn.sodium StandIn.json)
      (Ledger.open_ (PeerSession.create (StandIn.identity 2) .responder))
      (StandIn.deskListens ++ [.datagram StandIn.moment StandIn.pair3,
        .datagram StandIn.moment StandIn.phoneMedia])).delivered.Nodup := by
  decide +kernel

/-! ### Nonces -/

section

variable {sodium : Sodium} {library : JsonLibrary}

/-- What was sealed under the current key was sealed under an earlier counter, and the
counter is no further than the calls that sent. -/
structure Ledger.Counted (sent : Nat) (ledger : Ledger) : Prop where
  nodup : ledger.sealedUnder.Nodup
  used : ∀ entry ∈ ledger.sealedUnder, entry.1 = ledger.session.sessionKey →
    ∃ counter < ledger.session.channel.counter,
      entry.2 = buildNonce ledger.session.channel.sendNoncePrefix counter
  budget : ledger.session.channel.counter.toNat ≤ sent

theorem Ledger.counted_create (self_ : DeviceIdentity) (role : PairingRole) :
    (Ledger.open_ (PeerSession.create self_ role)).Counted 0 :=
  { nodup := List.nodup_nil
    used := fun _ member => absurd member List.not_mem_nil
    budget := Nat.le_refl _ }

theorem Ledger.step_unsealed {ledger : Ledger} {input : SessionInput}
    (unsealed : ¬ (input.sends = true ∧
      (ledger.session.react sodium library input).sent ≠ [])) :
    (ledger.step sodium library input).sealedUnder = ledger.sealedUnder := by
  unfold Ledger.step
  exact if_neg unsealed

theorem Ledger.step_seals {ledger : Ledger} {input : SessionInput}
    (sealed_ : input.sends = true ∧ (ledger.session.react sodium library input).sent ≠ []) :
    (ledger.step sodium library input).sealedUnder =
      (ledger.session.sessionKey, ledger.session.channel.sendNonce) :: ledger.sealedUnder := by
  unfold Ledger.step
  exact if_pos sealed_

theorem Ledger.Counted.keep {sent : Nat} {ledger after : Ledger} (counted : ledger.Counted sent)
    {more : Nat} (sealedUnder : after.sealedUnder = ledger.sealedUnder)
    (key : after.session.sessionKey = ledger.session.sessionKey)
    (nonces : after.session.channel.sendNoncePrefix = ledger.session.channel.sendNoncePrefix)
    (counter : ledger.session.channel.counter ≤ after.session.channel.counter)
    (budget : after.session.channel.counter.toNat ≤ sent + more) :
    after.Counted (sent + more) := by
  refine { nodup := ?_, used := ?_, budget := budget }
  · rw [sealedUnder]
    exact counted.nodup
  · intro entry member current
    rw [sealedUnder] at member
    rw [key] at current
    obtain ⟨earlier, below, nonce⟩ := counted.used entry member current
    rw [nonces]
    exact ⟨earlier, by bv_omega, nonce⟩

theorem Ledger.Counted.rekey {sent : Nat} {ledger after : Ledger} (counted : ledger.Counted sent)
    (sealedUnder : after.sealedUnder = ledger.sealedUnder)
    (counter : after.session.channel.counter = 0#64)
    (unused : ∀ entry ∈ ledger.sealedUnder, entry.1 ≠ after.session.sessionKey) :
    after.Counted sent := by
  refine { nodup := ?_, used := ?_, budget := ?_ }
  · rw [sealedUnder]
    exact counted.nodup
  · intro entry member current
    rw [sealedUnder] at member
    exact absurd current (unused entry member)
  · rw [counter]
    exact Nat.zero_le _

theorem Ledger.Counted.seal {sent : Nat} {ledger after : Ledger} (counted : ledger.Counted sent)
    (room : sent + 1 < 2 ^ 64)
    (sealedUnder : after.sealedUnder =
      (ledger.session.sessionKey, ledger.session.channel.sendNonce) :: ledger.sealedUnder)
    (key : after.session.sessionKey = ledger.session.sessionKey)
    (nonces : after.session.channel.sendNoncePrefix = ledger.session.channel.sendNoncePrefix)
    (counter : after.session.channel.counter = ledger.session.channel.counter + 1#64) :
    after.Counted (sent + 1) := by
  have budget := counted.budget
  have next : ledger.session.channel.counter < after.session.channel.counter ∧
      after.session.channel.counter.toNat ≤ sent + 1 := by
    rw [counter]
    constructor <;> bv_omega
  refine { nodup := ?_, used := ?_, budget := next.2 }
  · rw [sealedUnder]
    apply List.nodup_cons.mpr
    refine ⟨fun again => ?_, counted.nodup⟩
    obtain ⟨earlier, below, nonce⟩ := counted.used _ again rfl
    have same := buildNonce_injective nonce
    rw [same] at below
    exact absurd below (BitVec.lt_irrefl _)
  · intro entry member current
    rw [sealedUnder] at member
    rw [nonces]
    rcases List.mem_cons.mp member with same | earlier
    · rw [same]
      exact ⟨ledger.session.channel.counter, next.1, rfl⟩
    · rw [key] at current
      obtain ⟨counter, below, nonce⟩ := counted.used entry earlier current
      exact ⟨counter, by bv_omega, nonce⟩

theorem Ledger.Counted.step {sent : Nat} {ledger : Ledger} (counted : ledger.Counted sent)
    {input : SessionInput} (keeps : ledger.KeepsCounter sodium library input)
    (room : sent + input.sends.toNat < 2 ^ 64) :
    (ledger.step sodium library input).Counted (sent + input.sends.toNat) := by
  have budget := counted.budget
  have quietly : ∀ {session : PeerSession},
      (ledger.session.react sodium library input).session = session → input.sends = false →
      session.sessionKey = ledger.session.sessionKey →
      session.channel.sendNoncePrefix = ledger.session.channel.sendNoncePrefix →
      session.channel.counter = ledger.session.channel.counter →
      (ledger.step sodium library input).Counted (sent + input.sends.toNat) := by
    intro session reached quiet key nonces counter
    subst reached
    refine counted.keep (Ledger.step_unsealed ?_) key nonces ?_ ?_
    · rw [quiet]
      exact fun impossible => Bool.noConfusion impossible.1
    · change _ ≤ (ledger.session.react sodium library input).session.channel.counter
      rw [counter]
      exact BitVec.le_refl _
    · change (ledger.session.react sodium library input).session.channel.counter.toNat ≤ _
      rw [counter]
      omega
  rcases input.kinds with sends | ⟨moment, tag, body, rfl, foreign⟩ | ⟨quiet, plain⟩
  · obtain ⟨_, _, _, key, _, text, channel, seals⟩ :=
      ledger.session.react_send sodium library sends
    rw [sends] at room ⊢
    by_cases sent_ : (ledger.session.react sodium library input).sent ≠ []
    · obtain ⟨_, sealed_, channel⟩ := seals sent_
      refine counted.seal room (Ledger.step_seals ⟨sends, sent_⟩) key ?_ ?_
      · change (ledger.session.react sodium library input).session.channel.sendNoncePrefix = _
        rw [channel, (ledger.session.channel.seal_keeps sodium text).1.sendNoncePrefix]
      · change (ledger.session.react sodium library input).session.channel.counter = _
        rw [channel, ((ledger.session.channel.seal_counter sodium text).1 sealed_).2]
    · have moved : (ledger.session.react sodium library input).session.channel.sendNoncePrefix =
            ledger.session.channel.sendNoncePrefix ∧
          ((ledger.session.react sodium library input).session.channel.counter =
              ledger.session.channel.counter ∨
            (ledger.session.react sodium library input).session.channel.counter =
              ledger.session.channel.counter + 1#64) := by
        rcases channel with same | sealed_
        · rw [same]
          exact ⟨rfl, Or.inl rfl⟩
        · rw [sealed_]
          exact ⟨(ledger.session.channel.seal_keeps sodium text).1.sendNoncePrefix,
            (ledger.session.channel.seal_counter sodium text).2⟩
      have next : ledger.session.channel.counter ≤
            (ledger.session.react sodium library input).session.channel.counter ∧
          (ledger.session.react sodium library input).session.channel.counter.toNat ≤
            sent + 1 := by
        rw [Bool.toNat_true] at room
        rcases moved.2 with same | more
        · rw [same]
          exact ⟨BitVec.le_refl _, by omega⟩
        · rw [more]
          constructor <;> bv_omega
      exact counted.keep (Ledger.step_unsealed (fun both => sent_ both.2)) key moved.1 next.1 next.2
  · obtain ⟨_, key, _, channel, _⟩ :=
      ledger.session.react_sealed sodium library moment body foreign
    refine quietly rfl rfl key ?_ ?_
    · rcases channel with same | opened
      · rw [same]
      · rw [opened, (ledger.session.channel.open_keeps sodium body).1.sendNoncePrefix]
    · rcases channel with same | opened
      · rw [same]
      · rw [opened, (ledger.session.channel.open_keeps sodium body).2]
  · obtain ⟨_, ⟨key, keyed, same | rekeyed⟩ | ⟨_, same⟩⟩ :=
      ledger.session.react_pairing sodium library quiet plain
    · exact quietly same quiet rfl rfl rfl
    · rw [quiet]
      refine counted.rekey (Ledger.step_unsealed ?_) ?_ ?_
      · rw [quiet]
        exact fun impossible => Bool.noConfusion impossible.1
      · change (ledger.session.react sodium library input).session.channel.counter = _
        rw [rekeyed.channel]
        rfl
      · intro entry member
        change entry.1 ≠ (ledger.session.react sodium library input).session.sessionKey
        rw [rekeyed.sessionKey]
        exact keeps key keyed entry member
    · refine quietly rfl quiet same.sessionKey ?_ ?_
      · rw [same.channel]
      · rw [same.channel]

end

/-- Fewer than 2^64 sends, whatever arrives between them, never use a nonce twice under
one session key, as long as no key is set up again after a seal under it. -/
theorem nonces_used_once (sodium : Sodium) (library : JsonLibrary) (self_ : DeviceIdentity)
    (role : PairingRole) (inputs : List SessionInput)
    (few : inputs.countP SessionInput.sends < 2 ^ 64)
    (keeps : Run.Meets (Ledger.step sodium library) (Ledger.KeepsCounter sodium library)
      (Ledger.open_ (PeerSession.create self_ role)) inputs) :
    (Run.final (Ledger.step sodium library) (Ledger.open_ (PeerSession.create self_ role))
      inputs).sealedUnder.Nodup :=
  (Run.invariant_counted SessionInput.sends (2 ^ 64) Ledger.Counted
    (fun _ _ _ counted allowed room => counted.step allowed room) inputs 0 _
    (Ledger.counted_create self_ role) keeps (by omega)).nodup

namespace StandIn

open SmartMic.StandIn

def phoneTalks : List SessionInput :=
  [.beginPairing sessionId code (scalar 3), .datagram moment pair2, .datagram moment pair4,
    .sendMedia [1, 2, 3]]

end StandIn

theorem nonces_used_once_talking :
    (Run.final (Ledger.step StandIn.sodium StandIn.json)
      (Ledger.open_ (PeerSession.create (StandIn.identity 1) .initiator))
      (StandIn.phoneTalks ++ [.sendMedia [4, 5, 6]])).sealedUnder.Nodup := by
  apply nonces_used_once
  · decide
  · decide +kernel

/-- A replayed PAIR4 resets the counter, and the next packet takes the first nonce. -/
theorem nonce_used_twice :
    ¬ (Run.final (Ledger.step StandIn.sodium StandIn.json)
      (Ledger.open_ (PeerSession.create (StandIn.identity 1) .initiator))
      (StandIn.phoneTalks ++ [.datagram StandIn.moment StandIn.pair4,
        .sendMedia [4, 5, 6]])).sealedUnder.Nodup := by
  decide +kernel

end SmartMic.Session
