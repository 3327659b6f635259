import SmartMic.Media.SecureChannel

set_option autoImplicit false

/-! What sealing and opening do to a channel: they never touch its keys, sealing
moves the counter and opening moves the replay window. -/

namespace SmartMic.Media

open SmartMic.Protocol SmartMic.Security

structure SecureChannel.SameKeys (before after : SecureChannel) : Prop where
  initialised : after.initialised = before.initialised
  sendKey : after.sendKey = before.sendKey
  recvKey : after.recvKey = before.recvKey
  sendNoncePrefix : after.sendNoncePrefix = before.sendNoncePrefix
  recvNoncePrefix : after.recvNoncePrefix = before.recvNoncePrefix

theorem SecureChannel.SameKeys.refl (channel : SecureChannel) : channel.SameKeys channel :=
  { initialised := rfl, sendKey := rfl, recvKey := rfl, sendNoncePrefix := rfl
    recvNoncePrefix := rfl }

theorem SecureChannel.init_of_fresh {sodium : Sodium} {channel : SecureChannel}
    {sessionKey : SessionKey} {send : Direction}
    (keys : (channel.init sodium sessionKey send).SameKeys channel)
    (counter : channel.counter = 0#64) (replay : channel.replay = ReplayWindow.fresh 1024) :
    channel.init sodium sessionKey send = channel := by
  obtain ⟨initialised, sendKey, recvKey, sendNoncePrefix, recvNoncePrefix⟩ := keys
  cases channel with
  | mk _ _ _ _ _ _ _ _ _ _ _ _ =>
      unfold SecureChannel.init
      rw [SecureChannel.mk.injEq]
      exact ⟨initialised.symm, sendKey.symm, recvKey.symm, sendNoncePrefix.symm,
        recvNoncePrefix.symm, counter.symm, replay.symm, rfl, rfl, rfl, rfl, rfl⟩

theorem buildNonce_injective {noncePrefix : Bytes} {first second : BitVec 64}
    (same : buildNonce noncePrefix first = buildNonce noncePrefix second) : first = second := by
  have tails := List.append_cancel_left same
  have small : ∀ counter : BitVec 64, counter.toNat < 256 ^ 8 := by
    intro counter
    have bound := counter.isLt
    omega
  apply BitVec.eq_of_toNat_eq
  rw [← fromLittleEndian_littleEndian 8 _ (small first), tails,
    fromLittleEndian_littleEndian 8 _ (small second)]

theorem SecureChannel.seal_keeps (sodium : Sodium) (channel : SecureChannel) (plain : Bytes) :
    channel.SameKeys (channel.seal sodium plain).2 ∧
      (channel.seal sodium plain).2.replay = channel.replay := by
  unfold SecureChannel.seal
  split
  · exact ⟨SecureChannel.SameKeys.refl channel, rfl⟩
  · dsimp only
    split <;> exact ⟨{ initialised := rfl, sendKey := rfl, recvKey := rfl, sendNoncePrefix := rfl
                       recvNoncePrefix := rfl }, rfl⟩

theorem SecureChannel.seal_counter (sodium : Sodium) (channel : SecureChannel) (plain : Bytes) :
    ((channel.seal sodium plain).1.isSome = true → channel.initialised = true ∧
      (channel.seal sodium plain).2.counter = channel.counter + 1#64) ∧
    ((channel.seal sodium plain).2.counter = channel.counter ∨
      (channel.seal sodium plain).2.counter = channel.counter + 1#64) := by
  unfold SecureChannel.seal
  split
  · exact ⟨fun impossible => Bool.noConfusion impossible, Or.inl rfl⟩
  · rename_i initialised
    have ready : channel.initialised = true := by simpa using initialised
    dsimp only
    split
    · exact ⟨fun impossible => Bool.noConfusion impossible, Or.inr rfl⟩
    · exact ⟨fun _sealed => ⟨ready, rfl⟩, Or.inr rfl⟩

theorem SecureChannel.open_keeps (sodium : Sodium) (channel : SecureChannel) (packet : Bytes) :
    channel.SameKeys (channel.open_ sodium packet).2 ∧
      (channel.open_ sodium packet).2.counter = channel.counter := by
  unfold SecureChannel.open_
  split
  · exact ⟨SecureChannel.SameKeys.refl channel, rfl⟩
  · split
    · exact ⟨{ initialised := rfl, sendKey := rfl, recvKey := rfl, sendNoncePrefix := rfl
               recvNoncePrefix := rfl }, rfl⟩
    · split
      · exact ⟨{ initialised := rfl, sendKey := rfl, recvKey := rfl, sendNoncePrefix := rfl
                 recvNoncePrefix := rfl }, rfl⟩
      · split <;> exact ⟨{ initialised := rfl, sendKey := rfl, recvKey := rfl
                           sendNoncePrefix := rfl, recvNoncePrefix := rfl }, rfl⟩

/-- An opened packet is authentic and its counter was fresh; no other outcome moves
the window further than the packet's own counter does. -/
theorem SecureChannel.open_window (sodium : Sodium) (channel : SecureChannel) (packet : Bytes) :
    ((channel.open_ sodium packet).1.isSome = true →
      (channel.replay.accept (packetCounter packet)).1 = true ∧
      (channel.open_ sodium packet).2.replay =
        (channel.replay.accept (packetCounter packet)).2) ∧
    ((channel.open_ sodium packet).2.replay = channel.replay ∨
      (channel.open_ sodium packet).2.replay =
        (channel.replay.accept (packetCounter packet)).2) := by
  unfold SecureChannel.open_
  split
  · exact ⟨fun impossible => Bool.noConfusion impossible, Or.inl rfl⟩
  · split
    · exact ⟨fun impossible => Bool.noConfusion impossible, Or.inl rfl⟩
    · split
      · exact ⟨fun impossible => Bool.noConfusion impossible, Or.inl rfl⟩
      · split
        · rename_i refused
          rw [refused]
          exact ⟨fun impossible => Bool.noConfusion impossible, Or.inr rfl⟩
        · rename_i accepted
          rw [accepted]
          exact ⟨fun _opened => ⟨rfl, rfl⟩, Or.inr rfl⟩

theorem SecureChannel.open_initialised {sodium : Sodium} {channel : SecureChannel}
    {packet plain : Bytes} (opens : (channel.open_ sodium packet).1 = some plain) :
    channel.initialised = true := by
  unfold SecureChannel.open_ at opens
  split at opens
  · cases opens
  · rename_i ready
    simpa using ready

/-- The channel without its counters of refused packets. -/
def SecureChannel.uncounted (channel : SecureChannel) : SecureChannel :=
  { channel with authFailures := 0, replayRejects := 0, malformed := 0 }

theorem SecureChannel.open_refused {sodium : Sodium} {channel : SecureChannel} {packet : Bytes}
    (refused : (channel.open_ sodium packet).1 = none) :
    (channel.open_ sodium packet).2.uncounted = channel.uncounted := by
  unfold SecureChannel.open_ at refused ⊢
  split
  · rfl
  · rename_i ready
    rw [if_neg ready] at refused
    split
    · rfl
    · rename_i long
      rw [if_neg long] at refused
      cases plain : channel.authentic sodium packet with
      | none => rfl
      | some plain' =>
          rw [plain] at refused
          dsimp only at refused ⊢
          rcases accepted : channel.replay.accept (packetCounter packet) with ⟨fresh, replay⟩
          rw [accepted] at refused
          cases fresh with
          | true => cases refused
          | false =>
              have kept := ReplayWindow.accept_refused (congrArg Prod.fst accepted)
              rw [accepted] at kept
              dsimp only at kept ⊢
              rw [kept]
              rfl

theorem SecureChannel.uncounted_open (sodium : Sodium) (channel : SecureChannel)
    (packet : Bytes) :
    (channel.uncounted.open_ sodium packet).1 = (channel.open_ sodium packet).1 ∧
      (channel.uncounted.open_ sodium packet).2.uncounted =
        (channel.open_ sodium packet).2.uncounted := by
  have initialised : channel.uncounted.initialised = channel.initialised := rfl
  have authentic : channel.uncounted.authentic sodium packet = channel.authentic sodium packet :=
    rfl
  have replay : channel.uncounted.replay = channel.replay := rfl
  unfold SecureChannel.open_
  rw [initialised, authentic, replay]
  by_cases unready : channel.initialised = false
  · rw [if_pos unready, if_pos unready]
    exact ⟨rfl, rfl⟩
  · rw [if_neg unready, if_neg unready]
    by_cases short : packet.length < kSecureOverhead
    · rw [if_pos short, if_pos short]
      exact ⟨rfl, rfl⟩
    · rw [if_neg short, if_neg short]
      cases channel.authentic sodium packet with
      | none => exact ⟨rfl, rfl⟩
      | some plain =>
          dsimp only
          rcases channel.replay.accept (packetCounter packet) with ⟨fresh, window⟩
          cases fresh with
          | false => exact ⟨rfl, rfl⟩
          | true => exact ⟨rfl, rfl⟩

/-- The counters of refused packets decide nothing. -/
theorem SecureChannel.open_uncounted (sodium : Sodium) {first second : SecureChannel}
    (same : first.uncounted = second.uncounted) (packet : Bytes) :
    (first.open_ sodium packet).1 = (second.open_ sodium packet).1 ∧
      (first.open_ sodium packet).2.uncounted = (second.open_ sodium packet).2.uncounted := by
  obtain ⟨result, after⟩ := first.uncounted_open sodium packet
  obtain ⟨result', after'⟩ := second.uncounted_open sodium packet
  rw [← result, ← after, ← result', ← after', same]
  exact ⟨rfl, rfl⟩

theorem SecureChannel.open_opened {sodium : Sodium} {channel : SecureChannel} {packet : Bytes}
    (opens : (channel.open_ sodium packet).1.isSome = true) :
    (channel.open_ sodium packet).2.opened = channel.opened + 1 := by
  unfold SecureChannel.open_ at opens ⊢
  split
  · rename_i unready
    rw [if_pos unready] at opens
    cases opens
  · rename_i ready
    rw [if_neg ready] at opens
    split
    · rename_i short
      rw [if_pos short] at opens
      cases opens
    · rename_i long
      rw [if_neg long] at opens
      cases plain : channel.authentic sodium packet with
      | none =>
          rw [plain] at opens
          cases opens
      | some plain' =>
          rw [plain] at opens
          dsimp only at opens ⊢
          rcases accepted : channel.replay.accept (packetCounter packet) with ⟨fresh, replay⟩
          rw [accepted] at opens
          cases fresh with
          | true => rfl
          | false => cases opens

/-- What a channel would refuse it still refuses after any packet. -/
theorem SecureChannel.open_spent (sodium : Sodium) {channel : SecureChannel} (packet : Bytes)
    {seq : BitVec 64} (spent : channel.replay.Spent seq) :
    (channel.open_ sodium packet).2.replay.Spent seq := by
  rcases (channel.open_window sodium packet).2 with same | accepted
  · rw [same]
    exact spent
  · rw [accepted]
    exact spent.accept _

end SmartMic.Media
