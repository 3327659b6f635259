import SmartMic.Media.ChannelUse
import SmartMic.Protocol.ReplayHistory
import SmartMic.Security.StandIn

set_option autoImplicit false

/-! Two channels with one session key and opposite directions. One of them seals, the
other is given any byte strings. What it opens depends on the sealed packets among them
and on their order, and on nothing else.

The AEAD is ideal by a condition on the strings that are given: such a string opens only
if its nonce and its ciphertext are of one call of the sealing side. -/

namespace SmartMic.Media

open SmartMic.Protocol SmartMic.Security

/-- What libsodium documents of its boxes. -/
structure Boxes (sodium : Sodium) : Prop where
  length : ∀ plain nonce key cipher, sodium.secretboxEasy plain nonce key = some cipher →
    cipher.length = plain.length + 16
  opens : ∀ plain nonce key cipher, sodium.secretboxEasy plain nonce key = some cipher →
    sodium.secretboxOpenEasy cipher nonce key = some plain

/-- A channel after its one `init`. -/
def channelFor (sodium : Sodium) (sessionKey : SessionKey) (send : Direction) : SecureChannel :=
  SecureChannel.create.init sodium sessionKey send

structure SealedPacket where
  counter : BitVec 64
  plain : Bytes
  nonce : Bytes
  cipher : Bytes

def SealedPacket.packet (sealed_ : SealedPacket) : Bytes :=
  littleEndian 8 sealed_.counter.toNat ++ sealed_.cipher

section

variable (sodium : Sodium)

def SecureChannel.sealRecord (channel : SecureChannel) (plain : Bytes) : List SealedPacket :=
  match (channel.seal sodium plain).1 with
  | none => []
  | some packet =>
      [{ counter := channel.counter
         plain := plain
         nonce := channel.sendNonce
         cipher := packet.drop 8 }]

def SecureChannel.sealAll : SecureChannel → List Bytes → List SealedPacket
  | _, [] => []
  | channel, plain :: rest =>
      channel.sealRecord sodium plain ++ (channel.seal sodium plain).2.sealAll rest

def SecureChannel.openStep (channel : SecureChannel) (packet : Bytes) : SecureChannel :=
  (channel.open_ sodium packet).2

/-- Every string that is given to a channel, with what it opens to. -/
def SecureChannel.openAll : SecureChannel → List Bytes → List (Bytes × Option Bytes)
  | _, [] => []
  | channel, packet :: rest =>
      (packet, (channel.open_ sodium packet).1) :: (channel.openStep sodium packet).openAll rest

structure Received where
  channel : SecureChannel
  accepted : List (BitVec 64)

def Received.step (received : Received) (packet : Bytes) : Received :=
  { channel := received.channel.openStep sodium packet
    accepted :=
      if (received.channel.open_ sodium packet).1.isSome then
        packetCounter packet :: received.accepted
      else received.accepted }

def SecureChannel.receivedAfter (channel : SecureChannel) (packets : List Bytes) : Received :=
  Run.final (Received.step sodium) { channel := channel, accepted := [] } packets

/-- A string that opens has its nonce and its ciphertext from one of the seals. -/
def SecureChannel.Unforged (channel : SecureChannel) (sealed_ : List SealedPacket)
    (packet : Bytes) : Prop :=
  (channel.authentic sodium packet).isSome = true →
    ∃ one ∈ sealed_, one.cipher = packet.drop 8 ∧
      one.nonce = buildNonce channel.recvNoncePrefix (packetCounter packet)

instance (channel : SecureChannel) (sealed_ : List SealedPacket) (packet : Bytes) :
    Decidable (channel.Unforged sodium sealed_ packet) :=
  inferInstanceAs (Decidable (_ → ∃ _ ∈ _, _ ∧ _))

/-- The receiving side, string by string. A sealed packet opens to its plaintext when it
comes first and is within the window, and at no other time; nothing else opens; without
the other strings the sealed packets fare the same. -/
structure SecureChannel.Delivers (channel : SecureChannel) (sealed_ : List SealedPacket)
    (given : List Bytes) : Prop where
  genuine : ∀ before packet after, given = before ++ packet :: after →
    ∀ one ∈ sealed_, one.packet = packet →
      ((channel.receivedAfter sodium before).channel.open_ sodium packet).1 =
        if packet ∉ before ∧
            WithinWindow 1024 (channel.receivedAfter sodium before).accepted one.counter then
          some one.plain
        else none
  foreign : ∀ before packet after, given = before ++ packet :: after →
    packet ∉ sealed_.map SealedPacket.packet →
      ((channel.receivedAfter sodium before).channel.open_ sodium packet).1 = none
  deletion :
    (channel.openAll sodium given).filter
        (fun result => decide (result.1 ∈ sealed_.map SealedPacket.packet)) =
      channel.openAll sodium
        (given.filter fun packet => decide (packet ∈ sealed_.map SealedPacket.packet))

end

section

variable {sodium : Sodium}

/-! ### Seals -/

/-- Which plaintext a seal took, at which counter, and what the AEAD made of it. -/
structure SealedPacket.Of (sodium : Sodium) (channel : SecureChannel) (plains : List Bytes)
    (one : SealedPacket) (index : Nat) : Prop where
  plain : plains[index]? = some one.plain
  counter : one.counter = channel.counter + BitVec.ofNat 64 index
  nonce : one.nonce = buildNonce channel.sendNoncePrefix one.counter
  cipher : sodium.secretboxEasy one.plain one.nonce channel.sendKey = some one.cipher

theorem SecureChannel.sealRecord_of {channel : SecureChannel} {plain : Bytes}
    {one : SealedPacket} (member : one ∈ channel.sealRecord sodium plain) :
    one.Of sodium channel [plain] 0 := by
  unfold sealRecord at member
  cases packed : (channel.seal sodium plain).1 with
  | none =>
      rw [packed] at member
      cases member
  | some packet =>
      rw [packed] at member
      rw [List.mem_singleton.mp member]
      unfold SecureChannel.seal at packed
      split at packed
      · cases packed
      · dsimp only at packed
        split at packed
        · cases packed
        · rename_i cipher boxed
          rw [← Option.some.inj packed]
          exact
            { plain := rfl
              counter := (BitVec.add_zero _).symm
              nonce := rfl
              cipher := by
                rw [List.drop_left' (littleEndian_length _ _)]
                exact boxed }

theorem SecureChannel.seal_advances {channel : SecureChannel}
    (initialised : channel.initialised = true) (plain : Bytes) :
    (channel.seal sodium plain).2.counter = channel.counter + 1#64 := by
  unfold SecureChannel.seal
  rw [if_neg (by rw [initialised]; decide)]
  dsimp only
  split <;> rfl

theorem SecureChannel.sealAll_of (plains : List Bytes) :
    ∀ channel : SecureChannel, channel.initialised = true →
      ∀ one ∈ channel.sealAll sodium plains, ∃ index, one.Of sodium channel plains index := by
  induction plains with
  | nil => exact fun _channel _initialised _one member => absurd member List.not_mem_nil
  | cons plain rest ih =>
      intro channel initialised one member
      rcases List.mem_append.mp member with now | later
      · have made := SecureChannel.sealRecord_of now
        exact ⟨0, { plain := made.plain, counter := made.counter, nonce := made.nonce
                    cipher := made.cipher }⟩
      · obtain ⟨keys, -⟩ := channel.seal_keeps sodium plain
        obtain ⟨index, made⟩ := ih _ (keys.initialised.trans initialised) one later
        refine ⟨index + 1, { plain := made.plain, counter := ?_, nonce := ?_, cipher := ?_ }⟩
        · rw [made.counter, channel.seal_advances initialised, BitVec.add_assoc, Nat.add_comm,
            BitVec.ofNat_add]
        · rw [made.nonce, keys.sendNoncePrefix]
        · rw [← keys.sendKey]
          exact made.cipher

theorem SealedPacket.Of.unique {channel : SecureChannel} {plains : List Bytes}
    (few : plains.length ≤ 2 ^ 64) {first second : SealedPacket} {index other : Nat}
    (made : first.Of sodium channel plains index) (made' : second.Of sodium channel plains other)
    (same : first.counter = second.counter) : first = second := by
  have inside := (List.getElem?_eq_some_iff.mp made.plain).1
  have inside' := (List.getElem?_eq_some_iff.mp made'.plain).1
  have position : index = other := by
    have counters := made.counter.symm.trans (same.trans made'.counter)
    have words := congrArg BitVec.toNat counters
    simp only [BitVec.toNat_add, BitVec.toNat_ofNat] at words
    omega
  have plain : first.plain = second.plain := by
    apply Option.some.inj
    rw [← made.plain, ← made'.plain, position]
  have nonce : first.nonce = second.nonce := by rw [made.nonce, made'.nonce, same]
  have cipher : first.cipher = second.cipher := by
    apply Option.some.inj
    rw [← made.cipher, ← made'.cipher, plain, nonce]
  cases first
  cases second
  simp only [SealedPacket.mk.injEq]
  exact ⟨same, plain, nonce, cipher⟩

theorem SealedPacket.packetCounter_packet (one : SealedPacket) :
    packetCounter one.packet = one.counter := by
  have small : one.counter.toNat < 256 ^ 8 := one.counter.isLt
  unfold packetCounter SealedPacket.packet
  rw [List.take_left' (littleEndian_length _ _), fromLittleEndian_littleEndian 8 _ small,
    BitVec.ofNat_toNat, BitVec.setWidth_eq]

theorem SealedPacket.drop_packet (one : SealedPacket) : one.packet.drop 8 = one.cipher := by
  unfold SealedPacket.packet
  exact List.drop_left' (littleEndian_length _ _)

theorem packet_eq {packet : Bytes} (long : 8 ≤ packet.length) :
    littleEndian 8 (packetCounter packet).toNat ++ packet.drop 8 = packet := by
  have head : (packet.take 8).length = 8 := by
    rw [List.length_take]
    omega
  have small := fromLittleEndian_lt (packet.take 8)
  rw [head] at small
  have counter : (packetCounter packet).toNat = fromLittleEndian (packet.take 8) := by
    unfold packetCounter
    rw [BitVec.toNat_ofNat]
    exact Nat.mod_eq_of_lt small
  have written := littleEndian_fromLittleEndian (packet.take 8)
  rw [head] at written
  rw [counter, written, List.take_append_drop]

/-! ### One string -/

/-- The receiving channel has the keys of the sealing one, and a new window. -/
structure Facing (sender receiver : SecureChannel) : Prop where
  sealing : sender.initialised = true
  opening : receiver.initialised = true
  key : receiver.recvKey = sender.sendKey
  noncePrefix : receiver.recvNoncePrefix = sender.sendNoncePrefix
  window : receiver.replay = ReplayWindow.fresh 1024

theorem channelFor_facing (sodium : Sodium) (sessionKey : SessionKey) (send : Direction) :
    Facing (channelFor sodium sessionKey send) (channelFor sodium sessionKey send.other) := by
  cases send with
  | phoneToPc =>
      exact { sealing := rfl, opening := rfl, key := rfl, noncePrefix := rfl, window := rfl }
  | pcToPhone =>
      exact { sealing := rfl, opening := rfl, key := rfl, noncePrefix := rfl, window := rfl }

theorem SecureChannel.SameKeys.trans {first second third : SecureChannel}
    (keys : first.SameKeys second) (keys' : second.SameKeys third) : first.SameKeys third :=
  { initialised := keys'.initialised.trans keys.initialised
    sendKey := keys'.sendKey.trans keys.sendKey
    recvKey := keys'.recvKey.trans keys.recvKey
    sendNoncePrefix := keys'.sendNoncePrefix.trans keys.sendNoncePrefix
    recvNoncePrefix := keys'.recvNoncePrefix.trans keys.recvNoncePrefix }

theorem SecureChannel.SameKeys.authentic {before after : SecureChannel}
    (keys : before.SameKeys after) (packet : Bytes) :
    after.authentic sodium packet = before.authentic sodium packet := by
  unfold SecureChannel.authentic
  rw [keys.recvKey, keys.recvNoncePrefix]

/-- The window alone decides on an authentic packet. -/
theorem SecureChannel.open_authentic {channel : SecureChannel} {packet plain : Bytes}
    (ready : channel.initialised = true) (long : kSecureOverhead ≤ packet.length)
    (authentic : channel.authentic sodium packet = some plain) :
    (channel.open_ sodium packet).1 =
      if (channel.replay.accept (packetCounter packet)).1 then some plain else none := by
  unfold SecureChannel.open_
  rw [if_neg (by rw [ready]; decide), if_neg (not_lt.mpr long), authentic]
  dsimp only
  rcases channel.replay.accept (packetCounter packet) with ⟨fresh, window⟩
  cases fresh with
  | false => rfl
  | true => rfl

theorem SecureChannel.authentic_of_open {channel : SecureChannel} {packet plain : Bytes}
    (opens : (channel.open_ sodium packet).1 = some plain) :
    kSecureOverhead ≤ packet.length ∧ (channel.authentic sodium packet).isSome = true := by
  unfold SecureChannel.open_ at opens
  split at opens
  · cases opens
  · split at opens
    · cases opens
    · rename_i long
      refine ⟨not_lt.mp long, ?_⟩
      cases authentic : channel.authentic sodium packet with
      | none =>
          rw [authentic] at opens
          cases opens
      | some plain' => rfl

section

variable {sender receiver channel : SecureChannel} {plains : List Bytes} {one : SealedPacket}
  {index : Nat}

theorem SealedPacket.Of.authentic (boxes : Boxes sodium) (facing : Facing sender receiver)
    (made : one.Of sodium sender plains index) :
    receiver.authentic sodium one.packet = some one.plain ∧
      kSecureOverhead ≤ one.packet.length := by
  constructor
  · unfold SecureChannel.authentic
    rw [one.drop_packet, one.packetCounter_packet, facing.key, facing.noncePrefix, ← made.nonce]
    exact boxes.opens _ _ _ _ made.cipher
  · have length := boxes.length _ _ _ _ made.cipher
    unfold SealedPacket.packet kSecureOverhead
    rw [List.length_append, littleEndian_length, length]
    omega

theorem sealed_of_open (facing : Facing sender receiver) {sealed_ : List SealedPacket}
    (sealedBy : ∀ one ∈ sealed_, ∃ index, one.Of sodium sender plains index)
    (keys : receiver.SameKeys channel) {packet plain : Bytes}
    (unforged : receiver.Unforged sodium sealed_ packet)
    (opens : (channel.open_ sodium packet).1 = some plain) :
    ∃ one ∈ sealed_, one.packet = packet := by
  obtain ⟨long, authentic⟩ := SecureChannel.authentic_of_open opens
  rw [keys.authentic] at authentic
  obtain ⟨one, member, cipher, nonce⟩ := unforged authentic
  obtain ⟨index, made⟩ := sealedBy one member
  have counter : one.counter = packetCounter packet := by
    rw [made.nonce, facing.noncePrefix] at nonce
    exact buildNonce_injective nonce
  refine ⟨one, member, ?_⟩
  unfold SealedPacket.packet
  rw [counter, cipher]
  exact packet_eq (Nat.le_trans (by decide) long)

theorem SealedPacket.Of.open_eq (boxes : Boxes sodium) (facing : Facing sender receiver)
    (keys : receiver.SameKeys channel) (made : one.Of sodium sender plains index) :
    (channel.open_ sodium one.packet).1 =
      if (channel.replay.accept one.counter).1 then some one.plain else none := by
  obtain ⟨authentic, long⟩ := made.authentic boxes facing
  rw [← keys.authentic] at authentic
  rw [SecureChannel.open_authentic (keys.initialised.trans facing.opening) long authentic,
    one.packetCounter_packet]

end

/-! ### The receiving side over a run -/

/-- What the strings that were given so far leave of the receiving side. -/
structure Received.Sound (receiver : SecureChannel) (sealed_ : List SealedPacket)
    (before : List Bytes) (received : Received) : Prop where
  keys : receiver.SameKeys received.channel
  records : received.channel.replay.Records received.accepted
  genuine : ∀ seq ∈ received.accepted, ∃ one ∈ sealed_, one.counter = seq ∧ one.packet ∈ before
  decided : ∀ one ∈ sealed_, one.packet ∈ before →
    ¬ FreshAfter 1024 received.accepted one.counter

section

variable {sender receiver : SecureChannel} {plains before : List Bytes}
  {sealed_ : List SealedPacket} {received : Received}

theorem Received.sound_initial (facing : Facing sender receiver)
    (sealed_ : List SealedPacket) :
    Received.Sound receiver sealed_ [] { channel := receiver, accepted := [] } :=
  { keys := SecureChannel.SameKeys.refl receiver
    records := by
      rw [facing.window]
      exact ReplayWindow.records_fresh 1024
    genuine := fun _seq member => absurd member List.not_mem_nil
    decided := fun _one _member given => absurd given List.not_mem_nil }

theorem Received.Sound.refused (boxes : Boxes sodium) (facing : Facing sender receiver)
    (sealedBy : ∀ one ∈ sealed_, ∃ index, one.Of sodium sender plains index)
    (sound : received.Sound receiver sealed_ before) {packet : Bytes}
    (refused : (received.channel.open_ sodium packet).1 = none) :
    (received.step sodium packet).Sound receiver sealed_ (before ++ [packet]) := by
  have unmoved := SecureChannel.open_refused refused
  have window : (received.channel.openStep sodium packet).replay = received.channel.replay :=
    show (received.channel.open_ sodium packet).2.uncounted.replay = _ by rw [unmoved]; rfl
  have accepted : (received.step sodium packet).accepted = received.accepted := by
    unfold Received.step
    rw [refused]
    rfl
  constructor
  · exact sound.keys.trans (received.channel.open_keeps sodium packet).1
  · change (received.channel.openStep sodium packet).replay.Records _
    rw [window, accepted]
    exact sound.records
  · rw [accepted]
    intro seq member
    obtain ⟨one, issued, counter, earlier⟩ := sound.genuine seq member
    exact ⟨one, issued, counter, List.mem_append_left _ earlier⟩
  · rw [accepted]
    intro one issued given
    rcases List.mem_append.mp given with earlier | now
    · exact sound.decided one issued earlier
    · obtain ⟨index, made⟩ := sealedBy one issued
      rw [← List.mem_singleton.mp now, made.open_eq boxes facing sound.keys] at refused
      rw [← sound.records.accepts_iff (by decide)]
      intro fresh
      rw [if_pos fresh] at refused
      cases refused

theorem Received.Sound.opened (facing : Facing sender receiver)
    (sealedBy : ∀ one ∈ sealed_, ∃ index, one.Of sodium sender plains index)
    (sound : received.Sound receiver sealed_ before) {packet plain : Bytes}
    (unforged : receiver.Unforged sodium sealed_ packet)
    (opens : (received.channel.open_ sodium packet).1 = some plain) :
    (received.step sodium packet).Sound receiver sealed_ (before ++ [packet]) := by
  obtain ⟨source, issued, same⟩ := sealed_of_open facing sealedBy sound.keys unforged opens
  have some_ : (received.channel.open_ sodium packet).1.isSome = true := by rw [opens]; rfl
  obtain ⟨fresh, window⟩ := (received.channel.open_window sodium packet).1 some_
  have accepted : (received.step sodium packet).accepted =
      packetCounter packet :: received.accepted := by
    unfold Received.step
    rw [opens]
    rfl
  constructor
  · exact sound.keys.trans (received.channel.open_keeps sodium packet).1
  · change (received.channel.openStep sodium packet).replay.Records _
    unfold SecureChannel.openStep
    rw [window, accepted]
    exact sound.records.accept (by decide) fresh
  · rw [accepted]
    intro seq member
    rcases List.mem_cons.mp member with now | earlier
    · refine ⟨source, issued, ?_, ?_⟩
      · rw [now, ← same, source.packetCounter_packet]
      · rw [same]
        exact List.mem_append_right _ (List.mem_singleton_self _)
    · obtain ⟨one, given, counter, place⟩ := sound.genuine seq earlier
      exact ⟨one, given, counter, List.mem_append_left _ place⟩
  · rw [accepted]
    intro one given place fresh'
    rcases List.mem_append.mp place with earlier | now
    · exact sound.decided one given earlier (FreshAfter.earlier (List.singleton_append ▸ fresh'))
    · apply fresh'.1
      rw [← List.mem_singleton.mp now, one.packetCounter_packet]
      exact List.mem_cons_self

theorem receivedAfter_sound (boxes : Boxes sodium) (facing : Facing sender receiver)
    (sealedBy : ∀ one ∈ sealed_, ∃ index, one.Of sodium sender plains index)
    (before : List Bytes) :
    (∀ packet ∈ before, receiver.Unforged sodium sealed_ packet) →
      (receiver.receivedAfter sodium before).Sound receiver sealed_ before := by
  induction before using List.reverseRecOn with
  | nil => exact fun _unforged => Received.sound_initial facing sealed_
  | append_singleton before packet ih =>
      intro unforged
      have sound := ih fun other member => unforged other (List.mem_append_left _ member)
      have next : receiver.receivedAfter sodium (before ++ [packet]) =
          (receiver.receivedAfter sodium before).step sodium packet := Run.final_snoc _ _ _ _
      rw [next]
      cases opens : ((receiver.receivedAfter sodium before).channel.open_ sodium packet).1 with
      | none => exact sound.refused boxes facing sealedBy opens
      | some plain =>
          exact sound.opened facing sealedBy
            (unforged packet (List.mem_append_right _ (List.mem_singleton_self _))) opens

theorem Received.Sound.open_genuine (boxes : Boxes sodium) (facing : Facing sender receiver)
    (sealedBy : ∀ one ∈ sealed_, ∃ index, one.Of sodium sender plains index)
    (few : plains.length ≤ 2 ^ 64) (sound : received.Sound receiver sealed_ before)
    {one : SealedPacket} (issued : one ∈ sealed_) :
    (received.channel.open_ sodium one.packet).1 =
      if one.packet ∉ before ∧ WithinWindow 1024 received.accepted one.counter then
        some one.plain
      else none := by
  obtain ⟨index, made⟩ := sealedBy one issued
  have taken : (received.channel.replay.accept one.counter).1 = true ↔
      one.packet ∉ before ∧ WithinWindow 1024 received.accepted one.counter := by
    rw [sound.records.accepts_iff (by decide)]
    constructor
    · intro fresh
      exact ⟨fun given => sound.decided one issued given fresh,
        ((freshAfter_iff (by decide) _ _).mp fresh).2⟩
    · intro first
      refine (freshAfter_iff (by decide) _ _).mpr ⟨?_, first.2⟩
      intro member
      obtain ⟨other, given, counter, place⟩ := sound.genuine _ member
      obtain ⟨index', made'⟩ := sealedBy other given
      rw [made'.unique few made counter] at place
      exact first.1 place
  rw [made.open_eq boxes facing sound.keys]
  simp only [taken]

/-- Strings that are not sealed packets may be left out. -/
theorem openAll_filter (facing : Facing sender receiver)
    (sealedBy : ∀ one ∈ sealed_, ∃ index, one.Of sodium sender plains index)
    (given : List Bytes) :
    ∀ first second : SecureChannel, receiver.SameKeys first →
      first.uncounted = second.uncounted →
      (∀ packet ∈ given, receiver.Unforged sodium sealed_ packet) →
      (first.openAll sodium given).filter
          (fun result => decide (result.1 ∈ sealed_.map SealedPacket.packet)) =
        second.openAll sodium
          (given.filter fun packet => decide (packet ∈ sealed_.map SealedPacket.packet)) := by
  induction given with
  | nil => exact fun _first _second _keys _same _unforged => rfl
  | cons packet rest ih =>
      intro first second keys same unforged
      obtain ⟨unforged, later⟩ := List.forall_mem_cons.mp unforged
      have kept := keys.trans (first.open_keeps sodium packet).1
      obtain ⟨result, after⟩ := SecureChannel.open_uncounted sodium same packet
      change List.filter _ ((packet, _) :: _) = _
      by_cases genuine : packet ∈ sealed_.map SealedPacket.packet
      · rw [List.filter_cons_of_pos (by simpa using genuine),
          List.filter_cons_of_pos (by simpa using genuine), result,
          ih (first.openStep sodium packet) (second.openStep sodium packet) kept after later]
        rfl
      · have refused : (first.open_ sodium packet).1 = none := by
          cases opens : (first.open_ sodium packet).1 with
          | none => rfl
          | some plain =>
              obtain ⟨one, issued, equal⟩ :=
                sealed_of_open facing sealedBy keys unforged opens
              exact absurd (List.mem_map.mpr ⟨one, issued, equal⟩) genuine
        rw [List.filter_cons_of_neg (by simpa using genuine),
          List.filter_cons_of_neg (by simpa using genuine)]
        exact ih (first.openStep sodium packet) second kept
          ((SecureChannel.open_refused refused).trans same) later

end

end

/-- Whatever strings are given to the receiving side, the sealed packets among them open
as their order allows, and nothing else does. -/
theorem channel_delivers (sodium : Sodium) (boxes : Boxes sodium) (sessionKey : SessionKey)
    (send : Direction) (plains given : List Bytes) (few : plains.length ≤ 2 ^ 64)
    (ideal : ∀ packet ∈ given, (channelFor sodium sessionKey send.other).Unforged sodium
      ((channelFor sodium sessionKey send).sealAll sodium plains) packet) :
    (channelFor sodium sessionKey send.other).Delivers sodium
      ((channelFor sodium sessionKey send).sealAll sodium plains) given := by
  have facing := channelFor_facing sodium sessionKey send
  have sealedBy := @SecureChannel.sealAll_of sodium plains _ facing.sealing
  have sound : ∀ before packet after, given = before ++ packet :: after →
      ((channelFor sodium sessionKey send.other).receivedAfter sodium before).Sound
        (channelFor sodium sessionKey send.other)
        ((channelFor sodium sessionKey send).sealAll sodium plains) before := by
    intro before packet after split
    apply receivedAfter_sound boxes facing sealedBy
    intro other member
    rw [split] at ideal
    exact ideal other (List.mem_append_left _ member)
  constructor
  · intro before packet after split one issued same
    rw [← same]
    exact (sound before packet after split).open_genuine boxes facing sealedBy few issued
  · intro before packet after split foreign
    have unforged := ideal packet (by rw [split]; exact List.mem_append_right _ List.mem_cons_self)
    cases opens : (((channelFor sodium sessionKey send.other).receivedAfter sodium
        before).channel.open_ sodium packet).1 with
    | none => rfl
    | some plain =>
        obtain ⟨one, issued, same⟩ :=
          sealed_of_open facing sealedBy (sound before packet after split).keys unforged opens
        exact absurd (List.mem_map.mpr ⟨one, issued, same⟩) foreign
  · exact openAll_filter facing sealedBy given _ _ (SecureChannel.SameKeys.refl _) rfl ideal

/-! ### Concrete packets -/

theorem standIn_boxes : Boxes StandIn.sodium := by
  constructor
  · intro plain nonce key cipher boxed
    change some _ = some cipher at boxed
    rw [← Option.some.inj boxed, List.length_append,
      (StandIn.mixed 16 (key ++ nonce ++ plain)).property, Nat.add_comm]
  · intro plain nonce key cipher boxed
    change some _ = some cipher at boxed
    have tag := (StandIn.mixed 16 (key ++ nonce ++ plain)).property
    change StandIn.openBox cipher nonce key = some plain
    unfold StandIn.openBox
    rw [← Option.some.inj boxed, List.take_left' tag, List.drop_left' tag, if_pos rfl]

def standInKey : SessionKey := ⟨List.replicate 32 7, by decide⟩

def standInSender : SecureChannel := channelFor StandIn.sodium standInKey .phoneToPc
def standInReceiver : SecureChannel := channelFor StandIn.sodium standInKey .pcToPhone

def shuffled : List Bytes :=
  let packets := (standInSender.sealAll StandIn.sodium [[1], [2]]).map
    SealedPacket.packet
  packets.reverse ++ [[0, 1, 2]] ++ packets

theorem channel_delivers_shuffled :
    standInReceiver.Delivers StandIn.sodium
      (standInSender.sealAll StandIn.sodium [[1], [2]]) shuffled :=
  channel_delivers StandIn.sodium standIn_boxes standInKey .phoneToPc [[1], [2]] shuffled
    (by decide) (by decide +kernel)

def atZero (plain : Bytes) : SealedPacket :=
  { counter := 0#64
    plain := plain
    nonce := standInSender.sendNonce
    cipher := (StandIn.mixed 16
      (standInSender.sendKey ++ standInSender.sendNonce ++ plain)).val ++ plain }

theorem sealRecord_atZero {channel : SecureChannel} (keys : standInSender.SameKeys channel)
    (counter : channel.counter = 0#64) (plain : Bytes) :
    channel.sealRecord StandIn.sodium plain = [atZero plain] := by
  have nonce : channel.sendNonce = standInSender.sendNonce := by
    unfold SecureChannel.sendNonce
    rw [keys.sendNoncePrefix, counter]
    rfl
  have packed : (channel.seal StandIn.sodium plain).1 = some (atZero plain).packet := by
    unfold SecureChannel.seal
    rw [if_neg (by rw [keys.initialised]; decide)]
    change some (littleEndian 8 channel.counter.toNat ++ (StandIn.mixed 16
      (channel.sendKey ++ channel.sendNonce ++ plain)).val ++ plain) = _
    rw [counter, nonce, keys.sendKey]
    unfold SealedPacket.packet atZero
    rw [List.append_assoc]
  unfold SecureChannel.sealRecord
  rw [packed]
  dsimp only
  rw [counter, nonce, (atZero plain).drop_packet]
  rfl

/-- After as many plaintexts as a counter has values, the next takes counter 0 again. -/
theorem atZero_mem_sealAll (plain : Bytes) (earlier : List Bytes) :
    ∀ channel : SecureChannel, standInSender.SameKeys channel →
      channel.counter + BitVec.ofNat 64 earlier.length = 0#64 →
      atZero plain ∈ channel.sealAll StandIn.sodium (earlier ++ [plain]) := by
  induction earlier with
  | nil =>
      intro channel keys counter
      apply List.mem_append_left
      rw [sealRecord_atZero keys ((BitVec.add_zero _).symm.trans counter)]
      exact List.mem_singleton_self _
  | cons first rest ih =>
      intro channel keys counter
      apply List.mem_append_right
      apply ih
      · exact keys.trans (channel.seal_keeps StandIn.sodium first).1
      · rw [SecureChannel.seal_advances (keys.initialised.trans rfl), BitVec.add_assoc,
          ← BitVec.ofNat_add, Nat.add_comm]
        exact counter

/-- Of 2^64 + 1 plaintexts the first and the last are sealed under one nonce; given in
this order, the packet of the last comes first and within the window and is refused. -/
theorem channel_refuses_wrapped :
    ¬ ∀ (sodium : Sodium), Boxes sodium → ∀ (sessionKey : SessionKey) (send : Direction)
      (plains given : List Bytes),
      (∀ packet ∈ given, (channelFor sodium sessionKey send.other).Unforged sodium
        ((channelFor sodium sessionKey send).sealAll sodium plains) packet) →
      (channelFor sodium sessionKey send.other).Delivers sodium
        ((channelFor sodium sessionKey send).sealAll sodium plains) given := by
  intro always
  obtain ⟨fill, wraps⟩ : ∃ fill, fill + 1 = 2 ^ 64 := ⟨2 ^ 64 - 1, by norm_num⟩
  have first : atZero [1] ∈ standInSender.sealAll StandIn.sodium
      (([1] :: List.replicate fill []) ++ [[2]]) := by
    apply List.mem_append_left
    rw [sealRecord_atZero (SecureChannel.SameKeys.refl _) rfl]
    exact List.mem_singleton_self _
  have last : atZero [2] ∈ standInSender.sealAll StandIn.sodium
      (([1] :: List.replicate fill []) ++ [[2]]) := by
    apply atZero_mem_sealAll _ _ _ (SecureChannel.SameKeys.refl _)
    rw [List.length_cons, List.length_replicate, wraps]
    rfl
  have nonces : standInSender.sendNonce =
      buildNonce standInReceiver.recvNoncePrefix 0#64 := rfl
  have delivers := always StandIn.sodium standIn_boxes standInKey .phoneToPc
    (([1] :: List.replicate fill []) ++ [[2]]) [(atZero [1]).packet, (atZero [2]).packet] (by
      intro packet member _authentic
      rcases List.mem_cons.mp member with same | member
      · refine ⟨atZero [1], first, ?_, ?_⟩
        · rw [same, (atZero [1]).drop_packet]
        · rw [same, (atZero [1]).packetCounter_packet]
          exact nonces
      · refine ⟨atZero [2], last, ?_, ?_⟩
        · rw [List.mem_singleton.mp member, (atZero [2]).drop_packet]
        · rw [List.mem_singleton.mp member, (atZero [2]).packetCounter_packet]
          exact nonces)
  have opens := delivers.genuine [(atZero [1]).packet] (atZero [2]).packet [] rfl
    (atZero [2]) last rfl
  have refused : ((standInReceiver.receivedAfter StandIn.sodium
      [(atZero [1]).packet]).channel.open_ StandIn.sodium (atZero [2]).packet).1 =
        none := by decide +kernel
  have within : (atZero [2]).packet ∉ [(atZero [1]).packet] ∧
      WithinWindow 1024 (standInReceiver.receivedAfter StandIn.sodium
        [(atZero [1]).packet]).accepted (atZero [2]).counter := by decide +kernel
  change ((standInReceiver.receivedAfter StandIn.sodium
    [(atZero [1]).packet]).channel.open_ StandIn.sodium (atZero [2]).packet).1 =
      if (atZero [2]).packet ∉ [(atZero [1]).packet] ∧
        WithinWindow 1024 (standInReceiver.receivedAfter StandIn.sodium
          [(atZero [1]).packet]).accepted (atZero [2]).counter then
        some [2]
      else none at opens
  rw [refused, if_pos within] at opens
  cases opens

end SmartMic.Media
