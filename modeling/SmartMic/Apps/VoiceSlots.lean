import SmartMic.Apps.ServiceHost
import SmartMic.Apps.VoiceSpoken

set_option autoImplicit false

/-! The packets of a spurt at the two ends of the PC: the channel that opens each of them
once, and the phone source that plays by the schedule of their slots. -/

namespace SmartMic.Apps

open SmartMic.Protocol SmartMic.Security SmartMic.Media SmartMic.Session SmartMic.Audio

variable {Decoder : Type}

/-- The slot of a packet of the spurt, numbered without wrapping. -/
def Opening.slot (opening : Opening) (index : Nat) : Int := opening.seq.toNat + index

def Opening.Heard (sodium : Sodium) (opening : Opening) (voices : List Voice)
    (given : List Bytes) (index : Nat) (voice : Voice) : Prop :=
  voices[index]? = some voice ∧
    ∃ datagram ∈ given, opening.datagram sodium index voice = some datagram

/-- The channel of the PC has the keys of the phone's, and has accepted nothing that the
phone has yet to seal. -/
structure Opening.Joined (opening : Opening) (desk : SecureChannel) : Prop where
  ready : desk.initialised = true
  key : desk.recvKey = opening.channel.sendKey
  noncePrefix : desk.recvNoncePrefix = opening.channel.sendNoncePrefix
  window : ∃ accepted, desk.replay.Records accepted ∧
    ∀ seq ∈ accepted, seq.toNat < opening.channel.counter.toNat

section Source

/-- The phone source plays by the schedule: it is idle until the first packet, and holds
what the schedule has from then on. -/
structure Opening.Playing (opening : Opening) (count : Nat) (schedule : SlotSchedule)
    (source : PhoneMediaSource Decoder) : Prop where
  started : source.started = true
  idle : schedule.pushed = [] → schedule.slot = none
  follows : schedule.pushed ≠ [] → ∃ playout : Playout Decoder,
    playout.buffer = source.buffer ∧ playout.decoder = source.decoder ∧
      Slotted.Follows { schedule := schedule, playout := playout }
  inside : ∀ packet ∈ schedule.pushed, opening.slot 0 ≤ packet.1 ∧ packet.1 < opening.slot count
  slots : ∀ slot ∈ schedule.slot, opening.slot 0 ≤ slot ∧ slot ≤ opening.slot count

variable {opening : Opening} {count : Nat} {schedule : SlotSchedule}
  {source : PhoneMediaSource Decoder}

theorem Opening.seqOf_slot (opening : Opening) (index : Nat) :
    seqOf (opening.slot index) = opening.seq + BitVec.ofNat 32 index := by
  unfold seqOf Opening.slot
  rw [BitVec.ofInt_add, BitVec.ofInt_natCast, BitVec.ofInt_natCast, BitVec.ofNat_toNat,
    BitVec.setWidth_eq]

theorem Opening.header_marker (opening : Opening) (index : Nat) :
    (opening.header index).marker = decide (index = 0) := by
  have flags : ((kFlagPttActive ||| kFlagMarker) &&& kFlagMarker != 0) = true ∧
      ((kFlagPttActive ||| kFlagNone) &&& kFlagMarker != 0) = false := by decide
  unfold Opening.header MediaHeader.marker
  by_cases first : index = 0
  · rw [if_pos first, decide_eq_true first]
    exact flags.1
  · rw [if_neg first, decide_eq_false first]
    exact flags.2

theorem Opening.onMediaPayload (opening : Opening) (index : Nat)
    (source : PhoneMediaSource Decoder) {packet : Bytes} (some_ : packet ≠ [])
    (nowMs : BitVec 64) :
    (source.onMediaPayload (writeHeader (opening.header index) ++ packet) nowMs).2 =
      { source with
        lastPacketMs := nowMs
        buffer := (if index = 0 then source.buffer.reset else source.buffer).push
          (seqOf (opening.slot index)) packet nowMs } := by
  have read : readHeader (writeHeader (opening.header index) ++ packet) =
      some (opening.header index) := readHeader_writeHeader _ _ rfl
  have rest : (writeHeader (opening.header index) ++ packet).drop mediaHeaderBytes = packet :=
    List.drop_left' (writeHeader_length _)
  unfold PhoneMediaSource.onMediaPayload
  rw [read]
  dsimp only
  rw [rest, if_neg some_, opening.header_marker, opening.seqOf_slot]
  simp only [decide_eq_true_eq]
  rfl

/-- The marker starts the schedule and the buffer afresh; the other packets take their
places in both. -/
theorem Opening.Playing.push (opus : OpusLibrary Decoder)
    (playing : opening.Playing count schedule source) {index : Nat} (within : index < count)
    (few : count < 2 ^ 29) (marks : schedule.pushed = [] ↔ index = 0) {packet : Bytes}
    (some_ : packet ≠ []) (nowMs : BitVec 64) (room : index ≠ 0 → ¬ source.buffer.Full) :
    opening.Playing count (schedule.step (.push (opening.slot index) packet nowMs))
      (source.onMediaPayload (writeHeader (opening.header index) ++ packet) nowMs).2 := by
  rw [opening.onMediaPayload index source some_ nowMs]
  have grown : (schedule.step (.push (opening.slot index) packet nowMs)).pushed ≠ [] :=
    List.append_ne_nil_of_right_ne_nil _ (List.cons_ne_nil _ _)
  have here : opening.slot 0 ≤ opening.slot index ∧ opening.slot index < opening.slot count := by
    unfold Opening.slot
    omega
  refine
    { started := playing.started
      idle := fun empty => absurd empty grown
      follows := fun _some => ?_
      inside := fun other member => ?_
      slots := fun slot current => ?_ }
  · by_cases first : index = 0
    · have nothing := marks.mpr first
      let state : Slotted Decoder :=
        { schedule := schedule
          playout := { buffer := source.buffer.reset, decoder := source.decoder, highest := none } }
      have follows : state.Follows := by
        unfold Slotted.Follows
        rw [show state.schedule.slot = none from playing.idle nothing]
        exact ⟨rfl, rfl, nothing⟩
      have live : state.Live (.push (opening.slot index) packet nowMs) := by
        constructor
        · intro slot current
          rw [show state.schedule.slot = none from playing.idle nothing] at current
          cases current
        · intro both
          have full : maxEntries source.buffer.cfg ≤ (∅ : Queue).size := both.2
          rw [Std.ExtTreeMap.size_empty] at full
          exact Nat.not_succ_le_zero _ full
      rw [if_pos first]
      exact ⟨_, rfl, rfl, @Slotted.Follows.step _ opus _ _ follows live⟩
    · obtain ⟨playout, buffer, decoder, follows⟩ :=
        playing.follows fun nothing => first (marks.mp nothing)
      have live : Slotted.Live { schedule := schedule, playout := playout }
          (.push (opening.slot index) packet nowMs) := by
        constructor
        · intro slot current
          have bounds := playing.slots slot current
          unfold Opening.slot at bounds here ⊢
          omega
        · intro both
          have full : playout.buffer.Full := both.2
          rw [buffer] at full
          exact room first full
      refine ⟨_, ?_, ?_, @Slotted.Follows.step _ opus _ _ follows live⟩
      · rw [if_neg first, ← buffer]
        rfl
      · exact decoder
  · rcases List.mem_append.mp member with earlier | now
    · exact playing.inside other earlier
    · rw [List.mem_singleton.mp now]
      exact here
  · change slot ∈ some (schedule.slot.getD (opening.slot index)) at current
    cases Option.mem_some_iff.mp current
    cases before : schedule.slot with
    | none => exact ⟨here.1, le_of_lt here.2⟩
    | some slot => exact playing.slots slot before

/-- A read moves the schedule and the source alike; before the marker it is none of the
schedule's business. -/
theorem Opening.Playing.read (opus : OpusLibrary Decoder)
    (playing : opening.Playing count schedule source) :
    opening.Playing count (schedule.step (.pop kFrameSamples)) (readPhoneSource opus source).2 := by
  have pushed := schedule.step_pushed (.pop kFrameSamples)
  change _ = schedule.pushed ++ [] at pushed
  rw [List.append_nil] at pushed
  have answer : (readPhoneSource opus source).2 =
      { source with
        buffer := (source.buffer.pop opus source.decoder kFrameSamples).buffer
        decoder := (source.buffer.pop opus source.decoder kFrameSamples).decoder } := by
    unfold readPhoneSource
    rw [if_neg (by rw [playing.started]; exact Bool.noConfusion)]
  rw [answer]
  refine
    { started := playing.started
      idle := fun nothing => ?_
      follows := fun some_ => ?_
      inside := fun packet member => playing.inside packet (pushed ▸ member)
      slots := fun slot current => ?_ }
  · rw [pushed] at nothing
    have none_ := playing.idle nothing
    unfold SlotSchedule.step
    rw [none_]
    exact none_
  · rw [pushed] at some_
    obtain ⟨playout, buffer, decoder, follows⟩ := playing.follows some_
    have moved := @Slotted.Follows.step _ opus _ (.pop kFrameSamples) follows trivial
    refine ⟨_, ?_, ?_, moved⟩
    · change (playout.buffer.pop opus playout.decoder kFrameSamples).buffer = _
      rw [buffer, decoder]
    · change (playout.buffer.pop opus playout.decoder kFrameSamples).decoder = _
      rw [buffer, decoder]
  · cases before : schedule.slot with
    | none =>
        unfold SlotSchedule.step at current
        rw [before] at current
        cases before.symm.trans current
    | some old =>
        have bounds := playing.slots old before
        rw [SlotSchedule.step_pop before] at current
        split at current
        · -- the slot is left for the next one: its packet or a later one was pushed
          rename_i leaves
          cases Option.mem_some_iff.mp current
          have below : old < opening.slot count := by
            rcases leaves with present | ⟨packet, member, later⟩
            · obtain ⟨packet, member, same⟩ :=
                (schedule.payloadOf_isSome_iff old).mp present
              rw [← same]
              exact (playing.inside packet member).2
            · exact later.trans (playing.inside packet member).2
          omega
        · cases before.symm.trans current
          exact bounds

/-- The read of a slot plays its packet if that has been pushed, and conceals it if not. -/
theorem Opening.Playing.serves (opus : OpusLibrary Decoder)
    (playing : opening.Playing count schedule source) {slot : Int}
    (current : schedule.slot = some slot) :
    (∀ payload, schedule.payloadOf slot = some payload →
      source.buffer.Plays opus source.decoder payload) ∧
    (schedule.payloadOf slot = none → source.buffer.Conceals opus source.decoder) := by
  have some_ : schedule.pushed ≠ [] := by
    intro nothing
    rw [playing.idle nothing] at current
    cases current
  obtain ⟨playout, buffer, decoder, follows⟩ := playing.follows some_
  unfold Slotted.Follows at follows
  dsimp only at follows
  rw [current] at follows
  have serves := Slotted.Holds.serves follows opus
  rw [← buffer, ← decoder]
  exact serves

end Source

/-! ### The channel -/

section Channel

variable {sodium : Sodium} {opening : Opening} {desk channel : SecureChannel}
  {voices : List Voice} {sent given : List Bytes} {high : Nat}

theorem Opening.sealedAt_body (boxes : Boxes sodium) (joined : opening.Joined desk)
    (keys : desk.SameKeys channel) {tag : UInt8} {counter : BitVec 64} {plain datagram : Bytes}
    (made : opening.sealedAt sodium tag counter plain = some datagram) :
    ∃ body, datagram = tag :: body ∧ packetCounter body = counter ∧
      kSecureOverhead ≤ body.length ∧ channel.authentic sodium body = some plain := by
  unfold Opening.sealedAt at made
  obtain ⟨cipher, boxed, rfl⟩ := Option.map_eq_some_iff.mp made
  let one : SealedPacket :=
    { counter := counter
      plain := plain
      nonce := buildNonce opening.channel.sendNoncePrefix counter
      cipher := cipher }
  refine ⟨one.packet, rfl, one.packetCounter_packet, ?_, ?_⟩
  · have length := boxes.length _ _ _ _ boxed
    unfold SealedPacket.packet kSecureOverhead
    rw [List.length_append, littleEndian_length, length]
    omega
  · unfold SecureChannel.authentic
    rw [one.packetCounter_packet, one.drop_packet, keys.recvNoncePrefix, keys.recvKey,
      joined.noncePrefix, joined.key]
    exact boxes.opens _ _ _ _ boxed

theorem Opening.sealedAt_injective {tag other : UInt8} {counter counter' : BitVec 64}
    {plain plain' datagram : Bytes}
    (made : opening.sealedAt sodium tag counter plain = some datagram)
    (made' : opening.sealedAt sodium other counter' plain' = some datagram) :
    tag = other ∧ counter = counter' := by
  unfold Opening.sealedAt at made made'
  obtain ⟨cipher, -, rfl⟩ := Option.map_eq_some_iff.mp made
  obtain ⟨cipher', -, same⟩ := Option.map_eq_some_iff.mp made'
  obtain ⟨tags, bodies⟩ := List.cons.inj same
  have first := SealedPacket.packetCounter_packet
    { counter := counter, plain := [], nonce := [], cipher := cipher }
  have second := SealedPacket.packetCounter_packet
    { counter := counter', plain := [], nonce := [], cipher := cipher' }
  refine ⟨tags.symm, first.symm.trans (Eq.trans ?_ second)⟩
  exact congrArg packetCounter bodies.symm

theorem Speech.unique {count low : Nat} (speech : Speech sodium opening count low high voices sent)
    {index other : Nat} {voice voice' : Voice} (found : voices[index]? = some voice)
    (found' : voices[other]? = some voice') (same : voice.counter = voice'.counter) :
    index = other := by
  obtain ⟨inside, rfl⟩ := List.getElem?_eq_some_iff.mp found
  obtain ⟨inside', rfl⟩ := List.getElem?_eq_some_iff.mp found'
  have rising := List.pairwise_iff_getElem.mp speech.rising
  rcases Nat.lt_trichotomy index other with before | equal | after
  · have apart := rising _ _ inside inside' before
    rw [same] at apart
    exact absurd apart (lt_irrefl _)
  · exact equal
  · have apart := rising _ _ inside' inside after
    rw [same] at apart
    exact absurd apart (lt_irrefl _)

/-- What the strings given so far leave of the channel of the PC: it has accepted the
counters of the packets among them, and nothing above what the phone has sealed. -/
structure Opening.Kept (sodium : Sodium) (opening : Opening) (voices : List Voice) (high : Nat)
    (desk : SecureChannel) (given : List Bytes) (channel : SecureChannel) : Prop where
  keys : desk.SameKeys channel
  window : ∃ accepted, channel.replay.Records accepted ∧ (∀ seq ∈ accepted, seq.toNat < high) ∧
    ∀ index voice datagram, voices[index]? = some voice →
      opening.datagram sodium index voice = some datagram →
      (voice.counter ∈ accepted ↔ datagram ∈ given)

/-- A string that does not open changes nothing, unless it is a packet not given before. -/
theorem Opening.Kept.refused (kept : opening.Kept sodium voices high desk given channel)
    {bytes body : Bytes} (refused : (channel.open_ sodium body).1 = none)
    (old : ∀ index voice, voices[index]? = some voice →
      opening.datagram sodium index voice = some bytes → bytes ∈ given) :
    opening.Kept sodium voices high desk (given ++ [bytes]) (channel.open_ sodium body).2 := by
  obtain ⟨accepted, records, below, exact_⟩ := kept.window
  have unmoved := SecureChannel.open_refused refused
  have window : (channel.open_ sodium body).2.replay = channel.replay :=
    show (channel.open_ sodium body).2.uncounted.replay = _ by rw [unmoved]; rfl
  refine
    { keys := kept.keys.trans (channel.open_keeps sodium body).1
      window := ⟨accepted, by rw [window]; exact records, below, ?_⟩ }
  intro index voice datagram found made
  rw [exact_ index voice datagram found made]
  constructor
  · exact fun member => List.mem_append_left _ member
  · intro member
    rcases List.mem_append.mp member with earlier | now
    · exact earlier
    · have same := List.mem_singleton.mp now
      rw [same] at made ⊢
      exact old index voice found made

theorem Opening.Kept.opened (kept : opening.Kept sodium voices high desk given channel)
    {bytes body plain : Bytes} (opens : (channel.open_ sodium body).1 = some plain)
    (below : (packetCounter body).toNat < high)
    (names : ∀ index voice datagram, voices[index]? = some voice →
      opening.datagram sodium index voice = some datagram →
      (voice.counter = packetCounter body ↔ datagram = bytes)) :
    opening.Kept sodium voices high desk (given ++ [bytes]) (channel.open_ sodium body).2 := by
  obtain ⟨accepted, records, earlier, exact_⟩ := kept.window
  obtain ⟨fresh, window⟩ := (channel.open_window sodium body).1 (by rw [opens]; rfl)
  refine
    { keys := kept.keys.trans (channel.open_keeps sodium body).1
      window := ⟨packetCounter body :: accepted, ?_, ?_, ?_⟩ }
  · rw [window]
    exact records.accept (by decide) fresh
  · exact List.forall_mem_cons.mpr ⟨below, earlier⟩
  · intro index voice datagram found made
    rw [List.mem_cons, List.mem_append, List.mem_singleton, names index voice datagram found made,
      exact_ index voice datagram found made, or_comm]

section

variable (boxes : Boxes sodium) (joined : opening.Joined desk)
  (speech : Speech sodium opening 0 opening.channel.counter.toNat high voices sent)
  (near : high ≤ opening.channel.counter.toNat + 1024)

include boxes joined speech near

theorem Opening.Kept.open_packet (kept : opening.Kept sodium voices high desk given channel)
    {index : Nat} {voice : Voice} {datagram : Bytes} (found : voices[index]? = some voice)
    (made : opening.datagram sodium index voice = some datagram) :
    ∃ body, datagram = tagMedia :: body ∧ packetCounter body = voice.counter ∧
      (channel.open_ sodium body).1 =
        if datagram ∈ given then none
        else some (writeHeader (opening.header index) ++ voice.packet) := by
  obtain ⟨body, whole, counter, long, authentic⟩ :=
    Opening.sealedAt_body boxes joined kept.keys made
  obtain ⟨accepted, records, below, exact_⟩ := kept.window
  refine ⟨body, whole, counter, ?_⟩
  rw [SecureChannel.open_authentic (kept.keys.initialised.trans joined.ready) long authentic,
    counter]
  have member := exact_ index voice datagram found made
  by_cases again : datagram ∈ given
  · have stale : ¬ (channel.replay.accept voice.counter).1 = true := by
      intro fresh
      exact ((records.accepts_iff (by decide) _).mp fresh).1 (member.mpr again)
    rw [if_pos again, if_neg stale]
  · have fresh : (channel.replay.accept voice.counter).1 = true := by
      refine (records.accepts_iff (by decide) _).mpr ⟨fun old => again (member.mp old), ?_⟩
      intro other taken higher
      have above := below other taken
      have low := (speech.within voice (List.mem_of_getElem? found)).1
      bv_omega
    rw [if_neg again, if_pos fresh]

theorem Opening.Kept.hear_packet (kept : opening.Kept sodium voices high desk given channel)
    {index : Nat} {voice : Voice} {body : Bytes} (found : voices[index]? = some voice)
    (made : opening.datagram sodium index voice = some (tagMedia :: body)) :
    opening.Kept sodium voices high desk (given ++ [tagMedia :: body])
      (channel.open_ sodium body).2 := by
  obtain ⟨body', whole, counter, opens⟩ := kept.open_packet boxes joined speech near found made
  cases whole
  by_cases again : tagMedia :: body ∈ given
  · rw [if_pos again] at opens
    exact kept.refused opens fun _index _voice _found _made => again
  · rw [if_neg again] at opens
    refine kept.opened opens ?_ ?_
    · rw [counter]
      exact (speech.within voice (List.mem_of_getElem? found)).2
    · intro other voice' datagram found' made'
      rw [counter]
      constructor
      · intro same
        have equal := speech.unique found' found same
        rw [equal] at found' made'
        cases Option.some.inj (found'.symm.trans found)
        exact Option.some.inj (made'.symm.trans made)
      · intro same
        rw [same] at made'
        exact (Opening.sealedAt_injective made' made).2

omit speech near in
theorem Opening.Kept.hear_control (kept : opening.Kept sodium voices high desk given channel)
    {counter : BitVec 64} {plain body : Bytes}
    (made : opening.sealedAt sodium tagControl counter plain = some (tagControl :: body))
    (below : counter.toNat < high) (apart : ∀ voice ∈ voices, voice.counter ≠ counter) :
    opening.Kept sodium voices high desk (given ++ [tagControl :: body])
      (channel.open_ sodium body).2 := by
  obtain ⟨body', whole, same, -, -⟩ := Opening.sealedAt_body boxes joined kept.keys made
  cases whole
  have foreign : ∀ index voice, opening.datagram sodium index voice ≠
      some (tagControl :: body) := by
    intro index voice packet
    have tags := (Opening.sealedAt_injective packet made).1
    exact absurd tags (by decide)
  cases opens : (channel.open_ sodium body).1 with
  | none => exact kept.refused opens fun index voice _found packet => absurd packet (foreign _ _)
  | some text =>
      refine kept.opened opens (by rw [same]; exact below) ?_
      intro index voice datagram found packet
      constructor
      · intro equal
        exact absurd (equal.trans same) (apart voice (List.mem_of_getElem? found))
      · intro equal
        rw [equal] at packet
        exact absurd packet (foreign _ _)

end

end Channel

end SmartMic.Apps
