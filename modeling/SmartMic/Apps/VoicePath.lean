import SmartMic.Apps.PhoneDisplay
import SmartMic.Apps.VoiceSlots

set_option autoImplicit false

/-! The way of a voice from the frames that a phone captures to the slots in which the PC
plays them. The network loses, repeats and reorders the datagrams of the phone, pings and
other control messages among them, and adds strings that do not open. The audio loop reads
the phone source in the rounds in which its router wants it. -/

namespace SmartMic.Apps

open SmartMic.Protocol SmartMic.Security SmartMic.Media SmartMic.Session SmartMic.Audio

variable {Decoder : Type}

/-! ### The process -/

/-- A string that is no pairing text and does not open under the keys of the channel. -/
def Inert (sodium : Sodium) (desk : SecureChannel) (bytes : Bytes) : Prop :=
  ∀ tag body, bytes = tag :: body → tag ≠ tagPairing ∧ desk.authentic sodium body = none

/-- The network hands over what the phone sent, or strings of its own that do not open. -/
def HostInput.Carries (sodium : Sodium) (desk : SecureChannel) (sent : List Bytes) :
    HostInput → Prop
  | .datagram incoming => incoming.bytes ∈ sent ∨ Inert sodium desk incoming.bytes
  | .round _ _ => True

def HostInput.given : HostInput → List Bytes
  | .datagram incoming => [incoming.bytes]
  | .round _ _ => []

/-- The call that a step makes of the phone source: a payload that the session passes on, or
a read in a round whose router wants the phone. -/
def Host.slotCall (sodium : Sodium) (library : JsonLibrary) (opus : OpusLibrary Decoder)
    (opening : Opening) (host : Host Decoder) : HostInput → Option SlotCall
  | .datagram incoming =>
      match (host.peer.onDatagram sodium library incoming.moment incoming.bytes).delivered with
      | [.media data] =>
          (readHeader data).map fun header =>
            .push (opening.slot (header.seq - opening.seq).toNat) (data.drop mediaHeaderBytes)
              incoming.nowMs
      | _ => none
  | .round _ room =>
      let announced := (host.service.announce room.nowUnixMs).1
      if announced.router.skipsPhone (announced.surroundings opus room) then none
      else some (.pop kFrameSamples)

section Process

variable {sodium : Sodium} {library : JsonLibrary} {curves : GainCurves}
  {opus : OpusLibrary Decoder} {opening : Opening} {desk : SecureChannel} {voices : List Voice}
  {sent given : List Bytes} {high : Nat} {schedule : SlotSchedule} {host : Host Decoder}

/-- Whatever has come through, the marker has too. -/
def Opening.Marked (sodium : Sodium) (opening : Opening) (voices : List Voice)
    (given : List Bytes) : Prop :=
  ∀ index voice, opening.Heard sodium voices given index voice →
    ∃ first, opening.Heard sodium voices given 0 first

/-- The process beside the schedule, after these strings. -/
structure Host.Hearing (sodium : Sodium) (opening : Opening) (voices : List Voice) (high : Nat)
    (desk : SecureChannel) (given : List Bytes) (schedule : SlotSchedule) (host : Host Decoder) :
    Prop where
  authenticated : host.peer.state = .authenticated
  kept : opening.Kept sodium voices high desk given host.peer.channel
  playing : opening.Playing voices.length schedule host.service.phoneSource
  pushed : ∀ slot payload, (slot, payload) ∈ schedule.pushed ↔
    ∃ index voice, opening.Heard sodium voices given index voice ∧ slot = opening.slot index ∧
      payload = voice.packet

theorem Host.Hearing.frame (hearing : host.Hearing sodium opening voices high desk given schedule)
    {next : Host Decoder} {given' : List Bytes} (state : next.peer.state = .authenticated)
    (kept : opening.Kept sodium voices high desk given' next.peer.channel)
    (source : next.service.phoneSource = host.service.phoneSource)
    (heard : ∀ index voice, opening.Heard sodium voices given' index voice ↔
      opening.Heard sodium voices given index voice) :
    next.Hearing sodium opening voices high desk given' schedule :=
  { authenticated := state
    kept := kept
    playing := by rw [source]; exact hearing.playing
    pushed := by simpa only [heard] using hearing.pushed }

theorem Opening.Kept.replied {channel channel' : SecureChannel}
    (kept : opening.Kept sodium voices high desk given channel)
    (keys : channel.SameKeys channel') (replay : channel'.replay = channel.replay) :
    opening.Kept sodium voices high desk given channel' :=
  { keys := kept.keys.trans keys
    window := by rw [replay]; exact kept.window }

theorem Host.hear_quiet {incoming : Incoming}
    (nothing : (host.peer.onDatagram sodium library incoming.moment incoming.bytes).delivered =
      []) :
    (host.hear sodium library incoming).host.service = host.service ∧
      (host.hear sodium library incoming).host.peer =
        (host.peer.onDatagram sodium library incoming.moment incoming.bytes).session := by
  unfold Host.hear
  dsimp only
  rw [nothing]
  exact ⟨rfl, rfl⟩

theorem Host.hear_media {incoming : Incoming} {data : Bytes}
    (media : (host.peer.onDatagram sodium library incoming.moment incoming.bytes).delivered =
      [.media data]) :
    (host.hear sodium library incoming).host.service =
        host.service.onMedia incoming.nowMs data ∧
      (host.hear sodium library incoming).host.peer =
        (host.peer.onDatagram sodium library incoming.moment incoming.bytes).session := by
  unfold Host.hear
  dsimp only
  rw [media]
  exact ⟨rfl, rfl⟩

theorem Host.hear_control {incoming : Incoming} {message : Message}
    (control : (host.peer.onDatagram sodium library incoming.moment incoming.bytes).delivered =
      [.control message]) :
    let reaction := host.peer.onDatagram sodium library incoming.moment incoming.bytes
    let after := (host.hear sodium library incoming).host
    after.service.phoneSource = host.service.phoneSource ∧
      after.peer.state = reaction.session.state ∧
      reaction.session.channel.SameKeys after.peer.channel ∧
      after.peer.channel.replay = reaction.session.channel.replay := by
  intro reaction after
  have unfolded : after = (host.hear sodium library incoming).host := rfl
  unfold Host.hear at unfolded
  dsimp only at unfolded
  rw [control] at unfolded
  change after = (Host.onDelivery sodium library incoming.stamp incoming.nowMs
    incoming.localSourceName { host with
      peer := reaction.session
      terminated := host.terminated || reaction.threw } (.control message)).host at unfolded
  unfold Host.onDelivery at unfolded
  dsimp only at unfolded
  cases handled : host.service.onControl incoming.localSourceName message with
  | none =>
      rw [handled] at unfolded
      rw [unfolded]
      exact ⟨rfl, rfl, .refl _, rfl⟩
  | some result =>
      obtain ⟨service, commands⟩ := result
      rw [handled] at unfolded
      dsimp only at unfolded
      have replied := Host.sendAll_replied sodium library incoming.stamp message.sessionId
        commands { host with
          peer := reaction.session
          service := service
          terminated := host.terminated || reaction.threw }
      rw [unfolded]
      exact ⟨(congrArg Service.phoneSource replied.service).trans
        (Service.onControl_phoneSource handled), replied.state, replied.keys, replied.replay⟩

theorem Host.Hearing.round (hearing : host.Hearing sodium opening voices high desk given schedule)
    (stamp : Stamp) (room : Room) :
    (host.round sodium library curves opus stamp room).host.Hearing sodium opening voices high desk
      given ((host.slotCall sodium library opus opening (.round stamp room)).elim schedule
        schedule.step) := by
  have replied := Host.sendAll_replied sodium library stamp host.sessionId
    (host.service.announce room.nowUnixMs).2
    { host with service := (host.service.announce room.nowUnixMs).1 }
  have source := host.service.announce_phoneSource room.nowUnixMs
  unfold Host.slotCall
  dsimp only
  generalize announced : host.service.announce room.nowUnixMs = result at replied source ⊢
  obtain ⟨service, commands⟩ := result
  have unfolded : (host.round sodium library curves opus stamp room).host =
      { (Host.sendAll sodium library stamp host.sessionId commands
          { host with service := service }).host with
        service := service.tick curves opus room } := by
    unfold Host.round
    rw [announced]
    dsimp only [HostReaction.andThen, HostReaction.quiet]
    rw [replied.service]
  have kept := hearing.kept.replied replied.keys replied.replay
  have state := replied.state.trans hearing.authenticated
  dsimp only at source ⊢
  by_cases skips : service.router.skipsPhone (service.surroundings opus room) = true
  · rw [if_pos skips, unfolded]
    refine hearing.frame state kept ?_ fun _index _voice => Iff.rfl
    change (if service.router.skipsPhone (service.surroundings opus room) then
      service.phoneSource else _) = _
    rw [if_pos skips]
    exact source
  · rw [if_neg skips, unfolded]
    have moved : (service.tick curves opus room).phoneSource =
        (readPhoneSource opus host.service.phoneSource).2 := by
      change (if service.router.skipsPhone (service.surroundings opus room) then _
        else (readPhoneSource opus service.phoneSource).2) = _
      rw [if_neg skips, source]
    refine
      { authenticated := state
        kept := kept
        playing := ?_
        pushed := fun slot payload => ?_ }
    · change opening.Playing _ _ (service.tick curves opus room).phoneSource
      rw [moved]
      exact hearing.playing.read opus
    · have pushed := schedule.step_pushed (.pop kFrameSamples)
      change _ = schedule.pushed ++ [] at pushed
      rw [List.append_nil] at pushed
      change _ ∈ (schedule.step (.pop kFrameSamples)).pushed ↔ _
      rw [pushed]
      exact hearing.pushed slot payload

theorem SecureChannel.open_foreign {channel : SecureChannel} {body : Bytes}
    (foreign : channel.authentic sodium body = none) : (channel.open_ sodium body).1 = none := by
  unfold SecureChannel.open_
  rw [foreign]
  split
  · rfl
  · split <;> rfl

theorem Opening.heard_append {bytes : Bytes} {index : Nat} {voice : Voice} :
    opening.Heard sodium voices (given ++ [bytes]) index voice ↔
      opening.Heard sodium voices given index voice ∨
        (voices[index]? = some voice ∧ opening.datagram sodium index voice = some bytes) := by
  unfold Opening.Heard
  constructor
  · rintro ⟨found, datagram, member, made⟩
    rcases List.mem_append.mp member with earlier | now
    · exact Or.inl ⟨found, datagram, earlier, made⟩
    · rw [List.mem_singleton.mp now] at made
      exact Or.inr ⟨found, made⟩
  · rintro (⟨found, datagram, member, made⟩ | ⟨found, made⟩)
    · exact ⟨found, datagram, List.mem_append_left _ member, made⟩
    · exact ⟨found, bytes, List.mem_append_right _ (List.mem_singleton_self _), made⟩

/-- A string that is no packet of the spurt, or that came before, adds nothing to it. -/
theorem Opening.heard_append_old {bytes : Bytes}
    (old : ∀ index voice, voices[index]? = some voice →
      opening.datagram sodium index voice = some bytes → bytes ∈ given) (index : Nat)
    (voice : Voice) :
    opening.Heard sodium voices (given ++ [bytes]) index voice ↔
      opening.Heard sodium voices given index voice := by
  rw [Opening.heard_append]
  refine ⟨fun either => either.elim id fun now => ?_, Or.inl⟩
  exact ⟨now.1, bytes, old index voice now.1 now.2, now.2⟩

section

variable (boxes : Boxes sodium) (joined : opening.Joined desk)

include boxes joined

theorem Host.Hearing.inert (hearing : host.Hearing sodium opening voices high desk given schedule)
    (incoming : Incoming) (inert : Inert sodium desk incoming.bytes) :
    host.slotCall sodium library opus opening (.datagram incoming) = none ∧
      (host.hear sodium library incoming).host.Hearing sodium opening voices high desk
        (given ++ [incoming.bytes]) schedule := by
  have foreign : ∀ index voice, opening.datagram sodium index voice ≠ some incoming.bytes := by
    intro index voice made
    obtain ⟨body, whole, -, -, authentic⟩ :=
      Opening.sealedAt_body boxes joined (SecureChannel.SameKeys.refl desk) made
    rw [(inert tagMedia body whole).2] at authentic
    cases authentic
  have old : ∀ index voice, voices[index]? = some voice →
      opening.datagram sodium index voice = some incoming.bytes → incoming.bytes ∈ given :=
    fun index voice _found made => absurd made (foreign index voice)
  have dropped :
      (host.peer.onDatagram sodium library incoming.moment incoming.bytes).delivered = [] ∧
      (host.peer.onDatagram sodium library incoming.moment incoming.bytes).session.state =
        .authenticated ∧
      opening.Kept sodium voices high desk (given ++ [incoming.bytes])
        (host.peer.onDatagram sodium library incoming.moment incoming.bytes).session.channel := by
    rcases bytes : incoming.bytes with _ | ⟨tag, body⟩
    · refine ⟨rfl, hearing.authenticated, hearing.kept.keys, ?_⟩
      obtain ⟨accepted, records, below, exact_⟩ := hearing.kept.window
      refine ⟨accepted, records, below, fun index voice datagram found made => ?_⟩
      rw [exact_ index voice datagram found made, List.mem_append, List.mem_singleton]
      refine ⟨Or.inl, fun either => either.elim id fun empty => ?_⟩
      rw [empty, ← bytes] at made
      exact absurd made (foreign index voice)
    · obtain ⟨other, unauthentic⟩ := inert tag body bytes
      rw [← hearing.kept.keys.authentic] at unauthentic
      have refused := SecureChannel.open_foreign unauthentic
      obtain ⟨state, -, channel, delivered⟩ := @onDatagram_opened sodium library _
        hearing.authenticated incoming.moment _ other body
      rw [bytes] at old
      refine ⟨?_, state, ?_⟩
      · rw [delivered]
        rcases opened : host.peer.channel.open_ sodium body with ⟨plain, channel'⟩
        rw [opened] at refused
        cases refused
        rfl
      · rw [channel]
        exact hearing.kept.refused refused old
  obtain ⟨nothing, state, kept⟩ := dropped
  obtain ⟨service, peer⟩ := Host.hear_quiet nothing
  constructor
  · unfold Host.slotCall
    dsimp only
    rw [nothing]
  · refine hearing.frame ?_ ?_ (congrArg Service.phoneSource service)
      (Opening.heard_append_old old)
    · rw [peer]
      exact state
    · rw [peer]
      exact kept

theorem Host.Hearing.control (hearing : host.Hearing sodium opening voices high desk given schedule)
    (incoming : Incoming) {counter : BitVec 64} {plain : Bytes}
    (made : opening.sealedAt sodium tagControl counter plain = some incoming.bytes)
    (below : counter.toNat < high) (apart : ∀ voice ∈ voices, voice.counter ≠ counter) :
    host.slotCall sodium library opus opening (.datagram incoming) = none ∧
      (host.hear sodium library incoming).host.Hearing sodium opening voices high desk
        (given ++ [incoming.bytes]) schedule := by
  obtain ⟨body, whole, -, -, -⟩ := Opening.sealedAt_body boxes joined hearing.kept.keys made
  have kept := hearing.kept.hear_control boxes joined (whole ▸ made) below apart
  have old : ∀ index voice, voices[index]? = some voice →
      opening.datagram sodium index voice = some incoming.bytes → incoming.bytes ∈ given := by
    intro index voice _found packet
    have tags := (Opening.sealedAt_injective packet made).1
    exact absurd tags (by decide)
  obtain ⟨state, -, channel, delivered⟩ := @onDatagram_opened sodium library _
    hearing.authenticated incoming.moment tagControl (by decide) body
  rw [← whole] at state channel delivered kept
  rw [← channel] at kept
  have answers :
      (host.peer.onDatagram sodium library incoming.moment incoming.bytes).delivered = [] ∨
      ∃ message, (host.peer.onDatagram sodium library incoming.moment
        incoming.bytes).delivered = [.control message] := by
    rw [delivered]
    rcases host.peer.channel.open_ sodium body with ⟨text, channel'⟩
    cases text with
    | none => exact Or.inl rfl
    | some text =>
        rcases PeerSession.dispatch_cases library { host.peer with channel := channel' } tagControl
          text with ⟨delivery, controlReplay, passes, dispatched⟩ | ⟨-, stopped⟩
        · rcases passes.cases with ⟨tags, -⟩ | ⟨-, message, -, -, same⟩
          · exact absurd tags (by decide)
          · dsimp only
            rw [dispatched, same]
            exact Or.inr ⟨message, rfl⟩
        · dsimp only
          rw [stopped]
          exact Or.inl rfl
  rcases answers with nothing | ⟨message, control⟩
  · obtain ⟨service, peer⟩ := Host.hear_quiet nothing
    constructor
    · unfold Host.slotCall
      dsimp only
      rw [nothing]
    · refine hearing.frame ?_ ?_ (congrArg Service.phoneSource service)
        (Opening.heard_append_old old)
      · rw [peer]
        exact state
      · rw [peer]
        exact kept
  · obtain ⟨source, state', keys, replay⟩ := Host.hear_control control
    constructor
    · unfold Host.slotCall
      dsimp only
      rw [control]
    · exact hearing.frame (state'.trans state) (kept.replied keys replay) source
        (Opening.heard_append_old old)

variable (speech : Speech sodium opening 0 opening.channel.counter.toNat high voices sent)
  (near : high ≤ opening.channel.counter.toNat + 1024)

include speech near

/-- The call that a packet makes: none when it has come before. -/
theorem Host.Hearing.slotCall_packet
    (hearing : host.Hearing sodium opening voices high desk given schedule) (incoming : Incoming)
    {index : Nat} {voice : Voice} (found : voices[index]? = some voice)
    (made : opening.datagram sodium index voice = some incoming.bytes) :
    (host.peer.onDatagram sodium library incoming.moment incoming.bytes).delivered =
        (if incoming.bytes ∈ given then []
          else [.media (writeHeader (opening.header index) ++ voice.packet)]) ∧
      host.slotCall sodium library opus opening (.datagram incoming) =
        if incoming.bytes ∈ given then none
        else some (.push (opening.slot (BitVec.ofNat 32 index).toNat) voice.packet
          incoming.nowMs) := by
  obtain ⟨body, whole, -, opens⟩ :=
    hearing.kept.open_packet boxes joined speech near found made
  obtain ⟨-, -, -, delivered⟩ := @onDatagram_opened sodium library _
    hearing.authenticated incoming.moment tagMedia (by decide) body
  rw [← whole] at delivered
  have delivered : (host.peer.onDatagram sodium library incoming.moment incoming.bytes).delivered =
      if incoming.bytes ∈ given then []
      else [.media (writeHeader (opening.header index) ++ voice.packet)] := by
    rw [delivered]
    rcases opened : host.peer.channel.open_ sodium body with ⟨text, channel'⟩
    rw [opened] at opens
    dsimp only at opens
    by_cases again : incoming.bytes ∈ given
    · rw [if_pos again] at opens ⊢
      rw [opens]
    · rw [if_neg again] at opens ⊢
      rw [opens]
      rfl
  refine ⟨delivered, ?_⟩
  unfold Host.slotCall
  dsimp only
  rw [delivered]
  by_cases again : incoming.bytes ∈ given
  · rw [if_pos again, if_pos again]
  · rw [if_neg again, if_neg again]
    have read : readHeader (writeHeader (opening.header index) ++ voice.packet) =
        some (opening.header index) := readHeader_writeHeader _ _ rfl
    have rest : (writeHeader (opening.header index) ++ voice.packet).drop mediaHeaderBytes =
        voice.packet := List.drop_left' (writeHeader_length _)
    dsimp only
    rw [read, rest]
    unfold Opening.header
    dsimp only [Option.map_some]
    rw [BitVec.add_comm, BitVec.add_sub_cancel]

omit boxes joined near in
theorem Host.Hearing.marks
    (hearing : host.Hearing sodium opening voices high desk given schedule) {bytes : Bytes}
    {index : Nat} {voice : Voice} (found : voices[index]? = some voice)
    (made : opening.datagram sodium index voice = some bytes) (fresh : bytes ∉ given)
    (marked : opening.Marked sodium voices given)
    (marked' : opening.Marked sodium voices (given ++ [bytes])) :
    schedule.pushed = [] ↔ index = 0 := by
  constructor
  · intro nothing
    obtain ⟨first, heard⟩ := marked' index voice (Opening.heard_append.mpr (Or.inr ⟨found, made⟩))
    rcases Opening.heard_append.mp heard with earlier | ⟨found', made'⟩
    · have pushed := (hearing.pushed _ _).mpr ⟨0, first, earlier, rfl, rfl⟩
      rw [nothing] at pushed
      exact absurd pushed List.not_mem_nil
    · exact speech.unique found found' (Opening.sealedAt_injective made made').2
  · intro zero
    by_contra some_
    obtain ⟨packet, member⟩ := List.exists_mem_of_ne_nil _ some_
    obtain ⟨other, voice', heard, -, -⟩ := (hearing.pushed packet.1 packet.2).mp member
    obtain ⟨first, found', datagram, earlier, made'⟩ := marked other voice' heard
    rw [zero] at found made
    cases Option.some.inj (found.symm.trans found')
    cases Option.some.inj (made.symm.trans made')
    exact fresh earlier

theorem Host.Hearing.packet
    (hearing : host.Hearing sodium opening voices high desk given schedule) (incoming : Incoming)
    {index : Nat} {voice : Voice} (found : voices[index]? = some voice)
    (made : opening.datagram sodium index voice = some incoming.bytes)
    (few : voices.length ≤ 1024) (some_ : voice.packet ≠ [])
    (marked : opening.Marked sodium voices given)
    (marked' : opening.Marked sodium voices (given ++ [incoming.bytes]))
    (roomy : ∀ slot payload nowMs,
      host.slotCall sodium library opus opening (.datagram incoming) =
        some (.push slot payload nowMs) →
      slot ≠ opening.slot 0 → ¬ host.service.phoneSource.buffer.Full) :
    (host.hear sodium library incoming).host.Hearing sodium opening voices high desk
      (given ++ [incoming.bytes])
      ((host.slotCall sodium library opus opening (.datagram incoming)).elim schedule
        schedule.step) := by
  have inside := (List.getElem?_eq_some_iff.mp found).1
  have small : (BitVec.ofNat 32 index).toNat = index := by
    rw [BitVec.toNat_ofNat]
    exact Nat.mod_eq_of_lt (by omega)
  obtain ⟨delivered, call⟩ := @Host.Hearing.slotCall_packet _ sodium library opus _ _ _ _ _ _ _ _
    boxes joined speech near hearing incoming _ _ found made
  rw [small] at call
  obtain ⟨body, whole, -, -⟩ := hearing.kept.open_packet boxes joined speech near found made
  have kept := hearing.kept.hear_packet boxes joined speech near found (whole ▸ made)
  obtain ⟨state, -, channel, -⟩ := @onDatagram_opened sodium library _
    hearing.authenticated incoming.moment tagMedia (by decide) body
  rw [← whole] at state channel kept
  rw [← channel] at kept
  by_cases again : incoming.bytes ∈ given
  · rw [if_pos again] at delivered call
    obtain ⟨service, peer⟩ := Host.hear_quiet delivered
    rw [call]
    refine hearing.frame ?_ ?_ (congrArg Service.phoneSource service)
      (Opening.heard_append_old fun _index _voice _found _made => again)
    · rw [peer]
      exact state
    · rw [peer]
      exact kept
  · rw [if_neg again] at delivered call
    obtain ⟨service, peer⟩ := Host.hear_media delivered
    have marks := hearing.marks speech found made again marked marked'
    rw [call]
    refine
      { authenticated := by rw [peer]; exact state
        kept := by rw [peer]; exact kept
        playing := ?_
        pushed := fun slot payload => ?_ }
    · rw [service]
      refine hearing.playing.push opus inside (by omega) marks some_ incoming.nowMs ?_
      intro later
      refine roomy _ _ _ call fun same => later ?_
      unfold Opening.slot at same
      omega
    · change (slot, payload) ∈ schedule.pushed ++ [(opening.slot index, voice.packet)] ↔ _
      rw [List.mem_append, List.mem_singleton, hearing.pushed]
      simp only [Opening.heard_append]
      constructor
      · rintro (⟨other, voice', heard, rest⟩ | now)
        · exact ⟨other, voice', Or.inl heard, rest⟩
        · cases now
          exact ⟨index, voice, Or.inr ⟨found, made⟩, rfl, rfl⟩
      · rintro ⟨other, voice', heard | ⟨found', made'⟩, rfl, rfl⟩
        · exact Or.inl ⟨other, voice', heard, rfl, rfl⟩
        · have same := speech.unique found found' (Opening.sealedAt_injective made made').2
          rw [← same] at found' ⊢
          cases Option.some.inj (found.symm.trans found')
          exact Or.inr rfl

/-- What the network may do to a step, and the room that the buffer has for it. -/
structure Host.Allows (sodium : Sodium) (library : JsonLibrary) (opus : OpusLibrary Decoder)
    (opening : Opening) (desk : SecureChannel) (sent : List Bytes) (host : Host Decoder)
    (input : HostInput) : Prop where
  running : host.terminated = false
  carries : input.Carries sodium desk sent
  roomy : ∀ slot payload nowMs,
    host.slotCall sodium library opus opening input = some (.push slot payload nowMs) →
    slot ≠ opening.slot 0 → ¬ host.service.phoneSource.buffer.Full

/-- Every step of the process is one of the schedule, or none. -/
theorem Host.Hearing.step (hearing : host.Hearing sodium opening voices high desk given schedule)
    (few : voices.length ≤ 1024) (audible : ∀ voice ∈ voices, voice.packet ≠ [])
    {input : HostInput} (allows : host.Allows sodium library opus opening desk sent input)
    (marked : opening.Marked sodium voices given)
    (marked' : opening.Marked sodium voices (given ++ input.given)) :
    (host.step sodium library curves opus input).Hearing sodium opening voices high desk
      (given ++ input.given)
      ((host.slotCall sodium library opus opening input).elim schedule schedule.step) := by
  unfold Host.step
  rw [if_neg (by rw [allows.running]; exact Bool.noConfusion)]
  cases input with
  | round stamp room =>
      change (host.round sodium library curves opus stamp room).host.Hearing _ _ _ _ _
        (given ++ []) _
      rw [List.append_nil]
      exact hearing.round stamp room
  | datagram incoming =>
      change (host.hear sodium library incoming).host.Hearing _ _ _ _ _
        (given ++ [incoming.bytes]) _
      rcases allows.carries with genuine | inert
      · rcases speech.carried _ genuine with
          ⟨index, voice, found, made⟩ | ⟨counter, plain, made, -, below, apart⟩
        · rw [Nat.zero_add] at made
          exact hearing.packet boxes joined speech near incoming found made few
            (audible voice (List.mem_of_getElem? found)) marked marked' allows.roomy
        · obtain ⟨silent, after⟩ := @Host.Hearing.control _ sodium library opus _ _ _ _ _ _ _
            boxes joined hearing incoming _ _ made below apart
          rw [silent]
          exact after
      · obtain ⟨silent, after⟩ := @Host.Hearing.inert _ sodium library opus _ _ _ _ _ _ _
          boxes joined hearing incoming inert
        rw [silent]
        exact after

end

end Process

/-! ### From the microphone to the slots -/

section Path

variable {Encoder : Type}

def givenBy (inputs : List HostInput) : List Bytes := inputs.flatMap HostInput.given

def Host.callsOf (sodium : Sodium) (library : JsonLibrary) (curves : GainCurves)
    (opus : OpusLibrary Decoder) (opening : Opening) (host : Host Decoder)
    (inputs : List HostInput) : List SlotCall :=
  Run.observed (Host.step sodium library curves opus)
    (Host.slotCall sodium library opus opening) host inputs

section

variable {sodium : Sodium} {library : JsonLibrary} {curves : GainCurves}
  {opus : OpusLibrary Decoder} {opening : Opening} {desk : SecureChannel} {voices : List Voice}
  {sent given : List Bytes} {high : Nat} {schedule : SlotSchedule} {host : Host Decoder}

theorem Host.Hearing.run (boxes : Boxes sodium) (joined : opening.Joined desk)
    (speech : Speech sodium opening 0 opening.channel.counter.toNat high voices sent)
    (near : high ≤ opening.channel.counter.toNat + 1024) (few : voices.length ≤ 1024)
    (audible : ∀ voice ∈ voices, voice.packet ≠ []) (inputs : List HostInput) :
    ∀ (given : List Bytes) (schedule : SlotSchedule) (host : Host Decoder),
      host.Hearing sodium opening voices high desk given schedule →
      Run.Meets (Host.step sodium library curves opus)
        (Host.Allows sodium library opus opening desk sent) host inputs →
      (∀ first, first <+: inputs → opening.Marked sodium voices (given ++ givenBy first)) →
      (Run.final (Host.step sodium library curves opus) host inputs).Hearing sodium opening voices
        high desk (given ++ givenBy inputs)
        (Run.final SlotSchedule.step schedule
          (host.callsOf sodium library curves opus opening inputs)) := by
  induction inputs with
  | nil =>
      intro given schedule host hearing _meets _marked
      change host.Hearing _ _ _ _ _ (given ++ []) _
      rw [List.append_nil]
      exact hearing
  | cons input rest ih =>
      intro given schedule host hearing meets marked
      have before := marked [] List.nil_prefix
      change opening.Marked sodium voices (given ++ []) at before
      rw [List.append_nil] at before
      have after := marked [input] (List.cons_prefix_cons.mpr ⟨rfl, List.nil_prefix⟩)
      change opening.Marked sodium voices (given ++ (input.given ++ [])) at after
      rw [List.append_nil] at after
      have next := @Host.Hearing.step _ sodium library curves opus _ _ _ _ _ _ _ _ boxes joined
        speech near hearing few audible _ meets.1 before after
      have moved : (host.slotCall sodium library opus opening input).elim schedule schedule.step =
          Run.final SlotSchedule.step schedule
            (host.slotCall sodium library opus opening input).toList := by
        cases host.slotCall sodium library opus opening input <;> rfl
      have onward := ih _ _ _ next meets.2 fun first prefixed => by
        rw [List.append_assoc]
        exact marked (input :: first) (List.cons_prefix_cons.mpr ⟨rfl, prefixed⟩)
      rw [moved, List.append_assoc, ← Run.final_append] at onward
      exact onward

end

namespace StandIn

open SmartMic.StandIn SmartMic.Session.StandIn

def twoFrames : List PhoneInput :=
  [.captureFrame (List.replicate kFrameSamples 0), .captureFrame (List.replicate kFrameSamples 0)]

def arrival (bytes : Bytes) : HostInput :=
  .datagram
    { bytes := bytes, moment := moment, nowMs := 0#64, stamp := stamp
      localSourceName := ascii "mic" }

end StandIn

end Path

end SmartMic.Apps
