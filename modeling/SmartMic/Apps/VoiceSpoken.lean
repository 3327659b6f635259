import SmartMic.Apps.PhoneRuntime
import SmartMic.Session.DatagramSteps
import SmartMic.Media.ChannelDelivery
import SmartMic.Support.Simulation

set_option autoImplicit false

/-! What a phone says while its button is held. Every frame that the encoder takes goes
out as one sealed media packet, numbered from the press on; pings, mode changes and the
release go out between them, sealed on the same channel. -/

namespace SmartMic.Apps

open SmartMic.Protocol SmartMic.Security SmartMic.Media SmartMic.Session

structure Voice where
  counter : BitVec 64
  packet : Bytes
  deriving DecidableEq

/-- Where the first frame finds the sender and the channel. -/
structure Opening where
  seq : Seq
  timestamp : BitVec 32
  channel : SecureChannel

/-- The header of a packet of the spurt; the first one carries the marker. -/
def Opening.header (opening : Opening) (index : Nat) : MediaHeader :=
  { version := kMediaVersion
    flags := kFlagPttActive ||| (if index = 0 then kFlagMarker else kFlagNone)
    reserved := 0#16
    seq := opening.seq + BitVec.ofNat 32 index
    timestampSamples := opening.timestamp + BitVec.ofNat 32 (index * kFrameSamples) }

def Opening.sealedAt (sodium : Sodium) (opening : Opening) (tag : UInt8) (counter : BitVec 64)
    (plain : Bytes) : Option Bytes :=
  (sodium.secretboxEasy plain (buildNonce opening.channel.sendNoncePrefix counter)
    opening.channel.sendKey).map fun cipher => tag :: (littleEndian 8 counter.toNat ++ cipher)

def Opening.datagram (sodium : Sodium) (opening : Opening) (index : Nat) (voice : Voice) :
    Option Bytes :=
  opening.sealedAt sodium tagMedia voice.counter
    (writeHeader (opening.header index) ++ voice.packet)

section

variable {Encoder : Type}

def SmPhone.opening (phone : SmPhone Encoder) : Opening :=
  { seq := phone.sender.seq
    timestamp := phone.sender.timestamp
    channel := phone.peer.channel }

def SmPhone.sends (sodium : Sodium) (library : JsonLibrary) (opus : OpusEncoderLibrary Encoder)
    (phone : SmPhone Encoder) (input : PhoneInput) : List Bytes :=
  if phone.terminated then [] else (phone.react sodium library opus input).sent

def SmPhone.sentBy (sodium : Sodium) (library : JsonLibrary) (opus : OpusEncoderLibrary Encoder) :
    SmPhone Encoder → List PhoneInput → List Bytes
  | _, [] => []
  | phone, input :: rest =>
      phone.sends sodium library opus input ++
        SmPhone.sentBy sodium library opus (phone.step sodium library opus input) rest

def SmPhone.speaks (opus : OpusEncoderLibrary Encoder) (phone : SmPhone Encoder) :
    PhoneInput → Option Voice
  | .captureFrame pcm =>
      if phone.terminated = true ∨ phone.state.transmits = false ∨ pcm.length ≠ kFrameSamples then
        none
      else
        (phone.sender.encode opus pcm).1.map fun packet =>
          { counter := phone.peer.channel.counter, packet := packet }
  | _ => none

def SmPhone.spoken (sodium : Sodium) (library : JsonLibrary) (opus : OpusEncoderLibrary Encoder)
    (phone : SmPhone Encoder) (inputs : List PhoneInput) : List Voice :=
  Run.observed (SmPhone.step sodium library opus) (SmPhone.speaks opus) phone inputs

/-- A step that neither starts a pairing nor hears a pairing text. -/
def PhoneInput.Held : PhoneInput → Prop
  | .beginPairing _ _ _ => False
  | .datagram _ _ bytes => bytes.head? ≠ some tagPairing
  | _ => True

structure SmPhone.Speaking (opening : Opening) (count : Nat) (phone : SmPhone Encoder) : Prop where
  authenticated : phone.peer.state = .authenticated
  initialised : phone.peer.channel.initialised = true
  keys : opening.channel.SameKeys phone.peer.channel
  seq : phone.sender.seq = opening.seq + BitVec.ofNat 32 count
  timestamp : phone.sender.timestamp =
    opening.timestamp + BitVec.ofNat 32 (count * kFrameSamples)
  marker : phone.sender.marker = decide (count = 0)

/-- The effect of a step on the counter of the channel, and what it hands out. -/
inductive SmPhone.Says (sodium : Sodium) (opening : Opening) (count : Nat)
    (counter : BitVec 64) : SmPhone Encoder → Option Voice → List Bytes → Prop where
  | nothing (phone : SmPhone Encoder) (speaking : phone.Speaking opening count)
      (moved : phone.peer.channel.counter = counter ∨
        phone.peer.channel.counter = counter + 1#64) :
      Says sodium opening count counter phone none []
  | control (phone : SmPhone Encoder) (speaking : phone.Speaking opening count)
      (moved : phone.peer.channel.counter = counter + 1#64) (plain datagram : Bytes)
      (sealed_ : opening.sealedAt sodium tagControl counter plain = some datagram) :
      Says sodium opening count counter phone none [datagram]
  | packet (phone : SmPhone Encoder) (speaking : phone.Speaking opening (count + 1))
      (moved : phone.peer.channel.counter = counter + 1#64) (packet : Bytes) :
      Says sodium opening count counter phone (some { counter := counter, packet := packet })
        (opening.datagram sodium count { counter := counter, packet := packet }).toList

/-! ### One step -/

section Step

variable {sodium : Sodium} {library : JsonLibrary} {opus : OpusEncoderLibrary Encoder}
  {opening : Opening} {count : Nat} {phone : SmPhone Encoder}

theorem sendSealed_sent {session : PeerSession} (keys : opening.channel.SameKeys session.channel)
    (initialised : session.channel.initialised = true) (tag : UInt8) (plain : Bytes) :
    (session.sendSealed sodium tag plain).sent =
        (opening.sealedAt sodium tag session.channel.counter plain).toList ∧
      (session.sendSealed sodium tag plain).session =
        { session with channel := (session.channel.seal sodium plain).2 } := by
  have ready : ¬ session.channel.initialised = false := by
    rw [initialised]
    exact Bool.true_eq_false_eq_False
  unfold PeerSession.sendSealed Opening.sealedAt SecureChannel.seal
  rw [if_neg ready, keys.sendNoncePrefix, keys.sendKey]
  dsimp only
  cases sodium.secretboxEasy plain
      (buildNonce opening.channel.sendNoncePrefix session.channel.counter)
      opening.channel.sendKey with
  | none => exact ⟨rfl, rfl⟩
  | some cipher => exact ⟨rfl, rfl⟩

theorem SmPhone.Speaking.frame (speaking : phone.Speaking opening count)
    (next : SmPhone Encoder) (peer : next.peer = phone.peer) (sender : next.sender = phone.sender) :
    next.Speaking opening count :=
  { authenticated := by rw [peer]; exact speaking.authenticated
    initialised := by rw [peer]; exact speaking.initialised
    keys := by rw [peer]; exact speaking.keys
    seq := by rw [sender]; exact speaking.seq
    timestamp := by rw [sender]; exact speaking.timestamp
    marker := by rw [sender]; exact speaking.marker }

theorem SmPhone.Speaking.rechannel (speaking : phone.Speaking opening count)
    (next : SmPhone Encoder) (state : next.peer.state = phone.peer.state)
    (keys : phone.peer.channel.SameKeys next.peer.channel)
    (sender : next.sender = phone.sender) : next.Speaking opening count :=
  { authenticated := state.trans speaking.authenticated
    initialised := keys.initialised.trans speaking.initialised
    keys := speaking.keys.trans keys
    seq := by rw [sender]; exact speaking.seq
    timestamp := by rw [sender]; exact speaking.timestamp
    marker := by rw [sender]; exact speaking.marker }

theorem SmPhone.Speaking.silent (speaking : phone.Speaking opening count) :
    SmPhone.Says sodium opening count phone.peer.channel.counter phone none [] :=
  .nothing phone speaking (Or.inl rfl)

theorem SmPhone.Speaking.sendControl (speaking : phone.Speaking opening count) (stamp : Stamp)
    (command : Command) :
    SmPhone.Says sodium opening count phone.peer.channel.counter
      (phone.sendControl sodium library stamp command).phone none
      (phone.sendControl sodium library stamp command).sent := by
  unfold SmPhone.sendControl PeerSession.nextSeq PeerSession.sendControl
  dsimp only
  rw [if_neg (not_not.mpr speaking.authenticated)]
  cases encode library (Message.make stamp command.type phone.sessionId
      (phone.peer.self_.deviceId sodium) (phone.peer.seq + 1#64) command.payload) with
  | none => exact .nothing _ (speaking.rechannel _ rfl (.refl _) rfl) (Or.inl rfl)
  | some text =>
      obtain ⟨sent, session⟩ := @sendSealed_sent sodium opening
        { phone.peer with seq := phone.peer.seq + 1#64 } speaking.keys speaking.initialised
        tagControl text
      have advanced := @SecureChannel.seal_advances sodium _ speaking.initialised text
      have keys := (phone.peer.channel.seal_keeps sodium text).1
      dsimp only
      rw [sent, session]
      cases sealed_ : opening.sealedAt sodium tagControl phone.peer.channel.counter text with
      | none =>
          refine .nothing _ ?_ (Or.inr advanced)
          exact speaking.rechannel _ rfl keys rfl
      | some datagram =>
          refine .control _ ?_ advanced text datagram sealed_
          exact speaking.rechannel _ rfl keys rfl

theorem SmPhone.Speaking.sendAll (speaking : phone.Speaking opening count) (stamp : Stamp)
    {commands : List Command} (single : commands.length ≤ 1) :
    SmPhone.Says sodium opening count phone.peer.channel.counter
      (phone.sendAll sodium library stamp commands).phone none
      (phone.sendAll sodium library stamp commands).sent := by
  cases commands with
  | nil => exact speaking.silent
  | cons command rest =>
      cases rest with
      | cons _ _ => simp at single
      | nil =>
          change SmPhone.Says _ _ _ _ (phone.sendControl sodium library stamp command).phone none
            ((phone.sendControl sodium library stamp command).sent ++ [])
          rw [List.append_nil]
          exact speaking.sendControl stamp command

theorem SmPhone.Says.restate {next : SmPhone Encoder} {voice : Option Voice} {sent : List Bytes}
    {counter : BitVec 64} (said : SmPhone.Says sodium opening count counter phone voice sent)
    (peer : next.peer = phone.peer) (sender : next.sender = phone.sender) :
    SmPhone.Says sodium opening count counter next voice sent := by
  cases said with
  | nothing speaking moved =>
      exact .nothing _ (speaking.frame _ peer sender) (by rw [peer]; exact moved)
  | control speaking moved plain datagram sealed_ =>
      exact .control _ (speaking.frame _ peer sender) (by rw [peer]; exact moved) plain datagram
        sealed_
  | packet speaking moved packet =>
      exact .packet _ (speaking.frame _ peer sender) (by rw [peer]; exact moved) packet

theorem SmPhone.Speaking.workerCheck (speaking : phone.Speaking opening count) (stamp : Stamp)
    (now : BitVec 64) (transmits : phone.state.transmits = true) :
    SmPhone.Says sodium opening count phone.peer.channel.counter
      (phone.workerCheck sodium library stamp now).phone none
      (phone.workerCheck sodium library stamp now).sent := by
  have connected : phone.state.connState = .authenticated := by
    unfold PhoneState.transmits at transmits
    rw [Bool.and_eq_true, beq_iff_eq] at transmits
    exact transmits.2
  have calm : phone.retryPairing now = { phone := phone, sent := [] } := by
    unfold SmPhone.retryPairing
    rw [if_neg]
    intro pairing
    rw [connected] at pairing
    cases pairing.1
  unfold SmPhone.workerCheck
  rw [calm]
  dsimp only
  rw [if_neg (not_not.mpr connected), List.nil_append]
  have pinged : SmPhone.Says sodium opening count phone.peer.channel.counter
      (phone.ping sodium library stamp now).phone none
      (phone.ping sodium library stamp now).sent := by
    unfold SmPhone.ping
    split
    · have noted := speaking.frame
        { phone with
          state := { phone.state with pingSentMs := now }
          lastPing := now } rfl rfl
      exact noted.sendControl stamp _
    · exact speaking.silent
  exact pinged.restate rfl rfl

theorem SmPhone.Speaking.captureFrame (speaking : phone.Speaking opening count)
    (transmits : phone.state.transmits = true) (running : phone.terminated = false)
    (pcm : List Sample) :
    SmPhone.Says sodium opening count phone.peer.channel.counter
      (phone.onCaptureFrame sodium opus pcm).phone (phone.speaks opus (.captureFrame pcm))
      (phone.onCaptureFrame sodium opus pcm).sent := by
  unfold SmPhone.onCaptureFrame SmPhone.speaks
  rw [transmits, running]
  simp only [Bool.true_eq_false, Bool.false_eq_true, if_false, false_or]
  by_cases short : pcm.length ≠ kFrameSamples
  · rw [if_pos short, if_pos short]
    exact speaking.silent
  · rw [if_neg short, if_neg short]
    have length : pcm.length = kFrameSamples := not_not.mp short
    unfold MediaSender.packFrame
    have kept : (phone.sender.encode opus pcm).2.seq = phone.sender.seq ∧
        (phone.sender.encode opus pcm).2.timestamp = phone.sender.timestamp ∧
        (phone.sender.encode opus pcm).2.marker = phone.sender.marker := by
      unfold MediaSender.encode
      repeat' split
      all_goals exact ⟨rfl, rfl, rfl⟩
    rcases encoded : phone.sender.encode opus pcm with ⟨result, sender⟩
    rw [encoded] at kept
    obtain ⟨seq, timestamp, marker⟩ := kept
    cases result with
    | none =>
        refine .nothing _ ?_ (Or.inl rfl)
        exact
          { authenticated := speaking.authenticated
            initialised := speaking.initialised
            keys := speaking.keys
            seq := seq.trans speaking.seq
            timestamp := timestamp.trans speaking.timestamp
            marker := marker.trans speaking.marker }
    | some packet =>
        have header :
            ({ version := kMediaVersion
               flags := (if true then kFlagPttActive else kFlagNone) |||
                 (if sender.marker then kFlagMarker else kFlagNone)
               reserved := 0#16
               seq := sender.seq
               timestampSamples := sender.timestamp } : MediaHeader) = opening.header count := by
          unfold Opening.header
          dsimp only at seq timestamp marker
          rw [seq, timestamp, marker, speaking.seq, speaking.timestamp, speaking.marker]
          simp only [if_true, decide_eq_true_eq]
        dsimp only
        rw [header]
        unfold PeerSession.sendMedia
        rw [if_neg (not_not.mpr speaking.authenticated)]
        obtain ⟨sent, session⟩ := @sendSealed_sent sodium opening phone.peer speaking.keys
          speaking.initialised tagMedia (writeHeader (opening.header count) ++ packet)
        rw [sent, session]
        refine .packet _ ?_ (SecureChannel.seal_advances speaking.initialised _) packet
        obtain ⟨keys, -⟩ := phone.peer.channel.seal_keeps sodium
          (writeHeader (opening.header count) ++ packet)
        exact
          { authenticated := speaking.authenticated
            initialised := keys.initialised.trans speaking.initialised
            keys := speaking.keys.trans keys
            seq := by
              change sender.seq + 1#32 = _
              rw [seq, speaking.seq]
              bv_omega
            timestamp := by
              change sender.timestamp + BitVec.ofNat 32 pcm.length = _
              rw [timestamp, speaking.timestamp, length, Nat.succ_mul, BitVec.ofNat_add,
                BitVec.add_assoc]
            marker := rfl }

theorem onDatagram_opened {session : PeerSession} (authenticated : session.state = .authenticated)
    (moment : Moment) {tag : UInt8} (foreign : tag ≠ tagPairing) (body : Bytes) :
    let reaction := session.onDatagram sodium library moment (tag :: body)
    reaction.session.state = .authenticated ∧ reaction.sent = [] ∧
      reaction.session.channel = (session.channel.open_ sodium body).2 ∧
      reaction.delivered =
        match session.channel.open_ sodium body with
        | (none, _) => []
        | (some plain, channel) =>
            (PeerSession.dispatch library { session with channel := channel } tag
              plain).delivered := by
  intro reaction
  have unfolded : reaction = session.onDatagram sodium library moment (tag :: body) := rfl
  unfold PeerSession.onDatagram at unfolded
  dsimp only at unfolded
  rw [if_neg foreign, if_neg (not_not.mpr authenticated)] at unfolded
  rcases opened : session.channel.open_ sodium body with ⟨plain, channel⟩
  rw [opened] at unfolded
  cases plain with
  | none =>
      rw [unfolded]
      exact ⟨authenticated, rfl, rfl, rfl⟩
  | some plain =>
      dsimp only at unfolded ⊢
      rw [unfolded]
      rcases PeerSession.dispatch_cases library { session with channel := channel } tag plain with
        ⟨delivery, controlReplay, -, dispatched⟩ | ⟨-, dropped⟩
      · rw [dispatched]
        exact ⟨authenticated, rfl, rfl, rfl⟩
      · rw [dropped]
        exact ⟨authenticated, rfl, rfl, rfl⟩

theorem SmPhone.onDelivery_frame (nowMs : BitVec 64) (delivered : List Delivery)
    (phone : SmPhone Encoder) :
    (delivered.foldl (SmPhone.onDelivery library nowMs) phone).peer = phone.peer ∧
      (delivered.foldl (SmPhone.onDelivery library nowMs) phone).sender = phone.sender := by
  induction delivered generalizing phone with
  | nil => exact ⟨rfl, rfl⟩
  | cons delivery rest ih =>
      have first : (phone.onDelivery library nowMs delivery).peer = phone.peer ∧
          (phone.onDelivery library nowMs delivery).sender = phone.sender := by
        unfold SmPhone.onDelivery
        repeat' split
        all_goals exact ⟨rfl, rfl⟩
      obtain ⟨peer, sender⟩ := ih (phone.onDelivery library nowMs delivery)
      exact ⟨peer.trans first.1, sender.trans first.2⟩

theorem SmPhone.Speaking.heard (speaking : phone.Speaking opening count) (nowMs : BitVec 64)
    (moment : Moment) {bytes : Bytes} (foreign : bytes.head? ≠ some tagPairing) :
    SmPhone.Says sodium opening count phone.peer.channel.counter
      (phone.react sodium library opus (.datagram nowMs moment bytes)).phone none
      (phone.react sodium library opus (.datagram nowMs moment bytes)).sent := by
  have moves : (phone.peer.onDatagram sodium library moment bytes).sent = [] ∧
      (phone.peer.onDatagram sodium library moment bytes).session.state = phone.peer.state ∧
      phone.peer.channel.SameKeys
        (phone.peer.onDatagram sodium library moment bytes).session.channel ∧
      (phone.peer.onDatagram sodium library moment bytes).session.channel.counter =
        phone.peer.channel.counter := by
    cases bytes with
    | nil => exact ⟨rfl, rfl, .refl _, rfl⟩
    | cons tag body =>
        have other : tag ≠ tagPairing := fun same => foreign (congrArg some same)
        obtain ⟨state, sent, channel, -⟩ := @onDatagram_opened sodium library _
          speaking.authenticated moment _ other body
        obtain ⟨keys, counter⟩ := phone.peer.channel.open_keeps sodium body
        rw [state, sent, channel, speaking.authenticated]
        exact ⟨rfl, rfl, keys, counter⟩
  obtain ⟨sent, state, keys, counter⟩ := moves
  obtain ⟨peer, sender⟩ := @SmPhone.onDelivery_frame _ library nowMs
    (phone.peer.onDatagram sodium library moment bytes).delivered
    { phone with
      peer := (phone.peer.onDatagram sodium library moment bytes).session
      state :=
        if (phone.peer.onDatagram sodium library moment bytes).session.state = phone.peer.state then
          phone.state
        else
          phone.state.onStateChanged
            (phone.peer.onDatagram sodium library moment bytes).session.state
      terminated := phone.terminated ||
        (phone.peer.onDatagram sodium library moment bytes).threw }
  change SmPhone.Says sodium opening count _
    (phone.adopt library nowMs (phone.peer.onDatagram sodium library moment bytes)) none
    (phone.peer.onDatagram sodium library moment bytes).sent
  rw [sent]
  refine .nothing _ (speaking.rechannel _ ?_ ?_ sender) (Or.inl ?_)
  · exact (congrArg PeerSession.state peer).trans state
  · rw [show (phone.adopt library nowMs _).peer = _ from peer]
    exact keys
  · exact (congrArg (fun session => session.channel.counter) peer).trans counter

theorem SmPhone.Speaking.saysOnce (speaking : phone.Speaking opening count) {input : PhoneInput}
    (held : input.Held) (transmits : phone.state.transmits = true) :
    SmPhone.Says sodium opening count phone.peer.channel.counter
      (phone.step sodium library opus input) (phone.speaks opus input)
      (phone.sends sodium library opus input) := by
  unfold SmPhone.step SmPhone.sends
  by_cases ended : phone.terminated = true
  · have mute : phone.speaks opus input = none := by
      cases input with
      | captureFrame pcm => exact if_pos (Or.inl ended)
      | _ => rfl
    rw [if_pos ended, if_pos ended, mute]
    exact speaking.silent
  · rw [if_neg ended, if_neg ended]
    cases input with
    | beginPairing _ _ _ => exact held.elim
    | press stamp nowMs =>
        have again : phone.state.press nowMs = (phone.state, []) := by
          unfold PhoneState.transmits at transmits
          rw [Bool.and_eq_true, beq_iff_eq] at transmits
          unfold PhoneState.press
          rw [if_neg (not_not.mpr transmits.2), if_pos transmits.1]
        change SmPhone.Says _ _ _ _ (phone.press sodium library stamp nowMs).phone none
          (phone.press sodium library stamp nowMs).sent
        unfold SmPhone.press
        rw [again]
        exact speaking.silent
    | release stamp nowMs =>
        have single : (phone.state.release nowMs).2.length ≤ 1 := by
          unfold PhoneState.release
          dsimp only
          split <;> simp
        exact (speaking.frame { phone with state := (phone.state.release nowMs).1 } rfl
          rfl).sendAll stamp single
    | setMode stamp mode =>
        have single : (phone.state.setMode mode).length ≤ 1 := by
          unfold PhoneState.setMode
          split <;> simp
        exact speaking.sendAll stamp single
    | takeHaptic => exact speaking.silent.restate rfl rfl
    | captureFrame pcm =>
        exact speaking.captureFrame transmits (Bool.eq_false_of_not_eq_true ended) pcm
    | datagram nowMs moment bytes => exact speaking.heard nowMs moment held
    | workerCheck stamp now => exact speaking.workerCheck stamp now transmits

end Step

/-! ### All that is said -/

/-- The packets of a spurt from one of them on, and the datagrams they went out in. Every
other datagram is a control message, sealed at a counter of its own. -/
structure Speech (sodium : Sodium) (opening : Opening) (count low high : Nat)
    (voices : List Voice) (sent : List Bytes) : Prop where
  rising : voices.Pairwise fun earlier later => earlier.counter.toNat < later.counter.toNat
  within : ∀ voice ∈ voices, low ≤ voice.counter.toNat ∧ voice.counter.toNat < high
  carried : ∀ datagram ∈ sent,
    (∃ index voice, voices[index]? = some voice ∧
      opening.datagram sodium (count + index) voice = some datagram) ∨
    (∃ counter plain, opening.sealedAt sodium tagControl counter plain = some datagram ∧
      low ≤ counter.toNat ∧ counter.toNat < high ∧ ∀ voice ∈ voices, voice.counter ≠ counter)
  complete : ∀ index voice datagram, voices[index]? = some voice →
    opening.datagram sodium (count + index) voice = some datagram → datagram ∈ sent

section Speech

variable {sodium : Sodium} {opening : Opening} {count low high : Nat} {voices : List Voice}
  {sent : List Bytes}

theorem speech_nil (sodium : Sodium) (opening : Opening) (count low high : Nat) :
    Speech sodium opening count low high [] [] :=
  { rising := List.Pairwise.nil
    within := fun _voice member => absurd member List.not_mem_nil
    carried := fun _datagram member => absurd member List.not_mem_nil
    complete := fun _index _voice _datagram found => by cases found }

theorem Speech.lower (speech : Speech sodium opening count low high voices sent) {lower : Nat}
    (below : lower ≤ low) : Speech sodium opening count lower high voices sent :=
  { rising := speech.rising
    within := fun voice member => ⟨le_trans below (speech.within voice member).1,
      (speech.within voice member).2⟩
    carried := by
      intro datagram member
      rcases speech.carried datagram member with packet | ⟨counter, plain, at_, above, within⟩
      · exact Or.inl packet
      · exact Or.inr ⟨counter, plain, at_, le_trans below above, within⟩
    complete := speech.complete }

theorem Speech.control {counter : BitVec 64}
    (speech : Speech sodium opening count (counter.toNat + 1) high voices sent)
    {plain datagram : Bytes}
    (sealed_ : opening.sealedAt sodium tagControl counter plain = some datagram)
    (room : counter.toNat < high) :
    Speech sodium opening count counter.toNat high voices (datagram :: sent) := by
  have later := speech.lower (Nat.le_succ counter.toNat)
  refine
    { rising := later.rising
      within := later.within
      carried := fun other member => ?_
      complete := fun index voice other found made =>
        List.mem_cons_of_mem _ (speech.complete index voice other found made) }
  rcases List.mem_cons.mp member with same | earlier
  · rw [same]
    refine Or.inr ⟨counter, plain, sealed_, le_refl _, room, fun voice spoken equal => ?_⟩
    have above := (speech.within voice spoken).1
    rw [equal] at above
    omega
  · exact later.carried other earlier

theorem Speech.packet (voice : Voice)
    (speech : Speech sodium opening (count + 1) (voice.counter.toNat + 1) high voices sent)
    (room : voice.counter.toNat < high) :
    Speech sodium opening count voice.counter.toNat high (voice :: voices)
      ((opening.datagram sodium count voice).toList ++ sent) := by
  have step : ∀ index, count + 1 + index = count + (index + 1) := fun index => by omega
  refine
    { rising := List.pairwise_cons.mpr ⟨fun later member => ?_, speech.rising⟩
      within := List.forall_mem_cons.mpr ⟨⟨le_refl _, room⟩, fun later member => ?_⟩
      carried := fun datagram member => ?_
      complete := fun index other datagram found made => ?_ }
  · exact (speech.within later member).1
  · exact ⟨le_trans (Nat.le_succ _) (speech.within later member).1, (speech.within later member).2⟩
  · rcases List.mem_append.mp member with now | afterwards
    · exact Or.inl ⟨0, voice, rfl, Option.mem_toList.mp now⟩
    · rcases speech.carried datagram afterwards with
        ⟨index, other, found, made⟩ | ⟨counter, plain, sealed_, above, below, apart⟩
      · rw [step] at made
        exact Or.inl ⟨index + 1, other, found, made⟩
      · refine Or.inr ⟨counter, plain, sealed_, le_trans (Nat.le_succ _) above, below, ?_⟩
        refine List.forall_mem_cons.mpr ⟨fun equal => ?_, apart⟩
        rw [equal] at above
        omega
  · cases index with
    | zero =>
        cases found
        exact List.mem_append_left _ (Option.mem_toList.mpr made)
    | succ index =>
        rw [← step] at made
        exact List.mem_append_right _ (speech.complete index other datagram found made)

end Speech

/-- What a phone says while it transmits: its packets in order, each at a counter of its
own, and nothing else but control messages. -/
theorem SmPhone.Speaking.speech {sodium : Sodium} {library : JsonLibrary}
    {opus : OpusEncoderLibrary Encoder} {opening : Opening} {high : Nat}
    (few : high < 2 ^ 64) (inputs : List PhoneInput) :
    ∀ (count : Nat) (phone : SmPhone Encoder), phone.Speaking opening count →
      Run.Meets (SmPhone.step sodium library opus)
        (fun phone input => phone.state.transmits = true ∧ input.Held) phone inputs →
      phone.peer.channel.counter.toNat + inputs.length ≤ high →
      Speech sodium opening count phone.peer.channel.counter.toNat high
        (phone.spoken sodium library opus inputs) (phone.sentBy sodium library opus inputs) := by
  induction inputs with
  | nil => exact fun count phone _speaking _meets _room => speech_nil _ _ _ _ _
  | cons input rest ih =>
      intro count phone speaking meets room
      obtain ⟨⟨transmits, held⟩, later⟩ := meets
      rw [List.length_cons] at room
      have once := @SmPhone.Speaking.saysOnce _ sodium library opus _ _ _ speaking _ held transmits
      change Speech _ _ _ _ _
        ((phone.speaks opus input).toList ++
          SmPhone.spoken sodium library opus (phone.step sodium library opus input) rest)
        (phone.sends sodium library opus input ++
          SmPhone.sentBy sodium library opus (phone.step sodium library opus input) rest)
      generalize phone.step sodium library opus input = next at once later ⊢
      generalize phone.speaks opus input = voice at once ⊢
      generalize phone.sends sodium library opus input = sends at once ⊢
      have advance : (phone.peer.channel.counter + 1#64).toNat =
          phone.peer.channel.counter.toNat + 1 := by
        rw [BitVec.toNat_add]
        change (_ + 1) % _ = _
        exact Nat.mod_eq_of_lt (by omega)
      cases once with
      | nothing speaking moved =>
          have near : phone.peer.channel.counter.toNat ≤ next.peer.channel.counter.toNat ∧
              next.peer.channel.counter.toNat ≤ phone.peer.channel.counter.toNat + 1 := by
            rcases moved with same | moved
            · rw [same]
              omega
            · rw [moved, advance]
              omega
          exact (ih count next speaking later (by omega)).lower near.1
      | control speaking moved plain datagram sealed_ =>
          rw [← moved] at advance
          have onward := ih count next speaking later (by omega)
          rw [advance] at onward
          exact onward.control sealed_ (by omega)
      | packet speaking moved packet =>
          rw [← moved] at advance
          have onward := ih (count + 1) next speaking later (by omega)
          rw [advance] at onward
          have here : phone.peer.channel.counter.toNat < high := by omega
          exact Speech.packet { counter := phone.peer.channel.counter, packet := packet } onward
            here

structure SmPhone.Opens (phone : SmPhone Encoder) : Prop where
  authenticated : phone.peer.state = .authenticated
  initialised : phone.peer.channel.initialised = true
  marker : phone.sender.marker = true

theorem SmPhone.Opens.speaking {phone : SmPhone Encoder} (opens : phone.Opens) :
    phone.Speaking phone.opening 0 :=
  { authenticated := opens.authenticated
    initialised := opens.initialised
    keys := SecureChannel.SameKeys.refl _
    seq := (BitVec.add_zero _).symm
    timestamp := (BitVec.add_zero _).symm
    marker := opens.marker }

end

end SmartMic.Apps
