import SmartMic.Apps.Service
import SmartMic.Media.PlayoutOrder

set_option autoImplicit false

/-! A talk spurt whose packets arrive in any order before anything is read. Its marker resets
the buffer when it arrives, and whatever of the spurt came before it is gone with the rest. -/

namespace SmartMic.Apps

open SmartMic.Media SmartMic.Audio

variable {Decoder : Type}

/-- Consecutive packets; the first one, and no other, carries the marker. -/
structure TalkSpurt where
  first : Seq
  count : Nat
  flags : Nat → UInt8
  reserved : Nat → BitVec 16
  timestamp : Nat → BitVec 32
  payload : Nat → Bytes
  begins : 0 < count
  marked : ∀ index, (flags index &&& kFlagMarker != 0) = decide (index = 0)
  carried : ∀ index, payload index ≠ []

def TalkSpurt.seq (spurt : TalkSpurt) (index : Nat) : Seq := spurt.first + BitVec.ofNat 32 index

def TalkSpurt.header (spurt : TalkSpurt) (index : Nat) : MediaHeader :=
  { version := kMediaVersion
    flags := spurt.flags index
    reserved := spurt.reserved index
    seq := spurt.seq index
    timestampSamples := spurt.timestamp index }

def TalkSpurt.data (spurt : TalkSpurt) (index : Nat) : Bytes :=
  writeHeader (spurt.header index) ++ spurt.payload index

def TalkSpurt.arrive (spurt : TalkSpurt) (times : Nat → BitVec 64)
    (source : PhoneMediaSource Decoder) (index : Nat) : PhoneMediaSource Decoder :=
  (source.onMediaPayload (spurt.data index) (times index)).2

def afterReads (opus : OpusLibrary Decoder) (source : PhoneMediaSource Decoder) :
    Nat → PhoneMediaSource Decoder
  | 0 => source
  | count + 1 => (readPhoneSource opus (afterReads opus source count)).2

/-- Nothing of the spurt is lost: every packet is queued, none was counted as too late,
duplicate or dropped, and the reads that follow play the payloads in order. -/
structure TalkSpurt.Lossless (opus : OpusLibrary Decoder) (spurt : TalkSpurt)
    (arrived : PhoneMediaSource Decoder) : Prop where
  buffered : ∀ index < spurt.count,
    (arrived.buffer.queue[spurt.seq index]?).map Entry.payload = some (spurt.payload index)
  size : arrived.buffer.queue.size = spurt.count
  pushed : arrived.buffer.stats.pushed = spurt.count
  tooLate : arrived.buffer.stats.tooLate = 0
  duplicates : arrived.buffer.stats.duplicates = 0
  overflow : arrived.buffer.stats.overflow = 0
  played : ∀ index < spurt.count,
    (afterReads opus arrived index).started = true ∧
      (afterReads opus arrived index).decoder.isSome = true ∧
      (afterReads opus arrived index).buffer.Plays opus (afterReads opus arrived index).decoder
        (spurt.payload index)

/-! ### One arrival -/

section Arrival

variable (spurt : TalkSpurt) (times : Nat → BitVec 64) (source : PhoneMediaSource Decoder)

theorem TalkSpurt.arrive_eq (index : Nat) :
    spurt.arrive times source index =
      { source with
        lastPacketMs := times index
        buffer :=
          (if index = 0 then source.buffer.reset else source.buffer).push (spurt.seq index)
            (spurt.payload index) (times index) } := by
  have read : readHeader (spurt.data index) = some (spurt.header index) :=
    readHeader_writeHeader _ _ rfl
  have rest : (spurt.data index).drop mediaHeaderBytes = spurt.payload index :=
    List.drop_left' (writeHeader_length _)
  have marker : (spurt.header index).marker = decide (index = 0) := spurt.marked index
  unfold TalkSpurt.arrive PhoneMediaSource.onMediaPayload
  rw [read]
  dsimp only
  rw [rest, if_neg (spurt.carried index), marker]
  by_cases opens : index = 0
  · rw [if_pos (decide_eq_true opens), if_pos opens]
    rfl
  · rw [if_neg (by simpa using opens), if_neg opens]
    rfl

theorem TalkSpurt.arrivals_frame (order : List Nat) :
    (Run.final (spurt.arrive times) source order).started = source.started ∧
      (Run.final (spurt.arrive times) source order).decoder = source.decoder := by
  induction order generalizing source with
  | nil => exact ⟨rfl, rfl⟩
  | cons index rest ih =>
      obtain ⟨started, decoder⟩ := ih (spurt.arrive times source index)
      rw [TalkSpurt.arrive_eq] at started decoder
      rw [Run.final_cons, TalkSpurt.arrive_eq]
      exact ⟨started, decoder⟩

end Arrival

theorem push_size_le (buffer : JitterBuffer) (seq : Seq) (payload : Bytes)
    (arrivalMs : BitVec 64) :
    (buffer.push seq payload arrivalMs).queue.size ≤ buffer.queue.size + 1 := by
  rcases buffer.push_queue seq payload arrivalMs with ⟨-, same⟩ | ⟨-, -, same⟩ | ⟨-, -, stored⟩
  · rw [same]
    exact Nat.le_succ _
  · rw [same]
    exact Nat.le_succ _
  · rw [stored]
    refine (Queue.size_store _ _ _).trans (Nat.succ_le_succ ?_)
    split
    · unfold Queue.eraseFirst
      split
      · exact Std.ExtTreeMap.size_erase_le
      · exact Nat.le_refl _
    · exact Nat.le_refl _

/-! ### All arrivals, the marker first -/

/-- These packets of the spurt are queued and counted, and nothing else is. -/
structure TalkSpurt.Queued (spurt : TalkSpurt) (config : JitterConfig) (taken : List Nat)
    (buffer : JitterBuffer) : Prop where
  cfg : buffer.cfg = config
  queue : ∀ index < spurt.count, (buffer.queue[spurt.seq index]?).map Entry.payload =
    if index ∈ taken then some (spurt.payload index) else none
  size : buffer.queue.size = taken.length
  stats : ∃ reordered, buffer.stats = { pushed := taken.length, reordered := reordered }

section Arrivals

variable {spurt : TalkSpurt} {config : JitterConfig} {taken : List Nat} {buffer : JitterBuffer}

theorem TalkSpurt.seq_injective {left right : Nat} (leftSmall : left < 2 ^ 29)
    (rightSmall : right < 2 ^ 29) (same : spurt.seq left = spurt.seq right) : left = right := by
  unfold TalkSpurt.seq at same
  bv_omega

theorem TalkSpurt.seq_inTime {index : Nat} (small : index < 2 ^ 29) :
    0 ≤ (spurt.seq index - spurt.first).toInt := by
  rw [← not_lt, toInt_neg_iff]
  unfold TalkSpurt.seq
  bv_omega

theorem TalkSpurt.Queued.push (queued : spurt.Queued config taken buffer)
    (fits : spurt.count ≤ maxEntries config) {index : Nat} (inside : index < spurt.count)
    (fresh : index ∉ taken) (room : taken.length < spurt.count)
    (playoutAt : buffer.playoutAt (spurt.seq index) = spurt.first) (arrivalMs : BitVec 64) :
    spurt.Queued config (taken ++ [index])
      (buffer.push (spurt.seq index) (spurt.payload index) arrivalMs) := by
  have entries := maxEntries_lt config
  have inTime : 0 ≤ (spurt.seq index - buffer.playoutAt (spurt.seq index)).toInt := by
    rw [playoutAt]
    exact TalkSpurt.seq_inTime (by omega)
  have absent : buffer.queue[spurt.seq index]? = none := by
    have here := queued.queue index inside
    rw [if_neg fresh, Option.map_eq_none_iff] at here
    exact here
  have missing : spurt.seq index ∉ buffer.queue := by
    rw [Std.ExtTreeMap.mem_iff_isSome_getElem?, absent]
    exact Bool.false_ne_true
  have notFull : ¬ maxEntries buffer.cfg ≤ buffer.queue.size := by
    rw [queued.cfg, queued.size]
    omega
  obtain ⟨_, counts⟩ := queued.stats
  obtain ⟨stored, reordered, counted⟩ :=
    buffer.push_roomy _ (spurt.payload index) arrivalMs inTime missing notFull
  refine
    { cfg := (buffer.push_cfg _ _ _).trans queued.cfg
      queue := fun other within => ?_
      size := ?_
      stats := ⟨reordered, ?_⟩ }
  · rw [stored, Std.ExtTreeMap.getElem?_insertIfNew]
    by_cases same : other = index
    · rw [same, if_pos ⟨Std.ReflCmp.compare_self, missing⟩,
        if_pos (List.mem_append_right _ (List.mem_singleton_self _))]
      rfl
    · have apart : ¬ compare (spurt.seq index) (spurt.seq other) = .eq := by
        intro equal
        have numbers := Std.LawfulEqCmp.eq_of_compare equal
        exact same (TalkSpurt.seq_injective (by omega) (by omega) numbers.symm)
      rw [if_neg fun both => apart both.1, queued.queue other within]
      simp only [List.mem_append, List.mem_singleton, same, or_false]
  · rw [stored, Std.ExtTreeMap.size_insertIfNew, if_neg (by simpa using missing), queued.size,
      List.length_append]
    rfl
  · rw [counted, counts, List.length_append]
    rfl

theorem TalkSpurt.Queued.arrivals {source : PhoneMediaSource Decoder}
    (queued : spurt.Queued config taken source.buffer) (fits : spurt.count ≤ maxEntries config)
    (started : source.buffer.started = true) (nextSeq : source.buffer.nextSeq = spurt.first)
    (times : Nat → BitVec 64) {rest : List Nat}
    (each : ∀ index ∈ rest, index < spurt.count ∧ index ≠ 0)
    (distinct : (taken ++ rest).Nodup) (all : (taken ++ rest).length ≤ spurt.count) :
    spurt.Queued config (taken ++ rest) (Run.final (spurt.arrive times) source rest).buffer ∧
      (Run.final (spurt.arrive times) source rest).buffer.started = true ∧
      (Run.final (spurt.arrive times) source rest).buffer.nextSeq = spurt.first := by
  induction rest generalizing source taken with
  | nil =>
      rw [List.append_nil]
      exact ⟨queued, started, nextSeq⟩
  | cons index rest ih =>
      obtain ⟨⟨inside, other⟩, later⟩ := List.forall_mem_cons.mp each
      have playoutAt : source.buffer.playoutAt (spurt.seq index) = spurt.first := by
        unfold JitterBuffer.playoutAt
        rw [if_pos started, nextSeq]
      have fresh : index ∉ taken := by
        intro member
        exact (List.nodup_append.mp distinct).2.2 index member index (List.mem_cons_self ..) rfl
      have room : taken.length < spurt.count := by
        rw [List.length_append, List.length_cons] at all
        omega
      have stored := queued.push fits inside fresh room playoutAt (times index)
      rw [List.append_cons] at distinct all ⊢
      rw [Run.final_cons, TalkSpurt.arrive_eq, if_neg other]
      refine ih stored ?_ ?_ later distinct all
      · exact source.buffer.push_started _ _ _
      · exact (source.buffer.push_nextSeq _ _ _).trans playoutAt

/-- The marker starts the spurt afresh, whatever the buffer held. -/
theorem TalkSpurt.queued_first (spurt : TalkSpurt) (source : PhoneMediaSource Decoder)
    (times : Nat → BitVec 64) (fits : spurt.count ≤ maxEntries source.buffer.cfg) :
    spurt.Queued source.buffer.cfg [0] (spurt.arrive times source 0).buffer ∧
      (spurt.arrive times source 0).buffer.started = true ∧
      (spurt.arrive times source 0).buffer.nextSeq = spurt.first := by
  have empty : spurt.Queued source.buffer.cfg [] source.buffer.reset :=
    { cfg := rfl
      queue := fun index _inside => by
        change ((∅ : Queue)[_]?).map _ = _
        rw [Std.ExtTreeMap.getElem?_empty, if_neg List.not_mem_nil]
        rfl
      size := Std.ExtTreeMap.size_empty
      stats := ⟨0, rfl⟩ }
  have opens : spurt.seq 0 = spurt.first := by
    unfold TalkSpurt.seq
    exact BitVec.add_zero _
  have playoutAt : source.buffer.reset.playoutAt (spurt.seq 0) = spurt.first := opens
  have stored := empty.push fits spurt.begins List.not_mem_nil spurt.begins playoutAt (times 0)
  rw [TalkSpurt.arrive_eq, if_pos rfl]
  exact ⟨stored, JitterBuffer.push_started _ _ _ _,
    (JitterBuffer.push_nextSeq _ _ _ _).trans playoutAt⟩

end Arrivals

/-! ### All reads -/

section Reads

variable {opus : OpusLibrary Decoder} {spurt : TalkSpurt} {arrived : PhoneMediaSource Decoder}

/-- The source before the read of one packet: it and the later ones are queued. -/
structure TalkSpurt.Upcoming (spurt : TalkSpurt) (index : Nat)
    (source : PhoneMediaSource Decoder) : Prop where
  started : source.started = true
  isOpen : source.decoder.isSome = true
  playing : source.buffer.started = true
  nextSeq : source.buffer.nextSeq = spurt.seq index
  queue : ∀ later < spurt.count, index ≤ later →
    (source.buffer.queue[spurt.seq later]?).map Entry.payload = some (spurt.payload later)

theorem TalkSpurt.Upcoming.plays {source : PhoneMediaSource Decoder} {index : Nat}
    (upcoming : spurt.Upcoming index source) (inside : index < spurt.count)
    (opus : OpusLibrary Decoder) :
    source.buffer.Plays opus source.decoder (spurt.payload index) := by
  have here := upcoming.queue index inside (Nat.le_refl _)
  obtain ⟨entry, queued, same⟩ := Option.map_eq_some_iff.mp here
  rw [← same]
  exact JitterBuffer.plays_of_queued upcoming.playing (by rw [upcoming.nextSeq]; exact queued)
    opus source.decoder

theorem TalkSpurt.Upcoming.read {source : PhoneMediaSource Decoder} {index : Nat}
    (upcoming : spurt.Upcoming index source) (inside : index < spurt.count)
    (small : spurt.count < 2 ^ 29) :
    spurt.Upcoming (index + 1) (readPhoneSource opus source).2 := by
  have plays := upcoming.plays inside opus
  have stillOpen := opus.decode_isSome (spurt.payload index) source.decoder upcoming.isOpen
  have answer : (readPhoneSource opus source).2 =
      { source with
        buffer := source.buffer.serve
        decoder := (opus.decode (spurt.payload index) source.decoder).decoder } := by
    unfold JitterBuffer.Plays at plays
    unfold readPhoneSource
    rw [if_neg (by rw [upcoming.started]; exact Bool.noConfusion), plays]
  rw [answer]
  refine
    { started := upcoming.started
      isOpen := stillOpen
      playing := upcoming.playing
      nextSeq := ?_
      queue := fun later within after => ?_ }
  · change source.buffer.nextSeq + 1#32 = _
    rw [upcoming.nextSeq]
    unfold TalkSpurt.seq
    bv_omega
  · change ((source.buffer.queue.erase source.buffer.nextSeq)[_]?).map _ = _
    have apart : ¬ compare source.buffer.nextSeq (spurt.seq later) = .eq := by
      intro equal
      have numbers := Std.LawfulEqCmp.eq_of_compare equal
      rw [upcoming.nextSeq] at numbers
      have same := TalkSpurt.seq_injective (by omega) (by omega) numbers
      omega
    rw [Std.ExtTreeMap.getElem?_erase, if_neg apart]
    exact upcoming.queue later within (by omega)

theorem TalkSpurt.Upcoming.reads (upcoming : spurt.Upcoming 0 arrived)
    (opus : OpusLibrary Decoder) (small : spurt.count < 2 ^ 29) (index : Nat)
    (inside : index ≤ spurt.count) :
    spurt.Upcoming index (afterReads opus arrived index) := by
  induction index with
  | zero => exact upcoming
  | succ index ih => exact (ih (by omega)).read (by omega) small

end Reads

/-! ### The marker and the order of arrival -/

section Order

variable {opus : OpusLibrary Decoder} {spurt : TalkSpurt} {times : Nat → BitVec 64}

theorem TalkSpurt.arrivals_size_le (source : PhoneMediaSource Decoder) {rest : List Nat}
    (others : ∀ index ∈ rest, index ≠ 0) :
    (Run.final (spurt.arrive times) source rest).buffer.queue.size ≤
      source.buffer.queue.size + rest.length := by
  induction rest generalizing source with
  | nil => exact Nat.le_refl _
  | cons index rest ih =>
      obtain ⟨other, later⟩ := List.forall_mem_cons.mp others
      have onward := ih (spurt.arrive times source index) later
      have grown := push_size_le source.buffer (spurt.seq index) (spurt.payload index)
        (times index)
      rw [TalkSpurt.arrive_eq, if_neg other] at onward
      rw [Run.final_cons, TalkSpurt.arrive_eq, if_neg other, List.length_cons]
      refine onward.trans ?_
      change (source.buffer.push _ _ _).queue.size + _ ≤ _
      omega

theorem TalkSpurt.marker_size_le (spurt : TalkSpurt) (times : Nat → BitVec 64)
    (source : PhoneMediaSource Decoder) :
    (spurt.arrive times source 0).buffer.queue.size ≤ 1 := by
  rw [TalkSpurt.arrive_eq, if_pos rfl]
  exact push_size_le source.buffer.reset _ _ _

theorem TalkSpurt.marker_first_of_size {source : PhoneMediaSource Decoder} {order : List Nat}
    (permutes : order.Perm (List.range spurt.count))
    (size : (Run.final (spurt.arrive times) source order).buffer.queue.size = spurt.count) :
    order.head? = some 0 := by
  have distinct : order.Nodup := permutes.nodup_iff.mpr List.nodup_range
  have length : order.length = spurt.count := permutes.length_eq.trans List.length_range
  obtain ⟨before, rest, whole⟩ := List.append_of_mem
    (permutes.mem_iff.mpr (List.mem_range.mpr spurt.begins))
  have others : ∀ index ∈ rest, index ≠ 0 := by
    intro index member zero
    rw [whole] at distinct
    have tail := (List.nodup_append.mp distinct).2.1
    exact (List.nodup_cons.mp tail).1 (zero ▸ member)
  have bound := @TalkSpurt.arrivals_size_le _ spurt times
    (spurt.arrive times (Run.final (spurt.arrive times) source before) 0) rest others
  have single := spurt.marker_size_le times (Run.final (spurt.arrive times) source before)
  rw [whole, Run.final_append, Run.final_cons] at size
  rw [whole, List.length_append, List.length_cons] at length
  cases before with
  | nil => rw [whole]; rfl
  | cons head tail =>
      rw [List.length_cons] at length
      omega

/-- With the marker first, every packet of the spurt is queued in the end. -/
theorem TalkSpurt.queued_all (source : PhoneMediaSource Decoder)
    (fits : spurt.count ≤ maxEntries source.buffer.cfg) {rest : List Nat}
    (permutes : (0 :: rest).Perm (List.range spurt.count)) :
    let arrived := Run.final (spurt.arrive times) source (0 :: rest)
    spurt.Queued source.buffer.cfg (0 :: rest) arrived.buffer ∧
      arrived.buffer.started = true ∧ arrived.buffer.nextSeq = spurt.first := by
  have distinct : (0 :: rest).Nodup := permutes.nodup_iff.mpr List.nodup_range
  have length := permutes.length_eq.trans List.length_range
  obtain ⟨opened, playing, nextSeq⟩ := spurt.queued_first source times fits
  refine opened.arrivals fits playing nextSeq times (fun index member => ⟨?_, fun zero => ?_⟩)
    distinct (le_of_eq length)
  · exact List.mem_range.mp (permutes.mem_iff.mp (List.mem_cons_of_mem _ member))
  · exact (List.nodup_cons.mp distinct).1 (zero ▸ member)

theorem TalkSpurt.lossless_of_marker_first (source : PhoneMediaSource Decoder)
    (started : source.started = true) (isOpen : source.decoder.isSome = true)
    (fits : spurt.count ≤ maxEntries source.buffer.cfg) {rest : List Nat}
    (permutes : (0 :: rest).Perm (List.range spurt.count)) :
    spurt.Lossless opus (Run.final (spurt.arrive times) source (0 :: rest)) := by
  have entries := maxEntries_lt source.buffer.cfg
  have length := permutes.length_eq.trans List.length_range
  obtain ⟨running, decoder⟩ := spurt.arrivals_frame times source (0 :: rest)
  obtain ⟨queued, playing, at_⟩ := @TalkSpurt.queued_all _ spurt times source fits rest permutes
  obtain ⟨reordered, stats⟩ := queued.stats
  have buffered : ∀ index < spurt.count,
      ((Run.final (spurt.arrive times) source (0 :: rest)).buffer.queue[spurt.seq index]?).map
        Entry.payload = some (spurt.payload index) := by
    intro index within
    have member : index ∈ 0 :: rest := permutes.mem_iff.mpr (List.mem_range.mpr within)
    rw [queued.queue index within, if_pos member]
  have upcoming : spurt.Upcoming 0 (Run.final (spurt.arrive times) source (0 :: rest)) :=
    { started := running.trans started
      isOpen := by rw [decoder]; exact isOpen
      playing := playing
      nextSeq := at_.trans (BitVec.add_zero _).symm
      queue := fun later within _after => buffered later within }
  exact
    { buffered := buffered
      size := queued.size.trans length
      pushed := by rw [stats, ← length]
      tooLate := by rw [stats]
      duplicates := by rw [stats]
      overflow := by rw [stats]
      played := by
        intro index within
        have here := upcoming.reads opus (by omega) index (le_of_lt within)
        exact ⟨here.started, here.isOpen, here.plays within opus⟩ }

/-- Nothing of a spurt is lost exactly when its marker arrives first and the decoder is open. -/
theorem TalkSpurt.lossless_iff (source : PhoneMediaSource Decoder)
    (started : source.started = true) (fits : spurt.count ≤ maxEntries source.buffer.cfg)
    {order : List Nat} (permutes : order.Perm (List.range spurt.count)) :
    spurt.Lossless opus (Run.final (spurt.arrive times) source order) ↔
      order.head? = some 0 ∧ source.decoder.isSome = true := by
  constructor
  · intro lossless
    refine ⟨TalkSpurt.marker_first_of_size permutes lossless.size, ?_⟩
    have opened := (lossless.played 0 spurt.begins).2.1
    change (Run.final (spurt.arrive times) source order).decoder.isSome = true at opened
    rw [← (spurt.arrivals_frame times source order).2]
    exact opened
  · rintro ⟨first, isOpen⟩
    cases order with
    | nil => cases first
    | cons head rest =>
        cases Option.some.inj first
        exact TalkSpurt.lossless_of_marker_first source started isOpen fits permutes

def sampleSpurt : TalkSpurt :=
  { first := 0xffffffff#32
    count := 3
    flags := fun index => if index = 0 then kFlagMarker else kFlagNone
    reserved := fun _ => 0#16
    timestamp := fun index => BitVec.ofNat 32 (index * kFrameSamples)
    payload := fun index => [UInt8.ofNat index]
    begins := by decide
    marked := by
      intro index
      by_cases opens : index = 0
      · rw [if_pos opens, decide_eq_true opens]
        decide
      · rw [if_neg opens, decide_eq_false opens]
        decide
    carried := fun _ => List.cons_ne_nil _ _ }

def startedSource : PhoneMediaSource Unit := (PhoneMediaSource.create {}).start (some ())

theorem lossless_iff_swapped :
    sampleSpurt.Lossless silentOpus
      (Run.final (sampleSpurt.arrive fun _ => 0#64) startedSource [0, 2, 1]) :=
  (TalkSpurt.lossless_iff startedSource rfl (by decide) (by decide)).mpr ⟨rfl, rfl⟩

/-- Packet 1 of the spurt comes before its marker, and is gone when that arrives. -/
theorem late_marker_discards :
    ¬ ∀ (spurt : TalkSpurt) (times : Nat → BitVec 64) (order : List Nat),
      spurt.count ≤ maxEntries startedSource.buffer.cfg → order.Perm (List.range spurt.count) →
        spurt.Lossless silentOpus (Run.final (spurt.arrive times) startedSource order) := by
  intro always
  have lossless := always sampleSpurt (fun _ => 0#64) [1, 0, 2] (by decide) (by decide)
  exact absurd lossless.size (by decide +kernel)

end Order

end SmartMic.Apps
