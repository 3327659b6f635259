import Mathlib
import SmartMic.Support.Run
import SmartMic.Format

set_option autoImplicit false

/-! The adaptive jitter buffer: encoded packets keyed by their 32-bit sequence
number, taken out one canonical frame at a time. Sequence numbers wrap; the queue
is ordered by the unsigned number, as `std::map` orders it. -/

namespace SmartMic.Media

/-- A packet's sequence number. -/
abbrev Seq := BitVec 32

structure JitterConfig where
  targetMs : BitVec 32 := 40#32
  minMs : BitVec 32 := 20#32
  maxMs : BitVec 32 := 200#32
  prefillMs : BitVec 32 := 40#32
  stallMs : BitVec 32 := 300#32
  adaptive : Bool := true

def maxEntries (config : JitterConfig) : Nat := config.maxMs.toNat / kFrameMillis + 4

theorem maxEntries_lt (config : JitterConfig) : maxEntries config < 2 ^ 29 := by
  have bound := config.maxMs.isLt
  unfold maxEntries kFrameMillis
  omega

structure JitterStats where
  pushed : Nat := 0
  popped : Nat := 0
  concealed : Nat := 0
  duplicates : Nat := 0
  reordered : Nat := 0
  tooLate : Nat := 0
  overflow : Nat := 0

structure Entry where
  payload : Bytes
  arrivalMs : BitVec 64

/-- Stated once, so that all queues share it. -/
instance : Std.TransOrd Seq := inferInstance

/-- `std::map<uint32_t, Entry>`. -/
abbrev Queue := Std.ExtTreeMap Seq Entry compare

structure JitterBuffer where
  cfg : JitterConfig
  queue : Queue
  started : Bool
  nextSeq : Seq
  lastArrivalMs : BitVec 64
  targetMs : BitVec 32
  jitterEstimate : ℚ
  prevArrivalMs : BitVec 64
  havePrevArrival : Bool
  stats : JitterStats

def JitterBuffer.new (config : JitterConfig) : JitterBuffer :=
  { cfg := config
    queue := ∅
    started := false
    nextSeq := 0#32
    lastArrivalMs := 0#64
    targetMs := config.targetMs
    jitterEstimate := 0
    prevArrivalMs := 0#64
    havePrevArrival := false
    stats := {} }

/-- `reset` keeps the configuration and the time of the previous arrival. -/
def JitterBuffer.reset (buffer : JitterBuffer) : JitterBuffer :=
  { JitterBuffer.new buffer.cfg with prevArrivalMs := buffer.prevArrivalMs }

/-! ### Arrivals -/

def clamp (value low high : BitVec 32) : BitVec 32 :=
  if value < low then low else if high < value then high else value

/-- The smoothed deviation of the inter-arrival time from one frame. The time
difference is taken in 64-bit unsigned arithmetic. -/
def JitterBuffer.estimate (buffer : JitterBuffer) (arrivalMs : BitVec 64) : ℚ :=
  if buffer.havePrevArrival then
    let delta := |((arrivalMs - buffer.prevArrivalMs).toNat : ℚ) - kFrameMillis|
    buffer.jitterEstimate + (delta - buffer.jitterEstimate) / 16
  else buffer.jitterEstimate

def JitterBuffer.adapt (buffer : JitterBuffer) (arrivalMs : BitVec 64) : JitterBuffer :=
  let seen :=
    { buffer with
      jitterEstimate := buffer.estimate arrivalMs
      prevArrivalMs := arrivalMs
      havePrevArrival := true }
  if buffer.cfg.adaptive = false then seen
  else
    let want := BitVec.ofInt 32 ⌈seen.jitterEstimate * 3⌉ + buffer.cfg.minMs
    let clamped := clamp want buffer.cfg.minMs buffer.cfg.maxMs
    if buffer.targetMs < clamped then { seen with targetMs := clamped }
    else if clamped + BitVec.ofNat 32 kFrameMillis < buffer.targetMs then
      { seen with targetMs := buffer.targetMs - BitVec.ofNat 32 kFrameMillis }
    else seen

/-- Full: drop the entry `queue_.begin()` points at. -/
def Queue.eraseFirst (queue : Queue) : Queue :=
  match queue.minKey? with
  | some first => queue.erase first
  | none => queue

def JitterBuffer.startAt (buffer : JitterBuffer) (seq : Seq) : JitterBuffer :=
  if buffer.started then buffer else { buffer with started := true, nextSeq := seq }

/-- The signed distance of a sequence number from the playout point. -/
def JitterBuffer.age (buffer : JitterBuffer) (seq : Seq) : Int := (seq - buffer.nextSeq).toInt

/-- `push` from the insertion on, for a packet that is neither late nor queued. -/
def JitterBuffer.store (buffer : JitterBuffer) (seq : Seq) (entry : Entry) : JitterBuffer :=
  let reordered :=
    match buffer.queue.maxKey? with
    | some newest => decide (seq < newest)
    | none => false
  let full := decide (maxEntries buffer.cfg ≤ buffer.queue.size)
  { buffer with
    queue := (if full then Queue.eraseFirst buffer.queue else buffer.queue).insertIfNew seq entry
    stats :=
      { buffer.stats with
        reordered := buffer.stats.reordered + (if reordered then 1 else 0)
        overflow := buffer.stats.overflow + (if full then 1 else 0) } }

/-- `push` up to the comparison with the playout point. -/
def JitterBuffer.arrive (buffer : JitterBuffer) (seq : Seq) (arrivalMs : BitVec 64) :
    JitterBuffer :=
  let counted :=
    { buffer with
      lastArrivalMs := arrivalMs
      stats := { buffer.stats with pushed := buffer.stats.pushed + 1 } }
  (counted.adapt arrivalMs).startAt seq

def JitterBuffer.push (buffer : JitterBuffer) (seq : Seq) (payload : Bytes)
    (arrivalMs : BitVec 64) : JitterBuffer :=
  let current := buffer.arrive seq arrivalMs
  if current.age seq < 0 then
    -- its slot has already been played out
    { current with stats := { current.stats with tooLate := current.stats.tooLate + 1 } }
  else if seq ∈ current.queue then
    { current with stats := { current.stats with duplicates := current.stats.duplicates + 1 } }
  else current.store seq { payload := payload, arrivalMs := arrivalMs }

/-! ### Playout -/

def JitterBuffer.depthMs (buffer : JitterBuffer) : BitVec 32 :=
  BitVec.ofNat 32 (buffer.queue.size * kFrameMillis)

def JitterBuffer.ready (buffer : JitterBuffer) : Bool :=
  buffer.started && decide (buffer.cfg.prefillMs ≤ buffer.depthMs)

def JitterBuffer.stalled (buffer : JitterBuffer) (nowMs : BitVec 64) : Bool :=
  buffer.started && decide (buffer.lastArrivalMs < nowMs) &&
    decide (buffer.cfg.stallMs.setWidth 64 < nowMs - buffer.lastArrivalMs)

/-- `opus_decode_float` on one packet, or on no packet to conceal a loss: the
decoder's next state with the samples it produced, or none for an error code. -/
structure OpusLibrary (Decoder : Type) where
  decodeFloat : Decoder → Option Bytes → Decoder × Option (List Sample)

/-- What `OpusDecoderWrapper` hands back: the decoder (none when it is closed),
its verdict, and the frame. -/
structure Decoded (Decoder : Type) where
  decoder : Option Decoder
  ok : Bool
  pcm : List Sample

def silentPcm (samples : Nat) : List Sample := List.replicate samples 0

/-- `OpusDecoderWrapper::conceal` for a canonical frame. -/
def OpusLibrary.conceal {Decoder : Type} (opus : OpusLibrary Decoder) :
    Option Decoder → Decoded Decoder
  | none => { decoder := none, ok := false, pcm := [] }
  | some decoder =>
      match opus.decodeFloat decoder none with
      | (next, none) => { decoder := some next, ok := false, pcm := silentPcm kFrameSamples }
      | (next, some pcm) => { decoder := some next, ok := true, pcm := pcm }

/-- `OpusDecoderWrapper::decode` for a canonical frame: a corrupt packet is
concealed, a short one padded with zeros. -/
def OpusLibrary.decode {Decoder : Type} (opus : OpusLibrary Decoder) (payload : Bytes) :
    Option Decoder → Decoded Decoder
  | none => { decoder := none, ok := false, pcm := [] }
  | some decoder =>
      match opus.decodeFloat decoder (some payload) with
      | (next, none) => opus.conceal (some next)
      | (next, some pcm) =>
          { decoder := some next
            ok := true
            pcm := pcm ++ silentPcm (kFrameSamples - pcm.length) }

structure Popped (Decoder : Type) where
  buffer : JitterBuffer
  decoder : Option Decoder
  out : List Sample
  real : Bool

/-- The slot of a missing packet: concealed, and given up when packets wait. -/
def JitterBuffer.skip (buffer : JitterBuffer) : JitterBuffer :=
  let overdue := !buffer.queue.isEmpty && decide (buffer.targetMs < buffer.depthMs)
  { buffer with
    nextSeq :=
      if overdue || !buffer.queue.isEmpty then buffer.nextSeq + 1#32 else buffer.nextSeq
    stats := { buffer.stats with concealed := buffer.stats.concealed + 1 } }

/-- The slot of a packet that is here: taken out of the queue and served. -/
def JitterBuffer.serve (buffer : JitterBuffer) : JitterBuffer :=
  { buffer with
    queue := buffer.queue.erase buffer.nextSeq
    nextSeq := buffer.nextSeq + 1#32
    stats := { buffer.stats with popped := buffer.stats.popped + 1 } }

def JitterBuffer.pop {Decoder : Type} (buffer : JitterBuffer) (opus : OpusLibrary Decoder)
    (decoder : Option Decoder) (samples : Nat) : Popped Decoder :=
  if buffer.started = false ∨ samples ≠ kFrameSamples then
    { buffer := buffer, decoder := decoder, out := silentPcm samples, real := false }
  else
    match buffer.queue[buffer.nextSeq]? with
    | none =>
        let concealed := opus.conceal decoder
        { buffer := buffer.skip
          decoder := concealed.decoder
          out := concealed.pcm
          real := false }
    | some entry =>
        let decoded := opus.decode entry.payload decoder
        { buffer := buffer.serve
          decoder := decoded.decoder
          out := decoded.pcm
          real := decoded.ok }

/-! ### What each operation does to the queue and the playout point -/

@[simp]
theorem JitterBuffer.adapt_queue (buffer : JitterBuffer) (arrivalMs : BitVec 64) :
    (buffer.adapt arrivalMs).queue = buffer.queue := by
  simp only [JitterBuffer.adapt]
  split_ifs <;> rfl

@[simp]
theorem JitterBuffer.adapt_nextSeq (buffer : JitterBuffer) (arrivalMs : BitVec 64) :
    (buffer.adapt arrivalMs).nextSeq = buffer.nextSeq := by
  simp only [JitterBuffer.adapt]
  split_ifs <;> rfl

@[simp]
theorem JitterBuffer.adapt_started (buffer : JitterBuffer) (arrivalMs : BitVec 64) :
    (buffer.adapt arrivalMs).started = buffer.started := by
  simp only [JitterBuffer.adapt]
  split_ifs <;> rfl

@[simp]
theorem JitterBuffer.adapt_cfg (buffer : JitterBuffer) (arrivalMs : BitVec 64) :
    (buffer.adapt arrivalMs).cfg = buffer.cfg := by
  simp only [JitterBuffer.adapt]
  split_ifs <;> rfl

@[simp]
theorem JitterBuffer.adapt_stats (buffer : JitterBuffer) (arrivalMs : BitVec 64) :
    (buffer.adapt arrivalMs).stats = buffer.stats := by
  simp only [JitterBuffer.adapt]
  split_ifs <;> rfl

/-- The playout point a packet finds: its own number when it is the first. -/
def JitterBuffer.playoutAt (buffer : JitterBuffer) (seq : Seq) : Seq :=
  if buffer.started then buffer.nextSeq else seq

@[simp]
theorem JitterBuffer.arrive_queue (buffer : JitterBuffer) (seq : Seq) (arrivalMs : BitVec 64) :
    (buffer.arrive seq arrivalMs).queue = buffer.queue := by
  simp only [JitterBuffer.arrive, JitterBuffer.startAt]
  split <;> simp

@[simp]
theorem JitterBuffer.arrive_cfg (buffer : JitterBuffer) (seq : Seq) (arrivalMs : BitVec 64) :
    (buffer.arrive seq arrivalMs).cfg = buffer.cfg := by
  simp only [JitterBuffer.arrive, JitterBuffer.startAt]
  split <;> simp

@[simp]
theorem JitterBuffer.arrive_nextSeq (buffer : JitterBuffer) (seq : Seq) (arrivalMs : BitVec 64) :
    (buffer.arrive seq arrivalMs).nextSeq = buffer.playoutAt seq := by
  simp only [JitterBuffer.arrive, JitterBuffer.startAt, JitterBuffer.playoutAt,
    JitterBuffer.adapt_started]
  split <;> simp

@[simp]
theorem JitterBuffer.arrive_started (buffer : JitterBuffer) (seq : Seq)
    (arrivalMs : BitVec 64) : (buffer.arrive seq arrivalMs).started = true := by
  simp only [JitterBuffer.arrive, JitterBuffer.startAt, JitterBuffer.adapt_started]
  split
  · simpa using ‹buffer.started = true›
  · rfl

@[simp]
theorem JitterBuffer.arrive_stats (buffer : JitterBuffer) (seq : Seq) (arrivalMs : BitVec 64) :
    (buffer.arrive seq arrivalMs).stats =
      { buffer.stats with pushed := buffer.stats.pushed + 1 } := by
  simp only [JitterBuffer.arrive, JitterBuffer.startAt]
  split <;> simp

section Push

variable (buffer : JitterBuffer) (seq : Seq) (payload : Bytes) (arrivalMs : BitVec 64)

theorem JitterBuffer.push_late_stats (late : (seq - buffer.playoutAt seq).toInt < 0) :
    (buffer.push seq payload arrivalMs).stats =
      { buffer.stats with
        pushed := buffer.stats.pushed + 1
        tooLate := buffer.stats.tooLate + 1 } := by
  simp only [JitterBuffer.push, JitterBuffer.age, JitterBuffer.arrive_nextSeq,
    JitterBuffer.arrive_stats]
  rw [if_pos late]

theorem JitterBuffer.push_queued_stats (ahead : 0 ≤ (seq - buffer.playoutAt seq).toInt)
    (queued : seq ∈ buffer.queue) :
    (buffer.push seq payload arrivalMs).stats =
      { buffer.stats with
        pushed := buffer.stats.pushed + 1
        duplicates := buffer.stats.duplicates + 1 } := by
  simp only [JitterBuffer.push, JitterBuffer.age, JitterBuffer.arrive_nextSeq,
    JitterBuffer.arrive_queue, JitterBuffer.arrive_stats]
  rw [if_neg (not_lt.mpr ahead), if_pos queued]

theorem JitterBuffer.push_fresh (ahead : 0 ≤ (seq - buffer.playoutAt seq).toInt)
    (fresh : seq ∉ buffer.queue) :
    buffer.push seq payload arrivalMs =
      (buffer.arrive seq arrivalMs).store seq { payload := payload, arrivalMs := arrivalMs } := by
  simp only [JitterBuffer.push, JitterBuffer.age, JitterBuffer.arrive_nextSeq,
    JitterBuffer.arrive_queue]
  rw [if_neg (not_lt.mpr ahead), if_neg fresh]

theorem JitterBuffer.push_roomy (ahead : 0 ≤ (seq - buffer.playoutAt seq).toInt)
    (fresh : seq ∉ buffer.queue) (room : ¬ maxEntries buffer.cfg ≤ buffer.queue.size) :
    (buffer.push seq payload arrivalMs).queue =
        buffer.queue.insertIfNew seq { payload := payload, arrivalMs := arrivalMs } ∧
      ∃ reordered, (buffer.push seq payload arrivalMs).stats =
        { buffer.stats with pushed := buffer.stats.pushed + 1, reordered := reordered } := by
  rw [buffer.push_fresh seq payload arrivalMs ahead fresh]
  unfold JitterBuffer.store
  rw [JitterBuffer.arrive_queue, JitterBuffer.arrive_cfg, JitterBuffer.arrive_stats,
    decide_eq_false room]
  exact ⟨rfl, _, rfl⟩

end Push

/-- Everything `push` can do to the queue: nothing for a late packet or a
duplicate, otherwise one insertion, after an eviction when the queue is full. -/
theorem JitterBuffer.push_queue (buffer : JitterBuffer) (seq : Seq) (payload : Bytes)
    (arrivalMs : BitVec 64) :
    let distance := (seq - buffer.playoutAt seq).toInt
    (distance < 0 ∧ (buffer.push seq payload arrivalMs).queue = buffer.queue) ∨
    (0 ≤ distance ∧ seq ∈ buffer.queue ∧
      (buffer.push seq payload arrivalMs).queue = buffer.queue) ∨
    (0 ≤ distance ∧ seq ∉ buffer.queue ∧
      (buffer.push seq payload arrivalMs).queue =
        (if maxEntries buffer.cfg ≤ buffer.queue.size then Queue.eraseFirst buffer.queue
          else buffer.queue).insertIfNew seq { payload := payload, arrivalMs := arrivalMs }) := by
  intro distance
  simp only [JitterBuffer.push, JitterBuffer.age, JitterBuffer.arrive_nextSeq,
    JitterBuffer.arrive_queue]
  by_cases late : distance < 0
  · rw [if_pos late]
    exact Or.inl ⟨late, by simp⟩
  · rw [if_neg late]
    by_cases queued : seq ∈ buffer.queue
    · rw [if_pos queued]
      exact Or.inr (Or.inl ⟨Int.not_lt.mp late, queued, by simp⟩)
    · rw [if_neg queued]
      exact Or.inr (Or.inr ⟨Int.not_lt.mp late, queued, by simp [JitterBuffer.store]⟩)

@[simp]
theorem JitterBuffer.push_nextSeq (buffer : JitterBuffer) (seq : Seq) (payload : Bytes)
    (arrivalMs : BitVec 64) :
    (buffer.push seq payload arrivalMs).nextSeq = buffer.playoutAt seq := by
  simp only [JitterBuffer.push, JitterBuffer.store]
  split_ifs <;> simp only [JitterBuffer.arrive_nextSeq]

@[simp]
theorem JitterBuffer.push_started (buffer : JitterBuffer) (seq : Seq) (payload : Bytes)
    (arrivalMs : BitVec 64) : (buffer.push seq payload arrivalMs).started = true := by
  simp only [JitterBuffer.push, JitterBuffer.store]
  split_ifs <;> simp only [JitterBuffer.arrive_started]

@[simp]
theorem JitterBuffer.push_cfg (buffer : JitterBuffer) (seq : Seq) (payload : Bytes)
    (arrivalMs : BitVec 64) : (buffer.push seq payload arrivalMs).cfg = buffer.cfg := by
  simp only [JitterBuffer.push, JitterBuffer.store]
  split_ifs <;> simp only [JitterBuffer.arrive_cfg]

@[simp]
theorem JitterBuffer.skip_queue (buffer : JitterBuffer) : buffer.skip.queue = buffer.queue := rfl

theorem JitterBuffer.skip_nextSeq (buffer : JitterBuffer) :
    buffer.skip.nextSeq =
      if buffer.queue.isEmpty then buffer.nextSeq else buffer.nextSeq + 1#32 := by
  unfold JitterBuffer.skip
  cases buffer.queue.isEmpty <;> simp

variable {Decoder : Type}

/-- Everything `pop` can do to the buffer: nothing before the first packet or for
another frame size, otherwise one skipped or one served slot. -/
theorem JitterBuffer.pop_cases (buffer : JitterBuffer) (opus : OpusLibrary Decoder)
    (decoder : Option Decoder) (samples : Nat) :
    ((buffer.started = false ∨ samples ≠ kFrameSamples) ∧
      (buffer.pop opus decoder samples).buffer = buffer ∧
      (buffer.pop opus decoder samples).real = false) ∨
    (buffer.started = true ∧ samples = kFrameSamples ∧ buffer.nextSeq ∉ buffer.queue ∧
      (buffer.pop opus decoder samples).buffer = buffer.skip ∧
      (buffer.pop opus decoder samples).real = false) ∨
    (buffer.started = true ∧ samples = kFrameSamples ∧
      ∃ entry, buffer.queue[buffer.nextSeq]? = some entry ∧
        (buffer.pop opus decoder samples).buffer = buffer.serve ∧
        (buffer.pop opus decoder samples).real = (opus.decode entry.payload decoder).ok) := by
  by_cases idle : buffer.started = false ∨ samples ≠ kFrameSamples
  · exact Or.inl ⟨idle, by simp [JitterBuffer.pop, idle], by simp [JitterBuffer.pop, idle]⟩
  · have running : buffer.started = true ∧ samples = kFrameSamples := by
      simpa using idle
    right
    cases slot : buffer.queue[buffer.nextSeq]? with
    | none =>
        refine Or.inl ⟨running.1, running.2, ?_, ?_, ?_⟩
        · intro member
          rw [Std.ExtTreeMap.mem_iff_isSome_getElem?, slot] at member
          cases member
        · simp [JitterBuffer.pop, idle, slot]
        · simp [JitterBuffer.pop, idle, slot]
    | some entry =>
        refine Or.inr ⟨running.1, running.2, entry, rfl, ?_, ?_⟩
        · simp [JitterBuffer.pop, idle, slot]
        · simp [JitterBuffer.pop, idle, slot]

/-- The pop serves its slot with this payload. -/
def JitterBuffer.Plays (opus : OpusLibrary Decoder) (buffer : JitterBuffer)
    (decoder : Option Decoder) (payload : Bytes) : Prop :=
  buffer.pop opus decoder kFrameSamples =
    { buffer := buffer.serve
      decoder := (opus.decode payload decoder).decoder
      out := (opus.decode payload decoder).pcm
      real := (opus.decode payload decoder).ok }

/-- The pop serves its slot with a concealed frame. -/
def JitterBuffer.Conceals (opus : OpusLibrary Decoder) (buffer : JitterBuffer)
    (decoder : Option Decoder) : Prop :=
  buffer.pop opus decoder kFrameSamples =
    { buffer := buffer.skip
      decoder := (opus.conceal decoder).decoder
      out := (opus.conceal decoder).pcm
      real := false }

theorem JitterBuffer.plays_of_queued {buffer : JitterBuffer} (started : buffer.started = true)
    {entry : Entry} (queued : buffer.queue[buffer.nextSeq]? = some entry)
    (opus : OpusLibrary Decoder) (decoder : Option Decoder) :
    buffer.Plays opus decoder entry.payload := by
  have running : ¬ (buffer.started = false ∨ kFrameSamples ≠ kFrameSamples) := by
    rw [started]
    simp
  unfold JitterBuffer.Plays JitterBuffer.pop
  rw [if_neg running, queued]

theorem JitterBuffer.conceals_of_missing {buffer : JitterBuffer} (started : buffer.started = true)
    (missing : buffer.nextSeq ∉ buffer.queue) (opus : OpusLibrary Decoder)
    (decoder : Option Decoder) : buffer.Conceals opus decoder := by
  have running : ¬ (buffer.started = false ∨ kFrameSamples ≠ kFrameSamples) := by
    rw [started]
    simp
  unfold JitterBuffer.Conceals JitterBuffer.pop
  rw [if_neg running, Std.ExtTreeMap.getElem?_eq_none missing]

end SmartMic.Media
