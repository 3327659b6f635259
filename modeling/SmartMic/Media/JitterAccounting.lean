import SmartMic.Media.JitterHistory

set_option autoImplicit false

/-! Where the packets of a jitter buffer went. Each one that was pushed was played, is still
queued, or is in exactly one of the counts of those that were not taken in or were dropped.
The counters are natural numbers here; they do not wrap. -/

namespace SmartMic.Media

variable {Decoder : Type}

/-- A packet that is taken in: when the queue is full the first entry makes room. -/
theorem JitterBuffer.push_fresh_stats (buffer : JitterBuffer) (seq : Seq) (payload : Bytes)
    (arrivalMs : BitVec 64) (ahead : 0 ≤ (seq - buffer.playoutAt seq).toInt)
    (fresh : seq ∉ buffer.queue) :
    ∃ reordered, (buffer.push seq payload arrivalMs).stats =
      { buffer.stats with
        pushed := buffer.stats.pushed + 1
        reordered := reordered
        overflow := buffer.stats.overflow +
          if maxEntries buffer.cfg ≤ buffer.queue.size then 1 else 0 } := by
  rw [buffer.push_fresh seq payload arrivalMs ahead fresh]
  unfold JitterBuffer.store
  rw [JitterBuffer.arrive_queue, JitterBuffer.arrive_cfg, JitterBuffer.arrive_stats]
  simp only [decide_eq_true_eq]
  exact ⟨_, rfl⟩

theorem Queue.size_store_fresh {queue : Queue} {seq : Seq} (fresh : seq ∉ queue) (entry : Entry) :
    Std.ExtTreeMap.size (queue.insertIfNew seq entry) = queue.size + 1 := by
  rw [Std.ExtTreeMap.size_insertIfNew, if_neg fresh]

theorem Queue.size_pos {queue : Queue} {seq : Seq} (queued : seq ∈ queue) : 0 < queue.size := by
  rw [Nat.pos_iff_ne_zero]
  intro empty
  rw [Std.ExtTreeMap.eq_empty_iff_size_eq_zero.mpr empty] at queued
  exact Std.ExtTreeMap.not_mem_empty queued

theorem JitterBuffer.push_fresh_size (buffer : JitterBuffer) (seq : Seq) (payload : Bytes)
    (arrivalMs : BitVec 64) (ahead : 0 ≤ (seq - buffer.playoutAt seq).toInt)
    (fresh : seq ∉ buffer.queue) :
    (buffer.push seq payload arrivalMs).queue.size +
        (if maxEntries buffer.cfg ≤ buffer.queue.size then 1 else 0) = buffer.queue.size + 1 := by
  rcases buffer.push_queue seq payload arrivalMs with
    ⟨late, -⟩ | ⟨-, queued, -⟩ | ⟨-, -, stored⟩
  · exact absurd ahead (not_le.mpr late)
  · exact absurd queued fresh
  · rw [stored]
    by_cases full : maxEntries buffer.cfg ≤ buffer.queue.size
    · rw [if_pos full, if_pos full]
      have positive : 0 < maxEntries buffer.cfg := Nat.succ_pos _
      have evicted := Queue.size_eraseFirst buffer.queue (by omega)
      rw [Queue.size_store_fresh (fun member => fresh (Queue.mem_eraseFirst member))]
      omega
    · rw [if_neg full, if_neg full, Queue.size_store_fresh fresh]

theorem JitterBuffer.pop_cfg (buffer : JitterBuffer) (opus : OpusLibrary Decoder)
    (decoder : Option Decoder) (samples : Nat) :
    (buffer.pop opus decoder samples).buffer.cfg = buffer.cfg := by
  rcases buffer.pop_cases opus decoder samples with
    ⟨-, same, -⟩ | ⟨-, -, -, same, -⟩ | ⟨-, -, entry, -, same, -⟩
  · rw [same]
  · rw [same]
    rfl
  · rw [same]
    rfl

/-! ### The account -/

structure JitterBuffer.Accounted (buffer : JitterBuffer) : Prop where
  balance : buffer.stats.pushed =
    buffer.stats.popped + buffer.queue.size + buffer.stats.duplicates + buffer.stats.tooLate +
      buffer.stats.overflow
  bounded : buffer.queue.size ≤ maxEntries buffer.cfg
  near : ∀ seq ∈ buffer.queue, 0 ≤ buffer.age seq ∧ buffer.age seq < 2 ^ 31

/-- Before the first packet nothing is queued. -/
structure JitterBuffer.Kept (buffer : JitterBuffer) : Prop extends buffer.Accounted where
  idle : buffer.started = false → buffer.queue = ∅

theorem JitterBuffer.near_iff (buffer : JitterBuffer) (seq : Seq) :
    0 ≤ buffer.age seq ∧ buffer.age seq < 2 ^ 31 ↔ (seq - buffer.nextSeq).toNat < 2 ^ 31 := by
  have behind := toInt_neg_iff (seq - buffer.nextSeq)
  have high := @BitVec.two_mul_toInt_lt 32 (seq - buffer.nextSeq)
  unfold JitterBuffer.age
  omega

theorem JitterBuffer.kept_new (config : JitterConfig) : (JitterBuffer.new config).Kept :=
  { balance := rfl
    bounded := Nat.zero_le _
    near := fun _seq member => absurd member Std.ExtTreeMap.not_mem_empty
    idle := fun _ => rfl }

theorem JitterBuffer.kept_reset (buffer : JitterBuffer) : buffer.reset.Kept :=
  { balance := rfl
    bounded := Nat.zero_le _
    near := fun _seq member => absurd member Std.ExtTreeMap.not_mem_empty
    idle := fun _ => rfl }

section

variable {buffer : JitterBuffer}

theorem JitterBuffer.Kept.playoutAt (kept : buffer.Kept) {seq other : Seq}
    (queued : other ∈ buffer.queue) : buffer.playoutAt seq = buffer.nextSeq := by
  unfold JitterBuffer.playoutAt
  cases running : buffer.started with
  | true => rfl
  | false =>
      rw [kept.idle running] at queued
      exact absurd queued Std.ExtTreeMap.not_mem_empty

theorem JitterBuffer.Kept.push_near (kept : buffer.Kept) (seq : Seq) (payload : Bytes)
    (arrivalMs : BitVec 64) :
    ∀ other ∈ (buffer.push seq payload arrivalMs).queue,
      0 ≤ (buffer.push seq payload arrivalMs).age other ∧
        (buffer.push seq payload arrivalMs).age other < 2 ^ 31 := by
  intro other member
  rw [JitterBuffer.near_iff, JitterBuffer.push_nextSeq]
  rcases buffer.push_mem seq other payload arrivalMs member with queued | ⟨rfl, inTime⟩
  · rw [kept.playoutAt queued]
    exact (buffer.near_iff other).mp (kept.near other queued)
  · exact inTime

theorem JitterBuffer.Kept.push_balance (kept : buffer.Kept) (seq : Seq) (payload : Bytes)
    (arrivalMs : BitVec 64) :
    let pushed := buffer.push seq payload arrivalMs
    pushed.stats.pushed =
      pushed.stats.popped + pushed.queue.size + pushed.stats.duplicates + pushed.stats.tooLate +
        pushed.stats.overflow := by
  intro pushed
  have balance := kept.balance
  rcases buffer.push_queue seq payload arrivalMs with
    ⟨late, same⟩ | ⟨ahead, queued, same⟩ | ⟨ahead, fresh, -⟩
  · have size : pushed.queue.size = buffer.queue.size := congrArg Std.ExtTreeMap.size same
    rw [size, buffer.push_late_stats seq payload arrivalMs late]
    dsimp only
    omega
  · have size : pushed.queue.size = buffer.queue.size := congrArg Std.ExtTreeMap.size same
    rw [size, buffer.push_queued_stats seq payload arrivalMs ahead queued]
    dsimp only
    omega
  · have size : pushed.queue.size + _ = _ :=
      buffer.push_fresh_size seq payload arrivalMs ahead fresh
    obtain ⟨reordered, stats⟩ := buffer.push_fresh_stats seq payload arrivalMs ahead fresh
    rw [stats]
    dsimp only
    omega

theorem JitterBuffer.Kept.push (kept : buffer.Kept) (seq : Seq) (payload : Bytes)
    (arrivalMs : BitVec 64) : (buffer.push seq payload arrivalMs).Kept where
  balance := kept.push_balance seq payload arrivalMs
  bounded := by
    rw [JitterBuffer.push_cfg]
    exact buffer.push_size seq payload arrivalMs kept.bounded
  near := kept.push_near seq payload arrivalMs
  idle := fun impossible => by
    rw [JitterBuffer.push_started] at impossible
    cases impossible

theorem JitterBuffer.Kept.skip (kept : buffer.Kept) (missing : buffer.nextSeq ∉ buffer.queue) :
    buffer.skip.Kept where
  balance := kept.balance
  bounded := kept.bounded
  near := by
    intro seq queued
    have near := (buffer.near_iff seq).mp (kept.near seq queued)
    rw [JitterBuffer.near_iff, JitterBuffer.skip_nextSeq]
    split
    · exact near
    · have closer := offset_succ (fun same => missing (same ▸ queued) : seq ≠ buffer.nextSeq)
      omega
  idle := kept.idle

theorem JitterBuffer.Kept.serve (kept : buffer.Kept) (queued : buffer.nextSeq ∈ buffer.queue) :
    buffer.serve.Kept := by
  have balance := kept.balance
  have bounded := kept.bounded
  have size : buffer.serve.queue.size + 1 = buffer.queue.size := by
    have occupied := Queue.size_pos queued
    unfold JitterBuffer.serve
    rw [Std.ExtTreeMap.size_erase, if_pos (Std.ExtTreeMap.contains_iff_mem.mpr queued)]
    omega
  exact
    { balance := by
        change buffer.stats.pushed = buffer.stats.popped + 1 + buffer.serve.queue.size +
          buffer.stats.duplicates + buffer.stats.tooLate + buffer.stats.overflow
        omega
      bounded := by
        change buffer.serve.queue.size ≤ maxEntries buffer.cfg
        omega
      near := by
        intro seq member
        obtain ⟨different, kept_⟩ := Std.ExtTreeMap.mem_erase.mp member
        have near := (buffer.near_iff seq).mp (kept.near seq kept_)
        have apart : seq ≠ buffer.nextSeq := by
          rintro rfl
          exact different Std.ReflCmp.compare_self
        have closer := offset_succ apart
        rw [JitterBuffer.near_iff]
        change (seq - (buffer.nextSeq + 1#32)).toNat < 2 ^ 31
        omega
      idle := fun stopped => by
        rw [kept.idle stopped] at queued
        exact absurd queued Std.ExtTreeMap.not_mem_empty }

theorem JitterBuffer.Kept.pop (kept : buffer.Kept) (opus : OpusLibrary Decoder)
    (decoder : Option Decoder) (samples : Nat) :
    (buffer.pop opus decoder samples).buffer.Kept := by
  rcases buffer.pop_cases opus decoder samples with
    ⟨-, same, -⟩ | ⟨-, -, missing, same, -⟩ | ⟨-, -, entry, queued, same, -⟩
  · rw [same]
    exact kept
  · rw [same]
    exact kept.skip missing
  · rw [same]
    refine kept.serve ?_
    rw [Std.ExtTreeMap.mem_iff_isSome_getElem?, queued]
    rfl

end

/-- Over every history of pushes, pops and resets the account of the packets balances, the
queue keeps its bound, and what is queued lies ahead of the playout point. -/
theorem jitterBuffer_accounted (opus : OpusLibrary Decoder) (config : JitterConfig)
    (decoder : Option Decoder) (ops : List PlayoutOp) :
    let playout := Run.final (Playout.step opus)
      { buffer := JitterBuffer.new config, decoder := decoder, highest := none } ops
    playout.buffer.cfg = config ∧ playout.buffer.Accounted := by
  intro playout
  have kept := @Run.invariant_always _ _ (Playout.step opus)
    (fun playout : Playout Decoder => playout.buffer.cfg = config ∧ playout.buffer.Kept)
    (fun playout op holds => by
      cases op with
      | push seq payload arrivalMs =>
          exact ⟨(playout.buffer.push_cfg seq payload arrivalMs).trans holds.1,
            holds.2.push seq payload arrivalMs⟩
      | pop samples =>
          exact ⟨(playout.buffer.pop_cfg opus playout.decoder samples).trans holds.1,
            holds.2.pop opus playout.decoder samples⟩
      | reset => exact ⟨holds.1, playout.buffer.kept_reset⟩)
    { buffer := JitterBuffer.new config, decoder := decoder, highest := none } ops
    ⟨rfl, JitterBuffer.kept_new config⟩
  exact ⟨kept.1, kept.2.toAccounted⟩

end SmartMic.Media
