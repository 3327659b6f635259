import SmartMic.Media.MissingSlot

set_option autoImplicit false

/-! What a full buffer drops, and what it counts as reordered, against the order in which
its packets are to be played. That order starts at the playout point and goes through the
wrap of the 32-bit number; the queue is ordered by the number alone. -/

namespace SmartMic.Media

/-- How far a number lies ahead of the playout point, the wrap included. -/
def ahead (next seq : Seq) : Nat := (seq - next).toNat

def Wrapped (next seq : Seq) : Prop := seq < next

/-- On one side of the wrap the playout order is that of the numbers, and what lies before
the wrap comes first. -/
theorem ahead_lt_iff (next left right : Seq) :
    ahead next left < ahead next right ↔
      ((Wrapped next left ↔ Wrapped next right) ∧ left < right) ∨
        (¬ Wrapped next left ∧ Wrapped next right) := by
  unfold ahead Wrapped
  bv_omega

/-- The packet is neither too late nor queued already. -/
def JitterBuffer.Accepts (buffer : JitterBuffer) (seq : Seq) : Prop :=
  0 ≤ (seq - buffer.playoutAt seq).toInt ∧ seq ∉ buffer.queue

def JitterBuffer.Full (buffer : JitterBuffer) : Prop := maxEntries buffer.cfg ≤ buffer.queue.size

instance (buffer : JitterBuffer) (seq : Seq) : Decidable (buffer.Accepts seq) :=
  inferInstanceAs (Decidable (_ ∧ _))

instance (buffer : JitterBuffer) : Decidable buffer.Full := inferInstanceAs (Decidable (_ ≤ _))

def JitterBuffer.Oldest (buffer : JitterBuffer) (seq : Seq) : Prop :=
  seq ∈ buffer.queue ∧ ∀ other ∈ buffer.queue, ahead buffer.nextSeq seq ≤ ahead buffer.nextSeq other

def JitterBuffer.Newest (buffer : JitterBuffer) (seq : Seq) : Prop :=
  seq ∈ buffer.queue ∧ ∀ other ∈ buffer.queue, ahead buffer.nextSeq other ≤ ahead buffer.nextSeq seq

/-- A push that drops and counts in playout order. A packet that is not taken in changes
neither the queue nor the count. -/
structure JitterBuffer.InPlayoutOrder (buffer : JitterBuffer) (seq : Seq) (payload : Bytes)
    (arrivalMs : BitVec 64) : Prop where
  evicts : buffer.Accepts seq → buffer.Full → ∃ oldest, buffer.Oldest oldest ∧
    ∀ other, other ∈ (buffer.push seq payload arrivalMs).queue ↔
      other = seq ∨ (other ∈ buffer.queue ∧ other ≠ oldest)
  reordered : buffer.Accepts seq →
    ((buffer.push seq payload arrivalMs).stats.reordered = buffer.stats.reordered + 1 ↔
      ∃ newest, buffer.Newest newest ∧ ahead buffer.nextSeq seq < ahead buffer.nextSeq newest)
  refused : ¬ buffer.Accepts seq →
    (buffer.push seq payload arrivalMs).queue = buffer.queue ∧
      (buffer.push seq payload arrivalMs).stats.reordered = buffer.stats.reordered

/-- Everything queued lies on the pushed packet's side of the wrap; or there is room, and on
that side something queued comes after it. -/
def JitterBuffer.OneSided (buffer : JitterBuffer) (seq : Seq) : Prop :=
  (∀ other ∈ buffer.queue, (Wrapped buffer.nextSeq other ↔ Wrapped buffer.nextSeq seq)) ∨
    (¬ buffer.Full ∧ ∃ other ∈ buffer.queue,
      (Wrapped buffer.nextSeq other ↔ Wrapped buffer.nextSeq seq) ∧ seq < other)

/-! ### The first and the last number of the queue -/

theorem seq_le_of_compare {left right : Seq} (before : (compare left right).isLE = true) :
    left ≤ right :=
  (isLE_compareOfLessAndEq BitVec.le_antisymm BitVec.not_le BitVec.le_total).mp before

theorem Queue.minKey?_spec {queue : Queue} {first : Seq} (atStart : queue.minKey? = some first) :
    first ∈ queue ∧ ∀ other ∈ queue, first ≤ other := by
  obtain ⟨member, least⟩ := Std.ExtTreeMap.minKey?_eq_some_iff_mem_and_forall.mp atStart
  exact ⟨member, fun other present => seq_le_of_compare (least other present)⟩

theorem Queue.maxKey?_spec {queue : Queue} {last : Seq} (atEnd : queue.maxKey? = some last) :
    last ∈ queue ∧ ∀ other ∈ queue, other ≤ last := by
  obtain ⟨member, greatest⟩ := Std.ExtTreeMap.maxKey?_eq_some_iff_mem_and_forall.mp atEnd
  exact ⟨member, fun other present => seq_le_of_compare (greatest other present)⟩

section Order

variable {buffer : JitterBuffer} {seq : Seq} {payload : Bytes} {arrivalMs : BitVec 64}

theorem JitterBuffer.Full.first (full : buffer.Full) :
    ∃ first, buffer.queue.minKey? = some first := by
  cases atStart : buffer.queue.minKey? with
  | some first => exact ⟨first, rfl⟩
  | none =>
      unfold JitterBuffer.Full maxEntries at full
      rw [Std.ExtTreeMap.minKey?_eq_none_iff.mp atStart, Std.ExtTreeMap.size_empty] at full
      exact absurd full (Nat.not_succ_le_zero _)

theorem JitterBuffer.exists_newest {other : Seq} (member : other ∈ buffer.queue) :
    ∃ newest, buffer.Newest newest := by
  have occupied : buffer.queue.keys.toFinset.Nonempty :=
    ⟨other, List.mem_toFinset.mpr (Std.ExtTreeMap.mem_keys.mpr member)⟩
  obtain ⟨newest, present, greatest⟩ :=
    Finset.exists_max_image buffer.queue.keys.toFinset (ahead buffer.nextSeq) occupied
  refine ⟨newest, Std.ExtTreeMap.mem_keys.mp (List.mem_toFinset.mp present), fun other queued => ?_⟩
  exact greatest other (List.mem_toFinset.mpr (Std.ExtTreeMap.mem_keys.mpr queued))

/-- The first number is the oldest exactly when no wrap divides the queue. -/
theorem JitterBuffer.oldest_first_iff {first : Seq} (atStart : buffer.queue.minKey? = some first) :
    buffer.Oldest first ↔ ∀ left ∈ buffer.queue, ∀ right ∈ buffer.queue,
      (Wrapped buffer.nextSeq left ↔ Wrapped buffer.nextSeq right) := by
  obtain ⟨member, least⟩ := Queue.minKey?_spec atStart
  constructor
  · intro oldest
    -- what is past the wrap would come first by number and last in playout
    have together : ∀ left ∈ buffer.queue, ∀ right ∈ buffer.queue,
        Wrapped buffer.nextSeq left → Wrapped buffer.nextSeq right := by
      intro left leftIn right rightIn past
      by_contra before
      have firstPast : Wrapped buffer.nextSeq first :=
        Nat.lt_of_le_of_lt (least left leftIn) past
      have earlier := (ahead_lt_iff buffer.nextSeq right first).mpr (Or.inr ⟨before, firstPast⟩)
      exact absurd (oldest.2 right rightIn) (not_le.mpr earlier)
    exact fun left leftIn right rightIn =>
      ⟨together left leftIn right rightIn, together right rightIn left leftIn⟩
  · intro oneSide
    refine ⟨member, fun other present => not_lt.mp fun earlier => ?_⟩
    rcases (ahead_lt_iff _ _ _).mp earlier with ⟨-, less⟩ | ⟨before, past⟩
    · exact BitVec.not_le.mpr less (least other present)
    · exact before ((oneSide first member other present).mp past)

/-- Counting by number agrees with counting in playout order. -/
theorem JitterBuffer.precedes_iff :
    ((∃ other ∈ buffer.queue, seq < other) ↔
        ∃ other ∈ buffer.queue, ahead buffer.nextSeq seq < ahead buffer.nextSeq other) ↔
      (∀ other ∈ buffer.queue, (Wrapped buffer.nextSeq other ↔ Wrapped buffer.nextSeq seq)) ∨
        ∃ other ∈ buffer.queue,
          (Wrapped buffer.nextSeq other ↔ Wrapped buffer.nextSeq seq) ∧ seq < other := by
  constructor
  · intro agree
    by_contra neither
    obtain ⟨divided, unfollowed⟩ := not_or.mp neither
    obtain ⟨other, member, apart⟩ : ∃ other ∈ buffer.queue,
        ¬ (Wrapped buffer.nextSeq other ↔ Wrapped buffer.nextSeq seq) := by
      by_contra none
      exact divided fun other member => not_not.mp fun apart => none ⟨other, member, apart⟩
    by_cases past : Wrapped buffer.nextSeq seq
    · -- the other lies before the wrap, so that its number is the higher one
      have before : ¬ Wrapped buffer.nextSeq other := fun too => apart (iff_of_true too past)
      have higher : seq < other := Nat.lt_of_lt_of_le past (BitVec.not_lt.mp before)
      obtain ⟨later, queued, follows⟩ := agree.mp ⟨other, member, higher⟩
      rcases (ahead_lt_iff _ _ _).mp follows with ⟨side, less⟩ | ⟨unwrapped, -⟩
      · exact unfollowed ⟨later, queued, side.symm, less⟩
      · exact unwrapped past
    · have beyond : Wrapped buffer.nextSeq other :=
        not_not.mp fun too => apart (iff_of_false too past)
      have follows := (ahead_lt_iff buffer.nextSeq seq other).mpr (Or.inr ⟨past, beyond⟩)
      obtain ⟨later, queued, less⟩ := agree.mpr ⟨other, member, follows⟩
      have unwrapped : ¬ Wrapped buffer.nextSeq later := fun too =>
        past (Nat.lt_trans less too)
      exact unfollowed ⟨later, queued, iff_of_false unwrapped past, less⟩
  · rintro (oneSide | ⟨other, member, side, less⟩)
    · refine exists_congr fun other => and_congr_right fun member => ?_
      have side := (oneSide other member).symm
      rw [ahead_lt_iff]
      constructor
      · exact fun less => Or.inl ⟨side, less⟩
      · rintro (⟨-, less⟩ | ⟨before, past⟩)
        · exact less
        · exact absurd (side.mpr past) before
    · exact iff_of_true ⟨other, member, less⟩
        ⟨other, member, (ahead_lt_iff _ _ _).mpr (Or.inl ⟨side.symm, less⟩)⟩

theorem JitterBuffer.precedes_newest_iff :
    (∃ newest, buffer.Newest newest ∧
        ahead buffer.nextSeq seq < ahead buffer.nextSeq newest) ↔
      ∃ other ∈ buffer.queue, ahead buffer.nextSeq seq < ahead buffer.nextSeq other := by
  constructor
  · rintro ⟨newest, newestIs, before⟩
    exact ⟨newest, newestIs.1, before⟩
  · rintro ⟨other, member, before⟩
    obtain ⟨newest, newestIs⟩ := JitterBuffer.exists_newest member
    exact ⟨newest, newestIs, lt_of_lt_of_le before (newestIs.2 other member)⟩

/-! ### What a push does -/

theorem JitterBuffer.push_refused (refused : ¬ buffer.Accepts seq) :
    (buffer.push seq payload arrivalMs).queue = buffer.queue ∧
      (buffer.push seq payload arrivalMs).stats.reordered = buffer.stats.reordered := by
  rcases buffer.push_queue seq payload arrivalMs with
    ⟨late, same⟩ | ⟨inTime, queued, same⟩ | ⟨inTime, fresh, -⟩
  · rw [buffer.push_late_stats _ _ _ late]
    exact ⟨same, rfl⟩
  · rw [buffer.push_queued_stats _ _ _ inTime queued]
    exact ⟨same, rfl⟩
  · exact absurd ⟨inTime, fresh⟩ refused

theorem JitterBuffer.push_reordered (accepts : buffer.Accepts seq) :
    (buffer.push seq payload arrivalMs).stats.reordered = buffer.stats.reordered + 1 ↔
      ∃ other ∈ buffer.queue, seq < other := by
  rw [buffer.push_fresh _ _ _ accepts.1 accepts.2]
  unfold JitterBuffer.store
  rw [JitterBuffer.arrive_stats, JitterBuffer.arrive_queue]
  cases atEnd : buffer.queue.maxKey? with
  | none =>
      rw [Std.ExtTreeMap.maxKey?_eq_none_iff.mp atEnd]
      simp
  | some last =>
      obtain ⟨member, greatest⟩ := Queue.maxKey?_spec atEnd
      have count : buffer.stats.reordered + (if decide (seq < last) = true then 1 else 0) =
          buffer.stats.reordered + 1 ↔ seq < last := by
        by_cases less : seq < last
        · simp [less]
        · simp [less]
      refine count.trans ⟨fun less => ⟨last, member, less⟩, ?_⟩
      rintro ⟨other, queued, less⟩
      exact Nat.lt_of_lt_of_le less (greatest other queued)

theorem JitterBuffer.push_evicts (accepts : buffer.Accepts seq) (full : buffer.Full)
    {first : Seq} (atStart : buffer.queue.minKey? = some first) (other : Seq) :
    other ∈ (buffer.push seq payload arrivalMs).queue ↔
      other = seq ∨ (other ∈ buffer.queue ∧ other ≠ first) := by
  rcases buffer.push_queue seq payload arrivalMs with
    ⟨late, -⟩ | ⟨-, queued, -⟩ | ⟨-, -, stored⟩
  · exact absurd accepts.1 (not_le.mpr late)
  · exact absurd queued accepts.2
  · unfold JitterBuffer.Full at full
    rw [stored, if_pos full, Std.ExtTreeMap.mem_insertIfNew, Queue.mem_eraseFirst_iff, atStart]
    refine or_congr ⟨fun same => (Std.LawfulEqCmp.eq_of_compare same).symm, ?_⟩
      (and_congr_right fun _ => ?_)
    · rintro rfl
      exact Std.ReflCmp.compare_self
    · exact not_congr ⟨fun same => (Option.some.inj same).symm, fun same => congrArg some same.symm⟩

/-- A push drops and counts in playout order exactly when its packet is refused, or no wrap
divides the packet from what is queued as far as it matters. -/
theorem JitterBuffer.inPlayoutOrder_iff (buffer : JitterBuffer) (seq : Seq) (payload : Bytes)
    (arrivalMs : BitVec 64) :
    buffer.InPlayoutOrder seq payload arrivalMs ↔ (buffer.Accepts seq → buffer.OneSided seq) := by
  constructor
  · intro inOrder accepts
    have counted := inOrder.reordered accepts
    rw [JitterBuffer.push_reordered accepts, JitterBuffer.precedes_newest_iff,
      JitterBuffer.precedes_iff] at counted
    by_cases full : buffer.Full
    · refine Or.inl ?_
      obtain ⟨first, atStart⟩ := full.first
      obtain ⟨oldest, isOldest, after⟩ := inOrder.evicts accepts full
      have member := (Queue.minKey?_spec atStart).1
      have gone : first = oldest := by
        by_contra kept
        have still := (after first).mpr (Or.inr ⟨member, kept⟩)
        rw [JitterBuffer.push_evicts accepts full atStart] at still
        rcases still with same | ⟨-, different⟩
        · exact accepts.2 (same ▸ member)
        · exact different rfl
      have together := (JitterBuffer.oldest_first_iff atStart).mp (gone ▸ isOldest)
      rcases counted with oneSide | ⟨other, queued, side, -⟩
      · exact oneSide
      · exact fun one oneIn => (together one oneIn other queued).trans side
    · exact counted.imp_right fun follows => ⟨full, follows⟩
  · intro oneSided
    refine
      { evicts := ?_
        reordered := ?_
        refused := JitterBuffer.push_refused }
    · intro accepts full
      obtain ⟨first, atStart⟩ := full.first
      refine ⟨first, ?_, JitterBuffer.push_evicts accepts full atStart⟩
      rcases oneSided accepts with oneSide | ⟨room, -⟩
      · exact (JitterBuffer.oldest_first_iff atStart).mpr fun left leftIn right rightIn =>
          (oneSide left leftIn).trans (oneSide right rightIn).symm
      · exact absurd full room
    · intro accepts
      rw [JitterBuffer.push_reordered accepts, JitterBuffer.precedes_newest_iff,
        JitterBuffer.precedes_iff]
      exact (oneSided accepts).imp_right And.right

end Order

/-- Fourteen packets from `0xfffffff9` to 6, which fill the default buffer. -/
def wrappingBurst : List PlayoutOp :=
  (List.range 14).map fun index => .push (0xfffffff9#32 + BitVec.ofNat 32 index) [1] 0#64

def wrappingBuffer : JitterBuffer :=
  (Run.final (Playout.step silentOpus) (Playout.initial {} ()) wrappingBurst).buffer

theorem wrappingBuffer_nextSeq : wrappingBuffer.nextSeq = 0xfffffff9#32 := by decide +kernel

theorem wrappingBuffer_forall {property : Seq → Bool}
    (each : [0#32, 1#32, 2#32, 3#32, 4#32, 5#32, 6#32, 0xfffffff9#32, 0xfffffffa#32, 0xfffffffb#32,
      0xfffffffc#32, 0xfffffffd#32, 0xfffffffe#32, 0xffffffff#32].all property = true) :
    ∀ other ∈ wrappingBuffer.queue, property other = true := by
  have keys : wrappingBuffer.queue.keys = [0#32, 1#32, 2#32, 3#32, 4#32, 5#32, 6#32,
      0xfffffff9#32, 0xfffffffa#32, 0xfffffffb#32, 0xfffffffc#32, 0xfffffffd#32, 0xfffffffe#32,
      0xffffffff#32] := by decide +kernel
  intro other member
  rw [← Std.ExtTreeMap.mem_keys, keys] at member
  exact List.all_eq_true.mp each other member

/-- With the playout point at `0xfffffff9`, packet 7 evicts packet 0 and not that one. -/
theorem wrapped_push_evicts_later :
    ¬ ∀ (ops : List PlayoutOp) (seq : Seq) (payload : Bytes) (arrivalMs : BitVec 64),
      let playout := Run.final (Playout.step silentOpus) (Playout.initial {} ()) ops
      (∀ other ∈ playout.buffer.queue, ahead playout.buffer.nextSeq other < 2 ^ 31) →
        playout.buffer.InPlayoutOrder seq payload arrivalMs := by
  intro always
  have near : ∀ other ∈ wrappingBuffer.queue, ahead wrappingBuffer.nextSeq other < 2 ^ 31 := by
    rw [wrappingBuffer_nextSeq]
    exact fun other member => of_decide_eq_true
      (@wrappingBuffer_forall (fun other => decide (ahead 0xfffffff9#32 other < 2 ^ 31))
        (by decide +kernel) other member)
  have inOrder : wrappingBuffer.InPlayoutOrder 7#32 [1] 0#64 :=
    always wrappingBurst 7#32 [1] 0#64 near
  have accepts : wrappingBuffer.Accepts 7#32 := by
    have started : wrappingBuffer.started = true := by decide +kernel
    refine ⟨?_, by decide +kernel⟩
    unfold JitterBuffer.playoutAt
    rw [if_pos started, wrappingBuffer_nextSeq]
    decide
  have full : wrappingBuffer.Full := by
    unfold JitterBuffer.Full
    decide +kernel
  have atStart : wrappingBuffer.queue.minKey? = some 0#32 :=
    Std.ExtTreeMap.minKey?_eq_some_iff_mem_and_forall.mpr
      ⟨by decide +kernel, wrappingBuffer_forall (by decide +kernel)⟩
  obtain ⟨oldest, isOldest, after⟩ := inOrder.evicts accepts full
  have first : 0xfffffff9#32 ∈ wrappingBuffer.queue := by decide +kernel
  have soonest := isOldest.2 _ first
  rw [wrappingBuffer_nextSeq] at soonest
  rcases (after 0xfffffff9#32).mp ((JitterBuffer.push_evicts accepts full atStart _).mpr
    (Or.inr ⟨first, by decide⟩)) with pushed | ⟨-, different⟩
  · exact absurd pushed (by decide)
  · refine different ?_
    unfold ahead at soonest
    bv_omega

end SmartMic.Media
