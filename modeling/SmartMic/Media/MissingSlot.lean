import SmartMic.Media.JitterRecovery

set_option autoImplicit false

/-! The slot of a packet that is not here when its turn comes. The pop conceals it and,
while anything is queued, gives it up; the target depth decides nothing. What arrives
before the next pop is any list of packets, so that an overflow may drop the one that was
waited for. -/

namespace SmartMic.Media

variable {Decoder : Type}

structure Arrival where
  seq : Seq
  payload : Bytes
  arrivalMs : BitVec 64

def JitterBuffer.take (buffer : JitterBuffer) (arrival : Arrival) : JitterBuffer :=
  buffer.push arrival.seq arrival.payload arrival.arrivalMs

/-- The packet is stored in a full buffer whose first number is this one. -/
def JitterBuffer.Evicts (buffer : JitterBuffer) (arrival : Arrival) (slot : Seq) : Prop :=
  0 ≤ (arrival.seq - buffer.playoutAt arrival.seq).toInt ∧ arrival.seq ∉ buffer.queue ∧
    maxEntries buffer.cfg ≤ buffer.queue.size ∧ buffer.queue.minKey? = some slot

/-! ### One packet -/

theorem Queue.mem_eraseFirst_iff (queue : Queue) (slot : Seq) :
    slot ∈ Queue.eraseFirst queue ↔ slot ∈ queue ∧ queue.minKey? ≠ some slot := by
  unfold Queue.eraseFirst
  cases first : queue.minKey? with
  | none =>
      rw [Std.ExtTreeMap.minKey?_eq_none_iff.mp first]
      simp
  | some key =>
      rw [Std.ExtTreeMap.mem_erase]
      constructor
      · rintro ⟨different, member⟩
        refine ⟨member, fun same => different ?_⟩
        cases same
        exact Std.ReflCmp.compare_self
      · rintro ⟨member, different⟩
        exact ⟨fun same => different (congrArg some (Std.LawfulEqCmp.eq_of_compare same)), member⟩

theorem Queue.getElem?_of_eraseFirst {queue : Queue} {full : Prop} [Decidable full] {slot : Seq}
    {entry : Entry}
    (queued : (if full then Queue.eraseFirst queue else queue)[slot]? = some entry) :
    queue[slot]? = some entry := by
  split at queued
  · unfold Queue.eraseFirst at queued
    split at queued
    · rw [Std.ExtTreeMap.getElem?_erase] at queued
      split at queued
      · cases queued
      · exact queued
    · exact queued
  · exact queued

/-- Another packet leaves a queued number where it is, unless it evicts it. -/
theorem JitterBuffer.take_mem_iff (buffer : JitterBuffer) (arrival : Arrival) {slot : Seq}
    (different : arrival.seq ≠ slot) :
    slot ∈ (buffer.take arrival).queue ↔ slot ∈ buffer.queue ∧ ¬ buffer.Evicts arrival slot := by
  unfold JitterBuffer.take JitterBuffer.Evicts
  rcases buffer.push_queue arrival.seq arrival.payload arrival.arrivalMs with
    ⟨late, same⟩ | ⟨-, queued, same⟩ | ⟨ahead, fresh, stored⟩
  · rw [same]
    exact ⟨fun member => ⟨member, fun evicts => absurd late (not_lt.mpr evicts.1)⟩, And.left⟩
  · rw [same]
    exact ⟨fun member => ⟨member, fun evicts => evicts.2.1 queued⟩, And.left⟩
  · have other : ¬ compare arrival.seq slot = .eq := fun same =>
      different (Std.LawfulEqCmp.eq_of_compare same)
    rw [stored, Std.ExtTreeMap.mem_insertIfNew, or_iff_right other]
    by_cases full : maxEntries buffer.cfg ≤ buffer.queue.size
    · rw [if_pos full, Queue.mem_eraseFirst_iff]
      exact and_congr_right fun _ => not_congr
        ⟨fun first => ⟨ahead, fresh, full, first⟩, fun evicts => evicts.2.2.2⟩
    · rw [if_neg full]
      exact ⟨fun member => ⟨member, fun evicts => full evicts.2.2.1⟩, And.left⟩

theorem JitterBuffer.take_slot (buffer : JitterBuffer) (arrival : Arrival)
    (started : buffer.started = true) (slot : arrival.seq = buffer.nextSeq) :
    buffer.nextSeq ∈ (buffer.take arrival).queue ∧
      (buffer.take arrival).stats.tooLate = buffer.stats.tooLate := by
  have ahead : 0 ≤ (arrival.seq - buffer.playoutAt arrival.seq).toInt := by
    unfold JitterBuffer.playoutAt
    rw [if_pos started, slot, BitVec.sub_self]
    decide
  unfold JitterBuffer.take
  by_cases queued : arrival.seq ∈ buffer.queue
  · rw [buffer.push_queued_stats _ _ _ ahead queued]
    rcases buffer.push_queue arrival.seq arrival.payload arrival.arrivalMs with
      ⟨late, -⟩ | ⟨-, -, same⟩ | ⟨-, fresh, -⟩
    · exact absurd ahead (not_le.mpr late)
    · rw [same, ← slot]
      exact ⟨queued, rfl⟩
    · exact absurd queued fresh
  · rw [buffer.push_fresh _ _ _ ahead queued]
    unfold JitterBuffer.store
    rw [JitterBuffer.arrive_stats]
    refine ⟨?_, rfl⟩
    rw [← slot]
    exact Std.ExtTreeMap.mem_insertIfNew_self

theorem JitterBuffer.take_entry {buffer : JitterBuffer} {arrival : Arrival} {slot : Seq}
    {entry : Entry} (queued : (buffer.take arrival).queue[slot]? = some entry) :
    buffer.queue[slot]? = some entry ∨ (arrival.seq = slot ∧ entry.payload = arrival.payload) := by
  unfold JitterBuffer.take at queued
  rcases buffer.push_queue arrival.seq arrival.payload arrival.arrivalMs with
    ⟨-, same⟩ | ⟨-, -, same⟩ | ⟨-, -, stored⟩
  · exact Or.inl (same ▸ queued)
  · exact Or.inl (same ▸ queued)
  · rw [stored, Std.ExtTreeMap.getElem?_insertIfNew] at queued
    obtain ⟨stays, new⟩ := ite_eq_iff'.mp queued
    by_cases same : compare arrival.seq slot = .eq ∧ arrival.seq ∉
        (if maxEntries buffer.cfg ≤ buffer.queue.size then Queue.eraseFirst buffer.queue
          else buffer.queue)
    · have equal := Option.some.inj (stays same)
      exact Or.inr ⟨Std.LawfulEqCmp.eq_of_compare same.1, by rw [← equal]⟩
    · have kept := new same
      exact Or.inl (Queue.getElem?_of_eraseFirst kept)

/-! ### Any number of packets before the next pop -/

section Arrivals

variable {buffer : JitterBuffer} {between : List Arrival}

theorem JitterBuffer.take_started (buffer : JitterBuffer) (arrival : Arrival)
    (started : buffer.started = true) :
    (buffer.take arrival).started = true ∧ (buffer.take arrival).nextSeq = buffer.nextSeq := by
  refine ⟨buffer.push_started _ _ _, ?_⟩
  unfold JitterBuffer.take
  rw [buffer.push_nextSeq]
  exact if_pos started

theorem JitterBuffer.takes_started (started : buffer.started = true) (between : List Arrival) :
    (Run.final JitterBuffer.take buffer between).started = true ∧
      (Run.final JitterBuffer.take buffer between).nextSeq = buffer.nextSeq := by
  induction between generalizing buffer with
  | nil => exact ⟨started, rfl⟩
  | cons arrival rest ih =>
      obtain ⟨still, same⟩ := buffer.take_started arrival started
      obtain ⟨later, next⟩ := ih still
      exact ⟨later, next.trans same⟩

/-- Other packets leave a queued number where it is exactly when none of them evicts it. -/
theorem JitterBuffer.takes_mem_iff {slot : Seq}
    (different : ∀ arrival ∈ between, arrival.seq ≠ slot) :
    slot ∈ (Run.final JitterBuffer.take buffer between).queue ↔
      slot ∈ buffer.queue ∧ Run.Meets JitterBuffer.take
        (fun current arrival => ¬ current.Evicts arrival slot) buffer between := by
  induction between generalizing buffer with
  | nil => exact ⟨fun member => ⟨member, trivial⟩, And.left⟩
  | cons arrival rest ih =>
      obtain ⟨first, later⟩ := List.forall_mem_cons.mp different
      rw [Run.final_cons, ih later, buffer.take_mem_iff arrival first, Run.meets_cons, and_assoc]

theorem JitterBuffer.takes_entry {slot : Seq} {entry : Entry} (missing : slot ∉ buffer.queue)
    (queued : (Run.final JitterBuffer.take buffer between).queue[slot]? = some entry) :
    ∃ arrival ∈ between, arrival.seq = slot ∧ entry.payload = arrival.payload := by
  induction between using List.reverseRecOn with
  | nil =>
      rw [Run.final_nil, Std.ExtTreeMap.getElem?_eq_none missing] at queued
      cases queued
  | append_singleton first arrival ih =>
      rw [Run.final_snoc] at queued
      rcases JitterBuffer.take_entry queued with before | ⟨same, payload⟩
      · obtain ⟨earlier, member, rest⟩ := ih before
        exact ⟨earlier, List.mem_append_left _ member, rest⟩
      · exact ⟨arrival, List.mem_append_right _ (List.mem_singleton_self _), same, payload⟩

theorem exists_last_arrival {slot : Seq} (arrives : ∃ arrival ∈ between, arrival.seq = slot) :
    ∃ first arrival rest, between = first ++ arrival :: rest ∧ arrival.seq = slot ∧
      ∀ later ∈ rest, later.seq ≠ slot := by
  induction between with
  | nil =>
      obtain ⟨arrival, member, -⟩ := arrives
      cases member
  | cons head tail ih =>
      by_cases again : ∃ arrival ∈ tail, arrival.seq = slot
      · obtain ⟨first, arrival, rest, rfl, same, last⟩ := ih again
        exact ⟨head :: first, arrival, rest, rfl, same, last⟩
      · obtain ⟨arrival, member, same⟩ := arrives
        rcases List.mem_cons.mp member with rfl | inTail
        · exact ⟨[], arrival, tail, rfl, same, fun later inTail equal =>
            again ⟨later, inTail, equal⟩⟩
        · exact absurd ⟨arrival, inTail, same⟩ again

end Arrivals

/-! ### The slot and the target depth -/

/-- What is said of a missing slot: the pop conceals it and gives it up exactly when the
queue is deeper than the target. Otherwise it stays open: its packet, if it arrives before
the next pop, is never too late and is what that pop plays. -/
structure JitterBuffer.HoldsSlot (opus : OpusLibrary Decoder) (buffer : JitterBuffer)
    (decoder : Option Decoder) (between : List Arrival) : Prop where
  concealed : buffer.Conceals opus decoder
  givesUp : (buffer.pop opus decoder kFrameSamples).buffer.nextSeq = buffer.nextSeq + 1#32 ↔
    buffer.targetMs < buffer.depthMs
  staysOpen : ¬ buffer.targetMs < buffer.depthMs →
    (buffer.pop opus decoder kFrameSamples).buffer.nextSeq = buffer.nextSeq
  neverLate : ¬ buffer.targetMs < buffer.depthMs →
    Run.Meets JitterBuffer.take
      (fun current arrival => arrival.seq = buffer.nextSeq →
        (current.take arrival).stats.tooLate = current.stats.tooLate)
      (buffer.pop opus decoder kFrameSamples).buffer between
  played : ¬ buffer.targetMs < buffer.depthMs →
    (∃ arrival ∈ between, arrival.seq = buffer.nextSeq) →
    ∃ arrival ∈ between, arrival.seq = buffer.nextSeq ∧
      (Run.final JitterBuffer.take (buffer.pop opus decoder kFrameSamples).buffer between).Plays
        opus (buffer.pop opus decoder kFrameSamples).decoder arrival.payload

/-- No packet after the last arrival of the slot's evicts it. -/
def JitterBuffer.KeepsSlot (buffer : JitterBuffer) (between : List Arrival) : Prop :=
  ∀ first arrival rest, between = first ++ arrival :: rest → arrival.seq = buffer.nextSeq →
    (∀ later ∈ rest, later.seq ≠ buffer.nextSeq) →
    Run.Meets JitterBuffer.take (fun current later => ¬ current.Evicts later buffer.nextSeq)
      (Run.final JitterBuffer.take buffer.skip (first ++ [arrival])) rest

section Slot

variable {opus : OpusLibrary Decoder} {buffer : JitterBuffer} {decoder : Option Decoder}
  {between : List Arrival}

theorem JitterBuffer.Plays.queued {payload : Bytes} (plays : buffer.Plays opus decoder payload)
    (started : buffer.started = true) : buffer.nextSeq ∈ buffer.queue := by
  by_contra missing
  have conceals := JitterBuffer.conceals_of_missing started missing opus decoder
  unfold JitterBuffer.Plays at plays
  unfold JitterBuffer.Conceals at conceals
  rw [conceals] at plays
  have same := congrArg (fun popped => popped.buffer.stats.popped) plays
  exact absurd same (Nat.succ_ne_self _).symm

theorem JitterBuffer.Conceals.started (conceals : buffer.Conceals opus decoder) :
    buffer.started = true := by
  by_contra idle
  unfold JitterBuffer.Conceals JitterBuffer.pop at conceals
  rw [if_pos (Or.inl (Bool.eq_false_iff.mpr idle))] at conceals
  have same := congrArg (fun popped => popped.buffer.stats.concealed) conceals
  exact absurd same (Nat.succ_ne_self _).symm

theorem JitterBuffer.depthMs_of_empty (empty : buffer.queue.isEmpty = true) :
    buffer.depthMs = 0#32 := by
  unfold JitterBuffer.depthMs
  rw [Std.ExtTreeMap.isEmpty_iff.mp empty, Std.ExtTreeMap.size_empty, Nat.zero_mul]

theorem seq_succ_ne (seq : Seq) : seq + 1#32 ≠ seq := by
  bv_omega

/-- A slot that stays open waits for its packet, whatever else arrives, as long as no
overflow drops the packet again. -/
theorem JitterBuffer.plays_after (started : buffer.started = true)
    (empty : buffer.queue.isEmpty = true) (keeps : buffer.KeepsSlot between)
    (arrives : ∃ arrival ∈ between, arrival.seq = buffer.nextSeq) (next : Option Decoder) :
    ∃ arrival ∈ between, arrival.seq = buffer.nextSeq ∧
      (Run.final JitterBuffer.take buffer.skip between).Plays opus next arrival.payload := by
  have open_ : buffer.skip.nextSeq = buffer.nextSeq := by
    rw [buffer.skip_nextSeq, if_pos empty]
  have fresh : buffer.nextSeq ∉ buffer.skip.queue := by
    rw [buffer.skip_queue, Std.ExtTreeMap.isEmpty_iff.mp empty]
    exact Std.ExtTreeMap.not_mem_empty
  obtain ⟨still, stays⟩ := JitterBuffer.takes_started
    (show buffer.skip.started = true from started) between
  rw [open_] at stays
  obtain ⟨first, arrival, rest, split, same, last⟩ := exists_last_arrival arrives
  have member : buffer.nextSeq ∈ (Run.final JitterBuffer.take buffer.skip between).queue := by
    obtain ⟨before, at_⟩ := JitterBuffer.takes_started
      (show buffer.skip.started = true from started) first
    rw [open_] at at_
    have taken := JitterBuffer.take_slot _ arrival before (same.trans at_.symm)
    rw [at_] at taken
    rw [split, List.append_cons, Run.final_append, JitterBuffer.takes_mem_iff last, Run.final_snoc]
    refine ⟨taken.1, ?_⟩
    rw [← Run.final_snoc JitterBuffer.take]
    exact keeps first arrival rest split same last
  obtain ⟨entry, queued⟩ := Option.isSome_iff_exists.mp
    (Std.ExtTreeMap.mem_iff_isSome_getElem?.mp member)
  obtain ⟨source, among, number, payload⟩ := JitterBuffer.takes_entry fresh queued
  refine ⟨source, among, number, ?_⟩
  rw [← payload]
  exact JitterBuffer.plays_of_queued still (by rw [stays]; exact queued) opus next

theorem JitterBuffer.holdsSlot_of_deep (missing : buffer.nextSeq ∉ buffer.queue)
    (started : buffer.started = true) (deep : buffer.targetMs < buffer.depthMs) :
    buffer.HoldsSlot opus decoder between := by
  have answer := JitterBuffer.conceals_of_missing started missing opus decoder
  have occupied : ¬ buffer.queue.isEmpty = true := by
    intro empty
    rw [JitterBuffer.depthMs_of_empty empty] at deep
    exact absurd deep BitVec.not_lt_zero
  refine
    { concealed := answer
      givesUp := iff_of_true ?_ deep
      staysOpen := fun shallow => absurd deep shallow
      neverLate := fun shallow => absurd deep shallow
      played := fun shallow => absurd deep shallow }
  unfold JitterBuffer.Conceals at answer
  rw [answer]
  exact (buffer.skip_nextSeq).trans (if_neg occupied)

theorem JitterBuffer.holdsSlot_of_empty (missing : buffer.nextSeq ∉ buffer.queue)
    (started : buffer.started = true) (empty : buffer.queue.isEmpty = true)
    (keeps : buffer.KeepsSlot between) : buffer.HoldsSlot opus decoder between := by
  have answer := JitterBuffer.conceals_of_missing started missing opus decoder
  have shallow : ¬ buffer.targetMs < buffer.depthMs := by
    rw [JitterBuffer.depthMs_of_empty empty]
    exact BitVec.not_lt_zero
  have shape := answer
  unfold JitterBuffer.Conceals at shape
  have open_ : buffer.skip.nextSeq = buffer.nextSeq := by
    rw [buffer.skip_nextSeq, if_pos empty]
  refine
    { concealed := answer
      givesUp := ?_
      staysOpen := ?_
      neverLate := ?_
      played := ?_ }
  · rw [shape]
    change buffer.skip.nextSeq = _ ↔ _
    rw [open_]
    exact iff_of_false (seq_succ_ne _).symm shallow
  · intro _shallow
    rw [shape]
    exact open_
  · intro _shallow
    rw [shape]
    refine Run.meets_of_splits fun first arrival rest _split same => ?_
    obtain ⟨before, at_⟩ := JitterBuffer.takes_started
      (show buffer.skip.started = true from started) first
    exact (JitterBuffer.take_slot _ arrival before
      (same.trans (at_.trans open_).symm)).2
  · intro _shallow arrives
    rw [shape]
    exact JitterBuffer.plays_after started empty keeps arrives _

/-- Within the target, a slot that stays open has nothing queued behind it, and its packet is
not dropped again. -/
theorem JitterBuffer.HoldsSlot.kept (holds : buffer.HoldsSlot opus decoder between)
    (shallow : ¬ buffer.targetMs < buffer.depthMs) :
    buffer.queue.isEmpty = true ∧ buffer.KeepsSlot between := by
  have started := holds.concealed.started
  have answer := holds.concealed
  unfold JitterBuffer.Conceals at answer
  have stays := holds.staysOpen shallow
  have open_ : buffer.skip.nextSeq = buffer.nextSeq := by
    rw [answer] at stays
    exact stays
  have empty : buffer.queue.isEmpty = true := by
    by_contra occupied
    rw [buffer.skip_nextSeq, if_neg occupied] at open_
    exact seq_succ_ne _ open_
  refine ⟨empty, fun first arrival rest split same last => ?_⟩
  obtain ⟨source, -, -, plays⟩ := holds.played shallow
    ⟨arrival, by rw [split]; exact List.mem_append_right _ (List.mem_cons_self ..), same⟩
  rw [answer] at plays
  obtain ⟨still, next⟩ := JitterBuffer.takes_started
    (show buffer.skip.started = true from started) between
  have member := plays.queued still
  rw [next, open_, split, List.append_cons, Run.final_append,
    JitterBuffer.takes_mem_iff last] at member
  exact member.2

/-- A missing slot is treated as described exactly when a packet has opened the playout and
either the queue is deeper than the target, or it is empty and no overflow drops the packet
that was waited for. -/
theorem JitterBuffer.holdsSlot_iff (missing : buffer.nextSeq ∉ buffer.queue) :
    buffer.HoldsSlot opus decoder between ↔
      buffer.started = true ∧ (buffer.targetMs < buffer.depthMs ∨
        (buffer.queue.isEmpty = true ∧ buffer.KeepsSlot between)) := by
  constructor
  · exact fun holds => ⟨holds.concealed.started, or_iff_not_imp_left.mpr holds.kept⟩
  · rintro ⟨started, deep | ⟨empty, keeps⟩⟩
    · exact JitterBuffer.holdsSlot_of_deep missing started deep
    · exact JitterBuffer.holdsSlot_of_empty missing started empty keeps

end Slot

def drainedBuffer : JitterBuffer :=
  (((JitterBuffer.new {}).push 0#32 [1] 0#64).pop silentOpus (some ()) kFrameSamples).buffer

theorem holdsSlot_iff_drained :
    drainedBuffer.HoldsSlot silentOpus (some ())
      [{ seq := 1#32, payload := [2], arrivalMs := 20#64 }] := by
  refine (JitterBuffer.holdsSlot_iff (by decide +kernel)).mpr
    ⟨by decide +kernel, Or.inr ⟨by decide +kernel, ?_⟩⟩
  intro first arrival rest split _same _last
  cases first with
  | nil =>
      obtain ⟨-, nothing⟩ := List.cons.inj split
      rw [← nothing]
      trivial
  | cons head tail =>
      have nothing := (List.cons.inj split).2
      cases tail <;> cases nothing

/-- Packets 0 and 2 came and packet 0 was played. One packet is queued, half the target, and
still the pop gives slot 1 up, so that packet 1 is too late. -/
theorem missing_slot_given_up :
    ¬ ∀ (ops : List PlayoutOp) (between : List Arrival),
      let playout := Run.final (Playout.step silentOpus) (Playout.initial {} ()) ops
      playout.buffer.nextSeq ∉ playout.buffer.queue →
        playout.buffer.HoldsSlot silentOpus playout.decoder between := by
  intro always
  have holds := always
    [.push 0#32 [1] 0#64, .push 2#32 [3] 40#64, .pop kFrameSamples]
    [{ seq := 1#32, payload := [2], arrivalMs := 60#64 }] (by decide +kernel)
  exact absurd (holds.neverLate (by decide +kernel)) (by decide +kernel)

end SmartMic.Media
