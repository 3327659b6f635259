import SmartMic.Media.SlotSchedule

set_option autoImplicit false

/-! A jitter buffer beside the schedule of slots. The buffer is given the low 32 bits of a
packet's index. It follows the schedule as long as a pushed packet lies within half the
number range of the playout point and none takes another's place. -/

namespace SmartMic.Media

variable {Decoder : Type}

/-! ### The buffer beside the schedule -/

structure Slotted (Decoder : Type) where
  schedule : SlotSchedule
  playout : Playout Decoder

def Slotted.start (buffer : JitterBuffer) (decoder : Option Decoder) : Slotted Decoder :=
  { schedule := {}
    playout := { buffer := buffer.reset, decoder := decoder, highest := none } }

def Slotted.step (opus : OpusLibrary Decoder) (state : Slotted Decoder) (call : SlotCall) :
    Slotted Decoder :=
  { schedule := state.schedule.step call
    playout := state.playout.step opus call.op }

/-- A pushed packet lies within half the number range of the playout point, and takes no
other packet's place. -/
def Slotted.Live (state : Slotted Decoder) : SlotCall → Prop
  | .push index _ _ =>
      (∀ slot ∈ state.schedule.slot, -2 ^ 31 ≤ index - slot ∧ index - slot < 2 ^ 31) ∧
      ¬ (state.playout.buffer.Accepts (seqOf index) ∧ state.playout.buffer.Full)
  | .pop _ => True

instance (state : Slotted Decoder) (call : SlotCall) : Decidable (state.Live call) :=
  match call with
  | .push _ _ _ => inferInstanceAs (Decidable ((∀ slot ∈ state.schedule.slot, _) ∧ ¬ (_ ∧ _)))
  | .pop _ => isTrue trivial

/-- The buffer holds the pushed packets from the slot on, each under its number. -/
structure Slotted.Holds (state : Slotted Decoder) (slot : Int) : Prop where
  started : state.playout.buffer.started = true
  nextSeq : state.playout.buffer.nextSeq = seqOf slot
  near : ∀ packet ∈ state.schedule.pushed, packet.1 < slot + 2 ^ 31
  queue : ∀ seq, (state.playout.buffer.queue[seq]?).map Entry.payload =
    state.schedule.payloadOf (slot + ahead (seqOf slot) seq)

def Slotted.Follows (state : Slotted Decoder) : Prop :=
  match state.schedule.slot with
  | none => state.playout.buffer.started = false ∧ state.playout.buffer.queue = ∅ ∧
      state.schedule.pushed = []
  | some slot => state.Holds slot

/-! ### One call -/

section Step

variable {opus : OpusLibrary Decoder} {state : Slotted Decoder} {slot : Int}

theorem Queue.mem_iff_payload {queue : Queue} {seq : Seq} :
    seq ∈ queue ↔ ((queue[seq]?).map Entry.payload).isSome = true := by
  rw [Option.isSome_map, Std.ExtTreeMap.mem_iff_isSome_getElem?]

theorem Slotted.Holds.payloadOf_far (holds : state.Holds slot) {index : Int}
    (far : slot + 2 ^ 31 ≤ index) : state.schedule.payloadOf index = none := by
  rw [← Option.not_isSome_iff_eq_none, SlotSchedule.payloadOf_isSome_iff]
  rintro ⟨packet, member, rfl⟩
  have bound := holds.near packet member
  omega

/-- What is queued at the playout point is what was pushed for the slot. -/
theorem Slotted.Holds.queue_slot (holds : state.Holds slot) :
    (state.playout.buffer.queue[state.playout.buffer.nextSeq]?).map Entry.payload =
      state.schedule.payloadOf slot := by
  have zero : slot + ahead (seqOf slot) (seqOf slot) = slot := by
    have distance := ahead_seqOf slot slot
    omega
  rw [holds.nextSeq, holds.queue, zero]

theorem Slotted.Holds.queue_empty_iff (holds : state.Holds slot) :
    state.playout.buffer.queue.isEmpty = true ↔
      ¬ ((state.schedule.payloadOf slot).isSome = true ∨ state.schedule.Waiting slot) := by
  constructor
  · intro empty
    have none_ : ∀ seq, state.schedule.payloadOf (slot + ahead (seqOf slot) seq) = none := by
      intro seq
      rw [← holds.queue, Std.ExtTreeMap.isEmpty_iff.mp empty, Std.ExtTreeMap.getElem?_empty]
      rfl
    have nothing : ∀ packet ∈ state.schedule.pushed, ¬ slot ≤ packet.1 := by
      intro packet member later
      have near := holds.near packet member
      have here := none_ (seqOf packet.1)
      have distance := ahead_seqOf slot packet.1
      have same : slot + ahead (seqOf slot) (seqOf packet.1) = packet.1 := by omega
      rw [same, ← Option.not_isSome_iff_eq_none, SlotSchedule.payloadOf_isSome_iff] at here
      exact here ⟨packet, member, rfl⟩
    rintro (present | ⟨packet, member, later⟩)
    · obtain ⟨packet, member, same⟩ := (state.schedule.payloadOf_isSome_iff slot).mp present
      exact nothing packet member (le_of_eq same.symm)
    · exact nothing packet member (le_of_lt later)
  · intro nothing
    by_contra occupied
    obtain ⟨seq, member⟩ := Queue.exists_mem occupied
    rw [Queue.mem_iff_payload, holds.queue, SlotSchedule.payloadOf_isSome_iff] at member
    obtain ⟨packet, pushed, same⟩ := member
    by_cases here : packet.1 = slot
    · exact nothing (Or.inl ((state.schedule.payloadOf_isSome_iff slot).mpr
        ⟨packet, pushed, here⟩))
    · exact nothing (Or.inr ⟨packet, pushed, by omega⟩)

theorem Slotted.Holds.push (holds : state.Holds slot) (current : state.schedule.slot = some slot)
    {index : Int} {payload : Bytes} {arrivalMs : BitVec 64}
    (live : state.Live (.push index payload arrivalMs)) :
    (state.step opus (.push index payload arrivalMs)).Holds slot := by
  have near := live.1 slot current
  have distance := ahead_seqOf slot index
  have playoutAt : state.playout.buffer.playoutAt (seqOf index) = seqOf slot := by
    unfold JitterBuffer.playoutAt
    rw [if_pos holds.started, holds.nextSeq]
  have late := late_seqOf_iff near
  refine
    { started := state.playout.buffer.push_started _ _ _
      nextSeq := ?_
      near := ?_
      queue := ?_ }
  · change (state.playout.buffer.push (seqOf index) payload arrivalMs).nextSeq = _
    rw [state.playout.buffer.push_nextSeq, playoutAt]
  · intro packet member
    rcases List.mem_append.mp member with old | new
    · exact holds.near packet old
    · rw [List.mem_singleton.mp new]
      change index < _
      omega
  · intro seq
    change ((state.playout.buffer.push (seqOf index) payload arrivalMs).queue[seq]?).map _ =
      (state.schedule.step (.push index payload arrivalMs)).payloadOf _
    rw [SlotSchedule.payloadOf_push, ← holds.queue]
    have named : index = slot + ahead (seqOf slot) seq → seqOf index = seq := by
      intro same
      rw [same]
      exact seqOf_ahead slot seq
    rcases state.playout.buffer.push_queue (seqOf index) payload arrivalMs with
      ⟨behind, same⟩ | ⟨-, queued, same⟩ | ⟨inTime, fresh, stored⟩
    · rw [playoutAt, late] at behind
      have other : index ≠ slot + ahead (seqOf slot) seq := by omega
      rw [same, if_neg other, Option.or_none]
    · rw [same]
      by_cases here : index = slot + ahead (seqOf slot) seq
      · rw [named here, Queue.mem_iff_payload] at queued
        obtain ⟨first, found⟩ := Option.isSome_iff_exists.mp queued
        rw [found, Option.some_or]
      · rw [if_neg here, Option.or_none]
    · have room : ¬ maxEntries state.playout.buffer.cfg ≤ state.playout.buffer.queue.size :=
        fun full => live.2 ⟨⟨inTime, fresh⟩, full⟩
      rw [playoutAt, ← not_lt, late] at inTime
      rw [stored, if_neg room, Std.ExtTreeMap.getElem?_insertIfNew]
      by_cases here : seqOf index = seq
      · have same : index = slot + ahead (seqOf slot) seq := by
          rw [← here]
          omega
        rw [if_pos ⟨here ▸ Std.ReflCmp.compare_self, fresh⟩, if_pos same, ← here,
          Std.ExtTreeMap.getElem?_eq_none fresh]
        rfl
      · rw [if_neg fun both => here (Std.LawfulEqCmp.eq_of_compare both.1),
          if_neg fun same => here (named same), Option.or_none]

theorem Slotted.Holds.advance (holds : state.Holds slot) (buffer : JitterBuffer)
    (decoder : Option Decoder) (started : buffer.started = true)
    (nextSeq : buffer.nextSeq = state.playout.buffer.nextSeq + 1#32)
    (queue : ∀ seq, buffer.queue[seq]? =
      if seq = seqOf slot then none else state.playout.buffer.queue[seq]?) :
    Slotted.Holds
      { schedule := { state.schedule with slot := some (slot + 1) }
        playout := { state.playout with buffer := buffer, decoder := decoder } } (slot + 1) := by
  refine
    { started := started
      nextSeq := by rw [seqOf_succ, ← holds.nextSeq]; exact nextSeq
      near := fun packet member => ?_
      queue := fun seq => ?_ }
  · have near := holds.near packet member
    omega
  · change (buffer.queue[seq]?).map _ = state.schedule.payloadOf _
    rw [queue]
    by_cases left : seq = seqOf slot
    · have distance := ahead_seqOf (slot + 1) slot
      rw [if_pos left, left, holds.payloadOf_far (by omega)]
      rfl
    · have named := seqOf_ahead slot seq
      have apart : ahead (seqOf slot) seq ≠ 0 := by
        intro zero
        rw [zero, Int.natCast_zero, add_zero] at named
        exact left named.symm
      have distance := ahead_seqOf (slot + 1) (slot + ahead (seqOf slot) seq)
      have bound := (seq - seqOf slot).isLt
      unfold ahead at bound apart distance ⊢
      unfold ahead at named
      rw [named] at distance
      have same : (slot + 1 : Int) + ((seq - seqOf (slot + 1)).toNat : Int) =
          slot + ((seq - seqOf slot).toNat : Int) := by omega
      rw [if_neg left, same]
      exact holds.queue seq

/-- What a pop of the slot does, with or without its packet. -/
theorem Slotted.Holds.serves (holds : state.Holds slot) (opus : OpusLibrary Decoder) :
    (∀ payload, state.schedule.payloadOf slot = some payload →
      state.playout.buffer.Plays opus state.playout.decoder payload) ∧
    (state.schedule.payloadOf slot = none →
      state.playout.buffer.Conceals opus state.playout.decoder) := by
  have here := holds.queue_slot
  constructor
  · intro payload pushed
    rw [pushed, Option.map_eq_some_iff] at here
    obtain ⟨entry, queued, rfl⟩ := here
    exact JitterBuffer.plays_of_queued holds.started queued opus _
  · intro missing
    refine JitterBuffer.conceals_of_missing holds.started ?_ opus _
    rw [Queue.mem_iff_payload, here, missing]
    exact Bool.false_ne_true

theorem Slotted.follows_of_holds (current : state.schedule.slot = some slot)
    (holds : state.Holds slot) : state.Follows := by
  unfold Slotted.Follows
  rw [current]
  exact holds

/-- A pop of the slot leaves it when its packet is there or a later one waits. -/
theorem Slotted.Holds.pop (holds : state.Holds slot) (current : state.schedule.slot = some slot) :
    (state.step opus (.pop kFrameSamples)).Follows := by
  obtain ⟨plays, conceals⟩ := holds.serves opus
  have empty := holds.queue_empty_iff
  have stepped : state.step opus (.pop kFrameSamples) =
      { schedule := state.schedule.step (.pop kFrameSamples)
        playout :=
          { state.playout with
            buffer := (state.playout.buffer.pop opus state.playout.decoder kFrameSamples).buffer
            decoder :=
              (state.playout.buffer.pop opus state.playout.decoder kFrameSamples).decoder } } := rfl
  rw [stepped, SlotSchedule.step_pop current]
  cases pushed : state.schedule.payloadOf slot with
  | some payload =>
      have answer := plays payload pushed
      unfold JitterBuffer.Plays at answer
      rw [answer, if_pos (Or.inl Option.isSome_some)]
      refine Slotted.follows_of_holds rfl (holds.advance state.playout.buffer.serve _
        holds.started rfl fun seq => ?_)
      unfold JitterBuffer.serve
      rw [Std.ExtTreeMap.getElem?_erase, holds.nextSeq]
      by_cases same : seq = seqOf slot
      · rw [if_pos same, if_pos (same ▸ Std.ReflCmp.compare_self)]
      · rw [if_neg same, if_neg fun equal => same (Std.LawfulEqCmp.eq_of_compare equal).symm]
  | none =>
      have answer := conceals pushed
      have missing : state.playout.buffer.queue[seqOf slot]? = none := by
        have here := holds.queue_slot
        rw [pushed, Option.map_eq_none_iff, holds.nextSeq] at here
        exact here
      unfold JitterBuffer.Conceals at answer
      rw [pushed] at empty
      rw [answer]
      by_cases waits : (none : Option Bytes).isSome = true ∨ state.schedule.Waiting slot
      · rw [if_pos waits]
        have occupied := empty.not.mpr (not_not.mpr waits)
        refine Slotted.follows_of_holds rfl (holds.advance state.playout.buffer.skip _
          holds.started ?_ fun seq => ?_)
        · rw [JitterBuffer.skip_nextSeq, if_neg occupied]
        · rw [JitterBuffer.skip_queue]
          by_cases same : seq = seqOf slot
          · rw [if_pos same, same, missing]
          · rw [if_neg same]
      · rw [if_neg waits]
        refine Slotted.follows_of_holds current
          { started := holds.started
            nextSeq := ?_
            near := holds.near
            queue := holds.queue }
        change state.playout.buffer.skip.nextSeq = _
        rw [JitterBuffer.skip_nextSeq, if_pos (empty.mpr waits)]
        exact holds.nextSeq

theorem Slotted.Follows.pop (follows : state.Follows) (samples : Nat) :
    (state.step opus (.pop samples)).Follows := by
  have unchanged : (state.schedule.slot = none ∨ samples ≠ kFrameSamples) →
      state.schedule.step (.pop samples) = state.schedule := by
    intro idle
    unfold SlotSchedule.step
    rcases idle with idle | idle
    · rw [idle]
    · cases state.schedule.slot with
      | none => rfl
      | some slot => exact if_neg fun both => idle both.1
  have kept : (state.playout.buffer.started = false ∨ samples ≠ kFrameSamples) →
      (state.playout.buffer.pop opus state.playout.decoder samples).buffer =
        state.playout.buffer := by
    intro idle
    unfold JitterBuffer.pop
    rw [if_pos idle]
  unfold Slotted.Follows at follows
  cases current : state.schedule.slot with
  | none =>
      rw [current] at follows
      unfold Slotted.Follows Slotted.step SlotCall.op Playout.step
      dsimp only
      rw [unchanged (Or.inl current), kept (Or.inl follows.1), current]
      exact follows
  | some slot =>
      rw [current] at follows
      have holds : state.Holds slot := follows
      by_cases canonical : samples = kFrameSamples
      · rw [canonical]
        exact holds.pop current
      · unfold Slotted.Follows Slotted.step SlotCall.op Playout.step
        dsimp only
        rw [unchanged (Or.inr canonical), kept (Or.inr canonical), current]
        exact
          { started := holds.started
            nextSeq := holds.nextSeq
            near := holds.near
            queue := holds.queue }

end Step

/-! ### The buffer over a run -/

section Buffer

variable {opus : OpusLibrary Decoder}

theorem Slotted.first_push {state : Slotted Decoder} (idle : state.playout.buffer.started = false)
    (empty : state.playout.buffer.queue = ∅) (nothing : state.schedule.pushed = [])
    (fresh : state.schedule.slot = none) (index : Int) (payload : Bytes) (arrivalMs : BitVec 64) :
    (state.step opus (.push index payload arrivalMs)).Holds index := by
  have playoutAt : state.playout.buffer.playoutAt (seqOf index) = seqOf index := by
    unfold JitterBuffer.playoutAt
    rw [idle]
    rfl
  have schedule : state.schedule = {} := by
    cases all : state.schedule
    rw [all] at nothing fresh
    cases nothing
    cases fresh
    rfl
  refine
    { started := state.playout.buffer.push_started _ _ _
      nextSeq := ?_
      near := ?_
      queue := fun seq => ?_ }
  · change (state.playout.buffer.push (seqOf index) payload arrivalMs).nextSeq = _
    rw [state.playout.buffer.push_nextSeq, playoutAt]
  · change ∀ packet ∈ state.schedule.pushed ++ [(index, payload)], _
    rw [nothing]
    intro packet member
    rw [List.mem_singleton.mp member]
    change index < index + 2 ^ 31
    omega
  · change ((state.playout.buffer.push (seqOf index) payload arrivalMs).queue[seq]?).map _ =
      (state.schedule.step (.push index payload arrivalMs)).payloadOf _
    rw [SlotSchedule.payloadOf_push, schedule]
    rcases state.playout.buffer.push_queue (seqOf index) payload arrivalMs with
      ⟨late, -⟩ | ⟨-, queued, -⟩ | ⟨-, -, stored⟩
    · rw [playoutAt, BitVec.sub_self] at late
      exact absurd late (by decide)
    · rw [empty] at queued
      exact absurd queued Std.ExtTreeMap.not_mem_empty
    · have room : ¬ maxEntries state.playout.buffer.cfg ≤ (∅ : Queue).size := by
        rw [Std.ExtTreeMap.size_empty]
        exact Nat.not_succ_le_zero _
      have named := seqOf_ahead index seq
      rw [empty, if_neg room] at stored
      rw [stored, Std.ExtTreeMap.getElem?_insertIfNew]
      by_cases here : seqOf index = seq
      · have distance := ahead_seqOf index index
        rw [if_pos ⟨here ▸ Std.ReflCmp.compare_self, Std.ExtTreeMap.not_mem_empty⟩, ← here,
          if_pos (by omega)]
        rfl
      · have other : ¬ index = index + ahead (seqOf index) seq := by
          intro same
          rw [← same] at named
          exact here named
        rw [if_neg fun both => here (Std.LawfulEqCmp.eq_of_compare both.1), if_neg other,
          Std.ExtTreeMap.getElem?_empty]
        rfl

theorem Slotted.Follows.step {state : Slotted Decoder} {call : SlotCall}
    (follows : state.Follows) (live : state.Live call) : (state.step opus call).Follows := by
  cases call with
  | pop samples => exact follows.pop samples
  | push index payload arrivalMs =>
      unfold Slotted.Follows at follows
      cases current : state.schedule.slot with
      | none =>
          rw [current] at follows
          obtain ⟨idle, empty, nothing⟩ := follows
          refine Slotted.follows_of_holds ?_
            (Slotted.first_push idle empty nothing current index payload arrivalMs)
          change some (state.schedule.slot.getD index) = _
          rw [current]
          rfl
      | some slot =>
          rw [current] at follows
          refine Slotted.follows_of_holds ?_ (Slotted.Holds.push follows current live)
          change some (state.schedule.slot.getD index) = _
          rw [current]
          rfl

variable (opus)

def slottedAfter (buffer : JitterBuffer) (decoder : Option Decoder) (calls : List SlotCall) :
    Slotted Decoder :=
  Run.final (Slotted.step opus) (Slotted.start buffer decoder) calls

variable {opus} {buffer : JitterBuffer} {decoder : Option Decoder} {calls : List SlotCall}

theorem slottedAfter_schedule :
    (slottedAfter opus buffer decoder calls).schedule = scheduleAfter calls := by
  induction calls using List.reverseRecOn with
  | nil => rfl
  | append_singleton earlier call ih =>
      unfold slottedAfter scheduleAfter at ih ⊢
      rw [Run.final_snoc, Run.final_snoc, ← ih]
      rfl

theorem slottedAfter_follows
    (live : Run.Meets (Slotted.step opus) Slotted.Live (Slotted.start buffer decoder) calls) :
    (slottedAfter opus buffer decoder calls).Follows :=
  Run.invariant_final Slotted.Follows (fun _state _call follows live => follows.step live) calls _
    ⟨rfl, rfl, rfl⟩ live

theorem slottedAfter_pop {slot : Int} (follows : (slottedAfter opus buffer decoder calls).Follows)
    (current : (scheduleAfter calls).slot = some slot) :
    (scheduleAfter (calls ++ [.pop kFrameSamples])).slot = some (slot + 1) ∨
      ((scheduleAfter (calls ++ [.pop kFrameSamples])).slot = some slot ∧
        (scheduleAfter calls).payloadOf slot = none ∧
        (slottedAfter opus buffer decoder calls).playout.buffer.queue.isEmpty = true) := by
  have schedule := @slottedAfter_schedule _ opus buffer decoder calls
  unfold Slotted.Follows at follows
  rw [schedule, current] at follows
  have empty := Slotted.Holds.queue_empty_iff follows
  rw [schedule] at empty
  unfold scheduleAfter at current ⊢
  rw [Run.final_snoc, SlotSchedule.step_pop current]
  by_cases leaves : ((Run.final SlotSchedule.step {} calls).payloadOf slot).isSome = true ∨
      (Run.final SlotSchedule.step {} calls).Waiting slot
  · rw [if_pos leaves]
    exact Or.inl rfl
  · rw [if_neg leaves]
    refine Or.inr ⟨current, ?_, empty.mpr leaves⟩
    exact Option.not_isSome_iff_eq_none.mp fun present => leaves (Or.inl present)

/-- One pop of a slot: the number it serves, and what it plays. -/
structure Playout.ServesSlot (opus : OpusLibrary Decoder) (playout : Playout Decoder)
    (schedule : SlotSchedule) (slot : Int) : Prop where
  nextSeq : playout.buffer.nextSeq = seqOf slot
  plays : ∀ payload, schedule.payloadOf slot = some payload →
    playout.buffer.Plays opus playout.decoder payload
  conceals : schedule.payloadOf slot = none → playout.buffer.Conceals opus playout.decoder
  real : opus.Conceals → playout.decoder.isSome = true →
    ((playout.buffer.pop opus playout.decoder kFrameSamples).real = true ↔
      ∃ packet ∈ schedule.pushed, packet.1 = slot)

theorem Slotted.Holds.servesSlot {state : Slotted Decoder} {slot : Int}
    (holds : state.Holds slot) : state.playout.ServesSlot opus state.schedule slot := by
  obtain ⟨plays, conceals⟩ := holds.serves opus
  refine
    { nextSeq := holds.nextSeq
      plays := plays
      conceals := conceals
      real := fun concealing isOpen => ?_ }
  rw [← SlotSchedule.payloadOf_isSome_iff]
  cases pushed : state.schedule.payloadOf slot with
  | some payload =>
      have answer := plays payload pushed
      unfold JitterBuffer.Plays at answer
      rw [answer]
      exact iff_of_true (concealing.decode_ok payload _ isOpen) rfl
  | none =>
      have answer := conceals pushed
      unfold JitterBuffer.Conceals at answer
      rw [answer]
      exact iff_of_false Bool.false_ne_true Bool.false_ne_true

/-- The slots of a run. Every pop after the first push has one, not below the first packet,
and plays the first payload pushed for it, if there is one by then. The next pop has the next
slot, or the same one after a concealment with nothing queued; a slot that was played is
never served again, nor is an earlier one. -/
structure PlaysInSlots (opus : OpusLibrary Decoder) (buffer : JitterBuffer)
    (decoder : Option Decoder) (calls : List SlotCall) : Prop where
  opened : ∀ earlier later first, calls = earlier ++ later →
    (pushesOf earlier).head? = some first →
    ∃ slot, (scheduleAfter earlier).slot = some slot ∧ first.1 ≤ slot
  served : ∀ earlier later slot, calls = earlier ++ .pop kFrameSamples :: later →
    (scheduleAfter earlier).slot = some slot → (scheduleAfter earlier).pushed = pushesOf earlier ∧
      (slottedAfter opus buffer decoder earlier).playout.ServesSlot opus (scheduleAfter earlier)
        slot
  consecutive : ∀ earlier middle later slot slot',
    calls = earlier ++ .pop kFrameSamples :: (middle ++ .pop kFrameSamples :: later) →
    .pop kFrameSamples ∉ middle → (scheduleAfter earlier).slot = some slot →
    (scheduleAfter (earlier ++ .pop kFrameSamples :: middle)).slot = some slot' →
    slot' = slot + 1 ∨ (slot' = slot ∧ (scheduleAfter earlier).payloadOf slot = none ∧
      (slottedAfter opus buffer decoder earlier).playout.buffer.queue.isEmpty = true)
  once : ∀ earlier middle later slot slot',
    calls = earlier ++ .pop kFrameSamples :: (middle ++ .pop kFrameSamples :: later) →
    (scheduleAfter earlier).slot = some slot →
    (scheduleAfter (earlier ++ .pop kFrameSamples :: middle)).slot = some slot' →
    slot ≤ slot' ∧ ((scheduleAfter earlier).payloadOf slot ≠ none → slot < slot')

/-- In every run of pushes and pops in which no packet is evicted and every pushed packet lies
within half the number range of the playout point, the buffer plays in slots. -/
theorem jitterBuffer_playsInSlots (opus : OpusLibrary Decoder) (buffer : JitterBuffer)
    (decoder : Option Decoder) (calls : List SlotCall)
    (live : Run.Meets (Slotted.step opus) Slotted.Live (Slotted.start buffer decoder) calls) :
    PlaysInSlots opus buffer decoder calls := by
  have follows : ∀ earlier later, calls = earlier ++ later →
      (slottedAfter opus buffer decoder earlier).Follows := by
    intro earlier later whole
    rw [whole, Run.meets_append] at live
    exact slottedAfter_follows live.1
  refine
    { opened := fun earlier _later _first _whole opens => scheduleAfter_opened opens
      served := ?_
      consecutive := ?_
      once := ?_ }
  · intro earlier later slot whole current
    have here := follows earlier _ whole
    have schedule := @slottedAfter_schedule _ opus buffer decoder earlier
    unfold Slotted.Follows at here
    rw [schedule, current] at here
    rw [← schedule]
    exact ⟨schedule ▸ scheduleAfter_pushed earlier, Slotted.Holds.servesSlot here⟩
  · intro earlier middle later slot slot' whole quiet current next
    rw [List.append_cons, scheduleAfter_append] at next
    rcases slottedAfter_pop (follows earlier _ whole) current with moved | ⟨same, missing, empty⟩
    · obtain ⟨last, at_, -, still⟩ := SlotSchedule.final_slot moved middle
      rw [at_] at next
      exact Or.inl ((Option.some.inj next).symm.trans (still quiet))
    · obtain ⟨last, at_, -, still⟩ := SlotSchedule.final_slot same middle
      rw [at_] at next
      exact Or.inr ⟨(Option.some.inj next).symm.trans (still quiet), missing, empty⟩
  · intro earlier middle later slot slot' whole current next
    rw [List.append_cons, scheduleAfter_append] at next
    rcases slottedAfter_pop (follows earlier _ whole) current with moved | ⟨same, missing, -⟩
    · obtain ⟨last, at_, onward, -⟩ := SlotSchedule.final_slot moved middle
      rw [at_] at next
      cases next
      exact ⟨by omega, fun _played => by omega⟩
    · obtain ⟨last, at_, onward, -⟩ := SlotSchedule.final_slot same middle
      rw [at_] at next
      cases next
      exact ⟨onward, fun played => absurd missing played⟩

def wrappingCalls : List SlotCall :=
  [.push 0xffffffff [1] 0#64, .push 0x100000001 [3] 20#64, .pop kFrameSamples,
    .push 0x100000000 [2] 40#64, .push 0x100000000 [9] 40#64, .pop kFrameSamples,
    .push 0xffffffff [1] 60#64, .pop kFrameSamples, .pop kFrameSamples]

theorem jitterBuffer_playsInSlots_wrapping :
    PlaysInSlots silentOpus (JitterBuffer.new {}) (some ()) wrappingCalls :=
  jitterBuffer_playsInSlots silentOpus (JitterBuffer.new {}) (some ()) wrappingCalls
    (by decide +kernel)

/-! ### Numbers read as indices -/

/-- The index that lies closest to the playout point. -/
def Slotted.indexOf (state : Slotted Decoder) (seq : Seq) : Int :=
  match state.schedule.slot with
  | none => seq.toNat
  | some slot => slot + (seq - seqOf slot).toInt

theorem Slotted.seqOf_indexOf (state : Slotted Decoder) (seq : Seq) :
    seqOf (state.indexOf seq) = seq := by
  unfold Slotted.indexOf
  cases state.schedule.slot with
  | none =>
      unfold seqOf
      rw [BitVec.ofInt_natCast, BitVec.ofNat_toNat, BitVec.setWidth_eq]
  | some slot =>
      unfold seqOf
      rw [BitVec.ofInt_add, BitVec.ofInt_toInt, BitVec.add_comm, BitVec.sub_add_cancel]

/-- Every run of pushes and pops of 32-bit numbers in which nothing is evicted is one of
packets within half the number range of the playout point. -/
theorem exists_slotCalls (state : Slotted Decoder) (ops : List PlayoutOp)
    (noReset : .reset ∉ ops)
    (roomy : Run.Meets (Playout.step opus)
      (fun playout op => ∀ seq payload arrivalMs, op = .push seq payload arrivalMs →
        ¬ (playout.buffer.Accepts seq ∧ playout.buffer.Full)) state.playout ops) :
    ∃ calls, calls.map SlotCall.op = ops ∧
      Run.Meets (Slotted.step opus) Slotted.Live state calls := by
  induction ops generalizing state with
  | nil => exact ⟨[], rfl, trivial⟩
  | cons op rest ih =>
      have later : .reset ∉ rest := fun member => noReset (List.mem_cons_of_mem _ member)
      cases op with
      | reset => exact absurd (List.mem_cons_self ..) noReset
      | pop samples =>
          obtain ⟨calls, same, live⟩ := ih (state.step opus (.pop samples)) later roomy.2
          exact ⟨.pop samples :: calls, by rw [List.map_cons, same]; rfl, trivial, live⟩
      | push seq payload arrivalMs =>
          have number := state.seqOf_indexOf seq
          have named : SlotCall.op (.push (state.indexOf seq) payload arrivalMs) =
              .push seq payload arrivalMs :=
            congrArg (fun seq => PlayoutOp.push seq payload arrivalMs) number
          have stepped : (state.step opus (.push (state.indexOf seq) payload arrivalMs)).playout =
              state.playout.step opus (.push seq payload arrivalMs) :=
            congrArg (state.playout.step opus) named
          obtain ⟨calls, same, live⟩ := ih
            (state.step opus (.push (state.indexOf seq) payload arrivalMs)) later
            (by rw [stepped]; exact roomy.2)
          refine ⟨.push (state.indexOf seq) payload arrivalMs :: calls, ?_, ⟨?_, ?_⟩, live⟩
          · rw [List.map_cons, same, named]
          · intro slot current
            have low := @BitVec.le_two_mul_toInt 32 (seq - seqOf slot)
            have high := @BitVec.two_mul_toInt_lt 32 (seq - seqOf slot)
            unfold Slotted.indexOf
            rw [Option.mem_def.mp current]
            dsimp only
            omega
          · rw [number]
            exact roomy.1 seq payload arrivalMs rfl

end Buffer

end SmartMic.Media
