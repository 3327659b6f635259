import SmartMic.Audio.RingAtomic

set_option autoImplicit false

/-! One producer and one consumer on a ring, in every interleaving of their accesses.

A write that finds no room stores the read index too, from a value it loaded earlier, and
so does every read. `RingThreads.Safe` says of one access that it does not meet the other
side there: it takes the read index no step back, and the slot it copies is not reused. -/

namespace SmartMic.Audio

variable {α : Type*}

/-- The ring with one producer and one consumer. The last two members are history: the
items in the order of their positions, and what the reads returned, with the positions
they took it from. -/
structure RingThreads (α : Type*) where
  memory : RingMemory α
  producer : Writer α
  consumer : Reader α
  written : List α
  returned : List (Nat × α)

/-- A thread that is between two calls begins one, or a thread makes its next access. -/
inductive ThreadMove (α : Type*) where
  | beginWrite (src : List α)
  | producer
  | beginRead (count : BitVec 64)
  | consumer

/-- The items that are in their slots, while the write index does not cover them yet. -/
def Writer.pending : Writer α → List α
  | .copyIn src _ _ copied => src.take copied
  | _ => []

def Writer.committed : Writer α → List α
  | .copyIn src _ _ copied => if copied < src.length then [] else src
  | _ => []

namespace RingThreads

def start [Zero α] (capacity : Nat) : RingThreads α :=
  { memory := RingMemory.new capacity
    producer := .idle
    consumer := .idle
    written := []
    returned := [] }

def produce (threads : RingThreads α) : RingThreads α :=
  let (memory, producer) := threads.producer.step threads.memory
  { threads with
    memory := memory
    producer := producer
    written := threads.written ++ threads.producer.committed }

def consume (threads : RingThreads α) : RingThreads α :=
  let (memory, consumer, items) := threads.consumer.step threads.memory
  { threads with
    memory := memory
    consumer := consumer
    returned := threads.returned ++ items }

def step (threads : RingThreads α) : ThreadMove α → RingThreads α
  | .beginWrite src =>
      match threads.producer with
      | .idle => { threads with producer := Writer.call threads.memory.capacity src }
      | _ => threads
  | .producer => threads.produce
  | .beginRead count =>
      match threads.consumer with
      | .idle => { threads with consumer := .loadRead count }
      | _ => threads
  | .consumer => threads.consume

/-- What a single-producer, single-consumer ring promises. -/
structure Kept (threads : RingThreads α) : Prop where
  ordered : (threads.returned.map Prod.fst).Pairwise (· < ·)
  genuine : ∀ position item, (position, item) ∈ threads.returned →
    threads.written[position]? = some item
  level : threads.producer = .idle → threads.consumer = .idle →
    threads.memory.read_ ≤ threads.memory.write_ ∧
      threads.memory.write_ ≤ threads.memory.read_ + threads.memory.capacity

/-- The next access of the producer does not take the read index back, and its sums fit
a word. -/
def SafeProducer (threads : RingThreads α) : Prop :=
  match threads.producer with
  | .loadRead src _ w => (word w - word threads.memory.read_).toNat + src.length < 2 ^ 64
  | .storeRead _ _ _ r overflow => threads.memory.read_ ≤ r + overflow.toNat
  | _ => True

/-- The next access of the consumer finds its slot not reused, and does not take the read
index back. -/
def SafeConsumer (threads : RingThreads α) : Prop :=
  match threads.consumer with
  | .copyOut _ r n dst =>
      if dst.length < n.toNat then
        threads.memory.write_ + threads.producer.pending.length ≤
          r + dst.length + threads.memory.capacity
      else threads.memory.read_ ≤ r + n.toNat
  | _ => True

def Safe (threads : RingThreads α) : ThreadMove α → Prop
  | .producer => threads.SafeProducer
  | .consumer => threads.SafeConsumer
  | _ => True

instance (threads : RingThreads α) : Decidable threads.SafeProducer := by
  unfold SafeProducer
  cases threads.producer <;> infer_instance

instance (threads : RingThreads α) : Decidable threads.SafeConsumer := by
  unfold SafeConsumer
  cases threads.consumer <;> infer_instance

instance (threads : RingThreads α) (move : ThreadMove α) : Decidable (threads.Safe move) := by
  cases move <;> unfold Safe <;> infer_instance

end RingThreads

/-! ### The producer -/

/-- What a write relies on at each of its accesses. -/
def Writer.Phase (memory : RingMemory α) : Writer α → Prop
  | .loadWrite src _ => src.length ≤ memory.capacity
  | .loadRead src _ w => src.length ≤ memory.capacity ∧ w = memory.write_
  | .storeRead src _ w r overflow =>
      src.length ≤ memory.capacity ∧ w = memory.write_ ∧
        r + overflow.toNat ≤ memory.write_ ∧
        memory.write_ + src.length ≤ r + overflow.toNat + memory.capacity
  | .copyIn src _ w copied =>
      src.length ≤ memory.capacity ∧ w = memory.write_ ∧ copied ≤ src.length ∧
        memory.write_ + src.length ≤ memory.read_ + memory.capacity
  | _ => True

/-- The ring as the producer keeps it. The last items written stand in their slots,
whether they are read or not. -/
structure Writer.Steady (memory : RingMemory α) (producer : Writer α) (written : List α) :
    Prop where
  power : ∃ bits ≤ 63, memory.capacity = 2 ^ bits
  low : memory.read_ ≤ memory.write_
  high : memory.write_ ≤ memory.read_ + memory.capacity
  count : written.length = memory.write_
  slots : Circular.Recent memory.capacity memory.data (written ++ producer.pending)
  phase : producer.Phase memory

section

variable {memory : RingMemory α} {producer : Writer α} {written : List α}

theorem Writer.Steady.positive (steady : Writer.Steady memory producer written) :
    0 < memory.capacity := by
  obtain ⟨bits, -, power⟩ := steady.power
  rw [power]
  exact Nat.two_pow_pos bits

theorem Writer.Steady.small (steady : Writer.Steady memory producer written) :
    memory.capacity ≤ 2 ^ 63 := by
  obtain ⟨bits, most, power⟩ := steady.power
  rw [power]
  exact Nat.pow_le_pow_right (by decide) most

/-- A read index that moves on, up to the write index, is no loss for the producer. -/
theorem Writer.Steady.advance (steady : Writer.Steady memory producer written) {reached : Nat}
    (onward : memory.read_ ≤ reached) (available : reached ≤ memory.write_)
    (underruns : BitVec 64) :
    Writer.Steady { memory with read_ := reached, underruns_ := underruns } producer written where
  power := steady.power
  low := available
  high := Nat.le_trans steady.high (Nat.add_le_add_right onward _)
  count := steady.count
  slots := steady.slots
  phase := by
    have phase := steady.phase
    cases producer with
    | copyIn src dropped w copied =>
        obtain ⟨short, same, within, room⟩ := phase
        exact ⟨short, same, within, Nat.le_trans room (Nat.add_le_add_right onward _)⟩
    | _ => exact phase

theorem Writer.Steady.call (steady : Writer.Steady memory .idle written) (src : List α) :
    Writer.Steady memory (Writer.call memory.capacity src) written := by
  unfold Writer.call
  split
  · exact steady
  · exact
      { power := steady.power
        low := steady.low
        high := steady.high
        count := steady.count
        slots := steady.slots
        phase := by
          change (src.drop _).length ≤ _
          rw [List.length_drop]
          omega }

/-- The indices of the ring do not move back. -/
structure RingMemory.Onward (memory after : RingMemory α) : Prop where
  capacity : after.capacity = memory.capacity
  read : memory.read_ ≤ after.read_
  write : memory.write_ ≤ after.write_

structure Writer.Moved (memory : RingMemory α) (producer : Writer α) (written : List α)
    (result : RingMemory α × Writer α) : Prop where
  steady : Writer.Steady result.1 result.2 (written ++ producer.committed)
  onward : memory.Onward result.1

theorem RingMemory.Onward.refl (memory : RingMemory α) : memory.Onward memory :=
  { capacity := rfl, read := Nat.le_refl _, write := Nat.le_refl _ }

theorem Writer.Steady.moved (steady : Writer.Steady memory producer written) {next : Writer α}
    (uncommitted : producer.committed = []) (before : producer.pending = [])
    (after : next.pending = []) (phase : next.Phase memory) :
    Writer.Moved memory producer written (memory, next) := by
  have slots := steady.slots
  rw [before] at slots
  exact
    { steady :=
        { power := steady.power
          low := steady.low
          high := steady.high
          count := by rw [uncommitted, List.append_nil]; exact steady.count
          slots := by rw [uncommitted, after, List.append_nil]; exact slots
          phase := phase }
      onward := RingMemory.Onward.refl memory }

theorem Writer.Steady.loadRead {src : List α} {dropped : BitVec 64} {w : Nat}
    (steady : Writer.Steady memory (.loadRead src dropped w) written)
    (room : (word w - word memory.read_).toNat + src.length < 2 ^ 64) :
    Writer.Moved memory (.loadRead src dropped w) written
      ((Writer.loadRead src dropped w).step memory) := by
  obtain ⟨short, same⟩ := steady.phase
  have low := steady.low
  have high := steady.high
  have small := steady.small
  subst same
  have used := word_sub low
  rw [Nat.mod_eq_of_lt (by omega)] at used
  have total : (word memory.write_ - word memory.read_ + BitVec.ofNat 64 src.length).toNat =
      memory.write_ - memory.read_ + src.length := by
    rw [BitVec.toNat_add, BitVec.toNat_ofNat, used]
    omega
  have limit : (BitVec.ofNat 64 memory.capacity).toNat = memory.capacity := by
    rw [BitVec.toNat_ofNat]
    exact Nat.mod_eq_of_lt (by omega)
  simp only [Writer.step]
  split
  · rename_i above
    rw [BitVec.lt_def, total, limit] at above
    have overflow : (word memory.write_ - word memory.read_ + BitVec.ofNat 64 src.length -
        BitVec.ofNat 64 memory.capacity).toNat =
          memory.write_ - memory.read_ + src.length - memory.capacity := by
      rw [BitVec.toNat_sub_of_le (by rw [BitVec.le_def, total, limit]; omega), total, limit]
    apply steady.moved rfl rfl rfl
    refine ⟨short, rfl, ?_, ?_⟩
    · rw [overflow]
      omega
    · rw [overflow]
      omega
  · rename_i within
    rw [BitVec.lt_def, total, limit] at within
    apply steady.moved rfl rfl rfl
    exact ⟨short, rfl, Nat.zero_le _, by omega⟩

theorem Writer.Steady.storeRead {src : List α} {dropped : BitVec 64} {w r : Nat}
    {overflow : BitVec 64}
    (steady : Writer.Steady memory (.storeRead src dropped w r overflow) written)
    (onward : memory.read_ ≤ r + overflow.toNat) :
    Writer.Moved memory (.storeRead src dropped w r overflow) written
      ((Writer.storeRead src dropped w r overflow).step memory) := by
  obtain ⟨short, same, available, room⟩ := steady.phase
  have slots := steady.slots
  exact
    { steady :=
        { power := steady.power
          low := available
          high := Nat.le_trans (Nat.le_add_right _ _) room
          count := by
            rw [show (Writer.storeRead src dropped w r overflow).committed = [] from rfl,
              List.append_nil]
            exact steady.count
          slots := by
            rw [show (Writer.storeRead src dropped w r overflow).committed = [] from rfl,
              List.append_nil]
            exact slots
          phase := ⟨short, same, Nat.zero_le _, room⟩ }
      onward := { capacity := rfl, read := onward, write := Nat.le_refl _ } }

theorem Writer.Steady.copyIn {src : List α} {dropped : BitVec 64} {w copied : Nat} {item : α}
    (steady : Writer.Steady memory (.copyIn src dropped w copied) written)
    (next : src[copied]? = some item) :
    Writer.Steady
      { memory with
        data := Function.update memory.data
          (RingMemory.slot memory.capacity (word w) src.length copied) item }
      (.copyIn src dropped w (copied + 1)) written := by
  obtain ⟨short, same, within, room⟩ := steady.phase
  have inside : copied < src.length := (List.getElem?_eq_some_iff.mp next).1
  obtain ⟨bits, most, power⟩ := steady.power
  subst same
  have total : (written ++ src.take copied).length = memory.write_ + copied := by
    rw [List.length_append, steady.count, List.length_take_of_le within]
  have place : RingMemory.slot memory.capacity (word memory.write_) src.length copied =
      (written ++ src.take copied).length % memory.capacity := by
    rw [total]
    exact RingMemory.slot_eq power most memory.write_ short inside
  have extended : written ++ (Writer.copyIn src dropped memory.write_ (copied + 1)).pending =
      written ++ src.take copied ++ [item] := by
    rw [List.append_assoc]
    simp only [Writer.pending]
    rw [List.take_add_one, next]
    rfl
  exact
    { power := ⟨bits, most, power⟩
      low := steady.low
      high := steady.high
      count := steady.count
      slots := by
        rw [extended, place]
        exact steady.slots.push item
      phase := ⟨short, rfl, inside, room⟩ }

theorem Writer.Steady.commit {src : List α} {dropped : BitVec 64} {w copied : Nat}
    (steady : Writer.Steady memory (.copyIn src dropped w copied) written)
    (last : src[copied]? = none) {next : Writer α} (after : next.pending = [])
    (phase : ∀ memory : RingMemory α, next.Phase memory) :
    Writer.Steady { memory with write_ := w + src.length } next (written ++ src) := by
  obtain ⟨short, same, within, room⟩ := steady.phase
  have whole : copied = src.length :=
    Nat.le_antisymm within (List.getElem?_eq_none_iff.mp last)
  have low := steady.low
  have count := steady.count
  have slots := steady.slots
  subst same whole
  rw [show (Writer.copyIn src dropped memory.write_ src.length).pending = src from
    List.take_length] at slots
  exact
    { power := steady.power
      low := Nat.le_trans low (Nat.le_add_right _ _)
      high := room
      count := by rw [List.length_append, count]
      slots := by
        rw [after, List.append_nil]
        exact slots
      phase := phase _ }

theorem Writer.Steady.step (steady : Writer.Steady memory producer written)
    (room : ∀ src dropped w, producer = .loadRead src dropped w →
      (word w - word memory.read_).toNat + src.length < 2 ^ 64)
    (onward : ∀ src dropped w r overflow, producer = .storeRead src dropped w r overflow →
      memory.read_ ≤ r + overflow.toNat) :
    Writer.Moved memory producer written (producer.step memory) := by
  cases producer with
  | idle => exact steady.moved rfl rfl rfl trivial
  | loadWrite src dropped => exact steady.moved rfl rfl rfl ⟨steady.phase, rfl⟩
  | loadRead src dropped w => exact steady.loadRead (room src dropped w rfl)
  | storeRead src dropped w r overflow =>
      exact steady.storeRead (onward src dropped w r overflow rfl)
  | copyIn src dropped w copied =>
      cases next : src[copied]? with
      | some item =>
          have inside : copied < src.length := (List.getElem?_eq_some_iff.mp next).1
          have uncommitted : (Writer.copyIn src dropped w copied).committed = [] := if_pos inside
          have moved := steady.copyIn next
          constructor
          · simp only [Writer.step, next]
            rw [uncommitted, List.append_nil]
            exact moved
          · simp only [Writer.step, next]
            exact { capacity := rfl, read := Nat.le_refl _, write := Nat.le_refl _ }
      | none =>
          have last : src.length ≤ copied := List.getElem?_eq_none_iff.mp next
          have committed : (Writer.copyIn src dropped w copied).committed = src :=
            if_neg (not_lt.mpr last)
          obtain ⟨-, same, -, -⟩ := steady.phase
          constructor
          · simp only [Writer.step, next]
            rw [committed]
            split
            · exact steady.commit next rfl fun _ => trivial
            · exact steady.commit next rfl fun _ => trivial
          · simp only [Writer.step, next]
            exact
              { capacity := rfl
                read := Nat.le_refl _
                write := by
                  rw [same]
                  exact Nat.le_add_right _ _ }
  | addOverruns dropped =>
      have kept : Writer.Moved memory (.addOverruns dropped) written (memory, .idle) :=
        steady.moved rfl rfl rfl trivial
      exact
        { steady :=
            { power := steady.power
              low := steady.low
              high := steady.high
              count := kept.steady.count
              slots := kept.steady.slots
              phase := trivial }
          onward := { capacity := rfl, read := Nat.le_refl _, write := Nat.le_refl _ } }

end

/-! ### The consumer -/

/-- The read index as the consumer last saw it; everything it returned lies below. -/
def Reader.claimed (memory : RingMemory α) : Reader α → Nat
  | .loadWrite _ r => r
  | .copyOut _ r _ _ => r
  | _ => memory.read_

/-- What a read relies on while it copies. -/
def Reader.Phase (memory : RingMemory α) (written : List α) : Reader α → Prop
  | .copyOut _ r n dst =>
      r + n.toNat ≤ memory.write_ ∧ dst.length ≤ n.toNat ∧
        (dst ≠ [] → n.toNat ≤ memory.capacity) ∧
        ∀ index item, dst[index]? = some item → written[r + index]? = some item
  | _ => True

structure Reader.Steady (memory : RingMemory α) (consumer : Reader α) (written : List α)
    (returned : List (Nat × α)) : Prop where
  claimed : consumer.claimed memory ≤ memory.read_
  below : ∀ entry ∈ returned, entry.1 < consumer.claimed memory
  ordered : (returned.map Prod.fst).Pairwise (· < ·)
  genuine : ∀ position item, (position, item) ∈ returned → written[position]? = some item
  phase : consumer.Phase memory written

theorem getElem?_append_of_some {first : List α} (second : List α) {position : Nat} {item : α}
    (held : first[position]? = some item) : (first ++ second)[position]? = some item := by
  rw [List.getElem?_append_left (List.getElem?_eq_some_iff.mp held).1]
  exact held

section

variable {memory : RingMemory α} {producer : Writer α} {consumer : Reader α} {written : List α}
  {returned : List (Nat × α)}

theorem Reader.Steady.grow (steady : Reader.Steady memory consumer written returned)
    {after : RingMemory α} (onward : memory.Onward after) (more : List α) :
    Reader.Steady after consumer (written ++ more) returned := by
  have claimed := steady.claimed
  have below := steady.below
  have read := onward.read
  have later : consumer.claimed memory ≤ consumer.claimed after := by
    cases consumer with
    | loadWrite count r => exact Nat.le_refl _
    | copyOut count r n dst => exact Nat.le_refl _
    | _ => exact read
  exact
    { claimed := by
        cases consumer with
        | loadWrite count r => exact Nat.le_trans claimed read
        | copyOut count r n dst => exact Nat.le_trans claimed read
        | _ => exact Nat.le_refl _
      below := fun entry member => Nat.lt_of_lt_of_le (below entry member) later
      ordered := steady.ordered
      genuine := fun position item member =>
        getElem?_append_of_some more (steady.genuine position item member)
      phase := by
        have phase := steady.phase
        cases consumer with
        | copyOut count r n dst =>
            obtain ⟨within, length, short, copied⟩ := phase
            refine ⟨Nat.le_trans within onward.write, length, ?_, ?_⟩
            · rw [onward.capacity]
              exact short
            · exact fun index item held => getElem?_append_of_some more (copied index item held)
        | _ => trivial }

structure Reader.Moved (memory : RingMemory α) (producer : Writer α) (written : List α)
    (returned : List (Nat × α)) (result : RingMemory α × Reader α × List (Nat × α)) : Prop where
  steady : Reader.Steady result.1 result.2.1 written (returned ++ result.2.2)
  writer : Writer.Steady result.1 producer written

theorem Reader.Steady.quiet (steady : Reader.Steady memory consumer written returned)
    (writer : Writer.Steady memory producer written) {next : Reader α}
    (same : next.claimed memory = consumer.claimed memory) (phase : next.Phase memory written) :
    Reader.Moved memory producer written returned (memory, next, []) where
  steady :=
    { claimed := by rw [same]; exact steady.claimed
      below := by rw [same, List.append_nil]; exact steady.below
      ordered := by rw [List.append_nil]; exact steady.ordered
      genuine := by rw [List.append_nil]; exact steady.genuine
      phase := phase }
  writer := writer

theorem Reader.Steady.loadWrite {count : BitVec 64} {r : Nat}
    (steady : Reader.Steady memory (.loadWrite count r) written returned)
    (writer : Writer.Steady memory producer written) :
    Reader.Moved memory producer written returned
      ((Reader.loadWrite count r).step memory) := by
  have claimed : r ≤ memory.read_ := steady.claimed
  have low := writer.low
  have available : (word memory.write_ - word r).toNat ≤ memory.write_ - r := by
    rw [word_sub (Nat.le_trans claimed low)]
    exact Nat.mod_le _ _
  have least : (if word memory.write_ - word r < count then word memory.write_ - word r
      else count).toNat ≤ memory.write_ - r := by
    split
    · exact available
    · rename_i enough
      exact Nat.le_trans (Nat.le_of_not_lt (BitVec.lt_def.not.mp enough)) available
  refine steady.quiet writer rfl ?_
  refine ⟨by omega, Nat.zero_le _, fun some => absurd rfl some, ?_⟩
  intro index item held
  rw [List.getElem?_nil] at held
  cases held

/-- The slot of the next item still holds what was written for its position. -/
theorem Reader.Steady.copySlot {count : BitVec 64} {r : Nat} {n : BitVec 64} {dst : List α}
    (steady : Reader.Steady memory (.copyOut count r n dst) written returned)
    (writer : Writer.Steady memory producer written) (short : dst.length < n.toNat)
    (kept : memory.write_ + producer.pending.length ≤ r + dst.length + memory.capacity) :
    n.toNat ≤ memory.capacity ∧
      written[r + dst.length]? = some
        (memory.data (RingMemory.slot memory.capacity (word r) n.toNat dst.length)) := by
  obtain ⟨within, -, whole, -⟩ := steady.phase
  obtain ⟨bits, most, power⟩ := writer.power
  have limit : n.toNat ≤ memory.capacity := by
    cases dst with
    | nil =>
        rw [List.length_nil] at kept
        omega
    | cons head tail => exact whole (List.cons_ne_nil head tail)
  have inside : r + dst.length < written.length := by
    rw [writer.count]
    omega
  have item := List.getElem?_eq_getElem inside
  have stored := writer.slots (r + dst.length) _ (getElem?_append_of_some producer.pending item)
    (by rw [List.length_append, writer.count]; exact kept)
  refine ⟨limit, ?_⟩
  rw [RingMemory.slot_eq power most r limit short, stored]
  exact item

theorem Reader.Steady.copyOut {count : BitVec 64} {r : Nat} {n : BitVec 64} {dst : List α}
    (steady : Reader.Steady memory (.copyOut count r n dst) written returned)
    (writer : Writer.Steady memory producer written) (short : dst.length < n.toNat)
    (kept : memory.write_ + producer.pending.length ≤ r + dst.length + memory.capacity) :
    Reader.Moved memory producer written returned
      ((Reader.copyOut count r n dst).step memory) := by
  obtain ⟨within, -, -, copied⟩ := steady.phase
  obtain ⟨limit, next⟩ := steady.copySlot writer short kept
  simp only [Reader.step, if_pos short]
  refine steady.quiet writer rfl ?_
  refine ⟨within, ?_, fun _ => limit, ?_⟩
  · rw [List.length_append, List.length_singleton]
    exact short
  · intro index item held
    rcases Nat.lt_trichotomy index dst.length with earlier | newest | beyond
    · rw [List.getElem?_append_left earlier] at held
      exact copied index item held
    · subst newest
      rw [List.getElem?_concat_length] at held
      rw [next]
      exact held
    · have outside : (dst ++ [memory.data (RingMemory.slot memory.capacity (word r) n.toNat
          dst.length)]).length ≤ index := by
        rw [List.length_append, List.length_singleton]
        omega
      rw [List.getElem?_eq_none outside] at held
      cases held

theorem mapIdx_positions (r : Nat) (dst : List α) :
    (dst.mapIdx fun index item => (r + index, item)).map Prod.fst =
      List.range' r dst.length := by
  apply List.ext_getElem
  · simp
  · intro index _inside _within
    simp

theorem Reader.Steady.storeRead {count : BitVec 64} {r : Nat} {n : BitVec 64} {dst : List α}
    (steady : Reader.Steady memory (.copyOut count r n dst) written returned)
    (writer : Writer.Steady memory producer written) (done : ¬ dst.length < n.toNat)
    (onward : memory.read_ ≤ r + n.toNat) :
    Reader.Moved memory producer written returned
      ((Reader.copyOut count r n dst).step memory) := by
  obtain ⟨within, atMost, -, copied⟩ := steady.phase
  have below : ∀ entry ∈ returned, entry.1 < r := steady.below
  have length : dst.length = n.toNat := Nat.le_antisymm atMost (not_lt.mp done)
  have fresh : ∀ entry ∈ dst.mapIdx (fun index item => (r + index, item)),
      r ≤ entry.1 ∧ entry.1 < r + n.toNat ∧ written[entry.1]? = some entry.2 := by
    intro entry member
    obtain ⟨index, inside, same⟩ := List.mem_mapIdx.mp member
    subst same
    exact ⟨Nat.le_add_right r index, by omega,
      copied index _ (List.getElem?_eq_getElem inside)⟩
  simp only [Reader.step, if_neg done]
  constructor
  · constructor
    · split <;> exact Nat.le_refl _
    · intro entry member
      have reached : entry.1 < r + n.toNat := by
        rcases List.mem_append.mp member with old | new
        · exact Nat.lt_of_lt_of_le (below entry old) (Nat.le_add_right _ _)
        · exact (fresh entry new).2.1
      split <;> exact reached
    · rw [List.map_append, mapIdx_positions, List.pairwise_append]
      refine ⟨steady.ordered, List.pairwise_lt_range', ?_⟩
      intro first old second new
      obtain ⟨entry, member, same⟩ := List.mem_map.mp old
      subst same
      exact Nat.lt_of_lt_of_le (below entry member) (List.mem_range'_1.mp new).1
    · intro position item member
      rcases List.mem_append.mp member with old | new
      · exact steady.genuine position item old
      · exact (fresh (position, item) new).2.2
    · split <;> trivial
  · exact writer.advance onward within memory.underruns_

theorem Reader.Steady.step (steady : Reader.Steady memory consumer written returned)
    (writer : Writer.Steady memory producer written)
    (kept : ∀ count r n dst, consumer = .copyOut count r n dst → dst.length < n.toNat →
      memory.write_ + producer.pending.length ≤ r + dst.length + memory.capacity)
    (onward : ∀ count r n dst, consumer = .copyOut count r n dst → ¬ dst.length < n.toNat →
      memory.read_ ≤ r + n.toNat) :
    Reader.Moved memory producer written returned (consumer.step memory) := by
  cases consumer with
  | idle => exact steady.quiet writer rfl trivial
  | loadRead count => exact steady.quiet writer rfl trivial
  | loadWrite count r => exact steady.loadWrite writer
  | copyOut count r n dst =>
      by_cases short : dst.length < n.toNat
      · exact steady.copyOut writer short (kept count r n dst rfl short)
      · exact steady.storeRead writer short (onward count r n dst rfl short)
  | addUnderruns missing =>
      have quiet : Reader.Moved memory producer written returned (memory, .idle, []) :=
        steady.quiet writer rfl trivial
      exact
        { steady :=
            { claimed := Nat.le_refl _
              below := quiet.steady.below
              ordered := quiet.steady.ordered
              genuine := quiet.steady.genuine
              phase := trivial }
          writer := writer.advance (Nat.le_refl _) writer.low _ }

end

/-! ### Runs -/

namespace RingThreads

variable {threads : RingThreads α}

structure Steady (threads : RingThreads α) : Prop where
  producer : Writer.Steady threads.memory threads.producer threads.written
  consumer : Reader.Steady threads.memory threads.consumer threads.written threads.returned

theorem start_steady [Zero α] {capacity : Nat} (most : capacity ≤ 2 ^ 63) :
    (start capacity : RingThreads α).Steady := by
  obtain ⟨bits, least, -, power⟩ := roundUpPow2_eq most (Nat.le_refl 63)
  exact
    { producer :=
        { power := ⟨bits, least, power⟩
          low := Nat.le_refl 0
          high := Nat.zero_le _
          count := rfl
          slots := Circular.recent_nil _ _
          phase := trivial }
      consumer :=
        { claimed := Nat.le_refl 0
          below := fun _entry member => absurd member List.not_mem_nil
          ordered := List.Pairwise.nil
          genuine := fun _position _item member => absurd member List.not_mem_nil
          phase := trivial } }

theorem Steady.produce (steady : threads.Steady) (safe : threads.SafeProducer) :
    threads.produce.Steady := by
  have moved := steady.producer.step
    (fun src dropped w phase => by
      rw [SafeProducer, phase] at safe
      exact safe)
    (fun src dropped w r overflow phase => by
      rw [SafeProducer, phase] at safe
      exact safe)
  exact
    { producer := moved.steady
      consumer := steady.consumer.grow moved.onward _ }

theorem Steady.consume (steady : threads.Steady) (safe : threads.SafeConsumer) :
    threads.consume.Steady := by
  have moved := steady.consumer.step steady.producer
    (fun count r n dst phase short => by
      rw [SafeConsumer, phase] at safe
      simp only [if_pos short] at safe
      exact safe)
    (fun count r n dst phase short => by
      rw [SafeConsumer, phase] at safe
      simp only [if_neg short] at safe
      exact safe)
  exact { producer := moved.writer, consumer := moved.steady }

theorem Steady.step (steady : threads.Steady) {move : ThreadMove α} (safe : threads.Safe move) :
    (threads.step move).Steady := by
  cases move with
  | beginWrite src =>
      unfold RingThreads.step
      cases phase : threads.producer with
      | idle =>
          have producer := steady.producer
          rw [phase] at producer
          exact { producer := producer.call src, consumer := steady.consumer }
      | _ => exact steady
  | producer => exact steady.produce safe
  | beginRead count =>
      unfold RingThreads.step
      cases phase : threads.consumer with
      | idle =>
          have consumer := steady.consumer
          rw [phase] at consumer
          exact
            { producer := steady.producer
              consumer :=
                { claimed := Nat.le_refl _
                  below := consumer.below
                  ordered := consumer.ordered
                  genuine := consumer.genuine
                  phase := trivial } }
      | _ => exact steady
  | consumer => exact steady.consume safe

theorem Steady.kept (steady : threads.Steady) : threads.Kept where
  ordered := steady.consumer.ordered
  genuine := steady.consumer.genuine
  level := fun _ _ => ⟨steady.producer.low, steady.producer.high⟩

/-- As long as neither side takes the read index back and no slot is reused before it is
copied, every state of every interleaving is one of a queue between two threads. -/
theorem kept_throughout [Zero α] {capacity : Nat} (most : capacity ≤ 2 ^ 63)
    (moves : List (ThreadMove α)) (safe : Run.Meets step Safe (start capacity) moves) :
    Run.Throughout step Kept (start capacity) moves := by
  rw [Run.throughout_iff_prefix]
  rintro first ⟨rest, whole⟩
  rw [← whole, Run.meets_append] at safe
  exact (Run.invariant_final Steady (fun _threads _move steady => steady.step) first _
    (start_steady most) safe.1).kept

/-- Two items, one more that pushes the first out, and a read of the rest. -/
theorem kept_throughout_sample :
    Run.Throughout step Kept (start 2)
      ([.beginWrite [1#16, 2#16]] ++ List.replicate 5 .producer ++ [.beginWrite [3#16]] ++
        List.replicate 6 .producer ++ [.beginRead 3#64] ++ List.replicate 6 .consumer) :=
  kept_throughout (by decide) _ (by decide +kernel)

/-! ### Where the two sides meet -/

def filled : List (ThreadMove (BitVec 16)) :=
  [.beginWrite [1#16, 2#16]] ++ List.replicate 5 .producer

/-- The reader takes everything between the load and the store of the writer's overrun. -/
def readWithinOverrun : List (ThreadMove (BitVec 16)) :=
  filled ++ [.beginWrite [3#16], .producer, .producer, .beginRead 2#64] ++
    List.replicate 5 .consumer ++ List.replicate 4 .producer ++ [.beginRead 2#64] ++
    List.replicate 5 .consumer

/-- A write of a whole ring between the copy and the store of a read. -/
def overrunWithinRead : List (ThreadMove (BitVec 16)) :=
  filled ++ [.beginRead 1#64, .consumer, .consumer, .consumer, .beginWrite [3#16, 4#16]] ++
    List.replicate 7 .producer ++ [.consumer]

/-- The slot of a read is written again before it is copied. -/
def slotReused : List (ThreadMove (BitVec 16)) :=
  filled ++ [.beginRead 1#64, .consumer, .consumer, .beginWrite [3#16]] ++
    List.replicate 6 .producer ++ [.consumer, .consumer]

/-- An item is returned twice; the level is three in a ring of two; an item is returned for
the position of another. -/
theorem overruns_meet_reads :
    ¬ (Run.final step (start 2) readWithinOverrun).Kept ∧
      ¬ (Run.final step (start 2) overrunWithinRead).Kept ∧
      ¬ (Run.final step (start 2) slotReused).Kept := by
  refine ⟨fun kept => ?_, fun kept => ?_, fun kept => ?_⟩
  · exact absurd kept.ordered (by decide +kernel)
  · exact absurd (kept.level (by decide +kernel) (by decide +kernel)).2 (by decide +kernel)
  · exact absurd (kept.genuine 0 3#16 (by decide +kernel)) (by decide +kernel)

end RingThreads

end SmartMic.Audio
