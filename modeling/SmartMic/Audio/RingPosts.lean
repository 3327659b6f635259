import SmartMic.Audio.RingAtomic
import SmartMic.Support.Run

set_option autoImplicit false

/-! Two control calls that post to the event ring at the same time. Each post is one write
of one event, in its own thread. The ring is made for one producer: two posts that both
load the write index before one of them stores it use the same slot. -/

namespace SmartMic.Audio

variable {α : Type*}

/-! ### Draining -/

namespace RingBuffer

/-- The loop of `drainEvents`, for a number of rounds. -/
def drainLoop (buffer : RingBuffer α) : Nat → List α × RingBuffer α
  | 0 => ([], buffer)
  | rounds + 1 =>
      let taken := buffer.read 1#64
      if taken.real = 1#64 then
        let (later, last) := taken.buffer.drainLoop rounds
        (taken.destination ++ later, last)
      else ([], taken.buffer)

/-- The events that `drainEvents` applies, in order. Each round takes one. -/
def drainEvents (buffer : RingBuffer α) : List α × RingBuffer α :=
  buffer.drainLoop (buffer.available.toNat + 1)

variable {buffer : RingBuffer α} {contents : List α}

theorem Holding.drainLoop (rounds : Nat) :
    ∀ {buffer : RingBuffer α} {contents : List α}, buffer.Holding contents →
      contents.length < rounds → (buffer.drainLoop rounds).1 = contents := by
  induction rounds with
  | zero => exact fun _holding none => absurd none (Nat.not_lt_zero _)
  | succ rounds ih =>
      intro buffer contents holding enough
      have took := holding.read 1#64
      have real := took.real
      unfold RingBuffer.drainLoop
      cases contents with
      | nil =>
          have none : (buffer.read 1#64).real ≠ 1#64 := by
            intro one
            rw [one] at real
            cases real
          dsimp only
          rw [if_neg none]
      | cons head tail =>
          have one : (buffer.read 1#64).real = 1#64 := by
            apply BitVec.eq_of_toNat_eq
            rw [real, List.length_cons]
            exact Nat.min_eq_right (by simp)
          have later := ih took.holding (by
            rw [List.length_cons] at enough
            simp only [BitVec.toNat_ofNat, List.drop_succ_cons, List.length_drop]
            omega)
          dsimp only
          rw [if_pos one, later, took.destination]
          exact List.take_append_drop 1 (head :: tail)

theorem Holding.drainEvents (holding : buffer.Holding contents) :
    buffer.drainEvents.1 = contents := by
  have level := holding.available
  exact holding.drainLoop _ (by omega)

theorem read_one (buffer : RingBuffer α) (one : (buffer.read 1#64).real = 1#64) :
    (buffer.read 1#64).destination.length = 1 ∧
      (buffer.read 1#64).buffer.available.toNat + 1 = buffer.available.toNat := by
  have some : ¬ buffer.write_ - buffer.read_ < 1#64 := by
    intro none
    simp only [RingBuffer.read, if_pos none] at one
    rw [one] at none
    exact absurd none (by decide)
  constructor
  · simp only [RingBuffer.read, if_neg some, RingBuffer.copyOut, List.length_append,
      Circular.load_length, show (1#64).toNat = 1 from rfl]
    split <;> omega
  · simp only [RingBuffer.read, if_neg some, RingBuffer.available]
    bv_omega

/-- No more than the indices promise is ever drained. -/
theorem drainLoop_length (rounds : Nat) :
    ∀ buffer : RingBuffer α, (buffer.drainLoop rounds).1.length ≤ buffer.available.toNat := by
  induction rounds with
  | zero => exact fun _buffer => Nat.zero_le _
  | succ rounds ih =>
      intro buffer
      unfold RingBuffer.drainLoop
      by_cases one : (buffer.read 1#64).real = 1#64
      · obtain ⟨length, level⟩ := buffer.read_one one
        have later := ih (buffer.read 1#64).buffer
        dsimp only
        rw [if_pos one, List.length_append, length]
        omega
      · dsimp only
        rw [if_neg one]
        exact Nat.zero_le _

end RingBuffer

/-! ### Posts -/

inductive Poster where
  | first
  | second
  deriving DecidableEq

instance : Fintype Poster where
  elems := {.first, .second}
  complete := by intro poster; cases poster <;> decide

def Poster.other : Poster → Poster
  | .first => .second
  | .second => .first

structure RingPosts where
  memory : RingMemory Event
  writers : Poster → Writer Event

namespace RingPosts

def start (memory : RingMemory Event) (events : Poster → Event) : RingPosts :=
  { memory := memory
    writers := fun poster => Writer.call memory.capacity [events poster] }

def step (posts : RingPosts) (poster : Poster) : RingPosts :=
  let (memory, writer) := (posts.writers poster).step posts.memory
  { memory := memory, writers := Function.update posts.writers poster writer }

def Returned (posts : RingPosts) : Prop := ∀ poster, posts.writers poster = .idle

instance (posts : RingPosts) : Decidable posts.Returned :=
  inferInstanceAs (Decidable (∀ _, _))

/-- `drainEvents` finds what was queued before, and then either event once. -/
def Delivered (posts : RingPosts) (queued : List Event) (events : Poster → Event) : Prop :=
  ∃ poster : Poster,
    posts.memory.buffer.drainEvents.1 = queued ++ [events poster, events poster.other]

/-- A post that is about to load the write index finds the other one not begun, or over. -/
def Apart (posts : RingPosts) (poster : Poster) : Prop :=
  match posts.writers poster with
  | .loadWrite _ _ =>
      match posts.writers poster.other with
      | .idle | .loadWrite _ _ => True
      | _ => False
  | _ => True

instance (posts : RingPosts) (poster : Poster) : Decidable (posts.Apart poster) := by
  unfold Apart
  cases posts.writers poster <;> try infer_instance
  cases posts.writers poster.other <;> infer_instance

end RingPosts

/-- `contents` are in the ring, which no call is changing. -/
structure RingMemory.Holding (memory : RingMemory α) (contents : List α) : Prop where
  power : ∃ bits ≤ 63, memory.capacity = 2 ^ bits
  level : memory.write_ = memory.read_ + contents.length
  fits : contents.length ≤ memory.capacity
  holds : Circular.Holds memory.capacity memory.data memory.read_ contents

theorem RingMemory.Holding.buffer {memory : RingMemory α} {contents : List α}
    (holding : memory.Holding contents) : memory.buffer.Holding contents where
  power := holding.power
  level := by
    change word memory.write_ = word memory.read_ + BitVec.ofNat 64 contents.length
    rw [holding.level]
    exact BitVec.ofNat_add _ _
  fits := holding.fits
  holds := by
    apply holding.holds.congr
    obtain ⟨bits, most, power⟩ := holding.power
    change memory.read_ % memory.capacity = (word memory.read_).toNat % memory.capacity
    unfold word
    rw [BitVec.toNat_ofNat, power]
    exact (Nat.mod_mod_of_dvd _ (Nat.pow_dvd_pow 2 (by omega))).symm

/-- A single event in a write that finds room. -/
inductive Writer.Mid (event : Event) (w : Nat) : Writer Event → Prop
  | loadRead : Mid event w (.loadRead [event] 0#64 w)
  | copyIn : Mid event w (.copyIn [event] 0#64 w 0)
  | storeWrite : Mid event w (.copyIn [event] 0#64 w 1)

theorem Writer.step_loadRead_of_room {memory : RingMemory Event} {event : Event} {w : Nat}
    (capacity : memory.capacity = eventCapacity) (low : memory.read_ ≤ w)
    (room : w < memory.read_ + eventCapacity) :
    (Writer.loadRead [event] 0#64 w).step memory = (memory, .copyIn [event] 0#64 w 0) := by
  have used := word_sub low
  have size : eventCapacity = 256 := rfl
  have within : ¬ BitVec.ofNat 64 memory.capacity <
      word w - word memory.read_ + BitVec.ofNat 64 [event].length := by
    rw [capacity, size, List.length_singleton]
    bv_omega
  simp only [Writer.step]
  rw [if_neg within]

theorem Writer.step_copyIn_one {memory : RingMemory Event} {event : Event} {w : Nat}
    (capacity : memory.capacity = eventCapacity) :
    (Writer.copyIn [event] 0#64 w 0).step memory =
      ({ memory with data := Function.update memory.data (w % memory.capacity) event },
        .copyIn [event] 0#64 w 1) := by
  have place := RingMemory.slot_eq (capacity.trans (show eventCapacity = 2 ^ 8 from rfl))
    (by decide) w (show 1 ≤ memory.capacity by rw [capacity]; decide) Nat.one_pos
  simp only [Writer.step, List.getElem?_cons_zero, List.length_singleton, Nat.zero_add]
  rw [place, Nat.add_zero]

namespace RingPosts

variable {posts : RingPosts} {queued : List Event} {events : Poster → Event} {done : List Poster}
  {current : Option Poster}

structure Serial (posts : RingPosts) (queued : List Event) (events : Poster → Event)
    (done : List Poster) (current : Option Poster) : Prop where
  capacity : posts.memory.capacity = eventCapacity
  holding : posts.memory.Holding (queued ++ done.map events)
  once : done.Nodup
  absent : ∀ poster, current = some poster → poster ∉ done
  finished : ∀ poster ∈ done, posts.writers poster = .idle
  waiting : ∀ poster ∉ done, current ≠ some poster →
    posts.writers poster = .loadWrite [events poster] 0#64
  under : ∀ poster, current = some poster →
    (posts.writers poster).Mid (events poster) posts.memory.write_
  copied : ∀ poster, current = some poster →
    posts.writers poster = .copyIn [events poster] 0#64 posts.memory.write_ 1 →
    Circular.Holds posts.memory.capacity posts.memory.data posts.memory.read_
      (queued ++ done.map events ++ [events poster])

/-- Both posts loaded the same write index. -/
structure Lost (posts : RingPosts) (queued : List Event) (events : Poster → Event) : Prop where
  capacity : posts.memory.capacity = eventCapacity
  some : posts.memory.read_ + queued.length ≤ posts.memory.write_
  level : posts.memory.write_ ≤ posts.memory.read_ + queued.length + 1
  under : ∀ poster, posts.writers poster = .idle ∨
    (posts.writers poster).Mid (events poster) (posts.memory.read_ + queued.length)

theorem step_memory (posts : RingPosts) (poster : Poster) :
    (posts.step poster).memory = ((posts.writers poster).step posts.memory).1 := rfl

theorem step_writer (posts : RingPosts) (poster : Poster) :
    (posts.step poster).writers poster = ((posts.writers poster).step posts.memory).2 :=
  Function.update_self _ _ _

theorem step_other (posts : RingPosts) {poster other : Poster} (different : other ≠ poster) :
    (posts.step poster).writers other = posts.writers other :=
  Function.update_of_ne different _ _

theorem step_idle {poster : Poster} (idle : posts.writers poster = .idle) :
    posts.step poster = posts := by
  unfold RingPosts.step
  rw [idle]
  simp only [Writer.step]
  rw [← idle, Function.update_eq_self]

theorem Serial.done_le (serial : posts.Serial queued events done current) {poster : Poster}
    (different : poster ∉ done) : done.length ≤ 1 := by
  have distinct : (poster :: done).Nodup :=
    List.nodup_cons.mpr ⟨different, serial.once⟩
  have two := distinct.length_le_card
  rw [List.length_cons, show Fintype.card Poster = 2 from rfl] at two
  omega

theorem Serial.remain {poster : Poster}
    (serial : posts.Serial queued events done (some poster)) {memory : RingMemory Event}
    {writer : Writer Event} (result : (posts.writers poster).step posts.memory = (memory, writer))
    (capacity : memory.capacity = eventCapacity)
    (holding : memory.Holding (queued ++ done.map events))
    (under : writer.Mid (events poster) memory.write_)
    (copied : writer = .copyIn [events poster] 0#64 memory.write_ 1 →
      Circular.Holds memory.capacity memory.data memory.read_
        (queued ++ done.map events ++ [events poster])) :
    (posts.step poster).Serial queued events done (some poster) := by
  have absent : poster ∉ done := serial.absent poster rfl
  have shared : (posts.step poster).memory = memory := by rw [posts.step_memory, result]
  have own : (posts.step poster).writers poster = writer := by rw [posts.step_writer, result]
  constructor
  · rw [shared]
    exact capacity
  · rw [shared]
    exact holding
  · exact serial.once
  · exact serial.absent
  · intro other member
    have different : other ≠ poster := fun same => absent (same ▸ member)
    rw [posts.step_other different]
    exact serial.finished other member
  · intro other unfinished different
    rw [posts.step_other (fun same => different (congrArg some same.symm))]
    exact serial.waiting other unfinished different
  · intro other same
    obtain rfl := Option.some.inj same
    rw [shared, own]
    exact under
  · intro other same
    obtain rfl := Option.some.inj same
    rw [shared, own]
    exact copied

theorem Serial.commit {poster : Poster}
    (serial : posts.Serial queued events done (some poster)) (few : queued.length < 255)
    (phase : posts.writers poster =
      .copyIn [events poster] 0#64 posts.memory.write_ 1) :
    (posts.step poster).Serial queued events (done ++ [poster]) none := by
  have absent : poster ∉ done := serial.absent poster rfl
  have atMost := serial.done_le absent
  have size : eventCapacity = 256 := rfl
  have capacity := serial.capacity
  have level := serial.holding.level
  have held := serial.copied poster rfl phase
  have shared : (posts.step poster).memory =
      { posts.memory with write_ := posts.memory.write_ + 1 } := by
    rw [posts.step_memory, phase]
    rfl
  have own : (posts.step poster).writers poster = .idle := by
    rw [posts.step_writer, phase]
    rfl
  have contents : queued ++ (done ++ [poster]).map events =
      queued ++ done.map events ++ [events poster] := by
    rw [List.map_append, List.append_assoc]
    rfl
  constructor
  · rw [shared]
    exact capacity
  · rw [shared, contents]
    constructor
    · exact serial.holding.power
    · rw [List.length_append, ← Nat.add_assoc, ← level]
      rfl
    · change _ ≤ posts.memory.capacity
      rw [capacity]
      simp only [List.length_append, List.length_map, List.length_singleton]
      omega
    · exact held
  · refine List.nodup_append.mpr ⟨serial.once, List.nodup_singleton poster, ?_⟩
    intro other member last equal same
    rw [List.mem_singleton.mp equal] at same
    exact absent (same ▸ member)
  · exact fun _other none => by cases none
  · intro other member
    by_cases same : other = poster
    · rw [same]
      exact own
    · rw [posts.step_other same]
      rcases List.mem_append.mp member with earlier | last
      · exact serial.finished other earlier
      · exact absurd (List.mem_singleton.mp last) same
  · intro other unfinished _none
    have different : other ≠ poster := fun same =>
      unfinished (List.mem_append_right done (List.mem_singleton.mpr same))
    rw [posts.step_other different]
    exact serial.waiting other (fun member => unfinished (List.mem_append_left _ member))
      (fun same => different (Option.some.inj same).symm)
  · exact fun _other none => by cases none
  · exact fun _other none => by cases none

theorem Serial.advance {poster : Poster}
    (serial : posts.Serial queued events done (some poster)) (few : queued.length < 255) :
    ∃ done current, (posts.step poster).Serial queued events done current := by
  have absent : poster ∉ done := serial.absent poster rfl
  have atMost := serial.done_le absent
  have capacity := serial.capacity
  have level := serial.holding.level
  have under := serial.under poster rfl
  have size : eventCapacity = 256 := rfl
  have length : (queued ++ done.map events).length = queued.length + done.length := by
    rw [List.length_append, List.length_map]
  generalize phase : posts.writers poster = writer at under
  cases under with
  | loadRead =>
      have result : (posts.writers poster).step posts.memory = (posts.memory,
          .copyIn [events poster] 0#64 posts.memory.write_ 0) := by
        rw [phase]
        exact Writer.step_loadRead_of_room capacity (by omega) (by omega)
      exact ⟨done, some poster, serial.remain result capacity serial.holding .copyIn
        (fun impossible => by cases impossible)⟩
  | copyIn =>
      have result : (posts.writers poster).step posts.memory =
          ({ posts.memory with
              data := Function.update posts.memory.data
                (posts.memory.write_ % posts.memory.capacity) (events poster) },
            .copyIn [events poster] 0#64 posts.memory.write_ 1) := by
        rw [phase]
        exact Writer.step_copyIn_one capacity
      have pushed := serial.holding.holds.push (events poster) (by rw [capacity]; omega)
      rw [← level] at pushed
      refine ⟨done, some poster, serial.remain result capacity ?_ .storeWrite fun _ => pushed⟩
      exact
        { power := serial.holding.power
          level := level
          fits := serial.holding.fits
          holds := pushed.of_append }
  | storeWrite => exact ⟨done ++ [poster], none, serial.commit few phase⟩

theorem Serial.begin {poster : Poster} (serial : posts.Serial queued events done none)
    (different : poster ∉ done) :
    (posts.step poster).Serial queued events done (some poster) := by
  have phase := serial.waiting poster different (fun impossible => by cases impossible)
  have shared : (posts.step poster).memory = posts.memory := by
    rw [posts.step_memory, phase]
    rfl
  have own : (posts.step poster).writers poster =
      .loadRead [events poster] 0#64 posts.memory.write_ := by
    rw [posts.step_writer, phase]
    rfl
  constructor
  · rw [shared]
    exact serial.capacity
  · rw [shared]
    exact serial.holding
  · exact serial.once
  · intro other same
    obtain rfl := Option.some.inj same
    exact different
  · intro other member
    have apart : other ≠ poster := fun same => different (same ▸ member)
    rw [posts.step_other apart]
    exact serial.finished other member
  · intro other unfinished apart
    rw [posts.step_other (fun same => apart (congrArg some same.symm))]
    exact serial.waiting other unfinished (fun impossible => by cases impossible)
  · intro other same
    obtain rfl := Option.some.inj same
    rw [shared, own]
    exact .loadRead
  · intro other same
    obtain rfl := Option.some.inj same
    rw [own]
    exact fun impossible => by cases impossible

theorem Poster.eq_other {poster other : Poster} (different : poster ≠ other) :
    other = poster.other := by
  cases poster <;> cases other <;> first | rfl | exact absurd rfl different

/-- A post that begins while the other is under way loads the index that one loaded. -/
theorem Serial.overtake {poster other : Poster}
    (serial : posts.Serial queued events done (some other)) (different : poster ≠ other)
    (unfinished : poster ∉ done) : (posts.step poster).Lost queued events := by
  have none : done = [] := by
    apply List.eq_nil_iff_forall_not_mem.mpr
    intro finished member
    by_cases same : finished = poster
    · exact unfinished (same ▸ member)
    · have left := Poster.eq_other (Ne.symm same)
      rw [Poster.eq_other different, ← left] at serial
      exact serial.absent finished rfl member
  subst none
  have level := serial.holding.level
  rw [List.map_nil, List.append_nil] at level
  have phase := serial.waiting poster unfinished (fun same => different (Option.some.inj same).symm)
  have shared : (posts.step poster).memory = posts.memory := by
    rw [posts.step_memory, phase]
    rfl
  constructor
  · rw [shared]
    exact serial.capacity
  · rw [shared, level]
  · rw [shared, level]
    exact Nat.le_succ _
  · intro either
    right
    rw [shared, ← level]
    by_cases same : either = poster
    · rw [same, posts.step_writer, phase]
      exact .loadRead
    · have left := (Poster.eq_other (Ne.symm same)).trans (Poster.eq_other different).symm
      rw [left, posts.step_other (Ne.symm different)]
      exact serial.under other rfl

theorem Lost.remain (lost : posts.Lost queued events) {poster : Poster}
    {memory : RingMemory Event} {writer : Writer Event}
    (result : (posts.writers poster).step posts.memory = (memory, writer))
    (capacity : memory.capacity = posts.memory.capacity)
    (reader : memory.read_ = posts.memory.read_)
    (some : memory.read_ + queued.length ≤ memory.write_)
    (level : memory.write_ ≤ memory.read_ + queued.length + 1)
    (under : writer = .idle ∨
      writer.Mid (events poster) (posts.memory.read_ + queued.length)) :
    (posts.step poster).Lost queued events := by
  have shared : (posts.step poster).memory = memory := by rw [posts.step_memory, result]
  have own : (posts.step poster).writers poster = writer := by rw [posts.step_writer, result]
  constructor
  · rw [shared, capacity]
    exact lost.capacity
  · rw [shared]
    exact some
  · rw [shared]
    exact level
  · intro other
    rw [shared, reader]
    by_cases same : other = poster
    · rw [same, own]
      exact under
    · rw [posts.step_other same]
      exact lost.under other

/-- Whatever the two posts still do, the write index counts one event. -/
theorem Lost.step (lost : posts.Lost queued events) (few : queued.length < 255)
    (poster : Poster) : (posts.step poster).Lost queued events := by
  have size : eventCapacity = 256 := rfl
  have capacity := lost.capacity
  have some := lost.some
  have level := lost.level
  rcases lost.under poster with idle | under
  · rw [posts.step_idle idle]
    exact lost
  · generalize phase : posts.writers poster = writer at under
    cases under with
    | loadRead =>
        have result : (posts.writers poster).step posts.memory = (posts.memory,
            .copyIn [events poster] 0#64 (posts.memory.read_ + queued.length) 0) := by
          rw [phase]
          exact Writer.step_loadRead_of_room capacity (Nat.le_add_right _ _) (by omega)
        exact lost.remain result rfl rfl some level (Or.inr .copyIn)
    | copyIn =>
        have result := congrArg (fun writer => writer.step posts.memory) phase
        rw [Writer.step_copyIn_one capacity] at result
        exact lost.remain result rfl rfl some level (Or.inr .storeWrite)
    | storeWrite =>
        have result : (posts.writers poster).step posts.memory =
            ({ posts.memory with write_ := posts.memory.read_ + queued.length + 1 }, .idle) := by
          rw [phase]
          rfl
        exact lost.remain result rfl rfl (Nat.le_succ _) (Nat.le_refl _) (Or.inl rfl)

theorem Lost.not_delivered (lost : posts.Lost queued events) (few : queued.length < 255) :
    ¬ posts.Delivered queued events := by
  rintro ⟨poster, both⟩
  have size : eventCapacity = 256 := rfl
  have some := lost.some
  have level := lost.level
  have atMost := posts.memory.buffer.drainLoop_length
    (posts.memory.buffer.available.toNat + 1)
  have available : posts.memory.buffer.available.toNat ≤ queued.length + 1 := by
    change (word posts.memory.write_ - word posts.memory.read_).toNat ≤ _
    rw [word_sub (by omega), Nat.mod_eq_of_lt (by omega)]
    omega
  have length := congrArg List.length both
  rw [List.length_append, List.length_cons, List.length_singleton] at length
  unfold RingBuffer.drainEvents at length
  omega

theorem Serial.step (serial : posts.Serial queued events done current)
    (few : queued.length < 255) (poster : Poster) :
    (posts.Apart poster ∧
        ∃ done current, (posts.step poster).Serial queued events done current) ∨
      (¬ posts.Apart poster ∧ (posts.step poster).Lost queued events) := by
  unfold Apart
  by_cases finished : poster ∈ done
  · have idle := serial.finished poster finished
    rw [posts.step_idle idle, idle]
    exact Or.inl ⟨trivial, done, current, serial⟩
  · cases current with
    | none =>
        have phase := serial.waiting poster finished (fun impossible => by cases impossible)
        have outside : posts.writers poster.other = .idle ∨
            posts.writers poster.other = .loadWrite [events poster.other] 0#64 := by
          by_cases ended : poster.other ∈ done
          · exact Or.inl (serial.finished _ ended)
          · exact Or.inr (serial.waiting _ ended (fun impossible => by cases impossible))
        refine Or.inl ⟨?_, done, some poster, serial.begin finished⟩
        rw [phase]
        rcases outside with idle | waits
        · rw [idle]
          trivial
        · rw [waits]
          trivial
    | some other =>
        by_cases same : other = poster
        · subst same
          have under := serial.under other rfl
          refine Or.inl ⟨?_, serial.advance few⟩
          generalize posts.writers other = writer at under
          cases under <;> trivial
        · have phase := serial.waiting poster finished (fun equal => same (Option.some.inj equal))
          have under := serial.under other rfl
          have partner := Poster.eq_other (Ne.symm same)
          refine Or.inr ⟨?_, serial.overtake (Ne.symm same) finished⟩
          rw [phase, ← partner]
          generalize posts.writers other = writer at under
          cases under <;> exact id

theorem Serial.delivered (serial : posts.Serial queued events done current)
    (returned : posts.Returned) : posts.Delivered queued events := by
  have all : ∀ poster, poster ∈ done := by
    intro poster
    by_contra unfinished
    have idle := returned poster
    by_cases under : current = some poster
    · have mid := serial.under poster under
      rw [idle] at mid
      cases mid
    · rw [serial.waiting poster unfinished under] at idle
      cases idle
  have drained := serial.holding.buffer.drainEvents
  have both := serial.once.length_le_card
  rw [show Fintype.card Poster = 2 from rfl] at both
  match done, both, serial.once, all, drained with
  | [], _, _, all, _ => exact absurd (all .first) List.not_mem_nil
  | [poster], _, _, all, _ =>
      have alone := List.mem_singleton.mp (all poster.other)
      exact absurd alone (by cases poster <;> decide)
  | [poster, other], _, once, _, drained =>
      have different : poster ≠ other := fun same => by
        rw [same] at once
        exact absurd (List.mem_singleton.mpr rfl) (List.nodup_cons.mp once).1
      obtain rfl := Poster.eq_other different
      exact ⟨poster, drained⟩
  | _ :: _ :: _ :: _, both, _, _, _ => exact absurd both (by simp)

/-! ### Schedules -/

/-- No event is queued twice or lost exactly if one post loads the write index after the
other has stored it. -/
theorem Serial.delivered_iff_apart (schedule : List Poster) (few : queued.length < 255) :
    ∀ {posts : RingPosts} {done : List Poster} {current : Option Poster},
      posts.Serial queued events done current →
      (Run.final RingPosts.step posts schedule).Returned →
      ((Run.final RingPosts.step posts schedule).Delivered queued events ↔
        Run.Meets RingPosts.step Apart posts schedule) := by
  induction schedule with
  | nil =>
      intro posts done current serial returned
      exact ⟨fun _ => trivial, fun _ => serial.delivered returned⟩
  | cons poster rest ih =>
      intro posts done current serial returned
      rcases serial.step few poster with ⟨apart, done, current, next⟩ | ⟨together, lost⟩
      · rw [Run.final_cons, Run.meets_cons, and_iff_right apart]
        exact ih next returned
      · have final : (Run.final RingPosts.step (posts.step poster) rest).Lost queued events :=
          Run.invariant_always (fun posts => Lost posts queued events)
            (fun _posts poster lost => lost.step few poster) _ rest lost
        exact ⟨fun delivered => absurd delivered (final.not_delivered few),
          fun meets => absurd meets.1 together⟩

theorem start_serial {memory : RingMemory Event} (capacity : memory.capacity = eventCapacity)
    (holding : memory.Holding queued) (events : Poster → Event) :
    (start memory events).Serial queued events [] none := by
  have call : ∀ poster, Writer.call memory.capacity [events poster] =
      .loadWrite [events poster] 0#64 := by
    intro poster
    have whole : [events poster].length - memory.capacity = 0 := by
      rw [capacity, List.length_singleton]
      decide
    unfold Writer.call
    rw [if_neg (by simp)]
    dsimp only
    rw [whole]
    rfl
  exact
    { capacity := capacity
      holding := by
        rw [List.map_nil, List.append_nil]
        exact holding
      once := List.nodup_nil
      absent := fun _poster none => by cases none
      finished := fun _poster member => absurd member List.not_mem_nil
      waiting := fun poster _unfinished _none => call poster
      under := fun _poster none => by cases none
      copied := fun _poster none => by cases none }

/-- Over every interleaving of two posts to a ring with fewer than 255 events. -/
theorem posts_delivered_iff_apart {memory : RingMemory Event} {queued : List Event}
    (capacity : memory.capacity = eventCapacity) (holding : memory.Holding queued)
    (few : queued.length < 255) (events : Poster → Event) (schedule : List Poster)
    (returned : (Run.final step (start memory events) schedule).Returned) :
    (Run.final step (start memory events) schedule).Delivered queued events ↔
      Run.Meets step Apart (start memory events) schedule :=
  Serial.delivered_iff_apart schedule few (start_serial capacity holding events) returned

def freshEvents : RingMemory Event :=
  { capacity := eventCapacity
    data := fun _ => .startPtt
    write_ := 0
    read_ := 0
    overruns_ := 0#64
    underruns_ := 0#64 }

theorem freshEvents_holding : freshEvents.Holding [] :=
  { power := ⟨8, by decide, rfl⟩
    level := rfl
    fits := Nat.zero_le _
    holds := Circular.holds_nil _ _ _ }

/-- The receive thread stops the transmission, the audio thread says that the phone is
ready. -/
def stopAndReady : Poster → Event
  | .first => .stopPtt
  | .second => .phoneReady

theorem posts_delivered_one_by_one :
    (Run.final step (start freshEvents stopAndReady)
      [.first, .first, .first, .first, .second, .second, .second, .second]).Delivered []
        stopAndReady :=
  (posts_delivered_iff_apart rfl freshEvents_holding (by decide) stopAndReady _
    (by decide +kernel)).mpr (by decide +kernel)

/-- Access by access in turn, the stop is never seen. -/
theorem posts_not_delivered_in_turn :
    (Run.final step (start freshEvents stopAndReady)
      [.first, .second, .first, .second, .first, .second, .first, .second]).Returned ∧
    ¬ (Run.final step (start freshEvents stopAndReady)
      [.first, .second, .first, .second, .first, .second, .first, .second]).Delivered []
        stopAndReady := by
  refine ⟨by decide +kernel, ?_⟩
  rintro ⟨poster, both⟩
  revert both
  cases poster <;> decide +kernel

end RingPosts

end SmartMic.Audio
