import SmartMic.Audio.RingBuffer

set_option autoImplicit false

/-! `write` and `read` of the ring as the atomic steps they are made of: loads and stores
of the indices, and one step for each slot that is copied. Steps of different calls may
come in any order; memory is sequentially consistent.

An index is kept as the number of items it stands for. The program sees its low 64 bits,
and everything it computes from an index, it computes from these. -/

namespace SmartMic.Audio

/-- What the program sees of an index. -/
def word (index : Nat) : BitVec 64 := BitVec.ofNat 64 index

/-- The members of a `RingBuffer` as the threads share them. -/
structure RingMemory (α : Type*) where
  capacity : Nat
  data : Nat → α
  write_ : Nat
  read_ : Nat
  overruns_ : BitVec 64
  underruns_ : BitVec 64

variable {α : Type*}

namespace RingMemory

def buffer (memory : RingMemory α) : RingBuffer α :=
  { capacity := memory.capacity
    data := memory.data
    write_ := word memory.write_
    read_ := word memory.read_
    overruns_ := memory.overruns_
    underruns_ := memory.underruns_ }

def new [Zero α] (capacity : Nat) : RingMemory α :=
  { capacity := roundUpPow2 capacity
    data := fun _ => 0
    write_ := 0
    read_ := 0
    overruns_ := 0#64
    underruns_ := 0#64 }

/-- The slot of one item of a copy of `count` items, in the two pieces of `copyIn` and
`copyOut`. -/
def slot (capacity : Nat) (position : BitVec 64) (count index : Nat) : Nat :=
  let off := (position &&& BitVec.ofNat 64 (capacity - 1)).toNat
  let first := if count < capacity - off then count else capacity - off
  if index < first then off + index else index - first

end RingMemory

/-- Where a call of `write` is: its next access to the shared members, and its locals. -/
inductive Writer (α : Type*) where
  | idle
  | loadWrite (src : List α) (dropped : BitVec 64)
  | loadRead (src : List α) (dropped : BitVec 64) (w : Nat)
  | storeRead (src : List α) (dropped : BitVec 64) (w r : Nat) (overflow : BitVec 64)
  /-- `copied` slots are done; after the last one the write index is stored. -/
  | copyIn (src : List α) (dropped : BitVec 64) (w copied : Nat)
  | addOverruns (dropped : BitVec 64)
  deriving DecidableEq

namespace Writer

/-- The call, up to its first access. -/
def call (capacity : Nat) (src : List α) : Writer α :=
  if src.length = 0 then .idle
  else
    let early := src.length - capacity
    .loadWrite (src.drop early) (BitVec.ofNat 64 early)

def step (memory : RingMemory α) : Writer α → RingMemory α × Writer α
  | .idle => (memory, .idle)
  | .loadWrite src dropped => (memory, .loadRead src dropped memory.write_)
  | .loadRead src dropped w =>
      let used := word w - word memory.read_
      let count := BitVec.ofNat 64 src.length
      if BitVec.ofNat 64 memory.capacity < used + count then
        (memory, .storeRead src dropped w memory.read_
          (used + count - BitVec.ofNat 64 memory.capacity))
      else (memory, .copyIn src dropped w 0)
  | .storeRead src dropped w r overflow =>
      ({ memory with read_ := r + overflow.toNat }, .copyIn src (dropped + overflow) w 0)
  | .copyIn src dropped w copied =>
      match src[copied]? with
      | some item =>
          ({ memory with
              data := Function.update memory.data
                (RingMemory.slot memory.capacity (word w) src.length copied) item },
            .copyIn src dropped w (copied + 1))
      | none =>
          ({ memory with write_ := w + src.length },
            if dropped = 0#64 then .idle else .addOverruns dropped)
  | .addOverruns dropped =>
      ({ memory with overruns_ := memory.overruns_ + dropped }, .idle)

end Writer

/-- Where a call of `read` is. -/
inductive Reader (α : Type*) where
  | idle
  | loadRead (count : BitVec 64)
  | loadWrite (count : BitVec 64) (r : Nat)
  /-- `dst` is what is copied; after `n` items the read index is stored. -/
  | copyOut (count : BitVec 64) (r : Nat) (n : BitVec 64) (dst : List α)
  | addUnderruns (missing : BitVec 64)
  deriving DecidableEq

namespace Reader

/-- The next access of the call, and what it hands back with the items' positions when it
is done with them. -/
def step (memory : RingMemory α) : Reader α → RingMemory α × Reader α × List (Nat × α)
  | .idle => (memory, .idle, [])
  | .loadRead count => (memory, .loadWrite count memory.read_, [])
  | .loadWrite count r =>
      let avail := word memory.write_ - word r
      (memory, .copyOut count r (if avail < count then avail else count) [], [])
  | .copyOut count r n dst =>
      if dst.length < n.toNat then
        (memory, .copyOut count r n (dst ++
          [memory.data (RingMemory.slot memory.capacity (word r) n.toNat dst.length)]), [])
      else
        ({ memory with read_ := r + n.toNat },
          if n < count then .addUnderruns (count - n) else .idle,
          dst.mapIdx fun index item => (r + index, item))
  | .addUnderruns missing =>
      ({ memory with underruns_ := memory.underruns_ + missing }, .idle, [])

end Reader

/-! ### Words -/

theorem word_sub {first second : Nat} (ordered : first ≤ second) :
    (word second - word first).toNat = (second - first) % 2 ^ 64 := by
  have whole : second = first + (second - first) := by omega
  have apart : word second - word first = word (second - first) := by
    rw [whole]
    unfold word
    rw [BitVec.ofNat_add, BitVec.add_comm, BitVec.add_sub_cancel, Nat.add_sub_cancel_left]
  rw [apart]
  exact BitVec.toNat_ofNat _ _

theorem RingMemory.slot_eq {capacity bits : Nat} (power : capacity = 2 ^ bits) (most : bits ≤ 63)
    (position : Nat) {count index : Nat} (short : count ≤ capacity) (inside : index < count) :
    RingMemory.slot capacity (word position) count index = (position + index) % capacity := by
  have positive : 0 < capacity := by
    rw [power]
    exact Nat.two_pow_pos bits
  have small : capacity ≤ 2 ^ 63 := by
    rw [power]
    exact Nat.pow_le_pow_right (by decide) most
  have offset : (word position &&& BitVec.ofNat 64 (capacity - 1)).toNat =
      position % capacity := by
    unfold word
    rw [BitVec.toNat_and, BitVec.toNat_ofNat, BitVec.toNat_ofNat,
      Nat.mod_eq_of_lt (show capacity - 1 < 2 ^ 64 by omega), power,
      Nat.and_two_pow_sub_one_eq_mod]
    exact Nat.mod_mod_of_dvd position (Nat.pow_dvd_pow 2 (by omega))
  have below := Nat.mod_lt position positive
  unfold RingMemory.slot
  rw [offset]
  dsimp only
  rw [← min_def_lt]
  by_cases before : index < capacity - position % capacity
  · rw [if_pos (by omega), Circular.slot_before before]
  · rw [if_neg (by omega), Circular.slot_after positive (not_lt.mp before) (by omega)]
    omega

end SmartMic.Audio
