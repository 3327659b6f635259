import SmartMic.Audio.RingAtomic

set_option autoImplicit false

/-! The atomic steps of one call with no step of another call between them. They come to what
`RingBuffer.write` and `RingBuffer.read` do at once. -/

namespace SmartMic.Audio

variable {α : Type*}

theorem word_add (index count : Nat) : word (index + count) = word index + BitVec.ofNat 64 count :=
  BitVec.ofNat_add index count

theorem word_add_toNat (index : Nat) (count : BitVec 64) :
    word (index + count.toNat) = word index + count := by
  rw [word_add, BitVec.ofNat_toNat, BitVec.setWidth_eq]

/-! ### `write` -/

def Writer.copied (capacity : Nat) (position : BitVec 64) (src : List α) (data : Nat → α) :
    Nat → Nat → α
  | 0 => data
  | count + 1 =>
      match src[count]? with
      | some item =>
          Function.update (Writer.copied capacity position src data count)
            (RingMemory.slot capacity position src.length count) item
      | none => Writer.copied capacity position src data count

/-- What a partial copy has in one place: the second piece lies over the first. -/
theorem Writer.copied_apply (capacity : Nat) (position : BitVec 64) (src : List α)
    (data : Nat → α) {count : Nat} (inside : count ≤ src.length) (place : Nat) :
    let off := (position &&& BitVec.ofNat 64 (capacity - 1)).toNat
    let first := if src.length < capacity - off then src.length else capacity - off
    Writer.copied capacity position src data count place =
      if first + place < count then src[first + place]?.getD (data place)
      else if off ≤ place ∧ place - off < min count first then src[place - off]?.getD (data place)
      else data place := by
  intro off first
  induction count with
  | zero =>
      rw [if_neg (Nat.not_lt_zero _), if_neg (by omega)]
      rfl
  | succ count ih =>
      have item : src[count]? = some src[count] := List.getElem?_eq_getElem (by omega)
      have slot : RingMemory.slot capacity position src.length count =
          if count < first then off + count else count - first := rfl
      have step : Writer.copied capacity position src data (count + 1) =
          Function.update (Writer.copied capacity position src data count)
            (RingMemory.slot capacity position src.length count) src[count] := by
        rw [Writer.copied, item]
      rw [step, slot]
      by_cases before : count < first
      · rw [if_pos before]
        by_cases here : place = off + count
        · rw [here, Function.update_self, if_neg (by omega), if_pos (by omega),
            Nat.add_sub_cancel_left, item]
          rfl
        · rw [Function.update_of_ne here, ih (by omega)]
          congr 1
          · simp only [eq_iff_iff]
            omega
          · congr 1
            simp only [eq_iff_iff]
            omega
      · rw [if_neg before]
        by_cases here : place = count - first
        · have whole : first + (count - first) = count := by omega
          rw [here, Function.update_self, if_pos (by omega), whole, item]
          rfl
        · rw [Function.update_of_ne here, ih (by omega)]
          congr 1
          · simp only [eq_iff_iff]
            omega
          · congr 1
            simp only [eq_iff_iff]
            omega

theorem pieces_apply (data : Nat → α) (src : List α) (off first place : Nat)
    (short : first ≤ src.length) :
    Circular.store (Circular.store data off (src.take first)) 0 (src.drop first) place =
      if first + place < src.length then src[first + place]?.getD (data place)
      else if off ≤ place ∧ place - off < min src.length first then
        src[place - off]?.getD (data place)
      else data place := by
  unfold Circular.store
  rw [if_pos (Nat.zero_le _), Nat.sub_zero, List.getElem?_drop]
  by_cases second : first + place < src.length
  · rw [if_pos second, List.getElem?_eq_getElem second]
    rfl
  · rw [if_neg second, List.getElem?_eq_none (not_lt.mp second), Option.getD_none,
      Nat.min_eq_right short, List.getElem?_take]
    by_cases reached : off ≤ place
    · by_cases within : place - off < first
      · rw [if_pos reached, if_pos within, if_pos ⟨reached, within⟩]
      · rw [if_pos reached, if_neg within, if_neg fun both => within both.2]
        rfl
    · rw [if_neg reached, if_neg fun both => reached both.1]

theorem Writer.copied_all (memory : RingMemory α) (position : BitVec 64) (src : List α) :
    Writer.copied memory.capacity position src memory.data src.length =
      memory.buffer.copyIn position src := by
  funext place
  rw [Writer.copied_apply memory.capacity position src memory.data (Nat.le_refl _)]
  refine (pieces_apply memory.data src _ _ place ?_).symm
  split <;> omega

/-! #### The steps of a call -/

def Writer.alone (state : RingMemory α × Writer α) : RingMemory α × Writer α :=
  Writer.step state.1 state.2

theorem Writer.copies (memory : RingMemory α) (src : List α) (dropped : BitVec 64) (w : Nat)
    {count : Nat} (inside : count ≤ src.length) :
    Writer.alone^[count] (memory, .copyIn src dropped w 0) =
      ({ memory with data := Writer.copied memory.capacity (word w) src memory.data count },
        .copyIn src dropped w count) := by
  induction count with
  | zero => rfl
  | succ count ih =>
      have item : src[count]? = some src[count] := List.getElem?_eq_getElem (by omega)
      rw [Function.iterate_succ_apply', ih (by omega)]
      unfold Writer.alone Writer.step
      dsimp only
      rw [item]
      dsimp only
      rw [Writer.copied, item]

theorem Writer.alone_last (memory : RingMemory α) (src : List α) (dropped : BitVec 64) (w : Nat) :
    Writer.alone (memory, .copyIn src dropped w src.length) =
      ({ memory with write_ := w + src.length },
        if dropped = 0#64 then .idle else .addOverruns dropped) := by
  have last : src[src.length]? = none := List.getElem?_eq_none (Nat.le_refl _)
  unfold Writer.alone Writer.step
  dsimp only
  rw [last]

theorem Writer.finishes (memory : RingMemory α) (src : List α) (dropped : BitVec 64) (w : Nat) :
    ∃ count, Writer.alone^[count] (memory, .copyIn src dropped w 0) =
      ({ memory with
          data := memory.buffer.copyIn (word w) src
          write_ := w + src.length
          overruns_ := memory.overruns_ + dropped }, .idle) := by
  have copies := Writer.copies memory src dropped w (Nat.le_refl _)
  rw [Writer.copied_all] at copies
  by_cases none_ : dropped = 0#64
  · refine ⟨src.length + 1, ?_⟩
    rw [Function.iterate_succ_apply', copies, Writer.alone_last, if_pos none_, none_,
      BitVec.add_zero]
  · refine ⟨src.length + 1 + 1, ?_⟩
    rw [Function.iterate_succ_apply', Function.iterate_succ_apply', copies, Writer.alone_last,
      if_neg none_]
    rfl

/-- A write with nothing in between leaves the ring that `RingBuffer.write` leaves. -/
theorem Writer.alone_eq_write (memory : RingMemory α) (src : List α) :
    ∃ count after, Writer.alone^[count] (memory, Writer.call memory.capacity src) = (after, .idle) ∧
      after.buffer = (memory.buffer.write src).1 := by
  by_cases empty : src.length = 0
  · unfold Writer.call RingBuffer.write
    rw [if_pos empty, if_pos empty]
    exact ⟨0, memory, rfl, rfl⟩
  · obtain ⟨kept, keptIs⟩ : ∃ kept, src.drop (src.length - memory.capacity) = kept := ⟨_, rfl⟩
    obtain ⟨early, earlyIs⟩ : ∃ early, BitVec.ofNat 64 (src.length - memory.capacity) = early :=
      ⟨_, rfl⟩
    have called : Writer.call memory.capacity src = .loadWrite kept early := by
      unfold Writer.call
      rw [if_neg empty, ← keptIs, ← earlyIs]
    have written : ∀ overflow, (if BitVec.ofNat 64 memory.capacity <
          word memory.write_ - word memory.read_ + BitVec.ofNat 64 kept.length then
          word memory.write_ - word memory.read_ + BitVec.ofNat 64 kept.length -
            BitVec.ofNat 64 memory.capacity
        else 0#64) = overflow →
        (memory.buffer.write src).1 =
          { memory.buffer with
            data := memory.buffer.copyIn (word memory.write_) kept
            read_ := word memory.read_ + overflow
            write_ := word memory.write_ + BitVec.ofNat 64 kept.length
            overruns_ := memory.overruns_ + (early + overflow) } := by
      intro overflow overflowIs
      unfold RingBuffer.write
      rw [if_neg empty, ← overflowIs, ← keptIs, ← earlyIs]
      rfl
    have loaded : Writer.alone (Writer.alone (memory, .loadWrite kept early)) =
        if BitVec.ofNat 64 memory.capacity <
            word memory.write_ - word memory.read_ + BitVec.ofNat 64 kept.length then
          (memory, .storeRead kept early memory.write_ memory.read_
            (word memory.write_ - word memory.read_ + BitVec.ofNat 64 kept.length -
              BitVec.ofNat 64 memory.capacity))
        else (memory, .copyIn kept early memory.write_ 0) := rfl
    rw [called]
    by_cases above : BitVec.ofNat 64 memory.capacity <
        word memory.write_ - word memory.read_ + BitVec.ofNat 64 kept.length
    · rw [if_pos above] at loaded
      rw [written _ (if_pos above)]
      generalize word memory.write_ - word memory.read_ +
        BitVec.ofNat 64 kept.length - BitVec.ofNat 64 memory.capacity = overflow at loaded ⊢
      obtain ⟨count, done⟩ := Writer.finishes
        { memory with read_ := memory.read_ + overflow.toNat } kept (early + overflow)
        memory.write_
      have stored : Writer.alone
          (memory, .storeRead kept early memory.write_ memory.read_ overflow) =
          ({ memory with read_ := memory.read_ + overflow.toNat },
            .copyIn kept (early + overflow) memory.write_ 0) := rfl
      rw [← stored, ← loaded, ← Function.iterate_succ_apply, ← Function.iterate_succ_apply,
        ← Function.iterate_succ_apply] at done
      refine ⟨_, _, done, ?_⟩
      unfold RingMemory.buffer
      dsimp only
      rw [word_add_toNat, word_add]
      rfl
    · rw [if_neg above] at loaded
      rw [written _ (if_neg above)]
      obtain ⟨count, done⟩ := Writer.finishes memory kept early memory.write_
      rw [← loaded, ← Function.iterate_succ_apply, ← Function.iterate_succ_apply] at done
      refine ⟨_, _, done, ?_⟩
      unfold RingMemory.buffer
      dsimp only
      rw [word_add, BitVec.add_zero, BitVec.add_zero]

/-! ### `read` -/

/-- One step, with nothing in between; what is handed back is collected. -/
def Reader.alone (state : RingMemory α × Reader α × List (Nat × α)) :
    RingMemory α × Reader α × List (Nat × α) :=
  let stepped := Reader.step state.1 state.2.1
  (stepped.1, stepped.2.1, state.2.2 ++ stepped.2.2)

theorem Reader.copies (memory : RingMemory α) (asked : BitVec 64) (r : Nat) (n : BitVec 64)
    {count : Nat} (inside : count ≤ n.toNat) :
    Reader.alone^[count] (memory, .copyOut asked r n [], []) =
      (memory, .copyOut asked r n ((List.range count).map fun index =>
        memory.data (RingMemory.slot memory.capacity (word r) n.toNat index)), []) := by
  induction count with
  | zero => rfl
  | succ count ih =>
      rw [Function.iterate_succ_apply', ih (by omega)]
      unfold Reader.alone Reader.step
      dsimp only
      rw [List.length_map, List.length_range, if_pos (by omega), List.range_succ, List.map_append]
      rfl

theorem Reader.copied_all (memory : RingMemory α) (position : BitVec 64) (count : Nat) :
    ((List.range count).map fun index =>
      memory.data (RingMemory.slot memory.capacity position count index)) =
      memory.buffer.copyOut position count := by
  obtain ⟨off, offIs⟩ : ∃ off, (position &&& BitVec.ofNat 64 (memory.capacity - 1)).toNat = off :=
    ⟨_, rfl⟩
  obtain ⟨first, firstIs⟩ : ∃ first,
      (if count < memory.capacity - off then count else memory.capacity - off) = first := ⟨_, rfl⟩
  have pieces : memory.buffer.copyOut position count =
      Circular.load memory.data off first ++ Circular.load memory.data 0 (count - first) := by
    rw [← firstIs, ← offIs]
    rfl
  have slot : ∀ index, RingMemory.slot memory.capacity position count index =
      if index < first then off + index else index - first := by
    intro index
    rw [← firstIs, ← offIs]
    rfl
  have short : first ≤ count := by
    rw [← firstIs]
    split <;> omega
  rw [pieces]
  apply List.ext_getElem
  · rw [List.length_append, Circular.load_length, Circular.load_length, List.length_map,
      List.length_range]
    omega
  · intro index inside _inside'
    rw [List.getElem_map, List.getElem_range, slot, List.getElem_append]
    by_cases before : index < first
    · rw [if_pos before, dif_pos (by rw [Circular.load_length]; exact before),
        Circular.load_getElem]
    · rw [if_neg before, dif_neg (by rw [Circular.load_length]; exact before),
        Circular.load_getElem, Circular.load_length, Nat.zero_add]

/-- A read with nothing in between leaves the ring that `RingBuffer.read` leaves, and hands
back what it copies. -/
theorem Reader.alone_eq_read (memory : RingMemory α) (asked : BitVec 64) :
    ∃ count after got, Reader.alone^[count] (memory, .loadRead asked, []) = (after, .idle, got) ∧
      after.buffer = (memory.buffer.read asked).buffer ∧
      got.map Prod.snd = (memory.buffer.read asked).destination := by
  obtain ⟨n, nIs⟩ : ∃ n, (if word memory.write_ - word memory.read_ < asked then
      word memory.write_ - word memory.read_ else asked) = n := ⟨_, rfl⟩
  have loaded : Reader.alone (Reader.alone (memory, .loadRead asked, [])) =
      (memory, .copyOut asked memory.read_ n [], []) := by
    rw [← nIs]
    rfl
  have copies := Reader.copies memory asked memory.read_ n (Nat.le_refl _)
  rw [Reader.copied_all] at copies
  obtain ⟨dst, dstIs⟩ : ∃ dst, memory.buffer.copyOut (word memory.read_) n.toNat = dst := ⟨_, rfl⟩
  rw [dstIs] at copies
  have whole : ¬ dst.length < n.toNat := by
    rw [← dstIs, ← Reader.copied_all, List.length_map, List.length_range]
    exact Nat.lt_irrefl _
  have last : Reader.alone (memory, .copyOut asked memory.read_ n dst, []) =
      ({ memory with read_ := memory.read_ + n.toNat },
        if n < asked then .addUnderruns (asked - n) else .idle,
        dst.mapIdx fun index item => (memory.read_ + index, item)) := by
    unfold Reader.alone Reader.step
    dsimp only
    rw [if_neg whole]
    rfl
  have handed : (dst.mapIdx fun index item => (memory.read_ + index, item)).map Prod.snd = dst := by
    apply List.ext_getElem
    · rw [List.length_map, List.length_mapIdx]
    · intro index inside inside'
      rw [List.getElem_map, List.getElem_mapIdx]
  have taken : (memory.buffer.read asked).destination = dst := by
    rw [← dstIs, ← nIs]
    rfl
  have buffer : (memory.buffer.read asked).buffer =
      { memory.buffer with
        read_ := word memory.read_ + n
        underruns_ :=
          if n < asked then memory.underruns_ + (asked - n) else memory.underruns_ } := by
    rw [← nIs]
    rfl
  rw [taken, buffer]
  rw [← loaded, ← Function.iterate_succ_apply, ← Function.iterate_succ_apply] at copies
  by_cases short : n < asked
  · refine ⟨n.toNat.succ.succ + 1 + 1, { memory with
      read_ := memory.read_ + n.toNat
      underruns_ := memory.underruns_ + (asked - n) }, _, ?_, ?_, handed⟩
    · rw [Function.iterate_succ_apply', Function.iterate_succ_apply', copies, last, if_pos short]
      change (_, _, _ ++ []) = _
      rw [List.append_nil]
      rfl
    · unfold RingMemory.buffer
      dsimp only
      rw [word_add_toNat, if_pos short]
  · refine ⟨n.toNat.succ.succ + 1, { memory with read_ := memory.read_ + n.toNat }, _, ?_, ?_,
      handed⟩
    · rw [Function.iterate_succ_apply', copies, last, if_neg short]
    · unfold RingMemory.buffer
      dsimp only
      rw [word_add_toNat, if_neg short]

/-! ### Calls that do not overlap -/

/-- The accesses of a write lead from the one ring to the other where none of the reader falls
between them. -/
def RingBuffer.WritesAlone (before : RingBuffer α) (items : List α) (after : RingBuffer α) :
    Prop :=
  ∀ memory : RingMemory α, memory.buffer = before → ∃ count last,
    Writer.alone^[count] (memory, Writer.call memory.capacity items) = (last, .idle) ∧
      last.buffer = after

/-- The same for a read, with what it copies. -/
def RingBuffer.ReadsAlone (before : RingBuffer α) (asked : BitVec 64) (copied : List α)
    (after : RingBuffer α) : Prop :=
  ∀ memory : RingMemory α, memory.buffer = before → ∃ count last got,
    Reader.alone^[count] (memory, .loadRead asked, []) = (last, .idle, got) ∧
      last.buffer = after ∧ got.map Prod.snd = copied

theorem RingBuffer.write_alone (buffer : RingBuffer α) (items : List α) :
    buffer.WritesAlone items (buffer.write items).1 := by
  rintro memory rfl
  exact Writer.alone_eq_write memory items

theorem RingBuffer.readOrSilence_alone [Zero α] (buffer : RingBuffer α) (asked : BitVec 64) :
    buffer.ReadsAlone asked (buffer.read asked).destination
      (buffer.readOrSilence asked).buffer := by
  rintro memory rfl
  obtain ⟨count, last, got, alone, kept, copied⟩ := Reader.alone_eq_read memory asked
  refine ⟨count, last, got, alone, kept.trans ?_, copied⟩
  unfold RingBuffer.readOrSilence
  dsimp only
  split
  · rfl
  · rfl

end SmartMic.Audio
