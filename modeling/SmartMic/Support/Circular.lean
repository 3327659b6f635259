import Mathlib.Tactic

set_option autoImplicit false

/-! Memory that is used as a ring. A list is laid over it from a counter on, modulo a
capacity, in at most two pieces; a list is read from it in the same way.

Counters grow without bound here. What a wrap of a machine word does to them is a
matter of the program that keeps them. -/

namespace SmartMic.Circular

variable {α : Type*}

/-- `source` copied over the memory from `offset` on. -/
def store (memory : Nat → α) (offset : Nat) (source : List α) : Nat → α :=
  fun position =>
    if offset ≤ position then source[position - offset]?.getD (memory position)
    else memory position

def load (memory : Nat → α) (offset count : Nat) : List α :=
  (List.range count).map fun position => memory (offset + position)

/-- How many of `count` cells lie before the wrap. -/
def firstPiece (capacity start count : Nat) : Nat := min count (capacity - start % capacity)

def wrapStore (capacity : Nat) (memory : Nat → α) (start : Nat) (source : List α) : Nat → α :=
  let first := firstPiece capacity start source.length
  store (store memory (start % capacity) (source.take first)) 0 (source.drop first)

def wrapLoad (capacity : Nat) (memory : Nat → α) (start count : Nat) : List α :=
  let first := firstPiece capacity start count
  load memory (start % capacity) first ++ load memory 0 (count - first)

/-- The memory holds the list from the counter on. -/
def Holds (capacity : Nat) (memory : Nat → α) (start : Nat) (contents : List α) : Prop :=
  ∀ index, (inside : index < contents.length) →
    memory ((start + index) % capacity) = contents[index]

/-! ### One piece -/

theorem store_inside (memory : Nat → α) (offset : Nat) (source : List α) {index : Nat}
    (inside : index < source.length) :
    store memory offset source (offset + index) = source[index] := by
  unfold store
  rw [if_pos (Nat.le_add_right offset index), Nat.add_sub_cancel_left,
    List.getElem?_eq_getElem inside]
  rfl

theorem store_outside (memory : Nat → α) (offset : Nat) (source : List α) {position : Nat}
    (outside : position < offset ∨ offset + source.length ≤ position) :
    store memory offset source position = memory position := by
  unfold store
  split
  · rename_i reached
    rw [List.getElem?_eq_none (by omega)]
    rfl
  · rfl

@[simp]
theorem load_length (memory : Nat → α) (offset count : Nat) :
    (load memory offset count).length = count := by
  simp [load]

@[simp]
theorem load_getElem (memory : Nat → α) (offset count : Nat) {index : Nat}
    (inside : index < (load memory offset count).length) :
    (load memory offset count)[index] = memory (offset + index) := by
  simp [load]

/-! ### Slots -/

section

variable {capacity : Nat}

theorem slot_before {start index : Nat} (before : index < capacity - start % capacity) :
    (start + index) % capacity = start % capacity + index := by
  have small : index < capacity := by omega
  rw [Nat.add_mod, Nat.mod_eq_of_lt small, Nat.mod_eq_of_lt (by omega)]

theorem slot_after (positive : 0 < capacity) {start index : Nat}
    (after : capacity - start % capacity ≤ index) (once : index < capacity) :
    (start + index) % capacity = index - (capacity - start % capacity) := by
  have inside := Nat.mod_lt start positive
  rw [Nat.add_mod, Nat.mod_eq_of_lt once, Nat.mod_eq_sub_mod (by omega),
    Nat.mod_eq_of_lt (by omega)]
  omega

theorem slot_injective {first second : Nat} (ordered : first ≤ second)
    (near : second < first + capacity) (same : first % capacity = second % capacity) :
    first = second := by
  have multiple : (second - first) % capacity = 0 :=
    Nat.sub_mod_eq_zero_of_mod_eq same.symm
  rw [Nat.mod_eq_of_lt (by omega)] at multiple
  omega

/-! ### Both pieces -/

theorem wrapStore_second (memory : Nat → α) (start : Nat) {source : List α} {position : Nat}
    (inside : firstPiece capacity start source.length + position < source.length) :
    wrapStore capacity memory start source position =
      source[firstPiece capacity start source.length + position] := by
  have held : position < (source.drop (firstPiece capacity start source.length)).length := by
    rw [List.length_drop]
    omega
  have stored := store_inside (store memory (start % capacity)
    (source.take (firstPiece capacity start source.length))) 0 _ held
  rw [Nat.zero_add, List.getElem_drop] at stored
  exact stored

@[simp]
theorem wrapStore_nil (memory : Nat → α) (start : Nat) :
    wrapStore capacity memory start [] = memory := by
  funext position
  unfold wrapStore store
  simp

theorem wrapStore_inside (positive : 0 < capacity) (memory : Nat → α) (start : Nat)
    {source : List α} (short : source.length ≤ capacity) {index : Nat}
    (inside : index < source.length) :
    wrapStore capacity memory start source ((start + index) % capacity) = source[index] := by
  have offset := Nat.mod_lt start positive
  by_cases before : index < capacity - start % capacity
  · have held : index < (source.take
        (min source.length (capacity - start % capacity))).length := by
      rw [List.length_take]
      omega
    unfold wrapStore firstPiece
    rw [slot_before before, store_outside _ _ _ (by rw [List.length_drop]; omega),
      store_inside _ _ _ held, List.getElem_take]
  · have first : firstPiece capacity start source.length = capacity - start % capacity := by
      unfold firstPiece
      omega
    rw [slot_after positive (not_lt.mp before) (by omega), wrapStore_second _ _ (by omega)]
    congr 1
    omega

theorem wrapStore_outside (positive : 0 < capacity) (memory : Nat → α) (start : Nat)
    {source : List α} (short : source.length ≤ capacity) {position : Nat}
    (below : position < capacity)
    (outside : ∀ index < source.length, (start + index) % capacity ≠ position) :
    wrapStore capacity memory start source position = memory position := by
  have offset := Nat.mod_lt start positive
  unfold wrapStore firstPiece
  rw [store_outside, store_outside]
  · rw [List.length_take]
    by_contra within
    apply outside (position - start % capacity) (by omega)
    rw [slot_before (by omega)]
    omega
  · rw [List.length_drop]
    by_contra within
    apply outside (position + (capacity - start % capacity)) (by omega)
    rw [slot_after positive (by omega) (by omega)]
    omega

theorem wrapLoad_eq (positive : 0 < capacity) (memory : Nat → α) (start : Nat) {count : Nat}
    (short : count ≤ capacity) :
    wrapLoad capacity memory start count =
      (List.range count).map fun index => memory ((start + index) % capacity) := by
  have offset := Nat.mod_lt start positive
  unfold wrapLoad firstPiece
  apply List.ext_getElem
  · rw [List.length_append, load_length, load_length, List.length_map, List.length_range]
    omega
  · intro index _held inside
    rw [List.length_map, List.length_range] at inside
    rw [List.getElem_map, List.getElem_range]
    by_cases before : index < capacity - start % capacity
    · rw [List.getElem_append_left (by rw [load_length]; omega), load_getElem,
        slot_before before]
    · rw [List.getElem_append_right (by rw [load_length]; omega), load_getElem, load_length,
        slot_after positive (not_lt.mp before) (by omega)]
      congr 1
      omega

theorem wrapLoad_getElem? (positive : 0 < capacity) (memory : Nat → α) (start : Nat)
    {count index : Nat} (short : count ≤ capacity) (inside : index < count) :
    (wrapLoad capacity memory start count)[index]? =
      some (memory ((start + index) % capacity)) := by
  rw [wrapLoad_eq positive memory start short, List.getElem?_map, List.getElem?_range inside]
  rfl

/-! ### What the memory holds -/

variable {memory : Nat → α} {start : Nat} {contents : List α}

theorem holds_nil (capacity : Nat) (memory : Nat → α) (start : Nat) :
    Holds capacity memory start [] :=
  fun index inside => absurd inside (Nat.not_lt_zero index)

theorem wrapStore_congr {first second : Nat} (same : first % capacity = second % capacity)
    (memory : Nat → α) (source : List α) :
    wrapStore capacity memory first source = wrapStore capacity memory second source := by
  unfold wrapStore firstPiece
  rw [same]

theorem Holds.congr {other : Nat} (same : start % capacity = other % capacity)
    (holds : Holds capacity memory start contents) : Holds capacity memory other contents := by
  intro index inside
  rw [Nat.add_mod, ← same, ← Nat.add_mod]
  exact holds index inside

/-- A list that fits behind the contents is appended to them. -/
theorem Holds.append (positive : 0 < capacity) (holds : Holds capacity memory start contents)
    {source : List α} (fits : contents.length + source.length ≤ capacity) :
    Holds capacity (wrapStore capacity memory (start + contents.length) source) start
      (contents ++ source) := by
  intro index inside
  rw [List.length_append] at inside
  by_cases earlier : index < contents.length
  · rw [List.getElem_append_left earlier, wrapStore_outside positive _ _ (by omega)
      (Nat.mod_lt _ positive)]
    · exact holds index earlier
    · intro other within same
      have equal := slot_injective (by omega) (by omega) same.symm
      omega
  · have later : index - contents.length < source.length := by omega
    rw [List.getElem_append_right (not_lt.mp earlier)]
    have stored := wrapStore_inside positive memory (start + contents.length) (by omega) later
    rw [← stored]
    congr 2
    omega

theorem Holds.of_append {later : List α}
    (holds : Holds capacity memory start (contents ++ later)) :
    Holds capacity memory start contents := by
  intro index inside
  have held := holds index (by rw [List.length_append]; omega)
  rw [List.getElem_append_left inside] at held
  exact held

theorem Holds.drop (holds : Holds capacity memory start contents) (count : Nat) :
    Holds capacity memory (start + count) (contents.drop count) := by
  intro index inside
  rw [List.length_drop] at inside
  rw [List.getElem_drop, Nat.add_assoc]
  exact holds (count + index) (by omega)

theorem Holds.append_drop (positive : 0 < capacity) {source addition : List α}
    (holds : Holds capacity memory start (source.drop start))
    (level : source.length + addition.length ≤ start + capacity)
    (short : addition.length ≤ capacity) :
    Holds capacity (wrapStore capacity memory source.length addition) start
      ((source ++ addition).drop start) := by
  rw [List.drop_append]
  by_cases behind : start ≤ source.length
  · have fits : (source.drop start).length + addition.length ≤ capacity := by
      rw [List.length_drop]
      omega
    have appended := holds.append positive fits
    rw [List.length_drop, Nat.add_sub_cancel' behind] at appended
    rw [Nat.sub_eq_zero_of_le behind, List.drop_zero]
    exact appended
  · have ahead := Nat.le_of_lt (not_le.mp behind)
    have stored : Holds capacity
        (wrapStore capacity memory (source.length + ([] : List α).length) addition)
        source.length ([] ++ addition) :=
      (holds_nil capacity memory source.length).append positive
        (by rw [List.length_nil, Nat.zero_add]; exact short)
    have left := stored.drop (start - source.length)
    rw [List.length_nil, Nat.add_zero, List.nil_append, Nat.add_sub_cancel' ahead] at left
    rw [List.drop_eq_nil_of_le ahead, List.nil_append]
    exact left

/-- Where the contents are what is left of a list from its counter on, each element stands
in the slot of its position. -/
theorem Holds.get_of_drop {source : List α}
    (holds : Holds capacity memory start (source.drop start)) {index : Nat}
    (unread : start ≤ index) (inside : index < source.length) :
    memory (index % capacity) = source[index] := by
  obtain ⟨later, rfl⟩ := Nat.exists_eq_add_of_le unread
  have held := holds later (by rw [List.length_drop]; omega)
  rw [List.getElem_drop] at held
  exact held

theorem Holds.load (positive : 0 < capacity) (holds : Holds capacity memory start contents)
    {count : Nat} (available : count ≤ contents.length) (short : count ≤ capacity) :
    wrapLoad capacity memory start count = contents.take count := by
  rw [wrapLoad_eq positive memory start short]
  apply List.ext_getElem
  · rw [List.length_map, List.length_range, List.length_take]
    omega
  · intro index inside _held
    rw [List.length_map, List.length_range] at inside
    rw [List.getElem_map, List.getElem_range, List.getElem_take]
    exact holds index (by omega)

/-! ### One slot at a time -/

/-- The last items of everything stored so far stand in the slots of their positions. -/
def Recent (capacity : Nat) (memory : Nat → α) (source : List α) : Prop :=
  ∀ position item, source[position]? = some item → source.length ≤ position + capacity →
    memory (position % capacity) = item

theorem recent_nil (capacity : Nat) (memory : Nat → α) : Recent capacity memory [] := by
  intro position item held
  rw [List.getElem?_nil] at held
  cases held

theorem Holds.push (holds : Holds capacity memory start contents)
    (item : α) (room : contents.length < capacity) :
    Holds capacity (Function.update memory ((start + contents.length) % capacity) item) start
      (contents ++ [item]) := by
  intro index inside
  rw [List.length_append, List.length_singleton] at inside
  by_cases earlier : index < contents.length
  · have other : (start + index) % capacity ≠ (start + contents.length) % capacity := by
      intro same
      have equal := slot_injective (by omega) (by omega) same
      omega
    rw [Function.update_of_ne other, List.getElem_append_left earlier]
    exact holds index earlier
  · have newest : index = contents.length := by omega
    subst newest
    rw [Function.update_self, List.getElem_concat_length rfl]

theorem Recent.push {source : List α} (recent : Recent capacity memory source) (item : α) :
    Recent capacity (Function.update memory (source.length % capacity) item)
      (source ++ [item]) := by
  intro position found held late
  rw [List.length_append, List.length_singleton] at late
  rcases Nat.lt_trichotomy position source.length with earlier | newest | beyond
  · rw [List.getElem?_append_left earlier] at held
    have other : position % capacity ≠ source.length % capacity := by
      intro same
      have equal := slot_injective (Nat.le_of_lt earlier) (by omega) same
      omega
    rw [Function.update_of_ne other]
    exact recent position found held (by omega)
  · subst newest
    rw [List.getElem?_concat_length] at held
    rw [Function.update_self]
    exact Option.some.inj held
  · have outside : (source ++ [item]).length ≤ position := by
      rw [List.length_append, List.length_singleton]
      omega
    rw [List.getElem?_eq_none outside] at held
    cases held

/-! ### One piece at a time -/

theorem recent_replicate {value : α} (same : ∀ position < capacity, memory position = value) :
    Recent capacity memory (List.replicate capacity value) := by
  intro position item held _late
  obtain ⟨inside, rfl⟩ := List.getElem?_eq_some_iff.mp held
  rw [List.length_replicate] at inside
  rw [Nat.mod_eq_of_lt inside, List.getElem_replicate]
  exact same position inside

theorem Recent.of_replicate {value : α} {source : List α}
    (recent : Recent capacity memory (List.replicate capacity value ++ source)) :
    Recent capacity memory source := by
  intro position item held late
  have found := recent (capacity + position) item
    (by
      rw [List.getElem?_append_right (by rw [List.length_replicate]; omega),
        List.length_replicate, Nat.add_sub_cancel_left]
      exact held)
    (by
      rw [List.length_append, List.length_replicate]
      omega)
  rwa [Nat.add_mod_left] at found

/-- Cells that nothing has reached keep their value. -/
theorem Recent.untouched {value : α} {source : List α}
    (recent : Recent capacity memory (List.replicate capacity value ++ source)) {place : Nat}
    (inside : place < capacity) (beyond : source.length ≤ place) : memory place = value := by
  have found := recent place value
    (by
      rw [List.getElem?_append_left (by rw [List.length_replicate]; exact inside),
        List.getElem?_replicate, if_pos inside])
    (by
      rw [List.length_append, List.length_replicate]
      omega)
  rwa [Nat.mod_eq_of_lt inside] at found

/-- A piece that does not cross the end goes over what was stored a whole ring earlier. -/
theorem Recent.store {source piece : List α} (recent : Recent capacity memory source)
    (room : source.length % capacity + piece.length ≤ capacity) :
    Recent capacity (store memory (source.length % capacity) piece) (source ++ piece) := by
  intro position item held late
  rw [List.length_append] at late
  by_cases earlier : position < source.length
  · rw [List.getElem?_append_left earlier] at held
    have outside : position % capacity < source.length % capacity ∨
        source.length % capacity + piece.length ≤ position % capacity := by
      by_contra inside
      obtain ⟨above, below⟩ := not_or.mp inside
      have slot := slot_before (show position % capacity - source.length % capacity <
        capacity - source.length % capacity by omega)
      have same : position % capacity =
          (source.length + (position % capacity - source.length % capacity)) % capacity := by
        rw [slot]
        omega
      have equal := slot_injective (by omega) (by omega) same
      omega
    rw [store_outside _ _ _ outside]
    exact recent position item held (by omega)
  · obtain ⟨index, rfl⟩ := Nat.exists_eq_add_of_le (not_lt.mp earlier)
    rw [List.getElem?_append_right (not_lt.mp earlier), Nat.add_sub_cancel_left] at held
    obtain ⟨inside, rfl⟩ := List.getElem?_eq_some_iff.mp held
    rw [slot_before (by omega)]
    exact store_inside memory _ piece inside

end

end SmartMic.Circular
