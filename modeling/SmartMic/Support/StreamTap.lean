import Mathlib.Tactic

set_option autoImplicit false

/-! A reader behind a stream that goes on by itself. Only so many items wait for the reader;
when more come the oldest of them are lost. What has been taken is kept beside the stream, so
that it can be said which items of the stream it was. -/

namespace SmartMic

variable {α : Type*}

/-- The stream so far, what the reader has taken of it, and how many items it never saw. -/
structure Tap (α : Type*) where
  stream : List α
  taken : List α
  lost : Nat
  within : taken.length + lost ≤ stream.length
  inOrder : taken.Sublist (stream.take (taken.length + lost))

namespace Tap

def fresh : Tap α :=
  { stream := []
    taken := []
    lost := 0
    within := Nat.le_refl _
    inOrder := List.Sublist.refl _ }

/-- Where in the stream the reader is. -/
def position (tap : Tap α) : Nat := tap.taken.length + tap.lost

def waiting (tap : Tap α) : List α := tap.stream.drop tap.position

theorem waiting_length (tap : Tap α) :
    tap.waiting.length = tap.stream.length - tap.position := List.length_drop

/-- Nothing of the stream is unaccounted for. -/
theorem account (tap : Tap α) :
    tap.stream.length = tap.taken.length + tap.lost + tap.waiting.length := by
  have within := tap.within
  rw [waiting_length]
  unfold position
  omega

/-- How many items are lost when these come. -/
def overflow (capacity : Nat) (tap : Tap α) (added : List α) : Nat :=
  tap.waiting.length + added.length - capacity

theorem overflow_le (capacity : Nat) (tap : Tap α) (added : List α) :
    tap.position + tap.overflow capacity added ≤ tap.stream.length + added.length := by
  have account := tap.account
  unfold overflow position
  omega

/-- The stream goes on, and at most so many items of it wait. -/
def feed (capacity : Nat) (tap : Tap α) (added : List α) : Tap α :=
  { stream := tap.stream ++ added
    taken := tap.taken
    lost := tap.lost + tap.overflow capacity added
    within := by
      have inside := tap.overflow_le capacity added
      unfold position at inside
      rw [List.length_append]
      omega
    inOrder := by
      refine tap.inOrder.trans ?_
      have before : tap.stream.take (tap.taken.length + tap.lost) =
          (tap.stream ++ added).take (tap.taken.length + tap.lost) := by
        rw [List.take_append_of_le_length tap.within]
      rw [before, ← Nat.add_assoc]
      exact List.take_sublist_take_left (Nat.le_add_right _ _) }

def draw (tap : Tap α) (count : Nat) : Tap α :=
  { stream := tap.stream
    taken := tap.taken ++ tap.waiting.take count
    lost := tap.lost
    within := by
      have account := tap.account
      rw [List.length_append, List.length_take]
      omega
    inOrder := by
      have length : (tap.taken ++ tap.waiting.take count).length + tap.lost =
          tap.position + min count tap.waiting.length := by
        rw [List.length_append, List.length_take]
        unfold position
        omega
      rw [length, List.take_add]
      refine tap.inOrder.append ?_
      change List.Sublist _ (tap.waiting.take _)
      rw [← List.take_eq_take_min] }

@[simp]
theorem feed_stream (capacity : Nat) (tap : Tap α) (added : List α) :
    (tap.feed capacity added).stream = tap.stream ++ added := rfl

@[simp]
theorem feed_taken (capacity : Nat) (tap : Tap α) (added : List α) :
    (tap.feed capacity added).taken = tap.taken := rfl

theorem feed_lost (capacity : Nat) (tap : Tap α) (added : List α) :
    (tap.feed capacity added).lost = tap.lost + tap.overflow capacity added := rfl

@[simp]
theorem draw_stream (tap : Tap α) (count : Nat) : (tap.draw count).stream = tap.stream := rfl

@[simp]
theorem draw_taken (tap : Tap α) (count : Nat) :
    (tap.draw count).taken = tap.taken ++ tap.waiting.take count := rfl

theorem feed_waiting (capacity : Nat) (tap : Tap α) (added : List α) :
    (tap.feed capacity added).waiting =
      (tap.waiting ++ added).drop (tap.overflow capacity added) := by
  change (tap.stream ++ added).drop (tap.taken.length + (tap.lost + _)) =
    (tap.stream.drop (tap.taken.length + tap.lost) ++ added).drop _
  rw [← List.drop_append_of_le_length tap.within, List.drop_drop, Nat.add_assoc]

theorem draw_waiting (tap : Tap α) (count : Nat) :
    (tap.draw count).waiting = tap.waiting.drop count := by
  change tap.stream.drop ((tap.taken ++ tap.waiting.take count).length + tap.lost) =
    (tap.stream.drop (tap.taken.length + tap.lost)).drop count
  have account := tap.account
  rw [List.drop_drop, List.length_append, List.length_take]
  by_cases few : count ≤ tap.waiting.length
  · congr 1
    omega
  · rw [List.drop_eq_nil_of_le (by omega), List.drop_eq_nil_of_le (by omega)]

/-- What has been taken is the stream with gaps, and the gaps add up to what was lost. -/
theorem taken_sublist (tap : Tap α) : tap.taken.Sublist tap.stream :=
  tap.inOrder.trans (List.take_sublist _ _)

/-! ### What was taken meanwhile -/

/-- From one state of a tap to a later one without a loss: the reader took these items, and
they are what the stream had at its place. -/
structure Since (earlier later : Tap α) (items : List α) : Prop where
  stream : earlier.stream <+: later.stream
  lost : later.lost = earlier.lost
  taken : later.taken = earlier.taken ++ items
  items : items = (later.stream.drop earlier.position).take items.length

theorem since_refl (tap : Tap α) : tap.Since tap [] :=
  { stream := List.prefix_refl _
    lost := rfl
    taken := (List.append_nil _).symm
    items := rfl }

theorem Since.position {earlier later : Tap α} {items : List α}
    (since : earlier.Since later items) : later.position = earlier.position + items.length := by
  unfold Tap.position
  rw [since.taken, since.lost, List.length_append]
  omega

theorem Since.items_prefix {earlier later : Tap α} {items more : List α}
    (since : earlier.Since later items) (longer : later.stream <+: more) :
    items = (more.drop earlier.position).take items.length := by
  obtain ⟨added, rfl⟩ := longer
  have account := later.account
  have place := since.position
  have inside : earlier.position + items.length ≤ later.stream.length := by
    rw [← place, account]
    unfold Tap.position
    omega
  rw [List.drop_append_of_le_length (by omega),
    List.take_append_of_le_length (by rw [List.length_drop]; omega)]
  exact since.items

/-- What comes in later does not change what was taken. -/
theorem Since.feed {earlier later : Tap α} {items : List α} (since : earlier.Since later items)
    {capacity : Nat} {added : List α}
    (kept : (later.feed capacity added).lost = later.lost) :
    earlier.Since (later.feed capacity added) items :=
  { stream := since.stream.trans (List.prefix_append _ _)
    lost := kept.trans since.lost
    taken := since.taken
    items := since.items_prefix (List.prefix_append _ _) }

theorem Since.draw {earlier later : Tap α} {items : List α} (since : earlier.Since later items)
    (count : Nat) :
    earlier.Since (later.draw count) (items ++ later.waiting.take count) :=
  { stream := since.stream
    lost := since.lost
    taken := by rw [draw_taken, since.taken, List.append_assoc]
    items := by
      have next : later.waiting =
          (later.stream.drop earlier.position).drop items.length := by
        rw [List.drop_drop, ← since.position]
        rfl
      rw [draw_stream, List.length_append, List.take_add, ← since.items, ← next,
        List.length_take, ← List.take_eq_take_min] }

theorem Since.trans {first middle last : Tap α} {early late : List α}
    (before : first.Since middle early) (after : middle.Since last late) :
    first.Since last (early ++ late) :=
  { stream := before.stream.trans after.stream
    lost := after.lost.trans before.lost
    taken := by rw [after.taken, before.taken, List.append_assoc]
    items := by
      rw [List.length_append, List.take_add, ← before.items_prefix after.stream, List.drop_drop,
        ← before.position, ← after.items] }

end Tap

end SmartMic
