import Mathlib.Tactic

set_option autoImplicit false

/-! A file that is open: its contents and the place in it where the next read or write
takes place. A read takes what there is, a write replaces what it covers and makes the file
longer where it reaches beyond the end. -/

namespace SmartMic

variable {α : Type*}

structure FileCursor (α : Type*) where
  contents : List α
  position : Nat

namespace FileCursor

def ahead (file : FileCursor α) : List α := file.contents.drop file.position

def read (file : FileCursor α) (count : Nat) : List α × FileCursor α :=
  (file.ahead.take count, { file with position := file.position + min count file.ahead.length })

/-- A place before the beginning is refused. -/
def seek (file : FileCursor α) (place : Int) : FileCursor α :=
  if place < 0 then file else { file with position := place.toNat }

/-- A gap between the end and the first new item is filled. -/
def write (fill : α) (file : FileCursor α) (piece : List α) : FileCursor α :=
  let padded := file.contents ++ List.replicate (file.position - file.contents.length) fill
  { contents :=
      padded.take file.position ++ piece ++ padded.drop (file.position + piece.length)
    position := file.position + piece.length }

@[simp]
theorem read_fst (file : FileCursor α) (count : Nat) :
    (file.read count).1 = file.ahead.take count := rfl

@[simp]
theorem read_contents (file : FileCursor α) (count : Nat) :
    (file.read count).2.contents = file.contents := rfl

@[simp]
theorem read_ahead (file : FileCursor α) (count : Nat) :
    (file.read count).2.ahead = file.ahead.drop count := by
  change file.contents.drop (file.position + min count file.ahead.length) =
    (file.contents.drop file.position).drop count
  rw [← List.drop_drop]
  change file.ahead.drop (min count file.ahead.length) = file.ahead.drop count
  by_cases few : count ≤ file.ahead.length
  · rw [Nat.min_eq_left few]
  · rw [List.drop_eq_nil_of_le (by omega), List.drop_eq_nil_of_le (by omega)]

theorem read_next (before piece rest : List α) :
    (FileCursor.mk (before ++ (piece ++ rest)) before.length).read piece.length =
      (piece, FileCursor.mk (before ++ (piece ++ rest)) (before.length + piece.length)) := by
  unfold read ahead
  dsimp only
  rw [List.drop_left, List.take_left, List.length_append,
    Nat.min_eq_left (Nat.le_add_right _ _)]

@[simp]
theorem seek_contents (file : FileCursor α) (place : Int) :
    (file.seek place).contents = file.contents := by
  unfold seek
  split <;> rfl

theorem seek_ahead (file : FileCursor α) (place : Nat) :
    (file.seek place).ahead = file.contents.drop place := by
  unfold seek
  rw [if_neg (Int.not_lt.mpr (Int.natCast_nonneg place))]
  rfl

theorem write_end (fill : α) (file : FileCursor α) (piece : List α)
    (atEnd : file.position = file.contents.length) :
    file.write fill piece =
      { contents := file.contents ++ piece
        position := (file.contents ++ piece).length } := by
  unfold write
  rw [atEnd, Nat.sub_self, List.replicate_zero, List.append_nil]
  dsimp only
  rw [List.take_length, List.drop_eq_nil_of_le (Nat.le_add_right _ _), List.append_nil,
    List.length_append]

theorem write_within (fill : α) (before old after piece : List α)
    (fits : piece.length = old.length) :
    (FileCursor.mk (before ++ (old ++ after)) before.length).write fill piece =
      { contents := before ++ (piece ++ after)
        position := before.length + piece.length } := by
  have inside : before.length - (before ++ (old ++ after)).length = 0 := by
    rw [List.length_append]
    omega
  have kept : (before ++ (old ++ after)).drop (before.length + piece.length) = after := by
    rw [fits, ← List.append_assoc, ← List.length_append]
    exact List.drop_left
  unfold write
  dsimp only
  rw [inside, List.replicate_zero, List.append_nil, List.take_left, kept, List.append_assoc]

end FileCursor

end SmartMic
