import SmartMic.Protocol.Bytes
import Mathlib.Data.Nat.Digits.Lemmas
import Mathlib.Data.List.TakeWhile

set_option autoImplicit false

/-! Decimal numbers in text: how the C library reads one, in the C locale and base ten,
and how `printf` writes one. -/

namespace SmartMic

def isDigit (byte : UInt8) : Bool := decide (0x30 ≤ byte) && decide (byte ≤ 0x39)

def isSpace (byte : UInt8) : Bool :=
  decide (byte = 0x20) || (decide (0x09 ≤ byte) && decide (byte ≤ 0x0d))

/-- What a C function sees of a `std::string`. -/
def cString (text : Bytes) : Bytes := text.takeWhile fun byte => byte != 0

def digitsValue (digits : Bytes) : Nat :=
  digits.foldl (fun value byte => 10 * value + (byte.toNat - 0x30)) 0

/-- `strtoull`, and `strtoul` where that is 64 bits wide: spaces, one sign, and as many
digits as there are. What comes after them is ignored, no digits are zero, a number that
is too large saturates, and a minus sign negates in 64 bits. -/
def strtoull (text : Bytes) : BitVec 64 :=
  let trimmed := (cString text).dropWhile isSpace
  let signed := decide (trimmed.head? = some 0x2b) || decide (trimmed.head? = some 0x2d)
  let digits := (if signed then trimmed.tail else trimmed).takeWhile isDigit
  if 2 ^ 64 ≤ digitsValue digits then BitVec.allOnes 64
  else if trimmed.head? = some 0x2d then -BitVec.ofNat 64 (digitsValue digits)
  else BitVec.ofNat 64 (digitsValue digits)

/-- A decimal numeral and its number; zeros in front are part of a numeral. -/
structure Numeral (text : Bytes) (number : Nat) : Prop where
  nonempty : text ≠ []
  digits : ∀ byte ∈ text, isDigit byte = true
  value : digitsValue text = number

theorem isDigit_iff (byte : UInt8) :
    isDigit byte = true ↔ 0x30 ≤ byte.toNat ∧ byte.toNat ≤ 0x39 := by
  unfold isDigit
  rw [Bool.and_eq_true, decide_eq_true_iff, decide_eq_true_iff, UInt8.le_iff_toNat_le,
    UInt8.le_iff_toNat_le]
  rfl

theorem isDigit_bounds {byte : UInt8} (digit : isDigit byte = true) :
    byte ≠ 0 ∧ isSpace byte = false ∧ byte ≠ 0x2b ∧ byte ≠ 0x2d := by
  obtain ⟨low, high⟩ := (isDigit_iff byte).mp digit
  refine ⟨?_, ?_, ?_, ?_⟩
  · rintro rfl
    exact absurd low (by decide)
  · rw [Bool.eq_false_iff]
    intro space
    simp only [isSpace, Bool.or_eq_true, Bool.and_eq_true, decide_eq_true_eq,
      UInt8.le_iff_toNat_le] at space
    rcases space with rfl | ⟨-, below⟩
    · exact absurd low (by decide)
    · exact absurd (le_trans low below) (by decide)
  · rintro rfl
    exact absurd low (by decide)
  · rintro rfl
    exact absurd low (by decide)

/-- A C function sees all of a run of digits, which starts with neither a space nor a sign. -/
theorem digits_trimmed {text : Bytes} (digits : ∀ byte ∈ text, isDigit byte = true) :
    (cString text).dropWhile isSpace = text ∧
      text.head? ≠ some 0x2b ∧ text.head? ≠ some 0x2d := by
  have whole : cString text = text := by
    unfold cString
    rw [List.takeWhile_eq_self_iff]
    intro byte member
    simpa using (isDigit_bounds (digits byte member)).1
  cases text with
  | nil => exact ⟨rfl, nofun, nofun⟩
  | cons first rest =>
      obtain ⟨-, noSpace, noPlus, noMinus⟩ := isDigit_bounds (digits first List.mem_cons_self)
      rw [whole, List.dropWhile_cons_of_neg (by rw [noSpace]; decide)]
      exact ⟨rfl, fun plus => noPlus (Option.some.inj plus),
        fun minus => noMinus (Option.some.inj minus)⟩

theorem strtoull_digits {text : Bytes} (digits : ∀ byte ∈ text, isDigit byte = true)
    (fits : digitsValue text < 2 ^ 64) : strtoull text = BitVec.ofNat 64 (digitsValue text) := by
  obtain ⟨trimmed, noPlus, noMinus⟩ := digits_trimmed digits
  unfold strtoull
  rw [trimmed]
  simp only [noPlus, noMinus, decide_false, Bool.or_false, Bool.false_eq_true, if_false,
    List.takeWhile_eq_self_iff.mpr digits]
  rw [if_neg (not_le.mpr fits)]

theorem Numeral.strtoull {text : Bytes} {number : Nat} (numeral : Numeral text number)
    (fits : number < 2 ^ 64) : strtoull text = BitVec.ofNat 64 number := by
  have value := numeral.value
  rw [strtoull_digits numeral.digits (by omega), value]

theorem digitsValue_append (first later : Bytes) :
    digitsValue (first ++ later) = digitsValue first * 10 ^ later.length + digitsValue later := by
  induction later using List.reverseRecOn with
  | nil => simp [digitsValue]
  | append_singleton later byte ih =>
      unfold digitsValue at ih ⊢
      rw [← List.append_assoc, List.foldl_append, ih, List.foldl_append, List.length_append,
        List.length_singleton, pow_succ]
      simp only [List.foldl_cons, List.foldl_nil]
      ring

/-- Digits that are cut off make a number smaller. -/
theorem digitsValue_take_lt {text : Bytes} {count : Nat} (cut : count < text.length)
    (positive : 0 < digitsValue text) : digitsValue (text.take count) < digitsValue text := by
  have split := digitsValue_append (text.take count) (text.drop count)
  rw [List.take_append_drop, List.length_drop] at split
  rcases Nat.eq_zero_or_pos (digitsValue (text.take count)) with zero | some
  · omega
  · have tenfold : 10 ^ 1 ≤ 10 ^ (text.length - count) :=
      Nat.pow_le_pow_right (by decide) (by omega)
    nlinarith

/-! ### Writing -/

/-- `%u` and `%llu`. -/
def decimalText (number : Nat) : Bytes :=
  if number = 0 then [0x30]
  else ((Nat.digits 10 number).map fun digit => UInt8.ofNat (0x30 + digit)).reverse

theorem digitsValue_reverse (digits : List Nat) (small : ∀ digit ∈ digits, digit < 10) :
    digitsValue ((digits.map fun digit => UInt8.ofNat (0x30 + digit)).reverse) =
      Nat.ofDigits 10 digits := by
  unfold digitsValue
  rw [List.foldl_reverse]
  induction digits with
  | nil => rfl
  | cons digit rest ih =>
      obtain ⟨first, later⟩ := List.forall_mem_cons.mp small
      have byte : (UInt8.ofNat (0x30 + digit)).toNat = 0x30 + digit := by
        rw [UInt8.toNat_ofNat']
        omega
      rw [List.map_cons, List.foldr_cons, ih later, Nat.ofDigits_cons, byte]
      omega

theorem decimalText_numeral (number : Nat) : Numeral (decimalText number) number := by
  unfold decimalText
  split
  · rename_i zero
    rw [zero]
    exact
      { nonempty := List.cons_ne_nil _ _
        digits := List.forall_mem_singleton.mpr (by decide)
        value := by decide }
  · rename_i positive
    have small : ∀ digit ∈ Nat.digits 10 number, digit < 10 :=
      fun _digit member => Nat.digits_lt_base (by decide) member
    refine { nonempty := ?_, digits := ?_, value := ?_ }
    · rw [Ne, List.reverse_eq_nil_iff, List.map_eq_nil_iff]
      exact Nat.digits_ne_nil_iff_ne_zero.mpr positive
    · intro byte member
      obtain ⟨digit, within, rfl⟩ := List.mem_map.mp (List.mem_reverse.mp member)
      have below := small digit within
      rw [isDigit_iff, UInt8.toNat_ofNat']
      omega
    · rw [digitsValue_reverse _ small, Nat.ofDigits_digits]

end SmartMic
