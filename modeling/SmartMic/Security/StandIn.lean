import SmartMic.Security.Pairing

set_option autoImplicit false

/-! A crypto library that runs, for the concrete devices and sessions of this development.
Base64 is the real format; the primitives are toys with the same interface and the
documented laws, and no secrecy. -/

namespace SmartMic.StandIn

open SmartMic.Protocol SmartMic.Security

/-! ### Base64, URL-safe and without padding -/

def letter (value : Nat) : UInt8 :=
  if value < 26 then UInt8.ofNat (0x41 + value)
  else if value < 52 then UInt8.ofNat (0x61 + (value - 26))
  else if value < 62 then UInt8.ofNat (0x30 + (value - 52))
  else if value = 62 then 0x2d
  else 0x5f

def digit (value : Nat) : UInt8 := letter (value % 64)

def digitValue (letter : UInt8) : Option Nat :=
  let code := letter.toNat
  if 0x41 ≤ code ∧ code ≤ 0x5a then some (code - 0x41)
  else if 0x61 ≤ code ∧ code ≤ 0x7a then some (code - 0x61 + 26)
  else if 0x30 ≤ code ∧ code ≤ 0x39 then some (code - 0x30 + 52)
  else if code = 0x2d then some 62
  else if code = 0x5f then some 63
  else none

def encode64 : Bytes → Bytes
  | [] => []
  | [first] => [digit (first.toNat / 4), digit (first.toNat % 4 * 16)]
  | [first, second] =>
      [digit (first.toNat / 4), digit (first.toNat % 4 * 16 + second.toNat / 16),
        digit (second.toNat % 16 * 4)]
  | first :: second :: third :: rest =>
      [digit (first.toNat / 4), digit (first.toNat % 4 * 16 + second.toNat / 16),
        digit (second.toNat % 16 * 4 + third.toNat / 64), digit (third.toNat % 64)] ++
        encode64 rest

def decodeDigits : List Nat → Option Bytes
  | [] => some []
  | [first, second] =>
      if second % 16 = 0 then some [UInt8.ofNat (first * 4 + second / 16)] else none
  | [first, second, third] =>
      if third % 4 = 0 then
        some [UInt8.ofNat (first * 4 + second / 16),
          UInt8.ofNat (second % 16 * 16 + third / 4)]
      else none
  | first :: second :: third :: fourth :: rest =>
      (decodeDigits rest).map fun decoded =>
        [UInt8.ofNat (first * 4 + second / 16), UInt8.ofNat (second % 16 * 16 + third / 4),
          UInt8.ofNat (third % 4 * 64 + fourth)] ++ decoded
  | [_] => none

def decode64 (text : Bytes) : Option Bytes := (text.mapM digitValue).bind decodeDigits

theorem digitValue_digit (value : Nat) : digitValue (digit value) = some (value % 64) := by
  have table : ∀ index < 64, digitValue (letter index) = some index := by decide +kernel
  exact table _ (Nat.mod_lt _ (by decide))

theorem digit_unescaped (value : Nat) :
    0x20 ≤ digit value ∧ digit value < 0x7f ∧ digit value ≠ 0x22 ∧ digit value ≠ 0x5c := by
  have table : ∀ index < 64, 0x20 ≤ letter index ∧ letter index < 0x7f ∧
      letter index ≠ 0x22 ∧ letter index ≠ 0x5c := by decide +kernel
  exact table _ (Nat.mod_lt _ (by decide))

theorem ofNat_of_toNat {value : Nat} {byte : UInt8} (same : value = byte.toNat) :
    UInt8.ofNat value = byte := by
  rw [same, UInt8.ofNat_toNat]

theorem decode64_encode64 (data : Bytes) : decode64 (encode64 data) = some data := by
  unfold decode64
  induction data using encode64.induct with
  | case1 => rfl
  | case2 first =>
      have bound := first.toNat_lt
      simp only [encode64, List.mapM_cons, List.mapM_nil, digitValue_digit, Option.bind_eq_bind,
        Option.bind_some, Option.pure_def, decodeDigits]
      rw [if_pos (by omega), @ofNat_of_toNat _ first (by omega)]
  | case3 first second =>
      have bound := first.toNat_lt
      have bound' := second.toNat_lt
      simp only [encode64, List.mapM_cons, List.mapM_nil, digitValue_digit, Option.bind_eq_bind,
        Option.bind_some, Option.pure_def, decodeDigits]
      rw [if_pos (by omega), @ofNat_of_toNat _ first (by omega),
        @ofNat_of_toNat _ second (by omega)]
  | case4 first second third rest ih =>
      have bound := first.toNat_lt
      have bound' := second.toNat_lt
      have bound'' := third.toNat_lt
      simp only [encode64, List.cons_append, List.nil_append, List.mapM_cons, digitValue_digit,
        Option.bind_eq_bind, Option.bind_some, Option.pure_def] at ih ⊢
      cases digits : (encode64 rest).mapM digitValue with
      | none =>
          rw [digits] at ih
          cases ih
      | some values =>
          rw [digits] at ih
          simp only [Option.bind_some] at ih ⊢
          simp only [decodeDigits, ih, Option.map_some, List.cons_append, List.nil_append]
          rw [@ofNat_of_toNat _ first (by omega), @ofNat_of_toNat _ second (by omega),
            @ofNat_of_toNat _ third (by omega)]

theorem encode64_unescaped (data : Bytes) : Unescaped (encode64 data) := by
  unfold Unescaped
  induction data using encode64.induct with
  | case1 => exact fun _ member => absurd member List.not_mem_nil
  | case2 first =>
      simp only [encode64, List.forall_mem_cons]
      exact ⟨digit_unescaped _, digit_unescaped _, fun _ member => absurd member List.not_mem_nil⟩
  | case3 first second =>
      simp only [encode64, List.forall_mem_cons]
      exact ⟨digit_unescaped _, digit_unescaped _, digit_unescaped _,
        fun _ member => absurd member List.not_mem_nil⟩
  | case4 first second third rest ih =>
      simp only [encode64, List.cons_append, List.nil_append, List.forall_mem_cons]
      exact ⟨digit_unescaped _, digit_unescaped _, digit_unescaped _, digit_unescaped _, ih⟩

/-! ### Primitives -/

/-- A mixing of all bytes; no cryptographic strength. -/
def mix (bytes : Bytes) : Nat :=
  bytes.foldl (fun mixed byte => mixed * 257 + byte.toNat + 1) 0

def mixed (length : Nat) (bytes : Bytes) : FixedBytes length :=
  ⟨littleEndian length (mix bytes), littleEndian_length _ _⟩

/-- An element: 31 bytes, and a mark. -/
def element (coordinate : Nat → UInt8) : GroupElement :=
  ⟨(List.range 31).map coordinate ++ [1], by simp [kGroupElementBytes]⟩

def isElement (point : GroupElement) : Bool := point.val.getD 31 0 == 1

def scalarMult (scalar : Scalar) (point : GroupElement) : Option GroupElement :=
  if isElement point then
    some (element fun index => scalar.val.getD index 0 + point.val.getD index 0)
  else none

def box (plain nonce key : Bytes) : Option Bytes :=
  some ((mixed 16 (key ++ nonce ++ plain)).val ++ plain)

def openBox (cipher nonce key : Bytes) : Option Bytes :=
  if cipher.take 16 = (mixed 16 (key ++ nonce ++ cipher.drop 16)).val then
    some (cipher.drop 16)
  else none

def sodium : Sodium :=
  { bin2base64 := encode64
    base642bin := decode64
    signDetached := fun secret data => mixed 64 (secret.val.drop 32 ++ data)
    signVerifyDetached := fun public_ data signature =>
      signature.val == (mixed 64 (public_.val ++ data)).val
    genericHash := fun length key input => mixed length (key ++ input)
    ristrettoFromHash := fun hash => element fun index => hash.val.getD index 0
    ristrettoIsValidPoint := isElement
    ristrettoScalarMult := scalarMult
    kdfDeriveFromKey := fun length id context key =>
      (mixed length (key.val ++ littleEndian 8 id ++ context)).val
    secretboxEasy := box
    secretboxOpenEasy := openBox }

theorem element_getD (coordinate : Nat → UInt8) {index : Nat} (inside : index < 31) :
    (element coordinate).val.getD index 0 = coordinate index := by
  have length : ((List.range 31).map coordinate).length = 31 := by simp
  change ((List.range 31).map coordinate ++ [1]).getD index 0 = _
  rw [List.getD_eq_getElem?_getD, List.getElem?_append_left (by rw [length]; exact inside),
    List.getElem?_eq_getElem (by rw [length]; exact inside), List.getElem_map,
    List.getElem_range]
  rfl

theorem element_isElement (coordinate : Nat → UInt8) : isElement (element coordinate) = true := by
  change (((List.range 31).map coordinate ++ [1]).getD 31 0 == 1) = true
  rw [List.getD_eq_getElem?_getD, List.getElem?_append_right (by simp), List.length_map,
    List.length_range]
  rfl

theorem element_isPoint (coordinate : Nat → UInt8) : sodium.IsPoint (element coordinate) := by
  refine ⟨?_, element_isElement coordinate⟩
  change ((List.range 31).map coordinate ++ [1]).all _ = false
  rw [List.all_append]
  exact Bool.and_false _

theorem element_congr {first second : Nat → UInt8}
    (same : ∀ index < 31, first index = second index) :
    element first = element second := by
  apply Subtype.ext
  change (List.range 31).map first ++ [1] = (List.range 31).map second ++ [1]
  congr 1
  exact List.map_congr_left fun index member => same index (List.mem_range.mp member)

theorem sodium_base64 : sodium.Base64 :=
  { decodes := decode64_encode64
    text := encode64_unescaped }

theorem sodium_usable (scalar : Scalar) : sodium.Usable scalar := by
  intro point isPoint
  exact ⟨_, if_pos isPoint.2, element_isPoint _⟩

theorem sodium_commutes : sodium.Commutes := by
  intro first second point firstShare secondShare given given'
  change scalarMult first point = some firstShare at given
  change scalarMult second point = some secondShare at given'
  change scalarMult first secondShare = scalarMult second firstShare
  unfold scalarMult at given given' ⊢
  split at given
  · rename_i isPoint
    rw [if_pos isPoint] at given'
    cases given
    cases given'
    rw [if_pos (element_isElement _), if_pos (element_isElement _)]
    congr 1
    apply element_congr
    intro index inside
    rw [element_getD _ inside, element_getD _ inside]
    ac_rfl
  · cases given

def identity (seed : Nat) : DeviceIdentity :=
  { public_ := mixed 32 (littleEndian 8 seed)
    secret := ⟨littleEndian 32 seed ++ (mixed 32 (littleEndian 8 seed)).val, by
      rw [List.length_append, littleEndian_length, (mixed 32 _).property]
      rfl⟩ }

theorem identity_paired (seed : Nat) : (identity seed).Paired sodium := by
  intro data
  apply beq_iff_eq.mpr
  change (mixed 64 ((littleEndian 32 seed ++ _).drop 32 ++ data)).val = _
  rw [List.drop_left' (littleEndian_length _ _)]
  rfl

def scalar (seed : Nat) : Scalar := ⟨littleEndian 32 seed, littleEndian_length _ _⟩

/-! ### An offer -/

def sessionId : Bytes := ascii "5e55"
def code : Bytes := ascii "123456"
def book : PairingOfferBook :=
  (PairingOfferBook.create {}).issue sessionId code 0#64

end SmartMic.StandIn
