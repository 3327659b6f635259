import SmartMic.Format

set_option autoImplicit false

/-! Byte strings as the protocol code builds them: `std::string` and
`std::vector<uint8_t>` are lists of bytes, `std::array<uint8_t, N>` is a list of
that length, and integers on the wire are little-endian. -/

namespace SmartMic

/-- The bytes of an ASCII literal. -/
def ascii (literal : String) : Bytes :=
  literal.toList.map fun letter => UInt8.ofNat letter.toNat

abbrev FixedBytes (size : Nat) := { bytes : Bytes // bytes.length = size }

def FixedBytes.zero (size : Nat) : FixedBytes size :=
  ⟨List.replicate size 0, List.length_replicate⟩

/-- The size check in front of a `memcpy` into an array. -/
def FixedBytes.ofBytes (size : Nat) (bytes : Bytes) : Option (FixedBytes size) :=
  if exact : bytes.length = size then some ⟨bytes, exact⟩ else none

@[simp]
theorem FixedBytes.ofBytes_val {size : Nat} (bytes : FixedBytes size) :
    FixedBytes.ofBytes size bytes.val = some bytes :=
  dif_pos bytes.property

/-- The `count` low bytes of a number, least significant first. -/
def littleEndian (count value : Nat) : Bytes :=
  (List.range count).map fun index => UInt8.ofNat (value / 2 ^ (8 * index) % 256)

@[simp]
theorem littleEndian_length (count value : Nat) : (littleEndian count value).length = count := by
  unfold littleEndian
  rw [List.length_map, List.length_range]

/-- The inverse loop: bytes shifted into place from the least significant on. -/
def fromLittleEndian (bytes : Bytes) : Nat :=
  bytes.foldr (fun byte rest => byte.toNat + 256 * rest) 0

theorem littleEndian_succ (count value : Nat) :
    littleEndian (count + 1) value =
      UInt8.ofNat (value % 256) :: littleEndian count (value / 256) := by
  unfold littleEndian
  rw [List.range_succ_eq_map, List.map_cons, List.map_map]
  congr 1
  · simp
  · apply List.map_congr_left
    intro index _member
    change UInt8.ofNat (value / 2 ^ (8 * (index + 1)) % 256) = _
    rw [show 8 * (index + 1) = 8 + 8 * index by ring, pow_add, Nat.div_div_eq_div_mul]
    rfl

theorem fromLittleEndian_littleEndian (count value : Nat) (small : value < 256 ^ count) :
    fromLittleEndian (littleEndian count value) = value := by
  induction count generalizing value with
  | zero =>
      have zero : value = 0 := by simpa using small
      rw [zero]
      rfl
  | succ count ih =>
      rw [littleEndian_succ]
      change (UInt8.ofNat (value % 256)).toNat +
        256 * fromLittleEndian (littleEndian count (value / 256)) = value
      have quotient : value / 256 < 256 ^ count := by
        rw [pow_succ] at small
        exact Nat.div_lt_of_lt_mul (by rw [Nat.mul_comm]; exact small)
      have digit : (UInt8.ofNat (value % 256)).toNat = value % 256 := by
        rw [UInt8.toNat_ofNat']
        omega
      rw [ih _ quotient, digit]
      omega

theorem fromLittleEndian_lt (bytes : Bytes) : fromLittleEndian bytes < 256 ^ bytes.length := by
  induction bytes with
  | nil => exact Nat.one_pos
  | cons byte rest ih =>
      have digit := byte.toNat_lt
      change byte.toNat + 256 * fromLittleEndian rest < 256 ^ (rest.length + 1)
      rw [pow_succ]
      omega

theorem littleEndian_fromLittleEndian (bytes : Bytes) :
    littleEndian bytes.length (fromLittleEndian bytes) = bytes := by
  induction bytes with
  | nil => rfl
  | cons byte rest ih =>
      have digit := byte.toNat_lt
      rw [List.length_cons, littleEndian_succ]
      change UInt8.ofNat ((byte.toNat + 256 * fromLittleEndian rest) % 256) ::
        littleEndian rest.length ((byte.toNat + 256 * fromLittleEndian rest) / 256) = byte :: rest
      have low : (byte.toNat + 256 * fromLittleEndian rest) % 256 = byte.toNat := by omega
      have high : (byte.toNat + 256 * fromLittleEndian rest) / 256 = fromLittleEndian rest := by
        omega
      rw [low, high, ih, UInt8.ofNat_toNat]

end SmartMic
