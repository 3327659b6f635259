import SmartMic.Security.PairingUri
import SmartMic.Security.StandIn

set_option autoImplicit false

/-! The pairing link as the PC writes it, into a buffer of 512 bytes with its final NUL.
What does not fit is cut off. -/

namespace SmartMic.Security

/-! ### The fingerprint of an identity -/

def hexDigit (value : Nat) : UInt8 :=
  if value < 10 then UInt8.ofNat (0x30 + value) else UInt8.ofNat (0x61 + (value - 10))

def toHex (data : Bytes) : Bytes :=
  data.flatMap fun byte => [hexDigit (byte.toNat / 16), hexDigit (byte.toNat % 16)]

def grouped (hex : Bytes) : Bytes :=
  (List.range ((hex.length + 3) / 4)).flatMap fun group =>
    (if group = 0 then [] else [0x2d]) ++ (hex.drop (4 * group)).take 4

def DeviceIdentity.fingerprint (sodium : Sodium) (identity : DeviceIdentity) : Bytes :=
  let hash := sodium.genericHash 32 (ascii "SmartMic-fp-v1") identity.public_.val
  grouped (toHex (hash.val.take 8))

/-! ### The link -/

/-- What `snprintf` would write with room for everything. -/
def pairingText (sodium : Sodium) (self : DeviceIdentity) (offer : PairingOffer) (host : Bytes)
    (port : BitVec 16) : Bytes :=
  ascii "smartmic://pair?v=1&host=" ++ cString host ++
    ascii "&port=" ++ decimalText port.toNat ++
    ascii "&pcid=" ++ cString (self.deviceId sodium) ++
    ascii "&fp=" ++ cString (self.fingerprint sodium) ++
    ascii "&sid=" ++ cString offer.sessionId ++
    ascii "&code=" ++ cString offer.code ++
    ascii "&exp=" ++ decimalText offer.expiresAtMs.toNat

def kUriBuffer : Nat := 512

def buildPairingUri (sodium : Sodium) (self : DeviceIdentity) (offer : PairingOffer)
    (host : Bytes) (port : BitVec 16) : Bytes :=
  (pairingText sodium self offer host port).take (kUriBuffer - 1)

structure Sodium.UrlSafe (sodium : Sodium) : Prop where
  length : ∀ data, (sodium.bin2base64 data).length = (4 * data.length + 2) / 3
  alphabet : ∀ data, ∀ byte ∈ sodium.bin2base64 data,
    (0x41 ≤ byte.toNat ∧ byte.toNat ≤ 0x5a) ∨ (0x61 ≤ byte.toNat ∧ byte.toNat ≤ 0x7a) ∨
      (0x30 ≤ byte.toNat ∧ byte.toNat ≤ 0x39) ∨ byte.toNat = 0x2d ∨ byte.toNat = 0x5f

/-! ### Text without separators -/

/-- Neither a separator of parts nor an end of a C string. -/
def Plain (text : Bytes) : Prop := ampersand ∉ text ∧ 0 ∉ text

theorem Plain.cString {text : Bytes} (plain : Plain text) : cString text = text := by
  unfold SmartMic.cString
  rw [List.takeWhile_eq_self_iff]
  intro byte member
  rw [bne_iff_ne]
  rintro rfl
  exact plain.2 member

theorem plain_of_bounds {text : Bytes} (bounds : ∀ byte ∈ text, 0x27 ≤ byte.toNat) :
    Plain text := by
  constructor
  · intro member
    exact absurd (bounds _ member) (by decide)
  · intro member
    exact absurd (bounds _ member) (by decide)

theorem plain_decimalText (number : Nat) : Plain (decimalText number) := by
  apply plain_of_bounds
  intro byte member
  have low := ((isDigit_iff byte).mp ((decimalText_numeral number).digits byte member)).1
  omega

theorem Sodium.UrlSafe.plain {sodium : Sodium} (urlSafe : sodium.UrlSafe) (data : Bytes) :
    Plain (sodium.bin2base64 data) := by
  apply plain_of_bounds
  intro byte member
  have alphabet := urlSafe.alphabet data byte member
  omega

theorem hexDigit_bound {value : Nat} (small : value < 16) : 0x27 ≤ (hexDigit value).toNat := by
  unfold hexDigit
  split
  · rw [UInt8.toNat_ofNat']
    omega
  · rw [UInt8.toNat_ofNat']
    omega

theorem toHex_length (data : Bytes) : (toHex data).length = 2 * data.length := by
  induction data with
  | nil => rfl
  | cons byte rest ih =>
      change (toHex rest).length + 2 = 2 * (rest.length + 1)
      omega

theorem toHex_bound (data : Bytes) : ∀ byte ∈ toHex data, 0x27 ≤ byte.toNat := by
  intro byte member
  obtain ⟨source, -, digit⟩ := List.mem_flatMap.mp member
  have bound := source.toNat_lt
  simp only [List.mem_cons, List.not_mem_nil, or_false] at digit
  rcases digit with rfl | rfl
  · exact hexDigit_bound (by omega)
  · exact hexDigit_bound (by omega)

theorem DeviceIdentity.fingerprint_plain (sodium : Sodium) (identity : DeviceIdentity) :
    Plain (identity.fingerprint sodium) := by
  apply plain_of_bounds
  intro byte member
  obtain ⟨group, -, inside⟩ := List.mem_flatMap.mp member
  rcases List.mem_append.mp inside with dash | digit
  · split at dash
    · cases dash
    · rw [List.mem_singleton.mp dash]
      decide
  · exact toHex_bound _ byte (List.mem_of_mem_drop (List.mem_of_mem_take digit))

theorem DeviceIdentity.fingerprint_length (sodium : Sodium) (identity : DeviceIdentity) :
    (identity.fingerprint sodium).length = 19 := by
  have hash := (sodium.genericHash 32 (ascii "SmartMic-fp-v1") identity.public_.val).property
  have digits : (toHex ((sodium.genericHash 32 (ascii "SmartMic-fp-v1")
      identity.public_.val).val.take 8)).length = 16 := by
    rw [toHex_length, List.length_take, hash]
    rfl
  unfold DeviceIdentity.fingerprint grouped
  dsimp only
  rw [digits]
  simp [List.range_succ, digits]

/-! ### Parts -/

def part (key value : Bytes) : Bytes := key ++ equalsSign :: value

def joined : List (Bytes × Bytes) → Bytes
  | [] => []
  | [(key, value)] => part key value
  | (key, value) :: next :: rest => part key value ++ ampersand :: joined (next :: rest)

structure Clean (pair : Bytes × Bytes) : Prop where
  key : ampersand ∉ pair.1 ∧ equalsSign ∉ pair.1
  value : ampersand ∉ pair.2

theorem Clean.of {key value : Bytes} (plainKey : ampersand ∉ key ∧ equalsSign ∉ key)
    (plainValue : ampersand ∉ value) : Clean (key, value) :=
  { key := plainKey, value := plainValue }

theorem passes {separator : UInt8} {text : Bytes} (absent : separator ∉ text) :
    ∀ byte ∈ text, (byte != separator) = true := by
  intro byte member
  rw [bne_iff_ne]
  rintro rfl
  exact absent member

theorem keyValue_part {key : Bytes} (plain : equalsSign ∉ key) (value : Bytes) :
    keyValue (part key value) = some (key, value) := by
  unfold keyValue part
  rw [List.dropWhile_append_of_pos (passes plain), List.takeWhile_append_of_pos (passes plain)]
  simp

theorem keyValue_none {text : Bytes} (plain : equalsSign ∉ text) : keyValue text = none := by
  unfold keyValue
  rw [List.dropWhile_eq_nil_iff.mpr (passes plain)]

theorem keyValue_some {kv k v : Bytes} (found : keyValue kv = some (k, v)) :
    kv = part k v ∧ equalsSign ∉ k := by
  rcases cut_cases equalsSign kv with
    ⟨absent, -, -⟩ | ⟨first, later, whole, absent, -, -⟩
  · rw [keyValue_none absent] at found
    cases found
  · have read := keyValue_part absent later
    rw [← show kv = part first later from whole, found] at read
    cases read
    exact ⟨whole, absent⟩

theorem keyValues_append (first later : Bytes) :
    keyValues (first ++ ampersand :: later) = keyValues first ++ keyValues later := by
  unfold keyValues
  rw [List.splitOn_append_cons_self, List.filterMap_append]

theorem keyValues_single {text : Bytes} (plain : ampersand ∉ text) :
    keyValues text = (keyValue text).toList := by
  unfold keyValues
  rw [List.splitOn_eq_singleton plain, List.filterMap_cons, List.filterMap_nil]
  cases keyValue text <;> rfl

theorem Clean.absent {key value : Bytes} (clean : Clean (key, value)) :
    ampersand ∉ part key value := by
  intro member
  rcases List.mem_append.mp member with inKey | inValue
  · exact clean.key.1 inKey
  · rcases List.mem_cons.mp inValue with same | inValue
    · exact absurd same (by decide)
    · exact clean.value inValue

theorem keyValues_joined (pairs : List (Bytes × Bytes)) (clean : ∀ pair ∈ pairs, Clean pair) :
    keyValues (joined pairs) = pairs := by
  induction pairs with
  | nil => rfl
  | cons pair rest ih =>
      obtain ⟨first, later⟩ := List.forall_mem_cons.mp clean
      have single : keyValues (part pair.1 pair.2) = [pair] := by
        rw [keyValues_single first.absent, keyValue_part first.key.2]
        rfl
      cases rest with
      | nil => exact single
      | cons next rest =>
          change keyValues (part pair.1 pair.2 ++ ampersand :: joined (next :: rest)) = _
          rw [keyValues_append, single, ih later]
          rfl

theorem keyValue_take {key : Bytes} (plain : equalsSign ∉ key) (value : Bytes) (count : Nat) :
    keyValue ((part key value).take count) =
      if key.length < count then some (key, value.take (count - key.length - 1)) else none := by
  unfold part
  rw [List.take_append]
  split
  · rename_i behind
    obtain ⟨more, rfl⟩ := Nat.exists_eq_add_of_lt behind
    rw [List.take_of_length_le (by omega), Nat.add_assoc, Nat.add_sub_cancel_left,
      List.take_succ_cons, Nat.add_sub_cancel]
    exact keyValue_part plain _
  · rename_i within
    rw [Nat.sub_eq_zero_of_le (not_lt.mp within), List.take_zero, List.append_nil]
    exact keyValue_none fun member => plain (List.mem_of_mem_take member)

theorem keyValues_cut (first : Bytes) {key value : Bytes} (clean : Clean (key, value))
    (count : Nat) :
    keyValues (first ++ (ampersand :: part key value).take count) = keyValues first ++
      if key.length + 1 < count then [(key, value.take (count - key.length - 2))] else [] := by
  cases count with
  | zero => simp
  | succ count =>
      have absent : ampersand ∉ (part key value).take count :=
        fun member => clean.absent (List.mem_of_mem_take member)
      rw [List.take_succ_cons, keyValues_append, keyValues_single absent,
        keyValue_take clean.key.2]
      by_cases behind : key.length < count
      · rw [if_pos behind, if_pos (by omega)]
        have same : count + 1 - key.length - 2 = count - key.length - 1 := by omega
        rw [same]
        rfl
      · rw [if_neg behind, if_neg (by omega)]
        rfl

/-- Cutting a text off cuts one of its parts, and makes no new ones. -/
theorem mem_splitOn_take {separator : UInt8} {text piece : Bytes} {count : Nat}
    (member : piece ∈ (text.take count).splitOn separator) :
    ∃ whole ∈ text.splitOn separator, piece <+: whole := by
  induction size : text.length using Nat.strongRecOn generalizing text count with
  | ind length ih =>
      rcases cut_cases separator text with
        ⟨absent, -, -⟩ | ⟨first, later, whole, absent, -, -⟩
      · have cut : separator ∉ text.take count := fun inside => absent (List.mem_of_mem_take inside)
        rw [List.splitOn_eq_singleton cut, List.mem_singleton] at member
        refine ⟨text, ?_, ?_⟩
        · rw [List.splitOn_eq_singleton absent]
          exact List.mem_singleton_self _
        · rw [member]
          exact List.take_prefix _ _
      · rw [whole, List.splitOn_append_cons_self_of_not_mem absent]
        rw [whole, List.take_append] at member
        cases left : count - first.length with
        | zero =>
            rw [left, List.take_zero, List.append_nil, List.splitOn_eq_singleton
              (fun inside => absent (List.mem_of_mem_take inside)), List.mem_singleton] at member
            refine ⟨first, List.mem_cons_self, ?_⟩
            rw [member]
            exact List.take_prefix _ _
        | succ left' =>
            rw [left, List.take_of_length_le (by omega), List.take_succ_cons,
              List.splitOn_append_cons_self_of_not_mem absent] at member
            rcases List.mem_cons.mp member with same | inside
            · refine ⟨first, List.mem_cons_self, ?_⟩
              rw [same]
            · have shorter : later.length < length := by
                rw [← size, whole, List.length_append, List.length_cons]
                omega
              obtain ⟨found, among, isPrefix⟩ := ih later.length shorter inside rfl
              exact ⟨found, List.mem_cons_of_mem _ among, isPrefix⟩

theorem keyValues_take_keys {text : Bytes} {count : Nat} {pair : Bytes × Bytes}
    (member : pair ∈ keyValues (text.take count)) : ∃ whole ∈ keyValues text, whole.1 = pair.1 := by
  obtain ⟨piece, inside, read⟩ := List.mem_filterMap.mp member
  obtain ⟨kept, among, more, rfl⟩ := mem_splitOn_take inside
  obtain ⟨spelled, plain⟩ := keyValue_some read
  refine ⟨(pair.1, pair.2 ++ more), List.mem_filterMap.mpr ⟨_, among, ?_⟩, rfl⟩
  have longer : piece ++ more = part pair.1 (pair.2 ++ more) := by
    rw [spelled]
    unfold part
    rw [List.append_assoc, List.cons_append]
  rw [longer]
  exact keyValue_part plain _

/-! ### The link that was written -/

section

variable (sodium : Sodium) (self : DeviceIdentity) (offer : PairingOffer) (host : Bytes)
  (port : BitVec 16)

def linkOf : PairingUri :=
  { version := 1#32
    host := host
    port := port
    pcDeviceId := self.deviceId sodium
    fingerprint := self.fingerprint sodium
    sessionId := offer.sessionId
    code := offer.code
    expiresAtMs := offer.expiresAtMs }

/-- The parts in front of the code. -/
def headPairs : List (Bytes × Bytes) :=
  [(ascii "v", ascii "1"), (ascii "host", host), (ascii "port", decimalText port.toNat),
    (ascii "pcid", self.deviceId sodium), (ascii "fp", self.fingerprint sodium),
    (ascii "sid", offer.sessionId)]

structure Fits : Prop where
  port : port ≠ 0#16
  host : host ≠ [] ∧ Plain host
  sid : offer.sessionId ≠ [] ∧ Plain offer.sessionId
  code : offer.code.length = 6 ∧ ampersand ∉ offer.code

def headText : Bytes :=
  joined (headPairs sodium self offer host port) ++
    ampersand :: part (ascii "code") (cString offer.code)

end

section

variable {sodium : Sodium} {self : DeviceIdentity} {offer : PairingOffer} {host : Bytes}
  {port : BitVec 16}

theorem pairingText_eq (urlSafe : sodium.UrlSafe) (fits : Fits offer host port) :
    pairingText sodium self offer host port =
      kPairingPrefix ++ (headText sodium self offer host port ++
        ampersand :: part (ascii "exp") (decimalText offer.expiresAtMs.toNat)) := by
  have device : cString (self.deviceId sodium) = self.deviceId sodium :=
    (urlSafe.plain self.public_.val).cString
  unfold pairingText headText headPairs joined joined joined joined joined joined part
  rw [fits.host.2.cString, fits.sid.2.cString, device,
    (DeviceIdentity.fingerprint_plain sodium self).cString]
  simp only [List.append_assoc, List.cons_append]
  rfl

theorem headPairs_clean (urlSafe : sodium.UrlSafe) (fits : Fits offer host port) :
    ∀ pair ∈ headPairs sodium self offer host port, Clean pair := by
  intro pair member
  simp only [headPairs, List.mem_cons, List.not_mem_nil, or_false] at member
  rcases member with rfl | rfl | rfl | rfl | rfl | rfl
  · exact Clean.of (by decide) (by decide)
  · exact Clean.of (by decide) fits.host.2.1
  · exact Clean.of (by decide) (plain_decimalText _).1
  · exact Clean.of (by decide) (urlSafe.plain _).1
  · exact Clean.of (by decide) (DeviceIdentity.fingerprint_plain sodium self).1
  · exact Clean.of (by decide) fits.sid.2.1

theorem code_clean (fits : Fits offer host port) :
    Clean (ascii "code", cString offer.code) :=
  Clean.of (by decide) fun member => fits.code.2 ((List.takeWhile_prefix _).subset member)

theorem keyValues_head (urlSafe : sodium.UrlSafe) (fits : Fits offer host port) :
    keyValues (headText sodium self offer host port) =
      headPairs sodium self offer host port ++ [(ascii "code", cString offer.code)] := by
  unfold headText
  rw [keyValues_append, keyValues_joined _ (headPairs_clean urlSafe fits),
    keyValues_single (code_clean fits).absent, keyValue_part (code_clean fits).key.2]
  rfl

theorem headText_length (urlSafe : sodium.UrlSafe) :
    (headText sodium self offer host port).length =
      98 + host.length + (decimalText port.toNat).length + offer.sessionId.length +
        (cString offer.code).length := by
  have device : (self.deviceId sodium).length = 43 := by
    unfold DeviceIdentity.deviceId toBase64
    rw [urlSafe.length, self.public_.property]
    rfl
  unfold headText headPairs joined joined joined joined joined joined part
  simp only [List.length_append, List.length_cons, device,
    DeviceIdentity.fingerprint_length sodium self]
  have names : (ascii "v").length = 1 ∧ (ascii "1").length = 1 ∧ (ascii "host").length = 4 ∧
      (ascii "port").length = 4 ∧ (ascii "pcid").length = 4 ∧ (ascii "fp").length = 2 ∧
      (ascii "sid").length = 3 ∧ (ascii "code").length = 4 := by decide
  omega

theorem reading_port (port : BitVec 16) :
    (reading (some (decimalText port.toNat))).setWidth 16 = port := by
  have small := port.isLt
  rw [reading_numeral (decimalText_numeral port.toNat) rfl (by omega)]
  apply BitVec.eq_of_toNat_eq
  rw [BitVec.toNat_setWidth, BitVec.toNat_ofNat]
  omega

theorem scan_head {rest : Bytes} (expiry : Option Bytes)
    (parts : keyValues rest = headPairs sodium self offer host port ++
      [(ascii "code", cString offer.code)] ++ (expiry.map (Prod.mk (ascii "exp"))).toList) :
    PairingUri.scan {} rest =
      { linkOf sodium self offer host port with
        code := cString offer.code
        expiresAtMs := reading expiry } := by
  rw [PairingUri.scan_fields]
  unfold lastValue
  rw [parts]
  cases expiry with
  | none =>
      ext1
      · change (reading (some (ascii "1"))).setWidth 32 = 1#32
        decide
      · rfl
      · exact reading_port port
      · rfl
      · rfl
      · rfl
      · rfl
      · rfl
  | some text =>
      ext1
      · change (reading (some (ascii "1"))).setWidth 32 = 1#32
        decide
      · rfl
      · exact reading_port port
      · rfl
      · rfl
      · rfl
      · rfl
      · rfl

theorem cString_eq_iff (text : Bytes) : cString text = text ↔ 0 ∉ text := by
  unfold cString
  rw [List.takeWhile_eq_self_iff]
  constructor
  · intro all member
    exact absurd (all 0 member) (by decide)
  · intro absent byte member
    rw [bne_iff_ne]
    rintro rfl
    exact absent member

theorem reading_zero_cut (count : Nat) :
    reading (some ((decimalText 0).take count)) = 0#64 := by
  cases count with
  | zero => decide
  | succ count =>
      have whole : (decimalText 0).take (count + 1) = [0x30] := by
        cases count <;> rfl
      rw [whole]
      decide

/-- An expiry that is cut is read as a smaller number. -/
theorem reading_cut_ne {expiry : BitVec 64} {count : Nat} (nonzero : expiry ≠ 0#64)
    (cut : count < (decimalText expiry.toNat).length) :
    reading (some ((decimalText expiry.toNat).take count)) ≠ expiry := by
  have numeral := decimalText_numeral expiry.toNat
  have positive : 0 < expiry.toNat := by
    rw [Nat.pos_iff_ne_zero]
    exact fun zero => nonzero (BitVec.eq_of_toNat_eq zero)
  have smaller := digitsValue_take_lt cut (by rw [numeral.value]; exact positive)
  have bound := expiry.isLt
  rw [numeral.value] at smaller
  have read := strtoull_digits
    (fun byte member => numeral.digits byte (List.mem_of_mem_take member)) (smaller.trans bound)
  intro same
  have value := congrArg BitVec.toNat (read.symm.trans same)
  rw [BitVec.toNat_ofNat] at value
  omega

theorem reading_cut_iff (expiry : BitVec 64) (count : Nat) :
    reading (if 4 < count then some ((decimalText expiry.toNat).take (count - 5)) else none) =
        expiry ↔
      expiry = 0#64 ∨ 5 + (decimalText expiry.toNat).length ≤ count := by
  have numeral := decimalText_numeral expiry.toNat
  by_cases zero : expiry = 0#64
  · rw [zero]
    refine ⟨fun _ => Or.inl rfl, fun _ => ?_⟩
    split
    · exact reading_zero_cut _
    · rfl
  · rw [or_iff_right zero]
    constructor
    · intro same
      by_contra cut
      split at same
      · exact reading_cut_ne zero (by omega) same
      · exact zero same.symm
    · intro whole
      rw [if_pos (by omega), List.take_of_length_le (by omega),
        reading_numeral numeral rfl expiry.isLt, BitVec.ofNat_toNat, BitVec.setWidth_eq]

/-- The whole head is there: only the expiry may be cut. -/
theorem roundTrip_long (urlSafe : sodium.UrlSafe) (fits : Fits offer host port) {room : Nat}
    (long : (headText sodium self offer host port).length ≤ room) :
    PairingUri.scan {} ((headText sodium self offer host port ++
        ampersand :: part (ascii "exp") (decimalText offer.expiresAtMs.toNat)).take room) =
      linkOf sodium self offer host port ↔
    0 ∉ offer.code ∧ (offer.expiresAtMs = 0#64 ∨
      5 + (decimalText offer.expiresAtMs.toNat).length ≤
        room - (headText sodium self offer host port).length) := by
  have clean : Clean (ascii "exp", decimalText offer.expiresAtMs.toNat) :=
    Clean.of (by decide) (plain_decimalText _).1
  rw [List.take_append, List.take_of_length_le long]
  generalize room - (headText sodium self offer host port).length = left
  have parts := keyValues_cut (headText sodium self offer host port) clean left
  have name : (ascii "exp").length = 3 := by decide
  rw [keyValues_head urlSafe fits, name] at parts
  rw [scan_head (if 4 < left then
      some ((decimalText offer.expiresAtMs.toNat).take (left - 5)) else none) (by
    rw [parts]
    split <;> rfl), ← cString_eq_iff, ← reading_cut_iff]
  constructor
  · intro same
    exact ⟨congrArg PairingUri.code same, congrArg PairingUri.expiresAtMs same⟩
  · rintro ⟨code, expiry⟩
    rw [code, expiry]
    rfl

theorem lastValue_code_cut (urlSafe : sodium.UrlSafe) (fits : Fits offer host port)
    (room : Nat) :
    lastValue (ascii "code") ((joined (headPairs sodium self offer host port)).take room) =
      none := by
  unfold lastValue
  rw [Option.map_eq_none_iff, List.find?_eq_none]
  intro pair member
  obtain ⟨whole, among, key⟩ := keyValues_take_keys (List.mem_reverse.mp member)
  rw [keyValues_joined _ (headPairs_clean urlSafe fits)] at among
  rw [← key]
  have others : ∀ key ∈ [ascii "v", ascii "host", ascii "port", ascii "pcid", ascii "fp",
      ascii "sid"], ¬ (key == ascii "code") = true := by decide
  exact others whole.1 (List.mem_map_of_mem among)

/-- The head is cut, and with it the code. -/
theorem roundTrip_short (urlSafe : sodium.UrlSafe) (fits : Fits offer host port) {room : Nat}
    (short : room < (headText sodium self offer host port).length) (tail : Bytes) :
    PairingUri.scan {} ((headText sodium self offer host port ++ tail).take room) ≠
      linkOf sodium self offer host port := by
  rw [List.take_append_of_le_length (le_of_lt short)]
  intro same
  have code := congrArg PairingUri.code same
  rw [PairingUri.scan_fields] at code
  have six : ((lastValue (ascii "code") ((headText sodium self offer host port).take
      room)).getD []).length = 6 := (congrArg List.length code).trans fits.code.1
  unfold headText at six short
  rw [List.take_append] at six
  cases left : room - (joined (headPairs sodium self offer host port)).length with
  | zero =>
      rw [left, List.take_zero, List.append_nil, lastValue_code_cut urlSafe fits] at six
      cases six
  | succ more =>
      have few : (cString offer.code).length ≤ 6 :=
        fits.code.1 ▸ (List.takeWhile_prefix _).length_le
      have name : (ascii "code").length = 4 := by decide
      have parts := keyValues_cut (joined (headPairs sodium self offer host port))
        (code_clean fits) (more + 1)
      rw [keyValues_joined _ (headPairs_clean urlSafe fits), name] at parts
      unfold part at short
      rw [List.length_append, List.length_cons, List.length_append, List.length_cons, name] at short
      rw [left, List.take_of_length_le (by omega)] at six
      unfold lastValue at six
      rw [parts] at six
      split at six
      · have value : ((cString offer.code).take (more + 1 - 4 - 2)).length = 6 := six
        rw [List.length_take] at value
        omega
      · cases six

end

theorem parse_iff_scan {sodium : Sodium} (urlSafe : sodium.UrlSafe) {self : DeviceIdentity}
    {offer : PairingOffer} {host : Bytes} {port : BitVec 16} (fits : Fits offer host port)
    (rest : Bytes) :
    parsePairingUri (kPairingPrefix ++ rest) = some (linkOf sodium self offer host port) ↔
      PairingUri.scan {} rest = linkOf sodium self offer host port := by
  have device : self.deviceId sodium ≠ [] := by
    intro none
    have length := urlSafe.length self.public_.val
    rw [show sodium.bin2base64 self.public_.val = [] from none, self.public_.property] at length
    cases length
  rw [parsePairingUri_scheme, namesAll_iff]
  constructor
  · exact fun accepted => accepted.1.symm
  · intro same
    rw [same]
    exact ⟨rfl, ⟨fits.host.1, device, fits.sid.1, fits.code.1⟩, rfl, fits.port⟩

theorem buildPairingUri_cut {sodium : Sodium} (urlSafe : sodium.UrlSafe) (self : DeviceIdentity)
    {offer : PairingOffer} {host : Bytes} {port : BitVec 16} (fits : Fits offer host port) :
    buildPairingUri sodium self offer host port = kPairingPrefix ++
      (headText sodium self offer host port ++
        ampersand :: part (ascii "exp") (decimalText offer.expiresAtMs.toNat)).take 495 := by
  have name : kPairingPrefix.length = 16 := by decide
  unfold buildPairingUri
  rw [pairingText_eq urlSafe fits, List.take_append, name,
    List.take_of_length_le (by rw [name]; decide)]
  rfl

/-- Of a head that the buffer holds only digits of the expiry can be missing. -/
theorem returns_iff_of_long {sodium : Sodium} (urlSafe : sodium.UrlSafe) {self : DeviceIdentity}
    {offer : PairingOffer} {host : Bytes} {port : BitVec 16} (fits : Fits offer host port)
    (long : (headText sodium self offer host port).length ≤ 495) :
    parsePairingUri (buildPairingUri sodium self offer host port) =
        some (linkOf sodium self offer host port) ↔
      0 ∉ offer.code ∧
        (host.length + (decimalText port.toNat).length + offer.sessionId.length +
            (decimalText offer.expiresAtMs.toNat).length ≤ 386 ∨
          (offer.expiresAtMs = 0#64 ∧
            host.length + (decimalText port.toNat).length + offer.sessionId.length ≤ 391)) := by
  have length := @headText_length sodium self offer host port urlSafe
  rw [buildPairingUri_cut urlSafe self fits, parse_iff_scan urlSafe fits,
    roundTrip_long urlSafe fits long]
  apply and_congr_right
  intro plain
  have six : (cString offer.code).length = 6 := by
    rw [(cString_eq_iff offer.code).mpr plain, fits.code.1]
  have some : (decimalText offer.expiresAtMs.toNat).length ≠ 0 := fun none =>
    (decimalText_numeral offer.expiresAtMs.toNat).nonempty (List.eq_nil_of_length_eq_zero none)
  constructor
  · rintro (zero | whole)
    · right
      exact ⟨zero, by omega⟩
    · left
      omega
  · rintro (whole | ⟨zero, -⟩)
    · right
      omega
    · left
      exact zero

theorem long_of_returns {sodium : Sodium} (urlSafe : sodium.UrlSafe) {self : DeviceIdentity}
    {offer : PairingOffer} {host : Bytes} {port : BitVec 16} (fits : Fits offer host port)
    (returns : parsePairingUri (buildPairingUri sodium self offer host port) =
      some (linkOf sodium self offer host port)) :
    (headText sodium self offer host port).length ≤ 495 := by
  rw [buildPairingUri_cut urlSafe self fits, parse_iff_scan urlSafe fits] at returns
  by_contra short
  exact roundTrip_short urlSafe fits (not_le.mp short) _ returns

/-- The link comes back as it was written exactly when its code has no NUL and all of it, or
all of it but a zero expiry, fits the buffer. -/
theorem pairingUri_roundTrip_iff (sodium : Sodium) (urlSafe : sodium.UrlSafe)
    (self : DeviceIdentity) (offer : PairingOffer) (host : Bytes) (port : BitVec 16)
    (fits : Fits offer host port) :
    parsePairingUri (buildPairingUri sodium self offer host port) =
        some (linkOf sodium self offer host port) ↔
      0 ∉ offer.code ∧
        (host.length + (decimalText port.toNat).length + offer.sessionId.length +
            (decimalText offer.expiresAtMs.toNat).length ≤ 386 ∨
          (offer.expiresAtMs = 0#64 ∧
            host.length + (decimalText port.toNat).length + offer.sessionId.length ≤ 391)) := by
  constructor
  · intro returns
    exact (returns_iff_of_long urlSafe fits (long_of_returns urlSafe fits returns)).mp returns
  · intro small
    have length := @headText_length sodium self offer host port urlSafe
    have few : (cString offer.code).length ≤ 6 :=
      fits.code.1 ▸ (List.takeWhile_prefix _).length_le
    refine (returns_iff_of_long urlSafe fits ?_).mpr small
    obtain ⟨-, whole | ⟨-, whole⟩⟩ := small
    · omega
    · omega

open StandIn in
theorem letter_urlSafe (value : Nat) :
    (0x41 ≤ (digit value).toNat ∧ (digit value).toNat ≤ 0x5a) ∨
      (0x61 ≤ (digit value).toNat ∧ (digit value).toNat ≤ 0x7a) ∨
      (0x30 ≤ (digit value).toNat ∧ (digit value).toNat ≤ 0x39) ∨
      (digit value).toNat = 0x2d ∨ (digit value).toNat = 0x5f := by
  have table : ∀ index < 64, (0x41 ≤ (letter index).toNat ∧ (letter index).toNat ≤ 0x5a) ∨
      (0x61 ≤ (letter index).toNat ∧ (letter index).toNat ≤ 0x7a) ∨
      (0x30 ≤ (letter index).toNat ∧ (letter index).toNat ≤ 0x39) ∨
      (letter index).toNat = 0x2d ∨ (letter index).toNat = 0x5f := by decide +kernel
  exact table _ (Nat.mod_lt _ (by decide))

theorem standIn_urlSafe : StandIn.sodium.UrlSafe where
  length := by
    intro data
    change (StandIn.encode64 data).length = _
    induction data using StandIn.encode64.induct with
    | case1 => rfl
    | case2 first => simp [StandIn.encode64]
    | case3 first second => simp [StandIn.encode64]
    | case4 first second third rest ih =>
        unfold StandIn.encode64
        rw [List.length_append, ih]
        simp only [List.length_cons, List.length_nil]
        omega
  alphabet := by
    intro data
    change ∀ byte ∈ StandIn.encode64 data, _
    induction data using StandIn.encode64.induct with
    | case1 => exact List.forall_mem_nil _
    | case2 first =>
        simp only [StandIn.encode64, List.forall_mem_cons]
        exact ⟨letter_urlSafe _, letter_urlSafe _, List.forall_mem_nil _⟩
    | case3 first second =>
        simp only [StandIn.encode64, List.forall_mem_cons]
        exact ⟨letter_urlSafe _, letter_urlSafe _, letter_urlSafe _, List.forall_mem_nil _⟩
    | case4 first second third rest ih =>
        simp only [StandIn.encode64, List.cons_append, List.nil_append,
          List.forall_mem_cons]
        exact ⟨letter_urlSafe _, letter_urlSafe _, letter_urlSafe _, letter_urlSafe _, ih⟩

def sampleOffer : PairingOffer :=
  { sessionId := ascii "demo", code := ascii "123456", expiresAtMs := 5300000#64 }

theorem sampleOffer_fits {host : Bytes} (some : host ≠ []) (plain : Plain host) :
    Fits sampleOffer host 47820#16 :=
  { port := by decide
    host := ⟨some, plain⟩
    sid := ⟨by decide, by decide, by decide⟩
    code := by decide }

/-- A link for a LAN address. -/
theorem pairingUri_roundTrip_lan :
    parsePairingUri (buildPairingUri StandIn.sodium
        { public_ := FixedBytes.zero _, secret := FixedBytes.zero _ } sampleOffer
        (ascii "192.168.1.20") 47820#16) =
      some (linkOf StandIn.sodium
        { public_ := FixedBytes.zero _, secret := FixedBytes.zero _ } sampleOffer
        (ascii "192.168.1.20") 47820#16) := by
  rw [pairingUri_roundTrip_iff _ standIn_urlSafe _ _ _ _
    (sampleOffer_fits (by decide) ⟨by decide, by decide⟩)]
  refine ⟨by decide, Or.inl ?_⟩
  simp [decimalText, sampleOffer, ascii]

/-- A host name of 400 bytes does not fit. -/
theorem pairingUri_longHost :
    ¬ ∀ (sodium : Sodium) (self : DeviceIdentity) (offer : PairingOffer) (host : Bytes)
        (port : BitVec 16), sodium.UrlSafe → Fits offer host port →
      parsePairingUri (buildPairingUri sodium self offer host port) =
        some (linkOf sodium self offer host port) := by
  intro always
  have plain : Plain (List.replicate 400 0x68) :=
    ⟨fun member => absurd (List.eq_of_mem_replicate member) (by decide),
      fun member => absurd (List.eq_of_mem_replicate member) (by decide)⟩
  have fits : Fits sampleOffer (List.replicate 400 0x68) 47820#16 :=
    sampleOffer_fits nofun plain
  have long := long_of_returns standIn_urlSafe fits (always StandIn.sodium
    { public_ := FixedBytes.zero _, secret := FixedBytes.zero _ } _ _ _ standIn_urlSafe fits)
  rw [headText_length standIn_urlSafe, List.length_replicate] at long
  omega

end SmartMic.Security
