import SmartMic.Protocol.Decimal

set_option autoImplicit false

/-! The pairing link as the phone reads it from a QR code. The loop cuts the link at every
`&`; a part is a key and a value around its first `=`; a later part overwrites an earlier
one of the same key. `unsigned long` is 64 bits wide here. -/

namespace SmartMic.Security

@[ext]
structure PairingUri where
  version : BitVec 32 := 0#32
  host : Bytes := []
  port : BitVec 16 := 0#16
  pcDeviceId : Bytes := []
  fingerprint : Bytes := []
  sessionId : Bytes := []
  code : Bytes := []
  expiresAtMs : BitVec 64 := 0#64

def kPairingPrefix : Bytes := ascii "smartmic://pair?"

def ampersand : UInt8 := 0x26

def equalsSign : UInt8 := 0x3d

/-- The key and the value of a part, when it has an `=`. -/
def keyValue (kv : Bytes) : Option (Bytes × Bytes) :=
  match kv.dropWhile fun byte => byte != equalsSign with
  | [] => none
  | _ :: v => some (kv.takeWhile fun byte => byte != equalsSign, v)

def PairingUri.set (out : PairingUri) (k v : Bytes) : PairingUri :=
  if k = ascii "v" then { out with version := (strtoull v).setWidth 32 }
  else if k = ascii "host" then { out with host := v }
  else if k = ascii "port" then { out with port := (strtoull v).setWidth 16 }
  else if k = ascii "pcid" then { out with pcDeviceId := v }
  else if k = ascii "fp" then { out with fingerprint := v }
  else if k = ascii "sid" then { out with sessionId := v }
  else if k = ascii "code" then { out with code := v }
  else if k = ascii "exp" then { out with expiresAtMs := strtoull v }
  else out

def PairingUri.take (out : PairingUri) (kv : Bytes) : PairingUri :=
  match keyValue kv with
  | none => out
  | some (k, v) => out.set k v

/-- The loop, on what is left of the link. -/
def PairingUri.scan (out : PairingUri) (rest : Bytes) : PairingUri :=
  let kv := rest.takeWhile fun byte => byte != ampersand
  match _found : rest.dropWhile fun byte => byte != ampersand with
  | [] => out.take kv
  | _ :: later => (out.take kv).scan later
termination_by rest.length
decreasing_by
  have shorter : (rest.dropWhile fun byte => byte != ampersand).length ≤ rest.length :=
    (List.dropWhile_suffix _).length_le
  rw [_found, List.length_cons] at shorter
  exact shorter

def parsePairingUri (uri : Bytes) : Option PairingUri :=
  if kPairingPrefix <+: uri then
    let out := PairingUri.scan {} (uri.drop kPairingPrefix.length)
    if out.version ≠ 1#32 ∨ out.host = [] ∨ out.port = 0#16 ∨ out.sessionId = [] ∨
        out.code.length ≠ 6 ∨ out.pcDeviceId = [] then none
    else some out
  else none

/-! ### What a link says -/

def keyValues (rest : Bytes) : List (Bytes × Bytes) :=
  (rest.splitOn ampersand).filterMap keyValue

/-- The value of the last part with this key. -/
def lastValue (key rest : Bytes) : Option Bytes :=
  ((keyValues rest).reverse.find? fun part => part.1 == key).map Prod.snd

/-- The grammar of a link after its prefix, and the fields that it stands for. -/
structure Spells (rest : Bytes) (link : PairingUri) : Prop where
  version : link.version = 1#32 ∧
    ∃ text, lastValue (ascii "v") rest = some text ∧ Numeral text 1
  host : lastValue (ascii "host") rest = some link.host ∧ link.host ≠ []
  port : link.port ≠ 0#16 ∧
    ∃ text, lastValue (ascii "port") rest = some text ∧ Numeral text link.port.toNat
  pcid : lastValue (ascii "pcid") rest = some link.pcDeviceId ∧ link.pcDeviceId ≠ []
  fp : link.fingerprint = (lastValue (ascii "fp") rest).getD []
  sid : lastValue (ascii "sid") rest = some link.sessionId ∧ link.sessionId ≠ []
  code : lastValue (ascii "code") rest = some link.code ∧ link.code.length = 6
  exp : (lastValue (ascii "exp") rest = none ∧ link.expiresAtMs = 0#64) ∨
    ∃ text, lastValue (ascii "exp") rest = some text ∧ Numeral text link.expiresAtMs.toNat

def IsPairingLink (uri : Bytes) (link : PairingUri) : Prop :=
  ∃ rest, uri = kPairingPrefix ++ rest ∧ Spells rest link

/-! ### The loop takes the last value of every key -/

theorem cut_cases (separator : UInt8) (text : Bytes) :
    (separator ∉ text ∧ text.takeWhile (fun byte => byte != separator) = text ∧
      text.dropWhile (fun byte => byte != separator) = []) ∨
    ∃ first later, text = first ++ separator :: later ∧ separator ∉ first ∧
      text.takeWhile (fun byte => byte != separator) = first ∧
      text.dropWhile (fun byte => byte != separator) = separator :: later := by
  induction text with
  | nil => exact Or.inl ⟨List.not_mem_nil, rfl, rfl⟩
  | cons byte rest ih =>
      by_cases here : byte = separator
      · right
        refine ⟨[], rest, by rw [here]; rfl, List.not_mem_nil, ?_, ?_⟩
        · simp [here]
        · simp [here]
      · have passes : (byte != separator) = true := by simpa using here
        simp only [List.takeWhile_cons, List.dropWhile_cons, passes, if_true]
        rcases ih with ⟨absent, taken, dropped⟩ | ⟨first, later, whole, absent, taken, dropped⟩
        · left
          refine ⟨?_, by rw [taken], dropped⟩
          exact List.not_mem_cons_of_ne_of_not_mem (Ne.symm here) absent
        · right
          refine ⟨byte :: first, later, by rw [whole]; rfl, ?_, by rw [taken], dropped⟩
          exact List.not_mem_cons_of_ne_of_not_mem (Ne.symm here) absent

theorem PairingUri.scan_eq (out : PairingUri) (rest : Bytes) :
    out.scan rest = (rest.splitOn ampersand).foldl PairingUri.take out := by
  induction size : rest.length using Nat.strongRecOn generalizing out rest with
  | ind length ih =>
      rw [PairingUri.scan]
      rcases cut_cases ampersand rest with
        ⟨absent, taken, dropped⟩ | ⟨first, later, whole, absent, taken, dropped⟩
      · rw [List.splitOn_eq_singleton absent]
        split
        · rw [taken]
          rfl
        · rename_i found
          rw [dropped] at found
          cases found
      · split
        · rename_i found
          rw [dropped] at found
          cases found
        · rename_i found
          rw [dropped] at found
          cases found
          have smaller : later.length < length := by
            rw [← size, whole, List.length_append, List.length_cons]
            omega
          rw [taken, ih later.length smaller _ later rfl, whole,
            List.splitOn_append_cons_self_of_not_mem absent, List.foldl_cons]

theorem PairingUri.scan_pairs (out : PairingUri) (rest : Bytes) :
    out.scan rest = (keyValues rest).foldl (fun out part => out.set part.1 part.2) out := by
  unfold keyValues
  rw [PairingUri.scan_eq, List.foldl_filterMap]
  congr 1
  funext out kv
  unfold PairingUri.take
  split
  · rename_i none
    rw [none]
  · rename_i some
    rw [some]

theorem foldl_field {α : Type} (field : PairingUri → α) (key : Bytes) (read : Bytes → α)
    (sets : ∀ out k v, field (PairingUri.set out k v) = if k = key then read v else field out)
    (pairs : List (Bytes × Bytes)) (out : PairingUri) :
    field (pairs.foldl (fun out part => out.set part.1 part.2) out) =
      ((((pairs.reverse.find? fun part => part.1 == key).map Prod.snd).map read).getD
        (field out)) := by
  induction pairs generalizing out with
  | nil => rfl
  | cons part rest ih =>
      rw [List.foldl_cons, ih, List.reverse_cons, List.find?_append, sets]
      cases rest.reverse.find? fun part => part.1 == key with
      | some found => rfl
      | none =>
          by_cases here : part.1 = key
          · simp [here]
          · simp [here]

theorem PairingUri.scan_field {α : Type} (field : PairingUri → α) (key : Bytes)
    (read : Bytes → α)
    (sets : ∀ out k v, field (PairingUri.set out k v) = if k = key then read v else field out)
    (rest : Bytes) :
    field (PairingUri.scan {} rest) = ((lastValue key rest).map read).getD (field {}) := by
  rw [PairingUri.scan_pairs, foldl_field field key read sets]
  rfl

theorem PairingUri.set_eq (out : PairingUri) (k v : Bytes) :
    out.set k v =
      { version := if k = ascii "v" then (strtoull v).setWidth 32 else out.version
        host := if k = ascii "host" then v else out.host
        port := if k = ascii "port" then (strtoull v).setWidth 16 else out.port
        pcDeviceId := if k = ascii "pcid" then v else out.pcDeviceId
        fingerprint := if k = ascii "fp" then v else out.fingerprint
        sessionId := if k = ascii "sid" then v else out.sessionId
        code := if k = ascii "code" then v else out.code
        expiresAtMs := if k = ascii "exp" then strtoull v else out.expiresAtMs } := by
  unfold PairingUri.set
  split_ifs <;> simp_all +decide

/-- What the C library reads in the last value of a key, or nothing. -/
def reading (text : Option Bytes) : BitVec 64 := (text.map strtoull).getD 0#64

theorem PairingUri.scan_fields (rest : Bytes) :
    PairingUri.scan {} rest =
      { version := (reading (lastValue (ascii "v") rest)).setWidth 32
        host := (lastValue (ascii "host") rest).getD []
        port := (reading (lastValue (ascii "port") rest)).setWidth 16
        pcDeviceId := (lastValue (ascii "pcid") rest).getD []
        fingerprint := (lastValue (ascii "fp") rest).getD []
        sessionId := (lastValue (ascii "sid") rest).getD []
        code := (lastValue (ascii "code") rest).getD []
        expiresAtMs := reading (lastValue (ascii "exp") rest) } := by
  have version := PairingUri.scan_field PairingUri.version (ascii "v")
    (fun v => (strtoull v).setWidth 32) (fun out k v => by rw [PairingUri.set_eq]) rest
  have host := PairingUri.scan_field PairingUri.host (ascii "host") id
    (fun out k v => by rw [PairingUri.set_eq]; rfl) rest
  have port := PairingUri.scan_field PairingUri.port (ascii "port")
    (fun v => (strtoull v).setWidth 16) (fun out k v => by rw [PairingUri.set_eq]) rest
  have pcid := PairingUri.scan_field PairingUri.pcDeviceId (ascii "pcid") id
    (fun out k v => by rw [PairingUri.set_eq]; rfl) rest
  have fp := PairingUri.scan_field PairingUri.fingerprint (ascii "fp") id
    (fun out k v => by rw [PairingUri.set_eq]; rfl) rest
  have sid := PairingUri.scan_field PairingUri.sessionId (ascii "sid") id
    (fun out k v => by rw [PairingUri.set_eq]; rfl) rest
  have code := PairingUri.scan_field PairingUri.code (ascii "code") id
    (fun out k v => by rw [PairingUri.set_eq]; rfl) rest
  have exp := PairingUri.scan_field PairingUri.expiresAtMs (ascii "exp") strtoull
    (fun out k v => by rw [PairingUri.set_eq]) rest
  rw [Option.map_id] at host pcid fp sid code
  ext1
  · rw [version]
    cases lastValue (ascii "v") rest <;> rfl
  · exact host
  · rw [port]
    cases lastValue (ascii "port") rest <;> rfl
  · exact pcid
  · exact fp
  · exact sid
  · exact code
  · exact exp

/-! ### When the parser keeps to the grammar -/

def PlainNumber (limit : Nat) (text : Option Bytes) : Prop :=
  ∃ digits number, text = some digits ∧ Numeral digits number ∧ number < limit

/-- Every part but the three numbers is as the grammar has it. -/
def NamesAll (rest : Bytes) : Prop :=
  (lastValue (ascii "host") rest).getD [] ≠ [] ∧ (lastValue (ascii "pcid") rest).getD [] ≠ [] ∧
    (lastValue (ascii "sid") rest).getD [] ≠ [] ∧
    ((lastValue (ascii "code") rest).getD []).length = 6

/-- The numbers are plain numerals that fit their fields. -/
def PlainNumbers (rest : Bytes) : Prop :=
  PlainNumber (2 ^ 32) (lastValue (ascii "v") rest) ∧
    PlainNumber (2 ^ 16) (lastValue (ascii "port") rest) ∧
    (lastValue (ascii "exp") rest = none ∨ PlainNumber (2 ^ 64) (lastValue (ascii "exp") rest))

/-- A link with all names whose version is read as one and whose port is not read as zero,
in their 32 and 16 bits, has plain numbers. -/
def PlainLink (uri : Bytes) : Prop :=
  ∀ rest, uri = kPairingPrefix ++ rest → NamesAll rest →
    (reading (lastValue (ascii "v") rest)).setWidth 32 = 1#32 →
    (reading (lastValue (ascii "port") rest)).setWidth 16 ≠ 0#16 → PlainNumbers rest

theorem getD_nil_iff {text : Option Bytes} {value : Bytes} (some : value ≠ []) :
    text = .some value ↔ text.getD [] = value := by
  cases text with
  | none => exact ⟨nofun, fun none => absurd none.symm some⟩
  | some found => exact Option.some_inj

theorem reading_numeral {text : Option Bytes} {digits : Bytes} {number : Nat}
    (numeral : Numeral digits number) (found : text = some digits) (fits : number < 2 ^ 64) :
    reading text = BitVec.ofNat 64 number := by
  unfold reading
  rw [found]
  exact numeral.strtoull fits

theorem namesAll_iff (rest : Bytes) :
    NamesAll rest ↔ (PairingUri.scan {} rest).host ≠ [] ∧
      (PairingUri.scan {} rest).pcDeviceId ≠ [] ∧ (PairingUri.scan {} rest).sessionId ≠ [] ∧
      (PairingUri.scan {} rest).code.length = 6 := by
  rw [PairingUri.scan_fields]
  rfl

theorem parsePairingUri_scheme (rest : Bytes) (link : PairingUri) :
    parsePairingUri (kPairingPrefix ++ rest) = some link ↔
      link = PairingUri.scan {} rest ∧ NamesAll rest ∧
        (PairingUri.scan {} rest).version = 1#32 ∧ (PairingUri.scan {} rest).port ≠ 0#16 := by
  unfold parsePairingUri
  rw [if_pos (List.prefix_append _ _), List.drop_left, namesAll_iff]
  dsimp only
  split
  · rename_i refused
    constructor
    · intro impossible
      cases impossible
    · rintro ⟨-, ⟨host, pcid, sid, code⟩, version, port⟩
      rcases refused with wrong | wrong | wrong | wrong | wrong | wrong
      · exact absurd version wrong
      · exact absurd wrong host
      · exact absurd wrong port
      · exact absurd wrong sid
      · exact absurd code wrong
      · exact absurd wrong pcid
  · rename_i accepted
    simp only [not_or, not_not] at accepted
    obtain ⟨version, host, port, sid, code, pcid⟩ := accepted
    rw [Option.some_inj, eq_comm]
    exact ⟨fun same => ⟨same, ⟨host, pcid, sid, code⟩, version, port⟩, And.left⟩

theorem parsePairingUri_other {uri : Bytes} (other : ∀ rest, uri ≠ kPairingPrefix ++ rest) :
    parsePairingUri uri = none := by
  unfold parsePairingUri
  rw [if_neg]
  rintro ⟨rest, whole⟩
  exact other rest whole.symm

theorem Spells.scan {rest : Bytes} {link : PairingUri} (spells : Spells rest link) :
    link = PairingUri.scan {} rest := by
  rw [PairingUri.scan_fields]
  ext1
  · obtain ⟨one, text, found, numeral⟩ := spells.version
    rw [one, reading_numeral numeral found (by decide)]
    rfl
  · exact ((getD_nil_iff spells.host.2).mp spells.host.1).symm
  · obtain ⟨-, text, found, numeral⟩ := spells.port
    have small := link.port.isLt
    rw [reading_numeral numeral found (by omega)]
    apply BitVec.eq_of_toNat_eq
    rw [BitVec.toNat_setWidth, BitVec.toNat_ofNat]
    omega
  · exact ((getD_nil_iff spells.pcid.2).mp spells.pcid.1).symm
  · exact spells.fp
  · exact ((getD_nil_iff spells.sid.2).mp spells.sid.1).symm
  · rw [spells.code.1]
    rfl
  · rcases spells.exp with ⟨absent, zero⟩ | ⟨text, found, numeral⟩
    · rw [absent, zero]
      rfl
    · rw [reading_numeral numeral found link.expiresAtMs.isLt, BitVec.ofNat_toNat,
        BitVec.setWidth_eq]

theorem Spells.names {rest : Bytes} {link : PairingUri} (spells : Spells rest link) :
    NamesAll rest := by
  unfold NamesAll
  rw [spells.host.1, spells.pcid.1, spells.sid.1, spells.code.1]
  exact ⟨spells.host.2, spells.pcid.2, spells.sid.2, spells.code.2⟩

theorem Spells.plain {rest : Bytes} {link : PairingUri} (spells : Spells rest link) :
    PlainNumbers rest := by
  obtain ⟨-, version, versionFound, one⟩ := spells.version
  obtain ⟨-, port, portFound, number⟩ := spells.port
  refine ⟨⟨version, 1, versionFound, one, by decide⟩,
    ⟨port, link.port.toNat, portFound, number, link.port.isLt⟩, ?_⟩
  rcases spells.exp with ⟨absent, -⟩ | ⟨text, found, expiry⟩
  · exact Or.inl absent
  · exact Or.inr ⟨text, link.expiresAtMs.toNat, found, expiry, link.expiresAtMs.isLt⟩

/-- Plain numbers that the parser accepts are those of the grammar. -/
theorem PlainNumbers.spells {rest : Bytes} (plain : PlainNumbers rest) (names : NamesAll rest)
    (version : (PairingUri.scan {} rest).version = 1#32)
    (port : (PairingUri.scan {} rest).port ≠ 0#16) : Spells rest (PairingUri.scan {} rest) := by
  obtain ⟨⟨one, oneNumber, oneFound, oneNumeral, oneFits⟩,
    ⟨two, twoNumber, twoFound, twoNumeral, twoFits⟩, expiry⟩ := plain
  rw [namesAll_iff] at names
  obtain ⟨host, pcid, sid, code⟩ := names
  rw [PairingUri.scan_fields] at *
  dsimp only at *
  have readOne := reading_numeral oneNumeral oneFound (by omega)
  have readTwo := reading_numeral twoNumeral twoFound (by omega)
  constructor
  · refine ⟨version, one, oneFound, ?_⟩
    have value := congrArg BitVec.toNat version
    rw [readOne, BitVec.toNat_setWidth, BitVec.toNat_ofNat, BitVec.toNat_ofNat] at value
    have number : oneNumber = 1 := by omega
    rw [number] at oneNumeral
    exact oneNumeral
  · exact ⟨(getD_nil_iff host).mpr rfl, host⟩
  · refine ⟨port, two, twoFound, ?_⟩
    dsimp only
    rw [readTwo, BitVec.toNat_setWidth, BitVec.toNat_ofNat]
    have number : twoNumber % 2 ^ 64 % 2 ^ 16 = twoNumber := by omega
    rw [number]
    exact twoNumeral
  · exact ⟨(getD_nil_iff pcid).mpr rfl, pcid⟩
  · rfl
  · exact ⟨(getD_nil_iff sid).mpr rfl, sid⟩
  · refine ⟨(getD_nil_iff ?_).mpr rfl, code⟩
    intro none
    have empty : ((lastValue (ascii "code") rest).getD []).length = 0 := congrArg List.length none
    omega
  · rcases expiry with absent | ⟨text, number, found, numeral, fits⟩
    · left
      refine ⟨absent, ?_⟩
      dsimp only
      rw [absent]
      rfl
    · right
      refine ⟨text, found, ?_⟩
      dsimp only
      rw [reading_numeral numeral found fits, BitVec.toNat_ofNat, Nat.mod_eq_of_lt fits]
      exact numeral

theorem plainLink_of_exact {uri : Bytes}
    (exact_ : ∀ link, parsePairingUri uri = some link ↔ IsPairingLink uri link) :
    PlainLink uri := by
  rintro rest rfl names version port
  have parsed := (parsePairingUri_scheme rest (PairingUri.scan {} rest)).mpr
    ⟨rfl, names, by rw [PairingUri.scan_fields]; exact version,
      by rw [PairingUri.scan_fields]; exact port⟩
  obtain ⟨other, whole, spells⟩ := (exact_ _).mp parsed
  rw [List.append_cancel_left whole]
  exact spells.plain

/-- The parser returns what the grammar says of exactly the plain links. -/
theorem parsePairingUri_exact_iff (uri : Bytes) :
    (∀ link, parsePairingUri uri = some link ↔ IsPairingLink uri link) ↔ PlainLink uri := by
  constructor
  · exact plainLink_of_exact
  · intro plain link
    constructor
    · intro parsed
      by_cases starts : ∃ rest, uri = kPairingPrefix ++ rest
      · obtain ⟨rest, rfl⟩ := starts
        obtain ⟨rfl, names, version, port⟩ := (parsePairingUri_scheme rest link).mp parsed
        refine ⟨rest, rfl, (plain rest rfl names ?_ ?_).spells names version port⟩
        · rw [PairingUri.scan_fields] at version
          exact version
        · rw [PairingUri.scan_fields] at port
          exact port
      · rw [parsePairingUri_other (not_exists.mp starts)] at parsed
        cases parsed
    · rintro ⟨rest, rfl, spells⟩
      have same := spells.scan
      refine (parsePairingUri_scheme rest link).mpr ⟨same, spells.names, ?_, ?_⟩
      · rw [← same]
        exact spells.version.1
      · rw [← same]
        exact spells.port.1

/-- A version of 2 ^ 32 + 1 is read as one. -/
theorem parsePairingUri_wideVersion :
    ¬ ∀ uri link, parsePairingUri uri = some link ↔ IsPairingLink uri link := by
  intro exact_
  have plain := plainLink_of_exact (exact_ (kPairingPrefix ++
    ascii "v=4294967297&host=h&port=47820&pcid=p&sid=s&code=123456"))
  obtain ⟨⟨digits, number, found, numeral, fits⟩, -⟩ :=
    plain _ rfl ⟨by decide, by decide, by decide, by decide⟩ (by decide) (by decide)
  have text : digits = ascii "4294967297" :=
    Option.some_inj.mp (found.symm.trans (by decide))
  have value := numeral.value
  rw [text] at value
  have wide : digitsValue (ascii "4294967297") = 4294967297 := by decide
  omega

end SmartMic.Security
