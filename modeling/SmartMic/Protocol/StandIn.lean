import SmartMic.Protocol.Json

set_option autoImplicit false

/-! JSON libraries that run, for the concrete messages of this development: one for
objects of unescaped strings, and one that also has the numbers, booleans and nested
objects of control messages. What cannot be written without an escape is refused. -/

namespace SmartMic.StandIn

open SmartMic.Protocol

/-! ### Objects of unescaped strings -/

def quote : UInt8 := 0x22

def isUnescaped (byte : UInt8) : Bool :=
  decide (0x20 ≤ byte ∧ byte < 0x7f ∧ byte ≠ 0x22 ∧ byte ≠ 0x5c)

def dumpString (text : Bytes) : Bytes := quote :: text ++ [quote]

def dumpField (field : Bytes × Bytes) : Bytes :=
  dumpString field.1 ++ ascii ":" ++ dumpString field.2

def dumpFields : List (Bytes × Bytes) → Bytes
  | [] => [0x7d]
  | [field] => dumpField field ++ [0x7d]
  | field :: rest => dumpField field ++ ascii "," ++ dumpFields rest

/-- The fields of an object of unescaped strings. -/
def stringFields : JsonFields → Option (List (Bytes × Bytes))
  | [] => some []
  | (key, .string text) :: rest =>
      if key.all isUnescaped && text.all isUnescaped then
        (stringFields rest).map fun fields => (key, text) :: fields
      else none
  | _ => none

def dump : Json → Option Bytes
  | .object fields => (stringFields fields).map fun fields => 0x7b :: dumpFields fields
  | _ => none

/-- The text up to a closing quote, and what follows it. -/
def readString : Bytes → Option (Bytes × Bytes)
  | [] => none
  | byte :: rest =>
      if byte = quote then some ([], rest)
      else if isUnescaped byte then
        (readString rest).map fun read => (byte :: read.1, read.2)
      else none

def readField (text : Bytes) : Option ((Bytes × Bytes) × Bytes) :=
  match text with
  | 0x22 :: text =>
      match readString text with
      | some (key, 0x3a :: 0x22 :: text) =>
          (readString text).map fun read => ((key, read.1), read.2)
      | _ => none
  | _ => none

/-- The fields up to the closing brace; the first argument bounds their number. -/
def readFields : Nat → Bytes → Option (List (Bytes × Bytes))
  | 0, _ => none
  | limit + 1, text =>
      match readField text with
      | some (field, [0x7d]) => some [field]
      | some (field, 0x2c :: rest) => (readFields limit rest).map fun fields => field :: fields
      | _ => none

def parse : Bytes → Option Json
  | [0x7b, 0x7d] => some (stringObject [])
  | 0x7b :: text => (readFields text.length text).map stringObject
  | _ => none

theorem readString_append {text : Bytes} (unescaped : text.all isUnescaped = true)
    (rest : Bytes) : readString (text ++ quote :: rest) = some (text, rest) := by
  induction text with
  | nil => exact if_pos rfl
  | cons byte text ih =>
      rw [List.all_cons, Bool.and_eq_true] at unescaped
      have inner : byte ≠ quote := (of_decide_eq_true unescaped.1).2.2.1
      rw [List.cons_append]
      unfold readString
      rw [if_neg inner, if_pos unescaped.1, ih unescaped.2]
      rfl

theorem readField_dumpField {field : Bytes × Bytes} (key : field.1.all isUnescaped = true)
    (text : field.2.all isUnescaped = true) (rest : Bytes) :
    readField (dumpField field ++ rest) = some (field, rest) := by
  have shape : dumpField field ++ rest =
      0x22 :: (field.1 ++ quote :: 0x3a :: 0x22 :: (field.2 ++ quote :: rest)) := by
    have colon : ascii ":" = [0x3a] := by decide
    unfold dumpField dumpString
    rw [colon]
    simp only [List.append_assoc, List.cons_append, List.nil_append]
    rfl
  rw [shape]
  unfold readField
  simp only
  rw [readString_append key]
  change (readString _).map _ = _
  rw [readString_append text]
  rfl

theorem readFields_dumpFields (fields : List (Bytes × Bytes)) (some_ : fields ≠ [])
    (unescaped : ∀ field ∈ fields,
      field.1.all isUnescaped = true ∧ field.2.all isUnescaped = true) :
    ∀ limit, fields.length ≤ limit → readFields limit (dumpFields fields) = some fields := by
  induction fields with
  | nil => exact absurd rfl some_
  | cons field rest ih =>
      intro limit enough
      obtain ⟨limit, rfl⟩ : ∃ below, limit = below + 1 :=
        ⟨limit - 1, by rw [List.length_cons] at enough; omega⟩
      obtain ⟨key, text⟩ := unescaped field (List.mem_cons_self ..)
      cases rest with
      | nil =>
          unfold dumpFields readFields
          rw [readField_dumpField key text]
          rfl
      | cons second rest =>
          have later := ih (List.cons_ne_nil _ _)
            (fun field member => unescaped field (List.mem_cons_of_mem _ member)) limit
            (by simp only [List.length_cons] at enough ⊢; omega)
          have comma : ascii "," = [0x2c] := by decide
          unfold dumpFields readFields
          rw [comma, List.append_assoc, readField_dumpField key text]
          change (readFields limit (dumpFields (second :: rest))).map _ = _
          rw [later]
          rfl

theorem dumpFields_length (fields : List (Bytes × Bytes)) :
    fields.length ≤ (dumpFields fields).length := by
  induction fields with
  | nil => exact Nat.zero_le _
  | cons field rest ih =>
      cases rest with
      | nil =>
          unfold dumpFields dumpField dumpString
          simp
      | cons second rest =>
          unfold dumpFields dumpField dumpString
          simp only [List.length_append, List.length_cons] at ih ⊢
          omega

theorem stringFields_map {fields : List (Bytes × Bytes)}
    (unescaped : ∀ field ∈ fields, Unescaped field.1 ∧ Unescaped field.2) :
    stringFields (fields.map fun field => (field.1, .string field.2)) = some fields := by
  have all : ∀ {text : Bytes}, Unescaped text → text.all isUnescaped = true := by
    intro text plain
    rw [List.all_eq_true]
    intro byte member
    exact decide_eq_true (plain byte member)
  induction fields with
  | nil => rfl
  | cons field rest ih =>
      obtain ⟨key, text⟩ := unescaped field (List.mem_cons_self ..)
      rw [List.map_cons]
      unfold stringFields
      rw [all key, all text,
        ih (fun field member => unescaped field (List.mem_cons_of_mem _ member))]
      rfl

theorem stringFields_spec (fields dumped : List (Bytes × Bytes))
    (given : stringFields (fields.map fun field => (field.1, .string field.2)) = some dumped) :
    dumped = fields ∧ ∀ field ∈ fields,
      field.1.all isUnescaped = true ∧ field.2.all isUnescaped = true := by
  induction fields generalizing dumped with
  | nil =>
      cases given
      exact ⟨rfl, fun _ member => absurd member List.not_mem_nil⟩
  | cons field rest ih =>
      rw [List.map_cons] at given
      unfold stringFields at given
      split at given
      · rename_i plain
        rw [Option.map_eq_some_iff] at given
        obtain ⟨later, found, rfl⟩ := given
        obtain ⟨rfl, plains⟩ := ih later found
        rw [Bool.and_eq_true] at plain
        exact ⟨rfl, List.forall_mem_cons.mpr ⟨plain, plains⟩⟩
      · cases given

def json : JsonLibrary :=
  { parse := parse
    dump := dump }

theorem json_documented : json.Documented :=
  { dumps := by
      intro fields unescaped
      refine ⟨0x7b :: dumpFields fields, ?_⟩
      change (stringFields _).map _ = _
      rw [stringFields_map unescaped]
      rfl
    parses := by
      intro fields text _ordered dumped
      change (stringFields _).map _ = _ at dumped
      rw [Option.map_eq_some_iff] at dumped
      obtain ⟨read, given, rfl⟩ := dumped
      obtain ⟨same, unescaped⟩ := stringFields_spec fields read given
      rw [same]
      cases fields with
      | nil => rfl
      | cons field rest =>
          have reading := readFields_dumpFields (field :: rest) (List.cons_ne_nil _ _) unescaped
            _ (dumpFields_length (field :: rest))
          have long : 2 ≤ (dumpFields (field :: rest)).length := by
            cases rest with
            | nil =>
                unfold dumpFields dumpField dumpString
                simp only [List.length_append, List.length_cons]
                omega
            | cons second rest =>
                unfold dumpFields dumpField dumpString
                simp only [List.length_append, List.length_cons]
                omega
          change parse (0x7b :: _) = _
          unfold parse
          split
          · rename_i same
            rw [(List.cons.inj same).2] at long
            exact absurd long (by decide)
          · rename_i same
            rw [← (List.cons.inj same).2, reading]
            rfl
          · rename_i _ other
            exact absurd rfl (other _) }

/-! ### Writing control messages -/

/-- The decimal digits of a number below `10 ^ limit`. -/
def decimal : (limit value : Nat) → Bytes
  | 0, _ => []
  | limit + 1, value =>
      if value < 10 then [UInt8.ofNat (0x30 + value)]
      else decimal limit (value / 10) ++ [UInt8.ofNat (0x30 + value % 10)]

def joinFields : List Bytes → Bytes
  | [] => []
  | [field] => field
  | field :: rest => field ++ 0x2c :: joinFields rest

/-- A value of at most the given depth. -/
def dumpValue : Nat → Json → Option Bytes
  | 0, _ => none
  | depth + 1, value =>
      match value with
      | .boolean true => some (ascii "true")
      | .boolean false => some (ascii "false")
      | .unsigned number => some (decimal 20 number)
      | .string text => if text.all isUnescaped then some (dumpString text) else none
      | .object fields =>
          (fields.mapM fun (field : Bytes × Json) =>
            if field.1.all isUnescaped then
              (dumpValue depth field.2).map fun text => dumpString field.1 ++ 0x3a :: text
            else none).map fun texts => 0x7b :: joinFields texts ++ [0x7d]
      | _ => none

/-! ### Reading them -/

/-- The number that a text starts with, and what follows it. -/
def readDecimal (read : Nat) : Bytes → Nat × Bytes
  | [] => (read, [])
  | byte :: rest =>
      if 0x30 ≤ byte ∧ byte ≤ 0x39 then readDecimal (10 * read + (byte.toNat - 0x30)) rest
      else (read, byte :: rest)

/-- The fields up to the closing brace, with a reader for their values. -/
def readFieldsWith (value : Bytes → Option (Json × Bytes)) :
    Nat → Bytes → Option (JsonFields × Bytes)
  | 0, _ => none
  | limit + 1, text =>
      match text with
      | 0x22 :: text =>
          match readString text with
          | some (key, 0x3a :: text) =>
              match value text with
              | some (found, 0x7d :: rest) => some ([(key, found)], rest)
              | some (found, 0x2c :: rest) =>
                  (readFieldsWith value limit rest).map fun later =>
                    ((key, found) :: later.1, later.2)
              | _ => none
          | _ => none
      | _ => none

def readValue : Nat → Bytes → Option (Json × Bytes)
  | 0, _ => none
  | depth + 1, text =>
      match text with
      | 0x74 :: 0x72 :: 0x75 :: 0x65 :: rest => some (.boolean true, rest)
      | 0x66 :: 0x61 :: 0x6c :: 0x73 :: 0x65 :: rest => some (.boolean false, rest)
      | 0x22 :: text => (readString text).map fun read => (.string read.1, read.2)
      | 0x7b :: 0x7d :: rest => some (.object [], rest)
      | 0x7b :: text =>
          (readFieldsWith (readValue depth) text.length text).map fun read =>
            (.object read.1, read.2)
      | byte :: rest =>
          if 0x30 ≤ byte ∧ byte ≤ 0x39 then
            some (.unsigned (readDecimal 0 (byte :: rest)).1, (readDecimal 0 (byte :: rest)).2)
          else none
      | [] => none

def controlJson : JsonLibrary :=
  { parse := fun text =>
      match readValue 4 text with
      | some (value, []) => some value
      | _ => none
    dump := dumpValue 4 }

end SmartMic.StandIn
