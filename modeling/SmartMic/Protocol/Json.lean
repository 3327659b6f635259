import SmartMic.Protocol.Bytes

set_option autoImplicit false

/-! JSON values as the JSON library holds them, and the library itself as a
parameter: a parser that does not throw, and a serialiser that does on a string
that is not UTF-8. -/

namespace SmartMic.Protocol

/-- `nlohmann::json`. A parsed integer is unsigned when it is not negative; the
fields of an object are in key order, each key once. -/
inductive Json where
  | null
  | boolean (value : Bool)
  | integer (value : Int)
  | unsigned (value : Nat)
  | float (value : ℚ)
  | string (value : Bytes)
  | array (items : List Json)
  | object (fields : List (Bytes × Json))

abbrev JsonFields := List (Bytes × Json)

/-- `find`, `contains` and `at` of an object. -/
def JsonFields.find (fields : JsonFields) (key : String) : Option Json :=
  fields.lookup (ascii key)

/-- `json::parse` with exceptions off, and `dump`. -/
structure JsonLibrary where
  parse : Bytes → Option Json
  dump : Json → Option Bytes

/-- Text that JSON writes as it is, between quotes. -/
def Unescaped (text : Bytes) : Prop :=
  ∀ byte ∈ text, 0x20 ≤ byte ∧ byte < 0x7f ∧ byte ≠ 0x22 ∧ byte ≠ 0x5c

instance (text : Bytes) : Decidable (Unescaped text) :=
  inferInstanceAs (Decidable (∀ byte ∈ text, _))

def stringObject (fields : List (Bytes × Bytes)) : Json :=
  .object (fields.map fun field => (field.1, .string field.2))

/-- What the library documents of objects of strings. -/
structure JsonLibrary.Documented (library : JsonLibrary) : Prop where
  dumps : ∀ fields, (∀ field ∈ fields, Unescaped field.1 ∧ Unescaped field.2) →
    ∃ text, library.dump (stringObject fields) = some text
  parses : ∀ fields text, (fields.map Prod.fst).Pairwise (· < ·) →
    library.dump (stringObject fields) = some text →
    library.parse text = some (stringObject fields)

/-- `value(key, default)` for a string: a present field of another type throws. -/
inductive StringValue where
  | found (text : Bytes)
  | typeError

def JsonFields.value (fields : JsonFields) (key : String) (default : Bytes) : StringValue :=
  match fields.find key with
  | none => .found default
  | some (.string text) => .found text
  | some _ => .typeError

end SmartMic.Protocol
