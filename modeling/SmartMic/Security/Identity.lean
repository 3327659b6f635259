import SmartMic.Protocol.Json

set_option autoImplicit false

/-! The crypto library as the code calls it, and the long-term device identity. The
primitives are a parameter; what a result needs of them it states as a hypothesis. -/

namespace SmartMic.Security

def kPublicKeyBytes : Nat := 32
def kSecretKeyBytes : Nat := 64
def kSignatureBytes : Nat := 64
def kGroupElementBytes : Nat := 32
def kSessionKeyBytes : Nat := 32

abbrev PublicKey := FixedBytes kPublicKeyBytes
abbrev SecretKey := FixedBytes kSecretKeyBytes
abbrev Signature := FixedBytes kSignatureBytes
abbrev GroupElement := FixedBytes kGroupElementBytes
abbrev Scalar := FixedBytes 32
abbrev SessionKey := FixedBytes kSessionKeyBytes

/-- libsodium, function by function; `none` is a non-zero return code. -/
structure Sodium where
  bin2base64 : Bytes → Bytes
  base642bin : Bytes → Option Bytes
  signDetached : SecretKey → Bytes → Signature
  signVerifyDetached : PublicKey → Bytes → Signature → Bool
  genericHash : (outputLength : Nat) → (key input : Bytes) → FixedBytes outputLength
  ristrettoFromHash : FixedBytes 64 → GroupElement
  ristrettoIsValidPoint : GroupElement → Bool
  ristrettoScalarMult : Scalar → GroupElement → Option GroupElement
  kdfDeriveFromKey : (length id : Nat) → (context : Bytes) → SessionKey → Bytes
  secretboxEasy : (plain nonce key : Bytes) → Option Bytes
  secretboxOpenEasy : (cipher nonce key : Bytes) → Option Bytes

def toBase64 (sodium : Sodium) (data : Bytes) : Bytes := sodium.bin2base64 data

/-- Text that is not base64 gives the empty vector. -/
def fromBase64 (sodium : Sodium) (text : Bytes) : Bytes := (sodium.base642bin text).getD []

/-- `sodium_is_zero`. -/
def isZero (bytes : Bytes) : Bool := bytes.all fun byte => byte == 0

/-- What libsodium documents of its base64: it decodes, and its text is plain. -/
structure Sodium.Base64 (sodium : Sodium) : Prop where
  decodes : ∀ data, sodium.base642bin (sodium.bin2base64 data) = some data
  text : ∀ data, Protocol.Unescaped (sodium.bin2base64 data)

def Sodium.IsPoint (sodium : Sodium) (point : GroupElement) : Prop :=
  isZero point.val = false ∧ sodium.ristrettoIsValidPoint point = true

/-- What `scalar_random` draws: no such scalar takes a point to the identity. -/
def Sodium.Usable (sodium : Sodium) (scalar : Scalar) : Prop :=
  ∀ point, sodium.IsPoint point →
    ∃ product, sodium.ristrettoScalarMult scalar point = some product ∧ sodium.IsPoint product

/-- Two scalars may be applied in either order. -/
def Sodium.Commutes (sodium : Sodium) : Prop :=
  ∀ first second point firstShare secondShare,
    sodium.ristrettoScalarMult first point = some firstShare →
    sodium.ristrettoScalarMult second point = some secondShare →
    sodium.ristrettoScalarMult first secondShare = sodium.ristrettoScalarMult second firstShare

structure DeviceIdentity where
  public_ : PublicKey
  secret : SecretKey

/-- `deviceIdFor` of the identity's own key. -/
def DeviceIdentity.deviceId (sodium : Sodium) (identity : DeviceIdentity) : Bytes :=
  toBase64 sodium identity.public_.val

def DeviceIdentity.sign (sodium : Sodium) (identity : DeviceIdentity) (data : Bytes) :
    Signature :=
  sodium.signDetached identity.secret data

def DeviceIdentity.verify (sodium : Sodium) (public_ : PublicKey) (data : Bytes)
    (signature : Signature) : Bool :=
  sodium.signVerifyDetached public_ data signature

/-- The two keys of the identity belong together. -/
def DeviceIdentity.Paired (sodium : Sodium) (identity : DeviceIdentity) : Prop :=
  ∀ data, DeviceIdentity.verify sodium identity.public_ data (identity.sign sodium data) = true

end SmartMic.Security
