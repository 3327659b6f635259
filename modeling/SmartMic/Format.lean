import Mathlib.Tactic

set_option autoImplicit false

/-! The canonical audio format and the byte strings everything on the wire is
made of. -/

namespace SmartMic

abbrev Bytes := List UInt8

/-- A sample of exact arithmetic. -/
abbrev Sample := ℚ

def kSampleRate : Nat := 48000
def kFrameMillis : Nat := 20
def kFrameSamples : Nat := 960

/-- `millisToSamples`, in 64-bit `size_t`, where it cannot overflow. -/
def millisToSamples (ms : BitVec 32) : Nat := kSampleRate * ms.toNat / 1000

theorem millisToSamples_eq (ms : BitVec 32) : millisToSamples ms = 48 * ms.toNat := by
  unfold millisToSamples kSampleRate
  omega

end SmartMic
