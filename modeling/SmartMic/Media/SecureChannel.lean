import SmartMic.Protocol.ReplayWindow
import SmartMic.Security.Pairing

set_option autoImplicit false

/-! AEAD framing for the media path: an explicit 64-bit counter, a nonce made of it
and a derived prefix, and a replay window over the received counters. -/

namespace SmartMic.Media

open SmartMic.Protocol SmartMic.Security

inductive Direction where
  | phoneToPc
  | pcToPhone
  deriving DecidableEq, Repr

def kContext : Bytes := ascii "SMARTMIC"
def kKeyPhoneToPc : Nat := 1
def kKeyPcToPhone : Nat := 2
def kNoncePhoneToPc : Nat := 11
def kNoncePcToPhone : Nat := 12
def kNoncePrefixBytes : Nat := 16
def kSecureOverhead : Nat := 8 + 16

structure SecureChannel where
  initialised : Bool
  sendKey : Bytes
  recvKey : Bytes
  sendNoncePrefix : Bytes
  recvNoncePrefix : Bytes
  counter : BitVec 64
  replay : ReplayWindow 1024
  sealed_ : Nat
  opened : Nat
  authFailures : Nat
  replayRejects : Nat
  malformed : Nat

def SecureChannel.create : SecureChannel :=
  { initialised := false
    sendKey := []
    recvKey := []
    sendNoncePrefix := []
    recvNoncePrefix := []
    counter := 0#64
    replay := ReplayWindow.fresh 1024
    sealed_ := 0
    opened := 0
    authFailures := 0
    replayRejects := 0
    malformed := 0 }

def derive (sodium : Sodium) (length id : Nat) (key : SessionKey) : Bytes :=
  sodium.kdfDeriveFromKey length id kContext key

def sendKeyId : Direction → Nat
  | .phoneToPc => kKeyPhoneToPc
  | .pcToPhone => kKeyPcToPhone

def sendNonceId : Direction → Nat
  | .phoneToPc => kNoncePhoneToPc
  | .pcToPhone => kNoncePcToPhone

def Direction.other : Direction → Direction
  | .phoneToPc => .pcToPhone
  | .pcToPhone => .phoneToPc

/-- `init`, once `sodium_init` has succeeded; the counters of packets are kept. -/
def SecureChannel.init (sodium : Sodium) (channel : SecureChannel) (sessionKey : SessionKey)
    (send : Direction) : SecureChannel :=
  { channel with
    sendKey := derive sodium 32 (sendKeyId send) sessionKey
    recvKey := derive sodium 32 (sendKeyId send.other) sessionKey
    sendNoncePrefix := derive sodium kNoncePrefixBytes (sendNonceId send) sessionKey
    recvNoncePrefix := derive sodium kNoncePrefixBytes (sendNonceId send.other) sessionKey
    counter := 0#64
    replay := ReplayWindow.fresh 1024
    initialised := true }

def buildNonce (noncePrefix : Bytes) (counter : BitVec 64) : Bytes :=
  noncePrefix.take kNoncePrefixBytes ++ littleEndian 8 counter.toNat

/-- The nonce the next `seal` uses. -/
def SecureChannel.sendNonce (channel : SecureChannel) : Bytes :=
  buildNonce channel.sendNoncePrefix channel.counter

def SecureChannel.seal (sodium : Sodium) (channel : SecureChannel) (plain : Bytes) :
    Option Bytes × SecureChannel :=
  if channel.initialised = false then (none, channel)
  else
    let counter := channel.counter
    let next := { channel with counter := counter + 1#64 }
    match sodium.secretboxEasy plain (buildNonce channel.sendNoncePrefix counter)
        channel.sendKey with
    | none => (none, next)
    | some cipher =>
        (some (littleEndian 8 counter.toNat ++ cipher), { next with sealed_ := next.sealed_ + 1 })

def packetCounter (packet : Bytes) : BitVec 64 :=
  BitVec.ofNat 64 (fromLittleEndian (packet.take 8))

/-- The AEAD part of `open`: the plaintext of an authentic packet. -/
def SecureChannel.authentic (sodium : Sodium) (channel : SecureChannel) (packet : Bytes) :
    Option Bytes :=
  sodium.secretboxOpenEasy (packet.drop 8)
    (buildNonce channel.recvNoncePrefix (packetCounter packet)) channel.recvKey

def SecureChannel.open_ (sodium : Sodium) (channel : SecureChannel) (packet : Bytes) :
    Option Bytes × SecureChannel :=
  if channel.initialised = false then (none, channel)
  else if packet.length < kSecureOverhead then
    (none, { channel with malformed := channel.malformed + 1 })
  else
    match channel.authentic sodium packet with
    | none => (none, { channel with authFailures := channel.authFailures + 1 })
    | some plain =>
        -- authenticate first, then replay-check
        match channel.replay.accept (packetCounter packet) with
        | (false, replay) =>
            (none, { channel with replay := replay, replayRejects := channel.replayRejects + 1 })
        | (true, replay) =>
            (some plain, { channel with replay := replay, opened := channel.opened + 1 })

end SmartMic.Media
