import Mathlib.Tactic.Common

/-!
# Bytes, addresses and outcomes

The vocabulary the modules of the crate share: byte strings, socket addresses, the error types,
and the ways a call can come out. A call that can panic returns an `Except Panic`; what a poll
returns is a `Poll`.
-/

namespace UtpSafety

abbrev Bytes := List UInt8

/-- An address as `std::net` compares it. -/
inductive SocketAddr where
  | v4 (ip : UInt32) (port : UInt16)
  | v6 (ip : BitVec 128) (port : UInt16) (flowinfo scopeId : UInt32)
  deriving DecidableEq, Repr

inductive PacketParseError where
  | tooSmall
  | unsupportedVersion (version : UInt8)
  | invalidPacketType (packetType : UInt8)
  | missingExtension (index : Nat)
  | incompleteExtension (index length remaining : Nat)
  deriving DecidableEq, Repr

inductive ConnectionError where
  | noAddress
  | tooMany
  | alreadyExists (connectionId : UInt16) (remoteAddr : SocketAddr)
  deriving DecidableEq, Repr

/-- The places where the crate panics: a reader of the `bytes` crate called with too few bytes left,
a `todo!()`, and an `unwrap` of a closed channel. -/
inductive Panic where
  | bufferExhausted
  | todo
  | unwrapNone
  deriving DecidableEq, Repr

inductive Poll (α : Type) where
  | ready (value : α)
  | pending
  deriving DecidableEq, Repr

end UtpSafety
