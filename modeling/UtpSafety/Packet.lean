import UtpSafety.Basic
import UtpSafety.Lib.BigEndian
import UtpSafety.Lib.Loop

/-!
# The packet and its two codecs

`Packet.intoBytes` is the conversion of a packet into bytes and `Packet.tryFrom` the parser. Every
read of the parser is one of the readers of the `bytes` crate, which panic when too few bytes are
left, so the parser lives in `Except Panic`; what it returns when it does return is a packet or a
parse error.
-/

namespace UtpSafety

def packetHeaderLen : Nat := 20

inductive PacketType where
  | data
  | fin
  | state
  | reset
  | syn
  deriving DecidableEq, Repr

def PacketType.toU8 : PacketType → UInt8
  | .data => 0
  | .fin => 1
  | .state => 2
  | .reset => 3
  | .syn => 4

def PacketType.tryFrom (value : UInt8) : Except PacketParseError PacketType :=
  if value = 0 then .ok .data
  else if value = 1 then .ok .fin
  else if value = 2 then .ok .state
  else if value = 3 then .ok .reset
  else if value = 4 then .ok .syn
  else .error (.invalidPacketType value)

inductive ExtensionType where
  | none
  | selectiveAck
  | bitfield
  | closeReason
  | unknown (number : UInt8)
  deriving DecidableEq, Repr

def ExtensionType.ofU8 (number : UInt8) : ExtensionType :=
  if number = 0 then .none
  else if number = 1 then .selectiveAck
  else if number = 2 then .bitfield
  else if number = 3 then .closeReason
  else .unknown number

def ExtensionType.toU8 : ExtensionType → UInt8
  | .none => 0
  | .selectiveAck => 1
  | .bitfield => 2
  | .closeReason => 3
  | .unknown number => number

structure Extension where
  extensionType : ExtensionType
  data : Bytes
  deriving DecidableEq, Repr

structure Packet where
  packetType : PacketType
  version : UInt8
  connectionId : UInt16
  timestampMicros : UInt32
  timestampDeltaMicros : UInt32
  windowSize : UInt32
  seqNumber : UInt16
  ackNumber : UInt16
  extensions : List Extension
  data : Bytes
  deriving DecidableEq, Repr

/-! ### Writing -/

def putU16 (value : UInt16) : Bytes := BigEndian.encode 2 value.toNat

def putU32 (value : UInt32) : Bytes := BigEndian.encode 4 value.toNat

/-- The type byte that announces the first extension of a list, or 0 when there is none. -/
def firstExtensionType : List Extension → UInt8
  | [] => 0
  | extension :: _ => extension.extensionType.toU8

/-- The linked list of extensions: each header holds the type byte of the next one. -/
def putExtensions : List Extension → Bytes
  | [] => []
  | extension :: rest =>
      firstExtensionType rest :: UInt8.ofNat extension.data.length ::
        (extension.data ++ putExtensions rest)

def Packet.intoBytes (packet : Packet) : Bytes :=
  [packet.packetType.toU8 <<< 4 ||| packet.version, firstExtensionType packet.extensions]
    ++ putU16 packet.connectionId
    ++ putU32 packet.timestampMicros
    ++ putU32 packet.timestampDeltaMicros
    ++ putU32 packet.windowSize
    ++ putU16 packet.seqNumber
    ++ putU16 packet.ackNumber
    ++ putExtensions packet.extensions
    ++ packet.data

/-! ### Reading -/

def orExhausted {α : Type} : Option α → Except Panic α
  | some value => .ok value
  | none => .error .bufferExhausted

def getU8 : Bytes → Except Panic (UInt8 × Bytes)
  | [] => .error .bufferExhausted
  | byte :: bytes => .ok (byte, bytes)

def getU16 (bytes : Bytes) : Except Panic (UInt16 × Bytes) :=
  orExhausted ((BigEndian.get 2 bytes).map fun (value, rest) => (UInt16.ofNat value, rest))

def getU32 (bytes : Bytes) : Except Panic (UInt32 × Bytes) :=
  orExhausted ((BigEndian.get 4 bytes).map fun (value, rest) => (UInt32.ofNat value, rest))

def splitTo (bytes : Bytes) (count : Nat) : Except Panic (Bytes × Bytes) :=
  if count ≤ bytes.length then .ok (bytes.take count, bytes.drop count) else .error .bufferExhausted

/-- The locals of the extension loop. -/
structure ExtensionScan where
  bytes : Bytes
  extensions : List Extension
  extensionNumber : Nat
  extensionType : UInt8
  nextExtensionType : UInt8

/-- One pass of the extension loop. -/
def scanExtension (scan : ExtensionScan) :
    Except Panic (Loop.Pass ExtensionScan (Except PacketParseError (List Extension × Bytes))) :=
  match ExtensionType.ofU8 scan.extensionType with
  | .none => return .done (.ok (scan.extensions, scan.bytes))
  | otherType => do
      if scan.bytes.isEmpty then
        return .done (.error (.missingExtension scan.extensionNumber))
      let (length, bytes) ← getU8 scan.bytes
      if bytes.length < length.toNat then
        return .done (.error (.incompleteExtension scan.extensionNumber length.toNat bytes.length))
      let (extensionData, bytes) ← splitTo bytes length.toNat
      let extensions := scan.extensions ++ [⟨otherType, extensionData⟩]
      let extensionNumber := scan.extensionNumber + 1
      let extensionType := scan.nextExtensionType
      -- The next byte is not consumed unless another extension is expected; when the buffer is
      -- empty the byte read ahead stays as it was, and the next pass reports the missing extension.
      if scan.nextExtensionType ≠ 0 ∧ ¬bytes.isEmpty then
        let (nextExtensionType, bytes) ← getU8 bytes
        return .next ⟨bytes, extensions, extensionNumber, extensionType, nextExtensionType⟩
      else
        return .next ⟨bytes, extensions, extensionNumber, extensionType, scan.nextExtensionType⟩

/-- What the read-ahead at the end of a pass leaves: the byte it holds and the bytes behind it. -/
def readAhead (nextExtensionType : UInt8) : Bytes → UInt8 × Bytes
  | [] => (nextExtensionType, [])
  | byte :: bytes => if nextExtensionType ≠ 0 then (byte, bytes) else (nextExtensionType, byte :: bytes)

theorem ofU8_eq_none_iff {number : UInt8} : ExtensionType.ofU8 number = .none ↔ number = 0 := by
  unfold ExtensionType.ofU8
  split_ifs <;> simp_all

section Scan

variable {scan : ExtensionScan}

theorem scanExtension_of_zero (htype : scan.extensionType = 0) :
    scanExtension scan = .ok (.done (.ok (scan.extensions, scan.bytes))) := by
  have hnone := ofU8_eq_none_iff.mpr htype
  unfold scanExtension
  rw [hnone]
  rfl

theorem scanExtension_of_nil (htype : scan.extensionType ≠ 0) (hbytes : scan.bytes = []) :
    scanExtension scan = .ok (.done (.error (.missingExtension scan.extensionNumber))) := by
  unfold scanExtension
  split
  · rename_i hnone
    exact absurd (ofU8_eq_none_iff.mp hnone) htype
  · simp [hbytes, pure, Except.pure]

theorem scanExtension_of_short {length : UInt8} {bytes : Bytes} (htype : scan.extensionType ≠ 0)
    (hbytes : scan.bytes = length :: bytes) (hshort : bytes.length < length.toNat) :
    scanExtension scan = .ok (.done (.error
      (.incompleteExtension scan.extensionNumber length.toNat bytes.length))) := by
  unfold scanExtension
  split
  · rename_i hnone
    exact absurd (ofU8_eq_none_iff.mp hnone) htype
  · simp [hbytes, getU8, hshort, pure, Except.pure, bind, Except.bind]

theorem scanExtension_of_fits {length : UInt8} {bytes : Bytes} (htype : scan.extensionType ≠ 0)
    (hbytes : scan.bytes = length :: bytes) (hfits : length.toNat ≤ bytes.length) :
    scanExtension scan = .ok (.next
      { bytes := (readAhead scan.nextExtensionType (bytes.drop length.toNat)).2
        extensions := scan.extensions
          ++ [⟨ExtensionType.ofU8 scan.extensionType, bytes.take length.toNat⟩]
        extensionNumber := scan.extensionNumber + 1
        extensionType := scan.nextExtensionType
        nextExtensionType := (readAhead scan.nextExtensionType (bytes.drop length.toNat)).1 }) := by
  unfold scanExtension
  split
  · rename_i hnone
    exact absurd (ofU8_eq_none_iff.mp hnone) htype
  · have hlong : ¬bytes.length < length.toNat := by omega
    simp only [hbytes, getU8, hlong, splitTo, hfits, pure, Except.pure, bind, Except.bind,
      List.isEmpty_cons, Bool.false_eq_true, if_false, if_true]
    cases hrest : bytes.drop length.toNat with
    | nil => simp [readAhead]
    | cons byte rest =>
        by_cases hnext : scan.nextExtensionType = 0
        · simp [readAhead, hnext]
        · simp [readAhead, hnext]

theorem readAhead_length (nextExtensionType : UInt8) (bytes : Bytes) :
    (readAhead nextExtensionType bytes).2.length ≤ bytes.length := by
  cases bytes with
  | nil => simp [readAhead]
  | cons byte bytes =>
      unfold readAhead
      split_ifs <;> simp

/-- A pass that goes round again has collected an extension. -/
theorem scanExtension_next {scan' : ExtensionScan}
    (hscan : scanExtension scan = .ok (.next scan')) :
    scan.extensionType ≠ 0 ∧ ∃ length bytes, scan.bytes = length :: bytes
      ∧ length.toNat ≤ bytes.length
      ∧ scan' =
        { bytes := (readAhead scan.nextExtensionType (bytes.drop length.toNat)).2
          extensions := scan.extensions
            ++ [⟨ExtensionType.ofU8 scan.extensionType, bytes.take length.toNat⟩]
          extensionNumber := scan.extensionNumber + 1
          extensionType := scan.nextExtensionType
          nextExtensionType := (readAhead scan.nextExtensionType (bytes.drop length.toNat)).1 } := by
  by_cases htype : scan.extensionType = 0
  · simp [scanExtension_of_zero htype] at hscan
  cases hbytes : scan.bytes with
  | nil => simp [scanExtension_of_nil htype hbytes] at hscan
  | cons length bytes =>
      by_cases hfits : length.toNat ≤ bytes.length
      · rw [scanExtension_of_fits htype hbytes hfits] at hscan
        simp only [Except.ok.injEq, Loop.Pass.next.injEq] at hscan
        exact ⟨htype, length, bytes, rfl, hfits, hscan.symm⟩
      · rw [scanExtension_of_short htype hbytes (by omega)] at hscan
        simp at hscan

/-- It has consumed at least the length byte. -/
theorem scanExtension_decreases {scan' : ExtensionScan}
    (hscan : scanExtension scan = .ok (.next scan')) : scan'.bytes.length < scan.bytes.length := by
  obtain ⟨-, length, bytes, hbytes, -, rfl⟩ := scanExtension_next hscan
  have hahead := readAhead_length scan.nextExtensionType (bytes.drop length.toNat)
  rw [hbytes]
  simp only [List.length_drop, List.length_cons] at hahead ⊢
  omega

end Scan

def extensionLoop :
    Loop.Measured ExtensionScan (Except Panic (Except PacketParseError (List Extension × Bytes))) where
  body scan :=
    match scanExtension scan with
    | .error panic => .done (.error panic)
    | .ok (.done result) => .done (.ok result)
    | .ok (.next scan') => .next scan'
  measure scan := scan.bytes.length
  decreases := by
    intro scan scan' hbody
    split at hbody
    · cases hbody
    · cases hbody
    · rename_i scan'' hscan
      cases hbody
      exact scanExtension_decreases hscan

def Packet.tryFrom (bytes : Bytes) : Except Panic (Except PacketParseError Packet) := do
  if bytes.length < packetHeaderLen then
    return .error .tooSmall
  let (typeAndVersion, bytes) ← getU8 bytes
  match PacketType.tryFrom (typeAndVersion >>> 4) with
  | .error error => return .error error
  | .ok packetType =>
      if typeAndVersion &&& 0x0F ≠ 1 then
        return .error (.unsupportedVersion (typeAndVersion &&& 0x0F))
      let (firstExtensionType, bytes) ← getU8 bytes
      let (connectionId, bytes) ← getU16 bytes
      let (timestampMicros, bytes) ← getU32 bytes
      let (timestampDeltaMicros, bytes) ← getU32 bytes
      let (windowSize, bytes) ← getU32 bytes
      let (seqNumber, bytes) ← getU16 bytes
      let (ackNumber, bytes) ← getU16 bytes
      -- End of packet header. The type byte of the next extension is read one step ahead.
      if firstExtensionType ≠ 0 ∧ bytes.isEmpty then
        return .error (.missingExtension 0)
      let (nextExtensionType, bytes) ←
        if firstExtensionType ≠ 0 then getU8 bytes else pure (0, bytes)
      match ← extensionLoop.run ⟨bytes, [], 0, firstExtensionType, nextExtensionType⟩ with
      | .error error => return .error error
      | .ok (extensions, bytes) =>
          return .ok
            { packetType, version := 1, connectionId, timestampMicros, timestampDeltaMicros,
              windowSize, seqNumber, ackNumber, extensions, data := bytes }

end UtpSafety
