import Mathlib.Logic.Relation
import UtpSafety.Proof.Codec

/-!
# The grammar behind the parser

The parser reads the type byte of the next extension one pass ahead, in two places, and leaves it
stale when the buffer runs out. `Grammar.packet` is the format without look-ahead: a recursion that
reads a whole extension header at a time and knows the index of the extension it is at. The extension
loop simulates it pass by pass (`loop_eq_extensions`).
-/

namespace UtpSafety

namespace Grammar

/-- The extensions that begin with the type byte `extensionType`, the first of them with this index,
and the payload behind them. -/
def extensions (index : Nat) (extensionType : UInt8) (unread : Bytes) :
    Except PacketParseError (List Extension × Bytes) :=
  if extensionType = 0 then .ok ([], unread)
  else
    match unread with
    | [] => .error (.missingExtension index)
    | [_] => .error (.missingExtension index)
    | next :: length :: rest =>
        if rest.length < length.toNat then
          .error (.incompleteExtension index length.toNat rest.length)
        else do
          let (following, payload) ← extensions (index + 1) next (rest.drop length.toNat)
          return (⟨.ofU8 extensionType, rest.take length.toNat⟩ :: following, payload)
termination_by unread.length
decreasing_by
  simp only [List.length_cons, List.length_drop]
  omega

/-- The number in `width` bytes from `offset` on. -/
def field (bytes : Bytes) (offset width : Nat) : Nat :=
  BigEndian.decode ((bytes.drop offset).take width)

def packetTypes : List PacketType := [.data, .fin, .state, .reset, .syn]

def packet (bytes : Bytes) : Except PacketParseError Packet :=
  if bytes.length < packetHeaderLen then .error .tooSmall
  else
    let typeNibble := field bytes 0 1 / 16
    let versionNibble := field bytes 0 1 % 16
    match packetTypes[typeNibble]? with
    | none => .error (.invalidPacketType (UInt8.ofNat typeNibble))
    | some packetType =>
        if versionNibble ≠ 1 then .error (.unsupportedVersion (UInt8.ofNat versionNibble))
        else do
          let (extensions, data) ←
            extensions 0 (UInt8.ofNat (field bytes 1 1)) (bytes.drop packetHeaderLen)
          return {
            packetType
            version := 1
            connectionId := UInt16.ofNat (field bytes 2 2)
            timestampMicros := UInt32.ofNat (field bytes 4 4)
            timestampDeltaMicros := UInt32.ofNat (field bytes 8 4)
            windowSize := UInt32.ofNat (field bytes 12 4)
            seqNumber := UInt16.ofNat (field bytes 16 2)
            ackNumber := UInt16.ofNat (field bytes 18 2)
            extensions
            data }

section Extensions

variable (index : Nat) {extensionType : UInt8} {unread : Bytes}

theorem extensions_zero (unread : Bytes) : extensions index 0 unread = .ok ([], unread) := by
  unfold extensions
  rfl

theorem extensions_missing (htype : extensionType ≠ 0) (hshort : unread.length < 2) :
    extensions index extensionType unread = .error (.missingExtension index) := by
  unfold extensions
  rw [if_neg htype]
  match unread, hshort with
  | [], _ => rfl
  | [byte], _ => rfl

theorem extensions_incomplete {next length : UInt8} {rest : Bytes} (htype : extensionType ≠ 0)
    (hshort : rest.length < length.toNat) :
    extensions index extensionType (next :: length :: rest)
      = .error (.incompleteExtension index length.toNat rest.length) := by
  rw [extensions, if_neg htype]
  exact if_pos hshort

theorem extensions_cons {next length : UInt8} {rest : Bytes} (htype : extensionType ≠ 0)
    (hfits : length.toNat ≤ rest.length) :
    extensions index extensionType (next :: length :: rest)
      = (extensions (index + 1) next (rest.drop length.toNat)).map fun found =>
        (⟨.ofU8 extensionType, rest.take length.toNat⟩ :: found.1, found.2) := by
  rw [extensions, if_neg htype]
  dsimp only
  rw [if_neg (by omega)]
  cases extensions (index + 1) next (rest.drop length.toNat) with
  | error error => rfl
  | ok found => rfl

end Extensions

end Grammar

/-- **The loop reads the grammar.** -/
theorem loop_eq_extensions (extensionType : UInt8) (unread : Bytes) (extensions : List Extension)
    (number : Nat) :
    extensionLoop.run (scanFrom extensionType unread extensions number)
      = .ok ((Grammar.extensions number extensionType unread).map fun found =>
        (extensions ++ found.1, found.2)) := by
  induction hlength : unread.length using Nat.strongRecOn
    generalizing extensionType unread extensions number with
  | ind total ih =>
      by_cases htype : extensionType = 0
      · subst htype
        rw [loop_end, Grammar.extensions_zero]
        simp [Except.map]
      match unread with
      | [] =>
          have hshort : ([] : Bytes).length < 2 := by simp
          rw [loop_missing htype hshort, Grammar.extensions_missing _ htype hshort]
          rfl
      | [byte] =>
          have hshort : [byte].length < 2 := by simp
          rw [loop_missing htype hshort, Grammar.extensions_missing _ htype hshort]
          rfl
      | next :: length :: rest =>
          by_cases hfits : length.toNat ≤ rest.length
          · have hless : (rest.drop length.toNat).length < total := by
              simp only [List.length_cons, List.length_drop] at hlength ⊢
              omega
            rw [loop_extension htype hfits, ih _ hless _ _ _ _ rfl,
              Grammar.extensions_cons _ htype hfits]
            cases Grammar.extensions (number + 1) next (rest.drop length.toNat) with
            | error error => rfl
            | ok found => simp [Except.map]
          · rw [loop_incomplete htype (by omega), Grammar.extensions_incomplete _ htype (by omega)]
            rfl

/-! ### The header -/

theorem tryFrom_nibble (byte : UInt8) :
    PacketType.tryFrom (byte >>> 4) =
      match Grammar.packetTypes[byte.toNat / 16]? with
      | none => .error (.invalidPacketType (UInt8.ofNat (byte.toNat / 16)))
      | some packetType => .ok packetType := by
  have hall : ∀ n : Fin 256, PacketType.tryFrom (UInt8.ofFin n >>> 4) =
      match Grammar.packetTypes[(UInt8.ofFin n).toNat / 16]? with
      | none => .error (.invalidPacketType (UInt8.ofNat ((UInt8.ofFin n).toNat / 16)))
      | some packetType => .ok packetType := by decide +kernel
  exact hall byte.toFin

theorem version_nibble (byte : UInt8) : byte &&& 0x0F = UInt8.ofNat (byte.toNat % 16) := by
  have hall : ∀ n : Fin 256,
      UInt8.ofFin n &&& 0x0F = UInt8.ofNat ((UInt8.ofFin n).toNat % 16) := by decide +kernel
  exact hall byte.toFin

section Header

variable (typeAndVersion first : UInt8) (connectionId : UInt16)
  (timestampMicros timestampDeltaMicros windowSize : UInt32) (seqNumber ackNumber : UInt16)
  (rest : Bytes)

theorem drop_putU16 (value : UInt16) (n : Nat) : (putU16 value ++ rest).drop (n + 2) = rest.drop n :=
  BigEndian.drop_encode_append 2 _ n rest

theorem drop_putU32 (value : UInt32) (n : Nat) : (putU32 value ++ rest).drop (n + 4) = rest.drop n :=
  BigEndian.drop_encode_append 4 _ n rest

theorem decode_take_putU16 (value : UInt16) :
    BigEndian.decode ((putU16 value ++ rest).take 2) = value.toNat :=
  BigEndian.decode_take_encode_append value.toNat_lt rest

theorem decode_take_putU32 (value : UInt32) :
    BigEndian.decode ((putU32 value ++ rest).take 4) = value.toNat :=
  BigEndian.decode_take_encode_append value.toNat_lt rest

/-- The grammar on a whole header, in the terms of `tryFrom_putHeader`. -/
theorem Grammar.packet_putHeader :
    Grammar.packet (putHeader typeAndVersion first connectionId timestampMicros
        timestampDeltaMicros windowSize seqNumber ackNumber ++ rest) =
      match PacketType.tryFrom (typeAndVersion >>> 4) with
      | .error error => .error error
      | .ok packetType =>
          if typeAndVersion &&& 0x0F ≠ 1 then
            .error (.unsupportedVersion (typeAndVersion &&& 0x0F))
          else
            (Grammar.extensions 0 first rest).map fun found =>
              ⟨packetType, 1, connectionId, timestampMicros, timestampDeltaMicros, windowSize,
                seqNumber, ackNumber, found.1, found.2⟩ := by
  have hlength : ¬(putHeader typeAndVersion first connectionId timestampMicros
      timestampDeltaMicros windowSize seqNumber ackNumber ++ rest).length < packetHeaderLen := by
    rw [List.length_append, length_putHeader]
    omega
  have hbytes : (putHeader typeAndVersion first connectionId timestampMicros timestampDeltaMicros
      windowSize seqNumber ackNumber ++ rest).drop packetHeaderLen = rest :=
    List.drop_left' (length_putHeader ..)
  have hone : typeAndVersion &&& 0x0F ≠ 1 ↔ typeAndVersion.toNat % 16 ≠ 1 := by
    have hsmall : typeAndVersion.toNat % 16 < UInt8.size :=
      Nat.lt_trans (Nat.mod_lt _ (by decide)) (by decide)
    rw [version_nibble, ne_eq, ← UInt8.toNat_inj, UInt8.toNat_ofNat_of_lt' hsmall]
    rfl
  rw [tryFrom_nibble, Grammar.packet, if_neg hlength, hbytes]
  simp only [Grammar.field, putHeader, List.cons_append, List.append_assoc, List.drop_zero,
    List.drop_succ_cons, List.take_succ_cons, List.take_zero, drop_putU16, drop_putU32,
    decode_take_putU16, decode_take_putU32, BigEndian.decode, List.length_nil, pow_zero, Nat.mul_one,
    Nat.add_zero, UInt8.ofNat_toNat, UInt16.ofNat_toNat, UInt32.ofNat_toNat]
  cases Grammar.packetTypes[typeAndVersion.toNat / 16]? with
  | none => rfl
  | some packetType =>
      by_cases hversion : typeAndVersion.toNat % 16 ≠ 1
      · simp only [if_pos hversion, if_pos (hone.mpr hversion)]
        rw [version_nibble]
      · simp only [if_neg hversion, if_neg (fun hother => hversion (hone.mp hother))]
        cases Grammar.extensions 0 first rest with
        | error error => rfl
        | ok found => rfl

end Header

/-- **The parser accepts exactly its grammar and blames the right place.** -/
theorem tryFrom_eq_grammar (bytes : Bytes) : Packet.tryFrom bytes = .ok (Grammar.packet bytes) := by
  by_cases hlength : packetHeaderLen ≤ bytes.length
  · obtain ⟨typeAndVersion, first, connectionId, timestampMicros, timestampDeltaMicros, windowSize,
      seqNumber, ackNumber, rest, rfl⟩ := exists_putHeader hlength
    rw [tryFrom_putHeader, Grammar.packet_putHeader]
    cases PacketType.tryFrom (typeAndVersion >>> 4) with
    | error error => rfl
    | ok packetType =>
        dsimp only
        split_ifs with hversion
        · rfl
        · rw [loop_eq_extensions]
          cases Grammar.extensions 0 first rest with
          | error error => rfl
          | ok found => rfl
  · have hshort : bytes.length < packetHeaderLen := by omega
    simp [Packet.tryFrom, Grammar.packet, hshort, pure, Except.pure]

/-! ### The parser stays within the buffer -/

theorem scanExtension_of_body {scan scan' : ExtensionScan}
    (hbody : extensionLoop.body scan = .next scan') : scanExtension scan = .ok (.next scan') := by
  simp only [extensionLoop] at hbody
  split at hbody
  · cases hbody
  · cases hbody
  · rename_i scan'' hscan
    cases hbody
    exact hscan

/-- Each extension that was collected took two of the `total` bytes, and the type byte that was read
ahead for the next one took another, unless it is stale. -/
def ExtensionScan.Within (total : Nat) (scan : ExtensionScan) : Prop :=
  2 * scan.extensions.length + scan.bytes.length
    + (if scan.extensionType ≠ 0 ∧ scan.bytes ≠ [] then 1 else 0) ≤ total

namespace ExtensionScan.Within

variable {total : Nat} {scan scan' : ExtensionScan}

theorem start (extensionType : UInt8) (unread : Bytes) :
    (scanFrom extensionType unread [] 0).Within unread.length := by
  unfold Within scanFrom
  by_cases htype : extensionType = 0
  · simp [htype, readAhead_zero]
  · cases unread with
    | nil => simp [readAhead]
    | cons byte bytes =>
        simp only [readAhead_cons htype, List.length_nil, List.length_cons]
        split_ifs <;> omega

theorem next (hwithin : scan.Within total) (hbody : extensionLoop.body scan = .next scan') :
    scan'.Within total ∧ scan'.extensions.length = scan.extensions.length + 1 := by
  obtain ⟨htype, length, bytes, hbytes, -, rfl⟩ :=
    scanExtension_next (scanExtension_of_body hbody)
  unfold Within at hwithin
  rw [if_pos ⟨htype, by simp [hbytes]⟩, hbytes, List.length_cons] at hwithin
  refine ⟨?_, by simp⟩
  have hleft : (bytes.drop length.toNat).length ≤ bytes.length := by simp
  by_cases hnext : scan.nextExtensionType = 0
  · simp only [Within, hnext, readAhead_zero, List.length_append, List.length_singleton]
    simp only [ne_eq, not_true_eq_false, false_and, if_false]
    omega
  · cases hrest : bytes.drop length.toNat with
    | nil =>
        simp only [Within, readAhead, List.length_append, List.length_singleton, List.length_nil]
        simp only [ne_eq, not_true_eq_false, and_false, if_false]
        omega
    | cons byte rest =>
        rw [hrest, List.length_cons] at hleft
        simp only [Within, readAhead_cons hnext, List.length_append, List.length_singleton]
        split_ifs <;> omega

theorem reaches (hwithin : scan.Within total)
    (hreaches : Relation.ReflTransGen (fun scan scan' => extensionLoop.body scan = .next scan')
      scan scan') : scan'.Within total := by
  induction hreaches with
  | refl => exact hwithin
  | tail _ hbody ih => exact (ih.next hbody).1

theorem length_le (hwithin : scan.Within total) :
    2 * scan.extensions.length + scan.bytes.length ≤ total := by
  unfold Within at hwithin
  omega

/-- Every further pass collects an extension, so there are no more of them than there are pairs of
bytes left. -/
theorem exists_runFor {passes : Nat} (hwithin : scan.Within total)
    (hpasses : total < 2 * (scan.extensions.length + passes)) :
    ∃ value, Loop.runFor extensionLoop.body passes scan = some value := by
  induction passes generalizing scan with
  | zero =>
      have hlength := hwithin.length_le
      omega
  | succ passes ih =>
      cases hbody : extensionLoop.body scan with
      | done value => exact ⟨value, Loop.runFor_done hbody passes⟩
      | next scan' =>
          obtain ⟨hwithin', hcollected⟩ := hwithin.next hbody
          rw [Loop.runFor_next hbody]
          exact ih hwithin' (by omega)

end ExtensionScan.Within

/-- What the encoder accounts for the extensions: type, length and data of each. -/
def extensionsLength (extensions : List Extension) : Nat :=
  (extensions.map fun extension => 1 + 1 + extension.data.length).sum

theorem length_putExtensions (extensions : List Extension) :
    (putExtensions extensions).length = extensionsLength extensions := by
  induction extensions with
  | nil => rfl
  | cons extension rest ih =>
      simp only [extensionsLength, List.map_cons, List.sum_cons, putExtensions, List.length_cons,
        List.length_append] at ih ⊢
      omega

theorem Packet.length_intoBytes (packet : Packet) : packet.intoBytes.length
    = packetHeaderLen + extensionsLength packet.extensions + packet.data.length := by
  rw [intoBytes_eq, List.length_append, length_putHeader, List.length_append, length_putExtensions,
    Nat.add_assoc]

theorem Packet.length_before_data (packet : Packet) :
    packet.intoBytes.length - packet.data.length
      = packetHeaderLen + extensionsLength packet.extensions := by
  rw [packet.length_intoBytes]
  omega

theorem length_le_extensionsLength (extensions : List Extension) :
    2 * extensions.length ≤ extensionsLength extensions := by
  induction extensions with
  | nil => simp
  | cons extension rest ih =>
      simp only [extensionsLength, List.map_cons, List.sum_cons, List.length_cons] at ih ⊢
      omega

theorem length_extensions_le {bytes : Bytes} {packet : Packet}
    (hparse : Packet.tryFrom bytes = .ok (.ok packet)) :
    packet.extensions.length ≤ (bytes.length - packetHeaderLen) / 2 := by
  have hlength := packet.length_intoBytes
  have hpairs := length_le_extensionsLength packet.extensions
  rw [(intoBytes_of_tryFrom hparse).1] at hlength
  omega

/-- **No datagram crashes or hangs the parser.** It returns, with none of its reads beyond the end.
Whatever type the header announces, the extension loop behind it ends after one pass more than there
are pairs of bytes; at every state that it reaches, each extension collected has taken two bytes; and
so there are no more of them than pairs of bytes behind the header. -/
theorem tryFrom_stays_within (bytes : Bytes) :
    (∃ result, Packet.tryFrom bytes = .ok result)
      ∧ (∀ first, ∃ value, Loop.runFor extensionLoop.body
        ((bytes.length - packetHeaderLen) / 2 + 1)
        (scanFrom first (bytes.drop packetHeaderLen) [] 0) = some value)
      ∧ (∀ first scan, Relation.ReflTransGen
          (fun scan scan' => extensionLoop.body scan = .next scan')
          (scanFrom first (bytes.drop packetHeaderLen) [] 0) scan →
        2 * scan.extensions.length + scan.bytes.length ≤ bytes.length - packetHeaderLen)
      ∧ ∀ packet, Packet.tryFrom bytes = .ok (.ok packet) →
        packet.extensions.length ≤ (bytes.length - packetHeaderLen) / 2 := by
  have hstart : ∀ first, (scanFrom first (bytes.drop packetHeaderLen) [] 0).Within
      (bytes.length - packetHeaderLen) := by
    intro first
    rw [← List.length_drop]
    exact ExtensionScan.Within.start first _
  refine ⟨exists_tryFrom bytes, ?_, ?_, fun packet hparse => length_extensions_le hparse⟩
  · intro first
    apply (hstart first).exists_runFor
    simp only [scanFrom, List.length_nil]
    omega
  · intro first scan hreaches
    exact ((hstart first).reaches hreaches).length_le

end UtpSafety
