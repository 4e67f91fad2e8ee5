import UtpSafety.Packet

/-!
# The two codecs undo each other

The encoder writes the type of an extension into the header of the one before it, so the parser runs
one byte ahead: while it collects an extension it already holds the type byte of the next one. Both
directions are inductions in which that byte is put back in front of the unread bytes. From bytes to
packet and back needs nothing; from packet to bytes and back needs the packet to be one the parser
can produce, which is what `WellFormed` says.
-/

namespace UtpSafety

/-- A type the parser gives to an extension: the end marker is not one, and a number with a name of
its own is not `unknown`. -/
def ExtensionType.Canonical : ExtensionType → Prop
  | .none => False
  | .unknown number => 3 < number
  | _ => True

def Extension.WellFormed (extension : Extension) : Prop :=
  extension.data.length ≤ 255 ∧ extension.extensionType.Canonical

def Packet.WellFormed (packet : Packet) : Prop :=
  packet.version = 1 ∧ ∀ extension ∈ packet.extensions, extension.WellFormed

instance (extensionType : ExtensionType) : Decidable extensionType.Canonical :=
  match extensionType with
  | .none => isFalse id
  | .unknown number => inferInstanceAs (Decidable (3 < number))
  | .selectiveAck => isTrue trivial
  | .bitfield => isTrue trivial
  | .closeReason => isTrue trivial

instance (extension : Extension) : Decidable extension.WellFormed :=
  inferInstanceAs (Decidable (_ ∧ _))

instance (packet : Packet) : Decidable packet.WellFormed :=
  inferInstanceAs (Decidable (_ ∧ _))

theorem Extension.WellFormed.toNat_length {extension : Extension} (hformed : extension.WellFormed) :
    (UInt8.ofNat extension.data.length).toNat = extension.data.length :=
  UInt8.toNat_ofNat_of_lt' (Nat.lt_of_le_of_lt hformed.1 (by decide))

theorem canonical_iff {extensionType : ExtensionType} :
    extensionType.Canonical ↔
      extensionType ≠ .none ∧ ∀ number, extensionType = .unknown number → 3 < number := by
  cases extensionType <;> simp [ExtensionType.Canonical]

/-! ### Type bytes -/

theorem canonical_ofU8 {number : UInt8} (hnumber : number ≠ 0) :
    (ExtensionType.ofU8 number).Canonical := by
  unfold ExtensionType.ofU8
  split_ifs with h1 h2 h3 h4
  · exact hnumber h1
  · trivial
  · trivial
  · trivial
  · change 3 < number
    rw [UInt8.lt_iff_toNat_lt]
    have hne : ∀ k : UInt8, number ≠ k → number.toNat ≠ k.toNat := fun k hk heq =>
      hk (UInt8.toNat_inj.mp heq)
    have h0 := hne 0 hnumber
    have h1 := hne 1 h2
    have h2 := hne 2 h3
    have h3 := hne 3 h4
    simp only [UInt8.reduceToNat] at *
    omega

@[simp]
theorem toU8_ofU8 (number : UInt8) : (ExtensionType.ofU8 number).toU8 = number := by
  unfold ExtensionType.ofU8
  split_ifs with h1 h2 h3 h4 <;> simp_all [ExtensionType.toU8]

theorem ofU8_toU8 {extensionType : ExtensionType} (hcanonical : extensionType.Canonical) :
    ExtensionType.ofU8 extensionType.toU8 = extensionType := by
  cases extensionType with
  | none => exact hcanonical.elim
  | selectiveAck => rfl
  | bitfield => rfl
  | closeReason => rfl
  | unknown number =>
      have hlarge : 3 < number := hcanonical
      have hne : ∀ k : UInt8, k ≤ 3 → number ≠ k := by
        intro k hk heq
        subst heq
        exact absurd hlarge (UInt8.not_lt.mpr hk)
      simp [ExtensionType.toU8, ExtensionType.ofU8, hne 0 (by decide), hne 1 (by decide),
        hne 2 (by decide), hne 3 (by decide)]

theorem toU8_ne_zero {extensionType : ExtensionType} (hcanonical : extensionType.Canonical) :
    extensionType.toU8 ≠ 0 := by
  intro hzero
  have hnone := ofU8_eq_none_iff.mpr hzero
  rw [ofU8_toU8 hcanonical] at hnone
  rw [hnone] at hcanonical
  exact hcanonical

theorem tryFrom_toU8 (packetType : PacketType) :
    PacketType.tryFrom packetType.toU8 = .ok packetType := by
  cases packetType <;> rfl

theorem toU8_of_tryFrom {value : UInt8} {packetType : PacketType}
    (hparse : PacketType.tryFrom value = .ok packetType) : packetType.toU8 = value := by
  unfold PacketType.tryFrom at hparse
  split_ifs at hparse with h0 h1 h2 h3 h4 <;> cases hparse <;>
    simp_all [PacketType.toU8]

theorem typeAndVersion_split (packetType : PacketType) :
    (packetType.toU8 <<< 4 ||| 1) >>> 4 = packetType.toU8
      ∧ (packetType.toU8 <<< 4 ||| 1) &&& 0x0F = 1 := by
  cases packetType <;> decide

theorem byte_of_halves (byte : UInt8) : byte >>> 4 <<< 4 ||| byte &&& 0x0F = byte := by
  have hall : ∀ n : Fin 256,
      UInt8.ofFin n >>> 4 <<< 4 ||| UInt8.ofFin n &&& 0x0F = UInt8.ofFin n := by decide +kernel
  exact hall byte.toFin

/-! ### Readers -/

@[simp]
theorem getU16_putU16 (value : UInt16) (rest : Bytes) :
    getU16 (putU16 value ++ rest) = .ok (value, rest) := by
  have hvalue : value.toNat < 256 ^ 2 := value.toNat_lt
  simp [getU16, putU16, BigEndian.get_encode hvalue, orExhausted]

@[simp]
theorem getU32_putU32 (value : UInt32) (rest : Bytes) :
    getU32 (putU32 value ++ rest) = .ok (value, rest) := by
  have hvalue : value.toNat < 256 ^ 4 := value.toNat_lt
  simp [getU32, putU32, BigEndian.get_encode hvalue, orExhausted]

/-! ### The extension loop without the look-ahead

`scanFrom` is the state of the loop that has the type byte of the next extension at hand and the
given bytes still unread, the byte it has run ahead included. In these terms one pass reads a whole
extension header, and the loop is the plain grammar.
-/

def scanFrom (extensionType : UInt8) (unread : Bytes) (extensions : List Extension)
    (extensionNumber : Nat) : ExtensionScan where
  bytes := (readAhead extensionType unread).2
  extensions := extensions
  extensionNumber := extensionNumber
  extensionType := extensionType
  nextExtensionType := (readAhead extensionType unread).1

section Grammar

variable {extensionType : UInt8} {unread : Bytes} {extensions : List Extension} {number : Nat}

theorem readAhead_zero (bytes : Bytes) : readAhead 0 bytes = (0, bytes) := by
  cases bytes <;> rfl

theorem readAhead_cons {byte : UInt8} {bytes : Bytes} (htype : extensionType ≠ 0) :
    readAhead extensionType (byte :: bytes) = (byte, bytes) := by
  simp [readAhead, htype]

theorem bytes_scanFrom {byte : UInt8} {bytes : Bytes} (htype : extensionType ≠ 0) :
    (scanFrom extensionType (byte :: bytes) extensions number).bytes = bytes := by
  simp [scanFrom, readAhead_cons htype]

theorem loop_end : extensionLoop.run (scanFrom 0 unread extensions number)
    = .ok (.ok (extensions, unread)) := by
  apply extensionLoop.run_done
  have htype : (scanFrom 0 unread extensions number).extensionType = 0 := rfl
  rw [extensionLoop]
  simp only [scanExtension_of_zero htype]
  simp [scanFrom, readAhead_zero]

theorem loop_missing (htype : extensionType ≠ 0) (hshort : unread.length < 2) :
    extensionLoop.run (scanFrom extensionType unread extensions number)
      = .ok (.error (.missingExtension number)) := by
  apply extensionLoop.run_done
  have hbytes : (scanFrom extensionType unread extensions number).bytes = [] := by
    match unread, hshort with
    | [], _ => rfl
    | [byte], _ => exact bytes_scanFrom htype
  rw [extensionLoop]
  simp only [scanExtension_of_nil htype hbytes]
  rfl

theorem loop_incomplete {next length : UInt8} {rest : Bytes} (htype : extensionType ≠ 0)
    (hshort : rest.length < length.toNat) :
    extensionLoop.run (scanFrom extensionType (next :: length :: rest) extensions number)
      = .ok (.error (.incompleteExtension number length.toNat rest.length)) := by
  apply extensionLoop.run_done
  rw [extensionLoop]
  simp only [scanExtension_of_short htype (bytes_scanFrom htype) hshort]
  rfl

theorem loop_extension {next length : UInt8} {rest : Bytes} (htype : extensionType ≠ 0)
    (hfits : length.toNat ≤ rest.length) :
    extensionLoop.run (scanFrom extensionType (next :: length :: rest) extensions number)
      = extensionLoop.run (scanFrom next (rest.drop length.toNat)
          (extensions ++ [⟨ExtensionType.ofU8 extensionType, rest.take length.toNat⟩])
          (number + 1)) := by
  apply extensionLoop.run_next
  rw [extensionLoop]
  simp only [scanExtension_of_fits htype (bytes_scanFrom htype) hfits]
  simp [scanFrom, readAhead_cons htype]

end Grammar

/-- The loop collects the extensions the encoder wrote, and stops right behind them. -/
theorem loop_putExtensions (written : List Extension) (rest : Bytes) (extensions : List Extension)
    (number : Nat) (hwritten : ∀ extension ∈ written, extension.WellFormed) :
    extensionLoop.run
        (scanFrom (firstExtensionType written) (putExtensions written ++ rest) extensions number)
      = .ok (.ok (extensions ++ written, rest)) := by
  induction written generalizing extensions number with
  | nil => simpa [firstExtensionType, putExtensions] using loop_end
  | cons extension written ih =>
      have hextension := hwritten extension (by simp)
      have hlength := hextension.toNat_length
      have hrest := ih (extensions ++ [extension]) (number + 1)
        fun extension hmem => hwritten extension (by simp [hmem])
      rw [firstExtensionType, putExtensions, List.cons_append, List.cons_append, List.append_assoc,
        loop_extension (toU8_ne_zero hextension.2) (by simp [hlength])]
      simp only [hlength, List.take_left', List.drop_left', ofU8_toU8 hextension.2]
      simpa using hrest

/-- What the loop has collected when it succeeds is what the encoder would have written there. -/
theorem eq_of_loop {extensionType : UInt8} {unread : Bytes} {extensions : List Extension}
    {number : Nat} {collected : List Extension} {rest : Bytes}
    (hloop : extensionLoop.run (scanFrom extensionType unread extensions number)
      = .ok (.ok (collected, rest))) :
    ∃ written, collected = extensions ++ written ∧ firstExtensionType written = extensionType
      ∧ unread = putExtensions written ++ rest
      ∧ ∀ extension ∈ written, extension.WellFormed := by
  induction hlength : unread.length using Nat.strongRecOn
    generalizing extensionType unread extensions number with
  | ind total ih =>
      by_cases htype : extensionType = 0
      · subst htype
        rw [loop_end] at hloop
        simp only [Except.ok.injEq, Prod.mk.injEq] at hloop
        exact ⟨[], by simp [hloop.1], rfl, by simp [putExtensions, hloop.2], by simp⟩
      match unread with
      | [] => simp [loop_missing htype (by simp : ([] : Bytes).length < 2)] at hloop
      | [byte] => simp [loop_missing htype (by simp : [byte].length < 2)] at hloop
      | next :: length :: body =>
          by_cases hfits : length.toNat ≤ body.length
          · rw [loop_extension htype hfits] at hloop
            obtain ⟨written, hcollected, hfirst, hunread, hformed⟩ :=
              ih (body.drop length.toNat).length
                (by simp only [List.length_cons, List.length_drop] at hlength ⊢; omega) hloop rfl
            have htake : (body.take length.toNat).length = length.toNat := by
              simp [hfits]
            refine ⟨⟨ExtensionType.ofU8 extensionType, body.take length.toNat⟩ :: written, ?_, ?_,
              ?_, ?_⟩
            · simp [hcollected]
            · simp [firstExtensionType]
            · simp only [putExtensions, hfirst, htake, UInt8.ofNat_toNat, List.cons_append,
                List.append_assoc, ← hunread, List.take_append_drop]
            · intro extension hmem
              rcases List.mem_cons.mp hmem with rfl | hmem
              · have hbyte := length.toNat_lt
                exact ⟨by rw [htake]; omega, canonical_ofU8 htype⟩
              · exact hformed extension hmem
          · rw [loop_incomplete htype (by omega)] at hloop
            simp at hloop

/-! ### The header -/

section Header

variable (typeAndVersion first : UInt8) (connectionId : UInt16)
  (timestampMicros timestampDeltaMicros windowSize : UInt32) (seqNumber ackNumber : UInt16)
  (rest : Bytes)

def putHeader : Bytes :=
  typeAndVersion :: first :: (putU16 connectionId ++ (putU32 timestampMicros
    ++ (putU32 timestampDeltaMicros ++ (putU32 windowSize ++ (putU16 seqNumber
      ++ putU16 ackNumber)))))

theorem length_putHeader : (putHeader typeAndVersion first connectionId timestampMicros
    timestampDeltaMicros windowSize seqNumber ackNumber).length = packetHeaderLen := by
  simp [putHeader, putU16, putU32, packetHeaderLen]

/-- The parser on a whole header: the two halves of the first byte are checked, and everything
behind the header is the extension loop. -/
theorem tryFrom_putHeader :
    Packet.tryFrom (putHeader typeAndVersion first connectionId timestampMicros
        timestampDeltaMicros windowSize seqNumber ackNumber ++ rest) =
      match PacketType.tryFrom (typeAndVersion >>> 4) with
      | .error error => .ok (.error error)
      | .ok packetType =>
          if typeAndVersion &&& 0x0F ≠ 1 then
            .ok (.error (.unsupportedVersion (typeAndVersion &&& 0x0F)))
          else
            match extensionLoop.run (scanFrom first rest [] 0) with
            | .error panic => .error panic
            | .ok (.error error) => .ok (.error error)
            | .ok (.ok (extensions, data)) =>
                .ok (.ok ⟨packetType, 1, connectionId, timestampMicros, timestampDeltaMicros,
                  windowSize, seqNumber, ackNumber, extensions, data⟩) := by
  have hlength : ¬(putHeader typeAndVersion first connectionId timestampMicros
      timestampDeltaMicros windowSize seqNumber ackNumber ++ rest).length < packetHeaderLen := by
    rw [List.length_append, length_putHeader]
    omega
  unfold Packet.tryFrom
  rw [if_neg hlength]
  simp only [putHeader, List.cons_append, List.append_assoc, getU8, getU16_putU16, getU32_putU32,
    bind, Except.bind, pure, Except.pure]
  cases PacketType.tryFrom (typeAndVersion >>> 4) with
  | error error => rfl
  | ok packetType =>
      by_cases hversion : typeAndVersion &&& 0x0F = 1
      · by_cases hfirst : first = 0
        · subst hfirst
          simp only [hversion, scanFrom, readAhead_zero]
          cases extensionLoop.run ⟨rest, [], 0, 0, 0⟩ with
          | error panic => rfl
          | ok result => cases result <;> rfl
        · cases rest with
          | nil => simp [hversion, hfirst, loop_missing]
          | cons byte rest =>
              have hscan : scanFrom first (byte :: rest) [] 0 = ⟨rest, [], 0, first, byte⟩ := by
                simp [scanFrom, readAhead_cons hfirst]
              rw [hscan]
              simp only [hversion, hfirst, ne_eq, not_true_eq_false, not_false_eq_true,
                List.isEmpty_cons, Bool.false_eq_true, and_false, if_true, if_false]
              cases extensionLoop.run ⟨rest, [], 0, first, byte⟩ with
              | error panic => rfl
              | ok result => cases result <;> rfl
      · simp [hversion]

end Header

theorem exists_putU16 {bytes : Bytes} (hlength : 2 ≤ bytes.length) :
    ∃ value rest, bytes = putU16 value ++ rest := by
  obtain ⟨value, hlt, rest, rfl⟩ := BigEndian.exists_encode hlength
  refine ⟨UInt16.ofNat value, rest, ?_⟩
  rw [putU16, UInt16.toNat_ofNat_of_lt' hlt]

theorem exists_putU32 {bytes : Bytes} (hlength : 4 ≤ bytes.length) :
    ∃ value rest, bytes = putU32 value ++ rest := by
  obtain ⟨value, hlt, rest, rfl⟩ := BigEndian.exists_encode hlength
  refine ⟨UInt32.ofNat value, rest, ?_⟩
  rw [putU32, UInt32.toNat_ofNat_of_lt' hlt]

theorem exists_putHeader {bytes : Bytes} (hlength : packetHeaderLen ≤ bytes.length) :
    ∃ typeAndVersion first connectionId timestampMicros timestampDeltaMicros windowSize seqNumber
      ackNumber rest, bytes = putHeader typeAndVersion first connectionId timestampMicros
        timestampDeltaMicros windowSize seqNumber ackNumber ++ rest := by
  simp only [packetHeaderLen] at hlength
  obtain ⟨typeAndVersion, bytes, rfl⟩ := List.exists_cons_of_length_pos (by omega : 0 < bytes.length)
  simp only [List.length_cons] at hlength
  obtain ⟨first, bytes, rfl⟩ := List.exists_cons_of_length_pos (by omega : 0 < bytes.length)
  simp only [List.length_cons] at hlength
  obtain ⟨connectionId, bytes, rfl⟩ := exists_putU16 (by omega : 2 ≤ bytes.length)
  simp only [List.length_append, putU16, BigEndian.length_encode] at hlength
  obtain ⟨timestampMicros, bytes, rfl⟩ := exists_putU32 (by omega : 4 ≤ bytes.length)
  simp only [List.length_append, putU32, BigEndian.length_encode] at hlength
  obtain ⟨timestampDeltaMicros, bytes, rfl⟩ := exists_putU32 (by omega : 4 ≤ bytes.length)
  simp only [List.length_append, putU32, BigEndian.length_encode] at hlength
  obtain ⟨windowSize, bytes, rfl⟩ := exists_putU32 (by omega : 4 ≤ bytes.length)
  simp only [List.length_append, putU32, BigEndian.length_encode] at hlength
  obtain ⟨seqNumber, bytes, rfl⟩ := exists_putU16 (by omega : 2 ≤ bytes.length)
  simp only [List.length_append, putU16, BigEndian.length_encode] at hlength
  obtain ⟨ackNumber, bytes, rfl⟩ := exists_putU16 (by omega : 2 ≤ bytes.length)
  refine ⟨typeAndVersion, first, connectionId, timestampMicros, timestampDeltaMicros, windowSize,
    seqNumber, ackNumber, bytes, ?_⟩
  simp [putHeader]

theorem intoBytes_eq (packet : Packet) :
    packet.intoBytes = putHeader (packet.packetType.toU8 <<< 4 ||| packet.version)
        (firstExtensionType packet.extensions) packet.connectionId packet.timestampMicros
        packet.timestampDeltaMicros packet.windowSize packet.seqNumber packet.ackNumber
      ++ (putExtensions packet.extensions ++ packet.data) := by
  simp [Packet.intoBytes, putHeader]

/-! ### The parser never panics -/

/-- No pass of the extension loop reads past the end. -/
theorem exists_scanExtension (scan : ExtensionScan) : ∃ pass, scanExtension scan = .ok pass := by
  by_cases htype : scan.extensionType = 0
  · exact ⟨_, scanExtension_of_zero htype⟩
  cases hbytes : scan.bytes with
  | nil => exact ⟨_, scanExtension_of_nil htype hbytes⟩
  | cons length bytes =>
      by_cases hfits : length.toNat ≤ bytes.length
      · exact ⟨_, scanExtension_of_fits htype hbytes hfits⟩
      · exact ⟨_, scanExtension_of_short htype hbytes (by omega)⟩

theorem exists_extensionLoop (scan : ExtensionScan) :
    ∃ result, extensionLoop.run scan = .ok result := by
  apply extensionLoop.run_invariant (motive := fun _ => True) fun value => ∃ result, value = .ok result
  · exact fun _ _ _ _ => trivial
  · intro scan value _ hbody
    obtain ⟨pass, hscan⟩ := exists_scanExtension scan
    cases pass with
    | next scan' => simp [extensionLoop, hscan] at hbody
    | done result =>
        simp only [extensionLoop, hscan, Loop.Pass.done.injEq] at hbody
        exact ⟨result, hbody.symm⟩
  · trivial

/-- **The parser never panics.** -/
theorem exists_tryFrom (bytes : Bytes) : ∃ result, Packet.tryFrom bytes = .ok result := by
  by_cases hlength : packetHeaderLen ≤ bytes.length
  · obtain ⟨typeAndVersion, first, connectionId, timestampMicros, timestampDeltaMicros, windowSize,
      seqNumber, ackNumber, rest, rfl⟩ := exists_putHeader hlength
    rw [tryFrom_putHeader]
    split
    · exact ⟨_, rfl⟩
    split
    · exact ⟨_, rfl⟩
    split
    · rename_i panic hloop
      obtain ⟨result, hresult⟩ := exists_extensionLoop (scanFrom first rest [] 0)
      rw [hloop] at hresult
      cases hresult
    · exact ⟨_, rfl⟩
    · exact ⟨_, rfl⟩
  · have hshort : bytes.length < packetHeaderLen := by omega
    exact ⟨.error .tooSmall, by simp [Packet.tryFrom, hshort, pure, Except.pure]⟩

/-! ### The two round trips -/

theorem tryFrom_intoBytes_of_wellFormed {packet : Packet} (hpacket : packet.WellFormed) :
    Packet.tryFrom packet.intoBytes = .ok (.ok packet) := by
  obtain ⟨hversion, hextensions⟩ := hpacket
  obtain ⟨htype, hone⟩ := typeAndVersion_split packet.packetType
  rw [intoBytes_eq, tryFrom_putHeader, hversion, htype, hone, tryFrom_toU8,
    loop_putExtensions _ _ _ _ hextensions]
  cases packet
  simp_all

/-- An accepted datagram is the encoding of what it decodes to, and that is well-formed. -/
theorem intoBytes_of_tryFrom {bytes : Bytes} {packet : Packet}
    (hparse : Packet.tryFrom bytes = .ok (.ok packet)) :
    packet.intoBytes = bytes ∧ packet.WellFormed := by
  by_cases hlength : packetHeaderLen ≤ bytes.length
  · obtain ⟨typeAndVersion, first, connectionId, timestampMicros, timestampDeltaMicros, windowSize,
      seqNumber, ackNumber, rest, rfl⟩ := exists_putHeader hlength
    rw [tryFrom_putHeader] at hparse
    split at hparse
    · cases hparse
    rename_i packetType htype
    split at hparse
    · cases hparse
    rename_i hversion
    rw [ne_eq, not_not] at hversion
    split at hparse
    · cases hparse
    · cases hparse
    rename_i extensions data hloop
    simp only [Except.ok.injEq] at hparse
    obtain ⟨written, hwritten, hfirst, hrest, hformed⟩ := eq_of_loop hloop
    simp only [List.nil_append] at hwritten
    subst hwritten hparse
    refine ⟨?_, rfl, hformed⟩
    have hbyte : packetType.toU8 <<< 4 ||| 1 = typeAndVersion := by
      rw [toU8_of_tryFrom htype, ← hversion]
      exact byte_of_halves typeAndVersion
    rw [intoBytes_eq]
    simp only [hbyte, hfirst, hrest]
  · have hshort : bytes.length < packetHeaderLen := by omega
    simp [Packet.tryFrom, hshort, pure, Except.pure] at hparse

/-- **Decoding undoes encoding, on the well-formed packets and on no others.** -/
theorem tryFrom_intoBytes_iff (packet : Packet) :
    Packet.tryFrom packet.intoBytes = .ok (.ok packet) ↔
      packet.version = 1
        ∧ (∀ extension ∈ packet.extensions, extension.data.length ≤ 255)
        ∧ ∀ extension ∈ packet.extensions, extension.extensionType ≠ .none
          ∧ ∀ number, extension.extensionType = .unknown number → 3 < number := by
  constructor
  · intro hparse
    obtain ⟨hversion, hformed⟩ := (intoBytes_of_tryFrom hparse).2
    exact ⟨hversion, fun extension hmem => (hformed extension hmem).1,
      fun extension hmem => canonical_iff.mp (hformed extension hmem).2⟩
  · rintro ⟨hversion, hlength, htype⟩
    apply tryFrom_intoBytes_of_wellFormed
    exact ⟨hversion, fun extension hmem =>
      ⟨hlength extension hmem, canonical_iff.mpr (htype extension hmem)⟩⟩

/-- **Encoding undoes decoding.** No byte of an accepted datagram is dropped, invented or
reinterpreted, no other datagram decodes to the same packet, and the packet is well-formed. -/
theorem tryFrom_lossless (bytes : Bytes) (packet : Packet)
    (hparse : Packet.tryFrom bytes = .ok (.ok packet)) :
    packet.intoBytes = bytes
      ∧ (∀ bytes', Packet.tryFrom bytes' = .ok (.ok packet) → bytes' = bytes)
      ∧ packet.version = 1
      ∧ ∀ extension ∈ packet.extensions, extension.data.length ≤ 255
        ∧ extension.extensionType ≠ .none
        ∧ ∀ number, extension.extensionType = .unknown number → 3 < number := by
  obtain ⟨hbytes, hversion, hformed⟩ := intoBytes_of_tryFrom hparse
  refine ⟨hbytes, ?_, hversion, ?_⟩
  · intro bytes' hparse'
    exact (intoBytes_of_tryFrom hparse').1.symm.trans hbytes
  · intro extension hmem
    exact ⟨(hformed extension hmem).1, canonical_iff.mp (hformed extension hmem).2⟩

def unknownExtensionDatagram : Bytes :=
  [0x21, 0xff, 0x30, 0x39, 0x00, 0x03, 0xc4, 0x1a, 0x00, 0x00, 0x00, 0x28, 0x00, 0x00, 0x10, 0x00,
    0x00, 0x00, 0x00, 0x00, 0x00, 0x03, 0x00, 0x01, 0x00, 0x07]

def unknownExtensionPacket : Packet :=
  ⟨.state, 1, 12345, 246810, 40, 4096, 0, 0, [⟨.unknown 0xff, [0x00, 0x01, 0x00]⟩], [0x07]⟩

theorem tryFrom_lossless_unknownExtension :
    Packet.tryFrom unknownExtensionDatagram = .ok (.ok unknownExtensionPacket)
      ∧ unknownExtensionPacket.intoBytes = unknownExtensionDatagram :=
  have hparse : Packet.tryFrom unknownExtensionDatagram = .ok (.ok unknownExtensionPacket) := by
    decide
  ⟨hparse, (tryFrom_lossless unknownExtensionDatagram unknownExtensionPacket hparse).1⟩

end UtpSafety
