import UtpSafety.Proof.Grammar

/-!
# Datagrams that are cut short

The first bytes of an encoded packet are themselves a datagram. The grammar walks over the extensions
that are still whole (`extensions_skip`), and what it finds behind them decides: too few bytes for the
next extension, or the payload, of which any front part is as good as the whole.
-/

namespace UtpSafety

/-- The grammar on a cut behind some of the extensions: it collects these and goes on with the rest of
the cut. -/
theorem extensions_skip (index : Nat) {before : List Extension} (rest : List Extension) (data : Bytes)
    (hbefore : ∀ extension ∈ before, extension.WellFormed) (k : Nat) :
    Grammar.extensions index (firstExtensionType (before ++ rest))
        ((putExtensions (before ++ rest) ++ data).take (extensionsLength before + k))
      = (Grammar.extensions (index + before.length) (firstExtensionType rest)
        ((putExtensions rest ++ data).take k)).map fun found => (before ++ found.1, found.2) := by
  induction before generalizing index with
  | nil =>
      simp only [extensionsLength, List.map_nil, List.sum_nil, Nat.zero_add, List.nil_append,
        List.length_nil, Nat.add_zero]
      cases Grammar.extensions index (firstExtensionType rest) ((putExtensions rest ++ data).take k)
        with
      | error error => rfl
      | ok found => rfl
  | cons extension before ih =>
      have hextension := hbefore extension (by simp)
      have hlength := hextension.toNat_length
      have hcut : (putExtensions (extension :: before ++ rest) ++ data).take
            (extensionsLength (extension :: before) + k)
          = firstExtensionType (before ++ rest) :: UInt8.ofNat extension.data.length ::
            (extension.data
              ++ (putExtensions (before ++ rest) ++ data).take (extensionsLength before + k)) := by
        have hcount : extensionsLength (extension :: before) + k
            = extension.data.length + (extensionsLength before + k) + 1 + 1 := by
          simp only [extensionsLength, List.map_cons, List.sum_cons]
          omega
        rw [hcount]
        simp only [List.cons_append, putExtensions, List.take_succ_cons, List.append_assoc]
        rw [List.take_length_add_append]
      have hrest := ih (index + 1) fun extension hmem => hbefore extension (by simp [hmem])
      rw [hcut, List.cons_append, firstExtensionType,
        Grammar.extensions_cons _ (toU8_ne_zero hextension.2) (by simp [hlength])]
      simp only [hlength, List.take_left', List.drop_left', ofU8_toU8 hextension.2, hrest]
      have hindex : index + 1 + before.length = index + (extension :: before).length := by
        rw [List.length_cons]
        omega
      rw [hindex]
      cases Grammar.extensions (index + (extension :: before).length) (firstExtensionType rest)
        ((putExtensions rest ++ data).take k) with
      | error error => rfl
      | ok found => rfl

/-- The grammar on a cut before or inside an extension. -/
theorem extensions_cut (index : Nat) {extension : Extension} (hextension : extension.WellFormed)
    (after : List Extension) (data : Bytes) {k : Nat} (hk : k < 1 + 1 + extension.data.length) :
    Grammar.extensions index (firstExtensionType (extension :: after))
        ((putExtensions (extension :: after) ++ data).take k)
      = .error (if k < 2 then .missingExtension index
        else .incompleteExtension index extension.data.length (k - 2)) := by
  have htype := toU8_ne_zero hextension.2
  have hlength := hextension.toNat_length
  by_cases hheader : k < 2
  · rw [if_pos hheader]
    exact Grammar.extensions_missing _ htype (by rw [List.length_take]; omega)
  · rw [if_neg hheader]
    obtain ⟨present, rfl⟩ : ∃ present, k = present + 1 + 1 := ⟨k - 2, by omega⟩
    have hpresent : ((extension.data ++ (putExtensions after ++ data)).take present).length
        = present := by
      rw [List.length_take, List.length_append]
      omega
    simp only [firstExtensionType, putExtensions, List.cons_append, List.append_assoc,
      List.take_succ_cons]
    rw [Grammar.extensions_incomplete _ htype (by rw [hlength, hpresent]; omega), hlength, hpresent]
    rfl

/-- The parser on a cut behind the header of an encoded packet. -/
theorem tryFrom_take_intoBytes {packet : Packet} (hversion : packet.version = 1) (k : Nat) :
    Packet.tryFrom (packet.intoBytes.take (packetHeaderLen + k))
      = .ok ((Grammar.extensions 0 (firstExtensionType packet.extensions)
        ((putExtensions packet.extensions ++ packet.data).take k)).map fun found =>
          { packet with extensions := found.1, data := found.2 }) := by
  obtain ⟨htype, hone⟩ := typeAndVersion_split packet.packetType
  rw [intoBytes_eq, ← length_putHeader, List.take_length_add_append, tryFrom_putHeader, hversion,
    htype, hone, tryFrom_toU8, loop_eq_extensions]
  cases Grammar.extensions 0 (firstExtensionType packet.extensions)
    ((putExtensions packet.extensions ++ packet.data).take k) with
  | error error => rfl
  | ok found => simp [Except.map]

theorem tryFrom_cut_extension {packet : Packet} (hpacket : packet.WellFormed)
    {before after : List Extension} {extension : Extension}
    (hsplit : packet.extensions = before ++ extension :: after) {k : Nat}
    (hk : k < 1 + 1 + extension.data.length) :
    Packet.tryFrom (packet.intoBytes.take (packetHeaderLen + (extensionsLength before + k)))
      = .ok (.error (if k < 2 then .missingExtension before.length
        else .incompleteExtension before.length extension.data.length (k - 2))) := by
  obtain ⟨hversion, hformed⟩ := hpacket
  rw [hsplit] at hformed
  rw [tryFrom_take_intoBytes hversion, hsplit,
    extensions_skip 0 _ _ fun extension hmem => hformed extension (by simp [hmem]),
    extensions_cut _ (hformed extension (by simp)) _ _ hk, Nat.zero_add]
  rfl

theorem tryFrom_cut_payload {packet : Packet} (hpacket : packet.WellFormed) (k : Nat) :
    Packet.tryFrom (packet.intoBytes.take (packetHeaderLen + (extensionsLength packet.extensions + k)))
      = .ok (.ok { packet with data := packet.data.take k }) := by
  obtain ⟨hversion, hformed⟩ := hpacket
  have hskip := extensions_skip 0 [] packet.data hformed k
  rw [List.append_nil] at hskip
  rw [tryFrom_take_intoBytes hversion, hskip, firstExtensionType, Grammar.extensions_zero]
  simp [Except.map, putExtensions]

/-- Every place before the end of the extensions lies in one of them. -/
theorem exists_extension_at {extensions : List Extension} {place : Nat}
    (hplace : place < extensionsLength extensions) :
    ∃ before extension after, extensions = before ++ extension :: after
      ∧ extensionsLength before ≤ place
      ∧ place < extensionsLength before + (1 + 1 + extension.data.length) := by
  induction extensions generalizing place with
  | nil => simp [extensionsLength] at hplace
  | cons first rest ih =>
      by_cases hfirst : place < 1 + 1 + first.data.length
      · exact ⟨[], first, rest, rfl, by simp [extensionsLength], by simpa [extensionsLength] using hfirst⟩
      · have hcons : ∀ extensions, extensionsLength (first :: extensions)
            = 1 + 1 + first.data.length + extensionsLength extensions := fun _ => rfl
        rw [hcons] at hplace
        obtain ⟨before, extension, after, rfl, hle, hlt⟩ :=
          ih (by omega : place - (1 + 1 + first.data.length) < extensionsLength rest)
        refine ⟨first :: before, extension, after, rfl, ?_, ?_⟩
        · rw [hcons]
          omega
        · rw [hcons]
          omega

/-- **Cutting an encoded packet short.** The first `k` bytes of a well-formed packet are too small
inside the header. From the first byte of an extension to the last, they are an error that names this
extension, and says how much of its data is there when its length is. From the end of the extensions
on they are the packet with as much of its payload as is there. There are no other cuts. -/
theorem tryFrom_cut {packet : Packet} (hpacket : packet.WellFormed) (k : Nat) :
    (k < packetHeaderLen → Packet.tryFrom (packet.intoBytes.take k) = .ok (.error .tooSmall))
      ∧ (∀ before extension after, packet.extensions = before ++ extension :: after →
        packetHeaderLen + extensionsLength before ≤ k →
        k < packetHeaderLen + extensionsLength before + (1 + 1 + extension.data.length) →
        Packet.tryFrom (packet.intoBytes.take k) = .ok (.error
          (if k - (packetHeaderLen + extensionsLength before) < 2
            then .missingExtension before.length
            else .incompleteExtension before.length extension.data.length
              (k - (packetHeaderLen + extensionsLength before) - 2))))
      ∧ (packet.intoBytes.length - packet.data.length ≤ k →
        Packet.tryFrom (packet.intoBytes.take k) = .ok (.ok { packet with
          data := packet.data.take (k - (packet.intoBytes.length - packet.data.length)) }))
      ∧ (packetHeaderLen ≤ k → k < packet.intoBytes.length - packet.data.length →
        ∃ before extension after, packet.extensions = before ++ extension :: after
          ∧ packetHeaderLen + extensionsLength before ≤ k
          ∧ k < packetHeaderLen + extensionsLength before + (1 + 1 + extension.data.length)) := by
  rw [packet.length_before_data]
  refine ⟨?_, ?_, ?_, ?_⟩
  · intro hk
    have hshort : (packet.intoBytes.take k).length < packetHeaderLen := by
      rw [List.length_take]
      omega
    simp only [Packet.tryFrom, if_pos hshort]
    rfl
  · intro before extension after hsplit hle hlt
    obtain ⟨offset, rfl⟩ := Nat.exists_eq_add_of_le hle
    rw [Nat.add_sub_cancel_left, Nat.add_assoc]
    exact tryFrom_cut_extension hpacket hsplit (by omega)
  · intro hk
    obtain ⟨offset, rfl⟩ := Nat.exists_eq_add_of_le hk
    rw [Nat.add_sub_cancel_left, Nat.add_assoc]
    exact tryFrom_cut_payload hpacket offset
  · intro hle hlt
    obtain ⟨offset, rfl⟩ := Nat.exists_eq_add_of_le hle
    obtain ⟨before, extension, after, hsplit, hbefore, hafter⟩ :=
      exists_extension_at (by omega : offset < extensionsLength packet.extensions)
    exact ⟨before, extension, after, hsplit, by omega, by omega⟩

def twoExtensionsPacket : Packet :=
  ⟨.data, 1, 8, 0, 0, 0, 1, 0, [⟨.selectiveAck, [0x00, 0x01]⟩, ⟨.unknown 0xff, [0x05]⟩], [0x07, 0x08]⟩

theorem tryFrom_cut_twoExtensions :
    Packet.tryFrom (twoExtensionsPacket.intoBytes.take 19) = .ok (.error .tooSmall)
      ∧ Packet.tryFrom (twoExtensionsPacket.intoBytes.take 24) = .ok (.error (.missingExtension 1))
      ∧ Packet.tryFrom (twoExtensionsPacket.intoBytes.take 26)
        = .ok (.error (.incompleteExtension 1 1 0))
      ∧ Packet.tryFrom (twoExtensionsPacket.intoBytes.take 28)
        = .ok (.ok { twoExtensionsPacket with data := [0x07] }) := by
  have hpacket : twoExtensionsPacket.WellFormed := by decide
  have hsplit : twoExtensionsPacket.extensions
      = [⟨.selectiveAck, [0x00, 0x01]⟩] ++ ⟨.unknown 0xff, [0x05]⟩ :: [] := rfl
  exact ⟨(tryFrom_cut hpacket 19).1 (by decide),
    (tryFrom_cut hpacket 24).2.1 _ _ _ hsplit (by decide) (by decide),
    (tryFrom_cut hpacket 26).2.1 _ _ _ hsplit (by decide) (by decide),
    (tryFrom_cut hpacket 28).2.2.1 (by decide)⟩

end UtpSafety
