import ValueParcel.Parcel.Encoding

/-!
Decoding undoes encoding. What follows an encoded record is left as it is, so that records can stand one behind the
other.
-/

namespace ValueParcel

/-! ## Numbers and texts -/

namespace Bytes

variable {n width : Nat} {rest : List UInt8}

theorem number?_littleEndian (h : n < Nat.pow 256 width) :
    number? width (littleEndian width n ++ rest) = some (n, rest) := by
  have ht : take? width (littleEndian width n ++ rest) = some (littleEndian width n, rest) := by
    have := take?_append (littleEndian width n) rest
    rwa [length_littleEndian] at this
  simp only [number?, ht, Option.map_some, ofLittleEndian_littleEndian width n h]

/-- A length that eight bytes can hold, as that of anything in memory. -/
def IsCount (n : Nat) : Prop := n < Nat.pow 256 8

instance (n : Nat) : Decidable (IsCount n) := inferInstanceAs (Decidable (n < Nat.pow 256 8))

theorem number?_ofCount (h : IsCount n) : number? 8 (ofCount n ++ rest) = some (n, rest) :=
  number?_littleEndian h

theorem fromUTF8?_toUTF8 (s : String) : String.fromUTF8? ⟨s.toUTF8.data.toList.toArray⟩ = some s := by
  have hs : s.toByteArray.IsValidUTF8 := s.isValidUTF8
  simp [String.fromUTF8?, hs, String.fromUTF8]

theorem text?_ofText {s : String} (h : IsCount s.toUTF8.size) : text? (ofText s ++ rest) = some (s, rest) := by
  have hc : IsCount s.toUTF8.data.toList.length := h
  simp only [text?, ofText, List.append_assoc, number?_ofCount hc, take?_append, fromUTF8?_toUTF8, Option.bind_some,
    bind, pure]

end Bytes

/-! ## Values -/

namespace Value

open Bytes (IsCount)

mutual

/-- The lengths of all texts and collections in the value are counts. -/
def Fits : Value → Prop
  | text s => IsCount s.toUTF8.size
  | bytes data => IsCount data.length
  | list items => IsCount items.length ∧ FitsItems items
  | map entries => IsCount entries.length ∧ FitsEntries entries
  | _ => True

def FitsItems : List Value → Prop
  | [] => True
  | v :: rest => v.Fits ∧ FitsItems rest

def FitsEntries : List (String × Value) → Prop
  | [] => True
  | (key, v) :: rest => IsCount key.toUTF8.size ∧ v.Fits ∧ FitsEntries rest

end

theorem number?_ofKind {kind : Nat} (h : kind < 10) (rest : List UInt8) :
    Bytes.number? 4 (ofKind kind ++ rest) = some (kind, rest) :=
  Bytes.number?_littleEndian (Nat.lt_trans h (by decide))

theorem length_ofKind (kind : Nat) : (ofKind kind).length = 4 := Bytes.length_littleEndian 4 kind

mutual

/-- A value is decoded to itself if no less depth is given than the value has bytes. -/
theorem decodeWithin_encode (depth : Nat) (rest : List UInt8) : (v : Value) → v.Fits → v.encode.length ≤ depth →
    decodeWithin (depth + 1) (v.encode ++ rest) = some (v, rest)
  | null, _, _ => by
      simp [decodeWithin, encode, number?_ofKind]
  | byte v, _, _ => by
      have hn : v.toUInt8.toNat < Nat.pow 256 1 := v.toUInt8.toNat_lt
      have hv : Int8.ofNat v.toUInt8.toNat = v := by
        rw [← UInt8.toInt8_ofNat', UInt8.ofNat_toNat, Int8.toInt8_toUInt8]
      simp [decodeWithin, encode, number?_ofKind, Bytes.number?_littleEndian hn, hv]
  | int v, _, _ => by
      have hn : v.toUInt32.toNat < Nat.pow 256 4 := v.toUInt32.toNat_lt
      have hv : Int32.ofNat v.toUInt32.toNat = v := by
        rw [← UInt32.toInt32_ofNat', UInt32.ofNat_toNat, Int32.toInt32_toUInt32]
      simp [decodeWithin, encode, number?_ofKind, Bytes.number?_littleEndian hn, hv]
  | long v, _, _ => by
      have hn : v.toUInt64.toNat < Nat.pow 256 8 := v.toUInt64.toNat_lt
      have hv : Int64.ofNat v.toUInt64.toNat = v := by
        rw [← UInt64.toInt64_ofNat', UInt64.ofNat_toNat, Int64.toInt64_toUInt64]
      simp [decodeWithin, encode, number?_ofKind, Bytes.number?_littleEndian hn, hv]
  | float bits, _, _ => by
      have hn : bits.toNat < Nat.pow 256 4 := bits.toNat_lt
      simp [decodeWithin, encode, number?_ofKind, Bytes.number?_littleEndian hn]
  | double bits, _, _ => by
      have hn : bits.toNat < Nat.pow 256 8 := bits.toNat_lt
      simp [decodeWithin, encode, number?_ofKind, Bytes.number?_littleEndian hn]
  | text s, h, _ => by
      have hs : Bytes.text? (Bytes.ofText s ++ rest) = some (s, rest) := Bytes.text?_ofText h
      simp [decodeWithin, encode, number?_ofKind, hs]
  | bytes data, h, _ => by
      simp [decodeWithin, encode, number?_ofKind, Bytes.number?_ofCount h, Bytes.take?_append]
  | list items, h, hd => by
      have hl : (encodeItems items).length < depth := by
        simp only [encode, List.length_append, length_ofKind] at hd
        omega
      have hi := items?_encodeItems depth rest items h.2 hl
      simp [decodeWithin, encode, number?_ofKind, Bytes.number?_ofCount h.1, hi]
  | map entries, h, hd => by
      have hl : (encodeEntries entries).length < depth := by
        simp only [encode, List.length_append, length_ofKind] at hd
        omega
      have he := items?_encodeEntries depth rest entries h.2 hl
      simp [decodeWithin, encode, number?_ofKind, Bytes.number?_ofCount h.1, he]

theorem items?_encodeItems (depth : Nat) (rest : List UInt8) : (items : List Value) → FitsItems items →
    (encodeItems items).length < depth →
    Bytes.items? (decodeWithin depth) items.length (encodeItems items ++ rest) = some (items, rest)
  | [], _, _ => rfl
  | v :: items, h, hd => by
      obtain ⟨d, rfl⟩ : ∃ d, depth = d + 1 := ⟨depth - 1, by omega⟩
      rw [encodeItems, List.length_append] at hd
      have hv := decodeWithin_encode d (encodeItems items ++ rest) v h.1 (by omega)
      have hi := items?_encodeItems (d + 1) rest items h.2 (by omega)
      simp [Bytes.items?, encodeItems, hv, hi]

theorem items?_encodeEntries (depth : Nat) (rest : List UInt8) : (entries : List (String × Value)) →
    FitsEntries entries → (encodeEntries entries).length < depth →
    Bytes.items? (decodeWithin.keyed? (decodeWithin depth)) entries.length (encodeEntries entries ++ rest) =
      some (entries, rest)
  | [], _, _ => rfl
  | (key, v) :: entries, h, hd => by
      obtain ⟨d, rfl⟩ : ∃ d, depth = d + 1 := ⟨depth - 1, by omega⟩
      rw [encodeEntries, List.length_append, List.length_append] at hd
      have hk : Bytes.text? (Bytes.ofText key ++ (v.encode ++ (encodeEntries entries ++ rest))) = some (key, _) :=
        Bytes.text?_ofText h.1
      have hv := decodeWithin_encode d (encodeEntries entries ++ rest) v h.2.1 (by omega)
      have he := items?_encodeEntries (d + 1) rest entries h.2.2 (by omega)
      simp [Bytes.items?, encodeEntries, decodeWithin.keyed?, hk, hv, he]

end

theorem decode_encode {v : Value} (h : v.Fits) (rest : List UInt8) : decode (v.encode ++ rest) = some (v, rest) :=
  decodeWithin_encode _ rest v h (by rw [List.length_append]; omega)

end Value

/-! ## Records -/

namespace Record

def Fits (r : Record) : Prop := Bytes.IsCount r.tag.toUTF8.size ∧ r.value.Fits

/-- A record is decoded to itself, and what follows it is left. -/
theorem decode_encode {r : Record} (h : r.Fits) (rest : List UInt8) : decode (r.encode ++ rest) = some (r, rest) := by
  simp only [decode, encode, List.append_assoc, Bytes.text?_ofText h.1, Value.decode_encode h.2, Option.bind_some,
    bind, pure]

theorem encode_ne_nil (r : Record) : r.encode ≠ [] := by
  have hl : (Bytes.ofCount r.tag.toUTF8.data.toList.length).length = 8 := Bytes.length_littleEndian 8 _
  intro h
  have := congrArg List.length h
  simp only [encode, Bytes.ofText, List.length_append, hl, List.length_nil] at this
  omega

end Record

end ValueParcel
