import ValueParcel.Parcel.Bytes
import ValueParcel.Parcel.Value

/-!
Records as bytes. A record is the text of its tag and a value; a value is the number of its kind in four bytes and its
content, where lists and maps have a count before their items.
-/

namespace ValueParcel

namespace Value

def ofKind (n : Nat) : List UInt8 := Bytes.littleEndian 4 n

mutual

def encode : Value → List UInt8
  | null => ofKind 0
  | byte v => ofKind 1 ++ Bytes.littleEndian 1 v.toUInt8.toNat
  | int v => ofKind 2 ++ Bytes.littleEndian 4 v.toUInt32.toNat
  | long v => ofKind 3 ++ Bytes.littleEndian 8 v.toUInt64.toNat
  | float bits => ofKind 4 ++ Bytes.littleEndian 4 bits.toNat
  | double bits => ofKind 5 ++ Bytes.littleEndian 8 bits.toNat
  | text s => ofKind 6 ++ Bytes.ofText s
  | bytes data => ofKind 7 ++ (Bytes.ofCount data.length ++ data)
  | list items => ofKind 8 ++ (Bytes.ofCount items.length ++ encodeItems items)
  | map entries => ofKind 9 ++ (Bytes.ofCount entries.length ++ encodeEntries entries)

def encodeItems : List Value → List UInt8
  | [] => []
  | v :: rest => v.encode ++ encodeItems rest

def encodeEntries : List (String × Value) → List UInt8
  | [] => []
  | (key, v) :: rest => Bytes.ofText key ++ v.encode ++ encodeEntries rest

end

/-- A value that is nested no more than `depth` deep, and what follows it. -/
def decodeWithin : Nat → List UInt8 → Option (Value × List UInt8)
  | 0, _ => none
  | depth + 1, data => do
    let (kind, rest) ← Bytes.number? 4 data
    match kind with
    | 0 => return (null, rest)
    | 1 =>
      let (n, rest) ← Bytes.number? 1 rest
      return (byte (UInt8.ofNat n).toInt8, rest)
    | 2 =>
      let (n, rest) ← Bytes.number? 4 rest
      return (int (UInt32.ofNat n).toInt32, rest)
    | 3 =>
      let (n, rest) ← Bytes.number? 8 rest
      return (long (UInt64.ofNat n).toInt64, rest)
    | 4 =>
      let (n, rest) ← Bytes.number? 4 rest
      return (float (UInt32.ofNat n), rest)
    | 5 =>
      let (n, rest) ← Bytes.number? 8 rest
      return (double (UInt64.ofNat n), rest)
    | 6 =>
      let (s, rest) ← Bytes.text? rest
      return (text s, rest)
    | 7 =>
      let (count, rest) ← Bytes.number? 8 rest
      let (data, rest) ← Bytes.take? count rest
      return (bytes data, rest)
    | 8 =>
      let (count, rest) ← Bytes.number? 8 rest
      let (items, rest) ← Bytes.items? (decodeWithin depth) count rest
      return (list items, rest)
    | 9 =>
      let (count, rest) ← Bytes.number? 8 rest
      let (entries, rest) ← Bytes.items? (keyed? (decodeWithin depth)) count rest
      return (map entries, rest)
    | _ => none
where
  keyed? (value? : List UInt8 → Option (Value × List UInt8)) (data : List UInt8) :
      Option ((String × Value) × List UInt8) := do
    let (key, rest) ← Bytes.text? data
    let (v, rest) ← value? rest
    return ((key, v), rest)

/-- A value and what follows it. Each level of nesting takes at least four bytes. -/
def decode (data : List UInt8) : Option (Value × List UInt8) := decodeWithin (data.length + 1) data

end Value

/-- A value and the operation that wrote it. -/
structure Record where
  tag : String
  value : Value
  deriving Repr

namespace Record

def encode (r : Record) : List UInt8 := Bytes.ofText r.tag ++ r.value.encode

def decode (data : List UInt8) : Option (Record × List UInt8) := do
  let (tag, rest) ← Bytes.text? data
  let (value, rest) ← Value.decode rest
  return (⟨tag, value⟩, rest)

end Record

end ValueParcel
