/-! Numbers and texts as bytes: the low byte first, and the length of a text before it. -/

namespace ValueParcel.Bytes

/-- The low `width` bytes of `n`, the lowest first. -/
def littleEndian : Nat → Nat → List UInt8
  | 0, _ => []
  | width + 1, n => UInt8.ofNat (n % 256) :: littleEndian width (n / 256)

/-- The number whose bytes these are, the lowest first. -/
def ofLittleEndian : List UInt8 → Nat
  | [] => 0
  | b :: rest => b.toNat + 256 * ofLittleEndian rest

/-- The first `count` bytes and the rest, if there are so many. -/
def take? (count : Nat) (data : List UInt8) : Option (List UInt8 × List UInt8) :=
  if count ≤ data.length then some (data.take count, data.drop count) else none

/-- A number of `width` bytes and what follows it. -/
def number? (width : Nat) (data : List UInt8) : Option (Nat × List UInt8) :=
  (take? width data).map fun (bytes, rest) => (ofLittleEndian bytes, rest)

def ofCount (n : Nat) : List UInt8 := littleEndian 8 n

def ofText (s : String) : List UInt8 :=
  let bytes := s.toUTF8.data.toList
  ofCount bytes.length ++ bytes

def text? (data : List UInt8) : Option (String × List UInt8) := do
  let (count, rest) ← number? 8 data
  let (bytes, rest) ← take? count rest
  return (← String.fromUTF8? ⟨bytes.toArray⟩, rest)

/-- So many items, each read behind the one before it. -/
def items? {α : Type} (item? : List UInt8 → Option (α × List UInt8)) :
    Nat → List UInt8 → Option (List α × List UInt8)
  | 0, data => some ([], data)
  | count + 1, data => do
    let (item, rest) ← item? data
    let (items, rest) ← items? item? count rest
    return (item :: items, rest)

theorem length_littleEndian (width n : Nat) : (littleEndian width n).length = width := by
  induction width generalizing n with
  | zero => rfl
  | succ width ih => simp [littleEndian, ih]

theorem ofLittleEndian_littleEndian (width n : Nat) (h : n < Nat.pow 256 width) :
    ofLittleEndian (littleEndian width n) = n := by
  induction width generalizing n with
  | zero =>
    have : n < 1 := h
    simp only [littleEndian, ofLittleEndian]
    omega
  | succ width ih =>
    have hd : n / 256 < Nat.pow 256 width := by
      have : n < Nat.pow 256 width * 256 := h
      omega
    simp only [littleEndian, ofLittleEndian, ih _ hd, UInt8.toNat_ofNat']
    omega

theorem take?_append (bytes rest : List UInt8) : take? bytes.length (bytes ++ rest) = some (bytes, rest) := by
  simp [take?]

end ValueParcel.Bytes
