import ValueParcel.Decimal.Layout
import ValueParcel.Text.Commas
import ValueParcel.Text.Quoted

/-! The values that a parcel holds, and how messages show them. -/

namespace ValueParcel

inductive Value
  | null
  | byte (v : Int8)
  | int (v : Int32)
  | long (v : Int64)
  /-- A floating-point number of single precision by its bits. -/
  | float (bits : UInt32)
  /-- A floating-point number of double precision by its bits. -/
  | double (bits : UInt64)
  | text (s : String)
  | bytes (data : List UInt8)
  | list (items : List Value)
  /-- Values under keys, in ascending order of the keys. -/
  | map (entries : List (String × Value))
  deriving Repr

namespace Value

instance : Inhabited Value := ⟨null⟩

/-- The entries with `v` under `key`, in place of what stood there. -/
def insertEntry (key : String) (v : Value) : List (String × Value) → List (String × Value)
  | [] => [(key, v)]
  | (k, w) :: rest =>
    if key = k then (key, v) :: rest
    else if key < k then (key, v) :: (k, w) :: rest
    else (k, w) :: insertEntry key v rest

/-- The map of some entries; the last of several under one key counts. -/
def ofEntries (entries : List (String × Value)) : Value :=
  map (entries.foldl (fun m (key, v) => insertEntry key v m) [])

/-- Numbers are shown positionally from 10^-4 up to below 10^16. -/
def numberLayout : Decimal.Layout :=
  { tie := .upper
    positionalFrom := -4
    positionalBelow := 16
    exponentMark := 'e'
    positiveSign := []
    notANumber := "NaN"
    infinity := "inf" }

def wrapped (name content : String) : String := name ++ "(" ++ content ++ ")"

mutual

/-- The value as messages show it. -/
def display : Value → String
  | null => "Null"
  | byte v => wrapped "Byte" (toString v.toInt)
  | int v => wrapped "Int" (toString v.toInt)
  | long v => wrapped "Long" (toString v.toInt)
  | float bits => wrapped "Float" (numberLayout.render .single bits.toNat)
  | double bits => wrapped "Double" (numberLayout.render .double bits.toNat)
  | text s => wrapped "Str" (Text.quoted s)
  | bytes data => wrapped "Bytes" ("[" ++ Text.commas (data.map fun b => toString b.toNat) ++ "]")
  | list items => wrapped "List" ("[" ++ Text.commas (displayList items) ++ "]")
  | map entries => wrapped "Map" ("\x7b" ++ Text.commas (displayEntries entries) ++ "\x7d")

def displayList : List Value → List String
  | [] => []
  | v :: rest => v.display :: displayList rest

def displayEntries : List (String × Value) → List String
  | [] => []
  | (key, v) :: rest => (Text.quoted key ++ ": " ++ v.display) :: displayEntries rest

end

end Value

end ValueParcel
