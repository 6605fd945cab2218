import ValueParcel.Layout.Slots

/-! The code of one property: the expression that reads it and the statement that writes it. -/

namespace ValueParcel

structure ReadFragment where
  code : String
  /-- The code takes the class loader. -/
  usesLoader : Bool
  unchecked : Bool
  deriving DecidableEq, Repr

structure WriteFragment where
  /-- The statement without a semicolon. -/
  statement : String
  /-- The call to compare with `null` before the presence flag is written. -/
  guard : Option String
  deriving DecidableEq, Repr

namespace PlannedProperty

/-- Reads the value, whether it may be absent or not. -/
def readValue (p : PlannedProperty) (s : Imports) : ReadFragment × Imports :=
  match p.route with
  | .adapter field => (⟨field.name ++ ".fromParcel(" ++ Encoding.sourceName ++ ")", false, false⟩, s)
  | .family f =>
    let (code, s) := f.readExpression s p.descriptor.declared
    (⟨code, f.encoding.usesLoader, f.isUnchecked p.descriptor.declared⟩, s)

/-- Reads the property: behind a presence flag of 0 the value, behind any other `null`. -/
def read (p : PlannedProperty) (s : Imports) : ReadFragment × Imports :=
  let (value, s) := p.readValue s
  if p.hasPresenceFlag then
    ({ value with code := Encoding.sourceName ++ ".readInt() == 0 ? " ++ value.code ++ " : null" }, s)
  else (value, s)

def writeValue (p : PlannedProperty) (s : Imports) : String × Imports :=
  match p.route with
  | .adapter field =>
    (field.name ++ ".toParcel(" ++ p.descriptor.accessor ++ ", " ++ Encoding.targetName ++ ")", s)
  | .family f => f.writeStatement s p.descriptor.accessor

/-- Writes the property, behind a presence flag if it has one. -/
def write (p : PlannedProperty) (s : Imports) : WriteFragment × Imports :=
  let (statement, s) := p.writeValue s
  (⟨statement, if p.hasPresenceFlag then some p.descriptor.accessor else none⟩, s)

/-- The fragments of the properties, each read before it is written. -/
def fragments (s : Imports) : List PlannedProperty → List (ReadFragment × WriteFragment) × Imports
  | [] => ([], s)
  | p :: rest =>
    let (read, s) := p.read s
    let (write, s) := p.write s
    let (others, s) := fragments s rest
    ((read, write) :: others, s)

end PlannedProperty

end ValueParcel
