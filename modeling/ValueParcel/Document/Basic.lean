/-! Documents: the tree of texts, lists and records in which declarations are kept. -/

namespace ValueParcel

inductive Document
  | null
  | boolean (value : Bool)
  /-- A number as it is written. -/
  | number (literal : String)
  | text (value : String)
  | list (items : List Document)
  /-- Named fields in order. -/
  | record (fields : List (String × Document))
  deriving Repr

namespace Document

instance : Inhabited Document := ⟨null⟩

/-- The first field of a record that has the name. -/
def field? (d : Document) (name : String) : Option Document :=
  match d with
  | record fields => fields.lookup name
  | _ => none

def ofNat (n : Nat) : Document := number (toString n)

def ofInt (n : Int) : Document := number (toString n)

def ofOption {α : Type} (f : α → Document) : Option α → Document
  | none => null
  | some a => f a

def ofList {α : Type} (f : α → Document) (items : List α) : Document := list (items.map f)

def digitsValue (cs : List Char) : Nat := cs.foldl (fun n c => 10 * n + (c.toNat - 48)) 0

/-- The value of one digit or more with nothing else. -/
def digitsValue? (cs : List Char) : Option Nat :=
  if !cs.isEmpty && cs.all Char.isDigit then some (digitsValue cs) else none

/-- The value of a whole number; a point or an exponent makes it no whole number. -/
def int? : Document → Option Int
  | number literal =>
    match literal.toList with
    | '-' :: digits => (digitsValue? digits).map fun n => -(n : Int)
    | digits => (digitsValue? digits).map Int.ofNat
  | _ => none

end Document

end ValueParcel
