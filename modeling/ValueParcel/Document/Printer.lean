import ValueParcel.Document.Numeral

/-!
The JSON text of a document, on one line and without blanks, with its numbers in canonical text; and which documents
have a text whose names are short enough for every reader.
-/

namespace ValueParcel.Document

/-- A character between quotes: quotes, backslashes and controls are escaped, each by a letter if it has one. -/
def escaped (c : Char) : List Char :=
  match c.toNat with
  | 0x08 => ['\\', 'b']
  | 0x09 => ['\\', 't']
  | 0x0a => ['\\', 'n']
  | 0x0c => ['\\', 'f']
  | 0x0d => ['\\', 'r']
  | 0x22 | 0x5c => ['\\', c]
  | n =>
    if n < 0x20 then ['\\', 'u', '0', '0', Nat.digitChar (n / 16), Nat.digitChar (n % 16)] else [c]

def quote (s : String) : String :=
  String.ofList ('\x22' :: (s.toList.flatMap escaped ++ ['\x22']))

/-- The most characters that the name of a field may take with its quotes and escapes. -/
def longestName : Nat := 1024

mutual

/-- No name at any depth is too long for a reader that looks for the colon behind it. -/
def hasShortNames : Document → Bool
  | list items => itemsHaveShortNames items
  | record fields => fieldsHaveShortNames fields
  | _ => true

def itemsHaveShortNames : List Document → Bool
  | [] => true
  | d :: rest => d.hasShortNames && itemsHaveShortNames rest

def fieldsHaveShortNames : List (String × Document) → Bool
  | [] => true
  | (name, d) :: rest => (quote name).length ≤ longestName && d.hasShortNames && fieldsHaveShortNames rest

end

mutual

def render : Document → String
  | null => "null"
  | boolean b => if b then "true" else "false"
  | number literal => Numeral.canonical literal
  | text s => quote s
  | list items => "[" ++ renderItems items ++ "]"
  | record fields => "\x7b" ++ renderFields fields ++ "\x7d"

def renderItems : List Document → String
  | [] => ""
  | [d] => d.render
  | d :: rest => d.render ++ "," ++ renderItems rest

def renderFields : List (String × Document) → String
  | [] => ""
  | [(name, d)] => quote name ++ ":" ++ d.render
  | (name, d) :: rest => quote name ++ ":" ++ d.render ++ "," ++ renderFields rest

end

end ValueParcel.Document
