import ValueParcel.Document.Numeral

/-! Reading a document from JSON text. -/

namespace ValueParcel.Document

def isJsonBlank (c : Char) : Bool := c = ' ' || c = '\t' || c = '\n' || c = '\r'

def skipBlanks (cs : List Char) : List Char := cs.dropWhile isJsonBlank

def hexValue? (c : Char) : Option Nat :=
  if c.isDigit then some (c.toNat - 48)
  else if 'a' ≤ c ∧ c ≤ 'f' then some (c.toNat - 87)
  else if 'A' ≤ c ∧ c ≤ 'F' then some (c.toNat - 55)
  else none

/-- The number that four digits to the base sixteen stand for. -/
def hexFour? (a b c d : Char) : Option Nat := do
  return ((← hexValue? a) * 16 + (← hexValue? b)) * 256 + ((← hexValue? c) * 16 + (← hexValue? d))

/-- The character behind a backslash, where it is one letter. -/
def simpleEscape? (c : Char) : Option Char :=
  match c with
  | 'b' => some '\x08'
  | 'f' => some '\x0c'
  | 'n' => some '\n'
  | 'r' => some '\r'
  | 't' => some '\t'
  | '/' => some '/'
  | _ => if c.toNat = 0x22 ∨ c.toNat = 0x5c then some c else none

/-- The text up to the closing quote, and what follows it. Two halves of a pair stand for one character. -/
def readText : List Char → Option (List Char × List Char)
  | [] => none
  | '\\' :: 'u' :: a :: b :: c :: d :: rest => do
    let high ← hexFour? a b c d
    if 0xd800 ≤ high ∧ high < 0xdc00 then
      match rest with
      | '\\' :: 'u' :: e :: f :: g :: h :: rest =>
        let low ← hexFour? e f g h
        if 0xdc00 ≤ low ∧ low < 0xe000 then
          let (tail, rest) ← readText rest
          return (Char.ofNat (0x10000 + (high - 0xd800) * 0x400 + (low - 0xdc00)) :: tail, rest)
        else none
      | _ => none
    else if 0xdc00 ≤ high ∧ high < 0xe000 then none
    else
      let (tail, rest) ← readText rest
      return (Char.ofNat high :: tail, rest)
  | '\\' :: c :: rest => do
    let c ← simpleEscape? c
    let (tail, rest) ← readText rest
    return (c :: tail, rest)
  | c :: rest =>
    if c.toNat = 0x22 then some ([], rest)
    else if c.toNat < 0x20 ∨ c.toNat = 0x5c then none
    else do
      let (tail, rest) ← readText rest
      return (c :: tail, rest)

/-- The characters of numbers and of the three words. -/
def isPlain (c : Char) : Bool := c.isAlphanum || c = '-' || c = '+' || c = '.'

/-- A number or one of the three words. -/
def plain? (cs : List Char) : Option Document :=
  match String.ofList cs with
  | "null" => some .null
  | "true" => some (.boolean true)
  | "false" => some (.boolean false)
  | literal => if (Numeral.read? cs).isSome then some (.number literal) else none

mutual

/-- A value at the head of the text, and what follows it; no more than `fuel` calls deep. -/
def readValue (fuel : Nat) (cs : List Char) : Option (Document × List Char) :=
  match fuel with
  | 0 => none
  | fuel + 1 =>
    match skipBlanks cs with
    | [] => none
    | c :: rest =>
      if c = '[' then
        match skipBlanks rest with
        | ']' :: rest => some (.list [], rest)
        | rest => (readItems fuel rest).map fun (items, rest) => (.list items, rest)
      else if c = '\x7b' then
        match skipBlanks rest with
        | '\x7d' :: rest => some (.record [], rest)
        | rest => (readFields fuel rest).map fun (fields, rest) => (.record fields, rest)
      else if c.toNat = 0x22 then
        (readText rest).map fun (content, rest) => (.text (String.ofList content), rest)
      else
        (plain? ((c :: rest).takeWhile isPlain)).map fun d => (d, (c :: rest).dropWhile isPlain)

/-- Values with commas between them and a bracket at the end. -/
def readItems (fuel : Nat) (cs : List Char) : Option (List Document × List Char) :=
  match fuel with
  | 0 => none
  | fuel + 1 => do
    let (item, rest) ← readValue fuel cs
    match skipBlanks rest with
    | ',' :: rest =>
      let (items, rest) ← readItems fuel rest
      return (item :: items, rest)
    | ']' :: rest => return ([item], rest)
    | _ => none

/-- Names with values, commas between them and a brace at the end. -/
def readFields (fuel : Nat) (cs : List Char) : Option (List (String × Document) × List Char) :=
  match fuel with
  | 0 => none
  | fuel + 1 =>
    match skipBlanks cs with
    | [] => none
    | c :: rest =>
      if c.toNat = 0x22 then do
        let (name, rest) ← readText rest
        match skipBlanks rest with
        | ':' :: rest =>
          let (value, rest) ← readValue fuel rest
          let fieldHere := (String.ofList name, value)
          match skipBlanks rest with
          | ',' :: rest =>
            let (fields, rest) ← readFields fuel rest
            return (fieldHere :: fields, rest)
          | '\x7d' :: rest => return ([fieldHere], rest)
          | _ => none
        | _ => none
      else none

end

/-- The document that the whole text stands for. Each call takes a character or goes one call deeper. -/
def read? (text : String) : Option Document :=
  let cs := text.toList
  match readValue (2 * cs.length + 2) cs with
  | some (d, rest) => if (skipBlanks rest).isEmpty then some d else none
  | none => none

end ValueParcel.Document
