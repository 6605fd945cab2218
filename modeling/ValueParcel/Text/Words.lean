import ValueParcel.Text.WordBreak

/-!
Words of a text, by the default rules for word boundaries: letters and numbers hold together, across a full stop or
an apostrophe between two letters and a comma between two digits, marks stay with what they mark, and pictographs with
a joiner between them make one picture.
-/

namespace ValueParcel.Text

namespace WordBreak

/-- Marks, formats and joiners are passed over when a rule looks at its neighbours. -/
def isTransparent : WordBreak → Bool
  | .extend | .format | .joiner => true
  | _ => false

def endsLine : WordBreak → Bool
  | .carriageReturn | .lineFeed | .newline => true
  | _ => false

def isLetter : WordBreak → Bool
  | .letter | .hebrew => true
  | _ => false

/-- Joins two letters. -/
def linksLetters : WordBreak → Bool
  | .midLetter | .midNumLet | .singleQuote => true
  | _ => false

/-- Joins two numbers. -/
def linksNumbers : WordBreak → Bool
  | .midNum | .midNumLet | .singleQuote => true
  | _ => false

/-- Runs with `extendNumLet`. -/
def meetsExtender : WordBreak → Bool
  | .letter | .hebrew | .numeric | .katakana => true
  | _ => false

end WordBreak

/-- What the rules know of the text on the left of a boundary. -/
structure WordContext where
  /-- The value of the character just before, transparent or not. -/
  last : WordBreak
  /-- The nearest value that is not passed over. -/
  near : WordBreak
  /-- The one before `near`. -/
  far : WordBreak
  /-- An odd number of regional signs stands just before. -/
  oddRegional : Bool

/-- The context behind the first character of a text. -/
def WordContext.start (k : WordBreak) : WordContext :=
  ⟨k, k, .other, k = .regional⟩

/-- The context one character further on. A pictograph tied to a joiner is part of a picture, so what its own value
would hold together with the text behind it is forgotten. -/
def WordContext.next (x : WordContext) (k : WordBreak) (pictograph : Bool) : WordContext :=
  if k.isTransparent && !x.last.endsLine then { x with last := k }
  else if x.last = .joiner && pictograph then ⟨k, .other, .other, false⟩
  else ⟨k, k, x.near, k = .regional && !(x.near = .regional && x.oddRegional)⟩

/-- What the rules know of the text behind a character. -/
structure WordOutlook where
  /-- The first value that is not passed over. -/
  value : WordBreak
  /-- Its character is a pictograph, and a joiner stands just before it. -/
  tied : Bool

/-- A link holds if what it asks for comes next; a picture tied to the link serves as well. -/
def WordOutlook.meets (ahead : WordOutlook) (wanted : WordBreak → Bool) : Bool :=
  ahead.tied || wanted ahead.value

/-- No boundary stands between the context and a character of value `k`, behind which lies `ahead`. -/
def WordContext.holds (x : WordContext) (k : WordBreak) (pictograph : Bool) (ahead : WordOutlook) : Bool :=
  if x.last = .carriageReturn && k = .lineFeed then true
  else if x.last.endsLine || k.endsLine then false
  else if x.last = .joiner && pictograph then true
  else if x.last = .space && k = .space then true
  else if k.isTransparent then true
  else
    (x.near.isLetter && k.isLetter)
    || (x.near.isLetter && k.linksLetters && ahead.meets (·.isLetter))
    || (x.far.isLetter && x.near.linksLetters && k.isLetter)
    || (x.near = .hebrew && k = .singleQuote)
    || (x.near = .hebrew && k = .doubleQuote && ahead.meets (· = .hebrew))
    || (x.far = .hebrew && x.near = .doubleQuote && k = .hebrew)
    || (x.near = .numeric && k = .numeric)
    || (x.near.isLetter && k = .numeric)
    || (x.near = .numeric && k.isLetter)
    || (x.far = .numeric && x.near.linksNumbers && k = .numeric)
    || (x.near = .numeric && k.linksNumbers && ahead.meets (· = .numeric))
    || (x.near = .katakana && k = .katakana)
    || ((x.near.meetsExtender || x.near = .extendNumLet) && k = .extendNumLet)
    || (x.near = .extendNumLet && k.meetsExtender)
    || (x.near = .regional && x.oddRegional && k = .regional)

/-- The outlook on `rest` from behind a character of value `last`. -/
def outlook (last : WordBreak) : List Char → WordOutlook
  | [] => ⟨.other, false⟩
  | c :: rest =>
    let k := wordBreak c
    if k.isTransparent then outlook k rest else ⟨k, last = .joiner && isPictograph c⟩

/-- The pieces of `rest`, where the piece begun on the left stands reversed in `piece`. -/
def piecesFrom (x : WordContext) (piece : List Char) : List Char → List (List Char)
  | [] => [piece.reverse]
  | c :: rest =>
    let k := wordBreak c
    let pictograph := isPictograph c
    let y := x.next k pictograph
    if x.holds k pictograph (outlook k rest) then piecesFrom y (c :: piece) rest
    else piece.reverse :: piecesFrom y [c] rest

def pieces : List Char → List (List Char)
  | [] => []
  | c :: rest => piecesFrom (.start (wordBreak c)) [c] rest

/-- The pieces that hold a letter or a number. -/
def words (text : List Char) : List (List Char) :=
  (pieces text).filter (·.any isAlphanumeric)

end ValueParcel.Text
