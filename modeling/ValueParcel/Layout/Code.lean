import ValueParcel.Layout.Margin

/-! Code as a tree of lines and blocks, and the events that write it. -/

namespace ValueParcel

inductive Code
  | line (text : String)
  | blank
  /-- A header with a brace, lines one step further in, and a brace with a trailer. -/
  | block (header : String) (body : List Code) (trailer : String)
  /-- A block and the block for the other case. -/
  | either (header : String) (yes : List Code) (no : List Code)
  /-- Lines that go on with the line before, two steps further in. -/
  | continuation (body : List Code)
  deriving Repr

namespace Code

def lineEvent (text : String) : Event Char := .text (text.toList ++ ['\n'])

/-- A header with a brace, and one step to the right. -/
def openBlock (header : String) : List (Event Char) := [lineEvent (header ++ " \x7b"), .indent]

/-- One step to the left, and a brace with a trailer. -/
def closeBlock (trailer : String) : List (Event Char) := [.unindent, lineEvent ("\x7d" ++ trailer)]

/-- The end of a block and the header of the next one on the same line. -/
def continueBlock (header : String) : List (Event Char) :=
  [.unindent, lineEvent ("\x7d " ++ header ++ " \x7b"), .indent]

mutual

def events : Code → List (Event Char)
  | line text => [lineEvent text]
  | blank => [.text ['\n']]
  | block header body trailer => openBlock header ++ eventsOfList body ++ closeBlock trailer
  | either header yes no =>
    openBlock header ++ eventsOfList yes ++ continueBlock "else" ++ eventsOfList no ++ closeBlock ""
  | continuation body => [.indent, .indent] ++ eventsOfList body ++ [.unindent, .unindent]

def eventsOfList : List Code → List (Event Char)
  | [] => []
  | c :: cs => c.events ++ eventsOfList cs

end

def render (i : Indent) (code : List Code) : String :=
  String.ofList (Margin.run i {} (eventsOfList code)).1

end Code

end ValueParcel
