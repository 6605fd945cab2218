/-!
Indentation. Text is written in pieces, and the margin puts the indentation in front of the first symbol of every line
that has one, however the text is cut. It speaks of characters and of bytes alike.
-/

namespace ValueParcel

/-- Symbols among which there are a line break and two blanks. -/
class Alphabet (α : Type) where
  lineBreak : α
  space : α
  tab : α

instance : Alphabet Char := ⟨'\n', ' ', '\t'⟩

instance : Alphabet UInt8 := ⟨0x0a, 0x20, 0x09⟩

/-- One step of indentation. -/
inductive Indent
  | tab
  | spaces (count : Nat)
  deriving DecidableEq, Repr

def Indent.width : Indent → Nat
  | tab => 1
  | spaces count => count

/-- The indentation in force, and whether the line is still empty. -/
structure Margin (α : Type) where
  indentation : List α := []
  fresh : Bool := true
  deriving DecidableEq, Repr

/-- Text, or a change of the indentation. -/
inductive Event (α : Type)
  | text (symbols : List α)
  | indent
  | unindent
  deriving DecidableEq, Repr

namespace Margin

variable {α : Type} [Alphabet α] [DecidableEq α]

def unit : Indent → List α
  | .tab => [Alphabet.tab]
  | .spaces count => List.replicate count Alphabet.space

def indent (m : Margin α) (i : Indent) : Margin α := { m with indentation := m.indentation ++ unit i }

/-- One step to the left, as far as there is room. -/
def unindent (m : Margin α) (i : Indent) : Margin α :=
  { m with indentation := m.indentation.take (m.indentation.length - i.width) }

/-- What writing the symbols adds to the text, and the margin after it. -/
def write (m : Margin α) : List α → List α × Margin α
  | [] => ([], m)
  | c :: cs =>
    if c = Alphabet.lineBreak then
      let (out, m) := write { m with fresh := true } cs
      (c :: out, m)
    else
      let (out, after) := write { m with fresh := false } cs
      ((if m.fresh then m.indentation else []) ++ c :: out, after)

/-- A call of the writer: what it adds to the text, how many symbols it has taken, and the margin after it. Each line of
the symbols goes out in one piece, and so does the indentation before it. -/
def writeLines (m : Margin α) : List α → List α × Nat × Margin α
  | [] => ([], 0, m)
  | c :: cs =>
    let line := (c :: cs).takeWhile (· ≠ Alphabet.lineBreak)
    let out := (if m.fresh ∧ line ≠ [] then m.indentation else []) ++ line
    match _h : (c :: cs).dropWhile (· ≠ Alphabet.lineBreak) with
    | [] => (out, line.length, { m with fresh := m.fresh && line.isEmpty })
    | b :: rest =>
      let (others, count, m) := writeLines { m with fresh := true } rest
      (out ++ b :: others, line.length + 1 + count, m)
termination_by symbols => symbols.length
decreasing_by
  have hl := (List.dropWhile_sublist (· ≠ Alphabet.lineBreak) (l := c :: cs)).length_le
  rw [_h] at hl
  exact hl

/-- What an event adds to the text, and the margin after it. -/
def step (i : Indent) (m : Margin α) : Event α → List α × Margin α
  | .text symbols => m.write symbols
  | .indent => ([], m.indent i)
  | .unindent => ([], m.unindent i)

/-- What the events add to the text, and the margin after them. -/
def run (i : Indent) (m : Margin α) : List (Event α) → List α × Margin α
  | [] => ([], m)
  | e :: rest =>
    let (out, m) := m.step i e
    let (others, m) := run i m rest
    (out ++ others, m)

end Margin

end ValueParcel
