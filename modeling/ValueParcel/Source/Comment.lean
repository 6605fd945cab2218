import ValueParcel.Text.Blank
import ValueParcel.Text.Substitution

/-! Documentation comments: the lines of a text behind asterisks. -/

namespace ValueParcel.Comment

/-- The lines of a text. A line break may have a carriage return before it, and the last line needs none. -/
def lines : List Char → List (List Char)
  | [] => []
  | '\n' :: rest => [] :: lines rest
  | '\r' :: '\n' :: rest => [] :: lines rest
  | c :: rest =>
    match lines rest with
    | first :: others => (c :: first) :: others
    | [] => [[c]]

/-- A line behind `mark`, or an empty line if there is nothing in it but blanks. -/
def marked (mark line : List Char) : List Char :=
  (if line.any (!Text.isBlank ·) then mark ++ line else []) ++ ['\n']

/-- The text of a comment, between its delimiters. -/
def block (doc : String) : String :=
  let body := (lines doc.toList).flatMap (marked " * ".toList)
  "/**\n" ++ String.ofList (Text.replace "\n\n".toList "\n *\n".toList body) ++ " */"

end ValueParcel.Comment
