import ValueParcel.Text.Blank
import ValueParcel.Text.Letters

/-! Tokens of the text of a type: names as long as they can be, and every other character by itself, blanks apart. -/

namespace ValueParcel.JavaType

inductive Lexeme
  | name (word : String)
  | sign (c : Char)
  deriving DecidableEq, Repr

/-- A lexeme, where it starts, and whether a blank or the end of the text follows it. -/
structure Token where
  lexeme : Lexeme
  offset : Nat
  loose : Bool
  deriving Repr

/-- The characters of names, simple or qualified. -/
def isNameChar (c : Char) : Bool := Text.isAlphanumeric c || c = '_' || c = '$' || c = '.'

/-- Nothing, or a blank, stands at the head of `rest`. -/
def startsLoose (rest : List Char) : Bool := rest.head?.all Text.isBlank

def tokensFrom (offset : Nat) : List Char → List Token
  | [] => []
  | c :: cs =>
    if Text.isBlank c then tokensFrom (offset + 1) cs
    else if isNameChar c then
      let rest := cs.dropWhile isNameChar
      ⟨.name (String.ofList (c :: cs.takeWhile isNameChar)), offset, startsLoose rest⟩ ::
        tokensFrom (offset + (1 + (cs.takeWhile isNameChar).length)) rest
    else ⟨.sign c, offset, startsLoose cs⟩ :: tokensFrom (offset + 1) cs
termination_by text => text.length
decreasing_by
  · simp
  · simp only [List.length_cons]
    exact Nat.lt_succ_of_le (List.dropWhile_sublist _).length_le
  · simp

def tokens (text : List Char) : List Token := tokensFrom 0 text

def lexemes (text : List Char) : List Lexeme := (tokens text).map (·.lexeme)

/-- The first character of a lexeme; names are not empty. -/
def Lexeme.first : Lexeme → Char
  | .name word => word.toList.headD ' '
  | .sign c => c

end ValueParcel.JavaType
