import ValueParcel.JavaType.Basic
import ValueParcel.JavaType.Token

/-!
The grammar of types over lexemes, and the types that the grammar can name.

    Type = (void | keyword) Brackets | U Brackets | U extends Type
         | D Brackets | D < Type (, Type)* > Brackets

`U` is a name without a dot that is no keyword, `D` a name with a dot. Brackets behind a bound belong to the bound.
-/

namespace ValueParcel.JavaType

/-- A run of name characters with a dot. -/
def IsClassName (word : String) : Prop :=
  (∀ c ∈ word.toList, isNameChar c = true) ∧ '.' ∈ word.toList

/-- A run of name characters without a dot that is neither `void` nor a primitive type. -/
def IsVariableName (word : String) : Prop :=
  word ≠ "" ∧ (∀ c ∈ word.toList, isNameChar c = true) ∧ '.' ∉ word.toList
    ∧ word ≠ "void" ∧ Primitive.ofKeyword? word = none

/-- `n` pairs of brackets. -/
def brackets : Nat → List Lexeme
  | 0 => []
  | n + 1 => .sign '[' :: .sign ']' :: brackets n

mutual

/-- The lexemes derive the type. -/
inductive Derives : List Lexeme → JavaType → Prop
  | void (n : Nat) : Derives (.name "void" :: brackets n) (arrays n void)
  | primitive (k : Primitive) (n : Nat) : Derives (.name k.keyword :: brackets n) (arrays n (primitive k))
  | free {u : String} (n : Nat) : IsVariableName u → Derives (.name u :: brackets n) (arrays n (free u))
  | bounded {u : String} {ls : List Lexeme} {t : JavaType} : IsVariableName u → Derives ls t →
      Derives (.name u :: .name "extends" :: ls) (bounded u t)
  | raw {d : String} (n : Nat) : IsClassName d → Derives (.name d :: brackets n) (arrays n (raw d))
  | generic {d : String} {ls : List Lexeme} {ts : List JavaType} (n : Nat) : IsClassName d → DerivesList ls ts →
      Derives (.name d :: .sign '<' :: (ls ++ .sign '>' :: brackets n)) (arrays n (declared d ts))

/-- The lexemes derive the types, which commas separate. -/
inductive DerivesList : List Lexeme → List JavaType → Prop
  | one {ls : List Lexeme} {t : JavaType} : Derives ls t → DerivesList ls [t]
  | more {ls ms : List Lexeme} {t : JavaType} {ts : List JavaType} : Derives ls t → DerivesList ms ts →
      DerivesList (ls ++ .sign ',' :: ms) (t :: ts)

end

mutual

/-- The names are names, and no brackets stand behind a bounded variable. -/
def WellFormed : JavaType → Prop
  | void => True
  | primitive _ => True
  | declared n args => IsClassName n ∧ WellFormedList args
  | array c => (∀ n b, c ≠ bounded n b) ∧ c.WellFormed
  | free n => IsVariableName n
  | bounded n b => IsVariableName n ∧ b.WellFormed

def WellFormedList : List JavaType → Prop
  | [] => True
  | t :: ts => t.WellFormed ∧ WellFormedList ts

end

end ValueParcel.JavaType
