import ValueParcel.Text.Substitution

/-!
Templates of code: texts with holes. The holes are filled one kind after the other, each by replacement of its name
in braces all over the text; the same at one stroke is the simultaneous filling.
-/

namespace ValueParcel

inductive Hole
  /-- The parcel that is read. -/
  | source
  /-- The parcel that is written. -/
  | target
  | flags
  | loader
  /-- The call of the accessor. -/
  | value
  /-- A cast to the declared type, where one is needed. -/
  | cast
  /-- The erased type. -/
  | raw
  | typeArguments
  /-- The helper class of the family. -/
  | helper
  deriving DecidableEq, Repr

namespace Hole

def all : List Hole := [source, target, flags, loader, value, cast, raw, typeArguments, helper]

def name : Hole → String
  | source => "in"
  | target => "out"
  | flags => "flags"
  | loader => "loader"
  | value => "value"
  | cast => "cast"
  | raw => "raw"
  | typeArguments => "type_args"
  | helper => "helper"

/-- The name in braces. -/
def spelled (h : Hole) : List Char := '\x7b' :: (h.name.toList ++ ['\x7d'])

end Hole

inductive Piece
  | text (s : String)
  | hole (h : Hole)
  deriving DecidableEq, Repr

abbrev Template := List Piece

namespace Template

/-- The template with the names of its holes in braces. -/
def spelled (t : Template) : List Char :=
  t.flatMap fun
    | .text s => s.toList
    | .hole h => h.spelled

/-- Each listed hole in turn is replaced by its value, in the text that the holes before it left. -/
def fillInTurn (t : Template) (values : List (Hole × String)) : String :=
  String.ofList (values.foldl (fun text (h, v) => Text.replace h.spelled v.toList text) t.spelled)

/-- All holes at once are filled with their values. -/
def fill (t : Template) (values : Hole → String) : String :=
  String.ofList (t.flatMap fun
    | .text s => s.toList
    | .hole h => (values h).toList)

end Template

end ValueParcel
