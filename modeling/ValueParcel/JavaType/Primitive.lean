/-! The eight primitive types of Java, their keywords and the classes that box them. -/

namespace ValueParcel

inductive Primitive
  | boolean
  | byte
  | short
  | char
  | int
  | long
  | float
  | double
  deriving DecidableEq, Repr

namespace Primitive

def all : List Primitive := [boolean, byte, short, char, int, long, float, double]

def keyword : Primitive → String
  | boolean => "boolean"
  | byte => "byte"
  | short => "short"
  | char => "char"
  | int => "int"
  | long => "long"
  | float => "float"
  | double => "double"

def boxedName : Primitive → String
  | boolean => "java.lang.Boolean"
  | byte => "java.lang.Byte"
  | short => "java.lang.Short"
  | char => "java.lang.Character"
  | int => "java.lang.Integer"
  | long => "java.lang.Long"
  | float => "java.lang.Float"
  | double => "java.lang.Double"

def ofKeyword? (word : String) : Option Primitive := all.find? (·.keyword = word)

def ofBoxedName? (name : String) : Option Primitive := all.find? (·.boxedName = name)

theorem mem_all (k : Primitive) : k ∈ all := by cases k <;> decide

theorem ofKeyword?_keyword (k : Primitive) : ofKeyword? k.keyword = some k := by cases k <;> decide

end Primitive

end ValueParcel
