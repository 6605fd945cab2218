import ValueParcel.JavaType.Basic
import ValueParcel.QualifiedName
import ValueParcel.Text.Commas

/-!
Imports of a source file. A class is spelled by its name within its package if its top-level class can be imported or
needs no import, and by its qualified name otherwise; the first class to claim a simple name keeps it.
-/

namespace ValueParcel

/-- What the names asked for so far have used up. -/
structure Imports where
  package : String
  /-- Simple names that the file itself declares. -/
  reserved : List String
  /-- The simple names in use, with the qualified names of their top-level classes. -/
  claimed : List (String × String) := []
  /-- The classes to import, in ascending order. -/
  imported : List String := []
  deriving Repr

namespace Imports

/-- The classes of `java.lang` that are written by their simple names and never imported. -/
def javaLang : List String := [
  "Boolean", "Byte", "CharSequence", "Character", "Class", "ClassLoader", "Cloneable", "Comparable", "Deprecated",
  "Double", "Enum", "Error", "Exception", "Float", "Integer", "Iterable", "Long", "Math", "Number", "Object",
  "Override", "Runnable", "RuntimeException", "Short", "String", "StringBuilder", "SuppressWarnings", "System",
  "Thread", "Void"]

/-- Puts `name` in its place in an ascending list, once. -/
def insertSorted (name : String) : List String → List String
  | [] => [name]
  | n :: rest =>
    if name = n then n :: rest
    else if name < n then name :: n :: rest
    else n :: insertSorted name rest

/-- Claims a simple name for a top-level class, with an import unless its package is in scope. -/
def claim (s : Imports) (package top qualified : String) : Imports :=
  { s with
    imported :=
      if package = s.package ∨ package = "java.lang" then s.imported else insertSorted qualified s.imported
    claimed := (top, qualified) :: s.claimed }

/-- The spelling of a class that is called `relative` within its package. -/
def spellWithin (s : Imports) (name package relative : String) : String × Imports :=
  let top := QualifiedName.outermostName relative
  let qualified := package ++ "." ++ top
  if top ∈ s.reserved then (name, s)
  else if top ∈ javaLang then (if package = "java.lang" then relative else name, s)
  else match s.claimed.lookup top with
    | some owner => (if owner = qualified then relative else name, s)
    | none => (relative, s.claim package top qualified)

/-- The spelling of a class, if its name can be cut behind the package and behind the dot there. A name that is no package
with a class in it is left as it is. -/
def spell? (s : Imports) (name : String) : Option (String × Imports) := do
  let package ← QualifiedName.packageName? name
  if package = "" ∨ package.utf8ByteSize = name.utf8ByteSize then
    return (name, s)
  let relative ← Text.behind? name (package.utf8ByteSize + 1)
  return s.spellWithin name package relative

/-- The spelling of a class. There always is one. -/
def spell (s : Imports) (name : String) : String × Imports := (s.spell? name).getD (name, s)

mutual

def render (s : Imports) : JavaType → String × Imports
  | .void => ("void", s)
  | .primitive k => (k.keyword, s)
  | .declared name args =>
    let (spelling, s) := s.spell name
    let (args, s) := s.renderList args
    (spelling ++ Text.angled args, s)
  | .array c =>
    let (component, s) := s.render c
    (component ++ "[]", s)
  | .free name => (name, s)
  | .bounded name _ => (name, s)

def renderList (s : Imports) : List JavaType → List String × Imports
  | [] => ([], s)
  | t :: ts =>
    let (text, s) := s.render t
    let (texts, s) := s.renderList ts
    (text :: texts, s)

end

def renderParameter (s : Imports) : JavaType → String × Imports
  | .bounded name bound =>
    let (text, s) := s.render bound
    (name ++ " extends " ++ text, s)
  | t => s.render t

def renderParameters (s : Imports) : List JavaType → List String × Imports
  | [] => ([], s)
  | t :: ts =>
    let (text, s) := s.renderParameter t
    let (texts, s) := s.renderParameters ts
    (text :: texts, s)

end Imports

end ValueParcel
