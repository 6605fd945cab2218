import ValueParcel.CommandLine

/-! The arguments of the command: one input file, and the options in any order. -/

namespace ValueParcel.CommandLine

/-- The command, its input file and the directory for the sources. -/
structure Invocation where
  input : String
  directory : Option String
  options : Options
  deriving Repr

/-- What has been read of the arguments. -/
structure Given where
  input : Option String := none
  valueClass : Option String := none
  strict : Bool := false
  directory : Option String := none
  withAdapterSources : Bool := false
  generatedName : Option String := none

namespace Given

def addAll (g : Given) : List String → Option Given
  | [] => some g
  | "--strict" :: rest => { g with strict := true }.addAll rest
  | "--with-runtime" :: rest => { g with withAdapterSources := true }.addAll rest
  | "--value-class" :: name :: rest => { g with valueClass := some name }.addAll rest
  | "--target-source-dir" :: path :: rest => { g with directory := some path }.addAll rest
  | "--generated-name" :: name :: rest => { g with generatedName := some name }.addAll rest
  | path :: rest =>
    if path.startsWith "-" ∨ g.input.isSome then none else { g with input := some path }.addAll rest

/-- The invocation, if an input file and a value class are among the arguments. -/
def invocation? (g : Given) : Option Invocation := do
  return {
    input := ← g.input
    directory := g.directory
    options := {
      valueClass := ← g.valueClass
      strict := g.strict
      toDirectory := g.directory.isSome
      withAdapterSources := g.withAdapterSources
      generatedName := g.generatedName } }

end Given

def Invocation.ofArguments? (arguments : List String) : Option Invocation := do
  (← ({} : Given).addAll arguments).invocation?

def usage : String :=
  "parcelgen <input> --value-class <name> [--strict] [--target-source-dir <directory>] [--with-runtime] " ++
    "[--generated-name <name>]"

end ValueParcel.CommandLine
