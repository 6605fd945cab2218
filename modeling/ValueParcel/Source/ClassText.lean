import ValueParcel.Generator.Config
import ValueParcel.Layout.Code
import ValueParcel.Source.ClassPlan
import ValueParcel.Source.Comment
import ValueParcel.Source.Fragment

/-!
The source of a generated class. The names of classes are spelled in the order in which the members are composed, so
that the imports are known once the body is.
-/

namespace ValueParcel

/-- The static field that makes objects from parcels. -/
def creatorField : String := "CREATOR"

namespace ClassPlan

/-- The simple names that mean something else within the file. -/
def reservedNames (p : ClassPlan) : List String :=
  [p.className, p.superclass, "Creator"] ++ p.typeParameters.filterMap fun
    | .free name | .bounded name _ => some name
    | _ => none

/-- The first line of the class, less its brace. -/
def header (p : ClassPlan) (s : Imports) : String × Imports :=
  let (parameters, s) := s.renderParameters p.typeParameters
  let (arguments, s) := s.renderList p.typeParameters
  ((if p.isFinal then "final " else "") ++ "class " ++ p.className ++ Text.angled parameters ++ " extends " ++
    p.superclass ++ Text.angled arguments, s)

/-- The declaration of a static field for each adapter. -/
def adapterLines (s : Imports) : List AdapterField → List Code × Imports
  | [] => ([], s)
  | field :: rest =>
    let (type, s) := s.render field.type
    let (others, s) := adapterLines s rest
    (.line ("private static final " ++ type ++ " " ++ field.name ++ " = new " ++ type ++ "();") :: others, s)

/-- The expressions as arguments on lines of their own. -/
def argumentLines : List ReadFragment → List Code
  | [] => []
  | [r] => [.line r.code]
  | r :: s :: rest => .line (r.code ++ ",") :: argumentLines (s :: rest)

/-- The statements that make an object from the parcel. -/
def createBody (p : ClassPlan) (reads : List ReadFragment) : List Code :=
  if reads.isEmpty then [.line ("return new " ++ p.className ++ "();")]
  else [.line ("return new " ++ p.className ++ "("), .continuation (argumentLines reads), .line ");"]

/-- The local variable for the class loader, if a read uses it. -/
def loaderLines (p : ClassPlan) (s : Imports) (reads : List ReadFragment) : List Code × Imports :=
  if reads.any (·.usesLoader) then
    let (type, s) := s.spell WellKnown.classLoader
    ([.line (type ++ " " ++ Encoding.loaderName ++ " = " ++ p.className ++ ".class.getClassLoader();")], s)
  else ([], s)

/-- Whether a warning of the compiler has to be suppressed. -/
def suppresses (p : ClassPlan) (reads : List ReadFragment) : Bool :=
  !p.typeParameters.isEmpty || reads.any (·.unchecked)

def creator (p : ClassPlan) (s : Imports) (creatorType parcelType : String) (reads : List ReadFragment) :
    Code × Imports :=
  let (loader, s) := p.loaderLines s reads
  let type := creatorType ++ "<" ++ p.className ++ ">"
  let suppress := if p.suppresses reads then [Code.line "@SuppressWarnings(\"unchecked\")"] else []
  (.block ("public static final " ++ type ++ " " ++ creatorField ++ " = new " ++ type ++ "()")
    ([.line "@Override"] ++ suppress ++ [
      .block ("public " ++ p.className ++ " createFromParcel(" ++ parcelType ++ " " ++ Encoding.sourceName ++ ")")
        (loader ++ p.createBody reads) "",
      .blank,
      .line "@Override",
      .block ("public " ++ p.className ++ "[] newArray(int size)")
        [.line ("return new " ++ p.className ++ "[size];")] ""])
    ";", s)

def parameterTexts (s : Imports) : List PlannedProperty → List String × Imports
  | [] => ([], s)
  | q :: rest =>
    let (type, s) := s.render q.descriptor.declared
    let (others, s) := parameterTexts s rest
    ((type ++ " " ++ q.descriptor.name) :: others, s)

def constructorCode (p : ClassPlan) (s : Imports) : Code × Imports :=
  let (parameters, s) := parameterTexts s p.properties
  let arguments := p.properties.map (·.descriptor.name)
  (.block (p.className ++ "(" ++ Text.commas parameters ++ ")")
    [.line ("super(" ++ Text.commas arguments ++ ");")] "", s)

def writeCode (w : WriteFragment) : Code :=
  match w.guard with
  | some accessor =>
    .either ("if (" ++ accessor ++ " == null)")
      [.line (Encoding.targetName ++ ".writeInt(1);")]
      [.line (Encoding.targetName ++ ".writeInt(0);"), .line (w.statement ++ ";")]
  | none => .line (w.statement ++ ";")

def writeMethod (parcelType : String) (writes : List WriteFragment) : List Code :=
  [.line "@Override",
    .block ("public void writeToParcel(" ++ parcelType ++ " " ++ Encoding.targetName ++ ", int " ++
      Encoding.flagsName ++ ")") (writes.map writeCode) ""]

def describeMethod (p : ClassPlan) : List Code :=
  if p.describeContents then
    [.blank, .line "@Override", .block "public int describeContents()" [.line "return 0;"] ""]
  else []

/-- The class with its comment, and the imports it needs. -/
def body (p : ClassPlan) (comment : Option String) : List Code × Imports :=
  let s : Imports := { package := p.package, reserved := p.reservedNames }
  let (parcelType, s) := s.spell WellKnown.parcel
  let (creatorType, s) := s.spell WellKnown.parcelableCreator
  let (fragments, s) := PlannedProperty.fragments s p.properties
  let (header, s) := p.header s
  let (adapters, s) := adapterLines s p.adapters
  let (creator, s) := p.creator s creatorType parcelType (fragments.map (·.1))
  let (constructor, s) := p.constructorCode s
  let fields := if p.adapters.isEmpty then [] else adapters ++ [.blank]
  let members := fields ++ [creator, .blank, constructor, .blank] ++
    writeMethod parcelType (fragments.map (·.2)) ++ p.describeMethod
  ((comment.map fun doc => Code.line (Comment.block doc)).toList ++ [.block header members ""], s)

def preamble (p : ClassPlan) (s : Imports) : List Code :=
  (if p.package = "" then [] else [.line ("package " ++ p.package ++ ";"), .blank]) ++
  s.imported.map (fun name => .line ("import " ++ name ++ ";")) ++
  (if s.imported.isEmpty then [] else [.blank])

def file (p : ClassPlan) (config : Config) : List Code :=
  let (body, s) := p.body (config.comments.lookup p.valueClass)
  p.preamble s ++ body

def source (p : ClassPlan) (config : Config) : String := Code.render config.indent (p.file config)

end ClassPlan

end ValueParcel
