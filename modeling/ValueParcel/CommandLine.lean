import ValueParcel.Document.Printer
import ValueParcel.Document.Reader
import ValueParcel.Generator.Context
import ValueParcel.Install.FileTree
import ValueParcel.Registry.Platform

/-! The command: from a document with declarations and the name of a value class to a source. -/

namespace ValueParcel.CommandLine

structure Options where
  /-- The key of the value class. -/
  valueClass : String
  /-- Stop at the first property that cannot be written. -/
  strict : Bool := false
  /-- Put the source into a directory, and not on the standard output. -/
  toDirectory : Bool := false
  /-- Put the files that adapters need beside the source. -/
  withAdapterSources : Bool := false
  /-- The name of the generated class, if it is not the usual one. -/
  generatedName : Option String := none
  deriving Repr

/-- What the command leaves behind. -/
structure Outcome where
  status : UInt8
  output : String := ""
  messages : String := ""
  tree : FileTree := {}
  deriving Repr

namespace Outcome

/-- The value class is not implemented, and the messages say why. -/
def refused (messages : String) : Outcome := { status := 1, messages }

/-- The command cannot do its work. -/
def aborted (reason : String) (tree : FileTree) : Outcome := { status := 101, messages := reason ++ "\n", tree }

end Outcome

/-- The source for a value class, if it is wanted and can be made. -/
def sourceOf (c : Context) (name : String) : Except Failure (Option String) × Log :=
  match c.applicable [] with
  | (.error e, log) => (.error e, log)
  | (.ok false, log) => (.ok none, log)
  | (.ok true, log) => c.generate { failureMode := c.failureMode } name (superclassName name) mustBeFinal log

/-- Puts the source where the options want it. -/
def deliver (o : Options) (d : Declaration) (name source messages : String) : Outcome :=
  if !o.toDirectory then { status := 0, output := source, messages }
  else match ({} : FileTree).installClass d.packageName name source with
    | (.error _, tree) => .aborted "the class cannot be installed" tree
    | (.ok (), tree) =>
      if !o.withAdapterSources then { status := 0, messages, tree }
      else match tree.installAdapterSources with
        | (.error _, tree) => .aborted "the files of adapters cannot be installed" tree
        | (.ok (), tree) => { status := 0, messages, tree }

/-- The declarations in a document, if the names in it are short enough to be found. -/
def declarations? (d : Document) : Option Registry :=
  if d.hasShortNames then Registry.decode .plain d else none

/-- The command on the declarations over those of the platform. -/
def run (o : Options) (declarations : Document) : Outcome :=
  match declarations? declarations with
  | none => .aborted "the declarations cannot be read" {}
  | some own =>
    let r := Registry.platform.extend own
    match r.find? o.valueClass with
    | none => .aborted ("unknown value class " ++ o.valueClass) {}
    | some d =>
      let name := o.generatedName.getD (ValueParcel.generatedName d.name)
      let (result, log) := sourceOf (.ofClass r d (if o.strict then .strict else .soft)) name
      let messages := String.join (log.map (·.line ++ "\n"))
      match result with
      | .ok (some source) => deliver o d name source messages
      | .ok none => .refused messages
      | .error failure => .refused (messages ++ failure.message ++ "\n")

def runOn (o : Options) (text : String) : Outcome := run o ((Document.read? text).getD .null)

end ValueParcel.CommandLine
