import ValueParcel.CommandLine.Arguments

/-! The program: files and streams around the command. -/

open ValueParcel

/-- Puts the files of a tree below a directory. -/
def writeTree (directory : String) (tree : FileTree) : IO Unit := do
  for path in tree.directories.reverse do
    IO.FS.createDirAll ("/".intercalate (directory :: path))
  for (path, content) in tree.files do
    IO.FS.writeFile ("/".intercalate (directory :: path)) content

def main (arguments : List String) : IO UInt32 := do
  match CommandLine.Invocation.ofArguments? arguments with
  | none =>
    IO.eprintln CommandLine.usage
    return 1
  | some invocation =>
    let text ← IO.FS.readFile invocation.input
    let outcome := CommandLine.runOn invocation.options text
    match invocation.directory with
    | some directory => writeTree directory outcome.tree
    | none => pure ()
    IO.eprint outcome.messages
    IO.print outcome.output
    return outcome.status.toUInt32
