import ValueParcel.Install.AdapterSources

/-!
Directories and files below one directory, and how generated sources are put there: in directories for the segments of
the package.
-/

namespace ValueParcel

/-- Paths are lists of names, the last name at the end. -/
structure FileTree where
  directories : List (List String) := [[]]
  files : List (List String × String) := []
  deriving Repr

/-- A directory or a file cannot be made. -/
structure InstallError where
  path : List String
  deriving Repr

namespace FileTree

/-- The longest name that a file system takes, in bytes. -/
def longestName : Nat := 255

/-- The longest path below the directory of a tree that a file system takes, in bytes. -/
def longestPath : Nat := 4079

/-- A directory or a file can have the name. -/
def isName (name : String) : Bool := name.utf8ByteSize ≤ longestName

/-- The names make a path at all: not too long, and without the character that ends a path. -/
def isPath (names : List String) : Bool :=
  ("/".intercalate names).utf8ByteSize ≤ longestPath && names.all fun name => !name.toList.contains '\x00'

/-- Makes the directories from `base` on; those made before a failure stay. -/
def makeBelow (t : FileTree) (base : List String) : List String → Except InstallError Unit × FileTree
  | [] => (.ok (), t)
  | name :: rest =>
    let path := base ++ [name]
    if isName name then
      let t := if path ∈ t.directories then t else { t with directories := path :: t.directories }
      t.makeBelow path rest
    else (.error ⟨path⟩, t)

/-- Makes all directories of a path, or none if it is no path. -/
def makeDirectories (t : FileTree) (path : List String) : Except InstallError Unit × FileTree :=
  if isPath path then t.makeBelow [] path else (.error ⟨path⟩, t)

/-- Where the names of a path lead. -/
inductive Place
  /-- A directory of the tree. -/
  | within (path : List String)
  /-- A directory outside, where only those above it are known. -/
  | outside
  deriving DecidableEq, Repr

def Place.parent : Place → Place
  | within [] | outside => outside
  | within path => within path.dropLast

/-- The place that a name leads to, if there is a directory. -/
def enter? (t : FileTree) (place : Place) (name : String) : Option Place :=
  if name = "" ∨ name = "." then some place
  else if name = ".." then some place.parent
  else match place with
    | .within path => if path ++ [name] ∈ t.directories then some (.within (path ++ [name])) else none
    | .outside => none

/-- The files with another content of one of them, or with one more. -/
def putFile (path : List String) (content : String) : List (List String × String) → List (List String × String)
  | [] => [(path, content)]
  | (p, c) :: rest => if p = path then (path, content) :: rest else (p, c) :: putFile path content rest

/-- Writes a file whose path, from `base` on, may itself lead through directories. A slash at its head leads outside,
and what is written outside does not show in the tree. -/
def writeFile (t : FileTree) (base : List String) (path content : String) : Except InstallError Unit × FileTree :=
  let names := path.splitOn "/"
  let last := names.getLastD ""
  let start := if path.startsWith "/" then .outside else .within base
  match names.dropLast.foldlM t.enter? start with
  | none => (.error ⟨base ++ names⟩, t)
  | some place =>
    if isName last && isPath (base ++ names) then
      match place with
      | .within directory => (.ok (), { t with files := putFile (directory ++ [last]) content t.files })
      | .outside => (.ok (), t)
    else (.error ⟨base ++ names⟩, t)

/-- The names of the directories of a package, unless a segment leads outside by a slash at its head. -/
def packagePath? (package : String) : Option (List String) :=
  let segments := package.splitOn "."
  if segments.any (·.startsWith "/") then none
  else some ((segments.flatMap (·.splitOn "/")).filter (· ≠ ""))

/-- Puts the source of a class into the directory of its package. -/
def installClass (t : FileTree) (package className source : String) : Except InstallError Unit × FileTree :=
  match packagePath? package with
  | none => (.error ⟨[package]⟩, t)
  | some path =>
    match t.makeDirectories path with
    | (.error e, t) => (.error e, t)
    | (.ok (), t) => t.writeFile path (className ++ ".java") source

/-- Puts sources into one package, up to the first that fails. -/
def installAll (t : FileTree) (package : String) : List (String × String) → Except InstallError Unit × FileTree
  | [] => (.ok (), t)
  | (className, source) :: rest =>
    match t.installClass package className source with
    | (.error e, t) => (.error e, t)
    | (.ok (), t) => t.installAll package rest

/-- Puts the files that adapters need into their package. -/
def installAdapterSources (t : FileTree) : Except InstallError Unit × FileTree :=
  t.installAll AdapterSources.package AdapterSources.files

/-- The files by their paths, with slashes in them, in ascending order. -/
def listing (t : FileTree) : List (String × String) :=
  (t.files.map fun (path, content) => ("/".intercalate path, content)).mergeSort (fun a b => a.1 ≤ b.1)

end FileTree

end ValueParcel
