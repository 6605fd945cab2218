import ValueParcel.Text.Letters

/-! Identifiers of Java: how any text becomes one, and names that are given only once. -/

namespace ValueParcel.Identifier

def keywords : List String := [
  "abstract", "assert", "boolean", "break", "byte", "case", "catch", "char", "class", "const", "continue", "default",
  "do", "double", "else", "enum", "extends", "false", "final", "finally", "float", "for", "goto", "if", "implements",
  "import", "instanceof", "int", "interface", "long", "native", "new", "null", "package", "private", "protected",
  "public", "return", "short", "static", "strictfp", "super", "switch", "synchronized", "this", "throw", "throws",
  "transient", "true", "try", "void", "volatile", "while"]

def isPart (c : Char) : Bool := Text.isAlphanumeric c || c = '_' || c = '$'

/-- The identifier closest to a text: other characters become `_`, and a number does not come first. -/
def sanitize (suggestion : String) : String :=
  match suggestion.toList with
  | [] => "_"
  | c :: cs =>
    let parts := (c :: cs).map fun c => if isPart c then c else '_'
    String.ofList (if Text.isNumeric c then '_' :: parts else parts)

/-- `name` with as few low lines behind it as keep it off the list. -/
def firstFree (avoid : List String) (name : String) : String :=
  if name ∈ avoid then firstFree (avoid.erase name) (name ++ "_") else name
termination_by avoid.length
decreasing_by
  rename_i h
  have := List.length_pos_of_mem h
  rw [List.length_erase_of_mem h]
  omega

/-- The names that have been given. -/
structure Allocator where
  taken : List String := []
  deriving Repr

/-- A new name close to the suggestion. -/
def Allocator.allocate (a : Allocator) (suggestion : String) : String × Allocator :=
  let name := firstFree (keywords ++ a.taken) (sanitize suggestion)
  (name, ⟨name :: a.taken⟩)

/-- The names given to the suggestions, one after the other. -/
def Allocator.allocateAll (a : Allocator) : List String → List String × Allocator
  | [] => ([], a)
  | s :: rest =>
    let (name, a) := a.allocate s
    let (names, a) := a.allocateAll rest
    (name :: names, a)

end ValueParcel.Identifier
