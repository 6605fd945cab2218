import ValueParcel.Text.Case
import ValueParcel.Text.Cut

/-!
Qualified names of classes: segments between dots. The package is made of the leading segments that look like
package names.
-/

namespace ValueParcel.QualifiedName

/-- The parts of a text between its dots, one more than there are dots. -/
def segments : List Char → List (List Char)
  | [] => [[]]
  | c :: cs =>
    if c = '.' then [] :: segments cs
    else match segments cs with
      | [] => [[c]]
      | s :: ss => (c :: s) :: ss

def join (parts : List (List Char)) : List Char := ['.'].intercalate parts

/-- Not empty, and its first character neither is upper case nor a dollar sign. -/
def isPackageSegment : List Char → Bool
  | [] => false
  | c :: _ => !(Text.isUppercase c || c = '$')

def packageSegments (name : String) : List (List Char) :=
  (segments name.toList).takeWhile isPackageSegment

/-- The segments behind the package: the top-level class and what is nested in it. -/
def classSegments (name : String) : List (List Char) :=
  (segments name.toList).dropWhile isPackageSegment

/-- The bytes of a name up to the end of its package, where the first `index` segments have `bytes` bytes with the dots
between them. Each further segment brings its own bytes and, unless it is the first, those of the dot before it. -/
def countPackage (index bytes : Nat) : List (List Char) → Nat
  | [] => bytes
  | s :: rest =>
    if isPackageSegment s then
      countPackage (index + 1) (bytes + ((String.ofList s).utf8ByteSize + if index = 0 then 0 else 1)) rest
    else bytes

/-- The place where the package ends. -/
def packageEnd (name : String) : Nat := countPackage 0 0 (segments name.toList)

/-- The name up to the end of its package, if it can be cut there. -/
def packageName? (name : String) : Option String := Text.upTo? name (packageEnd name)

/-- The package of a class. Its end is always a place to cut the name at. -/
def packageName (name : String) : String := (packageName? name).getD ""

/-- What stands before the first dot. -/
def outermostName (name : String) : String := String.ofList ((segments name.toList).headD [])

/-- What stands behind the last dot. -/
def simpleName (name : String) : String := String.ofList ((segments name.toList).getLastD [])

theorem segments_ne_nil (cs : List Char) : segments cs ≠ [] := by
  cases cs with
  | nil => simp [segments]
  | cons c cs =>
    simp only [segments]
    split
    · simp
    · split <;> simp

theorem join_segments (cs : List Char) : join (segments cs) = cs := by
  induction cs with
  | nil => rfl
  | cons c cs ih =>
    simp only [segments]
    split
    · rename_i h
      cases hs : segments cs with
      | nil => exact absurd hs (segments_ne_nil cs)
      | cons s ss => rw [hs] at ih; subst h; simpa [join, List.intercalate, List.intersperse] using ih
    · cases hs : segments cs with
      | nil => exact absurd hs (segments_ne_nil cs)
      | cons s ss =>
        rw [hs] at ih
        cases ss <;> simpa [join, List.intercalate, List.intersperse] using ih

end ValueParcel.QualifiedName
