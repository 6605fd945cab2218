import ValueParcel.Text.Case
import ValueParcel.Text.Words

/-! Constant case: the words of a name and the humps of each word, in upper case and joined by low lines. -/

namespace ValueParcel.Text

/-- The case of the last cased character of a hump. -/
inductive HumpCase
  | uncased
  | lower
  | upper
  deriving DecidableEq, Repr

/-- The case of a hump that `c` extends. -/
def HumpCase.after (h : HumpCase) (c : Char) : HumpCase :=
  if isLowercase c then .lower else if isUppercase c then .upper else h

/--
The humps of the rest of a word, where the hump begun stands reversed in `hump`. A low line ends a hump and is
dropped; an upper case letter after a lower case one begins a hump, and so does the last of several upper case
letters if a lower case one follows.
-/
def humpsFrom (h : HumpCase) (hump : List Char) : List Char → List (List Char)
  | [] => []
  | [c] => if c = '_' then [] else [(c :: hump).reverse]
  | c :: d :: rest =>
    if c = '_' then humpsFrom h hump (d :: rest)
    else if d = '_' || (h.after c = .lower && isUppercase d) then
      (c :: hump).reverse :: humpsFrom .uncased [] (d :: rest)
    else if h = .upper && isUppercase c && isLowercase d then
      hump.reverse :: humpsFrom .uncased [c] (d :: rest)
    else humpsFrom (h.after c) (c :: hump) (d :: rest)

def humps (word : List Char) : List (List Char) := humpsFrom .uncased [] word

/-- The constant case of a name: `BarTypeAdapter` becomes `BAR_TYPE_ADAPTER`. -/
def constantCase (name : String) : String :=
  String.ofList (['_'].intercalate (((words name.toList).flatMap humps).map (·.flatMap upper)))

end ValueParcel.Text
