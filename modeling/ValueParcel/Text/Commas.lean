/-! Lists of texts, as sources and messages write them. -/

namespace ValueParcel.Text

/-- The texts with a comma and a blank between them. -/
def commas : List String → String
  | [] => ""
  | [s] => s
  | s :: t :: rest => s ++ ", " ++ commas (t :: rest)

/-- The texts in angle brackets, or nothing if there are none. -/
def angled : List String → String
  | [] => ""
  | s :: rest => "<" ++ commas (s :: rest) ++ ">"

end ValueParcel.Text
