/-! Replacement of a pattern in a text, from the left and without overlap. -/

namespace ValueParcel.Text

/-- Every occurrence of a pattern that starts with `p` and goes on with `ps` becomes `new`. -/
def replaceFrom (p : Char) (ps new : List Char) : List Char → List Char
  | [] => []
  | c :: cs =>
    if c = p ∧ ps.isPrefixOf cs then new ++ replaceFrom p ps new (cs.drop ps.length)
    else c :: replaceFrom p ps new cs
termination_by text => text.length
decreasing_by
  · simp only [List.length_cons, List.length_drop]
    omega
  · simp only [List.length_cons]
    omega

/-- Every occurrence of `old`, found from the left and without overlap, becomes `new`. -/
def replace (old new text : List Char) : List Char :=
  match old with
  | [] => text
  | p :: ps => replaceFrom p ps new text

/-- A text in which the pattern cannot start is left as it is. -/
theorem replaceFrom_of_not_mem {p : Char} {ps new text : List Char} (h : p ∉ text) :
    replaceFrom p ps new text = text := by
  induction text with
  | nil => simp [replaceFrom]
  | cons c cs ih =>
    simp only [List.mem_cons, not_or] at h
    simp [replaceFrom, Ne.symm h.1, ih h.2]

end ValueParcel.Text
