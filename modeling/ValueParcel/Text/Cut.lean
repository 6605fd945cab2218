/-!
Texts cut at a place that is given by the number of bytes before it, in UTF-8. A text can be cut only where a character
begins or where it ends.
-/

namespace ValueParcel.Text

/-- The text before the place. -/
def upTo? (text : String) (bytes : Nat) : Option String :=
  (text.pos? ⟨bytes⟩).map fun place => (text.sliceTo place).copy

/-- The text behind the place. -/
def behind? (text : String) (bytes : Nat) : Option String :=
  (text.pos? ⟨bytes⟩).map fun place => (text.sliceFrom place).copy

end ValueParcel.Text
