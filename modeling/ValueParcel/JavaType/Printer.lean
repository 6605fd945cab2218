import ValueParcel.JavaType.Basic
import ValueParcel.Text.Commas

/-! The text of a type: in a message, where a variable is its name, and in a descriptor, which keeps the bounds. -/

namespace ValueParcel.JavaType

mutual

/-- The type as messages show it. -/
def display : JavaType → String
  | void => "void"
  | primitive k => k.keyword
  | declared n args => n ++ Text.angled (displayList args)
  | array c => c.display ++ "[]"
  | free n => n
  | bounded n _ => n

def displayList : List JavaType → List String
  | [] => []
  | t :: ts => t.display :: displayList ts

end

mutual

/-- The type in the form that can be read back. -/
def descriptor : JavaType → String
  | void => "void"
  | primitive k => k.keyword
  | declared n args => n ++ Text.angled (descriptorList args)
  | array c => c.descriptor ++ "[]"
  | free n => n
  | bounded n b => n ++ " extends " ++ b.descriptor

def descriptorList : List JavaType → List String
  | [] => []
  | t :: ts => t.descriptor :: descriptorList ts

end

end ValueParcel.JavaType
