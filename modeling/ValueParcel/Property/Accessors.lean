import ValueParcel.Registry.Hierarchy

/-!
The properties of a value class: its abstract accessors, its own and those it inherits. If every accessor starts with
`get`, or with `is` where it gives a boolean, the properties are named without that.
-/

namespace ValueParcel

structure Property where
  name : String
  method : Method
  deriving DecidableEq, Repr

namespace Property

def describeContents : String := "describeContents"

def writeToParcel : String := "writeToParcel"

/-- Methods that are no properties: those of every object, and those of the generated class. -/
def otherMethods : List String := ["equals", "hashCode", "toString", describeContents, writeToParcel]

/-- An abstract method that takes nothing and gives something. -/
def isAccessor (m : Method) : Bool :=
  m.isAbstract && !m.isStatic && m.parameters.isEmpty && m.returnType ≠ .void && !otherMethods.contains m.name

def isBoolean (t : JavaType) : Bool :=
  t = .primitive .boolean || t.isExactly (Primitive.boxedName .boolean)

/-- What follows the first letters of an accessor's name, where they are `get` or `is`. -/
def afterVerb? (name : List Char) (returnType : JavaType) : Option (List Char) :=
  match name with
  | 'g' :: 'e' :: 't' :: rest => some rest
  | 'i' :: 's' :: rest => if isBoolean returnType then some rest else none
  | _ => none

/-- A name that starts in upper case, in lower case; it is left as it is if two letters are in upper case. -/
def decapitalize? : List Char → Option (List Char)
  | [] => none
  | c :: rest =>
    if !Text.isUppercase c then none
    else if rest.head?.any Text.isUppercase then some (c :: rest)
    else some (Text.lower c ++ rest)

/-- The name of the property behind an accessor that starts with a verb. -/
def bareName? (m : Method) : Option String :=
  ((afterVerb? m.name.toList m.returnType).bind decapitalize?).map String.ofList

def ofAccessors (accessors : List Method) : List Property :=
  if accessors.all fun m => (bareName? m).isSome then
    accessors.map fun m => ⟨(bareName? m).getD m.name, m⟩
  else accessors.map fun m => ⟨m.name, m⟩

/-- The methods among which the accessors are found. -/
def candidates (r : Registry) (d : Declaration) : List Method :=
  match r.methods (.raw d.name) with
  | [] => d.methods
  | found => found.map (·.2)

/-- The properties of a value class, in the order of its hierarchy. -/
def ofClass (r : Registry) (d : Declaration) : List Property :=
  ofAccessors ((candidates r d).filter isAccessor)

end Property

end ValueParcel
