import ValueParcel.JavaType.Basic
import ValueParcel.QualifiedName

/-! Declarations of classes, interfaces and enums, with their members. -/

namespace ValueParcel

inductive Kind
  | classKind
  | interfaceKind
  | enumKind
  deriving DecidableEq, Repr

inductive Modifier
  | publicAccess
  | protectedAccess
  | privateAccess
  | abstract
  | static
  | final
  deriving DecidableEq, Repr

namespace Modifier

def all : List Modifier := [publicAccess, protectedAccess, privateAccess, abstract, static, final]

/-- The modifiers with `m` among them, at the end if it is new. -/
def add (ms : List Modifier) (m : Modifier) : List Modifier := if m ∈ ms then ms else ms ++ [m]

end Modifier

/-- An annotation by its name, simple or qualified, with the class it names, if any. -/
structure AnnotationUse where
  name : String
  value : Option JavaType := none
  deriving DecidableEq, Repr

structure Parameter where
  name : String
  type : JavaType
  deriving DecidableEq, Repr

structure Method where
  name : String
  returnType : JavaType
  parameters : List Parameter := []
  modifiers : List Modifier := []
  annotations : List AnnotationUse := []
  deriving DecidableEq, Repr

structure Field where
  name : String
  type : JavaType
  modifiers : List Modifier := []
  deriving DecidableEq, Repr

/-- A class, an interface or an enum. -/
structure Declaration where
  name : String
  kind : Kind
  /-- The direct superclass, where it is written. -/
  superclass : Option JavaType := none
  /-- The interfaces it implements, or extends if it is one, in order. -/
  interfaces : List JavaType := []
  typeParameters : List JavaType := []
  methods : List Method := []
  fields : List Field := []
  modifiers : List Modifier := []
  deriving DecidableEq, Repr

namespace AnnotationUse

def simpleName (a : AnnotationUse) : String := QualifiedName.simpleName a.name

end AnnotationUse

namespace Method

/-- An abstract method without parameters, as a value class has for each property. -/
def accessor (name : String) (returnType : JavaType) : Method :=
  { name, returnType, modifiers := [.abstract] }

def withParameter (m : Method) (name : String) (type : JavaType) : Method :=
  { m with parameters := m.parameters ++ [⟨name, type⟩] }

def withModifier (m : Method) (modifier : Modifier) : Method :=
  { m with modifiers := Modifier.add m.modifiers modifier }

def annotatedWith (m : Method) (a : AnnotationUse) : Method :=
  { m with annotations := m.annotations ++ [a] }

def isAbstract (m : Method) : Bool := .abstract ∈ m.modifiers

def isStatic (m : Method) : Bool := .static ∈ m.modifiers

/-- The first annotation with the simple name. -/
def annotated? (m : Method) (simpleName : String) : Option AnnotationUse :=
  m.annotations.find? (·.simpleName = simpleName)

/-- Methods with one signature override each other: the name and the erased parameter types. -/
def signature (m : Method) : String × List JavaType :=
  (m.name, m.parameters.map (·.type.erasure))

end Method

namespace Field

def withModifier (f : Field) (modifier : Modifier) : Field :=
  { f with modifiers := Modifier.add f.modifiers modifier }

def isStatic (f : Field) : Bool := .static ∈ f.modifiers

end Field

namespace Declaration

def ofClass (name : String) : Declaration := { name, kind := .classKind }

def ofInterface (name : String) : Declaration := { name, kind := .interfaceKind }

def ofEnum (name : String) : Declaration := { name, kind := .enumKind }

def extending (d : Declaration) (superclass : JavaType) : Declaration :=
  { d with superclass := some superclass }

def implementing (d : Declaration) (interface : JavaType) : Declaration :=
  { d with interfaces := d.interfaces ++ [interface] }

def withTypeParameter (d : Declaration) (parameter : JavaType) : Declaration :=
  { d with typeParameters := d.typeParameters ++ [parameter] }

def withMethod (d : Declaration) (m : Method) : Declaration :=
  { d with methods := d.methods ++ [m] }

def withField (d : Declaration) (f : Field) : Declaration :=
  { d with fields := d.fields ++ [f] }

def withModifier (d : Declaration) (modifier : Modifier) : Declaration :=
  { d with modifiers := Modifier.add d.modifiers modifier }

def isAbstract (d : Declaration) : Bool := .abstract ∈ d.modifiers

def simpleName (d : Declaration) : String := QualifiedName.simpleName d.name

def packageName (d : Declaration) : String := QualifiedName.packageName d.name

/-- The type that is declared, with its own parameters as arguments. -/
def toType (d : Declaration) : JavaType := .declared d.name d.typeParameters

/-- The superclass that is written, or `Enum` of an enum and `Object` of any other class. -/
def superclass? (d : Declaration) : Option JavaType :=
  match d.superclass, d.kind with
  | some s, _ => some s
  | none, .interfaceKind => none
  | none, .enumKind => some (.declared WellKnown.enum [.raw d.name])
  | none, .classKind => if d.name = WellKnown.object then none else some (.raw WellKnown.object)

end Declaration

end ValueParcel
