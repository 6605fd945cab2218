import ValueParcel.Encoding.Classification
import ValueParcel.Encoding.Table
import ValueParcel.Identifier
import ValueParcel.Property.Accessors
import ValueParcel.Text.ConstantCase

/-!
What the generated class has to know of its properties: names of parameters, types, nullability, and the static fields
that hold adapters, one for each adapter class.
-/

namespace ValueParcel

/-- A static field with an instance of an adapter class. -/
structure AdapterField where
  type : JavaType
  name : String
  deriving DecidableEq, Repr

structure Descriptor where
  /-- The name of the constructor parameter. -/
  name : String
  methodName : String
  declared : JavaType
  /-- The declared type with its bound in place of a variable. -/
  resolved : JavaType
  nullable : Bool
  adapter : Option AdapterField := none
  /-- Annotated for an adapter that is not named. -/
  missingAdapter : Bool := false
  deriving DecidableEq, Repr

/-- How a property gets into the parcel. -/
inductive Route
  | adapter (field : AdapterField)
  | family (f : Family)
  deriving DecidableEq, Repr

/-- The simple name of the annotation for properties that may be `null`. -/
def nullableMark : String := "Nullable"

/-- The simple name of the annotation that names an adapter. -/
def adapterMark : String := "ParcelAdapter"

namespace Method

/-- Marked as nullable, which a primitive value cannot be. -/
def isNullable (m : Method) : Bool :=
  (m.annotated? nullableMark).isSome && match m.returnType with
    | .primitive _ => false
    | _ => true

/-- The adapter class that the first annotation for one names. -/
def adapterType? (m : Method) : Option JavaType := (m.annotated? adapterMark).bind (·.value)

def missesAdapter (m : Method) : Bool := (m.annotated? adapterMark).isSome && m.adapterType?.isNone

end Method

namespace AdapterField

/-- The name that a field for an adapter class would like to have. -/
def suggestion (type : JavaType) : String :=
  Text.constantCase (QualifiedName.simpleName (type.declaredName?.getD "Adapter"))

end AdapterField

namespace Descriptor

def accessor (d : Descriptor) : String := d.methodName ++ "()"

/-- An adapter goes before the families. -/
def route (d : Descriptor) (r : Registry) : Except Rejection Route :=
  if d.missingAdapter then .error .missingAdapter
  else match d.adapter with
    | some field => .ok (.adapter field)
    | none => (r.validate d.resolved).map .family

/-- An integer before the value tells whether it is there. -/
def hasPresenceFlag (d : Descriptor) : Route → Bool
  | .adapter _ => d.nullable
  | .family f => d.nullable && !f.encoding.nativelyNullable

end Descriptor

/-- The descriptors of some properties and the adapter fields they share, in order of first use. -/
structure PropertyModel where
  properties : List Descriptor := []
  adapters : List AdapterField := []
  deriving Repr

namespace PropertyModel

/-- The field of an adapter class: the one there is, or a new one behind the others, with a name close to what `suggest`
gives. -/
def bind (suggest : JavaType → String) (adapters : List AdapterField) (names : Identifier.Allocator) (type : JavaType) :
    AdapterField × List AdapterField × Identifier.Allocator :=
  match adapters.find? (·.type = type) with
  | some field => (field, adapters, names)
  | none =>
    let (name, names) := names.allocate (suggest type)
    (⟨type, name⟩, adapters ++ [⟨type, name⟩], names)

/-- The descriptor of a property, with its parameter name and its adapter field. -/
def describe (p : Property) (name : String) (adapter : Option AdapterField) : Descriptor :=
  { name
    methodName := p.method.name
    declared := p.method.returnType
    resolved := p.method.returnType.resolve
    nullable := p.method.isNullable
    adapter
    missingAdapter := p.method.missesAdapter }

/-- The model with the descriptors of the properties behind those it has. -/
def addAll (suggest : JavaType → String) (model : PropertyModel) (names parameters : Identifier.Allocator) :
    List Property → PropertyModel × Identifier.Allocator
  | [] => (model, names)
  | p :: rest =>
    let (name, parameters) := parameters.allocate p.name
    match p.method.adapterType? with
    | none =>
      addAll suggest { model with properties := model.properties ++ [describe p name none] } names parameters rest
    | some type =>
      let (field, adapters, names) := bind suggest model.adapters names type
      addAll suggest ⟨model.properties ++ [describe p name (some field)], adapters⟩ names parameters rest

/-- The model of some properties. Fields share the names of `names`; parameters have names of their own. -/
def build (properties : List Property) (names : Identifier.Allocator)
    (suggest : JavaType → String := AdapterField.suggestion) : PropertyModel × Identifier.Allocator :=
  addAll suggest {} names {} properties

end PropertyModel

end ValueParcel
