import ValueParcel.Declaration.Basic
import ValueParcel.Document.Basic
import ValueParcel.JavaType.Reader

/-!
Declarations as documents. A declaration is a record, a type in it is the text of its descriptor, and a value of a
closed list is its name. A record may also be given as the list of its fields in order.
-/

namespace ValueParcel

/-- Which scalars of a document may stand for a text. -/
inductive Scalars
  /-- Texts alone. -/
  | quoted
  /-- Any scalar: a number, a truth value and `null` stand for their spelling. -/
  | plain
  deriving DecidableEq, Repr

namespace Document

def text? (s : Scalars) : Document → Option String
  | text t => some t
  | number literal => if s = .plain then some literal else none
  | boolean b => if s = .plain then some (if b then "true" else "false") else none
  | null => if s = .plain then some "null" else none
  | _ => none

/-- The fields of a record in the order of `names`, each where it is given; those not named are passed over. -/
def fields? (names : List String) : Document → Option (List (Option Document))
  | record fields => some (names.map fun name => fields.lookup name)
  | list items =>
    if items.length ≤ names.length then
      some (items.map some ++ List.replicate (names.length - items.length) none)
    else none
  | _ => none

/-- All items, if each of them can be read. -/
def items? {α : Type} (f : Document → Option α) : Document → Option (List α)
  | list items => items.mapM f
  | _ => none

/-- A field that may be left out, and then is empty. -/
def itemsOrNone? {α : Type} (f : Document → Option α) : Option Document → Option (List α)
  | none => some []
  | some d => d.items? f

/-- A value of a closed list by its name, alone or as the name of a `null`. -/
def named? {α : Type} (s : Scalars) (all : List α) (name : α → String) : Document → Option α
  | record [(n, null)] => all.find? (name · = n)
  | d => (d.text? s).bind fun n => all.find? (name · = n)

end Document

namespace JavaType

def encode (t : JavaType) : Document := .text t.descriptor

def decode (s : Scalars) (d : Document) : Option JavaType :=
  (d.text? s).bind fun t => (read t).toOption

/-- A type that may be left out or `null`. -/
def decodeOption (s : Scalars) : Option Document → Option (Option JavaType)
  | none | some .null => some none
  | some d => (decode s d).map some

end JavaType

namespace Kind

def all : List Kind := [classKind, interfaceKind, enumKind]

def name : Kind → String
  | classKind => "Class"
  | interfaceKind => "Interface"
  | enumKind => "Enum"

end Kind

namespace Modifier

def name : Modifier → String
  | publicAccess => "Public"
  | protectedAccess => "Protected"
  | privateAccess => "Private"
  | abstract => "Abstract"
  | static => "Static"
  | final => "Final"

def encode (m : Modifier) : Document := .text m.name

def decode (s : Scalars) (d : Document) : Option Modifier := d.named? s all name

end Modifier

namespace AnnotationUse

def encode (a : AnnotationUse) : Document :=
  .record (("name", .text a.name) :: match a.value with
    | none => []
    | some t => [("value", t.encode)])

def decode (s : Scalars) (d : Document) : Option AnnotationUse := do
  let [some name, value] ← d.fields? ["name", "value"] | none
  return { name := ← name.text? s, value := ← JavaType.decodeOption s value }

end AnnotationUse

namespace Parameter

def encode (p : Parameter) : Document := .record [("name", .text p.name), ("type", p.type.encode)]

def decode (s : Scalars) (d : Document) : Option Parameter := do
  let [some name, some type] ← d.fields? ["name", "type"] | none
  return { name := ← name.text? s, type := ← JavaType.decode s type }

end Parameter

namespace Method

def encode (m : Method) : Document :=
  .record [
    ("name", .text m.name),
    ("return_type", m.returnType.encode),
    ("parameters", .ofList Parameter.encode m.parameters),
    ("modifiers", .ofList Modifier.encode m.modifiers),
    ("annotations", .ofList AnnotationUse.encode m.annotations)]

def decode (s : Scalars) (d : Document) : Option Method := do
  let [some name, some returnType, parameters, modifiers, annotations] ←
    d.fields? ["name", "return_type", "parameters", "modifiers", "annotations"] | none
  return {
    name := ← name.text? s
    returnType := ← JavaType.decode s returnType
    parameters := ← Document.itemsOrNone? (Parameter.decode s) parameters
    modifiers := ← Document.itemsOrNone? (Modifier.decode s) modifiers
    annotations := ← Document.itemsOrNone? (AnnotationUse.decode s) annotations }

end Method

namespace Field

def encode (f : Field) : Document :=
  .record [
    ("name", .text f.name),
    ("type", f.type.encode),
    ("modifiers", .ofList Modifier.encode f.modifiers)]

def decode (s : Scalars) (d : Document) : Option Field := do
  let [some name, some type, modifiers] ← d.fields? ["name", "type", "modifiers"] | none
  return {
    name := ← name.text? s
    type := ← JavaType.decode s type
    modifiers := ← Document.itemsOrNone? (Modifier.decode s) modifiers }

end Field

namespace Declaration

def encode (d : Declaration) : Document :=
  let superclass := match d.superclass with
    | none => []
    | some t => [("superclass", t.encode)]
  .record ([("name", .text d.name), ("kind", .text d.kind.name)] ++ superclass ++ [
    ("interfaces", .ofList JavaType.encode d.interfaces),
    ("type_parameters", .ofList JavaType.encode d.typeParameters),
    ("methods", .ofList Method.encode d.methods),
    ("fields", .ofList Field.encode d.fields),
    ("modifiers", .ofList Modifier.encode d.modifiers)])

def decode (s : Scalars) (d : Document) : Option Declaration := do
  let [some name, some kind, superclass, interfaces, typeParameters, methods, fields, modifiers] ←
    d.fields? ["name", "kind", "superclass", "interfaces", "type_parameters", "methods", "fields", "modifiers"]
    | none
  return {
    name := ← name.text? s
    kind := ← kind.named? s Kind.all Kind.name
    superclass := ← JavaType.decodeOption s superclass
    interfaces := ← Document.itemsOrNone? (JavaType.decode s) interfaces
    typeParameters := ← Document.itemsOrNone? (JavaType.decode s) typeParameters
    methods := ← Document.itemsOrNone? (Method.decode s) methods
    fields := ← Document.itemsOrNone? (Field.decode s) fields
    modifiers := ← Document.itemsOrNone? (Modifier.decode s) modifiers }

end Declaration

end ValueParcel
