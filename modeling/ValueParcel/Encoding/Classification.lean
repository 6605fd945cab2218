import ValueParcel.Encoding.Family
import ValueParcel.Registry.Hierarchy

/-!
The family of a type, found among its supertypes, and the types that can be written: a map needs keys that are
exactly `String` and values that can be written in turn.
-/

namespace ValueParcel

/-- Why a property cannot be written. -/
inductive Rejection
  | unsupported
  /-- A map without `String` keys or without values that can be written. -/
  | invalidMap
  /-- An annotation for an adapter that names none. -/
  | missingAdapter
  deriving DecidableEq, Repr

namespace Registry

/-- The family of the first declaration in preorder that names one. -/
def familyAbove (r : Registry) (t : JavaType) : Option Family :=
  (r.preorder t).findSome? fun d => Family.ofClass? d.name

/-- Enums and immutable collections have families of their own, which the preorder does not show. -/
def promote (r : Registry) (t : JavaType) (kind : Kind) (f : Family) : Family :=
  if f = .parcelable then f
  else if kind = .enumKind then .enum
  else if f = .list ∧ r.extendsClass t WellKnown.immutableCollection then .immutableCollection
  else if f = .map ∧ r.extendsClass t WellKnown.immutableMap then .immutableMap
  else f

/-- The family of a declared type; that of a map is told by its name alone. -/
def familyOfDeclared (r : Registry) (t : JavaType) : Option Family :=
  if t.isExactly WellKnown.object then some .value
  else (r.declaration? t).bind fun d => (r.familyAbove t).map (r.promote t d.kind)

/-- The family in which a type is written, or why it cannot be. -/
def validate (r : Registry) : JavaType → Except Rejection Family
  | .void => .error .unsupported
  | .primitive k => .ok (.primitive k)
  | .free _ => .error .unsupported
  | .bounded _ b => r.validate b
  | .array c =>
    match Family.ofComponent? c with
    | some f => .ok f
    | none => match r.validate c with
      | .ok _ => .ok .value
      | .error _ => .error .unsupported
  | .declared name args =>
    match r.familyOfDeclared (.declared name args) with
    | none => .error .unsupported
    | some f =>
      if f.isMap then
        match args with
        | [k, v] =>
          if k.isExactly WellKnown.string then
            match r.validate v with
            | .ok _ => .ok f
            | .error _ => .error .invalidMap
          else .error .invalidMap
        | _ => .error .invalidMap
      else .ok f

/-- The family of a type, whatever the arguments of a map are. -/
def classify (r : Registry) : JavaType → Option Family
  | .bounded _ b => r.classify b
  | .declared name args => r.familyOfDeclared (.declared name args)
  | t => (r.validate t).toOption

end Registry

end ValueParcel
