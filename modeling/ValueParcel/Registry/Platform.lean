import ValueParcel.Registry.Basic

/-! The declarations of the Java, Android and Guava libraries that the generator knows. -/

namespace ValueParcel.Registry

open JavaType (raw declared free)

/-- A declared type whose arguments are type variables. -/
def generic (name : String) (parameters : List String) : JavaType := declared name (parameters.map free)

def javaLang : List Declaration := [
  .ofClass WellKnown.object,
  .ofInterface WellKnown.serializable,
  { Declaration.ofInterface WellKnown.comparable with typeParameters := [free "T"] },
  .ofInterface WellKnown.charSequence,
  { Declaration.ofClass WellKnown.string with
    modifiers := [.final]
    interfaces := [raw WellKnown.serializable, declared WellKnown.comparable [raw WellKnown.string],
      raw WellKnown.charSequence] },
  { Declaration.ofClass WellKnown.number with
    modifiers := [.abstract]
    interfaces := [raw WellKnown.serializable] },
  { Declaration.ofClass WellKnown.enum with
    modifiers := [.abstract]
    typeParameters := [.bounded "E" (generic WellKnown.enum ["E"])]
    interfaces := [generic WellKnown.comparable ["E"], raw WellKnown.serializable] }]

def javaUtil : List Declaration := [
  { Declaration.ofInterface WellKnown.collection with typeParameters := [free "E"] },
  .ofInterface WellKnown.randomAccess,
  { Declaration.ofInterface WellKnown.list with
    typeParameters := [free "E"]
    interfaces := [generic WellKnown.collection ["E"]] },
  { Declaration.ofClass WellKnown.arrayList with
    typeParameters := [free "E"]
    interfaces := [generic WellKnown.list ["E"], raw WellKnown.randomAccess, raw WellKnown.serializable] },
  { Declaration.ofInterface WellKnown.map with typeParameters := [free "K", free "V"] },
  { Declaration.ofClass WellKnown.hashMap with
    typeParameters := [free "K", free "V"]
    interfaces := [generic WellKnown.map ["K", "V"], raw WellKnown.serializable] }]

def android : List Declaration := [
  { Declaration.ofInterface WellKnown.parcelable with
    methods := [
      .accessor "describeContents" (.primitive .int),
      ((Method.accessor "writeToParcel" .void).withParameter "dest" (raw WellKnown.parcel)).withParameter "flags"
        (.primitive .int)] },
  { Declaration.ofInterface WellKnown.parcelableCreator with typeParameters := [free "T"] },
  { Declaration.ofClass WellKnown.parcel with modifiers := [.final] },
  { Declaration.ofClass WellKnown.bundle with
    modifiers := [.final]
    interfaces := [raw WellKnown.parcelable] },
  { Declaration.ofClass WellKnown.persistableBundle with
    modifiers := [.final]
    interfaces := [raw WellKnown.parcelable] },
  .ofInterface WellKnown.binder,
  { Declaration.ofClass WellKnown.size with modifiers := [.final] },
  { Declaration.ofClass WellKnown.sizeF with modifiers := [.final] },
  { Declaration.ofClass WellKnown.sparseArray with typeParameters := [free "E"] },
  { Declaration.ofClass WellKnown.sparseBooleanArray with interfaces := [raw WellKnown.parcelable] },
  .ofClass WellKnown.textUtils]

def guava : List Declaration := [
  { Declaration.ofClass WellKnown.immutableCollection with
    modifiers := [.abstract]
    typeParameters := [free "E"]
    interfaces := [generic WellKnown.collection ["E"], raw WellKnown.serializable] },
  { Declaration.ofClass WellKnown.immutableList with
    modifiers := [.abstract]
    typeParameters := [free "E"]
    superclass := some (generic WellKnown.immutableCollection ["E"])
    interfaces := [generic WellKnown.list ["E"], raw WellKnown.randomAccess] },
  { Declaration.ofClass WellKnown.immutableSet with
    modifiers := [.abstract]
    typeParameters := [free "E"]
    superclass := some (generic WellKnown.immutableCollection ["E"]) },
  { Declaration.ofClass WellKnown.immutableMap with
    modifiers := [.abstract]
    typeParameters := [free "K", free "V"]
    interfaces := [generic WellKnown.map ["K", "V"], raw WellKnown.serializable] }]

/-- The class that boxes a primitive type: numbers have the superclass `Number`, the others are serializable. -/
def boxing (k : Primitive) : Declaration :=
  let comparable := declared WellKnown.comparable [raw k.boxedName]
  let boxed := { Declaration.ofClass k.boxedName with modifiers := [.final] }
  match k with
  | .boolean | .char => { boxed with interfaces := [raw WellKnown.serializable, comparable] }
  | _ => { boxed with superclass := some (raw WellKnown.number), interfaces := [comparable] }

def platform : Registry :=
  ofList (javaLang ++ javaUtil ++ android ++ guava ++ Primitive.all.map boxing)

end ValueParcel.Registry
