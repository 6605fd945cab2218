import ValueParcel.Registry.Platform

/-! A few small declarations for the properties of sample value classes. -/

namespace ValueParcel.Registry

open JavaType (raw declared free)

/-- A class that adapts values of the type `name`. -/
def adapterOf (adapter name : String) : Declaration :=
  { Declaration.ofClass adapter with interfaces := [declared WellKnown.typeAdapter [raw name]] }

/-- The last adapter has the simple name `Creator`, whose field name every generated class already has. -/
def fixtures : Registry :=
  ofList [
    { Declaration.ofClass "test.Foo" with interfaces := [raw WellKnown.parcelable] },
    { Declaration.ofClass "test.Bar" with superclass := some (raw "test.Foo") },
    .ofEnum "test.Color",
    { Declaration.ofEnum "test.Kind" with interfaces := [raw WellKnown.parcelable] },
    .ofClass "test.Plain",
    { Declaration.ofClass WellKnown.date with interfaces := [raw WellKnown.serializable] },
    { Declaration.ofInterface WellKnown.typeAdapter with typeParameters := [free "T"] },
    adapterOf "test.DateAdapter" WellKnown.date,
    adapterOf "test.BarTypeAdapter" "test.Plain",
    adapterOf "test.Creator" "test.Plain"]

/-- The platform, the fixtures and some declarations more. -/
def withFixtures (declarations : List Declaration) : Registry :=
  declarations.foldl register (platform.extend fixtures)

end ValueParcel.Registry
