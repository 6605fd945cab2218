import ValueParcel.Generator.Context
import ValueParcel.Install.AdapterSources
import ValueParcel.Registry.Fixtures

/-! Sample value classes: short descriptions of accessors, and the whole way from them to a plan or a source. -/

namespace ValueParcel.Sample

structure Accessor where
  name : String
  type : JavaType
  nullable : Bool := false
  /-- The adapter class it names. -/
  adapter : Option String := none
  /-- Annotated for an adapter that is not named. -/
  bareAdapter : Bool := false
  deriving Repr

def nullableUse : AnnotationUse := { name := "android.support.annotation." ++ nullableMark }

def adapterUse (adapter : String) : AnnotationUse :=
  { name := AdapterSources.package ++ "." ++ adapterMark, value := some (.raw adapter) }

def bareUse : AnnotationUse := { name := adapterMark }

namespace Accessor

def annotations (a : Accessor) : List AnnotationUse :=
  (if a.nullable then [nullableUse] else []) ++ (a.adapter.map adapterUse).toList ++
    (if a.bareAdapter then [bareUse] else [])

def method (a : Accessor) : Method :=
  { Method.accessor a.name a.type with annotations := a.annotations }

end Accessor

def valueClass (name : String) (accessors : List Accessor) (typeParameters : List JavaType) : Declaration :=
  { Declaration.ofClass name with
    modifiers := [.abstract]
    interfaces := [.raw WellKnown.parcelable]
    typeParameters
    methods := accessors.map (·.method) }

/-- Documentation of a sample class, with an empty line in it. -/
def comments : List (String × String) := [("test.Point", "A point.\n\nCoordinates are in pixels.")]

/-- The registry of the fixtures and a value class. -/
def registry (d : Declaration) : Registry := .withFixtures [d]

/-- The source generated for a value class, unless members written by hand stand in the way, and the reports. -/
def generate (r : Registry) (d : Declaration) (config : Config) : Except Failure (Option String) × Log :=
  let c := Context.ofClass r d config.failureMode
  let name := generatedName d.name
  match c.applicable [] with
  | (.error e, log) => (.error e, log)
  | (.ok _, log) => c.generate config name (superclassName name) mustBeFinal log

/-- The plan of the class for a value class, and the reports. -/
def plan (r : Registry) (d : Declaration) (mode : FailureMode) : Except Failure (Option ClassPlan) × Log :=
  let name := generatedName d.name
  (Context.ofClass r d mode).plan name (superclassName name) mustBeFinal []

end ValueParcel.Sample
