import ValueParcel.Diagnostic
import ValueParcel.Generator.Failure
import ValueParcel.JavaType.Printer
import ValueParcel.Source.ClassText

/-!
From a value class to the source of its implementation: whether one is wanted, what it consists of, and its text.
Whatever is wrong with the value class is reported to the log.
-/

namespace ValueParcel

/-- A value class, its properties, and the declarations around it. -/
structure Context where
  package : String
  valueClass : Declaration
  /-- In the order in which they are written to the parcel. -/
  properties : List Property
  registry : Registry
  failureMode : FailureMode := .soft
  deriving Repr

namespace Context

/-- The context of a value class with its own properties. -/
def ofClass (r : Registry) (d : Declaration) (mode : FailureMode) : Context :=
  { package := d.packageName
    valueClass := d
    properties := Property.ofClass r d
    registry := r
    failureMode := mode }

def owner (c : Context) : String := c.valueClass.name

def valueType (c : Context) : JavaType := .raw c.owner

/-! ### Whether an implementation is wanted -/

/-- A static field named and typed like the one that the generated class will have. -/
def isCreator (f : Field) : Bool :=
  f.name = creatorField && f.isStatic && f.type.erasure.isExactly WellKnown.parcelableCreator

/-- A method with the signature and the result of `writeToParcel`. -/
def isWriteToParcel (m : Method) : Bool :=
  m.name = Property.writeToParcel && m.returnType = .void && match m.parameters with
    | [parcel, flags] => parcel.type.isExactly WellKnown.parcel && flags.type = .primitive .int
    | _ => false

def isDescribeContents (m : Method) : Bool :=
  m.name = Property.describeContents && m.parameters.isEmpty && m.returnType = .primitive .int

/-- The first field that stands in the way of the generated one, by its owner. -/
def creatorConflict? (c : Context) : Option Declaration :=
  ((c.registry.fields c.valueType).find? fun (_, f) => isCreator f).map (·.1)

/-- The first method that stands in the way of the generated one, by its owner. -/
def writeConflict? (c : Context) : Option Declaration :=
  ((c.registry.methods c.valueType).find? fun (_, m) => isWriteToParcel m && !m.isAbstract).map (·.1)

def creatorMessage (c : Context) : String :=
  "Manual implementation of a static Parcelable.Creator<T> " ++ creatorField ++ " field found when processing " ++
    c.owner ++ ". Remove it so that the implementation can be generated."

def writeMessage (c : Context) : String :=
  "Manual implementation of Parcelable#" ++ Property.writeToParcel ++ " found when processing " ++ c.owner ++
    ". Remove it so that the implementation can be generated."

/-- The members written by hand that the generated class has to implement, with what is said of them. -/
def conflicts (c : Context) : List Diagnostic :=
  (c.creatorConflict?.map fun d => ⟨.error, c.creatorMessage, d.name, some creatorField⟩).toList ++
  (c.writeConflict?.map fun d => ⟨.error, c.writeMessage, d.name, some Property.writeToParcel⟩).toList

/-- Whether the value class is a `Parcelable` that leaves the implementation to be generated. -/
def applicable (c : Context) (log : Log) : Except Failure Bool × Log :=
  if !c.registry.isAssignable c.valueType (.raw WellKnown.parcelable) then (.ok false, log)
  else match c.conflicts with
    | [] => (.ok true, log)
    | first :: rest => (.error (.conflictingMember c.owner (first.place.member.getD "")), log ++ first :: rest)

/-! ### The plan -/

/-- What is said of a property that cannot be written. -/
def rejectionMessage (d : Descriptor) : Rejection → String
  | .unsupported =>
    "Property " ++ d.methodName ++ " of type " ++ d.declared.display ++ " is not a supported Parcelable type."
  | .missingAdapter =>
    "Property " ++ d.methodName ++ " is annotated with @ParcelAdapter but does not name a TypeAdapter class."
  | .invalidMap =>
    "Maps can only have String objects for keys and valid Parcelable types for values."

def rejectionFailure (c : Context) (d : Descriptor) : Rejection → Failure
  | .unsupported => .unsupportedType c.owner d.methodName
  | .missingAdapter => .missingAdapter c.owner d.methodName
  | .invalidMap => .invalidMapType c.owner d.methodName

/--
The properties with their routes, or none if one of them was rejected. Every rejection is reported; in strict mode the
first one is also the last.
-/
def planProperties (c : Context) (log : Log) :
    List Descriptor → Except Failure (Option (List PlannedProperty)) × Log
  | [] => (.ok (some []), log)
  | d :: rest =>
    match d.route c.registry with
    | .ok route =>
      let (result, log) := c.planProperties log rest
      (result.map (·.map (⟨d, route⟩ :: ·)), log)
    | .error rejection =>
      let log := log.report .error (rejectionMessage d rejection) ⟨c.owner, some d.methodName⟩
      match c.failureMode with
      | .strict => (.error (c.rejectionFailure d rejection), log)
      | .soft =>
        let (result, log) := c.planProperties log rest
        (result.map fun _ => none, log)

/-- The model of the properties. No field is named like the one that makes objects from parcels. -/
def model (c : Context) : PropertyModel :=
  (PropertyModel.build c.properties (({} : Identifier.Allocator).allocate creatorField).2).1

/-- Whether no class above implements `describeContents`. -/
def leavesDescribeContents (c : Context) : Bool :=
  !(c.registry.methods c.valueType).any fun (_, m) => isDescribeContents m && !m.isAbstract

/-- The plan of the class `className`, or none if a property was rejected in soft mode. -/
def plan (c : Context) (className superclass : String) (isFinal : Bool) (log : Log) :
    Except Failure (Option ClassPlan) × Log :=
  let (planned, log) := c.planProperties log c.model.properties
  (planned.map (·.map fun properties =>
    { package := c.package
      className
      superclass
      valueClass := c.owner
      typeParameters := c.valueClass.typeParameters
      isFinal
      properties
      adapters := c.model.adapters
      describeContents := c.leavesDescribeContents }), log)

/-- The source of the class `className`, or none if a property was rejected in soft mode. -/
def generate (c : Context) (config : Config) (className superclass : String) (isFinal : Bool) (log : Log) :
    Except Failure (Option String) × Log :=
  let (planned, log) := c.plan className superclass isFinal log
  (planned.map (·.map (·.source config)), log)

end Context

/-- The methods that the generated class implements, which are no properties. -/
def consumedMethods : List String := [Property.describeContents, Property.writeToParcel]

/-- A generated class has no subclasses. -/
def mustBeFinal : Bool := true

/-- The usual name of the class generated for a value class. -/
def generatedName (valueClass : String) : String := "AutoValue_" ++ QualifiedName.simpleName valueClass

/-- The usual name of the class that a generated class extends. -/
def superclassName (className : String) : String := "$" ++ className

end ValueParcel
