import ValueParcel.Layout.Slots

/-! Everything that the source of a generated class is made of. -/

namespace ValueParcel

structure ClassPlan where
  package : String
  className : String
  /-- The simple name of the class to extend, in the same package. -/
  superclass : String
  /-- The qualified name of the value class. -/
  valueClass : String := ""
  typeParameters : List JavaType := []
  isFinal : Bool := true
  properties : List PlannedProperty := []
  adapters : List AdapterField := []
  /-- Whether `describeContents` has to be implemented. -/
  describeContents : Bool := true
  deriving Repr

namespace ClassPlan

/-- The operations that the class performs on a parcel, in order. -/
def layout (p : ClassPlan) : Layout := ⟨p.className, p.properties.map (·.slot)⟩

end ClassPlan

end ValueParcel
