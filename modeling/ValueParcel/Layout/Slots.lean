import ValueParcel.Document.Basic
import ValueParcel.Property.Descriptor

/-! The layout of a value in the parcel: one slot for each property, in order. -/

namespace ValueParcel

structure Slot where
  property : String
  /-- An integer tells whether the value follows. -/
  presenceFlag : Bool
  operation : Operation
  /-- The value may be absent. -/
  nullable : Bool
  deriving DecidableEq, Repr

structure Layout where
  className : String
  slots : List Slot
  deriving DecidableEq, Repr

namespace Route

def operation : Route → Operation
  | adapter _ => .adapter
  | family f => f.operation

end Route

structure PlannedProperty where
  descriptor : Descriptor
  route : Route
  deriving DecidableEq, Repr

namespace PlannedProperty

def hasPresenceFlag (p : PlannedProperty) : Bool := p.descriptor.hasPresenceFlag p.route

def slot (p : PlannedProperty) : Slot :=
  { property := p.descriptor.name
    presenceFlag := p.hasPresenceFlag
    operation := p.route.operation
    nullable := p.descriptor.nullable }

end PlannedProperty

namespace Slot

def encode (s : Slot) : Document :=
  .record [
    ("property", .text s.property),
    ("presence_flag", .boolean s.presenceFlag),
    ("op", .text s.operation.name),
    ("nullable", .boolean s.nullable)]

end Slot

namespace Layout

def encode (l : Layout) : Document :=
  .record [("class_name", .text l.className), ("slots", .ofList Slot.encode l.slots)]

end Layout

end ValueParcel
