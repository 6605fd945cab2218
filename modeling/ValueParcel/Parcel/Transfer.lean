import ValueParcel.Layout.Slots
import ValueParcel.Parcel.Stream

/-!
Values through a parcel by a layout. A slot with a presence flag writes the flag, and behind it the value unless it is
`null`; any other slot writes the value. Reading takes the same steps.
-/

namespace ValueParcel

def Value.isNull : Value → Bool
  | null => true
  | _ => false

namespace Slot

/-- The tag under which the values of a slot stand. -/
def tag (s : Slot) : String := s.operation.name

/-- Whether a value is left to its presence flag. -/
def omits (s : Slot) (v : Value) : Bool := s.presenceFlag && v.isNull

def writeFlag (s : Slot) (v : Value) (p : Parcel) : Parcel :=
  if s.presenceFlag then p.writePresence (!v.isNull) else p

def write (s : Slot) (v : Value) (p : Parcel) : Parcel :=
  if s.omits v then s.writeFlag v p else (s.writeFlag v p).write s.tag v

def read (s : Slot) (p : Parcel) : Except Parcel.Fault Value × Parcel :=
  if s.presenceFlag then
    match p.readPresence with
    | (.ok true, p) => p.read s.tag
    | (.ok false, p) => (.ok .null, p)
    | (.error e, p) => (.error e, p)
  else p.read s.tag

end Slot

namespace Layout

/-- Writes one value for each slot, in order. -/
def writeSlots (p : Parcel) : List Slot → List Value → Parcel
  | s :: slots, v :: values => writeSlots (s.write v p) slots values
  | _, _ => p

/-- Reads one value for each slot, up to the first fault. -/
def readSlots (p : Parcel) : List Slot → Except Parcel.Fault (List Value) × Parcel
  | [] => (.ok [], p)
  | s :: slots =>
    match s.read p with
    | (.error e, p) => (.error e, p)
    | (.ok v, p) =>
      let (values, p) := readSlots p slots
      (values.map (v :: ·), p)

def write (l : Layout) (values : List Value) (p : Parcel) : Parcel := writeSlots p l.slots values

def read (l : Layout) (p : Parcel) : Except Parcel.Fault (List Value) × Parcel := readSlots p l.slots

end Layout

end ValueParcel
