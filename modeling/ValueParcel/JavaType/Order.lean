import ValueParcel.JavaType.Basic

/-!
The order of types: by shape (`void`, primitive, declared, array, variable), then by the parts from left to right. A
variable without a bound comes before those of its name that have one.
-/

namespace ValueParcel

namespace Primitive

def rank (k : Primitive) : Nat := all.idxOf k

end Primitive

namespace JavaType

def rank : JavaType → Nat
  | void => 0
  | primitive _ => 1
  | declared _ _ => 2
  | array _ => 3
  | free _ | bounded _ _ => 4

mutual

def order : JavaType → JavaType → Ordering
  | primitive k, primitive l => compare k.rank l.rank
  | declared n as, declared m bs => (compare n m).then (orderList as bs)
  | array s, array t => s.order t
  | free n, free m => compare n m
  | free n, bounded m _ => (compare n m).then .lt
  | bounded n _, free m => (compare n m).then .gt
  | bounded n s, bounded m t => (compare n m).then (s.order t)
  | s, t => compare s.rank t.rank

/-- Lists by their first difference; a list comes after its beginnings. -/
def orderList : List JavaType → List JavaType → Ordering
  | [], [] => .eq
  | [], _ :: _ => .lt
  | _ :: _, [] => .gt
  | s :: ss, t :: ts => (s.order t).then (orderList ss ts)

end

instance : Ord JavaType := ⟨order⟩

/-- The types in ascending order; equal ones keep their places. -/
def sort (ts : List JavaType) : List JavaType := ts.mergeSort (fun s t => (s.order t).isLE)

end JavaType

end ValueParcel
