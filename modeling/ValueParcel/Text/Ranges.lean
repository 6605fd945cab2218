/-! Sets of characters, given by the ends of their ranges of code points. -/

namespace ValueParcel.Text

/-- Ranges of code points in ascending order, both ends included. -/
abbrev Ranges := List (Nat × Nat)

/-- Whether one of the ranges holds `n`; those that start above `n` are not looked at. -/
def Ranges.containsCode : Ranges → Nat → Bool
  | [], _ => false
  | (first, last) :: rest, n =>
    if n < first then false else n ≤ last || Ranges.containsCode rest n

def Ranges.contains (ranges : Ranges) (c : Char) : Bool := ranges.containsCode c.toNat

/-- Every `stride`-th code point from `first` to `last`. -/
structure Run where
  first : Nat
  last : Nat
  stride : Nat

def Run.contains (run : Run) (c : Char) : Bool :=
  run.first ≤ c.toNat && c.toNat ≤ run.last && (c.toNat - run.first) % run.stride = 0

end ValueParcel.Text
