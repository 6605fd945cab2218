import ValueParcel.Decimal.Shortest

/-! How decimals are laid out as text. -/

namespace ValueParcel.Decimal

structure Layout where
  tie : Tie
  /-- The least exponent of the first digit that is written positionally. -/
  positionalFrom : Int
  /-- The exponent of the first digit from which on values are not written positionally. -/
  positionalBelow : Int
  exponentMark : Char
  /-- What stands before the digits of an exponent that is not negative. -/
  positiveSign : List Char
  notANumber : String
  infinity : String

/-- The digits without the zeros at their end, and the exponent of the first. -/
def significant (d : Scaled) : List Char × Int :=
  let all := digits d.digits
  let kept := (all.reverse.dropWhile (· = '0')).reverse
  (kept, d.exponent + ((all.length : Int) - 1))

/-- Digits whose first has the exponent `e`, with a point and a digit on both sides of it. -/
def positional (ds : List Char) (e : Int) : List Char :=
  if e < 0 then ['0', '.'] ++ List.replicate ((-e).toNat - 1) '0' ++ ds
  else
    let whole := e.toNat + 1
    let fraction := ds.drop whole
    ds.take whole ++ List.replicate (whole - ds.length) '0' ++ ['.'] ++ (if fraction = [] then ['0'] else fraction)

/-- One digit, a point if more follow, and the exponent. -/
def scientific (l : Layout) (ds : List Char) (e : Int) : List Char :=
  let fraction := ds.drop 1
  ds.take 1 ++ (if fraction = [] then [] else '.' :: fraction) ++ [l.exponentMark] ++
    (if e < 0 then ['-'] else l.positiveSign) ++ digits e.natAbs

namespace Layout

def finite (l : Layout) (x : Binary) : List Char :=
  if x.m = 0 then ['0', '.', '0']
  else
    let (ds, e) := significant (x.shortest l.tie)
    if l.positionalFrom ≤ e ∧ e < l.positionalBelow then positional ds e else scientific l ds e

/-- The text of the value that the bits stand for; only what is no number has no sign. -/
def render (l : Layout) (f : Format) (bits : Nat) : String :=
  let sign := if f.isNegative bits then "-" else ""
  match f.magnitude bits with
  | .notANumber => l.notANumber
  | .infinite => sign ++ l.infinity
  | .finite x => sign ++ String.ofList (l.finite x)

end Layout

end ValueParcel.Decimal
