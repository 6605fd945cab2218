/-!
Shortest decimals: the fewest digits that identify a binary floating-point value, and of those the nearest. A decimal
identifies a value if it lies in the interval of the reals that round to it.
-/

namespace ValueParcel.Decimal

def twoTo (n : Nat) : Nat := Nat.pow 2 n

def tenTo (n : Nat) : Nat := Nat.pow 10 n

/-- The widths of the fields of a binary format. -/
structure Format where
  fractionBits : Nat
  exponentBits : Nat
  deriving DecidableEq, Repr

def Format.single : Format := ⟨23, 8⟩

def Format.double : Format := ⟨52, 11⟩

/-- A finite value m · 2^q without its sign. -/
structure Binary where
  m : Nat
  q : Int
  /-- The value below is half as far away as the value above. -/
  narrowBelow : Bool
  deriving DecidableEq, Repr

inductive Magnitude
  | finite (x : Binary)
  | infinite
  | notANumber
  deriving DecidableEq, Repr

namespace Format

def bias (f : Format) : Nat := twoTo (f.exponentBits - 1) - 1

/-- The exponent of two of the least value. -/
def leastExponent (f : Format) : Int := 1 - (f.bias : Int) - (f.fractionBits : Int)

def isNegative (f : Format) (bits : Nat) : Bool := bits / twoTo (f.fractionBits + f.exponentBits) % 2 = 1

/-- What the bits below the sign stand for. -/
def magnitude (f : Format) (bits : Nat) : Magnitude :=
  let fraction := bits % twoTo f.fractionBits
  let exponent := bits / twoTo f.fractionBits % twoTo f.exponentBits
  if exponent = twoTo f.exponentBits - 1 then if fraction = 0 then .infinite else .notANumber
  else if exponent = 0 then .finite ⟨fraction, f.leastExponent, false⟩
  else
    .finite ⟨twoTo f.fractionBits + fraction, f.leastExponent + ((exponent : Int) - 1), fraction = 0 && exponent > 1⟩

end Format

/-- The decimal digits · 10^exponent. -/
structure Scaled where
  digits : Nat
  exponent : Int
  deriving DecidableEq, Repr

/-- Which of two decimals that are as near is taken. -/
inductive Tie
  | upper
  | even
  deriving DecidableEq, Repr

/-- Whether the upper of a whole number `n` and the next is taken. -/
def Tie.takesUpper (t : Tie) (n : Nat) : Bool :=
  match t with
  | upper => true
  | even => n % 2 = 1

/-- Compares a · 10^i with n · 2^j. -/
def compareScaled (a : Nat) (i : Int) (n : Nat) (j : Int) : Ordering :=
  compare (a * tenTo i.toNat * twoTo (-j).toNat) (n * twoTo j.toNat * tenTo (-i).toNat)

namespace Binary

/-- Whether the decimal lies in the interval of the value; its ends belong to it if m is even. -/
def isIdentifiedBy (x : Binary) (d : Scaled) : Bool :=
  let low := 4 * x.m - (if x.narrowBelow then 1 else 2)
  let high := 4 * x.m + 2
  let atLow := compareScaled d.digits d.exponent low (x.q - 2)
  let atHigh := compareScaled d.digits d.exponent high (x.q - 2)
  if x.m % 2 = 0 then atLow.isGE && atHigh.isLE else atLow = .gt && atHigh = .lt

/-- The whole number of units of 10^e that are not more than the value. -/
def unitsBelow (x : Binary) (e : Int) : Nat :=
  x.m * twoTo x.q.toNat * tenTo (-e).toNat / (twoTo (-x.q).toNat * tenTo e.toNat)

/-- The least e for which the value is below 10^e, sought around the binary logarithm. -/
def scale (x : Binary) : Int :=
  let guess : Int := (((Nat.log2 x.m : Int) + x.q) * 1233) / 4096
  let candidates := [guess - 1, guess, guess + 1, guess + 2]
  (candidates.find? fun e => compareScaled 1 e x.m x.q = .gt).getD (guess + 2)

/-- The neighbour of the value on the grid of 10^e that identifies it; of two the nearer, of two as near one by `t`. -/
def onGrid? (x : Binary) (t : Tie) (e : Int) : Option Scaled :=
  let below : Scaled := ⟨x.unitsBelow e, e⟩
  let above : Scaled := ⟨x.unitsBelow e + 1, e⟩
  match x.isIdentifiedBy below, x.isIdentifiedBy above with
  | false, false => none
  | true, false => some below
  | false, true => some above
  | true, true =>
    match compareScaled (2 * below.digits + 1) e (2 * x.m) x.q with
    | .gt => some below
    | .lt => some above
    | .eq => some (if t.takesUpper below.digits then above else below)

/-- The value itself, with as many digits as it takes. -/
def exact (x : Binary) : Scaled :=
  ⟨x.m * twoTo x.q.toNat * Nat.pow 5 (-x.q).toNat, if x.q < 0 then x.q else 0⟩

/-- A shortest decimal that identifies a value other than zero: the first grid that has one, from the coarsest. -/
def shortest (x : Binary) (t : Tie) : Scaled :=
  ((List.range 17).findSome? fun (n : Nat) => x.onGrid? t (x.scale - (n + 1))).getD x.exact

end Binary

/-- The digits of `n`, the last one first. -/
def digitsReversed (n : Nat) : List Char :=
  Nat.digitChar (n % 10) :: if n < 10 then [] else digitsReversed (n / 10)
termination_by n

def digits (n : Nat) : List Char := (digitsReversed n).reverse

end ValueParcel.Decimal
