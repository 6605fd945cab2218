import ValueParcel.Decimal.Shortest

/-!
The values of a binary format that are nearest to given quotients, and the value that a decimal is taken for. Each
single step gives the nearest value, and of two as near the one with the even m; several steps may be off by more.
-/

namespace ValueParcel.Decimal

/-- The whole number nearest to n / d, of two as near the even one. -/
def nearestWhole (n d : Nat) : Nat :=
  let below := n / d
  match compare (2 * (n % d)) d with
  | .lt => below
  | .gt => below + 1
  | .eq => below + below % 2

namespace Format

/-- The greatest power of two by which a finite value counts. -/
def greatestExponent (f : Format) : Int := f.leastExponent + (twoTo f.exponentBits : Int) - 3

/-- The exponent of the greatest power of ten among the values. -/
def greatestTen (f : Format) : Nat := (digits (twoTo (f.bias + 1))).length - 1

/-- The value nearest to n / d, if exponents had no upper end. -/
def nearest (f : Format) (n d : Nat) : Binary :=
  let numerator (q : Int) : Nat := n * twoTo (-q).toNat
  let denominator (q : Int) : Nat := d * twoTo q.toNat
  let full := twoTo f.fractionBits
  let guess : Int := (Nat.log2 n : Int) - (Nat.log2 d : Int) - (f.fractionBits : Int)
  let fitting := if numerator guess / denominator guess < full then guess - 1 else guess
  let q := if fitting < f.leastExponent then f.leastExponent else fitting
  let m := nearestWhole (numerator q) (denominator q)
  if m = 2 * full then ⟨full, q + 1, true⟩ else ⟨m, q, m = full && f.leastExponent < q⟩

/-- The value nearest to 10^k. -/
def powerOfTen (f : Format) (k : Nat) : Binary := f.nearest (tenTo k) 1

def product (f : Format) (x y : Binary) : Binary :=
  f.nearest (x.m * y.m * twoTo (x.q + y.q).toNat) (twoTo (-(x.q + y.q)).toNat)

def quotient (f : Format) (x y : Binary) : Binary :=
  f.nearest (x.m * twoTo (x.q - y.q).toNat) (y.m * twoTo (y.q - x.q).toNat)

/-- The value divided by 10^k, in as many steps as there are powers of ten needed. -/
def dividedByTen (f : Format) (x : Binary) (k : Nat) : Binary :=
  if k ≤ f.greatestTen ∨ f.greatestTen = 0 then f.quotient x (f.powerOfTen k)
  else if x.m = 0 then x
  else f.dividedByTen (f.quotient x (f.powerOfTen f.greatestTen)) (k - f.greatestTen)
termination_by k

/-- The value that a decimal is taken for: its digits, and then a power of ten; none if that is too large. -/
def ofDecimal? (f : Format) (d : Scaled) : Option Binary :=
  let x := f.nearest d.digits 1
  if d.exponent < 0 then some (f.dividedByTen x d.exponent.natAbs)
  else if x.m = 0 then some x
  else if d.exponent.natAbs ≤ f.greatestTen then
    let y := f.product x (f.powerOfTen d.exponent.natAbs)
    if y.q ≤ f.greatestExponent then some y else none
  else none

end Format

end ValueParcel.Decimal
