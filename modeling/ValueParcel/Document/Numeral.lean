import ValueParcel.Decimal.Layout
import ValueParcel.Decimal.Nearest
import ValueParcel.Document.Basic

/-!
Numerals: the literals of numbers in documents. A numeral is whole if it has neither a point nor an exponent. A whole
number of 64 bits keeps its digits in canonical text, and every other number is the double that it is taken for.
-/

namespace ValueParcel.Document

structure Numeral where
  isNegative : Bool
  /-- The digits before the point. -/
  whole : List Char
  /-- The digits behind the point, if there is one. -/
  fraction : Option (List Char)
  exponent : Option Int
  deriving DecidableEq, Repr

namespace Numeral

/-- Appends digits to a number as long as it stays below 2^64, and counts them. -/
def absorb (n : Nat) : List Char → Nat × Nat
  | [] => (n, 0)
  | c :: rest =>
    let next := 10 * n + (c.toNat - 48)
    if next < Decimal.twoTo 64 then
      let (last, count) := absorb next rest
      (last, count + 1)
    else (n, 0)

/-- The digits behind a point at the head, if there is one, and what follows them. -/
def readFraction? (cs : List Char) : Option (Option (List Char) × List Char) :=
  match cs with
  | '.' :: rest =>
    if (rest.takeWhile Char.isDigit).isEmpty then none
    else some (some (rest.takeWhile Char.isDigit), rest.dropWhile Char.isDigit)
  | _ => some (none, cs)

/-- Nothing, or a mark and an exponent up to the end. -/
def readExponent? (cs : List Char) : Option (Option Int) :=
  match cs with
  | [] => some none
  | mark :: rest =>
    if mark = 'e' ∨ mark = 'E' then
      match rest with
      | '-' :: rest => (digitsValue? rest).map fun n => some (-(n : Int))
      | '+' :: rest => (digitsValue? rest).map fun n => some (n : Int)
      | _ => (digitsValue? rest).map fun n => some (n : Int)
    else none

/-- A whole part without needless zeros, then a fraction and an exponent if there are any. -/
def read? (cs : List Char) : Option Numeral :=
  let (isNegative, cs) := match cs with
    | '-' :: rest => (true, rest)
    | _ => (false, cs)
  let whole := cs.takeWhile Char.isDigit
  match whole with
  | [] => none
  | '0' :: _ :: _ => none
  | _ => do
    let (fraction, rest) ← readFraction? (cs.dropWhile Char.isDigit)
    let exponent ← readExponent? rest
    return { isNegative, whole, fraction, exponent }

def isWhole (x : Numeral) : Bool := x.fraction.isNone && x.exponent.isNone

/-- A whole number with a sign in 64 bits, or one without a sign. The negative zero is none. -/
def isWord (x : Numeral) : Bool :=
  x.isWhole &&
    (let n := digitsValue x.whole
    if x.isNegative then decide (0 < n ∧ n ≤ Decimal.twoTo 63) else decide (n < Decimal.twoTo 64))

/-- The numeral without its sign; of its digits those that fit into 64 bits count. -/
def decimal (x : Numeral) : Decimal.Scaled :=
  let (n, wholeCount) := absorb 0 x.whole
  let (n, fractionCount) := absorb n (x.fraction.getD [])
  ⟨n, x.exponent.getD 0 + ((x.whole.length : Int) - (wholeCount : Int)) - (fractionCount : Int)⟩

/-- Doubles are written positionally from 10^-5 up to below 10^16; the sign of an exponent is always written. -/
def doubleLayout : Decimal.Layout :=
  { tie := .even
    positionalFrom := -5
    positionalBelow := 16
    exponentMark := 'e'
    positiveSign := ['+']
    notANumber := "null"
    infinity := "null" }

/-- The text that a number is written with; a literal that is too large for a double stays as it is. -/
def canonical (literal : String) : String :=
  match read? literal.toList with
  | none => literal
  | some x =>
    if x.isWord then literal
    else match Decimal.Format.double.ofDecimal? x.decimal with
      | none => literal
      | some value => (if x.isNegative then "-" else "") ++ String.ofList (doubleLayout.finite value)

end Numeral

end ValueParcel.Document
