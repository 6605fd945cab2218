import ValueParcel.Layout.Margin

/-! Options of the generator. -/

namespace ValueParcel

/-- What becomes of a class with properties that cannot be written. -/
inductive FailureMode
  /-- The first of them ends the work. -/
  | strict
  /-- All of them are reported, and the class is passed over. -/
  | soft
  deriving DecidableEq, Repr

structure Config where
  failureMode : FailureMode := .soft
  /-- Documentation by the qualified names of value classes. -/
  comments : List (String × String) := []
  indent : Indent := .spaces 2
  deriving Repr

end ValueParcel
