import ValueParcel.Parcel.Encoding

/-!
A parcel in memory: the bytes of the records written to it and the place of the next one to be read. What one
operation wrote has to be read by the operation that belongs to it.
-/

namespace ValueParcel

structure Parcel where
  data : List UInt8 := []
  /-- The number of bytes that have been read. -/
  position : Nat := 0
  deriving Repr

namespace Parcel

inductive Fault
  | tagMismatch (expected found : String)
  | endOfParcel
  | invalidFlag (flag : Int32)
  /-- The bytes hold no record. -/
  | malformed
  deriving DecidableEq, Repr

def Fault.message : Fault → String
  | tagMismatch expected found => "expected a value written by " ++ expected ++ ", found " ++ found
  | endOfParcel => "unexpected end of parcel"
  | invalidFlag flag => "invalid presence flag " ++ toString flag.toInt
  | malformed => "malformed record"

def intTag : String := "int"

/-- The record of a value behind those there are. -/
def write (p : Parcel) (tag : String) (v : Value) : Parcel :=
  { p with data := p.data ++ (Record.mk tag v).encode }

/-- The next value, if it stands under the tag; the place moves on in either case. -/
def read (p : Parcel) (tag : String) : Except Fault Value × Parcel :=
  if p.position ≥ p.data.length then (.error .endOfParcel, p)
  else match Record.decode (p.data.drop p.position) with
    | none => (.error .malformed, p)
    | some (record, rest) =>
      let p := { p with position := p.data.length - rest.length }
      if record.tag = tag then (.ok record.value, p) else (.error (.tagMismatch tag record.tag), p)

def writeInt (p : Parcel) (v : Int32) : Parcel := p.write intTag (.int v)

def readInt (p : Parcel) : Except Fault Int32 × Parcel :=
  match p.read intTag with
  | (.ok (.int v), p) => (.ok v, p)
  | (.ok other, p) => (.error (.tagMismatch intTag other.display), p)
  | (.error e, p) => (.error e, p)

/-- A flag: 0 if a value follows and 1 if it is absent. -/
def writePresence (p : Parcel) (present : Bool) : Parcel := p.writeInt (if present then 0 else 1)

def readPresence (p : Parcel) : Except Fault Bool × Parcel :=
  match p.readInt with
  | (.ok flag, p) =>
    (if flag = 0 then .ok true else if flag = 1 then .ok false else .error (.invalidFlag flag), p)
  | (.error e, p) => (.error e, p)

def rewind (p : Parcel) : Parcel := { p with position := 0 }

def isExhausted (p : Parcel) : Bool := p.position ≥ p.data.length

def size (p : Parcel) : Nat := p.data.length

end Parcel

end ValueParcel
