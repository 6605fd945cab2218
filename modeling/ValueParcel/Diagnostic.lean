import ValueParcel.Declaration.Encoding

/-! Messages on declarations, and the log that keeps them in order. -/

namespace ValueParcel

inductive Severity
  | error
  | warning
  | note
  deriving DecidableEq, Repr

/-- A declaration by its name, or one of its members. -/
structure Place where
  owner : String
  member : Option String := none
  deriving DecidableEq, Repr

structure Diagnostic where
  severity : Severity
  message : String
  place : Place
  deriving DecidableEq, Repr

/-- Diagnostics in the order of their reports. -/
abbrev Log := List Diagnostic

namespace Severity

def all : List Severity := [error, warning, note]

def name : Severity → String
  | error => "Error"
  | warning => "Warning"
  | note => "Note"

end Severity

namespace Place

def display (p : Place) : String :=
  match p.member with
  | none => p.owner
  | some m => p.owner ++ "#" ++ m

def encode (p : Place) : Document :=
  .record (("class", .text p.owner) :: match p.member with
    | none => []
    | some m => [("member", .text m)])

end Place

namespace Diagnostic

def line (d : Diagnostic) : String := d.severity.name ++ ": " ++ d.place.display ++ ": " ++ d.message

def encode (d : Diagnostic) : Document :=
  .record [
    ("kind", .text d.severity.name),
    ("message", .text d.message),
    ("element", d.place.encode)]

end Diagnostic

namespace Log

def report (log : Log) (severity : Severity) (message : String) (place : Place) : Log :=
  log ++ [⟨severity, message, place⟩]

def errors (log : Log) : List Diagnostic := log.filter (·.severity = .error)

def hasErrors (log : Log) : Bool := !log.errors.isEmpty

end Log

end ValueParcel
