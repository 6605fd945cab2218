import ValueParcel.JavaType.Grammar
import ValueParcel.JavaType.Printer

/-!
Reading a type from its text. The tokens pass one by one through a machine that keeps what is still open: the
variables that wait for their bounds and the classes that wait for the rest of their arguments.
-/

namespace ValueParcel.JavaType

/-- What is wrong with a text that is no type. -/
inductive Complaint
  | noName
  | missing (c : Char)
  | unexpected (c : Char)
  deriving DecidableEq, Repr

/-- The text, what is wrong with it, and how many characters stand before the fault. -/
structure ReadError where
  input : String
  complaint : Complaint
  offset : Nat
  deriving DecidableEq, Repr

def Complaint.message : Complaint → String
  | noName => "expected a type name"
  | missing c => "expected '" ++ String.singleton c ++ "'"
  | unexpected c => "unexpected character '" ++ String.singleton c ++ "'"

def ReadError.message (e : ReadError) : String :=
  "Failed to parse type `" ++ e.input ++ "`: " ++ e.complaint.message ++ " at offset " ++ toString e.offset

/-- A type that has been begun and waits for a part of it. -/
inductive Frame
  /-- A variable that waits for its bound. -/
  | bound (name : String)
  /-- A class that waits for an argument, and the arguments it has. -/
  | arguments (name : String) (before : List JavaType)
  deriving Repr

/-- How far the type on top has come. -/
inductive Stage
  /-- It is to start with a name. -/
  | start
  /-- Its name has been read: arguments or a bound may follow. -/
  | head (t : JavaType)
  /-- Only brackets may follow. -/
  | whole (t : JavaType)
  /-- A bracket is open. -/
  | bracket (t : JavaType)
  deriving Repr

def Stage.ofName (word : String) : Stage :=
  if word = "void" then .whole void
  else match Primitive.ofKeyword? word with
    | some k => .whole (primitive k)
    | none => if word.toList.contains '.' then .head (raw word) else .head (free word)

/-- The type on top is complete and `token` follows: it goes to the frame that waits for it. -/
def deliver (t : JavaType) (token : Token) : List Frame → Except (Complaint × Nat) (List Frame × Stage)
  | [] => .error (.unexpected token.lexeme.first, token.offset)
  | .bound n :: frames => deliver (bounded n t) token frames
  | .arguments n before :: frames =>
    if token.lexeme = .sign ',' then .ok (.arguments n (before ++ [t]) :: frames, .start)
    else if token.lexeme = .sign '>' then .ok (frames, .whole (declared n (before ++ [t])))
    else .error (.missing '>', token.offset)

def continueWith (frames : List Frame) (t : JavaType) (token : Token) :
    Except (Complaint × Nat) (List Frame × Stage) :=
  if token.lexeme = .sign '[' then .ok (frames, .bracket t) else deliver t token frames

/-- One token. The word `extends` counts only if a blank or the end follows it. -/
def step (frames : List Frame) (stage : Stage) (token : Token) :
    Except (Complaint × Nat) (List Frame × Stage) :=
  match stage with
  | .start =>
    match token.lexeme with
    | .name word => .ok (frames, .ofName word)
    | .sign _ => .error (.noName, token.offset)
  | .head (free n) =>
    if token.lexeme = .name "extends" ∧ token.loose then .ok (.bound n :: frames, .start)
    else continueWith frames (free n) token
  | .head (declared n args) =>
    if token.lexeme = .sign '<' then .ok (.arguments n args :: frames, .start)
    else continueWith frames (declared n args) token
  | .head t | .whole t => continueWith frames t token
  | .bracket t =>
    if token.lexeme = .sign ']' then .ok (frames, .whole (array t)) else .error (.missing ']', token.offset)

def close (t : JavaType) : List Frame → Except Complaint JavaType
  | [] => .ok t
  | .bound n :: frames => close (bounded n t) frames
  | .arguments _ _ :: _ => .error (.missing '>')

def finish (frames : List Frame) : Stage → Except Complaint JavaType
  | .start => .error .noName
  | .head t | .whole t => close t frames
  | .bracket _ => .error (.missing ']')

/-- The tokens in order, then the end of the text at `stop`. -/
def run (stop : Nat) (frames : List Frame) (stage : Stage) : List Token → Except (Complaint × Nat) JavaType
  | [] => (finish frames stage).mapError (·, stop)
  | token :: rest =>
    match step frames stage token with
    | .error e => .error e
    | .ok (frames, stage) => run stop frames stage rest

def read (input : String) : Except ReadError JavaType :=
  (run input.length [] .start (tokens input.toList)).mapError
    fun (complaint, offset) => ⟨input, complaint, offset⟩

/-- Whether the descriptor of a type stands for that type. -/
def rereads (t : JavaType) : Except ReadError Bool :=
  (read t.descriptor).map (· = t)

end ValueParcel.JavaType
