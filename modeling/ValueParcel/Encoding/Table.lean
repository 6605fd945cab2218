import ValueParcel.Encoding.Family
import ValueParcel.Encoding.Template
import ValueParcel.Source.Imports

/-! The encoding of each family: the operation it uses, and the code that reads and writes a value. -/

namespace ValueParcel

/-- Whether what is read has to be cast to the declared type. -/
inductive CastRule
  | never
  | always
  /-- Unless the declared type is this class, without arguments. -/
  | unlessExact (name : String)
  deriving DecidableEq, Repr

structure Encoding where
  operation : Operation
  read : Template
  write : Template
  cast : CastRule := .never
  /-- A class whose static methods the code calls. -/
  helper : Option String := none
  /-- Reading takes a class loader. -/
  usesLoader : Bool := false
  /-- Reading a type with arguments, or a variable, is an unchecked cast. -/
  unchecked : Bool := false
  /-- The operation itself can write `null`. -/
  nativelyNullable : Bool := false
  deriving Repr

namespace Encoding

open Piece (text hole)

/-- The names of parameters and locals of the generated methods. -/
def sourceName : String := "in"
def targetName : String := "dest"
def flagsName : String := "flags"
def loaderName : String := "cl"

/-- Reads with a method of the parcel that takes no argument. -/
def plainRead (method : String) : Template := [hole .source, text ("." ++ method ++ "()")]

/-- Reads with a method of the parcel that takes the class loader. -/
def loaderRead (method : String) : Template :=
  [hole .source, text ("." ++ method ++ "("), hole .loader, text ")"]

/-- Writes with a method of the parcel that takes the value. -/
def plainWrite (method : String) : Template :=
  [hole .target, text ("." ++ method ++ "("), hole .value, text ")"]

/-- Writes with a method of the parcel that takes the value and the flags. -/
def flagsWrite (method : String) : Template :=
  [hole .target, text ("." ++ method ++ "("), hole .value, text ", ", hole .flags, text ")"]

/-- Both methods of the operation without further ado. -/
def simple (operation : Operation) : Encoding :=
  { operation, read := plainRead operation.readMethod, write := plainWrite operation.writeMethod }

/-- Booleans, characters and short integers travel as integers. -/
def ofPrimitive (boxed : Bool) : Primitive → Encoding
  | .boolean =>
    { operation := .int
      read := [hole .source, text ".readInt() == 1"]
      write := [hole .target, text ".writeInt(", hole .value, text " ? 1 : 0)"] }
  | .byte => simple .byte
  | .short =>
    { operation := .int
      read := [text "(short) ", hole .source, text ".readInt()"]
      write :=
        if boxed then [hole .target, text ".writeInt(", hole .value, text ".intValue())"]
        else plainWrite "writeInt" }
  | .char =>
    { operation := .int
      read := [text "(char) ", hole .source, text ".readInt()"]
      write := plainWrite "writeInt" }
  | .int => simple .int
  | .long => simple .long
  | .float => simple .float
  | .double => simple .double

def ofFamily : Family → Encoding
  | .primitive k => ofPrimitive false k
  | .boxed k => ofPrimitive true k
  | .string =>
    { operation := .string
      read := hole .cast :: plainRead "readString"
      write := plainWrite "writeString" }
  | .charSequence =>
    { operation := .charSequence
      read := [hole .cast, hole .helper, text ".CHAR_SEQUENCE_CREATOR.createFromParcel(", hole .source, text ")"]
      write := [hole .helper, text ".writeToParcel(", hole .value, text ", ", hole .target, text ", ", hole .flags,
        text ")"]
      helper := some WellKnown.textUtils
      cast := .unlessExact WellKnown.charSequence }
  | .parcelable =>
    { operation := .parcelable
      read := hole .cast :: loaderRead "readParcelable"
      write := flagsWrite "writeParcelable"
      usesLoader := true, unchecked := true, nativelyNullable := true
      cast := .unlessExact WellKnown.parcelable }
  | .map =>
    { operation := .map
      read := hole .cast :: loaderRead "readHashMap"
      write := plainWrite "writeMap"
      usesLoader := true, unchecked := true, nativelyNullable := true
      cast := .always }
  | .list =>
    { operation := .list
      read := hole .cast :: loaderRead "readArrayList"
      write := plainWrite "writeList"
      usesLoader := true, unchecked := true, nativelyNullable := true
      cast := .always }
  | .immutableCollection =>
    { operation := .list
      read := [hole .cast, hole .raw, text ".", hole .typeArguments, text "copyOf("] ++
        loaderRead "readArrayList" ++ [text ")"]
      write := [hole .target, text ".writeList(", hole .value, text ".asList())"]
      usesLoader := true, unchecked := true }
  | .immutableMap =>
    { operation := .map
      read := [hole .cast, hole .raw, text ".", hole .typeArguments, text "copyOf("] ++
        loaderRead "readHashMap" ++ [text ")"]
      write := plainWrite "writeMap"
      usesLoader := true, unchecked := true }
  | .booleanArray => simple .booleanArray
  | .byteArray => simple .byteArray
  | .charArray => simple .charArray
  | .intArray => simple .intArray
  | .longArray => simple .longArray
  | .stringArray => simple .stringArray
  | .parcelableArray =>
    { operation := .parcelableArray
      read := loaderRead "readParcelableArray"
      write := flagsWrite "writeParcelableArray"
      usesLoader := true }
  | .objectArray =>
    { operation := .array
      read := loaderRead "readArray"
      write := plainWrite "writeArray"
      usesLoader := true }
  | .strongBinder =>
    { operation := .strongBinder
      read := hole .cast :: plainRead "readStrongBinder"
      write := plainWrite "writeStrongBinder"
      cast := .unlessExact WellKnown.binder }
  | .serializable =>
    { operation := .serializable
      read := hole .cast :: plainRead "readSerializable"
      write := plainWrite "writeSerializable"
      unchecked := true
      cast := .unlessExact WellKnown.serializable }
  | .sparseArray =>
    { operation := .sparseArray
      read := hole .cast :: loaderRead "readSparseArray"
      write := plainWrite "writeSparseArray"
      usesLoader := true, nativelyNullable := true }
  | .sparseBooleanArray => { simple .sparseBooleanArray with nativelyNullable := true }
  | .bundle =>
    { operation := .bundle
      read := loaderRead "readBundle"
      write := plainWrite "writeBundle"
      usesLoader := true, nativelyNullable := true }
  | .persistableBundle =>
    { operation := .persistableBundle
      read := loaderRead "readPersistableBundle"
      write := plainWrite "writePersistableBundle"
      usesLoader := true, nativelyNullable := true }
  | .size => simple .size
  | .sizeF => simple .sizeF
  | .enum =>
    { operation := .string
      read := [hole .cast, hole .helper, text ".valueOf(", hole .raw, text ".class, "] ++ plainRead "readString" ++
        [text ")"]
      write := [hole .target, text ".writeString(", hole .value, text ".name())"]
      helper := some WellKnown.enum }
  | .value =>
    { operation := .value
      read := hole .cast :: loaderRead "readValue"
      write := plainWrite "writeValue"
      usesLoader := true, unchecked := true, nativelyNullable := true
      cast := .unlessExact WellKnown.object }

end Encoding

namespace Family

/-- Values of primitive types, boxed or not, are read as what they are. -/
def isPrimitive : Family → Bool
  | primitive _ | boxed _ => true
  | _ => false

def encoding (f : Family) : Encoding := .ofFamily f

def operation (f : Family) : Operation := f.encoding.operation

/-- Whether what is read is cast to the declared type. -/
def needsCast (f : Family) (declared : JavaType) : Bool :=
  (match f.encoding.cast with
    | .never => false
    | .always => true
    | .unlessExact name => !declared.isExactly name)
  || (declared.isVariable && !f.isPrimitive)

/-- Whether reading a value of the declared type calls for a word against the compiler's warning. -/
def isUnchecked (f : Family) (declared : JavaType) : Bool :=
  f.encoding.unchecked && (declared.isParameterized || declared.isVariable)

def castText (f : Family) (s : Imports) (declared : JavaType) : String × Imports :=
  if f.needsCast declared then
    let (text, s) := s.render declared
    ("(" ++ text ++ ") ", s)
  else ("", s)

def helperText (f : Family) (s : Imports) : String × Imports :=
  match f.encoding.helper with
  | some name => s.spell name
  | none => ("", s)

/-- What stands in the holes of the read template, in the order in which they are filled. -/
def readValues (f : Family) (s : Imports) (declared : JavaType) : List (Hole × String) × Imports :=
  let resolved := declared.resolve
  let (cast, s) := f.castText s declared
  let (arguments, s) := s.renderList resolved.arguments
  let (raw, s) := s.render resolved.erasure
  let (helper, s) := f.helperText s
  ([(.source, Encoding.sourceName), (.loader, Encoding.loaderName), (.cast, cast), (.raw, raw),
    (.typeArguments, Text.angled arguments), (.helper, helper)], s)

/-- What stands in the holes of the write template, in the order in which they are filled. -/
def writeValues (f : Family) (s : Imports) (accessor : String) : List (Hole × String) × Imports :=
  let (helper, s) := f.helperText s
  ([(.target, Encoding.targetName), (.flags, Encoding.flagsName), (.value, accessor), (.helper, helper)], s)

/-- The expression that reads a value of the declared type. -/
def readExpression (f : Family) (s : Imports) (declared : JavaType) : String × Imports :=
  let (values, s) := f.readValues s declared
  (f.encoding.read.fillInTurn values, s)

/-- The statement that writes what the accessor gives, without a semicolon. -/
def writeStatement (f : Family) (s : Imports) (accessor : String) : String × Imports :=
  let (values, s) := f.writeValues s accessor
  (f.encoding.write.fillInTurn values, s)

end Family

end ValueParcel
