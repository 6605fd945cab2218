import ValueParcel.JavaType.Basic

/-!
Families of encodings: the ways in which a value can be written to a parcel, and the pairs of parcel operations that
they use.
-/

namespace ValueParcel

inductive Family
  | primitive (kind : Primitive)
  | boxed (kind : Primitive)
  | string
  | charSequence
  | parcelable
  | map
  | list
  | immutableCollection
  | immutableMap
  | booleanArray
  | byteArray
  | charArray
  | intArray
  | longArray
  | stringArray
  | parcelableArray
  | objectArray
  | strongBinder
  | serializable
  | sparseArray
  | sparseBooleanArray
  | bundle
  | persistableBundle
  | size
  | sizeF
  | enum
  /-- Values of which only the parcel knows how to write them. -/
  | value
  deriving DecidableEq, Repr

namespace Family

/-- The families that no kind of primitive type tells apart. -/
def plain : List Family := [
  string, charSequence, parcelable, map, list, immutableCollection, immutableMap, booleanArray, byteArray, charArray,
  intArray, longArray, stringArray, parcelableArray, objectArray, strongBinder, serializable, sparseArray,
  sparseBooleanArray, bundle, persistableBundle, size, sizeF, enum, value]

def all : List Family := Primitive.all.map primitive ++ Primitive.all.map boxed ++ plain

/-- The classes that have a family of their own, boxing classes apart. -/
def named : List (String × Family) := [
  (WellKnown.string, string),
  (WellKnown.charSequence, charSequence),
  (WellKnown.parcelable, parcelable),
  (WellKnown.map, map),
  (WellKnown.list, list),
  (WellKnown.immutableCollection, immutableCollection),
  (WellKnown.immutableMap, immutableMap),
  (WellKnown.binder, strongBinder),
  (WellKnown.serializable, serializable),
  (WellKnown.sparseArray, sparseArray),
  (WellKnown.sparseBooleanArray, sparseBooleanArray),
  (WellKnown.bundle, bundle),
  (WellKnown.persistableBundle, persistableBundle),
  (WellKnown.size, size),
  (WellKnown.sizeF, sizeF)]

/-- The family that a class names, if it has one. -/
def ofClass? (name : String) : Option Family :=
  match Primitive.ofBoxedName? name with
  | some k => some (boxed k)
  | none => named.lookup name

/-- The family of arrays for which the parcel has an operation of its own. -/
def ofComponent? : JavaType → Option Family
  | .primitive .boolean => some booleanArray
  | .primitive .byte => some byteArray
  | .primitive .char => some charArray
  | .primitive .int => some intArray
  | .primitive .long => some longArray
  | .declared name [] =>
    if name = WellKnown.string then some stringArray
    else if name = WellKnown.parcelable then some parcelableArray
    else if name = WellKnown.object then some objectArray
    else none
  | _ => none

def isMap : Family → Bool
  | map | immutableMap => true
  | _ => false

/-- The name of a family without a kind; the name of the kind of families otherwise. -/
def name : Family → String
  | primitive _ => "Primitive"
  | boxed _ => "Boxed"
  | string => "String"
  | charSequence => "CharSequence"
  | parcelable => "Parcelable"
  | map => "Map"
  | list => "List"
  | immutableCollection => "ImmutableCollection"
  | immutableMap => "ImmutableMap"
  | booleanArray => "BooleanArray"
  | byteArray => "ByteArray"
  | charArray => "CharArray"
  | intArray => "IntArray"
  | longArray => "LongArray"
  | stringArray => "StringArray"
  | parcelableArray => "ParcelableArray"
  | objectArray => "ObjectArray"
  | strongBinder => "StrongBinder"
  | serializable => "Serializable"
  | sparseArray => "SparseArray"
  | sparseBooleanArray => "SparseBooleanArray"
  | bundle => "Bundle"
  | persistableBundle => "PersistableBundle"
  | size => "Size"
  | sizeF => "SizeF"
  | enum => "Enum"
  | value => "Value"

end Family

/-- A read and a write operation of the parcel that belong together. -/
inductive Operation
  | byte
  | int
  | long
  | float
  | double
  | string
  | charSequence
  | parcelable
  | parcelableArray
  | map
  | list
  | booleanArray
  | byteArray
  | charArray
  | intArray
  | longArray
  | stringArray
  | array
  | strongBinder
  | serializable
  | sparseArray
  | sparseBooleanArray
  | bundle
  | persistableBundle
  | size
  | sizeF
  | value
  /-- Reading and writing is left to an adapter. -/
  | adapter
  deriving DecidableEq, Repr

namespace Operation

def all : List Operation := [
  byte, int, long, float, double, string, charSequence, parcelable, parcelableArray, map, list, booleanArray,
  byteArray, charArray, intArray, longArray, stringArray, array, strongBinder, serializable, sparseArray,
  sparseBooleanArray, bundle, persistableBundle, size, sizeF, value, adapter]

def name : Operation → String
  | byte => "Byte"
  | int => "Int"
  | long => "Long"
  | float => "Float"
  | double => "Double"
  | string => "String"
  | charSequence => "CharSequence"
  | parcelable => "Parcelable"
  | parcelableArray => "ParcelableArray"
  | map => "Map"
  | list => "List"
  | booleanArray => "BooleanArray"
  | byteArray => "ByteArray"
  | charArray => "CharArray"
  | intArray => "IntArray"
  | longArray => "LongArray"
  | stringArray => "StringArray"
  | array => "Array"
  | strongBinder => "StrongBinder"
  | serializable => "Serializable"
  | sparseArray => "SparseArray"
  | sparseBooleanArray => "SparseBooleanArray"
  | bundle => "Bundle"
  | persistableBundle => "PersistableBundle"
  | size => "Size"
  | sizeF => "SizeF"
  | value => "Value"
  | adapter => "Adapter"

def readMethod : Operation → String
  | byte => "readByte"
  | int => "readInt"
  | long => "readLong"
  | float => "readFloat"
  | double => "readDouble"
  | string => "readString"
  | charSequence => "createFromParcel"
  | parcelable => "readParcelable"
  | parcelableArray => "readParcelableArray"
  | map => "readHashMap"
  | list => "readArrayList"
  | booleanArray => "createBooleanArray"
  | byteArray => "createByteArray"
  | charArray => "createCharArray"
  | intArray => "createIntArray"
  | longArray => "createLongArray"
  | stringArray => "createStringArray"
  | array => "readArray"
  | strongBinder => "readStrongBinder"
  | serializable => "readSerializable"
  | sparseArray => "readSparseArray"
  | sparseBooleanArray => "readSparseBooleanArray"
  | bundle => "readBundle"
  | persistableBundle => "readPersistableBundle"
  | size => "readSize"
  | sizeF => "readSizeF"
  | value => "readValue"
  | adapter => "fromParcel"

def writeMethod : Operation → String
  | byte => "writeByte"
  | int => "writeInt"
  | long => "writeLong"
  | float => "writeFloat"
  | double => "writeDouble"
  | string => "writeString"
  | charSequence => "writeToParcel"
  | parcelable => "writeParcelable"
  | parcelableArray => "writeParcelableArray"
  | map => "writeMap"
  | list => "writeList"
  | booleanArray => "writeBooleanArray"
  | byteArray => "writeByteArray"
  | charArray => "writeCharArray"
  | intArray => "writeIntArray"
  | longArray => "writeLongArray"
  | stringArray => "writeStringArray"
  | array => "writeArray"
  | strongBinder => "writeStrongBinder"
  | serializable => "writeSerializable"
  | sparseArray => "writeSparseArray"
  | sparseBooleanArray => "writeSparseBooleanArray"
  | bundle => "writeBundle"
  | persistableBundle => "writePersistableBundle"
  | size => "writeSize"
  | sizeF => "writeSizeF"
  | value => "writeValue"
  | adapter => "toParcel"

end Operation

end ValueParcel
