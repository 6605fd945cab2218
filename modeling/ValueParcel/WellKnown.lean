/-! Qualified names of the library classes that the generator knows by name. -/

namespace ValueParcel.WellKnown

def object : String := "java.lang.Object"
def string : String := "java.lang.String"
def charSequence : String := "java.lang.CharSequence"
def number : String := "java.lang.Number"
def enum : String := "java.lang.Enum"
def comparable : String := "java.lang.Comparable"
def classLoader : String := "java.lang.ClassLoader"
def serializable : String := "java.io.Serializable"

def collection : String := "java.util.Collection"
def list : String := "java.util.List"
def arrayList : String := "java.util.ArrayList"
def randomAccess : String := "java.util.RandomAccess"
def map : String := "java.util.Map"
def hashMap : String := "java.util.HashMap"
def date : String := "java.util.Date"

def parcelable : String := "android.os.Parcelable"
def parcelableCreator : String := "android.os.Parcelable.Creator"
def parcel : String := "android.os.Parcel"
def bundle : String := "android.os.Bundle"
def persistableBundle : String := "android.os.PersistableBundle"
def binder : String := "android.os.IBinder"
def size : String := "android.util.Size"
def sizeF : String := "android.util.SizeF"
def sparseArray : String := "android.util.SparseArray"
def sparseBooleanArray : String := "android.util.SparseBooleanArray"
def textUtils : String := "android.text.TextUtils"

def immutableCollection : String := "com.google.common.collect.ImmutableCollection"
def immutableList : String := "com.google.common.collect.ImmutableList"
def immutableSet : String := "com.google.common.collect.ImmutableSet"
def immutableMap : String := "com.google.common.collect.ImmutableMap"

def typeAdapter : String := "com.parcelgen.adapter.TypeAdapter"

end ValueParcel.WellKnown
