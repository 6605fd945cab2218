/-!
The two source files that generated classes with adapters need: the annotation that names an adapter and the interface
that adapters implement.
-/

namespace ValueParcel.AdapterSources

def package : String := "com.parcelgen.adapter"

/-- The lines at the head of both installed files. -/
def headLines : List String := [
  "// Copyright (c) Facebook, Inc. and its affiliates",
  "// SPDX-License-Identifier: MIT OR Apache-2.0",
  "",
  "package com.parcelgen.adapter;",
  ""]

def annotationLines : List String := [
  "import java.lang.annotation.Documented;",
  "import java.lang.annotation.ElementType;",
  "import java.lang.annotation.Retention;",
  "import java.lang.annotation.RetentionPolicy;",
  "import java.lang.annotation.Target;",
  "",
  "/**",
  " * Selects the \x7b@link TypeAdapter\x7d used to write and read the annotated property.",
  " */",
  "@Documented",
  "@Target(ElementType.METHOD)",
  "@Retention(RetentionPolicy.SOURCE)",
  "public @interface ParcelAdapter \x7b",
  "  Class<? extends TypeAdapter<?>> value();",
  "\x7d"]

def interfaceLines : List String := [
  "import android.os.Parcel;",
  "",
  "/**",
  " * Custom encoding of a property value into a \x7b@link Parcel\x7d.",
  " *",
  " * <p>Implementations must provide a public no-argument constructor: generated classes keep a",
  " * single shared instance per adapter type.",
  " */",
  "public interface TypeAdapter<T> \x7b",
  "",
  "  /** Read a value previously written by \x7b@link #toParcel\x7d. */",
  "  T fromParcel(Parcel in);",
  "",
  "  /** Write \x7b@code value\x7d into \x7b@code dest\x7d. */",
  "  void toParcel(T value, Parcel dest);",
  "\x7d"]

def fileText (lines : List String) : String := String.join ((headLines ++ lines).map (· ++ "\n"))

def files : List (String × String) :=
  [("ParcelAdapter", fileText annotationLines), ("TypeAdapter", fileText interfaceLines)]

end ValueParcel.AdapterSources
