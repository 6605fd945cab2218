import ValueParcel.Proofs.Encoding.Families
import ValueParcel.Proofs.Encoding.Filling
import ValueParcel.Proofs.Encoding.Validation

/-!
Casts in the code that reads a value. A family decides apart from its template whether the declared type calls for a
cast, and some templates have no place for one: with these a variable is read without the cast that it needs.
-/

namespace ValueParcel

open Operation (callText)
open Piece (hole)

/-- The code begins with a cast to the type, as it is spelled with the imports. -/
def Imports.BeginsWithCast (s : Imports) (t : JavaType) (code : String) : Prop :=
  ∃ rest, code = "(" ++ (s.render t).1 ++ ") " ++ rest

theorem Imports.BeginsWithCast.head?_eq {s : Imports} {t : JavaType} {code : String} (h : s.BeginsWithCast t code) :
    code.toList.head? = some '(' := by
  obtain ⟨rest, rfl⟩ := h
  simp

namespace Template

theorem exists_fillInTurn_beginsOn {receiver : Hole} {r method : String} {t : Template}
    (h : BeginsOn receiver method t) (hr : Text.Lacks '\x7b' r ∧ Text.Lacks '\x7d' r)
    (hm : IsFixed (callText method)) (values : List (Hole × String)) :
    ∃ rest, t.fillInTurn ((receiver, r) :: values) = r ++ "." ++ method ++ "(" ++ rest := by
  obtain ⟨first, after, rfl⟩ := h
  obtain ⟨xs, hx, he⟩ := fillText_receiver hr hm [] (first.toList ++ spelled after) values
  rw [hx rfl] at he
  refine ⟨String.ofList (fillText (first.toList ++ spelled after) ((receiver, r) :: values)), ?_⟩
  rw [fillInTurn_eq, ← String.toList_inj]
  simpa [callText] using he

/-- A hole at the head of the text is not touched by the filling of other holes. -/
theorem fillText_spelled_append {h : Hole} {values : List (Hole × String)} (hv : ∀ v ∈ values, v.1 ≠ h)
    (xs : List Char) : fillText (h.spelled ++ xs) values = h.spelled ++ fillText xs values := by
  induction values generalizing xs with
  | nil => rfl
  | cons v values ih =>
      obtain ⟨hne, hrest⟩ := List.forall_mem_cons.1 hv
      rw [fillText_cons, Text.replace_append (v.1.not_straddles h xs), Hole.replace_spelled_of_ne hne, ih hrest,
        fillText_cons]

theorem fillText_append (text : List Char) (values others : List (Hole × String)) :
    fillText text (values ++ others) = fillText (fillText text values) others :=
  List.foldl_append

theorem fillText_hole_append {h : Hole} {v : String} {values others : List (Hole × String)}
    (hv : ∀ v ∈ values, v.1 ≠ h) (xs : List Char) : fillText (h.spelled ++ xs) (values ++ (h, v) :: others) =
      fillText (v.toList ++ Text.replace h.spelled v.toList (fillText xs values)) others := by
  rw [fillText_append, fillText_spelled_append hv, fillText_cons, Text.replace_self_append h.spelled_ne_nil]

theorem fillText_parenthesized {w : List Char} {values : List (Hole × String)}
    (h : ∀ v ∈ values, ¬ v.1.spelled <:+: w) (xs : List Char) :
    fillText ('(' :: (w ++ ')' :: ' ' :: xs)) values = '(' :: (w ++ ')' :: ' ' :: fillText xs values) := by
  have hopen := fillText_append_append (w := ['(']) (by decide) [] (w ++ ([')', ' '] ++ xs)) values
  have hclose := fillText_append_append (w := [')', ' ']) (by decide) w xs values
  rw [fillText_of_not_contained h] at hclose
  rwa [hclose, fillText_nil_text] at hopen

end Template

namespace Family

variable {f : Family} {t : JavaType}

/-- The families whose code has no place for a cast, primitive and boxing ones apart. -/
def castless : List Family := [
  booleanArray, byteArray, charArray, intArray, longArray, stringArray, parcelableArray, objectArray,
  sparseBooleanArray, bundle, persistableBundle, size, sizeF]

/-- The holes that are filled behind the one of the cast. -/
def lateHoles : List Hole := [.raw, .typeArguments, .helper]

theorem beginsOn_of_castless (h : f ∈ castless) : f.encoding.read.BeginsOn .source f.operation.readMethod := by
  cases f with
  | booleanArray | byteArray | charArray | intArray | longArray | stringArray | sparseBooleanArray | size | sizeF =>
      exact Encoding.beginsOn_plainRead _
  | parcelableArray | objectArray | bundle | persistableBundle => exact Encoding.beginsOn_loaderRead _
  | primitive k | boxed k => cases k <;> exact absurd h (by decide)
  | _ => exact absurd h (by decide)

theorem isVariable_of_castless (h : f ∈ castless) (hc : f.needsCast t = true) : t.isVariable = true := by
  have hn : ∀ f ∈ castless, f.encoding.cast = .never := by decide
  rw [needsCast, hn f h, Bool.false_or, Bool.and_eq_true] at hc
  exact hc.1

theorem exists_read_eq_cast (h : f ∉ castless) (hc : f.needsCast t = true) :
    ∃ rest, f.encoding.read = hole .cast :: rest := by
  cases f with
  | primitive k | boxed k =>
      cases k <;>
        simp [needsCast, isPrimitive, encoding, Encoding.ofFamily, Encoding.ofPrimitive, Encoding.simple] at hc
  | string | charSequence | parcelable | map | list | immutableCollection | immutableMap | strongBinder | serializable
  | sparseArray | enum | value => exact ⟨_, rfl⟩
  | _ => exact absurd (by decide) h

/-- The cast stands where the template has it, and what is filled in later leaves it alone. -/
theorem beginsWithCast_of_read_eq {rest : Template} (hr : f.encoding.read = hole .cast :: rest)
    (hc : f.needsCast t = true) {s : Imports} (hn : ∀ h ∈ lateHoles, ¬ h.spelled <:+: (s.render t).1.toList) :
    s.BeginsWithCast t (f.readExpression s t).1 := by
  let late := (f.readValues s t).1.drop 3
  have hlate : ∀ v ∈ late, ¬ v.1.spelled <:+: (s.render t).1.toList := by
    have hmap : late.map (·.1) = lateHoles := rfl
    intro v hv
    exact hn v.1 (hmap ▸ List.mem_map_of_mem hv)
  have hcast : (f.castText s t).1 = "(" ++ (s.render t).1 ++ ") " := by simp [castText, hc]
  have htext : (f.readExpression s t).1 = String.ofList (Template.fillText (Hole.cast.spelled ++ Template.spelled rest)
      ([(.source, Encoding.sourceName), (.loader, Encoding.loaderName)] ++ (.cast, (f.castText s t).1) :: late)) := by
    rw [← Template.spelled_hole_cons, ← hr]
    rfl
  rw [htext, Template.fillText_hole_append (by decide), hcast]
  generalize Text.replace _ _ _ = ys
  refine ⟨String.ofList (Template.fillText ys late), ?_⟩
  rw [← String.toList_inj]
  simp [Template.fillText_parenthesized hlate]

theorem exists_readExpression_beginsOn (h : f.encoding.read.BeginsOn .source f.operation.readMethod) (s : Imports)
    (t : JavaType) : ∃ rest, (f.readExpression s t).1 = "in." ++ rest := by
  have hs : Text.Lacks '\x7b' Encoding.sourceName ∧ Text.Lacks '\x7d' Encoding.sourceName := by decide
  obtain ⟨rest, hr⟩ := Template.exists_fillInTurn_beginsOn h hs f.operation.isFixed_readMethod
    ((f.readValues s t).1.drop 1)
  have ht : (f.readExpression s t).1 =
      f.encoding.read.fillInTurn ((.source, Encoding.sourceName) :: (f.readValues s t).1.drop 1) := rfl
  refine ⟨f.operation.readMethod ++ "(" ++ rest, ?_⟩
  rw [ht, hr, ← String.toList_inj]
  simp [Encoding.sourceName]

end Family

theorem Imports.not_beginsWithCast (s : Imports) (t : JavaType) (rest : String) :
    ¬ s.BeginsWithCast t ("in." ++ rest) := by
  intro h
  simpa using h.head?_eq

namespace Registry

open Family (castless lateHoles)

variable {r : Registry} {t : JavaType} {f : Family}

/-- Where the declared type calls for a cast the code that reads begins with it, unless the type is a bounded variable
and its bound has one of the families without a place for a cast. That the spelling of the type has a hole in it is
ruled out: it would be filled like those of the template. -/
theorem cast_isWritten_iff (hv : r.validate t = .ok f) (hc : f.needsCast t = true) (s : Imports)
    (hn : ∀ h ∈ lateHoles, ¬ h.spelled <:+: (s.render t).1.toList) :
    (s.BeginsWithCast t (f.readExpression s t).1 ↔ f ∉ castless) ∧
    (f ∈ castless → ∃ n b, t = .bounded n b ∧ r.validate b = .ok f) := by
  refine ⟨⟨fun h hm => ?missing, fun hm => ?written⟩, fun hm => ?bounded⟩
  case missing =>
    obtain ⟨rest, hr⟩ := Family.exists_readExpression_beginsOn (Family.beginsOn_of_castless hm) s t
    exact s.not_beginsWithCast t rest (hr ▸ h)
  case written =>
    obtain ⟨rest, hr⟩ := Family.exists_read_eq_cast hm hc
    exact Family.beginsWithCast_of_read_eq hr hc hn
  case bounded =>
    have hvar := Family.isVariable_of_castless hm hc
    cases t with
    | free n => cases hv
    | bounded n b => exact ⟨n, b, rfl, hv⟩
    | _ => cases hvar

/-- A variable that stands for parcelables is read with a cast to it. -/
theorem cast_isWritten_parcelable :
    let t := JavaType.bounded "P" (.raw WellKnown.parcelable)
    let s : Imports := { package := "test", reserved := ["P"] }
    (ofList [.ofInterface WellKnown.parcelable]).validate t = .ok .parcelable ∧
      s.BeginsWithCast t (Family.parcelable.readExpression s t).1 := by
  intro t s
  have hd : (ofList [.ofInterface WellKnown.parcelable]).find? WellKnown.parcelable = some (.ofInterface _) := rfl
  have hf : (ofList [.ofInterface WellKnown.parcelable]).classify t.resolve = some .parcelable :=
    classify_of_ofClass? hd rfl (by decide) (by decide) (by decide)
  have hv := validate_of_plain hf rfl
  have ht : Family.parcelable.needsCast t = true := by decide
  obtain ⟨hw, -⟩ := cast_isWritten_iff hv ht s (by decide +kernel)
  exact ⟨hv, hw.2 (by decide)⟩

/-- A bundle is read without a cast to the variable that stands for it. -/
theorem cast_of_bundle_isMissing :
    let t := JavaType.bounded "T" (.raw WellKnown.bundle)
    let s : Imports := { package := "test", reserved := ["T"] }
    (ofList [.ofClass WellKnown.bundle]).validate t = .ok .bundle ∧ Family.bundle.needsCast t = true ∧
      (Family.bundle.readExpression s t).1 = "in.readBundle(cl)" ∧
      ¬ s.BeginsWithCast t (Family.bundle.readExpression s t).1 := by
  intro t s
  have hd : (ofList [.ofClass WellKnown.bundle]).find? WellKnown.bundle = some (.ofClass _) := rfl
  have hf : (ofList [.ofClass WellKnown.bundle]).classify t.resolve = some .bundle :=
    classify_of_ofClass? hd rfl (by decide) (by decide) (by decide)
  have hr : (Family.bundle.readExpression s t).1 = "in." ++ "readBundle(cl)" := by decide +kernel
  refine ⟨validate_of_plain hf rfl, by decide, hr, ?_⟩
  rw [hr]
  exact s.not_beginsWithCast t "readBundle(cl)"

end Registry

end ValueParcel
