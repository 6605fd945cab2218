import ValueParcel.Encoding.Table
import ValueParcel.Proofs.Text.Lacks
import ValueParcel.Proofs.Text.Replacement

/-!
The calls in the code of an encoding. Whatever is filled into the holes of a template, the call of the parcel's method
stays where the template has it.
-/

namespace ValueParcel

/-! ## Parts of a template that filling leaves alone -/

namespace Hole

theorem not_mem_name (h : Hole) : '\x7b' ∉ h.name.toList ∧ '\x7d' ∉ h.name.toList := by cases h <;> decide

theorem not_mem_spelled (h : Hole) : '(' ∉ h.spelled ∧ ')' ∉ h.spelled := by cases h <;> decide

theorem brace_mem_spelled (h : Hole) : '\x7b' ∈ h.spelled := List.mem_cons_self ..

theorem spelled_ne_nil (h : Hole) : h.spelled ≠ [] := List.cons_ne_nil _ _

/-- Where a spelled hole is cut, the opening brace is on the left and the closing one on the right. -/
theorem braces_of_spelled_eq {h : Hole} {u v : List Char} (he : h.spelled = u ++ v) (hu : u ≠ []) (hv : v ≠ []) :
    '\x7b' ∈ u ∧ '\x7b' ∉ v ∧ '\x7d' ∈ v := by
  cases u with
  | nil => exact absurd rfl hu
  | cons c u =>
      obtain ⟨rfl, hr⟩ : '\x7b' = c ∧ h.name.toList ++ ['\x7d'] = u ++ v := by simpa [spelled] using he
      refine ⟨List.mem_cons_self .., ?_, ?_⟩
      · intro hm
        have hm : '\x7b' ∈ h.name.toList ++ ['\x7d'] := hr ▸ List.mem_append_right u hm
        simp [h.not_mem_name.1] at hm
      · have hl := congrArg List.getLast? hr
        rw [List.getLast?_concat, List.getLast?_append, List.getLast?_eq_some_getLast hv, Option.some_or] at hl
        exact Option.some.inj hl ▸ List.getLast_mem hv

end Hole

/-- Text that no hole can reach into: it has no braces, and it has a parenthesis. -/
def IsFixed (w : List Char) : Prop := '\x7b' ∉ w ∧ '\x7d' ∉ w ∧ ('(' ∈ w ∨ ')' ∈ w)

instance (w : List Char) : Decidable (IsFixed w) := inferInstanceAs (Decidable (_ ∧ _))

namespace IsFixed

open Text

variable {w xs ys : List Char} {h : Hole}

theorem not_straddles_before (hw : IsFixed w) : ¬ Straddles h.spelled xs (w ++ ys) := by
  rintro ⟨u, v, he, hu, hv, -, hy⟩
  obtain ⟨-, -, hb⟩ := Hole.braces_of_spelled_eq he hu hv
  rcases List.prefix_or_prefix_of_prefix hy (List.prefix_append w ys) with hl | hl
  · exact hw.2.1 (hl.subset hb)
  · have hsub : w ⊆ h.spelled := by
      rw [he]
      exact List.Subset.trans hl.subset (List.subset_append_right _ _)
    rcases hw.2.2 with hp | hp
    · exact h.not_mem_spelled.1 (hsub hp)
    · exact h.not_mem_spelled.2 (hsub hp)

theorem not_straddles_after (hw : IsFixed w) : ¬ Straddles h.spelled w ys := by
  rintro ⟨u, v, he, hu, hv, hx, -⟩
  exact hw.1 (hx.subset (Hole.braces_of_spelled_eq he hu hv).1)

theorem replace_eq (hw : IsFixed w) (h : Hole) (new : List Char) : replace h.spelled new w = w :=
  replaceFrom_of_not_mem hw.1

theorem replace_append_append (hw : IsFixed w) (h : Hole) (new xs ys : List Char) :
    replace h.spelled new (xs ++ (w ++ ys)) = replace h.spelled new xs ++ (w ++ replace h.spelled new ys) := by
  rw [replace_append hw.not_straddles_before, replace_append hw.not_straddles_after, hw.replace_eq]

end IsFixed

namespace Template

/-- The text with each listed hole replaced in turn. -/
def fillText (text : List Char) (values : List (Hole × String)) : List Char :=
  values.foldl (fun text (h, v) => Text.replace h.spelled v.toList text) text

theorem fillInTurn_eq (t : Template) (values : List (Hole × String)) :
    t.fillInTurn values = String.ofList (fillText t.spelled values) := rfl

theorem fillText_cons (text : List Char) (h : Hole) (v : String) (values : List (Hole × String)) :
    fillText text ((h, v) :: values) = fillText (Text.replace h.spelled v.toList text) values := rfl

@[simp] theorem fillText_nil_text (values : List (Hole × String)) : fillText [] values = [] := by
  induction values with
  | nil => rfl
  | cons hv values ih => rw [fillText_cons, Text.replace_nil_text, ih]

theorem fillText_append_append {w : List Char} (hw : IsFixed w) (xs ys : List Char)
    (values : List (Hole × String)) :
    fillText (xs ++ (w ++ ys)) values = fillText xs values ++ (w ++ fillText ys values) := by
  induction values generalizing xs ys with
  | nil => rfl
  | cons hv values ih => rw [fillText_cons, hw.replace_append_append, ih, fillText_cons, fillText_cons]

theorem fillText_of_not_contained {w : List Char} {values : List (Hole × String)}
    (h : ∀ v ∈ values, ¬ v.1.spelled <:+: w) : fillText w values = w := by
  induction values with
  | nil => rfl
  | cons v values ih =>
      obtain ⟨hv, hrest⟩ := List.forall_mem_cons.1 h
      rw [fillText_cons, Text.replace_of_not_contained hv, ih hrest]

theorem mem_fillText {text : List Char} {values : List (Hole × String)} {c : Char} (h : c ∈ fillText text values) :
    c ∈ text ∨ ∃ hv ∈ values, c ∈ hv.2.toList := by
  induction values generalizing text with
  | nil => exact .inl h
  | cons hv values ih =>
      rw [fillText_cons] at h
      rcases ih h with h | ⟨hv', hm, hc⟩
      · rcases Text.mem_of_mem_replace h with h | h
        · exact .inl h
        · exact .inr ⟨hv, List.mem_cons_self .., h⟩
      · exact .inr ⟨hv', List.mem_cons_of_mem _ hm, hc⟩

end Template

/-! ## Calls -/

/-- Somewhere in the code the method is called on the receiver. -/
def Calls (receiver method code : String) : Prop :=
  ∃ before after, code = before ++ receiver ++ "." ++ method ++ "(" ++ after

/-- The code is a call of the method on the receiver. -/
def IsCall (receiver method code : String) : Prop :=
  ∃ arguments, code = receiver ++ "." ++ method ++ "(" ++ arguments ++ ")"

namespace Operation

/-- The parcel itself has the methods; else a helper class or an adapter has them. -/
def isOwn : Operation → Bool
  | charSequence | adapter => false
  | _ => true

/-- The code calls the read method of the operation. -/
def IsRead (o : Operation) (code : String) : Prop :=
  ∃ receiver, Calls receiver o.readMethod code ∧ (o.isOwn = true → receiver = Encoding.sourceName)

/-- The code is a call of the write method of the operation. -/
def IsWrite (o : Operation) (code : String) : Prop :=
  ∃ receiver, IsCall receiver o.writeMethod code ∧ (o.isOwn = true → receiver = Encoding.targetName)

def callText (method : String) : List Char := '.' :: (method.toList ++ ['('])

theorem isFixed_readMethod (o : Operation) : IsFixed (callText o.readMethod) := by cases o <;> decide

theorem isFixed_writeMethod (o : Operation) : IsFixed (callText o.writeMethod) := by cases o <;> decide

end Operation

/-! ## Templates of calls -/

namespace Template

open Piece (text hole)

@[simp] theorem spelled_nil : spelled [] = [] := rfl

@[simp] theorem spelled_append (t u : Template) : spelled (t ++ u) = spelled t ++ spelled u := List.flatMap_append

@[simp] theorem spelled_text_cons (s : String) (t : Template) : spelled (text s :: t) = s.toList ++ spelled t :=
  List.flatMap_cons

@[simp] theorem spelled_hole_cons (h : Hole) (t : Template) : spelled (hole h :: t) = h.spelled ++ spelled t :=
  List.flatMap_cons

/-- The template begins with a call of the method on what fills the hole. -/
def BeginsOn (receiver : Hole) (method : String) (t : Template) : Prop :=
  ∃ first after, t = hole receiver :: text ("." ++ method ++ "(" ++ first) :: after

/-- Somewhere in the template the method is called on what fills the hole. -/
def CallsOn (receiver : Hole) (method : String) (t : Template) : Prop :=
  ∃ before rest after, t = before ++ hole receiver :: text ("." ++ method ++ "(" ++ rest) :: after

/-- The template is a call of the method on what fills the hole. -/
def IsCallOn (receiver : Hole) (method : String) (t : Template) : Prop :=
  ∃ first arguments last,
    t = hole receiver :: text ("." ++ method ++ "(" ++ first) :: (arguments ++ [text (last ++ ")")])

theorem BeginsOn.callsOn {receiver : Hole} {method : String} {t : Template} (h : BeginsOn receiver method t) :
    CallsOn receiver method t := by
  obtain ⟨first, after, rfl⟩ := h
  exact ⟨[], first, after, rfl⟩

theorem CallsOn.of_append {receiver : Hole} {method : String} {t : Template} (h : CallsOn receiver method t)
    (before after : Template) : CallsOn receiver method (before ++ t ++ after) := by
  obtain ⟨b, rest, a, rfl⟩ := h
  exact ⟨before ++ b, rest, a ++ after, by simp⟩

end Template

namespace Encoding

open Piece (text hole)
open Template (BeginsOn CallsOn IsCallOn)

theorem beginsOn_plainRead (method : String) : BeginsOn .source method (plainRead method) :=
  ⟨")", [], by simp [plainRead, String.append_assoc]⟩

theorem beginsOn_loaderRead (method : String) : BeginsOn .source method (loaderRead method) :=
  ⟨"", [hole .loader, text ")"], by simp [loaderRead]⟩

theorem callsOn_plainRead (method : String) : CallsOn .source method (plainRead method) :=
  (beginsOn_plainRead method).callsOn

theorem callsOn_loaderRead (method : String) : CallsOn .source method (loaderRead method) :=
  (beginsOn_loaderRead method).callsOn

theorem isCallOn_plainWrite (method : String) : IsCallOn .target method (plainWrite method) :=
  ⟨"", [hole .value], "", by simp [plainWrite]⟩

theorem isCallOn_flagsWrite (method : String) : IsCallOn .target method (flagsWrite method) :=
  ⟨"", [hole .value, text ", ", hole .flags], "", by simp [flagsWrite]⟩

theorem callsOn_ofPrimitive (boxed : Bool) (k : Primitive) :
    CallsOn .source (ofPrimitive boxed k).operation.readMethod (ofPrimitive boxed k).read := by
  cases k with
  | boolean => exact ⟨[], ") == 1", [], rfl⟩
  | short => exact (callsOn_plainRead "readInt").of_append [text "(short) "] []
  | char => exact (callsOn_plainRead "readInt").of_append [text "(char) "] []
  | _ => exact callsOn_plainRead _

theorem isCallOn_ofPrimitive (boxed : Bool) (k : Primitive) :
    IsCallOn .target (ofPrimitive boxed k).operation.writeMethod (ofPrimitive boxed k).write := by
  cases k with
  | boolean => exact ⟨"", [hole .value], " ? 1 : 0", rfl⟩
  | short =>
      cases boxed with
      | false => exact isCallOn_plainWrite "writeInt"
      | true => exact ⟨"", [hole .value], ".intValue()", rfl⟩
  | _ => exact isCallOn_plainWrite _

theorem callsOn_read (f : Family) (h : f.operation.isOwn = true) :
    CallsOn .source f.operation.readMethod f.encoding.read := by
  cases f with
  | primitive k => exact callsOn_ofPrimitive false k
  | boxed k => exact callsOn_ofPrimitive true k
  | charSequence => exact absurd h (by decide)
  | string => exact (callsOn_plainRead "readString").of_append [hole .cast] []
  | parcelable => exact (callsOn_loaderRead "readParcelable").of_append [hole .cast] []
  | map => exact (callsOn_loaderRead "readHashMap").of_append [hole .cast] []
  | list => exact (callsOn_loaderRead "readArrayList").of_append [hole .cast] []
  | immutableCollection => exact (callsOn_loaderRead "readArrayList").of_append _ [text ")"]
  | immutableMap => exact (callsOn_loaderRead "readHashMap").of_append _ [text ")"]
  | strongBinder => exact (callsOn_plainRead "readStrongBinder").of_append [hole .cast] []
  | serializable => exact (callsOn_plainRead "readSerializable").of_append [hole .cast] []
  | sparseArray => exact (callsOn_loaderRead "readSparseArray").of_append [hole .cast] []
  | enum => exact (callsOn_plainRead "readString").of_append _ [text ")"]
  | value => exact (callsOn_loaderRead "readValue").of_append [hole .cast] []
  | parcelableArray | objectArray | bundle | persistableBundle => exact callsOn_loaderRead _
  | _ => exact callsOn_plainRead _

theorem isCallOn_write (f : Family) (h : f.operation.isOwn = true) :
    IsCallOn .target f.operation.writeMethod f.encoding.write := by
  cases f with
  | primitive k => exact isCallOn_ofPrimitive false k
  | boxed k => exact isCallOn_ofPrimitive true k
  | charSequence => exact absurd h (by decide)
  | immutableCollection => exact ⟨"", [hole .value], ".asList()", rfl⟩
  | enum => exact ⟨"", [hole .value], ".name()", rfl⟩
  | parcelable | parcelableArray => exact isCallOn_flagsWrite _
  | _ => exact isCallOn_plainWrite _

end Encoding

/-! ## Filled templates -/

namespace Hole

open Text

theorem replace_append_spelled (h : Hole) (new xs ys : List Char) :
    replace h.spelled new (xs ++ (h.spelled ++ ys)) =
      replace h.spelled new xs ++ (new ++ replace h.spelled new ys) := by
  have hs : ¬ Straddles h.spelled xs (h.spelled ++ ys) := by
    rintro ⟨u, v, he, hu, hv, -, hy⟩
    cases v with
    | nil => exact hv rfl
    | cons c v =>
        obtain ⟨rfl, -⟩ : c = '\x7b' ∧ _ := List.cons_prefix_cons.1 hy
        exact (braces_of_spelled_eq he hu hv).2.1 (List.mem_cons_self ..)
  rw [replace_append hs, replace_self_append h.spelled_ne_nil]

end Hole

namespace Template

open Operation (callText)

/-- What is written into the receiver's hole stays in front of the call. -/
theorem fillText_receiver {receiver : Hole} {r method : String} (hr : Text.Lacks '\x7b' r ∧ Text.Lacks '\x7d' r)
    (hm : IsFixed (callText method)) (xs ys : List Char) (values : List (Hole × String)) :
    ∃ xs' : List Char, (xs = [] → xs' = []) ∧
      fillText (xs ++ (receiver.spelled ++ (callText method ++ ys))) ((receiver, r) :: values) =
        xs' ++ ((r.toList ++ callText method) ++ fillText ys ((receiver, r) :: values)) := by
  have hw : IsFixed (r.toList ++ callText method) := by
    refine ⟨?_, ?_, ?_⟩
    · exact fun h => (List.mem_append.1 h).elim hr.1 hm.1
    · exact fun h => (List.mem_append.1 h).elim hr.2 hm.2.1
    · exact hm.2.2.imp (List.mem_append_right _) (List.mem_append_right _)
  have hc : Text.replace receiver.spelled r.toList (callText method ++ ys) =
      callText method ++ Text.replace receiver.spelled r.toList ys := by
    simpa using hm.replace_append_append receiver r.toList [] ys
  refine ⟨fillText xs ((receiver, r) :: values), ?_, ?_⟩
  · rintro rfl
    exact fillText_nil_text _
  · rw [fillText_cons, fillText_cons, fillText_cons, Hole.replace_append_spelled, hc, ← List.append_assoc r.toList,
      fillText_append_append hw]

theorem calls_fillInTurn {receiver : Hole} {r method : String} {t : Template} (h : CallsOn receiver method t)
    (hr : Text.Lacks '\x7b' r ∧ Text.Lacks '\x7d' r) (hm : IsFixed (callText method))
    (values : List (Hole × String)) : Calls r method (t.fillInTurn ((receiver, r) :: values)) := by
  obtain ⟨before, rest, after, rfl⟩ := h
  obtain ⟨xs, -, he⟩ := fillText_receiver hr hm (spelled before) (rest.toList ++ spelled after) values
  refine ⟨String.ofList xs, String.ofList (fillText (rest.toList ++ spelled after) ((receiver, r) :: values)), ?_⟩
  rw [fillInTurn_eq, ← String.toList_inj]
  simpa [callText] using he

theorem fillText_close (xs : List Char) (values : List (Hole × String)) :
    fillText (xs ++ [')']) values = fillText xs values ++ [')'] := by
  simpa using fillText_append_append (w := [')']) (by decide) xs [] values

theorem isCall_fillInTurn {receiver : Hole} {r method : String} {t : Template} (h : IsCallOn receiver method t)
    (hr : Text.Lacks '\x7b' r ∧ Text.Lacks '\x7d' r) (hm : IsFixed (callText method))
    (values : List (Hole × String)) : IsCall r method (t.fillInTurn ((receiver, r) :: values)) := by
  obtain ⟨first, arguments, last, rfl⟩ := h
  obtain ⟨xs, hx, he⟩ := fillText_receiver hr hm []
    ((first.toList ++ spelled arguments ++ last.toList) ++ [')']) values
  rw [hx rfl, fillText_close] at he
  refine ⟨String.ofList (fillText (first.toList ++ spelled arguments ++ last.toList) ((receiver, r) :: values)), ?_⟩
  rw [fillInTurn_eq, ← String.toList_inj]
  simpa [callText] using he

end Template

/-! ## Code of families -/

namespace Family

open Operation (IsRead IsWrite)
open Template (fillText fillText_append_append fillText_close)

theorem eq_charSequence {f : Family} (h : ¬ f.operation.isOwn = true) : f = charSequence := by
  cases f with
  | primitive k | boxed k => cases k <;> exact absurd rfl h
  | charSequence => rfl
  | _ => exact absurd rfl h

theorem isRead_charSequence (values : List (Hole × String)) :
    Operation.charSequence.IsRead (charSequence.encoding.read.fillInTurn values) := by
  have he := fillText_append_append (w := ".CHAR_SEQUENCE_CREATOR.createFromParcel(".toList) (by decide)
    (Hole.cast.spelled ++ Hole.helper.spelled) (Hole.source.spelled ++ [')']) values
  refine ⟨"CHAR_SEQUENCE_CREATOR", ⟨String.ofList (fillText (Hole.cast.spelled ++ Hole.helper.spelled) values ++ ['.']),
    String.ofList (fillText (Hole.source.spelled ++ [')']) values), ?_⟩, fun h => absurd h (by decide)⟩
  rw [Template.fillInTurn_eq, ← String.toList_inj]
  simpa [encoding, Encoding.ofFamily, Operation.readMethod] using he

theorem isWrite_charSequence (values : List (Hole × String)) :
    Operation.charSequence.IsWrite (charSequence.encoding.write.fillInTurn values) := by
  let arguments := Hole.value.spelled ++ (", ".toList ++ (Hole.target.spelled ++ (", ".toList ++ Hole.flags.spelled)))
  have he := fillText_append_append (w := ".writeToParcel(".toList) (by decide) Hole.helper.spelled
    (arguments ++ [')']) values
  rw [fillText_close] at he
  refine ⟨String.ofList (fillText Hole.helper.spelled values), ⟨String.ofList (fillText arguments values), ?_⟩,
    fun h => absurd h (by decide)⟩
  rw [Template.fillInTurn_eq, ← String.toList_inj]
  simpa [encoding, Encoding.ofFamily, Operation.writeMethod, arguments] using he

/-- Whatever the type is called, the code that reads a value calls the read method of the family's operation. -/
theorem isRead_readExpression (f : Family) (s : Imports) (declared : JavaType) :
    f.operation.IsRead (f.readExpression s declared).1 := by
  by_cases ho : f.operation.isOwn = true
  · refine ⟨Encoding.sourceName, ?_, fun _ => rfl⟩
    exact Template.calls_fillInTurn (Encoding.callsOn_read f ho) (by decide) f.operation.isFixed_readMethod _
  · cases eq_charSequence ho
    exact isRead_charSequence _

/-- Whatever the accessor is called, the code that writes a value is a call of the operation's write method. -/
theorem isWrite_writeStatement (f : Family) (s : Imports) (accessor : String) :
    f.operation.IsWrite (f.writeStatement s accessor).1 := by
  by_cases ho : f.operation.isOwn = true
  · refine ⟨Encoding.targetName, ?_, fun _ => rfl⟩
    exact Template.isCall_fillInTurn (Encoding.isCallOn_write f ho) (by decide) f.operation.isFixed_writeMethod _
  · cases eq_charSequence ho
    exact isWrite_charSequence _

end Family

end ValueParcel
