import ValueParcel.Proofs.Encoding.Calls

/-!
The class loader in the code that reads a value. The flag of an encoding agrees with its template on whether reading takes
a class loader, and where it does, the variable is the argument of the parcel's method whatever the other holes are filled
with.
-/

namespace ValueParcel

open Operation (callText)
open Piece (text hole)

namespace Template

theorem fillText_of_not_mem {w : List Char} (hw : '\x7b' ∉ w) (values : List (Hole × String)) :
    fillText w values = w :=
  fillText_of_not_contained fun v _ hv => hw (hv.subset v.1.brace_mem_spelled)

theorem spelled_loaderRead (method : String) : spelled (Encoding.loaderRead method) =
    Hole.source.spelled ++ (callText method ++ (Hole.loader.spelled ++ [')'])) := by
  simp [Encoding.loaderRead, callText]

theorem fillText_loaderRead {method : String} (hm : IsFixed (callText method)) (xs ys : List Char)
    (others : List (Hole × String)) :
    ∃ xs' ys', fillText (xs ++ (spelled (Encoding.loaderRead method) ++ ys))
        ((.source, Encoding.sourceName) :: (.loader, Encoding.loaderName) :: others) =
      xs' ++ (Encoding.sourceName.toList ++ (callText method ++ (Encoding.loaderName.toList ++ (')' :: ys')))) := by
  obtain ⟨xs', -, hsource⟩ := @fillText_receiver .source Encoding.sourceName method (by decide) hm xs
    (Hole.loader.spelled ++ ([')'] ++ ys)) ((.loader, Encoding.loaderName) :: others)
  have hclose := fillText_append_append (w := [')']) (by decide) Hole.loader.spelled ys
    ((.source, Encoding.sourceName) :: (.loader, Encoding.loaderName) :: others)
  have hloader : fillText Hole.loader.spelled ((.source, Encoding.sourceName) :: (.loader, Encoding.loaderName) :: others)
      = Encoding.loaderName.toList := by
    have hreplaced : Text.replace Hole.loader.spelled Encoding.loaderName.toList
        (Text.replace Hole.source.spelled Encoding.sourceName.toList Hole.loader.spelled) =
          Encoding.loaderName.toList := by decide +kernel
    rw [fillText_cons, fillText_cons, hreplaced, fillText_of_not_mem (by decide)]
  rw [hclose, hloader] at hsource
  exact ⟨xs', _, by simpa [spelled_loaderRead] using hsource⟩

end Template

namespace Family

/-- The words in the code that reads a value, less those that belong to its type. -/
def readWords (f : Family) : List (List Char) :=
  let code := f.encoding.read.fill fun
    | .source => Encoding.sourceName
    | .loader => Encoding.loaderName
    | _ => ""
  code.toList.splitOnP (!·.isAlphanum)

def passesLoader (f : Family) : Bool := Encoding.loaderName.toList ∈ f.readWords

theorem usesLoader_eq (f : Family) : f.encoding.usesLoader = f.passesLoader := by
  cases f with
  | primitive k | boxed k => cases k <;> decide +kernel
  | _ => decide +kernel

theorem exists_loaderRead (f : Family) (h : f.encoding.usesLoader = true) :
    ∃ before after, f.encoding.read = before ++ (Encoding.loaderRead f.operation.readMethod ++ after) := by
  cases f with
  | parcelable | map | list | sparseArray | value => exact ⟨[hole .cast], [], rfl⟩
  | immutableCollection | immutableMap =>
      exact ⟨[hole .cast, hole .raw, text ".", hole .typeArguments, text "copyOf("], [text ")"], rfl⟩
  | parcelableArray | objectArray | bundle | persistableBundle => exact ⟨[], [], rfl⟩
  | primitive k | boxed k => cases k <;> cases h
  | _ => cases h

/-- The class loader is the argument of a call of the read method. -/
theorem readExpression_passes (f : Family) (h : f.passesLoader = true) (s : Imports) (declared : JavaType) :
    ∃ before after, (f.readExpression s declared).1 = before ++ "in." ++ f.operation.readMethod ++ "(cl)" ++ after := by
  obtain ⟨before, after, hread⟩ := f.exists_loaderRead (f.usesLoader_eq.trans h)
  obtain ⟨xs, ys, hfill⟩ := Template.fillText_loaderRead f.operation.isFixed_readMethod (Template.spelled before)
    (Template.spelled after) ((f.readValues s declared).1.drop 2)
  refine ⟨String.ofList xs, String.ofList ys, ?_⟩
  have htext : (f.readExpression s declared).1 = String.ofList (Template.fillText f.encoding.read.spelled
      ((.source, Encoding.sourceName) :: (.loader, Encoding.loaderName) :: (f.readValues s declared).1.drop 2)) := rfl
  rw [htext, hread, Template.spelled_append, Template.spelled_append, hfill, ← String.toList_inj]
  simp [callText, Encoding.sourceName, Encoding.loaderName]

end Family

end ValueParcel
