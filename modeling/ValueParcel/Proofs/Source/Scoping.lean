import Mathlib.Data.List.Forall2
import ValueParcel.Proofs.Source.Spelling

/-!
What the spellings of classes mean in the finished file. A simple name is looked up from the inside out: in the file itself,
among its imports, in its package and in `java.lang`. A class in `java.lang` gets no import, so it loses its simple name to
a class of the package; every other class that is asked for is the one that its spelling means.
-/

namespace ValueParcel

open QualifiedName

/-- Where a file finds the classes for simple names. -/
structure Scope where
  /-- Simple names that the file itself declares. -/
  declared : List String
  imported : List String
  package : String
  /-- Simple names of the classes in the package. -/
  siblings : List String

namespace Scope

variable {f : Scope} {q : String}

/-- The class that a simple name means, unless the file itself declares the name. -/
def lookup (f : Scope) (name : String) : Option String :=
  if name ∈ f.declared then none
  else match f.imported.find? (simpleName · = name) with
    | some q => some q
    | none => if name ∈ f.siblings then some (f.package ++ "." ++ name) else some ("java.lang" ++ "." ++ name)

/-- A class that is nested in another, each segment in the one before it. -/
def nest (top : String) (nested : List (List Char)) : String := String.ofList (join (top.toList :: nested))

/-- The class that a spelling means. Only the first segment of a name without a package is looked up. -/
def denoted (f : Scope) (spelling : String) : Option String :=
  if HasPackage spelling then some spelling
  else match segments spelling.toList with
    | [] => none
    | first :: nested => (f.lookup (String.ofList first)).map (nest · nested)

/-- The package has a class of its own with the simple name of a class in `java.lang`. -/
def Hides (f : Scope) (q : String) : Prop := packageName q = "java.lang" ∧ topName q ∈ f.siblings

instance (f : Scope) (q : String) : Decidable (f.Hides q) := inferInstanceAs (Decidable (_ ∧ _))

theorem nest_append (package : String) (first : List Char) (nested : List (List Char)) :
    nest (package ++ "." ++ String.ofList first) nested = package ++ "." ++ String.ofList (join (first :: nested)) := by
  rw [← String.toList_inj]
  by_cases h : nested = []
  · simp [nest, h, join]
  · simp [nest, join_cons _ h]

theorem denoted_of_hasPackage (h : HasPackage q) : f.denoted q = some q := if_pos h

theorem denoted_relative {package : String} (h : HasPackage q)
    (hl : f.lookup (topName q) = some (package ++ "." ++ topName q)) :
    f.denoted (relative q) = some (package ++ "." ++ relative q) := by
  obtain ⟨first, nested, hc⟩ := h.exists_classSegments
  have ht : topName q = String.ofList first := by rw [topName, hc, List.headD_cons]
  have hr : ¬ HasPackage (relative q) := fun h' => h'.1 h.packageName_relative
  rw [ht] at hl
  rw [denoted, if_neg hr, h.segments_relative, hc]
  simp only [hl, Option.map_some, nest_append, relative, hc]

theorem lookup_of_mem_imported {name : String} (hd : name ∉ f.declared) (hq : q ∈ f.imported) (hn : simpleName q = name)
    (huniq : ∀ p ∈ f.imported, simpleName p = name → p = q) : f.lookup name = some q := by
  rw [lookup, if_neg hd]
  cases hfind : f.imported.find? (simpleName · = name) with
  | none =>
      have := List.find?_eq_none.1 hfind q hq
      exact absurd (decide_eq_true hn) this
  | some p =>
      have hp : simpleName p = name := by simpa using List.find?_some hfind
      rw [huniq p (List.mem_of_find?_eq_some hfind) hp]

theorem lookup_of_not_imported {name : String} (hd : name ∉ f.declared) (hi : ∀ p ∈ f.imported, simpleName p ≠ name) :
    f.lookup name = if name ∈ f.siblings then some (f.package ++ "." ++ name) else some ("java.lang" ++ "." ++ name) := by
  have hfind : f.imported.find? (simpleName · = name) = none :=
    List.find?_eq_none.2 fun p hp he => hi p hp (of_decide_eq_true he)
  rw [lookup, if_neg hd, hfind]

end Scope

namespace Imports

variable {s : Imports} {q : String} {qs : List String}

/-- The scope of a file in which the classes `qs` occur. -/
def scope (s : Imports) (qs : List String) : Scope where
  declared := s.reserved
  imported := s.imported
  package := s.package
  siblings := (qs.filter fun q => HasPackage q ∧ packageName q = s.package).map topName

theorem topName_mem_siblings (hm : q ∈ qs) (hq : HasPackage q) (hp : packageName q = s.package) :
    topName q ∈ (s.scope qs).siblings := by
  apply List.mem_map_of_mem
  exact List.mem_filter.2 ⟨hm, decide_eq_true ⟨hq, hp⟩⟩

theorem IsShort.spelling_eq (h : s.IsShort q) : s.spelling q = relative q := if_pos h

namespace InOrder

/-- A simple name that stands for a class is imported for no other. -/
theorem eq_topLevel {p : String} (h : InOrder s) (hs : s.IsShort q) (hp : p ∈ s.imported)
    (hn : simpleName p = topName q) : p = topLevel q := by
  have hclaims : s.claimed.lookup (topName q) = some p := hn ▸ h.claims p hp
  obtain ⟨-, -, hc⟩ := hs
  split at hc
  · exact absurd ‹_› (hn ▸ (h.free p hp).2)
  · exact Option.some.inj (hclaims.symm.trans hc)

/-- The top-level class of a class that is spelled short is found by its simple name, unless the file's package has another
and no import is in its way. -/
theorem lookup_topName (h : InOrder s) (hs : s.IsShort q) (hm : q ∈ qs) :
    (s.scope qs).lookup (topName q) =
      some ((if (s.scope qs).Hides q then s.package else packageName q) ++ "." ++ topName q) := by
  obtain ⟨hq, hr, -⟩ := id hs
  by_cases hi : topLevel q ∈ s.imported
  · have hforeign : ¬ (s.scope qs).Hides q := by
      intro hh
      exact (h.foreign _ hi).1 (hq.packageName_topLevel.trans hh.1)
    rw [if_neg hforeign]
    apply Scope.lookup_of_mem_imported hr hi hq.simpleName_topLevel
    intro p hp hn
    exact h.eq_topLevel hs hp hn
  · have hnone : ∀ p ∈ s.imported, simpleName p ≠ topName q := by
      intro p hp hn
      exact hi (h.eq_topLevel hs hp hn ▸ hp)
    have hat : packageName q = s.package ∨ packageName q = "java.lang" := by
      by_contra hn
      rw [not_or] at hn
      have hne : s.spelling q ≠ q := hs.spelling_eq ▸ hq.relative_ne_of_hasPackage hq
      exact hi (h.mem_imported hne hn.1 hn.2)
    rw [Scope.lookup_of_not_imported hr hnone]
    split
    · rcases hat with hp | hj
      · rw [hp, ite_self]
        rfl
      · rw [if_pos ⟨hj, ‹_›⟩]
        rfl
    · rename_i hsib
      have hj := hat.resolve_left fun hp => hsib (topName_mem_siblings hm hq hp)
      rw [if_neg fun hh => hsib hh.2, hj]

theorem denoted_spelling (h : InOrder s) (hq : HasPackage q) (hm : q ∈ qs) :
    (s.scope qs).denoted (s.spelling q) =
      some (if s.spelling q ≠ q ∧ (s.scope qs).Hides q then s.package ++ "." ++ relative q else q) := by
  by_cases hs : s.IsShort q
  · have hne : s.spelling q ≠ q := hs.spelling_eq ▸ hq.relative_ne_of_hasPackage hq
    have hfound := Scope.denoted_relative hq (h.lookup_topName hs hm)
    rw [hs.spelling_eq] at hne ⊢
    rw [hfound]
    by_cases hh : (s.scope qs).Hides q
    · rw [if_pos hh, if_pos ⟨hne, hh⟩]
    · rw [if_neg hh, if_neg fun h' => hh h'.2, hq.eq_append]
  · have he : s.spelling q = q := if_neg hs
    rw [he, Scope.denoted_of_hasPackage hq, if_neg fun h' => h'.1 rfl]

end InOrder

/-- In a finished file a spelling means the class that was asked for, except that the short name of a class in `java.lang`
means the package's own class where there is one in the file. -/
theorem spellings_denote (package : String) (reserved qs : List String) :
    let run := answers { package, reserved } (qs.map .name)
    let file := run.2.scope qs
    List.Forall₂ (fun q text => HasPackage q →
      file.denoted text = some (if text ≠ q ∧ file.Hides q then package ++ "." ++ relative q else q)) qs run.1 := by
  intro run file
  have hclasses : (qs.map Request.name).flatMap Request.classes = qs := by
    rw [List.flatMap_map]
    exact List.flatMap_singleton' qs
  have hgives := gives_answers { package, reserved } (qs.map .name)
  rw [hclasses] at hgives
  have hstate : run.2 = spellAll { package, reserved } qs := hgives.state
  have horder : InOrder run.2 := hstate ▸ (InOrder.start package reserved).spellAll qs
  have hpackage : run.2.package = package := (hstate ▸ grows_spellAll _ qs : Grows { package, reserved } run.2).package
  have hnames : ∀ f, (qs.map Request.name).map (Request.text f) = qs.map f := fun f => List.map_map
  have htexts : run.1 = qs.map run.2.spelling := (hgives.text fun q _ => rfl).trans (hnames _)
  rw [htexts, List.forall₂_map_right_iff, List.forall₂_same]
  intro q hm hq
  rw [← hpackage]
  exact horder.denoted_spelling hq hm

/-- Classes in `java.lang`, an import with a class nested in it, classes of the package, and rivals of all of them. -/
theorem spellings_denote_rivals :
    let qs := ["java.lang.Process", "java.util.Map.Entry", "test.Map", "test.Foo", "other.Foo", "test.Object", "other.Made"]
    let run := answers { package := "test", reserved := ["Made"] } (qs.map .name)
    List.Forall₂ (fun q text => (run.2.scope qs).denoted text = some q) qs run.1 := by
  intro qs run
  have hplain : List.Forall₂ (fun q text => HasPackage q ∧ ¬ (text ≠ q ∧ (run.2.scope qs).Hides q)) qs run.1 := by
    decide +kernel
  refine hplain.mp ?_ (spellings_denote "test" ["Made"] qs)
  rintro q text ⟨hq, hh⟩ hdenotes
  rw [hdenotes hq, if_neg hh]

/-- A class of the package takes the short name that a class in `java.lang` had before it. -/
theorem spelling_is_hidden :
    let qs := ["java.lang.Process", "test.Process"]
    let run := answers { package := "test", reserved := [] } (qs.map .name)
    (∀ q ∈ qs, HasPackage q) ∧ ¬ List.Forall₂ (fun q text => (run.2.scope qs).denoted text = some q) qs run.1 := by
  decide +kernel

end Imports

end ValueParcel
