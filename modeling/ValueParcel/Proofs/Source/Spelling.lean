import Mathlib.Data.List.Nodup
import ValueParcel.Proofs.QualifiedName
import ValueParcel.Proofs.Source.Names

/-!
The spellings of classes over a whole file. How a class is spelled is settled when it is first asked for, and what is
settled stays; so the texts of a run are those that its last state gives. No two classes share a spelling, and a short one
stands on an import or needs none.
-/

namespace ValueParcel

/-! ## Texts of types -/

namespace JavaType

mutual

/-- The source text of a type whose classes have the given spellings. -/
def write (spelling : String → String) : JavaType → String
  | void => "void"
  | primitive k => k.keyword
  | declared q args => spelling q ++ Text.angled (writeList spelling args)
  | array c => c.write spelling ++ "[]"
  | free n => n
  | bounded n _ => n

def writeList (spelling : String → String) : List JavaType → List String
  | [] => []
  | t :: ts => t.write spelling :: writeList spelling ts

end

mutual

/-- The classes in the source text of a type, from left to right. A variable stands there without its bound. -/
def classes : JavaType → List String
  | void | primitive _ => []
  | declared q args => q :: classesOfList args
  | array c => c.classes
  | free _ | bounded _ _ => []

def classesOfList : List JavaType → List String
  | [] => []
  | t :: ts => t.classes ++ classesOfList ts

end

end JavaType

namespace Imports

open QualifiedName

/-! ## Runs -/

/-- What is asked while a file is written. -/
inductive Request where
  | name (q : String)
  | type (t : JavaType)
  | parameter (t : JavaType)

namespace Request

/-- The text that answers a request if classes have the given spellings. -/
def text (spelling : String → String) : Request → String
  | name q => spelling q
  | type t => t.write spelling
  | parameter (.bounded n b) => n ++ " extends " ++ b.write spelling
  | parameter t => t.write spelling

/-- The classes that stand in the answer. -/
def classes : Request → List String
  | name q => [q]
  | type t => t.classes
  | parameter (.bounded _ b) => b.classes
  | parameter t => t.classes

end Request

def answer (s : Imports) : Request → String × Imports
  | .name q => s.spell q
  | .type t => s.render t
  | .parameter t => s.renderParameter t

def answers (s : Imports) : List Request → List String × Imports
  | [] => ([], s)
  | r :: rs =>
    let (text, s) := s.answer r
    let (texts, s) := s.answers rs
    (text :: texts, s)

/-- The state behind classes that were spelled one after another. -/
def spellAll (s : Imports) (qs : List String) : Imports := qs.foldl (fun s q => (s.spell q).2) s

/-! ## One class -/

variable {s s' : Imports} {q q' : String}

/-- If the class is in a package, the simple name of its top-level class is taken, by that class or by another. -/
def IsSettled (s : Imports) (q : String) : Prop :=
  HasPackage q → topName q ∈ s.reserved ∨ topName q ∈ javaLang ∨ (s.claimed.lookup (topName q)).isSome

/-- The class is in a package, and the simple name of its top-level class is taken by that class. -/
def IsShort (s : Imports) (q : String) : Prop :=
  HasPackage q ∧ topName q ∉ s.reserved ∧
    if topName q ∈ javaLang then packageName q = "java.lang" else s.claimed.lookup (topName q) = some (topLevel q)

instance (s : Imports) (q : String) : Decidable (s.IsShort q) := inferInstanceAs (Decidable (_ ∧ _ ∧ ite _ _ _))

def spelling (s : Imports) (q : String) : String := if s.IsShort q then relative q else q

theorem spell?_of_not_hasPackage (s : Imports) (h : ¬ HasPackage q) : s.spell? q = some (q, s) := by
  rw [hasPackage_iff_utf8ByteSize, not_and_or, not_not, not_not, packageName_eq] at h
  rw [spell?, packageName?_eq, Option.bind_eq_bind, Option.bind_some, if_pos h]
  rfl

/-- A class in a package is cut in two, and its spelling is decided on the parts. -/
theorem spell?_of_hasPackage (s : Imports) (h : HasPackage q) :
    s.spell? q = some (s.spellWithin q (packageName q) (relative q)) := by
  have hn := hasPackage_iff_utf8ByteSize.1 h
  rw [← not_or] at hn
  rw [spell?, packageName?_eq, ← packageName_eq, Option.bind_eq_bind, Option.bind_some, if_neg hn, h.behind?_eq]
  rfl

theorem spell_of_not_hasPackage (s : Imports) (h : ¬ HasPackage q) : s.spell q = (q, s) := by
  rw [spell, spell?_of_not_hasPackage s h, Option.getD_some]

theorem spell_of_hasPackage (s : Imports) (h : HasPackage q) :
    s.spell q =
      if topName q ∈ s.reserved then (q, s)
      else if topName q ∈ javaLang then (if packageName q = "java.lang" then relative q else q, s)
      else match s.claimed.lookup (topName q) with
        | some owner => (if owner = topLevel q then relative q else q, s)
        | none => (relative q, s.claim (packageName q) (topName q) (topLevel q)) := by
  rw [spell, spell?_of_hasPackage s h, Option.getD_some, spellWithin, h.outermostName_relative]
  rfl

theorem spell_of_isSettled (h : s.IsSettled q) : s.spell q = (s.spelling q, s) := by
  by_cases hq : HasPackage q
  · rw [spell_of_hasPackage s hq]
    split
    · simp_all [spelling, IsShort]
    · split
      · simp_all [spelling, IsShort]
      · obtain ⟨owner, ho⟩ := Option.isSome_iff_exists.1 (((h hq).resolve_left ‹_›).resolve_left ‹_›)
        simp_all [spelling, IsShort]
  · rw [spell_of_not_hasPackage s hq, spelling, if_neg (hq ·.1)]

theorem spell_fst_of_isSettled (h : s.IsSettled q) : (s.spell q).1 = s.spelling q := by
  rw [spell_of_isSettled h]

/-- Spelling a class changes nothing, or takes its simple name for it. -/
theorem spell_cases (s : Imports) (q : String) :
    s.IsSettled q ∧ s.spell q = (s.spelling q, s) ∨
      HasPackage q ∧ topName q ∉ s.reserved ∧ topName q ∉ javaLang ∧ s.claimed.lookup (topName q) = none ∧
        s.spell q = (relative q, s.claim (packageName q) (topName q) (topLevel q)) := by
  by_cases h : s.IsSettled q
  · exact .inl ⟨h, spell_of_isSettled h⟩
  · simp only [IsSettled, Classical.not_imp, not_or, Option.not_isSome_iff_eq_none] at h
    obtain ⟨hq, hr, hj, hl⟩ := h
    refine .inr ⟨hq, hr, hj, hl, ?_⟩
    rw [spell_of_hasPackage s hq, if_neg hr, if_neg hj, hl]

theorem spell_classLoader (s : Imports) :
    (s.spell WellKnown.classLoader).1 ∈ ["ClassLoader", WellKnown.classLoader] := by
  have hp : HasPackage WellKnown.classLoader := by decide +kernel
  have hj : topName WellKnown.classLoader ∈ javaLang := by decide +kernel
  have hr : relative WellKnown.classLoader = "ClassLoader" := by decide +kernel
  rw [spell_of_hasPackage s hp, if_pos hj, hr]
  split
  · simp
  · simp only
    split <;> simp

/-! ## What a step keeps -/

/-- What is claimed stays claimed, and what is imported stays imported. -/
structure Grows (s s' : Imports) : Prop where
  package : s'.package = s.package
  reserved : s'.reserved = s.reserved
  claimed : ∀ {top owner}, s.claimed.lookup top = some owner → s'.claimed.lookup top = some owner
  imported : s.imported.Sublist s'.imported

namespace Grows

protected theorem refl (s : Imports) : Grows s s := ⟨rfl, rfl, id, List.Sublist.refl _⟩

protected theorem trans {s'' : Imports} (h : Grows s s') (h' : Grows s' s'') : Grows s s'' :=
  ⟨h'.package.trans h.package, h'.reserved.trans h.reserved, h'.claimed ∘ h.claimed, h.imported.trans h'.imported⟩

theorem isSettled (h : Grows s s') (hq : s.IsSettled q) : s'.IsSettled q := by
  intro hp
  rcases hq hp with hr | hj | hl
  · exact .inl (h.reserved ▸ hr)
  · exact .inr (.inl hj)
  · obtain ⟨owner, ho⟩ := Option.isSome_iff_exists.1 hl
    exact .inr (.inr (by rw [h.claimed ho, Option.isSome_some]))

theorem spelling (h : Grows s s') (hq : s.IsSettled q) : s'.spelling q = s.spelling q := by
  have : s'.IsShort q ↔ s.IsShort q := by
    refine and_congr_right fun hp => ?_
    rw [h.reserved]
    refine and_congr_right fun hr => ?_
    split
    · rfl
    · rename_i hj
      obtain ⟨owner, ho⟩ := Option.isSome_iff_exists.1 (((hq hp).resolve_left hr).resolve_left hj)
      rw [ho, h.claimed ho]
  simp only [Imports.spelling, this]

end Grows

theorem insertSorted_sublist (name : String) (names : List String) : names.Sublist (insertSorted name names) := by
  induction names with
  | nil => exact List.nil_sublist _
  | cons n rest ih =>
      rw [insertSorted]
      split
      · exact List.Sublist.refl _
      · split
        · exact List.sublist_cons_self ..
        · exact ih.cons_cons n

theorem mem_insertSorted {name n : String} {names : List String} :
    n ∈ insertSorted name names ↔ n = name ∨ n ∈ names := by
  induction names with
  | nil => simp [insertSorted]
  | cons m rest ih =>
      rw [insertSorted]
      split
      · simp_all
      · split
        · simp
        · rw [List.mem_cons, ih, List.mem_cons, or_left_comm]

theorem pairwise_insertSorted {name : String} {names : List String} (h : names.Pairwise (· < ·)) :
    (insertSorted name names).Pairwise (· < ·) := by
  induction names with
  | nil => exact List.pairwise_singleton ..
  | cons n rest ih =>
      rw [List.pairwise_cons] at h
      rw [insertSorted]
      split
      · exact List.pairwise_cons.2 h
      · rename_i hne
        split
        · rename_i hlt
          refine List.pairwise_cons.2 ⟨?_, List.pairwise_cons.2 h⟩
          rintro m (_ | ⟨_, hm⟩)
          · exact hlt
          · exact String.lt_trans hlt (h.1 m hm)
        · rename_i hle
          refine List.pairwise_cons.2 ⟨fun m hm => ?_, ih h.2⟩
          rcases mem_insertSorted.1 hm with rfl | hm
          · exact Std.lt_of_le_of_ne (String.not_lt.1 hle) (Ne.symm hne)
          · exact h.1 m hm

theorem lookup_claim (s : Imports) (package top qualified name : String) :
    (s.claim package top qualified).claimed.lookup name = if name = top then some qualified else s.claimed.lookup name := by
  simp only [claim, List.lookup_cons]
  split <;> simp_all

theorem mem_imported_claim {package top qualified n : String} :
    n ∈ (s.claim package top qualified).imported ↔
      n ∈ s.imported ∨ n = qualified ∧ package ≠ s.package ∧ package ≠ "java.lang" := by
  simp only [claim]
  split
  · rename_i hp
    rw [← not_or, or_iff_left (fun h => h.2 hp)]
  · rename_i hp
    rw [mem_insertSorted, or_comm, ← not_or, and_iff_left hp]

theorem pairwise_imported_claim {package top qualified : String} (h : s.imported.Pairwise (· < ·)) :
    (s.claim package top qualified).imported.Pairwise (· < ·) := by
  simp only [claim]
  split
  · exact h
  · exact pairwise_insertSorted h

theorem grows_spell (s : Imports) (q : String) : Grows s (s.spell q).2 := by
  rcases spell_cases s q with ⟨-, he⟩ | ⟨-, -, -, hl, he⟩
  · rw [he]
    exact .refl s
  · rw [he]
    refine ⟨rfl, rfl, fun {top owner} ho => ?_, ?_⟩
    · rw [lookup_claim, if_neg, ho]
      rintro rfl
      cases hl.symm.trans ho
    · dsimp only [claim]
      split
      · exact List.Sublist.refl _
      · exact insertSorted_sublist _ _

theorem isSettled_spell (s : Imports) (q : String) : (s.spell q).2.IsSettled q := by
  rcases spell_cases s q with ⟨hs, he⟩ | ⟨-, -, -, -, he⟩
  · rwa [he]
  · rw [he]
    exact fun _ => .inr (.inr (by rw [lookup_claim, if_pos rfl, Option.isSome_some]))

theorem spell_fst (s : Imports) (q : String) : (s.spell q).1 = (s.spell q).2.spelling q := by
  rcases spell_cases s q with ⟨-, he⟩ | ⟨hq, hr, hj, -, he⟩
  · rw [he]
  · rw [he, spelling, if_pos]
    refine ⟨hq, hr, ?_⟩
    rw [if_neg hj, lookup_claim, if_pos rfl]

/-- The imports ascend, they stand for claimed simple names, and a claim has its import unless its package is in scope. -/
structure InOrder (s : Imports) : Prop where
  sorted : s.imported.Pairwise (· < ·)
  claims : ∀ q ∈ s.imported, s.claimed.lookup (simpleName q) = some q
  free : ∀ q ∈ s.imported, simpleName q ∉ s.reserved ∧ simpleName q ∉ javaLang
  foreign : ∀ q ∈ s.imported, packageName q ≠ "java.lang" ∧ packageName q ≠ s.package
  imports : ∀ {top owner}, s.claimed.lookup top = some owner →
    packageName owner = s.package ∨ packageName owner = "java.lang" ∨ owner ∈ s.imported

namespace InOrder

theorem start (package : String) (reserved : List String) : InOrder { package, reserved } :=
  ⟨List.Pairwise.nil, nofun, nofun, nofun, nofun⟩

theorem claim (h : InOrder s) (hq : HasPackage q) (hr : topName q ∉ s.reserved) (hj : topName q ∉ javaLang)
    (hl : s.claimed.lookup (topName q) = none) : InOrder (s.claim (packageName q) (topName q) (topLevel q)) := by
  refine ⟨pairwise_imported_claim h.sorted, fun p hp => ?claims, fun p hp => ?free, fun p hp => ?foreign,
    fun {top owner} ho => ?imports⟩
  case claims =>
    rw [lookup_claim]
    rcases mem_imported_claim.1 hp with hp | ⟨rfl, -⟩
    · rw [if_neg, h.claims p hp]
      -- the imports' simple names are claimed, and this one is not
      intro he
      cases hl.symm.trans (he ▸ h.claims p hp)
    · rw [if_pos hq.simpleName_topLevel]
  case free =>
    rcases mem_imported_claim.1 hp with hp | ⟨rfl, -⟩
    · exact h.free p hp
    · rw [hq.simpleName_topLevel]
      exact ⟨hr, hj⟩
  case foreign =>
    rcases mem_imported_claim.1 hp with hp | ⟨rfl, hforeign⟩
    · exact h.foreign p hp
    · rw [hq.packageName_topLevel]
      exact hforeign.symm
  case imports =>
    rw [lookup_claim] at ho
    split at ho
    · obtain rfl := Option.some.inj ho
      rw [hq.packageName_topLevel, mem_imported_claim]
      by_cases hp : packageName q = s.package
      · exact .inl hp
      · exact .inr (or_iff_not_imp_left.2 fun hn => .inr ⟨rfl, hp, hn⟩)
    · exact (h.imports ho).imp_right (.imp_right fun hm => mem_imported_claim.2 (.inl hm))

theorem spell (h : InOrder s) (q : String) : InOrder (s.spell q).2 := by
  rcases spell_cases s q with ⟨-, he⟩ | ⟨hq, hr, hj, hl, he⟩
  · rwa [he]
  · rw [he]
    exact h.claim hq hr hj hl

theorem nodup_simpleName (h : InOrder s) : (s.imported.map simpleName).Nodup := by
  refine List.Nodup.map_on (fun p hp p' hp' he => ?_) (h.sorted.imp String.ne_of_lt)
  exact Option.some.inj ((h.claims p hp).symm.trans (he ▸ h.claims p' hp'))

/-- A class that is spelled short is at hand without an import, or imported. -/
theorem mem_imported (h : InOrder s) (hs : s.spelling q ≠ q) (hp : packageName q ≠ s.package)
    (hj : packageName q ≠ "java.lang") : topLevel q ∈ s.imported := by
  rw [spelling, ne_eq, ite_eq_right_iff, Classical.not_imp] at hs
  obtain ⟨⟨hq, -, hc⟩, -⟩ := hs
  split at hc
  · exact absurd hc hj
  · have := h.imports hc
    rw [hq.packageName_topLevel] at this
    exact (this.resolve_left hp).resolve_left hj

end InOrder

/-- Two classes with one spelling are both spelled short or both in full, and a simple name is taken by one class only. -/
theorem spelling_injective (hq : HasPackage q) (hq' : HasPackage q') (h : s.spelling q = s.spelling q') : q = q' := by
  unfold spelling at h
  split at h <;> split at h
  · rename_i hs hs'
    have ht : topName q = topName q' := hq.topName_eq_of_relative_eq hq' h
    have hp : packageName q = packageName q' := by
      have hc := hs.2.2
      have hc' := hs'.2.2
      rw [← ht] at hc'
      split at hc
      · rw [if_pos ‹_›] at hc'
        exact hc.trans hc'.symm
      · rw [if_neg ‹_›] at hc'
        rw [← hq.packageName_topLevel, ← hq'.packageName_topLevel, Option.some.inj (hc.symm.trans hc')]
    rw [← hq.eq_append, ← hq'.eq_append, hp, h]
  · exact absurd h (hq.relative_ne_of_hasPackage hq')
  · exact absurd h.symm (hq'.relative_ne_of_hasPackage hq)
  · exact h

/-! ## What a run keeps -/

theorem grows_spellAll (s : Imports) (qs : List String) : Grows s (s.spellAll qs) := by
  induction qs generalizing s with
  | nil => exact .refl s
  | cons q qs ih => exact (grows_spell s q).trans (ih _)

theorem InOrder.spellAll (h : InOrder s) (qs : List String) : InOrder (s.spellAll qs) := by
  induction qs generalizing s with
  | nil => exact h
  | cons q qs ih => exact ih (h.spell q)

theorem isSettled_spellAll (s : Imports) {qs : List String} (hq : q ∈ qs) : (s.spellAll qs).IsSettled q := by
  induction qs generalizing s with
  | nil => cases hq
  | cons p qs ih =>
      rcases List.mem_cons.1 hq with rfl | hq
      · exact (grows_spellAll _ qs).isSettled (isSettled_spell s q)
      · exact ih _ hq

theorem spellAll_append (s : Imports) (qs qs' : List String) : s.spellAll (qs ++ qs') = (s.spellAll qs).spellAll qs' :=
  List.foldl_append

/-! ## What is answered -/

/-- The answer spells the classes `qs`, and nothing else in it depends on the state. -/
structure Gives {α : Type} (s : Imports) (qs : List String) (text : (String → String) → α) (answer : α × Imports) :
    Prop where
  state : answer.2 = s.spellAll qs
  text : ∀ {f : String → String}, (∀ q ∈ qs, f q = answer.2.spelling q) → answer.1 = text f

namespace Gives

variable {α β γ : Type} {qs qs' : List String}

theorem const (s : Imports) (a : α) : Gives s [] (fun _ => a) (a, s) := ⟨rfl, fun _ => rfl⟩

theorem spell (s : Imports) (q : String) : Gives s [q] (fun f => f q) (s.spell q) := by
  refine ⟨rfl, fun h => ?_⟩
  rw [spell_fst, h q (List.mem_singleton_self q)]

theorem map (g : α → β) {t : (String → String) → α} {r : α × Imports} (h : Gives s qs t r) :
    Gives s qs (fun f => g (t f)) (g r.1, r.2) :=
  ⟨h.state, fun hf => congrArg g (h.text hf)⟩

theorem append (g : α → β → γ) {t : (String → String) → α} {r : α × Imports} (h : Gives s qs t r)
    {t' : (String → String) → β} {r' : β × Imports} (h' : Gives r.2 qs' t' r') :
    Gives s (qs ++ qs') (fun f => g (t f) (t' f)) (g r.1 r'.1, r'.2) := by
  refine ⟨?_, fun {f} hf => ?_⟩
  · rw [spellAll_append, ← h.state]
    exact h'.state
  · rw [List.forall_mem_append] at hf
    have hgrows : Grows r.2 r'.2 := h'.state ▸ grows_spellAll r.2 qs'
    rw [h'.text hf.2, h.text fun q hq => ?_]
    rw [hf.1 q hq, hgrows.spelling (h.state ▸ isSettled_spellAll s hq)]

end Gives

mutual

theorem gives_render : (t : JavaType) → (s : Imports) → Gives s t.classes (t.write ·) (s.render t)
  | .void, s => .const s _
  | .primitive _, s => .const s _
  | .declared q args, s => by
      rw [render]
      exact (Gives.spell s q).append (fun spelling texts => spelling ++ Text.angled texts) (gives_renderList args _)
  | .array c, s => by
      rw [render]
      exact (gives_render c s).map (· ++ "[]")
  | .free _, s => .const s _
  | .bounded _ _, s => .const s _

theorem gives_renderList : (ts : List JavaType) → (s : Imports) →
    Gives s (JavaType.classesOfList ts) (JavaType.writeList · ts) (s.renderList ts)
  | [], s => .const s _
  | t :: ts, s => by
      rw [renderList]
      exact (gives_render t s).append (· :: ·) (gives_renderList ts _)

end

theorem gives_renderParameter (s : Imports) (t : JavaType) :
    Gives s (Request.parameter t).classes (Request.parameter t |>.text) (s.renderParameter t) := by
  cases t with
  | bounded n b => exact (gives_render b s).map (n ++ " extends " ++ ·)
  | _ => exact gives_render _ s

theorem gives_answer (s : Imports) (r : Request) : Gives s r.classes r.text (s.answer r) := by
  cases r with
  | name q => exact .spell s q
  | type t => exact gives_render t s
  | parameter t => exact gives_renderParameter s t

theorem gives_answers (s : Imports) (rs : List Request) :
    Gives s (rs.flatMap Request.classes) (fun f => rs.map (Request.text f)) (s.answers rs) := by
  induction rs generalizing s with
  | nil => exact .const s _
  | cons r rs ih =>
      rw [List.flatMap_cons]
      exact (gives_answer s r).append (· :: ·) (ih _)

/-- A file that asks for its names in any order is consistent: each class has one spelling throughout and shares it with no
other class in a package, the imports are in order and only grow, and a short spelling stands on its import or needs none. -/
theorem answers_are_consistent (package : String) (reserved : List String) (requests : List Request) :
    let run := fun rs => answers { package, reserved } rs
    let final := (run requests).2
    let spelling := fun q => (final.spell q).1
    let asked := requests.flatMap Request.classes
    -- one spelling for each class, from its first answer to the last and in every answer after them
    (run requests).1 = requests.map (Request.text spelling) ∧
    -- no spelling for two classes
    (∀ q ∈ asked, ∀ q' ∈ asked, HasPackage q → HasPackage q' → q ≠ q' → spelling q ≠ spelling q') ∧
    -- imports that are in order, without clashes, and stay
    (final.imported.Pairwise (· < ·) ∧
      (final.imported.map simpleName).Nodup ∧
      (∀ q ∈ final.imported, simpleName q ∉ reserved ∧ simpleName q ∉ javaLang ∧
        packageName q ≠ "java.lang" ∧ packageName q ≠ package) ∧
      ∀ more, final.imported.Sublist (run (requests ++ more)).2.imported) ∧
    -- an import for every short spelling that needs one
    ∀ q ∈ asked, spelling q ≠ q →
      spelling q = relative q ∧
        (packageName q = package ∨ packageName q = "java.lang" ∨ topLevel q ∈ final.imported) := by
  intro run final spelling asked
  have hgives : Gives { package, reserved } asked (fun f => requests.map (Request.text f)) (run requests) :=
    gives_answers _ _
  have hstate : final = spellAll { package, reserved } asked := hgives.state
  have hgrows : Grows { package, reserved } final := hstate ▸ grows_spellAll _ _
  have hpackage : final.package = package := hgrows.package
  have hreserved : final.reserved = reserved := hgrows.reserved
  have horder : InOrder final := hstate ▸ (InOrder.start package reserved).spellAll asked
  have hspelling : ∀ q ∈ asked, spelling q = final.spelling q := fun q hq => by
    have hsettled : final.IsSettled q := hstate ▸ isSettled_spellAll _ hq
    exact spell_fst_of_isSettled hsettled
  refine ⟨hgives.text hspelling, fun q hq q' hq' hp hp' hne he => ?_, ⟨horder.sorted, horder.nodup_simpleName, ?_, ?_⟩, ?_⟩
  · rw [hspelling q hq, hspelling q' hq'] at he
    exact hne (spelling_injective hp hp' he)
  · intro q hq
    have hfree := horder.free q hq
    have hforeign := horder.foreign q hq
    exact ⟨hreserved ▸ hfree.1, hfree.2, hforeign.1, hpackage ▸ hforeign.2⟩
  · intro more
    have hmore := (gives_answers { package, reserved } (requests ++ more)).state
    rw [List.flatMap_append, spellAll_append, ← hstate] at hmore
    exact hmore ▸ (grows_spellAll final _).imported
  · intro q hq hne
    rw [hspelling q hq] at hne ⊢
    refine ⟨?_, ?_⟩
    · rw [Imports.spelling, if_pos]
      by_contra hs
      exact hne (if_neg hs)
    · by_contra hn
      simp only [not_or] at hn
      exact hn.2.2 (horder.mem_imported hne (hpackage ▸ hn.1) hn.2.1)

/-- Two classes of one simple name, and a class that is nested in an imported one. -/
theorem answers_are_consistent_rivals :
    let run := answers { package := "test", reserved := ["Made"] }
      [.name "test.Foo", .type (.declared "java.util.Map.Entry" [.declared "other.Foo" []]), .name "test.Foo"]
    run.1[0]? = run.1[2]? ∧
      (run.2.spell "test.Foo").1 ≠ (run.2.spell "other.Foo").1 ∧ "java.util.Map" ∈ run.2.imported := by
  intro run
  obtain ⟨hanswers, hdistinct, -, himports⟩ := answers_are_consistent "test" ["Made"]
    [.name "test.Foo", .type (.declared "java.util.Map.Entry" [.declared "other.Foo" []]), .name "test.Foo"]
  refine ⟨?_, ?_, ?_⟩
  · rw [hanswers]
    rfl
  · exact hdistinct "test.Foo" (by decide +kernel) "other.Foo" (by decide +kernel) (by decide +kernel) (by decide +kernel) (by decide +kernel)
  · obtain ⟨-, hentry⟩ := himports "java.util.Map.Entry" (by decide +kernel) (by decide +kernel)
    have htop : topLevel "java.util.Map.Entry" = "java.util.Map" := by decide +kernel
    beta_reduce at hentry
    rw [htop] at hentry
    subst run
    rcases hentry with hown | hlang | himported
    · exact absurd hown (by decide +kernel)
    · exact absurd hlang (by decide +kernel)
    · exact himported

end Imports

end ValueParcel
