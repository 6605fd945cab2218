import ValueParcel.Proofs.Source.SlotBySlot
import ValueParcel.Proofs.Source.Spelling

/-!
What a file asks for. Each part of the source spells some classes, so the imports in the end are those of one run over names
that are in the plan or known to the generator.
-/

namespace ValueParcel

/-! ## Classes among names -/

namespace JavaType

mutual

theorem classes_subset_names : (t : JavaType) → t.classes ⊆ t.names
  | .void | .primitive _ => List.nil_subset _
  | .declared q args => List.cons_subset_cons q (classesOfList_subset_names args)
  | .array c => classes_subset_names c
  | .free _ | .bounded _ _ => List.nil_subset _

theorem classesOfList_subset_names : (ts : List JavaType) → classesOfList ts ⊆ namesOfList ts
  | [] => List.nil_subset _
  | t :: ts => List.append_subset.2
      ⟨List.subset_append_of_subset_left _ (classes_subset_names t),
        List.subset_append_of_subset_right _ (classesOfList_subset_names ts)⟩

end

end JavaType

namespace Imports

open QualifiedName

/-- The classes that the generator asks for by name. -/
def known : List String :=
  [WellKnown.parcel, WellKnown.parcelableCreator, WellKnown.classLoader, WellKnown.textUtils, WellKnown.enum,
    WellKnown.object]

/-- The state is that behind a run over names of the given kind. -/
def Reaches (P : String → Prop) (s s' : Imports) : Prop := ∃ qs : List String, (∀ q ∈ qs, P q) ∧ s' = s.spellAll qs

namespace Reaches

variable {P : String → Prop} {s s' s'' : Imports} {q n : String} {t : JavaType} {ts : List JavaType}

theorem refl (s : Imports) : Reaches P s s := ⟨[], nofun, rfl⟩

theorem trans (h : Reaches P s s') (h' : Reaches P s' s'') : Reaches P s s'' := by
  obtain ⟨qs, hq, rfl⟩ := h
  obtain ⟨qs', hq', rfl⟩ := h'
  exact ⟨qs ++ qs', List.forall_mem_append.2 ⟨hq, hq'⟩, (spellAll_append s qs qs').symm⟩

theorem spell (s : Imports) (h : P q) : Reaches P s (s.spell q).2 := ⟨[q], List.forall_mem_singleton.2 h, rfl⟩

theorem of_gives {α : Type} {qs : List String} {text : (String → String) → α} {answer : α × Imports}
    (hg : Gives s qs text answer) (h : ∀ q ∈ qs, P q) : Reaches P s answer.2 := ⟨qs, h, hg.state⟩

theorem render (s : Imports) (h : ∀ n ∈ t.names, P n) : Reaches P s (s.render t).2 :=
  of_gives (gives_render t s) fun q hq => h q (t.classes_subset_names hq)

theorem renderList (s : Imports) (h : ∀ n ∈ JavaType.namesOfList ts, P n) : Reaches P s (s.renderList ts).2 :=
  of_gives (gives_renderList ts s) fun q hq => h q (JavaType.classesOfList_subset_names ts hq)

theorem renderParameter (s : Imports) (h : ∀ n ∈ t.names, P n) : Reaches P s (s.renderParameter t).2 := by
  cases t with
  | bounded n b => exact render s fun m hm => h m (List.mem_cons_of_mem _ hm)
  | _ => exact render s h

theorem renderParameters (s : Imports) (h : ∀ n ∈ JavaType.namesOfList ts, P n) :
    Reaches P s (s.renderParameters ts).2 := by
  induction ts generalizing s with
  | nil => exact refl s
  | cons t ts ih =>
      rw [JavaType.namesOfList, List.forall_mem_append] at h
      exact (renderParameter s h.1).trans (ih _ h.2)

/-- What is imported was there, or is the top-level class of a name of the kind. -/
theorem mem_imported (h : Reaches P s s') (hn : n ∈ s'.imported) :
    n ∈ s.imported ∨ ∃ q, P q ∧ HasPackage q ∧ n = topLevel q := by
  obtain ⟨qs, hq, rfl⟩ := h
  induction qs generalizing s with
  | nil => exact .inl hn
  | cons q qs ih =>
      obtain ⟨hp, hrest⟩ := List.forall_mem_cons.1 hq
      rcases ih hrest hn with hm | hm
      · dsimp only at hm
        rcases spell_cases s q with ⟨-, he⟩ | ⟨hpackage, -, -, -, he⟩
        · rw [he] at hm
          exact .inl hm
        · rw [he] at hm
          rcases mem_imported_claim.1 hm with hm | ⟨rfl, -⟩
          · exact .inl hm
          · exact .inr ⟨q, hp, hpackage, rfl⟩
      · exact .inr hm

end Reaches

end Imports

/-! ## The parts of a file -/

open Imports (Reaches)

section Parts

variable {P : String → Prop} (hk : ∀ q ∈ Imports.known, P q)

include hk

namespace Family

theorem reaches_helperText (f : Family) (s : Imports) : Reaches P s (f.helperText s).2 := by
  have hh : ∀ name ∈ f.encoding.helper, name ∈ Imports.known := by
    cases f with
    | primitive k | boxed k => cases k <;> decide
    | _ => decide
  unfold helperText
  split
  · rename_i name hn
    exact .spell s (hk name (hh name hn))
  · exact .refl s

theorem reaches_readExpression (f : Family) (s : Imports) {declared : JavaType} (h : ∀ n ∈ declared.names, P n) :
    Reaches P s (f.readExpression s declared).2 := by
  have hcast : Reaches P s (f.castText s declared).2 := by
    unfold castText
    split
    · exact .render s h
    · exact .refl s
  have hr : ∀ n ∈ declared.resolve.names, P n := fun n hn => h n (declared.names_resolve_subset hn)
  have ha : ∀ n ∈ JavaType.namesOfList declared.resolve.arguments, P n :=
    fun n hn => hr n (declared.resolve.namesOfList_arguments_subset hn)
  have he : ∀ n ∈ declared.resolve.erasure.names, P n := by
    intro n hn
    rcases JavaType.mem_names_erasure hn with hn | rfl
    · exact hr n hn
    · exact hk _ (by decide)
  exact ((hcast.trans (.renderList _ ha)).trans (.render _ he)).trans (f.reaches_helperText hk _)

end Family

namespace PlannedProperty

variable {ps : List PlannedProperty}

theorem reaches_read {p : PlannedProperty} (h : ∀ n ∈ p.descriptor.declared.names, P n) (s : Imports) :
    Reaches P s (p.read s).2 := by
  have hv : Reaches P s (p.readValue s).2 := by
    unfold readValue
    split
    · exact .refl s
    · exact Family.reaches_readExpression hk _ s h
  unfold read
  dsimp only
  split
  · exact hv
  · exact hv

theorem reaches_write (p : PlannedProperty) (s : Imports) : Reaches P s (p.write s).2 := by
  have hv : Reaches P s (p.writeValue s).2 := by
    unfold writeValue
    split
    · exact .refl s
    · exact Family.reaches_helperText hk _ s
  exact hv

theorem reaches_fragments (h : ∀ p ∈ ps, ∀ n ∈ p.descriptor.declared.names, P n) (s : Imports) :
    Reaches P s (fragments s ps).2 := by
  induction ps generalizing s with
  | nil => exact .refl s
  | cons p ps ih =>
      obtain ⟨hp, hrest⟩ := List.forall_mem_cons.1 h
      exact ((reaches_read hk hp s).trans (p.reaches_write hk _)).trans (ih hrest _)

end PlannedProperty

namespace ClassPlan

omit hk in
theorem reaches_header {p : ClassPlan} (h : ∀ n ∈ JavaType.namesOfList p.typeParameters, P n) (s : Imports) :
    Reaches P s (p.header s).2 :=
  (Reaches.renderParameters s h).trans (.renderList _ h)

omit hk in
theorem reaches_adapterLines {fields : List AdapterField} (h : ∀ f ∈ fields, ∀ n ∈ f.type.names, P n) (s : Imports) :
    Reaches P s (adapterLines s fields).2 := by
  induction fields generalizing s with
  | nil => exact .refl s
  | cons field fields ih =>
      obtain ⟨hf, hrest⟩ := List.forall_mem_cons.1 h
      exact (Reaches.render s hf).trans (ih hrest _)

theorem reaches_creator (p : ClassPlan) (s : Imports) (creatorType parcelType : String) (reads : List ReadFragment) :
    Reaches P s (p.creator s creatorType parcelType reads).2 := by
  have hl : Reaches P s (p.loaderLines s reads).2 := by
    unfold loaderLines
    split
    · exact .spell s (hk _ (by decide))
    · exact .refl s
  exact hl

omit hk in
theorem reaches_parameterTexts {ps : List PlannedProperty} (h : ∀ p ∈ ps, ∀ n ∈ p.descriptor.declared.names, P n)
    (s : Imports) : Reaches P s (parameterTexts s ps).2 := by
  induction ps generalizing s with
  | nil => exact .refl s
  | cons p ps ih =>
      obtain ⟨hp, hrest⟩ := List.forall_mem_cons.1 h
      exact (Reaches.render s hp).trans (ih hrest _)

/-- The imports of a file are those of a run over names of the plan and known ones. -/
theorem reaches_outline {p : ClassPlan} (h : ∀ n ∈ p.names, P n) (config : Config) :
    ∃ s, Reaches P { package := p.package, reserved := p.reservedNames } s ∧ (p.outline config).imports = s.imported := by
  have hp : ∀ q ∈ p.properties, ∀ n ∈ q.descriptor.declared.names, P n := by
    intro q hq n hn
    have hm : n ∈ p.properties.flatMap (·.names) :=
      List.mem_flatMap.2 ⟨q, hq, by simp [PlannedProperty.names, hn]⟩
    exact h n (by simp only [names, List.mem_cons, List.mem_append, hm, true_or, or_true])
  have ha : ∀ f ∈ p.adapters, ∀ n ∈ f.type.names, P n := by
    intro f hf n hn
    have hm : n ∈ p.adapters.flatMap (·.names) := List.mem_flatMap.2 ⟨f, hf, List.mem_cons_of_mem _ hn⟩
    exact h n (by simp only [names, List.mem_cons, List.mem_append, hm, or_true])
  have ht : ∀ n ∈ JavaType.namesOfList p.typeParameters, P n := fun n hn => h n (by simp [names, hn])
  have hparcel := Reaches.spell { package := p.package, reserved := p.reservedNames } (hk WellKnown.parcel (by decide))
  have hcreator := hparcel.trans (.spell _ (hk WellKnown.parcelableCreator (by decide)))
  have hfragments := hcreator.trans (PlannedProperty.reaches_fragments hk hp _)
  have hfields := (hfragments.trans (reaches_header ht _)).trans (reaches_adapterLines ha _)
  exact ⟨_, (hfields.trans (p.reaches_creator hk _ _ _ _)).trans (reaches_parameterTexts hp _), rfl⟩

end ClassPlan

end Parts

end ValueParcel
