import ValueParcel.Proofs.Source.Outline

/-!
The source follows the layout. The rows of the file that a class plan gives are those of an outline, and its arguments,
parameters and blocks stand one for each slot.
-/

namespace ValueParcel

/-! ## Parts of the class -/

namespace ClassPlan

open Text (Lacks lacks_append)

def names (p : ClassPlan) : List String :=
  p.package :: p.className :: p.superclass :: (JavaType.namesOfList p.typeParameters ++
    (p.properties.flatMap (·.names) ++ p.adapters.flatMap (·.names)))

/-- No name in the plan has a line break in it. -/
def IsSingleLined (p : ClassPlan) : Prop := ∀ n ∈ p.names, Lacks '\n' n

instance (p : ClassPlan) : Decidable p.IsSingleLined := inferInstanceAs (Decidable (∀ n ∈ p.names, _))

theorem lacks_header {p : ClassPlan} {c : Char} (hc : c ∈ Text.structural) (h : ∀ n ∈ p.names, Lacks c n) (s : Imports) :
    Lacks c (p.header s).1 := by
  have hi := Imports.isNotation_of_structural hc
  have ht : ∀ n ∈ JavaType.namesOfList p.typeParameters, Lacks c n := fun n hn => h n (by simp [names, hn])
  have hp := Imports.renderParameters_lacks hi s ht
  have ha := Imports.renderList_lacks hi p.typeParameters (s.renderParameters p.typeParameters).2 ht
  have hl : ∀ t : String, t.toList.all Imports.isNotation = true → Lacks c t := fun t => Imports.lacks_of_isNotation hi
  have hf : Lacks c (if p.isFinal then "final " else "") := by split <;> exact hl _ (by decide)
  simp only [header, lacks_append]
  exact ⟨⟨⟨⟨⟨⟨hf, hl _ (by decide)⟩, h _ (by simp [names])⟩, Text.lacks_angled (hl _ (by decide)) hp⟩, hl _ (by decide)⟩,
    h _ (by simp [names])⟩, Text.lacks_angled (hl _ (by decide)) ha⟩

/-- The static fields by type and name. -/
def fieldTexts (s : Imports) : List AdapterField → List (String × String)
  | [] => []
  | field :: rest => ((s.render field.type).1, field.name) :: fieldTexts (s.render field.type).2 rest

theorem rows_adapterLines (s : Imports) (fields : List AdapterField) :
    Code.rowsOfList 1 (adapterLines s fields).1 = (fieldTexts s fields).map Outline.fieldRow := by
  induction fields generalizing s with
  | nil => rfl
  | cons field fields ih => simp [adapterLines, Code.rowsOfList, Code.rows, ih, fieldTexts, Outline.fieldRow]

theorem rows_fields (s : Imports) (fields : List AdapterField) :
    Code.rowsOfList 1 (if fields.isEmpty then [] else (adapterLines s fields).1 ++ [.blank]) =
      Outline.fieldRows (fieldTexts s fields) := by
  cases fields with
  | nil => rfl
  | cons field rest =>
      rw [Outline.fieldRows, ← rows_adapterLines]
      simp [Code.rowsOfList_append, Code.rowsOfList, Code.rows, fieldTexts]

theorem lacks_fieldTexts {fields : List AdapterField} {c : Char} (hc : c ∈ Text.structural)
    (h : ∀ n ∈ fields.flatMap (·.names), Lacks c n) (s : Imports) :
    ∀ f ∈ fieldTexts s fields, Lacks c f.1 ∧ Lacks c f.2 := by
  induction fields generalizing s with
  | nil => simp [fieldTexts]
  | cons field fields ih =>
      rw [List.flatMap_cons, List.forall_mem_append, AdapterField.names, List.forall_mem_cons] at h
      rw [fieldTexts, List.forall_mem_cons]
      exact ⟨⟨Imports.render_lacks (Imports.isNotation_of_structural hc) field.type s h.1.2, h.1.1⟩, ih h.2 _⟩

theorem rows_argumentLines (reads : List ReadFragment) :
    Code.rowsOfList 5 (argumentLines reads) = Outline.argumentRows (reads.map (·.code)) := by
  fun_induction argumentLines reads with
  | case1 => rfl
  | case2 r => rfl
  | case3 r s rest ih => simpa [Code.rowsOfList, Code.rows, Outline.argumentRows] using ih

theorem rows_createBody (p : ClassPlan) (reads : List ReadFragment) :
    Code.rowsOfList 3 (p.createBody reads) = Outline.returnRows p.className (reads.map (·.code)) := by
  cases reads with
  | nil => rfl
  | cons r reads => simp [createBody, Code.rowsOfList, Code.rows, rows_argumentLines, Outline.returnRows]

/-- The type of the variable for the class loader, if there is one. -/
def loaderType? (s : Imports) (reads : List ReadFragment) : Option String :=
  if reads.any (·.usesLoader) then some (s.spell WellKnown.classLoader).1 else none

theorem rows_loaderLines (p : ClassPlan) (s : Imports) (reads : List ReadFragment) :
    Code.rowsOfList 3 (p.loaderLines s reads).1 = Outline.loaderRows p.className (loaderType? s reads) := by
  unfold loaderLines loaderType?
  split
  · simp [Code.rowsOfList, Code.rows, Encoding.loaderName, Outline.loaderRows, String.append_assoc]
  · rfl

theorem rows_creator (p : ClassPlan) (s : Imports) (creatorType parcelType : String) (reads : List ReadFragment) :
    (p.creator s creatorType parcelType reads).1.rows 1 =
      Outline.creatorRows p.className creatorType (p.suppresses reads)
        (Outline.createRows p.className parcelType (loaderType? s reads) (reads.map (·.code))) := by
  have hb : Code.rowsOfList 3 ((p.loaderLines s reads).1 ++ p.createBody reads) =
      Outline.loaderRows p.className (loaderType? s reads) ++
        Outline.returnRows p.className (reads.map (·.code)) := by
    rw [Code.rowsOfList_append, rows_loaderLines, rows_createBody]
  cases h : p.suppresses reads <;>
    simp [creator, h, hb, Code.rows, Code.rowsOfList, Outline.creatorRows, Outline.createRows, Outline.newArrayRows,
      creatorField, Encoding.sourceName, String.append_assoc]

theorem rows_constructorCode (p : ClassPlan) (s : Imports) :
    (p.constructorCode s).1.rows 1 = Outline.constructorRows p.className (parameterTexts s p.properties).1
      (p.properties.map (·.descriptor.name)) := by
  simp [constructorCode, Code.rows, Code.rowsOfList, Outline.constructorRows, String.append_assoc]

theorem rows_writeMethod (parcelType : String) (writes : List WriteFragment) :
    Code.rowsOfList 1 (writeMethod parcelType writes) =
      Outline.writeRows parcelType (writes.map fun w => (writeCode w).rows 2) := by
  have hw : Code.rowsOfList 2 (writes.map writeCode) = (writes.map fun w => (writeCode w).rows 2).flatten := by
    rw [Code.rowsOfList_eq_flatMap, List.flatMap_map, List.flatMap_def]
  simp [writeMethod, Code.rows, Code.rowsOfList, hw, Outline.writeRows, Encoding.targetName, Encoding.flagsName,
    String.append_assoc]

theorem rows_describeMethod (p : ClassPlan) :
    Code.rowsOfList 1 p.describeMethod = Outline.describeRows p.describeContents := by
  cases h : p.describeContents <;> simp [describeMethod, h, Code.rows, Code.rowsOfList, Outline.describeRows]

theorem rows_opening (p : ClassPlan) (s : Imports) (comment : Option String) :
    Code.rowsOfList 0 (p.preamble s ++ (comment.map fun doc => Code.line (Comment.block doc)).toList) =
      Outline.openingRows p.package s.imported (comment.map Comment.block) := by
  have hi : Code.rowsOfList 0 (s.imported.map fun name => .line ("import " ++ name ++ ";")) =
      s.imported.map fun name => ⟨0, "import " ++ name ++ ";"⟩ := by
    rw [Code.rowsOfList_eq_flatMap, List.flatMap_map, List.map_eq_flatMap]
    rfl
  have hp : Code.rowsOfList 0 (if p.package = "" then [] else [.line ("package " ++ p.package ++ ";"), .blank]) =
      if p.package = "" then [] else [⟨0, "package " ++ p.package ++ ";"⟩, ⟨0, ""⟩] := by
    split <;> rfl
  have hb : Code.rowsOfList 0 (if s.imported.isEmpty then [] else [.blank]) =
      if s.imported.isEmpty then [] else [⟨0, ""⟩] := by
    split <;> rfl
  have hc : Code.rowsOfList 0 (comment.map fun doc => Code.line (Comment.block doc)).toList =
      (comment.map Comment.block).toList.map fun text => ⟨0, text⟩ := by
    cases comment <;> rfl
  simp only [preamble, Code.rowsOfList_append, hi, hp, hb, hc, Outline.openingRows]

theorem parameterTexts_follow (ps : List PlannedProperty) (s : Imports) :
    List.Forall₂ (fun p parameter => ∃ type, parameter = type ++ " " ++ p.descriptor.name) ps
      (parameterTexts s ps).1 := by
  induction ps generalizing s with
  | nil => exact .nil
  | cons p ps ih => exact .cons ⟨_, rfl⟩ (ih _)

theorem lacks_parameterTexts {ps : List PlannedProperty} {c : Char} (hc : c ∈ Text.structural)
    (h : ∀ n ∈ ps.flatMap (·.names), Lacks c n) (s : Imports) : ∀ text ∈ (parameterTexts s ps).1, Lacks c text := by
  induction ps generalizing s with
  | nil => simp [parameterTexts]
  | cons p ps ih =>
      rw [List.flatMap_cons, List.forall_mem_append] at h
      have hi := Imports.isNotation_of_structural hc
      have hd : ∀ n ∈ p.descriptor.declared.names, Lacks c n :=
        fun n hn => h.1 n (by simp [PlannedProperty.names, hn])
      have ht := Imports.render_lacks hi p.descriptor.declared s hd
      rw [parameterTexts, List.forall_mem_cons]
      have hgap : Text.IsInline " " := by decide
      refine ⟨?_, ih h.2 _⟩
      exact lacks_append.2 ⟨lacks_append.2 ⟨ht, hgap c hc⟩, h.1 _ (by simp [PlannedProperty.names])⟩

theorem lacks_spellings {p : ClassPlan} {c : Char} (h : ∀ n ∈ p.names, Lacks c n) :
    Lacks c p.className ∧ (∀ n ∈ p.properties.flatMap (·.names), Lacks c n) ∧
      ∀ n ∈ p.adapters.flatMap (·.names), Lacks c n := by
  refine ⟨h _ (by simp [names]), ?_, ?_⟩
  · exact fun n hn => h n (by simp only [names, List.mem_cons, List.mem_append, hn, true_or, or_true])
  · exact fun n hn => h n (by simp only [names, List.mem_cons, List.mem_append, hn, or_true])

/-! ## The file -/

/-- The outline of the file. -/
def outline (p : ClassPlan) (config : Config) : Outline :=
  let parcel := Imports.spell { package := p.package, reserved := p.reservedNames } WellKnown.parcel
  let creator := parcel.2.spell WellKnown.parcelableCreator
  let fragments := PlannedProperty.fragments creator.2 p.properties
  let reads := fragments.1.map (·.1)
  let header := p.header fragments.2
  let fields := adapterLines header.2 p.adapters
  let creating := p.creator fields.2 creator.1 parcel.1 reads
  { package := p.package
    imports := (p.constructorCode creating.2).2.imported
    comment := (config.comments.lookup p.valueClass).map Comment.block
    className := p.className
    header := header.1
    fields := fieldTexts header.2 p.adapters
    creatorType := creator.1
    parcelType := parcel.1
    suppresses := p.suppresses reads
    loaderType := loaderType? fields.2 reads
    arguments := fragments.1.map (·.1.code)
    parameters := (parameterTexts creating.2 p.properties).1
    superArguments := p.properties.map (·.descriptor.name)
    blocks := fragments.1.map fun f => (writeCode f.2).rows 2
    describes := p.describeContents }

theorem rows_file (p : ClassPlan) (config : Config) : Code.rowsOfList 0 (p.file config) =
    Outline.openingRows (p.outline config).package (p.outline config).imports (p.outline config).comment ++
      (p.outline config).classRows := by
  -- each part is spelled with the imports that the part before it has left
  rcases hs₁ : Imports.spell { package := p.package, reserved := p.reservedNames } WellKnown.parcel
    with ⟨parcelType, s₁⟩
  rcases hs₂ : s₁.spell WellKnown.parcelableCreator with ⟨creatorType, s₂⟩
  rcases hs₃ : PlannedProperty.fragments s₂ p.properties with ⟨fragments, s₃⟩
  rcases hs₄ : p.header s₃ with ⟨header, s₄⟩
  rcases hs₅ : adapterLines s₄ p.adapters with ⟨adapters, s₅⟩
  rcases hs₆ : p.creator s₅ creatorType parcelType (fragments.map (·.1)) with ⟨creator, s₆⟩
  rcases hs₇ : p.constructorCode s₆ with ⟨constructor, s₇⟩
  have hf := rows_fields s₄ p.adapters
  have hc := p.rows_creator s₅ creatorType parcelType (fragments.map (·.1))
  have hn := p.rows_constructorCode s₆
  rw [hs₅] at hf
  rw [hs₆] at hc
  rw [hs₇] at hn
  simp only [file, body, outline, hs₁, hs₂, hs₃, hs₄, hs₅, hs₆, hs₇]
  rw [← List.append_assoc, Code.rowsOfList_append, rows_opening]
  simp [-List.isEmpty_iff, Outline.classRows, Code.rowsOfList_append, Code.rowsOfList, Code.rows, hf, hc, hn,
    rows_writeMethod, rows_describeMethod, Function.comp_def]

theorem outline_follows (p : ClassPlan) (config : Config) : (p.outline config).Follows p := by
  have hf := fun s => PlannedProperty.fragments_follow p.properties s
  refine ⟨rfl, ?_, ?_, ?_, ?_⟩
  · simp only [outline, layout, List.forall₂_map_left_iff, List.forall₂_map_right_iff]
    exact (hf _).imp fun q f h => h.1
  · simp only [outline, layout, List.forall₂_map_left_iff]
    exact parameterTexts_follow p.properties _
  · simp [outline, layout, PlannedProperty.slot]
  · simp only [outline, layout, List.zip_map', List.forall₂_map_left_iff, List.forall₂_map_right_iff]
    exact (hf _).imp fun q f h => h.2 2

theorem isSingleLined_outline {p : ClassPlan} (h : p.IsSingleLined) (config : Config) :
    (p.outline config).IsSingleLined := by
  obtain ⟨hc, hp, ha⟩ := lacks_spellings h
  have hf := fun s => PlannedProperty.isLine_fragments hp s
  have hl : ∀ (s : Imports) (name : String), Lacks '\n' name → Lacks '\n' (s.spell name).1 :=
    fun s _ => Imports.spell_lacks s
  constructor
  case className => exact hc
  case header => exact lacks_header (by decide) h _
  case fields =>
    refine List.forall_mem_map.2 fun f hf => ?_
    obtain ⟨ht, hn⟩ := lacks_fieldTexts (by decide) ha _ f hf
    simp +decide [Outline.fieldRow, ht, hn]
  case creatorType => exact hl _ WellKnown.parcelableCreator (by decide)
  case parcelType => exact hl _ WellKnown.parcel (by decide)
  case loaderType =>
    simp only [outline, loaderType?]
    split
    · simp [hl _ WellKnown.classLoader (by decide)]
    · simp
  case arguments => exact List.forall_mem_map.2 fun f hm => (hf _ f hm).1
  case parameters => exact lacks_parameterTexts (by decide) hp _
  case superArguments =>
    refine List.forall_mem_map.2 fun q hq => hp _ (List.mem_flatMap.2 ⟨q, hq, ?_⟩)
    exact List.mem_cons_self ..
  case blocks => exact List.forall_mem_map.2 fun f hm => (hf _ f hm).2 2

/-- A plan with a flag, an adapter, and a type that takes the class loader. -/
def trackPlan : ClassPlan := {
  package := "music"
  className := "AutoValue_Track"
  superclass := "$AutoValue_Track"
  properties := [
    ⟨{ name := "title", methodName := "title", declared := .raw WellKnown.string, resolved := .raw WellKnown.string,
       nullable := true }, .family .string⟩,
    ⟨{ name := "tags", methodName := "tags", declared := .declared WellKnown.map [.raw WellKnown.string, .free "T"],
       resolved := .raw WellKnown.map, nullable := true }, .family .map⟩,
    ⟨{ name := "year", methodName := "year", declared := .primitive .int, resolved := .primitive .int,
       nullable := false }, .adapter ⟨.raw "music.YearAdapter", "YEAR_ADAPTER"⟩⟩]
  adapters := [⟨.raw "music.YearAdapter", "YEAR_ADAPTER"⟩] }

end ClassPlan

end ValueParcel
