import Mathlib.Data.List.Forall2
import Mathlib.Data.List.Nodup
import ValueParcel.Proofs.Property.Adapters

/-!
The model of some properties, part by part: descriptors in the order of the properties, names of parameters from the names
of the properties, and a field for each adapter class where it is first used. What the fields are called is left to the
caller.
-/

namespace ValueParcel

/-! ## Descriptors of properties -/

/-- The descriptor is that of the property, up to the names of its parameter and of the field of its adapter. -/
def Descriptor.Describes (p : Property) (d : Descriptor) : Prop :=
  ∃ name adapter, d = PropertyModel.describe p name adapter ∧ adapter.map (·.type) = p.method.adapterType?

namespace PropertyModel

open Identifier (Allocator)

theorem describes_addAll (suggest : JavaType → String) (ps : List Property) (model : PropertyModel)
    (names parameters : Allocator) :
    ∃ ds, (addAll suggest model names parameters ps).1.properties = model.properties ++ ds ∧
      List.Forall₂ Descriptor.Describes ps ds := by
  induction ps generalizing model names parameters with
  | nil => exact ⟨[], by simp [addAll], .nil⟩
  | cons p ps ih =>
      rcases hn : parameters.allocate p.name with ⟨name, parameters'⟩
      cases ha : p.method.adapterType? with
      | none =>
          obtain ⟨ds, hd, hf⟩ := ih { model with properties := model.properties ++ [describe p name none] } names
            parameters'
          refine ⟨describe p name none :: ds, ?_, .cons ⟨name, none, rfl, ha.symm⟩ hf⟩
          simp only [addAll, hn, ha, hd, List.append_assoc, List.singleton_append]
      | some type =>
          have ht := type_bind suggest model.adapters names type
          rcases hb : bind suggest model.adapters names type with ⟨field, adapters, names'⟩
          rw [hb] at ht
          obtain ⟨ds, hd, hf⟩ := ih ⟨model.properties ++ [describe p name (some field)], adapters⟩ names' parameters'
          refine ⟨describe p name (some field) :: ds, ?_, .cons ⟨name, some field, rfl, ?_⟩ hf⟩
          · simp only [addAll, hn, ha, hb, hd, List.append_assoc, List.singleton_append]
          · rw [ha, Option.map_some, ht]

theorem describes_build {suggest : JavaType → String} (ps : List Property) (names : Allocator) :
    List.Forall₂ Descriptor.Describes ps (build ps names suggest).1.properties := by
  obtain ⟨ds, hd, hf⟩ := describes_addAll suggest ps {} names {}
  rw [build, hd]
  exact hf

/-! ## Names of parameters -/

theorem names_addAll (suggest : JavaType → String) (ps : List Property) (model : PropertyModel)
    (names parameters : Allocator) : (addAll suggest model names parameters ps).1.properties.map (·.name) =
      model.properties.map (·.name) ++ (parameters.allocateAll (ps.map (·.name))).1 := by
  induction ps generalizing model names parameters with
  | nil => exact (List.append_nil _).symm
  | cons p ps ih =>
      cases ha : p.method.adapterType? with
      | none => simp [addAll, ha, ih, Allocator.allocateAll_cons, describe]
      | some type => simp [addAll, ha, ih, Allocator.allocateAll_cons, describe]

theorem names_build {suggest : JavaType → String} (ps : List Property) (names : Allocator) :
    (build ps names suggest).1.properties.map (·.name) = (({} : Allocator).allocateAll (ps.map (·.name))).1 :=
  names_addAll suggest ps {} names {}

/-! ## Fields in order of first use -/

theorem nodup_eraseDups {α : Type} [BEq α] [LawfulBEq α] (xs : List α) : xs.eraseDups.Nodup := by
  match xs with
  | [] => exact List.nodup_nil
  | x :: xs =>
    rw [List.eraseDups_cons, List.nodup_cons]
    exact ⟨by simp, nodup_eraseDups _⟩
termination_by xs.length
decreasing_by exact Nat.lt_succ_of_le (List.length_filter_le _ _)

theorem eraseDups_concat {α : Type} [BEq α] [LawfulBEq α] (xs : List α) (x : α) :
    (xs ++ [x]).eraseDups = if x ∈ xs then xs.eraseDups else xs.eraseDups ++ [x] := by
  rw [List.eraseDups_append, List.cons_removeAll]
  by_cases h : x ∈ xs
  · simp [h]
  · simp [h, List.eraseDups_cons]

/-- The fields are those of the adapter classes `asked`, each where it was first asked for, and have their names from
`given`. -/
structure Serves (suggest : JavaType → String) (given : Allocator) (asked : List JavaType) (adapters : List AdapterField)
    (names : Allocator) : Prop where
  types : adapters.map (·.type) = asked.eraseDups
  allocated : given.allocateAll (asked.eraseDups.map suggest) = (adapters.map (·.name), names)

namespace Serves

variable {suggest : JavaType → String} {given names : Allocator} {asked : List JavaType} {adapters : List AdapterField}

theorem bind (h : Serves suggest given asked adapters names) (type : JavaType) :
    Serves suggest given (asked ++ [type]) (bind suggest adapters names type).2.1 (bind suggest adapters names type).2.2 := by
  have hmem : type ∈ asked ↔ ∃ a ∈ adapters, a.type = type := by
    rw [← List.mem_eraseDups, ← h.types, List.mem_map]
  rcases bind_cases suggest adapters names type with ⟨a, ha, ht, hb⟩ | ⟨hnone, hb⟩
  · have hm : type ∈ asked := hmem.2 ⟨a, ha, ht⟩
    rw [hb]
    constructor
    · rw [eraseDups_concat, if_pos hm, h.types]
    · rw [eraseDups_concat, if_pos hm, h.allocated]
  · have hm : type ∉ asked := fun hm => by
      obtain ⟨a, ha, ht⟩ := hmem.1 hm
      exact hnone a ha ht
    rw [hb]
    constructor
    · rw [eraseDups_concat, if_neg hm, List.map_append, h.types]
      rfl
    · rw [eraseDups_concat, if_neg hm, List.map_append, Allocator.allocateAll_append, h.allocated, List.map_append]
      rfl

theorem addAll (ps : List Property) {model : PropertyModel} {parameters : Allocator}
    (h : Serves suggest given asked model.adapters names) :
    Serves suggest given (asked ++ ps.filterMap (·.method.adapterType?))
      (addAll suggest model names parameters ps).1.adapters (addAll suggest model names parameters ps).2 := by
  induction ps generalizing asked model names parameters with
  | nil => rwa [List.filterMap_nil, List.append_nil]
  | cons p ps ih =>
      cases ha : p.method.adapterType? with
      | none =>
          simp only [PropertyModel.addAll, List.filterMap_cons, ha]
          exact ih h
      | some type =>
          simp only [PropertyModel.addAll, List.filterMap_cons, ha]
          rw [List.append_cons]
          exact ih (h.bind type)

end Serves

theorem serves_build (suggest : JavaType → String) (ps : List Property) (names : Allocator) :
    Serves suggest names (ps.filterMap (·.method.adapterType?)) (build ps names suggest).1.adapters
      (build ps names suggest).2 := by
  have hs : Serves suggest names [] ({} : PropertyModel).adapters names := ⟨rfl, rfl⟩
  exact hs.addAll ps

/-! ## The model of some properties -/

/-- The field for the adapter class of a property. -/
def field? (model : PropertyModel) (p : Property) : Option AdapterField :=
  p.method.adapterType?.bind fun type => model.adapters.find? (·.type = type)

theorem find?_eq_some {adapters : List AdapterField} (h : (adapters.map (·.type)).Nodup) {a : AdapterField}
    (ha : a ∈ adapters) : adapters.find? (·.type = a.type) = some a := by
  cases hf : adapters.find? (·.type = a.type) with
  | none => exact absurd ((List.find?_eq_none.1 hf) a ha) (by simp)
  | some b =>
      have hb : b.type = a.type := by simpa using List.find?_some hf
      rw [List.inj_on_of_nodup_map h (List.mem_of_find?_eq_some hf) ha hb]

/-- A model has the properties in their order, with parameters named apart, and a field for each adapter class, in order of
first use. Properties share a field if and only if their adapter classes are equal, and the fields are named apart, also from
what was named before. It does not matter what they are suggested to be called. -/
theorem built_in_order (suggest : JavaType → String) (ps : List Property) (names : Allocator) :
    let model := (build ps names suggest).1
    List.Forall₂ (fun p d => d.methodName = p.method.name ∧ d.declared = p.method.returnType ∧
      d.adapter = model.field? p ∧ d.adapter.map (·.type) = p.method.adapterType?) ps model.properties ∧
    (model.properties.map (·.name)).Nodup ∧
    (∀ d ∈ model.properties, d.name ∉ Identifier.keywords) ∧
    model.adapters.map (·.type) = (ps.filterMap (·.method.adapterType?)).eraseDups ∧
    (∀ d ∈ model.properties, ∀ e ∈ model.properties, ∀ a ∈ d.adapter, ∀ b ∈ e.adapter,
      a.name = b.name ↔ a.type = b.type) ∧
    (model.adapters.map (·.name)).Nodup ∧
    ∀ a ∈ model.adapters, a.name ∉ Identifier.keywords ∧ a.name ∉ names.taken := by
  intro model
  obtain ⟨htypes, hnames⟩ := serves_build suggest ps names
  have htype : (model.adapters.map (·.type)).Nodup := htypes ▸ nodup_eraseDups _
  obtain ⟨hname, hfresh⟩ := names.allocateAll_fresh ((ps.filterMap (·.method.adapterType?)).eraseDups.map suggest)
  rw [hnames] at hname hfresh
  obtain ⟨hparameter, hlist⟩ := ({} : Allocator).allocateAll_fresh (ps.map (·.name))
  have hparameters : model.properties.map (·.name) = _ := names_build ps names
  have hdeclared : ∀ d ∈ model.properties, ∀ a ∈ d.adapter, a ∈ model.adapters :=
    (isBound_build suggest ps names).declared
  refine ⟨?descriptors, hparameters ▸ hparameter, ?parameters, htypes, ?shared, hname, ?fields⟩
  case descriptors =>
    have hd : List.Forall₂ Descriptor.Describes ps model.properties := describes_build ps names
    refine List.forall₂_iff_zip.2 ⟨hd.length_eq, fun {p d} hm => ?_⟩
    have hp := List.of_mem_zip hm
    obtain ⟨name, adapter, rfl, ha⟩ := (List.forall₂_iff_zip.1 hd).2 hm
    refine ⟨rfl, rfl, ?_, ha⟩
    rw [field?, ← ha]
    cases adapter with
    | none => rfl
    | some a => exact (find?_eq_some htype (hdeclared _ hp.2 a rfl)).symm
  case parameters =>
    intro d hd
    exact (hlist d.name (hparameters ▸ List.mem_map_of_mem hd)).1
  case shared =>
    intro d hd e he a ha b hb
    have ham := hdeclared d hd a ha
    have hbm := hdeclared e he b hb
    constructor
    · intro h
      rw [List.inj_on_of_nodup_map hname ham hbm h]
    · intro h
      rw [List.inj_on_of_nodup_map htype ham hbm h]
  case fields =>
    intro a ha
    exact hfresh a.name (List.mem_map_of_mem ha)

/-- Two adapter classes of one simple name, one of them for two properties. -/
def appointment : List Property :=
  let dated := fun name adapter => { Method.accessor name (.raw "java.util.Date") with
    annotations := [{ name := adapterMark, value := some (.raw adapter) }] }
  [⟨"class", dated "start" "test.DayAdapter"⟩, ⟨"notes", .accessor "notes" (.raw "java.lang.String")⟩,
    ⟨"class", dated "end" "test.DayAdapter"⟩, ⟨"booked", dated "booked" "other.DayAdapter"⟩]

theorem built_in_order_appointment :
    let model := (build appointment ⟨["class_"]⟩ fun _ => "class").1
    model.properties.map (·.name) = ["class_", "notes", "class__", "booked"] ∧
    model.adapters = [⟨.raw "test.DayAdapter", "class__"⟩, ⟨.raw "other.DayAdapter", "class___"⟩] ∧
    ∀ d ∈ model.properties, ∀ e ∈ model.properties, ∀ a ∈ d.adapter, ∀ b ∈ e.adapter, a.name = b.name ↔ a.type = b.type := by
  obtain ⟨-, -, -, -, hshared, -, -⟩ := built_in_order (fun _ => "class") appointment ⟨["class_"]⟩
  exact ⟨by decide +kernel, by decide +kernel, hshared⟩

end PropertyModel

end ValueParcel
