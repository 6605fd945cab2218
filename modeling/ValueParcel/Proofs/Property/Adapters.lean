import ValueParcel.Proofs.Identifier
import ValueParcel.Property.Descriptor

/-!
The adapter fields of a model. While a model is built, a field comes in with the first property that needs it and takes a
name that was not given before.
-/

namespace ValueParcel.PropertyModel

open Identifier (Allocator)

/-- The fields for the adapters of the properties, and for nothing else, under names that only they have. The names in
`given` were given before. -/
structure IsBound (given : List String) (model : PropertyModel) (names : Allocator) : Prop where
  taken : names.taken = (model.adapters.map (·.name)).reverse ++ given
  fresh : ∀ a ∈ model.adapters, a.name ∉ given
  nodup : (model.adapters.map (·.name)).Nodup
  declared : ∀ d ∈ model.properties, ∀ a ∈ d.adapter, a ∈ model.adapters
  used : ∀ a ∈ model.adapters, ∃ d ∈ model.properties, d.adapter = some a

section Binding

variable (suggest : JavaType → String) (adapters : List AdapterField) (names : Allocator) (type : JavaType)

/-- A new field for an adapter class. -/
def newField : AdapterField := ⟨type, (names.allocate (suggest type)).1⟩

/-- An adapter class is bound to a field that is there, or to a new one if no field is of that class. -/
theorem bind_cases :
    (∃ a ∈ adapters, a.type = type ∧ bind suggest adapters names type = (a, adapters, names)) ∨
      (∀ a ∈ adapters, a.type ≠ type) ∧ bind suggest adapters names type =
        (newField suggest names type, adapters ++ [newField suggest names type], (names.allocate (suggest type)).2) := by
  cases hfind : adapters.find? (·.type = type) with
  | some a =>
      have ht : a.type = type := by simpa using List.find?_some hfind
      exact .inl ⟨a, List.mem_of_find?_eq_some hfind, ht, by rw [bind, hfind]⟩
  | none =>
      have hnone : ∀ a ∈ adapters, a.type ≠ type := by simpa using hfind
      exact .inr ⟨hnone, by rw [bind, hfind]; rfl⟩

theorem type_bind : (bind suggest adapters names type).1.type = type := by
  rcases bind_cases suggest adapters names type with ⟨a, -, ht, hb⟩ | ⟨-, hb⟩
  · rw [hb, ht]
  · rw [hb, newField]

end Binding

namespace IsBound

variable {suggest : JavaType → String} {given : List String} {model : PropertyModel} {names : Allocator} {d : Descriptor}

theorem start (names : Allocator) : IsBound names.taken {} names :=
  ⟨rfl, nofun, List.nodup_nil, nofun, nofun⟩

/-- A property comes in that has no adapter, or one whose field is there. -/
theorem add (h : IsBound given model names) (hd : ∀ a ∈ d.adapter, a ∈ model.adapters) :
    IsBound given { model with properties := model.properties ++ [d] } names := by
  refine ⟨h.taken, h.fresh, h.nodup, ?declared, ?used⟩
  case declared =>
    intro e he a ha
    rcases List.mem_append.1 he with he | he
    · exact h.declared e he a ha
    · cases List.mem_singleton.1 he
      exact hd a ha
  case used =>
    intro a ha
    obtain ⟨e, he, hea⟩ := h.used a ha
    exact ⟨e, List.mem_append_left _ he, hea⟩

theorem addField {a : AdapterField} (h : IsBound given model names) (hn : a.name ∉ names.taken)
    (hd : d.adapter = some a) :
    IsBound given ⟨model.properties ++ [d], model.adapters ++ [a]⟩ ⟨a.name :: names.taken⟩ := by
  rw [h.taken, List.mem_append, List.mem_reverse, not_or] at hn
  refine ⟨?taken, ?fresh, ?nodup, ?declared, ?used⟩
  case taken => simp [h.taken]
  case fresh =>
    intro b hb
    rcases List.mem_append.1 hb with hb | hb
    · exact h.fresh b hb
    · cases List.mem_singleton.1 hb
      exact hn.2
  case nodup =>
    rw [List.map_append, List.map_singleton]
    refine List.nodup_append.2 ⟨h.nodup, List.nodup_cons.2 ⟨List.not_mem_nil, List.nodup_nil⟩, ?_⟩
    rintro n hm _ hs rfl
    exact hn.1 (List.mem_singleton.1 hs ▸ hm)
  case declared =>
    intro e he b hb
    rcases List.mem_append.1 he with he | he
    · exact List.mem_append_left _ (h.declared e he b hb)
    · cases List.mem_singleton.1 he
      cases hd.symm.trans hb
      exact List.mem_append_right _ (List.mem_singleton_self a)
  case used =>
    intro b hb
    rcases List.mem_append.1 hb with hb | hb
    · obtain ⟨e, he, heb⟩ := h.used b hb
      exact ⟨e, List.mem_append_left _ he, heb⟩
    · cases List.mem_singleton.1 hb
      exact ⟨d, List.mem_append_right _ (List.mem_singleton_self d), hd⟩

theorem addAll (ps : List Property) {parameters : Allocator} (h : IsBound given model names) :
    IsBound given (addAll suggest model names parameters ps).1 (addAll suggest model names parameters ps).2 := by
  induction ps generalizing model names parameters with
  | nil => exact h
  | cons p ps ih =>
      rcases hn : parameters.allocate p.name with ⟨name, parameters'⟩
      cases ha : p.method.adapterType? with
      | none =>
          simp only [PropertyModel.addAll, hn, ha]
          exact ih (h.add nofun)
      | some type =>
          rcases bind_cases suggest model.adapters names type with ⟨a, hm, -, hb⟩ | ⟨-, hb⟩
          · simp only [PropertyModel.addAll, hn, ha, hb]
            refine ih (h.add fun b hab => ?_)
            cases hab
            exact hm
          · simp only [PropertyModel.addAll, hn, ha, hb]
            exact ih (h.addField (names.allocate_not_mem_taken (suggest type)) rfl)

end IsBound

theorem isBound_build (suggest : JavaType → String) (ps : List Property) (names : Allocator) :
    IsBound names.taken (build ps names suggest).1 (build ps names suggest).2 :=
  (IsBound.start names).addAll ps

end ValueParcel.PropertyModel
