import ValueParcel.Proofs.Encoding.Casts
import ValueParcel.Proofs.Generator.Closed

/-!
Casts that cannot be checked. The compiler warns of a cast to a generic type, and the generated class suppresses the
warning if it is generic itself or if one of its reads asks for it. A read does not always ask: arrays are taken for
types without arguments, and some families never ask.
-/

namespace ValueParcel

/-! ## Generic types -/

namespace JavaType

/-- The type has an argument or a variable in it, however deep in arrays. -/
def isGeneric : JavaType → Bool
  | .free _ | .bounded _ _ => true
  | .declared _ args => !args.isEmpty
  | .array c => c.isGeneric
  | .void | .primitive _ => false

theorem isParameterized_or_isVariable (t : JavaType) :
    (t.isParameterized || t.isVariable) = true ↔ t.isGeneric = true ∧ ∀ c, t ≠ .array c := by
  cases t <;> simp [isParameterized, isVariable, isGeneric, arguments]

end JavaType

namespace Family

variable {f : Family}

/-- The families that ask for the warning to be suppressed. -/
def warned : List Family := [parcelable, map, list, immutableCollection, immutableMap, serializable, value]

/-- The families with code that may begin with a cast and does not ask for anything. -/
def unwarned : List Family := [
  primitive .short, primitive .char, boxed .short, boxed .char, string, charSequence, strongBinder, sparseArray, enum]

theorem unchecked_iff (f : Family) : f.encoding.unchecked = true ↔ f ∈ warned := by
  cases f with
  | primitive k | boxed k => cases k <;> decide
  | _ => decide

theorem isUnchecked_iff (f : Family) (t : JavaType) :
    f.isUnchecked t = true ↔ f ∈ warned ∧ t.isGeneric = true ∧ ∀ c, t ≠ .array c := by
  rw [isUnchecked, Bool.and_eq_true, unchecked_iff, t.isParameterized_or_isVariable]

theorem not_mem_unwarned (h : f ∈ warned) : f ∉ unwarned := by
  have hd : ∀ f ∈ warned, f ∉ unwarned := by decide
  exact hd f h

theorem beginsOn_of_not_mem (hw : f ∉ warned) (hu : f ∉ unwarned) :
    f.encoding.read.BeginsOn .source f.operation.readMethod := by
  cases f with
  | primitive k | boxed k =>
      cases k with
      | boolean => exact ⟨") == 1", [], rfl⟩
      | short | char => exact absurd (by decide) hu
      | byte | int | long | float | double => exact Encoding.beginsOn_plainRead _
  | string | charSequence | strongBinder | sparseArray | enum => exact absurd (by decide) hu
  | parcelable | map | list | immutableCollection | immutableMap | serializable | value => exact absurd (by decide) hw
  | _ => exact beginsOn_of_castless (by decide)

end Family

/-! ## Warnings of reads -/

namespace PlannedProperty

/-- The read asks for the warning to be suppressed. -/
def IsCovered (q : PlannedProperty) : Prop :=
  q.descriptor.declared.isGeneric = true ∧ (∀ c, q.descriptor.declared ≠ .array c) ∧
    ∃ f ∈ Family.warned, q.route = .family f

/-- The read never asks, whatever it is cast to: the type is an array, or the family is one of those that do not. -/
def IsOverlooked (q : PlannedProperty) : Prop :=
  (∃ c, q.descriptor.declared = .array c) ∨ ∃ f ∈ Family.unwarned, q.route = .family f

variable {q : PlannedProperty}

theorem unchecked_readValue (q : PlannedProperty) (s : Imports) :
    (q.readValue s).1.unchecked = true ↔ q.IsCovered := by
  unfold readValue
  split
  · rename_i a hr
    simp [IsCovered, hr]
  · rename_i f hr
    simp only [IsCovered, hr, Route.family.injEq, exists_eq_right', f.isUnchecked_iff]
    tauto

theorem unchecked_read (q : PlannedProperty) (s : Imports) : (q.read s).1.unchecked = true ↔ q.IsCovered := by
  rw [← q.unchecked_readValue s, read]
  dsimp only
  split
  · rfl
  · rfl

/-- The read is a cast to the declared type which cannot be checked. -/
structure CastsBlindly (q : PlannedProperty) (s : Imports) : Prop where
  cast : s.BeginsWithCast q.descriptor.declared (q.readValue s).1.code
  generic : q.descriptor.declared.isGeneric = true

/-- A field of an adapter with a proper name is no cast, and neither is a call on the parcel. -/
theorem CastsBlindly.exists_family {s : Imports} (h : q.CastsBlindly s)
    (hn : ∀ a, q.route = .adapter a → Identifier.IsIdentifier a.name) :
    ∃ f, q.route = .family f ∧ (f ∈ Family.warned ∨ f ∈ Family.unwarned) := by
  have hcode := q.reads_readValue s
  have hhead := h.cast.head?_eq
  cases hr : q.route with
  | adapter a =>
      rw [hr] at hcode
      rw [hcode] at hhead
      obtain ⟨c, cs, hname, -⟩ := hn a hr
      have hopen : a.name.toList.head? = some '(' := by simpa [hname] using hhead
      exact absurd hopen ((hn a hr).head_ne (by decide +kernel))
  | family f =>
      refine ⟨f, rfl, ?_⟩
      rw [hr] at hcode
      obtain ⟨⟨s', hcode⟩, -⟩ := hcode
      by_contra hf
      obtain ⟨hw, hu⟩ := not_or.1 hf
      obtain ⟨rest, hrest⟩ := Family.exists_readExpression_beginsOn (Family.beginsOn_of_not_mem hw hu) s'
        q.descriptor.declared
      rw [hcode, hrest] at hhead
      simp at hhead

/-- A cast that cannot be checked is covered unless it is overlooked. -/
theorem CastsBlindly.isCovered_iff {s : Imports} (h : q.CastsBlindly s)
    (hn : ∀ a, q.route = .adapter a → Identifier.IsIdentifier a.name) : q.IsCovered ↔ ¬ q.IsOverlooked := by
  obtain ⟨f, hr, hf⟩ := h.exists_family hn
  have hw : f ∉ Family.unwarned ↔ f ∈ Family.warned := ⟨fun hu => hf.resolve_right hu, Family.not_mem_unwarned⟩
  simp [IsCovered, IsOverlooked, hr, h.generic, hw]

end PlannedProperty

namespace ClassPlan

theorem suppresses_outline_iff (p : ClassPlan) (config : Config) :
    (p.outline config).suppresses = true ↔ p.typeParameters ≠ [] ∨ ∃ q ∈ p.properties, q.IsCovered := by
  simp only [outline, suppresses, Bool.or_eq_true, PlannedProperty.any_fragments_iff PlannedProperty.unchecked_read]
  simp

theorem arguments_outline (p : ClassPlan) (config : Config) :
    List.Forall₂ (fun q argument => ∃ s : Imports, argument = (q.read s).1.code) p.properties
      (p.outline config).arguments := by
  simp only [outline, List.forall₂_map_right_iff]
  refine (PlannedProperty.forall₂_fragments p.properties _).imp ?_
  rintro q f ⟨s, rfl⟩
  exact ⟨s, rfl⟩

end ClassPlan

namespace Context

variable {c : Context} {q : PlannedProperty}

theorem isIdentifier_adapters (c : Context) : ∀ a ∈ c.model.adapters, Identifier.IsIdentifier a.name := by
  intro a ha
  have hs := PropertyModel.serves_build AdapterField.suggestion c.properties
    (({} : Identifier.Allocator).allocate creatorField).2
  have hnames : _ = c.model.adapters.map (·.name) := congrArg Prod.fst hs.allocated
  exact Identifier.Allocator.isIdentifier_allocateAll _ _ a.name (hnames ▸ List.mem_map_of_mem ha)

theorem isIdentifier_of_mem_plannedOf (h : c.rejections = []) (hq : q ∈ plannedOf c.registry c.model.properties)
    {a : AdapterField} (ha : q.route = .adapter a) : Identifier.IsIdentifier a.name := by
  obtain ⟨names, hb⟩ := c.exists_isBound_model
  have hds : (plannedOf c.registry c.model.properties).map (·.descriptor) = c.model.properties := descriptor_plannedOf h
  have hd : q.descriptor ∈ c.model.properties := hds ▸ List.mem_map_of_mem hq
  rcases Descriptor.route_eq_ok (route_of_mem_plannedOf hq) with ⟨b, hb', hroute⟩ | ⟨-, f, hroute⟩
  · cases ha.symm.trans hroute
    exact c.isIdentifier_adapters a (hb.declared _ hd a hb')
  · cases ha.symm.trans hroute

/-- The class that a context plans suppresses the warning if and only if it has parameters itself or a read asks for
that. Where an argument is a cast to the declared type that cannot be checked, its read asks, unless the type is an array
or the family never asks. -/
theorem suppresses_iff_covered (c : Context) (className superclass : String) (isFinal : Bool) (log : Log)
    (config : Config) {p : ClassPlan} (h : (c.plan className superclass isFinal log).1 = .ok (some p)) :
    ∃ o : Outline, Code.rowsOfList 0 (p.file config) =
        Outline.openingRows o.package o.imports o.comment ++ o.classRows ∧
      (o.suppresses = true ↔ p.typeParameters ≠ [] ∨ ∃ q ∈ p.properties, q.IsCovered) ∧
      List.Forall₂ (fun q argument => ∃ s : Imports, argument = (q.read s).1.code ∧
        (q.CastsBlindly s → (q.IsCovered ↔ ¬ q.IsOverlooked))) p.properties o.arguments := by
  obtain ⟨hr, rfl⟩ := plan_eq_ok_iff.1 h
  refine ⟨_, ClassPlan.rows_file _ config, ClassPlan.suppresses_outline_iff _ config, ?_⟩
  have ha := ClassPlan.arguments_outline (c.fullPlan className superclass isFinal) config
  refine List.forall₂_iff_zip.2 ⟨ha.length_eq, fun {q argument} hm => ?_⟩
  obtain ⟨s, hs⟩ := (List.forall₂_iff_zip.1 ha).2 hm
  refine ⟨s, hs, fun hc => hc.isCovered_iff fun a hroute => ?_⟩
  exact isIdentifier_of_mem_plannedOf hr (List.of_mem_zip hm).1 hroute

/-- A value class with one property, next to classes that name families. -/
def holder (parameters : List JavaType) (type : JavaType) : Context :=
  { package := "test"
    valueClass := { Declaration.ofClass "test.Holder" with typeParameters := parameters }
    properties := [⟨"content", .accessor "content" type⟩]
    registry := .ofList [.ofInterface WellKnown.parcelable, .ofClass WellKnown.sparseArray] }

def content (type : JavaType) (f : Family) : PlannedProperty :=
  ⟨PropertyModel.describe ⟨"content", .accessor "content" type⟩ "content" none, .family f⟩

theorem plan_holder (parameters : List JavaType) (type : JavaType) {f : Family}
    (h : (holder parameters type).registry.validate type.resolve = .ok f) :
    ∃ describes, ((holder parameters type).plan "AutoValue_Holder" "$AutoValue_Holder" true []).1 = .ok (some
      { package := "test"
        className := "AutoValue_Holder"
        superclass := "$AutoValue_Holder"
        valueClass := "test.Holder"
        typeParameters := parameters
        properties := [content type f]
        describeContents := describes }) := by
  have hn : (({} : Identifier.Allocator).allocate "content").1 = "content" := by decide +kernel
  have hm : (holder parameters type).model.properties = [(content type f).descriptor] := by
    change [PropertyModel.describe _ (({} : Identifier.Allocator).allocate "content").1 none] = _
    rw [hn]
    rfl
  have hroute : (content type f).descriptor.route (holder parameters type).registry = .ok (.family f) := by
    change Except.map Route.family ((holder parameters type).registry.validate type.resolve) = _
    rw [h]
    rfl
  have hr : (holder parameters type).rejections = [] := by
    rw [rejections, hm, rejectionsOf_cons_ok hroute]
    rfl
  refine ⟨(holder parameters type).leavesDescribeContents, plan_eq_ok_iff.2 ⟨hr, ?_⟩⟩
  rw [fullPlan, hm, plannedOf_cons_ok hroute]
  rfl

/-- A parcelable that is held in a variable is read with a cast that cannot be checked. -/
theorem suppresses_iff_covered_holder :
    let type := JavaType.bounded "P" (.raw WellKnown.parcelable)
    ∃ p, ((holder [type] type).plan "AutoValue_Holder" "$AutoValue_Holder" true []).1 = .ok (some p) ∧
      (∃ q ∈ p.properties, q.IsCovered) ∧
      ∃ o : Outline, Code.rowsOfList 0 (p.file {}) =
        Outline.openingRows o.package o.imports o.comment ++ o.classRows ∧ o.suppresses = true := by
  intro type
  have hf : (holder [type] type).registry.classify (.raw WellKnown.parcelable) = some .parcelable :=
    Registry.classify_of_ofClass? (d := .ofInterface WellKnown.parcelable) rfl rfl (by decide) (by decide) (by decide)
  obtain ⟨describes, hp⟩ := plan_holder [type] type (Registry.validate_of_plain hf rfl)
  obtain ⟨o, hrows, ho, -⟩ := suppresses_iff_covered _ _ _ _ _ {} hp
  refine ⟨_, hp, ⟨content type .parcelable, List.mem_singleton_self _, ?_⟩, o, hrows, ho.2 (.inl (by simp))⟩
  exact ⟨rfl, by simp [content, PropertyModel.describe, Method.accessor, type], .parcelable, by decide, rfl⟩

/-- An array of sparse arrays is read with a cast that cannot be checked, and the warning is not suppressed. -/
theorem cast_to_array_isNotSuppressed :
    let type := JavaType.array (.declared WellKnown.sparseArray [.raw WellKnown.string])
    ∃ p, ((holder [] type).plan "AutoValue_Holder" "$AutoValue_Holder" true []).1 = .ok (some p) ∧
      p.properties.map (·.descriptor.declared) = [type] ∧ type.isGeneric = true ∧
      ⟨5, "(SparseArray<String>[]) in.readValue(cl)"⟩ ∈ Code.rowsOfList 0 (p.file {}) ∧
      ∀ r ∈ Code.rowsOfList 0 (p.file {}), r.text ≠ "@SuppressWarnings(\"unchecked\")" := by
  intro type
  have hs : (holder [] type).registry.classify (.declared WellKnown.sparseArray [.raw WellKnown.string]) =
      some .sparseArray :=
    Registry.classify_of_ofClass? (d := .ofClass WellKnown.sparseArray) rfl rfl (by decide) (by decide) (by decide)
  have hf : (holder [] type).registry.classify type = some .value := by
    rw [Registry.classify_array, Registry.validate_of_plain hs rfl]
    rfl
  obtain ⟨describes, hp⟩ := plan_holder [] type (Registry.validate_of_plain hf rfl)
  refine ⟨_, hp, rfl, rfl, ?_⟩
  cases describes <;> decide +kernel

end Context

end ValueParcel
