import Mathlib.Data.List.Nodup
import ValueParcel.Proofs.Encoding.Loader
import ValueParcel.Proofs.Generator.Rejections
import ValueParcel.Proofs.Source.SlotBySlot
import ValueParcel.Proofs.Source.Spelling

/-!
A generated class is closed. The names that it introduces for itself, the fields of adapters and the variable for the class
loader, are declared once and are used.
-/

namespace ValueParcel

/-! ## Code of routes -/

namespace Route

/-- The expression reads a value with the field of the adapter, or as the family does. -/
def Reads (declared : JavaType) : Route → String → Prop
  | adapter a, code => code = a.name ++ ".fromParcel(in)"
  | family f, code =>
    (∃ s, code = (f.readExpression s declared).1) ∧
      (f.passesLoader = true → ∃ before after, code = before ++ "in." ++ f.operation.readMethod ++ "(cl)" ++ after)

/-- The statement writes what the accessor gives with the field of the adapter, or as the family does. -/
def Writes (accessor : String) : Route → String → Prop
  | adapter a, code => code = a.name ++ ".toParcel(" ++ accessor ++ ", dest)"
  | family f, code => ∃ s, code = (f.writeStatement s accessor).1

def passesLoader : Route → Bool
  | adapter _ => false
  | family f => f.passesLoader

end Route

namespace PlannedProperty

theorem reads_readValue (q : PlannedProperty) (s : Imports) :
    q.route.Reads q.descriptor.declared (q.readValue s).1.code := by
  unfold readValue
  split
  · rename_i a hr
    rw [hr]
    simp [Route.Reads, Encoding.sourceName, String.append_assoc]
  · rename_i f hr
    rw [hr]
    exact ⟨⟨s, rfl⟩, fun h => f.readExpression_passes h s _⟩

theorem writes_writeValue (q : PlannedProperty) (s : Imports) :
    q.route.Writes q.descriptor.accessor (q.writeValue s).1 := by
  unfold writeValue
  split
  · rename_i a hr
    rw [hr]
    simp [Route.Writes, Encoding.targetName, String.append_assoc]
  · rename_i f hr
    rw [hr]
    exact ⟨s, rfl⟩

theorem usesLoader_read (q : PlannedProperty) (s : Imports) : (q.read s).1.usesLoader = q.route.passesLoader := by
  have hv : (q.readValue s).1.usesLoader = q.route.passesLoader := by
    unfold readValue
    split
    · rename_i a hr
      rw [hr]
      rfl
    · rename_i f hr
      rw [hr]
      exact f.usesLoader_eq
  unfold read
  dsimp only
  split
  · exact hv
  · exact hv

theorem usesLoader_fragments (qs : List PlannedProperty) (s : Imports) :
    ((fragments s qs).1.map (·.1)).any (·.usesLoader) = qs.any (·.route.passesLoader) := by
  have h : ∀ (q : PlannedProperty) s, (q.read s).1.usesLoader = true ↔ q.route.passesLoader = true := by
    intro q s
    rw [usesLoader_read]
  rw [Bool.eq_iff_iff, any_fragments_iff h, List.any_eq_true]

/-- The argument reads the property on its route, behind its presence flag if it has one. -/
def IsReadBy (q : PlannedProperty) (argument : String) : Prop :=
  ∃ read, q.route.Reads q.descriptor.declared read ∧
    argument = if q.hasPresenceFlag then "in.readInt() == 0 ? " ++ read ++ " : null" else read

/-- The rows write the property on its route, behind its presence flag if it has one. -/
def IsWrittenBy (q : PlannedProperty) (rows : List Row) : Prop :=
  ∃ statement, q.route.Writes q.descriptor.accessor statement ∧
    rows = if q.hasPresenceFlag then Slot.flaggedRows 2 q.descriptor.accessor statement else [⟨2, statement ++ ";"⟩]

theorem isReadBy_read (q : PlannedProperty) (s : Imports) : q.IsReadBy (q.read s).1.code :=
  ⟨(q.readValue s).1.code, q.reads_readValue s, q.code_read s⟩

theorem isWrittenBy_write (q : PlannedProperty) (s : Imports) :
    q.IsWrittenBy ((ClassPlan.writeCode (q.write s).1).rows 2) :=
  ⟨(q.writeValue s).1, q.writes_writeValue s, q.rows_write s 2⟩

theorem fragments_realize (qs : List PlannedProperty) (s : Imports) :
    List.Forall₂ (fun q f => q.IsReadBy f.1.code ∧ q.IsWrittenBy ((ClassPlan.writeCode f.2).rows 2)) qs
      (fragments s qs).1 := by
  refine (forall₂_fragments qs s).imp ?_
  rintro q f ⟨s', rfl⟩
  exact ⟨q.isReadBy_read s', q.isWrittenBy_write _⟩

end PlannedProperty

/-! ## The outline of a plan -/

/-- The fields are those of the plan, the arguments and blocks are the code of its properties, and the variable for the class
loader is there if and only if one of them passes it. -/
structure Outline.Realizes (o : Outline) (p : ClassPlan) : Prop where
  fields : List.Forall₂ (fun a field => field.2 = a.name ∧ ∃ s : Imports, field.1 = (s.render a.type).1) p.adapters
    o.fields
  arguments : List.Forall₂ PlannedProperty.IsReadBy p.properties o.arguments
  blocks : List.Forall₂ PlannedProperty.IsWrittenBy p.properties o.blocks
  loader : ∃ type ∈ ["ClassLoader", WellKnown.classLoader], Outline.loaderRows o.className o.loaderType =
    if p.properties.any (·.route.passesLoader) then [⟨3, type ++ " cl = " ++ p.className ++ ".class.getClassLoader();"⟩]
    else []

namespace ClassPlan

theorem fieldTexts_declare (adapters : List AdapterField) (s : Imports) :
    List.Forall₂ (fun a field => field.2 = a.name ∧ ∃ s : Imports, field.1 = (s.render a.type).1) adapters
      (fieldTexts s adapters) := by
  induction adapters generalizing s with
  | nil => exact .nil
  | cons a adapters ih => exact .cons ⟨rfl, s, rfl⟩ (ih _)

theorem exists_loaderRows (className : String) (s : Imports) (reads : List ReadFragment) :
    ∃ type ∈ ["ClassLoader", WellKnown.classLoader], Outline.loaderRows className (loaderType? s reads) =
      if reads.any (·.usesLoader) then [⟨3, type ++ " cl = " ++ className ++ ".class.getClassLoader();"⟩] else [] := by
  refine ⟨(s.spell WellKnown.classLoader).1, s.spell_classLoader, ?_⟩
  unfold loaderType?
  split
  · rfl
  · rfl

theorem realizes_outline (p : ClassPlan) (config : Config) : (p.outline config).Realizes p := by
  have hf := fun s => PlannedProperty.fragments_realize p.properties s
  refine ⟨fieldTexts_declare p.adapters _, ?arguments, ?blocks, ?loader⟩
  case arguments =>
    simp only [outline, List.forall₂_map_right_iff]
    exact (hf _).imp fun q f h => h.1
  case blocks =>
    simp only [outline, List.forall₂_map_right_iff]
    exact (hf _).imp fun q f h => h.2
  case loader =>
    have hl := fun s s' => exists_loaderRows p.className s ((PlannedProperty.fragments s' p.properties).1.map (·.1))
    simp only [PlannedProperty.usesLoader_fragments] at hl
    exact hl _ _

end ClassPlan

/-! ## The fields of a plan -/

/-- With an adapter class the property goes through a field of that class, the only one under its name, and otherwise the
way of a family. -/
inductive PlannedProperty.IsBound (fields : List AdapterField) (q : PlannedProperty) : Option JavaType → Prop
  | adapter {a : AdapterField} (declared : a ∈ fields) (once : (fields.map (·.name)).count a.name = 1)
      (route : q.route = .adapter a) : IsBound fields q (some a.type)
  | family {f : Family} (route : q.route = .family f) : IsBound fields q none

theorem Descriptor.route_eq_ok {d : Descriptor} {r : Registry} {route : Route} (h : d.route r = .ok route) :
    (∃ a, d.adapter = some a ∧ route = .adapter a) ∨ d.adapter = none ∧ ∃ f, route = .family f := by
  unfold Descriptor.route at h
  split at h
  · cases h
  · cases ha : d.adapter with
    | some a =>
        rw [ha] at h
        cases h
        exact .inl ⟨a, rfl, rfl⟩
    | none =>
        rw [ha] at h
        cases hv : r.validate d.resolved with
        | error e => simp [hv, Except.map] at h
        | ok f =>
            simp only [hv, Except.map, Except.ok.injEq] at h
            exact .inr ⟨rfl, f, h.symm⟩

theorem PlannedProperty.isBound_of_describes {model : PropertyModel} {given : List String} {names : Identifier.Allocator}
    {property : Property} {q : PlannedProperty} {r : Registry} (hb : model.IsBound given names)
    (hd : q.descriptor.Describes property) (hq : q.descriptor ∈ model.properties)
    (hr : q.descriptor.route r = .ok q.route) : q.IsBound model.adapters property.method.adapterType? := by
  obtain ⟨name, adapter, he, ht⟩ := hd
  have hadapter : q.descriptor.adapter = adapter := by rw [he]; rfl
  rw [← ht, ← hadapter]
  rcases Descriptor.route_eq_ok hr with ⟨a, ha, hroute⟩ | ⟨hn, f, hroute⟩
  · have hm : a ∈ model.adapters := hb.declared _ hq a ha
    rw [ha]
    exact .adapter hm (List.count_eq_one_of_mem hb.nodup (List.mem_map_of_mem hm)) hroute
  · rw [hn]
    exact .family hroute

namespace Context

variable {c : Context} {r : Registry} {ds : List Descriptor} {className superclass : String} {isFinal : Bool} {log : Log}
  {p : ClassPlan} {q : PlannedProperty}

theorem descriptor_plannedOf (h : rejectionsOf r ds = []) : (plannedOf r ds).map (·.descriptor) = ds := by
  induction ds with
  | nil => rfl
  | cons d ds ih =>
      cases hr : d.route r with
      | ok route =>
          rw [rejectionsOf_cons_ok hr] at h
          rw [plannedOf_cons_ok hr, List.map_cons, ih h]
      | error e =>
          rw [rejectionsOf_cons_error hr] at h
          cases h

theorem route_of_mem_plannedOf (hq : q ∈ plannedOf r ds) : q.descriptor.route r = .ok q.route := by
  obtain ⟨d, -, hd⟩ := List.mem_filterMap.1 hq
  split at hd
  · cases hd
  · cases hd
    assumption

theorem plan_eq_ok_iff : (c.plan className superclass isFinal log).1 = .ok (some p) ↔
    c.rejections = [] ∧ p = c.fullPlan className superclass isFinal := by
  cases hm : c.failureMode with
  | soft =>
      have hs := c.plan_soft className superclass isFinal log
      rw [← hm] at hs
      rw [hs]
      cases c.rejections <;> simp [eq_comm]
  | strict =>
      have hs := c.plan_strict className superclass isFinal log
      rw [← hm] at hs
      rw [hs]
      cases c.rejections <;> simp [eq_comm]

theorem taken_creatorField : (({} : Identifier.Allocator).allocate creatorField).2.taken = [creatorField] := by
  have hs : Identifier.sanitize creatorField = creatorField := by decide +kernel
  have hk : creatorField ∉ Identifier.keywords := by decide
  rw [Identifier.Allocator.taken_allocate, Identifier.Allocator.allocate_eq_self hs hk List.not_mem_nil]

/-- No field of an adapter is named like the one that makes objects. -/
theorem exists_isBound_model (c : Context) : ∃ names, PropertyModel.IsBound [creatorField] c.model names := by
  have hb := PropertyModel.isBound_build AdapterField.suggestion c.properties
    (({} : Identifier.Allocator).allocate creatorField).2
  rw [taken_creatorField] at hb
  exact ⟨_, hb⟩

/-- The class that a context plans is closed. Each property with an adapter class is read and written with a field of that
class that is declared once; the fields are all of use and named apart, also from the one that makes objects; and there is
one variable for the class loader if a property passes it, and none if no property does. -/
theorem planned_class_isClosed (c : Context) (className superclass : String) (isFinal : Bool) (log : Log) (config : Config)
    {p : ClassPlan} (h : (c.plan className superclass isFinal log).1 = .ok (some p)) :
    (∃ o : Outline, Code.rowsOfList 0 (p.file config) =
      Outline.openingRows o.package o.imports o.comment ++ o.classRows ∧ o.Realizes p) ∧
    List.Forall₂ (fun property q => PlannedProperty.IsBound p.adapters q property.method.adapterType?) c.properties
      p.properties ∧
    (∀ a ∈ p.adapters, ∃ q ∈ p.properties, q.route = .adapter a) ∧
    (creatorField :: p.adapters.map (·.name)).Nodup := by
  obtain ⟨hr, rfl⟩ := plan_eq_ok_iff.1 h
  obtain ⟨names, hb⟩ := c.exists_isBound_model
  have hds : (plannedOf c.registry c.model.properties).map (·.descriptor) = c.model.properties := descriptor_plannedOf hr
  refine ⟨⟨_, ClassPlan.rows_file _ config, ClassPlan.realizes_outline _ config⟩, ?bound, ?used, ?nodup⟩
  case bound =>
    have hd : List.Forall₂ (fun property d => d.Describes property) c.properties c.model.properties :=
      PropertyModel.describes_build c.properties _
    rw [← hds, List.forall₂_map_right_iff, List.forall₂_iff_zip] at hd
    refine List.forall₂_iff_zip.2 ⟨hd.1, fun hm => ?_⟩
    have hq := (List.of_mem_zip hm).2
    exact PlannedProperty.isBound_of_describes hb (hd.2 hm) (hds ▸ List.mem_map_of_mem hq) (route_of_mem_plannedOf hq)
  case used =>
    intro a ha
    obtain ⟨d, hd, hda⟩ := hb.used a ha
    rw [← hds] at hd
    obtain ⟨q, hq, rfl⟩ := List.mem_map.1 hd
    refine ⟨q, hq, ?_⟩
    rcases Descriptor.route_eq_ok (route_of_mem_plannedOf hq) with ⟨b, hb, hroute⟩ | ⟨hn, -⟩
    · cases hda.symm.trans hb
      exact hroute
    · cases hda.symm.trans hn
  case nodup =>
    refine List.nodup_cons.2 ⟨fun hm => ?_, hb.nodup⟩
    obtain ⟨a, ha, hn⟩ := List.mem_map.1 hm
    exact hb.fresh a ha (hn ▸ List.mem_singleton_self _)

/-- A value class with two adapter classes of one simple name, one of them for two properties, and an array of objects. -/
def visit : Declaration :=
  let dated := fun name adapter => { Method.accessor name (.raw "java.util.Date") with
    annotations := [{ name := adapterMark, value := some (.raw adapter) }] }
  { Declaration.ofClass "test.Visit" with
    interfaces := [.raw WellKnown.parcelable]
    methods := [dated "start" "test.DayAdapter", dated "end" "test.DayAdapter", dated "booked" "other.DayAdapter",
      .accessor "notes" (.array (.raw WellKnown.object))] }

def visitContext : Context :=
  { package := "test"
    valueClass := visit
    properties := visit.methods.map fun m => ⟨m.name, m⟩
    registry := .ofList [.ofInterface WellKnown.parcelable, visit] }

theorem planned_class_isClosed_visit : ∃ p, (visitContext.plan "AutoValue_Visit" "$AutoValue_Visit" true []).1 =
      .ok (some p) ∧
    p.adapters.map (·.type) = [.raw "test.DayAdapter", .raw "other.DayAdapter"] ∧
    p.properties.any (·.route.passesLoader) = true ∧
    (∃ o : Outline, Code.rowsOfList 0 (p.file {}) =
      Outline.openingRows o.package o.imports o.comment ++ o.classRows ∧ o.Realizes p) ∧
    (creatorField :: p.adapters.map (·.name)).Nodup := by
  have hr : visitContext.rejections = [] := List.isEmpty_iff.1 (by decide +kernel)
  have hp : (visitContext.plan "AutoValue_Visit" "$AutoValue_Visit" true []).1 =
      .ok (some (visitContext.fullPlan "AutoValue_Visit" "$AutoValue_Visit" true)) := plan_eq_ok_iff.2 ⟨hr, rfl⟩
  obtain ⟨ho, -, -, hn⟩ := planned_class_isClosed visitContext "AutoValue_Visit" "$AutoValue_Visit" true [] {} hp
  exact ⟨_, hp, by decide +kernel, by decide +kernel, ho, hn⟩

end Context

end ValueParcel
