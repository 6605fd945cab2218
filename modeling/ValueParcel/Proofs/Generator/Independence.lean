import ValueParcel.Proofs.Generator.Closed

/-!
Slots of a layout, each of which is a matter of its own property. Names are given in turn, but what is written to the parcel
for a property depends on neither the other properties nor their order.
-/

namespace ValueParcel

/-! ## What an accessor asks for -/

namespace Method

def IsMarkedNullable (m : Method) : Prop := ∃ a ∈ m.annotations, a.simpleName = nullableMark

/-- The first annotation for an adapter names one. -/
def NamesAdapter (m : Method) : Prop :=
  ∃ before a after, m.annotations = before ++ a :: after ∧ (∀ b ∈ before, b.simpleName ≠ adapterMark) ∧
    a.simpleName = adapterMark ∧ a.value.isSome

theorem isNullable_iff {m : Method} : m.isNullable = true ↔ m.IsMarkedNullable ∧ ∀ k, m.returnType ≠ .primitive k := by
  have ha : (m.annotated? nullableMark).isSome = true ↔ m.IsMarkedNullable := by
    simp [annotated?, IsMarkedNullable, List.find?_isSome]
  rw [isNullable, Bool.and_eq_true, ha]
  cases m.returnType <;> simp

theorem namesAdapter_iff {m : Method} : m.NamesAdapter ↔ ∃ type, m.adapterType? = some type := by
  constructor
  · rintro ⟨before, a, after, hm, hb, ha, hv⟩
    obtain ⟨type, ht⟩ := Option.isSome_iff_exists.1 hv
    have hf : m.annotated? adapterMark = some a := by
      rw [annotated?, List.find?_eq_some_iff_append]
      exact ⟨by simpa using ha, before, after, hm, by simpa using hb⟩
    exact ⟨type, by rw [adapterType?, hf, Option.bind_some, ht]⟩
  · rintro ⟨type, ht⟩
    obtain ⟨a, hf, hv⟩ := Option.bind_eq_some_iff.1 ht
    obtain ⟨ha, before, after, hm, hb⟩ := List.find?_eq_some_iff_append.1 hf
    exact ⟨before, a, after, hm, by simpa using hb, by simpa using ha, by rw [hv]; rfl⟩

end Method

/-- All that a slot says of the parcel. The name of the property is left out. -/
def Slot.traits (s : Slot) : Bool × Operation × Bool := (s.presenceFlag, s.operation, s.nullable)

/-- The slot has what the accessor alone asks for. -/
structure Slot.IsFor (r : Registry) (m : Method) (s : Slot) : Prop where
  nullable : s.nullable = true ↔ m.IsMarkedNullable ∧ ∀ k, m.returnType ≠ .primitive k
  presenceFlag : s.presenceFlag = true ↔ (m.IsMarkedNullable ∧ ∀ k, m.returnType ≠ .primitive k) ∧
    (m.NamesAdapter ∨ ∃ f, r.validate m.returnType.resolve = .ok f ∧ f.encoding.nativelyNullable = false)
  adapter : s.operation = .adapter ↔ m.NamesAdapter
  family : ¬ m.NamesAdapter → ∃ f, r.validate m.returnType.resolve = .ok f ∧ s.operation = f.operation

theorem Family.operation_ne_adapter (f : Family) : f.operation ≠ .adapter := by
  cases f with
  | primitive k => cases k <;> decide
  | boxed k => cases k <;> decide
  | _ => decide

theorem PropertyModel.route_describe (r : Registry) (p : Property) (name : String) (adapter : Option AdapterField) :
    (describe p name adapter).route r = if p.method.missesAdapter then .error .missingAdapter
      else match adapter with
        | some a => .ok (.adapter a)
        | none => (r.validate p.method.returnType.resolve).map .family := rfl

namespace Property

/-- The traits of the slot of a property, unless the property is rejected. -/
def traits? (r : Registry) (p : Property) : Option (Bool × Operation × Bool) :=
  if p.method.missesAdapter then none
  else match p.method.adapterType? with
    | some _ => some (p.method.isNullable, .adapter, p.method.isNullable)
    | none => (r.validate p.method.returnType.resolve).toOption.map fun f =>
      (p.method.isNullable && !f.encoding.nativelyNullable, f.operation, p.method.isNullable)

variable {r : Registry} {p : Property} {s : Slot} {d : Descriptor} {ps : List Property} {ds : List Descriptor}

theorem isFor_of_traits? (h : p.traits? r = some s.traits) : s.IsFor r p.method := by
  unfold traits? at h
  split at h
  · cases h
  · cases ha : p.method.adapterType? with
    | some type =>
        have hn : p.method.NamesAdapter := Method.namesAdapter_iff.2 ⟨type, ha⟩
        simp only [ha, Slot.traits, Option.some.injEq, Prod.mk.injEq] at h
        obtain ⟨hf, ho, hm⟩ := h
        refine ⟨by rw [← hm, Method.isNullable_iff], ?_, by simp [← ho, hn], fun h => absurd hn h⟩
        rw [← hf, Method.isNullable_iff]
        exact ⟨fun h => ⟨h, .inl hn⟩, And.left⟩
    | none =>
        have hn : ¬ p.method.NamesAdapter := by simp [Method.namesAdapter_iff, ha]
        cases hv : r.validate p.method.returnType.resolve with
        | error e => simp [ha, hv, Except.toOption] at h
        | ok f =>
            simp only [ha, hv, Except.toOption, Option.map_some, Slot.traits, Option.some.injEq, Prod.mk.injEq] at h
            obtain ⟨hf, ho, hm⟩ := h
            refine ⟨by rw [← hm, Method.isNullable_iff], ?_, ?_, fun _ => ⟨f, hv, ho.symm⟩⟩
            · rw [← hf, Bool.and_eq_true, Method.isNullable_iff]
              simp [hn, hv]
            · simp [← ho, f.operation_ne_adapter, hn]

theorem traits?_of_describes (h : d.Describes p) :
    p.traits? r = (d.route r).toOption.map fun route => (PlannedProperty.mk d route).slot.traits := by
  obtain ⟨name, adapter, rfl, ha⟩ := h
  rw [traits?, PropertyModel.route_describe, ← ha]
  by_cases hm : p.method.missesAdapter = true
  · rw [if_pos hm, if_pos hm]
    rfl
  · rw [if_neg hm, if_neg hm]
    cases adapter with
    | some a => rfl
    | none => cases r.validate p.method.returnType.resolve <;> rfl

theorem rejectionsOf_eq_nil_iff (h : List.Forall₂ Descriptor.Describes ps ds) :
    Context.rejectionsOf r ds = [] ↔ ∀ p ∈ ps, (p.traits? r).isSome := by
  induction h with
  | nil => simp [Context.rejectionsOf]
  | @cons p d ps ds hd _ ih =>
      rw [List.forall_mem_cons, traits?_of_describes hd]
      cases hr : d.route r with
      | error e => simp [Context.rejectionsOf_cons_error hr, Except.toOption]
      | ok route => simp [Context.rejectionsOf_cons_ok hr, Except.toOption, ih]

theorem traits_plannedOf (h : List.Forall₂ Descriptor.Describes ps ds) (hr : Context.rejectionsOf r ds = []) :
    ps.map (traits? r) = (Context.plannedOf r ds).map fun q => some q.slot.traits := by
  induction h with
  | nil => rfl
  | @cons p d ps ds hd _ ih =>
      cases hroute : d.route r with
      | error e =>
          rw [Context.rejectionsOf_cons_error hroute] at hr
          cases hr
      | ok route =>
          rw [Context.rejectionsOf_cons_ok hroute] at hr
          rw [List.map_cons, traits?_of_describes hd, hroute, Context.plannedOf_cons_ok hroute, List.map_cons, ih hr]
          rfl

end Property

namespace Context

variable (c : Context) (className superclass : String) (isFinal : Bool) (log : Log)

/-- What becomes of a plan with other properties. -/
def planOf (ps : List Property) : Except Failure (Option ClassPlan) :=
  ({ c with properties := ps }.plan className superclass isFinal log).1

variable {c className superclass isFinal log} {ps : List Property} {p : ClassPlan}

theorem planOf_eq_ok_iff : (∃ p, c.planOf className superclass isFinal log ps = .ok (some p)) ↔
    ∀ property ∈ ps, (property.traits? c.registry).isSome := by
  have hd : List.Forall₂ Descriptor.Describes ps { c with properties := ps }.model.properties :=
    PropertyModel.describes_build ps _
  rw [← Property.rejectionsOf_eq_nil_iff hd]
  constructor
  · rintro ⟨p, h⟩
    exact (plan_eq_ok_iff.1 h).1
  · intro h
    exact ⟨_, plan_eq_ok_iff.2 ⟨h, rfl⟩⟩

/-- A plan has the traits of each property by itself. -/
theorem traits_planOf (h : c.planOf className superclass isFinal log ps = .ok (some p)) :
    ps.map (·.traits? c.registry) = p.layout.slots.map fun s => some s.traits := by
  have hd : List.Forall₂ Descriptor.Describes ps { c with properties := ps }.model.properties :=
    PropertyModel.describes_build ps _
  obtain ⟨hr, rfl⟩ := plan_eq_ok_iff.1 h
  rw [Property.traits_plannedOf hd hr, ClassPlan.layout, List.map_map]
  rfl

theorem filterMap_planOf (h : c.planOf className superclass isFinal log ps = .ok (some p)) :
    p.layout.slots.map Slot.traits = ps.filterMap (·.traits? c.registry) := by
  have hs := congrArg (List.filterMap id) (traits_planOf h)
  rw [List.filterMap_map, List.filterMap_map] at hs
  rw [← List.filterMap_eq_map]
  exact hs.symm

theorem traits_getElem? (h : c.planOf className superclass isFinal log ps = .ok (some p)) {i : Nat} (hi : i < ps.length) :
    p.layout.slots[i]?.map Slot.traits = ps[i].traits? c.registry := by
  have he := congrArg (·[i]?) (traits_planOf h)
  simp only [List.getElem?_map, List.getElem?_eq_getElem hi, Option.map_some] at he
  cases hs : p.layout.slots[i]? with
  | none => simp [hs] at he
  | some s =>
      rw [hs, Option.map_some, Option.some_inj] at he
      rw [he, Option.map_some]

theorem length_slots (h : c.planOf className superclass isFinal log ps = .ok (some p)) :
    p.layout.slots.length = ps.length := by
  have he := congrArg List.length (traits_planOf h)
  rw [List.length_map, List.length_map] at he
  exact he.symm

/-- The slots have the names of the parameters. -/
theorem names_planOf (h : c.planOf className superclass isFinal log ps = .ok (some p)) :
    p.layout.slots.map (·.property) = (({} : Identifier.Allocator).allocateAll (ps.map (·.name))).1 := by
  obtain ⟨hr, rfl⟩ := plan_eq_ok_iff.1 h
  have hd := descriptor_plannedOf hr
  have hn : { c with properties := ps }.model.properties.map (fun d : Descriptor => d.name) = _ :=
    PropertyModel.names_build ps _
  rw [← hn, ← hd, List.map_map, ClassPlan.layout, List.map_map]
  rfl

/-- Each slot has what the accessor of its own property asks for. Properties are accepted together if and only if they are
accepted apart, and what is said of the parcel is then said of one group and after that of the other. If properties are
picked in any order, so are their slots; those keep their names where all names are identifiers, and different ones. -/
theorem slots_are_independent (c : Context) (className superclass : String) (isFinal : Bool) (log : Log) :
    let plan := c.planOf className superclass isFinal log
    (∀ ps p, plan ps = .ok (some p) →
      List.Forall₂ (fun property slot => slot.IsFor c.registry property.method) ps p.layout.slots) ∧
    (∀ ps qs, (∃ p, plan (ps ++ qs) = .ok (some p)) ↔ (∃ p, plan ps = .ok (some p)) ∧ ∃ p, plan qs = .ok (some p)) ∧
    (∀ ps qs p p₁ p₂, plan (ps ++ qs) = .ok (some p) → plan ps = .ok (some p₁) → plan qs = .ok (some p₂) →
      p.layout.slots.map Slot.traits = p₁.layout.slots.map Slot.traits ++ p₂.layout.slots.map Slot.traits) ∧
    (∀ ps p n (pick : Fin n → Fin ps.length), plan ps = .ok (some p) → ∃ q,
      plan (List.ofFn fun i => ps[pick i]) = .ok (some q) ∧ q.layout.slots.length = n ∧
      ∀ i : Fin n, q.layout.slots[i]?.map Slot.traits = p.layout.slots[pick i]?.map Slot.traits) ∧
    ∀ ps p, plan ps = .ok (some p) → (ps.map (·.name)).Nodup →
      (∀ property ∈ ps, Identifier.sanitize property.name = property.name ∧ property.name ∉ Identifier.keywords) →
      p.layout.slots.map (·.property) = ps.map (·.name) := by
  intro plan
  refine ⟨?own, ?accepted, ?appended, ?picked, ?named⟩
  case own =>
    intro ps p h
    have hf := traits_planOf h
    rw [← List.forall₂_eq_eq_eq, List.forall₂_map_left_iff, List.forall₂_map_right_iff] at hf
    exact hf.imp fun _ _ => Property.isFor_of_traits?
  case accepted =>
    intro ps qs
    simp only [plan, planOf_eq_ok_iff, List.forall_mem_append]
  case appended =>
    intro ps qs p p₁ p₂ h h₁ h₂
    rw [filterMap_planOf h, filterMap_planOf h₁, filterMap_planOf h₂, List.filterMap_append]
  case picked =>
    intro ps p n pick h
    have ha : ∃ q, plan (List.ofFn fun i => ps[pick i]) = .ok (some q) := by
      refine planOf_eq_ok_iff.2 fun property hm => ?_
      obtain ⟨i, rfl⟩ := List.mem_ofFn.1 hm
      exact planOf_eq_ok_iff.1 ⟨p, h⟩ _ (List.getElem_mem _)
    obtain ⟨q, hq⟩ := ha
    refine ⟨q, hq, by rw [length_slots hq, List.length_ofFn], fun i => ?_⟩
    rw [Fin.getElem?_fin, Fin.getElem?_fin, traits_getElem? h (pick i).isLt, traits_getElem? hq (by simp), List.getElem_ofFn]
    rfl
  case named =>
    intro ps p h hnodup hproper
    rw [names_planOf h]
    refine Identifier.Allocator.allocateAll_eq_self hnodup fun s hs => ?_
    obtain ⟨property, hm, rfl⟩ := List.mem_map.1 hs
    exact ⟨(hproper property hm).1, (hproper property hm).2, List.not_mem_nil⟩

/-- Properties marked as nullable: an array, a date with an adapter, an object and a number. -/
def outing : List Property :=
  let marked := fun m : Method => ⟨m.name, m.annotatedWith { name := "test.Nullable" }⟩
  [marked (.accessor "guests" (.array (.raw WellKnown.object))),
    marked ((Method.accessor "day" (.raw "java.util.Date")).annotatedWith
      { name := adapterMark, value := some (.raw "test.DayAdapter") }),
    marked (.accessor "notes" (.raw WellKnown.object)),
    marked (.accessor "seats" (.primitive .int))]

theorem slots_are_independent_outing :
    let plan := visitContext.planOf "AutoValue_Visit" "$AutoValue_Visit" true []
    ∃ p, plan outing = .ok (some p) ∧
      p.layout.slots.map Slot.traits =
        [(true, .array, true), (true, .adapter, true), (false, .value, true), (false, .int, false)] ∧
      p.layout.slots.map (·.property) = ["guests", "day", "notes", "seats"] ∧
      ∃ q, plan (List.ofFn fun i : Fin 4 => outing[i.rev]) = .ok (some q) ∧
        ∀ i : Fin 4, q.layout.slots[i]?.map Slot.traits = p.layout.slots[i.rev]?.map Slot.traits := by
  intro plan
  obtain ⟨p, hp⟩ : ∃ p, plan outing = .ok (some p) := planOf_eq_ok_iff.2 (by decide +kernel)
  obtain ⟨-, -, -, hpick, hnames⟩ := slots_are_independent visitContext "AutoValue_Visit" "$AutoValue_Visit" true []
  obtain ⟨q, hq, -, hs⟩ := hpick outing p 4 Fin.rev hp
  refine ⟨p, hp, ?_, hnames outing p hp (by decide) (by decide +kernel), q, hq, hs⟩
  rw [filterMap_planOf hp]
  decide +kernel

end Context

end ValueParcel
