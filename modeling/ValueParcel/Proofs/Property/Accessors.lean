import ValueParcel.Property.Accessors
import ValueParcel.Proofs.Registry.Methods
import ValueParcel.Proofs.Registry.Registering
import ValueParcel.Proofs.Registry.Searches

/-!
The properties of a value class. They stand for the accessors among the first methods of their signatures, in the order
of the hierarchy; and either all of them or none are named without a verb.
-/

namespace ValueParcel

open Registry (IsFirst Counts)

/-! ## Accessors -/

/-- An abstract method of instances that takes nothing, gives something, and is none that every parcelable has. -/
structure Method.IsAccessor (m : Method) : Prop where
  abstract : .abstract ∈ m.modifiers
  nonstatic : .static ∉ m.modifiers
  takes : m.parameters = []
  gives : m.returnType ≠ .void
  name : m.name ∉ ["equals", "hashCode", "toString", "describeContents", "writeToParcel"]

/-- The name of the method is a verb, `get` or where it tells a boolean `is`, and `word`. -/
inductive Method.HasWord (m : Method) (word : List Char) : Prop
  | get : m.name.toList = "get".toList ++ word → HasWord m word
  | is : m.name.toList = "is".toList ++ word →
      m.returnType = .primitive .boolean ∨ m.returnType = .raw "java.lang.Boolean" → HasWord m word

/-- The name of the method is a verb and a word that starts in upper case. -/
def Method.IsPrefixed (m : Method) : Prop :=
  ∃ first rest, m.HasWord (first :: rest) ∧ Text.isUppercase first = true

/-- The name of the method without its verb is `name`. The first letter is put in lower case, unless there is another
one in upper case next to it. -/
def Method.Strips (m : Method) (name : String) : Prop :=
  ∃ first rest, m.HasWord (first :: rest) ∧ Text.isUppercase first = true ∧ name = String.ofList
    (if rest.head?.any Text.isUppercase then first :: rest else Text.lower first ++ rest)

theorem Method.Strips.isPrefixed {m : Method} {name : String} (h : m.Strips name) : m.IsPrefixed := by
  obtain ⟨first, rest, hw, hu, -⟩ := h
  exact ⟨first, rest, hw, hu⟩

namespace Property

theorem isAccessor_iff {m : Method} : isAccessor m = true ↔ m.IsAccessor := by
  have h : isAccessor m = true ↔ .abstract ∈ m.modifiers ∧ .static ∉ m.modifiers ∧ m.parameters = [] ∧
      m.returnType ≠ .void ∧ m.name ∉ otherMethods := by
    simp [isAccessor, Method.isAbstract, Method.isStatic, and_assoc]
  rw [h]
  constructor
  · rintro ⟨ha, hs, hp, hr, hn⟩
    exact ⟨ha, hs, hp, hr, hn⟩
  · rintro ⟨ha, hs, hp, hr, hn⟩
    exact ⟨ha, hs, hp, hr, hn⟩

theorem signature_of_takes_nothing {m : Method} (h : m.parameters = []) : m.signature = (m.name, []) := by
  rw [Method.signature, h]
  rfl

/-! ## Names -/

theorem afterVerb?_eq_some_iff {m : Method} {word : List Char} :
    afterVerb? m.name.toList m.returnType = some word ↔ m.HasWord word := by
  have hb : isBoolean m.returnType = true ↔
      m.returnType = .primitive .boolean ∨ m.returnType = .raw "java.lang.Boolean" := by
    simp [isBoolean, Primitive.boxedName]
  constructor
  · intro h
    unfold afterVerb? at h
    split at h
    next hn => exact .get (by simpa [← Option.some.inj h] using hn)
    next hn =>
      split at h
      next hr => exact .is (by simpa [← Option.some.inj h] using hn) (hb.1 hr)
      next => cases h
    next => cases h
  · rintro (hn | ⟨hn, hr⟩)
    · rw [hn]
      rfl
    · rw [hn]
      simp [afterVerb?, hb.2 hr]

theorem decapitalize?_eq_some_iff {word name : List Char} :
    decapitalize? word = some name ↔ ∃ first rest, word = first :: rest ∧ Text.isUppercase first = true ∧
      name = if rest.head?.any Text.isUppercase then first :: rest else Text.lower first ++ rest := by
  constructor
  · intro h
    fun_cases decapitalize? word with
    | case1 => cases h
    | case2 first rest hu => simp [decapitalize?, hu] at h
    | case3 first rest hu hr | case4 first rest hu hr =>
        exact ⟨first, rest, rfl, by simpa using hu, by simpa [decapitalize?, hu, hr] using h.symm⟩
  · rintro ⟨first, rest, rfl, hu, rfl⟩
    rw [decapitalize?, if_neg (by simp [hu])]
    exact (apply_ite some ..).symm

theorem bareName?_eq_some_iff {m : Method} {name : String} : bareName? m = some name ↔ m.Strips name := by
  simp only [bareName?, Option.map_eq_some_iff, Option.bind_eq_some_iff, afterVerb?_eq_some_iff,
    decapitalize?_eq_some_iff]
  constructor
  · rintro ⟨-, ⟨-, hw, first, rest, rfl, hu, rfl⟩, rfl⟩
    exact ⟨first, rest, hw, hu, rfl⟩
  · rintro ⟨first, rest, hw, hu, rfl⟩
    exact ⟨_, ⟨_, hw, first, rest, rfl, hu, rfl⟩, rfl⟩

theorem isSome_bareName?_iff {m : Method} : (bareName? m).isSome = true ↔ m.IsPrefixed := by
  simp only [Option.isSome_iff_exists, bareName?_eq_some_iff]
  constructor
  · rintro ⟨-, first, rest, hw, hu, -⟩
    exact ⟨first, rest, hw, hu⟩
  · rintro ⟨first, rest, hw, hu⟩
    exact ⟨_, first, rest, hw, hu, rfl⟩

theorem ofAccessors_method (accessors : List Method) : (ofAccessors accessors).map (·.method) = accessors := by
  unfold ofAccessors
  split <;> exact List.map_map.trans (List.map_id _)

/-- All names are stripped or none is. -/
theorem ofAccessors_name (accessors : List Method) :
    let properties := ofAccessors accessors
    ((∀ p ∈ properties, p.method.IsPrefixed) → ∀ p ∈ properties, p.method.Strips p.name) ∧
    ((¬ ∀ p ∈ properties, p.method.IsPrefixed) → ∀ p ∈ properties, p.name = p.method.name) := by
  intro properties
  have hall : (accessors.all fun m => (bareName? m).isSome) = true ↔ ∀ p ∈ properties, p.method.IsPrefixed := by
    simp only [List.all_eq_true, isSome_bareName?_iff]
    rw [← ofAccessors_method accessors, List.forall_mem_map]
  constructor
  · intro h p hp
    have hs := h p hp
    rw [show properties = _ from if_pos (hall.2 h)] at hp
    obtain ⟨m, -, rfl⟩ := List.mem_map.1 hp
    obtain ⟨name, hn⟩ := Option.isSome_iff_exists.1 (isSome_bareName?_iff.2 hs)
    exact bareName?_eq_some_iff.1 (by simp [hn])
  · intro h p hp
    rw [show properties = _ from if_neg (mt hall.1 h)] at hp
    obtain ⟨m, -, rfl⟩ := List.mem_map.1 hp
    rfl

/-! ## The properties of a class -/

variable {r : Registry} {d : Declaration} {m : Method}

/-- A class without methods has none of its own either, so there is nothing to fall back on. -/
theorem candidates_eq (h : r.find? d.name = some d) : candidates r d = (r.methods (.raw d.name)).map (·.2) := by
  rw [candidates]
  split
  next hn =>
    rw [hn, List.map_nil, List.eq_nil_iff_forall_not_mem]
    intro m hm
    have hd : r.declaration? (.raw d.name) = some d := h
    obtain ⟨above, hl⟩ : ∃ above, r.hierarchy (.raw d.name) = [] ++ d :: above := r.exists_hierarchy_eq_cons hd
    obtain ⟨k, hk, -⟩ := Registry.exists_isFirst hl hm (.inl rfl) (Registry.not_declares_nil _)
    have hk := Registry.mem_methods_iff.2 hk
    rw [hn] at hk
    cases hk
  next => rfl

/-- The accessors of a class, each with its owner. -/
def accessorsOf (r : Registry) (d : Declaration) : List (Declaration × Method) :=
  (r.methods (.raw d.name)).filter (isAccessor ·.2)

theorem mem_accessorsOf {e : Declaration} :
    (e, m) ∈ accessorsOf r d ↔ IsFirst (r.hierarchy (.raw d.name)) e m ∧ m.IsAccessor := by
  rw [accessorsOf, List.mem_filter, Registry.mem_methods_iff, isAccessor_iff]

theorem nodup_accessorsOf (r : Registry) (d : Declaration) : ((accessorsOf r d).map (·.2.name)).Nodup := by
  have hs : (accessorsOf r d).map (·.2.signature) = ((accessorsOf r d).map (·.2.name)).map fun n => (n, []) := by
    rw [List.map_map]
    refine List.map_congr_left ?_
    intro x hx
    exact signature_of_takes_nothing (mem_accessorsOf.1 hx).2.takes
  have hl : (accessorsOf r d).Sublist (r.methods (.raw d.name)) := List.filter_sublist
  exact .of_map _ (hs ▸ (hl.map _).nodup (Registry.nodup_methods r _))

theorem ofClass_eq (h : r.find? d.name = some d) : ofClass r d = ofAccessors ((accessorsOf r d).map (·.2)) := by
  rw [ofClass, candidates_eq h, List.filter_map]
  rfl

theorem ofClass_method (h : r.find? d.name = some d) :
    (ofClass r d).map (·.method) = (accessorsOf r d).map (·.2) := by
  rw [ofClass_eq h, ofAccessors_method]

/-- The properties of a value class stand for the accessors that are the first of their signatures, once each and in the
order of the hierarchy. So their accessors differ in their names, and an accessor that a class of the lineage implements
is none of them, unless a nearer class declares it without a body, or the same class does so before. The properties keep
the names of their accessors; only where each of these has a verb with a word in upper case, all are stripped of it. -/
theorem properties_are_first_accessors (h : r.find? d.name = some d) :
    let line := r.hierarchy (.raw d.name)
    let properties := ofClass r d
    (∃ found : List (Declaration × Method), properties.map (·.method) = found.map (·.2) ∧
      found.Sublist (line.flatMap fun e => e.methods.map (e, ·)) ∧
      ∀ e m, (e, m) ∈ found ↔ IsFirst line e m ∧ m.IsAccessor) ∧
    (properties.map (·.method.name)).Nodup ∧
    (∀ front e back, r.lineage (.raw d.name) = front ++ e :: back →
      ∀ m ∈ e.methods, m.parameters = [] → .abstract ∉ m.modifiers → Counts front m →
      ∀ p ∈ properties, p.method.name = m.name →
        (∃ c ∈ front, p.method ∈ c.methods) ∨ [p.method, m].Sublist e.methods) ∧
    ((∀ p ∈ properties, p.name = p.method.name) ∨ ∀ p ∈ properties, p.method.Strips p.name) ∧
    ((properties ≠ [] ∧ ∀ p ∈ properties, p.method.Strips p.name) ↔
      properties ≠ [] ∧ ∀ p ∈ properties, p.method.IsPrefixed) := by
  intro line properties
  have hmethod : properties.map (·.method) = (accessorsOf r d).map (·.2) := ofClass_method h
  have hname := ofAccessors_name ((accessorsOf r d).map (·.2))
  rw [← ofClass_eq h] at hname
  refine ⟨⟨accessorsOf r d, hmethod, ?_, fun e m => mem_accessorsOf⟩, ?_, ?_, ?_, ?_⟩
  · exact List.filter_sublist.trans (Registry.methods_sublist r _)
  · have hn := congrArg (List.map (·.name)) hmethod
    rw [List.map_map, List.map_map] at hn
    exact (congrArg List.Nodup hn).mpr (nodup_accessorsOf r d)
  · intro front e back hl m hm hp ha hc p hps hn
    have hx : p.method ∈ properties.map (·.method) := List.mem_map_of_mem hps
    rw [hmethod] at hx
    obtain ⟨⟨c, k⟩, hx, hk⟩ := List.mem_map.1 hx
    obtain ⟨hf, hacc⟩ := mem_accessorsOf.1 hx
    rw [show k = p.method from hk] at hf hacc
    have hs : m.signature = p.method.signature := by
      rw [signature_of_takes_nothing hp, signature_of_takes_nothing hacc.takes, hn]
    rw [Registry.hierarchy, hl, List.append_assoc, List.cons_append] at hf
    have hne : m ≠ p.method := fun he => ha (he ▸ hacc.abstract)
    exact Registry.nearer_of_isFirst hf hm hc hs hne
  · exact (Classical.em _).symm.imp hname.2 hname.1
  · exact and_congr_right fun _ => ⟨fun hs p hp => (hs p hp).isPrefixed, hname.1⟩

/-! ### A title that one class declares twice -/

def title : Method := .accessor "title" (.raw WellKnown.string)

def titleBody : Method := { name := "title", returnType := .raw WellKnown.string }

/-- Its title has no body, and then one. -/
def sheet : Declaration := { Declaration.ofClass "test.Sheet" with methods := [title, titleBody] }

/-- A sheet with a title of its own. -/
def cover : Declaration :=
  { Declaration.ofClass "test.Cover" with
    superclass := some (.raw "test.Sheet"), methods := [.accessor "isOpen" (.primitive .boolean), titleBody] }

def stationery : Registry := .ofList [sheet, cover]

theorem properties_are_first_accessors_cover :
    stationery.find? cover.name = some cover ∧ (∀ p ∈ ofClass stationery cover, p.method.name ≠ "title") ∧
    ((ofClass stationery cover).map (·.method.name)).Nodup := by
  have hf : stationery.find? cover.name = some cover := rfl
  obtain ⟨-, hn, hb, -⟩ := properties_are_first_accessors hf
  refine ⟨hf, ?_, hn⟩
  intro p hp ht
  obtain ⟨back, hl⟩ := stationery.exists_lineage_eq_cons (t := .raw cover.name) hf
  rcases hb [] cover back hl titleBody (by decide) rfl (by decide) (.inl rfl) p hp ht with ⟨c, hc, -⟩ | hs
  · cases hc
  · have hm : p.method = titleBody := by
      have hm : ∀ m ∈ cover.methods, m.name = "title" → m = titleBody := by decide
      exact hm _ (hs.subset (List.mem_cons_self ..)) ht
    rw [hm] at hs
    exact absurd hs (by decide)

/-- The title of a sheet is a property, though the sheet implements it and no class is nearer. -/
theorem title_of_sheet_isProperty :
    stationery.IsKeyed ∧ stationery.find? sheet.name = some sheet ∧
    (∃ back, stationery.lineage (.raw sheet.name) = sheet :: back) ∧
    titleBody ∈ sheet.methods ∧ .abstract ∉ titleBody.modifiers ∧ titleBody.signature = title.signature ∧
    ∃ p ∈ ofClass stationery sheet, p.method = title := by
  have hf : stationery.find? sheet.name = some sheet := rfl
  obtain ⟨above, hl⟩ := stationery.exists_hierarchy_eq_cons (t := .raw sheet.name) hf
  have hi : IsFirst (stationery.hierarchy (.raw sheet.name)) sheet title :=
    ⟨[], above, [], [titleBody], hl, rfl, .inl rfl, Registry.not_declares_nil _, List.forall_mem_nil _⟩
  have hm : title ∈ (accessorsOf stationery sheet).map (·.2) :=
    List.mem_map_of_mem (mem_accessorsOf.2 ⟨hi, isAccessor_iff.1 (by decide)⟩)
  rw [← ofClass_method hf] at hm
  exact ⟨Registry.isKeyed_ofList _, hf, stationery.exists_lineage_eq_cons hf, by decide, by decide, by decide,
    List.mem_map.1 hm⟩

end Property

end ValueParcel
