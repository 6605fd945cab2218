import ValueParcel.Proofs.JavaType.Settled
import ValueParcel.Registry.Basic

/-!
Declarations that are saved and read again. Nothing is refused and nothing but types can change: each type comes back with
its brackets settled, so that a declaration is lost if and only if one of its arrays has bounded variables in it.
-/

namespace ValueParcel

/-! ## Types in declarations -/

namespace AnnotationUse

def types (a : AnnotationUse) : List JavaType := a.value.toList

def mapTypes (f : JavaType → JavaType) (a : AnnotationUse) : AnnotationUse := { a with value := a.value.map f }

end AnnotationUse

namespace Parameter

def mapTypes (f : JavaType → JavaType) (p : Parameter) : Parameter := { p with type := f p.type }

end Parameter

namespace Method

def types (m : Method) : List JavaType :=
  m.returnType :: (m.parameters.map (·.type) ++ m.annotations.flatMap (·.types))

def mapTypes (f : JavaType → JavaType) (m : Method) : Method :=
  { m with
    returnType := f m.returnType
    parameters := m.parameters.map (·.mapTypes f)
    annotations := m.annotations.map (·.mapTypes f) }

end Method

namespace Field

def mapTypes (f : JavaType → JavaType) (v : Field) : Field := { v with type := f v.type }

end Field

namespace Declaration

/-- All types that stand in the declaration. -/
def types (d : Declaration) : List JavaType :=
  d.superclass.toList ++ d.interfaces ++ d.typeParameters ++ d.methods.flatMap (·.types) ++ d.fields.map (·.type)

def mapTypes (f : JavaType → JavaType) (d : Declaration) : Declaration :=
  { d with
    superclass := d.superclass.map f
    interfaces := d.interfaces.map f
    typeParameters := d.typeParameters.map f
    methods := d.methods.map (·.mapTypes f)
    fields := d.fields.map (·.mapTypes f) }

end Declaration

section Unchanged

variable {f : JavaType → JavaType}

theorem map_eq_self_iff {α : Type} {g : α → α} {xs : List α} : xs.map g = xs ↔ ∀ x ∈ xs, g x = x := by
  simpa using List.map_inj_left (f := g) (g := id) (l := xs)

theorem AnnotationUse.mapTypes_eq_self_iff {a : AnnotationUse} : a.mapTypes f = a ↔ ∀ t ∈ a.types, f t = t := by
  obtain ⟨name, value⟩ := a
  cases value with
  | none => simp [mapTypes, types]
  | some t => simp [mapTypes, types]

theorem Parameter.mapTypes_eq_self_iff {p : Parameter} : p.mapTypes f = p ↔ f p.type = p.type := by
  obtain ⟨name, type⟩ := p
  simp [mapTypes]

theorem Field.mapTypes_eq_self_iff {v : Field} : v.mapTypes f = v ↔ f v.type = v.type := by
  obtain ⟨name, type, modifiers⟩ := v
  simp [mapTypes]

theorem Method.mapTypes_eq_self_iff {m : Method} : m.mapTypes f = m ↔ ∀ t ∈ m.types, f t = t := by
  obtain ⟨name, returnType, parameters, modifiers, annotations⟩ := m
  have hp : parameters.map (·.mapTypes f) = parameters ↔ ∀ p ∈ parameters, f p.type = p.type := by
    simp only [map_eq_self_iff, Parameter.mapTypes_eq_self_iff]
  have ha : annotations.map (·.mapTypes f) = annotations ↔ ∀ a ∈ annotations, ∀ t ∈ a.types, f t = t := by
    simp only [map_eq_self_iff, AnnotationUse.mapTypes_eq_self_iff]
  simp only [mapTypes, types, Method.mk.injEq, hp, ha, true_and, List.forall_mem_cons, List.forall_mem_append,
    List.forall_mem_map, List.forall_mem_flatMap]

theorem Declaration.mapTypes_eq_self_iff {d : Declaration} : d.mapTypes f = d ↔ ∀ t ∈ d.types, f t = t := by
  obtain ⟨name, kind, superclass, interfaces, typeParameters, methods, fields, modifiers⟩ := d
  have hs : superclass.map f = superclass ↔ ∀ t ∈ superclass.toList, f t = t := by
    cases superclass <;> simp
  have hm : methods.map (·.mapTypes f) = methods ↔ ∀ m ∈ methods, ∀ t ∈ m.types, f t = t := by
    simp only [map_eq_self_iff, Method.mapTypes_eq_self_iff]
  have hv : fields.map (·.mapTypes f) = fields ↔ ∀ v ∈ fields, f v.type = v.type := by
    simp only [map_eq_self_iff, Field.mapTypes_eq_self_iff]
  simp only [mapTypes, types, Declaration.mk.injEq, hs, map_eq_self_iff (g := f), hm, hv, true_and, and_true, and_assoc,
    List.forall_mem_append, List.forall_mem_map, List.forall_mem_flatMap]

end Unchanged

/-! ## Reading what was saved -/

section Reading

variable (s : Scalars)

theorem mapM_map_eq_some {α β γ : Type} {f : β → Option γ} {encode : α → β} {g : α → γ} {xs : List α}
    (h : ∀ x ∈ xs, f (encode x) = some (g x)) : (xs.map encode).mapM f = some (xs.map g) := by
  induction xs with
  | nil => rfl
  | cons x xs ih =>
      rw [List.forall_mem_cons] at h
      simp only [List.map_cons, List.mapM_cons, h.1, ih h.2]
      rfl

theorem Document.items?_ofList {α : Type} {f : Document → Option α} {encode : α → Document} {g : α → α} {xs : List α}
    (h : ∀ x ∈ xs, f (encode x) = some (g x)) : (Document.ofList encode xs).items? f = some (xs.map g) :=
  mapM_map_eq_some h

theorem Modifier.decode_encode (m : Modifier) : Modifier.decode s m.encode = some m := by
  cases m <;> rfl

theorem Modifier.items?_encode (ms : List Modifier) :
    (Document.ofList Modifier.encode ms).items? (Modifier.decode s) = some ms := by
  simpa using Document.items?_ofList (g := id) (fun m (_ : m ∈ ms) => m.decode_encode s)

theorem Kind.named?_name (k : Kind) : (Document.text k.name).named? s Kind.all Kind.name = some k := by
  cases k <;> rfl

theorem JavaType.IsNamed.decode_encode {t : JavaType} (h : t.IsNamed) : JavaType.decode s t.encode = some t.settled := by
  simp [JavaType.decode, JavaType.encode, Document.text?, h.read_descriptor, Except.toOption]

theorem JavaType.IsNamed.decodeOption_encode {t : JavaType} (h : t.IsNamed) :
    JavaType.decodeOption s (some t.encode) = some (some t.settled) := by
  have hd := h.decode_encode s
  rw [JavaType.encode] at hd ⊢
  simp [JavaType.decodeOption, hd]

theorem AnnotationUse.decode_encode {a : AnnotationUse} (h : ∀ t ∈ a.types, t.IsNamed) :
    AnnotationUse.decode s a.encode = some (a.mapTypes JavaType.settled) := by
  obtain ⟨name, value⟩ := a
  cases value with
  | none => rfl
  | some t =>
      have ht : t.IsNamed := h t (by simp [types])
      simp [decode, encode, Document.fields?, List.lookup_cons, List.lookup_nil, Document.text?, ht.decodeOption_encode, mapTypes]

theorem Parameter.decode_encode {p : Parameter} (h : p.type.IsNamed) :
    Parameter.decode s p.encode = some (p.mapTypes JavaType.settled) := by
  simp [decode, encode, Document.fields?, List.lookup_cons, List.lookup_nil, Document.text?, h.decode_encode, mapTypes]

theorem Field.decode_encode {v : Field} (h : v.type.IsNamed) :
    Field.decode s v.encode = some (v.mapTypes JavaType.settled) := by
  simp [decode, encode, Document.fields?, List.lookup_cons, List.lookup_nil, Document.text?, Document.itemsOrNone?, h.decode_encode,
    Modifier.items?_encode, mapTypes]

theorem Method.decode_encode {m : Method} (h : ∀ t ∈ m.types, t.IsNamed) :
    Method.decode s m.encode = some (m.mapTypes JavaType.settled) := by
  simp only [types, List.forall_mem_cons, List.forall_mem_append, List.forall_mem_map, List.forall_mem_flatMap] at h
  obtain ⟨hr, hp, ha⟩ := h
  have hp := Document.items?_ofList fun p hm => Parameter.decode_encode s (hp p hm)
  have ha := Document.items?_ofList fun a hm => AnnotationUse.decode_encode s (ha a hm)
  simp [decode, encode, Document.fields?, List.lookup_cons, List.lookup_nil, Document.text?, Document.itemsOrNone?, hr.decode_encode, hp, ha,
    Modifier.items?_encode, mapTypes]

theorem Declaration.decode_encode {d : Declaration} (h : ∀ t ∈ d.types, t.IsNamed) :
    Declaration.decode s d.encode = some (d.mapTypes JavaType.settled) := by
  simp only [types, List.forall_mem_append, List.forall_mem_map, List.forall_mem_flatMap] at h
  obtain ⟨⟨⟨⟨hs, hi⟩, ht⟩, hm⟩, hv⟩ := h
  have hi := Document.items?_ofList fun t hm => (hi t hm).decode_encode s
  have ht := Document.items?_ofList fun t hm => (ht t hm).decode_encode s
  have hm := Document.items?_ofList fun m hd => Method.decode_encode s (hm m hd)
  have hv := Document.items?_ofList fun v hd => Field.decode_encode s (hv v hd)
  cases hd : d.superclass with
  | none =>
      simp [decode, encode, hd, Document.fields?, List.lookup_cons, List.lookup_nil, Document.text?, Document.itemsOrNone?, Kind.named?_name,
        JavaType.decodeOption, hi, ht, hm, hv, Modifier.items?_encode, mapTypes]
  | some t =>
      have ht' : t.IsNamed := hs t (by simp [hd])
      simp [decode, encode, hd, Document.fields?, List.lookup_cons, List.lookup_nil, Document.text?, Document.itemsOrNone?, Kind.named?_name,
        ht'.decodeOption_encode, hi, ht, hm, hv, Modifier.items?_encode, mapTypes]

end Reading

end ValueParcel
