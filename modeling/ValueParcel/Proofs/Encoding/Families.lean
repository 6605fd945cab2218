import Mathlib.Data.List.Nodup
import ValueParcel.Encoding.Classification
import ValueParcel.Proofs.Registry.Preorder
import ValueParcel.Proofs.Registry.Searches

/-!
Families and assignability. Where the registry has every class that names a family, a declared type has a family if
and only if it can be assigned to such a class, and it can be assigned to the class of the family that it has.
-/

namespace ValueParcel

namespace Family

/-- The classes that name a family. -/
def classNames : List String := Primitive.all.map (·.boxedName) ++ named.map (·.1)

theorem mem_classNames {n : String} {f : Family} (h : ofClass? n = some f) : n ∈ classNames := by
  rw [ofClass?] at h
  split at h
  · rename_i k hk
    have hn : k.boxedName = n := by simpa using List.find?_some hk
    exact List.mem_append_left _ (List.mem_map.2 ⟨k, k.mem_all, hn⟩)
  · obtain ⟨l, m, hl, -⟩ := List.lookup_eq_some_iff.1 h
    exact List.mem_append_right _ (List.mem_map.2 ⟨(n, f), by simp [hl], rfl⟩)

theorem ofClass?_object : ofClass? WellKnown.object = none := by decide

/-- Enums have a family of their own, which no class names. -/
theorem ofClass?_ne_enum (n : String) : ofClass? n ≠ some .enum := by
  intro h
  have he : ∀ m ∈ classNames, ofClass? m ≠ some .enum := by decide
  exact he n (mem_classNames h) h

theorem nodup_map_ofClass? : (classNames.map ofClass?).Nodup := by decide +kernel

/-- No two classes name one family. -/
theorem ofClass?_inj {n m : String} {f : Family} (hn : ofClass? n = some f) (hm : ofClass? m = some f) : n = m :=
  List.inj_on_of_nodup_map nodup_map_ofClass? (mem_classNames hn) (mem_classNames hm) (hn.trans hm.symm)

end Family

namespace Registry

variable {r : Registry} {n : String} {args : List JavaType}

/-- The registry has the classes that name families. -/
def KnowsFamilies (r : Registry) : Prop := ∀ n, (Family.ofClass? n).isSome = true → r.contains n = true

theorem isAbove_of_familyAbove (hk : r.IsKeyed) (hs : r.NamesSupertypes) {f : Family}
    (h : r.familyAbove (.declared n args) = some f) : ∃ m, Family.ofClass? m = some f ∧ r.IsAbove m n := by
  obtain ⟨d, hd, hf⟩ := List.exists_of_findSome?_eq_some h
  exact ⟨d.name, hf, ((mem_preorder_iff hk hs).1 hd).2⟩

theorem familyAbove_eq_none_iff (hk : r.IsKeyed) (hs : r.NamesSupertypes) (hf : r.KnowsFamilies) :
    r.familyAbove (.declared n args) = none ↔ ∀ m, (Family.ofClass? m).isSome = true → ¬ r.IsAbove m n := by
  rw [familyAbove, List.findSome?_eq_none_iff]
  constructor
  · intro h m hm ha
    obtain ⟨d, hd⟩ := Option.isSome_iff_exists.1 (hf m hm)
    have hn : d.name = m := hk m d hd
    subst hn
    rw [h d ((mem_preorder_iff hk hs).2 ⟨hd, ha⟩)] at hm
    cases hm
  · intro h d hd
    have ha := ((mem_preorder_iff hk hs).1 hd).2
    simpa using mt (h d.name) (not_not_intro ha)

/-- The family of a declaration is the one found above it, `Enum`, or that of a Guava class which it extends. -/
theorem promote_cases (t : JavaType) (kind : Kind) (f : Family) :
    r.promote t kind f = f ∨ r.promote t kind f = .enum ∧ kind = .enumKind ∨
      r.promote t kind f = .immutableCollection ∧ r.extendsClass t WellKnown.immutableCollection = true ∨
      r.promote t kind f = .immutableMap ∧ r.extendsClass t WellKnown.immutableMap = true := by
  unfold promote
  split
  · exact .inl rfl
  · split
    · rename_i hk
      exact .inr (.inl ⟨rfl, hk⟩)
    · split
      · rename_i hl
        exact .inr (.inr (.inl ⟨rfl, hl.2⟩))
      · split
        · rename_i hm
          exact .inr (.inr (.inr ⟨rfl, hm.2⟩))
        · exact .inl rfl

theorem classify_declared (h : .declared n args ≠ JavaType.raw WellKnown.object) : r.classify (.declared n args) =
    (r.find? n).bind fun d => (r.familyAbove (.declared n args)).map (r.promote (.declared n args) d.kind) := by
  simp [classify, familyOfDeclared, h, declaration?]

theorem classify_eq_none_iff (h : .declared n args ≠ JavaType.raw WellKnown.object) :
    r.classify (.declared n args) = none ↔ r.familyAbove (.declared n args) = none := by
  rw [classify_declared h]
  cases hd : r.find? n with
  | none => simp [familyAbove, preorder_of_find?_eq_none hd]
  | some d => simp

/-- A class that names a family has it, whatever is above the class; lists and maps are told apart further. -/
theorem classify_of_ofClass? {d : Declaration} {f : Family} (hd : r.find? n = some d) (hn : d.name = n)
    (hf : Family.ofClass? n = some f) (hk : d.kind ≠ .enumKind) (hl : f ≠ .list ∧ f ≠ .map) :
    r.classify (.declared n args) = some f := by
  have hd' : r.declaration? (.declared n args) = some d := hd
  have ha : r.familyAbove (.declared n args) = some f := by
    simp [familyAbove, preorder, preorderFrom_cons, hd', hn, hf]
  have ho : .declared n args ≠ JavaType.raw WellKnown.object := by
    intro h
    obtain ⟨rfl, -⟩ := JavaType.declared.inj h
    rw [Family.ofClass?_object] at hf
    cases hf
  rw [classify_declared ho, hd, Option.bind_some, ha, Option.map_some]
  simp [promote, hk, hl]

theorem isAssignable_eq_false_iff {m : String} {bs : List JavaType} {f : Family} (hm : Family.ofClass? m = some f) :
    r.isAssignable (.declared n args) (.declared m bs) = false ↔ ¬ r.IsAbove m n := by
  have ho : m ≠ WellKnown.object := by
    rintro rfl
    rw [Family.ofClass?_object] at hm
    cases hm
  rw [← Bool.not_eq_true, isAssignable_declared_iff]
  simp [ho]

/-- The class of the family of a type is above the type's name, and only enums have a family that no class names. -/
theorem isAbove_of_classify (hk : r.IsKeyed) (hs : r.NamesSupertypes)
    (ht : .declared n args ≠ JavaType.raw WellKnown.object) {f : Family}
    (h : r.classify (.declared n args) = some f) :
    (∃ m, Family.ofClass? m = some f ∧ r.IsAbove m n) ∨
      f = .enum ∧ ∃ d, r.find? n = some d ∧ d.kind = .enumKind := by
  rw [classify_declared ht, Option.bind_eq_some_iff] at h
  obtain ⟨d, hd, hf⟩ := h
  obtain ⟨g, hg, rfl⟩ := Option.map_eq_some_iff.1 hf
  rcases r.promote_cases (.declared n args) d.kind g with hp | ⟨hp, he⟩ | ⟨hp, he⟩ | ⟨hp, he⟩
  · rw [hp]
    exact .inl (isAbove_of_familyAbove hk hs hg)
  · rw [hp]
    exact .inr ⟨rfl, d, hd, he⟩
  · rw [hp]
    exact .inl ⟨WellKnown.immutableCollection, by decide, isAbove_of_extendsClass he⟩
  · rw [hp]
    exact .inl ⟨WellKnown.immutableMap, by decide, isAbove_of_extendsClass he⟩

/-- A declared type has no family if and only if it can be assigned to no class that names one. It can be assigned to
the class that names the family it has, and has the family of enums only if it is one. -/
theorem classify_agrees_isAssignable (hk : r.IsKeyed) (hs : r.NamesSupertypes) (hf : r.KnowsFamilies) (n : String)
    (args : List JavaType) (ht : .declared n args ≠ JavaType.raw WellKnown.object) :
    (r.classify (.declared n args) = none ↔ ∀ m bs, (Family.ofClass? m).isSome = true →
      r.isAssignable (.declared n args) (.declared m bs) = false) ∧
    (∀ f, r.classify (.declared n args) = some f → f ≠ .enum → (∃ m, Family.ofClass? m = some f) ∧
      ∀ m bs, Family.ofClass? m = some f → r.isAssignable (.declared n args) (.declared m bs) = true) ∧
    (r.classify (.declared n args) = some .enum → ∃ d, r.find? n = some d ∧ d.kind = .enumKind) := by
  refine ⟨?_, ?_, ?_⟩
  · rw [classify_eq_none_iff ht, familyAbove_eq_none_iff hk hs hf]
    constructor
    · intro h m bs hm
      obtain ⟨f, hf⟩ := Option.isSome_iff_exists.1 hm
      exact (isAssignable_eq_false_iff hf).2 (h m hm)
    · intro h m hm
      obtain ⟨f, hf⟩ := Option.isSome_iff_exists.1 hm
      exact (isAssignable_eq_false_iff hf).1 (h m [] hm)
  · intro f h he
    obtain ⟨m, hm, ha⟩ := (isAbove_of_classify hk hs ht h).resolve_right fun h => he h.1
    refine ⟨⟨m, hm⟩, ?_⟩
    intro k bs hk
    obtain rfl := Family.ofClass?_inj hm hk
    exact isAssignable_declared_iff.2 (.inr ha)
  · intro h
    rcases isAbove_of_classify hk hs ht h with ⟨m, hm, -⟩ | ⟨-, he⟩
    · exact absurd hm (Family.ofClass?_ne_enum m)
    · exact he

/-- A class that extends its own subclass. -/
def left : Declaration := { Declaration.ofClass "test.Left" with superclass := some (.raw "test.Right") }

/-- The subclass, which is a list. -/
def right : Declaration :=
  { Declaration.ofClass "test.Right" with
    superclass := some (.raw "test.Left"), interfaces := [.raw "test.Unknown", .declared WellKnown.list [.free "T"]] }

/-- The classes that name families, and two that extend each other. -/
def rivals : Registry := ((ofList (Family.classNames.map .ofInterface)).register left).register right

theorem knowsFamilies_rivals : rivals.KnowsFamilies := by
  intro n hn
  obtain ⟨f, hf⟩ := Option.isSome_iff_exists.1 hn
  have hm : .ofInterface n ∈ Family.classNames.map Declaration.ofInterface :=
    List.mem_map_of_mem (Family.mem_classNames hf)
  exact contains_register.2 (.inr (contains_register.2 (.inr (contains_ofList hm))))

theorem namesSupertypes_rivals : rivals.NamesSupertypes := by
  have h : ∀ d ∈ Family.classNames.map Declaration.ofInterface, d.NamesSupertypes := by decide
  have ho : (ofList (Family.classNames.map .ofInterface)).NamesSupertypes := fun n d hd => h d (mem_of_find?_ofList hd)
  exact (ho.register (d := left) (by decide)).register (by decide)

/-- The list is two steps above the first class. -/
theorem isAbove_list_rivals : rivals.IsAbove WellKnown.list "test.Left" := by
  have hl : rivals.find? "test.Left" = some left := by simp [rivals, find?_register, left, right, Declaration.ofClass]
  have hr : rivals.find? "test.Right" = some right := by simp [rivals, find?_register, right, Declaration.ofClass]
  have hs : rivals.Steps "test.Left" "test.Right" := ⟨left, hl, by decide⟩
  exact .head hs (.single ⟨right, hr, by decide⟩)

theorem classify_agrees_isAssignable_rivals :
    rivals.IsKeyed ∧ rivals.NamesSupertypes ∧ rivals.KnowsFamilies ∧ rivals.classify (.raw "test.Left") ≠ none := by
  have hk : rivals.IsKeyed := ((isKeyed_ofList _).register left).register right
  refine ⟨hk, namesSupertypes_rivals, knowsFamilies_rivals, ?_⟩
  intro h
  have hn := classify_agrees_isAssignable hk namesSupertypes_rivals knowsFamilies_rivals "test.Left" [] (by decide)
  have ha := hn.1.1 h WellKnown.list [] (by decide)
  rw [isAssignable_declared_iff.2 (.inr isAbove_list_rivals)] at ha
  cases ha

end Registry

end ValueParcel
