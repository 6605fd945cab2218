import Mathlib.Logic.Relation
import ValueParcel.Proofs.Registry.Registering
import ValueParcel.Registry.Hierarchy

/-!
The names above a name. A name steps to the names of the direct supertypes of what it declares; what can be assigned
and what a class extends is told by chains of such steps.
-/

namespace ValueParcel

/-- The superclass that is written, if any, and the interfaces are declared types. -/
def Declaration.NamesSupertypes (d : Declaration) : Prop :=
  ∀ t ∈ d.superclass.toList ++ d.interfaces, t.declaredName?.isSome = true

instance (d : Declaration) : Decidable d.NamesSupertypes := inferInstanceAs (Decidable (∀ t ∈ _, _ = _))

/-- The superclass that is written, if any, is a declared type. -/
def Declaration.NamesSuperclass (d : Declaration) : Prop := ∀ t ∈ d.superclass, t.declaredName?.isSome = true

instance (d : Declaration) : Decidable d.NamesSuperclass := Option.decidableForallMem _

theorem JavaType.exists_declared {t : JavaType} (h : t.declaredName?.isSome = true) : ∃ n args, t = .declared n args := by
  cases t with
  | declared n args => exact ⟨n, args, rfl⟩
  | _ => cases h

/-- A superclass that is not written is `Enum` or `Object`, and so a declared type as well. -/
theorem Declaration.NamesSuperclass.exists_declared {d : Declaration} (h : d.NamesSuperclass) {t : JavaType}
    (ht : d.superclass? = some t) : ∃ n args, t = .declared n args := by
  rw [superclass?] at ht
  split at ht
  · rename_i hs
    cases ht
    exact JavaType.exists_declared (h t hs)
  · cases ht
  · cases ht
    exact ⟨_, _, rfl⟩
  · split at ht
    · cases ht
    · cases ht
      exact ⟨_, _, rfl⟩

namespace Registry

open Relation (ReflTransGen)

/-- `m` names a direct supertype of what `n` declares. -/
def Steps (r : Registry) (n m : String) : Prop := ∃ d, r.find? n = some d ∧ m ∈ d.supertypeNames

/-- `m` is `n` or one of the names above it. -/
abbrev IsAbove (r : Registry) (m n : String) : Prop := ReflTransGen r.Steps n m

variable {r : Registry}

/-! ## Regular registries -/

/-- Superclasses and interfaces are declared types, whether the registry has their declarations or not. -/
def NamesSupertypes (r : Registry) : Prop := ∀ n d, r.find? n = some d → d.NamesSupertypes

theorem NamesSupertypes.register (h : r.NamesSupertypes) {d : Declaration} (hd : d.NamesSupertypes) :
    (r.register d).NamesSupertypes := by
  intro n e he
  rw [find?_register] at he
  split at he
  · cases he
    exact hd
  · exact h n e he

theorem IsKeyed.superclass? (h : r.IsKeyed) {n : String} {d : Declaration} (hd : r.find? n = some d) :
    r.superclass? (.raw d.name) = d.superclass? := by
  rw [h n d hd]
  simp [Registry.superclass?, JavaType.raw, declaration?, hd]

theorem NamesSupertypes.exists_declared (h : r.NamesSupertypes) {n : String} {d : Declaration}
    (hd : r.find? n = some d) {t : JavaType} (ht : t ∈ d.supertypes) : ∃ m args, t = .declared m args := by
  rcases List.mem_append.1 ht with ht | ht
  · exact JavaType.exists_declared (h n d hd t (List.mem_append_right _ ht))
  · have hs : d.NamesSuperclass := fun s hs => h n d hd s (List.mem_append_left _ (Option.mem_toList.2 hs))
    exact hs.exists_declared (Option.mem_toList.1 ht)

/-! ## Steps -/

theorem mem_supertypeNames_of_steps {n : String} {d : Declaration} (hd : r.find? n = some d) :
    ∀ m, r.Steps n m → m ∈ d.supertypeNames := by
  rintro m ⟨e, he, hm⟩
  rw [hd] at he
  cases he
  exact hm

theorem steps_iff {n m : String} {d : Declaration} (hd : r.find? n = some d) : r.Steps n m ↔ m ∈ d.supertypeNames :=
  ⟨mem_supertypeNames_of_steps hd m, fun hm => ⟨d, hd, hm⟩⟩

theorem contains_of_find? {n : String} {d : Declaration} (hd : r.find? n = some d) : r.contains n = true := by
  rw [contains, hd, Option.isSome_some]

theorem not_contains {n : String} {args : List JavaType} (hd : r.declaration? (.declared n args) = none) :
    ¬ r.contains n = true := by
  rw [declaration?] at hd
  simp [contains, hd]

theorem contains_of_steps {n m : String} (h : r.Steps n m) : r.contains n = true := by
  obtain ⟨d, hd, -⟩ := h
  exact contains_of_find? hd

/-- What is below something registered is registered itself. -/
theorem contains_of_isAbove {n m : String} (ha : r.IsAbove m n) (hm : r.contains m = true) : r.contains n = true := by
  rcases ha.cases_head with rfl | ⟨k, hk, -⟩
  · exact hm
  · exact contains_of_steps hk

/-- Nothing is known to be above what is not registered. -/
theorem mem_nil_of_steps {n : String} (hd : r.find? n = none) : ∀ m, r.Steps n m → m ∈ [] := by
  rintro m ⟨e, he, -⟩
  rw [hd] at he
  cases he

/-! ## Searches -/

/-- Every step out of the names that are done leads to one that is done or still to do. -/
def IsFrontier (r : Registry) (done todo : List String) : Prop :=
  ∀ n ∈ done, ∀ m, r.Steps n m → m ∈ done ∨ m ∈ todo

/-- Every registered name to which a seen one steps has been seen or is still to do. -/
def Covers (r : Registry) (seen todo : List String) : Prop :=
  ∀ n ∈ seen, ∀ m, r.Steps n m → r.contains m = true → m ∈ seen ∨ m ∈ todo

section Covers

variable {seen todo : List String} {n m : String}

theorem Covers.skip (h : r.Covers seen (n :: todo)) (hn : r.contains n = true → n ∈ seen) : r.Covers seen todo := by
  intro k hk m hm hc
  rcases h k hk m hm hc with hs | ht
  · exact .inl hs
  · rcases List.mem_cons.1 ht with rfl | ht
    · exact .inl (hn hc)
    · exact .inr ht

theorem Covers.visit (h : r.Covers seen (n :: todo)) {todo' : List String} (ht : todo ⊆ todo')
    (hn : ∀ m, r.Steps n m → m ∈ todo') : r.Covers (n :: seen) todo' := by
  intro k hk m hm hc
  rcases List.mem_cons.1 hk with rfl | hk
  · exact .inr (hn m hm)
  · rcases h k hk m hm hc with hs | hd
    · exact .inl (List.mem_cons_of_mem _ hs)
    · rcases List.mem_cons.1 hd with rfl | hd
      · exact .inl (List.mem_cons_self ..)
      · exact .inr (ht hd)

/-- Nothing to do is left: whatever is registered above what has been seen has been seen as well. -/
theorem Covers.mem_of_isAbove (h : r.Covers seen []) (hn : n ∈ seen) (ha : r.IsAbove m n) (hm : r.contains m = true) :
    m ∈ seen := by
  induction ha with
  | refl => exact hn
  | tail _ hs ih => exact (h _ (ih (contains_of_steps hs)) _ hs hm).resolve_right List.not_mem_nil

end Covers

section Reaches

variable {target : String} {seen done todo : List String}

theorem IsFrontier.skip {n : String} (h : r.IsFrontier done (n :: todo)) (hn : n ∈ done) : r.IsFrontier done todo := by
  intro k hk m hm
  rcases h k hk m hm with hd | ht
  · exact .inl hd
  · rcases List.mem_cons.1 ht with rfl | ht
    · exact .inl hn
    · exact .inr ht

theorem IsFrontier.visit {n : String} {next : List String} (h : r.IsFrontier done (n :: todo))
    (hn : ∀ m, r.Steps n m → m ∈ next) : r.IsFrontier (n :: done) (next ++ todo) := by
  intro k hk m hm
  rcases List.mem_cons.1 hk with rfl | hk
  · exact .inr (List.mem_append_left _ (hn m hm))
  · rcases h k hk m hm with hd | ht
    · exact .inl (List.mem_cons_of_mem _ hd)
    · rcases List.mem_cons.1 ht with rfl | ht
      · exact .inl (List.mem_cons_self ..)
      · exact .inr (List.mem_append_right _ ht)

/-- Nothing to do is left: whatever is above what is done is done itself. -/
theorem IsFrontier.mem_of_isAbove {n m : String} (h : r.IsFrontier done []) (hn : n ∈ done) (ha : r.IsAbove m n) :
    m ∈ done := by
  induction ha with
  | refl => exact hn
  | tail _ hs ih => exact (h _ ih _ hs).resolve_right List.not_mem_nil

theorem isAbove_of_reaches (h : r.reaches target seen todo = true) : ∃ n ∈ todo, r.IsAbove target n := by
  fun_induction reaches r target seen todo with
  | case1 => cases h
  | case2 seen todo => exact ⟨target, List.mem_cons_self .., .refl⟩
  | case3 seen n todo _ _ ih =>
      obtain ⟨m, hm, ha⟩ := ih h
      exact ⟨m, List.mem_cons_of_mem _ hm, ha⟩
  | case4 seen n todo _ d _ _ ih =>
      obtain ⟨m, hm, ha⟩ := ih h
      exact ⟨m, List.mem_cons_of_mem _ hm, ha⟩
  | case5 seen n todo _ d hd _ ih =>
      obtain ⟨m, hm, ha⟩ := ih h
      rcases List.mem_append.1 hm with hm | hm
      · exact ⟨n, List.mem_cons_self .., .head ⟨d, hd, hm⟩ ha⟩
      · exact ⟨m, List.mem_cons_of_mem _ hm, ha⟩

/-- A search that fails has not missed its target: it is above nothing that has been looked at. -/
theorem not_isAbove_of_reaches (h : r.reaches target seen todo = false) (hs : seen ⊆ done) (ht : target ∉ done)
    (hf : r.IsFrontier done todo) : ∀ n, n ∈ done ∨ n ∈ todo → ¬ r.IsAbove target n := by
  fun_induction reaches r target seen todo generalizing done with
  | case1 =>
      intro n hn ha
      exact ht (hf.mem_of_isAbove (hn.resolve_right List.not_mem_nil) ha)
  | case2 => cases h
  | case3 seen n todo hn hd ih =>
      have := ih h (List.subset_cons_of_subset n hs) (by simp [ht, Ne.symm hn]) (hf.visit (mem_nil_of_steps hd))
      grind
  | case4 seen n todo hn d hd hm ih =>
      have := ih h hs ht (hf.skip (hs hm))
      grind
  | case5 seen n todo hn d hd hm ih =>
      have hv := hf.visit (mem_supertypeNames_of_steps hd)
      have := ih h (List.cons_subset_cons n hs) (by simp [ht, Ne.symm hn]) hv
      grind

/-- The search from one name finds the target if and only if it is above that name. -/
theorem reaches_iff {n : String} : r.reaches target [] [n] = true ↔ r.IsAbove target n := by
  constructor
  · intro h
    obtain ⟨m, hm, ha⟩ := isAbove_of_reaches h
    obtain rfl := List.mem_singleton.1 hm
    exact ha
  · intro ha
    cases h : r.reaches target [] [n] with
    | true => rfl
    | false =>
        have hf : r.IsFrontier [] [n] := nofun
        exact absurd ha (not_isAbove_of_reaches h (List.Subset.refl _) List.not_mem_nil hf n (by simp))

end Reaches

/-- A declared type can be assigned to another one if that is `Object` or named above it. -/
theorem isAssignable_declared_iff {n m : String} {as bs : List JavaType} :
    r.isAssignable (.declared n as) (.declared m bs) = true ↔ m = WellKnown.object ∨ r.IsAbove m n := by
  simp [isAssignable, assignable, JavaType.erasure, JavaType.raw, reaches_iff]

/-! ## Superclasses -/

theorem mem_supertypeNames_of_superclass {d : Declaration} {n : String}
    (h : d.superclass?.bind (·.erasure.declaredName?) = some n) : n ∈ d.supertypeNames := by
  obtain ⟨t, ht, hn⟩ := Option.bind_eq_some_iff.1 h
  refine List.mem_filterMap.2 ⟨t, List.mem_append_right _ ?_, hn⟩
  simp [ht]

theorem isAbove_of_mem_lineageNames {seen : List String} {n m : String} (h : m ∈ r.lineageNamesFrom seen n) :
    r.IsAbove m n := by
  fun_induction lineageNamesFrom r seen n with
  | case1 => simp at h
  | case2 seen n _ ih =>
      rcases List.mem_cons.1 h with rfl | h
      · exact .refl
      · split at h
        · cases h
        · rename_i d hd
          split at h
          · cases h
          · rename_i s hs
            exact .head ⟨d, hd, mem_supertypeNames_of_superclass hs⟩ (ih d hd s h)

/-- A class is below every class that it extends. -/
theorem isAbove_of_extendsClass {n m : String} {args : List JavaType} (h : r.extendsClass (.declared n args) m = true) :
    r.IsAbove m n := by
  simp only [extendsClass, JavaType.erasure, JavaType.raw, JavaType.declaredName?, decide_eq_true_eq] at h
  exact isAbove_of_mem_lineageNames h

end Registry

end ValueParcel
