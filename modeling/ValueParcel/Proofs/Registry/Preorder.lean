import ValueParcel.Proofs.Registry.Supertypes

/-!
The preorder of a declared type. Where supertypes are declared types, it lists the declarations above the type's name,
all of them and no others, on cyclic registries too.
-/

namespace ValueParcel

/-- The names of some types, less their arguments. -/
def JavaType.headNames (ts : List JavaType) : List String := ts.filterMap (·.erasure.declaredName?)

namespace Registry

open JavaType (headNames)

variable {r : Registry}

theorem headNames_cons_declared (n : String) (args todo : List JavaType) :
    headNames (.declared n args :: todo) = n :: headNames todo := rfl

theorem mem_headNames_cons (t : JavaType) {ts : List JavaType} {n : String} (h : n ∈ headNames ts) :
    n ∈ headNames (t :: ts) :=
  ((List.sublist_cons_self t ts).filterMap _).subset h

theorem headNames_append (ts us : List JavaType) : headNames (ts ++ us) = headNames ts ++ headNames us :=
  List.filterMap_append

theorem headNames_supertypes_append (d : Declaration) (todo : List JavaType) :
    headNames (d.supertypes ++ todo) = d.supertypeNames ++ headNames todo := headNames_append d.supertypes todo

/-- What there is to do behind a declared type, once its supertypes come first. -/
theorem NamesSupertypes.forall_mem_supertypes_append (h : r.NamesSupertypes) {n : String} {d : Declaration}
    (hd : r.find? n = some d) {t : JavaType} {todo : List JavaType}
    (ht : ∀ u ∈ t :: todo, ∃ m args, u = .declared m args) :
    ∀ u ∈ d.supertypes ++ todo, ∃ m args, u = .declared m args := by
  intro u hu
  rcases List.mem_append.1 hu with hu | hu
  · exact h.exists_declared hd hu
  · exact ht u (List.mem_cons_of_mem _ hu)

section Search

variable {seen : List String} {todo : List JavaType}

/-- Everything in a preorder is above the types that it starts from. -/
theorem isAbove_of_mem_preorder (hk : r.IsKeyed) (hs : r.NamesSupertypes)
    (ht : ∀ t ∈ todo, ∃ n args, t = .declared n args) {d : Declaration} (h : d ∈ r.preorderFrom seen todo) :
    r.find? d.name = some d ∧ ∃ n ∈ headNames todo, r.IsAbove d.name n := by
  fun_induction preorderFrom r seen todo with
  | case1 => cases h
  | case2 seen t todo _ ih =>
      obtain ⟨hd, n, hn, ha⟩ := ih (fun u hu => ht u (List.mem_cons_of_mem _ hu)) h
      exact ⟨hd, n, mem_headNames_cons t hn, ha⟩
  | case3 seen t todo e _ _ ih =>
      obtain ⟨hd, n, hn, ha⟩ := ih (fun u hu => ht u (List.mem_cons_of_mem _ hu)) h
      exact ⟨hd, n, mem_headNames_cons t hn, ha⟩
  | case4 seen t todo e he _ ih =>
      obtain ⟨m, args, rfl⟩ := ht t (List.mem_cons_self ..)
      have hm : e.name = m := hk m e he
      rw [hk.superclass? he] at h ih
      rw [headNames_cons_declared]
      rcases List.mem_cons.1 h with rfl | h
      · exact ⟨hm ▸ he, m, List.mem_cons_self .., hm ▸ .refl⟩
      · obtain ⟨hd, n, hn, ha⟩ := ih (hs.forall_mem_supertypes_append he ht) h
        refine ⟨hd, ?_⟩
        rcases List.mem_append.1 (headNames_supertypes_append e todo ▸ hn) with hn | hn
        · exact ⟨m, List.mem_cons_self .., .head ⟨e, he, hn⟩ ha⟩
        · exact ⟨n, List.mem_cons_of_mem _ hn, ha⟩

/-- Nothing that is registered above the types that it starts from is missing in a preorder. -/
theorem mem_preorder_of_isAbove (hk : r.IsKeyed) (hs : r.NamesSupertypes)
    (ht : ∀ t ∈ todo, ∃ n args, t = .declared n args) (hc : r.Covers seen (headNames todo)) {n m : String}
    (hn : n ∈ seen ∨ n ∈ headNames todo) (ha : r.IsAbove m n) (hm : r.contains m = true) :
    m ∈ seen ∨ ∃ d ∈ r.preorderFrom seen todo, d.name = m := by
  fun_induction preorderFrom r seen todo generalizing n with
  | case1 seen => exact .inl (hc.mem_of_isAbove (hn.resolve_right List.not_mem_nil) ha hm)
  | case2 seen t todo he ih =>
      obtain ⟨k, args, rfl⟩ := ht t (List.mem_cons_self ..)
      rw [headNames_cons_declared] at hc hn
      have hk' : ¬ r.contains k = true := not_contains he
      have hne : n ≠ k := fun h => hk' (h ▸ contains_of_isAbove ha hm)
      refine ih (fun u hu => ht u (List.mem_cons_of_mem _ hu)) (hc.skip fun h => absurd h hk') ?_ ha
      exact hn.imp_right fun h => (List.mem_cons.1 h).resolve_left hne
  | case3 seen t todo e he hm ih =>
      obtain ⟨k, args, rfl⟩ := ht t (List.mem_cons_self ..)
      rw [headNames_cons_declared] at hc hn
      have hk' : k ∈ seen := hk k e he ▸ hm
      refine ih (fun u hu => ht u (List.mem_cons_of_mem _ hu)) (hc.skip fun _ => hk') ?_ ha
      grind
  | case4 seen t todo e he _ ih =>
      obtain ⟨k, args, rfl⟩ := ht t (List.mem_cons_self ..)
      obtain rfl : e.name = k := hk k e he
      rw [headNames_cons_declared] at hc hn
      rw [hk.superclass? he] at ih ⊢
      have hv : r.Covers (e.name :: seen) (headNames (e.supertypes ++ todo)) := by
        rw [headNames_supertypes_append]
        refine hc.visit (List.subset_append_right ..) ?_
        exact fun l hl => List.mem_append_left _ (mem_supertypeNames_of_steps he l hl)
      have hn' : n ∈ e.name :: seen ∨ n ∈ headNames (e.supertypes ++ todo) := by
        rw [headNames_supertypes_append]
        grind
      have := ih (hs.forall_mem_supertypes_append he ht) hv hn' ha
      grind

end Search

theorem preorder_of_find?_eq_none {n : String} (h : r.find? n = none) (args : List JavaType) :
    r.preorder (.declared n args) = [] := by
  rw [preorder, preorderFrom]
  split
  · rw [preorderFrom]
  · rename_i d hd
    rw [declaration?, h] at hd
    cases hd

/-- The preorder of a declared type consists of the declarations at and above its name. -/
theorem mem_preorder_iff (hk : r.IsKeyed) (hs : r.NamesSupertypes) {n : String} {args : List JavaType}
    {d : Declaration} : d ∈ r.preorder (.declared n args) ↔ r.find? d.name = some d ∧ r.IsAbove d.name n := by
  have ht : ∀ t ∈ [JavaType.declared n args], ∃ n args, t = .declared n args := by simp
  constructor
  · intro h
    obtain ⟨hf, m, hm, ha⟩ := isAbove_of_mem_preorder hk hs ht h
    obtain rfl := List.mem_singleton.1 hm
    exact ⟨hf, ha⟩
  · rintro ⟨hf, ha⟩
    have hc : r.Covers [] (headNames [.declared n args]) := nofun
    have h := mem_preorder_of_isAbove hk hs ht hc (.inr (List.mem_singleton_self n)) ha (contains_of_find? hf)
    obtain ⟨e, he, hn⟩ := h.resolve_left List.not_mem_nil
    have hfe := (isAbove_of_mem_preorder hk hs ht he).1
    rw [hn, hf] at hfe
    cases hfe
    exact he

end Registry

end ValueParcel
