import Mathlib.Data.List.Chain
import Mathlib.Data.List.Nodup
import ValueParcel.Proofs.Registry.Searches
import ValueParcel.Proofs.Registry.Supertypes

/-!
The lineage of a type as a line of declarations: each is followed by what the registry has for its superclass, none
occurs twice, and the line ends only where that superclass is unknown or has occurred.
-/

namespace ValueParcel.Registry

variable {r : Registry} {seen : List String} {t : JavaType} {d e : Declaration}

/-- What the registry has for the superclass of a declaration. -/
def parent? (r : Registry) (d : Declaration) : Option Declaration := d.superclass?.bind r.declaration?

/-- A line from the declaration of a type through superclasses. It holds the superclass of each of its declarations, if
that is registered: so it ends at one that is not, or that it holds already. -/
structure IsLine (r : Registry) (t : JavaType) (line : List Declaration) : Prop where
  head : line.head? = r.declaration? t
  next : line.IsChain fun d e => r.parent? d = some e
  nodup : (line.map (·.name)).Nodup
  closed : ∀ d ∈ line, ∀ e, r.parent? d = some e → e ∈ line

theorem find?_of_mem_lineageFrom (hk : r.IsKeyed) :
    ∀ d ∈ r.lineageFrom seen t, r.find? d.name = some d ∧ d.name ∉ seen := by
  fun_induction lineageFrom r seen t with
  | case1 | case2 => nofun
  | case3 seen t d hd hs ih =>
      rw [List.forall_mem_cons]
      refine ⟨⟨hk.find?_name hd, hs⟩, ?_⟩
      cases hu : d.superclass? with
      | none => nofun
      | some u =>
          intro e he
          obtain ⟨hf, hm⟩ := ih u e he
          exact ⟨hf, List.not_mem_of_not_mem_cons hm⟩

theorem nodup_lineageFrom (hk : r.IsKeyed) : ((r.lineageFrom seen t).map (·.name)).Nodup := by
  fun_induction lineageFrom r seen t with
  | case1 | case2 => exact .nil
  | case3 seen t d hd hs ih =>
      cases hu : d.superclass? with
      | none => exact List.nodup_singleton _
      | some u =>
          refine List.nodup_cons.2 ⟨?_, ih u⟩
          intro hm
          obtain ⟨e, he, hn⟩ := List.mem_map.1 hm
          exact (find?_of_mem_lineageFrom hk e he).2 (hn ▸ List.mem_cons_self ..)

theorem head?_lineageFrom (h : (r.lineageFrom seen t).head? = some e) : r.declaration? t = some e := by
  rw [lineageFrom_eq] at h
  split at h
  · cases h
  · rename_i d hd
    split at h
    · cases h
    · exact hd.trans h

theorem isChain_lineageFrom : (r.lineageFrom seen t).IsChain fun d e => r.parent? d = some e := by
  fun_induction lineageFrom r seen t with
  | case1 | case2 => exact .nil
  | case3 seen t d hd hs ih =>
      cases hu : d.superclass? with
      | none => exact .singleton d
      | some u =>
          refine List.isChain_cons.2 ⟨?_, ih u⟩
          intro e he
          rw [parent?, hu]
          exact head?_lineageFrom he

theorem mem_lineageFrom_of_declaration? (h : r.declaration? t = some e) : e.name ∈ seen ∨ e ∈ r.lineageFrom seen t := by
  rw [lineageFrom_eq, h]
  by_cases hs : e.name ∈ seen
  · exact .inl hs
  · simp [hs]

/-- A lineage lacks a superclass only where its name has been seen. -/
theorem mem_lineageFrom_of_parent? (hk : r.IsKeyed) (hd : d ∈ r.lineageFrom seen t) (he : r.parent? d = some e) :
    e.name ∈ seen ∨ e ∈ r.lineageFrom seen t := by
  fun_induction lineageFrom r seen t with
  | case1 | case2 => cases hd
  | case3 seen t c hc hs ih =>
      obtain ⟨u, hu, hf⟩ := Option.bind_eq_some_iff.1 he
      cases hv : c.superclass? with
      | none =>
          rw [hv, List.mem_singleton] at hd
          rw [← hd, hu] at hv
          cases hv
      | some v =>
          have hm : e.name ∈ c.name :: seen ∨ e ∈ r.lineageFrom (c.name :: seen) v := by
            rw [hv] at hd
            rcases List.mem_cons.1 hd with rfl | hd
            · rw [hu] at hv
              cases hv
              exact mem_lineageFrom_of_declaration? hf
            · exact ih v hd
          rcases hm with hm | hm
          · rcases List.mem_cons.1 hm with hn | hm
            · have hec : e = c := eq_of_name_eq (hk.find?_name hc) (hk.find?_name hf) hn
              exact .inr (hec ▸ List.mem_cons_self ..)
            · exact .inl hm
          · exact .inr (List.mem_cons_of_mem _ hm)

/-- A lineage leads upwards only. -/
theorem isAbove_of_mem_lineageFrom (hk : r.IsKeyed) (he : e ∈ r.lineageFrom seen t) :
    ∃ n, t.erasure.declaredName? = some n ∧ r.IsAbove e.name n := by
  fun_induction lineageFrom r seen t with
  | case1 | case2 => cases he
  | case3 seen t d hd hs ih =>
      refine ⟨d.name, hk.declaredName?_erasure hd, ?_⟩
      rcases List.mem_cons.1 he with rfl | he
      · exact .refl
      · cases hu : d.superclass? with
        | none =>
            rw [hu] at he
            cases he
        | some u =>
            rw [hu] at he
            obtain ⟨m, hm, ha⟩ := ih u he
            have hs : m ∈ d.supertypeNames := mem_supertypeNames_of_superclass (by rw [hu, Option.bind_some, hm])
            exact .head ⟨d, hk.find?_name hd, hs⟩ ha

theorem isLine_lineage (hk : r.IsKeyed) (t : JavaType) : r.IsLine t (r.lineage t) where
  head := by
    rw [lineage, lineageFrom_eq]
    cases r.declaration? t <;> simp
  next := isChain_lineageFrom
  nodup := nodup_lineageFrom hk
  closed _ hd _ he := (mem_lineageFrom_of_parent? hk hd he).resolve_left List.not_mem_nil

end ValueParcel.Registry
