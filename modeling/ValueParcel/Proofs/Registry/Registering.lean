import ValueParcel.Registry.Basic

/-!
What a registration changes: the key of the declaration, and no other. So a registry into which declarations have only
been registered has each of them under its own name.
-/

namespace ValueParcel.Registry

variable {r : Registry}

theorem lookup_cons_eq_ite (n k : String) (d : Declaration) (entries : List (String × Declaration)) :
    ((k, d) :: entries).lookup n = if n = k then some d else entries.lookup n := by
  rw [List.lookup_cons]
  by_cases hn : n = k
  · simp [hn]
  · simp [hn, beq_eq_false_iff_ne.2 hn]

theorem lookup_insertEntry (key : String) (d : Declaration) (entries : List (String × Declaration)) (n : String) :
    (insertEntry key d entries).lookup n = if n = key then some d else entries.lookup n := by
  fun_induction insertEntry key d entries with
  | case1 => exact lookup_cons_eq_ite n key d []
  | case2 e rest =>
      rw [lookup_cons_eq_ite, lookup_cons_eq_ite]
      split <;> rfl
  | case3 k e rest hk hlt => exact lookup_cons_eq_ite n key d ((k, e) :: rest)
  | case4 k e rest hk hlt ih =>
      rw [lookup_cons_eq_ite, lookup_cons_eq_ite, ih]
      by_cases hn : n = k
      · rw [if_pos hn, if_pos hn, if_neg (hn ▸ Ne.symm hk)]
      · rw [if_neg hn, if_neg hn]

theorem find?_insert (key : String) (d : Declaration) (n : String) :
    (r.insert key d).find? n = if n = key then some d else r.find? n := lookup_insertEntry key d r.entries n

theorem find?_register (d : Declaration) (n : String) :
    (r.register d).find? n = if n = d.name then some d else r.find? n := find?_insert d.name d n

/-- Every declaration is found under its own name. -/
def IsKeyed (r : Registry) : Prop := ∀ n d, r.find? n = some d → d.name = n

theorem IsKeyed.find?_name (h : r.IsKeyed) {t : JavaType} {d : Declaration} (hd : r.declaration? t = some d) :
    r.find? d.name = some d := by
  fun_induction declaration? r t with
  | case1 n => rwa [h n d hd]
  | case2 _ _ ih => exact ih hd
  | case3 => cases hd

theorem IsKeyed.declaredName?_erasure (h : r.IsKeyed) {t : JavaType} {d : Declaration} (hd : r.declaration? t = some d) :
    t.erasure.declaredName? = some d.name := by
  fun_induction declaration? r t with
  | case1 n => exact congrArg some (h n d hd).symm
  | case2 _ _ ih => exact ih hd
  | case3 => cases hd

theorem eq_of_name_eq {d e : Declaration} (hd : r.find? d.name = some d) (he : r.find? e.name = some e)
    (h : e.name = d.name) : e = d := by
  rw [h, hd] at he
  cases he
  rfl

theorem IsKeyed.register (h : r.IsKeyed) (d : Declaration) : (r.register d).IsKeyed := by
  intro n e he
  rw [find?_register] at he
  split at he
  · rename_i hn
    cases he
    exact hn.symm
  · exact h n e he

theorem isKeyed_foldl (h : r.IsKeyed) (ds : List Declaration) : (ds.foldl Registry.register r).IsKeyed := by
  induction ds generalizing r with
  | nil => exact h
  | cons d ds ih => exact ih (h.register d)

theorem isKeyed_ofList (ds : List Declaration) : (ofList ds).IsKeyed := isKeyed_foldl (r := {}) nofun ds

theorem mem_of_find?_foldl {ds : List Declaration} {n : String} {d : Declaration}
    (h : (ds.foldl Registry.register r).find? n = some d) : d ∈ ds ∨ r.find? n = some d := by
  induction ds generalizing r with
  | nil => exact .inr h
  | cons e ds ih =>
      rcases ih h with hd | hd
      · exact .inl (List.mem_cons_of_mem _ hd)
      · rw [find?_register] at hd
        split at hd
        · cases hd
          exact .inl (List.mem_cons_self ..)
        · exact .inr hd

/-- What is found has been registered. -/
theorem mem_of_find?_ofList {ds : List Declaration} {n : String} {d : Declaration} (h : (ofList ds).find? n = some d) :
    d ∈ ds :=
  (mem_of_find?_foldl h).resolve_right nofun

theorem contains_register {d : Declaration} {n : String} :
    (r.register d).contains n = true ↔ n = d.name ∨ r.contains n = true := by
  rw [contains, contains, find?_register]
  split <;> simp_all

theorem contains_foldl {ds : List Declaration} {n : String} (h : r.contains n = true ∨ ∃ d ∈ ds, d.name = n) :
    (ds.foldl Registry.register r).contains n = true := by
  induction ds generalizing r with
  | nil => exact h.resolve_right (by simp)
  | cons d ds ih =>
      rcases h with h | ⟨e, he, hn⟩
      · exact ih (.inl (contains_register.2 (.inr h)))
      · rcases List.mem_cons.1 he with rfl | he
        · exact ih (.inl (contains_register.2 (.inl hn.symm)))
        · exact ih (.inr ⟨e, he, hn⟩)

/-- There is something under the name of whatever has been registered. -/
theorem contains_ofList {ds : List Declaration} {d : Declaration} (h : d ∈ ds) :
    (ofList ds).contains d.name = true :=
  contains_foldl (.inr ⟨d, h, rfl⟩)

end ValueParcel.Registry
