import ValueParcel.Proofs.Registry.Hierarchy

/-!
The chain of superclasses, followed by names and by declarations. Where superclasses are declared types, the names of a
chain that are registered are those of the lineage, wherever the chain ends, dangles or comes back to itself.
-/

namespace ValueParcel.Registry

variable {r : Registry}

/-- Superclasses are declared types, whether the registry has their declarations or not. -/
def NamesSuperclasses (r : Registry) : Prop := ∀ n d, r.find? n = some d → d.NamesSuperclass

/-- By names the chain goes on as it does by declarations, and at most one name further: to one that is not registered. -/
theorem filter_lineageNamesFrom (hk : r.IsKeyed) (hs : r.NamesSuperclasses) (seen : List String) (n : String)
    (args : List JavaType) :
    (r.lineageNamesFrom seen n).filter r.contains = (r.lineageFrom seen (.declared n args)).map (·.name) := by
  fun_induction lineageNamesFrom r seen n generalizing args with
  | case1 seen n hm =>
      rw [lineageFrom_eq, declaration?]
      cases hd : r.find? n with
      | none => rfl
      | some d => simp [hk n d hd, hm]
  | case2 seen n hm ih =>
      rw [lineageFrom_eq, declaration?]
      split
      · rename_i hd
        simp [contains, hd]
      · rename_i d hd
        obtain rfl : d.name = n := hk n d hd
        rw [hd, List.filter_cons_of_pos (contains_of_find? hd)]
        cases hu : d.superclass? with
        | none => simp [hm, hu]
        | some t =>
            obtain ⟨k, as, rfl⟩ := (hs _ d hd).exists_declared hu
            simpa [hm, hu, JavaType.erasure, JavaType.raw, JavaType.declaredName?] using ih d hd k as

theorem extendsClass_iff_mem_lineage (hk : r.IsKeyed) (hs : r.NamesSuperclasses) {n m : String} {args : List JavaType}
    {d : Declaration} (hd : r.find? m = some d) :
    r.extendsClass (.declared n args) m = true ↔ d ∈ r.lineage (.declared n args) := by
  have hm : r.extendsClass (.declared n args) m = true ↔ m ∈ (r.lineageNamesFrom [] n).filter r.contains := by
    simp [extendsClass, JavaType.erasure, JavaType.raw, JavaType.declaredName?, contains_of_find? hd]
  rw [hm, filter_lineageNamesFrom hk hs [] n args, ← lineage]
  constructor
  · intro h
    obtain ⟨e, he, hn⟩ := List.mem_map.1 h
    have hf := (find?_of_mem_lineageFrom hk e he).1
    rw [hn, hd] at hf
    cases hf
    exact he
  · intro h
    obtain rfl := hk m d hd
    exact List.mem_map_of_mem h

/-- The hierarchy of a declared type begins with the line of its superclasses. What is registered under a name stands in
that line if and only if the type extends the class of that name, and then the type can be assigned to that class. -/
theorem extendsClass_iff_mem_line (hk : r.IsKeyed) (hs : r.NamesSuperclasses) (n : String) (args : List JavaType) :
    ∃ line rest, r.hierarchy (.declared n args) = line ++ rest ∧ r.IsLine (.declared n args) line ∧
      ∀ m d, r.find? m = some d →
        (r.extendsClass (.declared n args) m = true ↔ d ∈ line) ∧
        (d ∈ line → ∀ bs, r.isAssignable (.declared n args) (.declared m bs) = true) := by
  refine ⟨_, _, rfl, isLine_lineage hk (.declared n args), ?_⟩
  intro m d hd
  have hi : r.extendsClass (.declared n args) m = true ↔ d ∈ r.lineage (.declared n args) :=
    extendsClass_iff_mem_lineage hk hs hd
  refine ⟨hi, ?_⟩
  intro hm bs
  exact isAssignable_declared_iff.2 (.inr (isAbove_of_extendsClass (hi.2 hm)))

theorem namesSuperclasses_farm : farm.NamesSuperclasses := by
  have h : ∀ d ∈ poultry, d.NamesSuperclass := by decide
  exact fun n d hd => h d (mem_of_find?_ofList hd)

/-- The egg extends the hen, whose superclass is the egg again. -/
theorem extendsClass_iff_mem_line_farm :
    farm.IsKeyed ∧ farm.NamesSuperclasses ∧ farm.find? "test.Hen" = some hen ∧
    farm.extendsClass (.raw "test.Egg") "test.Hen" = true ∧
    farm.isAssignable (.raw "test.Egg") (.raw "test.Hen") = true := by
  have hk : farm.IsKeyed := isKeyed_ofList _
  have hh : farm.find? "test.Hen" = some hen := rfl
  obtain ⟨line, rest, -, hl, hx⟩ := extendsClass_iff_mem_line hk namesSuperclasses_farm "test.Egg" []
  have he : egg ∈ line := List.mem_of_head? hl.head
  have hm : hen ∈ line := hl.closed egg he hen rfl
  obtain ⟨hi, ha⟩ := hx "test.Hen" hen hh
  exact ⟨hk, namesSuperclasses_farm, hh, hi.2 hm, ha hm []⟩

end ValueParcel.Registry
