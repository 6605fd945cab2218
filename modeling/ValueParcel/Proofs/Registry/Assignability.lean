import ValueParcel.Proofs.Registry.Agreement
import ValueParcel.Proofs.Registry.Supertypes

/-!
What can be assigned to what, as rules on erased types. The search decides the rules on every registry, and where
nothing but `Object` is above `Object` and `Serializable`, they make a preorder.
-/

namespace ValueParcel

/-- The type without its brackets. -/
def JavaType.elementType : JavaType → JavaType
  | .array c => c.elementType
  | t => t

namespace Registry

variable {r : Registry}

/-! ## Rules -/

/-- A value of the first erased type can be assigned to a variable of the second. -/
inductive Assignable (r : Registry) : JavaType → JavaType → Prop
  | primitive (k : Primitive) : Assignable r (.primitive k) (.primitive k)
  | array {s t : JavaType} : Assignable r s t → Assignable r (.array s) (.array t)
  | arrayTop (s : JavaType) {n : String} (args : List JavaType) :
      n = WellKnown.object ∨ n = WellKnown.serializable → Assignable r (.array s) (.declared n args)
  | object (n : String) (as bs : List JavaType) : Assignable r (.declared n as) (.declared WellKnown.object bs)
  | above {n m : String} (as bs : List JavaType) : r.IsAbove m n → Assignable r (.declared n as) (.declared m bs)

theorem assignable_iff {s t : JavaType} : r.assignable s t = true ↔ r.Assignable s t := by
  constructor
  · intro h
    fun_induction assignable r s t with
    | case1 k l =>
        obtain rfl : k = l := by simpa using h
        exact .primitive k
    | case2 s t ih => exact .array (ih h)
    | case3 s n args => exact .arrayTop s args (by simpa using h)
    | case4 n as m bs =>
        rcases (by simpa [reaches_iff] using h : m = WellKnown.object ∨ r.IsAbove m n) with rfl | ha
        · exact .object n as bs
        · exact .above as bs ha
    | case5 => cases h
  · intro h
    induction h with
    | primitive k => simp [assignable]
    | array _ ih => simpa [assignable] using ih
    | arrayTop s args hn => simpa [assignable] using hn
    | object n as bs => simp [assignable]
    | above as bs ha => simp [assignable, reaches_iff.2 ha]

/-- On every registry, cyclic or incomplete, and for all types the search answers, and says yes exactly where the rules
lead from one erasure to the other. -/
theorem isAssignable_iff (r : Registry) (s t : JavaType) :
    r.isAssignable s t = true ↔ r.Assignable s.erasure t.erasure := assignable_iff

/-! ## Preorder -/

/-- `Object` and `Serializable` have no supertypes but `Object`. -/
def IsRooted (r : Registry) : Prop :=
  ∀ n m, n = WellKnown.object ∨ n = WellKnown.serializable → r.Steps n m → m = WellKnown.object

theorem IsRooted.eq_of_isAbove (hr : r.IsRooted) {n m : String}
    (hn : n = WellKnown.object ∨ n = WellKnown.serializable) (h : r.IsAbove m n) : m = n ∨ m = WellKnown.object := by
  induction h with
  | refl => exact .inl rfl
  | tail _ hs ih =>
      rcases ih with rfl | rfl
      · exact .inr (hr _ _ hn hs)
      · exact .inr (hr _ _ (.inl rfl) hs)

/-- Two rules in a row lead no further than one. -/
theorem Assignable.trans (hr : r.IsRooted) {s t u : JavaType} (h : r.Assignable s t) (h' : r.Assignable t u) :
    r.Assignable s u := by
  induction h generalizing u with
  | primitive k => exact h'
  | array h ih =>
      cases h' with
      | array h' => exact .array (ih h')
      | arrayTop _ args hn => exact .arrayTop _ args hn
  | arrayTop s args hn =>
      cases h' with
      | object _ _ bs => exact .arrayTop s bs (.inl rfl)
      | above _ bs ha =>
          rcases hr.eq_of_isAbove hn ha with rfl | rfl
          · exact .arrayTop s bs hn
          · exact .arrayTop s bs (.inl rfl)
  | object n as bs =>
      cases h' with
      | object _ _ cs => exact .object n as cs
      | above _ cs ha =>
          obtain rfl := (hr.eq_of_isAbove (.inl rfl) ha).elim id id
          exact .object n as cs
  | above as bs ha =>
      cases h' with
      | object _ _ cs => exact .object _ as cs
      | above _ cs hb => exact .above as cs (ha.trans hb)

theorem assignable_erasure_self_iff (t : JavaType) :
    r.Assignable t.erasure t.erasure ↔ t.erasure.elementType ≠ .void := by
  fun_induction JavaType.erasure t with
  | case1 =>
      refine iff_of_false ?_ (not_not_intro rfl)
      intro h
      cases h
  | case2 k => exact iff_of_true (.primitive k) JavaType.noConfusion
  | case3 n args => exact iff_of_true (.above [] [] .refl) JavaType.noConfusion
  | case4 c ih =>
      rw [JavaType.elementType, ← ih]
      constructor
      · intro h
        cases h with
        | array h => exact h
      · exact .array
  | case5 => exact iff_of_true (.above [] [] .refl) JavaType.noConfusion
  | case6 _ b ih => exact ih

/-- Assignability is transitive over all types, and reflexive on exactly those that are not `void` under their
brackets. -/
theorem isAssignable_preorder (r : Registry) (hr : r.IsRooted) :
    (∀ s t u, r.isAssignable s t = true → r.isAssignable t u = true → r.isAssignable s u = true) ∧
    ∀ t : JavaType, r.isAssignable t t = true ↔ t.erasure.elementType ≠ .void := by
  constructor
  · intro s t u hs ht
    exact assignable_iff.2 ((assignable_iff.1 hs).trans hr (assignable_iff.1 ht))
  · intro t
    exact assignable_iff.trans (assignable_erasure_self_iff t)

/-! ### A registry with two cycles -/

/-- A class that extends its own subclass. -/
def hen : Declaration :=
  { Declaration.ofClass "test.Hen" with superclass := some (.raw "test.Egg"), interfaces := [.raw "test.Bird"] }

def egg : Declaration :=
  { Declaration.ofClass "test.Egg" with superclass := some (.raw "test.Hen"), interfaces := [.raw "test.Unknown"] }

/-- An interface that extends its own extension. -/
def bird : Declaration := { Declaration.ofInterface "test.Bird" with interfaces := [.declared "test.Animal" [.free "T"]] }

def animal : Declaration := { Declaration.ofInterface "test.Animal" with interfaces := [.raw "test.Bird"] }

def poultry : List Declaration := [hen, egg, bird, animal, .ofInterface WellKnown.serializable]

def farm : Registry := ofList poultry

theorem isRooted_farm : farm.IsRooted := by
  have h : ∀ d ∈ poultry,
      d.name = WellKnown.object ∨ d.name = WellKnown.serializable → d.supertypeNames = [] := by decide
  rintro n m hn ⟨d, hd, hm⟩
  obtain rfl := isKeyed_ofList _ n d hd
  rw [h d (mem_of_find?_ofList hd) hn] at hm
  cases hm

/-- The upper interface is two steps above the first class. -/
theorem isAbove_animal_farm : farm.IsAbove "test.Animal" "test.Hen" := by
  have hs : farm.Steps "test.Hen" "test.Bird" := ⟨hen, rfl, by decide⟩
  exact .head hs (.single ⟨bird, rfl, by decide⟩)

/-- From arrays of a bounded variable over its bound's supertypes to arrays of anything serializable. -/
theorem isAssignable_preorder_farm :
    farm.IsRooted ∧
    farm.isAssignable (.array (.array (.bounded "T" (.raw "test.Hen")))) (.array (.raw WellKnown.serializable)) = true ∧
    farm.isAssignable (.array (.free "T")) (.array (.free "T")) = true := by
  obtain ⟨htrans, hrefl⟩ := isAssignable_preorder farm isRooted_farm
  refine ⟨isRooted_farm, htrans _ (.array (.array (.raw "test.Animal"))) _ ?_ ?_, (hrefl _).2 (by decide)⟩
  · exact assignable_iff.2 (.array (.array (.above [] [] isAbove_animal_farm)))
  · exact assignable_iff.2 (.array (.arrayTop _ [] (.inr rfl)))

end Registry

end ValueParcel
