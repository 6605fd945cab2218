import ValueParcel.Encoding.Classification

/-!
The types that can be written, as a set closed under a few rules, and the reasons for which all others are rejected.
Validation asks for the family of a type, and the family of an array for the validation of its component; together they
end on every type.
-/

namespace ValueParcel

/-! ## Parts of types -/

/-- The components of the arrays for which the parcel has an operation of its own. -/
def JavaType.reserved : List JavaType := [
  .primitive .boolean, .primitive .byte, .primitive .char, .primitive .int, .primitive .long,
  .raw WellKnown.string, .raw WellKnown.parcelable, .raw WellKnown.object]

theorem Family.isSome_ofComponent?_iff {c : JavaType} : (ofComponent? c).isSome = true ↔ c ∈ JavaType.reserved := by
  simp only [JavaType.reserved, List.mem_cons, List.not_mem_nil, or_false, JavaType.raw]
  fun_cases ofComponent? c <;> simp_all

theorem Family.isMap_ofComponent? {c : JavaType} {f : Family} (h : ofComponent? c = some f) : f.isMap = false := by
  revert h
  fun_cases ofComponent? c <;> rintro ⟨⟩ <;> rfl

theorem JavaType.sizeOf_resolve_le (t : JavaType) : sizeOf t.resolve ≤ sizeOf t := by
  induction t using resolve.induct with
  | case1 n b ih =>
      simp only [resolve, bounded.sizeOf_spec]
      omega
  | case2 t h => exact Nat.le_of_eq (congrArg sizeOf (resolve.eq_2 t h))

theorem JavaType.sizeOf_lt_of_mem_arguments {t v : JavaType} (h : v ∈ t.arguments) : sizeOf v < sizeOf t := by
  cases t with
  | declared n args =>
      have hv := List.sizeOf_lt_of_mem (show v ∈ args from h)
      simp only [declared.sizeOf_spec]
      omega
  | _ => cases h

theorem JavaType.resolve_ne_bounded {t : JavaType} {n : String} {b : JavaType} : t.resolve ≠ .bounded n b := by
  induction t using resolve.induct with
  | case1 m c ih => exact ih
  | case2 t h =>
      rw [resolve.eq_2 t h]
      exact h n b

namespace Registry

variable {r : Registry} {t v : JavaType} {f : Family}

/-! ## Calls -/

theorem classify_resolve (r : Registry) (t : JavaType) : r.classify t.resolve = r.classify t := by
  induction t using JavaType.resolve.induct with
  | case1 n b ih => rw [JavaType.resolve, ih, classify]
  | case2 t h => rw [JavaType.resolve.eq_2 t h]

theorem validate_resolve (r : Registry) (t : JavaType) : r.validate t.resolve = r.validate t := by
  induction t using JavaType.resolve.induct with
  | case1 n b ih => rw [JavaType.resolve, ih, validate]
  | case2 t h => rw [JavaType.resolve.eq_2 t h]

/-- The family of an array, by the validation of its component. -/
theorem classify_array (r : Registry) (c : JavaType) :
    r.classify (.array c) = match Family.ofComponent? c with
      | some f => some f
      | none => (r.validate c).toOption.map fun _ => .value := by
  have hv : r.classify (.array c) = (r.validate (.array c)).toOption := rfl
  rw [hv, validate]
  cases Family.ofComponent? c with
  | some f => rfl
  | none => cases r.validate c <;> rfl

/-- The validation of a type, by the family of what it resolves to and by the validation of a value of a map. -/
theorem validate_eq (r : Registry) (t : JavaType) :
    r.validate t = match r.classify t.resolve with
      | none => .error .unsupported
      | some f =>
        if f.isMap then
          match t.resolve.arguments with
          | [k, v] =>
            if k.isExactly WellKnown.string then
              match r.validate v with
              | .ok _ => .ok f
              | .error _ => .error .invalidMap
            else .error .invalidMap
          | _ => .error .invalidMap
        else .ok f := by
  rw [← validate_resolve]
  cases hu : t.resolve with
  | void | primitive _ | free _ => rfl
  | bounded n b => exact absurd hu JavaType.resolve_ne_bounded
  | declared n args =>
      rw [validate, classify]
      rfl
  | array c =>
      rw [classify_array, validate]
      cases hc : Family.ofComponent? c with
      | some f => simp [Family.isMap_ofComponent? hc]
      | none => cases r.validate c <;> rfl

theorem validate_of_unknown (h : r.classify t.resolve = none) : r.validate t = .error .unsupported := by
  rw [validate_eq, h]

theorem validate_of_plain (h : r.classify t.resolve = some f) (hm : f.isMap = false) : r.validate t = .ok f := by
  rw [validate_eq, h]
  simp [hm]

theorem validate_of_map (h : r.classify t.resolve = some f) (hm : f.isMap = true)
    (ha : t.resolve.arguments = [.raw WellKnown.string, v]) :
    r.validate t = match r.validate v with
      | .ok _ => .ok f
      | .error _ => .error .invalidMap := by
  rw [validate_eq, h]
  simp [hm, ha]

theorem validate_of_badArguments (h : r.classify t.resolve = some f) (hm : f.isMap = true)
    (ha : ∀ v, t.resolve.arguments ≠ [.raw WellKnown.string, v]) : r.validate t = .error .invalidMap := by
  rw [validate_eq, h]
  dsimp only
  rw [if_pos hm]
  split
  next k v hkv =>
    refine if_neg ?_
    intro hk
    rw [JavaType.isExactly_iff.1 hk] at hkv
    exact ha v hkv
  next => rfl

mutual

/-- A run of the classification of a type, down to the runs of the validations that it calls. -/
inductive Classifies (r : Registry) : JavaType → Option Family → Prop
  | void : Classifies r .void none
  | primitive (k : Primitive) : Classifies r (.primitive k) (some (.primitive k))
  | free (n : String) : Classifies r (.free n) none
  | bounded (n : String) {b : JavaType} {o : Option Family} : Classifies r b o → Classifies r (.bounded n b) o
  | declared (n : String) (args : List JavaType) :
      Classifies r (.declared n args) (r.familyOfDeclared (.declared n args))
  | reserved {c : JavaType} {f : Family} :
      Family.ofComponent? c = some f → Classifies r (.array c) (some f)
  | array {c : JavaType} {f : Family} :
      Family.ofComponent? c = none → Validates r c (.ok f) → Classifies r (.array c) (some .value)
  | rejected {c : JavaType} {e : Rejection} :
      Family.ofComponent? c = none → Validates r c (.error e) → Classifies r (.array c) none

/-- A run of the validation of a type: the family of what the type resolves to is asked for first, and then, if it is
that of a map with keys that are exactly `String`, the values are validated. -/
inductive Validates (r : Registry) : JavaType → Except Rejection Family → Prop
  | unknown {t : JavaType} : Classifies r t.resolve none → Validates r t (.error .unsupported)
  | plain {t : JavaType} {f : Family} : Classifies r t.resolve (some f) → f.isMap = false → Validates r t (.ok f)
  | map {t v : JavaType} {f g : Family} : Classifies r t.resolve (some f) → f.isMap = true →
      t.resolve.arguments = [.raw WellKnown.string, v] → Validates r v (.ok g) → Validates r t (.ok f)
  | badValue {t v : JavaType} {f : Family} {e : Rejection} : Classifies r t.resolve (some f) → f.isMap = true →
      t.resolve.arguments = [.raw WellKnown.string, v] → Validates r v (.error e) → Validates r t (.error .invalidMap)
  | badArguments {t : JavaType} {f : Family} : Classifies r t.resolve (some f) → f.isMap = true →
      (∀ v, t.resolve.arguments ≠ [.raw WellKnown.string, v]) → Validates r t (.error .invalidMap)

end

mutual

/-- Every classification ends. -/
theorem classifies_classify (r : Registry) (t : JavaType) : r.Classifies t (r.classify t) := by
  match t with
  | .void => exact .void
  | .primitive k => exact .primitive k
  | .free n => exact .free n
  | .bounded n b => exact .bounded n (classifies_classify r b)
  | .declared n args => exact .declared n args
  | .array c =>
    rw [classify_array]
    cases hc : Family.ofComponent? c with
    | some f => exact .reserved hc
    | none =>
        have hv := validates_validate r c
        cases hr : r.validate c with
        | ok f => exact .array hc (hr ▸ hv)
        | error e => exact .rejected hc (hr ▸ hv)
termination_by (sizeOf t, 0)
decreasing_by
  · exact .left _ _ (by simp +arith)
  · exact .left _ _ (by simp +arith)

/-- Every validation ends. -/
theorem validates_validate (r : Registry) (t : JavaType) : r.Validates t (r.validate t) := by
  have hu := classifies_classify r t.resolve
  cases hf : r.classify t.resolve with
  | none => exact validate_of_unknown hf ▸ .unknown (hf ▸ hu)
  | some f =>
      rw [hf] at hu
      cases hm : f.isMap with
      | false => exact validate_of_plain hf hm ▸ .plain hu hm
      | true =>
          by_cases ha : ∃ v, t.resolve.arguments = [.raw WellKnown.string, v]
          · obtain ⟨v, ha⟩ := ha
            have hlt : sizeOf v < sizeOf t := by
              have hv := JavaType.sizeOf_lt_of_mem_arguments (t := t.resolve) (v := v) (by simp [ha])
              exact Nat.lt_of_lt_of_le hv t.sizeOf_resolve_le
            have hv := validates_validate r v
            rw [validate_of_map hf hm ha]
            cases he : r.validate v with
            | ok g => exact .map hu hm ha (he ▸ hv)
            | error e => exact .badValue hu hm ha (he ▸ hv)
          · rw [not_exists] at ha
            exact validate_of_badArguments hf hm ha ▸ .badArguments hu hm ha
termination_by (sizeOf t, 1)
decreasing_by
  · exact .right' _ t.sizeOf_resolve_le Nat.zero_lt_one
  · exact .left _ _ hlt

end

mutual

theorem Classifies.classify_eq {t : JavaType} {o : Option Family} (h : r.Classifies t o) : r.classify t = o := by
  match h with
  | .void | .primitive _ | .free _ | .declared _ _ => rfl
  | .bounded n h => exact h.classify_eq
  | .reserved hc => rw [classify_array, hc]
  | .array hc h =>
    rw [classify_array, hc, h.validate_eq]
    rfl
  | .rejected hc h =>
    rw [classify_array, hc, h.validate_eq]
    rfl

theorem Validates.validate_eq {t : JavaType} {result : Except Rejection Family} (h : r.Validates t result) :
    r.validate t = result := by
  match h with
  | .unknown h => exact validate_of_unknown h.classify_eq
  | .plain h hm => exact validate_of_plain h.classify_eq hm
  | .map h hm ha hv => rw [validate_of_map h.classify_eq hm ha, hv.validate_eq]
  | .badValue h hm ha hv => rw [validate_of_map h.classify_eq hm ha, hv.validate_eq]
  | .badArguments h hm ha => exact validate_of_badArguments h.classify_eq hm ha

end

theorem classifies_iff {o : Option Family} : r.Classifies t o ↔ r.classify t = o :=
  ⟨Classifies.classify_eq, fun h => h ▸ classifies_classify r t⟩

theorem validates_iff {result : Except Rejection Family} : r.Validates t result ↔ r.validate t = result :=
  ⟨Validates.validate_eq, fun h => h ▸ validates_validate r t⟩

/-! ## Types that can be written -/

/-- The types that can be written: what they resolve to is primitive, `Object`, of a family other than that of maps, a
map with values that can be written and keys that are exactly `String`, or an array, with an operation of its own or
with components that can be written. -/
inductive Writable (r : Registry) : JavaType → Prop
  | primitive (k : Primitive) : Writable r (.primitive k)
  | object : Writable r (.raw WellKnown.object)
  | plain {n : String} {args : List JavaType} {f : Family} :
      r.classify (.declared n args) = some f → f.isMap = false → Writable r (.declared n args)
  | map {n : String} {v : JavaType} {f : Family} : r.classify (.declared n [.raw WellKnown.string, v]) = some f →
      f.isMap = true → Writable r v → Writable r (.declared n [.raw WellKnown.string, v])
  | reserved {c : JavaType} : c ∈ JavaType.reserved → Writable r (.array c)
  | array {c : JavaType} : Writable r c → Writable r (.array c)
  | bounded (n : String) {b : JavaType} : Writable r b → Writable r (.bounded n b)

/-- A map without keys that are exactly `String` or without values that can be written. -/
def IsBadMap (r : Registry) (t : JavaType) : Prop :=
  ∃ n args f, t = .declared n args ∧ r.classify t = some f ∧ f.isMap = true ∧
    ¬ ∃ v, args = [.raw WellKnown.string, v] ∧ r.Writable v

theorem writable_of_validate (h : r.validate t = .ok f) : r.Writable t := by
  fun_induction validate r t generalizing f with
  | case1 | case3 | case7 | case8 | case10 | case11 | case12 => cases h
  | case2 k => exact .primitive k
  | case4 n b ih => exact .bounded n (ih h)
  | case5 c g hc => exact .reserved (Family.isSome_ofComponent?_iff.1 (by simp [hc]))
  | case6 c hc g hv ih => exact .array (ih hv)
  | case9 n g hm k v hk a hv hf ih =>
      obtain rfl := JavaType.isExactly_iff.1 hk
      exact .map hf hm (ih hv)
  | case13 n args g hf hm => exact .plain hf (by simpa using hm)

theorem validate_of_writable (h : r.Writable t) : ∃ f, r.validate t = .ok f := by
  induction h with
  | primitive k => exact ⟨_, rfl⟩
  | object =>
      have hf : r.classify (.raw WellKnown.object) = some .value := by
        simp [JavaType.raw, classify, familyOfDeclared]
      exact ⟨.value, validate_of_plain hf rfl⟩
  | plain hf hm => exact ⟨_, validate_of_plain hf hm⟩
  | map hf hm _ ih =>
      obtain ⟨g, hv⟩ := ih
      exact ⟨_, by rw [validate_of_map hf hm rfl, hv]⟩
  | reserved hc =>
      obtain ⟨f, hc⟩ := Option.isSome_iff_exists.1 (Family.isSome_ofComponent?_iff.2 hc)
      exact ⟨f, by rw [validate, hc]⟩
  | @array c _ ih =>
      obtain ⟨g, hv⟩ := ih
      rw [validate, hv]
      cases Family.ofComponent? c with
      | some f => exact ⟨f, rfl⟩
      | none => exact ⟨.value, rfl⟩
  | bounded n _ ih => exact ih

theorem exists_validate_eq_ok_iff : (∃ f, r.validate t = .ok f) ↔ r.Writable t :=
  ⟨fun ⟨_, h⟩ => writable_of_validate h, validate_of_writable⟩

/-! ## Types that cannot be written -/

/-- Only declared types have the family of a map. -/
theorem exists_declared_of_isMap (h : r.classify t.resolve = some f) (hm : f.isMap = true) :
    ∃ n args, t.resolve = .declared n args := by
  cases hu : t.resolve with
  | declared n args => exact ⟨n, args, rfl⟩
  | bounded n b => exact absurd hu JavaType.resolve_ne_bounded
  | void | free _ =>
      rw [hu] at h
      cases h
  | primitive k =>
      rw [hu] at h
      obtain rfl := Option.some.inj h
      cases hm
  | array c =>
      have hf : f.isMap = false := by
        rw [hu] at h
        cases classifies_iff.2 h with
        | reserved hc => exact Family.isMap_ofComponent? hc
        | array => rfl
      rw [hf] at hm
      cases hm

theorem isBadMap_resolve_iff : r.IsBadMap t.resolve ↔ ∃ f, r.classify t.resolve = some f ∧ f.isMap = true ∧
    ∀ v, t.resolve.arguments = [.raw WellKnown.string, v] → ¬ r.Writable v := by
  constructor
  · rintro ⟨n, args, f, hu, hf, hm, hn⟩
    refine ⟨f, hf, hm, ?_⟩
    intro v ha hv
    rw [hu] at ha
    exact hn ⟨v, ha, hv⟩
  · rintro ⟨f, hf, hm, hn⟩
    obtain ⟨n, args, hu⟩ := exists_declared_of_isMap hf hm
    refine ⟨n, args, f, hu, hf, hm, ?_⟩
    rintro ⟨v, rfl, hv⟩
    exact hn v (by rw [hu]; rfl) hv

theorem validate_eq_invalidMap_iff : r.validate t = .error .invalidMap ↔ r.IsBadMap t.resolve := by
  rw [isBadMap_resolve_iff]
  constructor
  · intro h
    cases validates_iff.2 h with
    | badArguments hf hm ha => exact ⟨_, classifies_iff.1 hf, hm, fun v hv => absurd hv (ha v)⟩
    | badValue hf hm ha hv =>
        refine ⟨_, classifies_iff.1 hf, hm, ?_⟩
        intro w hw hwr
        obtain ⟨g, hg⟩ := validate_of_writable hwr
        cases ha.symm.trans hw
        cases hg.symm.trans (validates_iff.1 hv)
  · rintro ⟨f, hf, hm, hn⟩
    by_cases ha : ∃ v, t.resolve.arguments = [.raw WellKnown.string, v]
    · obtain ⟨v, ha⟩ := ha
      rw [validate_of_map hf hm ha]
      cases hv : r.validate v with
      | ok g => exact absurd (writable_of_validate hv) (hn v ha)
      | error e => rfl
    · exact validate_of_badArguments hf hm (not_exists.1 ha)

theorem validate_eq_unsupported_iff :
    r.validate t = .error .unsupported ↔ ¬ r.Writable t ∧ ¬ r.IsBadMap t.resolve := by
  rw [← exists_validate_eq_ok_iff, ← validate_eq_invalidMap_iff]
  have h := validates_validate r t
  generalize r.validate t = result at h
  cases h with
  | unknown => simp
  | plain | map | badValue | badArguments => simp

/-- A validated type has the family that its classification gives. -/
theorem classify_of_validate (h : r.validate t = .ok f) : r.classify t = some f := by
  rw [← classify_resolve]
  cases validates_iff.2 h with
  | plain hf | map hf => exact classifies_iff.1 hf

/-- Validation ends on every type, whatever the registry has, and accepts those that can be written, each in the family
of its classification. Of all others it rejects the maps for what they are made of, and the rest as unsupported: free
variables among them, and arrays of maps that it rejects. -/
theorem validate_accepts_writable (r : Registry) (t : JavaType) :
    (∀ result, r.Validates t result ↔ r.validate t = result) ∧
    (∀ family, r.Classifies t family ↔ r.classify t = family) ∧
    ((∃ f, r.validate t = .ok f) ↔ r.Writable t) ∧
    (r.validate t = .error .invalidMap ↔ r.IsBadMap t.resolve) ∧
    (r.validate t = .error .unsupported ↔ ¬ r.Writable t ∧ ¬ r.IsBadMap t.resolve) ∧
    (∀ n, t.resolve = .free n → r.validate t = .error .unsupported) ∧
    (∀ c, t.resolve = .array c → c ∉ JavaType.reserved → r.IsBadMap c.resolve →
      r.validate t = .error .unsupported) ∧
    ∀ f, r.validate t = .ok f → r.classify t = some f := by
  refine ⟨fun _ => validates_iff, fun _ => classifies_iff, exists_validate_eq_ok_iff, validate_eq_invalidMap_iff,
    validate_eq_unsupported_iff, ?_, ?_, fun _ => classify_of_validate⟩
  · intro n hu
    exact validate_of_unknown (by rw [hu]; rfl)
  · intro c hu hc hb
    have hn : Family.ofComponent? c = none := by
      rw [← Option.not_isSome_iff_eq_none, Family.isSome_ofComponent?_iff]
      exact hc
    exact validate_of_unknown (by rw [hu, classify_array, hn, validate_eq_invalidMap_iff.2 hb]; rfl)

end Registry

end ValueParcel
