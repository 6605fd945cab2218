import ValueParcel.Generator.Context
import ValueParcel.Proofs.Registry.Assignability
import ValueParcel.Proofs.Registry.Methods

/-!
Members written by hand. A value class that is a `Parcelable` is refused if its hierarchy has a creator, or resolves
`writeToParcel` to a method with a body; each of the two is reported once, where it is declared.
-/

namespace ValueParcel

/-! ## The members in question -/

/-- A static field with the name of the creator, whatever the arguments of its type are. -/
structure Field.IsCreator (f : Field) : Prop where
  name : f.name = creatorField
  static : .static ∈ f.modifiers
  type : f.type.erasure = .raw WellKnown.parcelableCreator

/-- `void writeToParcel(Parcel, int)`, whatever the names of its parameters are. -/
structure Method.IsWriter (m : Method) : Prop where
  name : m.name = Property.writeToParcel
  returns : m.returnType = .void
  takes : m.parameters.map (·.type) = [.raw WellKnown.parcel, .primitive .int]

/-- Writers override each other. -/
theorem Method.IsWriter.signature {m : Method} (h : m.IsWriter) :
    m.signature = (Property.writeToParcel, [.raw WellKnown.parcel, .primitive .int]) := by
  have he : m.parameters.map (·.type.erasure) = (m.parameters.map (·.type)).map JavaType.erasure := by
    rw [List.map_map]
    rfl
  rw [Method.signature, h.name, he, h.takes]
  rfl

namespace Context

open Registry (IsFirst)

theorem isCreator_iff {f : Field} : isCreator f = true ↔ f.IsCreator := by
  simp only [isCreator, Field.isStatic, Bool.and_eq_true, decide_eq_true_eq, JavaType.isExactly_iff]
  constructor
  · rintro ⟨⟨hn, hs⟩, ht⟩
    exact ⟨hn, hs, ht⟩
  · rintro ⟨hn, hs, ht⟩
    exact ⟨⟨hn, hs⟩, ht⟩

theorem isWriteToParcel_iff {m : Method} : isWriteToParcel m = true ↔ m.IsWriter := by
  rw [isWriteToParcel, Bool.and_eq_true, Bool.and_eq_true, decide_eq_true_eq, decide_eq_true_eq]
  constructor
  · rintro ⟨⟨hn, hr⟩, ht⟩
    split at ht
    next p q hp => exact ⟨hn, hr, by simpa [hp] using ht⟩
    next => cases ht
  · rintro ⟨hn, hr, ht⟩
    obtain ⟨p, ps, hp, htp, ht⟩ := List.map_eq_cons_iff.1 ht
    obtain ⟨q, qs, rfl, htq, ht⟩ := List.map_eq_cons_iff.1 ht
    obtain rfl := List.map_eq_nil_iff.1 ht
    exact ⟨⟨hn, hr⟩, by simp [hp, htp, htq]⟩

/-! ## Where they are reported -/

/-- `d` is the first of a hierarchy that declares a creator. -/
def BringsCreator (line : List Declaration) (d : Declaration) : Prop :=
  ∃ below above, line = below ++ d :: above ∧ (∃ f ∈ d.fields, f.IsCreator) ∧ ∀ e ∈ below, ∀ f ∈ e.fields, ¬ f.IsCreator

/-- The hierarchy resolves a writer to that of `d`, and it has a body. -/
def BringsWriter (line : List Declaration) (d : Declaration) : Prop :=
  ∃ m, IsFirst line d m ∧ m.IsWriter ∧ .abstract ∉ m.modifiers

theorem find?_fields (p : Field → Bool) (line : List Declaration) :
    ((line.flatMap fun d => d.fields.map (d, ·)).find? fun x => p x.2).map (·.1) = line.find? (·.fields.any p) := by
  induction line with
  | nil => rfl
  | cons d line ih =>
      have hm : ((d.fields.map (d, ·)).find? fun x => p x.2) = (d.fields.find? p).map (d, ·) := List.find?_map ..
      rw [List.flatMap_cons, List.find?_append, hm, List.find?_cons]
      cases hf : d.fields.find? p with
      | none =>
          rw [List.any_eq_false.2 (List.find?_eq_none.1 hf)]
          exact ih
      | some f =>
          rw [List.any_eq_true.2 ⟨f, List.mem_of_find?_eq_some hf, List.find?_some hf⟩]
          rfl

variable {c : Context} {d : Declaration}

theorem creatorConflict?_eq_some_iff :
    c.creatorConflict? = some d ↔ BringsCreator (c.registry.hierarchy c.valueType) d := by
  have hany (e : Declaration) : e.fields.any isCreator = true ↔ ∃ f ∈ e.fields, f.IsCreator := by
    simp only [List.any_eq_true, isCreator_iff]
  rw [creatorConflict?, Registry.fields, find?_fields, List.find?_eq_some_iff_append, hany]
  simp only [Bool.not_eq_true', ← Bool.not_eq_true, hany, BringsCreator]
  constructor
  · rintro ⟨hd, below, above, hl, hb⟩
    exact ⟨below, above, hl, hd, fun e he f hf hc => hb e he ⟨f, hf, hc⟩⟩
  · rintro ⟨below, above, hl, hd, hb⟩
    refine ⟨hd, below, above, hl, ?_⟩
    rintro e he ⟨f, hf, hc⟩
    exact hb e he f hf hc

theorem writeConflict?_eq_some_iff :
    c.writeConflict? = some d ↔ BringsWriter (c.registry.hierarchy c.valueType) d := by
  let p : Declaration × Method → Bool := fun x => isWriteToParcel x.2 && !x.2.isAbstract
  have hp (x : Declaration × Method) : p x = true ↔ x.2.IsWriter ∧ .abstract ∉ x.2.modifiers := by
    rw [Bool.and_eq_true, isWriteToParcel_iff]
    simp [Method.isAbstract]
  constructor
  · intro h
    obtain ⟨⟨e, m⟩, hf, rfl⟩ := Option.map_eq_some_iff.1 h
    exact ⟨m, Registry.mem_methods_iff.1 (List.mem_of_find?_eq_some hf), (hp _).1 (List.find?_some hf)⟩
  · rintro ⟨m, hm, hw, ha⟩
    have hm := Registry.mem_methods_iff.2 hm
    have hs : ((c.registry.methods c.valueType).find? p).isSome :=
      List.find?_isSome.2 ⟨(d, m), hm, (hp (d, m)).2 ⟨hw, ha⟩⟩
    obtain ⟨x, hf⟩ := Option.isSome_iff_exists.1 hs
    have hk := ((hp x).1 (List.find?_some hf)).1
    -- There is one method of a signature only, so the one that is found is that of `d`.
    have he := Registry.eq_of_mem_methods (List.mem_of_find?_eq_some hf) hm (hk.signature.trans hw.signature.symm)
    rw [he] at hf
    exact congrArg (Option.map (·.1)) hf

theorem isAssignable_parcelable_iff :
    c.registry.isAssignable c.valueType (.raw WellKnown.parcelable) = true ↔
      c.registry.IsAbove WellKnown.parcelable c.owner := by
  have hne : WellKnown.parcelable ≠ WellKnown.object := by decide
  simp [valueType, JavaType.raw, Registry.isAssignable_declared_iff, hne]

/-! ## The refusal -/

theorem member_of_mem_conflicts {report : Diagnostic} (h : report ∈ c.conflicts) : report.place.member.isSome := by
  rcases List.mem_append.1 h with h | h
  all_goals
    obtain ⟨d, -, rfl⟩ := Option.map_eq_some_iff.1 (Option.mem_toList.1 h)
    rfl

/-- A value class that is no `Parcelable` is passed over. Any other one is reported for the creator and then for the
writer that its hierarchy brings, each where it is declared; it is wanted if and only if nothing has been reported, and
else fails for the first of the two. The failure mode makes no difference. -/
theorem applicable_reports_conflicts (c : Context) (log : Log) :
    let line := c.registry.hierarchy c.valueType
    ∃ creator writer : Option Declaration,
      (∀ d, creator = some d ↔ BringsCreator line d) ∧ (∀ d, writer = some d ↔ BringsWriter line d) ∧
      let reports : List Diagnostic :=
        (creator.map fun d => ⟨.error, c.creatorMessage, d.name, some creatorField⟩).toList ++
        (writer.map fun d => ⟨.error, c.writeMessage, d.name, some Property.writeToParcel⟩).toList
      (¬ c.registry.IsAbove WellKnown.parcelable c.owner → c.applicable log = (.ok false, log)) ∧
      (c.registry.IsAbove WellKnown.parcelable c.owner →
        (c.applicable log).2 = log ++ reports ∧
        ((c.applicable log).1 = .ok true ↔ reports = []) ∧ (c.applicable log).1 ≠ .ok false ∧
        ∀ failure, (c.applicable log).1 = .error failure ↔ ∃ first rest member, reports = first :: rest ∧
          first.place.member = some member ∧ failure = .conflictingMember c.owner member) ∧
      ∀ mode, { c with failureMode := mode }.applicable log = c.applicable log := by
  intro line
  refine ⟨c.creatorConflict?, c.writeConflict?, fun d => creatorConflict?_eq_some_iff,
    fun d => writeConflict?_eq_some_iff, ?_⟩
  intro reports
  refine ⟨?_, ?_, fun mode => rfl⟩
  · intro h
    have ha := mt isAssignable_parcelable_iff.1 h
    simp [applicable, ha]
  · intro h
    have ha := isAssignable_parcelable_iff.2 h
    have hr : c.conflicts = reports := rfl
    cases hc : reports with
    | nil => simp [applicable, ha, hr, hc]
    | cons first rest =>
        have hm : first.place.member.isSome := member_of_mem_conflicts (hr ▸ hc ▸ List.mem_cons_self ..)
        obtain ⟨member, hm⟩ := Option.isSome_iff_exists.1 hm
        simp [applicable, ha, hr, hc, hm, eq_comm]

end Context

end ValueParcel
