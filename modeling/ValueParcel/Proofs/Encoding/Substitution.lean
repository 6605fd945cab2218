import ValueParcel.Proofs.Source.Fragments

/-!
Substitution in the text of a template. A single pass over the text that does not come back to what it has written fills all
holes at once; the replacements one after the other come to the same, as long as no name has braces in it.
-/

namespace ValueParcel

open Text (Lacks)

/-! ## One pass -/

namespace Template

/-- The text with the listed holes filled in one pass. Where a hole begins its value is written, and the pass goes on behind
the hole. -/
def substitute (values : List (Hole × String)) : List Char → List Char
  | [] => []
  | c :: cs =>
    match values.find? fun v => v.1.spelled.isPrefixOf (c :: cs) with
    | some (h, v) => v.toList ++ substitute values (cs.drop (h.spelled.length - 1))
    | none => c :: substitute values cs
termination_by text => text.length
decreasing_by
  · simp only [List.length_cons, List.length_drop]
    omega
  · simp only [List.length_cons]
    omega

end Template

namespace Hole

variable {h h' : Hole}

theorem eq_of_spelled_prefix {xs : List Char} (hp : h'.spelled <+: h.spelled ++ xs) : h' = h := by
  cases h <;> cases h' <;> first | rfl | simp [spelled, name] at hp

theorem isPrefixOf_spelled_iff {xs : List Char} : h'.spelled.isPrefixOf (h.spelled ++ xs) = true ↔ h' = h := by
  rw [List.isPrefixOf_iff_prefix]
  constructor
  · exact eq_of_spelled_prefix
  · rintro rfl
    exact List.prefix_append _ _

end Hole

namespace Template

variable {values : List (Hole × String)} {t : Template}

theorem find?_of_ne {c : Char} (hc : c ≠ '\x7b') (values : List (Hole × String)) (cs : List Char) :
    values.find? (fun v => v.1.spelled.isPrefixOf (c :: cs)) = none := by
  simp [List.find?_eq_none, Hole.spelled, Ne.symm hc]

theorem find?_spelled (values : List (Hole × String)) (h : Hole) (xs : List Char) :
    values.find? (fun v => v.1.spelled.isPrefixOf (h.spelled ++ xs)) = (values.lookup h).map (h, ·) := by
  induction values with
  | nil => rfl
  | cons value values ih =>
      obtain ⟨h', v⟩ := value
      by_cases he : h' = h
      · simp [he]
      · have hp : h'.spelled.isPrefixOf (h.spelled ++ xs) = false :=
          Bool.eq_false_iff.2 fun hp => he (Hole.isPrefixOf_spelled_iff.1 hp)
        have hb : (h == h') = false := by simpa using Ne.symm he
        simp [hp, List.lookup_cons, hb, ih]

theorem substitute_text_append {s : List Char} (hs : '\x7b' ∉ s) (xs : List Char) :
    substitute values (s ++ xs) = s ++ substitute values xs := by
  induction s with
  | nil => rfl
  | cons c s ih =>
      rw [List.mem_cons, not_or] at hs
      rw [List.cons_append, substitute, find?_of_ne (Ne.symm hs.1)]
      simp [ih hs.2]

theorem substitute_spelled_append {h : Hole} (hm : h ∈ values.map (·.1)) (xs : List Char) :
    substitute values (h.spelled ++ xs) = (h.valueIn values).toList ++ substitute values xs := by
  have hsome : (values.lookup h).isSome = true := by
    obtain ⟨v, hv, rfl⟩ := List.mem_map.1 hm
    simp only [List.lookup_isSome_iff]
    exact ⟨v, hv, by simp⟩
  obtain ⟨v, hv⟩ := Option.isSome_iff_exists.1 hsome
  have hfind := find?_spelled values h xs
  rw [hv] at hfind
  rw [Hole.spelled, List.cons_append] at hfind ⊢
  rw [substitute, hfind]
  simp [Hole.valueIn, hv, Hole.spelled]

/-- One pass over the text of a template fills its holes. -/
theorem substitute_spelled (ht : t.Takes (values.map (·.1))) :
    String.ofList (substitute values t.spelled) = t.fill (Hole.valueIn values) := by
  rw [← String.toList_inj, String.toList_ofList]
  induction t with
  | nil => simp [substitute, fill]
  | cons piece t ih =>
      obtain ⟨hp, hrest⟩ := List.forall_mem_cons.1 ht
      cases piece with
      | text s => simp [substitute_text_append hp, ih hrest, fill_cons_text]
      | hole h => simp [substitute_spelled_append hp, ih hrest, fill_cons_hole]

/-- Replacing one hole after the other comes to the same as one pass for all. -/
theorem fillInTurn_eq_substitute (ht : t.Takes (values.map (·.1))) (hv : ∀ v ∈ values, Lacks '\x7b' v.2) :
    t.fillInTurn values = String.ofList (substitute values t.spelled) :=
  (fillInTurn_eq_fill ht hv).trans (substitute_spelled ht).symm

end Template

/-! ## Code of families -/

namespace Family

open Template (substitute)

/-- What is written into the holes of a template has no braces if the names have none, and so the code has none. For every
family and all imports it is the text of the template with its holes filled in one pass. -/
theorem code_isFilled_atOnce (f : Family) (s : Imports) {declared : JavaType} {accessor : String}
    (hn : ∀ n ∈ declared.names, Lacks '\x7b' n ∧ Lacks '\x7d' n) (ha : Lacks '\x7b' accessor ∧ Lacks '\x7d' accessor) :
    (f.readExpression s declared).1 =
      String.ofList (substitute (f.readValues s declared).1 f.encoding.read.spelled) ∧
    (f.writeStatement s accessor).1 =
      String.ofList (substitute (f.writeValues s accessor).1 f.encoding.write.spelled) ∧
    ∀ c ∈ ['\x7b', '\x7d'], Lacks c (f.readExpression s declared).1 ∧ Lacks c (f.writeStatement s accessor).1 := by
  have hread : ∀ c ∈ ['\x7b', '\x7d'], ∀ v ∈ (f.readValues s declared).1, Lacks c v.2 := by
    simp only [List.forall_mem_cons]
    exact ⟨f.lacks_readValues (by decide) s fun n hm => (hn n hm).1,
      f.lacks_readValues (by decide) s fun n hm => (hn n hm).2, nofun⟩
  have hwrite : ∀ c ∈ ['\x7b', '\x7d'], ∀ v ∈ (f.writeValues s accessor).1, Lacks c v.2 := by
    simp only [List.forall_mem_cons]
    exact ⟨f.lacks_writeValues (by decide) s ha.1, f.lacks_writeValues (by decide) s ha.2, nofun⟩
  have hopen : '\x7b' ∈ ['\x7b', '\x7d'] := List.mem_cons_self ..
  refine ⟨?read, ?write, ?braces⟩
  case read => exact Template.fillInTurn_eq_substitute f.isOver_templates.1.takes (hread _ hopen)
  case write => exact Template.fillInTurn_eq_substitute f.isOver_templates.2.takes (hwrite _ hopen)
  case braces =>
    intro c hc
    have hs : c ∈ Text.structural := List.mem_cons_of_mem _ hc
    rw [f.readExpression_eq_fill s (hread _ hopen), f.writeStatement_eq_fill s (hwrite _ hopen)]
    constructor
    · exact Template.lacks_fill hs f.isOver_templates.1 (Hole.valueIn_of_forall (hread c hc) Text.lacks_empty)
    · exact Template.lacks_fill hs f.isOver_templates.2 (Hole.valueIn_of_forall (hwrite c hc) Text.lacks_empty)

/-- A variable that is called like a hole, and a template with a cast, an erased type, arguments and a class loader. -/
theorem code_isFilled_atOnce_raw :
    let declared := JavaType.bounded "raw" (.declared WellKnown.immutableMap [.raw WellKnown.string, .raw "test.Foo"])
    let s : Imports := { package := "test", reserved := ["Foo"] }
    (∀ n ∈ declared.names, Lacks '\x7b' n ∧ Lacks '\x7d' n) ∧
    (immutableMap.readExpression s declared).1 = "(raw) ImmutableMap.<String, test.Foo>copyOf(in.readHashMap(cl))" ∧
    (immutableMap.readExpression s declared).1 =
      String.ofList (substitute (immutableMap.readValues s declared).1 immutableMap.encoding.read.spelled) := by
  intro declared s
  have hn : ∀ n ∈ declared.names, Lacks '\x7b' n ∧ Lacks '\x7d' n := by decide
  have ha : Lacks '\x7b' "map()" ∧ Lacks '\x7d' "map()" := by decide
  obtain ⟨hread, -, -⟩ := code_isFilled_atOnce immutableMap s hn ha
  exact ⟨hn, by decide +kernel, hread⟩

end Family

end ValueParcel
