import ValueParcel.Proofs.JavaType.Parsing

/-!
Descriptors and the grammar. The descriptor of a well-formed type stands for that type and for no other, whatever
follows it; and no text stands for a type that is not well-formed.
-/

namespace ValueParcel.JavaType

/-! ## Brackets -/

theorem arrays_array (n : Nat) (t : JavaType) : arrays n (array t) = array (arrays n t) := by
  induction n generalizing t with
  | zero => rfl
  | succ n ih => exact ih (array t)

theorem brackets_append (n : Nat) : brackets n ++ [.sign '[', .sign ']'] = brackets (n + 1) := by
  induction n with
  | zero => rfl
  | succ n ih => rw [brackets, List.cons_append, List.cons_append, ih, ← brackets]

/-- Brackets behind lexemes make an array, unless they would get behind a bound. -/
theorem derives_array {ls : List Lexeme} {t : JavaType} (h : Derives ls t) (hb : ∀ n b, t ≠ bounded n b) :
    Derives (ls ++ [.sign '[', .sign ']']) (array t) := by
  cases h with
  | void n =>
      rw [List.cons_append, brackets_append, ← arrays_array]
      exact .void (n + 1)
  | primitive k n =>
      rw [List.cons_append, brackets_append, ← arrays_array]
      exact .primitive k (n + 1)
  | free n hu =>
      rw [List.cons_append, brackets_append, ← arrays_array]
      exact .free (n + 1) hu
  | bounded _ _ => exact absurd rfl (hb _ _)
  | raw n hd =>
      rw [List.cons_append, brackets_append, ← arrays_array]
      exact .raw (n + 1) hd
  | generic n hd hs =>
      simp only [List.cons_append, List.append_assoc, brackets_append, ← arrays_array]
      exact .generic (n + 1) hd hs

/-! ## Derived types are well-formed -/

theorem wellFormed_arrays {n : Nat} {t : JavaType} (h : t.WellFormed) (hb : ∀ u b, t ≠ bounded u b) :
    (arrays n t).WellFormed := by
  induction n generalizing t with
  | zero => exact h
  | succ n ih => exact ih (t := .array t) ⟨hb, h⟩ nofun

mutual

theorem Derives.wellFormed {ls : List Lexeme} {t : JavaType} : Derives ls t → t.WellFormed
  | .void _ => wellFormed_arrays trivial nofun
  | .primitive _ _ => wellFormed_arrays trivial nofun
  | .free _ hu => wellFormed_arrays hu nofun
  | .bounded hu h => ⟨hu, h.wellFormed⟩
  | .raw _ hd => wellFormed_arrays ⟨hd, trivial⟩ nofun
  | .generic _ hd hs => wellFormed_arrays ⟨hd, hs.wellFormed⟩ nofun

theorem DerivesList.wellFormed {ls : List Lexeme} {ts : List JavaType} : DerivesList ls ts → WellFormedList ts
  | .one h => ⟨h.wellFormed, trivial⟩
  | .more h hs => ⟨h.wellFormed, hs.wellFormed⟩

end

/-! ## Well-formed types are derived -/

/-- What stands behind a name and ends it. -/
def EndsName (rest : List Char) : Prop := ∀ c ∈ rest.head?, isNameChar c = false

section Splits

variable {rest : List Char} {ls : List Lexeme}

theorem Splits.word {w : String} (hw : Lexeme.IsProper (.name w)) (hr : EndsName rest) (hs : Splits rest ls) :
    Splits (w.toList ++ rest) (.name w :: ls) := by
  have hne : w.toList ≠ [] := fun h => hw.1 (String.toList_eq_nil_iff.1 h)
  simpa using Splits.name hne hw.2 hr hs

theorem isBlank_blank : Text.isBlank ' ' = true := rfl

theorem isNameChar_blank : isNameChar ' ' = false := isNameChar_eq_false_of_isBlank isBlank_blank

theorem endsName_cons {c : Char} (h : isNameChar c = false) : EndsName (c :: rest) := by
  intro d hd
  obtain rfl : c = d := Option.some.inj hd
  exact h

theorem isProper_of_all {w : String} (hne : w ≠ "") (hw : w.toList.all isNameChar = true) :
    Lexeme.IsProper (.name w) := ⟨hne, List.all_eq_true.1 hw⟩

theorem isProper_void : Lexeme.IsProper (.name "void") := isProper_of_all (by decide) (by decide)

theorem isProper_extends : Lexeme.IsProper (.name "extends") := isProper_of_all (by decide) (by decide)

theorem isProper_keyword (k : Primitive) : Lexeme.IsProper (.name k.keyword) := by
  apply isProper_of_all
  · cases k <;> decide
  · cases k <;> decide

theorem IsVariableName.isProper {w : String} (h : IsVariableName w) : Lexeme.IsProper (.name w) := ⟨h.1, h.2.1⟩

theorem IsClassName.isProper {w : String} (h : IsClassName w) : Lexeme.IsProper (.name w) := by
  refine ⟨?_, h.1⟩
  rintro rfl
  exact absurd h.2 (by simp)

end Splits

mutual

/-- In front of anything that does not carry on its last name, a descriptor splits into lexemes of its type. -/
theorem splits_descriptor {rest : List Char} {ls : List Lexeme} (hr : EndsName rest) (hs : Splits rest ls) :
    (t : JavaType) → t.WellFormed → ∃ ms, Derives ms t ∧ Splits (t.descriptor.toList ++ rest) (ms ++ ls)
  | .void, _ => ⟨_, .void 0, hs.word isProper_void hr⟩
  | .primitive k, _ => ⟨_, .primitive k 0, hs.word (isProper_keyword k) hr⟩
  | .free n, h => ⟨_, .free 0 h, hs.word h.isProper hr⟩
  | .bounded n b, h => by
      obtain ⟨ms, hd, hb⟩ := splits_descriptor hr hs b h.2
      refine ⟨_, .bounded h.1 hd, ?_⟩
      have he := Splits.word isProper_extends (endsName_cons isNameChar_blank) (.blank isBlank_blank hb)
      have hn := Splits.word h.1.isProper (endsName_cons isNameChar_blank) (.blank isBlank_blank he)
      simpa [descriptor] using hn
  | .array c, h => by
      have hr' : EndsName ('[' :: ']' :: rest) := endsName_cons (by decide)
      obtain ⟨ms, hd, hc⟩ := splits_descriptor hr' (.sign (by decide) (.sign (by decide) hs)) c h.2
      refine ⟨_, derives_array hd h.1, ?_⟩
      simpa [descriptor] using hc
  | .declared n [], h => by
      refine ⟨_, .raw 0 h.1, ?_⟩
      simpa [descriptor, descriptorList, Text.angled, brackets] using hs.word h.1.isProper hr
  | .declared n (t :: ts), h => by
      have hr' : EndsName ('>' :: rest) := endsName_cons (by decide)
      obtain ⟨ms, hd, hc⟩ := splits_descriptorList hr' (.sign (by decide) hs) (t :: ts) (List.cons_ne_nil _ _) h.2
      refine ⟨_, .generic 0 h.1 hd, ?_⟩
      have hn := Splits.word h.1.isProper (endsName_cons (by decide)) (.sign (c := '<') (by decide) hc)
      simpa [descriptor, descriptorList, Text.angled, brackets] using hn

theorem splits_descriptorList {rest : List Char} {ls : List Lexeme} (hr : EndsName rest) (hs : Splits rest ls) :
    (ts : List JavaType) → ts ≠ [] → WellFormedList ts → ∃ ms, DerivesList ms ts ∧
      Splits ((Text.commas (descriptorList ts)).toList ++ rest) (ms ++ ls)
  | [], hne, _ => absurd rfl hne
  | [t], _, h => by
      obtain ⟨ms, hd, hc⟩ := splits_descriptor hr hs t h.1
      exact ⟨ms, .one hd, hc⟩
  | t :: u :: us, _, h => by
      obtain ⟨ns, hds, hcs⟩ := splits_descriptorList hr hs (u :: us) (List.cons_ne_nil _ _) h.2
      have hr' : ∀ cs, EndsName (',' :: cs) := fun _ => endsName_cons (by decide)
      obtain ⟨ms, hd, hc⟩ := splits_descriptor (hr' _) (.sign (by decide) (.blank isBlank_blank hcs)) t h.1
      refine ⟨_, .more hd hds, ?_⟩
      simpa [descriptorList, Text.commas] using hc

end

/-! ## Reading descriptors -/

variable {t : JavaType}

theorem names_descriptor (h : t.WellFormed) : Names t.descriptor t := by
  have hr : EndsName [] := nofun
  obtain ⟨ms, hd, hs⟩ := splits_descriptor hr .nil t h
  rw [List.append_nil, List.append_nil] at hs
  exact ⟨ms, hs, hd⟩

theorem Names.wellFormed {s : String} (h : Names s t) : t.WellFormed := by
  obtain ⟨ls, -, hd⟩ := h
  exact hd.wellFormed

/-- Exactly the well-formed types are read back from their descriptors, and every type that is read is one. -/
theorem read_descriptor_iff : (∀ t : JavaType, read t.descriptor = .ok t ↔ t.WellFormed) ∧
    ∀ (s : String) (t : JavaType), read s = .ok t → t.WellFormed ∧ read t.descriptor = .ok t := by
  have hi : ∀ t : JavaType, read t.descriptor = .ok t ↔ t.WellFormed := by
    intro t
    rw [read_eq_ok_iff]
    exact ⟨Names.wellFormed, names_descriptor⟩
  refine ⟨hi, ?_⟩
  intro s t hr
  have hw : t.WellFormed := Names.wellFormed (read_eq_ok_iff.1 hr)
  exact ⟨hw, (hi t).2 hw⟩

/-- An array of bounded variables reads as a variable with a bound that is an array. -/
example : read (array (bounded "T" (raw "a.B"))).descriptor = .ok (bounded "T" (array (raw "a.B"))) := by
  cbv

end ValueParcel.JavaType
