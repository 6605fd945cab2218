import ValueParcel.JavaType.Grammar
import ValueParcel.Proofs.Text.Ranges

/-!
The splitting of a text into lexemes, as a relation. The tokens of a text are the lexemes into which it splits, and
where a name stands in front of a name there is a blank between them.
-/

namespace ValueParcel.JavaType

/-- The characters that stand for themselves in types. -/
def isSign (c : Char) : Bool := ['<', '>', ',', '[', ']'].contains c

/-- The text splits into the lexemes: names are as long as they can be, and blanks only separate. -/
inductive Splits : List Char → List Lexeme → Prop
  | nil : Splits [] []
  | blank {c : Char} {cs : List Char} {ls : List Lexeme} : Text.isBlank c = true → Splits cs ls → Splits (c :: cs) ls
  | sign {c : Char} {cs : List Char} {ls : List Lexeme} : isSign c = true → Splits cs ls →
      Splits (c :: cs) (.sign c :: ls)
  | name {word rest : List Char} {ls : List Lexeme} : word ≠ [] → (∀ c ∈ word, isNameChar c = true) →
      (∀ c ∈ rest.head?, isNameChar c = false) → Splits rest ls →
      Splits (word ++ rest) (.name (String.ofList word) :: ls)

/-! ## Classes of characters -/

theorem isNameChar_eq_false_of_isBlank {c : Char} (h : Text.isBlank c = true) : isNameChar c = false := by
  have hm : c ≠ '_' ∧ c ≠ '$' ∧ c ≠ '.' := by
    refine ⟨?_, ?_, ?_⟩ <;> rintro rfl <;> exact absurd h (by decide)
  simp [isNameChar, Text.isAlphanumeric_eq_false h, hm]

theorem classes_of_isSign {c : Char} (h : isSign c = true) : Text.isBlank c = false ∧ isNameChar c = false := by
  have hc : c = '<' ∨ c = '>' ∨ c = ',' ∨ c = '[' ∨ c = ']' := by simpa [isSign] using h
  rcases hc with rfl | rfl | rfl | rfl | rfl
  all_goals exact ⟨rfl, rfl⟩

/-! ## Tokens -/

section Runs

variable {word rest : List Char}

theorem takeWhile_isNameChar (hw : ∀ c ∈ word, isNameChar c = true) (hr : ∀ c ∈ rest.head?, isNameChar c = false) :
    (word ++ rest).takeWhile isNameChar = word := by
  rw [List.takeWhile_append_of_pos hw]
  cases rest with
  | nil => simp
  | cons c cs => simp [hr c rfl]

theorem dropWhile_isNameChar (hw : ∀ c ∈ word, isNameChar c = true) (hr : ∀ c ∈ rest.head?, isNameChar c = false) :
    (word ++ rest).dropWhile isNameChar = rest := by
  rw [List.dropWhile_append_of_pos hw]
  cases rest with
  | nil => rfl
  | cons c cs => simp [hr c rfl]

theorem head?_dropWhile_isNameChar (cs : List Char) : ∀ c ∈ (cs.dropWhile isNameChar).head?, isNameChar c = false := by
  intro c hc
  have := List.head?_dropWhile_not isNameChar cs
  rw [Option.mem_def.1 hc] at this
  simpa using this

end Runs

theorem lexemes_of_splits {cs : List Char} {ls : List Lexeme} (h : Splits cs ls) (offset : Nat) :
    (tokensFrom offset cs).map (·.lexeme) = ls := by
  induction h generalizing offset with
  | nil => simp [tokensFrom]
  | blank hc _ ih => simp [tokensFrom, hc, ih]
  | sign hc _ ih =>
      obtain ⟨hb, hn⟩ := classes_of_isSign hc
      simp [tokensFrom, hb, hn, ih]
  | @name word rest ls hne hw hr _ ih =>
      cases word with
      | nil => exact absurd rfl hne
      | cons c word =>
          rw [List.forall_mem_cons] at hw
          have hb : Text.isBlank c = false := by
            rw [Bool.eq_false_iff]
            intro hb
            rw [isNameChar_eq_false_of_isBlank hb] at hw
            exact Bool.noConfusion hw.1
          simp [tokensFrom, hb, hw.1, takeWhile_isNameChar hw.2 hr, dropWhile_isNameChar hw.2 hr, ih]

/-- If all signs among them are signs of types, the text splits into the lexemes of its tokens. -/
theorem splits_tokensFrom (offset : Nat) (cs : List Char)
    (h : ∀ c, .sign c ∈ (tokensFrom offset cs).map (·.lexeme) → isSign c = true) :
    Splits cs ((tokensFrom offset cs).map (·.lexeme)) := by
  fun_induction tokensFrom offset cs with
  | case1 => exact .nil
  | case2 offset c cs hb ih => exact .blank hb (ih h)
  | case3 offset c cs hb hn rest ih =>
      have hw : ∀ d ∈ c :: cs.takeWhile isNameChar, isNameChar d = true := by
        rw [List.forall_mem_cons]
        exact ⟨hn, List.all_eq_true.1 List.all_takeWhile⟩
      have hs := Splits.name (List.cons_ne_nil _ _) hw (head?_dropWhile_isNameChar cs)
        (ih fun d hd => h d (List.mem_cons_of_mem _ hd))
      rw [List.cons_append, List.takeWhile_append_dropWhile] at hs
      exact hs
  | case4 offset c cs hb hn ih =>
      exact .sign (h c (List.mem_cons_self ..)) (ih fun d hd => h d (List.mem_cons_of_mem _ hd))

/-! ## Neighbours -/

def Lexeme.IsProper : Lexeme → Prop
  | .name word => word ≠ "" ∧ ∀ c ∈ word.toList, isNameChar c = true
  | .sign _ => True

/-- The names among the tokens are proper, and a name in front of a name is loose. -/
def Spaced : List Token → Prop
  | [] => True
  | token :: rest => token.lexeme.IsProper ∧
      (∀ word, rest.head?.map (·.lexeme) = some (.name word) → ∀ word', token.lexeme = .name word' →
        token.loose = true) ∧
      Spaced rest

theorem head?_tokensFrom {offset : Nat} {c : Char} {cs : List Char} (hb : Text.isBlank c = false)
    (hn : isNameChar c = false) : (tokensFrom offset (c :: cs)).head?.map (·.lexeme) = some (.sign c) := by
  simp [tokensFrom, hb, hn]

theorem spaced_tokensFrom (offset : Nat) (cs : List Char) : Spaced (tokensFrom offset cs) := by
  fun_induction tokensFrom offset cs with
  | case1 => trivial
  | case2 offset c cs hb ih => exact ih
  | case3 offset c cs hb hn rest ih =>
      refine ⟨⟨by simp, ?_⟩, ?_, ih⟩
      · rw [String.toList_ofList, List.forall_mem_cons]
        exact ⟨hn, List.all_eq_true.1 List.all_takeWhile⟩
      · intro word hword _ _
        have hr : ∀ d ∈ rest.head?, isNameChar d = false := head?_dropWhile_isNameChar cs
        cases hc : rest with
        | nil => rfl
        | cons d ds =>
            rw [hc] at hr hword
            cases hd : Text.isBlank d with
            | true => simp [startsLoose, hd]
            | false =>
                rw [head?_tokensFrom hd (hr d rfl)] at hword
                cases hword
  | case4 offset c cs hb hn ih => exact ⟨trivial, by simp, ih⟩

end ValueParcel.JavaType
