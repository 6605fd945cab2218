import ValueParcel.Text.Substitution

/-!
Replacement and concatenation. Texts that stand side by side can be treated one by one, unless an occurrence of the
pattern straddles the place where they meet.
-/

namespace ValueParcel.Text

/-- An occurrence of `old` may begin at the end of `xs` and end at the head of `ys`. -/
def Straddles (old xs ys : List Char) : Prop :=
  ∃ u v, old = u ++ v ∧ u ≠ [] ∧ v ≠ [] ∧ u <:+ xs ∧ v <+: ys

theorem Straddles.of_suffix {old xs xs' ys : List Char} (h : Straddles old xs' ys) (hs : xs' <:+ xs) :
    Straddles old xs ys := by
  obtain ⟨u, v, he, hu, hv, hx, hy⟩ := h
  exact ⟨u, v, he, hu, hv, hx.trans hs, hy⟩

theorem Straddles.exists_mem {old xs ys : List Char} (h : Straddles old xs ys) :
    (∃ c ∈ old, c ∈ xs) ∧ ∃ c ∈ old, c ∈ ys.head? := by
  obtain ⟨_ | ⟨c, u⟩, _ | ⟨d, v⟩, rfl, hu, hv, hx, hy⟩ := h
  · exact absurd rfl hu
  · exact absurd rfl hu
  · exact absurd rfl hv
  · obtain ⟨ys, rfl⟩ := hy
    exact ⟨⟨c, by simp, hx.subset (by simp)⟩, d, by simp, rfl⟩

theorem replaceFrom_append {p : Char} {ps new xs ys : List Char} (h : ¬ Straddles (p :: ps) xs ys) :
    replaceFrom p ps new (xs ++ ys) = replaceFrom p ps new xs ++ replaceFrom p ps new ys := by
  fun_induction replaceFrom p ps new xs with
  | case1 => rfl
  | case2 c cs hc ih =>
      have hp : ps <+: cs := List.isPrefixOf_iff_prefix.1 hc.2
      have hm : c = p ∧ ps.isPrefixOf (cs ++ ys) = true :=
        ⟨hc.1, List.isPrefixOf_iff_prefix.2 (hp.trans (List.prefix_append _ _))⟩
      have hd : (cs ++ ys).drop ps.length = cs.drop ps.length ++ ys := List.drop_append_of_le_length hp.length_le
      have hs : cs.drop ps.length <:+ c :: cs := (List.drop_suffix _ _).trans (List.suffix_cons _ _)
      rw [List.cons_append, replaceFrom, if_pos hm, hd, ih fun hst => h (hst.of_suffix hs), List.append_assoc]
  | case3 c cs hc ih =>
      have hm : ¬ (c = p ∧ ps.isPrefixOf (cs ++ ys) = true) := by
        rintro ⟨rfl, hp⟩
        have hp := List.isPrefixOf_iff_prefix.1 hp
        rcases List.prefix_or_prefix_of_prefix hp (List.prefix_append cs ys) with hl | ⟨v, rfl⟩
        · exact hc ⟨rfl, List.isPrefixOf_iff_prefix.2 hl⟩
        · cases v with
          | nil => exact hc ⟨rfl, by simp⟩
          | cons d v =>
              have hv : d :: v <+: ys := (List.prefix_append_right_inj cs).1 hp
              exact h ⟨c :: cs, d :: v, rfl, by simp, by simp, List.suffix_rfl, hv⟩
      rw [List.cons_append, replaceFrom, if_neg hm, ih fun hst => h (hst.of_suffix (List.suffix_cons _ _)),
        List.cons_append]

theorem replace_append {old new xs ys : List Char} (h : ¬ Straddles old xs ys) :
    replace old new (xs ++ ys) = replace old new xs ++ replace old new ys := by
  cases old with
  | nil => rfl
  | cons p ps => exact replaceFrom_append h

@[simp] theorem replace_nil_text (old new : List Char) : replace old new [] = [] := by
  cases old <;> simp [replace, replaceFrom]

theorem replace_self_append {old new ys : List Char} (h : old ≠ []) :
    replace old new (old ++ ys) = new ++ replace old new ys := by
  cases old with
  | nil => exact absurd rfl h
  | cons p ps => simp [replace, replaceFrom]

/-- A text in which the pattern does not occur is left as it is. -/
theorem replace_of_not_contained {old new text : List Char} (h : ¬ old <:+: text) : replace old new text = text := by
  cases old with
  | nil => rfl
  | cons p ps =>
      simp only [replace]
      fun_induction replaceFrom p ps new text with
      | case1 => rfl
      | case2 c cs hc ih =>
          have hp : p :: ps <+: c :: cs := List.cons_prefix_cons.2 ⟨hc.1.symm, List.isPrefixOf_iff_prefix.1 hc.2⟩
          exact absurd hp.isInfix h
      | case3 c cs hc ih => rw [ih fun hi => h (hi.trans (List.suffix_cons c cs).isInfix)]

/-- A text before which no character of the pattern stands is replaced on its own. -/
theorem replace_append_of_not_mem {old new xs ys : List Char} (h : ∀ c ∈ old, c ∉ xs) :
    replace old new (xs ++ ys) = xs ++ replace old new ys := by
  cases old with
  | nil => rfl
  | cons p ps =>
      have hs : ¬ Straddles (p :: ps) xs ys := fun hs =>
        have ⟨c, hc, hm⟩ := hs.exists_mem.1
        h c hc hm
      have hi : ¬ p :: ps <:+: xs := fun hi => h p (List.mem_cons_self ..) (hi.subset (List.mem_cons_self ..))
      rw [replace_append hs, replace_of_not_contained hi]

theorem mem_of_mem_replace {old new text : List Char} {c : Char} (h : c ∈ replace old new text) :
    c ∈ text ∨ c ∈ new := by
  cases old with
  | nil => exact .inl h
  | cons p ps =>
      simp only [replace] at h
      fun_induction replaceFrom p ps new text with
      | case1 => exact .inl h
      | case2 d cs _ ih =>
          rcases List.mem_append.1 h with h | h
          · exact .inr h
          · exact (ih h).imp_left fun hm => List.mem_cons_of_mem _ (List.mem_of_mem_drop hm)
      | case3 d cs _ ih =>
          rcases List.mem_cons.1 h with rfl | h
          · exact .inl (List.mem_cons_self ..)
          · exact (ih h).imp_left (List.mem_cons_of_mem _)

end ValueParcel.Text
