import ValueParcel.Text.Blank
import ValueParcel.Text.Letters

/-! Classes of characters that have nothing in common. -/

namespace ValueParcel.Text

namespace Ranges

/-- No range of the one meets a range of the other. -/
def isApart (rs ss : Ranges) : Bool := rs.all fun r => ss.all fun s => r.2 < s.1 || s.2 < r.1

theorem exists_of_containsCode {rs : Ranges} {n : Nat} (h : rs.containsCode n = true) :
    ∃ r ∈ rs, r.1 ≤ n ∧ n ≤ r.2 := by
  fun_induction containsCode rs n with
  | case1 => cases h
  | case2 => cases h
  | case3 first last rest n hf ih =>
      rcases Bool.or_eq_true_iff.1 h with h | h
      · exact ⟨(first, last), List.mem_cons_self .., Nat.le_of_not_lt hf, of_decide_eq_true h⟩
      · obtain ⟨r, hr, hn⟩ := ih h
        exact ⟨r, List.mem_cons_of_mem _ hr, hn⟩

theorem contains_eq_false {rs ss : Ranges} (h : rs.isApart ss = true) {c : Char} (hc : rs.contains c = true) :
    ss.contains c = false := by
  rw [Bool.eq_false_iff]
  intro hs
  obtain ⟨r, hr, hrc⟩ := exists_of_containsCode hc
  obtain ⟨s, hm, hsc⟩ := exists_of_containsCode hs
  have ha := List.all_eq_true.1 (List.all_eq_true.1 h r hr) s hm
  simp only [Bool.or_eq_true, decide_eq_true_eq] at ha
  omega

end Ranges

theorem isApart_blankRanges :
    blankRanges.isApart alphabeticRanges = true ∧ blankRanges.isApart numericRanges = true := by
  decide +kernel

/-- No blank is a letter or a number. -/
theorem isAlphanumeric_eq_false {c : Char} (h : isBlank c = true) : isAlphanumeric c = false := by
  rw [isAlphanumeric, isAlphabetic, isNumeric, Ranges.contains_eq_false isApart_blankRanges.1 h,
    Ranges.contains_eq_false isApart_blankRanges.2 h]
  rfl

end ValueParcel.Text
