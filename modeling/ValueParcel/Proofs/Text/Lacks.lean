import ValueParcel.Text.Commas

/-! Texts that have none of a given character. -/

namespace ValueParcel.Text

def Lacks (c : Char) (s : String) : Prop := c ∉ s.toList

instance (c : Char) (s : String) : Decidable (Lacks c s) := inferInstanceAs (Decidable (c ∉ s.toList))

variable {c : Char}

@[simp] theorem lacks_append {s t : String} : Lacks c (s ++ t) ↔ Lacks c s ∧ Lacks c t := by
  simp [Lacks, String.toList_append]

@[simp] theorem lacks_empty : Lacks c "" := by simp [Lacks]

/-- The characters that make lines and blocks. -/
def structural : List Char := ['\n', '\x7b', '\x7d']

/-- The text makes no lines and no blocks. -/
def IsInline (s : String) : Prop := ∀ c ∈ structural, Lacks c s

instance (s : String) : Decidable (IsInline s) :=
  have := List.decidableBAll (· ∉ structural) s.toList
  decidable_of_iff (∀ c ∈ s.toList, c ∉ structural) ⟨fun h c hc hm => h c hm hc, fun h c hm hc => h c hc hm⟩

@[simp] theorem isInline_append {s t : String} : IsInline (s ++ t) ↔ IsInline s ∧ IsInline t := by
  simp only [IsInline, lacks_append]
  exact ⟨fun h => ⟨fun c hc => (h c hc).1, fun c hc => (h c hc).2⟩, fun h c hc => ⟨h.1 c hc, h.2 c hc⟩⟩

namespace IsInline

variable {s : String}

theorem isLine (h : IsInline s) : Lacks '\n' s := h _ (by decide)

theorem opens_nothing (h : IsInline s) : Lacks '\x7b' s := h _ (by decide)

theorem closes_nothing (h : IsInline s) : Lacks '\x7d' s := h _ (by decide)

end IsInline

theorem lacks_commas (hc : Lacks c ", ") {ss : List String} (h : ∀ s ∈ ss, Lacks c s) : Lacks c (commas ss) := by
  fun_induction commas ss with
  | case1 => exact lacks_empty
  | case2 s => exact h s (by simp)
  | case3 s t rest ih =>
      rw [List.forall_mem_cons] at h
      exact lacks_append.2 ⟨lacks_append.2 ⟨h.1, hc⟩, ih h.2⟩

theorem isInline_commas {ss : List String} (h : ∀ s ∈ ss, IsInline s) : IsInline (commas ss) := by
  have hg : IsInline ", " := by decide
  exact fun c hc => lacks_commas (hg c hc) fun s hs => h s hs c hc

theorem lacks_angled (hc : Lacks c "<, >") {ss : List String} (h : ∀ s ∈ ss, Lacks c s) : Lacks c (angled ss) := by
  have he : "<, >" = "<" ++ ", " ++ ">" := by decide
  rw [he, lacks_append, lacks_append] at hc
  cases ss with
  | nil => exact lacks_empty
  | cons s rest => exact lacks_append.2 ⟨lacks_append.2 ⟨hc.1.1, lacks_commas hc.1.2 h⟩, hc.2⟩

end ValueParcel.Text
