import ValueParcel.Identifier

/-!
Names that are given only once: a name goes on being lengthened for as long as it is on the list. Every name that is given
is an identifier, the shortest one that can be made of what was suggested.
-/

namespace ValueParcel.Identifier

/-! ## Identifiers -/

/-- Letters, numbers, low lines and dollar signs, at least one, and no number at the head. -/
def IsIdentifier (s : String) : Prop :=
  ∃ c cs, s.toList = c :: cs ∧ Text.isNumeric c = false ∧ ∀ d ∈ c :: cs, isPart d = true

theorem isPart_lowLine : isPart '_' = true := by decide +kernel

theorem isNumeric_lowLine : Text.isNumeric '_' = false := by decide +kernel

theorem isPart_ite (c : Char) : isPart (if isPart c then c else '_') = true := by
  split
  · assumption
  · exact isPart_lowLine

theorem isIdentifier_sanitize (s : String) : IsIdentifier (sanitize s) := by
  cases hs : s.toList with
  | nil => exact ⟨'_', [], by simp [sanitize, hs], isNumeric_lowLine, by simp [isPart_lowLine]⟩
  | cons c cs =>
      have hparts : ∀ d ∈ (c :: cs).map fun c => if isPart c then c else '_', isPart d = true :=
        List.forall_mem_map.2 fun d _ => isPart_ite d
      by_cases hn : Text.isNumeric c = true
      · refine ⟨'_', (c :: cs).map fun c => if isPart c then c else '_', ?_, isNumeric_lowLine, ?_⟩
        · simp [sanitize, hs, hn]
        · exact List.forall_mem_cons.2 ⟨isPart_lowLine, hparts⟩
      · refine ⟨if isPart c then c else '_', cs.map fun c => if isPart c then c else '_', ?_, ?_, hparts⟩
        · simp [sanitize, hs, hn]
        · split
          · simpa using hn
          · exact isNumeric_lowLine

namespace IsIdentifier

variable {s : String}

theorem sanitize_eq (h : IsIdentifier s) : sanitize s = s := by
  obtain ⟨c, cs, hs, hn, hp⟩ := h
  have hm : (c :: cs).map (fun c => if isPart c then c else '_') = c :: cs :=
    (List.map_congr_left fun d hd => by simp [hp d hd]).trans (List.map_id _)
  rw [sanitize, hs]
  simp only [hm, hn]
  rw [← hs, if_neg (by simp), String.ofList_toList]

theorem append_lowLine (h : IsIdentifier s) : IsIdentifier (s ++ "_") := by
  obtain ⟨c, cs, hs, hn, hp⟩ := h
  refine ⟨c, cs ++ ['_'], by simp [hs], hn, fun d hd => ?_⟩
  rcases List.mem_append.1 (List.cons_append .. ▸ hd) with hd | hd
  · exact hp d hd
  · cases List.mem_singleton.1 hd
    exact isPart_lowLine

theorem head_ne (h : IsIdentifier s) {c : Char} (hc : isPart c = false) : s.toList.head? ≠ some c := by
  obtain ⟨d, ds, hs, -, hp⟩ := h
  rw [hs]
  rintro ⟨⟩
  simp [hp] at hc

end IsIdentifier

/-! ## Lengthening -/

/-- A run that lengthens a name for as long as it is one to avoid. -/
inductive Lengthens (avoided : String → Prop) : String → String → Prop
  | free {name : String} : ¬ avoided name → Lengthens avoided name name
  | taken {name result : String} :
      avoided name → Lengthens avoided (name ++ "_") result → Lengthens avoided name result

def lowLines (k : Nat) : String := String.ofList (List.replicate k '_')

theorem append_lowLines_succ (name : String) (k : Nat) : name ++ lowLines (k + 1) = name ++ "_" ++ lowLines k := by
  rw [← String.toList_inj]
  simp [lowLines, List.replicate_succ]

@[simp] theorem append_lowLines_zero (name : String) : name ++ lowLines 0 = name := by
  rw [← String.toList_inj]
  simp [lowLines]

namespace Lengthens

variable {avoided : String → Prop} {name result : String}

/-- A run ends at the first name that is not to be avoided. -/
theorem exists_least (h : Lengthens avoided name result) :
    ∃ k, result = name ++ lowLines k ∧ ¬ avoided result ∧ ∀ j < k, avoided (name ++ lowLines j) := by
  induction h with
  | free hn => exact ⟨0, by simp, hn, nofun⟩
  | @taken name result ha _ ih =>
      obtain ⟨k, he, hn, hk⟩ := ih
      refine ⟨k + 1, by rw [he, append_lowLines_succ], hn, ?_⟩
      intro j hj
      cases j with
      | zero => simpa using ha
      | succ j => exact append_lowLines_succ name j ▸ hk j (Nat.lt_of_succ_lt_succ hj)

theorem unique {result' : String} (h : Lengthens avoided name result) (h' : Lengthens avoided name result') :
    result = result' := by
  induction h with
  | free hn =>
      cases h' with
      | free => rfl
      | taken ha => exact absurd ha hn
  | taken ha _ ih =>
      cases h' with
      | free hn => exact absurd ha hn
      | taken _ h' => exact ih h'

theorem isIdentifier (h : Lengthens avoided name result) (hn : IsIdentifier name) : IsIdentifier result := by
  induction h with
  | free => exact hn
  | taken _ _ ih => exact ih hn.append_lowLine

/-- A name that is shorter than those of the run may be left off the list. -/
theorem of_erase {avoid : List String} {n : String} (h : Lengthens (· ∈ avoid.erase n) name result)
    (hl : n.length < name.length) : Lengthens (· ∈ avoid) name result := by
  induction h with
  | @free name hm =>
      have hne : name ≠ n := fun he => Nat.lt_irrefl _ (he ▸ hl)
      exact .free fun h => hm ((List.mem_erase_of_ne hne).2 h)
  | taken hm _ ih =>
      refine .taken (List.mem_of_mem_erase hm) (ih ?_)
      rw [String.length_append]
      exact Nat.lt_add_right _ hl

end Lengthens

/-- The lengthening ends, and with the first free name. -/
theorem lengthens_firstFree (avoid : List String) (name : String) :
    Lengthens (· ∈ avoid) name (firstFree avoid name) := by
  fun_induction firstFree avoid name with
  | case1 avoid name h ih =>
      refine .taken h (ih.of_erase ?_)
      rw [String.length_append]
      exact Nat.lt_add_of_pos_right (by decide)
  | case2 avoid name h => exact .free h

theorem firstFree_of_not_mem {avoid : List String} {name : String} (h : name ∉ avoid) : firstFree avoid name = name := by
  rw [firstFree, if_neg h]

theorem firstFree_not_mem (avoid : List String) (name : String) : firstFree avoid name ∉ avoid := by
  obtain ⟨k, -, hn, -⟩ := (lengthens_firstFree avoid name).exists_least
  exact hn

namespace Allocator

theorem taken_allocate (a : Allocator) (suggestion : String) :
    (a.allocate suggestion).2.taken = (a.allocate suggestion).1 :: a.taken := rfl

theorem allocate_not_mem_taken (a : Allocator) (suggestion : String) : (a.allocate suggestion).1 ∉ a.taken := by
  intro hm
  exact firstFree_not_mem (keywords ++ a.taken) (sanitize suggestion) (List.mem_append_right _ hm)

theorem allocate_not_mem_keywords (a : Allocator) (suggestion : String) : (a.allocate suggestion).1 ∉ keywords := by
  intro hm
  exact firstFree_not_mem (keywords ++ a.taken) (sanitize suggestion) (List.mem_append_left _ hm)

theorem allocateAll_cons (a : Allocator) (s : String) (ss : List String) :
    a.allocateAll (s :: ss) =
      ((a.allocate s).1 :: ((a.allocate s).2.allocateAll ss).1, ((a.allocate s).2.allocateAll ss).2) := rfl

theorem allocateAll_append (a : Allocator) (ss ts : List String) :
    a.allocateAll (ss ++ ts) = ((a.allocateAll ss).1 ++ ((a.allocateAll ss).2.allocateAll ts).1,
      ((a.allocateAll ss).2.allocateAll ts).2) := by
  induction ss generalizing a with
  | nil => rfl
  | cons s ss ih => rw [List.cons_append, allocateAll_cons, ih, allocateAll_cons, List.cons_append]

/-- A name that is an identifier and was not given before is given as it is. -/
theorem allocate_eq_self {a : Allocator} {s : String} (hs : sanitize s = s) (hk : s ∉ keywords) (ht : s ∉ a.taken) :
    (a.allocate s).1 = s := by
  have hn : s ∉ keywords ++ a.taken := by simp [hk, ht]
  rw [allocate, hs, firstFree_of_not_mem hn]

theorem allocateAll_eq_self {a : Allocator} {ss : List String} (hd : ss.Nodup)
    (h : ∀ s ∈ ss, sanitize s = s ∧ s ∉ keywords ∧ s ∉ a.taken) : (a.allocateAll ss).1 = ss := by
  induction ss generalizing a with
  | nil => rfl
  | cons s ss ih =>
      obtain ⟨hn, hd⟩ := List.nodup_cons.1 hd
      obtain ⟨⟨hs, hk, ht⟩, hrest⟩ := List.forall_mem_cons.1 h
      have hself : (a.allocate s).1 = s := allocate_eq_self hs hk ht
      rw [allocateAll_cons, hself, ih hd]
      intro t hm
      obtain ⟨hs, hk, ht⟩ := hrest t hm
      rw [taken_allocate, hself, List.mem_cons, not_or]
      exact ⟨hs, hk, fun he => hn (he ▸ hm), ht⟩

/-- Names given one after the other are different from each other, from those given before, and from keywords. -/
theorem allocateAll_fresh (a : Allocator) (ss : List String) :
    (a.allocateAll ss).1.Nodup ∧ ∀ n ∈ (a.allocateAll ss).1, n ∉ keywords ∧ n ∉ a.taken := by
  induction ss generalizing a with
  | nil => exact ⟨List.nodup_nil, nofun⟩
  | cons s ss ih =>
      obtain ⟨hnodup, hnew⟩ := ih (a.allocate s).2
      rw [allocateAll_cons, List.nodup_cons, List.forall_mem_cons]
      refine ⟨⟨?_, hnodup⟩, ⟨a.allocate_not_mem_keywords s, a.allocate_not_mem_taken s⟩, ?_⟩
      · intro hm
        exact (hnew _ hm).2 (List.mem_cons_self ..)
      · intro n hn
        exact ⟨(hnew n hn).1, fun ht => (hnew n hn).2 (List.mem_cons_of_mem _ ht)⟩

theorem length_allocateAll (a : Allocator) (ss : List String) : (a.allocateAll ss).1.length = ss.length := by
  induction ss generalizing a with
  | nil => rfl
  | cons s ss ih => simp [allocateAll_cons, ih]

theorem taken_allocateAll (a : Allocator) (ss : List String) :
    (a.allocateAll ss).2.taken = (a.allocateAll ss).1.reverse ++ a.taken := by
  induction ss generalizing a with
  | nil => rfl
  | cons s ss ih => simp [allocateAll_cons, ih, taken_allocate]

theorem lengthens_allocate (a : Allocator) (s : String) :
    Lengthens (· ∈ keywords ++ a.taken) (sanitize s) (a.allocate s).1 :=
  lengthens_firstFree _ _

theorem isIdentifier_allocateAll (a : Allocator) (ss : List String) :
    ∀ n ∈ (a.allocateAll ss).1, IsIdentifier n := by
  induction ss generalizing a with
  | nil => nofun
  | cons s ss ih =>
      rw [allocateAll_cons, List.forall_mem_cons]
      exact ⟨(a.lengthens_allocate s).isIdentifier (isIdentifier_sanitize s), ih _⟩

/-- The name given to a suggestion is the end of a run that avoids keywords and all names given before. -/
theorem exists_lengthens (a : Allocator) (before after : List String) (s : String) :
    ∃ n, (a.allocateAll (before ++ s :: after)).1[before.length]? = some n ∧
      Lengthens (fun m => m ∈ keywords ∨ m ∈ a.taken ∨ m ∈ (a.allocateAll (before ++ s :: after)).1.take before.length)
        (sanitize s) n := by
  have hnames := congrArg Prod.fst (a.allocateAll_append before (s :: after))
  rw [allocateAll_cons] at hnames
  have hlength := (a.length_allocateAll before).symm
  have havoided : (fun m => m ∈ keywords ∨ m ∈ a.taken ∨
      m ∈ (a.allocateAll (before ++ s :: after)).1.take before.length) =
        (· ∈ keywords ++ (a.allocateAll before).2.taken) := by
    funext m
    rw [hnames, hlength, List.take_left, taken_allocateAll]
    simp [or_comm]
  refine ⟨((a.allocateAll before).2.allocate s).1, ?_, havoided ▸ lengthens_allocate _ _⟩
  rw [hnames, hlength, List.getElem?_append_right (Nat.le_refl _), Nat.sub_self, List.getElem?_cons_zero]

/-- Names given one after the other are identifiers, no keywords, and different from each other and from those given
before. Each is the identifier closest to its suggestion with as few low lines behind it as free it, so that a free
identifier is given as it is; and the lengthening that looks for it ends. -/
theorem names_areLeast (a : Allocator) (suggestions : List String) :
    let names := (a.allocateAll suggestions).1
    names.length = suggestions.length ∧ names.Nodup ∧
    (∀ n ∈ names, IsIdentifier n ∧ n ∉ keywords ∧ n ∉ a.taken) ∧
    ∀ i s, suggestions[i]? = some s →
      let avoided := fun m => m ∈ keywords ∨ m ∈ a.taken ∨ m ∈ names.take i
      ∃ n, names[i]? = some n ∧
        (∀ result, Lengthens avoided (sanitize s) result ↔ result = n) ∧
        (∃ k, n = sanitize s ++ lowLines k ∧ ¬ avoided n ∧ ∀ j < k, avoided (sanitize s ++ lowLines j)) ∧
        (IsIdentifier s → ¬ avoided s → n = s) := by
  intro names
  obtain ⟨hnodup, hfresh⟩ := a.allocateAll_fresh suggestions
  refine ⟨a.length_allocateAll suggestions, hnodup, ?_, ?_⟩
  · intro n hn
    exact ⟨a.isIdentifier_allocateAll suggestions n hn, hfresh n hn⟩
  · intro i s hs avoided
    obtain ⟨hi, rfl⟩ := List.getElem?_eq_some_iff.1 hs
    have hsplit : suggestions.take i ++ suggestions[i] :: suggestions.drop (i + 1) = suggestions := by simp
    have hlength : (suggestions.take i).length = i := List.length_take_of_le (Nat.le_of_lt hi)
    obtain ⟨n, hn, hrun⟩ := a.exists_lengthens (suggestions.take i) (suggestions.drop (i + 1)) suggestions[i]
    rw [hsplit, hlength] at hn hrun
    refine ⟨n, hn, ?_, hrun.exists_least, ?_⟩
    · intro result
      constructor
      · intro h
        exact h.unique hrun
      · rintro rfl
        exact hrun
    · intro hi hfree
      rw [hi.sanitize_eq] at hrun
      exact hrun.unique (.free hfree)

example : (({} : Allocator).allocateAll ["class", "1st", "class_", ""]).1 = ["class_", "_1st", "class__", "_"] := by
  decide +kernel

end Allocator

end ValueParcel.Identifier
