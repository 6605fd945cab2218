import ValueParcel.Encoding.Table
import ValueParcel.Proofs.Text.Cut
import ValueParcel.Proofs.Text.Lacks

/-!
The names in types, and what can stand in their source texts. A character that neither a name nor the notation of types
has does not occur in a text made of them.
-/

namespace ValueParcel

/-! ## Names in types -/

namespace JavaType

mutual

def names : JavaType → List String
  | void | primitive _ => []
  | declared n args => n :: namesOfList args
  | array c => c.names
  | free n => [n]
  | bounded n b => n :: b.names

def namesOfList : List JavaType → List String
  | [] => []
  | t :: ts => t.names ++ namesOfList ts

end

theorem names_resolve_subset (t : JavaType) : t.resolve.names ⊆ t.names := by
  fun_induction resolve t with
  | case1 _ b ih => exact List.Subset.trans ih (List.subset_cons_self _ _)
  | case2 => exact List.Subset.refl _

theorem namesOfList_arguments_subset (t : JavaType) : namesOfList t.arguments ⊆ t.names := by
  cases t with
  | declared n args => exact List.subset_cons_self _ _
  | _ => exact List.nil_subset _

theorem mem_names_erasure {t : JavaType} {n : String} (h : n ∈ t.erasure.names) :
    n ∈ t.names ∨ n = WellKnown.object := by
  fun_induction erasure t with
  | case1 | case2 => exact .inl h
  | case3 m args =>
      obtain rfl : n = m := by simpa [raw, names, namesOfList] using h
      exact .inl (List.mem_cons_self ..)
  | case4 c ih => exact ih h
  | case5 m => exact .inr (by simpa [raw, names, namesOfList] using h)
  | case6 m b ih => exact (ih h).imp_left (List.mem_cons_of_mem _)

end JavaType

/-! ## Spellings -/

namespace Imports

open Text (Lacks lacks_append)

/-- What the notation of types puts around names. -/
def isNotation (c : Char) : Bool := c.isAlpha || "<>[], .".toList.contains c

variable {c : Char}

theorem isNotation_of_structural (hc : c ∈ Text.structural) : isNotation c = false := by
  simp only [Text.structural, List.mem_cons, List.not_mem_nil, or_false] at hc
  rcases hc with rfl | rfl | rfl <;> decide

theorem lacks_of_isNotation (hc : isNotation c = false) {s : String} (hs : s.toList.all isNotation = true) :
    Lacks c s := by
  intro hm
  have := List.all_eq_true.1 hs c hm
  rw [hc] at this
  exact Bool.noConfusion this

theorem lacks_keyword (hc : isNotation c = false) (k : Primitive) : Lacks c k.keyword := by
  apply lacks_of_isNotation hc
  cases k <;> decide

/-- A class is spelled as it is called, or its spelling is decided on what stands behind some place in its name. -/
theorem spell_eq_or_within (s : Imports) (name : String) :
    s.spell name = (name, s) ∨ ∃ place package relative, Text.behind? name place = some relative ∧
      s.spell name = s.spellWithin name package relative := by
  rw [spell]
  cases h : s.spell? name with
  | none => exact .inl rfl
  | some answer =>
      simp only [spell?, Option.bind_eq_bind, Option.bind_eq_some_iff] at h
      obtain ⟨package, -, h⟩ := h
      split at h
      · exact .inl (Option.some_inj.1 h).symm
      · obtain ⟨relative, hr, h⟩ := Option.bind_eq_some_iff.1 h
        exact .inr ⟨_, package, relative, hr, (Option.some_inj.1 h).symm⟩

theorem spellWithin_lacks (s : Imports) {name package relative : String} (h : Lacks c name) (hr : Lacks c relative) :
    Lacks c (s.spellWithin name package relative).1 := by
  unfold spellWithin
  dsimp only
  split
  · exact h
  · split
    · split
      · exact hr
      · exact h
    · split
      · dsimp only
        split
        · exact hr
        · exact h
      · exact hr

theorem spell_lacks (s : Imports) {name : String} (h : Lacks c name) : Lacks c (s.spell name).1 := by
  rcases s.spell_eq_or_within name with he | ⟨place, package, relative, hr, he⟩
  · rwa [he]
  · obtain ⟨front, rfl, -⟩ := Text.behind?_eq_some_iff.1 hr
    rw [he]
    exact spellWithin_lacks s h (lacks_append.1 h).2

mutual

theorem render_lacks (hc : isNotation c = false) : (t : JavaType) → (s : Imports) →
    (∀ n ∈ t.names, Lacks c n) → Lacks c (s.render t).1
  | .void, s, _ => by
      rw [render]
      exact lacks_of_isNotation (s := "void") hc (by decide)
  | .primitive k, s, _ => by
      rw [render]
      exact lacks_keyword hc k
  | .declared n args, s, h => by
      rw [JavaType.names, List.forall_mem_cons] at h
      rw [render]
      exact lacks_append.2 ⟨spell_lacks s h.1, Text.lacks_angled (lacks_of_isNotation hc (by decide))
        (renderList_lacks hc args _ h.2)⟩
  | .array t, s, h => by
      rw [render]
      exact lacks_append.2 ⟨render_lacks hc t s h, lacks_of_isNotation hc (by decide)⟩
  | .free n, s, h => by
      rw [render]
      exact h n (by simp [JavaType.names])
  | .bounded n b, s, h => by
      rw [render]
      exact h n (by simp [JavaType.names])

theorem renderList_lacks (hc : isNotation c = false) : (ts : List JavaType) → (s : Imports) →
    (∀ n ∈ JavaType.namesOfList ts, Lacks c n) → ∀ text ∈ (s.renderList ts).1, Lacks c text
  | [], s, _ => by simp [renderList]
  | t :: ts, s, h => by
      rw [JavaType.namesOfList, List.forall_mem_append] at h
      rw [renderList, List.forall_mem_cons]
      exact ⟨render_lacks hc t s h.1, renderList_lacks hc ts _ h.2⟩

end

theorem renderParameters_lacks (hc : isNotation c = false) {ts : List JavaType} (s : Imports)
    (h : ∀ n ∈ JavaType.namesOfList ts, Lacks c n) : ∀ text ∈ (s.renderParameters ts).1, Lacks c text := by
  induction ts generalizing s with
  | nil => simp [renderParameters]
  | cons t ts ih =>
      rw [JavaType.namesOfList, List.forall_mem_append] at h
      rw [renderParameters, List.forall_mem_cons]
      refine ⟨?_, ih _ h.2⟩
      cases t with
      | bounded n b =>
          rw [JavaType.names, List.forall_mem_cons] at h
          have he : Lacks c " extends " := lacks_of_isNotation hc (by decide)
          exact lacks_append.2 ⟨lacks_append.2 ⟨h.1.1, he⟩, render_lacks hc b s h.1.2⟩
      | _ => exact render_lacks hc _ s h.1

end Imports

end ValueParcel
