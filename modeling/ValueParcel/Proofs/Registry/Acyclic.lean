import Mathlib.Data.Finset.Card
import Mathlib.Data.Finset.Filter
import Mathlib.Data.List.Basic
import Mathlib.Logic.Relation
import ValueParcel.Proofs.Registry.Registering
import ValueParcel.Registry.Hierarchy

/-!
Registries in which nothing is its own supertype. There, what is above a declaration can be computed by plain recursion
over its supertypes: fewer and fewer declarations are left above.
-/

namespace ValueParcel.Registry

open Relation (TransGen)

variable {r : Registry} {d e : Declaration}

/-- `e` is what the registry has for a direct supertype of `d`. -/
def Extends (r : Registry) (d e : Declaration) : Prop := ∃ t ∈ d.supertypes, r.declaration? t = some e

/-- No declaration is above itself. -/
def IsAcyclic (r : Registry) : Prop := ∀ d, ¬ TransGen r.Extends d d

open Classical in
/-- The number of declarations above a declaration. -/
noncomputable def height (r : Registry) (d : Declaration) : Nat :=
  (r.declarations.toFinset.filter (TransGen r.Extends d)).card

theorem IsAcyclic.height_lt (h : r.IsAcyclic) (he : r.Extends d e) : r.height e < r.height d := by
  classical
  obtain ⟨t, ht, hd⟩ := he
  refine Finset.card_lt_card (Finset.ssubset_iff_subset_ne.2 ⟨?_, ?_⟩)
  · exact Finset.monotone_filter_right _ fun _ _ hx => .head ⟨t, ht, hd⟩ hx
  · intro heq
    -- `e` itself is above `d`, but not above `e`
    have hm : e ∈ r.declarations.toFinset.filter (TransGen r.Extends d) :=
      Finset.mem_filter.2 ⟨List.mem_toFinset.2 (mem_declarations hd), .single ⟨t, ht, hd⟩⟩
    rw [← heq] at hm
    exact h e (Finset.mem_filter.1 hm).2

theorem Extends.find?_name (hk : r.IsKeyed) (h : r.Extends d e) : r.find? e.name = some e := by
  obtain ⟨t, -, he⟩ := h
  exact hk.find?_name he

/-- A direct supertype is one by its name, too. -/
theorem Extends.name_mem_supertypeNames (hk : r.IsKeyed) (h : r.Extends d e) : e.name ∈ d.supertypeNames := by
  obtain ⟨t, ht, he⟩ := h
  exact List.mem_filterMap.2 ⟨t, ht, hk.declaredName?_erasure he⟩

/-- A rank of names that gets smaller from each registered declaration to its supertypes rules out cycles. -/
theorem isAcyclic_of_rank (hk : r.IsKeyed) (rank : String → Nat)
    (h : ∀ d, r.find? d.name = some d → ∀ e, r.find? e.name = some e → e.name ∈ d.supertypeNames →
      rank e.name < rank d.name) : r.IsAcyclic := by
  intro d hd
  obtain ⟨c, -, hc⟩ := TransGen.tail'_iff.1 hd
  have hlt : ∀ e, TransGen r.Extends d e → r.find? e.name = some e ∧ rank e.name < rank d.name := by
    intro e he
    induction he with
    | single he =>
        exact ⟨he.find?_name hk, h d (hc.find?_name hk) _ (he.find?_name hk) (he.name_mem_supertypeNames hk)⟩
    | tail _ he ih =>
        have hlt := h _ ih.1 _ (he.find?_name hk) (he.name_mem_supertypeNames hk)
        exact ⟨he.find?_name hk, hlt.trans ih.2⟩
  exact (hlt d hd).2.false

end ValueParcel.Registry
