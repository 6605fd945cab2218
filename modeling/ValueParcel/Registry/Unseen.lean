import ValueParcel.Registry.Basic

/-! How much of a registry a search has not seen: the measure that ends every search. -/

namespace ValueParcel.Registry

/-- The number of elements of `all` that are not in `seen`. -/
def unseen (all seen : List String) : Nat := all.countP (fun n => decide (n ∉ seen))

theorem unseen_le_of_subset (all : List String) {seen seen' : List String} (h : seen ⊆ seen') :
    unseen all seen' ≤ unseen all seen :=
  List.countP_mono_left fun _ _ hn => decide_eq_true fun hm => of_decide_eq_true hn (h hm)

theorem unseen_cons_left (m : String) (all seen : List String) :
    unseen (m :: all) seen = unseen all seen + if m ∈ seen then 0 else 1 := by
  by_cases h : m ∈ seen <;> simp [unseen, h]

theorem unseen_cons_lt {all seen : List String} {n : String} (hn : n ∈ all) (hs : n ∉ seen) :
    unseen all (n :: seen) < unseen all seen := by
  induction all with
  | nil => simp at hn
  | cons m all ih =>
    have := unseen_le_of_subset all (List.subset_cons_self n seen)
    rw [unseen_cons_left, unseen_cons_left]
    rcases List.mem_cons.1 hn with rfl | hn
    · simp only [List.mem_cons, true_or, ite_true, hs, ite_false]
      omega
    · have := ih hn
      by_cases h : m ∈ seen <;> by_cases hm : m = n <;> simp only [h, hm, List.mem_cons, true_or, or_true, or_false,
        ite_true, ite_false] <;> omega

def names (r : Registry) : List String := r.declarations.map (·.name)

theorem name_mem_names {r : Registry} {t : JavaType} {d : Declaration} (h : r.declaration? t = some d) :
    d.name ∈ r.names :=
  List.mem_map_of_mem (mem_declarations h)

end ValueParcel.Registry
