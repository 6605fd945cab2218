import Mathlib.Data.List.Chain
import ValueParcel.Proofs.Registry.Lineage
import ValueParcel.Proofs.Registry.Acyclic
import ValueParcel.Proofs.Registry.Methods

/-!
Methods that override each other. Which of two declarations is listed depends on their places in the hierarchy alone. A
hierarchy goes up step by step: so a declaration that overrides another one hides it wherever every way up to the other
leads over it, and need not do so elsewhere.
-/

namespace ValueParcel.Registry

open Relation (ReflTransGen TransGen)

variable {r : Registry} {t : JavaType} {d e : Declaration} {m k : Method}

/-! ## Ways up -/

theorem lineage_step {below above : List Declaration} (h : r.lineage t = below ++ e :: above) :
    below = [] ∧ r.declaration? t = some e ∨ ∃ d ∈ below, r.Extends d e := by
  rcases List.eq_nil_or_concat below with rfl | ⟨below, d, rfl⟩
  · have hh : (r.lineageFrom [] t).head? = some e := congrArg List.head? h
    exact .inl ⟨rfl, head?_lineageFrom hh⟩
  · have hc : (r.lineage t).IsChain fun d e => r.parent? d = some e := isChain_lineageFrom
    rw [h, List.concat_eq_append, List.append_assoc, List.singleton_append, List.isChain_append_cons_cons] at hc
    obtain ⟨s, hs, he⟩ := Option.bind_eq_some_iff.1 hc.2.1
    exact .inr ⟨d, by simp, s, List.mem_append_right _ (Option.mem_toList.2 hs), he⟩

theorem interfacesFrom_step {seen : List String} {queue : List JavaType} {below above : List Declaration}
    (h : r.interfacesFrom seen queue = below ++ e :: above) :
    (∃ u ∈ queue, r.declaration? u = some e) ∨ ∃ d ∈ below, r.Extends d e := by
  fun_induction interfacesFrom r seen queue generalizing below with
  | case1 => simp at h
  | case2 seen u queue hu ih => exact (ih h).imp_left fun ⟨v, hv, he⟩ => ⟨v, List.mem_cons_of_mem _ hv, he⟩
  | case3 seen u queue c hc hs ih => exact (ih h).imp_left fun ⟨v, hv, he⟩ => ⟨v, List.mem_cons_of_mem _ hv, he⟩
  | case4 seen u queue c hc hs ih =>
      cases below with
      | nil =>
          obtain ⟨rfl, -⟩ := List.cons.inj h
          exact .inl ⟨u, List.mem_cons_self .., hc⟩
      | cons d below =>
          obtain ⟨rfl, hi⟩ := List.cons.inj h
          rcases ih hi with ⟨v, hv, he⟩ | ⟨d, hd, he⟩
          · rcases List.mem_append.1 hv with hv | hv
            · exact .inl ⟨v, List.mem_cons_of_mem _ hv, he⟩
            · exact .inr ⟨c, List.mem_cons_self .., v, List.mem_append_left _ hv, he⟩
          · exact .inr ⟨d, List.mem_cons_of_mem _ hd, he⟩

/-- Whatever a hierarchy lists is what its type declares, or a direct supertype of something listed before. -/
theorem hierarchy_step {below above : List Declaration} (h : r.hierarchy t = below ++ e :: above) :
    below = [] ∧ r.declaration? t = some e ∨ ∃ d ∈ below, r.Extends d e := by
  rcases split_of_append_eq h with ⟨rest, hl⟩ | ⟨rest, rfl, hi⟩
  · exact lineage_step hl
  · rcases interfacesFrom_step hi with ⟨u, hu, he⟩ | ⟨d, hd, he⟩
    · obtain ⟨d, hd, hu⟩ := List.mem_flatMap.1 hu
      exact .inr ⟨d, List.mem_append_left _ hd, u, List.mem_append_left _ hu, he⟩
    · exact .inr ⟨d, List.mem_append_right _ hd, he⟩

/-- There is a way up from the type to `e`, over direct supertypes, on which `d` does not lie. -/
def LeadsPast (r : Registry) (t : JavaType) (d e : Declaration) : Prop :=
  ∃ c, r.declaration? t = some c ∧ c ≠ d ∧ ReflTransGen (fun a b => r.Extends a b ∧ b ≠ d) c e

/-- A way up leads past all that the hierarchy does not list by then. -/
theorem leadsPast_of_hierarchy {below above : List Declaration} (h : r.hierarchy t = below ++ e :: above)
    (hd : d ∉ below) (hne : d ≠ e) : r.LeadsPast t d e := by
  induction hn : below.length using Nat.strongRecOn generalizing below above e with
  | ind n ih =>
      rcases hierarchy_step h with ⟨-, he⟩ | ⟨c, hc, he⟩
      · exact ⟨e, he, hne.symm, .refl⟩
      · obtain ⟨before, after, rfl⟩ := List.append_of_mem hc
        have hlt : before.length < n := by simp [← hn]
        have hcd : d ≠ c := fun hdc => hd (hdc ▸ hc)
        have hb : d ∉ before := fun hm => hd (List.mem_append_left _ hm)
        obtain ⟨b, hb, hbd, hr⟩ := ih _ hlt (by rw [h, List.append_assoc, List.cons_append]) hb hcd rfl
        exact ⟨b, hb, hbd, hr.tail ⟨he, hne.symm⟩⟩

/-! ## Overriding -/

/-- Of two declarations of a signature in a hierarchy, that of `e` is listed if and only if none stands before it. Then
the other one is not, even if it overrides that of `e`; but there is a way up to `e` on which `d` does not lie. -/
theorem overridden_isListed_iff (hd : d ∈ r.hierarchy t) (hne : d ≠ e) (hm : m ∈ d.methods) (hk : k ∈ e.methods)
    (hs : m.signature = k.signature) (hms : m.isStatic = false) (hks : k.isStatic = false) :
    let IsListed := fun c => ∃ j, (c, j) ∈ r.methods t ∧ j.signature = k.signature
    (IsListed e ↔ ∃ below above, r.hierarchy t = below ++ e :: above ∧ ¬ Declares below k.signature) ∧
    (IsListed e → ¬ IsListed d ∧ [e, d].Sublist (r.hierarchy t) ∧ r.LeadsPast t d e) := by
  intro IsListed
  have hiff : IsListed e ↔ ∃ below above, r.hierarchy t = below ++ e :: above ∧ ¬ Declares below k.signature := by
    constructor
    · rintro ⟨j, hj, hjk⟩
      obtain ⟨below, above, -, -, hl, -, -, hn, -⟩ := mem_methods_iff.1 hj
      exact ⟨below, above, hl, hjk ▸ hn⟩
    · rintro ⟨below, above, hl, hn⟩
      obtain ⟨j, hj, hjk⟩ := exists_isFirst hl hk (.inr hks) hn
      exact ⟨j, mem_methods_iff.2 hj, hjk⟩
  refine ⟨hiff, ?_⟩
  intro he
  obtain ⟨below, above, hl, hn⟩ := hiff.1 he
  have hb : d ∉ below := by
    intro hb
    obtain ⟨before, after, rfl⟩ := List.append_of_mem hb
    exact hn ⟨before, d, after, rfl, m, hm, .inr hms, hs⟩
  have ha : d ∈ above := by
    rw [hl, List.mem_append, List.mem_cons] at hd
    exact (hd.resolve_left hb).resolve_left hne
  refine ⟨?_, ?_, leadsPast_of_hierarchy hl hb hne⟩
  · rintro ⟨i, hi, his⟩
    obtain ⟨j, hj, hjs⟩ := he
    exact hne (congrArg Prod.fst (eq_of_mem_methods hi hj (his.trans hjs.symm)))
  · rw [hl]
    exact (List.Sublist.cons_cons e (List.singleton_sublist.2 ha)).trans (List.sublist_append_right below _)

/-! ### A class that lists an interface before another one that extends it -/

/-- The area of a shape, without a body. -/
def area : Method := .accessor "area" (.primitive .double)

def shape : Declaration := { Declaration.ofInterface "test.Shape" with methods := [area] }

/-- The area of a round shape, with a body. -/
def roundArea : Method := { name := "area", returnType := .primitive .double }

def round : Declaration :=
  { Declaration.ofInterface "test.Round" with interfaces := [.raw "test.Shape"], methods := [roundArea] }

def disc : Declaration :=
  { Declaration.ofClass "test.Disc" with interfaces := [.raw "test.Shape", .raw "test.Round"] }

def figures : Registry := ofList [shape, round, disc]

theorem hierarchy_disc : figures.hierarchy (.raw "test.Disc") = [disc, shape, round] := by
  have hd : figures.declaration? (.raw "test.Disc") = some disc := rfl
  have ho : figures.declaration? (.raw WellKnown.object) = none := rfl
  have hs : figures.declaration? (.raw "test.Shape") = some shape := rfl
  have hr : figures.declaration? (.raw "test.Round") = some round := rfl
  have hsup : disc.superclass? = some (.raw WellKnown.object) := rfl
  have hline : figures.lineage (.raw "test.Disc") = [disc] := by
    rw [lineage, lineageFrom_eq, hd]
    simp only [hsup, List.not_mem_nil, ↓reduceIte]
    rw [lineageFrom_eq, ho]
  rw [hierarchy, hline]
  simp [interfacesFrom_cons, interfacesFrom, disc, shape, round, Declaration.ofClass, Declaration.ofInterface, hs, hr]

theorem mem_methods_disc : (shape, area) ∈ figures.methods (.raw "test.Disc") := by
  have hn : ¬ Declares [disc] area.signature := by simp [declares_iff, methodsInOrder, disc, Declaration.ofClass]
  exact mem_methods_iff.2 ⟨[disc], [round], [], [], hierarchy_disc, rfl, .inr (by decide), hn, List.forall_mem_nil _⟩

theorem overridden_isListed_disc :
    round ∈ figures.hierarchy (.raw "test.Disc") ∧ round ≠ shape ∧ roundArea ∈ round.methods ∧ area ∈ shape.methods ∧
    roundArea.signature = area.signature ∧ roundArea.isStatic = false ∧ area.isStatic = false ∧
    (¬ ∃ j, (round, j) ∈ figures.methods (.raw "test.Disc") ∧ j.signature = area.signature) ∧
    figures.LeadsPast (.raw "test.Disc") round shape := by
  have hd : round ∈ figures.hierarchy (.raw "test.Disc") := by simp [hierarchy_disc]
  obtain ⟨-, hl⟩ := overridden_isListed_iff (e := shape) (m := roundArea) (k := area) hd (by decide) (by decide)
    (by decide) (by decide) (by decide) (by decide)
  obtain ⟨hr, -, hp⟩ := hl ⟨area, mem_methods_disc, rfl⟩
  exact ⟨hd, by decide, by decide, by decide, by decide, by decide, by decide, hr, hp⟩

/-- A round shape is a shape and no shape is a round one, but the area of shapes in general is listed for the disc. -/
theorem area_of_shapes_isListed :
    figures.IsKeyed ∧ shape.kind = .interfaceKind ∧ round.kind = .interfaceKind ∧ round ≠ shape ∧
    shape ∈ figures.hierarchy (.raw "test.Disc") ∧ round ∈ figures.hierarchy (.raw "test.Disc") ∧
    TransGen figures.Extends round shape ∧ ¬ TransGen figures.Extends shape round ∧
    area ∈ shape.methods ∧ roundArea ∈ round.methods ∧ roundArea.signature = area.signature ∧
    area.isStatic = false ∧ roundArea.isStatic = false ∧ (shape, area) ∈ figures.methods (.raw "test.Disc") := by
  have hu : TransGen figures.Extends round shape := .single ⟨.raw "test.Shape", by decide, rfl⟩
  have hn : ¬ TransGen figures.Extends shape round := by
    intro h
    obtain ⟨c, ⟨u, hu, -⟩, -⟩ := TransGen.head'_iff.1 h
    have he : shape.supertypes = [] := rfl
    rw [he] at hu
    cases hu
  exact ⟨isKeyed_ofList _, rfl, rfl, by decide, by simp [hierarchy_disc], by simp [hierarchy_disc], hu, hn, by decide,
    by decide, by decide, by decide, by decide, mem_methods_disc⟩

end ValueParcel.Registry
