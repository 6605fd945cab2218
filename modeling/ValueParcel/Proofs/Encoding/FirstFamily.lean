import ValueParcel.Encoding.Classification
import ValueParcel.Proofs.Registry.Acyclic
import ValueParcel.Proofs.Registry.Searches
import ValueParcel.Proofs.Registry.Supertypes

/-!
The search for a family, as nested walks that share what they have seen. On every registry the walk from a type ends,
and with the family that the preorder shows. Where nothing is above itself, that is the family that plain recursion
finds: what has been seen already has no family, or is no longer in reach.
-/

namespace ValueParcel

namespace Registry

open Relation (ReflTransGen TransGen)

variable {r : Registry}

/-! ## Walks -/

/-- Where a walk goes on from a declaration: to its interfaces in order, then to the superclass under its name. -/
def next (r : Registry) (d : Declaration) : List JavaType := d.interfaces ++ (r.superclass? (.raw d.name)).toList

/-- A walk to some types in turn, up to the first family that it finds. It goes to a declaration once, and from there
first to what is next above it; whatever it has seen by then, it passes over later. -/
inductive Walks (r : Registry) : List String → List JavaType → Option Family → List String → Prop
  | nil {seen} : Walks r seen [] none seen
  | unknown {seen seen' t ts f} : r.declaration? t = none → Walks r seen ts f seen' → Walks r seen (t :: ts) f seen'
  | again {seen seen' t ts d f} : r.declaration? t = some d → d.name ∈ seen → Walks r seen ts f seen' →
      Walks r seen (t :: ts) f seen'
  | named {seen t ts d f} : r.declaration? t = some d → d.name ∉ seen → Family.ofClass? d.name = some f →
      Walks r seen (t :: ts) (some f) (d.name :: seen)
  | above {seen seen' t ts d f} : r.declaration? t = some d → d.name ∉ seen → Family.ofClass? d.name = none →
      Walks r (d.name :: seen) (r.next d) (some f) seen' → Walks r seen (t :: ts) (some f) seen'
  | past {seen seen' seen'' t ts d f} : r.declaration? t = some d → d.name ∉ seen → Family.ofClass? d.name = none →
      Walks r (d.name :: seen) (r.next d) none seen' → Walks r seen' ts f seen'' → Walks r seen (t :: ts) f seen''

/-- Every walk ends, on cyclic registries too: a visit leaves fewer declarations to be seen. -/
theorem exists_walks (r : Registry) (seen : List String) (ts : List JavaType) :
    ∃ f seen', r.Walks seen ts f seen' ∧ seen ⊆ seen' := by
  cases ts with
  | nil => exact ⟨none, seen, .nil, List.Subset.refl seen⟩
  | cons t ts =>
      cases hd : r.declaration? t with
      | none =>
          obtain ⟨f, seen', h, hs⟩ := exists_walks r seen ts
          exact ⟨f, seen', .unknown hd h, hs⟩
      | some d =>
          by_cases hm : d.name ∈ seen
          · obtain ⟨f, seen', h, hs⟩ := exists_walks r seen ts
            exact ⟨f, seen', .again hd hm h, hs⟩
          cases hf : Family.ofClass? d.name with
          | some f => exact ⟨some f, d.name :: seen, .named hd hm hf, List.subset_cons_self ..⟩
          | none =>
              have hlt : unseen r.names (d.name :: seen) < unseen r.names seen := unseen_cons_lt (name_mem_names hd) hm
              obtain ⟨f, seen', h, hs⟩ := exists_walks r (d.name :: seen) (r.next d)
              have hs' : seen ⊆ seen' := List.Subset.trans (List.subset_cons_self ..) hs
              cases f with
              | some f => exact ⟨some f, seen', .above hd hm hf h, hs'⟩
              | none =>
                  -- the walk above has only added to what was seen, so less is left for the types behind as well
                  have hle : unseen r.names seen' ≤ unseen r.names (d.name :: seen) := unseen_le_of_subset r.names hs
                  obtain ⟨f, seen'', h', hs''⟩ := exists_walks r seen' ts
                  exact ⟨f, seen'', .past hd hm hf h h', List.Subset.trans hs' hs''⟩
termination_by (unseen r.names seen, ts.length)

/-- A walk finds what comes first in the preorder of its types; without success it leaves the preorder of the types
behind them, less what has been seen by then. -/
theorem Walks.findSome?_preorderFrom {seen seen' : List String} {ts : List JavaType} {f : Option Family}
    (h : r.Walks seen ts f seen') (todo : List JavaType) :
    (r.preorderFrom seen (ts ++ todo)).findSome? (Family.ofClass? ·.name) =
      f.or ((r.preorderFrom seen' todo).findSome? (Family.ofClass? ·.name)) := by
  induction h generalizing todo with
  | nil => rfl
  | unknown hd _ ih =>
      rw [List.cons_append, preorderFrom_cons, hd]
      exact ih todo
  | again hd hm _ ih =>
      rw [List.cons_append, preorderFrom_cons, hd]
      simp only [hm, ↓reduceIte, ih todo]
  | named hd hm hf =>
      rw [List.cons_append, preorderFrom_cons, hd]
      simp [hm, hf]
  | @above _ _ _ ts _ _ hd hm hf _ ih =>
      rw [List.cons_append, preorderFrom_cons, hd]
      simp only [hm, ↓reduceIte, List.findSome?_cons, hf]
      exact ih (ts ++ todo)
  | @past _ _ _ _ ts _ _ hd hm hf _ _ ih ih' =>
      rw [List.cons_append, preorderFrom_cons, hd]
      simp only [hm, ↓reduceIte, List.findSome?_cons, hf]
      exact (ih (ts ++ todo)).trans (ih' todo)

theorem walks_iff {t : JavaType} {f : Option Family} : (∃ seen, r.Walks [] [t] f seen) ↔ r.familyAbove t = f := by
  have hw : ∀ {g seen}, r.Walks [] [t] g seen → r.familyAbove t = g := by
    intro g seen h
    have hp := h.findSome?_preorderFrom []
    rw [List.append_nil, preorderFrom.eq_1, List.findSome?_nil, Option.or_none] at hp
    exact hp
  constructor
  · rintro ⟨seen, h⟩
    exact hw h
  · rintro rfl
    obtain ⟨g, seen, h, -⟩ := exists_walks r [] [t]
    exact ⟨seen, hw h ▸ h⟩

/-! ## Plain recursion -/

/-- The family that a declaration names itself, or else the first that plain recursion finds among its interfaces in
order and, after them, its superclass. -/
def plainFamily (r : Registry) (ha : r.IsAcyclic) (d : Declaration) : Option Family :=
  (Family.ofClass? d.name).or <| d.supertypes.attach.findSome? fun ⟨t, _ht⟩ =>
    match _hd : r.declaration? t with
    | none => none
    | some e => plainFamily r ha e
termination_by r.height d
decreasing_by exact ha.height_lt ⟨t, _ht, _hd⟩

/-- The first family that plain recursion finds for some types in turn. -/
def plainFirst (r : Registry) (ha : r.IsAcyclic) (ts : List JavaType) : Option Family :=
  ts.findSome? fun t => (r.declaration? t).bind (r.plainFamily ha)

theorem plainFamily_eq (ha : r.IsAcyclic) (d : Declaration) :
    r.plainFamily ha d = (Family.ofClass? d.name).or (r.plainFirst ha d.supertypes) := by
  rw [plainFamily, plainFirst]
  congr 1
  conv_rhs => rw [← List.attach_map_subtype_val d.supertypes]
  rw [List.findSome?_map]
  congr 1
  funext ⟨t, ht⟩
  simp only [Function.comp]
  split <;> simp [*]

theorem plainFirst_cons (ha : r.IsAcyclic) (t : JavaType) (ts : List JavaType) :
    r.plainFirst ha (t :: ts) = ((r.declaration? t).bind (r.plainFamily ha)).or (r.plainFirst ha ts) := by
  rw [plainFirst, List.findSome?_cons]
  split <;> simp [plainFirst, *]

/-- The declaration is one of those of the types, or above one. -/
def IsOver (r : Registry) (ts : List JavaType) (d : Declaration) : Prop :=
  ∃ t ∈ ts, ∃ e, r.declaration? t = some e ∧ ReflTransGen r.Extends e d

theorem IsOver.cons {ts : List JavaType} {d : Declaration} (t : JavaType) (h : r.IsOver ts d) : r.IsOver (t :: ts) d := by
  obtain ⟨u, hu, h⟩ := h
  exact ⟨u, List.mem_cons_of_mem _ hu, h⟩

theorem IsOver.transGen {d e : Declaration} (h : r.IsOver d.supertypes e) : TransGen r.Extends d e := by
  obtain ⟨t, ht, c, hc, he⟩ := h
  exact .head' ⟨t, ht, hc⟩ he

theorem IsKeyed.find?_of_isOver (hk : r.IsKeyed) {ts : List JavaType} {d : Declaration} (h : r.IsOver ts d) :
    r.find? d.name = some d := by
  obtain ⟨t, -, e, he, ha⟩ := h
  cases ha with
  | refl => exact hk.find?_name he
  | tail _ hs =>
      obtain ⟨u, -, hu⟩ := hs
      exact hk.find?_name hu

theorem IsKeyed.next_eq (hk : r.IsKeyed) {t : JavaType} {d : Declaration} (hd : r.declaration? t = some d) :
    r.next d = d.supertypes := by
  rw [next, hk.superclass? (hk.find?_name hd), Declaration.supertypes]

section Seen

variable {ha : r.IsAcyclic} {seen seen' : List String} {t : JavaType} {ts : List JavaType} {d : Declaration}

/-- Of what is in reach of the types, only declarations without a family have been seen. -/
def HasSpent (r : Registry) (ha : r.IsAcyclic) (seen : List String) (ts : List JavaType) : Prop :=
  ∀ d, r.IsOver ts d → d.name ∈ seen → r.plainFamily ha d = none

theorem HasSpent.tail (h : r.HasSpent ha seen (t :: ts)) : r.HasSpent ha seen ts := fun d hd => h d (hd.cons t)

/-- Above a declaration the declaration itself counts as seen: it is out of reach there. -/
theorem HasSpent.above (hk : r.IsKeyed) (h : r.HasSpent ha seen (t :: ts)) (hd : r.declaration? t = some d) :
    r.HasSpent ha (d.name :: seen) d.supertypes := by
  intro e he hm
  rcases List.mem_cons.1 hm with hn | hm
  · have hde : e = d := eq_of_name_eq (hk.find?_name hd) (hk.find?_of_isOver he) hn
    exact absurd (hde ▸ he.transGen) (ha d)
  · exact h e ⟨t, List.mem_cons_self .., d, hd, he.transGen.to_reflTransGen⟩ hm

/-- As long as only declarations without a family have been seen in reach, a walk finds what plain recursion finds, and
what it sees without success has no family. -/
theorem Walks.eq_plainFirst (hk : r.IsKeyed) {f : Option Family} (h : r.Walks seen ts f seen')
    (hs : r.HasSpent ha seen ts) : f = r.plainFirst ha ts ∧
      (f = none → ∀ d, r.find? d.name = some d → d.name ∈ seen' → d.name ∈ seen ∨ r.plainFamily ha d = none) := by
  induction h with
  | nil =>
      refine ⟨rfl, ?_⟩
      intro _ d _ hm
      exact .inl hm
  | unknown ht _ ih =>
      rw [plainFirst_cons, ht]
      exact ih hs.tail
  | @again _ _ t _ d _ hd hm _ ih =>
      have hn := hs d ⟨t, List.mem_cons_self .., d, hd, .refl⟩ hm
      rw [plainFirst_cons, hd, Option.bind_some, hn, Option.none_or]
      exact ih hs.tail
  | named hd _ hf =>
      rw [plainFirst_cons, hd, Option.bind_some, plainFamily_eq, hf, Option.some_or, Option.some_or]
      exact ⟨rfl, nofun⟩
  | above hd _ hf _ ih =>
      rw [hk.next_eq hd] at ih
      have hp := (ih (hs.above hk hd)).1
      rw [plainFirst_cons, hd, Option.bind_some, plainFamily_eq, hf, Option.none_or, ← hp, Option.some_or]
      exact ⟨rfl, nofun⟩
  | @past seen seen' _ t ts d _ hd _ hf _ _ ih ih' =>
      rw [hk.next_eq hd] at ih
      obtain ⟨hp, hn⟩ := ih (hs.above hk hd)
      have hd' : r.plainFamily ha d = none := by rw [plainFamily_eq, hf, Option.none_or, ← hp]
      have hseen : ∀ e, r.find? e.name = some e → e.name ∈ seen' → e.name ∈ seen ∨ r.plainFamily ha e = none := by
        intro e he hm
        rcases hn rfl e he hm with hm | hm
        · rcases List.mem_cons.1 hm with hm | hm
          · exact .inr (eq_of_name_eq (hk.find?_name hd) he hm ▸ hd')
          · exact .inl hm
        · exact .inr hm
      have hs' : r.HasSpent ha seen' ts := by
        intro e he hm
        exact (hseen e (hk.find?_of_isOver he) hm).elim (hs e (he.cons t)) id
      obtain ⟨hq, hm⟩ := ih' hs'
      rw [plainFirst_cons, hd, Option.bind_some, hd', Option.none_or]
      refine ⟨hq, ?_⟩
      intro hf' e he hm'
      exact (hm hf' e he hm').elim (hseen e he) .inr

end Seen

/-- The walk from a type ends on every registry, cyclic or not, and always with the same family, the one that is used.
Where declarations have their names for keys and none is above itself, that is what plain recursion finds for the
declaration of the type. -/
theorem familyAbove_eq_plainFamily (r : Registry) :
    (∀ t f, (∃ seen, r.Walks [] [t] f seen) ↔ r.familyAbove t = f) ∧
    (r.IsKeyed → ∀ (ha : r.IsAcyclic) (t : JavaType) (d : Declaration), r.declaration? t = some d →
      r.familyAbove t = r.plainFamily ha d) := by
  refine ⟨fun t f => walks_iff, ?_⟩
  intro hk ha t d hd
  obtain ⟨seen, h⟩ := walks_iff.2 (rfl : r.familyAbove t = r.familyAbove t)
  have hs : r.HasSpent ha [] [t] := nofun
  rw [(h.eq_plainFirst hk hs).1, plainFirst_cons, hd, Option.bind_some, plainFirst, List.findSome?_nil, Option.or_none]

/-- An interface that a class shares with its superclass. -/
def thing : Declaration := .ofInterface "test.Thing"

def vessel : Declaration :=
  { Declaration.ofClass "test.Vessel" with interfaces := [.raw "test.Thing", .raw WellKnown.parcelable] }

/-- A class that names the interface before its superclass does. -/
def boat : Declaration :=
  { Declaration.ofClass "test.Boat" with
    superclass := some (.raw "test.Vessel"), interfaces := [.raw "test.Thing", .raw "test.Unknown"] }

def crafts : List Declaration := [thing, vessel, boat, .ofInterface WellKnown.parcelable]

def harbour : Registry := ofList crafts

theorem isAcyclic_harbour : harbour.IsAcyclic := by
  let rank : String → Nat := fun n => if n = "test.Boat" then 2 else if n = "test.Vessel" then 1 else 0
  have hlt : ∀ d ∈ crafts, ∀ e ∈ crafts, e.name ∈ d.supertypeNames → rank e.name < rank d.name := by decide
  refine isAcyclic_of_rank (isKeyed_ofList _) rank ?_
  intro d hd e he
  exact hlt d (mem_of_find?_ofList hd) e (mem_of_find?_ofList he)

/-- The walk from the boat meets the shared interface twice and passes over it the second time. -/
theorem walks_boat : ∃ seen, harbour.Walks [] [.raw "test.Boat"] (some .parcelable) seen := by
  have hp : harbour.Walks ["test.Vessel", "test.Thing", "test.Boat"] (harbour.next vessel) (some .parcelable) _ :=
    .again (d := thing) rfl (by decide) (.named (d := .ofInterface WellKnown.parcelable) rfl (by decide) (by decide))
  have ht : harbour.Walks ["test.Thing", "test.Boat"] (harbour.next thing) none _ := .nil
  have hb : harbour.Walks ["test.Boat"] (harbour.next boat) (some .parcelable) _ :=
    .past (d := thing) rfl (by decide) (by decide) ht
      (.unknown rfl (.above (d := vessel) rfl (by decide) (by decide) hp))
  exact ⟨_, .above (d := boat) rfl (by decide) (by decide) hb⟩

theorem familyAbove_eq_plainFamily_harbour : harbour.IsKeyed ∧ harbour.declaration? (.raw "test.Boat") = some boat ∧
    ∃ ha : harbour.IsAcyclic, harbour.plainFamily ha boat = some .parcelable := by
  have hk : harbour.IsKeyed := isKeyed_ofList _
  have hd : harbour.declaration? (.raw "test.Boat") = some boat := rfl
  obtain ⟨hw, hp⟩ := familyAbove_eq_plainFamily harbour
  refine ⟨hk, hd, isAcyclic_harbour, ?_⟩
  rw [← hp hk isAcyclic_harbour _ boat hd]
  exact (hw _ _).1 walks_boat

end Registry

end ValueParcel
