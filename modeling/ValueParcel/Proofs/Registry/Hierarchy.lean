import Mathlib.Data.List.Forall2
import Mathlib.Order.Bounds.Defs
import ValueParcel.Proofs.Registry.Assignability
import ValueParcel.Proofs.Registry.Lineage
import ValueParcel.Proofs.Registry.Preorder

/-!
The hierarchy of a declared type: its lineage, and then the interfaces above that, level by level. It has everything to
which the type can be assigned, once each.
-/

namespace ValueParcel.Registry

open JavaType (headNames)

variable {r : Registry} {line : List Declaration} {k : Nat} {n : String} {seen near far : List String}

/-! ## Interfaces -/

/-- What is registered for the types in lists of interfaces is an interface without a superclass. -/
def ImplementsInterfaces (r : Registry) : Prop :=
  ∀ n d, r.find? n = some d → ∀ t ∈ d.interfaces, ∀ e, r.declaration? t = some e →
    e.kind = .interfaceKind ∧ e.superclass = none

/-- The type is declared, and what is registered for it is an interface without a superclass. -/
def IsInterface (r : Registry) (t : JavaType) : Prop :=
  (∃ n args, t = .declared n args) ∧ ∀ d, r.declaration? t = some d → d.kind = .interfaceKind ∧ d.superclass = none

theorem ImplementsInterfaces.isInterface (hi : r.ImplementsInterfaces) (hs : r.NamesSupertypes) {d : Declaration}
    (hd : r.find? n = some d) : ∀ t ∈ d.interfaces, r.IsInterface t := by
  intro t ht
  exact ⟨hs.exists_declared hd (List.mem_append_left _ ht), hi n d hd t ht⟩

/-- From an interface, all steps lead to its interfaces. -/
theorem IsInterface.supertypeNames_eq {t : JavaType} (h : r.IsInterface t) {d : Declaration}
    (hd : r.declaration? t = some d) : d.supertypeNames = headNames d.interfaces := by
  obtain ⟨hk, hs⟩ := h.2 d hd
  simp [Declaration.supertypeNames, Declaration.supertypes, Declaration.superclass?, hk, hs, headNames]

/-! ## Levels -/

/-- The name is reached from the line in so many steps. -/
inductive ReachedIn (r : Registry) (line : List Declaration) : Nat → String → Prop
  | start {d : Declaration} : d ∈ line → ReachedIn r line 0 d.name
  | step {k : Nat} {n m : String} : ReachedIn r line k n → r.Steps n m → ReachedIn r line (k + 1) m

/-- The name is so many steps away from the line, and no fewer. -/
def IsAway (r : Registry) (line : List Declaration) (k : Nat) (n : String) : Prop :=
  IsLeast {j | r.ReachedIn line j n} k

/-- The state of a search by levels: what is still to do on this level, and what there is by now on the next. -/
structure IsLevel (r : Registry) (line : List Declaration) (k : Nat) (seen near far : List String) : Prop where
  reached_near : ∀ n ∈ near, r.ReachedIn line k n
  reached_far : ∀ n ∈ far, r.ReachedIn line (k + 1) n
  below : ∀ j n, j < k → r.ReachedIn line j n → r.contains n = true → n ∈ seen
  level : ∀ n, r.ReachedIn line k n → r.contains n = true → n ∈ seen ∨ n ∈ near
  covers : r.Covers seen (near ++ far)

theorem ReachedIn.isAbove (h : r.ReachedIn line k n) : ∃ d ∈ line, r.IsAbove n d.name := by
  induction h with
  | start hd => exact ⟨_, hd, .refl⟩
  | step _ hs ih =>
      obtain ⟨d, hd, ha⟩ := ih
      exact ⟨d, hd, ha.tail hs⟩

theorem IsLevel.skip (h : r.IsLevel line k seen (n :: near) far) (hn : r.contains n = true → n ∈ seen) :
    r.IsLevel line k seen near far where
  reached_near m hm := h.reached_near m (List.mem_cons_of_mem _ hm)
  reached_far := h.reached_far
  below := h.below
  level m hm hc := by
    rcases h.level m hm hc with hs | ht
    · exact .inl hs
    · rcases List.mem_cons.1 ht with rfl | ht
      · exact .inl (hn hc)
      · exact .inr ht
  covers := h.covers.skip hn

theorem IsLevel.visit (h : r.IsLevel line k seen (n :: near) far) {next : List String}
    (hn : ∀ m, r.Steps n m ↔ m ∈ next) : r.IsLevel line k (n :: seen) near (far ++ next) where
  reached_near m hm := h.reached_near m (List.mem_cons_of_mem _ hm)
  reached_far m hm := by
    rcases List.mem_append.1 hm with hm | hm
    · exact h.reached_far m hm
    · exact .step (h.reached_near n (List.mem_cons_self ..)) ((hn m).2 hm)
  below j m hj hr hc := List.mem_cons_of_mem _ (h.below j m hj hr hc)
  level m hm hc := by
    rcases h.level m hm hc with hs | ht
    · exact .inl (List.mem_cons_of_mem _ hs)
    · rcases List.mem_cons.1 ht with rfl | ht
      · exact .inl (List.mem_cons_self ..)
      · exact .inr ht
  covers := by
    rw [← List.append_assoc]
    exact h.covers.visit (List.subset_append_left ..) fun m hm => List.mem_append_right _ ((hn m).1 hm)

/-- Once nothing is left on a level, the next one is at hand. -/
theorem IsLevel.rise (h : r.IsLevel line k seen [] far) : r.IsLevel line (k + 1) seen far [] where
  reached_near := h.reached_far
  reached_far := nofun
  below j n hj hr hc := by
    rcases Nat.lt_succ_iff_lt_or_eq.1 hj with hj | rfl
    · exact h.below j n hj hr hc
    · exact (h.level n hr hc).resolve_right List.not_mem_nil
  level n hr hc := by
    cases hr with
    | step hr hs =>
        have hm := (h.level _ hr (contains_of_steps hs)).resolve_right List.not_mem_nil
        exact h.covers _ hm n hs hc
  covers := (List.append_nil far).symm ▸ h.covers

/-- The first to be done is on this level or, where that is empty, on the next. -/
theorem IsLevel.exists_cons {todo : List String} (h : r.IsLevel line k seen near far) (he : n :: todo = near ++ far) :
    ∃ j near' far', k ≤ j ∧ todo = near' ++ far' ∧ r.IsLevel line j seen (n :: near') far' := by
  cases near with
  | nil =>
      rw [List.nil_append] at he
      exact ⟨k + 1, todo, [], Nat.le_succ k, (List.append_nil todo).symm, he ▸ h.rise⟩
  | cons m near =>
      obtain ⟨rfl, ht⟩ := List.cons.inj he
      exact ⟨k, near, far, Nat.le_refl k, ht, h⟩

theorem IsLevel.isAway (h : r.IsLevel line k seen (n :: near) far) (hn : n ∉ seen) (hc : r.contains n = true) :
    r.IsAway line k n := by
  refine ⟨h.reached_near n (List.mem_cons_self ..), ?_⟩
  intro j hj
  exact Nat.le_of_not_lt fun hlt => hn (h.below j n hlt hj hc)

/-! ## Searches -/

/-- The declarations are away from the line in non-decreasing numbers of steps, none of them less than `k`. -/
def Spreads (r : Registry) (line : List Declaration) (k : Nat) (ds : List Declaration) : Prop :=
  ∃ ks : List Nat, ks.Pairwise (· ≤ ·) ∧ (∀ j ∈ ks, k ≤ j) ∧ List.Forall₂ (fun j d => r.IsAway line j d.name) ks ds

theorem Spreads.nil : r.Spreads line k [] := ⟨[], .nil, nofun, .nil⟩

theorem Spreads.mono {j : Nat} {ds : List Declaration} (h : r.Spreads line j ds) (hk : k ≤ j) : r.Spreads line k ds := by
  obtain ⟨ks, hp, hj, hf⟩ := h
  exact ⟨ks, hp, fun i hi => hk.trans (hj i hi), hf⟩

theorem Spreads.cons {d : Declaration} {ds : List Declaration} (h : r.Spreads line k ds)
    (hd : r.IsAway line k d.name) : r.Spreads line k (d :: ds) := by
  obtain ⟨ks, hp, hj, hf⟩ := h
  refine ⟨k :: ks, List.pairwise_cons.2 ⟨hj, hp⟩, ?_, .cons hd hf⟩
  exact List.forall_mem_cons.2 ⟨Nat.le_refl k, hj⟩

theorem Spreads.exists_isAway {ds : List Declaration} (h : r.Spreads line k ds) :
    ∀ d ∈ ds, ∃ j, r.IsAway line j d.name := by
  obtain ⟨ks, -, -, hf⟩ := h
  induction hf with
  | nil => nofun
  | cons hd _ ih => exact List.forall_mem_cons.2 ⟨⟨_, hd⟩, ih⟩

section Search

variable {queue : List JavaType} (hk : r.IsKeyed) (hs : r.NamesSupertypes) (hi : r.ImplementsInterfaces)
  (hq : ∀ t ∈ queue, r.IsInterface t)

include hk hs hi hq

/-- The search finds interfaces that it has not seen, each once. -/
theorem interfacesFrom_new : (∀ d ∈ r.interfacesFrom seen queue, d.kind = .interfaceKind ∧ d.name ∉ seen) ∧
    ((r.interfacesFrom seen queue).map (·.name)).Nodup := by
  fun_induction interfacesFrom r seen queue with
  | case1 => exact ⟨List.forall_mem_nil _, .nil⟩
  | case2 seen t queue hd ih => exact ih (List.forall_mem_cons.1 hq).2
  | case3 seen t queue d hd hm ih => exact ih (List.forall_mem_cons.1 hq).2
  | case4 seen t queue d hd hm ih =>
      obtain ⟨ht, hq⟩ := List.forall_mem_cons.1 hq
      obtain ⟨hn, hp⟩ := ih (List.forall_mem_append.2 ⟨hq, hi.isInterface hs (hk.find?_name hd)⟩)
      refine ⟨List.forall_mem_cons.2 ⟨⟨(ht.2 d hd).1, hm⟩, ?_⟩, List.nodup_cons.2 ⟨?_, hp⟩⟩
      · intro e he
        exact ⟨(hn e he).1, List.not_mem_of_not_mem_cons (hn e he).2⟩
      · intro hmem
        obtain ⟨e, he, hne⟩ := List.mem_map.1 hmem
        exact (hn e he).2 (hne ▸ List.mem_cons_self ..)

/-- The search goes level by level. -/
theorem interfacesFrom_spreads (he : headNames queue = near ++ far) (h : r.IsLevel line k seen near far) :
    r.Spreads line k (r.interfacesFrom seen queue) := by
  -- an empty level is left for the next one before the first type of the queue is done
  fun_induction interfacesFrom r seen queue generalizing k near far with
  | case1 => exact .nil
  | case2 seen t queue hd ih =>
      obtain ⟨⟨⟨n, args, rfl⟩, -⟩, hqs⟩ := List.forall_mem_cons.1 hq
      rw [headNames_cons_declared] at he
      obtain ⟨j, near', far', hj, he', h'⟩ := h.exists_cons he
      have hn := h'.skip fun hc => absurd hc (not_contains hd)
      exact (ih hqs he' hn).mono hj
  | case3 seen t queue d hd hm ih =>
      obtain ⟨⟨⟨n, args, rfl⟩, -⟩, hqs⟩ := List.forall_mem_cons.1 hq
      rw [headNames_cons_declared] at he
      obtain ⟨j, near', far', hj, he', h'⟩ := h.exists_cons he
      have hn := h'.skip fun _ => hk n d hd ▸ hm
      exact (ih hqs he' hn).mono hj
  | case4 seen t queue d hd hm ih =>
      obtain ⟨ht, hqs⟩ := List.forall_mem_cons.1 hq
      have hqi := List.forall_mem_append.2 ⟨hqs, hi.isInterface hs (hk.find?_name hd)⟩
      have hsup := ht.supertypeNames_eq hd
      obtain ⟨⟨n, args, rfl⟩, -⟩ := ht
      rw [headNames_cons_declared] at he
      obtain ⟨j, near', far', hj, he', h'⟩ := h.exists_cons he
      obtain rfl : d.name = n := hk n d hd
      have hn : ∀ m, r.Steps d.name m ↔ m ∈ headNames d.interfaces := fun m => hsup ▸ steps_iff hd
      have hei : headNames (queue ++ d.interfaces) = near' ++ (far' ++ headNames d.interfaces) := by
        rw [headNames_append, he', List.append_assoc]
      exact ((ih hqi hei (h'.visit hn)).cons (h'.isAway hm (contains_of_find? hd))).mono hj

/-- The search misses nothing: what is registered above the seen names has been seen or is found. -/
theorem mem_interfacesFrom_of_isAbove (hc : r.Covers seen (headNames queue)) {m : String} (hn : n ∈ seen)
    (ha : r.IsAbove m n) (hm : r.contains m = true) : m ∈ seen ∨ ∃ d ∈ r.interfacesFrom seen queue, d.name = m := by
  fun_induction interfacesFrom r seen queue generalizing n with
  | case1 seen => exact .inl (hc.mem_of_isAbove hn ha hm)
  | case2 seen t queue hd ih =>
      obtain ⟨⟨⟨k, args, rfl⟩, -⟩, hqs⟩ := List.forall_mem_cons.1 hq
      exact ih hqs (hc.skip fun hr => absurd hr (not_contains hd)) hn ha
  | case3 seen t queue d hd hs ih =>
      obtain ⟨⟨⟨k, args, rfl⟩, -⟩, hqs⟩ := List.forall_mem_cons.1 hq
      exact ih hqs (hc.skip fun _ => hk k d hd ▸ hs) hn ha
  | case4 seen t queue d hd _ ih =>
      obtain ⟨ht, hqs⟩ := List.forall_mem_cons.1 hq
      have hqi := List.forall_mem_append.2 ⟨hqs, hi.isInterface hs (hk.find?_name hd)⟩
      have hsup := ht.supertypeNames_eq hd
      obtain ⟨⟨k, args, rfl⟩, -⟩ := ht
      obtain rfl : d.name = k := hk k d hd
      have hv : r.Covers (d.name :: seen) (headNames (queue ++ d.interfaces)) := by
        rw [headNames_append]
        refine hc.visit (List.subset_append_left ..) ?_
        exact fun m hm => List.mem_append_right _ (hsup ▸ (steps_iff hd).1 hm)
      rcases ih hqi hv (List.mem_cons_of_mem _ hn) ha with hm | ⟨e, he, hn⟩
      · rcases List.mem_cons.1 hm with rfl | hm
        · exact .inr ⟨d, List.mem_cons_self .., rfl⟩
        · exact .inl hm
      · exact .inr ⟨e, List.mem_cons_of_mem _ he, hn⟩

end Search

/-! ## Hierarchies -/

section Lineage

variable (hk : r.IsKeyed) (hs : r.NamesSupertypes) (t : JavaType)

include hk

theorem steps_of_mem_interfaces {d : Declaration} (hd : d ∈ r.lineage t) :
    ∀ m ∈ headNames d.interfaces, r.Steps d.name m := by
  intro m hm
  refine ⟨d, (find?_of_mem_lineageFrom hk d hd).1, ?_⟩
  rw [Declaration.supertypeNames, Declaration.supertypes, List.filterMap_append]
  exact List.mem_append_left _ hm

include hs

/-- A lineage covers what its declarations step to, once all their interfaces are to do. -/
theorem covers_lineage :
    r.Covers ((r.lineage t).map (·.name)) (headNames ((r.lineage t).flatMap (·.interfaces))) := by
  intro n hn m hm hc
  obtain ⟨d, hd, rfl⟩ := List.mem_map.1 hn
  have hf := (find?_of_mem_lineageFrom hk d hd).1
  obtain ⟨u, hu, hum⟩ := List.mem_filterMap.1 ((steps_iff hf).1 hm)
  rcases List.mem_append.1 hu with hi | hp
  · exact .inr (List.mem_filterMap.2 ⟨u, List.mem_flatMap.2 ⟨d, hd, hi⟩, hum⟩)
  · obtain ⟨k, args, rfl⟩ := hs.exists_declared hf hu
    obtain rfl : k = m := Option.some.inj hum
    obtain ⟨e, he⟩ := Option.isSome_iff_exists.1 hc
    have hpar : r.parent? d = some e := by
      rw [parent?, Option.mem_toList.1 hp, Option.bind_some, declaration?, he]
    exact .inl (hk k e he ▸ List.mem_map_of_mem ((isLine_lineage hk t).closed d hd e hpar))

theorem isLevel_lineage :
    r.IsLevel (r.lineage t) 1 ((r.lineage t).map (·.name)) (headNames ((r.lineage t).flatMap (·.interfaces))) [] := by
  refine IsLevel.rise ⟨nofun, ?_, nofun, ?_, covers_lineage hk hs t⟩
  · intro m hm
    obtain ⟨u, hu, hum⟩ := List.mem_filterMap.1 hm
    obtain ⟨d, hd, hu⟩ := List.mem_flatMap.1 hu
    exact .step (.start hd) (steps_of_mem_interfaces hk t hd m (List.mem_filterMap.2 ⟨u, hu, hum⟩))
  · intro n hn _
    cases hn with
    | start hd => exact .inl (List.mem_map_of_mem hd)

variable (hi : r.ImplementsInterfaces)

include hi

theorem isInterface_of_mem_lineage : ∀ u ∈ (r.lineage t).flatMap (·.interfaces), r.IsInterface u := by
  intro u hu
  obtain ⟨d, hd, hu⟩ := List.mem_flatMap.1 hu
  exact hi.isInterface hs (find?_of_mem_lineageFrom hk d hd).1 u hu

theorem nodup_hierarchy : ((r.hierarchy t).map (·.name)).Nodup := by
  have hq := isInterface_of_mem_lineage hk hs t hi
  have hnew := @interfacesFrom_new r ((r.lineage t).map (·.name)) _ hk hs hi hq
  rw [hierarchy, List.map_append]
  refine List.nodup_append.2 ⟨(isLine_lineage hk t).nodup, hnew.2, ?_⟩
  rintro n hn m hm rfl
  obtain ⟨d, hd, rfl⟩ := List.mem_map.1 hm
  exact (hnew.1 d hd).2 hn

theorem spreads_hierarchy : ∃ rest, r.hierarchy t = r.lineage t ++ rest ∧ (∀ d ∈ rest, d.kind = .interfaceKind) ∧
    r.Spreads (r.lineage t) 1 rest := by
  have hq := isInterface_of_mem_lineage hk hs t hi
  have hnew := @interfacesFrom_new r ((r.lineage t).map (·.name)) _ hk hs hi hq
  have hspread := interfacesFrom_spreads hk hs hi hq (List.append_nil _).symm (isLevel_lineage hk hs t)
  exact ⟨_, rfl, fun d hd => (hnew.1 d hd).1, hspread⟩

/-- Everything in a hierarchy is above its type. -/
theorem isAbove_of_mem_hierarchy {d : Declaration} (hd : d ∈ r.hierarchy t) :
    ∃ n, t.erasure.declaredName? = some n ∧ r.IsAbove d.name n := by
  obtain ⟨rest, he, -, hspread⟩ := spreads_hierarchy hk hs t hi
  rw [he] at hd
  rcases List.mem_append.1 hd with hd | hd
  · exact isAbove_of_mem_lineageFrom hk hd
  · obtain ⟨j, hj, -⟩ := hspread.exists_isAway d hd
    obtain ⟨c, hc, ha⟩ := ReachedIn.isAbove hj
    obtain ⟨n, hn, hb⟩ := isAbove_of_mem_lineageFrom hk hc
    exact ⟨n, hn, hb.trans ha⟩

/-- The hierarchy of a declared type has what is registered above it. -/
theorem mem_hierarchy_iff {n m : String} {args : List JavaType} (hm : r.contains m = true) :
    (∃ d ∈ r.hierarchy (.declared n args), d.name = m) ↔ r.IsAbove m n := by
  constructor
  · rintro ⟨d, hd, rfl⟩
    obtain ⟨k, hk, ha⟩ := isAbove_of_mem_hierarchy hk hs _ hi hd
    obtain rfl : n = k := Option.some.inj hk
    exact ha
  · intro ha
    obtain ⟨d, hd⟩ := Option.isSome_iff_exists.1 (contains_of_isAbove ha hm)
    have hline := isLine_lineage hk (.declared n args)
    have hl : d ∈ r.lineage (.declared n args) := List.mem_of_head? (hline.head.trans hd)
    have hseen : n ∈ (r.lineage (.declared n args)).map (·.name) := List.mem_map.2 ⟨d, hl, hk n d hd⟩
    have hq := isInterface_of_mem_lineage hk hs (.declared n args) hi
    rcases mem_interfacesFrom_of_isAbove hk hs hi hq (covers_lineage hk hs _) hseen ha hm with hmem | ⟨e, he, hne⟩
    · obtain ⟨e, he, hne⟩ := List.mem_map.1 hmem
      exact ⟨e, List.mem_append_left _ he, hne⟩
    · exact ⟨e, List.mem_append_right _ he, hne⟩

end Lineage

/-- The hierarchy of a declared type has no declaration twice. It begins with the line of superclasses; the others are
interfaces, away from that line in non-decreasing numbers of steps; and it has what is registered under a name other
than `Object` if and only if the type can be assigned to the type of that name. -/
theorem hierarchy_lists_supertypes (hk : r.IsKeyed) (hs : r.NamesSupertypes) (hi : r.ImplementsInterfaces) (n : String)
    (args : List JavaType) :
    ((r.hierarchy (.declared n args)).map (·.name)).Nodup ∧
    (∃ line rest, r.hierarchy (.declared n args) = line ++ rest ∧ r.IsLine (.declared n args) line ∧
      (∀ d ∈ rest, d.kind = .interfaceKind) ∧
      ∃ ks : List Nat, ks.Pairwise (· ≤ ·) ∧ List.Forall₂ (fun k d => r.IsAway line k d.name) ks rest) ∧
    ∀ m bs, r.contains m = true → m ≠ WellKnown.object →
      ((∃ d ∈ r.hierarchy (.declared n args), d.name = m) ↔
        r.isAssignable (.declared n args) (.declared m bs) = true) := by
  refine ⟨nodup_hierarchy hk hs _ hi, ?_, ?_⟩
  · obtain ⟨rest, he, hkind, ks, hp, -, hf⟩ := spreads_hierarchy hk hs (.declared n args) hi
    exact ⟨_, rest, he, isLine_lineage hk _, hkind, ks, hp, hf⟩
  · intro m bs hc ho
    rw [isAssignable_declared_iff, or_iff_right ho]
    exact mem_hierarchy_iff hk hs hi hc

theorem implementsInterfaces_farm : farm.ImplementsInterfaces := by
  have h : ∀ d ∈ poultry, ∀ n ∈ headNames d.interfaces, ∀ e ∈ poultry, e.name = n →
      e.kind = .interfaceKind ∧ e.superclass = none := by decide
  intro n d hd t ht e he
  have hk : farm.IsKeyed := isKeyed_ofList _
  have hn : e.name ∈ headNames d.interfaces := List.mem_filterMap.2 ⟨t, ht, hk.declaredName?_erasure he⟩
  exact h d (mem_of_find?_ofList hd) e.name hn e (mem_of_find?_ofList (hk.find?_name he)) rfl

theorem namesSupertypes_farm : farm.NamesSupertypes := by
  have h : ∀ d ∈ poultry, d.NamesSupertypes := by decide
  exact fun n d hd => h d (mem_of_find?_ofList hd)

theorem hierarchy_lists_supertypes_farm :
    farm.IsKeyed ∧ farm.NamesSupertypes ∧ farm.ImplementsInterfaces ∧
    ∃ d ∈ farm.hierarchy (.raw "test.Hen"), d.name = "test.Animal" := by
  have hk : farm.IsKeyed := isKeyed_ofList _
  obtain ⟨-, -, hm⟩ := hierarchy_lists_supertypes hk namesSupertypes_farm implementsInterfaces_farm "test.Hen" []
  refine ⟨hk, namesSupertypes_farm, implementsInterfaces_farm, ?_⟩
  exact (hm "test.Animal" [] rfl (by decide)).2 (isAssignable_declared_iff.2 (.inr isAbove_animal_farm))

end ValueParcel.Registry
