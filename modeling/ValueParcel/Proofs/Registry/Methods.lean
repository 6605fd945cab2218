import Mathlib.Data.List.Flatten
import Mathlib.Data.List.Induction
import Mathlib.Data.List.Nodup
import ValueParcel.Registry.Hierarchy

/-!
The methods of a type: of each signature the first that its hierarchy declares, in the order of the hierarchy. Static
methods count in the type itself only.
-/

namespace ValueParcel.Registry

variable {line below above : List Declaration} {d : Declaration} {m : Method}

/-! ## Declarations of a signature -/

/-- A method counts where a hierarchy has `below` it: a static one only where that is nothing. -/
def Counts (below : List Declaration) (m : Method) : Prop := below = [] ∨ m.isStatic = false

instance (below : List Declaration) (m : Method) : Decidable (Counts below m) := inferInstanceAs (Decidable (_ ∨ _))

/-- A hierarchy declares the signature by a method that counts. -/
def Declares (line : List Declaration) (s : String × List JavaType) : Prop :=
  ∃ below d above, line = below ++ d :: above ∧ ∃ m ∈ d.methods, Counts below m ∧ m.signature = s

theorem not_declares_nil (s : String × List JavaType) : ¬ Declares [] s := by
  rintro ⟨below, d, above, hl, -⟩
  simp at hl

/-- In a hierarchy, `m` of `d` is the first method of its signature that counts. -/
def IsFirst (line : List Declaration) (d : Declaration) (m : Method) : Prop :=
  ∃ below above earlier later, line = below ++ d :: above ∧ d.methods = earlier ++ m :: later ∧ Counts below m ∧
    ¬ Declares below m.signature ∧ ∀ k ∈ earlier, Counts below k → k.signature ≠ m.signature

/-! ## The methods in order -/

/-- Where two lists make up one with `x` in it, `x` is in the first or in the second. -/
theorem split_of_append_eq {α : Type} {as bs before after : List α} {x : α} (h : as ++ bs = before ++ x :: after) :
    (∃ rest, as = before ++ x :: rest) ∨ ∃ rest, before = as ++ rest ∧ bs = rest ++ x :: after := by
  rcases List.append_eq_append_iff.1 h with ⟨rest, hb, ha⟩ | ⟨rest, ha, hb⟩
  · exact .inr ⟨rest, hb, ha⟩
  · cases rest with
    | nil => exact .inr ⟨[], by simpa using ha.symm, by simpa using hb.symm⟩
    | cons y rest =>
        obtain ⟨rfl, -⟩ := List.cons.inj hb
        exact .inl ⟨rest, ha⟩

def counted (below : List Declaration) (ms : List Method) : List Method := ms.filter (Counts below ·)

theorem counted_append (below : List Declaration) (ms ks : List Method) :
    counted below (ms ++ ks) = counted below ms ++ counted below ks := List.filter_append ms ks

theorem methodsInOrder_append_cons (below : List Declaration) (d : Declaration) (above : List Declaration) :
    methodsInOrder (below ++ d :: above) = methodsInOrder below ++ ((counted below d.methods).map (d, ·) ++
      above.flatMap fun e => (e.methods.filter (!·.isStatic)).map (e, ·)) := by
  cases below with
  | nil =>
      have hc : counted [] d.methods = d.methods := List.filter_eq_self.2 (by simp [Counts])
      rw [hc]
      rfl
  | cons c below => simp [methodsInOrder, counted, Counts]

theorem methodsInOrder_concat (line : List Declaration) (d : Declaration) :
    methodsInOrder (line ++ [d]) = methodsInOrder line ++ (counted line d.methods).map (d, ·) := by
  simp [methodsInOrder_append_cons]

/-- A method in the list stands at a declaration of the hierarchy, behind all that count before it. -/
theorem exists_of_methodsInOrder {before after : List (Declaration × Method)}
    (h : methodsInOrder line = before ++ (d, m) :: after) :
    ∃ below above earlier later, line = below ++ d :: above ∧ d.methods = earlier ++ m :: later ∧ Counts below m ∧
      before = methodsInOrder below ++ (counted below earlier).map (d, ·) := by
  induction line using List.reverseRecOn generalizing after with
  | nil => simp [methodsInOrder] at h
  | append_singleton line c ih =>
      rw [methodsInOrder_concat] at h
      rcases split_of_append_eq h with ⟨rest, hl⟩ | ⟨rest, rfl, hr⟩
      · obtain ⟨below, above, earlier, later, rfl, hd, hm, hb⟩ := ih hl
        exact ⟨below, above ++ [c], earlier, later, by simp, hd, hm, hb⟩
      · obtain ⟨ms, ks, hc, rfl, hk⟩ := List.map_eq_append_iff.1 hr
        obtain ⟨k, ks, rfl, he, -⟩ := List.map_eq_cons_iff.1 hk
        cases he
        obtain ⟨earlier, later, hd, rfl, hl⟩ := List.filter_eq_append_iff.1 hc
        obtain ⟨skipped, later, rfl, hs, hm, -⟩ := List.filter_eq_cons_iff.1 hl
        have hn : counted line skipped = [] := List.filter_eq_nil_iff.2 hs
        refine ⟨line, [], earlier ++ skipped, later, rfl, by simpa using hd, by simpa using hm, ?_⟩
        rw [counted_append, hn, List.append_nil]
        rfl

theorem methodsInOrder_of_split {earlier later : List Method} (above : List Declaration)
    (hd : d.methods = earlier ++ m :: later) (hm : Counts below m) :
    ∃ after, methodsInOrder (below ++ d :: above) =
      (methodsInOrder below ++ (counted below earlier).map (d, ·)) ++ (d, m) :: after := by
  have hc : counted below d.methods = counted below earlier ++ m :: counted below later := by
    rw [hd, counted_append, counted, counted, List.filter_cons_of_pos (by simpa using hm)]
    rfl
  rw [methodsInOrder_append_cons, hc, List.map_append, List.map_cons, List.append_assoc]
  exact ⟨_, (List.append_assoc ..).symm⟩

theorem mem_methodsInOrder :
    (d, m) ∈ methodsInOrder line ↔ ∃ below above, line = below ++ d :: above ∧ m ∈ d.methods ∧ Counts below m := by
  constructor
  · intro h
    obtain ⟨before, after, h⟩ := List.append_of_mem h
    obtain ⟨below, above, earlier, later, hl, hd, hm, -⟩ := exists_of_methodsInOrder h
    exact ⟨below, above, hl, by simp [hd], hm⟩
  · rintro ⟨below, above, rfl, hd, hm⟩
    obtain ⟨earlier, later, hd⟩ := List.append_of_mem hd
    obtain ⟨after, h⟩ := methodsInOrder_of_split above hd hm
    exact h ▸ List.mem_append_right _ (List.mem_cons_self ..)

theorem declares_iff {s : String × List JavaType} :
    Declares line s ↔ ∃ x ∈ methodsInOrder line, x.2.signature = s := by
  constructor
  · rintro ⟨below, d, above, hl, m, hd, hm, hs⟩
    exact ⟨(d, m), mem_methodsInOrder.2 ⟨below, above, hl, hd, hm⟩, hs⟩
  · rintro ⟨⟨d, m⟩, h, hs⟩
    obtain ⟨below, above, hl, hd, hm⟩ := mem_methodsInOrder.1 h
    exact ⟨below, d, above, hl, m, hd, hm, hs⟩

theorem methodsInOrder_sublist (line : List Declaration) :
    (methodsInOrder line).Sublist (line.flatMap fun d => d.methods.map (d, ·)) := by
  cases line with
  | nil => exact .slnil
  | cons d above =>
      rw [methodsInOrder, List.flatMap_cons]
      refine List.Sublist.append (List.Sublist.refl _) (List.Sublist.flatMap_right above ?_)
      exact fun e _ => List.filter_sublist.map _

/-! ## The first of each signature -/

section First

variable {seen : List (String × List JavaType)} {ms : List (Declaration × Method)} {x : Declaration × Method}

theorem mem_firstOfSignature : x ∈ firstOfSignature seen ms ↔ ∃ before after, ms = before ++ x :: after ∧
    x.2.signature ∉ seen ∧ ∀ y ∈ before, y.2.signature ≠ x.2.signature := by
  fun_induction firstOfSignature seen ms with
  | case1 => simp
  | case2 seen d m rest h ih =>
      rw [ih]
      constructor
      · rintro ⟨before, after, rfl, hx, hb⟩
        refine ⟨(d, m) :: before, after, rfl, hx, List.forall_mem_cons.2 ⟨?_, hb⟩⟩
        exact fun he => hx (he ▸ h)
      · rintro ⟨before, after, he, hx, hb⟩
        cases before with
        | nil =>
            cases he
            exact absurd h hx
        | cons y before =>
            obtain ⟨rfl, rfl⟩ := List.cons.inj he
            exact ⟨before, after, rfl, hx, (List.forall_mem_cons.1 hb).2⟩
  | case3 seen d m rest h ih =>
      rw [List.mem_cons, ih]
      constructor
      · rintro (rfl | ⟨before, after, rfl, hx, hb⟩)
        · exact ⟨[], rest, rfl, h, List.forall_mem_nil _⟩
        · rw [List.mem_cons, not_or] at hx
          exact ⟨(d, m) :: before, after, rfl, hx.2, List.forall_mem_cons.2 ⟨Ne.symm hx.1, hb⟩⟩
      · rintro ⟨before, after, he, hx, hb⟩
        cases before with
        | nil =>
            cases he
            exact .inl rfl
        | cons y before =>
            obtain ⟨rfl, rfl⟩ := List.cons.inj he
            obtain ⟨hy, hb⟩ := List.forall_mem_cons.1 hb
            exact .inr ⟨before, after, rfl, List.not_mem_cons_of_ne_of_not_mem (Ne.symm hy) hx, hb⟩

theorem firstOfSignature_sublist : (firstOfSignature seen ms).Sublist ms := by
  fun_induction firstOfSignature seen ms with
  | case1 => exact .slnil
  | case2 seen d m rest h ih => exact ih.cons _
  | case3 seen d m rest h ih => exact ih.cons_cons _

theorem nodup_firstOfSignature : ((firstOfSignature seen ms).map (·.2.signature)).Nodup := by
  fun_induction firstOfSignature seen ms with
  | case1 => exact .nil
  | case2 seen d m rest h ih => exact ih
  | case3 seen d m rest h ih =>
      refine List.nodup_cons.2 ⟨?_, ih⟩
      intro hm
      obtain ⟨x, hx, he⟩ := List.mem_map.1 hm
      obtain ⟨-, -, -, hs, -⟩ := mem_firstOfSignature.1 hx
      exact hs (he ▸ List.mem_cons_self ..)

end First

variable {r : Registry} {t : JavaType}

/-- The methods of a type are the first of their signatures. -/
theorem mem_methods_iff : (d, m) ∈ r.methods t ↔ IsFirst (r.hierarchy t) d m := by
  rw [methods, mem_firstOfSignature]
  constructor
  · rintro ⟨before, after, h, -, hb⟩
    obtain ⟨below, above, earlier, later, hl, hd, hm, rfl⟩ := exists_of_methodsInOrder h
    rw [List.forall_mem_append] at hb
    refine ⟨below, above, earlier, later, hl, hd, hm, ?_, ?_⟩
    · intro hs
      obtain ⟨x, hx, he⟩ := declares_iff.1 hs
      exact hb.1 x hx he
    · intro k hk hc
      exact hb.2 (d, k) (List.mem_map_of_mem (List.mem_filter.2 ⟨hk, by simpa using hc⟩))
  · rintro ⟨below, above, earlier, later, hl, hd, hm, hs, hk⟩
    obtain ⟨after, h⟩ := methodsInOrder_of_split above hd hm
    refine ⟨_, after, hl ▸ h, List.not_mem_nil, ?_⟩
    rw [List.forall_mem_append]
    refine ⟨fun y hy he => hs (declares_iff.2 ⟨y, hy, he⟩), ?_⟩
    intro y hy
    obtain ⟨k, hm, rfl⟩ := List.mem_map.1 hy
    obtain ⟨hm, hc⟩ := List.mem_filter.1 hm
    exact hk k hm (by simpa using hc)

/-- They stand in the order in which the hierarchy declares them. -/
theorem methods_sublist (r : Registry) (t : JavaType) :
    (r.methods t).Sublist ((r.hierarchy t).flatMap fun d => d.methods.map (d, ·)) :=
  firstOfSignature_sublist.trans (methodsInOrder_sublist _)

theorem nodup_methods (r : Registry) (t : JavaType) : ((r.methods t).map (·.2.signature)).Nodup :=
  nodup_firstOfSignature

/-- No two of them have one signature. -/
theorem eq_of_mem_methods {x y : Declaration × Method} (hx : x ∈ r.methods t) (hy : y ∈ r.methods t)
    (h : x.2.signature = y.2.signature) : x = y :=
  List.inj_on_of_nodup_map (nodup_methods r t) hx hy h

/-- A declaration of a signature that none below it declares has the first method of that signature. -/
theorem exists_isFirst (hl : line = below ++ d :: above) (hm : m ∈ d.methods) (hc : Counts below m)
    (hs : ¬ Declares below m.signature) : ∃ k, IsFirst line d k ∧ k.signature = m.signature := by
  have hf : (d.methods.find? fun k => Counts below k ∧ k.signature = m.signature).isSome :=
    List.find?_isSome.2 ⟨m, hm, by simp [hc]⟩
  obtain ⟨k, hk⟩ := Option.isSome_iff_exists.1 hf
  obtain ⟨hp, earlier, later, hd, he⟩ := List.find?_eq_some_iff_append.1 hk
  obtain ⟨hc, hks⟩ := of_decide_eq_true hp
  refine ⟨k, ⟨below, above, earlier, later, hl, hd, hc, hks ▸ hs, ?_⟩, hks⟩
  intro j hj hcj hjs
  simpa [hcj, hjs, hks] using he j hj

/-- What comes before a method of its own signature stands in a nearer class, or in the same one before it. -/
theorem nearer_of_isFirst {front back : List Declaration} {c e : Declaration} {k : Method}
    (hf : IsFirst (front ++ e :: back) c k) (hm : m ∈ e.methods) (hc : Counts front m) (hs : m.signature = k.signature)
    (hne : m ≠ k) : (∃ c ∈ front, k ∈ c.methods) ∨ [k, m].Sublist e.methods := by
  obtain ⟨below, above, earlier, later, hl, hd, -, hn, hk⟩ := hf
  rcases split_of_append_eq hl with ⟨rest, rfl⟩ | ⟨rest, rfl, hr⟩
  · exact .inl ⟨c, by simp, by simp [hd]⟩
  · cases rest with
    | nil =>
        obtain ⟨rfl, -⟩ := List.cons.inj hr
        rw [hd, List.mem_append, List.mem_cons] at hm
        have he : m ∉ earlier := fun he => hk m he (by simpa using hc) hs
        have hm := (hm.resolve_left he).resolve_left hne
        rw [hd]
        exact .inr ((List.Sublist.cons_cons k (List.singleton_sublist.2 hm)).trans (List.sublist_append_right ..))
    | cons e' rest =>
        obtain ⟨rfl, -⟩ := List.cons.inj hr
        exact absurd ⟨front, e, rest, rfl, m, hm, hc, hs⟩ hn

end ValueParcel.Registry
