import Mathlib.Data.Set.Basic
import ValueParcel.Encoding.Classification
import ValueParcel.Proofs.Registry.Registering
import ValueParcel.Proofs.Registry.Searches

/-!
Registries that agree on a set of names. Where no declaration in the set leads out of it, every search through the
supertypes of a type within the set takes the same course in both registries.
-/

namespace ValueParcel

/-! ## The names in types and declarations -/

namespace JavaType

mutual

/-- The declared names that occur in a type, at any depth. -/
def mentions : JavaType → List String
  | void | primitive _ | free _ => []
  | declared n args => n :: mentionsOfList args
  | array c => c.mentions
  | bounded _ b => b.mentions

def mentionsOfList : List JavaType → List String
  | [] => []
  | t :: ts => t.mentions ++ mentionsOfList ts

end

theorem mem_mentionsOfList {ts : List JavaType} {n : String} :
    n ∈ mentionsOfList ts ↔ ∃ t ∈ ts, n ∈ t.mentions := by
  induction ts with
  | nil => simp [mentionsOfList]
  | cons t ts ih => simp [mentionsOfList, ih]

/-- Every declared name in the type is in the set. -/
def Within (S : Set String) (t : JavaType) : Prop := ∀ n ∈ t.mentions, n ∈ S

variable {S : Set String}

theorem within_declared {n : String} {args : List JavaType} :
    (declared n args).Within S ↔ n ∈ S ∧ ∀ t ∈ args, t.Within S := by
  simp only [Within, mentions, List.forall_mem_cons, mem_mentionsOfList]
  grind

theorem Within.resolve {t : JavaType} (h : t.Within S) : t.resolve.Within S := by
  induction t using resolve.induct with
  | case1 _ b ih => exact ih h
  | case2 t _ => rwa [resolve.eq_2 t ‹_›]

theorem Within.erasure (ho : WellKnown.object ∈ S) {t : JavaType} (h : t.Within S) : t.erasure.Within S := by
  fun_induction JavaType.erasure t with
  | case1 | case2 => exact h
  | case3 n args => exact within_declared.2 ⟨(within_declared.1 h).1, nofun⟩
  | case4 c ih => exact ih h
  | case5 => exact within_declared.2 ⟨ho, nofun⟩
  | case6 _ b ih => exact ih h

theorem Within.declaredName? {t : JavaType} (h : t.Within S) {n : String} (hn : t.declaredName? = some n) : n ∈ S := by
  cases t with
  | declared m args =>
      cases hn
      exact (within_declared.1 h).1
  | _ => cases hn

end JavaType

namespace Declaration

/-- The types of the fields, and of the results and parameters of the methods. -/
def memberTypes (d : Declaration) : List JavaType :=
  d.fields.map (·.type) ++ d.methods.flatMap fun m => m.returnType :: m.parameters.map (·.type)

/-- The declared names in the superclass, written or implied, in the interfaces and in the types of the members. -/
def mentions (d : Declaration) : List String :=
  JavaType.mentionsOfList (d.superclass?.toList ++ d.interfaces ++ d.memberTypes)

end Declaration

namespace Registry

/-- No declaration under a name in the set leads out of it. -/
structure IsClosed (r : Registry) (S : Set String) : Prop where
  object_mem : WellKnown.object ∈ S
  name_mem : ∀ n ∈ S, ∀ d, r.find? n = some d → d.name ∈ S
  mentions_subset : ∀ n ∈ S, ∀ d, r.find? n = some d → ∀ m ∈ d.mentions, m ∈ S

/-- The registries have the same declarations under the names in the set. -/
def AgreeOn (S : Set String) (r s : Registry) : Prop := ∀ n ∈ S, r.find? n = s.find? n

/-- The registry has the declaration under a name in the set. -/
def HasWithin (r : Registry) (S : Set String) (d : Declaration) : Prop := ∃ n ∈ S, r.find? n = some d

variable {S : Set String} {r s : Registry}

theorem AgreeOn.register {e : Declaration} (h : e.name ∉ S) : AgreeOn S r (r.register e) := by
  intro n hn
  have he : n ≠ e.name := fun hne => h (hne ▸ hn)
  rw [find?_register, if_neg he]

theorem isClosed_ofList {ds : List Declaration} {names : List String} (ho : WellKnown.object ∈ names)
    (h : ∀ d ∈ ds, d.name ∈ names ∧ ∀ m ∈ d.mentions, m ∈ names) : (ofList ds).IsClosed {n | n ∈ names} where
  object_mem := ho
  name_mem _ _ d hd := (h d (mem_of_find?_ofList hd)).1
  mentions_subset _ _ d hd := (h d (mem_of_find?_ofList hd)).2

theorem hasWithin_of_declaration? {t : JavaType} {d : Declaration} (ht : t.Within S) (hd : r.declaration? t = some d) :
    r.HasWithin S d := by
  fun_induction declaration? r t with
  | case1 n args => exact ⟨n, (JavaType.within_declared.1 ht).1, hd⟩
  | case2 _ b ih => exact ih ht hd
  | case3 => cases hd

section Closed

variable (hc : r.IsClosed S) {d : Declaration} (hd : r.HasWithin S d)

include hc hd

theorem IsClosed.within {t : JavaType} (ht : t ∈ d.superclass?.toList ++ d.interfaces ++ d.memberTypes) :
    t.Within S := by
  obtain ⟨n, hn, hd⟩ := hd
  intro m hm
  exact hc.mentions_subset n hn d hd m (JavaType.mem_mentionsOfList.2 ⟨t, ht, hm⟩)

theorem IsClosed.within_superclass {t : JavaType} (ht : d.superclass? = some t) : t.Within S :=
  hc.within hd (by simp [ht])

theorem IsClosed.within_interface {t : JavaType} (ht : t ∈ d.interfaces) : t.Within S :=
  hc.within hd (by simp [ht])

theorem IsClosed.within_name : (JavaType.raw d.name).Within S := by
  obtain ⟨n, hn, hd⟩ := hd
  exact JavaType.within_declared.2 ⟨hc.name_mem n hn d hd, nofun⟩

theorem IsClosed.mem_of_supertypeNames {n : String} (hn : n ∈ d.supertypeNames) : n ∈ S := by
  obtain ⟨t, ht, hn⟩ := List.mem_filterMap.1 hn
  have hw : t.Within S := by
    rcases List.mem_append.1 ht with ht | ht
    · exact hc.within_interface hd ht
    · exact hc.within_superclass hd (by simpa using ht)
  exact (hw.erasure hc.object_mem).declaredName? hn

end Closed

theorem IsClosed.within_superclass? (hc : r.IsClosed S) {t u : JavaType} (ht : t.Within S)
    (hu : r.superclass? t = some u) : u.Within S := by
  obtain ⟨d, hd, hs⟩ := Option.bind_eq_some_iff.1 hu
  exact hc.within_superclass (hasWithin_of_declaration? ht hd) hs

theorem IsClosed.hasWithin_of_mem_lineageFrom (hc : r.IsClosed S) {seen : List String} {t : JavaType}
    (ht : t.Within S) : ∀ d ∈ r.lineageFrom seen t, r.HasWithin S d := by
  fun_induction lineageFrom r seen t with
  | case1 | case2 => nofun
  | case3 seen t d hd hs ih =>
      have hw := hasWithin_of_declaration? ht hd
      rw [List.forall_mem_cons]
      refine ⟨hw, ?_⟩
      cases hu : d.superclass? with
      | none => nofun
      | some u => exact ih u (hc.within_superclass hw hu)

/-! ## Searches -/

section Agree

variable (hc : r.IsClosed S) (ha : AgreeOn S r s)

include ha in
theorem AgreeOn.declaration? {t : JavaType} (ht : t.Within S) : r.declaration? t = s.declaration? t := by
  fun_induction Registry.declaration? r t with
  | case1 n args => exact ha n (JavaType.within_declared.1 ht).1
  | case2 _ b ih => exact ih ht
  | case3 t hd hb => rw [Registry.declaration?.eq_3 s t hd hb]

include ha in
theorem AgreeOn.superclass? {t : JavaType} (ht : t.Within S) : r.superclass? t = s.superclass? t := by
  rw [Registry.superclass?, Registry.superclass?, ha.declaration? ht]

include hc ha

theorem lineageFrom_congr {seen : List String} {t : JavaType} (ht : t.Within S) :
    r.lineageFrom seen t = s.lineageFrom seen t := by
  fun_induction lineageFrom r seen t with
  | case1 seen t hd => rw [lineageFrom_eq, ← ha.declaration? ht, hd]
  | case2 seen t d hd hs =>
      rw [lineageFrom_eq, ← ha.declaration? ht, hd]
      simp only [hs, ↓reduceIte]
  | case3 seen t d hd hs ih =>
      have hw := hasWithin_of_declaration? ht hd
      rw [lineageFrom_eq s, ← ha.declaration? ht, hd]
      simp only [hs, ↓reduceIte]
      cases hu : d.superclass? with
      | none => rfl
      | some u => exact congrArg _ (ih u (hc.within_superclass hw hu))

theorem interfacesFrom_congr {seen : List String} {queue : List JavaType} (hq : ∀ t ∈ queue, t.Within S) :
    r.interfacesFrom seen queue = s.interfacesFrom seen queue := by
  fun_induction interfacesFrom r seen queue with
  | case1 => rw [interfacesFrom]
  | case2 seen t queue hd ih =>
      rw [List.forall_mem_cons] at hq
      rw [interfacesFrom_cons, ← ha.declaration? hq.1, hd]
      exact ih hq.2
  | case3 seen t queue d hd hs ih =>
      rw [List.forall_mem_cons] at hq
      rw [interfacesFrom_cons, ← ha.declaration? hq.1, hd]
      simp only [hs, ↓reduceIte, ih hq.2]
  | case4 seen t queue d hd hs ih =>
      rw [List.forall_mem_cons] at hq
      have hw := hasWithin_of_declaration? hq.1 hd
      have hi : ∀ t ∈ queue ++ d.interfaces, t.Within S :=
        List.forall_mem_append.2 ⟨hq.2, fun t ht => hc.within_interface hw ht⟩
      rw [interfacesFrom_cons, ← ha.declaration? hq.1, hd]
      simp only [hs, ↓reduceIte, ih hi]

theorem preorderFrom_congr {seen : List String} {todo : List JavaType} (hq : ∀ t ∈ todo, t.Within S) :
    r.preorderFrom seen todo = s.preorderFrom seen todo := by
  fun_induction preorderFrom r seen todo with
  | case1 => rw [preorderFrom]
  | case2 seen t todo hd ih =>
      rw [List.forall_mem_cons] at hq
      rw [preorderFrom_cons, ← ha.declaration? hq.1, hd]
      exact ih hq.2
  | case3 seen t todo d hd hs ih =>
      rw [List.forall_mem_cons] at hq
      rw [preorderFrom_cons, ← ha.declaration? hq.1, hd]
      simp only [hs, ↓reduceIte, ih hq.2]
  | case4 seen t todo d hd hs ih =>
      rw [List.forall_mem_cons] at hq
      have hw := hasWithin_of_declaration? hq.1 hd
      have hn : r.superclass? (.raw d.name) = s.superclass? (.raw d.name) := ha.superclass? (hc.within_name hw)
      have hi : ∀ t ∈ d.interfaces ++ (r.superclass? (.raw d.name)).toList ++ todo, t.Within S := by
        rw [List.forall_mem_append, List.forall_mem_append]
        refine ⟨⟨fun t ht => hc.within_interface hw ht, ?_⟩, hq.2⟩
        intro t ht
        exact hc.within_superclass? (hc.within_name hw) (Option.mem_toList.1 ht)
      rw [preorderFrom_cons, ← ha.declaration? hq.1, hd]
      simp only [hs, ↓reduceIte, ← hn, ih hi]

theorem reaches_congr {target : String} {seen todo : List String} (hq : ∀ n ∈ todo, n ∈ S) :
    r.reaches target seen todo = s.reaches target seen todo := by
  fun_induction reaches r target seen todo with
  | case1 => rw [reaches]
  | case2 seen todo => rw [reaches_cons, if_pos rfl]
  | case3 seen n todo hn hd ih =>
      rw [List.forall_mem_cons] at hq
      rw [reaches_cons, if_neg hn, ← ha n hq.1, hd]
      exact ih hq.2
  | case4 seen n todo hn d hd hs ih =>
      rw [List.forall_mem_cons] at hq
      rw [reaches_cons, if_neg hn, ← ha n hq.1, hd]
      simp only [hs, ↓reduceIte, ih hq.2]
  | case5 seen n todo hn d hd hs ih =>
      rw [List.forall_mem_cons] at hq
      have hi : ∀ m ∈ d.supertypeNames ++ todo, m ∈ S :=
        List.forall_mem_append.2 ⟨fun m hm => hc.mem_of_supertypeNames ⟨n, hq.1, hd⟩ hm, hq.2⟩
      rw [reaches_cons, if_neg hn, ← ha n hq.1, hd]
      simp only [hs, ↓reduceIte, ih hi]

theorem lineageNamesFrom_congr {seen : List String} {n : String} (hn : n ∈ S) :
    r.lineageNamesFrom seen n = s.lineageNamesFrom seen n := by
  induction seen, n using lineageNamesFrom.induct r with
  | case1 seen n hs => rw [lineageNamesFrom_eq, lineageNamesFrom_eq, if_pos hs, if_pos hs]
  | case2 seen n hs ih =>
      have hw : (JavaType.raw n).Within S := JavaType.within_declared.2 ⟨hn, nofun⟩
      rw [lineageNamesFrom_eq r, lineageNamesFrom_eq s, if_neg hs, if_neg hs, ← ha.superclass? hw]
      cases hm : (r.superclass? (.raw n)).bind (·.erasure.declaredName?) with
      | none => rfl
      | some m =>
          obtain ⟨u, hu, hm⟩ := Option.bind_eq_some_iff.1 hm
          obtain ⟨d, hd, -⟩ := Option.bind_eq_some_iff.1 hu
          have hmS : m ∈ S := ((hc.within_superclass? hw hu).erasure hc.object_mem).declaredName? hm
          exact congrArg _ (ih d hd m hmS)

/-! ## Questions -/

theorem hierarchy_congr {t : JavaType} (ht : t.Within S) : r.hierarchy t = s.hierarchy t := by
  have hl : r.lineage t = s.lineage t := lineageFrom_congr hc ha ht
  have hi : ∀ u ∈ (r.lineage t).flatMap (·.interfaces), u.Within S := by
    intro u hu
    obtain ⟨d, hd, hu⟩ := List.mem_flatMap.1 hu
    exact hc.within_interface (hc.hasWithin_of_mem_lineageFrom ht d hd) hu
  rw [hierarchy, hierarchy, ← hl, interfacesFrom_congr hc ha hi]

theorem methods_congr {t : JavaType} (ht : t.Within S) : r.methods t = s.methods t := by
  rw [methods, methods, hierarchy_congr hc ha ht]

theorem fields_congr {t : JavaType} (ht : t.Within S) : r.fields t = s.fields t := by
  rw [fields, fields, hierarchy_congr hc ha ht]

theorem assignable_congr {t u : JavaType} (ht : t.Within S) : r.assignable t u = s.assignable t u := by
  fun_induction assignable r t u with
  | case1 k l => rw [assignable]
  | case2 t u ih => rw [assignable, ih ht]
  | case3 t n args => rw [assignable]
  | case4 n as m bs =>
      have hn : ∀ k ∈ [n], k ∈ S := by simpa using (JavaType.within_declared.1 ht).1
      rw [assignable, reaches_congr hc ha hn]
  | case5 t u hp hs hd hn => rw [assignable.eq_5 s t u hp hs hd hn]

theorem isAssignable_congr {t u : JavaType} (ht : t.Within S) : r.isAssignable t u = s.isAssignable t u :=
  assignable_congr hc ha (ht.erasure hc.object_mem)

theorem extendsClass_congr {t : JavaType} (ht : t.Within S) (name : String) :
    r.extendsClass t name = s.extendsClass t name := by
  rw [extendsClass, extendsClass]
  cases hn : t.erasure.declaredName? with
  | none => rfl
  | some n =>
      have hnS : n ∈ S := (ht.erasure hc.object_mem).declaredName? hn
      simp only [lineageNamesFrom_congr hc ha hnS]

theorem familyOfDeclared_congr {t : JavaType} (ht : t.Within S) : r.familyOfDeclared t = s.familyOfDeclared t := by
  have hp : r.promote t = s.promote t := by
    funext kind f
    simp only [promote, extendsClass_congr hc ha ht]
  have hf : r.familyAbove t = s.familyAbove t := by
    rw [familyAbove, familyAbove, preorder, preorder, preorderFrom_congr hc ha (by simpa using ht)]
  rw [familyOfDeclared, familyOfDeclared, ha.declaration? ht, hf, hp]

end Agree

mutual

theorem validate_congr (hc : r.IsClosed S) (ha : AgreeOn S r s) :
    (t : JavaType) → t.Within S → r.validate t = s.validate t
  | .void, _ | .primitive _, _ | .free _, _ => by rw [validate, validate]
  | .bounded _ b, h => by rw [validate, validate, validate_congr hc ha b h]
  | .array c, h => by rw [validate, validate, validate_congr hc ha c h]
  | .declared n args, h => by
      have hl := validateList_congr hc ha args (JavaType.within_declared.1 h).2
      have hf := familyOfDeclared_congr hc ha h
      rcases args with _ | ⟨k, _ | ⟨v, _ | ⟨w, rest⟩⟩⟩
      · simp only [validate, hf]
      · simp only [validate, hf]
      · have hv : r.validate v = s.validate v := hl v (by simp)
        simp only [validate, hf, hv]
      · simp only [validate, hf]

theorem validateList_congr (hc : r.IsClosed S) (ha : AgreeOn S r s) :
    (ts : List JavaType) → (∀ t ∈ ts, t.Within S) → ∀ t ∈ ts, r.validate t = s.validate t
  | [], _ => nofun
  | t :: ts, h => by
      rw [List.forall_mem_cons] at h ⊢
      exact ⟨validate_congr hc ha t h.1, validateList_congr hc ha ts h.2⟩

end

end Registry

end ValueParcel
