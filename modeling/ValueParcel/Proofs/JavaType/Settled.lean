import ValueParcel.Proofs.JavaType.Descriptors

/-!
Where brackets settle. The descriptor of an array of bounded variables is that of a variable whose bound is an array, and
so it is read as that; every other array stays where it is.
-/

namespace ValueParcel.JavaType

/-! ## Settled types -/

mutual

/-- All names in the type are names of the grammar. -/
def IsNamed : JavaType → Prop
  | void | primitive _ => True
  | declared n args => IsClassName n ∧ IsNamedList args
  | array c => c.IsNamed
  | free n => IsVariableName n
  | bounded n b => IsVariableName n ∧ b.IsNamed

def IsNamedList : List JavaType → Prop
  | [] => True
  | t :: ts => t.IsNamed ∧ IsNamedList ts

end

instance (word : String) : Decidable (IsClassName word) :=
  have := List.decidableBAll (fun c => isNameChar c = true) word.toList
  inferInstanceAs (Decidable ((∀ c ∈ word.toList, isNameChar c = true) ∧ '.' ∈ word.toList))

instance (word : String) : Decidable (IsVariableName word) :=
  have := List.decidableBAll (fun c => isNameChar c = true) word.toList
  inferInstanceAs (Decidable (word ≠ "" ∧ (∀ c ∈ word.toList, isNameChar c = true) ∧ '.' ∉ word.toList ∧
    word ≠ "void" ∧ Primitive.ofKeyword? word = none))

mutual

def decideIsNamed : (t : JavaType) → Decidable t.IsNamed
  | void | primitive _ => .isTrue trivial
  | declared n args =>
    have := decideIsNamedList args
    inferInstanceAs (Decidable (IsClassName n ∧ IsNamedList args))
  | array c => decideIsNamed c
  | free n => inferInstanceAs (Decidable (IsVariableName n))
  | bounded n b =>
    have := decideIsNamed b
    inferInstanceAs (Decidable (IsVariableName n ∧ b.IsNamed))

def decideIsNamedList : (ts : List JavaType) → Decidable (IsNamedList ts)
  | [] => .isTrue trivial
  | t :: ts =>
    have := decideIsNamed t
    have := decideIsNamedList ts
    inferInstanceAs (Decidable (t.IsNamed ∧ IsNamedList ts))

end

instance (t : JavaType) : Decidable t.IsNamed := decideIsNamed t

mutual

/-- No array in the type has a bounded variable as its component. -/
def IsSettled : JavaType → Prop
  | void | primitive _ | free _ => True
  | declared _ args => IsSettledList args
  | array c => (∀ n b, c ≠ bounded n b) ∧ c.IsSettled
  | bounded _ b => b.IsSettled

def IsSettledList : List JavaType → Prop
  | [] => True
  | t :: ts => t.IsSettled ∧ IsSettledList ts

end

/-- A type with brackets behind it. Behind a bound they belong to the bound. -/
def bracketed : JavaType → JavaType
  | bounded n b => bounded n b.bracketed
  | t => array t

mutual

/-- The type with all brackets where its descriptor has them. -/
def settled : JavaType → JavaType
  | declared n args => declared n (settledList args)
  | array c => c.settled.bracketed
  | bounded n b => bounded n b.settled
  | t => t

def settledList : List JavaType → List JavaType
  | [] => []
  | t :: ts => t.settled :: settledList ts

end

theorem bracketed_of_not_bounded {t : JavaType} (h : ∀ n b, t ≠ bounded n b) : t.bracketed = array t := by
  cases t with
  | bounded n b => exact absurd rfl (h n b)
  | _ => rfl

theorem isSettled_bracketed {t : JavaType} (h : t.IsSettled) : t.bracketed.IsSettled := by
  fun_induction bracketed t with
  | case1 n b ih => exact ih h
  | case2 t hb => exact ⟨hb, h⟩

mutual

theorem isSettled_settled : (t : JavaType) → t.settled.IsSettled
  | .void | .primitive _ | .free _ => trivial
  | .declared _ args => isSettledList_settledList args
  | .array c => isSettled_bracketed (isSettled_settled c)
  | .bounded _ b => isSettled_settled b

theorem isSettledList_settledList : (ts : List JavaType) → IsSettledList (settledList ts)
  | [] => trivial
  | t :: ts => ⟨isSettled_settled t, isSettledList_settledList ts⟩

end

mutual

theorem settled_of_isSettled : (t : JavaType) → t.IsSettled → t.settled = t
  | .void, _ | .primitive _, _ | .free _, _ => rfl
  | .declared _ args, h => by rw [settled, settledList_of_isSettledList args h]
  | .array c, h => by rw [settled, settled_of_isSettled c h.2, bracketed_of_not_bounded h.1]
  | .bounded _ b, h => by rw [settled, settled_of_isSettled b h]

theorem settledList_of_isSettledList : (ts : List JavaType) → IsSettledList ts → settledList ts = ts
  | [], _ => rfl
  | t :: ts, h => by rw [settledList, settled_of_isSettled t h.1, settledList_of_isSettledList ts h.2]

end

theorem settled_eq_self_iff {t : JavaType} : t.settled = t ↔ t.IsSettled := by
  constructor
  · intro h
    have hs := isSettled_settled t
    rwa [h] at hs
  · exact settled_of_isSettled t

instance (t : JavaType) : Decidable t.IsSettled := decidable_of_iff (t.settled = t) settled_eq_self_iff

/-! ## Reading settles -/

theorem wellFormed_bracketed {t : JavaType} (h : t.WellFormed) : t.bracketed.WellFormed := by
  fun_induction bracketed t with
  | case1 n b ih => exact ⟨h.1, ih h.2⟩
  | case2 t hb => exact ⟨hb, h⟩

theorem descriptor_bracketed (t : JavaType) : t.bracketed.descriptor = t.descriptor ++ "[]" := by
  fun_induction bracketed t with
  | case1 n b ih => simp only [descriptor, ih, String.append_assoc]
  | case2 t hb => rfl

mutual

theorem IsNamed.wellFormed_settled : (t : JavaType) → t.IsNamed → t.settled.WellFormed
  | .void, _ | .primitive _, _ => trivial
  | .free _, h => h
  | .declared _ args, h => ⟨h.1, IsNamedList.wellFormed_settledList args h.2⟩
  | .array c, h => wellFormed_bracketed (IsNamed.wellFormed_settled c h)
  | .bounded _ b, h => ⟨h.1, IsNamed.wellFormed_settled b h.2⟩

theorem IsNamedList.wellFormed_settledList : (ts : List JavaType) → IsNamedList ts → WellFormedList (settledList ts)
  | [], _ => trivial
  | t :: ts, h => ⟨IsNamed.wellFormed_settled t h.1, IsNamedList.wellFormed_settledList ts h.2⟩

end

mutual

theorem descriptor_settled : (t : JavaType) → t.settled.descriptor = t.descriptor
  | .void | .primitive _ | .free _ => rfl
  | .declared _ args => by rw [settled, descriptor, descriptor, descriptorList_settledList args]
  | .array c => by rw [settled, descriptor_bracketed, descriptor_settled c, descriptor]
  | .bounded _ b => by rw [settled, descriptor, descriptor, descriptor_settled b]

theorem descriptorList_settledList : (ts : List JavaType) → descriptorList (settledList ts) = descriptorList ts
  | [] => rfl
  | t :: ts => by rw [settledList, descriptorList, descriptorList, descriptor_settled t, descriptorList_settledList ts]

end

/-- What a descriptor stands for is the type with its brackets settled. -/
theorem IsNamed.read_descriptor {t : JavaType} (h : t.IsNamed) : read t.descriptor = .ok t.settled := by
  rw [← descriptor_settled, read_eq_ok_iff]
  exact names_descriptor (h.wellFormed_settled t)

end ValueParcel.JavaType
