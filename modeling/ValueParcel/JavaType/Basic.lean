import ValueParcel.JavaType.Primitive
import ValueParcel.WellKnown

/-! Static types of Java, as they stand in declarations. -/

namespace ValueParcel

inductive JavaType
  | void
  | primitive (kind : Primitive)
  /-- A class, an interface or an enum by its qualified name, with its type arguments, if any. -/
  | declared (name : String) (args : List JavaType)
  | array (component : JavaType)
  /-- A type variable without a bound. -/
  | free (name : String)
  /-- A type variable with an upper bound. -/
  | bounded (name : String) (bound : JavaType)
  deriving Repr

namespace JavaType

instance : Inhabited JavaType := ⟨void⟩

mutual

def same : JavaType → JavaType → Bool
  | void, void => true
  | primitive k, primitive l => k = l
  | declared n as, declared m bs => n = m && sameList as bs
  | array s, array t => s.same t
  | free n, free m => n = m
  | bounded n s, bounded m t => n = m && s.same t
  | _, _ => false

def sameList : List JavaType → List JavaType → Bool
  | [], [] => true
  | s :: ss, t :: ts => s.same t && sameList ss ts
  | _, _ => false

end

mutual

theorem eq_of_same {s t : JavaType} (h : s.same t = true) : s = t := by
  match s, t with
  | void, void => rfl
  | primitive _, primitive _ => simpa [same] using h
  | declared _ _, declared _ _ =>
    simp only [same, Bool.and_eq_true, decide_eq_true_eq] at h
    rw [h.1, eq_of_sameList h.2]
  | array s, array t => rw [eq_of_same (by simpa [same] using h : s.same t = true)]
  | free _, free _ => simpa [same] using h
  | bounded _ _, bounded _ _ =>
    simp only [same, Bool.and_eq_true, decide_eq_true_eq] at h
    rw [h.1, eq_of_same h.2]

theorem eq_of_sameList {ss ts : List JavaType} (h : sameList ss ts = true) : ss = ts := by
  match ss, ts with
  | [], [] => rfl
  | _ :: _, _ :: _ =>
    simp only [sameList, Bool.and_eq_true] at h
    rw [eq_of_same h.1, eq_of_sameList h.2]

end

mutual

theorem same_self (t : JavaType) : t.same t = true := by
  match t with
  | void => rfl
  | primitive _ => simp [same]
  | declared _ args => simp [same, sameList_self args]
  | array c => simp [same, same_self c]
  | free _ => simp [same]
  | bounded _ b => simp [same, same_self b]

theorem sameList_self (ts : List JavaType) : sameList ts ts = true := by
  match ts with
  | [] => rfl
  | t :: ts => simp [sameList, same_self t, sameList_self ts]

end

theorem same_iff {s t : JavaType} : s.same t = true ↔ s = t :=
  ⟨eq_of_same, fun h => h ▸ same_self s⟩

instance : DecidableEq JavaType := fun s t => decidable_of_iff (s.same t = true) same_iff

def raw (name : String) : JavaType := declared name []

/-- `t` with `n` pairs of brackets. -/
def arrays : Nat → JavaType → JavaType
  | 0, t => t
  | n + 1, t => arrays n (array t)

/-- The type without its arguments; a variable stands for its bound, or for `Object`. -/
def erasure : JavaType → JavaType
  | void => void
  | primitive k => primitive k
  | declared n _ => raw n
  | array c => array c.erasure
  | free _ => raw WellKnown.object
  | bounded _ b => b.erasure

/-- The type with a bounded variable at its head replaced by the bound, as often as needed. -/
def resolve : JavaType → JavaType
  | bounded _ b => b.resolve
  | t => t

def declaredName? : JavaType → Option String
  | declared n _ => some n
  | _ => none

def arguments : JavaType → List JavaType
  | declared _ args => args
  | _ => []

def component? : JavaType → Option JavaType
  | array c => some c
  | _ => none

def isExactly (t : JavaType) (name : String) : Bool := t = raw name

def isParameterized (t : JavaType) : Bool := !t.arguments.isEmpty

def isVariable : JavaType → Bool
  | free _ | bounded _ _ => true
  | _ => false

@[simp] theorem isExactly_iff {t : JavaType} {name : String} : t.isExactly name = true ↔ t = raw name := by
  simp [isExactly]

end JavaType

end ValueParcel
