import ValueParcel.Declaration.Encoding

/-! Registries: declarations under their keys, and the keys in ascending order. -/

namespace ValueParcel

/-- Declarations under keys. A declaration is registered under its name, but a key may also differ from it. -/
structure Registry where
  entries : List (String × Declaration) := []
  deriving Repr

namespace Registry

/-- The entries with `d` under `key`, in place of what stood there. -/
def insertEntry (key : String) (d : Declaration) : List (String × Declaration) → List (String × Declaration)
  | [] => [(key, d)]
  | (k, e) :: rest =>
    if key = k then (key, d) :: rest
    else if key < k then (key, d) :: (k, e) :: rest
    else (k, e) :: insertEntry key d rest

def insert (r : Registry) (key : String) (d : Declaration) : Registry := ⟨insertEntry key d r.entries⟩

def register (r : Registry) (d : Declaration) : Registry := r.insert d.name d

def ofList (declarations : List Declaration) : Registry := declarations.foldl register {}

/-- The entries of `other` over those of `r`. -/
def extend (r other : Registry) : Registry :=
  other.entries.foldl (fun r (key, d) => r.insert key d) r

def find? (r : Registry) (key : String) : Option Declaration := r.entries.lookup key

def contains (r : Registry) (key : String) : Bool := (r.find? key).isSome

def keys (r : Registry) : List String := r.entries.map (·.1)

def declarations (r : Registry) : List Declaration := r.entries.map (·.2)

/-- The declaration of a declared type; a bounded variable has that of its bound. -/
def declaration? (r : Registry) : JavaType → Option Declaration
  | .declared n _ => r.find? n
  | .bounded _ b => r.declaration? b
  | _ => none

def encode (r : Registry) : Document :=
  .record (r.entries.map fun (key, d) => (key, d.encode))

/-- A record of declarations; the last of several under one key counts. -/
def decode (s : Scalars) : Document → Option Registry
  | .record fields => do
    let entries ← fields.mapM fun (key, d) => do return (key, ← Declaration.decode s d)
    return extend {} ⟨entries⟩
  | _ => none

theorem mem_entries_of_find? {r : Registry} {key : String} {d : Declaration} (h : r.find? key = some d) :
    (key, d) ∈ r.entries := by
  obtain ⟨before, behind, he, -⟩ := List.lookup_eq_some_iff.1 h
  rw [he]
  exact List.mem_append_right _ (List.mem_cons_self ..)

theorem mem_declarations_of_find? {r : Registry} {key : String} {d : Declaration} (h : r.find? key = some d) :
    d ∈ r.declarations :=
  List.mem_map_of_mem (mem_entries_of_find? h)

theorem mem_keys_of_find? {r : Registry} {key : String} {d : Declaration} (h : r.find? key = some d) : key ∈ r.keys :=
  List.mem_map_of_mem (mem_entries_of_find? h)

theorem mem_declarations {r : Registry} {t : JavaType} {d : Declaration} (h : r.declaration? t = some d) :
    d ∈ r.declarations := by
  fun_induction declaration? r t with
  | case1 => exact mem_declarations_of_find? h
  | case2 _ _ ih => exact ih h
  | case3 => simp at h

end Registry

end ValueParcel
