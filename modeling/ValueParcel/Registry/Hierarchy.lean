import ValueParcel.Registry.Unseen

/-!
Supertypes. The lineage of a type is its chain of superclasses; the hierarchy adds the interfaces, breadth first; the
preorder visits each declaration, then its interfaces, then its superclass. Each search passes over what it has seen
and so ends on cyclic registries too.
-/

namespace ValueParcel

def Declaration.supertypes (d : Declaration) : List JavaType := d.interfaces ++ d.superclass?.toList

def Declaration.supertypeNames (d : Declaration) : List String :=
  d.supertypes.filterMap (·.erasure.declaredName?)

namespace Registry

/-- The direct superclass of a type; interfaces, `Object` and unknown types have none. -/
def superclass? (r : Registry) (t : JavaType) : Option JavaType := (r.declaration? t).bind (·.superclass?)

/-- The interfaces that the declaration of a type lists. -/
def interfaces (r : Registry) (t : JavaType) : List JavaType :=
  match r.declaration? t with
  | some d => d.interfaces
  | none => []

def upperBound? : JavaType → Option JavaType
  | .bounded _ b => some b
  | _ => none

/-! ### Lineage -/

/-- The declarations of a type and of its superclasses, up to the first unknown or repeated one. -/
def lineageFrom (r : Registry) (seen : List String) (t : JavaType) : List Declaration :=
  match _h : r.declaration? t with
  | none => []
  | some d =>
    if _hs : d.name ∈ seen then []
    else d :: match d.superclass? with
      | none => []
      | some s => lineageFrom r (d.name :: seen) s
termination_by unseen r.names seen
decreasing_by exact unseen_cons_lt (name_mem_names _h) _hs

def lineage (r : Registry) (t : JavaType) : List Declaration := r.lineageFrom [] t

/-- The names of a class and its superclasses; the last may be unknown. -/
def lineageNamesFrom (r : Registry) (seen : List String) (n : String) : List String :=
  if _hs : n ∈ seen then []
  else n :: match _h : r.find? n with
    | none => []
    | some d =>
      match d.superclass?.bind (·.erasure.declaredName?) with
      | none => []
      | some s => lineageNamesFrom r (n :: seen) s
termination_by unseen r.keys seen
decreasing_by exact unseen_cons_lt (mem_keys_of_find? _h) _hs

/-- Whether `name` is in the superclass chain of `t`, where `t` itself counts. -/
def extendsClass (r : Registry) (t : JavaType) (name : String) : Bool :=
  match t.erasure.declaredName? with
  | none => false
  | some n => name ∈ r.lineageNamesFrom [] n

/-! ### Hierarchy -/

/-- The declarations of the types and of all interfaces above them, nearest first. -/
def interfacesFrom (r : Registry) (seen : List String) : List JavaType → List Declaration
  | [] => []
  | t :: queue =>
    match _h : r.declaration? t with
    | none => interfacesFrom r seen queue
    | some d =>
      if _hs : d.name ∈ seen then interfacesFrom r seen queue
      else d :: interfacesFrom r (d.name :: seen) (queue ++ d.interfaces)
termination_by queue => (unseen r.names seen, queue.length)
decreasing_by
  · exact Prod.Lex.right _ (Nat.lt_succ_self _)
  · exact Prod.Lex.right _ (Nat.lt_succ_self _)
  · exact Prod.Lex.left _ _ (unseen_cons_lt (name_mem_names _h) _hs)

/-- The lineage of a type, then all interfaces above it. -/
def hierarchy (r : Registry) (t : JavaType) : List Declaration :=
  let line := r.lineage t
  line ++ r.interfacesFrom (line.map (·.name)) (line.flatMap (·.interfaces))

/-! ### Preorder -/

/-- The declarations of the types, each followed by those of its interfaces and of its superclass. -/
def preorderFrom (r : Registry) (seen : List String) : List JavaType → List Declaration
  | [] => []
  | t :: todo =>
    match _h : r.declaration? t with
    | none => preorderFrom r seen todo
    | some d =>
      if _hs : d.name ∈ seen then preorderFrom r seen todo
      else d :: preorderFrom r (d.name :: seen) (d.interfaces ++ (r.superclass? (.raw d.name)).toList ++ todo)
termination_by todo => (unseen r.names seen, todo.length)
decreasing_by
  · exact Prod.Lex.right _ (Nat.lt_succ_self _)
  · exact Prod.Lex.right _ (Nat.lt_succ_self _)
  · exact Prod.Lex.left _ _ (unseen_cons_lt (name_mem_names _h) _hs)

def preorder (r : Registry) (t : JavaType) : List Declaration := r.preorderFrom [] [t]

/-! ### Assignability -/

/-- Whether `target` is one of the names or of the names of their supertypes, direct or not. -/
def reaches (r : Registry) (target : String) (seen : List String) : List String → Bool
  | [] => false
  | n :: todo =>
    if n = target then true
    else match _h : r.find? n with
      | none => reaches r target seen todo
      | some d =>
        if _hs : n ∈ seen then reaches r target seen todo
        else reaches r target (n :: seen) (d.supertypeNames ++ todo)
termination_by todo => (unseen r.keys seen, todo.length)
decreasing_by
  · exact Prod.Lex.right _ (Nat.lt_succ_self _)
  · exact Prod.Lex.right _ (Nat.lt_succ_self _)
  · exact Prod.Lex.left _ _ (unseen_cons_lt (mem_keys_of_find? _h) _hs)

def assignable (r : Registry) : JavaType → JavaType → Bool
  | .primitive k, .primitive l => k = l
  | .array s, .array t => r.assignable s t
  | .array _, .declared n _ => n = WellKnown.object || n = WellKnown.serializable
  | .declared n _, .declared m _ => m = WellKnown.object || r.reaches m [] [n]
  | _, _ => false

/-- Whether a value of type `s` may be assigned to a variable of type `t`, after erasure. -/
def isAssignable (r : Registry) (s t : JavaType) : Bool := r.assignable s.erasure t.erasure

/-! ### Members -/

/-- The methods of a hierarchy in order; static ones count only in the type itself. -/
def methodsInOrder : List Declaration → List (Declaration × Method)
  | [] => []
  | d :: above =>
    d.methods.map (d, ·) ++ above.flatMap fun e => (e.methods.filter (!·.isStatic)).map (e, ·)

def firstOfSignature (seen : List (String × List JavaType)) :
    List (Declaration × Method) → List (Declaration × Method)
  | [] => []
  | (d, m) :: rest =>
    if m.signature ∈ seen then firstOfSignature seen rest
    else (d, m) :: firstOfSignature (m.signature :: seen) rest

/-- The methods of a type, its own and those it inherits, each with its owner. -/
def methods (r : Registry) (t : JavaType) : List (Declaration × Method) :=
  firstOfSignature [] (methodsInOrder (r.hierarchy t))

/-- The fields of a type and of its supertypes, each with its owner. -/
def fields (r : Registry) (t : JavaType) : List (Declaration × Field) :=
  (r.hierarchy t).flatMap fun d => d.fields.map (d, ·)

end Registry

end ValueParcel
