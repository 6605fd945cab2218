import ValueParcel.Registry.Hierarchy

/-! The searches through supertypes, one step at a time. -/

namespace ValueParcel.Registry

variable (r : Registry) (seen : List String)

theorem lineageFrom_eq (t : JavaType) : r.lineageFrom seen t = match r.declaration? t with
    | none => []
    | some d => if d.name ∈ seen then [] else
        d :: match d.superclass? with
          | none => []
          | some s => r.lineageFrom (d.name :: seen) s := by
  rw [lineageFrom]
  split
  · rename_i hd
    rw [hd]
  · rename_i d hd
    rw [hd]
    rfl

theorem exists_lineage_eq_cons {t : JavaType} {d : Declaration} (h : r.declaration? t = some d) :
    ∃ back, r.lineage t = d :: back := by
  rw [lineage, lineageFrom_eq, h]
  exact ⟨_, rfl⟩

theorem exists_hierarchy_eq_cons {t : JavaType} {d : Declaration} (h : r.declaration? t = some d) :
    ∃ above, r.hierarchy t = d :: above := by
  obtain ⟨back, hl⟩ := r.exists_lineage_eq_cons h
  rw [hierarchy, hl]
  exact ⟨_, rfl⟩

theorem lineageNamesFrom_eq (n : String) : r.lineageNamesFrom seen n = if n ∈ seen then [] else
    n :: match (r.superclass? (.raw n)).bind (·.erasure.declaredName?) with
      | none => []
      | some s => r.lineageNamesFrom (n :: seen) s := by
  rw [lineageNamesFrom, superclass?, JavaType.raw, declaration?]
  split
  · rfl
  · congr 1
    split
    · rename_i hd
      rw [hd]
      rfl
    · rename_i d hd
      rw [hd]
      rfl

theorem interfacesFrom_cons (t : JavaType) (queue : List JavaType) :
    r.interfacesFrom seen (t :: queue) = match r.declaration? t with
      | none => r.interfacesFrom seen queue
      | some d => if d.name ∈ seen then r.interfacesFrom seen queue else
          d :: r.interfacesFrom (d.name :: seen) (queue ++ d.interfaces) := by
  rw [interfacesFrom]
  split
  · rename_i hd
    rw [hd]
  · rename_i d hd
    rw [hd]
    rfl

theorem preorderFrom_cons (t : JavaType) (todo : List JavaType) :
    r.preorderFrom seen (t :: todo) = match r.declaration? t with
      | none => r.preorderFrom seen todo
      | some d => if d.name ∈ seen then r.preorderFrom seen todo else
          d :: r.preorderFrom (d.name :: seen) (d.interfaces ++ (r.superclass? (.raw d.name)).toList ++ todo) := by
  rw [preorderFrom]
  split
  · rename_i hd
    rw [hd]
  · rename_i d hd
    rw [hd]
    rfl

theorem reaches_cons (target n : String) (todo : List String) :
    r.reaches target seen (n :: todo) = if n = target then true else match r.find? n with
      | none => r.reaches target seen todo
      | some d => if n ∈ seen then r.reaches target seen todo else
          r.reaches target (n :: seen) (d.supertypeNames ++ todo) := by
  rw [reaches]
  split
  · rfl
  · split
    · rename_i hd
      rw [hd]
    · rename_i d hd
      rw [hd]
      rfl

end ValueParcel.Registry
