import ValueParcel.Proofs.Declaration.Reloading

/-!
Registries that are saved and read again. Their keys are in ascending order, so that each declaration read goes behind those
read before it, and the registry comes back entry by entry.
-/

namespace ValueParcel

namespace Registry

/-! ## Ascending keys -/

/-- Each key comes before those behind it. -/
def IsAscending (r : Registry) : Prop := r.keys.Pairwise (· < ·)

theorem isAscending_empty : IsAscending {} := List.Pairwise.nil

theorem mem_keys_insertEntry {key k : String} {d : Declaration} {entries : List (String × Declaration)} :
    k ∈ (insertEntry key d entries).map (·.1) ↔ k = key ∨ k ∈ entries.map (·.1) := by
  fun_induction insertEntry key d entries with
  | case1 => simp
  | case2 e rest => simp
  | case3 l e rest hne hlt => simp
  | case4 l e rest hne hlt ih =>
      rw [List.map_cons, List.mem_cons, ih, List.map_cons, List.mem_cons]
      exact or_left_comm

theorem pairwise_insertEntry {key : String} {d : Declaration} {entries : List (String × Declaration)}
    (h : (entries.map (·.1)).Pairwise (· < ·)) : ((insertEntry key d entries).map (·.1)).Pairwise (· < ·) := by
  fun_induction insertEntry key d entries with
  | case1 => simp
  | case2 e rest => exact h
  | case3 l e rest hne hlt =>
      rw [List.map_cons, List.pairwise_cons]
      refine ⟨?_, h⟩
      intro k hk
      rw [List.map_cons] at h hk
      rcases List.mem_cons.1 hk with rfl | hk
      · exact hlt
      · exact String.lt_trans hlt ((List.pairwise_cons.1 h).1 k hk)
  | case4 l e rest hne hlt ih =>
      rw [List.map_cons, List.pairwise_cons] at h
      rw [List.map_cons, List.pairwise_cons]
      refine ⟨?_, ih h.2⟩
      intro k hk
      rcases mem_keys_insertEntry.1 hk with rfl | hk
      · exact Std.lt_of_le_of_ne (String.not_lt.1 hlt) (Ne.symm hne)
      · exact h.1 k hk

theorem extend_cons (r : Registry) (key : String) (d : Declaration) (entries : List (String × Declaration)) :
    r.extend ⟨(key, d) :: entries⟩ = (r.insert key d).extend ⟨entries⟩ := rfl

theorem isAscending_extend {r : Registry} (h : r.IsAscending) (entries : List (String × Declaration)) :
    (r.extend ⟨entries⟩).IsAscending := by
  induction entries generalizing r with
  | nil => exact h
  | cons e entries ih => exact ih (pairwise_insertEntry h)

/-- What comes behind all others is put behind them. -/
theorem insertEntry_of_forall_lt {key : String} {d : Declaration} {entries : List (String × Declaration)}
    (h : ∀ e ∈ entries, e.1 < key) : insertEntry key d entries = entries ++ [(key, d)] := by
  induction entries with
  | nil => rfl
  | cons e entries ih =>
      obtain ⟨k, f⟩ := e
      rw [List.forall_mem_cons] at h
      have hk : k < key := h.1
      have hne : key ≠ k := fun he => String.lt_irrefl k (he ▸ hk)
      have hlt : ¬ key < k := fun hlt => String.lt_irrefl k (String.lt_trans hk hlt)
      rw [insertEntry, if_neg hne, if_neg hlt, ih h.2, List.cons_append]

theorem extend_of_isAscending {before entries : List (String × Declaration)}
    (h : IsAscending ⟨before ++ entries⟩) : extend ⟨before⟩ ⟨entries⟩ = ⟨before ++ entries⟩ := by
  induction entries generalizing before with
  | nil =>
      rw [List.append_nil]
      rfl
  | cons e entries ih =>
      obtain ⟨key, d⟩ := e
      have hlt : ∀ e ∈ before, e.1 < key := by
        rw [IsAscending, keys, List.map_append, List.pairwise_append] at h
        exact fun e he => h.2.2 _ (List.mem_map_of_mem he) _ (List.mem_cons_self ..)
      rw [List.append_cons] at h ⊢
      rw [extend_cons, insert, insertEntry_of_forall_lt hlt, ih h]

/-! ## Reading what was saved -/

def mapTypes (f : JavaType → JavaType) (r : Registry) : Registry := ⟨r.entries.map fun (key, d) => (key, d.mapTypes f)⟩

theorem keys_mapTypes (f : JavaType → JavaType) (r : Registry) : (r.mapTypes f).keys = r.keys := by
  simp [keys, mapTypes, Function.comp_def]

theorem mapTypes_eq_self_iff {f : JavaType → JavaType} {r : Registry} :
    r.mapTypes f = r ↔ ∀ d ∈ r.declarations, ∀ t ∈ d.types, f t = t := by
  obtain ⟨entries⟩ := r
  have he : ∀ e : String × Declaration, (e.1, e.2.mapTypes f) = e ↔ ∀ t ∈ e.2.types, f t = t := by
    intro e
    rw [← Declaration.mapTypes_eq_self_iff, Prod.ext_iff]
    exact and_iff_right rfl
  simp only [mapTypes, declarations, Registry.mk.injEq, map_eq_self_iff, he, List.forall_mem_map]

theorem decode_encode (s : Scalars) {r : Registry} (hr : r.IsAscending)
    (h : ∀ d ∈ r.declarations, ∀ t ∈ d.types, t.IsNamed) : decode s r.encode = some (r.mapTypes JavaType.settled) := by
  have he : (r.entries.map fun e => (e.1, e.2.encode)).mapM (fun e => do return (e.1, ← Declaration.decode s e.2)) =
      some (r.entries.map fun e => (e.1, e.2.mapTypes JavaType.settled)) := by
    apply mapM_map_eq_some
    intro e hm
    simp [Declaration.decode_encode s (h e.2 (List.mem_map_of_mem hm))]
  have hm : (r.mapTypes JavaType.settled).IsAscending := by rwa [IsAscending, keys_mapTypes]
  have hx : extend {} (r.mapTypes JavaType.settled) = r.mapTypes JavaType.settled := @extend_of_isAscending [] _ hm
  rw [← hx]
  simp only [decode, encode, he]
  rfl

/-- A declaration with proper names is read again, and so is every registry of such declarations. The types come back with
their brackets settled and all else as it was; the same is read as was saved if and only if no array has a bounded variable
as its component. -/
theorem reloaded_iff_isSettled (s : Scalars) :
    (∀ d : Declaration, (∀ t ∈ d.types, t.IsNamed) →
      Declaration.decode s d.encode = some (d.mapTypes JavaType.settled) ∧
      (Declaration.decode s d.encode = some d ↔ ∀ t ∈ d.types, t.IsSettled)) ∧
    ∀ entries : List (String × Declaration), let r := extend {} ⟨entries⟩
      (∀ d ∈ r.declarations, ∀ t ∈ d.types, t.IsNamed) →
      decode s r.encode = some (r.mapTypes JavaType.settled) ∧
      (decode s r.encode = some r ↔ ∀ d ∈ r.declarations, ∀ t ∈ d.types, t.IsSettled) := by
  constructor
  · intro d h
    have hd := Declaration.decode_encode s h
    refine ⟨hd, ?_⟩
    rw [hd, Option.some.injEq, Declaration.mapTypes_eq_self_iff]
    simp only [JavaType.settled_eq_self_iff]
  · intro entries r h
    have hr : r.IsAscending := isAscending_extend isAscending_empty entries
    have hd := decode_encode s hr h
    refine ⟨hd, ?_⟩
    rw [hd, Option.some.injEq, mapTypes_eq_self_iff]
    simp only [JavaType.settled_eq_self_iff]

/-- A class with a bounded variable, an array as a bound, and arrays of classes that have one among their arguments. -/
def shelf : Declaration :=
  let item := JavaType.raw "test.Item"
  let rows := JavaType.array (.array (.declared "java.util.List" [.bounded "T" (.array item), .free "U"]))
  { ((Declaration.ofClass "test.Shelf").extending (.declared "test.Box" [.bounded "T" item])).withTypeParameter
      (.bounded "T" item) with
    methods := [{ name := "rows", returnType := rows, parameters := [⟨"from", .primitive .int⟩],
                  annotations := [{ name := "Mark", value := some (.array item) }] }]
    fields := [⟨"rest", rows, [.static, .final]⟩] }

theorem reloaded_iff_isSettled_shelf :
    (∀ t ∈ shelf.types, t.IsNamed) ∧ (∀ t ∈ shelf.types, t.IsSettled) ∧
    Declaration.decode .quoted shelf.encode = some shelf ∧
    decode .plain (ofList [shelf]).encode = some (ofList [shelf]) := by
  have hn : ∀ t ∈ shelf.types, t.IsNamed := by decide +kernel
  have hs : ∀ t ∈ shelf.types, t.IsSettled := by decide +kernel
  refine ⟨hn, hs, ((reloaded_iff_isSettled .quoted).1 shelf hn).2.2 hs, ?_⟩
  refine ((reloaded_iff_isSettled .plain).2 [(shelf.name, shelf)] ?_).2.2 ?_
  · exact List.forall_mem_singleton.2 hn
  · exact List.forall_mem_singleton.2 hs

/-- A method that gives an array of a bounded variable is read as one that gives a variable bounded by an array. -/
theorem array_of_bounded_is_lost :
    let box := fun returnType => (Declaration.ofClass "test.Box").withMethod (.accessor "items" returnType)
    let saved := box (.array (.bounded "T" (.raw "test.Item")))
    let found := box (.bounded "T" (.array (.raw "test.Item")))
    (∀ t ∈ saved.types, t.IsNamed) ∧ found ≠ saved ∧
    Declaration.decode .quoted saved.encode = some found ∧
    decode .quoted (ofList [saved]).encode = some (ofList [found]) := by
  intro box saved found
  have hn : ∀ t ∈ saved.types, t.IsNamed := by decide +kernel
  refine ⟨hn, by decide, Declaration.decode_encode .quoted hn, ?_⟩
  exact decode_encode .quoted (isAscending_extend isAscending_empty [(saved.name, saved)]) (List.forall_mem_singleton.2 hn)

end Registry

end ValueParcel
