import ValueParcel.Proofs.Text.Cut
import ValueParcel.QualifiedName

/-!
Where a qualified name falls into its package and the name of the class within the package, and how the two make up the
qualified name again.
-/

namespace ValueParcel.QualifiedName

/-! ## Segments -/

theorem mem_of_mem_segments {cs s : List Char} {c : Char} (hs : s ∈ segments cs) (hc : c ∈ s) : c ∈ cs := by
  induction cs generalizing s with
  | nil => simp_all [segments]
  | cons d cs ih =>
      simp only [segments] at hs
      split at hs
      · rcases List.mem_cons.1 hs with rfl | hs
        · simp at hc
        · exact List.mem_cons_of_mem _ (ih hs hc)
      · split at hs
        · simp_all
        · rename_i t ts ht
          rcases List.mem_cons.1 hs with rfl | hs
          · rcases List.mem_cons.1 hc with rfl | hc
            · exact List.mem_cons_self ..
            · exact List.mem_cons_of_mem _ (ih (ht ▸ List.mem_cons_self ..) hc)
          · exact List.mem_cons_of_mem _ (ih (ht ▸ List.mem_cons_of_mem _ hs) hc)

theorem not_mem_of_mem_segments {cs s : List Char} (hs : s ∈ segments cs) : '.' ∉ s := by
  induction cs generalizing s with
  | nil => simp_all [segments]
  | cons c cs ih =>
      rw [segments] at hs
      split at hs
      · rcases List.mem_cons.1 hs with rfl | hs
        · exact List.not_mem_nil
        · exact ih hs
      · rename_i hc
        split at hs
        · simpa [List.mem_singleton.1 hs] using Ne.symm hc
        · rename_i t ts ht
          rcases List.mem_cons.1 hs with rfl | hs
          · exact List.not_mem_cons_of_ne_of_not_mem (Ne.symm hc) (ih (ht ▸ List.mem_cons_self ..))
          · exact ih (ht ▸ List.mem_cons_of_mem _ hs)

theorem segments_of_not_mem {s : List Char} (h : '.' ∉ s) : segments s = [s] := by
  induction s with
  | nil => rfl
  | cons c cs ih =>
      rw [List.mem_cons, not_or] at h
      rw [segments, if_neg (Ne.symm h.1), ih h.2]

theorem segments_append_dot {s : List Char} (rest : List Char) (h : '.' ∉ s) :
    segments (s ++ '.' :: rest) = s :: segments rest := by
  induction s with
  | nil => rw [List.nil_append, segments, if_pos rfl]
  | cons c cs ih =>
      rw [List.mem_cons, not_or] at h
      rw [List.cons_append, segments, if_neg (Ne.symm h.1), ih h.2]

theorem join_cons (s : List Char) {rest : List (List Char)} (h : rest ≠ []) :
    join (s :: rest) = s ++ '.' :: join rest := by
  cases rest with
  | nil => exact absurd rfl h
  | cons t rest => simp [join, List.intercalate, List.intersperse]

theorem join_append {front back : List (List Char)} (hf : front ≠ []) (hb : back ≠ []) :
    join (front ++ back) = join front ++ '.' :: join back := by
  induction front with
  | nil => exact absurd rfl hf
  | cons s front ih =>
      rw [List.cons_append, join_cons s (List.append_ne_nil_of_right_ne_nil _ hb)]
      by_cases hn : front = []
      · simp [hn, join]
      · rw [ih hn, join_cons s hn, List.append_assoc, List.cons_append]

theorem segments_join {parts : List (List Char)} (hne : parts ≠ []) (h : ∀ s ∈ parts, '.' ∉ s) :
    segments (join parts) = parts := by
  induction parts with
  | nil => exact absurd rfl hne
  | cons s rest ih =>
      rw [List.forall_mem_cons] at h
      by_cases hr : rest = []
      · simpa [hr, join] using segments_of_not_mem h.1
      · rw [join_cons s hr, segments_append_dot _ h.1, ih hr h.2]

theorem segments_eq_splitOn (cs : List Char) : segments cs = cs.splitOn '.' := by
  have h := List.splitOn_intercalate '.' (fun _ => not_mem_of_mem_segments) (segments_ne_nil cs)
  rw [← h]
  exact congrArg _ (join_segments cs)

/-! ## The end of the package -/

theorem join_isPrefix (front back : List (List Char)) : join front <+: join (front ++ back) := by
  by_cases hf : front = []
  · simp [hf, join]
  · by_cases hb : back = []
    · simp [hb]
    · rw [join_append hf hb]
      exact List.prefix_append ..

theorem utf8ByteSize_join_concat (front : List (List Char)) (s : List Char) :
    (String.ofList (join (front ++ [s]))).utf8ByteSize =
      (String.ofList (join front)).utf8ByteSize +
        ((String.ofList s).utf8ByteSize + if front.length = 0 then 0 else 1) := by
  by_cases hf : front = []
  · simp [hf, join]
  · have hj : join (front ++ [s]) = join front ++ (['.'] ++ s) := by
      rw [join_append hf (List.cons_ne_nil _ _)]
      simp [join]
    have hl : front.length ≠ 0 := by simpa using hf
    rw [hj, String.ofList_append, String.ofList_append, String.utf8ByteSize_append, String.utf8ByteSize_append, if_neg hl]
    exact congrArg _ (Nat.add_comm ..)

/-- A count that has come to the size of the segments behind it, with the dots between them, keeps to that: it ends with the
size of these and of the package segments that follow them. -/
theorem countPackage_eq (front rest : List (List Char)) :
    countPackage front.length (String.ofList (join front)).utf8ByteSize rest =
      (String.ofList (join (front ++ rest.takeWhile isPackageSegment))).utf8ByteSize := by
  induction rest generalizing front with
  | nil => simp [countPackage]
  | cons s rest ih =>
      rw [countPackage]
      split
      -- one more segment is behind the count
      · rename_i hs
        have hl : front.length + 1 = (front ++ [s]).length := by simp
        rw [List.takeWhile_cons_of_pos hs, ← utf8ByteSize_join_concat, hl, ih, List.append_assoc, List.singleton_append]
      · rename_i hs
        rw [List.takeWhile_cons_of_neg hs, List.append_nil]

theorem packageEnd_eq (q : String) : packageEnd q = (String.ofList (join (packageSegments q))).utf8ByteSize :=
  countPackage_eq [] (segments q.toList)

/-! ## Packages and what is in them -/

theorem packageSegments_append_classSegments (q : String) :
    packageSegments q ++ classSegments q = segments q.toList :=
  List.takeWhile_append_dropWhile

/-- A name can be cut where the count of its package ends. -/
theorem packageName?_eq (q : String) : packageName? q = some (String.ofList (join (packageSegments q))) := by
  obtain ⟨back, hb⟩ := join_isPrefix (packageSegments q) (classSegments q)
  rw [packageSegments_append_classSegments, join_segments] at hb
  refine Text.upTo?_eq_some_iff.2 ⟨String.ofList back, ?_, (packageEnd_eq q).symm⟩
  rw [← String.ofList_append, hb, String.ofList_toList]

theorem packageName_eq (q : String) : packageName q = String.ofList (join (packageSegments q)) := by
  rw [packageName, packageName?_eq, Option.getD_some]

theorem isPackageSegment_of_mem {q : String} {s : List Char} (h : s ∈ packageSegments q) : isPackageSegment s = true :=
  List.all_eq_true.1 List.all_takeWhile s h

theorem not_isPackageSegment_head {q : String} {first : List Char} {nested : List (List Char)}
    (h : classSegments q = first :: nested) : isPackageSegment first = false := by
  have := List.head?_dropWhile_not isPackageSegment (segments q.toList)
  rw [← classSegments, h] at this
  simpa using this

theorem not_mem_of_mem_classSegments {q : String} {s : List Char} (h : s ∈ classSegments q) : '.' ∉ s :=
  not_mem_of_mem_segments ((List.dropWhile_suffix _).subset h)

theorem not_mem_of_mem_packageSegments {q : String} {s : List Char} (h : s ∈ packageSegments q) : '.' ∉ s :=
  not_mem_of_mem_segments ((List.takeWhile_prefix _).subset h)

/-- The name has a package, and there is something behind it. -/
def HasPackage (q : String) : Prop := packageName q ≠ "" ∧ (packageName q).length < q.length

instance (q : String) : Decidable (HasPackage q) := inferInstanceAs (Decidable (_ ∧ _))

/-- The name of a class within its package. -/
def relative (q : String) : String := String.ofList (join (classSegments q))

/-- The simple name of the top-level class. -/
def topName (q : String) : String := String.ofList ((classSegments q).headD [])

/-- The qualified name of the top-level class. -/
def topLevel (q : String) : String := packageName q ++ "." ++ topName q

theorem packageName_eq_empty_iff {q : String} : packageName q = "" ↔ packageSegments q = [] := by
  constructor
  · intro h
    cases hp : packageSegments q with
    | nil => rfl
    | cons s rest =>
        have hs : isPackageSegment s = true := isPackageSegment_of_mem (hp ▸ List.mem_cons_self ..)
        have hj : join (s :: rest) = [] := by simpa [packageName_eq, hp] using h
        by_cases hr : rest = []
        · have : s = [] := by simpa [hr, join] using hj
          simp [this, isPackageSegment] at hs
        · simp [join_cons s hr] at hj
  · intro h
    simp [packageName_eq, h, join]

/-- With no package all segments are the class's, and with no class all are the package's. -/
theorem hasPackage_iff {q : String} : HasPackage q ↔ packageSegments q ≠ [] ∧ classSegments q ≠ [] := by
  rw [HasPackage, ne_eq, packageName_eq_empty_iff]
  refine and_congr_right fun hp => ?_
  have hs := packageSegments_append_classSegments q
  have hq : join (packageSegments q ++ classSegments q) = q.toList := by rw [hs, join_segments]
  rw [← String.length_toList, ← String.length_toList, ← hq, packageName_eq, String.toList_ofList]
  by_cases hc : classSegments q = []
  · simp [hc]
  · simp [join_append hp hc, hc]

namespace HasPackage

variable {q : String}

/-- A qualified name is its package, a dot, and the name within the package. -/
theorem eq_append (h : HasPackage q) : packageName q ++ "." ++ relative q = q := by
  obtain ⟨hp, hc⟩ := hasPackage_iff.1 h
  rw [← String.toList_inj]
  simp only [packageName_eq, relative, String.toList_append, String.toList_ofList, List.append_assoc]
  rw [← join_segments q.toList, ← packageSegments_append_classSegments, join_append hp hc]
  rfl

theorem utf8ByteSize_eq (h : HasPackage q) :
    q.utf8ByteSize = (packageName q).utf8ByteSize + 1 + (relative q).utf8ByteSize :=
  calc q.utf8ByteSize
    _ = (packageName q ++ "." ++ relative q).utf8ByteSize := congrArg _ h.eq_append.symm
    _ = _ := by rw [String.utf8ByteSize_append, String.utf8ByteSize_append]; rfl

/-- A name with a package can be cut behind the dot that follows the package. -/
theorem behind?_eq (h : HasPackage q) : Text.behind? q ((packageName q).utf8ByteSize + 1) = some (relative q) :=
  Text.behind?_eq_some_iff.2 ⟨packageName q ++ ".", h.eq_append.symm, String.utf8ByteSize_append⟩

/-- The byte behind the package is the dot. -/
theorem getElem?_toByteArray (h : HasPackage q) : q.toByteArray[(packageName q).utf8ByteSize]? = some '.'.toUInt8 := by
  have hd := Text.getElem?_toByteArray_append (packageName q) (relative q) (by decide : 0 < ".".toByteArray.size)
  rwa [h.eq_append] at hd

theorem exists_classSegments (h : HasPackage q) : ∃ first nested, classSegments q = first :: nested :=
  List.exists_cons_of_ne_nil (hasPackage_iff.1 h).2

theorem segments_relative (h : HasPackage q) : segments (relative q).toList = classSegments q := by
  rw [relative, String.toList_ofList, segments_join (hasPackage_iff.1 h).2 fun _ => not_mem_of_mem_classSegments]

theorem outermostName_relative (h : HasPackage q) : outermostName (relative q) = topName q := by
  rw [outermostName, h.segments_relative, topName]

theorem packageName_relative (h : HasPackage q) : packageName (relative q) = "" := by
  obtain ⟨first, nested, hc⟩ := h.exists_classSegments
  rw [packageName_eq_empty_iff, packageSegments, h.segments_relative, hc,
    List.takeWhile_cons_of_neg (by simp [not_isPackageSegment_head hc])]

theorem relative_ne_of_hasPackage {q' : String} (h : HasPackage q) (h' : HasPackage q') : relative q ≠ q' := by
  intro he
  exact h'.1 (he ▸ h.packageName_relative)

theorem topName_eq_of_relative_eq {q' : String} (h : HasPackage q) (h' : HasPackage q') (he : relative q = relative q') :
    topName q = topName q' := by
  rw [topName, topName, ← h.segments_relative, ← h'.segments_relative, he]

theorem segments_topLevel (h : HasPackage q) :
    segments (topLevel q).toList = packageSegments q ++ [(topName q).toList] := by
  obtain ⟨first, nested, hc⟩ := h.exists_classSegments
  have hf : '.' ∉ first := not_mem_of_mem_classSegments (hc ▸ List.mem_cons_self ..)
  have hj : (topLevel q).toList = join (packageSegments q ++ [first]) := by
    rw [join_append (hasPackage_iff.1 h).1 (List.cons_ne_nil _ _)]
    simp [topLevel, packageName_eq, topName, hc, join]
  rw [hj, segments_join (List.append_ne_nil_of_right_ne_nil _ (List.cons_ne_nil _ _)), topName, hc, List.headD_cons,
    String.toList_ofList]
  intro s hs
  rcases List.mem_append.1 hs with hs | hs
  · exact not_mem_of_mem_packageSegments hs
  · rwa [List.mem_singleton.1 hs]

theorem packageName_topLevel (h : HasPackage q) : packageName (topLevel q) = packageName q := by
  obtain ⟨first, nested, hc⟩ := h.exists_classSegments
  have hf : isPackageSegment (topName q).toList = false := by
    simpa [topName, hc] using not_isPackageSegment_head hc
  rw [packageName_eq, packageName_eq, packageSegments, h.segments_topLevel,
    List.takeWhile_append_of_pos fun s hs => isPackageSegment_of_mem hs, List.takeWhile_cons_of_neg (by simp [hf]),
    List.append_nil]

theorem mem_of_mem_topLevel (h : HasPackage q) {c : Char} (hm : c ∈ (topLevel q).toList) : c ∈ q.toList := by
  rw [topLevel, String.toList_append, List.mem_append] at hm
  rcases hm with hm | hm
  · rw [← h.eq_append, String.toList_append]
    exact List.mem_append_left _ hm
  · obtain ⟨first, nested, hc⟩ := h.exists_classSegments
    have hf : first ∈ segments q.toList := (List.dropWhile_suffix _).subset (hc ▸ List.mem_cons_self ..)
    rw [topName, hc, List.headD_cons, String.toList_ofList] at hm
    exact mem_of_mem_segments hf hm

theorem simpleName_topLevel (h : HasPackage q) : simpleName (topLevel q) = topName q := by
  rw [simpleName, h.segments_topLevel, List.getLastD_concat, String.ofList_toList]

end HasPackage

/-- In bytes as in characters, a name has a package if one is counted and it does not take up the whole name. -/
theorem hasPackage_iff_utf8ByteSize {q : String} :
    HasPackage q ↔ packageName q ≠ "" ∧ (packageName q).utf8ByteSize ≠ q.utf8ByteSize := by
  refine ⟨fun h => ⟨h.1, by rw [h.utf8ByteSize_eq]; omega⟩, fun ⟨hp, hs⟩ => hasPackage_iff.2 ⟨?_, fun hc => hs ?_⟩⟩
  · exact fun he => hp (packageName_eq_empty_iff.2 he)
  · have hq := packageSegments_append_classSegments q
    rw [hc, List.append_nil] at hq
    rw [packageName_eq, hq, join_segments, String.ofList_toList]

end ValueParcel.QualifiedName
