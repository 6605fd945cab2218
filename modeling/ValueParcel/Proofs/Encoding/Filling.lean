import ValueParcel.Proofs.Encoding.Calls

/-!
Filling in turn and filling at once. What goes into a hole has no braces, so no later replacement finds anything in it, and
the two come to the same.
-/

namespace ValueParcel

open Text (IsInline Lacks Straddles replace replace_append replaceFrom)

/-! ## Spelled holes -/

namespace Hole

variable {h h' : Hole}

theorem count_spelled (h : Hole) : h.spelled.count '\x7d' = 1 := by cases h <;> decide

theorem mem_of_suffix_spelled {u : List Char} (hu : u ≠ []) (hs : u <:+ h.spelled) : '\x7d' ∈ u := by
  have hl : h.spelled.getLast? = some '\x7d' := by cases h <;> rfl
  obtain ⟨w, he⟩ := hs
  rw [← he, List.getLast?_append, List.getLast?_eq_some_getLast hu, Option.some_or] at hl
  exact Option.some.inj hl ▸ List.getLast_mem hu

/-- No end of one hole is the head of another one that goes on behind it. -/
theorem not_straddles (h h' : Hole) (xs : List Char) : ¬ Straddles h.spelled h'.spelled xs := by
  rintro ⟨u, v, he, hu, hv, hx, -⟩
  have hcu : 0 < u.count '\x7d' := List.count_pos_iff.2 (mem_of_suffix_spelled hu hx)
  have hcv : 0 < v.count '\x7d' := List.count_pos_iff.2 (braces_of_spelled_eq he hu hv).2.2
  have hc := h.count_spelled
  rw [he, List.count_append] at hc
  omega

theorem replace_spelled_of_ne (hne : h ≠ h') (new : List Char) : replace h.spelled new h'.spelled = h'.spelled := by
  have hp : (h.name.toList ++ ['\x7d']).isPrefixOf (h'.name.toList ++ ['\x7d']) = false := by
    cases h <;> cases h' <;> first | exact absurd rfl hne | rfl
  have hm : '\x7b' ∉ h'.name.toList ++ ['\x7d'] := by simp [h'.not_mem_name.1]
  simp only [spelled, replace, replaceFrom, hp, Text.replaceFrom_of_not_mem hm]
  simp

end Hole

/-! ## One hole after the other -/

namespace Hole

/-- The value given first for a hole. -/
def valueIn (values : List (Hole × String)) (h : Hole) : String := (values.lookup h).getD ""

theorem valueIn_of_forall {values : List (Hole × String)} {P : String → Prop} (h : ∀ v ∈ values, P v.2) (he : P "")
    (hole : Hole) : P (hole.valueIn values) := by
  rw [valueIn]
  cases hl : values.lookup hole with
  | none => exact he
  | some v =>
      obtain ⟨front, back, rfl, -⟩ := List.lookup_eq_some_iff.1 hl
      exact h (hole, v) (List.mem_append_right _ (List.mem_cons_self ..))

end Hole

namespace Template

/-- The texts make no lines and no blocks, and the holes are among those listed. -/
def IsOver (holes : List Hole) (t : Template) : Prop :=
  ∀ piece ∈ t, match piece with
    | .text s => IsInline s
    | .hole h => h ∈ holes

instance (holes : List Hole) (t : Template) : Decidable (t.IsOver holes) :=
  @List.decidableBAll _ _ (fun
    | .text s => inferInstanceAs (Decidable (IsInline s))
    | .hole h => inferInstanceAs (Decidable (h ∈ holes))) t

/-- No text opens a hole, and the holes are among those listed. -/
def Takes (holes : List Hole) (t : Template) : Prop :=
  ∀ piece ∈ t, match piece with
    | .text s => Lacks '\x7b' s
    | .hole h => h ∈ holes

/-- The template with a value in the place of a hole. -/
def put (h : Hole) (v : String) (t : Template) : Template :=
  t.map fun
    | .text s => .text s
    | .hole h' => if h' = h then .text v else .hole h'

variable {h : Hole} {v : String} {t : Template} {holes : List Hole}

theorem IsOver.takes (ht : t.IsOver holes) : t.Takes holes := by
  intro piece hp
  have hover := ht piece hp
  cases piece with
  | text s => exact hover.opens_nothing
  | hole h => exact hover

theorem replace_text {s : List Char} (hs : '\x7b' ∉ s) (new xs : List Char) :
    replace h.spelled new (s ++ xs) = s ++ replace h.spelled new xs := by
  have hn : ¬ Straddles h.spelled s xs := by
    rintro ⟨u, w, he, hu, hw, hx, -⟩
    exact hs (hx.subset (Hole.braces_of_spelled_eq he hu hw).1)
  have hr : replace h.spelled new s = s := Text.replaceFrom_of_not_mem hs
  rw [replace_append hn, hr]

theorem replace_spelled (ht : t.Takes holes) (h : Hole) (v : String) :
    replace h.spelled v.toList t.spelled = (t.put h v).spelled := by
  induction t with
  | nil => exact Text.replace_nil_text _ _
  | cons piece t ih =>
      obtain ⟨hp, hrest⟩ := List.forall_mem_cons.1 ht
      cases piece with
      | text s =>
          have hc : spelled (.text s :: t) = s.toList ++ spelled t := rfl
          rw [hc, replace_text hp, ih hrest]
          rfl
      | hole h' =>
          have hc : spelled (.hole h' :: t) = h'.spelled ++ spelled t := rfl
          by_cases he : h' = h
          · subst he
            rw [hc, Text.replace_self_append h'.spelled_ne_nil, ih hrest]
            simp [put, spelled]
          · rw [hc, replace_append (h.not_straddles h' _), Hole.replace_spelled_of_ne (Ne.symm he), ih hrest]
            simp [put, spelled, he]

theorem Takes.put (ht : t.Takes (h :: holes)) (hv : Lacks '\x7b' v) : (t.put h v).Takes holes := by
  intro piece hm
  obtain ⟨piece, hp, rfl⟩ := List.mem_map.1 hm
  have htakes := ht piece hp
  cases piece with
  | text s => exact htakes
  | hole h' =>
      by_cases he : h' = h
      · simpa [he] using hv
      · simpa [he] using htakes

theorem fill_put (values : List (Hole × String)) :
    (t.put h v).fill (Hole.valueIn values) = t.fill (Hole.valueIn ((h, v) :: values)) := by
  rw [fill, fill, put, List.flatMap_map, List.flatMap_def, List.flatMap_def]
  congr 2
  refine List.map_congr_left fun piece _ => ?_
  cases piece with
  | text s => rfl
  | hole h' =>
      by_cases he : h' = h
      · simp [he, Hole.valueIn]
      · have hb : (h' == h) = false := by simpa using he
        simp [he, hb, Hole.valueIn, List.lookup_cons]

theorem lineBreak_not_mem_spelled (ht : t.IsOver holes) : '\n' ∉ t.spelled := by
  intro hm
  obtain ⟨piece, hp, hm⟩ := List.mem_flatMap.1 hm
  have hover := ht piece hp
  cases piece with
  | text s => exact hover.isLine hm
  | hole h =>
      revert hm
      cases h <;> decide

/-- Filling in turn is filling at once. -/
theorem fillInTurn_eq_fill {values : List (Hole × String)} (ht : t.Takes (values.map (·.1)))
    (hv : ∀ v ∈ values, Lacks '\x7b' v.2) : t.fillInTurn values = t.fill (Hole.valueIn values) := by
  rw [fillInTurn_eq]
  induction values generalizing t with
  | nil =>
      rw [fill, spelled, List.flatMap_def, List.flatMap_def]
      refine congrArg (fun texts => String.ofList (List.flatten texts)) (List.map_congr_left fun piece hm => ?_)
      have htakes := ht piece hm
      cases piece with
      | text s => rfl
      | hole h => cases htakes
  | cons value values ih =>
      obtain ⟨h, v⟩ := value
      rw [List.forall_mem_cons] at hv
      rw [fillText_cons, replace_spelled ht, ih (ht.put hv.1) hv.2, fill_put]

theorem fill_cons_text (s : String) (t : Template) (values : Hole → String) :
    fill (.text s :: t) values = s ++ t.fill values := by
  simp [fill]

theorem fill_cons_hole (h : Hole) (t : Template) (values : Hole → String) :
    fill (.hole h :: t) values = values h ++ t.fill values := by
  simp [fill]

theorem lacks_fill {c : Char} {values : Hole → String} (hc : c ∈ Text.structural) (ht : t.IsOver holes)
    (hv : ∀ h, Lacks c (values h)) : Lacks c (t.fill values) := by
  induction t with
  | nil => exact Text.lacks_empty
  | cons piece t ih =>
      obtain ⟨hp, hrest⟩ := List.forall_mem_cons.1 ht
      cases piece with
      | text s =>
          rw [fill_cons_text]
          exact Text.lacks_append.2 ⟨hp c hc, ih hrest⟩
      | hole h =>
          rw [fill_cons_hole]
          exact Text.lacks_append.2 ⟨hv h, ih hrest⟩

theorem isInline_fill {values : Hole → String} (ht : t.IsOver holes) (hv : ∀ h, IsInline (values h)) :
    IsInline (t.fill values) :=
  fun c hc => lacks_fill hc ht fun h => hv h c hc

end Template

/-! ## Templates of families -/

namespace Family

/-- The holes of templates for reading, in the order in which they are filled. -/
def readHoles : List Hole := [.source, .loader, .cast, .raw, .typeArguments, .helper]

/-- The holes of templates for writing, in the order in which they are filled. -/
def writeHoles : List Hole := [.target, .flags, .value, .helper]

theorem isOver_templates (f : Family) : f.encoding.read.IsOver readHoles ∧ f.encoding.write.IsOver writeHoles := by
  cases f with
  | primitive k | boxed k => cases k <;> decide +kernel
  | _ => decide +kernel

theorem readExpression_eq_fill (f : Family) (s : Imports) {declared : JavaType}
    (h : ∀ v ∈ (f.readValues s declared).1, Lacks '\x7b' v.2) :
    (f.readExpression s declared).1 = f.encoding.read.fill (Hole.valueIn (f.readValues s declared).1) :=
  Template.fillInTurn_eq_fill f.isOver_templates.1.takes h

theorem writeStatement_eq_fill (f : Family) (s : Imports) {accessor : String}
    (h : ∀ v ∈ (f.writeValues s accessor).1, Lacks '\x7b' v.2) :
    (f.writeStatement s accessor).1 = f.encoding.write.fill (Hole.valueIn (f.writeValues s accessor).1) :=
  Template.fillInTurn_eq_fill f.isOver_templates.2.takes h

end Family

end ValueParcel
