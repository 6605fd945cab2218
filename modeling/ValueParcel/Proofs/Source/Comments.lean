import Mathlib.Data.List.Chain
import ValueParcel.Proofs.Source.SlotBySlot
import ValueParcel.Proofs.Text.Replacement

/-!
Documentation comments. The comment stands between the imports and the class. It is one comment with an asterisk before
each line if and only if, in the text of the documentation, no blank line comes first or right below another and nothing
ends a comment.
-/

namespace ValueParcel

/-- A documentation comment: the first line opens it, each line below has an asterisk before it, and it ends where the text
ends and not before. -/
structure IsJavadoc (text : List Char) : Prop where
  lines : ∃ rest, text.splitOn '\n' = "/**".toList :: rest ∧ ∀ line ∈ rest, " *".toList <+: line
  ends : "*/".toList <:+ text
  once : ∀ before after, text = before ++ "*/".toList ++ after → after = []

namespace Comment

def IsBlankLine (line : List Char) : Prop := ∀ c ∈ line, Text.isBlank c = true

instance (line : List Char) : Decidable (IsBlankLine line) :=
  decidable_of_iff (line.all Text.isBlank = true) List.all_eq_true

/-- No blank line comes first, and none stands right below another. -/
structure HasLoneBlanks (lines : List (List Char)) : Prop where
  first : ∀ line ∈ lines.head?, ¬ IsBlankLine line
  below : lines.IsChain fun above line => IsBlankLine line → ¬ IsBlankLine above

instance (lines : List (List Char)) : Decidable (HasLoneBlanks lines) :=
  decidable_of_iff (_ ∧ _) ⟨fun h => HasLoneBlanks.mk h.1 h.2, fun h => ⟨h.first, h.below⟩⟩

/-! ## The lines of the comment -/

/-- A line as it stands in the comment before the empty ones get their asterisks. -/
def indented (line : List Char) : List Char := if line.any (!Text.isBlank ·) then " * ".toList ++ line else []

/-- An empty line right below another gets an asterisk, and the line after the two is the next to be looked at. -/
def starred : List (List Char) → List (List Char)
  | line :: [] :: rest => line :: " *".toList :: starred rest
  | line :: rest => line :: starred rest
  | [] => []

theorem indented_eq_nil_iff {line : List Char} : indented line = [] ↔ IsBlankLine line := by
  unfold indented IsBlankLine
  split <;> simp_all

theorem lineBreak_not_mem_lines {text line : List Char} (h : line ∈ lines text) : '\n' ∉ line := by
  fun_induction lines text generalizing line <;> grind

theorem lineBreak_not_mem_indented {line : List Char} (h : '\n' ∉ line) : '\n' ∉ indented line := by
  unfold indented
  split
  · rw [List.mem_append, not_or]
    exact ⟨by decide, h⟩
  · exact List.not_mem_nil

theorem mem_starred {ls : List (List Char)} {line : List Char} (h : line ∈ starred ls) :
    line ∈ ls ∨ line = " *".toList := by
  fun_induction starred ls <;> grind

/-- The search for pairs of line breaks goes through the lines as `starred` does. -/
theorem replace_flatMap {ls : List (List Char)} (h : ∀ l ∈ ls, '\n' ∉ l) :
    Text.replace "\n\n".toList "\n *\n".toList (ls.flatMap (· ++ ['\n'])) = (starred ls).flatMap (· ++ ['\n']) := by
  have hl : ∀ line ys : List Char, '\n' ∉ line →
      Text.replace "\n\n".toList "\n *\n".toList (line ++ ys) = line ++ Text.replace _ _ ys :=
    fun line ys hn => Text.replace_append_of_not_mem (by simpa using hn)
  fun_induction starred ls with
  | case1 line rest ih =>
      rw [List.forall_mem_cons, List.forall_mem_cons] at h
      -- both line breaks are spent on the pair, so none is left to begin one with the next empty line
      have ht : (line :: [] :: rest).flatMap (· ++ ['\n']) =
          line ++ ("\n\n".toList ++ rest.flatMap (· ++ ['\n'])) := by simp
      rw [ht, hl _ _ h.1, Text.replace_self_append (by decide), ih h.2.2]
      simp
  | case2 line rest hr ih =>
      rw [List.forall_mem_cons] at h
      -- the next line is not empty, so the line break before it begins no pair
      have hs : ¬ Text.Straddles "\n\n".toList ['\n'] (rest.flatMap (· ++ ['\n'])) := by
        intro hs
        obtain ⟨c, hc, hm⟩ := hs.exists_mem.2
        rcases rest with _ | ⟨_ | ⟨d, line'⟩, rest⟩
        · simp at hm
        · exact hr rest rfl
        · grind
      have ht : (line :: rest).flatMap (· ++ ['\n']) = line ++ (['\n'] ++ rest.flatMap (· ++ ['\n'])) := by simp
      rw [ht, hl _ _ h.1, Text.replace_append hs, ih h.2, Text.replace_of_not_contained (by decide)]
      simp
  | case3 => simp

theorem intercalate_lineBreak (ls : List (List Char)) (last : List Char) :
    ['\n'].intercalate (ls ++ [last]) = ls.flatMap (· ++ ['\n']) ++ last := by
  induction ls with
  | nil => simp
  | cons l ls ih =>
      rw [List.cons_append, List.intercalate_cons_of_ne_nil (by simp), ih]
      simp

theorem toList_block (doc : String) : (block doc).toList =
    "/**\n".toList ++ (starred ((lines doc.toList).map indented)).flatMap (· ++ ['\n']) ++ " */".toList := by
  have hm : (lines doc.toList).flatMap (marked " * ".toList) =
      ((lines doc.toList).map indented).flatMap (· ++ ['\n']) := by
    rw [List.flatMap_map]
    rfl
  have hn : ∀ l ∈ (lines doc.toList).map indented, '\n' ∉ l :=
    List.forall_mem_map.2 fun l hl => lineBreak_not_mem_indented (lineBreak_not_mem_lines hl)
  simp only [block, hm, replace_flatMap hn, String.toList_append, String.toList_ofList]

theorem splitOn_block (doc : String) : (block doc).toList.splitOn '\n' =
    "/**".toList :: (starred ((lines doc.toList).map indented) ++ [" */".toList]) := by
  have hs : ∀ l ∈ starred ((lines doc.toList).map indented), '\n' ∉ l := by
    intro l hl
    rcases mem_starred hl with hl | rfl
    · obtain ⟨line, hm, rfl⟩ := List.mem_map.1 hl
      exact lineBreak_not_mem_indented (lineBreak_not_mem_lines hm)
    · decide
  have hb : (block doc).toList =
      ['\n'].intercalate ("/**".toList :: starred ((lines doc.toList).map indented) ++ [" */".toList]) := by
    rw [intercalate_lineBreak, toList_block]
    simp
  have hn : ∀ l ∈ "/**".toList :: starred ((lines doc.toList).map indented) ++ [" */".toList], '\n' ∉ l := by
    simp only [List.cons_append, List.forall_mem_cons, List.forall_mem_append]
    exact ⟨by decide, hs, by decide⟩
  rw [hb, List.splitOn_intercalate _ hn (by simp), List.cons_append]

/-- The search leaves no line without an asterisk if and only if no empty line comes first or right below another. The empty
line that is put on top stands for what is not above the first one. -/
theorem forall_starred_iff {ls : List (List Char)} (h : ∀ l ∈ ls, l = [] ∨ " *".toList <+: l) :
    (∀ l ∈ starred ls, " *".toList <+: l) ↔ ([] :: ls).IsChain fun above line => line = [] → above ≠ [] := by
  have hn : ∀ l : List Char, (l = [] ∨ " *".toList <+: l) → (" *".toList <+: l ↔ l ≠ []) := by
    rintro l (rfl | hl)
    · decide
    · exact iff_of_true hl (by rintro rfl; simp at hl)
  fun_induction starred ls with
  | case1 line rest ih =>
      rw [List.forall_mem_cons, List.forall_mem_cons] at h
      simp only [List.forall_mem_cons, ih h.2.2, List.isChain_cons_cons, hn line h.1]
      simp
  | case2 line rest hr ih =>
      rw [List.forall_mem_cons] at h
      have hc : (line :: rest).IsChain (fun above line => line = [] → above ≠ []) ↔
          ([] :: rest).IsChain fun above line => line = [] → above ≠ [] := by
        rcases rest with _ | ⟨_ | ⟨c, cs⟩, rest⟩
        · simp
        · exact absurd rfl (hr rest)
        · simp
      simp only [List.forall_mem_cons, ih h.2, List.isChain_cons_cons, hc, hn line h.1]
      simp
  | case3 => simp

theorem isChain_indented_iff {lines : List (List Char)} :
    ([] :: lines.map indented).IsChain (fun above line => line = [] → above ≠ []) ↔ HasLoneBlanks lines := by
  simp only [List.isChain_cons, List.isChain_map, List.head?_map, Option.mem_def, Option.map_eq_some_iff, ne_eq,
    indented_eq_nil_iff]
  constructor
  · rintro ⟨hf, hb⟩
    exact ⟨fun line hl hi => hf _ ⟨line, hl, rfl⟩ (indented_eq_nil_iff.2 hi) trivial, hb⟩
  · rintro ⟨hf, hb⟩
    refine ⟨?_, hb⟩
    rintro _ ⟨line, hl, rfl⟩ hi
    exact absurd (indented_eq_nil_iff.1 hi) (hf line hl)

/-! ## Ends of comments -/

/-- No comment ends in the text. -/
def KeepsOpen (text : List Char) : Prop := text.IsChain fun c d => ¬ (c = '*' ∧ d = '/')

theorem KeepsOpen.nil : KeepsOpen [] := List.IsChain.nil

theorem keepsOpen_iff {text : List Char} : KeepsOpen text ↔ ¬ "*/".toList <:+: text := by
  rw [KeepsOpen, List.isChain_iff_forall_rel_of_append_cons_cons]
  constructor
  · rintro h ⟨before, after, rfl⟩
    exact h (List.append_assoc ..) ⟨rfl, rfl⟩
  · rintro h c d before after rfl ⟨rfl, rfl⟩
    exact h ⟨before, after, List.append_assoc ..⟩

theorem keepsOpen_cons {c : Char} {cs : List Char} :
    KeepsOpen (c :: cs) ↔ (c = '*' → cs.head? ≠ some '/') ∧ KeepsOpen cs := by
  rw [KeepsOpen, List.isChain_cons]
  cases cs <;> simp [KeepsOpen]

theorem lines_eq_nil {text : List Char} (h : lines text = []) : text = [] := by
  fun_cases lines text <;> grind [lines]

/-- The first line begins as the text does, unless a line break comes first, and then the line is empty. -/
theorem head?_lines {text first : List Char} {others : List (List Char)} (h : lines text = first :: others) :
    first.head? = some '/' ↔ text.head? = some '/' := by
  fun_cases lines text <;> grind [lines]

theorem keepsOpen_lines (text : List Char) : (∀ line ∈ lines text, KeepsOpen line) ↔ KeepsOpen text := by
  fun_induction lines text with
  | case1 => simp [KeepsOpen.nil]
  | case2 rest ih => simp [ih, keepsOpen_cons, KeepsOpen.nil]
  | case3 rest ih => simp [ih, keepsOpen_cons, KeepsOpen.nil]
  | case4 c rest hn hr first others hl ih =>
      rw [hl, List.forall_mem_cons] at ih
      rw [List.forall_mem_cons, keepsOpen_cons, keepsOpen_cons, ← ih, ne_eq, head?_lines hl, and_assoc]
  | case5 c rest hn hr hl ih =>
      cases lines_eq_nil hl
      simp

theorem keepsOpen_indented (line : List Char) : KeepsOpen (indented line) ↔ KeepsOpen line := by
  unfold indented
  split
  case isTrue h => simp [keepsOpen_cons]
  case isFalse h =>
    refine iff_of_true KeepsOpen.nil (keepsOpen_iff.2 fun hi => h (List.any_eq_true.2 ⟨'*', ?_, by decide⟩))
    exact hi.subset (by decide)

theorem keepsOpen_starred {ls : List (List Char)} :
    (∀ line ∈ starred ls, KeepsOpen line) ↔ ∀ line ∈ ls, KeepsOpen line := by
  fun_induction starred ls with
  | case1 line rest ih => simp [ih, keepsOpen_cons, KeepsOpen.nil]
  | case2 line rest hr ih => simp [ih]
  | case3 => simp

theorem keepsOpen_flatMap {ls : List (List Char)} :
    KeepsOpen (ls.flatMap (· ++ ['\n'])) ↔ ∀ line ∈ ls, KeepsOpen line := by
  induction ls with
  | nil => simp [KeepsOpen]
  | cons line ls ih =>
      rw [List.forall_mem_cons, ← ih]
      simp [KeepsOpen, List.isChain_append, List.isChain_cons]

theorem keepsOpen_iff_once {body : List Char} : KeepsOpen body ↔
    ∀ before after, body ++ "*/".toList = before ++ "*/".toList ++ after → after = [] := by
  constructor
  · intro h before after he
    by_contra hn
    -- less its last symbol, the text ends in a `*` and still has the two in it
    have hb : body ++ ['*'] = before ++ "*/".toList ++ after.dropLast := by
      have hd := congrArg List.dropLast he
      rwa [List.dropLast_append_of_ne_nil hn, List.dropLast_append_of_ne_nil (by decide)] at hd
    have ho : KeepsOpen (body ++ ['*']) := List.isChain_append.2 ⟨h, List.IsChain.singleton _, by simp⟩
    exact keepsOpen_iff.1 ho ⟨before, after.dropLast, hb.symm⟩
  · intro h
    refine keepsOpen_iff.2 ?_
    rintro ⟨before, after, rfl⟩
    have ha := h before (after ++ "*/".toList) (by simp)
    simp at ha

theorem keepsOpen_body (doc : String) :
    KeepsOpen ("/**\n".toList ++ (starred ((lines doc.toList).map indented)).flatMap (· ++ ['\n']) ++ " ".toList) ↔
      KeepsOpen doc.toList := by
  have hl : (∀ l ∈ (lines doc.toList).map indented, KeepsOpen l) ↔ KeepsOpen doc.toList := by
    simp only [List.forall_mem_map, keepsOpen_indented, keepsOpen_lines]
  rw [← hl, ← keepsOpen_starred, ← keepsOpen_flatMap]
  simp [KeepsOpen, List.isChain_append, List.isChain_cons]

/-! ## The comment -/

/-- The block is well formed if and only if the search finds every blank line and no line ends the comment. -/
theorem isJavadoc_block_iff (doc : String) :
    IsJavadoc (block doc).toList ↔ HasLoneBlanks (lines doc.toList) ∧ ¬ "*/".toList <:+: doc.toList := by
  have hm : ∀ l ∈ (lines doc.toList).map indented, l = [] ∨ " *".toList <+: l := by
    refine List.forall_mem_map.2 fun line _ => ?_
    unfold indented
    split
    · exact .inr ⟨' ' :: line, rfl⟩
    · exact .inl rfl
  have hl : (∃ rest, (block doc).toList.splitOn '\n' = "/**".toList :: rest ∧ ∀ line ∈ rest, " *".toList <+: line) ↔
      HasLoneBlanks (lines doc.toList) := by
    simp only [splitOn_block, List.cons.injEq, true_and, exists_eq_left', List.forall_mem_append, forall_starred_iff hm,
      isChain_indented_iff]
    exact and_iff_left (by decide)
  have hb := toList_block doc
  have he : " */".toList = " ".toList ++ "*/".toList := rfl
  rw [he, ← List.append_assoc] at hb
  have ho : (∀ before after, (block doc).toList = before ++ "*/".toList ++ after → after = []) ↔
      ¬ "*/".toList <:+: doc.toList := by
    rw [hb, ← keepsOpen_iff_once, keepsOpen_body, keepsOpen_iff]
  exact ⟨fun h => ⟨hl.1 h.lines, ho.1 h.once⟩, fun h => ⟨hl.2 h.1, ⟨_, hb.symm⟩, ho.2 h.2⟩⟩

end Comment

namespace ClassPlan

theorem exists_file_eq (p : ClassPlan) (config : Config) : ∃ s t members, p.file config =
    p.preamble s ++ ((config.comments.lookup p.valueClass).map fun doc => Code.line (Comment.block doc)).toList ++
      [Code.block (p.header t).1 members ""] :=
  ⟨_, _, _, (List.append_assoc ..).symm⟩

/-- The class begins on a line of its own, right below the comment if there is one. -/
theorem exists_source_eq (p : ClassPlan) (config : Config) : ∃ imports t below, p.source config =
    Row.render config.indent
      (Outline.openingRows p.package imports ((config.comments.lookup p.valueClass).map Comment.block)) ++
      ((p.header t).1 ++ below) := by
  obtain ⟨s, t, members, hf⟩ := p.exists_file_eq config
  have hr := rows_opening p s (config.comments.lookup p.valueClass)
  obtain ⟨below, hb⟩ := Code.exists_render_eq_append config.indent
    (fun r hm => .inl (Outline.depth_openingRows r (hr ▸ hm))) (p.header t).1 members ""
  exact ⟨s.imported, t, below, by rw [source, hf, hb, hr]⟩

theorem render_openingRows_some (i : Indent) (package : String) (imports : List String) (text : String) :
    Row.render i (Outline.openingRows package imports (some text)) =
      Row.render i (Outline.openingRows package imports none) ++ (text ++ "\n") := by
  rw [← String.toList_inj]
  simp [Outline.openingRows, Row.render, Row.symbolsOfList, Row.symbols, Margin.steps]

/-- The comment stands by itself between the imports and the class. It is well formed if and only if, in the text of the
documentation, no blank line comes first or right below another and nothing ends a comment. -/
theorem comment_isJavadoc_iff (p : ClassPlan) (config : Config) {doc : String}
    (h : config.comments.lookup p.valueClass = some doc) :
    (∃ imports below, p.source config =
        Row.render config.indent (Outline.openingRows p.package imports none) ++ Comment.block doc ++ "\n" ++ below ∧
      ((if p.isFinal then "final " else "") ++ "class " ++ p.className).toList <+: below.toList) ∧
    (IsJavadoc (Comment.block doc).toList ↔
      Comment.HasLoneBlanks (Comment.lines doc.toList) ∧ ¬ "*/".toList <:+: doc.toList) := by
  refine ⟨?_, Comment.isJavadoc_block_iff doc⟩
  obtain ⟨imports, t, below, hs⟩ := p.exists_source_eq config
  refine ⟨imports, (p.header t).1 ++ below, ?_, ?_⟩
  · rw [hs, h, Option.map_some, render_openingRows_some]
    simp only [String.append_assoc]
  · simp [header, String.toList_append, List.append_assoc]

/-- A plan for the documented class `music.Track`. -/
def documentedPlan : ClassPlan := { trackPlan with valueClass := "music.Track" }

def documented (doc : String) : Config := { comments := [("music.Track", doc)] }

theorem comment_isJavadoc_iff_track :
    (documented "A track.\n\nTags are free.").comments.lookup documentedPlan.valueClass =
        some "A track.\n\nTags are free." ∧
      IsJavadoc (Comment.block "A track.\n\nTags are free.").toList ∧
      ∃ imports below, documentedPlan.source (documented "A track.\n\nTags are free.") =
          Row.render (.spaces 2) (Outline.openingRows "music" imports none) ++
            Comment.block "A track.\n\nTags are free." ++ "\n" ++ below ∧
        "final class AutoValue_Track".toList <+: below.toList := by
  have hl : (documented "A track.\n\nTags are free.").comments.lookup documentedPlan.valueClass =
      some "A track.\n\nTags are free." := by decide
  have hd : Comment.lines "A track.\n\nTags are free.".toList = ["A track.".toList, [], "Tags are free.".toList] := by
    simp [Comment.lines]
  have he : ¬ "*/".toList <:+: "A track.\n\nTags are free.".toList :=
    fun h => absurd (h.subset (List.mem_cons_self ..)) (by decide)
  obtain ⟨hs, hj⟩ := comment_isJavadoc_iff documentedPlan (documented "A track.\n\nTags are free.") hl
  rw [hd] at hj
  exact ⟨hl, hj.2 ⟨by decide, he⟩, hs⟩

/-- The second of two blank lines is left empty. -/
theorem second_blank_line_is_empty :
    (documented "A point.\n\n\nCoordinates are in pixels.").comments.lookup documentedPlan.valueClass =
        some "A point.\n\n\nCoordinates are in pixels." ∧
      ¬ IsJavadoc (Comment.block "A point.\n\n\nCoordinates are in pixels.").toList := by
  have hd : Comment.lines "A point.\n\n\nCoordinates are in pixels.".toList =
      ["A point.".toList, [], [], "Coordinates are in pixels.".toList] := by
    simp [Comment.lines]
  rw [Comment.isJavadoc_block_iff, hd]
  exact ⟨by decide, fun h => absurd h.1 (by decide)⟩

end ClassPlan

end ValueParcel
