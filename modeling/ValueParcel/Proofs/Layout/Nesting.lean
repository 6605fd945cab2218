import ValueParcel.Proofs.Layout.Rows
import ValueParcel.Text.Blank

/-!
Blocks in text. A brace at the end of a line opens a block and one at the head of a line closes it, and a line stands one
step to the right for each block around it. Arguments of a call that have lines of their own stand two steps further in.
-/

namespace ValueParcel

open Text (Lacks IsInline)

/-! ## Nested text -/

namespace Nested

/-- A line without the blanks at its head. -/
def content (line : List Char) : List Char := line.dropWhile Text.isBlank

/-- The line before the arguments of a call. -/
def callHead (className : String) : String := "return new " ++ className ++ "("

/-- The line behind the arguments of a call. -/
def callEnd : String := ");"

/-- The last of the lines above that are the head or the end of a call is a head. -/
def inArguments (className : String) (above : List (List Char)) : Bool :=
  ((above.map content).filter fun t => t = (callHead className).toList || t = callEnd.toList).getLast? =
    some (callHead className).toList

/-- The line is as deep as the lines above it say: one step for each brace that is open, less one if the line closes it, and
two more for an argument of a call. -/
def Stands (i : Indent) (className : String) (above : List (List Char)) (line : List Char) : Prop :=
  ∃ depth, line = Margin.steps i depth ++ content line ∧ content line ≠ [] ∧
    depth + above.flatten.count '\x7d' + (if (content line).head? = some '\x7d' then 1 else 0) =
      above.flatten.count '\x7b' + (if inArguments className above ∧ content line ≠ callEnd.toList then 2 else 0)

end Nested

/-- The text is a structure of nested blocks: no brace closes what is not open, all are closed at the end, and each line
that is not empty stands where the lines above it say. -/
structure IsNested (i : Indent) (className : String) (text : List Char) : Prop where
  covered : ∀ before, before <+: text → before.count '\x7d' ≤ before.count '\x7b'
  closed : text.count '\x7d' = text.count '\x7b'
  placed : ∃ lines : List (List Char), text = lines.flatMap (· ++ ['\n']) ∧ (∀ line ∈ lines, '\n' ∉ line) ∧
    ∀ above line below, lines = above ++ line :: below → line ≠ [] → Nested.Stands i className above line

namespace Nested

/-! ## Heads of lines -/

/-- No blank comes first. -/
def IsFlush (t : String) : Prop := ∀ c ∈ t.toList.head?, Text.isBlank c = false

instance (t : String) : Decidable (IsFlush t) := Option.decidableForallMem _

theorem content_append {margin t : List Char} (hm : ∀ c ∈ margin, Text.isBlank c = true)
    (ht : ∀ c ∈ t.head?, Text.isBlank c = false) : content (margin ++ t) = t := by
  rw [content, List.dropWhile_append_of_pos hm]
  cases t with
  | nil => rfl
  | cons c cs => rw [List.dropWhile_cons_of_neg (by simpa using ht c rfl)]

theorem eq_of_mem_steps {i : Indent} {depth : Nat} {c : Char} (h : c ∈ Margin.steps i depth) : c = '\t' ∨ c = ' ' := by
  obtain ⟨unit, hu, hc⟩ := List.mem_flatten.1 h
  rw [List.eq_of_mem_replicate hu] at hc
  cases i with
  | tab => exact .inl (List.mem_singleton.1 hc)
  | spaces count => exact .inr (List.eq_of_mem_replicate hc)

theorem isBlank_of_mem_steps {i : Indent} {depth : Nat} {c : Char} (h : c ∈ Margin.steps i depth) :
    Text.isBlank c = true := by
  rcases eq_of_mem_steps h with rfl | rfl <;> decide

theorem count_steps {i : Indent} {depth : Nat} {c : Char} (hc : Text.isBlank c = false) :
    (Margin.steps i depth).count c = 0 := by
  refine List.count_eq_zero.2 fun hm => ?_
  rw [isBlank_of_mem_steps hm] at hc
  exact Bool.noConfusion hc

/-- A character that is no blank comes first. -/
def Begins (t : String) : Prop := ∃ c ∈ t.toList.head?, Text.isBlank c = false

instance (t : String) : Decidable (Begins t) := Option.decidableExistsMem _

theorem Begins.flush {t : String} (h : Begins t) : IsFlush t := by
  obtain ⟨c, hc, hb⟩ := h
  intro d hd
  cases Option.mem_unique hc hd
  exact hb

theorem Begins.append {s t : String} (h : Begins s) : Begins (s ++ t) := by
  obtain ⟨c, hc, hb⟩ := h
  refine ⟨c, ?_, hb⟩
  rw [String.toList_append, List.head?_append, Option.mem_def.1 hc]
  rfl

theorem IsFlush.begins {t : String} (h : IsFlush t) (ht : t ≠ "") : Begins t := by
  obtain ⟨c, cs, hl⟩ := List.exists_cons_of_ne_nil (mt String.toList_eq_nil_iff.1 ht)
  have hc : c ∈ t.toList.head? := by
    rw [hl]
    rfl
  exact ⟨c, hc, h c hc⟩

theorem IsFlush.append {s t : String} (h : IsFlush s) (ht : Begins t) : Begins (s ++ t) := by
  by_cases hs : s = ""
  · rwa [hs, String.empty_append]
  · exact (h.begins hs).append

theorem IsFlush.append_flush {s t : String} (h : IsFlush s) (ht : IsFlush t) : IsFlush (s ++ t) := by
  by_cases he : t = ""
  · rwa [he, String.append_empty]
  · exact (h.append (ht.begins he)).flush

theorem getLast?_append {s t : String} {c : Char} (h : t.toList.getLast? = some c) :
    (s ++ t).toList.getLast? = some c := by
  rw [String.toList_append, List.getLast?_append, h, Option.some_or]

theorem getLast?_callHead (className : String) : (callHead className).toList.getLast? = some '(' :=
  getLast?_append rfl

theorem inArguments_concat (className : String) (above : List (List Char)) (line : List Char) :
    inArguments className (above ++ [line]) =
      (content line = (callHead className).toList || inArguments className above && content line ≠ callEnd.toList) := by
  have hne : callEnd.toList ≠ (callHead className).toList := by
    intro he
    have := congrArg List.head? he
    simp [callHead, callEnd] at this
  rw [inArguments, List.map_append, List.filter_append, List.map_singleton]
  by_cases hh : content line = (callHead className).toList
  · rw [List.filter_cons_of_pos (by simp [hh]), List.getLast?_append]
    simp [hh]
  · by_cases he : content line = callEnd.toList
    · rw [List.filter_cons_of_pos (by simp [he]), List.getLast?_append]
      simp [he, hne]
    · rw [List.filter_cons_of_neg (by simp [hh, he]), List.filter_nil, List.append_nil, ← inArguments]
      simp [hh, he]

end Nested

namespace Row

/-- The row as a line of the text. -/
def line (i : Indent) (r : Row) : List Char :=
  (if r.text.toList = [] then [] else Margin.steps i r.depth) ++ r.text.toList

theorem symbols_eq (i : Indent) (r : Row) : r.symbols i = r.line i ++ ['\n'] := by
  rw [symbols, line, List.append_assoc]

theorem symbolsOfList_eq (i : Indent) (rows : List Row) : symbolsOfList i rows = (rows.map (line i)).flatMap (· ++ ['\n']) := by
  simp only [symbolsOfList, List.flatMap_map, ← symbols_eq]

variable {i : Indent} {r : Row}

theorem count_line {c : Char} (hc : Text.isBlank c = false) : (r.line i).count c = r.text.toList.count c := by
  rw [line, List.count_append]
  split
  · rw [List.count_nil, Nat.zero_add]
  · rw [Nested.count_steps hc, Nat.zero_add]

theorem count_symbols {c : Char} (hc : Text.isBlank c = false) : (r.symbols i).count c = r.text.toList.count c := by
  have hn : c ≠ '\n' := by
    rintro rfl
    exact absurd hc (by decide)
  rw [symbols_eq, List.count_append, count_line hc, List.count_cons_of_ne hn.symm]
  rfl

theorem lineBreak_not_mem_line (h : r.IsLine) : '\n' ∉ r.line i := by
  intro hm
  rcases List.mem_append.1 hm with hm | hm
  · split at hm
    · cases hm
    · exact absurd (Nested.eq_of_mem_steps hm) (by decide)
  · exact h hm

theorem content_line (h : Nested.IsFlush r.text) : Nested.content (r.line i) = r.text.toList := by
  refine Nested.content_append (fun c hc => ?_) h
  split at hc
  · cases hc
  · exact Nested.isBlank_of_mem_steps hc

end Row

/-! ## Levels -/

/-- Where the next line stands: the blocks around it, and whether it is an argument of a call. -/
structure Level where
  depth : Nat
  inArguments : Bool := false

namespace Level

open Nested (IsFlush Begins callHead callEnd getLast?_append getLast?_callHead)

/-- The level behind a line. -/
def next (className : String) (l : Level) (t : String) : Level :=
  ⟨l.depth + t.toList.count '\x7b' - t.toList.count '\x7d', t = callHead className || l.inArguments && t ≠ callEnd⟩

/-- The row can stand at the level. -/
structure Fits (l : Level) (r : Row) : Prop where
  isLine : r.IsLine
  flush : IsFlush r.text
  closes : r.text.toList.count '\x7d' ≤ l.depth
  depth : r.text ≠ "" → r.depth + (if r.text.toList.head? = some '\x7d' then 1 else 0) =
    l.depth + (if l.inArguments ∧ r.text ≠ callEnd then 2 else 0)

/-- The rows lead from one level to another. -/
inductive Leads (className : String) : Level → List Row → Level → Prop
  | nil (l : Level) : Leads className l [] l
  | cons {l l' : Level} {r : Row} {rows : List Row} (fits : l.Fits r) (rest : Leads className (l.next className r.text) rows l') :
    Leads className l (r :: rows) l'

namespace Leads

variable {className : String} {i : Indent} {l l' l'' : Level} {rows rows' : List Row}

theorem single {r : Row} (fits : l.Fits r) (hn : l.next className r.text = l') : Leads className l [r] l' :=
  .cons fits (hn ▸ .nil _)

theorem append (h : Leads className l rows l') (h' : Leads className l' rows' l'') :
    Leads className l (rows ++ rows') l'' := by
  induction h with
  | nil => exact h'
  | cons fits _ ih => exact .cons fits (ih h')

theorem isLine (h : Leads className l rows l') : ∀ r ∈ rows, r.IsLine := by
  induction h with
  | nil => nofun
  | cons fits _ ih => exact List.forall_mem_cons.2 ⟨fits.isLine, ih⟩

theorem count (h : Leads className l rows l') : l'.depth + (Row.symbolsOfList i rows).count '\x7d' =
    l.depth + (Row.symbolsOfList i rows).count '\x7b' := by
  induction h with
  | nil => rfl
  | @cons l l' r rows fits _ ih =>
      have hc := fits.closes
      have ho := @Row.count_symbols i r '\x7b' (by decide)
      have he := @Row.count_symbols i r '\x7d' (by decide)
      simp only [Row.symbolsOfList, List.flatMap_cons, List.count_append, next] at ih ⊢
      omega

theorem covered (h : Leads className l rows l') {before : List Char} (hb : before <+: Row.symbolsOfList i rows) :
    before.count '\x7d' ≤ l.depth + before.count '\x7b' := by
  induction h generalizing before with
  | nil =>
      rw [List.prefix_nil.1 hb]
      exact Nat.zero_le _
  | @cons l l' r rows fits _ ih =>
      have hc := fits.closes
      have ho := @Row.count_symbols i r '\x7b' (by decide)
      have he := @Row.count_symbols i r '\x7d' (by decide)
      rw [Row.symbolsOfList, List.flatMap_cons] at hb
      rcases List.prefix_or_prefix_of_prefix hb (List.prefix_append _ _) with hp | ⟨rest, rfl⟩
      · have hle := hp.sublist.count_le '\x7d'
        omega
      · have hr := ih ((List.prefix_append_right_inj _).1 hb)
        simp only [next] at hr
        rw [List.count_append, List.count_append]
        omega

end Leads

/-- The level is that behind the lines above. -/
structure IsBehind (className : String) (above : List (List Char)) (l : Level) : Prop where
  depth : l.depth + above.flatten.count '\x7d' = above.flatten.count '\x7b'
  inArguments : l.inArguments = Nested.inArguments className above

namespace IsBehind

variable {className : String} {i : Indent} {above : List (List Char)} {l l' : Level} {r : Row} {rows : List Row}

theorem start : IsBehind className [] ⟨0, false⟩ := ⟨rfl, by simp [Nested.inArguments]⟩

theorem next (h : IsBehind className above l) (fits : l.Fits r) :
    IsBehind className (above ++ [r.line i]) (l.next className r.text) := by
  constructor
  case depth =>
    have hd := h.depth
    have hc := fits.closes
    simp only [Level.next, List.flatten_append, List.flatten_singleton, List.count_append]
    rw [@Row.count_line i r '\x7b' (by decide), @Row.count_line i r '\x7d' (by decide)]
    omega
  case inArguments =>
    simp only [Level.next, Nested.inArguments_concat, Row.content_line fits.flush, h.inArguments, ne_eq, String.toList_inj]

/-- A line that fits stands where the lines above it say. -/
theorem stands (h : IsBehind className above l) (fits : l.Fits r) (hr : r.line i ≠ []) :
    Nested.Stands i className above (r.line i) := by
  have ht : r.text.toList ≠ [] := by
    intro ht
    simp [Row.line, ht] at hr
  have hd := h.depth
  have hf := fits.depth (by simpa using ht)
  refine ⟨r.depth, ?_, ?_, ?_⟩
  · rw [Row.content_line fits.flush, Row.line, if_neg ht]
  · rwa [Row.content_line fits.flush]
  · rw [Row.content_line fits.flush, ← h.inArguments]
    simp only [ne_eq, String.toList_inj] at hf ⊢
    omega

theorem stands_of_leads (h : IsBehind className above l) (hl : Leads className l rows l') {before below : List Row}
    (he : rows = before ++ r :: below) (hr : r.line i ≠ []) :
    Nested.Stands i className (above ++ before.map (Row.line i)) (r.line i) := by
  induction hl generalizing above before with
  | nil => simp at he
  | @cons l l' first rows fits _ ih =>
      cases before with
      | nil =>
          obtain ⟨rfl, -⟩ := List.cons.inj he
          rw [List.map_nil, List.append_nil]
          exact h.stands fits hr
      | cons b before =>
          obtain ⟨rfl, hrest⟩ := List.cons.inj he
          have := ih (@next _ i _ _ _ h fits) hrest
          rwa [List.append_assoc] at this

end IsBehind

/-! ## Blocks of rows -/

/-- The rows stand `depth` steps in and leave nothing open. -/
def Keeps (className : String) (depth : Nat) (rows : List Row) : Prop := Leads className ⟨depth, false⟩ rows ⟨depth, false⟩

/-- A line that opens and closes nothing. -/
structure IsStatement (t : String) : Prop where
  inline : IsInline t
  flush : IsFlush t
  last : t.toList.getLast? ≠ some '('
  ne_end : t ≠ callEnd

instance (t : String) : Decidable (IsStatement t) :=
  decidable_of_iff (IsInline t ∧ IsFlush t ∧ t.toList.getLast? ≠ some '(' ∧ t ≠ callEnd)
    ⟨fun ⟨hb, hf, hl, he⟩ => ⟨hb, hf, hl, he⟩, fun ⟨hb, hf, hl, he⟩ => ⟨hb, hf, hl, he⟩⟩

/-- A line that opens a block. -/
structure IsOpening (t : String) : Prop where
  begins : Begins t
  isLine : Lacks '\n' t
  closes : Lacks '\x7d' t
  opens : t.toList.count '\x7b' = 1
  last : t.toList.getLast? = some '\x7b'

/-- A line that closes a block. -/
def IsClosing (t : String) : Prop := ∃ trailer, t = "\x7d" ++ trailer ∧ IsInline trailer

section Rows

variable {className t : String} {depth : Nat} {rows rows' : List Row}

theorem head?_ne_of_lacks {c : Char} (h : Lacks c t) : t.toList.head? ≠ some c :=
  fun hc => h (List.mem_of_head? hc)

theorem count_eq_zero_of_lacks {c : Char} (h : Lacks c t) : t.toList.count c = 0 := List.count_eq_zero.2 h

theorem IsStatement.ne_head (h : IsStatement t) : t ≠ callHead className := by
  rintro rfl
  exact h.last (getLast?_callHead className)

theorem IsStatement.next (h : IsStatement t) (l : Level) : l.next className t = l := by
  simp [Level.next, count_eq_zero_of_lacks h.inline.opens_nothing, count_eq_zero_of_lacks h.inline.closes_nothing,
    h.ne_head, h.ne_end]

theorem IsStatement.fits (h : IsStatement t) {l : Level}
    (hd : depth = l.depth + if l.inArguments then 2 else 0) : l.Fits ⟨depth, t⟩ := by
  have hc := h.inline.closes_nothing
  refine ⟨h.inline.isLine, h.flush, ?_, fun _ => ?_⟩
  · simp [count_eq_zero_of_lacks hc]
  · simp [head?_ne_of_lacks hc, h.ne_end, hd]

theorem leads_statements {l : Level}
    (h : ∀ r ∈ rows, r.depth = l.depth + (if l.inArguments then 2 else 0) ∧ IsStatement r.text) :
    Leads className l rows l := by
  induction rows with
  | nil => exact .nil _
  | cons r rows ih =>
      obtain ⟨⟨hd, hs⟩, hrest⟩ := List.forall_mem_cons.1 h
      refine .cons (hs.fits hd) ?_
      rw [hs.next]
      exact ih hrest

theorem Keeps.nil : Keeps className depth [] := Leads.nil _

theorem Keeps.append (h : Keeps className depth rows) (h' : Keeps className depth rows') :
    Keeps className depth (rows ++ rows') := Leads.append h h'

theorem Keeps.flatten {blocks : List (List Row)} (h : ∀ b ∈ blocks, Keeps className depth b) :
    Keeps className depth blocks.flatten := by
  induction blocks with
  | nil => exact .nil
  | cons b blocks ih =>
      rw [List.forall_mem_cons] at h
      exact h.1.append (ih h.2)

theorem Keeps.statements (h : ∀ r ∈ rows, r.depth = depth ∧ IsStatement r.text) : Keeps className depth rows :=
  leads_statements h

theorem Keeps.statement (h : IsStatement t) : Keeps className depth [⟨depth, t⟩] :=
  .statements (List.forall_mem_singleton.2 ⟨rfl, h⟩)

/-- A line can begin with this: no blank, and not the parenthesis that ends a call. -/
def IsHead (s : String) : Prop := IsInline s ∧ ∃ c ∈ s.toList.head?, Text.isBlank c = false ∧ c ≠ ')'

instance (s : String) : Decidable (IsHead s) :=
  have : Decidable (∃ c ∈ s.toList.head?, Text.isBlank c = false ∧ c ≠ ')') := Option.decidableExistsMem _
  inferInstanceAs (Decidable (_ ∧ _))

theorem IsHead.begins {s : String} (h : IsHead s) : Begins s := by
  obtain ⟨-, c, hc, hb, -⟩ := h
  exact ⟨c, hc, hb⟩

theorem IsHead.append {s : String} (h : IsHead s) (ht : IsInline t) : IsHead (s ++ t) := by
  obtain ⟨hi, c, hc, hb⟩ := h
  refine ⟨Text.isInline_append.2 ⟨hi, ht⟩, c, ?_, hb⟩
  rw [String.toList_append, List.head?_append, Option.mem_def.1 hc]
  rfl

theorem IsHead.statement {s : String} (h : IsHead s) (ht : IsInline t ∧ t.toList.getLast? = some ';') :
    IsStatement (s ++ t) := by
  obtain ⟨hi, c, hc, -, hne⟩ := h.append ht.1
  refine ⟨hi, h.begins.append.flush, ?_, ?_⟩
  · rw [getLast?_append ht.2]
    decide
  · intro he
    rw [he] at hc
    exact hne (Option.some.inj hc).symm

theorem IsOpening.append {s : String} (hs : Begins s) (hi : IsInline s)
    (ht : Lacks '\n' t ∧ Lacks '\x7d' t ∧ t.toList.count '\x7b' = 1 ∧ t.toList.getLast? = some '\x7b') :
    IsOpening (s ++ t) := by
  obtain ⟨hn, hc, ho, hl⟩ := ht
  refine ⟨hs.append, Text.lacks_append.2 ⟨hi.isLine, hn⟩, Text.lacks_append.2 ⟨hi.closes_nothing, hc⟩, ?_,
    getLast?_append hl⟩
  rw [String.toList_append, List.count_append, count_eq_zero_of_lacks hi.opens_nothing, ho]

theorem IsHead.opening {s : String} (h : IsHead s)
    (ht : Lacks '\n' t ∧ Lacks '\x7d' t ∧ t.toList.count '\x7b' = 1 ∧ t.toList.getLast? = some '\x7b') :
    IsOpening (s ++ t) := .append h.begins h.1 ht

theorem leads_opening (h : IsOpening t) : Leads className ⟨depth, false⟩ [⟨depth, t⟩] ⟨depth + 1, false⟩ := by
  have hn : t ≠ callHead className := by
    rintro rfl
    have hl := h.last
    rw [getLast?_callHead] at hl
    simp at hl
  refine .single ⟨h.isLine, h.begins.flush, ?_, fun _ => ?_⟩ ?_
  · rw [count_eq_zero_of_lacks h.closes]
    exact Nat.zero_le _
  · simp only [if_neg (head?_ne_of_lacks h.closes)]
    rfl
  · simp only [next, h.opens, count_eq_zero_of_lacks h.closes, decide_eq_false hn]
    rfl

theorem leads_closing (h : IsClosing t) : Leads className ⟨depth + 1, false⟩ [⟨depth, t⟩] ⟨depth, false⟩ := by
  obtain ⟨trailer, rfl, hi⟩ := h
  have hl : ("\x7d" ++ trailer).toList = '\x7d' :: trailer.toList := by
    rw [String.toList_append]
    rfl
  have hn : "\x7d" ++ trailer ≠ callHead className := by
    intro he
    have := congrArg (fun s => s.toList.head?) he
    simp [callHead] at this
  have hopen : ('\x7d' :: trailer.toList).count '\x7b' = 0 := by simp [count_eq_zero_of_lacks hi.opens_nothing]
  have hclose : ('\x7d' :: trailer.toList).count '\x7d' = 1 := by simp [count_eq_zero_of_lacks hi.closes_nothing]
  refine .single ⟨?_, ?_, ?_, fun _ => ?_⟩ ?_
  · exact Text.lacks_append.2 ⟨by decide, hi.isLine⟩
  · rw [IsFlush, hl]
    simp +decide
  · rw [hl, hclose]
    exact Nat.le_add_left 1 depth
  · rw [hl]
    rfl
  · simp only [next, hl, hopen, hclose, decide_eq_false hn]
    rfl

/-- The line ends a block and opens another one. -/
theorem leads_turning : Leads className ⟨depth + 1, false⟩ [⟨depth, "\x7d else \x7b"⟩] ⟨depth + 1, false⟩ := by
  have hn : "\x7d else \x7b" ≠ callHead className := by
    intro he
    have := congrArg (fun s => s.toList.head?) he
    simp [callHead] at this
  have hl : Lacks '\n' "\x7d else \x7b" := by decide
  have hf : IsFlush "\x7d else \x7b" := by decide
  refine .single ⟨hl, hf, ?_, fun _ => ?_⟩ ?_
  · simp
  · simp
  · simp [next, hn]

theorem Keeps.block {t' : String} (h : IsOpening t) (hr : Keeps className (depth + 1) rows) (h' : IsClosing t') :
    Keeps className depth ([⟨depth, t⟩] ++ rows ++ [⟨depth, t'⟩]) :=
  ((leads_opening h).append hr).append (leads_closing h')

theorem Keeps.either {t' : String} (h : IsOpening t) (hr : Keeps className (depth + 1) rows)
    (hr' : Keeps className (depth + 1) rows') (h' : IsClosing t') :
    Keeps className depth ([⟨depth, t⟩] ++ rows ++ [⟨depth, "\x7d else \x7b"⟩] ++ rows' ++ [⟨depth, t'⟩]) :=
  ((((leads_opening h).append hr).append leads_turning).append hr').append (leads_closing h')

theorem Keeps.call (hc : IsInline className)
    (h : ∀ r ∈ rows, r.depth = depth + 2 ∧ IsStatement r.text) :
    Keeps className depth ([⟨depth, callHead className⟩] ++ rows ++ [⟨depth, callEnd⟩]) := by
  have hi : IsInline (callHead className) := by simp +decide [callHead, hc]
  have hflush : IsFlush (callHead className) := (show Begins "return new " by decide).append.append.flush
  have hne : callHead className ≠ callEnd := by
    intro he
    have := congrArg (fun s => s.toList.head?) he
    simp [callHead, callEnd] at this
  have hhead : Leads className ⟨depth, false⟩ [⟨depth, callHead className⟩] ⟨depth, true⟩ := by
    refine .single ⟨hi.isLine, hflush, ?_, fun _ => ?_⟩ ?_
    · simp [count_eq_zero_of_lacks hi.closes_nothing]
    · simp [head?_ne_of_lacks hi.closes_nothing]
    · simp [next, count_eq_zero_of_lacks hi.opens_nothing, count_eq_zero_of_lacks hi.closes_nothing]
  have hend : Leads className ⟨depth, true⟩ [⟨depth, callEnd⟩] ⟨depth, false⟩ := by
    have hi : IsInline callEnd := by decide
    refine .single ⟨hi.isLine, (by decide : IsFlush callEnd), ?_, fun _ => ?_⟩ ?_
    · simp [count_eq_zero_of_lacks hi.closes_nothing]
    · simp [head?_ne_of_lacks hi.closes_nothing]
    · simp [next, count_eq_zero_of_lacks hi.opens_nothing, count_eq_zero_of_lacks hi.closes_nothing, hne.symm]
  exact (hhead.append (leads_statements h)).append hend

end Rows

/-- Rows that lead from the left margin back to it are a nested text. -/
theorem Leads.isNested {className : String} {rows : List Row} (h : Leads className ⟨0, false⟩ rows ⟨0, false⟩)
    (i : Indent) : IsNested i className (Row.symbolsOfList i rows) := by
  refine ⟨fun before hb => ?_, ?_, rows.map (Row.line i), Row.symbolsOfList_eq i rows, ?_, ?_⟩
  · simpa using h.covered hb
  · simpa using h.count
  · intro line hm
    obtain ⟨r, hrow, rfl⟩ := List.mem_map.1 hm
    exact Row.lineBreak_not_mem_line (h.isLine r hrow)
  · intro above line below he hl
    obtain ⟨before, rest, rfl, rfl, hrest⟩ := List.map_eq_append_iff.1 he
    obtain ⟨r, below, rfl, rfl, rfl⟩ := List.map_eq_cons_iff.1 hrest
    have := IsBehind.start.stands_of_leads h rfl hl
    rwa [List.nil_append] at this

end Level

end ValueParcel
