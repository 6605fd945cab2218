import ValueParcel.Proofs.Encoding.Filling
import ValueParcel.Proofs.Layout.Nesting
import ValueParcel.Proofs.Source.Asking

/-!
The blocks of a source file. Code of a property is a single statement, whatever its family; so each part of the class leaves
open what it found open, and the file is a structure of nested blocks.
-/

namespace ValueParcel

open Text (IsInline isInline_append)
open Nested (IsFlush Begins callHead callEnd getLast?_append)
open Level (Keeps IsHead IsStatement IsOpening IsClosing)

/-! ## Words -/

namespace Text

/-- Neither braces nor blanks occur in the text. -/
def IsWord (s : String) : Prop := ∀ c ∈ s.toList, c ≠ '\x7b' ∧ c ≠ '\x7d' ∧ isBlank c = false

instance (s : String) : Decidable (IsWord s) := List.decidableBAll _ s.toList

variable {s : String}

theorem IsWord.inline (h : IsWord s) : IsInline s := by
  have hb : isBlank '\n' = true := by decide
  intro c hc hm
  obtain ⟨hopen, hclose, hblank⟩ := h c hm
  simp only [structural, List.mem_cons, List.not_mem_nil, or_false] at hc
  rcases hc with rfl | rfl | rfl
  · exact Bool.noConfusion (hb.symm.trans hblank)
  · exact hopen rfl
  · exact hclose rfl

theorem IsWord.flush (h : IsWord s) : IsFlush s := fun c hc => (h c (List.mem_of_head? hc)).2.2

end Text

open Text (IsWord)

namespace Imports

open QualifiedName

theorem isWord_spell (s : Imports) {q : String} (h : IsWord q) : IsWord (s.spell q).1 := by
  rw [spell_fst, spelling]
  split
  · rename_i hs
    intro c hc
    refine h c ?_
    rw [← hs.1.eq_append, String.toList_append]
    exact List.mem_append_right _ hc
  · exact h

theorem flush_angled (texts : List String) : IsFlush (Text.angled texts) := by
  cases texts with
  | nil => decide
  | cons t ts =>
      have hb : Begins "<" := by decide
      exact hb.append.append.flush

theorem flush_keyword (k : Primitive) : IsFlush k.keyword := by cases k <;> decide

theorem flush_render : (t : JavaType) → (s : Imports) → (∀ n ∈ t.names, IsWord n) → IsFlush (s.render t).1
  | .void, s, _ => by
      rw [render]
      exact (by decide : IsFlush "void")
  | .primitive k, s, _ => by
      rw [render]
      exact flush_keyword k
  | .declared q args, s, h => by
      rw [render]
      exact (isWord_spell s (h q (List.mem_cons_self ..))).flush.append_flush (flush_angled _)
  | .array c, s, h => by
      have hb : IsFlush "[]" := by decide
      rw [render]
      exact (flush_render c s h).append_flush hb
  | .free n, s, h => (h n (List.mem_cons_self ..)).flush
  | .bounded n b, s, h => (h n (List.mem_cons_self ..)).flush

end Imports

/-! ## Code of families -/

/-- The last character neither opens a list of arguments nor ends a statement. -/
def EndsValue (t : String) : Prop := ∃ c ∈ t.toList.getLast?, c ∉ ['(', ';']

instance (t : String) : Decidable (EndsValue t) := Option.decidableExistsMem _

namespace Template

def firstText? : Template → Option String
  | [] => none
  | .text s :: _ => some s
  | .hole _ :: t => firstText? t

def lastText? (t : Template) : Option String :=
  match t.getLast? with
  | some (.text s) => some s
  | _ => none

/-- The first text in the template begins without a blank, and the last piece is a text that can end a value. -/
def IsWhole (t : Template) : Prop := (∃ s ∈ t.firstText?, Begins s) ∧ ∃ s ∈ t.lastText?, EndsValue s

instance (t : Template) : Decidable t.IsWhole := inferInstanceAs (Decidable (_ ∧ _))

variable {t : Template} {values : Hole → String}

theorem begins_fill {s : String} (hs : s ∈ t.firstText?) (hb : Begins s) (hv : ∀ h, IsFlush (values h)) :
    Begins (t.fill values) := by
  induction t with
  | nil => cases hs
  | cons piece t ih =>
      cases piece with
      | text s' =>
          cases hs
          rw [fill_cons_text]
          exact hb.append
      | hole h =>
          rw [fill_cons_hole]
          exact (hv h).append (ih hs)

theorem endsValue_fill {s : String} (hs : s ∈ t.lastText?) (he : EndsValue s) : EndsValue (t.fill values) := by
  obtain ⟨c, hc, hne⟩ := he
  refine ⟨c, ?_, hne⟩
  unfold lastText? at hs
  split at hs
  · rename_i s' hl
    cases hs
    obtain ⟨front, rfl⟩ := List.getLast?_eq_some_iff.1 hl
    rw [fill, String.toList_ofList, List.flatMap_append, List.getLast?_append]
    simp [Option.mem_def.1 hc]
  · cases hs

end Template

/-- Code that can stand as an argument, on a line of its own. -/
structure IsExpression (t : String) : Prop where
  inline : IsInline t
  begins : Begins t
  last : EndsValue t

namespace Family

theorem isWhole_templates (f : Family) : f.encoding.read.IsWhole ∧ f.encoding.write.IsWhole := by
  cases f with
  | primitive k | boxed k => cases k <;> decide +kernel
  | _ => decide +kernel

theorem flush_helperText (f : Family) (s : Imports) : IsFlush (f.helperText s).1 := by
  have hh : ∀ name ∈ f.encoding.helper, IsWord name := by
    cases f with
    | primitive k | boxed k => cases k <;> decide
    | _ => decide
  unfold helperText
  split
  · rename_i name hn
    exact (Imports.isWord_spell s (hh name hn)).flush
  · exact (by decide : IsFlush "")

variable {declared : JavaType}

theorem flush_readValues (f : Family) (s : Imports) (h : ∀ n ∈ declared.names, IsWord n) :
    ∀ v ∈ (f.readValues s declared).1, IsFlush v.2 := by
  have hcast : IsFlush (f.castText s declared).1 := by
    unfold castText
    split
    · have hb : Begins "(" := by decide
      exact hb.append.append.flush
    · exact (by decide : IsFlush "")
  have he : ∀ n ∈ declared.resolve.erasure.names, IsWord n := by
    intro n hn
    rcases JavaType.mem_names_erasure hn with hn | rfl
    · exact h n (declared.names_resolve_subset hn)
    · decide
  simp only [readValues, List.forall_mem_cons]
  exact ⟨by decide, by decide, hcast,
    Imports.flush_render _ _ he, Imports.flush_angled _, f.flush_helperText _, List.forall_mem_nil _⟩

theorem isExpression_read (f : Family) (s : Imports) (h : ∀ n ∈ declared.names, IsWord n) :
    IsExpression (f.readExpression s declared).1 := by
  have hb : ∀ v ∈ (f.readValues s declared).1, IsInline v.2 :=
    fun v hv c hc => f.lacks_readValues hc s (fun n hn => (h n hn).inline c hc) v hv
  obtain ⟨⟨first, hfirst, hbegins⟩, last, hlast, hends⟩ := f.isWhole_templates.1
  rw [f.readExpression_eq_fill s fun v hv => (hb v hv).opens_nothing]
  refine ⟨?_, ?_, Template.endsValue_fill hlast hends⟩
  · exact Template.isInline_fill f.isOver_templates.1 (Hole.valueIn_of_forall hb (by decide))
  · exact Template.begins_fill hfirst hbegins (Hole.valueIn_of_forall (f.flush_readValues s h) (by decide))

theorem isExpression_write (f : Family) (s : Imports) {accessor : String} (ha : IsInline accessor) (hf : IsFlush accessor) :
    IsExpression (f.writeStatement s accessor).1 := by
  have hb : ∀ v ∈ (f.writeValues s accessor).1, IsInline v.2 :=
    fun v hv c hc => f.lacks_writeValues hc s (ha c hc) v hv
  have hflush : ∀ v ∈ (f.writeValues s accessor).1, IsFlush v.2 := by
    simp only [writeValues, List.forall_mem_cons]
    exact ⟨by decide, by decide, hf, f.flush_helperText s, List.forall_mem_nil _⟩
  obtain ⟨⟨first, hfirst, hbegins⟩, last, hlast, hends⟩ := f.isWhole_templates.2
  rw [f.writeStatement_eq_fill s fun v hv => (hb v hv).opens_nothing]
  refine ⟨?_, ?_, Template.endsValue_fill hlast hends⟩
  · exact Template.isInline_fill f.isOver_templates.2 (Hole.valueIn_of_forall hb (by decide))
  · exact Template.begins_fill hfirst hbegins (Hole.valueIn_of_forall hflush (by decide))

end Family

/-! ## Code of properties -/

namespace PlannedProperty

variable {p : PlannedProperty}

theorem isExpression_readValue (h : ∀ n ∈ p.names, IsWord n) (s : Imports) : IsExpression (p.readValue s).1.code := by
  unfold readValue
  split
  · rename_i field hr
    have hn : IsWord field.name := h _ (by simp [names, hr, Route.names, AdapterField.names])
    have hb : Begins (field.name ++ ".fromParcel(") := hn.flush.append (by decide)
    refine ⟨?_, hb.append.append, ')', getLast?_append rfl, by decide⟩
    simp +decide [hn.inline]
  · exact Family.isExpression_read _ s fun n hn => h n (by simp [names, hn])

theorem isExpression_read (h : ∀ n ∈ p.names, IsWord n) (s : Imports) : IsExpression (p.read s).1.code := by
  have hv := isExpression_readValue h s
  rw [code_read]
  split
  · have hb : Begins "in.readInt() == 0 ? " := by decide
    refine ⟨?_, hb.append.append, 'l', getLast?_append rfl, by decide⟩
    simp +decide [hv.inline]
  · exact hv

theorem isInline_accessor (h : ∀ n ∈ p.names, IsWord n) : IsInline p.descriptor.accessor := by
  have hn : IsWord p.descriptor.methodName := h _ (by simp [names])
  simp +decide [Descriptor.accessor, hn.inline]

theorem isExpression_writeValue (h : ∀ n ∈ p.names, IsWord n) (s : Imports) : IsExpression (p.writeValue s).1 := by
  have ha := isInline_accessor h
  unfold writeValue
  split
  · rename_i field hr
    have hn : IsWord field.name := h _ (by simp [names, hr, Route.names, AdapterField.names])
    have hb : Begins (field.name ++ ".toParcel(") := hn.flush.append (by decide)
    refine ⟨?_, hb.append.append.append.append, ')', getLast?_append rfl, by decide⟩
    simp +decide [hn.inline, ha]
  · have hm : IsWord p.descriptor.methodName := h _ (by simp [names])
    have hb : Begins p.descriptor.accessor := hm.flush.append (by decide)
    exact Family.isExpression_write _ s ha hb.flush

end PlannedProperty

/-! ## Statements -/

section Statements

variable {t : String}

theorem EndsValue.isStatement (he : EndsValue t) (hi : IsInline t) (hf : IsFlush t) : IsStatement t := by
  obtain ⟨c, hl, hc⟩ := he
  rw [Option.mem_def] at hl
  simp only [List.mem_cons, List.not_mem_nil, or_false, not_or] at hc
  refine ⟨hi, hf, ?_, ?_⟩
  · rw [hl]
    exact fun he => hc.1 (Option.some.inj he)
  · rintro rfl
    exact hc.2 (Option.some.inj hl).symm

theorem IsExpression.isStatement (h : IsExpression t) : IsStatement t := h.last.isStatement h.inline h.begins.flush

theorem IsExpression.isStatement_comma (h : IsExpression t) : IsStatement (t ++ ",") := by
  have hcomma : IsInline "," := by decide
  have hends : EndsValue (t ++ ",") := ⟨',', getLast?_append rfl, by decide⟩
  exact hends.isStatement (isInline_append.2 ⟨h.inline, hcomma⟩) h.begins.append.flush

/-- A call has a parenthesis that opens, so it is not taken for the end of another call. -/
theorem IsExpression.isStatement_semicolon {o : Operation} (h : IsExpression t) (hw : o.IsWrite t) :
    IsStatement (t ++ ";") := by
  have hsemicolon : IsInline ";" := by decide
  have hlast : (t ++ ";").toList.getLast? = some ';' := getLast?_append rfl
  obtain ⟨receiver, ⟨arguments, he⟩, -⟩ := hw
  refine ⟨isInline_append.2 ⟨h.inline, hsemicolon⟩, h.begins.append.flush, ?_, ?_⟩
  · rw [hlast]
    decide
  · intro hend
    have hm : '(' ∈ (t ++ ";").toList := by simp [he]
    rw [hend] at hm
    exact absurd hm (by decide)

end Statements

namespace PlannedProperty

theorem keeps_write {p : PlannedProperty} (h : ∀ n ∈ p.names, IsWord n) (className : String) (s : Imports) :
    Keeps className 2 ((ClassPlan.writeCode (p.write s).1).rows 2) := by
  have hs : IsStatement ((p.writeValue s).1 ++ ";") :=
    (isExpression_writeValue h s).isStatement_semicolon (p.isWrite_writeValue s)
  have hhead : IsHead "if (" := by decide
  have hopen : IsOpening ("if (" ++ p.descriptor.accessor ++ " == null) \x7b") :=
    (hhead.append (isInline_accessor h)).opening (by decide)
  have hone : IsStatement "dest.writeInt(1);" := by decide
  have hzero : IsStatement "dest.writeInt(0);" := by decide
  rw [rows_write]
  split
  · exact .either hopen (.statement hone) ((Keeps.statement hzero).append (.statement hs)) ⟨"", rfl, by decide⟩
  · exact .statement hs

theorem plain_fragments {ps : List PlannedProperty} (h : ∀ p ∈ ps, ∀ n ∈ p.names, IsWord n) (className : String)
    (s : Imports) : ∀ f ∈ (fragments s ps).1, IsExpression f.1.code ∧ Keeps className 2 ((ClassPlan.writeCode f.2).rows 2) := by
  induction ps generalizing s with
  | nil => nofun
  | cons p ps ih =>
      obtain ⟨hp, hrest⟩ := List.forall_mem_cons.1 h
      rw [fragments, List.forall_mem_cons]
      exact ⟨⟨isExpression_read hp s, keeps_write hp className _⟩, ih hrest _⟩

end PlannedProperty

/-! ## The outline -/

namespace Outline

variable {className : String}

theorem isClosing_brace : IsClosing "\x7d" := ⟨"", rfl, by decide⟩

theorem keeps_blank (depth : Nat) : Keeps className depth [⟨depth, ""⟩] := .statement (by decide)

theorem keeps_override (depth : Nat) : Keeps className depth [⟨depth, "@Override"⟩] := .statement (by decide)

theorem keeps_openingRows {package : String} {imports : List String} (hp : IsInline package)
    (hi : ∀ name ∈ imports, IsInline name) : Keeps className 0 (openingRows package imports none) := by
  have hpackage : IsHead "package " := by decide
  have himport : IsHead "import " := by decide
  have hfirst : Keeps className 0 (if package = "" then [] else [⟨0, "package " ++ package ++ ";"⟩, ⟨0, ""⟩]) := by
    split
    · exact .nil
    · exact (Keeps.statement ((hpackage.append hp).statement (by decide))).append (keeps_blank 0)
  have hmiddle : Keeps className 0 (imports.map fun name => ⟨0, "import " ++ name ++ ";"⟩) :=
    .statements (List.forall_mem_map.2 fun name hm => ⟨rfl, (himport.append (hi name hm)).statement (by decide)⟩)
  have hlast : Keeps className 0 (if imports.isEmpty then [] else [⟨0, ""⟩]) := by
    split
    · exact .nil
    · exact keeps_blank 0
  exact ((hfirst.append hmiddle).append hlast).append .nil

theorem keeps_fieldRows {fields : List (String × String)} (h : ∀ f ∈ fields, IsInline f.1 ∧ IsInline f.2) :
    Keeps className 1 (fieldRows fields) := by
  have hhead : IsHead "private static final " := by decide
  have hgap : IsInline " " := by decide
  have hnew : IsInline " = new " := by decide
  have hrows : ∀ r ∈ fields.map fieldRow, r.depth = 1 ∧ IsStatement r.text := by
    refine List.forall_mem_map.2 fun f hf => ⟨rfl, ?_⟩
    obtain ⟨ht, hn⟩ := h f hf
    exact (((((hhead.append ht).append hgap).append hn).append hnew).append ht).statement (by decide)
  refine Keeps.append (.statements hrows) ?_
  split
  · exact .nil
  · exact keeps_blank 1

theorem keeps_loaderRows (hc : IsInline className) {loaderType : Option String} (h : ∀ type ∈ loaderType, IsHead type) :
    Keeps className 3 (loaderRows className loaderType) := by
  cases loaderType with
  | none => exact .nil
  | some type =>
      have hname : IsInline " cl = " := by decide
      exact .statement ((((h type rfl).append hname).append hc).statement (by decide))

theorem isStatement_argumentRows {arguments : List String} (h : ∀ a ∈ arguments, IsExpression a) :
    ∀ r ∈ argumentRows arguments, r.depth = 5 ∧ IsStatement r.text := by
  fun_induction argumentRows arguments with
  | case1 => exact List.forall_mem_nil _
  | case2 a =>
      rw [List.forall_mem_singleton] at h ⊢
      exact ⟨rfl, h.isStatement⟩
  | case3 a b rest ih =>
      rw [List.forall_mem_cons] at h ⊢
      exact ⟨⟨rfl, h.1.isStatement_comma⟩, ih h.2⟩

theorem keeps_returnRows (hc : IsInline className) {arguments : List String} (h : ∀ a ∈ arguments, IsExpression a) :
    Keeps className 3 (returnRows className arguments) := by
  have hhead : IsHead "return new " := by decide
  unfold returnRows
  split
  · exact .statement ((hhead.append hc).statement (by decide))
  · exact .call hc (isStatement_argumentRows h)

theorem keeps_createRows (hc : IsInline className) {parcelType : String} (hp : IsInline parcelType)
    {loaderType : Option String} (hl : ∀ type ∈ loaderType, IsHead type) {arguments : List String}
    (ha : ∀ a ∈ arguments, IsExpression a) :
    Keeps className 2 (createRows className parcelType loaderType arguments) := by
  have hhead : IsHead "public " := by decide
  have hname : IsInline " createFromParcel(" := by decide
  have hopen : IsOpening ("public " ++ className ++ " createFromParcel(" ++ parcelType ++ " in) \x7b") :=
    (((hhead.append hc).append hname).append hp).opening (by decide)
  have := Keeps.block hopen ((keeps_loaderRows hc hl).append (keeps_returnRows hc ha)) isClosing_brace
  rwa [← List.append_assoc] at this

theorem keeps_newArrayRows (hc : IsInline className) : Keeps className 2 (newArrayRows className) := by
  have hhead : IsHead "public " := by decide
  have hopen : IsOpening ("public " ++ className ++ "[] newArray(int size) \x7b") := (hhead.append hc).opening (by decide)
  have hreturn : IsHead "return new " := by decide
  have hbody : Keeps className 3 [⟨3, "return new " ++ className ++ "[size];"⟩] :=
    .statement ((hreturn.append hc).statement (by decide))
  exact (keeps_override 2).append (.block hopen hbody isClosing_brace)

theorem keeps_creatorRows (hc : IsInline className) {creatorType : String} (ht : IsInline creatorType)
    (suppresses : Bool) {create : List Row} (hr : Keeps className 2 create) :
    Keeps className 1 (creatorRows className creatorType suppresses create) := by
  have hhead : IsHead "public static final " := by decide
  have hname : IsInline " CREATOR = new " := by decide
  have htype : IsInline (creatorType ++ "<" ++ className ++ ">") := by
    have hless : IsInline "<" := by decide
    have hgreater : IsInline ">" := by decide
    simp only [isInline_append]
    exact ⟨⟨⟨ht, hless⟩, hc⟩, hgreater⟩
  have hopen : IsOpening ("public static final " ++ (creatorType ++ "<" ++ className ++ ">") ++ " CREATOR = new " ++
      (creatorType ++ "<" ++ className ++ ">") ++ "() \x7b") :=
    (((hhead.append htype).append hname).append htype).opening (by decide)
  have hs : Keeps className 2 (if suppresses then [⟨2, "@SuppressWarnings(\"unchecked\")"⟩] else []) := by
    split
    · exact .statement (by decide)
    · exact .nil
  have hinner := ((((keeps_override 2).append hs).append hr).append (keeps_blank 2)).append (keeps_newArrayRows hc)
  have := Keeps.block hopen hinner ⟨";", rfl, by decide⟩
  simpa [creatorRows] using this

theorem keeps_constructorRows (hc : IsWord className) {parameters superArguments : List String}
    (hp : ∀ t ∈ parameters, IsInline t) (ha : ∀ t ∈ superArguments, IsInline t) :
    Keeps className 1 (constructorRows className parameters superArguments) := by
  have hbegins : Begins (className ++ "(") := hc.flush.append (by decide)
  have hinline : IsInline (className ++ "(" ++ Text.commas parameters) := by
    have hparenthesis : IsInline "(" := by decide
    simp only [isInline_append]
    exact ⟨⟨hc.inline, hparenthesis⟩, Text.isInline_commas hp⟩
  have hopen : IsOpening (className ++ "(" ++ Text.commas parameters ++ ") \x7b") :=
    .append hbegins.append hinline (by decide)
  have hsuper : IsHead "super(" := by decide
  have hbody : Keeps className 2 [⟨2, "super(" ++ Text.commas superArguments ++ ");"⟩] :=
    .statement ((hsuper.append (Text.isInline_commas ha)).statement (by decide))
  exact .block hopen hbody isClosing_brace

theorem keeps_writeRows {parcelType : String} (hp : IsInline parcelType) {blocks : List (List Row)}
    (hb : ∀ b ∈ blocks, Keeps className 2 b) : Keeps className 1 (writeRows parcelType blocks) := by
  have hhead : IsHead "public void writeToParcel(" := by decide
  have hopen : IsOpening ("public void writeToParcel(" ++ parcelType ++ " dest, int flags) \x7b") :=
    (hhead.append hp).opening (by decide)
  exact (keeps_override 1).append (.block hopen (.flatten hb) isClosing_brace)

theorem keeps_describeRows (describes : Bool) : Keeps className 1 (describeRows describes) := by
  have hhead : IsHead "public int describeContents()" := by decide
  have hopen : IsOpening ("public int describeContents()" ++ " \x7b") := hhead.opening (by decide)
  have hbody : Keeps className 2 [⟨2, "return 0;"⟩] := .statement (by decide)
  cases describes with
  | false => exact .nil
  | true => exact ((keeps_blank 1).append (keeps_override 1)).append (.block hopen hbody isClosing_brace)

/-- The parts of the class open and close nothing by themselves. -/
structure IsPlain (o : Outline) : Prop where
  className : IsWord o.className
  header : IsHead o.header
  fields : ∀ f ∈ o.fields, IsInline f.1 ∧ IsInline f.2
  creatorType : IsInline o.creatorType
  parcelType : IsInline o.parcelType
  loaderType : ∀ type ∈ o.loaderType, IsHead type
  arguments : ∀ a ∈ o.arguments, IsExpression a
  parameters : ∀ t ∈ o.parameters, IsInline t
  superArguments : ∀ t ∈ o.superArguments, IsInline t
  blocks : ∀ b ∈ o.blocks, Keeps o.className 2 b

theorem keeps_classRows {o : Outline} (h : o.IsPlain) : Keeps o.className 0 o.classRows := by
  have hc := h.className.inline
  have hopen : IsOpening (o.header ++ " \x7b") := h.header.opening (by decide)
  have hcreate := keeps_createRows hc h.parcelType h.loaderType h.arguments
  have hmembers := ((((((keeps_fieldRows h.fields).append (keeps_creatorRows hc h.creatorType o.suppresses hcreate)).append
    (keeps_blank 1)).append (keeps_constructorRows h.className h.parameters h.superArguments)).append
    (keeps_blank 1)).append (keeps_writeRows h.parcelType h.blocks)).append (keeps_describeRows o.describes)
  have := Keeps.block hopen hmembers isClosing_brace
  simpa [classRows] using this

end Outline

/-! ## The file -/

namespace ClassPlan

/-- Neither braces nor blanks occur in the names of the plan. -/
def IsPlain (p : ClassPlan) : Prop := ∀ n ∈ p.names, IsWord n

instance (p : ClassPlan) : Decidable p.IsPlain := inferInstanceAs (Decidable (∀ n ∈ p.names, _))

theorem isHead_header {p : ClassPlan} (h : p.IsPlain) (s : Imports) : IsHead (p.header s).1 := by
  have hi : IsInline (p.header s).1 := fun c hc => lacks_header hc (fun n hn => (h n hn).inline c hc) s
  have hh : IsHead ((if p.isFinal then "final " else "") ++ "class ") := by split <;> decide
  simp only [header, isInline_append] at hi ⊢
  exact ((((hh.append hi.1.1.1.1.2).append hi.1.1.1.2).append hi.1.1.2).append hi.1.2).append hi.2

theorem isPlain_outline {p : ClassPlan} (h : p.IsPlain) (config : Config) : (p.outline config).IsPlain := by
  have hl : ∀ c ∈ Text.structural, ∀ n ∈ p.names, Text.Lacks c n := fun c hc n hn => (h n hn).inline c hc
  have hp : ∀ q ∈ p.properties, ∀ n ∈ q.names, IsWord n := by
    intro q hq n hn
    have hm : n ∈ p.properties.flatMap (·.names) := List.mem_flatMap.2 ⟨q, hq, hn⟩
    exact h n (by simp only [names, List.mem_cons, List.mem_append, hm, true_or, or_true])
  have hf := fun s => PlannedProperty.plain_fragments hp p.className s
  have hknown : ∀ (s : Imports) (name : String), IsWord name → IsInline (s.spell name).1 :=
    fun s _ hn => (s.isWord_spell hn).inline
  constructor
  case className => exact h p.className (by simp [names])
  case header => exact isHead_header h _
  case fields =>
    intro f hm
    have hf := fun c hc => lacks_fieldTexts hc (lacks_spellings (hl c hc)).2.2 _ f hm
    exact ⟨fun c hc => (hf c hc).1, fun c hc => (hf c hc).2⟩
  case creatorType => exact hknown _ WellKnown.parcelableCreator (by decide)
  case parcelType => exact hknown _ WellKnown.parcel (by decide)
  case loaderType =>
    have hloader : ∀ type ∈ ["ClassLoader", WellKnown.classLoader], IsHead type := by decide
    simp only [outline, loaderType?]
    split
    · intro type ht
      cases ht
      exact hloader _ (Imports.spell_classLoader _)
    · intro type ht
      cases ht
  case arguments => exact List.forall_mem_map.2 fun f hm => (hf _ f hm).1
  case parameters =>
    exact fun t ht c hc => lacks_parameterTexts hc (lacks_spellings (hl c hc)).2.1 _ t ht
  case superArguments =>
    refine List.forall_mem_map.2 fun q hq => (hp q hq _ ?_).inline
    exact List.mem_cons_self ..
  case blocks => exact List.forall_mem_map.2 fun f hm => (hf _ f hm).2

theorem isWord_imports {p : ClassPlan} (h : p.IsPlain) (config : Config) :
    ∀ name ∈ (p.outline config).imports, IsWord name := by
  obtain ⟨s, hr, hs⟩ := reaches_outline (by decide : ∀ q ∈ Imports.known, IsWord q) h config
  rw [hs]
  intro name hn
  rcases hr.mem_imported hn with hm | ⟨q, hq, hpackage, rfl⟩
  · cases hm
  · exact fun c hc => hq c (hpackage.mem_of_mem_topLevel hc)

theorem keeps_file {p : ClassPlan} (h : p.IsPlain) {config : Config} (hc : config.comments.lookup p.valueClass = none) :
    Keeps p.className 0 (Code.rowsOfList 0 (p.file config)) := by
  have hpackage : IsWord p.package := h _ (by simp [names])
  have hcomment : (p.outline config).comment = none := by simp [outline, hc]
  rw [p.rows_file config, hcomment]
  exact (Outline.keeps_openingRows hpackage.inline fun name hn => (isWord_imports h config name hn).inline).append
    (Outline.keeps_classRows (isPlain_outline h config))

/-- For any plan and indentation, the source without a comment is a structure of nested blocks, and when it has been written
the margin is as it was. -/
theorem source_is_nested (p : ClassPlan) (config : Config) (h : p.IsPlain)
    (hc : config.comments.lookup p.valueClass = none) :
    IsNested config.indent p.className (p.source config).toList ∧
      (Margin.run config.indent {} (Code.eventsOfList (p.file config))).2 = ({} : Margin Char) := by
  have hkeeps := keeps_file h hc
  have hplaced : ∀ r ∈ Code.rowsOfList 0 (p.file config), r.IsPlaced := fun r hr => .inr (hkeeps.isLine r hr)
  have hprints : Margin.run config.indent {} (Code.eventsOfList (p.file config)) =
      (Row.symbolsOfList config.indent (Code.rowsOfList 0 (p.file config)), {}) :=
    Code.printsOfList config.indent (p.file config) hplaced
  constructor
  · rw [source, Code.render_eq config.indent hplaced, Row.render, String.toList_ofList]
    exact hkeeps.isNested config.indent
  · rw [hprints]

theorem source_is_nested_track : trackPlan.IsPlain ∧
    IsNested .tab "AutoValue_Track" (trackPlan.source { indent := .tab }).toList ∧
      (Margin.run .tab {} (Code.eventsOfList (trackPlan.file { indent := .tab }))).2 = ({} : Margin Char) :=
  ⟨by decide, source_is_nested trackPlan { indent := .tab } (by decide) rfl⟩

end ClassPlan

end ValueParcel
