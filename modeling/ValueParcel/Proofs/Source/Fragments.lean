import Mathlib.Data.List.Forall2
import ValueParcel.Proofs.Encoding.Filling
import ValueParcel.Proofs.Layout.Rows
import ValueParcel.Proofs.Source.Names
import ValueParcel.Source.ClassText

/-!
Slots in the source. The fragments of a property read and write its slot of the layout: behind a presence flag if the
slot has one, and with the methods of the slot's operation.
-/

namespace ValueParcel

/-! ## Slots as code -/

namespace Slot

/-- The argument reads the slot: behind a flag of 0 the value, behind any other `null`. -/
def IsReadAs (s : Slot) (argument : String) : Prop :=
  ∃ read, s.operation.IsRead read ∧
    argument = if s.presenceFlag then "in.readInt() == 0 ? " ++ read ++ " : null" else read

/-- The rows of a statement behind a presence flag: 1 if there is no value, else 0 and then the statement. -/
def flaggedRows (depth : Nat) (accessor statement : String) : List Row := [
  ⟨depth, "if (" ++ accessor ++ " == null) \x7b"⟩,
  ⟨depth + 1, "dest.writeInt(1);"⟩,
  ⟨depth, "\x7d else \x7b"⟩,
  ⟨depth + 1, "dest.writeInt(0);"⟩,
  ⟨depth + 1, statement ++ ";"⟩,
  ⟨depth, "\x7d"⟩]

/-- The rows, `depth` steps in, write what the accessor gives into the slot. -/
def IsWrittenAs (depth : Nat) (s : Slot) (accessor : String) (rows : List Row) : Prop :=
  ∃ statement, s.operation.IsWrite statement ∧
    rows = if s.presenceFlag then flaggedRows depth accessor statement else [⟨depth, statement ++ ";"⟩]

end Slot

/-! ## Names in properties -/

def AdapterField.names (f : AdapterField) : List String := f.name :: f.type.names

def Route.names : Route → List String
  | adapter f => f.names
  | family _ => []

/-- The names that the code of a property is made of. -/
def PlannedProperty.names (p : PlannedProperty) : List String :=
  p.descriptor.name :: p.descriptor.methodName :: (p.descriptor.declared.names ++ p.route.names)

/-! ## Lines -/

open Text (Lacks lacks_append)

namespace Template

theorem lacks_fillInTurn {t : Template} {values : List (Hole × String)} {c : Char} (ht : c ∉ t.spelled)
    (hv : ∀ v ∈ values, Lacks c v.2) : Lacks c (t.fillInTurn values) := by
  intro h
  rw [fillInTurn_eq, String.toList_ofList] at h
  rcases mem_fillText h with h | ⟨v, hm, hc⟩
  · exact ht h
  · exact hv v hm hc

end Template

namespace Family

variable {declared : JavaType} {c : Char}

theorem lacks_helper (hc : c ∈ Text.structural) (f : Family) : ∀ name ∈ f.encoding.helper, Lacks c name := by
  have hn : ∀ name ∈ f.encoding.helper, name.toList.all Imports.isNotation = true := by
    cases f with
    | primitive k | boxed k => cases k <;> decide
    | _ => decide
  exact fun name hm => Imports.lacks_of_isNotation (Imports.isNotation_of_structural hc) (hn name hm)

theorem lacks_helperText (hc : c ∈ Text.structural) (f : Family) (s : Imports) : Lacks c (f.helperText s).1 := by
  unfold helperText
  split
  · rename_i name hn
    exact Imports.spell_lacks s (f.lacks_helper hc name hn)
  · exact Text.lacks_empty

theorem lacks_castText (hc : c ∈ Text.structural) (f : Family) (s : Imports) (h : ∀ n ∈ declared.names, Lacks c n) :
    Lacks c (f.castText s declared).1 := by
  unfold castText
  split
  · have ht := Imports.render_lacks (Imports.isNotation_of_structural hc) declared s h
    have hopen : Text.IsInline "(" := by decide
    have hclose : Text.IsInline ") " := by decide
    exact lacks_append.2 ⟨lacks_append.2 ⟨hopen c hc, ht⟩, hclose c hc⟩
  · exact Text.lacks_empty

theorem lacks_readValues (hc : c ∈ Text.structural) (f : Family) (s : Imports) (h : ∀ n ∈ declared.names, Lacks c n) :
    ∀ v ∈ (f.readValues s declared).1, Lacks c v.2 := by
  have hi := Imports.isNotation_of_structural hc
  have hr : ∀ n ∈ declared.resolve.names, Lacks c n := fun n hn => h n (declared.names_resolve_subset hn)
  have ha : ∀ n ∈ JavaType.namesOfList declared.resolve.arguments, Lacks c n :=
    fun n hn => hr n (declared.resolve.namesOfList_arguments_subset hn)
  have he : ∀ n ∈ declared.resolve.erasure.names, Lacks c n := by
    intro n hn
    rcases JavaType.mem_names_erasure hn with hn | rfl
    · exact hr n hn
    · exact Imports.lacks_of_isNotation hi (by decide)
  simp only [readValues, List.forall_mem_cons]
  refine ⟨Imports.lacks_of_isNotation hi (by decide), Imports.lacks_of_isNotation hi (by decide), f.lacks_castText hc s h,
    Imports.render_lacks hi _ _ he, ?_, f.lacks_helperText hc _, nofun⟩
  exact Text.lacks_angled (Imports.lacks_of_isNotation hi (by decide)) (Imports.renderList_lacks hi _ _ ha)

theorem lacks_writeValues (hc : c ∈ Text.structural) (f : Family) (s : Imports) {accessor : String} (h : Lacks c accessor) :
    ∀ v ∈ (f.writeValues s accessor).1, Lacks c v.2 := by
  have hi := Imports.isNotation_of_structural hc
  simp only [writeValues, List.forall_mem_cons]
  exact ⟨Imports.lacks_of_isNotation hi (by decide), Imports.lacks_of_isNotation hi (by decide), h,
    f.lacks_helperText hc s, nofun⟩

theorem lacks_readExpression (f : Family) (s : Imports) (h : ∀ n ∈ declared.names, Lacks '\n' n) :
    Lacks '\n' (f.readExpression s declared).1 :=
  Template.lacks_fillInTurn (Template.lineBreak_not_mem_spelled f.isOver_templates.1) (f.lacks_readValues (by decide) s h)

theorem lacks_writeStatement (f : Family) (s : Imports) {accessor : String} (h : Lacks '\n' accessor) :
    Lacks '\n' (f.writeStatement s accessor).1 :=
  Template.lacks_fillInTurn (Template.lineBreak_not_mem_spelled f.isOver_templates.2) (f.lacks_writeValues (by decide) s h)

end Family

/-! ## Fragments -/

namespace PlannedProperty

theorem isRead_readValue (p : PlannedProperty) (s : Imports) : p.route.operation.IsRead (p.readValue s).1.code := by
  unfold readValue
  split
  · rename_i field hr
    rw [hr]
    refine ⟨field.name, ⟨"", Encoding.sourceName ++ ")", ?_⟩, nofun⟩
    simp [Route.operation, Operation.readMethod, String.append_assoc]
  · rename_i f hr
    rw [hr]
    exact f.isRead_readExpression s _

theorem isWrite_writeValue (p : PlannedProperty) (s : Imports) : p.route.operation.IsWrite (p.writeValue s).1 := by
  unfold writeValue
  split
  · rename_i field hr
    rw [hr]
    refine ⟨field.name, ⟨p.descriptor.accessor ++ ", " ++ Encoding.targetName, ?_⟩, nofun⟩
    simp [Route.operation, Operation.writeMethod, String.append_assoc]
  · rename_i f hr
    rw [hr]
    exact f.isWrite_writeStatement s _

theorem code_read (p : PlannedProperty) (s : Imports) : (p.read s).1.code =
    if p.hasPresenceFlag then "in.readInt() == 0 ? " ++ (p.readValue s).1.code ++ " : null" else (p.readValue s).1.code := by
  by_cases h : p.hasPresenceFlag = true
  · simp [read, h, Encoding.sourceName]
  · simp [read, h]

theorem isReadAs_read (p : PlannedProperty) (s : Imports) : p.slot.IsReadAs (p.read s).1.code :=
  ⟨(p.readValue s).1.code, p.isRead_readValue s, p.code_read s⟩

theorem rows_write (p : PlannedProperty) (s : Imports) (depth : Nat) :
    (ClassPlan.writeCode (p.write s).1).rows depth =
      if p.hasPresenceFlag then Slot.flaggedRows depth p.descriptor.accessor (p.writeValue s).1
      else [⟨depth, (p.writeValue s).1 ++ ";"⟩] := by
  by_cases h : p.hasPresenceFlag = true
  · simp [write, h, ClassPlan.writeCode, Code.rows, Code.rowsOfList, Slot.flaggedRows, Encoding.targetName,
      String.append_assoc]
  · simp [write, h, ClassPlan.writeCode, Code.rows]

theorem isWrittenAs_write (p : PlannedProperty) (s : Imports) (depth : Nat) :
    p.slot.IsWrittenAs depth p.descriptor.accessor ((ClassPlan.writeCode (p.write s).1).rows depth) :=
  ⟨(p.writeValue s).1, p.isWrite_writeValue s, p.rows_write s depth⟩

/-- Each property has its fragments, made with the imports that the properties before it have left. -/
theorem forall₂_fragments (ps : List PlannedProperty) (s : Imports) :
    List.Forall₂ (fun p f => ∃ s', f = ((p.read s').1, (p.write (p.read s').2).1)) ps (fragments s ps).1 := by
  induction ps generalizing s with
  | nil => exact .nil
  | cons p ps ih => exact .cons ⟨s, rfl⟩ (ih _)

/-- The fragments of each property read and write its slot. -/
theorem fragments_follow (ps : List PlannedProperty) (s : Imports) :
    List.Forall₂ (fun p f => p.slot.IsReadAs f.1.code ∧ ∀ depth,
      p.slot.IsWrittenAs depth p.descriptor.accessor ((ClassPlan.writeCode f.2).rows depth)) ps (fragments s ps).1 := by
  refine (forall₂_fragments ps s).imp ?_
  rintro p f ⟨s', rfl⟩
  exact ⟨p.isReadAs_read s', p.isWrittenAs_write _⟩

/-- A flag of the reads is up if and only if it is up for the read of a property. -/
theorem any_fragments_iff {flag : ReadFragment → Bool} {asks : PlannedProperty → Prop}
    (h : ∀ p s, flag (p.read s).1 = true ↔ asks p) (ps : List PlannedProperty) (s : Imports) :
    ((fragments s ps).1.map (·.1)).any flag = true ↔ ∃ p ∈ ps, asks p := by
  induction ps generalizing s with
  | nil => simp [fragments]
  | cons p ps ih => rw [fragments, List.map_cons, List.any_cons, Bool.or_eq_true, h, ih, List.exists_mem_cons_iff]

variable {p : PlannedProperty}

theorem lacks_accessor (h : ∀ n ∈ p.names, Lacks '\n' n) : Lacks '\n' p.descriptor.accessor :=
  lacks_append.2 ⟨h _ (by simp [names]), by decide⟩

theorem lacks_readValue (h : ∀ n ∈ p.names, Lacks '\n' n) (s : Imports) : Lacks '\n' (p.readValue s).1.code := by
  unfold readValue
  split
  · rename_i field hr
    have hf : Lacks '\n' field.name := h _ (by simp [names, hr, Route.names, AdapterField.names])
    simp +decide [hf]
  · exact Family.lacks_readExpression _ s fun n hn => h n (by simp [names, hn])

theorem lacks_writeValue (h : ∀ n ∈ p.names, Lacks '\n' n) (s : Imports) : Lacks '\n' (p.writeValue s).1 := by
  unfold writeValue
  split
  · rename_i field hr
    have hf : Lacks '\n' field.name := h _ (by simp [names, hr, Route.names, AdapterField.names])
    simp +decide [hf, lacks_accessor h]
  · exact Family.lacks_writeStatement _ s (lacks_accessor h)

theorem lacks_read (h : ∀ n ∈ p.names, Lacks '\n' n) (s : Imports) : Lacks '\n' (p.read s).1.code := by
  unfold read
  dsimp only
  split
  · simp +decide [lacks_readValue h s]
  · exact lacks_readValue h s

theorem isLine_write (h : ∀ n ∈ p.names, Lacks '\n' n) (s : Imports) (depth : Nat) :
    ∀ r ∈ (ClassPlan.writeCode (p.write s).1).rows depth, r.IsLine := by
  have hs : Lacks '\n' ((p.writeValue s).1 ++ ";") := lacks_append.2 ⟨lacks_writeValue h s, by decide⟩
  rw [rows_write]
  split
  · simp +decide [Slot.flaggedRows, lacks_accessor h, lacks_writeValue h s]
  · exact List.forall_mem_singleton.2 hs

theorem isLine_fragments {ps : List PlannedProperty} (h : ∀ n ∈ ps.flatMap (·.names), Lacks '\n' n) (s : Imports) :
    ∀ f ∈ (fragments s ps).1, Lacks '\n' f.1.code ∧ ∀ depth, ∀ r ∈ (ClassPlan.writeCode f.2).rows depth, r.IsLine := by
  induction ps generalizing s with
  | nil => simp [fragments]
  | cons p ps ih =>
      rw [List.flatMap_cons, List.forall_mem_append] at h
      rw [fragments, List.forall_mem_cons]
      exact ⟨⟨lacks_read h.1 s, isLine_write h.1 _⟩, ih h.2 _⟩

end PlannedProperty

end ValueParcel
