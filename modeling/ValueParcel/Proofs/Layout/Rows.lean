import ValueParcel.Layout.Code
import ValueParcel.Proofs.Text.Lacks

/-!
Code as rows. A tree of code is printed as one row after the other, each behind as many steps of indentation as it is
deep, and printing leaves the margin as it was.
-/

namespace ValueParcel

/-! ## Steps of indentation -/

namespace Margin

section Symbols

variable {α : Type} [Alphabet α]

def steps (i : Indent) (depth : Nat) : List α := (List.replicate depth (unit i)).flatten

/-- The margin at the head of a line that is `depth` steps in. -/
def atDepth (i : Indent) (depth : Nat) : Margin α := ⟨steps i depth, true⟩

theorem length_unit (i : Indent) : (unit i : List α).length = i.width := by
  cases i with
  | tab => rfl
  | spaces count => exact List.length_replicate

theorem steps_succ (i : Indent) (depth : Nat) : (steps i (depth + 1) : List α) = steps i depth ++ unit i := by
  simp [steps, List.replicate_succ']

@[simp] theorem indent_atDepth (i : Indent) (depth : Nat) :
    (atDepth i depth : Margin α).indent i = atDepth i (depth + 1) := by
  rw [indent, atDepth, atDepth, steps_succ]

@[simp] theorem unindent_atDepth (i : Indent) (depth : Nat) :
    (atDepth i (depth + 1) : Margin α).unindent i = atDepth i depth := by
  have hl : (steps i (depth + 1) : List α).length - i.width = (steps i depth : List α).length := by
    rw [steps_succ, List.length_append, length_unit, Nat.add_sub_cancel]
  simp only [unindent, atDepth, hl]
  rw [steps_succ, List.take_left]

variable [DecidableEq α]

theorem write_rest {ind t : List α} (h : Alphabet.lineBreak ∉ t) :
    write ⟨ind, false⟩ (t ++ [Alphabet.lineBreak]) = (t ++ [Alphabet.lineBreak], ⟨ind, true⟩) := by
  induction t with
  | nil => simp [write]
  | cons c cs ih =>
      simp only [List.mem_cons, not_or] at h
      simp [write, Ne.symm h.1, ih h.2]

/-- A line goes out behind the indentation, unless it is empty. -/
theorem write_line {ind t : List α} (h : Alphabet.lineBreak ∉ t) :
    write ⟨ind, true⟩ (t ++ [Alphabet.lineBreak]) =
      ((if t = [] then [] else ind) ++ (t ++ [Alphabet.lineBreak]), ⟨ind, true⟩) := by
  cases t with
  | nil => simp [write]
  | cons c cs =>
      simp only [List.mem_cons, not_or] at h
      simp [write, Ne.symm h.1, write_rest h.2]

theorem write_flush (fresh : Bool) (t : List α) :
    write ⟨[], fresh⟩ (t ++ [Alphabet.lineBreak]) = (t ++ [Alphabet.lineBreak], ⟨[], true⟩) := by
  induction t generalizing fresh with
  | nil => simp [write]
  | cons c cs ih => by_cases hc : c = Alphabet.lineBreak <;> simp [write, hc, ih]

theorem run_append (i : Indent) (m : Margin α) (es fs : List (Event α)) :
    run i m (es ++ fs) =
      ((run i m es).1 ++ (run i (run i m es).2 fs).1, (run i (run i m es).2 fs).2) := by
  induction es generalizing m with
  | nil => rfl
  | cons e es ih => simp [run, ih]

end Symbols

end Margin

/-! ## Rows -/

/-- A line of a text, and how many steps it stands to the right. -/
structure Row where
  depth : Nat
  text : String
  deriving DecidableEq, Repr

namespace Row

def IsLine (r : Row) : Prop := Text.Lacks '\n' r.text

@[simp] theorem isLine_mk (depth : Nat) (t : String) : IsLine ⟨depth, t⟩ ↔ Text.Lacks '\n' t := Iff.rfl

/-- A text of several lines can only stand at the left margin. -/
def IsPlaced (r : Row) : Prop := r.depth = 0 ∨ r.IsLine

/-- The row behind its indentation and with a line break; an empty one is not indented. -/
def symbols (i : Indent) (r : Row) : List Char :=
  (if r.text.toList = [] then [] else Margin.steps i r.depth) ++ (r.text.toList ++ ['\n'])

def symbolsOfList (i : Indent) (rows : List Row) : List Char := rows.flatMap (symbols i)

def render (i : Indent) (rows : List Row) : String := String.ofList (symbolsOfList i rows)

end Row

namespace Code

mutual

/-- The rows of code that stands `depth` steps in. -/
def rows (depth : Nat) : Code → List Row
  | line text => [⟨depth, text⟩]
  | blank => [⟨depth, ""⟩]
  | block header body trailer =>
    [⟨depth, header ++ " \x7b"⟩] ++ rowsOfList (depth + 1) body ++ [⟨depth, "\x7d" ++ trailer⟩]
  | either header yes no =>
    [⟨depth, header ++ " \x7b"⟩] ++ rowsOfList (depth + 1) yes ++ [⟨depth, "\x7d else \x7b"⟩] ++
      rowsOfList (depth + 1) no ++ [⟨depth, "\x7d"⟩]
  | continuation body => rowsOfList (depth + 2) body

def rowsOfList (depth : Nat) : List Code → List Row
  | [] => []
  | c :: cs => c.rows depth ++ rowsOfList depth cs

end

theorem rowsOfList_eq_flatMap (depth : Nat) (cs : List Code) : rowsOfList depth cs = cs.flatMap (rows depth) := by
  induction cs with
  | nil => rfl
  | cons c cs ih => rw [rowsOfList, ih, List.flatMap_cons]

theorem rowsOfList_append (depth : Nat) (cs ds : List Code) :
    rowsOfList depth (cs ++ ds) = rowsOfList depth cs ++ rowsOfList depth ds := by
  simp [rowsOfList_eq_flatMap]

theorem eventsOfList_append (cs ds : List Code) :
    eventsOfList (cs ++ ds) = eventsOfList cs ++ eventsOfList ds := by
  induction cs with
  | nil => rfl
  | cons c cs ih => rw [List.cons_append, eventsOfList, eventsOfList, ih, List.append_assoc]

end Code

/-! ## Printing -/

/-- At `depth`, the events write the rows, and leave the margin as it was. -/
def Prints (i : Indent) (depth : Nat) (es : List (Event Char)) (rows : List Row) : Prop :=
  Margin.run i (Margin.atDepth i depth) es = (Row.symbolsOfList i rows, Margin.atDepth i depth)

namespace Prints

variable {i : Indent} {depth : Nat} {es fs : List (Event Char)} {rs ss : List Row}

theorem nil : Prints i depth [] [] := rfl

theorem append (h : Prints i depth es rs) (h' : Prints i depth fs ss) : Prints i depth (es ++ fs) (rs ++ ss) := by
  rw [Prints] at h h' ⊢
  simp [Margin.run_append, h, h', Row.symbolsOfList]

theorem line {t : String} (h : Row.IsPlaced ⟨depth, t⟩) : Prints i depth [Code.lineEvent t] [⟨depth, t⟩] := by
  have hw : Margin.write (Margin.atDepth i depth) (t.toList ++ ['\n']) =
      (Row.symbols i ⟨depth, t⟩, Margin.atDepth i depth) := by
    rcases h with h | h
    · cases (h : depth = 0)
      have hf : Margin.write ⟨[], true⟩ (t.toList ++ ['\n']) = (t.toList ++ ['\n'], ⟨[], true⟩) :=
        Margin.write_flush true t.toList
      simpa [Row.symbols, Margin.atDepth, Margin.steps] using hf
    · exact Margin.write_line h
  simp [Prints, Margin.run, Margin.step, Code.lineEvent, Row.symbolsOfList, hw]

/-- What is printed one step further in takes the margin one step to the right and back. -/
theorem inner (h : Prints i (depth + 1) es rs) : Prints i depth ([.indent] ++ es ++ [.unindent]) rs := by
  rw [Prints] at h ⊢
  simp [Margin.run_append, Margin.run, Margin.step, h]

end Prints

namespace Code

mutual

theorem prints (i : Indent) {depth : Nat} : (c : Code) → (∀ r ∈ c.rows depth, r.IsPlaced) →
    Prints i depth c.events (c.rows depth)
  | .line t, h => Prints.line (h ⟨depth, t⟩ (by simp [rows]))
  | .blank, h => Prints.line (t := "") (h ⟨depth, ""⟩ (by simp [rows]))
  | .block header body trailer, h => by
      simp only [rows, List.forall_mem_append, List.forall_mem_singleton] at h
      have hb := (printsOfList i body h.1.2).inner
      have := ((Prints.line h.1.1).append hb).append (Prints.line h.2)
      simpa [events, openBlock, closeBlock, rows] using this
  | .either header yes no, h => by
      simp only [rows, List.forall_mem_append, List.forall_mem_singleton] at h
      have hy := (printsOfList i yes h.1.1.1.2).inner
      have hn := (printsOfList i no h.1.2).inner
      have := ((((Prints.line h.1.1.1.1).append hy).append (Prints.line h.1.1.2)).append hn).append (Prints.line h.2)
      simpa [events, openBlock, continueBlock, closeBlock, rows] using this
  | .continuation body, h => by
      have := (printsOfList i body h).inner.inner
      simpa [events, rows] using this

theorem printsOfList (i : Indent) {depth : Nat} : (cs : List Code) → (∀ r ∈ rowsOfList depth cs, r.IsPlaced) →
    Prints i depth (eventsOfList cs) (rowsOfList depth cs)
  | [], _ => Prints.nil
  | c :: cs, h => by
      simp only [rowsOfList, List.forall_mem_append] at h
      exact (prints i c h.1).append (printsOfList i cs h.2)

end

/-- Code is printed as the text of its rows. -/
theorem render_eq (i : Indent) {cs : List Code} (h : ∀ r ∈ rowsOfList 0 cs, r.IsPlaced) :
    render i cs = Row.render i (rowsOfList 0 cs) := by
  have hp : Margin.run i {} (eventsOfList cs) = _ := printsOfList i cs h
  rw [render, hp, Row.render]

/-- A block below such code begins with its header, whatever is in the block. -/
theorem exists_render_eq_append (i : Indent) {cs : List Code} (h : ∀ r ∈ rowsOfList 0 cs, r.IsPlaced)
    (header : String) (body : List Code) (trailer : String) :
    ∃ below, render i (cs ++ [.block header body trailer]) = Row.render i (rowsOfList 0 cs) ++ (header ++ below) := by
  have hp : Margin.run i {} (eventsOfList cs) = (Row.symbolsOfList i (rowsOfList 0 cs), ⟨[], true⟩) :=
    printsOfList i cs h
  have hw : Margin.write ⟨[], true⟩ ((header ++ " \x7b").toList ++ ['\n']) =
      ((header ++ " \x7b").toList ++ ['\n'], ⟨[], true⟩) := Margin.write_flush true _
  refine ⟨" \x7b\n" ++ String.ofList (Margin.run i (Margin.indent ⟨[], true⟩ i)
    (eventsOfList body ++ closeBlock trailer)).1, ?_⟩
  rw [render, eventsOfList_append, Margin.run_append, hp, Row.render, ← String.toList_inj]
  simp only [eventsOfList, events, openBlock, lineEvent, List.cons_append, List.nil_append, List.append_nil, Margin.run,
    Margin.step, hw]
  simp

end Code

end ValueParcel
