import Mathlib.Data.List.Infix
import ValueParcel.Proofs.Layout.Rows

/-!
Indentation on the whole. A call of the writer takes all its symbols, and it makes no difference how a text is cut into
calls: each line stands behind the indentation that was in force when its first symbol came. Steps to the right that are
undone leave the indentation as it was.
-/

namespace ValueParcel

variable {α : Type} [Alphabet α]

/-! ## What is written -/

namespace Event

def symbols : Event α → List α
  | .text symbols => symbols
  | .indent | .unindent => []

/-- The indentation behind the event. -/
def shift (i : Indent) (indentation : List α) : Event α → List α
  | .text _ => indentation
  | .indent => indentation ++ Margin.unit i
  | .unindent => indentation.take (indentation.length - i.width)

/-- The symbols that the events write, each with the indentation in force when it is written. -/
def written (i : Indent) (indentation : List α) : List (Event α) → List (List α × α)
  | [] => []
  | e :: es => e.symbols.map (indentation, ·) ++ written i (e.shift i indentation) es

variable [DecidableEq α]

/-- Each step to the left undoes a step to the right before it, and in the end all are undone. -/
structure IsBalanced (es : List (Event α)) : Prop where
  covered : ∀ before, before <+: es → before.count .unindent ≤ before.count .indent
  closed : es.count .unindent = es.count .indent

instance (es : List (Event α)) : Decidable (IsBalanced es) :=
  decidable_of_iff
    ((∀ before ∈ es.inits, before.count .unindent ≤ before.count .indent) ∧ es.count .unindent = es.count .indent)
    ⟨fun h => ⟨fun before hb => h.1 before ((List.mem_inits _ _).2 hb), h.2⟩,
      fun h => ⟨fun before hb => h.covered before ((List.mem_inits _ _).1 hb), h.closed⟩⟩

end Event

namespace Margin

/-- The symbols of a line behind the indentation of the first of them. -/
def lineBehind (line : List (List α × α)) : List α := (line.head?.map (·.1)).getD [] ++ line.map (·.2)

section Runs

variable [DecidableEq α]

/-- The lines of a text with the breaks between them. One that is not empty stands behind the indentation of its first
symbol, but the first line is bare if it has been begun before. -/
def layOut (fresh : Bool) (written : List (List α × α)) : List α :=
  match written.splitOnP (·.2 = Alphabet.lineBreak) with
  | [] => []
  | first :: rest =>
    [Alphabet.lineBreak].intercalate ((if fresh then lineBehind first else first.map (·.2)) :: rest.map lineBehind)

/-! ## Pieces -/

variable {i : Indent} {m : Margin α}

theorem write_append (m : Margin α) (s t : List α) :
    m.write (s ++ t) = ((m.write s).1 ++ ((m.write s).2.write t).1, ((m.write s).2.write t).2) := by
  induction s generalizing m with
  | nil => rfl
  | cons c s ih => by_cases hc : c = Alphabet.lineBreak <;> simp [write, hc, ih]

theorem indentation_write (m : Margin α) (s : List α) : (m.write s).2.indentation = m.indentation := by
  induction s generalizing m with
  | nil => rfl
  | cons c s ih => by_cases hc : c = Alphabet.lineBreak <;> simp [write, hc, ih]

/-- A piece of a line goes out behind the indentation if it begins the line. -/
theorem write_piece {s : List α} (h : Alphabet.lineBreak ∉ s) (m : Margin α) :
    m.write s = ((if m.fresh ∧ s ≠ [] then m.indentation else []) ++ s, { m with fresh := m.fresh && s.isEmpty }) := by
  induction s generalizing m with
  | nil => simp [write]
  | cons c s ih =>
      simp only [List.mem_cons, not_or] at h
      simp [write, Ne.symm h.1, ih h.2]

theorem write_break (m : Margin α) (s : List α) :
    m.write (Alphabet.lineBreak :: s) =
      (Alphabet.lineBreak :: (write { m with fresh := true } s).1, (write { m with fresh := true } s).2) := by
  simp [write]

theorem lineBreak_not_mem_takeWhile (s : List α) : Alphabet.lineBreak ∉ s.takeWhile (· ≠ Alphabet.lineBreak) := by
  intro h
  simpa using List.all_eq_true.1 List.all_takeWhile _ h

/-- Line by line or symbol by symbol, the same is written, and every symbol is taken. -/
theorem writeLines_eq (m : Margin α) (s : List α) : m.writeLines s = ((m.write s).1, s.length, (m.write s).2) := by
  fun_induction writeLines m s with
  | case1 => rfl
  | case2 m c cs line out hd =>
      have hs : line ++ _ = c :: cs := List.takeWhile_append_dropWhile
      rw [hd, List.append_nil] at hs
      rw [← hs, write_piece (lineBreak_not_mem_takeWhile _)]
      rfl
  | case3 m c cs line out b rest hd others count after hr ih =>
      have hs : line ++ _ = c :: cs := List.takeWhile_append_dropWhile
      obtain rfl : b = Alphabet.lineBreak := by
        have := List.head?_dropWhile_not (· ≠ Alphabet.lineBreak) (c :: cs)
        rw [hd] at this
        simpa using this
      rw [hr] at ih
      cases ih
      rw [hd] at hs
      rw [← hs, write_append, write_piece (lineBreak_not_mem_takeWhile _), write_break]
      simp [out, line, Nat.add_assoc, Nat.add_comm]

/-! ## Runs -/

theorem layOut_cons (fresh : Bool) (indentation : List α) (c : α) (ws : List (List α × α)) :
    layOut fresh ((indentation, c) :: ws) = if c = Alphabet.lineBreak then c :: layOut true ws else
      (if fresh then indentation else []) ++ c :: layOut false ws := by
  obtain ⟨first, rest, hs⟩ := List.exists_cons_of_ne_nil (List.splitOnP_ne_nil (·.2 = Alphabet.lineBreak) ws)
  rw [layOut, layOut, layOut, List.splitOnP_cons_eq_if_modifyHead, hs]
  by_cases hc : c = Alphabet.lineBreak
  · cases fresh <;> simp [hc, lineBehind]
  · cases fresh <;> cases rest <;> simp [hc, lineBehind, List.modifyHead]

theorem layOut_append (m : Margin α) (s : List α) (ws : List (List α × α)) :
    layOut m.fresh (s.map (m.indentation, ·) ++ ws) = (m.write s).1 ++ layOut (m.write s).2.fresh ws := by
  induction s generalizing m with
  | nil => rfl
  | cons c s ih =>
      rw [List.map_cons, List.cons_append, layOut_cons]
      by_cases hc : c = Alphabet.lineBreak
      · simp [write, hc, ← ih]
      · simp [write, hc, ← ih]

/-- An event writes its symbols and shifts the indentation. -/
theorem step_eq (i : Indent) (m : Margin α) (e : Event α) :
    m.step i e = ((m.write e.symbols).1, ⟨e.shift i m.indentation, (m.write e.symbols).2.fresh⟩) := by
  cases e with
  | text s => rw [step, Event.symbols, Event.shift, ← indentation_write m s]
  | indent => rfl
  | unindent => rfl

theorem run_eq_layOut (i : Indent) (m : Margin α) (es : List (Event α)) :
    (m.run i es).1 = layOut m.fresh (Event.written i m.indentation es) := by
  induction es generalizing m with
  | nil => cases m.fresh <;> simp [run, Event.written, layOut, lineBehind]
  | cons e es ih => simp only [run, step_eq, Event.written, layOut_append, ih]

theorem indentation_run (i : Indent) (m : Margin α) (es : List (Event α)) :
    (m.run i es).2.indentation = es.foldl (Event.shift i) m.indentation := by
  induction es generalizing m with
  | nil => rfl
  | cons e es ih => simp only [run, step_eq, List.foldl_cons, ih]

end Runs

/-! ## Steps to the right and back -/

section Steps

variable {i : Indent}

theorem take_append_unit (i : Indent) (indentation : List α) :
    (indentation ++ unit i).take ((indentation ++ unit i).length - i.width) = indentation := by
  rw [List.length_append, length_unit, Nat.add_sub_cancel, List.take_left]

variable [DecidableEq α]

omit [Alphabet α] in
theorem covered_tail {e : Event α} {es : List (Event α)} {depth n : Nat}
    (h : ∀ before, before <+: e :: es → before.count .unindent ≤ depth + before.count .indent)
    (hn : depth + [e].count .indent ≤ n + [e].count .unindent) :
    ∀ before, before <+: es → before.count .unindent ≤ n + before.count .indent := by
  intro before hb
  have hc := h (e :: before) ((List.prefix_cons_inj e).2 hb)
  rw [← List.singleton_append, List.count_append, List.count_append] at hc
  omega

/-- As long as no more steps are undone than have been made, the indentation has one unit for each that is left. -/
theorem foldl_shift {base : List α} {depth : Nat} {es : List (Event α)}
    (h : ∀ before, before <+: es → before.count .unindent ≤ depth + before.count .indent) :
    es.foldl (Event.shift i) (base ++ steps i depth) =
      base ++ steps i (depth + es.count .indent - es.count .unindent) := by
  induction es generalizing depth with
  | nil => simp
  | cons e es ih =>
      rw [List.foldl_cons]
      cases e with
      | text s =>
          rw [Event.shift, ih (covered_tail h (by simp))]
          simp
      | indent =>
          have hd := covered_tail (n := depth + 1) h (by simp)
          rw [Event.shift, List.append_assoc, ← steps_succ, ih hd]
          simp [Nat.add_assoc, Nat.add_comm]
      | unindent =>
          cases depth with
          | zero =>
              have hu := h [.unindent] (by simp)
              simp at hu
          | succ depth =>
              have hd := covered_tail (n := depth) h (by simp)
              rw [Event.shift, steps_succ, ← List.append_assoc, take_append_unit, ih hd, List.count_cons_self,
                List.count_cons_of_ne (by simp), Nat.add_right_comm, Nat.add_sub_add_right]

/-- Balanced events leave the indentation as it was. -/
theorem foldl_shift_of_isBalanced {indentation : List α} {es : List (Event α)} (h : Event.IsBalanced es) :
    es.foldl (Event.shift i) indentation = indentation := by
  have hb : es.foldl (Event.shift i) (indentation ++ steps i 0) =
      indentation ++ steps i (0 + es.count .indent - es.count .unindent) := foldl_shift (by simpa using h.covered)
  rw [h.closed, Nat.zero_add, Nat.sub_self] at hb
  simpa [steps] using hb

/-- The writer takes all symbols of a call and says how many they are; one call writes what two do that share its symbols,
and leaves the same margin; over any run each line that is not empty stands behind the indentation in force when its first
symbol came, and an empty one behind nothing; and balanced events between a step to the right and one to the left leave
the indentation as it was. -/
theorem lines_stand_behind_indentation (i : Indent) (m : Margin α) :
    (∀ s, m.writeLines s = ((m.write s).1, s.length, (m.write s).2)) ∧
    (∀ s t, (m.write (s ++ t)).1 = (m.write s).1 ++ ((m.write s).2.write t).1 ∧
      (m.write (s ++ t)).2 = ((m.write s).2.write t).2) ∧
    (∀ es, (m.run i es).1 = layOut m.fresh (Event.written i m.indentation es)) ∧
    ∀ es, Event.IsBalanced es → (m.run i (.indent :: es ++ [.unindent])).2.indentation = m.indentation := by
  refine ⟨writeLines_eq m, ?_, run_eq_layOut i m, ?_⟩
  · intro s t
    rw [write_append]
    exact ⟨rfl, rfl⟩
  · intro es h
    rw [indentation_run, List.cons_append, List.foldl_cons, List.foldl_append, foldl_shift_of_isBalanced h]
    exact take_append_unit i m.indentation

/-- Behind half a line, and with a step to the right and one back between the two halves of another. -/
theorem lines_stand_behind_indentation_halves :
    Event.IsBalanced [.text "a\nb".toList, .indent, .text "c\n\n".toList, .unindent] ∧
    (run (.spaces 2) ⟨[' '], false⟩
      [.indent, .text "a\nb".toList, .indent, .text "c\n\n".toList, .unindent, .unindent]).2.indentation = [' '] := by
  have hb : Event.IsBalanced [.text "a\nb".toList, .indent, .text "c\n\n".toList, .unindent] := by decide
  obtain ⟨-, -, -, hr⟩ := lines_stand_behind_indentation (.spaces 2) (⟨[' '], false⟩ : Margin Char)
  exact ⟨hb, hr _ hb⟩

end Steps

end Margin

end ValueParcel
