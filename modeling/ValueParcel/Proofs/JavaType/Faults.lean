import Mathlib.Data.List.Basic
import ValueParcel.Proofs.JavaType.Settled

/-!
Where the fault is found. What stands before the fault of a text is the beginning of the text of a type: the machine has
taken it, and from each of its states some text leads on to a type.
-/

namespace ValueParcel.JavaType

/-- Some text that begins with these characters is read as a type. -/
def IsBeginning (front : List Char) : Prop := ∃ rest t, read (String.ofList (front ++ rest)) = .ok t

theorem IsBeginning.of_append {front back : List Char} (h : IsBeginning (front ++ back)) : IsBeginning front := by
  obtain ⟨rest, t, hr⟩ := h
  exact ⟨back ++ rest, t, by rwa [← List.append_assoc]⟩

/-! ## Fronts -/

theorem tokensFrom_name {c : Char} {word rest : List Char} (hc : isNameChar c = true)
    (hw : ∀ d ∈ word, isNameChar d = true) (hr : EndsName rest) (offset : Nat) :
    tokensFrom offset (c :: (word ++ rest)) =
      ⟨.name (String.ofList (c :: word)), offset, startsLoose rest⟩ :: tokensFrom (offset + (1 + word.length)) rest := by
  have hb : ¬ Text.isBlank c = true := fun hb => Bool.noConfusion (hc.symm.trans (isNameChar_eq_false_of_isBlank hb))
  rw [tokensFrom, if_neg hb, if_pos hc, takeWhile_isNameChar hw hr, dropWhile_isNameChar hw hr]

theorem endsName_append_blank {cs rest : List Char} (h : EndsName cs) : EndsName (cs ++ ' ' :: rest) := by
  cases cs with
  | nil => exact endsName_cons isNameChar_blank
  | cons c cs => exact h

/-- A blank ends the tokens of a text, whatever follows it. -/
theorem tokensFrom_append_blank (offset : Nat) (cs rest : List Char) :
    tokensFrom offset (cs ++ ' ' :: rest) = tokensFrom offset cs ++ tokensFrom (offset + cs.length) (' ' :: rest) := by
  have hl : ∀ cs, startsLoose (cs ++ ' ' :: rest) = startsLoose cs := by
    intro cs
    cases cs <;> rfl
  fun_induction tokensFrom offset cs with
  | case1 => rfl
  | case2 offset c cs hb ih =>
      rw [List.cons_append, tokensFrom, if_pos hb, ih, List.length_cons, Nat.add_assoc, Nat.add_comm 1]
  | case3 offset c cs hb hn behind ih =>
      have hcs : cs.takeWhile isNameChar ++ behind = cs := List.takeWhile_append_dropWhile
      have hw : ∀ d ∈ cs.takeWhile isNameChar, isNameChar d = true := List.all_eq_true.1 List.all_takeWhile
      have hr : EndsName (behind ++ ' ' :: rest) := endsName_append_blank (head?_dropWhile_isNameChar cs)
      have hs : c :: cs ++ ' ' :: rest = c :: (cs.takeWhile isNameChar ++ (behind ++ ' ' :: rest)) := by
        rw [← List.append_assoc, hcs, List.cons_append]
      have ho : offset + (1 + (cs.takeWhile isNameChar).length) + behind.length = offset + (c :: cs).length := by
        have := congrArg List.length hcs
        simp only [List.length_append, List.length_cons] at this ⊢
        omega
      rw [hs, tokensFrom_name hn hw hr, ih, hl, ho, List.cons_append]
  | case4 offset c cs hb hn ih =>
      rw [List.cons_append, tokensFrom, if_neg hb, if_neg hn, ih, hl, List.length_cons, Nat.add_assoc, Nat.add_comm 1,
        List.cons_append]

/-- Tokens of a text that come first are, but for what follows the last of them, the tokens of a text that comes first;
and what comes behind begins with the next token, if there is one. -/
theorem exists_front {offset : Nat} {cs : List Char} {pre post : List Token} (h : tokensFrom offset cs = pre ++ post) :
    ∃ front back, cs = front ++ back ∧ (tokensFrom offset front).map (·.lexeme) = pre.map (·.lexeme) ∧
      (∀ token ∈ post.head?, token.offset = offset + front.length) ∧ (post = [] ↔ back = []) := by
  fun_induction tokensFrom offset cs generalizing pre with
  | case1 offset =>
      obtain ⟨rfl, rfl⟩ := List.append_eq_nil_iff.1 h.symm
      exact ⟨[], [], rfl, by simp [tokensFrom], by simp, iff_of_true rfl rfl⟩
  | case2 offset c cs hb ih =>
      obtain ⟨front, back, rfl, hm, ho, he⟩ := ih h
      refine ⟨c :: front, back, rfl, ?_, ?_, he⟩
      · rw [tokensFrom, if_pos hb, hm]
      · intro token ht
        rw [ho token ht, List.length_cons, Nat.add_assoc, Nat.add_comm 1]
  | case3 offset c cs hb hn behind =>
      rename_i ih
      cases pre with
      | nil =>
          obtain rfl : _ = post := h
          exact ⟨[], _, rfl, by simp [tokensFrom], by simp, by simp⟩
      | cons token pre =>
          obtain ⟨rfl, hp⟩ := List.cons.inj h
          obtain ⟨front, back, hcs, hm, ho, he⟩ := ih hp
          have hw : ∀ d ∈ cs.takeWhile isNameChar, isNameChar d = true := List.all_eq_true.1 List.all_takeWhile
          have hf : EndsName front := by
            have hd : EndsName (front ++ back) := hcs ▸ head?_dropWhile_isNameChar cs
            cases front with
            | nil => exact fun d hd => absurd hd (Option.not_mem_none d)
            | cons d front => exact hd
          refine ⟨c :: (cs.takeWhile isNameChar ++ front), back, ?_, ?_, ?_, he⟩
          · rw [List.cons_append, List.append_assoc, ← hcs, List.takeWhile_append_dropWhile]
          · rw [tokensFrom_name hn hw hf, List.map_cons, List.map_cons, hm]
          · intro token ht
            rw [ho token ht, List.length_cons, List.length_append]
            omega
  | case4 offset c cs hb hn ih =>
      cases pre with
      | nil =>
          obtain rfl : _ = post := h
          exact ⟨[], _, rfl, by simp [tokensFrom], by simp, by simp⟩
      | cons token pre =>
          obtain ⟨rfl, hp⟩ := List.cons.inj h
          obtain ⟨front, back, rfl, hm, ho, he⟩ := ih hp
          refine ⟨c :: front, back, rfl, ?_, ?_, he⟩
          · rw [tokensFrom, if_neg hb, if_neg hn, List.map_cons, List.map_cons, hm]
          · intro token ht
            rw [ho token ht, List.length_cons, Nat.add_assoc, Nat.add_comm 1]

/-! ## Passing tokens -/

variable {frames next : List Frame} {stage stage' : Stage} {t u : JavaType} {token : Token} {ls : List Lexeme}

/-- The machine takes the tokens and goes from one state to another. -/
inductive Passes : List Frame → Stage → List Token → List Frame → Stage → Prop
  | nil (frames : List Frame) (stage : Stage) : Passes frames stage [] frames stage
  | cons {frames next last : List Frame} {stage stage' stage'' : Stage} {token : Token} {rest : List Token} :
      step frames stage token = .ok (next, stage') → Passes next stage' rest last stage'' →
      Passes frames stage (token :: rest) last stage''

/-- If the machine takes a token, that and what is demanded behind it were demanded before. -/
theorem demands_of_step (hp : token.lexeme.IsProper) (hs : step frames stage token = .ok (next, stage'))
    (hd : Demands next stage' ls t) : Demands frames stage (token.lexeme :: ls) t := by
  have hx : ∃ next stage', step frames stage token = .ok (next, stage') ∧ Demands next stage' ls t :=
    ⟨next, stage', hs, hd⟩
  cases stage with
  | start =>
      have ht : Spaced [token] := ⟨hp, by simp, trivial⟩
      exact (demands_start ht).2 hx
  | head u =>
      cases u with
      | free n =>
          by_cases hl : token.lexeme = .name "extends" ∧ token.loose = true
          · simp only [step, hl, and_self, if_true] at hs
            cases hs
            exact .inl ⟨ls, by rw [hl.1], hd⟩
          · simp only [step, hl, if_false] at hs
            exact .inr (continues_cons.2 ⟨next, stage', hs, hd⟩)
      | declared n args => exact demands_declared.2 hx
      | _ => exact continues_cons.2 hx
  | whole u => exact continues_cons.2 hx
  | bracket u => exact demands_bracket.2 hx

theorem Passes.demands {pre : List Token} (h : Passes frames stage pre next stage')
    (hp : ∀ token ∈ pre, token.lexeme.IsProper) (hd : Demands next stage' ls t) :
    Demands frames stage (pre.map (·.lexeme) ++ ls) t := by
  induction h with
  | nil => exact hd
  | cons hs _ ih =>
      rw [List.forall_mem_cons] at hp
      exact demands_of_step hp.1 hs (ih hp.2 hd)

theorem Passes.run_append {pre : List Token} (h : Passes frames stage pre next stage') (stop : Nat) (post : List Token) :
    run stop frames stage (pre ++ post) = run stop next stage' post := by
  induction h with
  | nil => rfl
  | cons hs _ ih => rw [List.cons_append, run, hs, ← ih]

theorem offset_of_deliver_eq_error {e : Complaint × Nat} (h : deliver u token frames = .error e) :
    e.2 = token.offset := by
  induction frames generalizing u with
  | nil =>
      cases h
      rfl
  | cons frame frames ih =>
      cases frame with
      | bound n => exact ih h
      | arguments n before =>
          rw [deliver] at h
          split at h
          · cases h
          · split at h
            · cases h
            · cases h
              rfl

theorem offset_of_continueWith_eq_error {e : Complaint × Nat} (h : continueWith frames u token = .error e) :
    e.2 = token.offset := by
  rw [continueWith] at h
  split at h
  · cases h
  · exact offset_of_deliver_eq_error h

/-- A token that the machine does not take is the fault. -/
theorem offset_of_step_eq_error {e : Complaint × Nat} (h : step frames stage token = .error e) : e.2 = token.offset := by
  rw [step.eq_def] at h
  split at h
  · split at h
    · cases h
    · cases h
      rfl
  · split at h
    · cases h
    · exact offset_of_continueWith_eq_error h
  · split at h
    · cases h
    · exact offset_of_continueWith_eq_error h
  · exact offset_of_continueWith_eq_error h
  · exact offset_of_continueWith_eq_error h
  · split at h
    · cases h
    · cases h
      rfl

/-- Where the machine complains, it has taken the tokens before, and the fault is the next one or the end. -/
theorem exists_passes_of_run_eq_error {stop : Nat} {tokens : List Token} {e : Complaint × Nat}
    (h : run stop frames stage tokens = .error e) :
    ∃ pre post next stage', tokens = pre ++ post ∧ Passes frames stage pre next stage' ∧
      (post = [] ∧ e.2 = stop ∨ ∃ token rest, post = token :: rest ∧ step next stage' token = .error e) := by
  induction tokens generalizing frames stage with
  | nil =>
      refine ⟨[], [], frames, stage, rfl, .nil _ _, .inl ⟨rfl, ?_⟩⟩
      rw [run] at h
      cases hf : finish frames stage with
      | error complaint =>
          rw [hf] at h
          cases h
          rfl
      | ok t =>
          rw [hf] at h
          cases h
  | cons token rest ih =>
      rw [run] at h
      cases hs : step frames stage token with
      | error e' =>
          rw [hs] at h
          cases h
          exact ⟨[], token :: rest, frames, stage, rfl, .nil _ _, .inr ⟨token, rest, rfl, hs⟩⟩
      | ok next =>
          rw [hs] at h
          obtain ⟨pre, post, last, stage'', rfl, hp, he⟩ := ih h
          exact ⟨token :: pre, post, last, stage'', rfl, .cons hs hp, he⟩

/-! ## Endings -/

/-- Frames are closed by a text: one sign for each class that waits for arguments. -/
theorem exists_closing (frames : List Frame) (u : JavaType) :
    ∃ cs ls t, EndsName cs ∧ Splits cs ls ∧ Closes frames u ls t := by
  induction frames generalizing u with
  | nil => exact ⟨[], [], u, nofun, .nil, rfl, rfl⟩
  | cons frame frames ih =>
      cases frame with
      | bound n => exact ih (bounded n u)
      | arguments n before =>
          obtain ⟨cs, ls, t, -, hs, hc⟩ := ih (declared n (before ++ [u]))
          exact ⟨'>' :: cs, .sign '>' :: ls, t, endsName_cons (by decide), .sign (by decide) hs, [], [], 0, ls, .none,
            rfl, hc⟩

/-- From every state some text leads on to a type. -/
theorem exists_ending (frames : List Frame) (stage : Stage) : ∃ cs ls t, Splits cs ls ∧ Demands frames stage ls t := by
  cases stage with
  | start =>
      have hn : IsVariableName "T" := by decide
      obtain ⟨cs, ls, t, he, hs, hc⟩ := exists_closing frames (free "T")
      exact ⟨_, _, t, hs.word hn.isProper he, [.name "T"], free "T", ls, .free 0 hn, rfl, hc⟩
  | head u =>
      obtain ⟨cs, ls, t, -, hs, hc⟩ := exists_closing frames u
      have hu : Continues frames u ls t := ⟨0, ls, rfl, hc⟩
      refine ⟨cs, ls, t, hs, ?_⟩
      cases u with
      | free n => exact .inr hu
      | declared n args => exact .inr hu
      | _ => exact hu
  | whole u =>
      obtain ⟨cs, ls, t, -, hs, hc⟩ := exists_closing frames u
      exact ⟨cs, ls, t, hs, 0, ls, rfl, hc⟩
  | bracket u =>
      obtain ⟨cs, ls, t, -, hs, hc⟩ := exists_closing frames (array u)
      exact ⟨']' :: cs, .sign ']' :: ls, t, .sign (by decide) hs, ls, rfl, 0, ls, rfl, hc⟩

/-! ## Faults -/

variable {s : String} {e : ReadError}

theorem Spaced.isProper {tokens : List Token} (h : Spaced tokens) : ∀ token ∈ tokens, token.lexeme.IsProper := by
  induction tokens with
  | nil => nofun
  | cons token rest ih => exact List.forall_mem_cons.2 ⟨h.1, ih h.2.2⟩

/-- What the machine has taken can be continued, behind a blank, to the text of a type. -/
theorem Passes.isBeginning {pre : List Token} (h : Passes [] .start pre next stage')
    (hp : ∀ token ∈ pre, token.lexeme.IsProper) {front : List Char}
    (hf : (tokensFrom 0 front).map (·.lexeme) = pre.map (·.lexeme)) : IsBeginning (front ++ [' ']) := by
  obtain ⟨cs, ls, t, hs, hd⟩ := exists_ending next stage'
  refine ⟨cs, t, read_eq_ok_iff.2 (names_iff.2 ?_)⟩
  have hb : (tokensFrom front.length (' ' :: cs)).map (·.lexeme) = ls := lexemes_of_splits (.blank isBlank_blank hs) _
  rw [String.toList_ofList, List.append_assoc, List.singleton_append, lexemes, tokens, tokensFrom_append_blank,
    List.map_append, hf, Nat.zero_add, hb]
  exact demands_nil_start.1 (h.demands hp hd)

theorem read_eq_error_iff :
    read s = .error e ↔ e.input = s ∧ run s.length [] .start (tokens s.toList) = .error (e.complaint, e.offset) := by
  rw [read]
  cases run s.length [] .start (tokens s.toList) with
  | ok t =>
      constructor
      · intro h
        cases h
      · rintro ⟨-, h⟩
        cases h
  | error fault =>
      constructor
      · intro h
        cases h
        exact ⟨rfl, rfl⟩
      · rintro ⟨rfl, h⟩
        cases h
        rfl

/-- A fault lies within the text or at its end. What stands before it, and all that stands before that, is the beginning of
the text of a type. Unless the fault is the end, a token stands there, and every text with the same tokens so far has the
same fault. -/
theorem fault_isPlaced (h : read s = .error e) :
    e.offset ≤ s.length ∧ (∀ k ≤ e.offset, IsBeginning (s.toList.take k)) ∧
      (e.offset = s.length ∨ ∃ pre token post, tokens s.toList = pre ++ token :: post ∧ token.offset = e.offset ∧
        ∀ s' post', tokens s'.toList = pre ++ token :: post' → read s' = .error ⟨s', e.complaint, e.offset⟩) := by
  obtain ⟨-, hr⟩ := read_eq_error_iff.1 h
  obtain ⟨pre, post, next, stage, ht, hp, hend⟩ := exists_passes_of_run_eq_error hr
  obtain ⟨front, back, hs, hf, ho, hb⟩ := exists_front ht
  have hlen : s.length = front.length + back.length := by rw [← String.length_toList, hs, List.length_append]
  have hfront : e.offset = front.length := by
    rcases hend with ⟨hnil, he⟩ | ⟨token, rest, rfl, he⟩
    · rw [show e.offset = s.length from he, hlen, hb.1 hnil, List.length_nil, Nat.add_zero]
    · rw [show e.offset = token.offset from offset_of_step_eq_error he, ho token rfl, Nat.zero_add]
  refine ⟨by omega, ?_, ?_⟩
  · intro k hk
    have hpre : ∀ token ∈ pre, token.lexeme.IsProper := by
      intro token hm
      have hsp : Spaced (pre ++ post) := ht ▸ spaced_tokensFrom 0 s.toList
      exact hsp.isProper token (List.mem_append_left _ hm)
    have hbegin : IsBeginning front := (hp.isBeginning hpre hf).of_append
    rw [hs, List.take_append_of_le_length (hfront ▸ hk)]
    rw [← List.take_append_drop k front] at hbegin
    exact hbegin.of_append
  · rcases hend with ⟨-, he⟩ | ⟨token, rest, rfl, he⟩
    · exact .inl he
    · refine .inr ⟨pre, token, rest, ht, (offset_of_step_eq_error he).symm, ?_⟩
      intro s' post' ht'
      rw [read_eq_error_iff, ht', hp.run_append, run, he]
      exact ⟨rfl, rfl⟩

/-- A second bracket too many, behind a bound within arguments. -/
theorem fault_isPlaced_entry :
    read "a.Map<K extends a.B[], int>>" = .error ⟨"a.Map<K extends a.B[], int>>", .unexpected '>', 27⟩ ∧
    IsBeginning "a.Map<K extends a.B[], int>".toList ∧ IsBeginning "a.Map<K ext".toList := by
  have h : read "a.Map<K extends a.B[], int>>" = .error ⟨"a.Map<K extends a.B[], int>>", .unexpected '>', 27⟩ :=
    read_eq_error_iff.2 ⟨rfl, by cbv⟩
  obtain ⟨-, hb, -⟩ := fault_isPlaced h
  exact ⟨h, hb 27 (Nat.le_refl 27), hb 11 (by decide)⟩

end ValueParcel.JavaType
