import ValueParcel.JavaType.Reader
import ValueParcel.Proofs.JavaType.Lexing

/-!
Reading and the grammar. What the state of the machine still demands of the lexemes is written down as a relation, and
one step of the machine is one step through it; so exactly the texts that the grammar derives are read.
-/

namespace ValueParcel.JavaType

/-! ## Demands -/

/-- What may stand between an argument and the closing bracket: more arguments. -/
inductive More : List Lexeme → List JavaType → Prop
  | none : More [] []
  | comma {ls : List Lexeme} {ts : List JavaType} : DerivesList ls ts → More (.sign ',' :: ls) ts

/-- Behind the complete type `u` the lexemes close the frames, and `t` is the type on the whole. -/
def Closes : List Frame → JavaType → List Lexeme → JavaType → Prop
  | [], u, ls, t => ls = [] ∧ u = t
  | .bound n :: frames, u, ls, t => Closes frames (bounded n u) ls t
  | .arguments n before :: frames, u, ls, t => ∃ ms ts k rest, More ms ts ∧
      ls = ms ++ .sign '>' :: (brackets k ++ rest) ∧ Closes frames (arrays k (declared n (before ++ u :: ts))) rest t

def Continues (frames : List Frame) (u : JavaType) (ls : List Lexeme) (t : JavaType) : Prop :=
  ∃ k rest, ls = brackets k ++ rest ∧ Closes frames (arrays k u) rest t

def Opens (frames : List Frame) (ls : List Lexeme) (t : JavaType) : Prop :=
  ∃ ms u rest, Derives ms u ∧ ls = ms ++ rest ∧ Closes frames u rest t

/-- What a state of the machine demands of the lexemes that are left, for the whole to be `t`. -/
def Demands (frames : List Frame) : Stage → List Lexeme → JavaType → Prop
  | .start, ls, t => Opens frames ls t
  | .head (free n), ls, t =>
    (∃ ms, ls = .name "extends" :: ms ∧ Opens (.bound n :: frames) ms t) ∨ Continues frames (free n) ls t
  | .head (declared n args), ls, t =>
    (∃ ms, ls = .sign '<' :: ms ∧ Opens (.arguments n args :: frames) ms t) ∨
      Continues frames (declared n args) ls t
  | .head u, ls, t | .whole u, ls, t => Continues frames u ls t
  | .bracket u, ls, t => ∃ ms, ls = .sign ']' :: ms ∧ Continues frames (array u) ms t

/-! ## Derivations -/

theorem Derives.exists_name {ls : List Lexeme} {t : JavaType} (h : Derives ls t) :
    ∃ word ms, ls = .name word :: ms := by
  cases h with
  | _ => exact ⟨_, _, rfl⟩

theorem derivesList_iff {ls : List Lexeme} {ts : List JavaType} :
    DerivesList ls ts ↔ ∃ ms rest u us, ls = ms ++ rest ∧ ts = u :: us ∧ Derives ms u ∧ More rest us := by
  constructor
  · intro h
    cases h with
    | one hd => exact ⟨_, [], _, [], by simp, rfl, hd, .none⟩
    | more hd hs => exact ⟨_, _, _, _, rfl, rfl, hd, .comma hs⟩
  · rintro ⟨ms, rest, u, us, rfl, rfl, hd, hm⟩
    cases hm with
    | none => simpa using DerivesList.one hd
    | comma hs => exact .more hd hs

theorem isSign_brackets {k : Nat} {c : Char} (h : .sign c ∈ brackets k) : isSign c = true := by
  induction k with
  | zero => simp [brackets] at h
  | succ k ih =>
      simp only [brackets, List.mem_cons, Lexeme.sign.injEq] at h
      rcases h with rfl | rfl | h
      · decide
      · decide
      · exact ih h

mutual

theorem Derives.isSign {c : Char} {ls : List Lexeme} {t : JavaType} : Derives ls t → .sign c ∈ ls → isSign c = true
  | .void n, hc | .primitive k n, hc | .free n _, hc | .raw n _, hc => by
      rcases List.mem_cons.1 hc with hc | hc
      · cases hc
      · exact isSign_brackets hc
  | .bounded _ h, hc => by
      simp only [List.mem_cons, reduceCtorEq, false_or] at hc
      exact h.isSign hc
  | .generic n _ h, hc => by
      simp only [List.mem_cons, List.mem_append, Lexeme.sign.injEq, reduceCtorEq, false_or] at hc
      rcases hc with rfl | hc | rfl | hc
      · decide
      · exact h.isSign hc
      · decide
      · exact isSign_brackets hc

theorem DerivesList.isSign {c : Char} {ls : List Lexeme} {ts : List JavaType} :
    DerivesList ls ts → .sign c ∈ ls → isSign c = true
  | .one h, hc => h.isSign hc
  | .more h hs, hc => by
      simp only [List.mem_append, List.mem_cons, Lexeme.sign.injEq] at hc
      rcases hc with hc | rfl | hc
      · exact h.isSign hc
      · decide
      · exact hs.isSign hc

end

/-! ## Names -/

theorem keyword_of_ofKeyword? {word : String} {k : Primitive} (h : Primitive.ofKeyword? word = some k) :
    k.keyword = word := by
  simpa using List.find?_some h

theorem ofName_keyword (k : Primitive) : Stage.ofName k.keyword = .whole (primitive k) := by
  have hv : k.keyword ≠ "void" := by cases k <;> decide
  rw [Stage.ofName, if_neg hv, Primitive.ofKeyword?_keyword]

theorem ofName_variable {word : String} (h : IsVariableName word) : Stage.ofName word = .head (free word) := by
  obtain ⟨-, -, hd, hv, hk⟩ := h
  simp [Stage.ofName, hv, hk, hd]

theorem ofName_class {word : String} (h : IsClassName word) : Stage.ofName word = .head (raw word) := by
  have hv : word ≠ "void" := by
    rintro rfl
    exact absurd h.2 (by decide)
  have hk : Primitive.ofKeyword? word = none := by
    cases hk : Primitive.ofKeyword? word with
    | none => rfl
    | some k =>
        cases keyword_of_ofKeyword? hk
        exact absurd h.2 (by cases k <;> decide)
  simp [Stage.ofName, hv, hk, h.2]

theorem IsProper.cases {word : String} (h : Lexeme.IsProper (.name word)) :
    word = "void" ∨ (∃ k : Primitive, word = k.keyword) ∨ IsVariableName word ∨ IsClassName word := by
  by_cases hv : word = "void"
  · exact .inl hv
  by_cases hd : '.' ∈ word.toList
  · exact .inr (.inr (.inr ⟨h.2, hd⟩))
  cases hk : Primitive.ofKeyword? word with
  | none => exact .inr (.inr (.inl ⟨h.1, h.2, hd, hv, hk⟩))
  | some k => exact .inr (.inl ⟨k, (keyword_of_ofKeyword? hk).symm⟩)

/-! ## One token -/

variable {frames : List Frame} {u t : JavaType} {token : Token} {ls : List Lexeme}

theorem opens_arguments {n : String} {before : List JavaType} :
    Opens (.arguments n before :: frames) ls t ↔ ∃ ms ts k rest, DerivesList ms ts ∧
      ls = ms ++ .sign '>' :: (brackets k ++ rest) ∧ Closes frames (arrays k (declared n (before ++ ts))) rest t := by
  constructor
  · rintro ⟨ms, u, _, hd, rfl, ns, ts, k, rest, hm, rfl, hc⟩
    exact ⟨ms ++ ns, u :: ts, k, rest, derivesList_iff.2 ⟨ms, ns, u, ts, rfl, rfl, hd, hm⟩, by simp, hc⟩
  · rintro ⟨_, _, k, rest, hs, rfl, hc⟩
    obtain ⟨ms, ns, u, ts, rfl, rfl, hd, hm⟩ := derivesList_iff.1 hs
    exact ⟨ms, u, _, hd, by simp, ns, ts, k, rest, hm, rfl, hc⟩

/-- A complete type is delivered to its frame if the token is what closes the frame. -/
theorem closes_cons : Closes frames u (token.lexeme :: ls) t ↔
    ∃ next stage, deliver u token frames = .ok (next, stage) ∧ Demands next stage ls t := by
  induction frames generalizing u with
  | nil => simp [Closes, deliver]
  | cons frame frames ih =>
      cases frame with
      | bound n => exact ih
      | arguments n before =>
          constructor
          · rintro ⟨ms, ts, k, rest, hm, he, hc⟩
            cases hm with
            | none =>
                obtain ⟨hl, rfl⟩ := List.cons.inj he
                exact ⟨frames, .whole (declared n (before ++ [u])), by simp [deliver, hl], k, rest, rfl, hc⟩
            | comma hs =>
                obtain ⟨hl, rfl⟩ := List.cons.inj he
                refine ⟨.arguments n (before ++ [u]) :: frames, .start, by simp [deliver, hl], ?_⟩
                exact opens_arguments.2 ⟨_, ts, k, rest, hs, rfl, by simpa using hc⟩
          · rintro ⟨next, stage, hd, hn⟩
            rw [deliver] at hd
            split at hd
            · rename_i hl
              cases hd
              obtain ⟨ms, ts, k, rest, hs, rfl, hc⟩ := opens_arguments.1 hn
              exact ⟨.sign ',' :: ms, ts, k, rest, .comma hs, by simp [hl], by simpa using hc⟩
            · split at hd
              · rename_i hl
                cases hd
                obtain ⟨k, rest, rfl, hc⟩ := hn
                exact ⟨[], [], k, rest, .none, by simp [hl], hc⟩
              · cases hd

theorem Closes.eq_sign {l : Lexeme} (h : Closes frames u (l :: ls) t) : l = .sign ',' ∨ l = .sign '>' := by
  induction frames generalizing u with
  | nil => exact absurd h.1 (List.cons_ne_nil _ _)
  | cons frame frames ih =>
      cases frame with
      | bound n => exact ih h
      | arguments n before =>
          obtain ⟨ms, ts, k, rest, hm, he, -⟩ := h
          cases hm with
          | none => exact .inr (List.cons.inj he).1
          | comma hs => exact .inl (List.cons.inj he).1

theorem continues_iff : Continues frames u ls t ↔
    Closes frames u ls t ∨ ∃ ms, ls = .sign '[' :: .sign ']' :: ms ∧ Continues frames (array u) ms t := by
  constructor
  · rintro ⟨k, rest, rfl, hc⟩
    cases k with
    | zero => exact .inl hc
    | succ k => exact .inr ⟨_, rfl, k, rest, rfl, hc⟩
  · rintro (hc | ⟨ms, rfl, k, rest, rfl, hc⟩)
    · exact ⟨0, ls, rfl, hc⟩
    · exact ⟨k + 1, rest, rfl, hc⟩

theorem continues_cons : Continues frames u (token.lexeme :: ls) t ↔
    ∃ next stage, continueWith frames u token = .ok (next, stage) ∧ Demands next stage ls t := by
  rw [continues_iff]
  by_cases hl : token.lexeme = .sign '['
  · rw [hl, continueWith, if_pos hl]
    constructor
    · rintro (hc | ⟨ms, he, hm⟩)
      · exact absurd hc.eq_sign (by decide)
      · exact ⟨frames, .bracket u, rfl, ms, (List.cons.inj he).2, hm⟩
    · rintro ⟨next, stage, hs, hd⟩
      cases hs
      obtain ⟨ms, rfl, hm⟩ := hd
      exact .inr ⟨ms, rfl, hm⟩
  · rw [closes_cons, continueWith, if_neg hl]
    simp [hl]

theorem not_continues {l : Lexeme} (hc : l ≠ .sign ',') (ha : l ≠ .sign '>') (hb : l ≠ .sign '[') :
    ¬ Continues frames u (l :: ls) t := by
  rw [continues_iff]
  rintro (h | ⟨ms, he, -⟩)
  · exact h.eq_sign.elim hc ha
  · exact hb (List.cons.inj he).1

theorem opens_cons {word : String} : Opens frames (.name word :: ls) t ↔
    ∃ ms u rest, Derives (.name word :: ms) u ∧ ls = ms ++ rest ∧ Closes frames u rest t := by
  constructor
  · rintro ⟨_, u, rest, hd, he, hc⟩
    obtain ⟨word', ms, rfl⟩ := hd.exists_name
    obtain ⟨hw, hl⟩ := List.cons.inj he
    cases hw
    exact ⟨ms, u, rest, hd, hl, hc⟩
  · rintro ⟨ms, u, rest, hd, rfl, hc⟩
    exact ⟨_, u, rest, hd, rfl, hc⟩

/-- What a name begins is demanded behind it. -/
theorem opens_name {word : String} (h : Lexeme.IsProper (.name word)) :
    Opens frames (.name word :: ls) t ↔ Demands frames (.ofName word) ls t := by
  rw [opens_cons]
  constructor
  · rintro ⟨ms, u, rest, hd, rfl, hc⟩
    cases hd with
    | void k => exact ⟨k, rest, rfl, hc⟩
    | primitive p k =>
        rw [ofName_keyword]
        exact ⟨k, rest, rfl, hc⟩
    | free k hu =>
        rw [ofName_variable hu]
        exact .inr ⟨k, rest, rfl, hc⟩
    | bounded hu hb =>
        rw [ofName_variable hu]
        exact .inl ⟨_, rfl, _, _, rest, hb, rfl, hc⟩
    | raw k hn =>
        rw [ofName_class hn]
        exact .inr ⟨k, rest, rfl, hc⟩
    | generic k hn hs =>
        rw [ofName_class hn]
        exact .inl ⟨_, rfl, opens_arguments.2 ⟨_, _, k, rest, hs, by simp, hc⟩⟩
  · intro hd
    rcases IsProper.cases h with rfl | ⟨p, rfl⟩ | hu | hn
    · obtain ⟨k, rest, rfl, hc⟩ := hd
      exact ⟨_, _, rest, .void k, rfl, hc⟩
    · rw [ofName_keyword] at hd
      obtain ⟨k, rest, rfl, hc⟩ := hd
      exact ⟨_, _, rest, .primitive p k, rfl, hc⟩
    · rw [ofName_variable hu] at hd
      rcases hd with ⟨_, rfl, ms, b, rest, hb, rfl, hc⟩ | ⟨k, rest, rfl, hc⟩
      · exact ⟨_, _, rest, .bounded hu hb, rfl, hc⟩
      · exact ⟨_, _, rest, .free k hu, rfl, hc⟩
    · rw [ofName_class hn] at hd
      rcases hd with ⟨_, rfl, ho⟩ | ⟨k, rest, rfl, hc⟩
      · obtain ⟨ms, ts, k, rest, hs, rfl, hc⟩ := opens_arguments.1 ho
        exact ⟨_, _, rest, .generic k hn hs, by simp, hc⟩
      · exact ⟨_, _, rest, .raw k hn, rfl, hc⟩

theorem Opens.exists_name (h : Opens frames ls t) : ∃ word ms, ls = .name word :: ms := by
  obtain ⟨_, u, rest, hd, rfl, -⟩ := h
  obtain ⟨word, ms, rfl⟩ := hd.exists_name
  exact ⟨word, ms ++ rest, rfl⟩

section Step

variable {rest : List Token}

theorem exists_ok {r : Except (Complaint × Nat) (List Frame × Stage)} {next : List Frame} {stage : Stage}
    (h : r = .ok (next, stage)) {P : List Frame → Stage → Prop} :
    (∃ next' stage', r = .ok (next', stage') ∧ P next' stage') ↔ P next stage := by
  constructor
  · rintro ⟨next', stage', he, hp⟩
    rw [h] at he
    cases he
    exact hp
  · exact fun hp => ⟨next, stage, h, hp⟩

theorem demands_start (h : Spaced (token :: rest)) :
    Demands frames .start (token.lexeme :: ls) t ↔
      ∃ next stage, step frames .start token = .ok (next, stage) ∧ Demands next stage ls t := by
  cases hl : token.lexeme with
  | name word =>
      have hw := h.1
      rw [hl] at hw
      have hs : step frames .start token = .ok (frames, .ofName word) := by simp [step, hl]
      rw [exists_ok hs, Demands, opens_name hw]
  | sign c =>
      constructor
      · intro ho
        obtain ⟨word, ms, he⟩ := Opens.exists_name ho
        exact absurd (List.cons.inj he).1 (by simp)
      · rintro ⟨next, stage, hs, -⟩
        simp [step, hl] at hs

/-- Behind a variable the word `extends` is demanded only with a type behind it, and then a blank follows it. -/
theorem demands_free {n : String} (h : Spaced (token :: rest)) :
    Demands frames (.head (free n)) (token.lexeme :: rest.map (·.lexeme)) t ↔
      ∃ next stage, step frames (.head (free n)) token = .ok (next, stage) ∧
        Demands next stage (rest.map (·.lexeme)) t := by
  by_cases hl : token.lexeme = .name "extends"
  · have hn : ¬ Continues frames (free n) (token.lexeme :: rest.map (·.lexeme)) t := by
      rw [hl]
      exact not_continues (by simp) (by simp) (by simp)
    by_cases ho : token.loose = true
    · have hs : step frames (.head (free n)) token = .ok (.bound n :: frames, .start) := by simp [step, hl, ho]
      rw [exists_ok hs]
      constructor
      · rintro (⟨ms, he, hb⟩ | hc)
        · exact (List.cons.inj he).2 ▸ hb
        · exact absurd hc hn
      · exact fun hd => .inl ⟨_, by rw [hl], hd⟩
    · have hs : step frames (.head (free n)) token = continueWith frames (free n) token := by simp [step, ho]
      rw [hs, ← continues_cons, Demands, or_iff_left hn]
      constructor
      · rintro ⟨ms, he, hb⟩
        obtain ⟨word, ms', hm⟩ := hb.exists_name
        rw [← (List.cons.inj he).2] at hm
        have hh : rest.head?.map (·.lexeme) = some (.name word) := by rw [← List.head?_map, hm, List.head?_cons]
        exact absurd (h.2.1 word hh "extends" hl) ho
      · exact fun hc => absurd hc hn
  · have hs : step frames (.head (free n)) token = continueWith frames (free n) token := by simp [step, hl]
    rw [hs, ← continues_cons, Demands, or_iff_right]
    rintro ⟨ms, he, -⟩
    exact hl (List.cons.inj he).1

theorem demands_declared {n : String} {args : List JavaType} :
    Demands frames (.head (declared n args)) (token.lexeme :: ls) t ↔
      ∃ next stage, step frames (.head (declared n args)) token = .ok (next, stage) ∧ Demands next stage ls t := by
  by_cases hl : token.lexeme = .sign '<'
  · have hs : step frames (.head (declared n args)) token = .ok (.arguments n args :: frames, .start) := by
      simp [step, hl]
    have hn : ¬ Continues frames (declared n args) (token.lexeme :: ls) t := by
      rw [hl]
      exact not_continues (by decide) (by decide) (by decide)
    rw [exists_ok hs]
    constructor
    · rintro (⟨ms, he, ho⟩ | hc)
      · exact (List.cons.inj he).2 ▸ ho
      · exact absurd hc hn
    · exact fun hd => .inl ⟨_, by rw [hl], hd⟩
  · have hs : step frames (.head (declared n args)) token = continueWith frames (declared n args) token := by
      simp [step, hl]
    rw [hs, ← continues_cons, Demands, or_iff_right]
    rintro ⟨ms, he, -⟩
    exact hl (List.cons.inj he).1

theorem demands_bracket : Demands frames (.bracket u) (token.lexeme :: ls) t ↔
    ∃ next stage, step frames (.bracket u) token = .ok (next, stage) ∧ Demands next stage ls t := by
  by_cases hl : token.lexeme = .sign ']'
  · have hs : step frames (.bracket u) token = .ok (frames, .whole (array u)) := by simp [step, hl]
    rw [exists_ok hs]
    simp [Demands, hl]
  · simp [Demands, step, hl]

/-- Behind tokens that are spaced, one step of the machine takes the token that is demanded. -/
theorem demands_cons {stage : Stage} (h : Spaced (token :: rest)) :
    Demands frames stage ((token :: rest).map (·.lexeme)) t ↔
      ∃ next stage', step frames stage token = .ok (next, stage') ∧ Demands next stage' (rest.map (·.lexeme)) t := by
  rw [List.map_cons]
  cases stage with
  | start => exact demands_start h
  | head u =>
      cases u with
      | free n => exact demands_free h
      | declared n args => exact demands_declared
      | _ => exact continues_cons
  | whole u => exact continues_cons
  | bracket u => exact demands_bracket

end Step

/-! ## The end of the text -/

theorem close_eq_ok_iff : close u frames = .ok t ↔ Closes frames u [] t := by
  induction frames generalizing u with
  | nil => simp [close, Closes]
  | cons frame frames ih =>
      cases frame with
      | bound n => exact ih
      | arguments n before => simp [close, Closes]

theorem continues_nil : Continues frames u [] t ↔ Closes frames u [] t := by
  rw [continues_iff]
  simp

theorem not_opens_nil : ¬ Opens frames [] t := by
  intro h
  obtain ⟨word, ms, he⟩ := h.exists_name
  cases he

theorem finish_eq_ok_iff {stage : Stage} : finish frames stage = .ok t ↔ Demands frames stage [] t := by
  cases stage with
  | start => simp [finish, Demands, not_opens_nil]
  | head u => cases u <;> simp [finish, Demands, close_eq_ok_iff, continues_nil]
  | whole u => simp [finish, Demands, close_eq_ok_iff, continues_nil]
  | bracket u => simp [finish, Demands]

theorem mapError_eq_ok_iff {α β γ : Type} {f : α → β} {r : Except α γ} {c : γ} : r.mapError f = .ok c ↔ r = .ok c := by
  cases r with
  | ok c' => exact ⟨fun h => congrArg Except.ok (Except.ok.inj h), fun h => congrArg Except.ok (Except.ok.inj h)⟩
  | error e => exact ⟨nofun, nofun⟩

/-- The machine accepts the tokens if and only if their lexemes are what its state demands. -/
theorem run_eq_ok_iff (stop : Nat) {stage : Stage} {tokens : List Token} (h : Spaced tokens) :
    run stop frames stage tokens = .ok t ↔ Demands frames stage (tokens.map (·.lexeme)) t := by
  induction tokens generalizing frames stage with
  | nil =>
      rw [List.map_nil, ← finish_eq_ok_iff, run]
      exact mapError_eq_ok_iff
  | cons token rest ih =>
      rw [demands_cons h, run]
      cases hs : step frames stage token with
      | error e => simp
      | ok next => rw [exists_ok rfl, ih h.2.2]

/-! ## Texts -/

/-- The text stands for the type: it splits into lexemes that derive the type. -/
def Names (s : String) (t : JavaType) : Prop := ∃ ls, Splits s.toList ls ∧ Derives ls t

theorem names_iff {s : String} : Names s t ↔ Derives (lexemes s.toList) t := by
  constructor
  · rintro ⟨ls, hs, hd⟩
    rw [lexemes, tokens, lexemes_of_splits hs]
    exact hd
  · exact fun hd => ⟨_, splits_tokensFrom 0 s.toList fun c hc => hd.isSign hc, hd⟩

theorem demands_nil_start : Demands [] .start ls t ↔ Derives ls t := by
  constructor
  · rintro ⟨ms, u, rest, hd, rfl, rfl, rfl⟩
    rwa [List.append_nil]
  · exact fun hd => ⟨ls, t, [], hd, by simp, rfl, rfl⟩

theorem read_eq_ok_iff {s : String} : read s = .ok t ↔ Names s t := by
  rw [names_iff, ← demands_nil_start, lexemes, tokens, ← run_eq_ok_iff s.length (spaced_tokensFrom 0 s.toList), read,
    tokens]
  exact mapError_eq_ok_iff

/-- Exactly the texts that the grammar derives are read, each as the one type that it stands for. For any other text
there is a complaint. -/
theorem read_parses (s : String) : (∀ t, read s = .ok t ↔ Names s t) ∧ (∀ t u, Names s t → Names s u → t = u) ∧
    ((∀ t, ¬ Names s t) → ∃ complaint offset, read s = .error ⟨s, complaint, offset⟩) := by
  refine ⟨fun t => read_eq_ok_iff, ?_, ?_⟩
  · intro t u ht hu
    rw [← read_eq_ok_iff] at ht hu
    exact Except.ok.inj (ht.symm.trans hu)
  · intro hn
    cases hr : run s.length [] .start (tokens s.toList) with
    | ok t =>
        have ht : read s = .ok t := by rw [read, hr]; rfl
        exact absurd (read_eq_ok_iff.1 ht) (hn t)
    | error e => exact ⟨e.1, e.2, by rw [read, hr]; rfl⟩

end ValueParcel.JavaType
