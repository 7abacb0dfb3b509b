import SqlSplit.Proofs.Scripts.Continuation

/-!
# The statement that awaits its object

A statement that creates or drops something is of no type before the word for it has come.  This is
told from the tokens of the statement, at any offset of the text: the verb is before the offset, and
what is not white space is behind it.

`Statement.AwaitsObjectAt` states this.  At a cut between two tokens only the statement that is open
there can await its object, and it does so exactly if its draft does (`exists_statement_of_open`).
The draft remembers whether white space has come behind the verb, and the cut is right behind the
verb if none has (`stop_eq_iff_of_awaiting`).
-/

namespace SqlSplit

/-! ## Awaiting an object -/

/-- A verb opens the statement, and the offset is behind the verb and not behind the start of what
follows it in the statement, white space apart, or the end of the text if nothing does. -/
def Statement.AwaitsObjectAt (statement : Statement) (length offset : Nat) : Prop :=
  ∃ first ∈ statement.tokens.toList.head?,
    (first.Spells .create ∨ first.Spells .drop) ∧ first.last < offset ∧
      offset ≤ ((statement.tokens.toList.tail.find? (·.kind ≠ .whitespace)).map
        Token.start).getD length

instance (statement : Statement) (length offset : Nat) :
    Decidable (statement.AwaitsObjectAt length offset) :=
  inferInstanceAs (Decidable (∃ first ∈ statement.tokens.toList.head?, _))

/-- The object is awaited behind the verb and behind the blank, and no more behind the object. -/
lemma exists_parse_create :
    ∃ script statement, parse "CREATE TABLE é;" .lenient = .ok script ∧
      script.statements.toList = [statement] ∧ statement.type? = some .createTable ∧
      statement.terminated = true ∧ (∀ first ∈ statement.tokens.toList.head?, first.stop = 6) ∧
      ¬ statement.AwaitsObjectAt 16 12 ∧ statement.AwaitsObjectAt 16 6 ∧
      statement.AwaitsObjectAt 16 7 := by
  have hread : ((parse "CREATE TABLE é;" .lenient).toOption.map fun script =>
      script.statements.toList.map fun statement =>
        (statement.type?, statement.terminated, statement.tokens.toList.head?.map Token.stop,
          [12, 6, 7].map fun cut => decide (statement.AwaitsObjectAt 16 cut))) =
      some [(some .createTable, true, some 6, [false, true, true])] := by
    decide +kernel
  obtain ⟨script, hscript, hmarks⟩ := exists_eq_ok_of_map_toOption hread
  obtain ⟨statement, hstatements, hstatement⟩ := List.map_eq_singleton_iff.1 hmarks
  simp only [List.map_cons, List.map_nil, List.cons.injEq, Prod.mk.injEq, decide_eq_false_iff_not,
    decide_eq_true_eq, and_true] at hstatement
  obtain ⟨htype, hterminated, hstop, hawaits⟩ := hstatement
  refine ⟨script, statement, hscript, hstatements, htype, hterminated, fun first hfirst => ?_,
    hawaits⟩
  simpa [Option.mem_def.1 hfirst] using hstop

section Awaiting

variable {statement : Statement} {first : Token} {before behind : List Token} {stop length : Nat}

lemma Statement.awaitsObjectAt_iff (htokens : statement.tokens.toList = first :: behind) :
    statement.AwaitsObjectAt length stop ↔
      (first.Spells .create ∨ first.Spells .drop) ∧ first.last < stop ∧
        stop ≤ ((behind.find? (·.kind ≠ .whitespace)).map Token.start).getD length := by
  simp [AwaitsObjectAt, htokens]

lemma Statement.not_awaitsObjectAt (htokens : statement.tokens.toList = first :: (before ++ behind))
    (hmem : ∃ token ∈ before, token.kind ≠ .whitespace)
    (hbefore : ∀ token ∈ before, token.start < stop) :
    ¬ statement.AwaitsObjectAt length stop := by
  obtain ⟨token, hfound⟩ : ∃ token, before.find? (·.kind ≠ .whitespace) = some token := by
    rw [← Option.isSome_iff_exists, List.find?_isSome]
    simpa using hmem
  have hstart := hbefore token (List.mem_of_find?_eq_some hfound)
  rw [awaitsObjectAt_iff htokens]
  simp only [List.find?_append, hfound, Option.some_or, Option.map_some, Option.getD_some]
  omega

lemma Statement.awaitsObjectAt_of_allSpace {verb : ObjectVerb}
    (htokens : statement.tokens.toList = first :: (before ++ behind))
    (hfirst : first.Spells verb.keyword) (hlast : first.last < stop) (hspaces : AllSpace before)
    (hbehind : ∀ token ∈ behind, stop ≤ token.start) (hle : stop ≤ length) :
    statement.AwaitsObjectAt length stop := by
  have hverb : first.Spells .create ∨ first.Spells .drop := by
    cases verb with
    | create => exact .inl hfirst
    | drop => exact .inr hfirst
  have hnone : before.find? (·.kind ≠ .whitespace) = none := by
    rw [List.find?_eq_none]
    intro token hmem
    simp [hspaces token hmem]
  refine (awaitsObjectAt_iff htokens).2 ⟨hverb, hlast, ?_⟩
  rw [List.find?_append, hnone, Option.none_or]
  cases hfound : behind.find? (·.kind ≠ .whitespace) with
  | none => exact hle
  | some token => exact hbehind token (List.mem_of_find?_eq_some hfound)

lemma Sentence.Derives.exists_object {mode : Mode} {rest : List Token} {type : StatementType}
    {verb : ObjectVerb} (h : Derives mode ⟨first, rest, some type⟩)
    (hfirst : first.Spells verb.keyword) : ∃ token ∈ rest, token.kind ≠ .whitespace := by
  cases h with
  | @word _ _ word _ hword htype hrest =>
    have hsame := hfirst.ofWord?_eq.symm.trans hword.ofWord?_eq
    obtain rfl := Option.some.inj hsame
    cases verb <;> cases htype
  | @object _ object spaces rest _ _ _ _ _ _ hobject _ _ =>
    exact ⟨object, by simp, by simp [hobject.1]⟩
  | @anyObject _ object spaces rest _ _ _ _ _ hobject _ => exact ⟨object, by simp, hobject⟩
  | unknown _ hkind hrest =>
    rw [hfirst.1] at hkind
    cases hkind

/-- The statement that is open at a cut awaits its object there exactly if its draft does. -/
lemma Draft.Becomes.awaitsObjectAt_iff {mode : Mode} {draft : Draft} {tokens : List Token}
    {last : Nat} (h : draft.Becomes tokens last statement) (hsentence : draft.IsSentence mode)
    (hdraft : ∀ token ∈ draft.tokens, token.start < stop ∧ token.last < stop)
    (htokens : ∀ token ∈ tokens, stop ≤ token.start) (hle : stop ≤ length) :
    statement.AwaitsObjectAt length stop ↔
      ∃ verb spaced, draft.stage = .awaiting verb spaced := by
  have hall : statement.tokens.toList = draft.first :: (draft.rest ++ tokens) := h.tokens_eq
  obtain ⟨hfirst, hrest⟩ := List.forall_mem_cons.1 hdraft
  rw [Draft.IsSentence] at hsentence
  constructor
  · intro hawaits
    cases hstage : draft.stage with
    | awaiting verb spaced => exact ⟨verb, spaced, rfl⟩
    | settled type =>
      -- A settled sentence of a verb has its object, which stands before the cut.
      rw [hstage] at hsentence
      obtain ⟨verb, hspells⟩ : ∃ verb : ObjectVerb, draft.first.Spells verb.keyword := by
        rcases ((Statement.awaitsObjectAt_iff hall).1 hawaits).1 with hcreate | hdrop
        · exact ⟨.create, hcreate⟩
        · exact ⟨.drop, hdrop⟩
      exact absurd hawaits (Statement.not_awaitsObjectAt hall (hsentence.exists_object hspells)
        fun token hmem => (hrest token hmem).1)
  · rintro ⟨verb, spaced, hstage⟩
    rw [hstage] at hsentence
    exact Statement.awaitsObjectAt_of_allSpace hall hsentence.1 hfirst.2 hsentence.2.1 htokens hle

end Awaiting

/-! ## The statements at a cut -/

section Cut

variable {mode : Mode} {a c : Outline} {stop length last : Nat} {xs zs : List Token}
  {statement : Statement}

lemma not_awaitsObjectAt_of_mem_closed (ha : outline mode xs = .ok a) (hxs : Tiles 0 xs stop)
    (h : statement ∈ a.closed) : ¬ statement.AwaitsObjectAt length stop := by
  have hderived := isDerived_of_outlineFrom ha (by simp)
  obtain ⟨part, hpart, hstatement⟩ := List.mem_filterMap.1 h
  cases part with
  | blank token => cases hstatement
  | closed draft semicolon =>
    cases hstatement
    obtain ⟨-, hkind⟩ := hderived.parts _ hpart
    have htokens : (draft.close semicolon).tokens.toList =
        draft.first :: (draft.rest ++ [semicolon] ++ []) := by
      rw [Outline.tokens_close, List.append_nil, Draft.tokens, List.cons_append]
    -- Its semicolon stands before the cut, and is no white space.
    refine Statement.not_awaitsObjectAt htokens ⟨semicolon, by simp, by simp [hkind]⟩ ?_
    intro token hmem
    refine (lt_of_mem_tokens ha hxs ?_).1
    refine Outline.mem_tokens_of_mem_statements (List.mem_append_left _ h : _ ∈ a.statements 0) ?_
    rw [Outline.tokens_close]
    exact List.mem_cons_of_mem _ hmem

lemma not_awaitsObjectAt_of_outlineFrom (hc : outlineFrom mode none zs = .ok c)
    (hzs : ∀ token ∈ zs, stop ≤ token.start ∧ stop ≤ token.last)
    (h : statement ∈ c.statements last) : ¬ statement.AwaitsObjectAt length stop := by
  have htokens : c.tokens = zs := tokens_eq_of_outlineFrom hc
  rintro ⟨first, hfirst, -, hlast, -⟩
  have hmem : first ∈ c.tokens :=
    Outline.mem_tokens_of_mem_statements h (List.mem_of_mem_head? hfirst)
  rw [htokens] at hmem
  exact Nat.not_lt.2 (hzs first hmem).2 hlast

/-- If a statement is open at the cut, it is the one that may await its object there. -/
lemma exists_statement_of_open {b : Outline} {draft : Draft} {ys : List Token}
    (ha : outline mode xs = .ok a) (hb : outlineFrom mode a.open? ys = .ok b)
    (hxs : Tiles 0 xs stop) (hys : Tiles stop ys length) (hopen : a.open? = some draft)
    (last : Nat) :
    ∃ statement behind, (a.andThen b).statements last = a.closed ++ statement :: behind ∧
      b.statements last = statement :: behind ∧
      statement.tokens.toList.head? = some draft.first ∧
      (statement.AwaitsObjectAt length stop ↔
        ∃ verb spaced, draft.stage = .awaiting verb spaced) ∧
      ∀ other ∈ behind, ¬ other.AwaitsObjectAt length stop := by
  rw [hopen] at hb
  obtain ⟨zs, zs', statement, c, rfl, hbecomes, hc, hstatements, -⟩ :=
    exists_of_outlineFrom_some hb last
  have hsentence : draft.IsSentence mode :=
    (isDerived_of_outlineFrom ha (by simp)).open? draft hopen
  refine ⟨statement, c.statements last, ?_, hstatements, ?_, ?_, ?_⟩
  · rw [Outline.statements_andThen, hstatements]
  · rw [hbecomes.tokens_eq]
    rfl
  · exact hbecomes.awaitsObjectAt_iff hsentence
      (fun token hmem => lt_of_mem_tokens ha hxs (Outline.mem_tokens_of_mem_open hopen hmem))
      (fun token hmem => (hys.le_of_mem (List.mem_append_left _ hmem)).1) hys.le
  · exact fun other hother => not_awaitsObjectAt_of_outlineFrom hc
      (fun token hmem => hys.le_of_mem (List.mem_append_right _ hmem)) hother

lemma not_awaitsObjectAt_of_none {b : Outline} {ys : List Token} (ha : outline mode xs = .ok a)
    (hb : outlineFrom mode a.open? ys = .ok b) (hxs : Tiles 0 xs stop)
    (hys : Tiles stop ys length) (hopen : a.open? = none) :
    ∀ statement ∈ (a.andThen b).statements last, ¬ statement.AwaitsObjectAt length stop := by
  intro statement hmem
  rw [hopen] at hb
  rw [Outline.statements_andThen] at hmem
  rcases List.mem_append.1 hmem with hmem | hmem
  · exact not_awaitsObjectAt_of_mem_closed ha hxs hmem
  · exact not_awaitsObjectAt_of_outlineFrom hb (fun token htoken => hys.le_of_mem htoken) hmem

lemma Stage.ne_awaiting_of_next {mode : Mode} {stage stage' : Stage} {token : Token}
    {verb : ObjectVerb} (h : stage.next mode token = .ok stage') :
    stage' ≠ .awaiting verb false := by
  rintro rfl
  cases stage with
  | settled type => cases h
  | awaiting verb' spaced =>
    rw [Stage.next] at h
    split_ifs at h <;> cases h

lemma rest_eq_nil_of_outlineFrom {open? : Option Draft} {tokens : List Token}
    (h : outlineFrom mode open? tokens = .ok a)
    (hopen : ∀ draft verb, open? = some draft → draft.stage = .awaiting verb false →
      draft.rest = []) :
    ∀ draft verb, a.open? = some draft → draft.stage = .awaiting verb false → draft.rest = [] := by
  induction tokens generalizing open? a with
  | nil =>
    cases h
    exact hopen
  | cons token tokens ih =>
    obtain ⟨b, c, hadvance, hrest, rfl⟩ := outlineFrom_cons_eq_ok_iff.1 h
    have hafter : ∀ draft verb, b.open? = some draft → draft.stage = .awaiting verb false →
        draft.rest = [] := by
      intro draft verb hdraft hstage
      cases hadvance with
      | blank hblank => cases hdraft
      | opens hblank hopening =>
        cases hdraft
        obtain ⟨opener, -, rfl⟩ := map_eq_ok_iff.1 hopening
        rfl
      | closes hkind => cases hdraft
      | grows hkind hnext =>
        cases hdraft
        obtain ⟨stage, hstage', rfl⟩ := map_eq_ok_iff.1 hnext
        -- No token leads to a stage that remembers no white space.
        exact absurd hstage (Stage.ne_awaiting_of_next hstage')
    exact ih (a := c) hrest hafter

lemma stop_eq_iff_of_open {draft : Draft} (ha : outline mode xs = .ok a) (hxs : Tiles 0 xs stop)
    (hopen : a.open? = some draft) : draft.first.stop = stop ↔ draft.rest = [] := by
  have htokens : a.tokens = xs := tokens_eq_of_outlineFrom ha
  rw [← htokens, Outline.tokens, hopen] at hxs
  obtain ⟨start, -, -, -, hrest⟩ := Tiles.append_iff.1 hxs
  cases hdraft : draft.rest with
  | nil =>
    rw [hdraft] at hrest
    exact iff_of_true hrest rfl
  | cons token tokens =>
    rw [hdraft] at hrest
    -- Another token would reach from the first one to the cut.
    obtain ⟨hstart, hlast, hbehind⟩ := hrest
    have hle := hbehind.le
    rw [Token.stop] at hle
    exact iff_of_false (by omega) (List.cons_ne_nil _ _)

/-- The cut is right behind the verb exactly if no white space has come. -/
lemma stop_eq_iff_of_awaiting {draft : Draft} {verb : ObjectVerb} {spaced : Bool}
    (ha : outline mode xs = .ok a) (hxs : Tiles 0 xs stop) (hopen : a.open? = some draft)
    (hstage : draft.stage = .awaiting verb spaced) :
    draft.first.stop = stop ↔ spaced = false := by
  rw [stop_eq_iff_of_open ha hxs hopen]
  constructor
  · intro hrest
    have hsentence := (isDerived_of_outlineFrom ha (by simp)).open? draft hopen
    rw [Draft.IsSentence, hstage] at hsentence
    exact Bool.eq_false_iff.2 fun hspaced => hsentence.2.2 hspaced hrest
  · rintro rfl
    exact rest_eq_nil_of_outlineFrom ha (by simp) draft verb hopen hstage

end Cut

end SqlSplit
