import SqlSplit.Proofs.Scripts.Revision
import SqlSplit.Proofs.Tokens.OpenEnds

/-!
# The final semicolon

A statement may be left open at the end of a script.  If a semicolon is put there, nothing changes
but the end of this statement: the script has the same statements of the same types, and the same
blank tokens.  It does not matter whether the type of the open statement was settled.

As a rule the semicolon ends the statement.  It does not if the last token of the script takes it
over.  Such a token is quoted or a comment, so it neither opens a statement nor names an object, and
the statement with the longer token is the one without it in all other respects
(`exists_outline_of_isLike`).  The main statement is `parse_append_terminator`.
-/

namespace SqlSplit

variable {mode : Mode} {o : Outline} {draft : Draft} {tokens before : List Token}
  {token token' semicolon : Token}

/-! ## Outlines -/

lemma outline_append_semicolon (ho : outline mode tokens = .ok o) (hopen : o.open? = some draft)
    (hkind : semicolon.kind = .semicolon) :
    outline mode (tokens ++ [semicolon]) = .ok (o.andThen ⟨[.closed draft semicolon], none⟩) := by
  rw [outline] at ho
  rw [outline, outlineFrom_append, ho]
  have hend : outlineFrom mode o.open? [semicolon] = .ok ⟨[.closed draft semicolon], none⟩ := by
    rw [hopen]
    exact outlineFrom_cons_eq_ok_iff.2 ⟨_, _, .closes hkind, rfl, rfl⟩
  simp only [hend, Except.map]

/-- The last token of an open statement can be replaced by one that is alike. -/
lemma exists_outline_of_isLike (ho : outline mode (before ++ [token]) = .ok o)
    (hopen : o.open? = some draft) (hlike : token.IsLike token')
    (hno : Opener.ofToken? mode token = none) :
    ∃ draft', outline mode (before ++ [token']) = .ok ⟨o.parts, some draft'⟩ ∧
      draft'.first = draft.first ∧ draft'.stage = draft.stage ∧
      ∃ own, draft.tokens = own ++ [token] ∧ draft'.tokens = own ++ [token'] := by
  rw [outline, outlineFrom_append] at ho
  cases hbefore : outlineFrom mode none before with
  | error error =>
    rw [hbefore] at ho
    cases ho
  | ok a =>
    rw [hbefore] at ho
    obtain ⟨b, hb, rfl⟩ := map_eq_ok_iff.1 ho
    obtain ⟨b, c, hadvance, hc, rfl⟩ := outlineFrom_cons_eq_ok_iff.1 hb
    cases hc
    generalize hstart : a.open? = open? at hadvance
    cases hadvance with
    | blank hblank => cases hopen
    | closes hkind => cases hopen
    | opens hblank hopening =>
      -- The token is not the first one of the statement, for it opens none.
      obtain ⟨opener, hdispatch, -⟩ := map_eq_ok_iff.1 hopening
      rw [Opener.ofToken?_of_dispatch hdispatch] at hno
      cases hno
    | @grows draft₀ _ _ hkind hnext =>
      cases hopen
      obtain ⟨stage, hstage, rfl⟩ := map_eq_ok_iff.1 hnext
      have hnext' : draft₀.next mode token' =
          .ok ⟨draft₀.first, draft₀.rest ++ [token'], stage⟩ := by
        rw [Draft.next, hlike.stage_next_eq, hstage]
        rfl
      refine ⟨⟨draft₀.first, draft₀.rest ++ [token'], stage⟩, ?_, rfl, rfl,
        draft₀.tokens, rfl, rfl⟩
      have hlast : outlineFrom mode a.open? [token'] =
          .ok ⟨[], some ⟨draft₀.first, draft₀.rest ++ [token'], stage⟩⟩ := by
        rw [hstart]
        refine outlineFrom_cons_eq_ok_iff.2 ⟨_, _, .grows ?_ hnext', rfl, rfl⟩
        rwa [hlike.kind_eq]
      rw [outline, outlineFrom_append, hbefore]
      simp only [hlast, Except.map]
      simp [Outline.andThen]

lemma exists_open_of_statements {earlier : List Statement} {last : Statement} {n : Nat}
    (hstatements : o.statements n = earlier ++ [last]) (hlast : last.terminated = false) :
    ∃ draft, o.open? = some draft ∧ o.closed = earlier ∧ draft.closeAt n = last := by
  cases hopen : o.open? with
  | none =>
    -- All statements are closed then, and a closed one is terminated.
    have hmem : last ∈ o.closed := by
      rw [Outline.statements, hopen] at hstatements
      simp only [Option.map_none, Option.toList_none, List.append_nil] at hstatements
      simp [hstatements]
    rw [Outline.terminated_of_mem_closed hmem] at hlast
    cases hlast
  | some draft =>
    rw [Outline.statements, hopen] at hstatements
    obtain ⟨hclosed, hsame⟩ := List.append_inj' hstatements rfl
    exact ⟨draft, rfl, hclosed, (List.cons.inj hsame).1⟩

lemma exists_last_token (ho : outline mode tokens = .ok o) (hopen : o.open? = some draft) :
    ∃ before token, tokens = before ++ [token] := by
  have htokens : o.tokens = tokens := tokens_eq_of_outlineFrom ho
  have hne : tokens ≠ [] := by
    rw [← htokens, Outline.tokens, hopen]
    exact List.append_ne_nil_of_right_ne_nil _ (List.cons_ne_nil _ _)
  exact ⟨tokens.dropLast, tokens.getLast hne, (List.dropLast_append_getLast hne).symm⟩

/-! ## Open-ended tokens -/

lemma Token.ofWord?_eq_none {input : String} (h : token ∈ tokenize input)
    (hkind : token.kind ≠ .keyword) : Keyword.ofWord? token.value = none := by
  cases hword : Keyword.ofWord? token.value with
  | none => rfl
  | some word => exact absurd (kind_eq_of_ofWord? (piece_mem_pieces h) hword) hkind

namespace Token.IsOpenEnded

lemma kind_ne (h : token.IsOpenEnded) : token.kind ≠ .keyword ∧ token.kind ≠ .unknown := by
  rcases h with hkind | ⟨hkind | hkind, -⟩ <;> simp [hkind]

lemma ofToken?_eq_none (h : token.IsOpenEnded) (mode : Mode) :
    Opener.ofToken? mode token = none := by
  cases hopener : Opener.ofToken? mode token with
  | none => rfl
  | some opener =>
    rcases Opener.ofToken?_eq_some hopener with ⟨hkind, -⟩ | ⟨hkind, -⟩
    · exact absurd hkind h.kind_ne.1
    · exact absurd hkind h.kind_ne.2

/-- With a semicolon at its end an open-ended token is as good as without. -/
lemma isLike_withSemicolon {input input' : String} (h : token.IsOpenEnded)
    (hmem : token ∈ tokenize input) (hmem' : token.withSemicolon ∈ tokenize input') :
    token.IsLike token.withSemicolon := by
  refine ⟨rfl, ?_⟩
  rw [Token.ofWord?_eq_none hmem h.kind_ne.1, Token.ofWord?_eq_none hmem' h.kind_ne.1]

end Token.IsOpenEnded

/-! ## Scripts -/

lemma Script.types_eq {script script' : Script} {earlier : List Statement}
    {last last' : Statement} (h : script.statements.toList = earlier ++ [last])
    (h' : script'.statements.toList = earlier ++ [last']) (htype : last'.type? = last.type?) :
    script'.types = script.types := by
  rw [types, types, h, h', List.map_append, List.map_append, List.map_singleton,
    List.map_singleton, Statement.type, Statement.type, htype]

lemma parse_append_of_ends {input : String} (ho : outline mode (tokenize input) = .ok o)
    (hopen : o.open? = some draft) (hkind : semicolon.kind = .semicolon)
    (htokens : tokenize (input ++ ";") = tokenize input ++ [semicolon]) :
    ∃ script, parse (input ++ ";") mode = .ok script ∧ script.blanks = o.blanks.toArray ∧
      script.statements.toList = o.closed ++ [draft.close semicolon] := by
  refine ⟨(o.andThen ⟨[.closed draft semicolon], none⟩).script (input ++ ";").utf8ByteSize,
    ?_, ?_, ?_⟩
  · rw [parse_eq_map, htokens, outline_append_semicolon ho hopen hkind]
    rfl
  · rw [Outline.script, Outline.blanks_andThen]
    exact congrArg List.toArray (List.append_nil _)
  · rw [Outline.toList_statements_script, Outline.statements_andThen]
    rfl

lemma parse_append_of_takes {input : String} (ho : outline mode (tokenize input) = .ok o)
    (hopen : o.open? = some draft) (htokens : tokenize input = before ++ [token])
    (htoken : token.IsOpenEnded)
    (htakes : tokenize (input ++ ";") = before ++ [token.withSemicolon]) :
    ∃ (script : Script) (draft' : Draft),
      parse (input ++ ";") mode = .ok script ∧ script.blanks = o.blanks.toArray ∧
      script.statements.toList = o.closed ++ [draft'.closeAt input.utf8ByteSize] ∧
      draft'.first = draft.first ∧ draft'.stage = draft.stage ∧
      ∃ own, draft.tokens = own ++ [token] ∧ draft'.tokens = own ++ [token.withSemicolon] := by
  have hlike : token.IsLike token.withSemicolon :=
    htoken.isLike_withSemicolon (by rw [htokens]; simp) (by rw [htakes]; simp)
  rw [htokens] at ho
  obtain ⟨draft', ho', hdraft⟩ :=
    exists_outline_of_isLike ho hopen hlike (htoken.ofToken?_eq_none mode)
  have hsize : (input ++ ";").utf8ByteSize = input.utf8ByteSize + 1 :=
    String.utf8ByteSize_append
  refine ⟨Outline.script ⟨o.parts, some draft'⟩ (input.utf8ByteSize + 1), draft', ?_, rfl, rfl,
    hdraft⟩
  rw [parse_eq_map, htakes, ho', hsize]
  rfl

/-- If the last statement of a script is open, a semicolon can be put at the end of the script: the
types, the blank tokens and the other statements stay the same, and so does the start of the last
statement, which ends with the script as before.  The semicolon ends that statement, unless the last
token of the script takes it over. -/
theorem parse_append_terminator {input : String} {mode : Mode} {script : Script}
    {earlier : List Statement} {last : Statement} (h : parse input mode = .ok script)
    (hstatements : script.statements.toList = earlier ++ [last])
    (hlast : last.terminated = false) :
    ∃ before token script' last',
      tokenize input = before ++ [token] ∧
      parse (input ++ ";") mode = .ok script' ∧
      script'.types = script.types ∧ script'.blanks = script.blanks ∧
      script'.statements.toList = earlier ++ [last'] ∧
      last'.start = last.start ∧ last'.last = input.utf8ByteSize ∧
      (last'.terminated = true ↔ ¬ token.IsOpenEnded) ∧
      (¬ token.IsOpenEnded →
        tokenize (input ++ ";") = tokenize input ++ [Token.semicolonAt input.utf8ByteSize] ∧
        last'.tokens.toList = last.tokens.toList ++ [Token.semicolonAt input.utf8ByteSize]) ∧
      (token.IsOpenEnded →
        tokenize (input ++ ";") = before ++ [token.withSemicolon] ∧
        ∃ own, last.tokens.toList = own ++ [token] ∧
          last'.tokens.toList = own ++ [token.withSemicolon]) := by
  rw [parse_eq_map] at h
  obtain ⟨o, ho, rfl⟩ := map_eq_ok_iff.1 h
  have hsame := hstatements
  rw [Outline.toList_statements_script] at hsame
  obtain ⟨draft, hopen, rfl, rfl⟩ := exists_open_of_statements hsame hlast
  obtain ⟨before, token, htokens⟩ := exists_last_token ho hopen
  obtain ⟨hends, htakes⟩ := tokenize_append_terminator htokens
  by_cases htoken : token.IsOpenEnded
  · obtain ⟨script', draft', hparse, hblanks, hstatements', hfirst, hstage, hown⟩ :=
      parse_append_of_takes ho hopen htokens htoken (htakes htoken)
    have htypes : script'.types = (o.script input.utf8ByteSize).types :=
      Script.types_eq hstatements hstatements' (congrArg Stage.type? hstage)
    have hterminated : (draft'.closeAt input.utf8ByteSize).terminated = true ↔
        ¬ token.IsOpenEnded := ⟨(nomatch ·), fun hnot => absurd htoken hnot⟩
    exact ⟨before, token, script', _, htokens, hparse, htypes, hblanks, hstatements',
      congrArg Token.start hfirst, rfl, hterminated, fun hnot => absurd htoken hnot,
      fun _ => ⟨htakes htoken, hown⟩⟩
  · obtain ⟨script', hparse, hblanks, hstatements'⟩ :=
      parse_append_of_ends ho hopen rfl (hends htoken)
    have htypes : script'.types = (o.script input.utf8ByteSize).types :=
      Script.types_eq hstatements hstatements' rfl
    exact ⟨before, token, script', _, htokens, hparse, htypes, hblanks, hstatements', rfl, rfl,
      ⟨fun _ => htoken, fun _ => rfl⟩, fun _ => ⟨hends htoken, rfl⟩,
      fun hopened => absurd hopened htoken⟩

/-- A statement that awaits its object is ended by the semicolon like any other, and the type of the
last statement stays unsettled.  A comment to the end of the line takes the semicolon over. -/
theorem parse_append_terminator_drop :
    (∃ script last, parse ("SELECT 1;DROP " ++ ";") .strict = .ok script ∧
      script.types = [.select, .incomplete] ∧ last ∈ script.statements.toList ∧
      last.start = 9 ∧ last.last = 14 ∧ last.terminated = true) ∧
    ∃ script last, parse ("DROP TABLE é--;" ++ ";") .lenient = .ok script ∧
      script.types = [.dropTable] ∧ last ∈ script.statements.toList ∧
      last.start = 0 ∧ last.last = 16 ∧ last.terminated = false := by
  constructor
  · have hread : ((parse "SELECT 1;DROP " .strict).toOption.map fun script =>
        (script.types, script.statements.toList.map fun statement =>
          (statement.start, statement.terminated))) =
        some ([.select, .incomplete], [(0, true), (9, false)]) := by
      decide +kernel
    have hspace : (tokenize "SELECT 1;DROP ").getLast?.map Token.kind = some .whitespace := by
      decide +kernel
    obtain ⟨script, hscript, hmarked⟩ := exists_eq_ok_of_map_toOption hread
    obtain ⟨htypes, hmarks⟩ := Prod.mk.inj hmarked
    obtain ⟨first, rest, hrun, -, hrest⟩ := List.map_eq_cons_iff.1 hmarks
    obtain ⟨last, rfl, hlast⟩ := List.map_eq_singleton_iff.1 hrest
    have hstatements : script.statements.toList = [first] ++ [last] := hrun
    obtain ⟨hstart, hopen⟩ := Prod.mk.inj hlast
    obtain ⟨before, token, script', last', htokens, hparse, htypes', -, hstatements', hstart', hend,
      hterminated, -⟩ := parse_append_terminator hscript hstatements hopen
    have hkind : token.kind = .whitespace := by simpa [htokens] using hspace
    refine ⟨script', last', hparse, htypes'.trans htypes, by simp [hstatements'],
      hstart'.trans hstart, hend, hterminated.2 ?_⟩
    simp [Token.IsOpenEnded, hkind]
  · have hread : ((parse "DROP TABLE é--;" .lenient).toOption.map fun script =>
        (script.types, script.statements.toList.map fun statement =>
          (statement.start, statement.terminated))) =
        some ([.dropTable], [(0, false)]) := by
      decide +kernel
    have hcomment : (tokenize "DROP TABLE é--;").getLast?.map Token.kind =
        some .inlineComment := by
      decide +kernel
    obtain ⟨script, hscript, hmarked⟩ := exists_eq_ok_of_map_toOption hread
    obtain ⟨htypes, hmarks⟩ := Prod.mk.inj hmarked
    obtain ⟨last, hrun, hlast⟩ := List.map_eq_singleton_iff.1 hmarks
    have hstatements : script.statements.toList = [] ++ [last] := hrun
    obtain ⟨hstart, hopen⟩ := Prod.mk.inj hlast
    obtain ⟨before, token, script', last', htokens, hparse, htypes', -, hstatements', hstart', hend,
      hterminated, -⟩ := parse_append_terminator hscript hstatements hopen
    have hkind : token.kind = .inlineComment := by simpa [htokens] using hcomment
    refine ⟨script', last', hparse, htypes'.trans htypes, by simp [hstatements'],
      hstart'.trans hstart, hend, Bool.eq_false_iff.2 fun hclosed => ?_⟩
    exact hterminated.1 hclosed (.inl hkind)

end SqlSplit
