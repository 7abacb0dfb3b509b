import SqlSplit.Proofs.Scripts.FirstError
import SqlSplit.Proofs.Scripts.Layout

/-!
# A script that goes on

A script that has been read in part is never revised by what follows.  The statements that have
ended stay as they are, and so do the blank tokens.  A statement that is still open goes on and ends
later: it gets further tokens, another end and, if its type was not settled, perhaps a type.

`Draft.Becomes` says what a statement that ends later has to do with the open one, and
`exists_of_outlineFrom_some` that a run from an open statement begins with such a statement.
`Outline.IsBefore` says what an outline has to do with one that goes on behind a cut, and the main
statement is `parse_before`, which cuts a script between two tokens and finds in the first part what
the script has before the cut.
-/

namespace SqlSplit

/-! ## What an open statement becomes -/

/-- The statement that an open one has become after further tokens: it starts as before, has the
tokens it had and the further ones, and has kept its type if there was one.  It has ended with one
of the further tokens, or it ends at the given last byte. -/
structure Draft.Becomes (draft : Draft) (tokens : List Token) (last : Nat)
    (statement : Statement) : Prop where
  start_eq : statement.start = draft.first.start
  tokens_eq : statement.tokens.toList = draft.tokens ++ tokens
  type?_eq : draft.stage.type? = statement.type? ∨ draft.stage.type? = none
  terminated : statement.terminated = true → ∃ token ∈ tokens, statement.last = token.last
  unterminated : statement.terminated = false → statement.last = last

section Becomes

variable {mode : Mode} {draft draft' : Draft} {token : Token} {tokens : List Token} {last : Nat}
  {statement : Statement}

lemma Stage.type?_of_next {stage stage' : Stage} (h : stage.next mode token = .ok stage') :
    stage.type? = stage'.type? ∨ stage.type? = none := by
  cases stage with
  | settled type =>
    cases h
    exact .inl rfl
  | awaiting verb spaced => exact .inr rfl

lemma Draft.Becomes.grow (hnext : draft.next mode token = .ok draft')
    (h : draft'.Becomes tokens last statement) :
    draft.Becomes (token :: tokens) last statement := by
  have htokens := Draft.tokens_of_next hnext
  obtain ⟨stage, hstage, rfl⟩ := map_eq_ok_iff.1 hnext
  refine ⟨h.start_eq, ?_, ?_, ?_, h.unterminated⟩
  · rw [h.tokens_eq, htokens, List.append_assoc, List.singleton_append]
  · rcases Stage.type?_of_next hstage with hsame | hnone
    · rw [hsame]
      exact h.type?_eq
    · exact .inr hnone
  · intro hterminated
    obtain ⟨token, hmem, hlast⟩ := h.terminated hterminated
    exact ⟨token, List.mem_cons_of_mem _ hmem, hlast⟩

/-- A run from an open statement begins with what this becomes, and goes on outside all
statements. -/
lemma exists_of_outlineFrom_some {b : Outline} (h : outlineFrom mode (some draft) tokens = .ok b)
    (last : Nat) :
    ∃ xs ys statement c, tokens = xs ++ ys ∧ draft.Becomes xs last statement ∧
      outlineFrom mode none ys = .ok c ∧ b.statements last = statement :: c.statements last ∧
      b.blanks = c.blanks := by
  induction tokens generalizing draft b with
  | nil =>
    cases h
    refine ⟨[], [], draft.closeAt last, ⟨[], none⟩, rfl, ?_, rfl, rfl, rfl⟩
    exact ⟨rfl, by simp [Outline.tokens_closeAt], .inl rfl, nofun, fun _ => rfl⟩
  | cons token tokens ih =>
    obtain ⟨a, c, hadvance, hrest, rfl⟩ := outlineFrom_cons_eq_ok_iff.1 h
    cases hadvance with
    | closes hkind =>
      refine ⟨[token], tokens, draft.close token, c, rfl, ?_, hrest, rfl, rfl⟩
      exact ⟨rfl, Outline.tokens_close .., .inl rfl, fun _ => ⟨token, by simp, rfl⟩, nofun⟩
    | grows hkind hnext =>
      obtain ⟨xs, ys, statement, d, rfl, hbecomes, hd, hstatements, hblanks⟩ := ih hrest
      exact ⟨token :: xs, ys, statement, d, rfl, hbecomes.grow hnext, hd, hstatements, hblanks⟩

/-- Behind a cut, the statement that is open there goes on, and then others open. -/
lemma exists_of_outlineFrom {open? : Option Draft} {b : Outline}
    (h : outlineFrom mode open? tokens = .ok b) (last : Nat) :
    ∃ xs ys statement? c, tokens = xs ++ ys ∧ outlineFrom mode none ys = .ok c ∧
      b.statements last = statement?.toList ++ c.statements last ∧ b.blanks = c.blanks ∧
      (open? = none ∧ statement? = none ∨ ∃ draft statement, open? = some draft ∧
        statement? = some statement ∧ draft.Becomes xs last statement) := by
  cases open? with
  | none => exact ⟨[], tokens, none, b, rfl, h, rfl, rfl, .inl ⟨rfl, rfl⟩⟩
  | some draft =>
    obtain ⟨xs, ys, statement, c, rfl, hbecomes, hc, hstatements, hblanks⟩ :=
      exists_of_outlineFrom_some h last
    exact ⟨xs, ys, some statement, c, rfl, hc, hstatements, hblanks,
      .inr ⟨draft, statement, rfl, rfl, hbecomes⟩⟩

end Becomes

/-! ## Tokens and statements behind a cut -/

namespace Outline

variable {o : Outline} {last : Nat} {statement : Statement} {token : Token}

lemma mem_tokens_of_mem_statements (h : statement ∈ o.statements last)
    (htoken : token ∈ statement.tokens.toList) : token ∈ o.tokens := by
  obtain ⟨before, after, haround⟩ := exists_around h
  rw [haround]
  exact List.mem_append_left _ (List.mem_append_right _ htoken)

lemma mem_tokens_of_mem_blanks (h : token ∈ o.blanks) : token ∈ o.tokens :=
  (o.perm_tokens 0).subset (List.mem_append_left _ h)

lemma mem_tokens_of_mem_open {draft : Draft} (h : o.open? = some draft)
    (htoken : token ∈ draft.tokens) : token ∈ o.tokens := by
  rw [tokens, h]
  exact List.mem_append_right _ htoken

end Outline

lemma Tiles.le_of_mem {start stop : Nat} {tokens : List Token} {token : Token}
    (h : Tiles start tokens stop) (hmem : token ∈ tokens) :
    start ≤ token.start ∧ start ≤ token.last := by
  obtain ⟨hstart, hlast, -⟩ := h.le_start_of_mem hmem
  exact ⟨hstart, Nat.le_trans hstart hlast⟩

lemma filter_append_eq_left {α : Type} {p : α → Bool} {xs ys : List α}
    (hxs : ∀ x ∈ xs, p x = true) (hys : ∀ y ∈ ys, p y = false) : (xs ++ ys).filter p = xs := by
  have hnone : ys.filter p = [] :=
    List.filter_eq_nil_iff.2 fun y hy => by simp [hys y hy]
  rw [List.filter_append, List.filter_eq_self.2 hxs, hnone, List.append_nil]

lemma filter_last_lt {xs ys : List Token} {stop : Nat} (hxs : ∀ token ∈ xs, token.last < stop)
    (hys : ∀ token ∈ ys, stop ≤ token.last) : (xs ++ ys).filter (·.last < stop) = xs :=
  filter_append_eq_left (fun token h => decide_eq_true (hxs token h))
    fun token h => decide_eq_false (Nat.not_lt.2 (hys token h))

/-- The statement has ended with a semicolon before the cut. -/
def Statement.EndsBefore (statement : Statement) (stop : Nat) : Prop :=
  statement.terminated = true ∧ statement.last < stop

instance (statement : Statement) (stop : Nat) : Decidable (statement.EndsBefore stop) :=
  inferInstanceAs (Decidable (_ ∧ _))

/-- The cut is behind the first byte of the statement and before its last one, or right behind its
last one if no semicolon ends the statement. -/
def Statement.IsOpenAt (statement : Statement) (stop : Nat) : Prop :=
  statement.start < stop ∧
    (stop ≤ statement.last ∨ statement.terminated = false ∧ stop = statement.last + 1)

instance (statement : Statement) (stop : Nat) : Decidable (statement.IsOpenAt stop) :=
  inferInstanceAs (Decidable (_ ∧ _))

/-- The statement as it is open at a cut, with the tokens it has there and the type it has there. -/
def Statement.before (statement : Statement) (stop : Nat) (type? : Option StatementType) :
    Statement :=
  { type?, start := statement.start, last := stop - 1, terminated := false
    tokens := statement.tokens.filter (·.last < stop) }

lemma Statement.EndsBefore.not_isOpenAt {statement : Statement} {stop : Nat}
    (h : statement.EndsBefore stop) : ¬ statement.IsOpenAt stop := by
  rintro ⟨-, hle | ⟨hopen, -⟩⟩
  · exact Nat.not_lt.2 hle h.2
  · rw [h.1] at hopen
    cases hopen

section Cut

variable {mode : Mode} {a c : Outline} {draft : Draft} {stop length last : Nat}
  {xs ys zs : List Token} {statement : Statement}

lemma lt_of_mem_tokens {token : Token} (ha : outline mode xs = .ok a) (hxs : Tiles 0 xs stop)
    (h : token ∈ a.tokens) : token.start < stop ∧ token.last < stop := by
  have htokens : a.tokens = xs := tokens_eq_of_outlineFrom ha
  rw [htokens] at h
  obtain ⟨-, hle, hlt⟩ := hxs.le_start_of_mem h
  exact ⟨Nat.lt_of_le_of_lt hle hlt, hlt⟩

lemma endsBefore_of_mem_closed (ha : outline mode xs = .ok a) (hxs : Tiles 0 xs stop)
    (h : statement ∈ a.closed) : statement.EndsBefore stop := by
  have hderived := isDerived_of_outlineFrom ha (by simp)
  have htokens : a.tokens = xs := tokens_eq_of_outlineFrom ha
  rw [← htokens] at hxs
  obtain ⟨-, -, hstop⟩ := Outline.exists_tiles hderived hxs (List.mem_append_left _ h)
  exact ⟨Outline.terminated_of_mem_closed h, hstop⟩

lemma behind_of_outlineFrom (hc : outlineFrom mode none zs = .ok c)
    (hzs : ∀ token ∈ zs, stop ≤ token.start ∧ stop ≤ token.last)
    (h : statement ∈ c.statements last) :
    ¬ statement.EndsBefore stop ∧ ¬ statement.IsOpenAt stop := by
  have htokens : c.tokens = zs := tokens_eq_of_outlineFrom hc
  have hmem : ∀ token ∈ statement.tokens.toList, stop ≤ token.start ∧ stop ≤ token.last := by
    intro token htoken
    refine hzs token ?_
    rw [← htokens]
    exact Outline.mem_tokens_of_mem_statements h htoken
  rcases Outline.mem_statements_iff.1 h with ⟨draft, semicolon, -, rfl⟩ | ⟨draft, -, rfl⟩
  · have hstart := (hmem draft.first (by simp [Outline.tokens_close, Draft.tokens])).1
    have hlast := (hmem semicolon (by simp [Outline.tokens_close])).2
    exact ⟨fun hends => Nat.not_lt.2 hlast hends.2, fun hopen => Nat.not_lt.2 hstart hopen.1⟩
  · have hstart := (hmem draft.first (by simp [Outline.tokens_closeAt, Draft.tokens])).1
    exact ⟨fun hends => Bool.noConfusion hends.1, fun hopen => Nat.not_lt.2 hstart hopen.1⟩

lemma Draft.Becomes.isOpenAt (h : draft.Becomes ys (length - 1) statement)
    (hstart : draft.first.start < stop) (hys : ∀ token ∈ ys, stop ≤ token.last)
    (hle : stop ≤ length) : statement.IsOpenAt stop := by
  refine ⟨by rw [h.start_eq]; exact hstart, ?_⟩
  cases hterminated : statement.terminated with
  | true =>
    obtain ⟨token, hmem, hlast⟩ := h.terminated hterminated
    rw [hlast]
    exact .inl (hys token hmem)
  | false =>
    have hlast := h.unterminated hterminated
    by_cases hend : stop ≤ statement.last
    · exact .inl hend
    · exact .inr ⟨rfl, by omega⟩

/-- What a statement was before the cut is the draft that is open there. -/
lemma Draft.Becomes.before_eq (h : draft.Becomes ys last statement)
    (hdraft : ∀ token ∈ draft.tokens, token.last < stop) (hys : ∀ token ∈ ys, stop ≤ token.last) :
    statement.before stop draft.stage.type? = draft.closeAt (stop - 1) := by
  have htokens : statement.tokens.filter (·.last < stop) = draft.tokens.toArray := by
    rw [← Array.toList_inj, Array.toList_filter, h.tokens_eq]
    exact filter_last_lt hdraft hys
  simp only [Statement.before, htokens, h.start_eq, Draft.closeAt, Draft.statement]

lemma filter_blanks (ha : outline mode xs = .ok a) (hxs : Tiles 0 xs stop)
    (hc : outlineFrom mode none zs = .ok c) (hzs : ∀ token ∈ zs, stop ≤ token.last) :
    (a.blanks ++ c.blanks).filter (·.last < stop) = a.blanks := by
  have htokens : c.tokens = zs := tokens_eq_of_outlineFrom hc
  refine filter_last_lt
    (fun token hmem => (lt_of_mem_tokens ha hxs (Outline.mem_tokens_of_mem_blanks hmem)).2)
    fun token hmem => hzs token ?_
  rw [← htokens]
  exact Outline.mem_tokens_of_mem_blanks hmem

/-- Of the statements of a script, those that have ended before the cut are found again, and the
one that is open there is known. -/
lemma filter_endsBefore {closed behind : List Statement} {statement? : Option Statement}
    (hclosed : ∀ statement ∈ closed, statement.EndsBefore stop)
    (hopen : ∀ statement ∈ statement?, statement.IsOpenAt stop)
    (hbehind : ∀ statement ∈ behind,
      ¬ statement.EndsBefore stop ∧ ¬ statement.IsOpenAt stop) :
    (closed ++ (statement?.toList ++ behind)).filter (·.EndsBefore stop) = closed ∧
      ∀ statement, statement ∈ closed ++ (statement?.toList ++ behind) ∧
        statement.IsOpenAt stop ↔ statement? = some statement := by
  constructor
  · refine filter_append_eq_left (fun statement hmem => decide_eq_true (hclosed statement hmem)) ?_
    intro statement hmem
    refine decide_eq_false fun hends => ?_
    rcases List.mem_append.1 hmem with hmem | hmem
    · exact hends.not_isOpenAt (hopen statement (Option.mem_toList.1 hmem))
    · exact (hbehind statement hmem).1 hends
  · intro statement
    constructor
    · rintro ⟨hmem, hat⟩
      rcases List.mem_append.1 hmem with hmem | hmem
      · exact absurd hat (hclosed statement hmem).not_isOpenAt
      rcases List.mem_append.1 hmem with hmem | hmem
      · exact Option.mem_toList.1 hmem
      · exact absurd hat (hbehind statement hmem).2
    · rintro rfl
      exact ⟨by simp, hopen statement rfl⟩

/-- The first outline is what the second one has before the cut: the blank tokens there, the
statements that have ended there, and a statement that is open there, as far as it has come. -/
structure Outline.IsBefore (a o : Outline) (stop last : Nat) : Prop where
  blanks_eq : o.blanks.filter (·.last < stop) = a.blanks
  closed_eq : (o.statements last).filter (·.EndsBefore stop) = a.closed
  exists_isOpenAt : ∀ draft, a.open? = some draft →
    ∃ statement ∈ o.statements last, statement.IsOpenAt stop
  of_isOpenAt : ∀ statement ∈ o.statements last, statement.IsOpenAt stop →
    ∃ draft, a.open? = some draft ∧
      (draft.stage.type? = statement.type? ∨ draft.stage.type? = none) ∧
      statement.before stop draft.stage.type? = draft.closeAt (stop - 1)

/-- The outline of the tokens before a cut is what the outline of all of them has there. -/
lemma exists_isBefore {o : Outline} (ho : outline mode (xs ++ ys) = .ok o)
    (hxs : Tiles 0 xs stop) (hys : Tiles stop ys length) :
    ∃ a, outline mode xs = .ok a ∧ a.IsBefore o stop (length - 1) := by
  obtain ⟨a, ha⟩ := exists_of_outlineFrom_append ho
  rw [outline, outlineFrom_append, ha] at ho
  obtain ⟨b, hb, rfl⟩ := map_eq_ok_iff.1 ho
  obtain ⟨zs, zs', statement?, c, rfl, hc, hstatements, hblanks, hopens⟩ :=
    exists_of_outlineFrom hb (length - 1)
  have hzs : ∀ token ∈ zs, stop ≤ token.last :=
    fun token hmem => (hys.le_of_mem (List.mem_append_left _ hmem)).2
  have hzs' : ∀ token ∈ zs', stop ≤ token.start ∧ stop ≤ token.last :=
    fun token hmem => hys.le_of_mem (List.mem_append_right _ hmem)
  -- The draft that is open at the cut has tokens before it only, so the cut is in its statement.
  have hdraft : ∀ draft, a.open? = some draft → ∀ token ∈ draft.tokens,
      token.start < stop ∧ token.last < stop := fun draft ha? token hmem =>
    lt_of_mem_tokens ha hxs (Outline.mem_tokens_of_mem_open ha? hmem)
  have hopen : ∀ statement ∈ statement?, statement.IsOpenAt stop := by
    rintro statement hmem
    rcases hopens with ⟨-, rfl⟩ | ⟨draft, statement, ha?, rfl, hbecomes⟩
    · cases hmem
    · cases hmem
      exact hbecomes.isOpenAt (hdraft draft ha? draft.first List.mem_cons_self).1 hzs hys.le
  obtain ⟨hends, hat⟩ := filter_endsBefore
    (fun statement hmem => endsBefore_of_mem_closed ha hxs hmem) hopen
    fun statement hmem => behind_of_outlineFrom hc hzs' hmem
  rw [← hstatements, ← Outline.statements_andThen] at hends hat
  refine ⟨a, ha, ?_, hends, fun draft ha? => ?_, fun statement hmem hisOpen => ?_⟩
  · rw [Outline.blanks_andThen, hblanks,
      filter_blanks ha hxs hc fun token hmem => (hzs' token hmem).2]
  · rcases hopens with ⟨hnone, -⟩ | ⟨draft', statement, -, hstatement, -⟩
    · rw [ha?] at hnone
      cases hnone
    · exact ⟨statement, (hat statement).2 hstatement⟩
  · have hstatement := (hat statement).1 ⟨hmem, hisOpen⟩
    rcases hopens with ⟨-, rfl⟩ | ⟨draft, statement', ha?, rfl, hbecomes⟩
    · cases hstatement
    · cases hstatement
      exact ⟨draft, ha?, hbecomes.type?_eq,
        hbecomes.before_eq (fun token hmem => (hdraft draft ha? token hmem).2) hzs⟩

end Cut

/-- A script that can be read can be read up to any token boundary.  What is before the boundary is
not revised behind it: the first part has the statements that have ended and the blank tokens that
have been passed, and besides these exactly the statement that is open at the boundary, with the
tokens it has there and with its type or no type. -/
theorem parse_before {input : String} {mode : Mode} {script : Script}
    (h : parse input mode = .ok script) {stop : Nat}
    (hstop : IsTokenBoundary (tokenize input) stop) :
    ∃ text before, Text.slice? input.toList 0 stop = some text ∧ parse text mode = .ok before ∧
      before.blanks.toList = script.blanks.toList.filter (·.last < stop) ∧
      ∃ open? : Option Statement,
        before.statements.toList =
          script.statements.toList.filter (·.EndsBefore stop) ++ open?.toList ∧
        (open? ≠ none ↔ ∃ statement ∈ script.statements, statement.IsOpenAt stop) ∧
        ∀ statement ∈ script.statements, statement.IsOpenAt stop →
          ∃ type?, (type? = statement.type? ∨ type? = none) ∧
            open? = some (statement.before stop type?) := by
  obtain ⟨text, behind, hinput, hsize, hsplit⟩ := exists_parts_of_isTokenBoundary hstop
  generalize place stop (pieces behind.toList) = ys at hsplit
  obtain ⟨hxs, hys⟩ := tiles_of_tokenize_eq hsplit
  rw [hsize] at hxs hys
  have hslice : Text.slice? input.toList 0 stop = some text := by
    rw [hinput, ← hsize]
    exact Text.slice?_left text behind
  rw [parse_eq_map] at h
  obtain ⟨o, ho, rfl⟩ := map_eq_ok_iff.1 h
  rw [hsplit] at ho
  obtain ⟨a, ha, hbefore⟩ := exists_isBefore ho hxs hys
  have hparse : parse text mode = .ok (a.script stop) := by
    rw [parse_eq_map, ha, hsize]
    rfl
  refine ⟨text, _, hslice, hparse, hbefore.blanks_eq.symm,
    a.open?.map fun draft => draft.closeAt (stop - 1), ?_, ⟨?_, ?_⟩, ?_⟩
  · simp only [Outline.toList_statements_script, hbefore.closed_eq]
    rfl
  · intro hopen
    obtain ⟨begun, hbegun⟩ := Option.ne_none_iff_exists'.1 hopen
    obtain ⟨draft, ha?, -⟩ := Option.map_eq_some_iff.1 hbegun
    obtain ⟨statement, hmem, hisOpen⟩ := hbefore.exists_isOpenAt draft ha?
    exact ⟨statement, List.mem_toArray.2 hmem, hisOpen⟩
  · rintro ⟨statement, hmem, hisOpen⟩
    obtain ⟨draft, ha?, -⟩ := hbefore.of_isOpenAt statement (List.mem_toArray.1 hmem) hisOpen
    simp [ha?]
  · intro statement hmem hisOpen
    obtain ⟨draft, ha?, htype, heq⟩ :=
      hbefore.of_isOpenAt statement (List.mem_toArray.1 hmem) hisOpen
    exact ⟨draft.stage.type?, htype, by rw [ha?, heq]; rfl⟩

/-- The object of the second statement is not known at the cut, and the two bytes of the letter
behind it are not reached. -/
theorem parse_before_object :
    ∃ script, parse "SELECT 1; CREATE TABLE é;" .lenient = .ok script ∧
      IsTokenBoundary (tokenize "SELECT 1; CREATE TABLE é;") 17 ∧
      (∃ statement ∈ script.statements, statement.IsOpenAt 17) ∧
      ∃ text before, Text.slice? "SELECT 1; CREATE TABLE é;".toList 0 17 = some text ∧
        parse text .lenient = .ok before ∧
        before.blanks.toList = script.blanks.toList.filter (·.last < 17) ∧
        ∃ statement ∈ script.statements, ∃ type?, before.statements.toList =
          script.statements.toList.filter (·.EndsBefore 17) ++ [statement.before 17 type?] := by
  have hstop : IsTokenBoundary (tokenize "SELECT 1; CREATE TABLE é;") 17 :=
    .inr ⟨⟨.whitespace, " ", 16, 16⟩, by decide +kernel, rfl⟩
  have hread : ((parse "SELECT 1; CREATE TABLE é;" .lenient).toOption.map fun script =>
      decide (∃ statement ∈ script.statements.toList, statement.IsOpenAt 17)) = some true := by
    decide +kernel
  obtain ⟨script, hscript, hopen⟩ := exists_eq_ok_of_map_toOption hread
  obtain ⟨statement, hmem, hat⟩ := of_decide_eq_true hopen
  rw [Array.mem_toList_iff] at hmem
  obtain ⟨text, before, htext, hbefore, hblanks, open?, hstatements, -, hgives⟩ :=
    parse_before hscript hstop
  obtain ⟨type?, -, rfl⟩ := hgives statement hmem hat
  exact ⟨script, hscript, hstop, ⟨statement, hmem, hat⟩, text, before, htext, hbefore, hblanks,
    statement, hmem, type?, hstatements⟩

end SqlSplit
