import SqlSplit.Proofs.Scripts.Modes
import SqlSplit.Proofs.Scripts.Recognition
import SqlSplit.Proofs.Statements.Lockstep

/-!
# Objects that are tolerated

A statement that creates or drops something is of a compound type if the object is a table or a
database.  A strict recognizer asks for the keyword, of that kind and with that value.  A lenient
one tolerates any other token in its place, and then reads the type off the token's value alone.
Hence a token that has the value of an object's keyword without being a keyword, a *mimic*, is
tolerated and still gives the statement a compound type (`mimic_settles_compound`).

Mimics are the only exception, which is the main statement, `compound_of_lenient`: but for them a
compound type is one that the strict recognizer settles as well, and a token that is tolerated
leaves the type unknown.  The tokenizer of SQL scripts gives no mimics.
-/

namespace SqlSplit

/-- The types of the statements that create or drop a known object. -/
def StatementType.isCompound : StatementType → Bool
  | createTable | createDatabase | dropTable | dropDatabase => true
  | select | insert | update | delete | truncate | unknown | incomplete => false

/-- The token has the value of an object's keyword, and is no keyword. -/
def Token.IsMimic (token : Token) : Prop :=
  token.kind ≠ .keyword ∧
    (Keyword.ofWord? token.value = some .table ∨ Keyword.ofWord? token.value = some .database)

/-- What opens with the keyword of a verb. -/
def ObjectVerb.opener : ObjectVerb → Opener
  | create => .create
  | drop => .drop

lemma ObjectVerb.typeOn_eq_unknown_of_not_isMimic {token : Token} (hobject : token.isObject = false)
    (hmimic : ¬ token.IsMimic) (verb : ObjectVerb) : verb.typeOn token.value = .unknown := by
  have hword : ∀ word type, Keyword.ofWord? token.value = some word →
      verb.typeWith? word ≠ some type := by
    intro word type hword htype
    by_cases hkind : token.kind = .keyword
    · have hspells := Token.spells_of_ofWord? hkind hword
      rw [verb.isObject_iff.2 ⟨word, type, hspells, htype⟩] at hobject
      cases hobject
    · refine hmimic ⟨hkind, ?_⟩
      cases word with
      | table => exact .inl hword
      | database => exact .inr hword
      | _ => cases verb <;> cases htype
  rw [typeOn_eq_getD]
  cases h : Keyword.ofWord? token.value with
  | none => rfl
  | some word => rw [Option.bind_some, Option.eq_none_iff_forall_ne_some.2 (hword word · h)]; rfl

lemma ObjectVerb.isCompound_typeOn {token : Token} (hmimic : token.IsMimic) (verb : ObjectVerb) :
    (verb.typeOn token.value).isCompound = true := by
  rw [typeOn_eq_getD]
  rcases hmimic.2 with hword | hword <;> rw [hword] <;> cases verb <;> rfl

/-! ## The step that takes the object -/

namespace Recognizer

variable {r r' : Recognizer} {verb : ObjectVerb} {token : Token} {tokens : List Token}
  {verdict : Verdict}

/-- As long as the type is not settled, the next step is the one that takes the verb's object. -/
def IsBoundTo (r : Recognizer) (verb : ObjectVerb) : Prop :=
  r.statement.type? = none → r.step? = some (Step.onObject verb)

lemma IsBoundTo.relax (hr : r.IsBoundTo verb) : r.relax.IsBoundTo verb := hr

lemma IsBoundTo.enter_eq (hr : r.IsBoundTo verb) (h : r.Examines token) : r.enter = r := by
  rw [enter, hr h.type?_eq]
  rfl

lemma IsBoundTo.feeds (hr : r.IsBoundTo verb) (h : r.Feeds token r' verdict) :
    r'.IsBoundTo verb := by
  cases h with
  | late hended => exact hr
  | ends hopen hkind | passes hopen hkind hfree => exact hr
  | exhausts h hstep =>
    rw [hr.enter_eq h, hr h.type?_eq] at hstep
    cases hstep
  | refuses h hstep hrefusal =>
    rw [hr.enter_eq h]
    exact hr
  | @takes step h hstep hrefusal =>
    rw [hr.enter_eq h, hr h.type?_eq] at hstep
    cases hstep
    intro htype
    rw [record, statement_take] at htype
    cases htype

lemma IsBoundTo.run (hr : r.IsBoundTo verb) (tokens : List Token) :
    (r.run tokens).IsBoundTo verb := by
  induction tokens generalizing r with
  | nil => exact hr
  | cons token tokens ih => exact ih (hr.feeds (r.feeds_feed token))

lemma IsBoundTo.of_tolerated (hr : r.IsBoundTo verb) {n : Nat}
    (h : (r.feed token).2 = .tolerated n) :
    token.isObject = false ∧
      (r.feed token).1.statement.type? = some (verb.typeOn token.value) := by
  have hfeeds := r.feeds_feed token
  rw [h] at hfeeds
  generalize (r.feed token).1 = r' at hfeeds ⊢
  generalize hverdict : Verdict.tolerated n = verdict at hfeeds
  cases hfeeds with
  | @takes step hexamines hstep hrefusal =>
    rw [hr.enter_eq hexamines, hr hexamines.type?_eq] at hstep
    cases hstep
    refine ⟨?_, by simp [record, Step.onObject, Step.after, Step.onKeyword, Transition.apply]⟩
    cases haccepts : (Step.onObject verb).accepts token with
    | true =>
      rw [if_pos haccepts] at hverdict
      cases hverdict
    | false => exact haccepts
  | _ => cases hverdict

lemma IsBoundTo.type?_of_tolerated (hr : r.IsBoundTo verb) {before : List Token} {n : Nat}
    (h : ((r.run before).feed token).2 = .tolerated n) (behind : List Token) :
    token.isObject = false ∧
      (r.run (before ++ token :: behind)).statement.type? = some (verb.typeOn token.value) := by
  obtain ⟨hobject, htype⟩ := (hr.run before).of_tolerated h
  rw [run_append, run_cons]
  exact ⟨hobject, (run_type?_eq htype behind).1⟩

/-- The recognizer refuses none of the tokens as unexpected, and settles the type. -/
def Settles (r : Recognizer) (tokens : List Token) (type : StatementType) : Prop :=
  (∀ verdict ∈ r.verdicts tokens, verdict.isUnexpected = false) ∧
    (r.run tokens).statement.type? = some type

/-- If the strict recognizer does not settle the type that the lenient one does, there is a token at
which they part. -/
lemma settles_or_parts (hmode : r.mode = .strict) {type : StatementType}
    (htype : (r.relax.run tokens).statement.type? = some type) :
    r.Settles tokens type ∨
      ∃ before token behind n, tokens = before ++ token :: behind ∧
        ((r.relax.run before).feed token).2 = .tolerated n := by
  by_cases h : ∀ verdict ∈ r.verdicts tokens, verdict.isUnexpected = false
  · refine .inl ⟨h, ?_⟩
    rw [(run_relax hmode h).1] at htype
    exact htype
  · have hsome : ∃ verdict ∈ r.verdicts tokens, verdict.isUnexpected = true := by
      simpa using h
    obtain ⟨before, token, behind, rfl, hbefore, hfound⟩ := exists_first_unexpected hsome
    have htolerated := ((r.run before).feeds_feed token).tolerates_relax
      ((r.mode_run before).trans hmode) hfound
    rw [← (run_relax hmode hbefore).1] at htolerated
    exact .inr ⟨before, token, behind, _, rfl, htolerated⟩

end Recognizer

/-! ## Statements of a verb -/

namespace ObjectVerb

variable {mode : Mode} {verb : ObjectVerb} {first token : Token} {rest : List Token}
  {type : StatementType}

/-- The recognizer of the statements of a verb. -/
def recognizer (verb : ObjectVerb) (mode : Mode) : Recognizer :=
  verb.opener.recognizer mode

lemma ofToken?_of_dispatch (h : Opener.dispatch mode first = .ok verb.opener) (mode' : Mode) :
    Opener.ofToken? mode' first = some verb.opener := by
  rcases Opener.ofToken?_eq_some (Opener.ofToken?_of_dispatch h) with
    ⟨hkind, word, hword, hopener⟩ | ⟨-, -, hopener⟩
  · simp [Opener.ofToken?, hkind, hword, hopener]
  · cases verb <;> cases hopener

lemma exists_opened (h : Opener.dispatch mode first = .ok verb.opener) :
    ∃ r : Recognizer, r.IsBoundTo verb ∧ r.mode = .strict ∧
      (verb.recognizer .strict).feed first = (r, .accepted) ∧
      (verb.recognizer .lenient).feed first = (r.relax, .accepted) := by
  refine ⟨_, ?_, ?_, Opener.feed_open (ofToken?_of_dispatch h .strict),
    Opener.feed_open (ofToken?_of_dispatch h .lenient)⟩
  · intro htype
    cases verb <;> rfl
  · rfl

/-- What the lenient recognizer settles as a compound type, the strict one settles as well, unless a
mimic was tolerated. -/
lemma settles_or_mimic (h : Opener.dispatch mode first = .ok verb.opener)
    (htype : ((verb.recognizer .lenient).run (first :: rest)).statement.type? = some type)
    (hcompound : type.isCompound = true) :
    (verb.recognizer .strict).Settles (first :: rest) type ∨
      ∃ before token behind n, rest = before ++ token :: behind ∧ token.IsMimic ∧
        (((verb.recognizer .lenient).run (first :: before)).feed token).2 = .tolerated n := by
  obtain ⟨r, hbound, hmode, hstrict, hlenient⟩ := exists_opened h
  simp only [Recognizer.run_cons, hlenient] at htype ⊢
  rcases Recognizer.settles_or_parts hmode htype with ⟨hverdicts, hsame⟩ | hparts
  · refine .inl ⟨?_, by rw [Recognizer.run_cons, hstrict, hsame]⟩
    rw [Recognizer.verdicts, List.forall_mem_cons, hstrict]
    exact ⟨rfl, hverdicts⟩
  · obtain ⟨before, token, behind, n, rfl, htolerated⟩ := hparts
    refine .inr ⟨before, token, behind, n, rfl, ?_, htolerated⟩
    obtain ⟨hobject, hvalue⟩ := hbound.relax.type?_of_tolerated htolerated behind
    by_contra hmimic
    rw [hvalue, typeOn_eq_unknown_of_not_isMimic hobject hmimic] at htype
    cases htype
    cases hcompound

/-- The value of a token that is tolerated settles the type, as unknown unless it is a mimic. -/
lemma type?_of_tolerated (h : Opener.dispatch mode first = .ok verb.opener)
    {before behind : List Token} {n : Nat}
    (htolerated :
      (((verb.recognizer .lenient).run (first :: before)).feed token).2 = .tolerated n) :
    ((verb.recognizer .lenient).run (first :: (before ++ token :: behind))).statement.type? =
        some (verb.typeOn token.value) ∧
      (verb.typeOn token.value = .unknown ↔ ¬ token.IsMimic) := by
  obtain ⟨r, hbound, -, -, hlenient⟩ := exists_opened h
  simp only [Recognizer.run_cons, hlenient] at htolerated ⊢
  obtain ⟨hobject, hvalue⟩ := hbound.relax.type?_of_tolerated htolerated behind
  refine ⟨hvalue, ?_, fun hmimic => typeOn_eq_unknown_of_not_isMimic hobject hmimic verb⟩
  intro hunknown hmimic
  have hcompound := isCompound_typeOn hmimic verb
  rw [hunknown] at hcompound
  cases hcompound

lemma not_settles_of_tolerated (h : Opener.dispatch mode first = .ok verb.opener)
    {before behind : List Token} {n : Nat}
    (htolerated :
      (((verb.recognizer .lenient).run (first :: before)).feed token).2 = .tolerated n) :
    ¬ (verb.recognizer .strict).Settles (first :: (before ++ token :: behind)) type := by
  obtain ⟨r, -, hmode, hstrict, hlenient⟩ := exists_opened h
  simp only [Recognizer.run_cons, hlenient] at htolerated
  rintro ⟨hverdicts, -⟩
  rw [Recognizer.verdicts, hstrict, List.forall_mem_cons] at hverdicts
  exact Recognizer.not_forall_expected_of_tolerated hmode htolerated behind hverdicts.2

end ObjectVerb

lemma Opener.exists_verb {mode : Mode} {opener : Opener} {first : Token} {rest : List Token}
    {type : StatementType} (h : Opener.dispatch mode first = .ok opener)
    (htype : ((opener.recognizer mode).run (first :: rest)).statement.type? = some type)
    (hcompound : type.isCompound = true) : ∃ verb : ObjectVerb, opener = verb.opener := by
  -- Every other opener settles a type at once, and none of these is compound.
  have hsettled : ∀ settled, opener.stage = .settled settled → settled = type := by
    intro settled hstage
    have hfirst : ((opener.recognizer mode).feed first).1.statement.type? = some settled := by
      rw [feed_open (ofToken?_of_dispatch h)]
      simp [Draft.statement, hstage, Stage.type?]
    rw [Recognizer.run_cons, (Recognizer.run_type?_eq hfirst rest).1] at htype
    exact Option.some.inj htype
  cases opener with
  | create => exact ⟨.create, rfl⟩
  | drop => exact ⟨.drop, rfl⟩
  | _ => cases hsettled _ rfl; cases hcompound

lemma not_isMimic_of_mem_tokenize {input : String} {token : Token} (h : token ∈ tokenize input) :
    ¬ token.IsMimic := by
  rintro ⟨hkind, hword⟩
  rcases hword with hword | hword <;>
    exact hkind (Token.kind_eq_of_ofWord? (piece_mem_pieces h) hword)

/-- The type of a statement of a script is the one that the recognizer of its verb settles. -/
lemma Statement.type?_eq_run {parser : Parser} {script : Script} {statement : Statement}
    {mode : Mode} {verb : ObjectVerb} {first : Token} {rest : List Token}
    (hmode : parser.mode = .lenient) (hparse : parser.parse = .ok script)
    (hmem : statement ∈ script.statements.toList)
    (htokens : statement.tokens.toList = first :: rest)
    (hfirst : Opener.dispatch mode first = .ok verb.opener) :
    statement.type? = ((verb.recognizer .lenient).run (first :: rest)).statement.type? := by
  obtain ⟨r, opener, first', rest', hr, hstatement⟩ := isRecognized_of_parse hparse statement hmem
  rw [hstatement] at htokens ⊢
  obtain ⟨rfl, rfl⟩ := List.cons.inj (hr.tokens_eq.symm.trans htokens)
  -- The first token dispatches to one opener, whatever the mode.
  have hopener := Opener.ofToken?_of_dispatch hr.dispatch_eq
  rw [ObjectVerb.ofToken?_of_dispatch hfirst, Option.some.injEq] at hopener
  subst hopener
  rw [hmode] at hr
  rw [ObjectVerb.recognizer, hr.run_eq]

/-- A statement of a script that was read in lenient mode has a compound type only if the strict
recognizer settles it, too, or if one of the statement's tokens is a mimic. -/
theorem Statement.settles_or_mimic {parser : Parser} {script : Script} {statement : Statement}
    {type : StatementType} (hmode : parser.mode = .lenient) (hparse : parser.parse = .ok script)
    (hmem : statement ∈ script.statements.toList) (htype : statement.type? = some type)
    (hcompound : type.isCompound = true) :
    (∃ verb first rest, statement.tokens.toList = first :: rest ∧
      Opener.dispatch .lenient first = .ok (ObjectVerb.opener verb) ∧
      (verb.recognizer .strict).Settles (first :: rest) type) ∨
    ∃ token ∈ statement.tokens.toList, token.IsMimic := by
  obtain ⟨r, opener, first, rest, hr, hstatement⟩ := isRecognized_of_parse hparse statement hmem
  rw [hmode] at hr
  have htokens : statement.tokens.toList = first :: rest := by
    rw [hstatement]
    exact hr.tokens_eq
  have hrun : ((opener.recognizer .lenient).run (first :: rest)).statement.type? = some type := by
    rw [hr.run_eq, ← htype, hstatement]
  obtain ⟨verb, rfl⟩ := Opener.exists_verb hr.dispatch_eq hrun hcompound
  rcases ObjectVerb.settles_or_mimic hr.dispatch_eq hrun hcompound with hsettles | hmimic
  · exact .inl ⟨verb, first, rest, htokens, hr.dispatch_eq, hsettles⟩
  · obtain ⟨before, token, behind, n, rfl, hmimic, -⟩ := hmimic
    refine .inr ⟨token, ?_, hmimic⟩
    simp [htokens]

/-- What the lenient recognizer of a verb settles as a compound type the strict one settles as well,
and refuses nothing as unexpected, if and only if no mimic was tolerated.  The value of a token that
is tolerated settles the type, which is unknown if and only if the token is no mimic.  This decides
the type of a statement that has these tokens in a script, whatever the tokenizer.  The tokens of an
SQL script are not mimics. -/
theorem compound_of_lenient {mode : Mode} {verb : ObjectVerb} {first : Token}
    (hfirst : Opener.dispatch mode first = .ok verb.opener) (rest : List Token) :
    ((∀ type : StatementType,
        ((verb.recognizer .lenient).run (first :: rest)).statement.type? = some type →
        type.isCompound = true → (verb.recognizer .strict).Settles (first :: rest) type) ↔
      ∀ before token behind n, rest = before ++ token :: behind →
        (((verb.recognizer .lenient).run (first :: before)).feed token).2 = .tolerated n →
        ¬ token.IsMimic) ∧
    (∀ before token behind n, rest = before ++ token :: behind →
      (((verb.recognizer .lenient).run (first :: before)).feed token).2 = .tolerated n →
      ((verb.recognizer .lenient).run (first :: rest)).statement.type? =
          some (verb.typeOn token.value) ∧
        (verb.typeOn token.value = .unknown ↔ ¬ token.IsMimic)) ∧
    (∀ (parser : Parser) (script : Script), parser.mode = .lenient → parser.parse = .ok script →
      ∀ statement ∈ script.statements.toList, statement.tokens.toList = first :: rest →
        statement.type? =
          ((verb.recognizer .lenient).run (first :: rest)).statement.type?) ∧
    ∀ input : String, (∀ token ∈ rest, token ∈ tokenize input) → ∀ type : StatementType,
      ((verb.recognizer .lenient).run (first :: rest)).statement.type? = some type →
      type.isCompound = true → (verb.recognizer .strict).Settles (first :: rest) type := by
  have htype : ∀ before token behind n, rest = before ++ token :: behind →
      (((verb.recognizer .lenient).run (first :: before)).feed token).2 = .tolerated n →
      ((verb.recognizer .lenient).run (first :: rest)).statement.type? =
          some (verb.typeOn token.value) ∧
        (verb.typeOn token.value = .unknown ↔ ¬ token.IsMimic) := by
    rintro before token behind n rfl
    exact ObjectVerb.type?_of_tolerated hfirst
  refine ⟨⟨?_, ?_⟩, htype, ?_, ?_⟩
  · rintro hsettles before token behind n rfl htolerated hmimic
    obtain ⟨hvalue, -⟩ := htype before token behind n rfl htolerated
    exact ObjectVerb.not_settles_of_tolerated hfirst htolerated
      (hsettles _ hvalue (ObjectVerb.isCompound_typeOn hmimic verb))
  · intro hnone type hlenient hcompound
    refine (ObjectVerb.settles_or_mimic hfirst hlenient hcompound).resolve_right ?_
    rintro ⟨before, token, behind, n, hrest, hmimic, htolerated⟩
    exact hnone before token behind n hrest htolerated hmimic
  · intro parser script hmode hparse statement hmem htokens
    exact Statement.type?_eq_run hmode hparse hmem htokens hfirst
  · intro input hinput type hlenient hcompound
    refine (ObjectVerb.settles_or_mimic hfirst hlenient hcompound).resolve_right ?_
    rintro ⟨before, token, behind, n, rfl, hmimic, -⟩
    exact not_isMimic_of_mem_tokenize (hinput token (by simp)) hmimic

/-- The keyword itself settles the type in both modes. -/
theorem compound_of_lenient_table :
    (ObjectVerb.create.recognizer .strict).Settles
      [⟨.keyword, "CREATE", 0, 5⟩, ⟨.whitespace, " ", 6, 6⟩, ⟨.keyword, "TABLE", 7, 11⟩]
      .createTable := by
  have hfirst : Opener.dispatch .lenient ⟨.keyword, "CREATE", 0, 5⟩ =
      .ok ObjectVerb.create.opener := by
    decide +kernel
  refine (compound_of_lenient hfirst _).2.2.2 "CREATE TABLE" ?_ .createTable ?_ rfl
  · decide +kernel
  · decide +kernel

/-- A mimic behind `CREATE`: the strict recognizer refuses it, the lenient one tolerates it, and yet
the statement is said to create a table. -/
theorem mimic_settles_compound :
    let first : Token := ⟨.keyword, "CREATE", 0, 5⟩
    let space : Token := ⟨.whitespace, " ", 6, 6⟩
    let mimic : Token := ⟨.unknown, "TABLE", 7, 11⟩
    Opener.dispatch .lenient first = .ok ObjectVerb.create.opener ∧
    (ObjectVerb.create.recognizer .lenient).verdicts [first, space, mimic] =
      [.accepted, .accepted, .tolerated 1] ∧
    ((ObjectVerb.create.recognizer .lenient).run [first, space, mimic]).statement.type? =
      some .createTable ∧
    ¬ (ObjectVerb.create.recognizer .strict).Settles [first, space, mimic] .createTable ∧
    Except.map Script.types (Parser.parse
      { input := "CREATE TABLE"
        mode := .lenient
        tokenizer := .scripted
          [⟨.keyword, 6, none⟩, ⟨.whitespace, 1, none⟩, ⟨.unknown, 5, none⟩] }) =
      .ok [.createTable] := by
  refine ⟨by decide +kernel, by decide +kernel, by decide +kernel, ?_, ?_⟩
  · rintro ⟨hverdicts, -⟩
    revert hverdicts
    decide +kernel
  · decide +kernel

end SqlSplit
