import Mathlib.Tactic.Lemma
import SqlSplit.Parser
import SqlSplit.Proofs.Statements.Stage

/-!
# Outlines

The outline of a list of tokens shows how a splitter divides them: into blank tokens that stand
outside all statements, statements that a semicolon ends, and perhaps one statement that is still
open behind the last token.  `outlineFrom` finds it token by token, and remembers nothing but the
open draft.

`Script.ofTokens_eq` states that splitting tokens is the same as finding their outline and writing
it down, errors included.  What is proved about outlines therefore holds of scripts:
`outlineFrom_append` says that they can be found in two goes, `tokens_eq_of_outlineFrom` that no
token is lost, and `exists_of_outlineFrom_error` that a failing run fails at one token.
-/

namespace SqlSplit

/-! ## Parts and outlines -/

/-- What is closed in a script. -/
inductive Part where
  /-- A blank token outside all statements. -/
  | blank (token : Token)
  /-- A statement and the semicolon that ends it. -/
  | closed (draft : Draft) (semicolon : Token)
  deriving DecidableEq, Repr

namespace Part

/-- The tokens of a part, in order. -/
def tokens : Part → List Token
  | blank token => [token]
  | closed draft semicolon => draft.tokens ++ [semicolon]

/-- The token of a part that lies outside all statements. -/
def blank? : Part → Option Token
  | blank token => some token
  | closed _ _ => none

/-- The statement of a part that is one. -/
def statement? : Part → Option Statement
  | blank _ => none
  | closed draft semicolon => some (draft.close semicolon)

end Part

/-- The parts of a run of tokens, and the statement that is open behind it. -/
structure Outline where
  parts : List Part
  open? : Option Draft
  deriving DecidableEq, Repr

namespace Outline

/-- The parts of two outlines, one behind the other. -/
def andThen (a b : Outline) : Outline :=
  ⟨a.parts ++ b.parts, b.open?⟩

/-- The tokens, in order. -/
def tokens (outline : Outline) : List Token :=
  outline.parts.flatMap Part.tokens ++ (outline.open?.map Draft.tokens).getD []

/-- The tokens outside all statements, in order. -/
def blanks (outline : Outline) : List Token :=
  outline.parts.filterMap Part.blank?

/-- The statements that a semicolon ends, in order. -/
def closed (outline : Outline) : List Statement :=
  outline.parts.filterMap Part.statement?

lemma terminated_of_mem_closed {outline : Outline} {statement : Statement}
    (h : statement ∈ outline.closed) : statement.terminated = true := by
  obtain ⟨part, -, hpart⟩ := List.mem_filterMap.1 h
  cases part with
  | blank token => cases hpart
  | closed draft semicolon =>
    cases hpart
    rfl

/-- The statements, the open one closed at the given last byte. -/
def statements (outline : Outline) (last : Nat) : List Statement :=
  outline.closed ++ (outline.open?.map fun draft => draft.closeAt last).toList

/-- The script over a text of the given number of bytes. -/
def script (outline : Outline) (length : Nat) : Script :=
  { last := length - 1, statements := (outline.statements (length - 1)).toArray
    blanks := outline.blanks.toArray }

lemma blanks_andThen (a b : Outline) : (a.andThen b).blanks = a.blanks ++ b.blanks :=
  List.filterMap_append

lemma statements_andThen (a b : Outline) (last : Nat) :
    (a.andThen b).statements last = a.closed ++ b.statements last := by
  simp [statements, closed, andThen]

lemma toList_statements_script (outline : Outline) (length : Nat) :
    (outline.script length).statements.toList = outline.statements (length - 1) := rfl

end Outline

/-! ## Finding an outline -/

/-- What a token closes and leaves open, or the error that it may not stand here. -/
def advance (mode : Mode) : Option Draft → Token → Except ParseError Outline
  | none, token =>
    if token.isBlank then .ok ⟨[.blank token], none⟩
    else (Draft.opening mode token).map fun draft => ⟨[], some draft⟩
  | some draft, token =>
    if token.kind = .semicolon then .ok ⟨[.closed draft token], none⟩
    else (draft.next mode token).map fun draft => ⟨[], some draft⟩

/-- The outline of tokens that follow an open statement, or the first error. -/
def outlineFrom (mode : Mode) : Option Draft → List Token → Except ParseError Outline
  | open?, [] => .ok ⟨[], open?⟩
  | open?, token :: tokens =>
    match advance mode open? token with
    | .error error => .error error
    | .ok outline => (outlineFrom mode outline.open? tokens).map outline.andThen

/-- The outline of the tokens of a script. -/
def outline (mode : Mode) (tokens : List Token) : Except ParseError Outline :=
  outlineFrom mode none tokens

@[simp] lemma outlineFrom_nil (mode : Mode) (open? : Option Draft) :
    outlineFrom mode open? [] = .ok ⟨[], open?⟩ := rfl

lemma outlineFrom_cons (mode : Mode) (open? : Option Draft) (token : Token)
    (tokens : List Token) :
    outlineFrom mode open? (token :: tokens) =
      match advance mode open? token with
      | .error error => .error error
      | .ok outline => (outlineFrom mode outline.open? tokens).map outline.andThen := rfl

lemma outlineFrom_append (mode : Mode) (open? : Option Draft) (xs ys : List Token) :
    outlineFrom mode open? (xs ++ ys) =
      match outlineFrom mode open? xs with
      | .error error => .error error
      | .ok a => (outlineFrom mode a.open? ys).map a.andThen := by
  induction xs generalizing open? with
  | nil =>
    have hid : Outline.andThen ⟨[], open?⟩ = id := by
      funext b
      simp [Outline.andThen]
    simp only [List.nil_append, outlineFrom_nil, hid]
    cases outlineFrom mode open? ys <;> rfl
  | cons x xs ih =>
    rw [List.cons_append, outlineFrom_cons, outlineFrom_cons]
    cases advance mode open? x with
    | error error => rfl
    | ok a =>
      simp only [ih]
      cases outlineFrom mode a.open? xs with
      | error error => rfl
      | ok b =>
        simp only [Except.map, Outline.andThen]
        cases outlineFrom mode b.open? ys with
        | error error => rfl
        | ok c => simp

/-- What a token that may stand where it stands does. -/
inductive Advances (mode : Mode) : Option Draft → Token → Outline → Prop
  | blank {token : Token} (hblank : token.isBlank = true) :
      Advances mode none token ⟨[.blank token], none⟩
  | opens {token : Token} {draft : Draft} (hblank : token.isBlank = false)
      (hopening : Draft.opening mode token = .ok draft) :
      Advances mode none token ⟨[], some draft⟩
  | closes {draft : Draft} {token : Token} (hkind : token.kind = .semicolon) :
      Advances mode (some draft) token ⟨[.closed draft token], none⟩
  | grows {draft draft' : Draft} {token : Token} (hkind : token.kind ≠ .semicolon)
      (hnext : draft.next mode token = .ok draft') :
      Advances mode (some draft) token ⟨[], some draft'⟩

lemma advance_eq_ok_iff {mode : Mode} {open? : Option Draft} {token : Token} {a : Outline} :
    advance mode open? token = .ok a ↔ Advances mode open? token a := by
  constructor
  · intro h
    cases open? with
    | none =>
      by_cases hblank : token.isBlank = true
      · rw [advance, if_pos hblank] at h
        cases h
        exact .blank hblank
      · rw [advance, if_neg hblank] at h
        obtain ⟨draft, hopening, rfl⟩ := map_eq_ok_iff.1 h
        exact .opens (Bool.eq_false_iff.2 hblank) hopening
    | some draft =>
      by_cases hkind : token.kind = .semicolon
      · rw [advance, if_pos hkind] at h
        cases h
        exact .closes hkind
      · rw [advance, if_neg hkind] at h
        obtain ⟨draft', hnext, rfl⟩ := map_eq_ok_iff.1 h
        exact .grows hkind hnext
  · intro h
    cases h with
    | blank hblank => rw [advance, if_pos hblank]
    | opens hblank hopening => rw [advance, hblank, hopening]; rfl
    | closes hkind => rw [advance, if_pos hkind]
    | grows hkind hnext => rw [advance, if_neg hkind, hnext]; rfl

lemma outlineFrom_cons_eq_ok_iff {mode : Mode} {open? : Option Draft} {token : Token}
    {tokens : List Token} {o : Outline} :
    outlineFrom mode open? (token :: tokens) = .ok o ↔
      ∃ a b, Advances mode open? token a ∧ outlineFrom mode a.open? tokens = .ok b ∧
        o = a.andThen b := by
  rw [outlineFrom_cons]
  constructor
  · intro h
    cases hadvance : advance mode open? token with
    | error error =>
      rw [hadvance] at h
      cases h
    | ok a =>
      rw [hadvance] at h
      obtain ⟨b, hb, rfl⟩ := map_eq_ok_iff.1 h
      exact ⟨a, b, advance_eq_ok_iff.1 hadvance, hb, rfl⟩
  · rintro ⟨a, b, hadvance, hb, rfl⟩
    rw [advance_eq_ok_iff.2 hadvance]
    simp only [hb, Except.map]

/-- A run that fails takes the tokens before the one at fault. -/
lemma exists_of_outlineFrom_error {mode : Mode} {open? : Option Draft} {tokens : List Token}
    {error : ParseError} (h : outlineFrom mode open? tokens = .error error) :
    ∃ before token after a, tokens = before ++ token :: after ∧
      outlineFrom mode open? before = .ok a ∧ advance mode a.open? token = .error error := by
  induction tokens generalizing open? with
  | nil => simp at h
  | cons token tokens ih =>
    rw [outlineFrom_cons] at h
    cases hadvance : advance mode open? token with
    | error error' =>
      rw [hadvance] at h
      cases h
      exact ⟨[], token, tokens, ⟨[], open?⟩, rfl, rfl, hadvance⟩
    | ok a =>
      rw [hadvance] at h
      have hrun := map_eq_error_iff.1 h
      obtain ⟨before, fault, after, b, rfl, hbefore, hfault⟩ := ih hrun
      refine ⟨token :: before, fault, after, a.andThen b, rfl, ?_, hfault⟩
      exact outlineFrom_cons_eq_ok_iff.2 ⟨a, b, advance_eq_ok_iff.1 hadvance, hbefore, rfl⟩

/-! ## No token is lost -/

lemma Draft.tokens_of_next {mode : Mode} {draft draft' : Draft} {token : Token}
    (h : draft.next mode token = .ok draft') : draft'.tokens = draft.tokens ++ [token] := by
  obtain ⟨stage, -, rfl⟩ := map_eq_ok_iff.1 h
  rfl

/-- The tokens of a draft, none if there is no draft. -/
def openTokens (open? : Option Draft) : List Token :=
  (open?.map Draft.tokens).getD []

lemma Advances.tokens_eq {mode : Mode} {open? : Option Draft} {token : Token} {a : Outline}
    (h : Advances mode open? token a) : a.tokens = openTokens open? ++ [token] := by
  cases h with
  | blank hblank => rfl
  | opens hblank hopening =>
    obtain ⟨opener, -, rfl⟩ := map_eq_ok_iff.1 hopening
    rfl
  | closes hkind => simp [Outline.tokens, openTokens, Part.tokens]
  | grows hkind hnext => simp [Outline.tokens, openTokens, Draft.tokens_of_next hnext]

/-- The outline of a run holds the tokens of the draft it starts with and those it takes. -/
lemma tokens_eq_of_outlineFrom {mode : Mode} {open? : Option Draft} {tokens : List Token}
    {o : Outline} (h : outlineFrom mode open? tokens = .ok o) :
    o.tokens = openTokens open? ++ tokens := by
  induction tokens generalizing open? o with
  | nil =>
    cases h
    simp [Outline.tokens, openTokens]
  | cons token tokens ih =>
    obtain ⟨a, b, hadvance, hrest, rfl⟩ := outlineFrom_cons_eq_ok_iff.1 h
    have hb := ih hrest
    have ha := hadvance.tokens_eq
    simp only [Outline.tokens, openTokens, Outline.andThen, List.flatMap_append] at ha hb ⊢
    rw [List.append_assoc, hb, ← List.append_assoc, ha]
    simp

/-! ## A splitter that follows an outline -/

namespace Splitter

/-- What the open statement of a splitter has to do with an open draft. -/
def Opens (mode : Mode) : Option Recognizer → Option Draft → Prop
  | none, none => True
  | some r, some draft => r.Follows mode draft
  | _, _ => False

/-- The splitter has read the tokens of the outline in a text of the given number of bytes. -/
structure Shows (s : Splitter) (mode : Mode) (length : Nat) (outline : Outline) : Prop where
  mode_eq : s.mode = mode
  script_eq : s.script =
    { last := length - 1, statements := outline.closed.toArray, blanks := outline.blanks.toArray }
  opens : Opens mode s.active? outline.open?

variable {s : Splitter} {mode : Mode} {length : Nat} {o : Outline}

lemma shows_start (mode : Mode) (length : Nat) :
    (start mode length).Shows mode length ⟨[], none⟩ :=
  ⟨rfl, rfl, trivial⟩

lemma feed_of_semicolon {r : Recognizer} {draft : Draft} {token : Token} (hr : r.Follows mode draft)
    (hkind : token.kind = .semicolon) (script : Script) :
    feed mode script r token = .ok { mode, script := script.addStatement (draft.close token) } := by
  obtain ⟨haccepted, hterminated, hclose⟩ := hr.feed_semicolon hkind
  rw [← hclose]
  simp [feed, haccepted, Verdict.error?, hterminated]

lemma feed_of_next {r : Recognizer} {draft draft' : Draft} {token : Token}
    (hr : r.Follows mode draft) (hkind : token.kind ≠ .semicolon)
    (hnext : draft.next mode token = .ok draft') (script : Script) :
    feed mode script r token = .ok { mode, script, active? := some (r.feed token).1 } ∧
      (r.feed token).1.Follows mode draft' := by
  have hfeed := hr.feed hkind
  rw [hnext] at hfeed
  obtain ⟨hverdict, hfollows⟩ := hfeed
  have hopen := hfollows.terminated_eq_false
  exact ⟨by simp only [feed, hverdict, hopen, Bool.false_eq_true, if_false], hfollows⟩

/-- Feeding a recognizer that follows a draft goes as the draft goes. -/
lemma feed_shows {script : Script} {r : Recognizer} {draft : Draft} (hr : r.Follows mode draft)
    (hscript : script =
      { last := length - 1, statements := o.closed.toArray, blanks := o.blanks.toArray })
    (token : Token) :
    match advance mode (some draft) token with
    | .ok a => ∃ s', feed mode script r token = .ok s' ∧ s'.Shows mode length (o.andThen a)
    | .error error => feed mode script r token = .error error := by
  by_cases hkind : token.kind = .semicolon
  · simp only [advance, if_pos hkind]
    refine ⟨_, feed_of_semicolon hr hkind script, rfl, ?_, trivial⟩
    simp [hscript, Script.addStatement, Outline.andThen, Outline.closed, Outline.blanks,
      Part.statement?, Part.blank?]
  · simp only [advance, if_neg hkind]
    cases hdraft : draft.next mode token with
    | error error =>
      have hverdict := hr.feed hkind
      rw [hdraft] at hverdict
      simp only at hverdict
      simp only [Except.map, feed, hverdict, Verdict.error?]
    | ok draft' =>
      obtain ⟨hfeed, hfollows⟩ := feed_of_next hr hkind hdraft script
      refine ⟨_, hfeed, rfl, ?_, hfollows⟩
      simp [hscript, Outline.andThen, Outline.closed, Outline.blanks]

lemma step_of_dispatch {token : Token} {opener : Opener} (hblank : token.isBlank = false)
    (hdispatch : Opener.dispatch mode token = .ok opener) (script : Script) :
    step ⟨mode, script, none⟩ token =
        .ok { mode, script, active? := some ((opener.recognizer mode).feed token).1 } ∧
      ((opener.recognizer mode).feed token).2 = .accepted ∧
      ((opener.recognizer mode).feed token).1.Follows mode ⟨token, [], opener.stage⟩ := by
  obtain ⟨haccepted, hfollows⟩ := Opener.follows_open (Opener.ofToken?_of_dispatch hdispatch)
  have hopen := hfollows.terminated_eq_false
  refine ⟨?_, haccepted, hfollows⟩
  simp only [step, hblank, Bool.false_eq_true, if_false, hdispatch, feed, haccepted,
    Verdict.error?, hopen]

lemma open_shows {script : Script}
    (hscript : script =
      { last := length - 1, statements := o.closed.toArray, blanks := o.blanks.toArray })
    {token : Token} (hblank : token.isBlank = false) :
    match advance mode none token with
    | .ok a => ∃ s', step ⟨mode, script, none⟩ token = .ok s' ∧
        s'.Shows mode length (o.andThen a)
    | .error error => step ⟨mode, script, none⟩ token = .error error := by
  cases hdispatch : Opener.dispatch mode token with
  | error error =>
    simp only [advance, step, hblank, Bool.false_eq_true, if_false, Draft.opening, hdispatch]
    rfl
  | ok opener =>
    obtain ⟨hstep, -, hfollows⟩ := step_of_dispatch hblank hdispatch script
    simp only [advance, hblank, Bool.false_eq_true, if_false, Draft.opening, hdispatch, hstep]
    refine ⟨_, rfl, rfl, ?_, hfollows⟩
    simp [hscript, Outline.andThen, Outline.closed, Outline.blanks]

/-- A splitter takes the tokens that its outline takes, and fails with the same errors. -/
lemma step_shows (h : s.Shows mode length o) (token : Token) :
    match advance mode o.open? token with
    | .ok a => ∃ s', s.step token = .ok s' ∧ s'.Shows mode length (o.andThen a)
    | .error error => s.step token = .error error := by
  obtain ⟨smode, script, active?⟩ := s
  obtain ⟨rfl, hscript, hopens⟩ := h
  simp only at hscript hopens ⊢
  cases ho : o.open? with
  | some draft =>
    cases hr : active? with
    | none => simp [Opens, ho, hr] at hopens
    | some r =>
      rw [ho, hr] at hopens
      exact feed_shows hopens hscript token
  | none =>
    cases hr : active? with
    | some r => simp [Opens, ho, hr] at hopens
    | none =>
      by_cases hblank : token.isBlank = true
      · simp only [advance, step, if_pos hblank]
        refine ⟨_, rfl, rfl, ?_, trivial⟩
        simp [hscript, Script.addBlank, Outline.andThen, Outline.closed, Outline.blanks,
          Part.statement?, Part.blank?]
      · exact open_shows hscript (Bool.eq_false_iff.2 hblank)

lemma foldlM_shows (h : s.Shows mode length o) (tokens : List Token) :
    match outlineFrom mode o.open? tokens with
    | .ok a => ∃ s', tokens.foldlM step s = .ok s' ∧ s'.Shows mode length (o.andThen a)
    | .error error => tokens.foldlM step s = .error error := by
  induction tokens generalizing s o with
  | nil =>
    refine ⟨s, rfl, ?_⟩
    simpa [Outline.andThen] using h
  | cons token tokens ih =>
    have hstep := step_shows h token
    cases hadvance : advance mode o.open? token with
    | error error =>
      rw [hadvance] at hstep
      simp only at hstep
      simp [outlineFrom_cons, hadvance, List.foldlM_cons, hstep, bind, Except.bind]
    | ok a =>
      rw [hadvance] at hstep
      obtain ⟨s', hs', hshows⟩ := hstep
      have hhead : (token :: tokens).foldlM step s = tokens.foldlM step s' := by
        rw [List.foldlM_cons, hs']
        rfl
      have hrest := ih hshows
      rw [hhead, outlineFrom_cons, hadvance]
      simp only [Outline.andThen] at hrest ⊢
      cases hrun : outlineFrom mode a.open? tokens with
      | error error =>
        rw [hrun] at hrest
        exact hrest
      | ok b =>
        rw [hrun] at hrest
        obtain ⟨s'', hs'', hshows'⟩ := hrest
        refine ⟨s'', hs'', ?_⟩
        simpa [Outline.andThen] using hshows'

lemma Shows.finish_eq (h : s.Shows mode length o) : s.finish = o.script length := by
  obtain ⟨smode, script, active?⟩ := s
  obtain ⟨rfl, hscript, hopens⟩ := h
  simp only at hscript hopens
  subst hscript
  cases ho : o.open? with
  | none =>
    cases hr : active? with
    | none => simp [finish, Outline.script, Outline.statements, ho]
    | some r => simp [Opens, ho, hr] at hopens
  | some draft =>
    cases hr : active? with
    | none => simp [Opens, ho, hr] at hopens
    | some r =>
      rw [ho, hr] at hopens
      have hclose : { r.statement with last := length - 1 } = draft.closeAt (length - 1) := by
        rw [hopens.statement_eq]
        rfl
      simp [finish, Outline.script, Outline.statements, ho, Script.addStatement, hclose]

end Splitter

/-- Splitting tokens is finding their outline and writing it down. -/
theorem Script.ofTokens_eq (mode : Mode) (length : Nat) (tokens : List Token) :
    Script.ofTokens mode length tokens =
      (outline mode tokens).map fun outline => outline.script length := by
  have hrun := Splitter.foldlM_shows (Splitter.shows_start mode length) tokens
  rw [Script.ofTokens, outline]
  cases h : outlineFrom mode none tokens with
  | error error =>
    rw [h] at hrun
    simp only at hrun
    rw [hrun]
    rfl
  | ok a =>
    rw [h] at hrun
    obtain ⟨s, hs, hshows⟩ := hrun
    rw [hs]
    exact congrArg Except.ok hshows.finish_eq

/-- Reading a text is finding the outline of its tokens and writing it down. -/
lemma Parser.parse_eq_map (parser : Parser) :
    parser.parse = (outline parser.mode parser.tokens).map
      fun outline => outline.script parser.input.utf8ByteSize :=
  Script.ofTokens_eq parser.mode parser.input.utf8ByteSize parser.tokens

end SqlSplit
