import SqlSplit.Cursor
import SqlSplit.Lexeme

/-!
# Tokenizers

A tokenizer says what token stands at a cursor that is not at the end.  Every token it gives
stands where the cursor is and takes at least one character, so running it over a text ends, and
the tokens follow each other without gap from the start of the text to its end.  What kind a token
has, what value it shows and how far it reaches is the tokenizer's own choice, which may also
depend on how many tokens it gave before.

`Tokenizer.sql` is the tokenizer for SQL scripts.  `Tokenizer.characters` and `Tokenizer.scripted`
serve to drive the recognition of statements by hand.
-/

namespace SqlSplit

/-- A rule for the token at a cursor. -/
structure Tokenizer where
  /-- The token at a cursor that is not at the end, in the given turn: the number of tokens read
  before it. -/
  scan (turn : Nat) (cursor : Cursor) (h : cursor.atEnd = false) : Token
  /-- Every token stands at its cursor. -/
  admits (turn : Nat) (cursor : Cursor) (h : cursor.atEnd = false) :
    cursor.Admits (scan turn cursor h)

namespace Tokenizer

/-! ## Running a tokenizer -/

/-- The tokens from a cursor to the end, the first of them in the given turn. -/
def tokensFrom (tokenizer : Tokenizer) (turn : Nat) (cursor : Cursor) : List Token :=
  if h : cursor.atEnd = false then
    let token := tokenizer.scan turn cursor h
    token :: tokenizer.tokensFrom (turn + 1) (cursor.past token (tokenizer.admits turn cursor h))
  else []
termination_by cursor.rest.length
decreasing_by exact Cursor.length_rest_past_lt ..

/-- The tokens of a text, from its start to its end. -/
def tokens (tokenizer : Tokenizer) (input : String) : List Token :=
  tokenizer.tokensFrom 0 (Cursor.start input)

/-- Why no token can be read. -/
inductive ScanError where
  /-- All of the text is read. -/
  | noTokenLeft (position : Nat)
  deriving DecidableEq, Repr

/-- The text of a scan error. -/
def ScanError.message : ScanError → String
  | noTokenLeft position => s!"no token left at position {position}"

/-- The token at a cursor and the cursor behind it. -/
def next (tokenizer : Tokenizer) (turn : Nat) (cursor : Cursor) :
    Except ScanError (Token × Cursor) :=
  if h : cursor.atEnd = false then
    let token := tokenizer.scan turn cursor h
    .ok (token, cursor.past token (tokenizer.admits turn cursor h))
  else .error (.noTokenLeft cursor.position)

/-! ## Tokenizers of choice -/

/-- The tokenizer that takes the kind, the reach and, perhaps, the value of the next token from a
rule: the token takes the next character and as many more as the rule says. -/
def ofRule (rule : Nat → Cursor → Lexeme × Option String) : Tokenizer where
  scan turn cursor _ :=
    let (lexeme, value?) := rule turn cursor
    cursor.token lexeme.kind lexeme.more value?
  admits _ _ h := Cursor.admits_token (Cursor.rest_ne_nil h) ..

/-- The tokenizer for SQL scripts: tokens are the lexemes of the text. -/
def sql : Tokenizer :=
  ofRule fun _ cursor =>
    match cursor.rest with
    | [] => (⟨.unknown, 0⟩, none)
    | c :: cs => (Lexeme.scan c cs, none)

/-- The tokenizer that makes every character a token: a semicolon ends a statement, and all other
characters are unknown. -/
def characters : Tokenizer :=
  ofRule fun _ cursor =>
    (⟨if cursor.rest.head? = some ';' then .semicolon else .unknown, 0⟩, none)

/-- A token to come: its kind, the number of its characters and, perhaps, a value other than
them. -/
structure Cut where
  kind : TokenKind
  length : Nat
  value? : Option String
  deriving DecidableEq, Repr

/-- The tokenizer that gives the listed tokens in turn, and then one unknown token for every
further character.  A token takes at least one character, and at most those that are left. -/
def scripted (cuts : List Cut) : Tokenizer :=
  ofRule fun turn _ =>
    match cuts[turn]? with
    | some cut => (⟨cut.kind, cut.length - 1⟩, cut.value?)
    | none => (⟨.unknown, 0⟩, none)

end Tokenizer

/-- The tokens of an SQL script. -/
def tokenize (input : String) : List Token :=
  Tokenizer.sql.tokens input

end SqlSplit
