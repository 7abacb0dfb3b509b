import SqlSplit.Recognizer

/-!
# Openers

The first token of a statement says by which steps the statement is recognized.  Seven keywords
open a statement of their own; in lenient mode any unknown word opens a statement of unknown type.
-/

namespace SqlSplit

/-- What a statement opens with. -/
inductive Opener where
  | select
  | insert
  | update
  | delete
  | create
  | drop
  | truncate
  /-- Any unknown word. -/
  | unknown
  deriving DecidableEq, Repr, Inhabited

namespace Opener

/-- What opens with the given keyword. -/
def ofKeyword? : Keyword → Option Opener
  | .select => some select
  | .insert => some insert
  | .update => some update
  | .delete => some delete
  | .create => some create
  | .drop => some drop
  | .truncate => some truncate
  | .table => none
  | .database => none

/-- What opens with the given token, if the mode allows it. -/
def ofToken? (mode : Mode) (token : Token) : Option Opener :=
  match token.kind, mode with
  | .keyword, _ => (Keyword.ofWord? token.value).bind ofKeyword?
  | .unknown, .lenient => some unknown
  | _, _ => none

/-- What opens with the given token, or the error that nothing does. -/
def dispatch (mode : Mode) (token : Token) : Except ParseError Opener :=
  match ofToken? mode token with
  | some opener => .ok opener
  | none => .error (.unrecognizedLeadingToken token.value token.start)

/-! ## Tables of steps -/

/-- The steps of a statement whose type is settled by its first word. -/
def oneWord (word : Keyword) (type : StatementType) : List Step :=
  [.onKeyword [word] (.startAs type)]

/-- The steps of a statement whose type is settled by the object behind its first word. -/
def wordAndObject (word : Keyword) (verb : ObjectVerb) : List Step :=
  [.onKeyword [word] .start,
    (Step.onKeyword [.table, .database] (.object verb)).after [.whitespace]]

/-- The steps by which a statement is recognized. -/
def steps : Opener → List Step
  | select => oneWord .select .select
  | insert => oneWord .insert .insert
  | update => oneWord .update .update
  | delete => oneWord .delete .delete
  | create => wordAndObject .create .create
  | drop => wordAndObject .drop .drop
  | truncate => oneWord .truncate .truncate
  | unknown => [.onAny (.startAs .unknown)]

/-- The recognizer of a statement that opens in this way. -/
def recognizer (opener : Opener) (mode : Mode) : Recognizer :=
  { mode, steps := opener.steps }

end Opener

end SqlSplit
