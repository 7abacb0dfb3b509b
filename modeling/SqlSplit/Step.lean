import SqlSplit.Keyword
import SqlSplit.Statement

/-!
# Steps of recognition

What kind of statement a run of tokens is, is settled by a short table of *steps*.  Each step
looks at one token: it may ask what kind of token came right before, which patterns the token has
to match, and it says what the token does to the statement.  A step also says whether it is left
behind before or after its token is looked at.
-/

namespace SqlSplit

/-! ## Patterns -/

/-- A kind of token, perhaps of a given value. -/
structure Pattern where
  kind : TokenKind
  /-- The value the token has to have, in any mix of cases. -/
  value? : Option String
  deriving DecidableEq, Repr

namespace Pattern

/-- The pattern of a keyword. -/
def keyword (word : Keyword) : Pattern :=
  ⟨.keyword, some word.spelling⟩

/-- Whether a token is of the pattern's kind and value. -/
def isMatch (pattern : Pattern) (token : Token) : Bool :=
  token.kind == pattern.kind &&
    match pattern.value? with
    | none => true
    | some value => Text.eqIgnoringCase value token.value

/-- The pattern as messages show it. -/
def describe (pattern : Pattern) : String :=
  match pattern.value? with
  | none => s!"(type=\"{pattern.kind.name}\")"
  | some value => s!"(type=\"{pattern.kind.name}\" value=\"{value}\")"

end Pattern

/-! ## Transitions -/

/-- What a statement does to an object. -/
inductive ObjectVerb where
  | create
  | drop
  deriving DecidableEq, Repr

/-- The type of the statement that creates or drops the object of the given name. -/
def ObjectVerb.typeOn (verb : ObjectVerb) (object : String) : StatementType :=
  match verb, Keyword.ofWord? object with
  | create, some .table => .createTable
  | create, some .database => .createDatabase
  | drop, some .table => .dropTable
  | drop, some .database => .dropDatabase
  | _, _ => .unknown

/-- What the token of a step does to the statement. -/
inductive Transition where
  /-- The statement starts at the token. -/
  | start
  /-- The statement starts at the token and is of the given type. -/
  | startAs (type : StatementType)
  /-- The token names the object that is created or dropped, which settles the type. -/
  | object (verb : ObjectVerb)
  deriving DecidableEq, Repr

/-- The statement after the transition on a token. -/
def Transition.apply (transition : Transition) (statement : Statement) (token : Token) :
    Statement :=
  match transition with
  | start => { statement with start := token.start }
  | startAs type => { statement with start := token.start, type? := some type }
  | object verb => { statement with type? := some (verb.typeOn token.value) }

/-! ## Steps -/

/-- One entry of a table of recognition. -/
structure Step where
  /-- The patterns of which the token has to match one; without them any token will do. -/
  accepted? : Option (List Pattern) := none
  /-- The kinds of which the token right before has to be one; without them any will do, or none
  at all. -/
  predecessors? : Option (List TokenKind) := none
  /-- What the token does to the statement. -/
  transition : Transition
  /-- Whether the token is passed to the next step instead. -/
  advancesBefore : Bool := false
  /-- Whether the next token goes to the next step. -/
  advancesAfter : Bool := true
  deriving DecidableEq, Repr

namespace Step

/-- The step that one of the given keywords takes. -/
def onKeyword (words : List Keyword) (transition : Transition) : Step :=
  { accepted? := some (words.map Pattern.keyword), transition }

/-- The step that any token takes. -/
def onAny (transition : Transition) : Step :=
  { transition }

/-- The step with a demand on the token right before. -/
def after (step : Step) (kinds : List TokenKind) : Step :=
  { step with predecessors? := some kinds }

/-- The patterns that are named when a token matches none of them. -/
def patterns (step : Step) : List Pattern :=
  step.accepted?.getD []

/-- Whether a token matches one of the patterns. -/
def accepts (step : Step) (token : Token) : Bool :=
  match step.accepted? with
  | none => true
  | some patterns => patterns.any fun pattern => pattern.isMatch token

/-- Whether the step may follow a token of the given kind, or stand first if there is none. -/
def mayFollow (step : Step) (previous? : Option TokenKind) : Bool :=
  match step.predecessors?, previous? with
  | none, _ => true
  | some _, none => false
  | some kinds, some previous => kinds.contains previous

end Step

end SqlSplit
