/-!
# Tokens

A token is a piece of a script with its lexical kind and its place.  Offsets count bytes, and both
ends are inclusive: a token of one byte has `start = last`.
-/

namespace SqlSplit

/-- The lexical kinds of tokens. -/
inductive TokenKind where
  /-- A word that opens or classifies statements. -/
  | keyword
  /-- A run of white space. -/
  | whitespace
  /-- A comment from two dashes to the end of the line. -/
  | inlineComment
  /-- A comment between slash-star and star-slash. -/
  | blockComment
  /-- Quoted text, the quotes included. -/
  | string
  /-- The semicolon that ends a statement. -/
  | semicolon
  /-- Any other word or character. -/
  | unknown
  deriving DecidableEq, Repr, Inhabited

namespace TokenKind

/-- The kinds of tokens, each once. -/
def all : List TokenKind :=
  [keyword, whitespace, inlineComment, blockComment, string, semicolon, unknown]

/-- The name a kind goes by in messages and in JSON. -/
def name : TokenKind → String
  | keyword => "keyword"
  | whitespace => "whitespace"
  | inlineComment => "comment-inline"
  | blockComment => "comment-block"
  | string => "string"
  | semicolon => "semicolon"
  | unknown => "unknown"

/-- The kind of the given name, letter for letter. -/
def ofName? (name : String) : Option TokenKind :=
  all.find? fun kind => kind.name == name

/-- White space and comments: what may stand between statements. -/
def isBlank : TokenKind → Bool
  | whitespace | inlineComment | blockComment => true
  | keyword | string | semicolon | unknown => false

@[simp] theorem ofName?_name (kind : TokenKind) : ofName? kind.name = some kind := by
  cases kind <;> decide

end TokenKind

/-- A piece of a script with its kind and its place. -/
structure Token where
  /-- The lexical kind. -/
  kind : TokenKind
  /-- The text of the token. -/
  value : String
  /-- The offset of the first byte. -/
  start : Nat
  /-- The offset of the last byte. -/
  last : Nat
  deriving DecidableEq, Repr, Inhabited

namespace Token

/-- Whether the token is white space or a comment. -/
def isBlank (token : Token) : Bool :=
  token.kind.isBlank

/-- The offset of the first byte after the token. -/
def stop (token : Token) : Nat :=
  token.last + 1

/-- The token as messages show it. -/
def describe (token : Token) : String :=
  s!"type=\"{token.kind.name}\" value=\"{token.value}\""

end Token

end SqlSplit
