import SqlSplit.Keyword
import SqlSplit.Token
import SqlSplit.Unicode.Alphanumeric
import SqlSplit.Unicode.WhiteSpace

/-!
# Lexemes

The head of a nonempty text is always a lexeme of one of the token kinds: nothing is a lexical
error.  Quoted text and comments are single lexemes, so what they contain, semicolons included,
is never looked at again.  An unclosed comment or quotation reaches to the end of the text.

A lexeme is described by its kind and by the number of its characters after the first, so it is
never empty, and what follows it is a shorter text.
-/

namespace SqlSplit

/-- The kind of the lexeme at the head of a text, and the number of its characters after the
first. -/
structure Lexeme where
  /-- The lexical kind. -/
  kind : TokenKind
  /-- The number of characters after the first. -/
  more : Nat
  deriving DecidableEq, Repr

namespace Lexeme

/-! ## Classes of characters -/

/-- The characters that words, names and numbers are made of. -/
def isWordCharacter (c : Char) : Bool :=
  Unicode.isAlphanumeric c || c == '_' || c == '$'

/-- The characters that open and close quoted text. -/
def isQuote (c : Char) : Bool :=
  c == '\x27' || c == '\x22' || c == '\x60'

/-! ## Extents -/

/-- The number of characters up to and including the closing quote, on a text that starts inside
the quotation.  A quote that is written twice stands for itself and closes nothing. -/
def toClosingQuote (quote : Char) : List Char → Nat
  | [] => 0
  | c :: cs =>
    if c = quote then
      match cs with
      | [] => 1
      | d :: ds => if d = quote then 2 + toClosingQuote quote ds else 1
    else 1 + toClosingQuote quote cs

/-- The number of characters up to and including the first star-slash, or of all characters if
there is none. -/
def toCommentEnd : List Char → Nat
  | [] => 0
  | c :: cs => if c = '*' ∧ cs.head? = some '/' then 2 else 1 + toCommentEnd cs

/-- The number of characters before the end of the line. -/
def toLineEnd (cs : List Char) : Nat :=
  (cs.takeWhile (· != '\n')).length

/-- A word is a keyword if it spells one. -/
def wordKind (word : String) : TokenKind :=
  match Keyword.ofWord? word with
  | some _ => .keyword
  | none => .unknown

/-- The lexeme at the head of the text `c :: cs`. -/
def scan (c : Char) (cs : List Char) : Lexeme :=
  if c = ';' then ⟨.semicolon, 0⟩
  else if c = '-' ∧ cs.head? = some '-' then ⟨.inlineComment, toLineEnd cs⟩
  else if c = '/' ∧ cs.head? = some '*' then ⟨.blockComment, 1 + toCommentEnd cs.tail⟩
  else if isQuote c then ⟨.string, toClosingQuote c cs⟩
  else if isWordCharacter c then
    let word := cs.takeWhile isWordCharacter
    ⟨wordKind (String.ofList (c :: word)), word.length⟩
  else if Unicode.isWhiteSpace c then
    ⟨.whitespace, (cs.takeWhile Unicode.isWhiteSpace).length⟩
  else ⟨.unknown, 0⟩

/-! ## A lexeme stays within its text -/

theorem toClosingQuote_le (quote : Char) (cs : List Char) :
    toClosingQuote quote cs ≤ cs.length := by
  fun_induction toClosingQuote quote cs <;> simp only [List.length_cons, List.length_nil] at * <;>
    omega

theorem toCommentEnd_le (cs : List Char) : toCommentEnd cs ≤ cs.length := by
  induction cs with
  | nil => exact Nat.le_refl _
  | cons c cs ih =>
    rw [toCommentEnd]
    split
    · next h =>
      cases cs with
      | nil => simp at h
      | cons d ds => simp
    · simp only [List.length_cons]
      omega

theorem length_takeWhile_le (p : Char → Bool) (cs : List Char) :
    (cs.takeWhile p).length ≤ cs.length :=
  (List.takeWhile_prefix p).length_le

/-- A lexeme ends at the latest where its text ends. -/
theorem more_scan_le (c : Char) (cs : List Char) : (scan c cs).more ≤ cs.length := by
  unfold scan
  split
  · exact Nat.zero_le _
  split
  · exact length_takeWhile_le _ cs
  split
  · next h =>
    cases cs with
    | nil => simp at h
    | cons d ds =>
      have := toCommentEnd_le ds
      simp only [List.tail_cons, List.length_cons]
      omega
  split
  · exact toClosingQuote_le c cs
  split
  · exact length_takeWhile_le _ cs
  split
  · exact length_takeWhile_le _ cs
  · exact Nat.zero_le _

end Lexeme

end SqlSplit
