import SqlSplit.Text.Case

/-!
# Keywords

The words that open a statement or say what it creates or drops.  A word is a keyword in any mix
of capital and small letters.
-/

namespace SqlSplit

/-- The words that open or classify statements. -/
inductive Keyword where
  | select
  | insert
  | update
  | delete
  | create
  | drop
  | truncate
  | table
  | database
  deriving DecidableEq, Repr, Inhabited

namespace Keyword

/-- The keywords, each once. -/
def all : List Keyword :=
  [select, insert, update, delete, create, drop, truncate, table, database]

/-- A keyword in capital letters. -/
def spelling : Keyword → String
  | select => "SELECT"
  | insert => "INSERT"
  | update => "UPDATE"
  | delete => "DELETE"
  | create => "CREATE"
  | drop => "DROP"
  | truncate => "TRUNCATE"
  | table => "TABLE"
  | database => "DATABASE"

/-- The keyword that a word spells, in any mix of cases. -/
def ofWord? (word : String) : Option Keyword :=
  all.find? fun keyword => Text.eqIgnoringCase keyword.spelling word

theorem mem_all (keyword : Keyword) : keyword ∈ all := by
  cases keyword <;> decide

/-- Different keywords are spelled differently, whatever the case. -/
theorem eq_of_lowercase_spelling_eq {a b : Keyword}
    (h : Text.lowercase a.spelling = Text.lowercase b.spelling) : a = b := by
  revert h
  cases a <;> cases b <;> decide

/-- A word spells a keyword exactly when the two differ at most in case. -/
theorem ofWord?_eq_some_iff {word : String} {keyword : Keyword} :
    ofWord? word = some keyword ↔ Text.eqIgnoringCase keyword.spelling word = true := by
  have hfound : ∀ {other : Keyword}, ofWord? word = some other →
      Text.eqIgnoringCase other.spelling word = true := by
    intro other h
    rw [ofWord?] at h
    have := List.find?_some h
    exact this
  constructor
  · intro h
    exact hfound h
  · intro h
    cases hword : ofWord? word with
    | none =>
      rw [ofWord?, List.find?_eq_none] at hword
      exact absurd h (hword keyword (mem_all keyword))
    | some other =>
      have hother := hfound hword
      rw [Text.eqIgnoringCase, beq_iff_eq] at h hother
      rw [eq_of_lowercase_spelling_eq (hother.trans h.symm)]

end Keyword

end SqlSplit
