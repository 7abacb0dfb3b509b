import Mathlib.Tactic.Lemma
import SqlSplit.Parser
import SqlSplit.Proofs.Tokens.Tiling

/-!
# Reading in one loop

A text is read by finding all of its tokens first and splitting them afterwards.  A reader that
works through a text in one loop does both at once: it keeps a position, scans the token there,
hands it to the splitter, and stops at the first error.  Such a loop can go wrong in two ways.  It
may come to a position at which the text cannot be cut, and it may not come to an end.

`readFrom?` is that loop with a budget of scans, and answers `none` where it goes wrong.
`readFrom?_eq` states that it does not: with one scan for each byte of the text it always comes to
an end, and reads what `Parser.parse` reads.
-/

namespace SqlSplit

open Text (byteLength)

namespace Cursor

lemma utf8ByteSize_input (cursor : Cursor) :
    cursor.input.utf8ByteSize = cursor.position + byteLength cursor.rest := by
  obtain ⟨taken, htext, htaken⟩ := Text.dropBytes?_eq_some_iff.1 cursor.rest_eq
  rw [← Text.byteLength_toList, htext, Text.byteLength_append, htaken]

lemma atEnd_eq_false_iff {cursor : Cursor} :
    cursor.atEnd = false ↔ cursor.position < cursor.input.utf8ByteSize := by
  have hsize := cursor.utf8ByteSize_input
  constructor
  · intro h
    have := Text.byteLength_pos (rest_ne_nil h)
    omega
  · intro h
    have hne : cursor.rest ≠ [] := by
      intro hnil
      rw [hnil, Text.byteLength_nil] at hsize
      omega
    exact List.isEmpty_eq_false_iff.2 hne

end Cursor

namespace Parser

/-- The cursor at a position, if the text can be cut there. -/
def cursorAt? (parser : Parser) (position : Nat) : Option Cursor :=
  match h : Text.dropBytes? position parser.input.toList with
  | some rest => some ⟨parser.input, position, rest, h⟩
  | none => none

/-- Reads on from a position and scans each token when its turn comes, with a budget of scans.
There is no answer if the text cannot be cut at a position, or if the budget is used up before the
end of the text and before the first error. -/
def readFrom? (parser : Parser) (turn position : Nat) (s : Splitter) :
    (budget : Nat) → Option (Except ParseError Script)
  | 0 => if position < parser.input.utf8ByteSize then none else some (.ok s.finish)
  | budget + 1 =>
    if position < parser.input.utf8ByteSize then
      match parser.cursorAt? position with
      | none => none
      | some cursor =>
        if h : cursor.atEnd = false then
          let token := parser.tokenizer.scan turn cursor h
          match s.step token with
          | .error error => some (.error error)
          | .ok s => readFrom? parser (turn + 1) token.stop s budget
        else none
    else some (.ok s.finish)

lemma cursorAt?_position {parser : Parser} {cursor : Cursor} (h : cursor.input = parser.input) :
    parser.cursorAt? cursor.position = some cursor := by
  obtain ⟨input, position, rest, hrest⟩ := cursor
  simp only at h
  subst h
  unfold cursorAt?
  split
  · next rest' hrest' =>
    rw [hrest] at hrest'
    cases hrest'
    rfl
  · next hnone =>
    rw [hrest] at hnone
    cases hnone

/-- From any cursor the loop does what splitting the tokens from there on does. -/
lemma readFrom?_eq_foldlM (parser : Parser) {turn budget : Nat} {cursor : Cursor}
    (hinput : cursor.input = parser.input) (s : Splitter)
    (hbudget : (parser.tokenizer.tokensFrom turn cursor).length ≤ budget) :
    parser.readFrom? turn cursor.position s budget =
      some (((parser.tokenizer.tokensFrom turn cursor).foldlM Splitter.step s).map
        Splitter.finish) := by
  fun_induction Tokenizer.tokensFrom parser.tokenizer turn cursor generalizing budget s with
  | case1 turn cursor h token =>
    rename_i ih
    have hlt : cursor.position < parser.input.utf8ByteSize := by
      rw [← hinput]
      exact Cursor.atEnd_eq_false_iff.1 h
    cases budget with
    | zero => simp at hbudget
    | succ budget =>
      rw [readFrom?, if_pos hlt, cursorAt?_position hinput]
      simp only [dif_pos h, List.foldlM_cons]
      cases hstep : s.step token with
      | error error => rfl
      | ok s' => exact ih hinput s' (Nat.le_of_succ_le_succ hbudget)
  | case2 turn cursor h =>
    have hge : ¬ cursor.position < parser.input.utf8ByteSize := by
      rw [← hinput, ← Cursor.atEnd_eq_false_iff]
      exact h
    cases budget <;> rw [readFrom?, if_neg hge] <;> rfl

/-- With one scan for each byte of the text, the loop reads what the text reads as. -/
theorem readFrom?_eq (parser : Parser) :
    parser.readFrom? 0 0 (.start parser.mode parser.input.utf8ByteSize) parser.input.utf8ByteSize =
      some parser.parse := by
  have hlength := (covers_tokens parser.tokenizer parser.input).length_le
  rw [Text.byteLength_toList] at hlength
  have hinput : (Cursor.start parser.input).input = parser.input := rfl
  exact parser.readFrom?_eq_foldlM hinput _ hlength

end Parser

end SqlSplit
