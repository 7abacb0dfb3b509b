import SqlSplit.Proofs.Scripts.FirstError
import SqlSplit.Proofs.Scripts.Loop
import SqlSplit.Proofs.Tokens.Shift

/-!
# Scanning in parts

A scanner that works through a text keeps nothing but its position.  `scanFrom?` is its loop, which
goes wrong if it comes to a position at which the text cannot be cut, asks for a token where none
is left, or does not come to an end; `scanFrom?_eq` states that it does none of these.

Since a position is all that is kept, scanning can be stopped behind any token and resumed on what
is left of the text, as if this were a text of its own.  `tokenize_resumes` states that the tokens
are the same, moved by the length of what was left out, and that a token is found again in its
value alone.
-/

namespace SqlSplit

/-! ## The loop of a scanner -/

namespace Tokenizer

/-- Scans on from a position, with a budget of scans.  There is no answer if the text cannot be cut
at a position, if no token is left there, or if the budget is used up before the end of the
text. -/
def scanFrom? (tokenizer : Tokenizer) (input : String) (turn position : Nat) :
    (budget : Nat) → Option (List Token)
  | 0 => if position < input.utf8ByteSize then none else some []
  | budget + 1 =>
    if position < input.utf8ByteSize then
      match Parser.cursorAt? { input, tokenizer } position with
      | none => none
      | some cursor =>
        match tokenizer.next turn cursor with
        | .error _ => none
        | .ok (token, _) =>
          (scanFrom? tokenizer input (turn + 1) token.stop budget).map (token :: ·)
    else some []

lemma scanFrom?_eq_tokensFrom (tokenizer : Tokenizer) {turn budget : Nat} {cursor : Cursor}
    (hbudget : (tokenizer.tokensFrom turn cursor).length ≤ budget) :
    tokenizer.scanFrom? cursor.input turn cursor.position budget =
      some (tokenizer.tokensFrom turn cursor) := by
  fun_induction Tokenizer.tokensFrom tokenizer turn cursor generalizing budget with
  | case1 turn cursor h token =>
    rename_i ih
    have hlt := Cursor.atEnd_eq_false_iff.1 h
    have hnext : tokenizer.next turn cursor = .ok (token, cursor.past token _) := dif_pos h
    cases budget with
    | zero => simp at hbudget
    | succ budget =>
      rw [scanFrom?, if_pos hlt, Parser.cursorAt?_position rfl]
      have hrest := ih (Nat.le_of_succ_le_succ hbudget)
      simp only [hnext]
      exact congrArg (Option.map (token :: ·)) hrest
  | case2 turn cursor h =>
    have hge : ¬ cursor.position < cursor.input.utf8ByteSize := by
      rw [← Cursor.atEnd_eq_false_iff]
      exact h
    cases budget <;> rw [scanFrom?, if_neg hge]

/-- With one scan for each byte of the text, the loop finds the tokens of the text. -/
theorem scanFrom?_eq (tokenizer : Tokenizer) (input : String) :
    tokenizer.scanFrom? input 0 0 input.utf8ByteSize = some (tokenizer.tokens input) := by
  have hlength := (covers_tokens tokenizer input).length_le
  rw [Text.byteLength_toList] at hlength
  exact tokenizer.scanFrom?_eq_tokensFrom hlength

end Tokenizer

/-! ## The values of tokens -/

lemma pieces_text_of_mem {cs : List Char} {p : Piece} (h : p ∈ pieces cs) :
    pieces p.text = [p] := by
  obtain ⟨before, after, hsplit⟩ := List.append_of_mem h
  obtain ⟨-, hbehind⟩ := pieces_of_append hsplit
  have hfirst : pieces (Piece.chars (p :: after)) = [p] ++ after := hbehind
  obtain ⟨hown, -⟩ := pieces_of_append hfirst
  simpa using hown

lemma exists_tokenize_value {input : String} {token : Token} (h : token ∈ tokenize input) :
    ∃ alone, tokenize token.value = [alone] ∧ alone.shift token.start = token := by
  have hmem := piece_mem_pieces h
  have hown : pieces token.value.toList = [token.piece] := pieces_text_of_mem hmem
  refine ⟨token.piece.token 0, ?_, ?_⟩
  · rw [tokenize_eq_place, hown]
    rfl
  · rw [← Piece.token_add (ne_nil_of_mem_pieces hmem), Nat.zero_add, token_piece_of_mem h]

/-! ## Cutting and resuming -/

/-- Scanning an SQL script token by token comes to its end without going wrong, and the values of
the tokens make up the script.  Where one token ends and the next one starts the script can be cut
in two: its tokens are those of the first part, followed by those of the second, moved by the
length of the first.  The value of each token, scanned alone, gives this token and no other. -/
theorem tokenize_resumes (input : String) :
    Tokenizer.sql.scanFrom? input 0 0 input.utf8ByteSize = some (tokenize input) ∧
    String.join ((tokenize input).map Token.value) = input ∧
    (∀ stop, IsTokenBoundary (tokenize input) stop → ∃ before behind,
      Text.slice? input.toList 0 stop = some before ∧
      Text.slice? input.toList stop input.utf8ByteSize = some behind ∧
      tokenize input = tokenize before ++ (tokenize behind).map (Token.shift stop)) ∧
    ∀ token ∈ tokenize input, ∃ alone,
      tokenize token.value = [alone] ∧ alone.shift token.start = token := by
  refine ⟨Tokenizer.scanFrom?_eq .sql input, join_map_value_tokenize input, ?_, ?_⟩
  · intro stop hstop
    obtain ⟨a, b, rfl, rfl, htokens⟩ := exists_parts_of_isTokenBoundary hstop
    refine ⟨a, b, Text.slice?_left a b, Text.slice?_right a b, ?_⟩
    rw [htokens, place_pieces, String.ofList_toList]
  · intro token hmem
    exact exists_tokenize_value hmem

/-- A script that is cut before a literal with a doubled quote in it, and the literal alone. -/
theorem tokenize_resumes_at_literal :
    IsTokenBoundary (tokenize "DROP 'é'';';/*") 5 ∧
      tokenize "DROP 'é'';';/*" = tokenize "DROP " ++ (tokenize "'é'';';/*").map (.shift 5) ∧
      ⟨.string, "'é'';'", 5, 11⟩ ∈ tokenize "DROP 'é'';';/*" ∧
      ∃ alone, tokenize "'é'';'" = [alone] ∧ alone.shift 5 = ⟨.string, "'é'';'", 5, 11⟩ := by
  have hboundary : IsTokenBoundary (tokenize "DROP 'é'';';/*") 5 :=
    .inr ⟨⟨.whitespace, " ", 4, 4⟩, by decide +kernel, rfl⟩
  have hmem : ⟨.string, "'é'';'", 5, 11⟩ ∈ tokenize "DROP 'é'';';/*" := by decide +kernel
  obtain ⟨-, -, hcut, halone⟩ := tokenize_resumes "DROP 'é'';';/*"
  obtain ⟨before, behind, hbefore, hbehind, htokens⟩ := hcut 5 hboundary
  have hfirst : Text.slice? "DROP 'é'';';/*".toList 0 5 = some "DROP " := by decide +kernel
  have hsecond : Text.slice? "DROP 'é'';';/*".toList 5 "DROP 'é'';';/*".utf8ByteSize =
      some "'é'';';/*" := by
    decide +kernel
  obtain rfl := Option.some.inj (hbefore.symm.trans hfirst)
  obtain rfl := Option.some.inj (hbehind.symm.trans hsecond)
  exact ⟨hboundary, htokens, hmem, halone _ hmem⟩

end SqlSplit
