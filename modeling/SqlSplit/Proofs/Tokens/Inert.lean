import SqlSplit.Proofs.Tokens.Enclosures
import SqlSplit.Proofs.Tokens.Shift

/-!
# Inert text

Text is inert if the pass over the regions of a script finds no semicolon in it and is in code
behind it, provided that it was so before.  Plain characters are inert, and so are quotations and
comments whatever they contain (`isInert_around`).  Inert texts that are put one behind the other
are inert together, although a token can reach from one into the next.

So of text that is made up from such parts it is known that it ends no statement, with no look at
its tokens.  `IsInert.tokenize_append_semicolon` states what this is good for: the semicolon behind
inert text is a token.
-/

namespace SqlSplit

open Text (byteLength)

/-- The pass over the text stays in code, and meets no semicolon there. -/
def IsInert (cs : List Char) : Prop :=
  ∀ n rest, semicolonsFrom .code n (cs ++ rest) = semicolonsFrom .code (n + byteLength cs) rest

/-! ## Inert texts -/

variable {c q : Char} {cs ds content rest : List Char} {n : Nat}

@[simp] lemma isInert_nil : IsInert [] := fun _ _ => rfl

lemma IsInert.append (hcs : IsInert cs) (hds : IsInert ds) : IsInert (cs ++ ds) := by
  intro n rest
  rw [List.append_assoc, hcs, hds, Text.byteLength_append, Nat.add_assoc]

lemma isInert_singleton (h : Lexeme.IsPlain c) : IsInert [c] :=
  fun _ _ => semicolonsFrom_code_of_isPlain h

lemma isInert_of_isPlain (h : ∀ c ∈ cs, Lexeme.IsPlain c) : IsInert cs := by
  induction cs with
  | nil => exact isInert_nil
  | cons c cs ih =>
    obtain ⟨hc, hcs⟩ := List.forall_mem_cons.1 h
    exact (isInert_singleton hc).append (ih hcs)

lemma isInert_of_all {text : String}
    (h : text.toList.all (fun c => !Lexeme.specialCharacters.contains c) = true) :
    IsInert text.toList := by
  refine isInert_of_isPlain fun c hc => Lexeme.isPlain_of_notMem ?_
  simpa using List.all_eq_true.1 h c hc

lemma isInert_space : IsInert " ".toList :=
  isInert_of_all (by decide)

/-! ## Enclosed text is inert -/

/-- Every doubled quote takes the pass out of the quotation and into it again. -/
lemma semicolonsFrom_quote_doubled (hq : Lexeme.isQuote q = true) (n : Nat)
    (content rest : List Char) :
    semicolonsFrom (.quote q) n (doubled q content ++ rest) =
      semicolonsFrom (.quote q) (n + byteLength (doubled q content)) rest := by
  induction content generalizing n with
  | nil => rfl
  | cons c content ih =>
    by_cases hc : c = q
    · subst hc
      rw [doubled_cons_self, List.cons_append, List.cons_append, semicolonsFrom, if_pos rfl,
        semicolonsFrom_code_quote hq, ih, Text.byteLength_cons, Text.byteLength_cons]
      simp only [Nat.add_assoc]
    · rw [doubled_cons_of_ne hc, List.cons_append, semicolonsFrom, if_neg hc, ih,
        Text.byteLength_cons, Nat.add_assoc]

/-- What leads back into code behind enclosed text. -/
def Enclosure.ending : Enclosure → List Char
  | quotes _ _ => []
  | block => []
  | line => ['\n']

/-- Enclosed text is inert, whatever the content. -/
theorem isInert_around {e : Enclosure} (h : e.Allows content) :
    IsInert (e.around content ++ e.ending) := by
  intro n rest
  cases e with
  | quotes q hq =>
    have htext : (Enclosure.quotes q hq).around content ++ Enclosure.ending (.quotes q hq) ++ rest =
        q :: (doubled q content ++ q :: rest) := by
      simp [Enclosure.around, Enclosure.ending]
    rw [htext, semicolonsFrom_code_quote hq, semicolonsFrom_quote_doubled hq, semicolonsFrom,
      if_pos rfl]
    simp [Enclosure.around, Enclosure.ending, Nat.add_assoc]
  | block =>
    have htext : Enclosure.block.around content ++ Enclosure.ending .block ++ rest =
        '/' :: '*' :: (content ++ '*' :: '/' :: rest) := by
      simp [Enclosure.around, Enclosure.ending]
    have hopens : semicolonsFrom .code n ('/' :: '*' :: (content ++ '*' :: '/' :: rest)) =
        semicolonsFrom .block (n + byteLength ['/', '*']) (content ++ '*' :: '/' :: rest) := rfl
    have hlength : content.length + 2 = (content ++ ['*', '/']).length := by simp
    have hmark : content ++ '*' :: '/' :: rest = (content ++ ['*', '/']) ++ rest := by simp
    rw [htext, hopens, semicolonsFrom_block, toCommentEnd_append_mark h, hlength, hmark,
      semicolonsBehind, List.take_left, List.drop_left]
    simp [Enclosure.around, Enclosure.ending, Nat.add_assoc]
  | line =>
    have htext : Enclosure.line.around content ++ Enclosure.ending .line ++ rest =
        '-' :: '-' :: (content ++ '\n' :: rest) := by
      simp [Enclosure.around, Enclosure.ending]
    have hopens : semicolonsFrom .code n ('-' :: '-' :: (content ++ '\n' :: rest)) =
        semicolonsFrom .line (n + byteLength ['-', '-']) (content ++ '\n' :: rest) := rfl
    have hend : Lexeme.toLineEnd (content ++ '\n' :: rest) = content.length :=
      toLineEnd_append h fun c hc => (Option.some.inj hc).symm
    have hplain : Lexeme.IsPlain '\n' := Lexeme.isPlain_of_isWhiteSpace (by decide)
    rw [htext, hopens, semicolonsFrom_line, hend, semicolonsBehind, List.take_left,
      List.drop_left, semicolonsFrom_code_of_isPlain hplain]
    simp [Enclosure.around, Enclosure.ending, Nat.add_assoc]

lemma isInert_of_eq_around {text : String} (e : Enclosure) (content : String)
    (hcontent : e.Allows content.toList)
    (htext : text.toList = e.around content.toList ++ e.ending) : IsInert text.toList := by
  rw [htext]
  exact isInert_around hcontent

/-! ## The tokens of inert text -/

namespace IsInert

lemma semicolonTokens_eq {text : String} (h : IsInert text.toList) :
    semicolonTokens (tokenize text) = [] := by
  have hpass := h 0 []
  rw [List.append_nil] at hpass
  rw [semicolonTokens_tokenize, hpass, semicolonsFrom, List.map_nil]

/-- The token of a semicolon behind inert text. -/
theorem tokenize_append_semicolon {text : String} (h : IsInert text.toList) :
    tokenize (text ++ ";") = tokenize text ++ [Token.semicolonAt text.utf8ByteSize] := by
  have hoffsets : semicolonsFrom .code 0 (text.toList ++ [';']) = [text.utf8ByteSize] := by
    rw [h, Nat.zero_add, Text.byteLength_toList]
    rfl
  have hmem : Token.semicolonAt text.utf8ByteSize ∈
      tokenize (String.ofList (text.toList ++ ([';'] ++ []))) := by
    refine List.mem_of_mem_filter (p := fun token => token.kind = .semicolon) ?_
    have htokens := semicolonTokens_tokenize (String.ofList (text.toList ++ [';']))
    rw [String.toList_ofList, hoffsets, semicolonTokens] at htokens
    rw [List.append_nil, htokens]
    exact List.mem_singleton_self _
  -- The pass finds the semicolon in code, so it is a token, and divides the text.
  obtain ⟨hpieces, -⟩ := pieces_around hmem (Text.byteLength_toList text).symm rfl
  have hsemicolon : tokenize ";" = [Token.semicolonAt 0] := by
    have hsingle : pieces ";".toList = Piece.semicolon :: pieces [] := pieces_semicolon_cons []
    rw [tokenize_eq_place, hsingle, pieces]
    rfl
  have hmoved : (Token.semicolonAt 0).shift text.utf8ByteSize =
      Token.semicolonAt text.utf8ByteSize := by
    simp [Token.shift, Token.semicolonAt]
  rw [tokenize_append_of_pieces hpieces, hsemicolon, List.map_singleton, hmoved]

end IsInert

end SqlSplit
