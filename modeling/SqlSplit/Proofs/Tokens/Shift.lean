import SqlSplit.Proofs.Tokens.Regions
import SqlSplit.Proofs.Tokens.Tiling

/-!
# Moving tokens

Where a text stands within a longer one shows in the offsets of its tokens and in nothing else.
`Token.shift` moves a token by a number of bytes, and `place_add` says that pieces which are placed
further behind give moved tokens.

The main statement is `tokenize_append`.  Behind a semicolon token reading starts afresh: whatever
text is put there, its tokens are those that it has alone, moved by the length of what stands
before it.
-/

namespace SqlSplit

open Text (byteLength)

/-! ## Moved tokens -/

/-- The token, moved by a number of bytes. -/
def Token.shift (n : Nat) (token : Token) : Token :=
  { token with start := token.start + n, last := token.last + n }

@[simp] lemma Token.piece_shift (n : Nat) (token : Token) : (token.shift n).piece = token.piece :=
  rfl

lemma Tiles.shift {start stop : Nat} {tokens : List Token} (h : Tiles start tokens stop) (n : Nat) :
    Tiles (start + n) (tokens.map (Token.shift n)) (stop + n) := by
  induction tokens generalizing start with
  | nil => exact congrArg (· + n) h
  | cons token tokens ih =>
    obtain ⟨hstart, hlast, htokens⟩ := h
    have hstop : (token.shift n).stop = token.stop + n := Nat.add_right_comm ..
    refine ⟨congrArg (· + n) hstart, Nat.add_le_add_right hlast n, ?_⟩
    rw [hstop]
    exact ih htokens

lemma Piece.token_add {p : Piece} (h : p.text ≠ []) (m n : Nat) :
    p.token (m + n) = (p.token m).shift n := by
  have hpos := Text.byteLength_pos h
  have hlast : m + n + byteLength p.text - 1 = m + byteLength p.text - 1 + n := by omega
  simp only [token, Token.shift, hlast]

/-- Pieces that are placed further behind give moved tokens. -/
lemma place_add {ps : List Piece} (h : ∀ p ∈ ps, p.text ≠ []) (m n : Nat) :
    place (m + n) ps = (place m ps).map (Token.shift n) := by
  induction ps generalizing m with
  | nil => rfl
  | cons p ps ih =>
    obtain ⟨hp, hps⟩ := List.forall_mem_cons.1 h
    have hrest : m + n + byteLength p.text = m + byteLength p.text + n := by omega
    rw [place, place, List.map_cons, Piece.token_add hp, hrest, ih hps]

lemma place_pieces (n : Nat) (cs : List Char) :
    place n (pieces cs) = (tokenize (String.ofList cs)).map (Token.shift n) := by
  have hne : ∀ p ∈ pieces cs, p.text ≠ [] := fun p => ne_nil_of_mem_pieces
  have hplace := place_add hne 0 n
  rw [tokenize_eq_place, String.toList_ofList, ← hplace, Nat.zero_add]

lemma place_append (offset : Nat) (ps qs : List Piece) :
    place offset (ps ++ qs) =
      place offset ps ++ place (offset + byteLength (Piece.chars ps)) qs := by
  induction ps generalizing offset with
  | nil => rfl
  | cons p ps ih =>
    rw [List.cons_append, place, place, ih, Piece.chars_cons, Text.byteLength_append,
      ← Nat.add_assoc, List.cons_append]

/-- Where no token reaches from one text into the other, both have the tokens that each has
alone. -/
lemma tokenize_append_of_pieces {a b : String}
    (h : pieces (a.toList ++ b.toList) = pieces a.toList ++ pieces b.toList) :
    tokenize (a ++ b) = tokenize a ++ (tokenize b).map (Token.shift a.utf8ByteSize) := by
  have hsecond := place_pieces a.utf8ByteSize b.toList
  rw [String.ofList_toList] at hsecond
  rw [tokenize_eq_place, String.toList_append, h, place_append, chars_pieces, Nat.zero_add,
    Text.byteLength_toList, hsecond, ← tokenize_eq_place]

/-! ## Behind a semicolon -/

/-- The last of the tokens is a semicolon. -/
def EndsInSemicolon (tokens : List Token) : Prop :=
  tokens.getLast?.map Token.kind = some .semicolon

instance (tokens : List Token) : Decidable (EndsInSemicolon tokens) :=
  inferInstanceAs (Decidable (_ = _))

lemma EndsInSemicolon.exists_concat {tokens : List Token} (h : EndsInSemicolon tokens) :
    ∃ before semicolon, tokens = before ++ [semicolon] ∧ semicolon.kind = .semicolon := by
  obtain ⟨semicolon, hlast, hkind⟩ := Option.map_eq_some_iff.1 h
  obtain ⟨before, rfl⟩ := List.getLast?_eq_some_iff.1 hlast
  exact ⟨before, semicolon, rfl, hkind⟩

lemma endsInSemicolon_map_shift {n : Nat} {tokens : List Token} :
    EndsInSemicolon (tokens.map (Token.shift n)) ↔ EndsInSemicolon tokens := by
  rw [EndsInSemicolon, EndsInSemicolon, List.getLast?_map, Option.map_map]
  rfl

/-- The piece that a semicolon is. -/
def Piece.semicolon : Piece :=
  ⟨.semicolon, [';']⟩

lemma eq_semicolon_of_mem_pieces {cs : List Char} {p : Piece} (h : p ∈ pieces cs)
    (hkind : p.kind = .semicolon) : p = Piece.semicolon := by
  obtain ⟨c, ds, rfl⟩ := exists_of_mem_pieces h
  have hscan : (Lexeme.scan c ds).kind = .semicolon := hkind
  obtain ⟨rfl, hmore⟩ := scan_of_kind_eq hscan
  rw [hscan, hmore, List.take_zero]
  rfl

lemma pieces_semicolon_cons (cs : List Char) :
    pieces (';' :: cs) = Piece.semicolon :: pieces cs := by
  have hscan : Lexeme.scan ';' cs = ⟨.semicolon, 0⟩ := Lexeme.scan_eq_iff.2 (.semicolon rfl)
  rw [pieces, hscan]
  rfl

/-- A text whose last token is a semicolon can be continued without any effect on its pieces, and
the pieces of the continuation are those that it has alone. -/
lemma pieces_append_of_semicolon {a : String} (h : EndsInSemicolon (tokenize a)) (bs : List Char) :
    pieces (a.toList ++ bs) = pieces a.toList ++ pieces bs := by
  obtain ⟨before, semicolon, htokens, hkind⟩ := h.exists_concat
  have hpieces : pieces a.toList = before.map Token.piece ++ [semicolon.piece] := by
    rw [← map_piece_tokenize, htokens, List.map_append, List.map_singleton]
  have hmem : semicolon.piece ∈ pieces a.toList := by simp [hpieces]
  have hlast : semicolon.piece = Piece.semicolon := eq_semicolon_of_mem_pieces hmem hkind
  have hbehind : pieces (semicolon.piece.text ++ bs) = semicolon.piece :: pieces bs := by
    rw [hlast]
    exact pieces_semicolon_cons bs
  rw [pieces_append hpieces, hbehind, hpieces, List.append_assoc, List.singleton_append]

/-- Behind a semicolon token a text is read as it is read alone. -/
theorem tokenize_append {a : String} (h : EndsInSemicolon (tokenize a)) (b : String) :
    tokenize (a ++ b) = tokenize a ++ (tokenize b).map (Token.shift a.utf8ByteSize) :=
  tokenize_append_of_pieces (pieces_append_of_semicolon h b.toList)

end SqlSplit
