import Mathlib.Algebra.Ring.Parity
import Mathlib.Data.List.DropRight
import SqlSplit.Proofs.Tokens.Priority

/-!
# Quoting and scanning

A text is quoted by writing every quote in it twice and putting one more on either side.  Scanning
takes this back.  At the head of a text that begins with a quote stands either a quoted text, which
leaves no doubt about its content (`IsClosedQuotation`), or a quotation that nothing closes, which
is all of the text (`IsOpenQuotation`).

Where a quotation is closed can also be told without reading it.  Quotes stand in runs.  A run of
even length is made of doubled quotes, and the last quote of a run of odd length closes the
quotation.  `EndsOddRun` says that such a run ends at a place of a text, `isFirstOddRun_doubled`
that the place behind the closing quote is the first of these, and `EndsOddRun.exists_closing` that
there is none without a closing quote.

The main statement is `next_quotation`, about the token at a cursor before a quote and the text that
is left behind it.
-/

namespace SqlSplit

open Lexeme (isQuote toClosingQuote)
open Enclosure (quotes)

variable {q c : Char} {cs content before after rest taken : List Char}

/-! ## Runs of quotes -/

/-- Between the two parts of a text ends a run of quotes, as long as it can be and of odd length. -/
def EndsOddRun (q : Char) (before after : List Char) : Prop :=
  Odd (before.rtakeWhile (· == q)).length ∧ after.head? ≠ some q

instance (q : Char) (before after : List Char) : Decidable (EndsOddRun q before after) :=
  inferInstanceAs (Decidable (_ ∧ _))

/-- The text falls into the two parts where the first of its odd runs of quotes ends. -/
structure IsFirstOddRun (q : Char) (cs before after : List Char) : Prop where
  text_eq : cs = before ++ after
  ends : EndsOddRun q before after
  first : ∀ before' after', cs = before' ++ after' → EndsOddRun q before' after' →
    before.length ≤ before'.length

/-- There is one place where the first odd run ends. -/
lemma IsFirstOddRun.unique {before' after' : List Char} (h : IsFirstOddRun q cs before after)
    (h' : IsFirstOddRun q cs before' after') : before = before' ∧ after = after' := by
  have hle := h.first before' after' h'.text_eq h'.ends
  have hge := h'.first before after h.text_eq h.ends
  apply List.append_inj (h.text_eq.symm.trans h'.text_eq)
  exact Nat.le_antisymm hle hge

lemma EndsOddRun.ne_nil (h : EndsOddRun q before after) : before ≠ [] := by
  rintro rfl
  simp [EndsOddRun] at h

lemma endsOddRun_cons_of_ne (h : c ≠ q) :
    EndsOddRun q (c :: before) after ↔ EndsOddRun q before after := by
  have hnil : [c].takeWhile (· == q) = [] := List.takeWhile_cons_of_neg (by simpa using h)
  have hrun : (c :: before).rtakeWhile (· == q) = before.rtakeWhile (· == q) := by
    rw [List.rtakeWhile, List.reverse_cons, List.takeWhile_append, hnil, List.append_nil]
    split_ifs with hall
    · rw [List.rtakeWhile, (List.takeWhile_prefix _).eq_of_length hall]
    · rfl
  rw [EndsOddRun, EndsOddRun, hrun]

/-- Two quotes in front of a text are a run of even length, or add two to the run behind them. -/
lemma endsOddRun_cons_cons :
    EndsOddRun q (q :: q :: before) after ↔ EndsOddRun q before after := by
  have htwo : [q, q].takeWhile (· == q) = [q, q] := by simp
  have hreverse : (q :: q :: before).reverse = before.reverse ++ [q, q] := by simp
  have hodd : Odd ((q :: q :: before).rtakeWhile (· == q)).length ↔
      Odd (before.rtakeWhile (· == q)).length := by
    rw [List.rtakeWhile, List.rtakeWhile, List.length_reverse, List.length_reverse, hreverse,
      List.takeWhile_append, htwo]
    split_ifs with hall
    · rw [hall, List.length_append, Nat.odd_add]
      simp
    · rfl
  rw [EndsOddRun, EndsOddRun, hodd]

/-! ## Doubled quotes -/

lemma endsOddRun_doubled_append :
    EndsOddRun q (doubled q content ++ before) after ↔ EndsOddRun q before after := by
  induction content with
  | nil => rfl
  | cons c content ih =>
    by_cases hc : c = q
    · rw [hc, doubled_cons_self, List.cons_append, List.cons_append, endsOddRun_cons_cons, ih]
    · rw [doubled_cons_of_ne hc, List.cons_append, endsOddRun_cons_of_ne hc, ih]

example : EndsOddRun '\x27' "it'''".toList [';'] ∧ ¬ EndsOddRun '\x27' "it''".toList [';'] := by
  decide

lemma exists_of_endsOddRun_doubled (htext : doubled q content ++ cs = before ++ after)
    (h : EndsOddRun q before after) : ∃ ds, before = doubled q content ++ ds := by
  induction content generalizing before with
  | nil => exact ⟨before, rfl⟩
  | cons c content ih =>
    obtain ⟨d, ds, rfl⟩ := List.exists_cons_of_ne_nil h.ne_nil
    by_cases hc : c = q
    · rw [hc, doubled_cons_self, List.cons_append, List.cons_append, List.cons_append] at htext
      rw [hc, doubled_cons_self]
      obtain ⟨rfl, hbehind⟩ := List.cons.inj htext
      -- The run goes on with the second of the two quotes, so it does not end with the first one.
      have hne : ds ≠ [] := by
        rintro rfl
        rw [List.nil_append] at hbehind
        apply h.2
        rw [← hbehind, List.head?_cons]
      obtain ⟨d, ds, rfl⟩ := List.exists_cons_of_ne_nil hne
      rw [List.cons_append] at hbehind
      obtain ⟨rfl, hpair⟩ := List.cons.inj hbehind
      obtain ⟨es, rfl⟩ := ih hpair (endsOddRun_cons_cons.1 h)
      exact ⟨es, rfl⟩
    · rw [doubled_cons_of_ne hc, List.cons_append, List.cons_append] at htext
      rw [doubled_cons_of_ne hc]
      obtain ⟨rfl, hbehind⟩ := List.cons.inj htext
      obtain ⟨es, rfl⟩ := ih hbehind ((endsOddRun_cons_of_ne hc).1 h)
      exact ⟨es, rfl⟩

lemma isFirstOddRun_doubled (h : rest.head? ≠ some q) :
    IsFirstOddRun q (doubled q content ++ q :: rest) (doubled q content ++ [q]) rest where
  text_eq := by simp
  ends := by
    rw [endsOddRun_doubled_append]
    exact ⟨by simp [List.rtakeWhile], h⟩
  first := by
    intro before' after' htext hends
    obtain ⟨ds, rfl⟩ := exists_of_endsOddRun_doubled htext hends
    have hne : ds ≠ [] := (endsOddRun_doubled_append.1 hends).ne_nil
    have hpos := List.length_pos_iff.2 hne
    simp only [List.length_append, List.length_singleton]
    omega

/-- In a text with an odd run there is a quote that closes the quotation. -/
lemma EndsOddRun.exists_closing (h : EndsOddRun q before after) :
    ∃ content rest, before ++ after = doubled q content ++ q :: rest ∧ rest.head? ≠ some q := by
  fun_induction toClosingQuote q before with
  | case1 => exact absurd rfl h.ne_nil
  | case2 => exact ⟨[], after, rfl, h.2⟩
  | case3 ds ih =>
    obtain ⟨content, rest, htext, hrest⟩ := ih (endsOddRun_cons_cons.1 h)
    refine ⟨q :: content, rest, ?_, hrest⟩
    rw [doubled_cons_self, List.cons_append, List.cons_append, htext]
    rfl
  | case4 d ds hd => exact ⟨[], d :: ds ++ after, rfl, by simpa using hd⟩
  | case5 c cs hc ih =>
    obtain ⟨content, rest, htext, hrest⟩ := ih ((endsOddRun_cons_of_ne hc).1 h)
    refine ⟨c :: content, rest, ?_, hrest⟩
    rw [doubled_cons_of_ne hc, List.cons_append, htext]
    rfl

/-! ## The content of a quotation -/

/-- The content whose quotes are doubled: of two quotes, the second one is left out. -/
def undoubled (q : Char) : List Char → List Char
  | [] => []
  | [c] => [c]
  | c :: d :: cs => if c = q then c :: undoubled q cs else c :: undoubled q (d :: cs)

lemma undoubled_cons_of_ne (h : c ≠ q) (cs : List Char) :
    undoubled q (c :: cs) = c :: undoubled q cs := by
  cases cs with
  | nil => rfl
  | cons d cs => rw [undoubled, if_neg h]

lemma undoubled_doubled (q : Char) : Function.LeftInverse (undoubled q) (doubled q) := by
  intro content
  induction content with
  | nil => rfl
  | cons c content ih =>
    by_cases hc : c = q
    · rw [hc, doubled_cons_self, undoubled, if_pos rfl, ih]
    · rw [doubled_cons_of_ne hc, undoubled_cons_of_ne hc, ih]

lemma write_quotes_injective (hq : isQuote q = true) : Function.Injective (quotes q hq).write := by
  intro content content' h
  have haround := congrArg String.toList h
  rw [Enclosure.toList_write, Enclosure.toList_write] at haround
  have hdoubled := List.append_cancel_right (List.cons.inj haround).2
  apply String.toList_injective
  exact (undoubled_doubled q).injective hdoubled

/-! ## Closed and open quotations -/

/-- A text that begins with a quote falls into a quoted text, of exactly one content, and what is
behind it.  No further quote follows, and the two parts meet where the first odd run of quotes
behind the opening quote ends. -/
structure IsClosedQuotation (hq : isQuote q = true) (cs : List Char) (text : String)
    (rest : List Char) : Prop where
  text_eq : q :: cs = text.toList ++ rest
  existsUnique : ∃! content, text = (quotes q hq).write content
  not_followed : rest.head? ≠ some q
  first_iff : ∀ before after, IsFirstOddRun q cs before after ↔
    text.toList = q :: before ∧ rest = after

/-- Nothing closes the quotation at the head of a text, which takes all of it.  A quoted text with
which the text begins is always followed by a further quote, and behind the opening quote there is
no odd run of quotes. -/
structure IsOpenQuotation (hq : isQuote q = true) (cs : List Char) (text : String)
    (rest : List Char) : Prop where
  text_eq : text.toList = q :: cs
  rest_eq : rest = []
  followed : ∀ content behind, q :: cs = ((quotes q hq).write content).toList ++ behind →
    behind.head? = some q
  no_run : ∀ before after, cs = before ++ after → ¬ EndsOddRun q before after

lemma isClosedQuotation_doubled (hq : isQuote q = true) (content : List Char)
    (h : rest.head? ≠ some q) :
    IsClosedQuotation hq (doubled q content ++ q :: rest)
      ((quotes q hq).write (String.ofList content)) rest := by
  have hwrite : ((quotes q hq).write (String.ofList content)).toList =
      q :: (doubled q content ++ [q]) := by
    rw [Enclosure.toList_write, String.toList_ofList]
    rfl
  have hfirst : IsFirstOddRun q (doubled q content ++ q :: rest) (doubled q content ++ [q]) rest :=
    isFirstOddRun_doubled h
  refine ⟨?_, ⟨_, rfl, ?_⟩, h, ?_⟩
  · rw [hwrite]
    simp
  · intro other hother
    exact (write_quotes_injective hq hother).symm
  · intro before after
    constructor
    · intro hrun
      obtain ⟨rfl, rfl⟩ := hrun.unique hfirst
      exact ⟨hwrite, rfl⟩
    · rintro ⟨hbefore, rfl⟩
      obtain ⟨-, rfl⟩ := List.cons.inj (hbefore.symm.trans hwrite)
      exact hfirst

lemma isOpenQuotation_of_followed (hq : isQuote q = true)
    (h : ∀ content rest, cs = doubled q content ++ q :: rest → rest.head? = some q) :
    IsOpenQuotation hq cs (String.ofList (q :: cs)) [] := by
  refine ⟨String.toList_ofList, rfl, ?_, ?_⟩
  · intro content behind htext
    rw [Enclosure.toList_write] at htext
    apply h content.toList behind
    simpa using (List.cons.inj htext).2
  · intro before after htext hends
    obtain ⟨content, rest, hclosing, hrest⟩ := hends.exists_closing
    exact hrest (h content rest (htext.trans hclosing))

/-! ## Reading a quotation -/

/-- The token that a quotation is at an offset. -/
def Token.quotationAt (text : String) (offset : Nat) : Token where
  kind := .string
  value := text
  start := offset
  last := offset + text.utf8ByteSize - 1

lemma Piece.token_quotation (text : String) (offset : Nat) :
    Piece.token ⟨.string, text.toList⟩ offset = Token.quotationAt text offset := by
  rw [token, Token.quotationAt, String.ofList_toList, Text.byteLength_toList]

/-- The next token is the first piece of the text that is left. -/
lemma exists_next_of_pieces {cursor : Cursor} {kind : TokenKind} {ps : List Piece}
    (hrest : cursor.rest = taken ++ rest) (h : pieces (taken ++ rest) = ⟨kind, taken⟩ :: ps)
    (turn : Nat) : ∃ behind,
      Tokenizer.sql.next turn cursor = .ok (Piece.token ⟨kind, taken⟩ cursor.position, behind) ∧
      behind.rest = rest := by
  have hmem : ⟨kind, taken⟩ ∈ pieces (taken ++ rest) := by
    rw [h]
    exact List.mem_cons_self
  have hne : taken ≠ [] := ne_nil_of_mem_pieces hmem
  obtain ⟨c, cs, rfl⟩ := List.exists_cons_of_ne_nil hne
  have hcons : cursor.rest = c :: (cs ++ rest) := hrest
  have hend : cursor.atEnd = false := by
    rw [Cursor.atEnd, hcons, List.isEmpty_cons]
  have htoken : Tokenizer.sql.scan turn cursor hend =
      Piece.token ⟨kind, c :: cs⟩ cursor.position := by
    rw [scan_sql_eq hcons turn hend, scan_eq_of_pieces h, List.take_left]
  refine ⟨cursor.past _ (Tokenizer.sql.admits turn cursor hend), ?_, ?_⟩
  · rw [← htoken]
    exact dif_pos hend
  · apply Cursor.rest_past _ hrest
    rw [htoken]
    exact Piece.stop_token hne

lemma exists_next_write (hq : isQuote q = true) {cursor : Cursor} {content : String}
    (hrest : cursor.rest = ((quotes q hq).write content).toList ++ rest)
    (hend : rest.head? ≠ some q) (turn : Nat) : ∃ behind,
      Tokenizer.sql.next turn cursor =
        .ok (Token.quotationAt ((quotes q hq).write content) cursor.position, behind) ∧
      behind.rest = rest := by
  have hpieces : pieces (((quotes q hq).write content).toList ++ rest) =
      ⟨.string, ((quotes q hq).write content).toList⟩ :: pieces rest := by
    rw [Enclosure.toList_write]
    exact Enclosure.pieces_around_append trivial hend
  rw [← Piece.token_quotation]
  exact exists_next_of_pieces hrest hpieces turn

lemma exists_next_open (hq : isQuote q = true) {cursor : Cursor} (hrest : cursor.rest = q :: cs)
    (hopen : ∀ content rest, cs = doubled q content ++ q :: rest → rest.head? = some q)
    (turn : Nat) : ∃ behind,
      Tokenizer.sql.next turn cursor =
        .ok (Token.quotationAt (String.ofList (q :: cs)) cursor.position, behind) ∧
      behind.rest = [] := by
  have hpieces : pieces (q :: cs ++ []) = ⟨.string, q :: cs⟩ :: pieces [] := by
    apply pieces_append_of_shape
    rw [List.append_nil]
    exact shape_openQuotation hq hopen
  rw [← Piece.token_quotation, String.toList_ofList]
  rw [← List.append_nil (q :: cs)] at hrest
  exact exists_next_of_pieces hrest hpieces turn

/-- Scanning undoes quoting.  Before a quoted text that no further quote follows, the next token is
this text, as a string.  Before any text that begins with a quote the next token is a string too:
either it is closed, and then it is a quoted text that ends with the first odd run of quotes behind
the opening quote, or it is open, and then it is all of the text. -/
theorem next_quotation (hq : isQuote q = true) (turn : Nat) (cursor : Cursor) :
    (∀ content rest, cursor.rest = ((quotes q hq).write content).toList ++ rest →
      rest.head? ≠ some q → ∃ behind,
        Tokenizer.sql.next turn cursor =
          .ok (Token.quotationAt ((quotes q hq).write content) cursor.position, behind) ∧
        behind.rest = rest) ∧
    (∀ cs, cursor.rest = q :: cs → ∃ text behind,
      Tokenizer.sql.next turn cursor = .ok (Token.quotationAt text cursor.position, behind) ∧
      (IsClosedQuotation hq cs text behind.rest ∨ IsOpenQuotation hq cs text behind.rest)) := by
  refine ⟨fun content rest hrest hend => exists_next_write hq hrest hend turn, ?_⟩
  intro cs hcs
  -- A quoted text at the head of the text that no further quote follows closes the quotation.
  by_cases hopen : ∀ content rest, cs = doubled q content ++ q :: rest → rest.head? = some q
  · obtain ⟨behind, hnext, hbehind⟩ := exists_next_open hq hcs hopen turn
    refine ⟨String.ofList (q :: cs), behind, hnext, .inr ?_⟩
    rw [hbehind]
    exact isOpenQuotation_of_followed hq hopen
  · simp only [not_forall] at hopen
    obtain ⟨content, rest, rfl, hend⟩ := hopen
    have hclosed := isClosedQuotation_doubled hq content hend
    obtain ⟨behind, hnext, rfl⟩ := exists_next_write hq (hcs.trans hclosed.text_eq) hend turn
    exact ⟨_, behind, hnext, .inl hclosed⟩

/-- The first quote behind `é` is doubled, and the third one of the run closes the quotation. -/
theorem next_quotation_of_triple :
    isQuote '\x27' = true ∧
    (∃ behind, Tokenizer.sql.next 0 (Cursor.start "'é''';") =
      .ok (⟨.string, "'é'''", 0, 5⟩, behind) ∧ behind.rest = [';']) ∧
    IsFirstOddRun '\x27' "é''';".toList "é'''".toList [';'] := by
  have hq : isQuote '\x27' = true := by decide
  have hwrite : (quotes '\x27' (by decide)).write "é'" = "'é'''" := by decide +kernel
  have hrest : (Cursor.start "'é''';").rest = ((quotes '\x27' hq).write "é'").toList ++ [';'] := by
    rw [hwrite]
    decide +kernel
  obtain ⟨hquoted, hany⟩ := next_quotation hq 0 (Cursor.start "'é''';")
  obtain ⟨behind, hnext, hbehind⟩ := hquoted "é'" [';'] hrest (by decide)
  obtain ⟨text, behind', hnext', hend⟩ := hany "é''';".toList (by decide +kernel)
  obtain ⟨htoken, rfl⟩ := Prod.mk.inj (Except.ok.inj (hnext.symm.trans hnext'))
  have htext : (quotes '\x27' hq).write "é'" = text := congrArg Token.value htoken
  rw [hwrite] at hnext htext
  refine ⟨hq, ⟨behind, hnext, hbehind⟩, ?_⟩
  rcases hend with hclosed | hopen
  · apply (hclosed.first_iff _ _).2
    rw [← htext]
    exact ⟨by decide +kernel, hbehind⟩
  · have hnil := hopen.rest_eq
    rw [hbehind] at hnil
    cases hnil

end SqlSplit
