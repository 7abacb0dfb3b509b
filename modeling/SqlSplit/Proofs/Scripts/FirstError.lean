import Mathlib.Control.Monad.Basic
import SqlSplit.Proofs.Scripts.Outline
import SqlSplit.Proofs.Tokens.Pieces
import SqlSplit.Proofs.Tokens.Tiling

/-!
# The first error of a script

A script is refused for one token, and nothing behind that token has a part in it.
`parse_eq_error` states this by cutting the script between two tokens: what is left can be read if
the cut is before the token at fault, and is refused with the same error if it is behind it.

Two things come together in the proof.  Cutting a script does not change the tokens before the cut
(`exists_parts_of_append`), and a run over tokens that fails has taken all tokens before the
one at fault (`outlineFrom_eq_error`).  That the script then ends is no error at any place.
-/

namespace SqlSplit

/-- The error is about the token: it gives the place of the token, and no kind and no value but
those of the token. -/
def ParseError.Names (token : Token) : ParseError → Prop
  | unrecognizedLeadingToken value position => value = token.value ∧ position = token.start
  | missingPredecessor _ _ value position => value = token.value ∧ position = token.start
  | unexpectedToken _ _ kind value position =>
    kind = token.kind ∧ value = token.value ∧ position = token.start
  | alreadyTerminated position => position = token.start

lemma ParseError.Names.position_eq {error : ParseError} {token : Token} (h : error.Names token) :
    error.position = token.start := by
  cases error with
  | unrecognizedLeadingToken value position => exact h.2
  | missingPredecessor step required value position => exact h.2
  | unexpectedToken step expected kind value position => exact h.2.2
  | alreadyTerminated position => exact h

/-- The offset lies at the start of the tokens or behind one of them. -/
def IsTokenBoundary (tokens : List Token) (offset : Nat) : Prop :=
  offset = 0 ∨ ∃ token ∈ tokens, token.stop = offset

/-! ## The token at fault -/

section Fault

variable {mode : Mode} {open? : Option Draft} {token : Token} {error : ParseError}

lemma Stage.next_names {stage : Stage} (h : stage.next mode token = .error error) :
    error.Names token := by
  cases stage with
  | settled type => cases h
  | awaiting verb spaced =>
    rw [Stage.next] at h
    split_ifs at h with hspace hspaced hstrict
    · cases h
      exact ⟨rfl, rfl⟩
    · cases h
      exact ⟨rfl, rfl, rfl⟩

lemma Draft.opening_names (h : Draft.opening mode token = .error error) : error.Names token := by
  have hdispatch := map_eq_error_iff.1 h
  unfold Opener.dispatch at hdispatch
  split at hdispatch
  · cases hdispatch
  · cases hdispatch
    exact ⟨rfl, rfl⟩

lemma advance_names (h : advance mode open? token = .error error) : error.Names token := by
  cases open? with
  | none =>
    rw [advance] at h
    split_ifs at h with hblank
    exact Draft.opening_names (map_eq_error_iff.1 h)
  | some draft =>
    rw [advance] at h
    split_ifs at h with hkind
    exact Stage.next_names (map_eq_error_iff.1 (map_eq_error_iff.1 h))

/-- A run that takes all tokens up to one at fault fails, whatever follows. -/
lemma outlineFrom_eq_error {before after : List Token} {a : Outline}
    (hbefore : outlineFrom mode open? before = .ok a)
    (hfault : advance mode a.open? token = .error error) :
    outlineFrom mode open? (before ++ token :: after) = .error error := by
  rw [outlineFrom_append, hbefore]
  simp only [outlineFrom_cons, hfault]
  rfl

lemma exists_of_outlineFrom_append {xs ys : List Token} {o : Outline}
    (h : outlineFrom mode open? (xs ++ ys) = .ok o) : ∃ a, outlineFrom mode open? xs = .ok a := by
  rw [outlineFrom_append] at h
  cases hxs : outlineFrom mode open? xs with
  | error error' =>
    rw [hxs] at h
    cases h
  | ok a => exact ⟨a, rfl⟩

end Fault

/-! ## Cutting a script -/

lemma parse_eq_map (input : String) (mode : Mode) :
    parse input mode = (outline mode (tokenize input)).map fun o => o.script input.utf8ByteSize :=
  Parser.parse_eq_map { input, mode }

lemma IsTokenBoundary.exists_append {tokens : List Token} {stop length : Nat}
    (h : IsTokenBoundary tokens stop) (htiles : Tiles 0 tokens length) :
    ∃ xs ys, tokens = xs ++ ys ∧ Tiles 0 xs stop ∧ Tiles stop ys length := by
  rcases h with rfl | ⟨token, hmem, rfl⟩
  · exact ⟨[], tokens, rfl, rfl, htiles⟩
  · obtain ⟨before, after, rfl⟩ := List.append_of_mem hmem
    obtain ⟨mid, hbefore, hstart, hlast, hafter⟩ := Tiles.append_iff.1 htiles
    refine ⟨before ++ [token], after, by simp, ?_, hafter⟩
    exact Tiles.append_iff.2 ⟨mid, hbefore, hstart, hlast, rfl⟩

lemma tiles_of_tokenize_eq {input text : String} {ys : List Token}
    (h : tokenize input = tokenize text ++ ys) :
    Tiles 0 (tokenize text) text.utf8ByteSize ∧
      Tiles text.utf8ByteSize ys input.utf8ByteSize := by
  have hall : Tiles 0 (tokenize input) input.utf8ByteSize := tiles_tokens .sql input
  have hown : Tiles 0 (tokenize text) text.utf8ByteSize := tiles_tokens .sql text
  rw [h] at hall
  obtain ⟨mid, hfront, hbehind⟩ := Tiles.append_iff.1 hall
  rw [hfront.stop_unique hown] at hbehind
  exact ⟨hown, hbehind⟩

/-- A script that is cut between two tokens falls into two texts.  The tokens of the first are
those before the cut, and those behind it are the pieces of the second. -/
lemma exists_parts_of_append {input : String} {xs ys : List Token}
    (h : tokenize input = xs ++ ys) :
    ∃ a b, input = a ++ b ∧ tokenize a = xs ∧ place a.utf8ByteSize (pieces b.toList) = ys ∧
      Tiles 0 xs a.utf8ByteSize ∧ Tiles a.utf8ByteSize ys input.utf8ByteSize := by
  obtain ⟨as, bs, htext, has, hbs⟩ := exists_of_tokenize_eq_append h
  obtain ⟨hown, hbehind⟩ := tiles_of_tokenize_eq (h.trans (congrArg (· ++ ys) has.symm))
  rw [has] at hown
  refine ⟨String.ofList as, String.ofList bs, ?_, has, ?_, hown, hbehind⟩
  · rw [← String.ofList_append, ← htext, String.ofList_toList]
  · rw [← Text.byteLength_toList, String.toList_ofList, String.toList_ofList, hbs]

/-- A script that is cut at a token boundary falls into two such texts. -/
lemma exists_parts_of_isTokenBoundary {input : String} {stop : Nat}
    (h : IsTokenBoundary (tokenize input) stop) :
    ∃ a b, input = a ++ b ∧ a.utf8ByteSize = stop ∧
      tokenize input = tokenize a ++ place stop (pieces b.toList) := by
  obtain ⟨xs, ys, htokens, hxs, -⟩ := h.exists_append (tiles_tokens .sql input)
  obtain ⟨a, b, hinput, rfl, rfl, hown, -⟩ := exists_parts_of_append htokens
  obtain rfl := hown.stop_unique hxs
  exact ⟨a, b, hinput, rfl, htokens⟩

lemma exists_slice_of_isTokenBoundary {input : String} {stop : Nat}
    (h : IsTokenBoundary (tokenize input) stop) :
    ∃ text xs ys, Text.slice? input.toList 0 stop = some text ∧ tokenize input = xs ++ ys ∧
      tokenize text = xs ∧ Tiles 0 xs stop ∧ Tiles stop ys input.utf8ByteSize := by
  obtain ⟨xs, ys, htokens, hxs, hys⟩ := h.exists_append (tiles_tokens .sql input)
  obtain ⟨a, b, rfl, ha, -, hown, -⟩ := exists_parts_of_append htokens
  obtain rfl := hown.stop_unique hxs
  exact ⟨a, xs, ys, Text.slice?_left a b, htokens, ha, hxs, hys⟩

/-- If reading an SQL script fails, the error is about one of its tokens, and it is decided there:
the text up to a token boundary can be read if the boundary is not behind the start of that token,
and is refused with the same error if it is. -/
theorem parse_eq_error {input : String} {mode : Mode} {error : ParseError}
    (h : parse input mode = .error error) :
    (∃ token ∈ tokenize input, error.Names token) ∧
      ∀ stop, IsTokenBoundary (tokenize input) stop →
        ∃ text, Text.slice? input.toList 0 stop = some text ∧
          (stop ≤ error.position → ∃ script, parse text mode = .ok script) ∧
          (error.position < stop → parse text mode = .error error) := by
  rw [parse_eq_map] at h
  obtain ⟨before, fault, after, a, htokens, hbefore, hfault⟩ :=
    exists_of_outlineFrom_error (map_eq_error_iff.1 h)
  have hnames := advance_names hfault
  refine ⟨⟨fault, by rw [htokens]; simp, hnames⟩, ?_⟩
  intro stop hstop
  obtain ⟨text, xs, ys, hslice, hsplit, htext, hxs, hys⟩ := exists_slice_of_isTokenBoundary hstop
  -- No token is cut, so the cut lies before the start of the one at fault or behind it.
  have hcut := hxs.before_or_behind hys (hsplit.symm.trans htokens)
  refine ⟨text, hslice, ?_, ?_⟩
  · intro hle
    rw [hnames.position_eq] at hle
    obtain ⟨zs, rfl, -⟩ : ∃ zs, before = xs ++ zs ∧ stop ≤ fault.start := by
      refine hcut.resolve_right ?_
      rintro ⟨-, -, hlt⟩
      omega
    obtain ⟨o, ho⟩ := exists_of_outlineFrom_append hbefore
    refine ⟨o.script text.utf8ByteSize, ?_⟩
    rw [parse_eq_map, htext, outline, ho]
    rfl
  · intro hlt
    rw [hnames.position_eq] at hlt
    obtain ⟨zs, rfl, -⟩ : ∃ zs, xs = before ++ fault :: zs ∧ fault.start < stop := by
      refine hcut.resolve_left ?_
      rintro ⟨-, -, hle⟩
      omega
    rw [parse_eq_map, htext, outline, outlineFrom_eq_error hbefore hfault]
    rfl

/-- The second statement creates something that is no object.  The text before that word can be
read, and the text up to its end is refused as all of it is. -/
theorem parse_eq_error_at_object :
    parse "DROP;CREATE é;" .strict =
        .error (.unexpectedToken 1 objectPatterns .unknown "é" 12) ∧
      (∃ script, parse "DROP;CREATE " .strict = .ok script) ∧
      parse "DROP;CREATE é" .strict =
        .error (.unexpectedToken 1 objectPatterns .unknown "é" 12) := by
  have herror : parse "DROP;CREATE é;" .strict =
      .error (.unexpectedToken 1 objectPatterns .unknown "é" 12) := by
    decide +kernel
  obtain ⟨-, hcut⟩ := parse_eq_error herror
  obtain ⟨text, htext, hok, -⟩ :=
    hcut 12 (.inr ⟨⟨.whitespace, " ", 11, 11⟩, by decide +kernel, rfl⟩)
  obtain ⟨text', htext', -, hrefused⟩ :=
    hcut 14 (.inr ⟨⟨.unknown, "é", 12, 13⟩, by decide +kernel, rfl⟩)
  have hbefore : Text.slice? "DROP;CREATE é;".toList 0 12 = some "DROP;CREATE " := by
    decide +kernel
  have hbehind : Text.slice? "DROP;CREATE é;".toList 0 14 = some "DROP;CREATE é" := by
    decide +kernel
  obtain rfl := Option.some.inj (htext.symm.trans hbefore)
  obtain rfl := Option.some.inj (htext'.symm.trans hbehind)
  exact ⟨herror, hok (Nat.le_refl 12), hrefused (by decide)⟩

end SqlSplit
