import SqlSplit.Proofs.Tokens.Words

/-!
# Letter case in a text

The lexemes of a text do not depend on the case of its letters.  No class of characters tells a
capital letter from its small form, the marks that open and close lexemes are no letters, and
keywords are compared without regard to case.

`scan_toLower` states this for one lexeme, and `tokenize_lowercase` for a text: if its letters are
made small, its tokens are as they were, with the letters of their values made small.
-/

namespace SqlSplit

open Lexeme (isWordCharacter isQuote toClosingQuote toCommentEnd toLineEnd)
open Unicode (isWhiteSpace)
open Text (byteLength)

/-! ## Small letters -/

/-- The letters `A` to `Z`. -/
def capitals : List Char :=
  (List.range' 0x41 26).map Char.ofNat

/-- Only the letters `A` to `Z` have a small form of their own. -/
lemma toLower_eq_or_mem_capitals (c : Char) : c.toLower = c ∨ c ∈ capitals := by
  by_cases hupper : c.val ≥ 'A'.val ∧ c.val ≤ 'Z'.val
  · right
    have hlo : 0x41 ≤ c.toNat := UInt32.le_iff_toNat_le.1 hupper.1
    have hhi : c.toNat ≤ 0x5A := UInt32.le_iff_toNat_le.1 hupper.2
    exact List.mem_map.2 ⟨c.toNat, List.mem_range'_1.2 ⟨hlo, by omega⟩, Char.ofNat_toNat c⟩
  · exact .inl (dif_neg hupper)

/-- What does not tell the capital letters from their small forms tells no character from its
small form. -/
lemma apply_toLower {α : Type} [DecidableEq α] {f : Char → α}
    (h : capitals.all fun c => f c.toLower = f c) (c : Char) : f c.toLower = f c := by
  rcases toLower_eq_or_mem_capitals c with hsame | hmem
  · rw [hsame]
  · exact of_decide_eq_true (List.all_eq_true.1 h c hmem)

@[simp] lemma isWordCharacter_toLower (c : Char) :
    isWordCharacter c.toLower = isWordCharacter c :=
  apply_toLower (by decide +kernel) c

@[simp] lemma isWhiteSpace_toLower (c : Char) : isWhiteSpace c.toLower = isWhiteSpace c :=
  apply_toLower (by decide +kernel) c

@[simp] lemma isQuote_toLower (c : Char) : isQuote c.toLower = isQuote c :=
  apply_toLower (by decide +kernel) c

@[simp] lemma utf8Size_toLower (c : Char) : c.toLower.utf8Size = c.utf8Size :=
  apply_toLower (by decide +kernel) c

@[simp] lemma toLower_toLower (c : Char) : c.toLower.toLower = c.toLower :=
  apply_toLower (by decide +kernel) c

/-- The characters that scanning looks for. -/
def scanMarks : List Char :=
  ['*', '\n'] ++ Lexeme.specialCharacters

lemma toLower_eq_iff {c mark : Char} (h : mark ∈ scanMarks) : c.toLower = mark ↔ c = mark := by
  have hall : scanMarks.all fun mark => capitals.all fun c =>
      decide (c.toLower = mark) = decide (c = mark) := by
    decide +kernel
  have hsame := apply_toLower (f := fun c => decide (c = mark)) (List.all_eq_true.1 hall mark h) c
  simpa using hsame

lemma mem_scanMarks_of_isQuote {q : Char} (h : isQuote q = true) : q ∈ scanMarks := by
  rcases Lexeme.isQuote_iff.1 h with rfl | rfl | rfl <;> decide

lemma head?_map_toLower_iff {cs : List Char} {mark : Char} (h : mark ∈ scanMarks) :
    (cs.map Char.toLower).head? = some mark ↔ cs.head? = some mark := by
  cases cs with
  | nil => simp
  | cons c cs => simp [toLower_eq_iff h]

@[simp] lemma byteLength_map_toLower (cs : List Char) :
    byteLength (cs.map Char.toLower) = byteLength cs := by
  induction cs with
  | nil => rfl
  | cons c cs ih => simp [ih]

/-! ## Extents -/

lemma takeWhile_map_toLower {p : Char → Bool} (h : ∀ c, p c.toLower = p c) (cs : List Char) :
    (cs.map Char.toLower).takeWhile p = (cs.takeWhile p).map Char.toLower := by
  have hp : p ∘ Char.toLower = p := funext h
  rw [List.takeWhile_map, hp]

lemma toLineEnd_map_toLower (cs : List Char) :
    toLineEnd (cs.map Char.toLower) = toLineEnd cs := by
  have hend : ∀ c : Char, (c.toLower != '\n') = (c != '\n') := by
    intro c
    rw [Bool.eq_iff_iff, bne_iff_ne, bne_iff_ne, ne_eq, ne_eq, toLower_eq_iff (by decide)]
  rw [toLineEnd, toLineEnd, takeWhile_map_toLower hend, List.length_map]

lemma toCommentEnd_map_toLower (cs : List Char) :
    toCommentEnd (cs.map Char.toLower) = toCommentEnd cs := by
  induction cs with
  | nil => rfl
  | cons c cs ih =>
    have hstar : '*' ∈ scanMarks := by decide
    have hslash : '/' ∈ scanMarks := by decide
    simp only [List.map_cons, toCommentEnd, toLower_eq_iff hstar, head?_map_toLower_iff hslash, ih]

lemma toClosingQuote_map_toLower {q : Char} (hq : q ∈ scanMarks) (cs : List Char) :
    toClosingQuote q (cs.map Char.toLower) = toClosingQuote q cs := by
  have hself : q.toLower = q := (toLower_eq_iff hq).2 rfl
  fun_induction toClosingQuote q cs with
  | case1 => rfl
  | case2 => simp [toClosingQuote, hself]
  | case3 ds ih => simp [toClosingQuote, hself, ih]
  | case4 d ds hd => simp [toClosingQuote, hself, toLower_eq_iff hq, hd]
  | case5 c cs hc ih =>
    have hlower : c.toLower ≠ q := fun h => hc ((toLower_eq_iff hq).1 h)
    rw [List.map_cons, Lexeme.toClosingQuote_cons_of_ne hlower, ih]

/-! ## Lexemes, pieces and tokens -/

/-- A word spells the same keyword in small letters. -/
lemma Keyword.ofWord?_lowercase (word : String) :
    ofWord? (Text.lowercase word) = ofWord? word := by
  have hsame : Text.lowercase (Text.lowercase word) = Text.lowercase word := by
    simp [Text.lowercase, Function.comp_def]
  unfold ofWord? Text.eqIgnoringCase
  rw [hsame]

lemma wordKind_map_toLower (cs : List Char) :
    Lexeme.wordKind (String.ofList (cs.map Char.toLower)) =
      Lexeme.wordKind (String.ofList cs) := by
  have hlower : String.ofList (cs.map Char.toLower) = Text.lowercase (String.ofList cs) := by
    rw [Text.lowercase, String.toList_ofList]
  rw [Lexeme.wordKind, hlower, Keyword.ofWord?_lowercase]
  rfl

/-- The lexeme of a text is that of the text in small letters. -/
theorem scan_toLower (c : Char) (cs : List Char) :
    Lexeme.scan c.toLower (cs.map Char.toLower) = Lexeme.scan c cs := by
  have hdash : '-' ∈ scanMarks := by decide
  have hslash : '/' ∈ scanMarks := by decide
  have hstar : '*' ∈ scanMarks := by decide
  have hsemicolon : ';' ∈ scanMarks := by decide
  -- Small letters keep the classes of characters and the marks, and so the shape.
  refine Lexeme.scan_eq_iff.2 ?_
  generalize hscan : Lexeme.scan c cs = lexeme
  cases Lexeme.scan_eq_iff.1 hscan with
  | semicolon hc => exact .semicolon ((toLower_eq_iff hsemicolon).2 hc)
  | dashes hc hnext =>
    rw [← toLineEnd_map_toLower]
    exact .dashes ((toLower_eq_iff hdash).2 hc) ((head?_map_toLower_iff hdash).2 hnext)
  | slashStar hc hnext =>
    rw [← toCommentEnd_map_toLower, List.map_tail]
    exact .slashStar ((toLower_eq_iff hslash).2 hc) ((head?_map_toLower_iff hstar).2 hnext)
  | quoted hc =>
    have hmark := mem_scanMarks_of_isQuote hc
    have hself : c.toLower = c := (toLower_eq_iff hmark).2 rfl
    rw [hself, ← toClosingQuote_map_toLower hmark]
    exact .quoted hc
  | word hc =>
    have hrun := takeWhile_map_toLower isWordCharacter_toLower cs
    have hlength : ((cs.map Char.toLower).takeWhile isWordCharacter).length =
        (cs.takeWhile isWordCharacter).length := by
      rw [hrun, List.length_map]
    rw [← wordKind_map_toLower, List.map_cons, ← hrun, ← hlength]
    exact .word ((isWordCharacter_toLower c).trans hc)
  | space hc hword =>
    have hlength : ((cs.map Char.toLower).takeWhile isWhiteSpace).length =
        (cs.takeWhile isWhiteSpace).length := by
      rw [takeWhile_map_toLower isWhiteSpace_toLower, List.length_map]
    rw [← hlength]
    exact .space ((isWhiteSpace_toLower c).trans hc) ((isWordCharacter_toLower c).trans hword)
  | single hsemi hdashes hopens hquote hword hspace =>
    refine .single ?_ ?_ ?_ ((isQuote_toLower c).trans hquote)
      ((isWordCharacter_toLower c).trans hword) ((isWhiteSpace_toLower c).trans hspace)
    · rwa [ne_eq, toLower_eq_iff hsemicolon]
    · rwa [toLower_eq_iff hdash, head?_map_toLower_iff hdash]
    · rwa [toLower_eq_iff hslash, head?_map_toLower_iff hstar]

/-- The piece with its letters made small. -/
def Piece.lowercase (p : Piece) : Piece :=
  ⟨p.kind, p.text.map Char.toLower⟩

lemma pieces_map_toLower (cs : List Char) :
    pieces (cs.map Char.toLower) = (pieces cs).map Piece.lowercase := by
  fun_induction pieces cs with
  | case1 => simp [pieces]
  | case2 c cs ih =>
    rw [List.map_cons, pieces, scan_toLower, ← List.map_take, ← List.map_drop, ih]
    rfl

/-- The token with the letters of its value made small. -/
def Token.lowercase (token : Token) : Token :=
  { token with value := Text.lowercase token.value }

lemma Piece.token_lowercase (p : Piece) (offset : Nat) :
    p.lowercase.token offset = (p.token offset).lowercase := by
  simp [Piece.lowercase, token, Token.lowercase, Text.lowercase]

lemma place_map_lowercase (offset : Nat) (ps : List Piece) :
    place offset (ps.map Piece.lowercase) = (place offset ps).map Token.lowercase := by
  induction ps generalizing offset with
  | nil => rfl
  | cons p ps ih =>
    have hlength : byteLength p.lowercase.text = byteLength p.text :=
      byteLength_map_toLower p.text
    rw [List.map_cons, place, p.token_lowercase, hlength, ih]
    rfl

/-- The tokens of a text in small letters are its tokens, with their values in small letters. -/
theorem tokenize_lowercase (input : String) :
    tokenize (Text.lowercase input) = (tokenize input).map Token.lowercase := by
  rw [tokenize_eq_place, Text.toList_lowercase, pieces_map_toLower, place_map_lowercase,
    ← tokenize_eq_place]

lemma utf8ByteSize_lowercase (text : String) :
    (Text.lowercase text).utf8ByteSize = text.utf8ByteSize := by
  rw [← Text.byteLength_toList, Text.toList_lowercase, byteLength_map_toLower,
    Text.byteLength_toList]

end SqlSplit
