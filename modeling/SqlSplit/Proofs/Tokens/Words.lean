import Mathlib.Data.List.TakeWhile
import SqlSplit.Proofs.Tokens.Pieces

/-!
# Keywords in a text

A keyword is a run of characters before it is a token.  `Keyword.Opens` says of a text that it
opens with a keyword, and means by this a longest run of word characters: `SELECT1` does not open
with `SELECT`.  `opens_iff` states that this is so exactly if the first piece of the text is the
keyword.

The kind of a piece is a matter of its characters in the other direction too.  Only a word can
spell a keyword (`kind_eq_of_ofWord?`), so a token that is no keyword never has the value of one.
-/

namespace SqlSplit

open Lexeme (isWordCharacter)
open Unicode (isWhiteSpace)

/-! ## Letters and white space -/

lemma isWordCharacter_of_range {r : Nat × Nat} (hr : r ∈ Unicode.alphanumeric) {c : Char}
    (hlo : r.1 ≤ c.toNat) (hhi : c.toNat ≤ r.2) : isWordCharacter c = true := by
  have hrange : Unicode.isAlphanumeric c = true :=
    (Unicode.inRanges_iff Unicode.alphanumeric_rising c.toNat).2 ⟨r, hr, hlo, hhi⟩
  rw [isWordCharacter, hrange]
  rfl

lemma isWordCharacter_of_toLower {c : Char} (h : isWordCharacter c.toLower = true) :
    isWordCharacter c = true := by
  by_cases hupper : c.val ≥ 'A'.val ∧ c.val ≤ 'Z'.val
  · exact isWordCharacter_of_range (r := (0x41, 0x5A)) (by decide +kernel)
      (UInt32.le_iff_toNat_le.1 hupper.1) (UInt32.le_iff_toNat_le.1 hupper.2)
  · have hsame : c.toLower = c := dif_neg hupper
    rwa [hsame] at h

lemma isWordCharacter_of_isWhiteSpace {c : Char} (h : isWhiteSpace c = true) :
    isWordCharacter c = false := by
  have hnone : ∀ r ∈ Unicode.whiteSpace, ∀ n ∈ List.range' r.1 (r.2 + 1 - r.1),
      Unicode.inRanges Unicode.alphanumeric n = false := by
    decide +kernel
  obtain ⟨r, hr, hlo, hhi⟩ := (Unicode.inRanges_iff Unicode.whiteSpace_rising c.toNat).1 h
  have halphanumeric : Unicode.isAlphanumeric c = false :=
    hnone r hr c.toNat (List.mem_range'_1.2 ⟨hlo, by omega⟩)
  have hne : ∀ d, isWhiteSpace d = false → c ≠ d := by
    rintro d hd rfl
    rw [h] at hd
    cases hd
  simp [isWordCharacter, halphanumeric, hne '_' (by decide), hne '$' (by decide)]

/-- What spells a keyword is made of word characters. -/
lemma isWordCharacter_of_ofWord? {w : List Char} {word : Keyword}
    (h : Keyword.ofWord? (String.ofList w) = some word) : ∀ c ∈ w, isWordCharacter c = true := by
  have hspelling : (word.spelling.toList.map Char.toLower).all isWordCharacter = true := by
    cases word <;> decide
  have hsame := Text.eqIgnoringCase_iff.1 (Keyword.ofWord?_eq_some_iff.1 h)
  rw [hsame, String.toList_ofList, List.all_eq_true] at hspelling
  intro c hc
  exact isWordCharacter_of_toLower (hspelling _ (List.mem_map_of_mem hc))

lemma ne_nil_of_ofWord? {w : List Char} {word : Keyword}
    (h : Keyword.ofWord? (String.ofList w) = some word) : w ≠ [] := by
  have hspelling : word.spelling.toList ≠ [] := by
    cases word <;> decide
  have hsame := Text.eqIgnoringCase_iff.1 (Keyword.ofWord?_eq_some_iff.1 h)
  rintro rfl
  rw [String.toList_ofList, List.map_nil, List.map_eq_nil_iff] at hsame
  exact hspelling hsame

/-! ## The first piece of a text -/

variable {c : Char} {cs rest : List Char} {p : Piece} {word : Keyword}

lemma takeWhile_append_of_head? {q : Char → Bool} {w : List Char} (hw : ∀ c ∈ w, q c = true)
    (hrest : ∀ c, rest.head? = some c → q c = false) : (w ++ rest).takeWhile q = w := by
  have hnil : rest.takeWhile q = [] := by
    cases rest with
    | nil => rfl
    | cons c cs => simp [hrest c rfl]
  rw [List.takeWhile_append_of_pos hw, hnil, List.append_nil]

lemma take_length_takeWhile (q : Char → Bool) (cs : List Char) :
    cs.take (cs.takeWhile q).length = cs.takeWhile q :=
  (List.prefix_iff_eq_take.1 (List.takeWhile_prefix q)).symm

lemma drop_length_takeWhile (q : Char → Bool) (cs : List Char) :
    cs.drop (cs.takeWhile q).length = cs.dropWhile q := by
  have hdrop : (cs.takeWhile q ++ cs.dropWhile q).drop (cs.takeWhile q).length = cs.dropWhile q :=
    List.drop_left
  rwa [List.takeWhile_append_dropWhile] at hdrop

/-- A longest run of characters is a piece of its own, if runs of them are lexemes. -/
lemma pieces_append_of_shape {w : List Char} {kind : TokenKind}
    (h : Lexeme.Shape c (w ++ rest) ⟨kind, w.length⟩) :
    pieces (c :: w ++ rest) = ⟨kind, c :: w⟩ :: pieces rest := by
  rw [List.cons_append, pieces, Lexeme.scan_eq_iff.2 h, List.take_left, List.drop_left]

lemma scan_eq_of_pieces {w : List Char} {kind : TokenKind} {ps : List Piece}
    (h : pieces (c :: w ++ rest) = ⟨kind, c :: w⟩ :: ps) :
    Lexeme.scan c (w ++ rest) = ⟨kind, w.length⟩ := by
  rw [List.cons_append, pieces] at h
  obtain ⟨hpiece, -⟩ := List.cons.inj h
  obtain ⟨hkind, htext⟩ := Piece.mk.inj hpiece
  have hlength := congrArg List.length (List.cons.inj htext).2
  have hle := Lexeme.more_scan_le c (w ++ rest)
  rw [List.length_take, Nat.min_eq_left hle] at hlength
  rw [← hkind, ← hlength]

/-- The piece is the keyword, in any mix of cases. -/
def Piece.Spells (p : Piece) (word : Keyword) : Prop :=
  p.kind = .keyword ∧ Text.eqIgnoringCase word.spelling (String.ofList p.text) = true

/-- The text opens with the keyword, in any mix of cases, as a longest run of word characters, and
goes on with the rest. -/
def Keyword.Opens (word : Keyword) (cs rest : List Char) : Prop :=
  ∃ w, cs = w ++ rest ∧ (∀ c ∈ w, isWordCharacter c = true) ∧
    (∀ c, rest.head? = some c → isWordCharacter c = false) ∧
    Text.eqIgnoringCase word.spelling (String.ofList w) = true

lemma head?_of_opens (h : word.Opens cs rest) :
    ∃ c, cs.head? = some c ∧ isWordCharacter c = true := by
  obtain ⟨w, rfl, hw, -, hspells⟩ := h
  have hne := ne_nil_of_ofWord? (Keyword.ofWord?_eq_some_iff.2 hspells)
  obtain ⟨c, w, rfl⟩ := List.exists_cons_of_ne_nil hne
  exact ⟨c, rfl, hw c List.mem_cons_self⟩

lemma isWhiteSpace_of_head? (h : ∃ c, cs.head? = some c ∧ isWordCharacter c = true) :
    ∀ c, cs.head? = some c → isWhiteSpace c = false := by
  obtain ⟨d, hd, hword⟩ := h
  intro c hc
  obtain rfl : d = c := Option.some.inj (hd.symm.trans hc)
  refine Bool.eq_false_iff.2 fun hspace => ?_
  rw [isWordCharacter_of_isWhiteSpace hspace] at hword
  cases hword

/-- A text opens with a keyword exactly if its first piece is the keyword. -/
theorem opens_iff : word.Opens cs rest ↔ ∃ p, p.Spells word ∧ pieces cs = p :: pieces rest := by
  constructor
  · rintro ⟨w, rfl, hw, hrest, hspells⟩
    have hword := Keyword.ofWord?_eq_some_iff.2 hspells
    obtain ⟨c, w, rfl⟩ := List.exists_cons_of_ne_nil (ne_nil_of_ofWord? hword)
    obtain ⟨hc, hw⟩ := List.forall_mem_cons.1 hw
    have hkind : Lexeme.wordKind (String.ofList (c :: w)) = .keyword := by
      rw [Lexeme.wordKind, hword]
    refine ⟨⟨.keyword, c :: w⟩, ⟨rfl, hspells⟩, pieces_append_of_shape ?_⟩
    have hshape : Lexeme.Shape c (w ++ rest) _ := .word hc
    rwa [takeWhile_append_of_head? hw hrest, hkind] at hshape
  · rintro ⟨p, ⟨hkind, hspells⟩, hpieces⟩
    have hword := Keyword.ofWord?_eq_some_iff.2 hspells
    have hcs : cs = p.text ++ rest := by
      rw [← chars_pieces cs, hpieces, Piece.chars_cons, chars_pieces]
    refine ⟨p.text, hcs, isWordCharacter_of_ofWord? hword, ?_, hspells⟩
    obtain ⟨c, w, hw⟩ := List.exists_cons_of_ne_nil (ne_nil_of_ofWord? hword)
    have hc : isWordCharacter c = true := by
      refine isWordCharacter_of_ofWord? hword c ?_
      rw [hw]
      exact List.mem_cons_self
    -- The piece is the lexeme of a word, so it reaches as far as word characters do.
    have hshape : Lexeme.Shape c (w ++ rest) _ := .word hc
    rw [hcs, hw, List.cons_append, pieces, Lexeme.scan_eq_iff.2 hshape] at hpieces
    have hrest := congrArg Piece.chars (List.cons.inj hpieces).2
    rw [chars_pieces, chars_pieces, drop_length_takeWhile] at hrest
    have hnot := List.head?_dropWhile_not isWordCharacter (w ++ rest)
    intro d hd
    rwa [hrest, hd] at hnot

lemma wordKind_ne_whitespace (w : String) : Lexeme.wordKind w ≠ .whitespace := by
  unfold Lexeme.wordKind
  split <;> simp

lemma isWhiteSpace_of_mem_pieces (h : p ∈ pieces cs) (hkind : p.kind = .whitespace) :
    ∀ c ∈ p.text, isWhiteSpace c = true := by
  obtain ⟨c, ds, rfl⟩ := exists_of_mem_pieces h
  generalize hscan : Lexeme.scan c ds = lexeme at hkind ⊢
  cases Lexeme.scan_eq_iff.1 hscan with
  | space hc hword =>
    rw [take_length_takeWhile]
    exact List.forall_mem_cons.2 ⟨hc, fun d hd => List.mem_takeWhile_imp hd⟩
  | word hc =>
    simp only at hkind
    exact absurd hkind (wordKind_ne_whitespace _)
  | _ => cases hkind

/-- White space ends where something else begins. -/
lemma pieces_append_of_space {as bs : List Char}
    (has : (pieces as).getLast?.map Piece.kind = some .whitespace)
    (hbs : ∀ c, bs.head? = some c → isWhiteSpace c = false) :
    pieces (as ++ bs) = pieces as ++ pieces bs := by
  obtain ⟨p, hlast, hkind⟩ := Option.map_eq_some_iff.1 has
  obtain ⟨ps, hpieces⟩ := List.getLast?_eq_some_iff.1 hlast
  have hmem : p ∈ pieces as := List.mem_of_getLast? hlast
  have hspace := isWhiteSpace_of_mem_pieces hmem hkind
  obtain ⟨c, w, hw⟩ := List.exists_cons_of_ne_nil (ne_nil_of_mem_pieces hmem)
  rw [hw] at hspace
  obtain ⟨hc, hspace⟩ := List.forall_mem_cons.1 hspace
  have hshape : Lexeme.Shape c (w ++ bs) _ := .space hc (isWordCharacter_of_isWhiteSpace hc)
  rw [takeWhile_append_of_head? hspace hbs] at hshape
  have hlastPiece : (⟨.whitespace, c :: w⟩ : Piece) = p := by
    rw [← hkind, ← hw]
  rw [pieces_append hpieces, hpieces, hw, pieces_append_of_shape hshape, hlastPiece,
    List.append_assoc, List.singleton_append]

lemma head?_text_of_mem_pieces (h : p ∈ pieces cs) (hkind : p.kind ≠ .whitespace) :
    ∃ c, p.text.head? = some c ∧ isWhiteSpace c = false := by
  obtain ⟨c, ds, rfl⟩ := exists_of_mem_pieces h
  refine ⟨c, rfl, Bool.eq_false_iff.2 fun hc => hkind ?_⟩
  have hshape : Lexeme.Shape c ds _ := .space hc (isWordCharacter_of_isWhiteSpace hc)
  simp only [Lexeme.scan_eq_iff.2 hshape]

lemma kind_eq_of_ofWord? (h : p ∈ pieces cs)
    (hword : Keyword.ofWord? (String.ofList p.text) = some word) : p.kind = .keyword := by
  obtain ⟨c, ds, rfl⟩ := exists_of_mem_pieces h
  have hc := isWordCharacter_of_ofWord? hword c List.mem_cons_self
  have hshape : Lexeme.Shape c ds _ := .word hc
  rw [Lexeme.scan_eq_iff.2 hshape] at hword ⊢
  simp only [take_length_takeWhile] at hword
  simp only [Lexeme.wordKind, hword]

/-- A token whose value is a keyword is of this kind. -/
theorem Token.kind_eq_of_ofWord? {token : Token} (h : token.piece ∈ pieces cs)
    (hword : Keyword.ofWord? token.value = some word) : token.kind = .keyword := by
  have hspells : Keyword.ofWord? (String.ofList token.piece.text) = some word := by
    rwa [piece, String.ofList_toList]
  exact SqlSplit.kind_eq_of_ofWord? h hspells

end SqlSplit
