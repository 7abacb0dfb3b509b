import Mathlib.Data.List.Basic
import Mathlib.Tactic.SplitIfs
import SqlSplit.Lexeme

/-!
# The shapes of a lexeme

Which lexeme stands at the head of a text is a matter of the first two characters.  `Shape` lists
the seven ways a lexeme can look, each with what it asks of these, and `scan_eq_iff` states that
the list is complete and that no two entries of it agree on a text.

`scan_append` is about a text in two parts.  A lexeme has to look beyond its own end to find it,
but what it finds there does not matter any further: a lexeme that ends within the first part of a
text is a lexeme of that part alone.  It never looks further than one character, so the converse
holds of a lexeme that ends before the first part does (`scan_append_of_lt`), and of the second part
nothing but its first character matters (`scan_append_of_head?`).
-/

namespace SqlSplit.Lexeme

/-! ## Plain characters -/

/-- The character opens neither a quotation nor a comment and is no semicolon. -/
structure IsPlain (c : Char) : Prop where
  ne_semicolon : c ≠ ';'
  ne_dash : c ≠ '-'
  ne_slash : c ≠ '/'
  isQuote_eq : isQuote c = false

lemma isQuote_iff {c : Char} : isQuote c = true ↔ c = '\x27' ∨ c = '\x22' ∨ c = '\x60' := by
  simp [isQuote, or_assoc]

/-- The characters that are not plain. -/
def specialCharacters : List Char :=
  [';', '-', '/', '\x27', '\x22', '\x60']

lemma isPlain_of_notMem {c : Char} (h : c ∉ specialCharacters) : IsPlain c := by
  have hne : ∀ d ∈ specialCharacters, c ≠ d := by
    rintro d hd rfl
    exact h hd
  refine ⟨hne ';' (by decide), hne '-' (by decide), hne '/' (by decide), ?_⟩
  rw [Bool.eq_false_iff, ne_eq, isQuote_iff]
  rintro (hq | hq | hq) <;> exact hne _ (by decide) hq

lemma isPlain_of_class {p : Char → Bool} {c : Char} (hc : p c = true)
    (h : specialCharacters.any p = false) : IsPlain c :=
  isPlain_of_notMem fun hmem => List.any_eq_false.1 h c hmem hc

lemma isPlain_of_isWordCharacter {c : Char} (h : isWordCharacter c = true) : IsPlain c :=
  isPlain_of_class h (by decide)

lemma isPlain_of_isWhiteSpace {c : Char} (h : Unicode.isWhiteSpace c = true) : IsPlain c :=
  isPlain_of_class h (by decide)

/-! ## Shapes -/

/-- The ways in which a lexeme can stand at the head of the text `c :: cs`. -/
inductive Shape (c : Char) (cs : List Char) : Lexeme → Prop
  | semicolon (hc : c = ';') : Shape c cs ⟨.semicolon, 0⟩
  | dashes (hc : c = '-') (hnext : cs.head? = some '-') :
      Shape c cs ⟨.inlineComment, toLineEnd cs⟩
  | slashStar (hc : c = '/') (hnext : cs.head? = some '*') :
      Shape c cs ⟨.blockComment, 1 + toCommentEnd cs.tail⟩
  | quoted (hc : isQuote c = true) : Shape c cs ⟨.string, toClosingQuote c cs⟩
  | word (hc : isWordCharacter c = true) :
      Shape c cs ⟨wordKind (String.ofList (c :: cs.takeWhile isWordCharacter)),
        (cs.takeWhile isWordCharacter).length⟩
  | space (hc : Unicode.isWhiteSpace c = true) (hword : isWordCharacter c = false) :
      Shape c cs ⟨.whitespace, (cs.takeWhile Unicode.isWhiteSpace).length⟩
  | single (hsemicolon : c ≠ ';') (hdashes : ¬ (c = '-' ∧ cs.head? = some '-'))
      (hstar : ¬ (c = '/' ∧ cs.head? = some '*')) (hquote : isQuote c = false)
      (hword : isWordCharacter c = false) (hspace : Unicode.isWhiteSpace c = false) :
      Shape c cs ⟨.unknown, 0⟩

variable {c : Char} {cs ds : List Char} {lexeme : Lexeme}

lemma shape_scan (c : Char) (cs : List Char) : Shape c cs (scan c cs) := by
  unfold scan
  split_ifs with hsemicolon hdashes hstar hquote hword hspace
  · exact .semicolon hsemicolon
  · exact .dashes hdashes.1 hdashes.2
  · exact .slashStar hstar.1 hstar.2
  · exact .quoted hquote
  · exact .word hword
  · exact .space hspace (Bool.eq_false_iff.2 hword)
  · exact .single hsemicolon hdashes hstar (Bool.eq_false_iff.2 hquote)
      (Bool.eq_false_iff.2 hword) (Bool.eq_false_iff.2 hspace)

lemma scan_eq_of_isPlain (h : IsPlain c) :
    scan c cs =
      if isWordCharacter c then
        ⟨wordKind (String.ofList (c :: cs.takeWhile isWordCharacter)),
          (cs.takeWhile isWordCharacter).length⟩
      else if Unicode.isWhiteSpace c then
        ⟨.whitespace, (cs.takeWhile Unicode.isWhiteSpace).length⟩
      else ⟨.unknown, 0⟩ := by
  have hdashes : ¬ (c = '-' ∧ cs.head? = some '-') := fun hc => h.ne_dash hc.1
  have hstar : ¬ (c = '/' ∧ cs.head? = some '*') := fun hc => h.ne_slash hc.1
  simp only [scan, if_neg h.ne_semicolon, if_neg hdashes, if_neg hstar, h.isQuote_eq,
    Bool.false_eq_true, if_false]

/-- Every lexeme has one of the shapes, and no text has two. -/
lemma scan_eq_iff : scan c cs = lexeme ↔ Shape c cs lexeme := by
  constructor
  · rintro rfl
    exact shape_scan c cs
  · intro h
    cases h with
    | semicolon hc => rw [scan, if_pos hc]
    | dashes hc hnext =>
      subst hc
      rw [scan, if_neg (by decide), if_pos ⟨rfl, hnext⟩]
    | slashStar hc hnext =>
      subst hc
      rw [scan, if_neg (by decide), if_neg (by simp), if_pos ⟨rfl, hnext⟩]
    | quoted hc =>
      rcases isQuote_iff.1 hc with rfl | rfl | rfl <;>
        rw [scan, if_neg (by decide), if_neg (by simp), if_neg (by simp), if_pos (by decide)]
    | word hc => rw [scan_eq_of_isPlain (isPlain_of_isWordCharacter hc), if_pos hc]
    | space hc hword =>
      rw [scan_eq_of_isPlain (isPlain_of_isWhiteSpace hc), if_neg (Bool.eq_false_iff.1 hword),
        if_pos hc]
    | single hsemicolon hdashes hstar hquote hword hspace =>
      simp only [scan, if_neg hsemicolon, if_neg hdashes, if_neg hstar, hquote, hword, hspace,
        Bool.false_eq_true, if_false]

/-! ## Extents within the first part of a text -/

lemma takeWhile_append_of_length_le {p : Char → Bool}
    (h : ((cs ++ ds).takeWhile p).length ≤ cs.length) :
    (cs ++ ds).takeWhile p = cs.takeWhile p := by
  rw [List.takeWhile_append] at h ⊢
  split_ifs at h ⊢ with hall
  · have hnil : ds.takeWhile p = [] := by
      rw [List.length_append] at h
      exact List.eq_nil_of_length_eq_zero (by omega)
    have hcs : cs.takeWhile p = cs := (List.takeWhile_prefix p).eq_of_length hall
    rw [hnil, hcs, List.append_nil]
  · rfl

lemma toClosingQuote_cons_of_ne {quote : Char} (hc : c ≠ quote) :
    toClosingQuote quote (c :: cs) = 1 + toClosingQuote quote cs := by
  cases cs <;> simp [toClosingQuote, hc]

/-- A quote before the end of the first part is doubled or closes the quotation there already.  One
at the end closes it, or the extent would be longer. -/
lemma toClosingQuote_append {quote : Char}
    (h : toClosingQuote quote (cs ++ ds) ≤ cs.length) :
    toClosingQuote quote (cs ++ ds) = toClosingQuote quote cs := by
  fun_induction toClosingQuote quote cs with
  | case1 => exact Nat.le_zero.1 h
  | case2 =>
    cases ds with
    | nil => simp [toClosingQuote]
    | cons d ds =>
      simp only [List.cons_append, List.nil_append, toClosingQuote, if_true, List.length_cons,
        List.length_nil] at h ⊢
      split_ifs at h ⊢ with hd
      · omega
      · rfl
  | case3 ds' ih =>
    simp only [List.cons_append, toClosingQuote, if_true, List.length_cons] at h ⊢
    rw [ih (by omega)]
  | case4 d ds' hd => simp [toClosingQuote, hd]
  | case5 c cs hc ih =>
    rw [List.cons_append, toClosingQuote_cons_of_ne hc] at h ⊢
    rw [ih (by rw [List.length_cons] at h; omega)]

lemma toCommentEnd_append (h : toCommentEnd (cs ++ ds) ≤ cs.length) :
    toCommentEnd (cs ++ ds) = toCommentEnd cs := by
  induction cs with
  | nil => exact Nat.le_zero.1 h
  | cons c cs ih =>
    rw [List.cons_append, toCommentEnd] at h ⊢
    rw [toCommentEnd]
    by_cases hfound : c = '*' ∧ (cs ++ ds).head? = some '/'
    · cases cs with
      | nil =>
        rw [if_pos hfound] at h
        simp at h
      | cons d cs =>
        have hfound' : c = '*' ∧ (d :: cs).head? = some '/' := hfound
        rw [if_pos hfound, if_pos hfound']
    · have hnone : ¬ (c = '*' ∧ cs.head? = some '/') := by
        rintro ⟨hc, hslash⟩
        exact hfound ⟨hc, by rw [List.head?_append, hslash]; rfl⟩
      rw [if_neg hfound] at h ⊢
      rw [if_neg hnone, ih (by rw [List.length_cons] at h; omega)]

/-- A lexeme that ends within the first part of a text is a lexeme of that part. -/
lemma scan_append (h : (scan c (cs ++ ds)).more ≤ cs.length) : scan c (cs ++ ds) = scan c cs := by
  have hhead : ∀ {d : Char}, cs.head? = some d → (cs ++ ds).head? = some d := by
    intro d hd
    rw [List.head?_append, hd]
    rfl
  refine (scan_eq_iff.2 ?_).symm
  generalize hscan : scan c (cs ++ ds) = lexeme at h ⊢
  cases scan_eq_iff.1 hscan with
  | semicolon hc => exact .semicolon hc
  | dashes hc hnext =>
    -- The second dash belongs to the lexeme, so it is in the first part.
    cases cs with
    | nil =>
      cases ds with
      | nil => cases hnext
      | cons d ds =>
        cases hnext
        simp [toLineEnd] at h
    | cons d cs =>
      simp only [toLineEnd] at h ⊢
      rw [takeWhile_append_of_length_le h]
      exact .dashes hc hnext
  | slashStar hc hnext =>
    cases cs with
    | nil => simp at h
    | cons d cs =>
      simp only [List.cons_append, List.tail_cons, List.length_cons] at h ⊢
      rw [toCommentEnd_append (by omega)]
      exact .slashStar hc hnext
  | quoted hc =>
    rw [toClosingQuote_append h]
    exact .quoted hc
  | word hc =>
    rw [takeWhile_append_of_length_le h]
    exact .word hc
  | space hc hword =>
    rw [takeWhile_append_of_length_le h]
    exact .space hc hword
  | single hsemicolon hdashes hstar hquote hword hspace =>
    exact .single hsemicolon (fun hc => hdashes ⟨hc.1, hhead hc.2⟩)
      (fun hc => hstar ⟨hc.1, hhead hc.2⟩) hquote hword hspace

/-! ## Extents before the end of the first part -/

lemma takeWhile_append_of_length_lt {p : Char → Bool} (h : (cs.takeWhile p).length < cs.length)
    (ds : List Char) : (cs ++ ds).takeWhile p = cs.takeWhile p := by
  rw [List.takeWhile_append, if_neg (Nat.ne_of_lt h)]

/-- A quotation that is closed before the end of the first part is closed there in the whole: the
character behind the closing quote is known, and is no quote. -/
lemma toClosingQuote_append_of_lt {quote : Char} (h : toClosingQuote quote cs < cs.length)
    (ds : List Char) : toClosingQuote quote (cs ++ ds) = toClosingQuote quote cs := by
  fun_induction toClosingQuote quote cs with
  | case1 => simp at h
  | case2 => simp at h
  | case3 ds' ih =>
    simp only [List.length_cons] at h
    simp only [List.cons_append, toClosingQuote, if_true]
    rw [ih (by omega)]
  | case4 d ds' hd => simp [toClosingQuote, hd]
  | case5 c cs hc ih =>
    rw [List.length_cons] at h
    rw [List.cons_append, toClosingQuote_cons_of_ne hc, ih (by omega)]

lemma toCommentEnd_append_of_lt (h : toCommentEnd cs < cs.length) (ds : List Char) :
    toCommentEnd (cs ++ ds) = toCommentEnd cs := by
  induction cs with
  | nil => simp at h
  | cons c cs ih =>
    by_cases hfound : c = '*' ∧ cs.head? = some '/'
    · have hwhole : c = '*' ∧ (cs ++ ds).head? = some '/' :=
        ⟨hfound.1, by rw [List.head?_append, hfound.2]; rfl⟩
      rw [List.cons_append, toCommentEnd, toCommentEnd, if_pos hfound, if_pos hwhole]
    · rw [toCommentEnd, if_neg hfound, List.length_cons] at h
      have hlt : toCommentEnd cs < cs.length := by omega
      have hwhole : ¬ (c = '*' ∧ (cs ++ ds).head? = some '/') := by
        rwa [List.head?_append_of_ne_nil _ (List.ne_nil_of_length_pos (by omega))]
      rw [List.cons_append, toCommentEnd, toCommentEnd, if_neg hfound, if_neg hwhole, ih hlt]

/-- A lexeme that ends before its text does is not changed by what is put behind the text. -/
lemma scan_append_of_lt (h : (scan c cs).more < cs.length) (ds : List Char) :
    scan c (cs ++ ds) = scan c cs := by
  have hhead : (cs ++ ds).head? = cs.head? :=
    List.head?_append_of_ne_nil _ (List.ne_nil_of_length_pos (by omega))
  refine scan_eq_iff.2 ?_
  generalize hscan : scan c cs = lexeme at h ⊢
  cases scan_eq_iff.1 hscan with
  | semicolon hc => exact .semicolon hc
  | dashes hc hnext =>
    have hend : toLineEnd (cs ++ ds) = toLineEnd cs := by
      rw [toLineEnd, takeWhile_append_of_length_lt h ds, toLineEnd]
    rw [← hend]
    exact .dashes hc (hhead.trans hnext)
  | slashStar hc hnext =>
    obtain ⟨cs', rfl⟩ := List.head?_eq_some_iff.1 hnext
    simp only [List.tail_cons, List.length_cons] at h ⊢
    have hend : toCommentEnd (cs' ++ ds) = toCommentEnd cs' :=
      toCommentEnd_append_of_lt (by omega) ds
    rw [← hend]
    exact .slashStar hc (hhead.trans hnext)
  | quoted hc =>
    rw [← toClosingQuote_append_of_lt h ds]
    exact .quoted hc
  | word hc =>
    rw [← takeWhile_append_of_length_lt h ds]
    exact .word hc
  | space hc hword =>
    rw [← takeWhile_append_of_length_lt h ds]
    exact .space hc hword
  | single hsemicolon hdashes hstar hquote hword hspace =>
    rw [← hhead] at hdashes hstar
    exact .single hsemicolon hdashes hstar hquote hword hspace

/-- Of what follows a lexeme, only the first character has a part in where it ends. -/
lemma scan_append_of_head? (h : (scan c (cs ++ ds)).more ≤ cs.length) {es : List Char}
    (hhead : es.head? = ds.head?) : scan c (cs ++ es) = scan c (cs ++ ds) := by
  cases ds with
  | nil => rw [List.head?_eq_none_iff.1 hhead]
  | cons d ds =>
    obtain ⟨es, rfl⟩ := List.head?_eq_some_iff.1 hhead
    have hlonger : ∀ xs, cs ++ d :: xs = cs ++ [d] ++ xs := by simp
    rw [hlonger] at h
    -- The lexeme ends before the character that the two texts share.
    have hshort := scan_append (Nat.le_trans h (by simp))
    rw [hshort] at h
    have hlt : (scan c (cs ++ [d])).more < (cs ++ [d]).length := by
      simp only [List.length_append, List.length_singleton]
      omega
    rw [hlonger es, hlonger ds, scan_append_of_lt hlt, hshort]

end SqlSplit.Lexeme
