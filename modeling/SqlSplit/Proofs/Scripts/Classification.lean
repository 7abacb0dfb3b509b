import SqlSplit.Proofs.Scripts.Excerpts
import SqlSplit.Proofs.Scripts.Modes

/-!
# What a statement says of its type

The type of a statement can be read off its text.  `Says` is the rule, on characters alone: a word
that settles a type, a verb with white space and an object behind it, or a verb with nothing behind
it.  A text says one type at most (`Says.unique`), because a longest run of word characters ends at
one place only, and so does a longest run of white space.

`Sentence.Derives.fits` ties the grammar of tokens to this rule.  A statement of the grammar is of
the type that its text says, or its text says no type and it is of unknown type.
`parse_classifies` states it for every script that has been read.
-/

namespace SqlSplit

open Unicode (isWhiteSpace)

/-! ## Types that a text says -/

/-- The first word of the text is the keyword. -/
def Keyword.IsFirstOf (word : Keyword) (cs : List Char) : Prop :=
  ∃ rest, word.Opens cs rest

/-- The text opens with the verb, goes on with white space, and with the keyword behind it. -/
def ObjectVerb.OpensWith (verb : ObjectVerb) (word : Keyword) (cs : List Char) : Prop :=
  ∃ spaces behind, verb.keyword.Opens cs (spaces ++ behind) ∧ spaces ≠ [] ∧
    (∀ c ∈ spaces, isWhiteSpace c = true) ∧ word.IsFirstOf behind

/-- Nothing is left of a statement, or its semicolon. -/
def IsEnd (cs : List Char) : Prop :=
  cs = [] ∨ cs = [';']

/-- Behind the verb there is at most white space before the statement ends. -/
def ObjectVerb.IsBareIn (verb : ObjectVerb) (cs : List Char) : Prop :=
  ∃ spaces behind, verb.keyword.Opens cs (spaces ++ behind) ∧
    (∀ c ∈ spaces, isWhiteSpace c = true) ∧ IsEnd behind

/-- The text of a statement says the type, or that there is none. -/
inductive Says (cs : List Char) : Option StatementType → Prop
  | word {word : Keyword} {type : StatementType} (htype : word.type? = some type)
      (hfirst : word.IsFirstOf cs) : Says cs (some type)
  | object {verb : ObjectVerb} {word : Keyword} {type : StatementType}
      (htype : verb.typeWith? word = some type) (hopens : verb.OpensWith word cs) :
      Says cs (some type)
  | bare {verb : ObjectVerb} (hbare : verb.IsBareIn cs) : Says cs none

variable {cs rest rest' behind behind' : List Char} {word word' : Keyword}
  {verb verb' : ObjectVerb} {type : StatementType} {type? type?' : Option StatementType}

/-! ## No text says two types -/

lemma ObjectVerb.type?_keyword (verb : ObjectVerb) : verb.keyword.type? = none := by
  cases verb <;> rfl

lemma ObjectVerb.eq_of_keyword_eq (h : verb.keyword = verb'.keyword) : verb = verb' := by
  revert h
  cases verb <;> cases verb' <;> decide

/-- A text opens with one keyword at most, which ends at one place. -/
lemma Keyword.Opens.unique (h : word.Opens cs rest) (h' : word'.Opens cs rest') :
    word = word' ∧ rest = rest' := by
  obtain ⟨p, ⟨-, hspells⟩, hpieces⟩ := opens_iff.1 h
  obtain ⟨p', ⟨-, hspells'⟩, hpieces'⟩ := opens_iff.1 h'
  obtain ⟨rfl, hrest⟩ := List.cons.inj (hpieces.symm.trans hpieces')
  rw [← ofWord?_eq_some_iff] at hspells hspells'
  refine ⟨Option.some.inj (hspells.symm.trans hspells'), ?_⟩
  rw [← chars_pieces rest, hrest, chars_pieces]

/-- The text opens with the verb, and this stands behind the white space that follows. -/
def ObjectVerb.Leaves (verb : ObjectVerb) (cs behind : List Char) : Prop :=
  ∃ spaces, verb.keyword.Opens cs (spaces ++ behind) ∧ (∀ c ∈ spaces, isWhiteSpace c = true) ∧
    ∀ c, behind.head? = some c → isWhiteSpace c = false

lemma ObjectVerb.Leaves.unique (h : verb.Leaves cs behind) (h' : verb'.Leaves cs behind') :
    verb = verb' ∧ behind = behind' := by
  obtain ⟨spaces, hopens, hspaces, hbehind⟩ := h
  obtain ⟨spaces', hopens', hspaces', hbehind'⟩ := h'
  obtain ⟨hkeyword, hrest⟩ := hopens.unique hopens'
  have hsame : spaces = spaces' := by
    rw [← takeWhile_append_of_head? hspaces hbehind, hrest,
      takeWhile_append_of_head? hspaces' hbehind']
  rw [hsame] at hrest
  exact ⟨eq_of_keyword_eq hkeyword, List.append_cancel_left hrest⟩

lemma ObjectVerb.Leaves.isFirstOf (h : verb.Leaves cs behind) : verb.keyword.IsFirstOf cs := by
  obtain ⟨spaces, hopens, -, -⟩ := h
  exact ⟨_, hopens⟩

lemma ObjectVerb.OpensWith.exists_leaves (h : verb.OpensWith word cs) :
    ∃ behind, verb.Leaves cs behind ∧ word.IsFirstOf behind := by
  obtain ⟨spaces, behind, hopens, -, hspaces, hfirst⟩ := h
  refine ⟨behind, ⟨spaces, hopens, hspaces, ?_⟩, hfirst⟩
  obtain ⟨rest, hword⟩ := hfirst
  obtain ⟨c, hhead, hc⟩ := head?_of_opens hword
  intro d hd
  rw [hhead] at hd
  cases hd
  exact Bool.eq_false_iff.2 fun hspace => by simp [isWordCharacter_of_isWhiteSpace hspace] at hc

lemma ObjectVerb.IsBareIn.exists_leaves (h : verb.IsBareIn cs) :
    ∃ behind, verb.Leaves cs behind ∧ IsEnd behind := by
  obtain ⟨spaces, behind, hopens, hspaces, hend⟩ := h
  refine ⟨behind, ⟨spaces, hopens, hspaces, ?_⟩, hend⟩
  rcases hend with rfl | rfl
  · simp
  · simp only [List.head?_cons, Option.some.injEq, forall_eq']
    decide

lemma Keyword.IsFirstOf.not_isEnd (h : word.IsFirstOf cs) : ¬ IsEnd cs := by
  obtain ⟨rest, hopens⟩ := h
  obtain ⟨c, hhead, hc⟩ := head?_of_opens hopens
  rintro (rfl | rfl)
  · cases hhead
  · cases hhead
    exact absurd hc (by decide)

/-- What is left behind a verb settles the type: a keyword for an object, or the end. -/
inductive ObjectVerb.Settles (verb : ObjectVerb) (behind : List Char) : Option StatementType → Prop
  | object {word : Keyword} {type : StatementType} (htype : verb.typeWith? word = some type)
      (hfirst : word.IsFirstOf behind) : Settles verb behind (some type)
  | bare (hend : IsEnd behind) : Settles verb behind none

lemma Keyword.IsFirstOf.unique (h : word.IsFirstOf cs) (h' : word'.IsFirstOf cs) :
    word = word' := by
  obtain ⟨rest, hopens⟩ := h
  obtain ⟨rest', hopens'⟩ := h'
  exact (hopens.unique hopens').1

lemma ObjectVerb.Settles.unique (h : verb.Settles behind type?) (h' : verb.Settles behind type?') :
    type? = type?' := by
  cases h with
  | object htype hfirst =>
    cases h' with
    | object htype' hfirst' => rw [← htype, ← htype', hfirst.unique hfirst']
    | bare hend' => exact (hfirst.not_isEnd hend').elim
  | bare hend =>
    cases h' with
    | object htype' hfirst' => exact (hfirst'.not_isEnd hend).elim
    | bare hend' => rfl

/-- The first word settles the type, or it is a verb and what it leaves settles the type. -/
lemma Says.word_or_verb (h : Says cs type?) :
    (∃ word : Keyword, word.IsFirstOf cs ∧ word.type? = type? ∧ type? ≠ none) ∨
      ∃ verb behind, ObjectVerb.Leaves verb cs behind ∧ verb.Settles behind type? := by
  cases h with
  | word htype hfirst => exact .inl ⟨_, hfirst, htype, by simp⟩
  | object htype hopens =>
    obtain ⟨behind, hleaves, hfirst⟩ := hopens.exists_leaves
    exact .inr ⟨_, behind, hleaves, .object htype hfirst⟩
  | bare hbare =>
    obtain ⟨behind, hleaves, hend⟩ := hbare.exists_leaves
    exact .inr ⟨_, behind, hleaves, .bare hend⟩

lemma ObjectVerb.Leaves.type?_eq_none (h : verb.Leaves cs behind) (hfirst : word.IsFirstOf cs) :
    word.type? = none := by
  rw [hfirst.unique h.isFirstOf, verb.type?_keyword]

/-- A text says one type at most. -/
theorem Says.unique (h : Says cs type?) (h' : Says cs type?') : type? = type?' := by
  rcases h.word_or_verb with ⟨word, hfirst, rfl, hne⟩ | ⟨verb, behind, hleaves, hsettles⟩
  · rcases h'.word_or_verb with ⟨word', hfirst', rfl, -⟩ | ⟨verb', behind', hleaves', -⟩
    · rw [hfirst.unique hfirst']
    · exact (hne (hleaves'.type?_eq_none hfirst)).elim
  · rcases h'.word_or_verb with ⟨word', hfirst', rfl, hne'⟩ | ⟨verb', behind', hleaves', hsettles'⟩
    · exact (hne' (hleaves.type?_eq_none hfirst')).elim
    · obtain ⟨rfl, rfl⟩ := hleaves.unique hleaves'
      exact hsettles.unique hsettles'

/-! ## What says a type -/

lemma Keyword.eq_of_type?_eq (h : word.type? = some type) (h' : word'.type? = some type) :
    word = word' := by
  cases word <;> cases h <;> cases word' <;> cases h' <;> rfl

lemma ObjectVerb.eq_of_typeWith?_eq (h : verb.typeWith? word = some type)
    (h' : verb'.typeWith? word' = some type) : verb = verb' ∧ word = word' := by
  cases verb <;> cases word <;> cases h <;> cases verb' <;> cases word' <;> cases h' <;>
    exact ⟨rfl, rfl⟩

/-- No type is settled both by a word alone and by an object. -/
lemma ObjectVerb.type?_ne_of_typeWith? (h : verb.typeWith? word = some type) :
    word'.type? ≠ some type := by
  intro h'
  cases verb <;> cases word <;> cases h <;> cases word' <;> cases h'

lemma Says.word_iff (htype : word.type? = some type) :
    Says cs (some type) ↔ word.IsFirstOf cs := by
  refine ⟨fun h => ?_, .word htype⟩
  generalize htype? : some type = type? at h
  cases h with
  | word htype' hfirst =>
    cases htype?
    rwa [Keyword.eq_of_type?_eq htype htype']
  | object htype' hopens =>
    cases htype?
    exact (ObjectVerb.type?_ne_of_typeWith? htype' htype).elim
  | bare hbare => cases htype?

lemma Says.object_iff (htype : verb.typeWith? word = some type) :
    Says cs (some type) ↔ verb.OpensWith word cs := by
  refine ⟨fun h => ?_, .object htype⟩
  generalize htype? : some type = type? at h
  cases h with
  | word htype' hfirst =>
    cases htype?
    exact (ObjectVerb.type?_ne_of_typeWith? htype htype').elim
  | object htype' hopens =>
    cases htype?
    obtain ⟨rfl, rfl⟩ := ObjectVerb.eq_of_typeWith?_eq htype htype'
    exact hopens
  | bare hbare => cases htype?

lemma Says.none_iff : Says cs none ↔ ∃ verb : ObjectVerb, verb.IsBareIn cs := by
  constructor
  · intro h
    cases h with
    | bare hbare => exact ⟨_, hbare⟩
  · rintro ⟨verb, hbare⟩
    exact .bare hbare

lemma Says.ne_unknown (h : Says cs type?) : type? ≠ some .unknown ∧ type? ≠ some .incomplete := by
  cases h with
  | word htype hfirst => simpa using Keyword.known_of_type? htype
  | object htype hopens => simpa using ObjectVerb.known_of_typeWith? htype
  | bare hbare => simp

/-! ## The text of tokens -/

section

variable {mode : Mode} {first object : Token} {spaces more tail xs ys : List Token}

lemma Token.spells_piece_iff {token : Token} : token.piece.Spells word ↔ token.Spells word := by
  rw [Piece.Spells, piece, String.ofList_toList, Spells]

lemma exists_append_of_pieces (h : pieces cs = (xs ++ ys).map Token.piece) :
    ∃ as bs, cs = as ++ bs ∧ pieces as = xs.map Token.piece ∧ pieces bs = ys.map Token.piece := by
  rw [List.map_append] at h
  obtain ⟨has, hbs⟩ := pieces_of_append h
  refine ⟨_, _, ?_, has, hbs⟩
  rw [← Piece.chars_append, ← h, chars_pieces]

lemma exists_opens (h : pieces cs = (first :: more).map Token.piece) (hfirst : first.Spells word) :
    ∃ rest, word.Opens cs rest ∧ pieces rest = more.map Token.piece := by
  have hsplit : pieces cs = ([first] ++ more).map Token.piece := h
  obtain ⟨as, rest, rfl, -, hrest⟩ := exists_append_of_pieces hsplit
  refine ⟨rest, opens_iff.2 ⟨first.piece, Token.spells_piece_iff.2 hfirst, ?_⟩, hrest⟩
  rw [h, hrest, List.map_cons]

lemma Keyword.IsFirstOf.spells (hfirst : word.IsFirstOf cs)
    (h : pieces cs = (first :: more).map Token.piece) : first.Spells word := by
  obtain ⟨rest, hopens⟩ := hfirst
  obtain ⟨p, hspells, hpieces⟩ := opens_iff.1 hopens
  obtain ⟨rfl, -⟩ := List.cons.inj (hpieces.symm.trans h)
  exact Token.spells_piece_iff.1 hspells

lemma isWhiteSpace_of_allSpace (h : pieces cs = spaces.map Token.piece)
    (hspaces : AllSpace spaces) : ∀ c ∈ cs, isWhiteSpace c = true := by
  intro c hc
  rw [← chars_pieces cs] at hc
  obtain ⟨p, hp, hcp⟩ := List.mem_flatMap.1 hc
  have htoken := hp
  rw [h] at htoken
  obtain ⟨token, hmem, rfl⟩ := List.mem_map.1 htoken
  exact isWhiteSpace_of_mem_pieces hp (hspaces token hmem) c hcp

lemma exists_opens_space (h : pieces cs = (first :: (spaces ++ more)).map Token.piece)
    (hfirst : first.Spells word) (hspaces : AllSpace spaces) :
    ∃ white behind, word.Opens cs (white ++ behind) ∧ (∀ c ∈ white, isWhiteSpace c = true) ∧
      (spaces ≠ [] → white ≠ []) ∧ pieces behind = more.map Token.piece := by
  obtain ⟨rest, hopens, hrest⟩ := exists_opens h hfirst
  obtain ⟨white, behind, rfl, hwhite, hbehind⟩ := exists_append_of_pieces hrest
  refine ⟨white, behind, hopens, isWhiteSpace_of_allSpace hwhite hspaces, ?_, hbehind⟩
  rintro hne rfl
  rw [pieces] at hwhite
  exact hne (List.map_eq_nil_iff.1 hwhite.symm)

lemma IsTail.isEnd (htail : IsTail tail) (h : pieces cs = tail.map Token.piece) : IsEnd cs := by
  rcases htail with rfl | ⟨semicolon, hkind, rfl⟩
  · left
    rw [← chars_pieces cs, h]
    rfl
  · right
    have hpiece : semicolon.piece = Piece.semicolon :=
      eq_semicolon_of_mem_pieces (by rw [h]; exact List.mem_singleton_self _) hkind
    rw [← chars_pieces cs, h, List.map_singleton, hpiece]
    rfl

/-- A text that ends a statement has no token but a semicolon. -/
lemma IsEnd.kind_eq (hend : IsEnd cs) (h : pieces cs = (first :: more).map Token.piece) :
    first.kind = .semicolon := by
  rcases hend with rfl | rfl
  · rw [pieces] at h
    cases h
  · rw [pieces_semicolon_cons] at h
    exact (congrArg Piece.kind (List.cons.inj h).1).symm

/-! ## What a statement says -/

lemma says_of_object (h : pieces cs = (first :: (spaces ++ object :: more)).map Token.piece)
    (hfirst : first.Spells verb.keyword) (hne : spaces ≠ []) (hspaces : AllSpace spaces)
    (hobject : object.Spells word) (htype : verb.typeWith? word = some type) :
    Says cs (some type) := by
  obtain ⟨white, behind, hopens, hwhite, hnonempty, hbehind⟩ := exists_opens_space h hfirst hspaces
  obtain ⟨rest, hword, -⟩ := exists_opens hbehind hobject
  exact .object htype ⟨white, behind, hopens, hnonempty hne, hwhite, rest, hword⟩

lemma Says.exists_isFirstOf (h : Says cs type?) : ∃ word : Keyword, word.IsFirstOf cs := by
  rcases h.word_or_verb with ⟨word, hfirst, -⟩ | ⟨verb, behind, hleaves, -⟩
  · exact ⟨word, hfirst⟩
  · exact ⟨verb.keyword, hleaves.isFirstOf⟩

/-- A text whose first token is no keyword says no type. -/
lemma not_says_of_kind (h : pieces cs = (first :: more).map Token.piece)
    (hkind : first.kind ≠ .keyword) : ¬ Says cs type? := by
  intro hsaid
  obtain ⟨word, hfirst⟩ := hsaid.exists_isFirstOf
  exact hkind (hfirst.spells h).1

/-- A verb with something behind it that is no object says no type. -/
lemma not_says_of_not_object
    (h : pieces cs = (first :: (spaces ++ object :: more)).map Token.piece)
    (hfirst : first.Spells verb.keyword) (hspaces : AllSpace spaces)
    (hspace : object.kind ≠ .whitespace) (hsemicolon : object.kind ≠ .semicolon)
    (hobject : object.isObject = false) : ¬ Says cs type? := by
  obtain ⟨white, behind, hopens, hwhite, -, hbehind⟩ := exists_opens_space h hfirst hspaces
  have hleaves : verb.Leaves cs behind := by
    refine ⟨white, hopens, hwhite, ?_⟩
    have hmem : object.piece ∈ pieces behind := by simp [hbehind]
    obtain ⟨c, hhead, hc⟩ := head?_text_of_mem_pieces hmem hspace
    intro d hd
    rw [← chars_pieces behind, hbehind, List.map_cons, Piece.chars_cons, List.head?_append, hhead]
      at hd
    cases hd
    exact hc
  -- What the verb leaves begins with a token that neither names an object nor ends the statement.
  intro hsaid
  rcases hsaid.word_or_verb with ⟨word, hword, rfl, hne⟩ | ⟨verb', behind', hleaves', hsettles⟩
  · exact hne (hleaves.type?_eq_none hword)
  · obtain ⟨rfl, rfl⟩ := hleaves.unique hleaves'
    cases hsettles with
    | @object word type htype hword =>
      rw [verb.isObject_iff.2 ⟨word, type, hword.spells hbehind, htype⟩] at hobject
      cases hobject
    | bare hend => exact hsemicolon (hend.kind_eq hbehind)

/-- The text says the type, or it says none and the type is unknown. -/
def Fits (mode : Mode) (cs : List Char) (type? : Option StatementType) : Prop :=
  Says cs type? ∨ mode = .lenient ∧ type? = some .unknown ∧ ∀ type?', ¬ Says cs type?'

/-- A sentence of the grammar is of the type that its text says. -/
theorem Sentence.Derives.fits {sentence : Sentence} (h : sentence.Derives mode)
    (hpieces : pieces cs = (sentence.tokens ++ tail).map Token.piece) (htail : IsTail tail) :
    Fits mode cs sentence.type? := by
  cases h with
  | word hfirst htype hrest =>
    obtain ⟨rest, hopens, -⟩ := exists_opens hpieces hfirst
    exact .inl (.word htype ⟨rest, hopens⟩)
  | bare hfirst hspaces =>
    obtain ⟨white, behind, hopens, hwhite, -, hbehind⟩ :=
      exists_opens_space hpieces hfirst hspaces
    exact .inl (.bare ⟨white, behind, hopens, hwhite, htail.isEnd hbehind⟩)
  | @object first object spaces rest verb word type hfirst hne hspaces hobject htype hrest =>
    simp only [Sentence.tokens, List.cons_append, List.append_assoc] at hpieces
    exact .inl (says_of_object hpieces hfirst hne hspaces hobject htype)
  | @anyObject first object spaces rest verb hmode hfirst hne hspaces hspace hrest =>
    simp only [Sentence.tokens, List.cons_append, List.append_assoc] at hpieces
    have hsemicolon : object.kind ≠ .semicolon := hrest object List.mem_cons_self
    by_cases hobject : object.isObject = true
    · -- The lenient rule is the strict one where there is an object.
      obtain ⟨word, type, hspells, htype⟩ := verb.isObject_iff.1 hobject
      left
      show Says cs (some (verb.typeOn object.value))
      rw [ObjectVerb.typeOn_eq hspells htype]
      exact says_of_object hpieces hfirst hne hspaces hspells htype
    · have hfalse : object.isObject = false := Bool.eq_false_iff.2 hobject
      have hmem : object.piece ∈ pieces cs := by simp [hpieces]
      refine .inr ⟨hmode, congrArg some (verb.typeOn_eq_unknown hmem hfalse), fun _ => ?_⟩
      exact not_says_of_not_object hpieces hfirst hspaces hspace hsemicolon hfalse
  | unknown hmode hfirst hrest =>
    exact .inr ⟨hmode, rfl, fun _ => not_says_of_kind hpieces (by simp [hfirst])⟩

end

/-! ## The type of a statement -/

/-- The type of a statement is settled by the first words of its text, and unknown if they settle
none. -/
structure IsTypeOf (cs : List Char) (type? : Option StatementType) : Prop where
  word : ∀ word type, Keyword.type? word = some type → (type? = some type ↔ word.IsFirstOf cs)
  object : ∀ verb word type, ObjectVerb.typeWith? verb word = some type →
    (type? = some type ↔ verb.OpensWith word cs)
  bare : type? = none ↔ ∃ verb : ObjectVerb, verb.IsBareIn cs
  unknown : type? = some .unknown ↔ ∀ type?', ¬ Says cs type?'
  ne_incomplete : type? ≠ some .incomplete

namespace Fits

variable {mode : Mode}

lemma eq_iff (h : Fits mode cs type?) (hne : type?' ≠ some .unknown) :
    type? = type?' ↔ Says cs type?' := by
  rcases h with hsaid | ⟨-, hunknown, hnone⟩
  · constructor
    · rintro rfl
      exact hsaid
    · exact hsaid.unique
  · rw [hunknown]
    exact ⟨fun heq => (hne heq.symm).elim, fun hsaid => (hnone _ hsaid).elim⟩

lemma eq_unknown_iff (h : Fits mode cs type?) :
    type? = some .unknown ↔ ∀ type?', ¬ Says cs type?' := by
  rcases h with hsaid | ⟨-, hunknown, hnone⟩
  · exact ⟨fun heq => (hsaid.ne_unknown.1 heq).elim, fun hnone => (hnone _ hsaid).elim⟩
  · exact ⟨fun _ => hnone, fun _ => hunknown⟩

lemma mode_eq (h : Fits mode cs type?) (hunknown : type? = some .unknown) : mode = .lenient := by
  rcases h with hsaid | ⟨hmode, -, -⟩
  · exact (hsaid.ne_unknown.1 hunknown).elim
  · exact hmode

lemma isTypeOf (h : Fits mode cs type?) : IsTypeOf cs type? where
  word word type htype := by
    rw [h.eq_iff (by simpa using (Keyword.known_of_type? htype).1)]
    exact Says.word_iff htype
  object verb word type htype := by
    rw [h.eq_iff (by simpa using (ObjectVerb.known_of_typeWith? htype).1)]
    exact Says.object_iff htype
  bare := (h.eq_iff (by decide)).trans Says.none_iff
  unknown := h.eq_unknown_iff
  ne_incomplete hincomplete := ((h.eq_iff (by decide)).1 hincomplete).ne_unknown.2 rfl

end Fits

/-- The type of every statement is the one that the text of the statement says.  A text that says
none is of unknown type, and is read in lenient mode only. -/
theorem parse_classifies {input : String} {mode : Mode} {script : Script}
    (h : parse input mode = .ok script) :
    ∀ statement ∈ script.statements, ∃ text, statement.text? input = some text ∧
      IsTypeOf text.toList statement.type? ∧
      (statement.type? = some .unknown → mode = .lenient) := by
  obtain ⟨o, ho, htokens, rfl⟩ := Parser.exists_outline h
  intro statement hmem
  have hmem' : statement ∈ o.statements (input.utf8ByteSize - 1) := Array.mem_toList_iff.2 hmem
  obtain ⟨text, htext, hmoved, -⟩ := Outline.exists_text ho htokens hmem'
  obtain ⟨sentence, tail, hderives, htail, hsentence, htype⟩ := ho.exists_sentence hmem'
  have hpieces : pieces text.toList = (sentence.tokens ++ tail).map Token.piece := by
    rw [← hsentence, hmoved, ← map_piece_tokenize]
    simp [Function.comp_def]
  have hfits : Fits mode text.toList statement.type? := by
    rw [htype]
    exact hderives.fits hpieces htail
  exact ⟨text, htext, hfits.isTypeOf, hfits.mode_eq⟩

/-- An object behind Unicode white space, a verb alone, and two texts that settle nothing. -/
theorem parse_classifies_of_em_space :
    IsTypeOf "Create\u2003Table t;".toList (some .createTable) ∧ IsTypeOf "DROP\n;".toList none ∧
      IsTypeOf "CREATE TABLES;".toList (some .unknown) ∧
      IsTypeOf "SELECT$ 1".toList (some .unknown) := by
  let input := "Create\u2003Table t;DROP\n; CREATE TABLES;SELECT$ 1"
  let read := fun statement : Statement => (statement.text? input, statement.type?)
  have hread : (parse input .lenient).toOption.map (·.statements.toList.map read) =
      some [(some "Create\u2003Table t;", some .createTable), (some "DROP\n;", none),
        (some "CREATE TABLES;", some .unknown), (some "SELECT$ 1", some .unknown)] := by
    decide +kernel
  obtain ⟨script, hscript, hstatements⟩ := exists_eq_ok_of_map_toOption hread
  have htypes : ∀ text type?, (some text, type?) ∈ script.statements.toList.map read →
      IsTypeOf text.toList type? := by
    intro text type? hmem
    obtain ⟨statement, hstatement, heq⟩ := List.mem_map.1 hmem
    obtain ⟨text', htext, htype, -⟩ :=
      parse_classifies hscript statement (Array.mem_toList_iff.1 hstatement)
    obtain ⟨htext', htype'⟩ := Prod.mk.inj heq
    rw [htext] at htext'
    cases htext'
    rwa [← htype']
  rw [hstatements] at htypes
  exact ⟨htypes _ _ (by simp), htypes _ _ (by simp), htypes _ _ (by simp), htypes _ _ (by simp)⟩

end SqlSplit
