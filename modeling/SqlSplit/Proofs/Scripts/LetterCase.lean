import SqlSplit.Proofs.Scripts.Revision
import SqlSplit.Proofs.Tokens.LetterCase

/-!
# Letter case in a script

Whether a script is read, and what it is read as, does not depend on the case of its letters.  Case
shows in the values of tokens, which are copied into statements and errors, and in nothing else.

To make all letters small is to revise the values of the tokens and none of their places, and small
letters spell the same keywords.  So `parse_lowercase`, on a script and the same in small letters,
is a case of `parse_revised`.  Two scripts that differ in case are the same in small letters, which
gives the main statement `parse_ignoringCase`.
-/

namespace SqlSplit

/-! ## Statements, scripts and errors in small letters -/

/-- The statement with the letters of its tokens made small. -/
def Statement.lowercase (statement : Statement) : Statement :=
  { statement with tokens := statement.tokens.map Token.lowercase }

/-- The script with the letters of its tokens made small. -/
def Script.lowercase (script : Script) : Script :=
  { script with
    statements := script.statements.map Statement.lowercase
    blanks := script.blanks.map Token.lowercase }

/-- The error with the letters of the token at fault made small. -/
def ParseError.lowercase : ParseError → ParseError
  | unrecognizedLeadingToken value position =>
    .unrecognizedLeadingToken (Text.lowercase value) position
  | missingPredecessor step required value position =>
    .missingPredecessor step required (Text.lowercase value) position
  | unexpectedToken step expected kind value position =>
    .unexpectedToken step expected kind (Text.lowercase value) position
  | alreadyTerminated position => .alreadyTerminated position

lemma ParseError.Names.about_lowercase {error : ParseError} {token : Token}
    (h : error.Names token) : error.about token.lowercase = error.lowercase := by
  cases error with
  | unrecognizedLeadingToken value position =>
    obtain ⟨rfl, rfl⟩ := h
    rfl
  | missingPredecessor step required value position =>
    obtain ⟨rfl, rfl⟩ := h
    rfl
  | unexpectedToken step expected kind value position =>
    obtain ⟨rfl, rfl, rfl⟩ := h
    rfl
  | alreadyTerminated position =>
    obtain rfl := h
    rfl

/-- New values in small letters, at the same places. -/
def Revision.lowering : Revision :=
  ⟨fun token => Text.lowercase token.value, id⟩

/-! ## Reading in small letters -/

/-- What reading comes to, with all letters made small. -/
def lowercaseRun : Except ParseError Script → Except ParseError Script
  | .ok script => .ok script.lowercase
  | .error error => .error error.lowercase

/-- A text in small letters is read as the script in small letters, or is refused with the error in
small letters. -/
theorem parse_lowercase (input : String) (mode : Mode) :
    parse (Text.lowercase input) mode = lowercaseRun (parse input mode) := by
  have htokens : tokenize (Text.lowercase input) =
      (tokenize input).map Revision.lowering.token := tokenize_lowercase input
  have hkeeps : ∀ token ∈ tokenize input, Revision.lowering.KeepsKeyword token :=
    fun token _ => Keyword.ofWord?_lowercase token.value
  have hlast : (Text.lowercase input).utf8ByteSize - 1 =
      Revision.lowering.offset (input.utf8ByteSize - 1) := by
    rw [utf8ByteSize_lowercase]
    rfl
  obtain ⟨hread, hrefused⟩ := parse_revised mode htokens hkeeps hlast
  cases hparse : parse input mode with
  | ok script => exact hread script hparse
  | error error =>
    obtain ⟨token, -, hnames, hlower⟩ := hrefused error hparse
    rw [hlower, lowercaseRun, ← hnames.about_lowercase]
    rfl

/-- Two texts that differ at most in the case of their letters have tokens of the same kinds at the
same places, with values that differ at most in case.  Both can be read or both are refused: they
are read as scripts that differ in nothing but the case of token values, or refused with errors that
differ in nothing but the case of the value they give. -/
theorem parse_ignoringCase {a b : String} (h : Text.eqIgnoringCase a b = true) (mode : Mode) :
    (tokenize a).map Token.lowercase = (tokenize b).map Token.lowercase ∧
    match parse a mode, parse b mode with
    | .ok script, .ok script' => script.lowercase = script'.lowercase
    | .error error, .error error' => error.lowercase = error'.lowercase
    | _, _ => False := by
  have hlower : Text.lowercase a = Text.lowercase b := by
    rwa [Text.eqIgnoringCase, beq_iff_eq] at h
  refine ⟨?_, ?_⟩
  · rw [← tokenize_lowercase, ← tokenize_lowercase, hlower]
  · have hrun : lowercaseRun (parse a mode) = lowercaseRun (parse b mode) := by
      rw [← parse_lowercase, ← parse_lowercase, hlower]
    revert hrun
    cases parse a mode <;> cases parse b mode <;> simp [lowercaseRun]

/-- Case is mixed in keywords, in a quotation and next to letters that have no small form here: in
a script that is read, and in one that is refused for its second statement. -/
theorem parse_ignoringCase_of_mixed :
    (∃ script script', parse "sElect 'Aé', É$z;Create\nTABLE T" .strict = .ok script ∧
      parse "SELECT 'aé', É$Z;cREATE\ntable t" .strict = .ok script' ∧
      script.lowercase = script'.lowercase) ∧
    ∃ error, parse "update;DROP Éx" .strict = .error error ∧
      error.lowercase = .unexpectedToken 1 objectPatterns .unknown "Éx" 12 := by
  obtain ⟨script, hscript⟩ := exists_eq_ok_of_isOk
    (x := parse "sElect 'Aé', É$z;Create\nTABLE T" .strict) (by decide +kernel)
  obtain ⟨script', hscript'⟩ := exists_eq_ok_of_isOk
    (x := parse "SELECT 'aé', É$Z;cREATE\ntable t" .strict) (by decide +kernel)
  have hread := (parse_ignoringCase (a := "sElect 'Aé', É$z;Create\nTABLE T")
    (b := "SELECT 'aé', É$Z;cREATE\ntable t") (by decide +kernel) .strict).2
  have hupper : parse "UPDATE;drop ÉX" .strict =
      .error (.unexpectedToken 1 objectPatterns .unknown "ÉX" 12) := by
    decide +kernel
  have hrefused := (parse_ignoringCase (a := "update;DROP Éx") (b := "UPDATE;drop ÉX")
    (by decide +kernel) .strict).2
  rw [hscript, hscript'] at hread
  rw [hupper] at hrefused
  refine ⟨⟨script, script', hscript, hscript', hread⟩, ?_⟩
  cases hsmall : parse "update;DROP Éx" .strict with
  | ok script => simp [hsmall] at hrefused
  | error error =>
    rw [hsmall] at hrefused
    refine ⟨error, rfl, Eq.trans hrefused ?_⟩
    decide +kernel

end SqlSplit
