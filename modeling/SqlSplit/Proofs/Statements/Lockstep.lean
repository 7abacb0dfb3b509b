import Mathlib.Tactic.SplitIfs
import SqlSplit.Proofs.Statements.Feeding

/-!
# A strict and a lenient recognizer side by side

The mode of a recognizer is asked for in one place only: where a token matches no pattern of its
step.  A strict recognizer refuses the token there, and a lenient one tolerates it.  So two
recognizers that differ in their mode alone stay so, over any table and whatever other tokens they
refuse on the way, until the strict one refuses a token as unexpected.

`Feeds.relax` says so for one token and `run_relax` for many; `Feeds.tolerates_relax` is about the
token at which the two part, and `exists_first_unexpected` finds it.  `agree_until_unexpected` puts
it together for the two recognizers of a table.
-/

namespace SqlSplit

/-- The token was refused because it matches no pattern of its step. -/
def Verdict.isUnexpected : Verdict → Bool
  | rejected (.unexpectedToken ..) => true
  | _ => false

namespace Recognizer

variable {r r' : Recognizer} {step : Step} {token : Token} {tokens : List Token}
  {verdict : Verdict}

/-! ## The mode -/

lemma mode_enter (r : Recognizer) : r.enter.mode = r.mode := by
  rcases r.enter_eq with h | ⟨h, -⟩ <;> rw [h]; rfl

lemma Feeds.mode_eq (h : r.Feeds token r' verdict) : r'.mode = r.mode := by
  cases h with
  | late hended => rfl
  | ends hopen hkind | passes hopen hkind hfree => rfl
  | exhausts h hstep | refuses h hstep hrefusal => exact r.mode_enter
  | @takes step h hstep hrefusal =>
    refine Eq.trans ?_ r.mode_enter
    simp only [record, take]
    cases step.advancesAfter <;> rfl

/-! ## The recognizer in lenient mode -/

/-- The recognizer in lenient mode, all else being the same. -/
def relax (r : Recognizer) : Recognizer :=
  { r with mode := .lenient }

lemma Examines.relax (h : r.Examines token) : r.relax.Examines token :=
  ⟨h.terminated_eq, h.type?_eq, h.not_semicolon, h.not_space⟩

lemma enter_relax (r : Recognizer) : r.relax.enter = r.enter.relax := by
  have hstep : r.relax.step? = r.step? := rfl
  unfold enter
  rw [hstep]
  cases r.step? with
  | none => rfl
  | some step => cases hbefore : step.advancesBefore <;> simp only [hbefore] <;> rfl

lemma take_relax (r : Recognizer) (step : Step) (token : Token) :
    r.relax.take step token = (r.take step token).relax := by
  unfold take
  cases step.advancesAfter <;> rfl

/-- In lenient mode a step refuses what lacks a predecessor, and nothing else. -/
lemma refusal?_lenient (hmode : r.mode = .lenient) (step : Step) (token : Token) :
    r.refusal? step token =
      if step.mayFollow r.previous? = true then none
      else some
        (.missingPredecessor r.current (step.predecessors?.getD []) token.value token.start) := by
  cases hfollows : step.mayFollow r.previous? <;> simp [refusal?, hfollows, hmode]

/-- In strict mode it refuses besides what matches none of its patterns. -/
lemma refusal?_strict (hmode : r.mode = .strict) (step : Step) (token : Token) :
    r.refusal? step token =
      if step.mayFollow r.previous? = true then
        if step.accepts token = true then none
        else some
          (.unexpectedToken r.current step.patterns token.kind token.value token.start)
      else some
        (.missingPredecessor r.current (step.predecessors?.getD []) token.value token.start) := by
  cases hfollows : step.mayFollow r.previous? <;> cases haccepts : step.accepts token <;>
    simp [refusal?, hfollows, haccepts, hmode]

/-! ## One token -/

namespace Feeds

lemma isUnexpected_lenient (h : r.Feeds token r' verdict) (hmode : r.mode = .lenient) :
    verdict.isUnexpected = false := by
  cases h with
  | @refuses step error h hstep hrefusal =>
    rw [refusal?_lenient (r.mode_enter.trans hmode)] at hrefusal
    split_ifs at hrefusal
    cases hrefusal
    rfl
  | @takes step h hstep hrefusal => cases haccepts : step.accepts token <;> rfl
  | _ => rfl

lemma ne_tolerated_strict (h : r.Feeds token r' verdict) (hmode : r.mode = .strict) (n : Nat) :
    verdict ≠ .tolerated n := by
  cases h with
  | @takes step h hstep hrefusal =>
    rw [refusal?_strict (r.mode_enter.trans hmode)] at hrefusal
    split_ifs at hrefusal with hfollows haccepts
    simp [haccepts]
  | _ => exact nofun

/-- As long as the strict recognizer refuses no token as unexpected, the lenient one does the same
with it. -/
lemma relax (h : r.Feeds token r' verdict) (hmode : r.mode = .strict)
    (hverdict : verdict.isUnexpected = false) : r.relax.Feeds token r'.relax verdict := by
  cases h with
  | late hended => exact .late hended
  | ends hopen hkind => exact .ends hopen hkind
  | passes hopen hkind hfree => exact .passes hopen hkind hfree
  | exhausts h hstep =>
    have hrelaxed : r.relax.Feeds token _ _ := .exhausts h.relax (by rwa [enter_relax])
    rwa [enter_relax] at hrelaxed
  | @refuses step error h hstep hrefusal =>
    -- A token that may stand there is refused for the patterns alone, which is unexpected.
    have hfollows : ¬ step.mayFollow r.enter.previous? = true := by
      intro hfollows
      rw [refusal?_strict (r.mode_enter.trans hmode), if_pos hfollows] at hrefusal
      split_ifs at hrefusal
      cases hrefusal
      cases hverdict
    have hsame : r.enter.relax.refusal? step token = some error := by
      rw [refusal?_strict (r.mode_enter.trans hmode), if_neg hfollows] at hrefusal
      rw [refusal?_lenient rfl]
      exact (if_neg hfollows).trans hrefusal
    have hrelaxed : r.relax.Feeds token _ _ :=
      .refuses h.relax (by rw [enter_relax]; exact hstep) (by rwa [enter_relax])
    rwa [enter_relax] at hrelaxed
  | @takes step h hstep hrefusal =>
    have hfollows : step.mayFollow r.enter.previous? = true := by
      rw [refusal?_strict (r.mode_enter.trans hmode)] at hrefusal
      split_ifs at hrefusal with hfollows
      exact hfollows
    have hsame : r.enter.relax.refusal? step token = none := by
      rw [refusal?_lenient rfl]
      exact if_pos hfollows
    have hrelaxed : r.relax.Feeds token _ _ :=
      .takes h.relax (by rw [enter_relax]; exact hstep) (by rwa [enter_relax])
    rw [enter_relax, take_relax] at hrelaxed
    exact hrelaxed

/-- A token that the strict recognizer refuses as unexpected, the lenient one tolerates. -/
lemma tolerates_relax (h : r.Feeds token r' verdict) (hmode : r.mode = .strict)
    (hverdict : verdict.isUnexpected = true) :
    (r.relax.feed token).2 = .tolerated r.enter.current := by
  cases h with
  | @refuses step error h hstep hrefusal =>
    rw [refusal?_strict (r.mode_enter.trans hmode)] at hrefusal
    split_ifs at hrefusal with hfollows haccepts
    · have hnone : r.enter.relax.refusal? step token = none := by
        rw [refusal?_lenient rfl]
        exact if_pos hfollows
      have hrelaxed : r.relax.Feeds token _ _ :=
        .takes h.relax (by rw [enter_relax]; exact hstep) (by rwa [enter_relax])
      rw [hrelaxed.feed_eq, if_neg haccepts, enter_relax]
      rfl
    · cases hrefusal
      cases hverdict
  | @takes step h hstep hrefusal => split_ifs at hverdict <;> cases hverdict
  | _ => cases hverdict

end Feeds

/-! ## Runs -/

/-- What becomes of each of the tokens, if the recognizer goes on after those that it refuses. -/
def verdicts (r : Recognizer) : List Token → List Verdict
  | [] => []
  | token :: tokens => (r.feed token).2 :: (r.feed token).1.verdicts tokens

lemma verdicts_append (r : Recognizer) (xs ys : List Token) :
    r.verdicts (xs ++ ys) = r.verdicts xs ++ (r.run xs).verdicts ys := by
  induction xs generalizing r with
  | nil => rfl
  | cons x xs ih => rw [List.cons_append, verdicts, verdicts, ih, List.cons_append, run_cons]

lemma mode_run (r : Recognizer) (tokens : List Token) : (r.run tokens).mode = r.mode := by
  induction tokens generalizing r with
  | nil => rfl
  | cons token tokens ih => rw [run_cons, ih, (r.feeds_feed token).mode_eq]

/-- As long as the strict recognizer refuses no token as unexpected, the two agree on all tokens and
differ in the mode alone. -/
theorem run_relax (hmode : r.mode = .strict)
    (h : ∀ verdict ∈ r.verdicts tokens, verdict.isUnexpected = false) :
    r.relax.run tokens = (r.run tokens).relax ∧ r.relax.verdicts tokens = r.verdicts tokens := by
  induction tokens generalizing r with
  | nil => exact ⟨rfl, rfl⟩
  | cons token tokens ih =>
    rw [verdicts, List.forall_mem_cons] at h
    have hfeed := ((r.feeds_feed token).relax hmode h.1).feed_eq
    obtain ⟨hrun, hverdicts⟩ := ih ((r.feeds_feed token).mode_eq.trans hmode) h.2
    simp only [run_cons, verdicts, hfeed, hrun, hverdicts, and_self]

/-- A token that the lenient recognizer tolerates, the strict one refuses as unexpected, if it has
not refused another one before. -/
lemma not_forall_expected_of_tolerated (hmode : r.mode = .strict) {before : List Token} {n : Nat}
    (h : ((r.relax.run before).feed token).2 = .tolerated n) (behind : List Token) :
    ¬ ∀ verdict ∈ r.verdicts (before ++ token :: behind), verdict.isUnexpected = false := by
  intro hall
  simp only [verdicts_append, verdicts, List.forall_mem_append, List.forall_mem_cons] at hall
  obtain ⟨hbefore, htoken, -⟩ := hall
  have hmode' := (r.mode_run before).trans hmode
  have hfeeds := (r.run before).feeds_feed token
  rw [(run_relax hmode hbefore).1, (hfeeds.relax hmode' htoken).feed_eq] at h
  exact hfeeds.ne_tolerated_strict hmode' n h

lemma exists_first_unexpected (h : ∃ verdict ∈ r.verdicts tokens, verdict.isUnexpected = true) :
    ∃ before token behind, tokens = before ++ token :: behind ∧
      (∀ verdict ∈ r.verdicts before, verdict.isUnexpected = false) ∧
      ((r.run before).feed token).2.isUnexpected = true := by
  induction tokens generalizing r with
  | nil => simp [verdicts] at h
  | cons token tokens ih =>
    cases hfirst : (r.feed token).2.isUnexpected with
    | true => exact ⟨[], token, tokens, rfl, nofun, hfirst⟩
    | false =>
      have hrest : ∃ verdict ∈ (r.feed token).1.verdicts tokens, verdict.isUnexpected = true := by
        obtain ⟨verdict, hmem, hverdict⟩ := h
        rcases List.mem_cons.1 hmem with rfl | hmem
        · rw [hfirst] at hverdict
          cases hverdict
        · exact ⟨verdict, hmem, hverdict⟩
      obtain ⟨before, found, behind, rfl, hbefore, hfound⟩ := ih hrest
      refine ⟨token :: before, found, behind, rfl, ?_, hfound⟩
      rw [verdicts, List.forall_mem_cons]
      exact ⟨hfirst, hbefore⟩

/-! ## The recognizers of a table in both modes -/

lemma take_verdicts (r : Recognizer) (tokens : List Token) (n : Nat) :
    (r.verdicts tokens).take n = r.verdicts (tokens.take n) := by
  induction tokens generalizing r n with
  | nil => simp [verdicts]
  | cons token tokens ih =>
    cases n with
    | zero => simp [verdicts]
    | succ n => simp [verdicts, ih]

lemma isUnexpected_of_mem_lenient (hmode : r.mode = .lenient) :
    ∀ verdict ∈ r.verdicts tokens, verdict.isUnexpected = false := by
  induction tokens generalizing r with
  | nil => exact nofun
  | cons token tokens ih =>
    have hfeeds := r.feeds_feed token
    rw [verdicts, List.forall_mem_cons]
    exact ⟨hfeeds.isUnexpected_lenient hmode, ih (hfeeds.mode_eq.trans hmode)⟩

/-- The recognizers of a table in both modes are fed the same tokens, and go on after those that
they refuse.  Before the first token that the strict one refuses as unexpected they say the same of
every token, and behind each of these tokens they differ in the mode alone.  If there is no such
token, that is so throughout.  The lenient recognizer refuses no token as unexpected. -/
theorem agree_until_unexpected (steps : List Step) (tokens : List Token) :
    let strict : Recognizer := { mode := .strict, steps }
    let lenient : Recognizer := { mode := .lenient, steps }
    (∀ n ≤ (strict.verdicts tokens).findIdx Verdict.isUnexpected,
      (lenient.verdicts tokens).take n = (strict.verdicts tokens).take n ∧
        lenient.run (tokens.take n) = { strict.run (tokens.take n) with mode := .lenient }) ∧
    ((∀ verdict ∈ strict.verdicts tokens, verdict.isUnexpected = false) →
      lenient.verdicts tokens = strict.verdicts tokens ∧
        ∀ n, lenient.run (tokens.take n) =
          { strict.run (tokens.take n) with mode := .lenient }) ∧
    ∀ verdict ∈ lenient.verdicts tokens, verdict.isUnexpected = false := by
  intro strict lenient
  -- The lenient recognizer is the relaxed strict one, so this is `run_relax` for a part of the run.
  have hagree : ∀ n, (∀ verdict ∈ (strict.verdicts tokens).take n, verdict.isUnexpected = false) →
      (lenient.verdicts tokens).take n = (strict.verdicts tokens).take n ∧
        lenient.run (tokens.take n) = { strict.run (tokens.take n) with mode := .lenient } := by
    intro n hexpected
    rw [take_verdicts] at hexpected
    obtain ⟨hrun, hverdicts⟩ := run_relax (r := strict) rfl hexpected
    rw [take_verdicts, take_verdicts]
    exact ⟨hverdicts, hrun⟩
  refine ⟨?_, ?_, isUnexpected_of_mem_lenient rfl⟩
  · intro n hn
    apply hagree n
    intro verdict hmem
    obtain ⟨i, hi, rfl⟩ := List.mem_take_iff_getElem.1 hmem
    have hlt : i < (strict.verdicts tokens).findIdx Verdict.isUnexpected := by omega
    simpa using List.not_of_lt_findIdx hlt
  · intro hexpected
    refine ⟨(run_relax (r := strict) rfl hexpected).2, ?_⟩
    intro n
    exact (hagree n fun verdict hmem => hexpected verdict (List.mem_of_mem_take hmem)).2

/-- Both recognizers refuse the comment, since no white space comes before it, and go on alike.
They part at the word that names no object. -/
theorem agree_until_unexpected_object :
    let steps : List Step :=
      [.onKeyword [.drop] .start,
        (Step.onKeyword [.table, .database] (.object .drop)).after [.whitespace]]
    let tokens : List Token :=
      [⟨.keyword, "Drop", 0, 3⟩, ⟨.blockComment, "/**/", 4, 7⟩, ⟨.whitespace, " ", 8, 8⟩,
        ⟨.unknown, "INDEX", 9, 13⟩, ⟨.keyword, "TABLE", 14, 18⟩]
    let strict : Recognizer := { mode := .strict, steps }
    let lenient : Recognizer := { mode := .lenient, steps }
    lenient.verdicts (tokens.take 3) =
        [.accepted, .rejected (.missingPredecessor 1 [.whitespace] "/**/" 4), .accepted] ∧
      lenient.run (tokens.take 3) = { strict.run (tokens.take 3) with mode := .lenient } ∧
      lenient.run (tokens.take 2) = { strict.run (tokens.take 2) with mode := .lenient } ∧
      strict.verdicts tokens ≠ lenient.verdicts tokens := by
  intro steps tokens strict lenient
  have hindex : (strict.verdicts tokens).findIdx Verdict.isUnexpected = 3 := by decide +kernel
  have hexpected : ∀ verdict ∈ strict.verdicts (tokens.take 3), verdict.isUnexpected = false := by
    decide +kernel
  obtain ⟨hverdicts, hrun⟩ := (agree_until_unexpected steps tokens).1 3 (Nat.le_of_eq hindex.symm)
  obtain ⟨-, hbefore⟩ := (agree_until_unexpected steps (tokens.take 3)).2.1 hexpected
  refine ⟨?_, hrun, hbefore 2, by decide +kernel⟩
  rw [take_verdicts, take_verdicts] at hverdicts
  exact hverdicts.trans (by decide +kernel)

end Recognizer

end SqlSplit
