/-!
# Letter case

Words are compared without regard to the case of the letters `A` to `Z`.  Other letters are
compared as they stand: `É` and `é` are different words.
-/

namespace SqlSplit.Text

/-- A text with the letters `A` to `Z` made small. -/
def lowercase (text : String) : String :=
  String.ofList (text.toList.map Char.toLower)

/-- Whether two texts differ at most in the case of the letters `A` to `Z`. -/
def eqIgnoringCase (a b : String) : Bool :=
  lowercase a == lowercase b

@[simp] theorem toList_lowercase (text : String) :
    (lowercase text).toList = text.toList.map Char.toLower := by
  simp [lowercase]

theorem eqIgnoringCase_iff {a b : String} :
    eqIgnoringCase a b = true ↔ a.toList.map Char.toLower = b.toList.map Char.toLower := by
  rw [eqIgnoringCase, beq_iff_eq, lowercase, lowercase, String.ofList_inj]

end SqlSplit.Text
