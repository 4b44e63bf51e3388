/-
TreeTemplate.Markup.Error — why markup cannot be read.

Nearly all texts can be read as markup. The exceptions are a marked section
`<![` that does not begin with a known keyword, and a character reference
whose number has too many digits.
-/
import TreeTemplate.Value.Json

namespace TreeTemplate

/-- Why a text is not markup. -/
inductive MarkupError where
  /-- No name stands after `<![`; with the beginning of the section. -/
  | missingName (beginning : Text)
  /-- The name after `<![` is not known; with the space after it. -/
  | unknownKeyword (written : Text)
  | tooManyDigits (count : Nat)
deriving DecidableEq

def MarkupError.message : MarkupError → Text
  | missingName beginning => ("expected name token at " : Text) ++ beginning.quoted
  | unknownKeyword written =>
    ("unknown status keyword " : Text) ++ written.quoted ++ (" in marked section" : Text)
  | tooManyDigits count => Json.tooManyDigitsMessage count

end TreeTemplate
