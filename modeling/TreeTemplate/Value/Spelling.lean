/-
TreeTemplate.Value.Spelling — values as the text of a page (`to_text`,
specification §4.1).

Null, nothing and the truth values are written as words. A whole number is
written in decimal, also if it is held as a floating-point number; other
floating-point numbers by their shortest decimal. A list is its items with
commas between them, missing items being empty. A dictionary is written as
JSON.
-/
import TreeTemplate.Value.Json

namespace TreeTemplate

/-- The text of a floating-point number. -/
def Double.plainText (x : Double) : Text :=
  match x.integer? with
  | some n => Text.ofInt n
  | none => match x.finiteText? with
    | some t => t
    | none => if x.isNaN then "NaN" else if x.isNegative then "-Infinity" else "Infinity"

namespace Value

mutual

/-- The text of a value. -/
def toText : Value → Text
  | .null => "null"
  | .bool b => if b then "true" else "false"
  | .int n => Text.ofInt n
  | .float x => x.plainText
  | .str t => t
  | .list items => Text.joined "," (itemTexts items)
  | .dict entries => Json.write (.dict entries)

/-- The texts of the items of a list. -/
def itemTexts : List Value → List Text
  | [] => []
  | .null :: rest => [] :: itemTexts rest
  | v :: rest => toText v :: itemTexts rest

end

end Value

/-- The text of a finding. -/
def Found.toText : Found → Text
  | none => "undefined"
  | some v => v.toText

end TreeTemplate
