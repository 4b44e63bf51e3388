/-
TreeTemplate.Number.Reading — numbers from text that people write.

Around a number there may be white space, before it a sign, and between
two of its digits an underscore. Digits of all scripts will do.

* `readInteger?` — a whole number, of at most 4300 digits.
* `readDouble?` — a floating-point number: digits with or without a point
  and an exponent, or one of the words for infinity and not-a-number.
-/
import TreeTemplate.Text.Blank
import TreeTemplate.Text.Casing
import TreeTemplate.Value.Json

namespace TreeTemplate

/-- White space that may stand around a number. -/
def isNumberSpace (c : CodePoint) : Bool := c.isBlank && !(0x1C ≤ c.value && c.value ≤ 0x1F)

/-- The number as it is read: without white space around it, and with the
digits of all scripts as `0` to `9`. -/
def plainNumber (t : Text) : Text :=
  (((t.dropWhile isNumberSpace).reverse.dropWhile isNumberSpace).reverse).map fun c =>
    match c.decimalValue? with
    | some d => Text.digit d
    | none => c

/-- The sign, and what follows it. -/
def splitSign : Text → Bool × Text
  | .scalar '-' :: rest => (true, rest)
  | .scalar '+' :: rest => (false, rest)
  | t => (false, t)

/-- The text without underscores, if each stands between two digits.
`afterDigit` says whether the text follows a digit. -/
def withoutUnderscores? (afterDigit : Bool) : Text → Option Text
  | [] => some []
  | c :: rest =>
    if c = .scalar '_' then
      match rest with
      | d :: _ => if afterDigit && d.isAsciiDigit then withoutUnderscores? false rest else none
      | [] => none
    else (withoutUnderscores? c.isAsciiDigit rest).map (c :: ·)

/-- A whole number. -/
def readInteger? (t : Text) : Option Int := do
  let (negative, body) := splitSign (plainNumber t)
  let (digits, rest) := Json.readDigits (← withoutUnderscores? false body)
  if digits.isEmpty ∨ rest ≠ [] ∨ Json.maxDigits < digits.length then none
  else some (Double.withSign negative (numberOf 10 digits))

/-- The digits after a point. -/
def pointDigits : Text → List Nat × Text
  | .scalar '.' :: rest => Json.readDigits rest
  | t => ([], t)

/-- A floating-point number. -/
def readDouble? (t : Text) : Option Double := do
  let (negative, body) := splitSign (plainNumber t)
  let word := body.lower
  if word = ("inf" : Text) ∨ word = ("infinity" : Text) then some (.infinity negative)
  else if word = ("nan" : Text) then some .nan
  else
    let (whole, rest) := Json.readDigits (← withoutUnderscores? false body)
    let (fraction, rest) := pointDigits rest
    if whole.isEmpty ∧ fraction.isEmpty then none
    else
      let (exponent, rest) := Json.readExponent rest
      if rest ≠ [] then none
      else some (.ofDecimal negative (numberOf 10 (whole ++ fraction))
        (exponent.getD 0 - fraction.length))

end TreeTemplate
