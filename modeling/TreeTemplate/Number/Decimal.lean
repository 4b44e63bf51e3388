/-
TreeTemplate.Number.Decimal — decimals of a given length.

A finite number is rounded to the nearest decimal with a given count of
places, a half going to the even neighbour.

* `Double.fixedText` — a count of places after the point.
* `Double.scientificText` — one digit before the point, a count of places
  after it, and an exponent.
* `Double.generalText` — a count of digits in all, with an exponent if the
  number is very small or has more digits than that before the point.
-/
import TreeTemplate.Number.Shortest

namespace TreeTemplate.Double

/-- Digits with a point before the last `places` of them. With no place
the point is left out, unless it is `kept`. -/
def withPoint (digits : Text) (places : Nat) (kept : Bool) : Text :=
  let digits := List.replicate (places + 1 - digits.length) (.scalar '0') ++ digits
  let before := digits.length - places
  digits.take before
    ++ (if places = 0 ∧ kept = false then [] else .scalar '.' :: digits.drop before)

/-- A quotient with a count of places after the point. -/
def fixedDecimal (num den places : Nat) (kept : Bool) : Text :=
  withPoint (Text.ofNat (roundedQuotient (num * tenTo places) den)) places kept

/-- The digits of a positive quotient as a whole number with `places + 1`
digits, and the exponent of the first digit. -/
def leadingDigits (num den places : Nat) : Nat × Int :=
  let p := decimalExponent num den
  let shift : Int := places - p
  let n := roundedQuotient (num * tenTo shift.toNat) (den * tenTo (-shift).toNat)
  if tenTo (places + 1) ≤ n then (n / 10, p + 1) else (n, p)

/-- The same for a quotient that may be zero. -/
def leadingDigitsOf (num den places : Nat) : Nat × Int :=
  if num = 0 then (0, 0) else leadingDigits num den places

/-- A quotient with one digit before the point and an exponent. -/
def scientificDecimal (num den places : Nat) (kept : Bool) : Text :=
  let (n, x) := leadingDigitsOf num den places
  withPoint (Text.ofNat n) places kept ++ exponentText x

/-- Digits without zeros at their end, nor a point there. -/
def withoutFinalZeros (t : Text) : Text :=
  if t.holds (.scalar '.') then
    let kept := (t.reverse.dropWhile (· = .scalar '0'))
    (if kept.head? = some (.scalar '.') then kept.drop 1 else kept).reverse
  else t

/-- A quotient in a count of digits, in the shorter of the two ways. Zeros
at the end are left out, unless they are `kept`. -/
def generalDecimal (num den digits : Nat) (kept : Bool) : Text :=
  let digits := max digits 1
  let (n, x) := leadingDigitsOf num den (digits - 1)
  let shorten (t : Text) : Text := if kept then t else withoutFinalZeros t
  if -4 ≤ x ∧ x < digits then
    shorten (fixedDecimal num den (digits - 1 - x : Int).toNat kept)
  else shorten (withPoint (Text.ofNat n) (digits - 1) kept) ++ exponentText x

/-- The text of a number by the text of its size as a quotient. -/
def textBy (decimal : Nat → Nat → Text) (x : Double) : Text :=
  match x.finite? with
  | none => x.toText
  | some (negative, m, q) =>
    let (num, den) := ratioOf m q
    if negative then .scalar '-' :: decimal num den else decimal num den

/-- A number with a count of places after the point. -/
def fixedText (places : Nat) (kept : Bool) : Double → Text :=
  textBy fun num den => fixedDecimal num den places kept

/-- A number with one digit before the point, a count of places after it,
and an exponent. -/
def scientificText (places : Nat) (kept : Bool) : Double → Text :=
  textBy fun num den => scientificDecimal num den places kept

/-- A number in a count of digits. -/
def generalText (digits : Nat) (kept : Bool) : Double → Text :=
  textBy fun num den => generalDecimal num den digits kept

end TreeTemplate.Double
