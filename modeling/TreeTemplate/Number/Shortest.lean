/-
TreeTemplate.Number.Shortest — the shortest decimal that reads back.

Every decimal within a certain interval around a floating-point number
rounds to that number; the ends belong to the interval exactly if the
number's last bit is zero. On the decimal grid of 1, 2, … 17 digits the two
neighbours of the number are tried: the first grid with a neighbour inside
the interval wins, and of two neighbours inside it the nearer.

* `Double.shortest?` — whole number and exponent of that decimal.
* `Double.toText` — its spelling: positional for numbers from 0.0001 up to
  below 10 ^ 16, with a digit after the point, otherwise one digit before
  the point and an exponent of at least two digits.
-/
import TreeTemplate.Number.Double
import TreeTemplate.Text.CodePoint

namespace TreeTemplate.Double

/-- The exponent of the greatest power of ten that is not above the
quotient of two positive numbers, from the one for powers of two. -/
def decimalExponent (num den : Nat) : Int :=
  let guess := (binaryExponent num den * 30103) / 100000 + 1
  let reached : Bool :=
    if 0 ≤ guess then den * tenTo guess.toNat ≤ num else den ≤ num * tenTo (-guess).toNat
  if reached then guess else guess - 1

/-- The interval of reals that round to `m * 2 ^ q`, as the two numerators
over a common denominator, with the numerator of the number between them. -/
def roundingInterval (m : Nat) (q : Int) : Nat × Nat × Nat × Nat :=
  let below := if m = twoTo 52 ∧ q ≠ -1074 then 1 else 2
  let (unit, den) := ratioOf 1 (q - 2)
  ((4 * m - below) * unit, 4 * m * unit, (4 * m + 2) * unit, den)

/-- The nearest neighbour of the number on the grid of multiples of
`10 ^ s`, if one of the two neighbours rounds to the number. -/
def onGrid? (m : Nat) (q s : Int) : Option Nat :=
  let (low, mid, high, den) := roundingInterval m q
  let up := tenTo (-s).toNat
  let down := den * tenTo s.toNat
  let inside (d : Nat) : Bool :=
    if m % 2 = 0 then low * up ≤ d * down && d * down ≤ high * up
    else low * up < d * down && d * down < high * up
  let d := mid * up / down
  let rest := 2 * (mid * up % down)
  match inside d, inside (d + 1) with
  | true, true => if rest < down ∨ (rest = down ∧ d % 2 = 0) then some d else some (d + 1)
  | true, false => some d
  | false, true => some (d + 1)
  | false, false => none

/-- The first grid with a hit, of those with at least the given number of
digits; the exponent of the number's first digit is `p`. -/
def firstGrid (m : Nat) (q p : Int) (digits : Nat) : Nat → Option (Nat × Int)
  | 0 => none
  | tries + 1 =>
    let s := p + 1 - digits
    match onGrid? m q s with
    | some d => some (d, s)
    | none => firstGrid m q p (digits + 1) tries

/-- The number without its final zeros, and the exponent raised by their
count. -/
def dropZeros (d : Nat) (s : Int) : Nat × Int :=
  if h : d ≠ 0 ∧ d % 10 = 0 then dropZeros (d / 10) (s + 1) else (d, s)
termination_by d
decreasing_by omega

/-- The shortest decimal `d * 10 ^ s` that rounds to `m * 2 ^ q`. -/
def shortest (m : Nat) (q : Int) : Nat × Int :=
  let (num, den) := ratioOf m q
  match firstGrid m q (decimalExponent num den) 1 17 with
  | some (d, s) => dropZeros d s
  | none => (0, 0)

/-- The exponents of the first digit for which a number is written without
an exponent: from -4 up to 15. -/
def isPositional (x : Int) : Bool := -4 ≤ x && x < 16

/-- An exponent, with its sign and at least two digits. -/
def exponentText (x : Int) : Text :=
  let digits := Text.ofNat x.natAbs
  (if x < 0 then ("e-" : Text) else ("e+" : Text)) ++ (if digits.length < 2 then .scalar '0' :: digits else digits)

/-- The spelling of `d * 10 ^ s`, for a `d` that does not end in zero. -/
def decimalText (d : Nat) (s : Int) : Text :=
  let digits := Text.ofNat d
  let x : Int := digits.length - 1 + s
  if isPositional x then
    if 0 ≤ s then digits ++ List.replicate s.toNat (.scalar '0') ++ (".0" : Text)
    else if 0 ≤ x then digits.take (x + 1).toNat ++ .scalar '.' :: digits.drop (x + 1).toNat
    else ("0." : Text) ++ List.replicate (-x - 1).toNat (.scalar '0') ++ digits
  else match digits with
    | [] => []
    | [c] => c :: exponentText x
    | c :: more => c :: .scalar '.' :: more ++ exponentText x

/-- The spelling of a finite number; `none` for infinities and not-a-number. -/
def finiteText? (x : Double) : Option Text :=
  match x.finite? with
  | none => none
  | some (negative, m, q) =>
    let body : Text := if m = 0 then "0.0" else let (d, s) := shortest m q; decimalText d s
    some (if negative then .scalar '-' :: body else body)

/-- The spelling of a number, with `inf`, `-inf` and `nan`. -/
def toText (x : Double) : Text :=
  match x.finiteText? with
  | some t => t
  | none => if x.isNaN then "nan" else if x.isNegative then "-inf" else "inf"

end TreeTemplate.Double
