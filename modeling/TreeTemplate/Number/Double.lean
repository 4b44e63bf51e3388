/-
TreeTemplate.Number.Double — floating-point numbers of 64 bits.

A number is given by its bits: a sign, an exponent of eleven bits, a
fraction of 52. All arithmetic is exact arithmetic on integers followed by
one rounding, so every definition here can be computed in a proof.

* `Double.finite?` — the sign, the whole number `m` and the exponent `q`
  for which the number is `m * 2 ^ q`.
* `Double.ofRatio` — the nearest number to a quotient; of two that are
  equally near, the one whose last bit is zero.
* `Double.ofDecimal` — the nearest number to `m * 10 ^ e`.
* `Double.add`, `Double.mul`, `Double.lt` — sum, product and order.
-/
namespace TreeTemplate

/-- A floating-point number, by its bits. -/
structure Double where
  bits : UInt64
deriving DecidableEq, Inhabited

/-- A power of two. -/
def twoTo (n : Nat) : Nat := Nat.pow 2 n

/-- A power of ten. -/
def tenTo (n : Nat) : Nat := Nat.pow 10 n

/-- The quotient rounded to the nearest whole number, a half to the even
neighbour. -/
def roundedQuotient (num den : Nat) : Nat :=
  let q := num / den
  let r := num % den
  if 2 * r > den ∨ (2 * r = den ∧ q % 2 = 1) then q + 1 else q

namespace Double

/-- The number with the given sign and the given other 63 bits. -/
def signed (negative : Bool) (magnitude : Nat) : Double :=
  ⟨UInt64.ofNat (if negative then twoTo 63 + magnitude else magnitude)⟩

/-- The bits of the infinities, less the sign. -/
def infinityBits : Nat := 2047 * twoTo 52

/-- The infinity of the given sign. -/
def infinity (negative : Bool) : Double := signed negative infinityBits

/-- A number that is none. -/
def nan : Double := signed false (infinityBits + twoTo 51)

/-- Whether the sign bit is set. -/
def isNegative (x : Double) : Bool := twoTo 63 ≤ x.bits.toNat

/-- The bits, less the sign. -/
def magnitude (x : Double) : Nat := x.bits.toNat % twoTo 63

def isNaN (x : Double) : Bool := infinityBits < x.magnitude

def isInfinite (x : Double) : Bool := x.magnitude == infinityBits

def isZero (x : Double) : Bool := x.magnitude == 0

/-- The sign, the whole number and the exponent of two of a finite number. -/
def finite? (x : Double) : Option (Bool × Nat × Int) :=
  let exponent : Nat := x.magnitude / twoTo 52
  let fraction : Nat := x.magnitude % twoTo 52
  if exponent = 2047 then none
  else if exponent = 0 then some (x.isNegative, fraction, -1074)
  else some (x.isNegative, twoTo 52 + fraction, (exponent : Int) - 1075)

/-- The number `m * 2 ^ q` as a quotient of whole numbers. -/
def ratioOf (m : Nat) (q : Int) : Nat × Nat :=
  if 0 ≤ q then (m * twoTo q.toNat, 1) else (m, twoTo (-q).toNat)

/-! ## 1. Rounding to the nearest -/

/-- The exponent of the greatest power of two that is not above the
quotient of two positive numbers. -/
def binaryExponent (num den : Nat) : Int :=
  let guess : Int := (Nat.log2 num : Int) - Nat.log2 den
  let reached : Bool :=
    if 0 ≤ guess then den * twoTo guess.toNat ≤ num else den ≤ num * twoTo (-guess).toNat
  if reached then guess else guess - 1

/-- The nearest number to a quotient. -/
def ofRatio (negative : Bool) (num den : Nat) : Double :=
  if num = 0 then signed negative 0
  else
    let q : Int := max (binaryExponent num den - 52) (-1074)
    let m :=
      if 0 ≤ q then roundedQuotient num (den * twoTo q.toNat)
      else roundedQuotient (num * twoTo (-q).toNat) den
    signed negative (min ((q + 1074).toNat * twoTo 52 + m) infinityBits)

/-- The nearest number to `m * 10 ^ e`. An exponent far outside the range
is decided without computing the power. -/
def ofDecimal (negative : Bool) (m : Nat) (e : Int) : Double :=
  if m = 0 then signed negative 0
  else if 400 < e then infinity negative
  else if 0 ≤ e then ofRatio negative (m * tenTo e.toNat) 1
  else if (Nat.log2 m : Int) + 1 + 3 * e < -1080 then signed negative 0
  else ofRatio negative m (tenTo (-e).toNat)

/-- The nearest number to an integer. -/
def ofInt (n : Int) : Double := ofRatio (n < 0) n.natAbs 1

/-! ## 2. Arithmetic and order -/

/-- The nearest number to `n * 2 ^ q`; zero gets the given sign. -/
def ofScaled (n : Int) (q : Int) (zeroSign : Bool) : Double :=
  if n = 0 then signed zeroSign 0
  else let (num, den) := ratioOf n.natAbs q; ofRatio (n < 0) num den

/-- A signed whole number. -/
def withSign (negative : Bool) (m : Nat) : Int := if negative then -(m : Int) else m

/-- The sum, rounded. -/
def add (x y : Double) : Double :=
  match x.finite?, y.finite? with
  | some (sx, mx, qx), some (sy, my, qy) =>
    let q := min qx qy
    ofScaled (withSign sx mx * twoTo (qx - q).toNat + withSign sy my * twoTo (qy - q).toNat) q
      (sx && sy)
  | some _, none => y
  | none, some _ => x
  | none, none => if x.isNaN then x else if y.isNaN then y else if x = y then x else nan

/-- The product, rounded. -/
def mul (x y : Double) : Double :=
  let sign := x.isNegative != y.isNegative
  match x.finite?, y.finite? with
  | some (_, mx, qx), some (_, my, qy) =>
    let (num, den) := ratioOf (mx * my) (qx + qy)
    ofRatio sign num den
  | _, _ =>
    if x.isNaN then x else if y.isNaN then y
    else if x.isZero || y.isZero then nan else infinity sign

/-- A whole number that orders the numbers which are numbers. -/
def orderKey (x : Double) : Int := withSign x.isNegative x.magnitude

/-- Whether the first is less than the second. -/
def lt (x y : Double) : Bool := !x.isNaN && !y.isNaN && x.orderKey < y.orderKey

/-! ## 3. Whole numbers among them -/

/-- The integer that the number is, if it is one. -/
def integer? (x : Double) : Option Int :=
  match x.finite? with
  | none => none
  | some (negative, m, q) =>
    let (num, den) := ratioOf m q
    if num % den = 0 then some (withSign negative (num / den)) else none

/-- The nearest number with at most the given count of decimal places. -/
def roundedTo (places : Nat) (x : Double) : Double :=
  match x.finite? with
  | none => x
  | some (negative, m, q) =>
    let (num, den) := ratioOf m q
    ofDecimal negative (roundedQuotient (num * tenTo places) den) (-(places : Int))

end Double

end TreeTemplate
