/-
TreeTemplate.Web.Punycode — letters of all scripts in letters of ASCII.

A text is spelled as its ASCII code points, a hyphen, and a row of numbers
that say in order of their code points what stands where between them. A
number is written in digits to the base 36, the least first; a threshold
for each digit tells whether it is the last, and the thresholds follow the
numbers written so far.

* `Punycode.encode`, `Punycode.decode?` — between texts and spellings.
-/
import TreeTemplate.Text.Digit

namespace TreeTemplate.Punycode

/-! ## 1. Thresholds -/

def base : Nat := 36
def leastThreshold : Nat := 1
def greatestThreshold : Nat := 26
def firstBias : Nat := 72

/-- The first code point that is not one of ASCII. -/
def firstForeign : Nat := 0x80

/-- The threshold at a place, counted in steps of the base from the first
place on. -/
def threshold (place bias : Nat) : Nat :=
  min greatestThreshold (max leastThreshold (place - bias))

theorem threshold_pos (place bias : Nat) : 0 < threshold place bias := by
  simp only [threshold, leastThreshold, greatestThreshold]; omega

/-- The bias that a scaled number stands for, after some divisions. -/
def biasOf (divided n : Nat) : Nat :=
  if 455 < n then biasOf (divided + base) (n / 35) else divided + base * n / (n + 38)
termination_by n
decreasing_by exact Nat.div_lt_self (by omega) (by omega)

/-- The bias after a number, when there are `count` code points. -/
def nextBias (n : Nat) (isFirst : Bool) (count : Nat) : Nat :=
  let scaled := if isFirst then n / 700 else n / 2
  biasOf 0 (scaled + scaled / count)

/-! ## 2. Writing -/

/-- The letter or digit for a number below the base. -/
def digit (n : Nat) : CodePoint :=
  .scalar (Char.ofNat (if n < 26 then 97 + n else 22 + n))

/-- The digits of a number, from a place on. -/
def digitsFrom (place bias n : Nat) : Text :=
  let least := threshold place bias
  if n < least then [digit n]
  else digit (least + (n - least) % (base - least))
    :: digitsFrom (place + base) bias ((n - least) / (base - least))
termination_by n
decreasing_by
  have hPos := threshold_pos place bias
  calc (n - threshold place bias) / (base - threshold place bias)
      ≤ n - threshold place bias := Nat.div_le_self _ _
    _ < n := by omega

/-- Writing so far: the digits, the number to be written next, the bias,
and how many code points have been written. -/
structure Writing where
  digits : Text
  skipped : Nat
  bias : Nat
  count : Nat

/-- Goes over a code point when `current` is being written. -/
def Writing.pass (plainCount current : Nat) (state : Writing) (c : CodePoint) : Writing :=
  if c.value < current then { state with skipped := state.skipped + 1 }
  else if c.value = current then
    ⟨state.digits ++ digitsFrom base state.bias state.skipped, 0,
      nextBias state.skipped (state.count = plainCount) (state.count + 1), state.count + 1⟩
  else state

/-- Writes all places of the given code points, which come in order and
after those below `next`. -/
def writeFrom (t : Text) (plainCount : Nat) : Nat → List Nat → Writing → Writing
  | _, [], state => state
  | next, current :: rest, state =>
    let before := { state with skipped := state.skipped + (current - next) * (state.count + 1) }
    let after := t.foldl (Writing.pass plainCount current) before
    writeFrom t plainCount (current + 1) rest { after with skipped := after.skipped + 1 }

/-- The spelling of a text. -/
def encode (t : Text) : Text :=
  let plain := t.filter fun c => c.value < firstForeign
  let foreign := ((t.map CodePoint.value).filter (firstForeign ≤ ·)).mergeSort.eraseDups
  let written := writeFrom t plain.length firstForeign foreign ⟨[], 0, firstBias, plain.length⟩
  (if plain.isEmpty then [] else plain ++ [.scalar '-']) ++ written.digits

/-! ## 3. Reading -/

/-- The number that a letter or digit stands for. -/
def digitValue? (c : CodePoint) : Option Nat :=
  if 97 ≤ c.value ∧ c.value ≤ 122 then some (c.value - 97)
  else if 65 ≤ c.value ∧ c.value ≤ 90 then some (c.value - 65)
  else if 48 ≤ c.value ∧ c.value ≤ 57 then some (c.value - 22)
  else none

/-- The number at the beginning of digits, from a place with a weight on,
and the digits after it. -/
def readNumber? (bias : Nat) : Nat → Nat → Nat → Text → Option (Nat × Text)
  | _, _, _, [] => none
  | place, weight, n, c :: rest =>
    match digitValue? c with
    | none => none
    | some d =>
      let least := threshold place bias
      if d < least then some (n + d * weight, rest)
      else readNumber? bias (place + base) (weight * (base - least)) (n + d * weight) rest

theorem readNumber?_length {bias place weight n m : Nat} {t rest : Text}
    (h : readNumber? bias place weight n t = some (m, rest)) : rest.length < t.length := by
  induction t generalizing place weight n with
  | nil => simp [readNumber?] at h
  | cons c t ih =>
    unfold readNumber? at h
    split at h
    · cases h
    · dsimp only at h
      split at h
      · cases h; simp
      · exact Nat.lt_succ_of_lt (ih h)

/-- Puts a code point at a place. -/
def insertAt (place : Nat) (c : CodePoint) (t : Text) : Text :=
  t.take place ++ c :: t.drop place

/-- Puts the code points that digits tell of into a text. `next` is the
least that can come, `place` the first place for it. -/
def insertAll? (isFirst : Bool) (bias next place : Nat) (t : Text) (digits : Text) :
    Option Text :=
  if digits = [] then some t
  else
    match _read : readNumber? bias base 1 0 digits with
    | none => none
    | some (n, rest) =>
      let count := t.length + 1
      let current := next + (place + n) / count
      let here := (place + n) % count
      match CodePoint.ofNat? current with
      | none => none
      | some c =>
        insertAll? false (nextBias n isFirst count) current (here + 1) (insertAt here c t) rest
termination_by digits.length
decreasing_by exact readNumber?_length _read

/-- The text with a spelling. The last hyphen ends the code points of
ASCII. -/
def decode? (spelling : Text) : Option Text :=
  let digits := (spelling.reverse.takeWhile (· ≠ .scalar '-')).reverse
  let plain := spelling.take (spelling.length - digits.length - 1)
  insertAll? true firstBias firstForeign 0 plain digits

end TreeTemplate.Punycode
