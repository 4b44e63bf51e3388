/-
TreeTemplate.Proofs.Number.Rounding — rounding keeps the order.

A quotient that is not below a number of 64 bits is not rounded to one below
it, and the same from above. So a sum with a number that is not negative is
never less than the other summand, wherever it is rounded to.

* `Double.Canonical` — whole number and exponent as the bits have them.
* `Double.binaryExponent_spec` — between two powers of two.
* `Double.le_ofRatio`, `Double.ofRatio_le` — rounding and one number.
* `Double.add_not_lt` — sums that do not go down.
-/
import TreeTemplate.Number.Double
import Mathlib.Algebra.Order.Field.Rat
import Mathlib.Algebra.Order.Field.Power
import Mathlib.Tactic.Linarith
import Mathlib.Tactic.Positivity

namespace TreeTemplate

/-! ## 1. Quotients and powers of two -/

variable {num den k : Nat}

/-- A whole number that is not above a quotient is not above the rounded one. -/
theorem le_roundedQuotient (hDen : 0 < den) (h : (k : ℚ) ≤ num / den) :
    k ≤ roundedQuotient num den := by
  rw [le_div_iff₀ (by exact_mod_cast hDen)] at h
  have hFloor : k ≤ num / den := (Nat.le_div_iff_mul_le hDen).2 (by exact_mod_cast h)
  unfold roundedQuotient
  dsimp only
  split <;> omega

/-- A whole number that is not below a quotient is not below the rounded one. -/
theorem roundedQuotient_le (hDen : 0 < den) (h : (num : ℚ) / den ≤ k) :
    roundedQuotient num den ≤ k := by
  rw [div_le_iff₀ (by exact_mod_cast hDen)] at h
  have hNum : num ≤ k * den := by exact_mod_cast h
  have hSplit := Nat.div_add_mod num den
  have hFloor : num / den ≤ k := Nat.div_le_of_le_mul (by rwa [Nat.mul_comm])
  unfold roundedQuotient
  dsimp only
  split
  · -- It is rounded up only if something is left, so `k` is not the quotient.
    have hNe : num / den ≠ k := by
      rintro rfl
      rw [Nat.mul_comm] at hNum
      omega
    omega
  · exact hFloor

theorem twoTo_toNat {q : Int} (h : 0 ≤ q) : ((twoTo q.toNat : Nat) : ℚ) = 2 ^ q := by
  obtain ⟨n, rfl⟩ := Int.eq_ofNat_of_zero_le h
  simp [twoTo]

theorem twoTo_neg_toNat {q : Int} (h : ¬ 0 ≤ q) : ((twoTo (-q).toNat : Nat) : ℚ) = (2 ^ q)⁻¹ := by
  rw [twoTo_toNat (by omega), zpow_neg]

theorem two_pow_add (n : Nat) (q : Int) : (2 : ℚ) ^ (n + q) = (twoTo n : Nat) * 2 ^ q := by
  rw [zpow_add₀ two_ne_zero, ← twoTo_toNat (Int.natCast_nonneg n), Int.toNat_natCast]

theorem twoTo_pos (n : Nat) : 0 < twoTo n := Nat.two_pow_pos n

namespace Double

theorem ratioOf_eq (m : Nat) (q : Int) :
    0 < (ratioOf m q).2 ∧ ((ratioOf m q).1 : ℚ) / (ratioOf m q).2 = m * 2 ^ q := by
  unfold ratioOf
  split
  · next hq => exact ⟨Nat.one_pos, by push_cast; rw [twoTo_toNat hq, div_one]⟩
  · next hq => exact ⟨twoTo_pos _, by rw [twoTo_neg_toNat hq, div_inv_eq_mul]⟩

/-- A quotient divided by `2 ^ q`. -/
def scaledBy (q : Int) (num den : Nat) : Nat × Nat :=
  if 0 ≤ q then (num, den * twoTo q.toNat) else (num * twoTo (-q).toNat, den)

theorem scaledBy_eq (q : Int) (num : Nat) (hDen : 0 < den) :
    0 < (scaledBy q num den).2 ∧
      ((scaledBy q num den).1 : ℚ) / (scaledBy q num den).2 = num / den / 2 ^ q := by
  unfold scaledBy
  split
  · next hq =>
    exact ⟨Nat.mul_pos hDen (twoTo_pos _), by push_cast; rw [twoTo_toNat hq, div_div]⟩
  · next hq =>
    exact ⟨hDen, by push_cast; rw [twoTo_neg_toNat hq, mul_div_right_comm, div_eq_mul_inv (_ / _)]⟩

/-- What is compared with whole numbers is the quotient and a power of two. -/
theorem scaledBy_le_iff (q : Int) (num : Nat) (hDen : 0 < den) :
    (scaledBy q num den).2 ≤ (scaledBy q num den).1 ↔ (2 : ℚ) ^ q ≤ num / den := by
  obtain ⟨hPos, hEq⟩ := scaledBy_eq q num hDen
  have hPos' : (0 : ℚ) < (scaledBy q num den).2 := by exact_mod_cast hPos
  have hPower : (0 : ℚ) < 2 ^ q := by positivity
  rw [← one_le_div₀ hPower, ← hEq, one_le_div₀ hPos', Nat.cast_le]

theorem binaryExponent_eq (num den : Nat) :
    let guess : Int := (Nat.log2 num : Int) - Nat.log2 den
    binaryExponent num den
      = if (scaledBy guess num den).2 ≤ (scaledBy guess num den).1 then guess else guess - 1 := by
  unfold binaryExponent scaledBy
  dsimp only
  split <;> simp

/-- A quotient divided by `2 ^ q` and rounded. -/
def roundedAt (q : Int) (num den : Nat) : Nat :=
  roundedQuotient (scaledBy q num den).1 (scaledBy q num den).2

theorem le_roundedAt {q : Int} (hDen : 0 < den) (h : (k * 2 ^ q : ℚ) ≤ num / den) :
    k ≤ roundedAt q num den := by
  obtain ⟨hPos, hEq⟩ := scaledBy_eq q num hDen
  refine le_roundedQuotient hPos ?_
  rwa [hEq, le_div_iff₀ (by positivity)]

theorem roundedAt_le {q : Int} (hDen : 0 < den) (h : (num / den : ℚ) ≤ k * 2 ^ q) :
    roundedAt q num den ≤ k := by
  obtain ⟨hPos, hEq⟩ := scaledBy_eq q num hDen
  refine roundedQuotient_le hPos ?_
  rwa [hEq, div_le_iff₀ (by positivity)]

/-- A positive quotient lies between two powers of two that follow each
other. -/
theorem binaryExponent_spec (hNum : 0 < num) (hDen : 0 < den) :
    (2 : ℚ) ^ binaryExponent num den ≤ num / den ∧
      (num / den : ℚ) < 2 ^ (binaryExponent num den + 1) := by
  have hDen' : (0 : ℚ) < den := by exact_mod_cast hDen
  have hNumLow : (2 : ℚ) ^ (Nat.log2 num : Int) ≤ num := by
    exact_mod_cast Nat.log2_self_le hNum.ne'
  have hNumHigh : (num : ℚ) < 2 ^ (Nat.log2 num + 1 : Int) := by
    exact_mod_cast Nat.lt_log2_self (n := num)
  have hDenLow : (2 : ℚ) ^ (Nat.log2 den : Int) ≤ den := by
    exact_mod_cast Nat.log2_self_le hDen.ne'
  have hDenHigh : (den : ℚ) < 2 ^ (Nat.log2 den + 1 : Int) := by
    exact_mod_cast Nat.lt_log2_self (n := den)
  -- The guess is right or one too great.
  have hBelow : (2 : ℚ) ^ ((Nat.log2 num : Int) - Nat.log2 den - 1) ≤ num / den := by
    rw [sub_sub, zpow_sub₀ two_ne_zero]
    exact div_le_div₀ (by positivity) hNumLow hDen' hDenHigh.le
  have hAbove : (num / den : ℚ) < 2 ^ ((Nat.log2 num : Int) - Nat.log2 den + 1) := by
    rw [sub_add_eq_add_sub, zpow_sub₀ two_ne_zero]
    exact div_lt_div₀ hNumHigh hDenLow (by positivity) (by positivity)
  rw [binaryExponent_eq]
  split
  · next hReached => exact ⟨(scaledBy_le_iff _ num hDen).1 hReached, hAbove⟩
  · next hNot =>
    rw [scaledBy_le_iff _ num hDen, not_le] at hNot
    exact ⟨hBelow, by rwa [sub_add_cancel]⟩

/-! ## 2. Numbers by their bits -/

/-- The bits of `m * 2 ^ q`, less the sign. -/
def magnitudeOf (m : Nat) (q : Int) : Nat := (q + 1074).toNat * twoTo 52 + m

/-- Whole number and exponent as a finite number has them. -/
structure Canonical (m : Nat) (q : Int) : Prop where
  lt : m < twoTo 53
  least : -1074 ≤ q
  normal : -1074 < q → twoTo 52 ≤ m

variable {x y : Double} {negative : Bool} {m magnitude : Nat} {q : Int}

theorem twoTo_fractionBits : twoTo 52 = 4503599627370496 := rfl

theorem twoTo_wholeBits : twoTo 53 = 9007199254740992 := rfl

theorem twoTo_magnitudeBits : twoTo 63 = 9223372036854775808 := rfl

theorem infinityBits_eq : infinityBits = 9218868437227405312 := rfl

theorem magnitude_lt (x : Double) : x.magnitude < twoTo 63 := Nat.mod_lt _ (twoTo_pos 63)

theorem finite?_eq_some (h : x.finite? = some (negative, m, q)) :
    negative = x.isNegative ∧ Canonical m q ∧ x.magnitude = magnitudeOf m q ∧
      x.magnitude < infinityBits := by
  have hLt := x.magnitude_lt
  unfold finite? at h
  dsimp only at h
  split at h
  · cases h
  · next hFinite =>
    split at h
    · next hSubnormal =>
      cases h
      simp only [magnitudeOf, twoTo_fractionBits, infinityBits_eq] at hSubnormal ⊢
      exact ⟨trivial, ⟨by rw [twoTo_wholeBits]; omega, le_rfl, fun h => absurd h (lt_irrefl _)⟩,
        by omega, by omega⟩
    · next hNormal =>
      cases h
      simp only [magnitudeOf, twoTo_fractionBits, twoTo_magnitudeBits, infinityBits_eq]
        at hLt hFinite hNormal ⊢
      exact ⟨trivial, ⟨by rw [twoTo_wholeBits]; omega, by omega, fun _ => Nat.le_add_right _ _⟩,
        by omega, by omega⟩

theorem finite?_eq_none (h : x.finite? = none) : infinityBits ≤ x.magnitude := by
  unfold finite? at h
  dsimp only at h
  split at h
  · next hInfinite =>
    simp only [twoTo_fractionBits, infinityBits_eq] at hInfinite ⊢
    omega
  · split at h <;> cases h

/-- The sign and the other bits can be read back. -/
theorem signed_spec (h : magnitude < twoTo 63) :
    (signed negative magnitude).magnitude = magnitude ∧
      (signed negative magnitude).isNegative = negative := by
  have hBits : (signed negative magnitude).bits.toNat
      = if negative then twoTo 63 + magnitude else magnitude := by
    show (UInt64.ofNat _).toNat = _
    rw [UInt64.toNat_ofNat', Nat.mod_eq_of_lt]
    simp only [twoTo_magnitudeBits] at h ⊢
    split <;> omega
  unfold Double.magnitude isNegative
  rw [hBits]
  simp only [twoTo_magnitudeBits] at h ⊢
  cases negative with
  | false => simp only [Bool.false_eq_true, if_false, decide_eq_false_iff_not]; omega
  | true => simp only [if_true, decide_eq_true_eq]; omega

/-! ## 3. Rounding and one number -/

/-- The exponent of the last bit of a rounded quotient. -/
def lastExponent (num den : Nat) : Int := max (binaryExponent num den - 52) (-1074)

theorem ofRatio_spec (negative : Bool) (hNum : 0 < num) (den : Nat) :
    let q := lastExponent num den
    (ofRatio negative num den).isNegative = negative ∧
      (ofRatio negative num den).magnitude
        = min (magnitudeOf (roundedAt q num den) q) infinityBits := by
  intro q
  have hEq : ofRatio negative num den
      = signed negative (min (magnitudeOf (roundedAt q num den) q) infinityBits) := by
    unfold ofRatio
    rw [if_neg hNum.ne']
    simp only [q, roundedAt, scaledBy, lastExponent, magnitudeOf]
    split <;> rfl
  rw [hEq]
  have hLt : min (magnitudeOf (roundedAt q num den) q) infinityBits < twoTo 63 :=
    lt_of_le_of_lt (min_le_right _ _) (by decide)
  exact (signed_spec hLt).symm

theorem magnitudeOf_le_of_lt {m' : Nat} {q' : Int} (hLast : -1074 ≤ q) (h : q < q')
    (hm : m ≤ twoTo 53) (hm' : twoTo 52 ≤ m') : magnitudeOf m q ≤ magnitudeOf m' q' := by
  simp only [magnitudeOf, twoTo_fractionBits, twoTo_wholeBits] at *
  omega

/-- What is rounded has no more bits than there is room for. -/
theorem roundedAt_lastExponent (hNum : 0 < num) (hDen : 0 < den) :
    let q := lastExponent num den
    (-1074 : Int) ≤ q ∧ roundedAt q num den ≤ twoTo 53 ∧
      (-1074 < q → twoTo 52 ≤ roundedAt q num den) := by
  intro q
  obtain ⟨hLow, hHigh⟩ := binaryExponent_spec hNum hDen
  refine ⟨le_max_right _ _, roundedAt_le hDen ?_, fun hNormal => le_roundedAt hDen ?_⟩
  · have hExponent : binaryExponent num den + 1 ≤ 53 + q := by
      simp only [q, lastExponent]
      omega
    calc (num / den : ℚ) ≤ 2 ^ (binaryExponent num den + 1) := hHigh.le
      _ ≤ 2 ^ (53 + q) := zpow_le_zpow_right₀ one_le_two hExponent
      _ = (twoTo 53 : Nat) * 2 ^ q := two_pow_add 53 q
  · have hExponent : 52 + q = binaryExponent num den := by
      simp only [q, lastExponent] at hNormal ⊢
      omega
    calc ((twoTo 52 : Nat) * 2 ^ q : ℚ) = 2 ^ (52 + q) := (two_pow_add 52 q).symm
      _ = 2 ^ binaryExponent num den := by rw [hExponent]
      _ ≤ num / den := hLow

/-- A quotient that is not below a number is not rounded to one below it. -/
theorem le_ofRatio (h : Canonical m q) (hMagnitude : magnitudeOf m q ≤ infinityBits)
    (hNum : 0 < num) (hDen : 0 < den) (hLe : (m * 2 ^ q : ℚ) ≤ num / den) :
    magnitudeOf m q ≤ (ofRatio negative num den).magnitude := by
  obtain ⟨hLast, _, hNormal⟩ := roundedAt_lastExponent hNum hDen
  obtain ⟨_, hHigh⟩ := binaryExponent_spec hNum hDen
  have hExponent : q ≤ lastExponent num den := by
    by_contra hGreater
    have hFull : (twoTo 52 : ℚ) ≤ m := by exact_mod_cast h.normal (by omega)
    have hPowers : (2 : ℚ) ^ (52 + q) < 2 ^ (binaryExponent num den + 1) := by
      calc (2 : ℚ) ^ (52 + q) = (twoTo 52 : Nat) * 2 ^ q := two_pow_add 52 q
        _ ≤ m * 2 ^ q := mul_le_mul_of_nonneg_right hFull (by positivity)
        _ < 2 ^ (binaryExponent num den + 1) := hLe.trans_lt hHigh
    rw [zpow_lt_zpow_iff_right₀ one_lt_two] at hPowers
    simp only [lastExponent] at hGreater
    omega
  rw [(ofRatio_spec negative hNum den).2]
  refine le_min ?_ hMagnitude
  rcases hExponent.eq_or_lt with hSame | hLess
  · rw [← hSame]
    exact Nat.add_le_add_left (le_roundedAt hDen hLe) _
  · exact magnitudeOf_le_of_lt h.least hLess h.lt.le (hNormal (h.least.trans_lt hLess))

/-- A quotient that is not above a number is not rounded to one above it. -/
theorem ofRatio_le (h : Canonical m q) (hNum : 0 < num) (hDen : 0 < den)
    (hLe : (num / den : ℚ) ≤ m * 2 ^ q) :
    (ofRatio negative num den).magnitude ≤ magnitudeOf m q := by
  obtain ⟨hLast, hBound, _⟩ := roundedAt_lastExponent hNum hDen
  obtain ⟨hLow, _⟩ := binaryExponent_spec hNum hDen
  have hExponent : lastExponent num den ≤ q := by
    have hShort : (m : ℚ) < twoTo 53 := by exact_mod_cast h.lt
    have hPowers : (2 : ℚ) ^ binaryExponent num den < 2 ^ (53 + q) := by
      calc (2 : ℚ) ^ binaryExponent num den ≤ m * 2 ^ q := hLow.trans hLe
        _ < (twoTo 53 : Nat) * 2 ^ q := mul_lt_mul_of_pos_right hShort (by positivity)
        _ = 2 ^ (53 + q) := (two_pow_add 53 q).symm
    rw [zpow_lt_zpow_iff_right₀ one_lt_two] at hPowers
    refine max_le ?_ h.least
    omega
  rw [(ofRatio_spec negative hNum den).2]
  refine (min_le_left _ _).trans ?_
  rcases hExponent.eq_or_lt with hSame | hLess
  · rw [hSame]
    exact Nat.add_le_add_left (roundedAt_le hDen hLe) _
  · exact magnitudeOf_le_of_lt hLast hLess hBound (h.normal (hLast.trans_lt hLess))

/-! ## 4. Sums -/

theorem lt_eq_false_of_le (h : y.orderKey ≤ x.orderKey) : x.lt y = false := by
  simp [lt, Int.not_lt.2 h]

theorem lt_eq_false_of_isNaN (h : x.isNaN = true) : x.lt y = false := by
  simp [lt, h]

theorem Canonical.eq_zero_iff (h : Canonical m q) : magnitudeOf m q = 0 ↔ m = 0 := by
  have hLeast := h.least
  have hNormal := h.normal
  simp only [magnitudeOf, twoTo_fractionBits] at hNormal ⊢
  omega

theorem orderKey_nonneg (h : x.isNegative = false) : x.orderKey = x.magnitude := by
  simp [orderKey, withSign, h]

theorem orderKey_nonpos (h : x.isNegative = true) : x.orderKey = -x.magnitude := by
  simp [orderKey, withSign, h]

theorem orderKey_signed_zero (negative : Bool) : (signed negative 0).orderKey = 0 := by
  cases negative <;> decide +kernel

theorem ratioOf_pos (hm : 0 < m) (q : Int) : 0 < (ratioOf m q).1 := by
  unfold ratioOf
  split
  · exact Nat.mul_pos hm (twoTo_pos _)
  · exact hm

/-- What is rounded to a number other than zero. -/
theorem ofScaled_spec {n : Int} (hn : n ≠ 0) (p : Int) (zeroSign : Bool) :
    ∃ num den : Nat, 0 < num ∧ 0 < den ∧ (num / den : ℚ) = (n.natAbs : ℚ) * 2 ^ p ∧
      ofScaled n p zeroSign = ofRatio (n < 0) num den := by
  obtain ⟨hDen, hRatio⟩ := ratioOf_eq n.natAbs p
  refine ⟨_, _, ratioOf_pos (Int.natAbs_pos.2 hn) p, hDen, hRatio, ?_⟩
  rw [ofScaled, if_neg hn]

/-- A finite number and its whole number have one sign. -/
theorem sign_orderKey (h : x.finite? = some (negative, m, q)) :
    (0 ≤ x.orderKey ↔ 0 ≤ withSign negative m) ∧ (x.orderKey ≤ 0 ↔ withSign negative m ≤ 0) := by
  obtain ⟨rfl, hCanonical, hMagnitude, _⟩ := finite?_eq_some h
  have hZero := hCanonical.eq_zero_iff
  rw [← hMagnitude] at hZero
  unfold orderKey withSign
  split <;> omega

/-- A rounded number is not below one that the exact number is not below. -/
theorem orderKey_le_ofScaled (h : x.finite? = some (negative, m, q)) {n p : Int}
    (hLe : (withSign negative m * 2 ^ q : ℚ) ≤ n * 2 ^ p) (zeroSign : Bool) :
    x.orderKey ≤ (ofScaled n p zeroSign).orderKey := by
  have hSign := sign_orderKey h
  obtain ⟨rfl, hCanonical, hMagnitude, hFinite⟩ := finite?_eq_some h
  have hExact : (0 : ℚ) < 2 ^ q := by positivity
  have hPower : (0 : ℚ) < 2 ^ p := by positivity
  rcases lt_trichotomy n 0 with hn | rfl | hn
  · obtain ⟨num, den, hNum, hDen, hRatio, hEq⟩ := ofScaled_spec hn.ne p zeroSign
    obtain ⟨hRounded, _⟩ := ofRatio_spec true hNum den
    have hNegative : x.isNegative = true := by
      by_contra hPositive
      rw [withSign, if_neg hPositive] at hLe
      have hBelow : (n : ℚ) * 2 ^ p < 0 := mul_neg_of_neg_of_pos (by exact_mod_cast hn) hPower
      have hAbove : (0 : ℚ) ≤ ((m : Int) : ℚ) * 2 ^ q := by positivity
      linarith
    rw [decide_eq_true hn] at hEq
    rw [hEq, orderKey_nonpos hNegative, orderKey_nonpos hRounded, hMagnitude]
    refine Int.neg_le_neg (Int.ofNat_le.2 (ofRatio_le hCanonical hNum hDen ?_))
    rw [hRatio, Nat.cast_natAbs, abs_of_neg hn]
    rw [hNegative, withSign, if_pos rfl] at hLe
    push_cast at hLe ⊢
    linarith
  · rw [ofScaled, if_pos rfl, orderKey_signed_zero, hSign.2]
    rw [Int.cast_zero, zero_mul] at hLe
    exact_mod_cast nonpos_of_mul_nonpos_left hLe hExact
  · obtain ⟨num, den, hNum, hDen, hRatio, hEq⟩ := ofScaled_spec hn.ne' p zeroSign
    obtain ⟨hRounded, _⟩ := ofRatio_spec false hNum den
    rw [decide_eq_false (not_lt.2 hn.le)] at hEq
    rw [hEq, orderKey_nonneg hRounded]
    cases hNegative : x.isNegative with
    | true =>
      rw [orderKey_nonpos hNegative]
      omega
    | false =>
      rw [orderKey_nonneg hNegative, hMagnitude]
      refine Int.ofNat_le.2 (le_ofRatio hCanonical (hMagnitude ▸ hFinite.le) hNum hDen ?_)
      rw [hRatio, Nat.cast_natAbs, abs_of_pos hn]
      rw [hNegative, withSign, if_neg Bool.false_ne_true] at hLe
      exact_mod_cast hLe

theorem ofInt_zero : (ofInt 0).isNaN = false ∧ (ofInt 0).orderKey = 0 := by
  decide +kernel

/-- An integer that is not negative is not rounded to a negative number. -/
theorem ofInt_not_lt {n : Int} (h : 0 ≤ n) : (ofInt n).lt (ofInt 0) = false := by
  refine lt_eq_false_of_le ?_
  rw [ofInt_zero.2]
  rcases h.eq_or_lt with rfl | hPositive
  · rw [ofInt_zero.2]
  · obtain ⟨hSign, _⟩ := ofRatio_spec false (Int.natAbs_pos.2 hPositive.ne') 1
    rw [ofInt, decide_eq_false (not_lt.2 h), orderKey_nonneg hSign]
    exact Int.natCast_nonneg _

/-- A sum with a number that is not negative is not less than the other
summand. -/
theorem add_not_lt (x : Double) (h : y.lt (ofInt 0) = false) : (x.add y).lt x = false := by
  have hNonneg : y.isNaN = false → 0 ≤ y.orderKey := by
    intro hNaN
    simpa [lt, hNaN, ofInt_zero] using h
  unfold add
  rcases hx : x.finite? with _ | ⟨sx, mx, qx⟩ <;> rcases hy : y.finite? with _ | ⟨sy, my, qy⟩ <;>
    dsimp only
  · split
    · exact lt_eq_false_of_le le_rfl
    · split
      · next hNaN => exact lt_eq_false_of_isNaN hNaN
      · split
        · exact lt_eq_false_of_le le_rfl
        · exact lt_eq_false_of_isNaN rfl
  · exact lt_eq_false_of_le le_rfl
  · cases hNaN : y.isNaN with
    | true => exact lt_eq_false_of_isNaN hNaN
    | false =>
      obtain ⟨_, _, _, hFinite⟩ := finite?_eq_some hx
      have hInfinite := finite?_eq_none hy
      have hKey := hNonneg hNaN
      refine lt_eq_false_of_le ?_
      simp only [orderKey, withSign] at hKey ⊢
      split at hKey <;> split <;> omega
  · have hNaN : y.isNaN = false := by
      obtain ⟨_, _, _, hFinite⟩ := finite?_eq_some hy
      exact decide_eq_false (Nat.lt_asymm hFinite)
    have hValue : (0 : ℚ) ≤ withSign sy my * 2 ^ qy := by
      have hWhole := (sign_orderKey hy).1.1 (hNonneg hNaN)
      exact mul_nonneg (by exact_mod_cast hWhole) (by positivity)
    refine lt_eq_false_of_le (orderKey_le_ofScaled hx ?_ _)
    push_cast
    rw [twoTo_toNat (by omega), twoTo_toNat (by omega), add_mul, mul_assoc, mul_assoc,
      ← zpow_add₀ two_ne_zero, ← zpow_add₀ two_ne_zero, sub_add_cancel, sub_add_cancel]
    exact le_add_of_nonneg_right hValue

end Double

end TreeTemplate
