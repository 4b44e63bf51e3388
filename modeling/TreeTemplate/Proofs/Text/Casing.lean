/-
TreeTemplate.Proofs.Text.Casing — small letters stay as they are.

The small form of a code point is found by rows of capitals. Every row is
mapped to code points that stand in no row at all and that have no part in
the syntax of markup, so lowering twice is lowering once, and a lowered
text has white space, `/`, `=` or `>` only where the text had them.

* `Text.lower_lower` — lowering twice.
* `Text.lower_cons` — a lowered text with a beginning.
* `Text.mem_lower`, `Text.trim_lower` — what lowering does not bring in.

The rows are compared as intervals, row by row; no code point is tried.
-/
import TreeTemplate.Proofs.Text.Pieces
import TreeTemplate.Text.Casing

namespace TreeTemplate

/-! ## 1. Rows as intervals -/

namespace Casing

/-- A row of capitals, each at a distance of `step` from the one before it;
`target` is the small letter of the first. -/
structure Row where
  first : Nat
  last : Nat
  step : Nat
  target : Nat

namespace Row

/-- Whether the number of a code point stands in the row. -/
def holds (r : Row) (n : Nat) : Prop := r.first ≤ n ∧ n ≤ r.last ∧ (n - r.first) % r.step = 0

instance (r : Row) (n : Nat) : Decidable (r.holds n) :=
  inferInstanceAs (Decidable (_ ∧ _ ∧ _))

/-- The last small letter of a row. -/
def lastTarget (r : Row) : Nat := r.target + (r.last - r.first)

/-- Whether no small letter of `r` stands in `s`: the two lie apart, or `s`
has only every second place and `r` is mapped to the places between. -/
def clears (r s : Row) : Bool :=
  Nat.blt r.lastTarget s.first || Nat.blt s.last r.target ||
    (Nat.beq s.step 2 && (Nat.beq r.step 2 || Nat.beq r.first r.last)
      && Nat.beq ((r.target + s.first) % 2) 1)

theorem not_holds_of_clears {r s : Row} (h : r.clears s = true) {n : Nat} (hn : r.holds n) :
    ¬ s.holds (r.target + (n - r.first)) := by
  obtain ⟨f, l, step, t⟩ := r
  obtain ⟨f', l', step', t'⟩ := s
  obtain ⟨h1, h2, h3⟩ := hn
  rintro ⟨h1', h2', h3'⟩
  simp only [clears, lastTarget, Bool.or_eq_true, Bool.and_eq_true, Nat.blt_eq, Nat.beq_eq]
    at h1 h2 h3 h1' h2' h3' h
  rcases h with (h | h) | ⟨⟨h, h'⟩, hodd⟩
  · omega
  · omega
  · subst h
    rcases h' with h' | h'
    · subst h'; omega
    · omega

end Row

/-- All rows of capitals. -/
def rows : List Row :=
  ⟨65, 90, 1, 97⟩
    :: adjacentRows.map (fun (first, last, shift) => ⟨first, last, 1, (first + shift).toNat⟩)
    ++ alternatingRows.map (fun (first, last, shift) => ⟨first, last, 2, (first + shift).toNat⟩)

/-- What no small letter is: a code point before the letter `a`, white space,
a surrogate, the dotted capital I. -/
def reserved : List Row :=
  [⟨0, 0x60, 1, 0⟩, ⟨0x85, 0x85, 1, 0⟩, ⟨0xA0, 0xA0, 1, 0⟩, ⟨0x130, 0x130, 1, 0⟩,
    ⟨0x1680, 0x1680, 1, 0⟩,
    ⟨0x2000, 0x200A, 1, 0⟩, ⟨0x2028, 0x2029, 1, 0⟩, ⟨0x202F, 0x202F, 1, 0⟩,
    ⟨0x205F, 0x205F, 1, 0⟩, ⟨0x3000, 0x3000, 1, 0⟩, ⟨0xD800, 0xDFFF, 1, 0⟩]

/-- No small letter is a capital, or reserved; the numbers of small letters
are numbers of code points. -/
theorem rows_clear : (rows.all fun r => (rows ++ reserved).all r.clears) = true := by
  decide +kernel

theorem rows_within : (rows.all fun r => Nat.blt r.lastTarget 0x110000) = true := by
  decide +kernel

/-- The shifts of all rows lead to numbers. -/
theorem shifts_within :
    ((adjacentRows ++ alternatingRows).all fun r => decide (0 ≤ r.1 + r.2.2)) = true := by
  decide +kernel

theorem not_holds_target {r s : Row} (hr : r ∈ rows) (hs : s ∈ rows ++ reserved) {n : Nat}
    (hn : r.holds n) : ¬ s.holds (r.target + (n - r.first)) := by
  have h := List.all_eq_true.1 rows_clear r hr
  exact Row.not_holds_of_clears (List.all_eq_true.1 h s hs) hn

theorem target_lt {r : Row} (hr : r ∈ rows) {n : Nat} (hn : r.holds n) :
    r.target + (n - r.first) < 0x110000 := by
  have h : r.lastTarget < 0x110000 := by
    simpa using List.all_eq_true.1 rows_within r hr
  obtain ⟨_, h2, _⟩ := hn
  unfold Row.lastTarget at h
  omega

theorem mem_rows_of_adjacent {first last : Nat} {shift : Int}
    (h : (first, last, shift) ∈ adjacentRows) :
    ⟨first, last, 1, (first + shift).toNat⟩ ∈ rows :=
  List.mem_append_left _ (List.mem_cons_of_mem _ (List.mem_map.2 ⟨_, h, rfl⟩))

theorem mem_rows_of_alternating {first last : Nat} {shift : Int}
    (h : (first, last, shift) ∈ alternatingRows) :
    ⟨first, last, 2, (first + shift).toNat⟩ ∈ rows :=
  List.mem_append_right _ (List.mem_map.2 ⟨_, h, rfl⟩)

/-- The row that a shift comes from. -/
theorem exists_row {n : Nat} (h : CodePoint.lowerShift n ≠ 0) :
    ∃ r ∈ rows, r.holds n ∧ (n + CodePoint.lowerShift n).toNat = r.target + (n - r.first) := by
  have hShift : ∀ r ∈ adjacentRows ++ alternatingRows, 0 ≤ (r.1 : Int) + r.2.2 := fun r hr => by
    simpa using List.all_eq_true.1 shifts_within r hr
  revert h
  unfold CodePoint.lowerShift
  split
  · split
    · next hCap =>
      intro _
      refine ⟨⟨65, 90, 1, 97⟩, by simp [rows], ⟨hCap.1, hCap.2, Nat.mod_one _⟩, ?_⟩
      simp only
      omega
    · exact absurd rfl
  · split
    · next first last shift hFind =>
      intro _
      have hIn := List.find?_some hFind
      have hMem := List.mem_of_find?_eq_some hFind
      have hTarget := hShift _ (List.mem_append_left _ hMem)
      simp only [Bool.and_eq_true, decide_eq_true_eq] at hIn hTarget
      refine ⟨_, mem_rows_of_adjacent hMem, ⟨hIn.1, hIn.2, Nat.mod_one _⟩, ?_⟩
      simp only
      omega
    · split
      · next first last shift hFind =>
        intro _
        have hIn := List.find?_some hFind
        have hMem := List.mem_of_find?_eq_some hFind
        have hTarget := hShift _ (List.mem_append_right _ hMem)
        simp only [Bool.and_eq_true, decide_eq_true_eq, beq_iff_eq] at hIn hTarget
        refine ⟨_, mem_rows_of_alternating hMem, ⟨hIn.1.1, hIn.1.2, hIn.2⟩, ?_⟩
        simp only
        omega
      · exact absurd rfl

/-- What stands in no row stays as it is. -/
theorem lowerShift_eq_zero {n : Nat} (h : ∀ r ∈ rows, ¬ r.holds n) :
    CodePoint.lowerShift n = 0 := by
  by_contra hShift
  obtain ⟨r, hr, hn, _⟩ := exists_row hShift
  exact h r hr hn

end Casing

/-! ## 2. Code points -/

namespace CodePoint

/-- Whether a code point is neither a capital nor reserved. All small
letters are so. -/
def Settled (c : CodePoint) : Prop := ∀ r ∈ Casing.rows ++ Casing.reserved, ¬ r.holds c.value

instance (c : CodePoint) : Decidable c.Settled :=
  inferInstanceAs (Decidable (∀ r ∈ Casing.rows ++ Casing.reserved, ¬ r.holds c.value))

theorem value_ofNat {n : Nat} (h : n < 0x110000) : (ofNat n).value = n := by
  by_cases hValid : Nat.isValidChar n
  · rw [ofNat, ofNat?, dif_pos hValid]
    rfl
  · have hSurrogate : 0xD800 ≤ n ∧ n < 0xE000 := by
      rw [Nat.isValidChar] at hValid
      omega
    rw [ofNat, ofNat?, dif_neg hValid, dif_pos hSurrogate]
    exact Nat.add_sub_of_le hSurrogate.1

/-- A code point stays, or it becomes one that is settled. -/
theorem lower_eq_or_settled (c : CodePoint) :
    (lowerShift c.value = 0 ∧ c.lower = c) ∨ c.lower.Settled := by
  by_cases h : lowerShift c.value = 0
  · exact .inl ⟨h, by simp [lower, h]⟩
  · obtain ⟨r, hr, hn, hTarget⟩ := Casing.exists_row h
    have hValue : c.lower.value = r.target + (c.value - r.first) := by
      simp only [lower, if_neg h, hTarget]
      exact value_ofNat (Casing.target_lt hr hn)
    refine .inr fun s hs => ?_
    rw [hValue]
    exact Casing.not_holds_target hr hs hn

theorem Settled.lower_eq {c : CodePoint} (h : c.Settled) : c.lower = c := by
  have hShift := Casing.lowerShift_eq_zero fun r hr => h r (List.mem_append_left _ hr)
  simp [lower, hShift]

theorem lower_lower (c : CodePoint) : c.lower.lower = c.lower := by
  rcases lower_eq_or_settled c with ⟨_, h⟩ | h
  · rw [h, h]
  · exact h.lower_eq

theorem Settled.not_reserved {c : CodePoint} (h : c.Settled) {r : Casing.Row}
    (hr : r ∈ Casing.reserved) : ¬ r.holds c.value :=
  h r (List.mem_append_right _ hr)

theorem Settled.isBlank_eq_false {c : CodePoint} (h : c.Settled) : c.isBlank = false := by
  have hReserved : ∀ r ∈ Casing.reserved, ¬ r.holds c.value := fun r hr => h.not_reserved hr
  simp only [Casing.reserved, Casing.Row.holds, Nat.mod_one, and_true, List.forall_mem_cons,
    List.not_mem_nil, false_implies, implies_true] at hReserved
  rw [Bool.eq_false_iff]
  intro hBlank
  simp only [isBlank, Bool.or_eq_true, Bool.and_eq_true, decide_eq_true_eq, beq_iff_eq] at hBlank
  omega

/-- A settled code point is no sign of ASCII that stands before the small letters. -/
theorem Settled.lt_value {c : CodePoint} (h : c.Settled) : 0x60 < c.value := by
  have hRow := h.not_reserved (r := ⟨0, 0x60, 1, 0⟩) List.mem_cons_self
  simp only [Casing.Row.holds, Nat.mod_one, and_true] at hRow
  omega

/-- A settled code point is none of those that end the name of an attribute. -/
theorem Settled.ne_sign {c : CodePoint} (h : c.Settled) :
    c ≠ .scalar '/' ∧ c ≠ .scalar '=' ∧ c ≠ .scalar '>' := by
  refine ⟨?_, ?_, ?_⟩ <;> rintro rfl <;> revert h <;> decide +kernel

end CodePoint

/-! ## 3. Texts -/

/-- Whether lowering leaves a code point as it is, wherever it stands. -/
def CodePoint.IsSmall (c : CodePoint) : Prop :=
  c.lower = c ∧ c ≠ .scalar '\u0130' ∧ c ≠ .scalar '\u03A3'

theorem CodePoint.Settled.isSmall {c : CodePoint} (h : c.Settled) : c.IsSmall := by
  refine ⟨h.lower_eq, ?_, ?_⟩ <;> rintro rfl <;> revert h <;> decide +kernel

namespace Text

theorem lowerBetween_eq {c : CodePoint} (h : c.IsSmall) (before after : Text) :
    lowerBetween before c after = [c] := by
  obtain ⟨hLower, hDotted, hSigma⟩ := h
  rw [lowerBetween, if_neg hDotted, if_neg hSigma, hLower]

/-- What lowering makes of a code point, wherever it stands: a code point
that is settled or has stayed, and perhaps a mark after it. -/
theorem lowerBetween_cons (before : Text) (c : CodePoint) (after : Text) :
    ∃ d later, lowerBetween before c after = d :: later ∧ (d.Settled ∨ (d = c ∧ c.IsSmall))
      ∧ ∀ e ∈ later, e.Settled := by
  have hDot : (CodePoint.scalar 'i').Settled ∧ (CodePoint.scalar '\u0307').Settled := by
    decide +kernel
  have hSigma : (CodePoint.scalar '\u03C2').Settled ∧ (CodePoint.scalar '\u03C3').Settled := by
    decide +kernel
  unfold lowerBetween
  split
  · exact ⟨_, _, rfl, .inl hDot.1, List.forall_mem_singleton.2 hDot.2⟩
  · next hDotted =>
    split
    · split
      · exact ⟨_, _, rfl, .inl hSigma.1, List.forall_mem_nil _⟩
      · exact ⟨_, _, rfl, .inl hSigma.2, List.forall_mem_nil _⟩
    · next hNotSigma =>
      refine ⟨_, _, rfl, ?_, List.forall_mem_nil _⟩
      rcases c.lower_eq_or_settled with ⟨_, hStays⟩ | hSettled
      · exact .inr ⟨hStays, hStays, hDotted, hNotSigma⟩
      · exact .inl hSettled

theorem mem_lowerAfter {before t : Text} {d : CodePoint} (h : d ∈ lowerAfter before t) :
    d.Settled ∨ (d ∈ t ∧ d.IsSmall) := by
  induction t generalizing before with
  | nil => cases h
  | cons c rest ih =>
    obtain ⟨first, later, hHead, hFirst, hLater⟩ := lowerBetween_cons before c rest
    rw [lowerAfter, hHead, List.cons_append] at h
    rcases List.mem_cons.1 h with rfl | h
    · rcases hFirst with hSettled | ⟨rfl, hSmall⟩
      · exact .inl hSettled
      · exact .inr ⟨List.mem_cons_self, hSmall⟩
    · rcases List.mem_append.1 h with h | h
      · exact .inl (hLater d h)
      · rcases ih h with hSettled | ⟨hMem, hSmall⟩
        · exact .inl hSettled
        · exact .inr ⟨List.mem_cons_of_mem _ hMem, hSmall⟩

/-- What stands at the end after lowering. -/
theorem getLast?_lowerAfter {before t : Text} :
    ∀ d ∈ (lowerAfter before t).getLast?, d.Settled ∨ d ∈ t.getLast? := by
  induction t generalizing before with
  | nil => exact fun d hd => by cases hd
  | cons c rest ih =>
    intro d hd
    obtain ⟨first, later, hHead, hFirst, hLater⟩ := lowerBetween_cons before c rest
    rw [lowerAfter] at hd
    cases rest with
    | nil =>
      rw [hHead, lowerAfter, List.append_nil] at hd
      rcases List.mem_cons.1 (List.mem_of_mem_getLast? hd) with rfl | hMem
      · rcases hFirst with hSettled | ⟨rfl, _⟩
        · exact .inl hSettled
        · exact .inr rfl
      · exact .inl (hLater d hMem)
    | cons next rest =>
      have hNe : lowerAfter (c :: before) (next :: rest) ≠ [] := by
        obtain ⟨_, _, hNext, _⟩ := lowerBetween_cons (c :: before) next rest
        rw [lowerAfter, hNext]
        exact List.cons_ne_nil _ _
      rw [List.getLast?_append_of_ne_nil _ hNe] at hd
      rw [List.getLast?_cons_cons]
      exact ih d hd

theorem lowerAfter_eq {t : Text} (h : ∀ c ∈ t, c.IsSmall) (before : Text) :
    lowerAfter before t = t := by
  induction t generalizing before with
  | nil => rfl
  | cons c rest ih =>
    rw [lowerAfter, lowerBetween_eq (h c List.mem_cons_self),
      ih fun d hd => h d (List.mem_cons_of_mem _ hd)]
    rfl

/-- A text of small letters is its own small form. -/
theorem lower_eq {t : Text} (h : ∀ c ∈ t, c.IsSmall) : lower t = t := lowerAfter_eq h []

/-- Lowering twice is lowering once. -/
theorem lower_lower (t : Text) : lower (lower t) = lower t :=
  lower_eq fun c hc => by
    rcases mem_lowerAfter hc with h | ⟨_, h⟩
    · exact h.isSmall
    · exact h

/-- The small form of a text with a beginning. -/
theorem lower_cons (c : CodePoint) (rest : Text) :
    ∃ d later, lower (c :: rest) = d :: later ∧ (d.Settled ∨ d = c)
      ∧ ∀ e ∈ later, e.Settled ∨ e ∈ rest := by
  obtain ⟨d, later, hHead, hFirst, hLater⟩ := lowerBetween_cons [] c rest
  refine ⟨d, later ++ lowerAfter [c] rest, by rw [lower, lowerAfter, hHead]; rfl,
    hFirst.imp_right And.left, fun e he => ?_⟩
  rcases List.mem_append.1 he with he | he
  · exact .inl (hLater e he)
  · exact (mem_lowerAfter he).imp_right And.left

/-- Lowering brings in nothing but small letters. -/
theorem mem_lower {t : Text} {d : CodePoint} (h : d ∈ lower t) : d.Settled ∨ d ∈ t :=
  (mem_lowerAfter h).imp_right And.left

/-- Lowering brings no white space to the ends. -/
theorem trim_lower {t : Text} (h : trim t = t) : trim (lower t) = lower t := by
  refine trim_eq_self (fun d hd => ?_) fun d hd => ?_
  · cases t with
    | nil => cases hd
    | cons c rest =>
      obtain ⟨first, later, hLower, hFirst, _⟩ := lower_cons c rest
      rw [hLower] at hd
      cases hd
      rcases hFirst with hSettled | rfl
      · exact hSettled.isBlank_eq_false
      · exact head?_trim _ _ (by rw [h]; rfl)
  · rcases getLast?_lowerAfter d hd with hSettled | hLast
    · exact hSettled.isBlank_eq_false
    · exact getLast?_trim _ _ (by rwa [h])

end Text

end TreeTemplate
