/-
TreeTemplate.Proofs.Site.BlankLines — a text without its blank lines.

A blank line is white space between two line feeds. Taking blank lines out
works from left to right, but it never looks over a code point that is not
white space: so it works on the two sides of such a code point apart, and it
can be done before escaping as well as after it.

* `collapseBlankLines_break` — one step, at a line feed.
* `collapseBlankLines_append`, `collapseBlankLines_flatMap` — piece by piece,
  and code point by code point.
* `collapseBlankLines_blankLine` — a blank line can be taken out first.
* `HasBlankLine`, `collapseBlankLines_eq_self_iff` — the texts that stay;
  `not_hasBlankLine_collapseBlankLines`, they are what is left of any.
* `BlankLinesLack`, `filter_collapseBlankLines_iff` — what else is lost.
-/
import TreeTemplate.Site.Document
import Mathlib.Data.List.Induction

namespace TreeTemplate

/-- The line feed. -/
abbrev lineFeed : CodePoint := .scalar '\n'

theorem isBlank_lineFeed : lineFeed.isBlank = true := by decide

/-! ## 1. The last line feed -/

/-- White space up to its last line feed. -/
theorem afterLastBreak?_eq_some {t after : Text} (h : afterLastBreak? t = some after) :
    ∃ blanks : Text, t = blanks ++ lineFeed :: after ∧ (∀ c ∈ blanks, c.isBlank = true) := by
  induction t generalizing after with
  | nil => cases h
  | cons c rest ih =>
    unfold afterLastBreak? at h
    split at h
    · next hc =>
      split at h
      · next found hFound =>
        cases h
        obtain ⟨blanks, rfl, hBlanks⟩ := ih hFound
        exact ⟨c :: blanks, rfl, List.forall_mem_cons.2 ⟨hc, hBlanks⟩⟩
      · split at h
        · next hBreak =>
          cases h
          exact ⟨[], by rw [hBreak]; rfl, List.forall_mem_nil _⟩
        · cases h
    · cases h

theorem afterLastBreak?_eq_none {t : Text} (h : lineFeed ∉ t) : afterLastBreak? t = none := by
  refine Option.eq_none_iff_forall_ne_some.2 fun after hSome => ?_
  obtain ⟨blanks, rfl, -⟩ := afterLastBreak?_eq_some hSome
  exact h (List.mem_append_right _ List.mem_cons_self)

/-- Behind white space the search goes on. -/
theorem afterLastBreak?_blanks {blanks : Text} (h : ∀ c ∈ blanks, c.isBlank = true)
    (after : Text) :
    afterLastBreak? (blanks ++ lineFeed :: after)
      = some ((afterLastBreak? after).getD after) := by
  induction blanks with
  | nil =>
    rw [List.nil_append, afterLastBreak?, if_pos isBlank_lineFeed]
    cases afterLastBreak? after with
    | some last => rfl
    | none => exact if_pos rfl
  | cons c blanks ih =>
    obtain ⟨hc, hBlanks⟩ := List.forall_mem_cons.1 h
    rw [List.cons_append, afterLastBreak?, if_pos hc, ih hBlanks]

/-- Behind the last line feed of white space there is none. -/
theorem afterLastBreak?_after {t after : Text} (h : afterLastBreak? t = some after) :
    afterLastBreak? after = none := by
  obtain ⟨blanks, rfl, hBlanks⟩ := afterLastBreak?_eq_some h
  rw [afterLastBreak?_blanks hBlanks] at h
  cases hMore : afterLastBreak? after with
  | none => rfl
  | some more =>
    rw [hMore, Option.getD_some] at h
    obtain rfl := Option.some.inj h
    obtain ⟨between, hBetween, -⟩ := afterLastBreak?_eq_some hMore
    have hLength := congrArg List.length hBetween
    rw [List.length_append, List.length_cons] at hLength
    omega

/-- The search ends at what is not white space. -/
theorem afterLastBreak?_append {c : CodePoint} (hc : c.isBlank = false) (s t : Text) :
    afterLastBreak? (s ++ c :: t) = (afterLastBreak? s).map (· ++ c :: t) := by
  induction s with
  | nil => simp [afterLastBreak?, hc]
  | cons d s ih =>
    rw [List.cons_append, afterLastBreak?, afterLastBreak?, ih]
    cases d.isBlank with
    | true =>
      cases afterLastBreak? s with
      | some after => rfl
      | none => by_cases hd : d = lineFeed <;> simp [hd]
    | false => rfl

/-! ## 2. Taking blank lines out -/

theorem collapseBlankLines_nil : collapseBlankLines [] = [] := by rw [collapseBlankLines]

theorem collapseBlankLines_cons {c : CodePoint} (hc : c ≠ lineFeed) (t : Text) :
    collapseBlankLines (c :: t) = c :: collapseBlankLines t := by
  rw [collapseBlankLines, if_neg hc]

/-- From a line feed to the last one in the white space behind it. -/
theorem collapseBlankLines_break (t : Text) :
    collapseBlankLines (lineFeed :: t) =
      lineFeed :: collapseBlankLines ((afterLastBreak? t).getD t) := by
  rw [collapseBlankLines, if_pos (show lineFeed = .scalar '\n' from rfl)]
  split
  · next hSome => rw [hSome]; rfl
  · next hNone => rw [hNone]; rfl

/-- Induction that goes as blank lines are taken out. -/
theorem blankLines_induct {motive : Text → Prop} (nil : motive [])
    (other : ∀ c t, c ≠ lineFeed → motive t → motive (c :: t))
    (single : ∀ t, afterLastBreak? t = none → motive t → motive (lineFeed :: t))
    (several : ∀ t after, afterLastBreak? t = some after → motive after →
      motive (lineFeed :: t)) (t : Text) : motive t := by
  induction t using collapseBlankLines.induct with
  | case1 => exact nil
  | case2 t after hSome ih => exact several t after hSome ih
  | case3 t hNone ih => exact single t hNone ih
  | case4 c t hc ih => exact other c t hc ih

/-- What is not white space parts a text in two. -/
theorem collapseBlankLines_append {c : CodePoint} (hc : c.isBlank = false) (s t : Text) :
    collapseBlankLines (s ++ c :: t) = collapseBlankLines s ++ c :: collapseBlankLines t := by
  have hNe : c ≠ lineFeed := fun e => absurd (e ▸ hc) (by decide)
  induction s using blankLines_induct with
  | nil => rw [List.nil_append, collapseBlankLines_cons hNe, collapseBlankLines_nil]; rfl
  | other d s hd ih =>
    rw [List.cons_append, collapseBlankLines_cons hd, collapseBlankLines_cons hd, ih]
    rfl
  | single s hNone ih =>
    rw [List.cons_append, collapseBlankLines_break, collapseBlankLines_break,
      afterLastBreak?_append hc, hNone]
    exact congrArg (lineFeed :: ·) ih
  | several s after hSome ih =>
    rw [List.cons_append, collapseBlankLines_break, collapseBlankLines_break,
      afterLastBreak?_append hc, hSome]
    exact congrArg (lineFeed :: ·) ih

/-- Such a code point can also be counted to what is before it. -/
theorem collapseBlankLines_append_behind {c : CodePoint} (hc : c.isBlank = false) (s t : Text) :
    collapseBlankLines (s ++ [c] ++ t) = collapseBlankLines (s ++ [c]) ++ collapseBlankLines t := by
  rw [List.append_assoc, List.singleton_append, collapseBlankLines_append hc,
    collapseBlankLines_append hc, collapseBlankLines_nil, List.append_assoc]
  rfl

/-- Or to what is behind it. -/
theorem collapseBlankLines_append_before {c : CodePoint} (hc : c.isBlank = false) (s t : Text) :
    collapseBlankLines (s ++ c :: t) = collapseBlankLines s ++ collapseBlankLines (c :: t) := by
  have hNe : c ≠ lineFeed := fun e => absurd (e ▸ hc) (by decide)
  rw [collapseBlankLines_append hc, collapseBlankLines_cons hNe]

/-- A beginning without line feeds stays. -/
theorem collapseBlankLines_of_not_mem {s : Text} (h : lineFeed ∉ s) (t : Text) :
    collapseBlankLines (s ++ t) = s ++ collapseBlankLines t := by
  induction s with
  | nil => rfl
  | cons c s ih =>
    obtain ⟨hc, hs⟩ := not_or.1 (mt List.mem_cons.2 h)
    rw [List.cons_append, collapseBlankLines_cons (Ne.symm hc), ih hs]
    rfl

theorem collapseBlankLines_eq_self_of_not_mem {t : Text} (h : lineFeed ∉ t) :
    collapseBlankLines t = t := by
  have hWhole := collapseBlankLines_of_not_mem h []
  rwa [collapseBlankLines_nil, List.append_nil] at hWhole

/-! ## 3. Blank lines -/

/-- Whether there is nothing but white space between some two line feeds. -/
def HasBlankLine (t : Text) : Prop :=
  ∃ before blanks after : Text, t = before ++ lineFeed :: (blanks ++ lineFeed :: after) ∧
    ∀ c ∈ blanks, c.isBlank = true

theorem hasBlankLine_cons {c : CodePoint} {t : Text} :
    HasBlankLine (c :: t) ↔ (c = lineFeed ∧ afterLastBreak? t ≠ none) ∨ HasBlankLine t := by
  constructor
  · rintro ⟨before, blanks, after, hText, hBlanks⟩
    cases before with
    | nil =>
      obtain ⟨rfl, rfl⟩ := List.cons.inj hText
      exact .inl ⟨rfl, by simp [afterLastBreak?_blanks hBlanks after]⟩
    | cons d before =>
      obtain ⟨rfl, rfl⟩ := List.cons.inj hText
      exact .inr ⟨before, blanks, after, rfl, hBlanks⟩
  · rintro (⟨rfl, hSome⟩ | ⟨before, blanks, after, rfl, hBlanks⟩)
    · obtain ⟨after, hAfter⟩ := Option.ne_none_iff_exists'.1 hSome
      obtain ⟨blanks, rfl, hBlanks⟩ := afterLastBreak?_eq_some hAfter
      exact ⟨[], blanks, after, rfl, hBlanks⟩
    · exact ⟨c :: before, blanks, after, rfl, hBlanks⟩

/-- What is left is in its order. -/
theorem collapseBlankLines_sublist (t : Text) : (collapseBlankLines t).Sublist t := by
  induction t using blankLines_induct with
  | nil => simp only [collapseBlankLines_nil, List.Sublist.slnil]
  | other c t hc ih => rw [collapseBlankLines_cons hc]; exact ih.cons_cons c
  | single t hNone ih => rw [collapseBlankLines_break, hNone]; exact ih.cons_cons lineFeed
  | several t after hSome ih =>
    rw [collapseBlankLines_break, hSome]
    exact (ih.trans (afterLastBreak?_suffix hSome).sublist).cons_cons lineFeed

/-- A blank line can be taken out first. -/
theorem collapseBlankLines_blankLine {blanks : Text} (h : ∀ c ∈ blanks, c.isBlank = true)
    (before after : Text) :
    collapseBlankLines (before ++ lineFeed :: (blanks ++ lineFeed :: after))
      = collapseBlankLines (before ++ lineFeed :: after) := by
  -- First with nothing but white space before it.
  have hSpaced (spaced : Text) (hSpaced : ∀ c ∈ spaced, c.isBlank = true) :
      collapseBlankLines (spaced ++ lineFeed :: (blanks ++ lineFeed :: after))
        = collapseBlankLines (spaced ++ lineFeed :: after) := by
    induction spaced with
    | nil =>
      rw [List.nil_append, List.nil_append, collapseBlankLines_break, collapseBlankLines_break,
        afterLastBreak?_blanks h, Option.getD_some]
    | cons c spaced ih =>
      obtain ⟨_, hRest⟩ := List.forall_mem_cons.1 hSpaced
      by_cases hc : c = lineFeed
      · have hAll : ∀ d ∈ spaced ++ lineFeed :: blanks, d.isBlank = true :=
          List.forall_mem_append.2 ⟨hRest, List.forall_mem_cons.2 ⟨isBlank_lineFeed, h⟩⟩
        have hRow : spaced ++ lineFeed :: (blanks ++ lineFeed :: after)
            = (spaced ++ lineFeed :: blanks) ++ lineFeed :: after := by simp
        rw [hc, List.cons_append, List.cons_append, collapseBlankLines_break,
          collapseBlankLines_break, hRow, afterLastBreak?_blanks hAll,
          afterLastBreak?_blanks hRest, Option.getD_some, Option.getD_some]
      · rw [List.cons_append, List.cons_append, collapseBlankLines_cons hc,
          collapseBlankLines_cons hc, ih hRest]
  suffices hBefore : ∀ spaced : Text, (∀ c ∈ spaced, c.isBlank = true) →
      collapseBlankLines (before ++ (spaced ++ lineFeed :: (blanks ++ lineFeed :: after)))
        = collapseBlankLines (before ++ (spaced ++ lineFeed :: after)) from
    hBefore [] (List.forall_mem_nil _)
  induction before using List.reverseRecOn with
  | nil => exact hSpaced
  | append_singleton before c ih =>
    intro spaced hAll
    rw [List.append_assoc, List.append_assoc, List.singleton_append, List.singleton_append]
    cases hc : c.isBlank with
    | true => exact ih (c :: spaced) (List.forall_mem_cons.2 ⟨hc, hAll⟩)
    | false =>
      rw [collapseBlankLines_append hc, collapseBlankLines_append hc, hSpaced spaced hAll]

/-- The texts that stay are those without a blank line. -/
theorem collapseBlankLines_eq_self_iff {t : Text} :
    collapseBlankLines t = t ↔ ¬ HasBlankLine t := by
  induction t using blankLines_induct with
  | nil =>
    refine iff_of_true collapseBlankLines_nil ?_
    rintro ⟨before, blanks, after, hText, -⟩
    cases before <;> cases hText
  | other c t hc ih =>
    rw [collapseBlankLines_cons hc, hasBlankLine_cons, List.cons_inj_right, ih]
    simp [hc]
  | single t hNone ih =>
    rw [collapseBlankLines_break, hasBlankLine_cons, hNone, Option.getD_none,
      List.cons_inj_right, ih]
    simp
  | several t after hSome ih =>
    refine iff_of_false (fun hSame => ?_) fun hNot => hNot (hasBlankLine_cons.2 (.inl ⟨rfl, ?_⟩))
    · rw [collapseBlankLines_break, hSome, Option.getD_some, List.cons_inj_right] at hSame
      obtain ⟨blanks, rfl, -⟩ := afterLastBreak?_eq_some hSome
      have hLength := (collapseBlankLines_sublist after).length_le
      rw [hSame, List.length_append, List.length_cons] at hLength
      omega
    · simp [hSome]

/-- White space without a line feed gets none. -/
theorem afterLastBreak?_collapseBlankLines {t : Text} (h : afterLastBreak? t = none) :
    afterLastBreak? (collapseBlankLines t) = none := by
  induction t with
  | nil => rw [collapseBlankLines_nil]; rfl
  | cons c rest ih =>
    cases hc : c.isBlank with
    | false =>
      have hNe : c ≠ lineFeed := fun e => absurd (e ▸ hc) (by decide)
      rw [collapseBlankLines_cons hNe, afterLastBreak?, if_neg (by simp [hc])]
    | true =>
      rw [afterLastBreak?, if_pos hc] at h
      cases hRest : afterLastBreak? rest with
      | some after => simp [hRest] at h
      | none =>
        have hNe : c ≠ lineFeed := by simpa [hRest] using h
        rw [collapseBlankLines_cons hNe, afterLastBreak?, if_pos hc, ih hRest]
        exact if_neg hNe

/-- Nothing is left to take out. -/
theorem not_hasBlankLine_collapseBlankLines (t : Text) : ¬ HasBlankLine (collapseBlankLines t) := by
  induction t using blankLines_induct with
  | nil =>
    rw [collapseBlankLines_nil, ← collapseBlankLines_eq_self_iff]
    exact collapseBlankLines_nil
  | other c t hc ih =>
    rw [collapseBlankLines_cons hc, hasBlankLine_cons]
    exact not_or.2 ⟨fun h => hc h.1, ih⟩
  | single t hNone ih =>
    rw [collapseBlankLines_break, hNone, Option.getD_none, hasBlankLine_cons]
    exact not_or.2 ⟨fun h => h.2 (afterLastBreak?_collapseBlankLines hNone), ih⟩
  | several t after hSome ih =>
    rw [collapseBlankLines_break, hSome, Option.getD_some, hasBlankLine_cons]
    have hNone := afterLastBreak?_collapseBlankLines (afterLastBreak?_after hSome)
    exact not_or.2 ⟨fun h => h.2 hNone, ih⟩

/-! ## 4. What is lost -/

variable {p : CodePoint → Bool}

/-- Whether no code point of a kind stands in a blank line. -/
def BlankLinesLack (p : CodePoint → Bool) (t : Text) : Prop :=
  ∀ before blanks after : Text, t = before ++ lineFeed :: (blanks ++ lineFeed :: after) →
    (∀ c ∈ blanks, c.isBlank = true) → ∀ c ∈ blanks, p c = false

theorem BlankLinesLack.of_append {s t : Text} (h : BlankLinesLack p (s ++ t)) :
    BlankLinesLack p t := by
  rintro before blanks after rfl
  exact h (s ++ before) blanks after (by rw [List.append_assoc])

/-- Code points of a kind are lost, but for line feeds, with the blank lines
that they stand in. -/
theorem filter_collapseBlankLines_iff (hp : p lineFeed = false) {t : Text} :
    (collapseBlankLines t).filter p = t.filter p ↔ BlankLinesLack p t := by
  have hBreak (t : Text) : (lineFeed :: t).filter p = t.filter p :=
    List.filter_cons_of_neg (by simp [hp])
  constructor
  · rintro hSame before blanks after rfl hBlanks
    have hLost := ((collapseBlankLines_sublist (before ++ lineFeed :: after)).filter p).length_le
    rw [← collapseBlankLines_blankLine hBlanks, hSame] at hLost
    simp only [List.filter_append, hBreak, List.length_append] at hLost
    have hNone : (blanks.filter p).length = 0 := by omega
    intro c hc
    have hNot := List.filter_eq_nil_iff.1 (List.eq_nil_of_length_eq_zero hNone) c hc
    simpa using hNot
  · intro h
    induction t using blankLines_induct with
    | nil => rw [collapseBlankLines_nil]
    | other c t hc ih =>
      have hRest : BlankLinesLack p t := BlankLinesLack.of_append (s := [c]) h
      rw [collapseBlankLines_cons hc, List.filter_cons, List.filter_cons, ih hRest]
    | single t hNone ih =>
      have hRest : BlankLinesLack p t := BlankLinesLack.of_append (s := [lineFeed]) h
      rw [collapseBlankLines_break, hNone, Option.getD_none, hBreak, hBreak, ih hRest]
    | several t after hSome ih =>
      obtain ⟨blanks, rfl, hBlanks⟩ := afterLastBreak?_eq_some hSome
      have hRest : BlankLinesLack p after :=
        BlankLinesLack.of_append (s := lineFeed :: (blanks ++ [lineFeed])) (by simpa using h)
      have hNone : blanks.filter p = [] :=
        List.filter_eq_nil_iff.2 fun c hc => by simp [h [] blanks after rfl hBlanks c hc]
      rw [collapseBlankLines_break, hSome, Option.getD_some, hBreak, hBreak, ih hRest,
        List.filter_append, hNone, hBreak]
      rfl

/-! ## 5. Escaping -/

/-- Whether white space is written as it is, and all else by code points that
are not white space. -/
structure KeepsBlanks (write : CodePoint → Text) : Prop where
  blank : ∀ c, c.isBlank = true → write c = [c]
  other : ∀ c, c.isBlank = false → write c ≠ [] ∧ ∀ d ∈ write c, d.isBlank = false

variable {write : CodePoint → Text}

theorem afterLastBreak?_flatMap (h : KeepsBlanks write) (t : Text) :
    afterLastBreak? (t.flatMap write) = (afterLastBreak? t).map (·.flatMap write) := by
  induction t with
  | nil => rfl
  | cons c t ih =>
    rw [List.flatMap_cons]
    cases hc : c.isBlank with
    | true =>
      rw [h.blank c hc, List.singleton_append, afterLastBreak?, afterLastBreak?, if_pos hc,
        if_pos hc, ih]
      cases afterLastBreak? t with
      | some after => rfl
      | none => by_cases hBreak : c = lineFeed <;> simp [hBreak]
    | false =>
      obtain ⟨hNe, hNone⟩ := h.other c hc
      obtain ⟨d, rest, hCons⟩ := List.exists_cons_of_ne_nil hNe
      have hd : d.isBlank = false := hNone d (hCons ▸ List.mem_cons_self)
      rw [hCons, List.cons_append, afterLastBreak?, afterLastBreak?, if_neg (by simp [hd]),
        if_neg (by simp [hc])]
      rfl

/-- Blank lines can be taken out before white space is written as it is. -/
theorem collapseBlankLines_flatMap (h : KeepsBlanks write) (t : Text) :
    collapseBlankLines (t.flatMap write) = (collapseBlankLines t).flatMap write := by
  have hBreak (t : Text) : (lineFeed :: t).flatMap write = lineFeed :: t.flatMap write := by
    rw [List.flatMap_cons, h.blank lineFeed isBlank_lineFeed, List.singleton_append]
  induction t using blankLines_induct with
  | nil => rw [List.flatMap_nil, collapseBlankLines_nil, List.flatMap_nil]
  | other c t hc ih =>
    rw [collapseBlankLines_cons hc, List.flatMap_cons, List.flatMap_cons, ← ih]
    refine collapseBlankLines_of_not_mem (fun hMem => ?_) _
    cases hBlank : c.isBlank with
    | true => exact hc (List.mem_singleton.1 (h.blank c hBlank ▸ hMem)).symm
    | false => exact absurd ((h.other c hBlank).2 _ hMem) (by decide)
  | single t hNone ih =>
    rw [hBreak, collapseBlankLines_break, collapseBlankLines_break, afterLastBreak?_flatMap h,
      hNone, hBreak]
    exact congrArg (lineFeed :: ·) ih
  | several t after hSome ih =>
    rw [hBreak, collapseBlankLines_break, collapseBlankLines_break, afterLastBreak?_flatMap h,
      hSome, hBreak]
    exact congrArg (lineFeed :: ·) ih

end TreeTemplate
