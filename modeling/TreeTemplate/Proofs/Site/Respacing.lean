/-
TreeTemplate.Proofs.Site.Respacing — other white space where there was some.

Taking blank lines out of a text puts white space where white space was. The
end of a comment and the end tag of a raw text element are the same for all
white space in them, but white space must not come where there was none, nor
go where there was some: a name would be another name. So a text in which no
such mark stands holds none afterwards either.

* `Respaced` — texts that differ in white space only where both have some.
  `respaced_collapseBlankLines` is the case of interest.
* `Respaced.splitAtMark_eq_none` — no mark comes into being.
* `Respaced.commentEnd_ne_none`, `Respaced.rawEnd_eq_some` — the two marks.
* `isRawContent_collapseBlankLines` — the content of `script` and `style`.
-/
import TreeTemplate.Proofs.Markup.RawText
import TreeTemplate.Proofs.Site.BlankLines
import TreeTemplate.Proofs.Text.Casing
import TreeTemplate.Proofs.Text.Pieces

namespace TreeTemplate

/-! ## 1. The relation -/

/-- Whether two texts are the same but for white space, and have it at the
same places. -/
inductive Respaced : Text → Text → Prop where
  | nil : Respaced [] []
  | keep {c : CodePoint} {s t : Text} : c.isBlank = false → Respaced s t →
    Respaced (c :: s) (c :: t)
  | blanks {a b s t : Text} : a ≠ [] → b ≠ [] → (∀ c ∈ a, c.isBlank = true) →
    (∀ c ∈ b, c.isBlank = true) → Respaced s t → Respaced (a ++ s) (b ++ t)

namespace Respaced

variable {s t : Text}

theorem symm (h : Respaced s t) : Respaced t s := by
  induction h with
  | nil => exact .nil
  | keep hc _ ih => exact .keep hc ih
  | blanks ha hb hBlanksA hBlanksB _ ih => exact .blanks hb ha hBlanksB hBlanksA ih

theorem nil_left (h : Respaced [] t) : t = [] := by
  generalize hs : ([] : Text) = s at h
  cases h with
  | nil => rfl
  | keep => cases hs
  | blanks ha => exact absurd (List.append_eq_nil_iff.1 hs.symm).1 ha

/-- What is not white space stays. -/
theorem cons_left {c : CodePoint} (hc : c.isBlank = false) (h : Respaced (c :: s) t) :
    ∃ t', t = c :: t' ∧ Respaced s t' := by
  generalize hs : c :: s = u at h
  cases h with
  | nil => cases hs
  | keep _ h =>
    cases hs
    exact ⟨_, rfl, h⟩
  | @blanks a _ _ _ ha _ hBlanks =>
    obtain ⟨d, a, rfl⟩ := List.exists_cons_of_ne_nil ha
    cases hs
    exact absurd (hc.symm.trans (hBlanks c List.mem_cons_self)) (by decide)

/-- Without white space at their beginnings. -/
theorem dropWhile (h : Respaced s t) :
    Respaced (s.dropWhile CodePoint.isBlank) (t.dropWhile CodePoint.isBlank) := by
  induction h with
  | nil => exact .nil
  | keep hc h =>
    rw [List.dropWhile_cons_of_neg (by simp [hc]), List.dropWhile_cons_of_neg (by simp [hc])]
    exact .keep hc h
  | blanks _ _ hBlanksA hBlanksB _ ih =>
    rw [List.dropWhile_append_of_pos hBlanksA, List.dropWhile_append_of_pos hBlanksB]
    exact ih

theorem filter_blanks {a : Text} (h : ∀ c ∈ a, c.isBlank = true) :
    a.filter (fun c => !c.isBlank) = [] :=
  List.filter_eq_nil_iff.2 fun c hc => by simp [h c hc]

/-- Without any white space they are the same. -/
theorem filter_eq (h : Respaced s t) :
    s.filter (fun c => !c.isBlank) = t.filter (fun c => !c.isBlank) := by
  induction h with
  | nil => rfl
  | keep hc _ ih => rw [List.filter_cons_of_pos (by simp [hc]),
      List.filter_cons_of_pos (by simp [hc]), ih]
  | blanks _ _ hBlanksA hBlanksB _ ih =>
    rw [List.filter_append, List.filter_append, filter_blanks hBlanksA,
      filter_blanks hBlanksB, ih]

/-! ## 2. Marks -/

/-- A code point behind white space is found in both. -/
theorem exists_afterSpaced? (h : Respaced s t) {c : CodePoint} {after : Text}
    (hAfter : afterSpaced? c s = some after) :
    ∃ after', afterSpaced? c t = some after' ∧ Respaced after after' := by
  obtain ⟨blanks, rfl, hBlanks, hc⟩ := afterSpaced?_eq hAfter
  have hDrop := h.dropWhile
  rw [List.dropWhile_append_of_pos hBlanks, List.dropWhile_cons_of_neg (by simp [hc])] at hDrop
  obtain ⟨after', hRest, hSame⟩ := hDrop.cons_left hc
  refine ⟨after', ?_, hSame⟩
  rw [afterSpaced?, hRest]
  exact if_pos rfl

/-- No mark comes into being, if a mark begins with what is not white space
and is found in the one text as in the other. -/
theorem splitAtMark_eq_none {mark : Text → Option Text}
    (hMark : ∀ s t after, Respaced s t → mark s = some after → mark t ≠ none)
    (hBlank : ∀ c t, c.isBlank = true → mark (c :: t) = none) (h : Respaced s t)
    (hNone : splitAtMark mark s = none) : splitAtMark mark t = none := by
  have hOver {a u : Text} (ha : ∀ c ∈ a, c.isBlank = true) :
      splitAtMark mark (a ++ u) = none ↔ splitAtMark mark u = none := by
    induction a with
    | nil => rfl
    | cons c a ih =>
      obtain ⟨hc, ha⟩ := List.forall_mem_cons.1 ha
      rw [List.cons_append, splitAtMark_cons_eq_none, ih ha, and_iff_right (hBlank c _ hc)]
  induction h with
  | nil => rfl
  | keep hc h ih =>
    obtain ⟨hHead, hRest⟩ := splitAtMark_cons_eq_none.1 hNone
    refine splitAtMark_cons_eq_none.2 ⟨?_, ih hRest⟩
    by_contra hSome
    obtain ⟨after, hAfter⟩ := Option.ne_none_iff_exists'.1 hSome
    exact hMark _ _ after (Respaced.keep hc h).symm hAfter hHead
  | blanks _ _ hBlanksA hBlanksB _ ih => exact (hOver hBlanksB).2 (ih ((hOver hBlanksA).1 hNone))

/-- The end of a comment. -/
theorem commentEnd_ne_none (h : Respaced s t) {after : Text}
    (hAfter : commentEnd s = some after) : commentEnd t ≠ none := by
  unfold commentEnd at hAfter
  split at hAfter
  · have hHyphen : (CodePoint.scalar '-').isBlank = false := by decide
    obtain ⟨u, rfl, hBehind⟩ := h.cons_left hHyphen
    obtain ⟨v, rfl, hRest⟩ := hBehind.cons_left hHyphen
    obtain ⟨after', hFound, -⟩ := hRest.exists_afterSpaced? hAfter
    rw [commentEnd, hFound]
    simp
  · cases hAfter

/-- A comment holds no end of a comment afterwards either. -/
theorem splitAtMark_commentEnd_eq_none (h : Respaced s t)
    (hNone : splitAtMark commentEnd s = none) :
    splitAtMark commentEnd t = none := by
  refine h.splitAtMark_eq_none (fun _ _ _ h hAfter => h.commentEnd_ne_none hAfter)
    (fun c t hc => ?_) hNone
  unfold commentEnd
  split
  · next heq =>
    cases heq
    exact absurd hc (by decide)
  · rfl

/-! ## 3. Raw text -/

/-- White space is read as itself in the name of an end tag. -/
theorem isBlank_foldedLetter {c : CodePoint} (hc : c.isBlank = true) :
    (foldedLetter c).isBlank = true := by
  have hShift : ∀ n ∈ [9, 10, 11, 12, 13, 0x1C, 0x1D, 0x1E, 0x1F, 0x20, 0x85, 0xA0, 0x1680, 0x2000,
      0x2001, 0x2002, 0x2003, 0x2004, 0x2005, 0x2006, 0x2007, 0x2008, 0x2009, 0x200A, 0x2028,
      0x2029, 0x202F, 0x205F, 0x3000], CodePoint.lowerShift n = 0 := by decide +kernel
  have hValue : CodePoint.lowerShift c.value = 0 := by
    refine hShift c.value ?_
    simp only [CodePoint.isBlank, Bool.or_eq_true, Bool.and_eq_true, decide_eq_true_eq,
      beq_iff_eq] at hc
    simp only [List.mem_cons, List.not_mem_nil, or_false]
    omega
  have hLower : c.lower = c := by rw [CodePoint.lower]; exact if_pos hValue
  unfold foldedLetter
  split
  · next h => rcases h with rfl | rfl <;> exact absurd hc (by decide)
  · split
    · next h => subst h; exact absurd hc (by decide)
    · rw [hLower, hc]

theorem isBlank_of_foldedLetter {c n : CodePoint} (hn : n.isBlank = false)
    (h : foldedLetter c = n) : c.isBlank = false := by
  by_contra hBlank
  have hIs := isBlank_foldedLetter (by simpa using hBlank)
  rw [h, hn] at hIs
  cases hIs

/-- A name is found in both. -/
theorem exists_afterName? {name after : Text} (hName : ∀ c ∈ name, c.isBlank = false)
    (h : Respaced s t) (hAfter : afterName? name s = some after) :
    ∃ after', afterName? name t = some after' ∧ Respaced after after' := by
  induction name generalizing s t with
  | nil =>
    cases hAfter
    exact ⟨t, rfl, h⟩
  | cons n name ih =>
    obtain ⟨hn, hName⟩ := List.forall_mem_cons.1 hName
    cases s with
    | nil => cases hAfter
    | cons c s =>
      unfold afterName? at hAfter
      split at hAfter
      · next hFolded =>
        obtain ⟨u, rfl, hRest⟩ := h.cons_left (isBlank_of_foldedLetter hn hFolded)
        rw [afterName?, if_pos hFolded]
        exact ih hName hRest hAfter
      · cases hAfter

variable {tag : Text}

/-- The end tag of a raw text element. -/
theorem rawEnd_eq_some (hTag : ∀ c ∈ tag, c.isBlank = false) (h : Respaced s t) {after : Text}
    (hAfter : rawEnd tag s = some after) :
    ∃ after', rawEnd tag t = some after' ∧ Respaced after after' := by
  unfold rawEnd at hAfter
  split at hAfter
  · obtain ⟨u, rfl, hBehind⟩ := h.cons_left (by decide)
    obtain ⟨v, rfl, hRest⟩ := hBehind.cons_left (by decide)
    obtain ⟨middle, hName, hEnd⟩ := Option.bind_eq_some_iff.1 hAfter
    obtain ⟨middle', hName', hMiddle⟩ := hRest.dropWhile.exists_afterName? hTag hName
    obtain ⟨after', hEnd', hSame⟩ := hMiddle.exists_afterSpaced? hEnd
    refine ⟨after', ?_, hSame⟩
    rw [rawEnd, hName', Option.bind_some, hEnd']
  · cases hAfter

theorem splitAtMark_rawEnd_eq_none (hTag : ∀ c ∈ tag, c.isBlank = false) (h : Respaced s t)
    (hNone : splitAtMark (rawEnd tag) s = none) : splitAtMark (rawEnd tag) t = none := by
  refine h.splitAtMark_eq_none (fun s t after h hAfter => ?_) (fun c t hc => ?_) hNone
  · obtain ⟨after', hFound, -⟩ := h.rawEnd_eq_some hTag hAfter
    rw [hFound]
    simp
  · unfold rawEnd
    split
    · next heq =>
      cases heq
      exact absurd hc (by decide)
    · rfl

end Respaced

/-! ## 4. Without blank lines -/

/-- Taking blank lines out leaves white space where it was. -/
theorem respaced_collapseBlankLines (t : Text) : Respaced t (collapseBlankLines t) := by
  have hBreak {blanks s u : Text} (hBlanks : ∀ c ∈ blanks, c.isBlank = true)
      (h : Respaced s u) : Respaced (lineFeed :: blanks ++ s) ([lineFeed] ++ u) :=
    .blanks (List.cons_ne_nil _ _) (List.cons_ne_nil _ _)
      (List.forall_mem_cons.2 ⟨isBlank_lineFeed, hBlanks⟩)
      (List.forall_mem_singleton.2 isBlank_lineFeed) h
  induction t using blankLines_induct with
  | nil => rw [collapseBlankLines_nil]; exact .nil
  | other c t hc ih =>
    rw [collapseBlankLines_cons hc]
    cases hBlank : c.isBlank with
    | false => exact .keep hBlank ih
    | true =>
      have hOne : ∀ d ∈ [c], d.isBlank = true := List.forall_mem_singleton.2 hBlank
      exact .blanks (List.cons_ne_nil c []) (List.cons_ne_nil c []) hOne hOne ih
  | single t hNone ih =>
    rw [collapseBlankLines_break, hNone]
    exact hBreak (List.forall_mem_nil _) ih
  | several t after hSome ih =>
    rw [collapseBlankLines_break, hSome]
    obtain ⟨blanks, rfl, hBlanks⟩ := afterLastBreak?_eq_some hSome
    have hRow := hBreak (List.forall_mem_append.2
      ⟨hBlanks, List.forall_mem_singleton.2 isBlank_lineFeed⟩) ih
    rw [List.cons_append, List.append_assoc] at hRow
    exact hRow

theorem collapseBlankLines_eq_nil {t : Text} (h : collapseBlankLines t = []) : t = [] :=
  ((h ▸ respaced_collapseBlankLines t).symm).nil_left

/-- What is not white space stays. -/
theorem filter_collapseBlankLines (t : Text) :
    (collapseBlankLines t).filter (fun c => !c.isBlank) = t.filter (fun c => !c.isBlank) :=
  (respaced_collapseBlankLines t).filter_eq.symm

/-- A text without white space at its ends has none afterwards. -/
theorem trim_collapseBlankLines {t : Text} (h : t.trim = t) :
    (collapseBlankLines t).trim = collapseBlankLines t := by
  have hHead : ∀ c ∈ t.head?, c.isBlank = false := by
    rw [← h]
    exact Text.head?_trimEnd (Text.head?_trimStart t)
  have hLast : ∀ c ∈ t.getLast?, c.isBlank = false := by
    rw [← h]
    exact Text.getLast?_trimEnd _
  refine Text.trim_eq_self ?_ ?_
  · cases t with
    | nil => rw [collapseBlankLines_nil]; exact hHead
    | cons c t =>
      have hc : c.isBlank = false := hHead c rfl
      rw [collapseBlankLines_cons fun e => absurd (e ▸ hc) (by decide)]
      exact hHead
  · rcases List.eq_nil_or_concat t with rfl | ⟨s, c, rfl⟩
    · rw [collapseBlankLines_nil]; exact hLast
    · rw [List.concat_eq_append] at hLast ⊢
      have hc : c.isBlank = false := hLast c (List.getLast?_concat)
      rw [collapseBlankLines_append hc, collapseBlankLines_nil]
      intro d hd
      rw [List.getLast?_concat] at hd
      cases hd
      exact hc

/-! ## 5. The content of raw text elements -/

variable {tag : Text}

theorem isBlank_of_rawTag (h : isRawText tag = true) : ∀ c ∈ tag, c.isBlank = false := by
  have hAll : ∀ tag ∈ rawTextTags, ∀ c ∈ tag, c.isBlank = false := by decide
  exact hAll tag (List.contains_iff_mem.1 h)

/-- There is no white space in a name. -/
theorem isBlank_of_afterName? {name t : Text} (hName : ∀ c ∈ name, c.isBlank = false)
    (h : afterName? name t = some []) : ∀ c ∈ t, c.isBlank = false := by
  induction name generalizing t with
  | nil =>
    cases h
    exact List.forall_mem_nil _
  | cons n name ih =>
    obtain ⟨hn, hName⟩ := List.forall_mem_cons.1 hName
    cases t with
    | nil => cases h
    | cons c t =>
      unfold afterName? at h
      split at h
      · next hFolded =>
        exact List.forall_mem_cons.2 ⟨Respaced.isBlank_of_foldedLetter hn hFolded, ih hName h⟩
      · cases h

/-- A text of two parts of white space with another text between them. -/
theorem trim_between {a t b : Text} (ha : ∀ c ∈ a, c.isBlank = true)
    (ht : ∀ c ∈ t, c.isBlank = false) (hb : ∀ c ∈ b, c.isBlank = true) :
    Text.trim (a ++ (t ++ b)) = t := by
  have hEnd : ∀ t : Text, (∀ c ∈ t, c.isBlank = false) → Text.trimEnd (t ++ b) = t := by
    intro t ht
    induction t with
    | nil =>
      induction b with
      | nil => rfl
      | cons c b ih =>
        obtain ⟨hc, hb⟩ := List.forall_mem_cons.1 hb
        have hRest : Text.trimEnd b = [] := ih hb
        rw [List.nil_append, Text.trimEnd, hRest]
        exact if_pos hc
    | cons c t ih =>
      obtain ⟨hc, ht⟩ := List.forall_mem_cons.1 ht
      rw [List.cons_append, Text.trimEnd, ih ht]
      cases t with
      | nil => exact if_neg (by simp [hc])
      | cons d t => rfl
  rw [Text.trim, Text.trimStart, List.dropWhile_append_of_pos ha]
  cases t with
  | nil =>
    rw [List.nil_append, ← List.append_nil b, List.dropWhile_append_of_pos hb]
    rfl
  | cons c t =>
    obtain ⟨hc, _⟩ := List.forall_mem_cons.1 ht
    rw [List.cons_append, List.dropWhile_cons_of_neg (by simp [hc]), ← List.cons_append]
    exact hEnd (c :: t) ht

/-- The parts of an end tag in raw text. -/
theorem rawEnd_parts (hTag : ∀ c ∈ tag, c.isBlank = false) {endTag : Text}
    (h : rawEnd tag endTag = some []) :
    ∃ before name behind : Text,
      endTag = .scalar '<' :: .scalar '/' :: (before ++ (name ++ behind)) ++ [.scalar '>'] ∧
      (∀ c ∈ before, c.isBlank = true) ∧ (∀ c ∈ name, c.isBlank = false) ∧
      ∀ c ∈ behind, c.isBlank = true := by
  unfold rawEnd at h
  split at h
  · next rest =>
    obtain ⟨middle, hName, hEnd⟩ := Option.bind_eq_some_iff.1 h
    obtain ⟨name, hDrop, -, hWhole⟩ := afterName?_eq hName
    obtain ⟨behind, rfl, hBehind, -⟩ := afterSpaced?_eq hEnd
    refine ⟨rest.takeWhile CodePoint.isBlank, name, behind, ?_,
      fun c hc => List.mem_takeWhile_imp hc, isBlank_of_afterName? hTag hWhole, hBehind⟩
    rw [List.cons_append, List.cons_append, List.append_assoc, List.append_assoc, ← hDrop,
      List.takeWhile_append_dropWhile]
  · cases h

/-- The name of an end tag is what it has besides white space. -/
theorem nameInEndTag_eq (hTag : ∀ c ∈ tag, c.isBlank = false) {endTag : Text}
    (h : rawEnd tag endTag = some []) :
    nameInEndTag endTag = ((endTag.filter fun c => !c.isBlank).drop 2).dropLast := by
  obtain ⟨before, name, behind, rfl, hBefore, hName, hBehind⟩ := rawEnd_parts hTag h
  have hKept : name.filter (fun c => !c.isBlank) = name :=
    List.filter_eq_self.2 fun c hc => by simp [hName c hc]
  have hTrim : nameInEndTag (.scalar '<' :: .scalar '/' :: (before ++ (name ++ behind))
      ++ [.scalar '>']) = name := by
    rw [nameInEndTag, List.cons_append, List.cons_append, List.drop_succ_cons, List.drop_succ_cons,
      List.drop_zero, List.dropLast_concat]
    exact trim_between hBefore hName hBehind
  rw [hTrim, List.filter_append, List.filter_cons_of_pos (by decide),
    List.filter_cons_of_pos (by decide), List.filter_append, List.filter_append,
    Respaced.filter_blanks hBefore, hKept, Respaced.filter_blanks hBehind, List.append_nil,
    List.filter_cons_of_pos (by decide), List.filter_nil, List.cons_append, List.cons_append,
    List.drop_succ_cons, List.drop_succ_cons, List.drop_zero, List.nil_append,
    List.dropLast_concat]

/-- An end tag that is passed over is one afterwards. -/
theorem rawEnd_collapseBlankLines (hTag : ∀ c ∈ tag, c.isBlank = false) {endTag : Text}
    (h : rawEnd tag endTag = some []) :
    rawEnd tag (collapseBlankLines endTag) = some [] ∧
      nameInEndTag (collapseBlankLines endTag) = nameInEndTag endTag := by
  obtain ⟨after, hAfter, hNil⟩ := (respaced_collapseBlankLines endTag).rawEnd_eq_some hTag h
  obtain rfl := hNil.nil_left
  refine ⟨hAfter, ?_⟩
  rw [nameInEndTag_eq hTag h, nameInEndTag_eq hTag hAfter, filter_collapseBlankLines]

/-- The pieces up to the last end tag that is passed over; what follows them
is apart. -/
theorem passedOver_collapseBlankLines (hTag : ∀ c ∈ tag, c.isBlank = false) {t : Text}
    (h : PassedOver tag t) :
    PassedOver tag (collapseBlankLines t) ∧
      ∀ more, collapseBlankLines (t ++ more) = collapseBlankLines t ++ collapseBlankLines more := by
  induction h with
  | nil =>
    rw [collapseBlankLines_nil]
    exact ⟨.nil, fun _ => rfl⟩
  | @snoc t before endTag _ hBefore hEnd hSpelling ih =>
    obtain ⟨hPassed, hApart⟩ := ih
    obtain ⟨_, _, _, hEnds, -⟩ := rawEnd_parts hTag hEnd
    obtain ⟨hEnd', hName⟩ := rawEnd_collapseBlankLines hTag hEnd
    have hPieces : collapseBlankLines (t ++ (before ++ endTag)) = collapseBlankLines t
        ++ (collapseBlankLines before ++ collapseBlankLines endTag) := by
      rw [hApart, hEnds, List.cons_append]
      exact congrArg _ (collapseBlankLines_append_before (by decide) before _)
    refine ⟨?_, fun more => ?_⟩
    · rw [hPieces]
      exact .snoc hPassed ((respaced_collapseBlankLines before).splitAtMark_rawEnd_eq_none hTag
        hBefore) hEnd' (hName ▸ hSpelling)
    · rw [hEnds, ← List.append_assoc before, ← List.append_assoc t]
      exact collapseBlankLines_append_behind (by decide) _ more

/-- What can stand in a raw text element can stand there without its blank
lines. -/
theorem isRawContent_collapseBlankLines (hRaw : isRawText tag = true) {t : Text}
    (h : IsRawContent tag t) : IsRawContent tag (collapseBlankLines t) := by
  have hTag := isBlank_of_rawTag hRaw
  obtain ⟨passed, last, rfl, hPassed, hLast⟩ := h
  obtain ⟨hPassed', hApart⟩ := passedOver_collapseBlankLines hTag hPassed
  exact ⟨_, _, hApart last, hPassed',
    (respaced_collapseBlankLines last).splitAtMark_rawEnd_eq_none hTag hLast⟩

end TreeTemplate
