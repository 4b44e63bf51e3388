/-
TreeTemplate.Proofs.Markup.Mark — marks look no further than they reach.

The end of a comment and the end tag of a raw text element are marks: they
are searched for, and what they leave is what follows them. A mark that is
found is found whatever follows it, so the text before the first mark holds
none, and reads back if it is written before a mark.

* `IsMark` — what is asked of a mark.
* `splitAtMark_before` — no mark stands before the first one.
* `splitAtMark_comment` — a text without the end of a comment, in a comment.
* `splitAtMark_rawText` — a text without an end tag, before an end tag.
-/
import TreeTemplate.Markup.Source
import Mathlib.Data.List.TakeWhile

namespace TreeTemplate

/-! ## 1. Marks -/

/-- A mark that is found where a text begins is found whatever stands after
it, and never in the empty text. -/
structure IsMark (mark : Text → Option Text) : Prop where
  append : ∀ t after more, mark t = some after → mark (t ++ more) = some (after ++ more)
  suffix : ∀ t after, mark t = some after → after <:+ t
  nil : mark [] = none

variable {mark : Text → Option Text}

/-- The mark at which a text is split, and what stands before it. -/
theorem splitAtMark_eq {t before after : Text} (h : splitAtMark mark t = some (before, after)) :
    ∃ rest, t = before ++ rest ∧ mark rest = some after := by
  induction t generalizing before with
  | nil => cases h
  | cons c t ih =>
    unfold splitAtMark at h
    split at h
    · next hMark =>
      cases h
      exact ⟨_, rfl, hMark⟩
    · obtain ⟨⟨before', after'⟩, hRest, hPair⟩ := Option.map_eq_some_iff.1 h
      cases hPair
      obtain ⟨rest, rfl, hMark⟩ := ih hRest
      exact ⟨rest, rfl, hMark⟩

theorem splitAtMark_cons_eq_none {c : CodePoint} {t : Text} :
    splitAtMark mark (c :: t) = none ↔ mark (c :: t) = none ∧ splitAtMark mark t = none := by
  rw [splitAtMark]
  split
  · next hMark => simp [hMark]
  · next hMark => simp [hMark]

/-- No mark stands before the first one. -/
theorem splitAtMark_before (hMark : IsMark mark) {t before after : Text}
    (h : splitAtMark mark t = some (before, after)) : splitAtMark mark before = none := by
  induction t generalizing before with
  | nil => cases h
  | cons c t ih =>
    unfold splitAtMark at h
    split at h
    · cases h
      rfl
    · next hNone =>
      obtain ⟨⟨before', after'⟩, hRest, hPair⟩ := Option.map_eq_some_iff.1 h
      cases hPair
      refine splitAtMark_cons_eq_none.2 ⟨?_, ih hRest⟩
      obtain ⟨rest, rfl, _⟩ := splitAtMark_eq hRest
      by_contra hSome
      obtain ⟨found, hFound⟩ := Option.ne_none_iff_exists'.1 hSome
      have hAppend := hMark.append _ _ rest hFound
      rw [List.cons_append, hNone] at hAppend
      cases hAppend

/-- A text in which no mark begins, even with the mark after it. -/
theorem splitAtMark_append {t end' after : Text} (hNone : splitAtMark mark t = none)
    (hBegin : ∀ c rest, mark (c :: rest) = none → mark (c :: rest ++ end') = none)
    (hEnd : mark end' = some after) (hNe : end' ≠ []) :
    splitAtMark mark (t ++ end') = some (t, after) := by
  induction t with
  | nil =>
    obtain ⟨c, rest, rfl⟩ := List.exists_cons_of_ne_nil hNe
    rw [List.nil_append, splitAtMark, hEnd]
  | cons c t ih =>
    obtain ⟨hHead, hRest⟩ := splitAtMark_cons_eq_none.1 hNone
    have hHere := hBegin c t hHead
    rw [List.cons_append] at hHere ⊢
    rw [splitAtMark, hHere]
    simp only [ih hRest, Option.map_some]

theorem splitAtMark_eq_none_of_not_mem {c : CodePoint}
    (hMark : ∀ t after, mark t = some after → c ∈ t) {t : Text} (h : c ∉ t) :
    splitAtMark mark t = none := by
  induction t with
  | nil => rfl
  | cons d t ih =>
    refine splitAtMark_cons_eq_none.2 ⟨?_, ih fun hMem => h (List.mem_cons_of_mem _ hMem)⟩
    by_contra hSome
    obtain ⟨after, hAfter⟩ := Option.ne_none_iff_exists'.1 hSome
    exact h (hMark _ _ hAfter)

/-! ## 2. White space before a code point -/

theorem afterSpaced?_append {c : CodePoint} {t after : Text} (h : afterSpaced? c t = some after)
    (more : Text) : afterSpaced? c (t ++ more) = some (after ++ more) := by
  unfold afterSpaced? at h
  split at h
  · next d rest hDrop =>
    split at h
    · next hd =>
      cases h
      rw [afterSpaced?, List.dropWhile_append, hDrop]
      simp [hd]
    · cases h
  · cases h

/-- Not found before something with which the search ends. -/
theorem afterSpaced?_append_eq_none {c d : CodePoint} {t : Text} (h : afterSpaced? c t = none)
    (hBlank : d.isBlank = false) (hNe : d ≠ c) (more : Text) :
    afterSpaced? c (t ++ d :: more) = none := by
  unfold afterSpaced? at h ⊢
  rw [List.dropWhile_append]
  cases hDrop : t.dropWhile CodePoint.isBlank with
  | nil => simp [hBlank, hNe]
  | cons e rest =>
    rw [hDrop] at h
    simpa using h

/-- What stands up to the code point: white space, and the code point. -/
theorem afterSpaced?_eq {c : CodePoint} {t after : Text} (h : afterSpaced? c t = some after) :
    ∃ blanks : Text, t = blanks ++ c :: after ∧ (∀ d ∈ blanks, d.isBlank = true)
      ∧ c.isBlank = false := by
  unfold afterSpaced? at h
  split at h
  · next d rest hDrop =>
    split at h
    · next hd =>
      cases h
      subst hd
      have hBlank : d.isBlank = false := by
        have hHead := List.head?_dropWhile_not CodePoint.isBlank t
        rw [hDrop] at hHead
        simpa using hHead
      refine ⟨t.takeWhile CodePoint.isBlank, ?_, fun e he => List.mem_takeWhile_imp he, hBlank⟩
      rw [← hDrop, List.takeWhile_append_dropWhile]
    · cases h
  · cases h

theorem afterSpaced?_blanks {c : CodePoint} {blanks : Text}
    (hBlanks : ∀ d ∈ blanks, d.isBlank = true) (hc : c.isBlank = false) (after : Text) :
    afterSpaced? c (blanks ++ c :: after) = some after := by
  rw [afterSpaced?, List.dropWhile_append_of_pos hBlanks]
  simp [hc]

/-! ## 3. Comments -/

theorem isMark_commentEnd : IsMark commentEnd where
  append t after more h := by
    unfold commentEnd at h
    split at h
    · exact afterSpaced?_append h more
    · cases h
  suffix := commentEnd_suffix
  nil := rfl

theorem angle_mem_of_commentEnd (t after : Text) (h : commentEnd t = some after) :
    .scalar '>' ∈ t := by
  unfold commentEnd at h
  split at h
  · obtain ⟨blanks, rfl, _⟩ := afterSpaced?_eq h
    simp
  · cases h

/-- The end of a comment that does not begin in a text does not begin there
either if the text is followed by the end of a comment. -/
theorem commentEnd_append_eq_none {c : CodePoint} {t : Text} (h : commentEnd (c :: t) = none)
    (rest : Text) : commentEnd (c :: t ++ (("-->" : Text) ++ rest)) = none := by
  have hHyphen : (CodePoint.scalar '-').isBlank = false := by decide
  have hEnd : ("-->" : Text) ++ rest = .scalar '-' :: .scalar '-' :: .scalar '>' :: rest := rfl
  rw [hEnd]
  unfold commentEnd at h ⊢
  split
  · next more heq =>
    cases t with
    | nil =>
      cases heq
      exact afterSpaced?_append_eq_none (t := []) rfl hHyphen (by decide) _
    | cons d t =>
      cases heq
      exact afterSpaced?_append_eq_none h hHyphen (by decide) _
  · rfl

/-- A text without the end of a comment reads back from a comment. -/
theorem splitAtMark_comment {t : Text} (h : splitAtMark commentEnd t = none) (rest : Text) :
    splitAtMark commentEnd (t ++ (("-->" : Text) ++ rest)) = some (t, rest) :=
  splitAtMark_append h (fun _ _ hNone => commentEnd_append_eq_none hNone rest) rfl
    (List.cons_ne_nil _ _)

/-! ## 4. Raw text -/

theorem afterName?_append {name t after : Text} (h : afterName? name t = some after)
    (more : Text) : afterName? name (t ++ more) = some (after ++ more) := by
  induction name generalizing t with
  | nil =>
    cases h
    rfl
  | cons n name ih =>
    cases t with
    | nil => cases h
    | cons c t =>
      unfold afterName? at h
      split at h
      · next hc =>
        rw [List.cons_append, afterName?, if_pos hc]
        exact ih h
      · cases h

/-- Not found before a `<`, which stands for no letter. -/
theorem afterName?_append_eq_none {name t : Text} (hName : .scalar '<' ∉ name)
    (h : afterName? name t = none) (more : Text) :
    afterName? name (t ++ .scalar '<' :: more) = none := by
  induction name generalizing t with
  | nil => cases h
  | cons n name ih =>
    have hRest : .scalar '<' ∉ name := fun hMem => hName (List.mem_cons_of_mem _ hMem)
    cases t with
    | nil =>
      have hAngle : foldedLetter (.scalar '<') = .scalar '<' := by decide +kernel
      rw [List.nil_append, afterName?, hAngle]
      exact if_neg fun e => hName (by rw [e]; exact List.mem_cons_self)
    | cons c t =>
      unfold afterName? at h
      rw [List.cons_append, afterName?]
      split at h
      · next hc =>
        rw [if_pos hc]
        exact ih hRest h
      · next hc => rw [if_neg hc]

/-- The part of a text that is the name. -/
theorem afterName?_eq {name t after : Text} (h : afterName? name t = some after) :
    ∃ begin', t = begin' ++ after ∧ begin'.length = name.length
      ∧ afterName? name begin' = some [] := by
  induction name generalizing t with
  | nil =>
    cases h
    exact ⟨[], rfl, rfl, rfl⟩
  | cons n name ih =>
    cases t with
    | nil => cases h
    | cons c t =>
      unfold afterName? at h
      split at h
      · next hc =>
        obtain ⟨begin', rfl, hLength, hBegin⟩ := ih h
        exact ⟨c :: begin', rfl, by simp [hLength], by rw [afterName?, if_pos hc, hBegin]⟩
      · cases h

/-- What is used of the names of raw text elements. -/
structure IsRawName (tag : Text) : Prop where
  nonempty : tag ≠ []
  angle_not_mem : .scalar '<' ∉ tag

theorem isRawName_of_isRawText {tag : Text} (h : isRawText tag = true) : IsRawName tag := by
  have hTags : tag = "script" ∨ tag = "style" := by
    simpa [isRawText, rawTextTags, textsOf] using h
  rcases hTags with rfl | rfl
  · exact ⟨by decide, by decide⟩
  · exact ⟨by decide, by decide⟩

theorem rawEnd_append {tag : Text} (hTag : tag ≠ []) {t after : Text}
    (h : rawEnd tag t = some after) (more : Text) :
    rawEnd tag (t ++ more) = some (after ++ more) := by
  unfold rawEnd at h
  split at h
  · next rest =>
    obtain ⟨middle, hName, hEnd⟩ := Option.bind_eq_some_iff.1 h
    have hDrop : (rest ++ more).dropWhile CodePoint.isBlank
        = rest.dropWhile CodePoint.isBlank ++ more := by
      rw [List.dropWhile_append, if_neg]
      intro hEmpty
      rw [List.isEmpty_iff.1 hEmpty] at hName
      obtain ⟨n, name, rfl⟩ := List.exists_cons_of_ne_nil hTag
      cases hName
    simp only [List.cons_append, rawEnd, hDrop, afterName?_append hName, Option.bind_some,
      afterSpaced?_append hEnd]
  · cases h

theorem isMark_rawEnd {tag : Text} (hTag : tag ≠ []) : IsMark (rawEnd tag) where
  append _ _ more h := rawEnd_append hTag h more
  suffix t after h := (rawEnd_suffix tag t after h).1
  nil := rfl

/-- An end tag that does not begin in a text does not begin there either if
the text is followed by a `<`. -/
theorem rawEnd_append_eq_none {tag : Text} (hTag : IsRawName tag) {c : CodePoint} {t : Text}
    (h : rawEnd tag (c :: t) = none) (more : Text) :
    rawEnd tag (c :: t ++ .scalar '<' :: more) = none := by
  obtain ⟨hNe, hAngle⟩ := hTag
  have hBlank : (CodePoint.scalar '<').isBlank = false := by decide
  unfold rawEnd at h ⊢
  split
  · next rest heq =>
    cases t with
    | nil => cases heq
    | cons d t =>
      cases heq
      have hDrop : (t ++ .scalar '<' :: more).dropWhile CodePoint.isBlank
          = t.dropWhile CodePoint.isBlank ++ .scalar '<' :: more := by
        rw [List.dropWhile_append]
        split
        · next hEmpty =>
          rw [List.isEmpty_iff.1 hEmpty]
          simp [hBlank]
        · rfl
      simp only at h
      rw [show List.append t (.scalar '<' :: more) = t ++ .scalar '<' :: more from rfl, hDrop]
      cases hName : afterName? tag (t.dropWhile CodePoint.isBlank) with
      | none =>
        rw [afterName?_append_eq_none hAngle hName]
        rfl
      | some middle =>
        rw [hName] at h
        rw [afterName?_append hName]
        exact afterSpaced?_append_eq_none h hBlank (by decide) more
  · rfl

/-- The end tag at which raw text ends. -/
theorem rawEnd_eq {tag : Text} (hTag : IsRawName tag) {t after : Text}
    (h : rawEnd tag t = some after) :
    ∃ more : Text, t = .scalar '<' :: more ++ after
      ∧ rawEnd tag (.scalar '<' :: more) = some [] := by
  unfold rawEnd at h
  split at h
  · next rest =>
    obtain ⟨middle, hName, hEnd⟩ := Option.bind_eq_some_iff.1 h
    obtain ⟨name, hDrop, hLength, hWhole⟩ := afterName?_eq hName
    obtain ⟨blanks, rfl, hBlanks, hMore⟩ := afterSpaced?_eq hEnd
    have hRest : rest.takeWhile CodePoint.isBlank ++ rest.dropWhile CodePoint.isBlank = rest :=
      List.takeWhile_append_dropWhile
    have hHead := List.head?_dropWhile_not CodePoint.isBlank rest
    rw [hDrop] at hRest hHead
    obtain ⟨n, name, rfl⟩ : ∃ n more, name = n :: more := by
      refine List.exists_cons_of_ne_nil fun hNil => hTag.nonempty (List.eq_nil_of_length_eq_zero ?_)
      rw [← hLength, hNil, List.length_nil]
    have hn : n.isBlank = false := by simpa using hHead
    refine ⟨.scalar '/' :: (rest.takeWhile CodePoint.isBlank
      ++ (n :: name ++ (blanks ++ [.scalar '>']))), ?_, ?_⟩
    · simpa using hRest.symm
    · have hWhole' := afterName?_append hWhole (blanks ++ [.scalar '>'])
      simp only [rawEnd]
      rw [List.dropWhile_append_of_pos fun c hc => List.mem_takeWhile_imp hc, List.cons_append,
        List.dropWhile_cons_of_neg (by simp [hn]), ← List.cons_append, hWhole']
      exact afterSpaced?_blanks hBlanks hMore []
  · cases h

/-- A text without an end tag reads back up to an end tag. -/
theorem splitAtMark_rawText {tag : Text} (hTag : IsRawName tag) {t : Text}
    (hNone : splitAtMark (rawEnd tag) t = none) {endTag : Text}
    (hEnd : rawEnd tag endTag = some []) (rest : Text) :
    splitAtMark (rawEnd tag) (t ++ (endTag ++ rest)) = some (t, rest) := by
  obtain ⟨more, hMore, _⟩ := rawEnd_eq hTag hEnd
  rw [List.append_nil] at hMore
  subst hMore
  exact splitAtMark_append hNone (fun c u h => rawEnd_append_eq_none hTag h (more ++ rest))
    (rawEnd_append hTag.nonempty hEnd rest) (List.cons_ne_nil _ _)

end TreeTemplate
