/-
TreeTemplate.Proofs.Markup.StartTag — start tags as they are written and read.

* `IsAttrName`, `IsTagName` — names that reading gives: in small letters,
  and without what would end them; `IsWrittenName` — those that it accepts.
* `isAttrName_of_decoded`, `isTagName_lower` — the names that are read.
* `readStartTag_html` — a start tag that is written is read as a whole,
  with its name and its attributes.
* `decoded_attrs` — and the values are what they were before escaping.
* `readConstruct_startTag`, `readConstruct_endTag` — the constructs at them.
-/
import TreeTemplate.Markup.Construct
import TreeTemplate.Proofs.Markup.Escape
import TreeTemplate.Proofs.Outcome
import TreeTemplate.Proofs.Text.Casing
import TreeTemplate.Proofs.Text.Pieces
import Mathlib.Data.List.TakeWhile

namespace TreeTemplate

/-! ## 1. Names -/

/-- A name that an attribute can be written with. -/
structure IsWrittenName (name : Text) : Prop where
  begins : ∀ c ∈ name.head?, beginsAttr c = true
  continues : ∀ c ∈ name.tail, inAttrName c = true
  nonempty : name ≠ []

/-- A name as it is read for an attribute. -/
structure IsAttrName (name : Text) : Prop extends IsWrittenName name where
  small : Text.lower name = name

/-- A name as it is read for a tag. -/
structure IsTagName (name : Text) : Prop where
  begins : ∀ c ∈ name.head?, c.isAsciiLetter = true
  within : ∀ c ∈ name, inTagName c = true
  nonempty : name ≠ []
  small : Text.lower name = name

/-- The name of a tag, of the code points that the name in an end tag can
have. -/
structure IsStrictTagName (name : Text) : Prop extends IsTagName name where
  strict : ∀ c ∈ name, inStrictName c = true

theorem beginsAttr_of_settled {c : CodePoint} (h : c.Settled) : beginsAttr c = true := by
  obtain ⟨hSlash, _, hMore⟩ := h.ne_sign
  simp [beginsAttr, h.isBlank_eq_false, hSlash, hMore]

theorem inAttrName_of_settled {c : CodePoint} (h : c.Settled) : inAttrName c = true := by
  obtain ⟨hSlash, hEq, hMore⟩ := h.ne_sign
  simp [inAttrName, h.isBlank_eq_false, hSlash, hEq, hMore]

/-- The small form of a name that is read is the name of an attribute. -/
theorem isAttrName_lower {c : CodePoint} {rest : Text} (hc : beginsAttr c = true)
    (hRest : ∀ d ∈ rest, inAttrName d = true) : IsAttrName (Text.lower (c :: rest)) := by
  obtain ⟨first, later, hLower, hFirst, hLater⟩ := Text.lower_cons c rest
  have hSmall := Text.lower_lower (c :: rest)
  rw [hLower] at hSmall ⊢
  refine ⟨⟨fun d hd => ?_, fun d hd => ?_, List.cons_ne_nil _ _⟩, hSmall⟩
  · cases hd
    rcases hFirst with hSettled | rfl
    · exact beginsAttr_of_settled hSettled
    · exact hc
  · rcases hLater d hd with hSettled | hMem
    · exact inAttrName_of_settled hSettled
    · exact hRest d hMem

/-- The names of the attributes that are read, as they are written. -/
theorem written_of_mem_readAttributes {mayBegin : Bool} {t : Text} {attr : WrittenAttr}
    (h : attr ∈ (readAttributes mayBegin t).1) :
    ∃ c rest, attr.1 = c :: rest ∧ beginsAttr c = true ∧ ∀ d ∈ rest, inAttrName d = true := by
  have hRun (c : CodePoint) (rest : Text) (hc : beginsAttr c = true) :
      ∃ d more, c :: rest.takeWhile inAttrName = d :: more ∧ beginsAttr d = true
        ∧ ∀ e ∈ more, inAttrName e = true :=
    ⟨c, _, rfl, hc, fun d hd => List.mem_takeWhile_imp hd⟩
  fun_induction readAttributes mayBegin t with
  | case1 => cases h
  | case2 mayBegin c rest hBegins _ _ _ _ _ _ _ attrs last hRec ih =>
    rcases List.mem_cons.1 h with rfl | h
    · exact hRun c rest (Bool.and_eq_true_iff.1 hBegins).2
    · exact ih (by rwa [hRec])
  | case3 mayBegin c rest hBegins _ _ _ _ attrs last hRec ih =>
    rcases List.mem_cons.1 h with rfl | h
    · exact hRun c rest (Bool.and_eq_true_iff.1 hBegins).2
    · exact ih (by rwa [hRec])
  | case4 => cases h

theorem decoded_fst {attr : WrittenAttr} {decoded : Text × Option Text}
    (h : attr.decoded = .ok decoded) : decoded.1 = Text.lower attr.1 := by
  unfold WrittenAttr.decoded at h
  split at h
  · cases h
    rfl
  · next value _ =>
    obtain ⟨t, _, rfl⟩ := exists_of_map_eq_ok h
    rfl

/-- The names of the attributes that are read, as they are meant. -/
theorem isAttrName_of_decoded {attrs : List WrittenAttr} {decoded : List (Text × Option Text)}
    (hAttrs : ∀ attr ∈ attrs, IsAttrName (Text.lower attr.1))
    (h : attrs.mapM WrittenAttr.decoded = .ok decoded) :
    ∀ attr ∈ decoded, IsAttrName attr.1 := by
  induction attrs generalizing decoded with
  | nil =>
    cases h
    exact List.forall_mem_nil _
  | cons attr attrs ih =>
    rw [List.mapM_cons] at h
    obtain ⟨first, hFirst, h⟩ := exists_of_bind_eq_ok h
    obtain ⟨others, hOthers, h⟩ := exists_of_bind_eq_ok h
    cases h
    obtain ⟨hName, hNames⟩ := List.forall_mem_cons.1 hAttrs
    refine List.forall_mem_cons.2 ⟨?_, ih hNames hOthers⟩
    rw [decoded_fst hFirst]
    exact hName

theorem isAsciiLetter_iff {c : CodePoint} : c.isAsciiLetter = true ↔
    (65 ≤ c.value ∧ c.value ≤ 90) ∨ (97 ≤ c.value ∧ c.value ≤ 122) := by
  simp [CodePoint.isAsciiLetter, CodePoint.inRanges]

theorem isAsciiLetter_lower {c : CodePoint} (h : c.isAsciiLetter = true) :
    c.lower.isAsciiLetter = true := by
  rw [isAsciiLetter_iff] at h ⊢
  have hAscii : c.value < 0x80 := by omega
  rcases h with hCapital | hSmall
  · have hShift : CodePoint.lowerShift c.value = 32 := by
      rw [CodePoint.lowerShift, if_pos hAscii, if_pos hCapital]
    have hValue : c.lower.value = c.value + 32 := by
      simp only [CodePoint.lower, hShift]
      exact CodePoint.value_ofNat (by omega)
    omega
  · have hShift : CodePoint.lowerShift c.value = 0 := by
      rw [CodePoint.lowerShift, if_pos hAscii, if_neg (by omega)]
    have hSame : c.lower = c := by simp [CodePoint.lower, hShift]
    rw [hSame]
    exact .inr hSmall

theorem inTagName_of_strict {c : CodePoint} (h : inStrictName c = true) : inTagName c = true := by
  by_contra hNot
  simp only [inTagName, Bool.not_eq_true', Bool.not_eq_false, Bool.or_eq_true,
    decide_eq_true_eq] at hNot
  rcases hNot with ((((((hNot | hNot) | hNot) | hNot) | hNot) | hNot) | hNot) | hNot <;>
    subst hNot <;> revert h <;> decide

theorem inTagName_of_isAsciiLetter {c : CodePoint} (h : c.isAsciiLetter = true) :
    inTagName c = true :=
  inTagName_of_strict (by simp [inStrictName, h])

theorem inTagName_of_settled {c : CodePoint} (h : c.Settled) : inTagName c = true := by
  by_contra hNot
  have hValue := h.lt_value
  simp only [inTagName, Bool.not_eq_true', Bool.not_eq_false, Bool.or_eq_true,
    decide_eq_true_eq] at hNot
  rcases hNot with ((((((hNot | hNot) | hNot) | hNot) | hNot) | hNot) | hNot) | hNot <;>
    subst hNot <;> exact absurd hValue (by decide)

/-- The small form of a name that begins with a letter from `A` to `Z` is
the name of a tag. -/
theorem isTagName_lower {c : CodePoint} (hc : c.isAsciiLetter = true) {rest : Text}
    (hRest : ∀ d ∈ rest, inTagName d = true) : IsTagName (Text.lower (c :: rest)) := by
  have hLower : Text.lower (c :: rest) = c.lower :: Text.lowerAfter [c] rest := by
    rw [Text.lower, Text.lowerAfter, Text.lowerBetween, if_neg, if_neg]
    · rfl
    · rintro rfl
      revert hc
      decide
    · rintro rfl
      revert hc
      decide
  have hWithin : ∀ d ∈ Text.lower (c :: rest), inTagName d = true := by
    intro d hd
    rcases Text.mem_lower hd with hSettled | hMem
    · exact inTagName_of_settled hSettled
    · rcases List.mem_cons.1 hMem with rfl | hMem
      · exact inTagName_of_isAsciiLetter hc
      · exact hRest d hMem
  have hSmall := Text.lower_lower (c :: rest)
  rw [hLower] at hSmall hWithin ⊢
  refine ⟨fun d hd => ?_, hWithin, List.cons_ne_nil _ _, hSmall⟩
  cases hd
  exact isAsciiLetter_lower hc

/-! ## 2. Attributes -/

theorem skipGap_cons {c : CodePoint} (h : beginsAttr c = true) (rest : Text) :
    skipGap (c :: rest) = c :: rest := by
  simp only [beginsAttr, Bool.not_eq_true', Bool.or_eq_false_iff, decide_eq_false_iff_not] at h
  simp [skipGap, h]

theorem skipGap_space (rest : Text) : skipGap (.scalar ' ' :: rest) = skipGap rest := by
  rw [skipGap, if_pos (by simp [show (CodePoint.scalar ' ').isBlank = true by decide])]

theorem skipGap_angle (rest : Text) : skipGap (.scalar '>' :: rest) = .scalar '>' :: rest := by
  rw [skipGap, if_neg (by simp [show (CodePoint.scalar '>').isBlank = false by decide])]

/-- A value between double quotes. -/
theorem readValue?_quoted {value : Text} (h : .scalar '"' ∉ value) (rest : Text) :
    readValue? (("=\"" : Text) ++ value ++ .scalar '"' :: rest) = some (value, true, rest) := by
  have hSigns : ("=\"" : Text) ++ value ++ .scalar '"' :: rest
      = .scalar '=' :: .scalar '"' :: (value ++ .scalar '"' :: rest) := rfl
  have hCut := Text.cut_append h rest
  have hBlank : (CodePoint.scalar '=').isBlank = false ∧ (CodePoint.scalar '"').isBlank = false
      ∧ (CodePoint.scalar '"').isQuote = true := by decide
  rw [hSigns]
  simp [readValue?, hBlank, hCut]

theorem readAttributes_angle (mayBegin : Bool) (rest : Text) :
    readAttributes mayBegin (.scalar '>' :: rest) = ([], .scalar '>' :: rest) := by
  rw [readAttributes, if_neg (by simp [beginsAttr])]

/-- An attribute with a value. -/
theorem readAttributes_cons {c : CodePoint} {rest value after : Text} {atOnce : Bool}
    (hc : beginsAttr c = true)
    (hRead : readValue? (rest.dropWhile inAttrName) = some (value, atOnce, after)) :
    readAttributes true (c :: rest) =
      ((c :: rest.takeWhile inAttrName, some value)
          :: (readAttributes (atOnce || skipGap after != after) (skipGap after)).1,
        (readAttributes (atOnce || skipGap after != after) (skipGap after)).2) := by
  rw [readAttributes, if_pos (by simpa using hc)]
  dsimp only
  split
  · next hSome =>
    rw [hRead] at hSome
    cases hSome
    rfl
  · next hNone =>
    rw [hRead] at hNone
    cases hNone

/-- One attribute as it is written. -/
theorem readAttributes_attr {name value : Text} (hName : IsWrittenName name)
    (hValue : .scalar '"' ∉ value) (rest : Text) :
    readAttributes true (name ++ (("=\"" : Text) ++ value ++ .scalar '"' :: rest)) =
      ((name, some value) :: (readAttributes true (skipGap rest)).1,
        (readAttributes true (skipGap rest)).2) := by
  obtain ⟨hBegins, hContinues, hNe⟩ := hName
  obtain ⟨c, more, rfl⟩ := List.exists_cons_of_ne_nil hNe
  have hTake : (more ++ (("=\"" : Text) ++ value ++ .scalar '"' :: rest)).takeWhile inAttrName
      = more := takeWhile_append_cons hContinues (by decide) _
  have hDrop : (more ++ (("=\"" : Text) ++ value ++ .scalar '"' :: rest)).dropWhile inAttrName
      = ("=\"" : Text) ++ value ++ .scalar '"' :: rest :=
    dropWhile_append_cons hContinues (by decide) _
  have hRead := readValue?_quoted hValue rest
  rw [← hDrop] at hRead
  rw [List.cons_append, readAttributes_cons (hBegins c rfl) hRead, hTake, Bool.true_or]

/-- A row of attributes as they are written, up to the end of the tag. -/
theorem readAttributes_attrsHtml {attrs : List (Text × Text)}
    (hNames : ∀ attr ∈ attrs, IsWrittenName attr.1) (rest : Text) :
    readAttributes true (skipGap (attrsHtml attrs ++ .scalar '>' :: rest)) =
      (attrs.map fun attr => (attr.1, some (escapeValue attr.2)), .scalar '>' :: rest) := by
  induction attrs with
  | nil =>
    rw [attrsHtml, List.nil_append, skipGap_angle, readAttributes_angle]
    rfl
  | cons attr attrs ih =>
    obtain ⟨name, value⟩ := attr
    have hName : IsWrittenName name := hNames _ List.mem_cons_self
    obtain ⟨c, more, hCons⟩ := List.exists_cons_of_ne_nil hName.nonempty
    have hGap : skipGap (attrsHtml ((name, value) :: attrs) ++ .scalar '>' :: rest)
        = name ++ (("=\"" : Text) ++ escapeValue value ++ .scalar '"' ::
          (attrsHtml attrs ++ .scalar '>' :: rest)) := by
      rw [attrsHtml]
      simp only [List.cons_append, List.append_assoc]
      rw [skipGap_space, hCons, List.cons_append,
        skipGap_cons (hName.begins c (by rw [hCons]; rfl))]
    rw [hGap, readAttributes_attr hName (quote_not_mem_escapeValue value),
      ih fun attr hMem => hNames attr (List.mem_cons_of_mem _ hMem)]
    rfl

/-- The names of attributes are read in small letters, their values as they
were before escaping. -/
theorem decoded_attrs (attrs : List (Text × Text)) :
    (attrs.map fun attr => (attr.1, some (escapeValue attr.2))).mapM WrittenAttr.decoded =
      .ok (attrs.map fun attr => (attr.1.lower, some attr.2)) := by
  induction attrs with
  | nil => rfl
  | cons attr attrs ih =>
    have hDecoded : WrittenAttr.decoded (attr.1, some (escapeValue attr.2))
        = .ok (attr.1.lower, some attr.2) := by
      simp only [WrittenAttr.decoded, decodeReferences_escapeValue]
      rfl
    rw [List.map_cons, List.mapM_cons, hDecoded, ih]
    rfl

/-! ## 3. Whole tags -/

theorem isBlank_of_strict {c : CodePoint} (h : inStrictName c = true) : c.isBlank = false := by
  have hValue : 0x20 < c.value ∧ c.value < 0x85 := by
    simp only [inStrictName, Bool.or_eq_true, decide_eq_true_eq] at h
    rcases h with ((((h | h) | h) | h) | h) | h
    · simp only [CodePoint.isAsciiLetter, CodePoint.inRanges, List.any_cons, List.any_nil,
        Bool.or_false, Bool.or_eq_true, Bool.and_eq_true, decide_eq_true_eq] at h
      omega
    · simp only [CodePoint.isAsciiDigit, Bool.and_eq_true, decide_eq_true_eq] at h
      omega
    all_goals subst h; decide
  rw [Bool.eq_false_iff]
  intro hBlank
  simp only [CodePoint.isBlank, Bool.or_eq_true, Bool.and_eq_true, decide_eq_true_eq,
    beq_iff_eq] at hBlank
  omega

theorem IsStrictTagName.trim_eq {tag : Text} (h : IsStrictTagName tag) : Text.trim tag = tag := by
  have hNotBlank : ∀ c ∈ tag, c.isBlank = false := fun c hc => isBlank_of_strict (h.strict c hc)
  exact Text.trim_eq_self (fun c hc => hNotBlank c (List.mem_of_mem_head? hc))
    fun c hc => hNotBlank c (List.mem_of_mem_getLast? hc)

/-- The end of a start tag, or the first of its attributes, ends the name. -/
theorem exists_cons_attrsHtml (attrs : List (Text × Text)) (rest : Text) :
    ∃ c more, attrsHtml attrs ++ .scalar '>' :: rest = c :: more ∧ inTagName c = false := by
  cases attrs with
  | nil => exact ⟨.scalar '>', rest, rfl, by decide⟩
  | cons attr attrs => exact ⟨.scalar ' ', _, rfl, by decide⟩

/-- There is a gap before the first attribute. -/
theorem skipGap_attrsHtml_ne (attr : Text × Text) (attrs : List (Text × Text)) (rest : Text) :
    skipGap (attrsHtml (attr :: attrs) ++ rest) ≠ attrsHtml (attr :: attrs) ++ rest := by
  obtain ⟨more, hCons⟩ : ∃ more, attrsHtml (attr :: attrs) ++ rest = .scalar ' ' :: more :=
    ⟨_, rfl⟩
  intro hSame
  rw [hCons, skipGap_space] at hSame
  have hLength := (skipGap_suffix more).length_le
  rw [hSame, List.length_cons] at hLength
  omega

/-- A start tag that is written is read as a whole. -/
theorem readStartTag_html {tag : Text} (hTag : IsTagName tag) {attrs : List (Text × Text)}
    (hNames : ∀ attr ∈ attrs, IsWrittenName attr.1) (rest : Text) :
    readStartTag (tag ++ (attrsHtml attrs ++ .scalar '>' :: rest)) =
      .whole tag (attrs.map fun attr => (attr.1, some (escapeValue attr.2))) false rest := by
  obtain ⟨c, more, hCons, hc⟩ := exists_cons_attrsHtml attrs rest
  have hAttrs := readAttributes_attrsHtml hNames rest
  have hBegin : readAttributes
      (endsApart tag || skipGap (attrsHtml attrs ++ .scalar '>' :: rest)
        != attrsHtml attrs ++ .scalar '>' :: rest)
      (skipGap (attrsHtml attrs ++ .scalar '>' :: rest))
      = (attrs.map fun attr => (attr.1, some (escapeValue attr.2)), .scalar '>' :: rest) := by
    cases attrs with
    | nil =>
      rw [attrsHtml, List.nil_append, skipGap_angle, readAttributes_angle]
      rfl
    | cons attr attrs =>
      rw [bne_iff_ne.2 (skipGap_attrsHtml_ne attr attrs _), Bool.or_true, hAttrs]
  unfold readStartTag
  rw [hCons, takeWhile_append_cons hTag.within hc, dropWhile_append_cons hTag.within hc, ← hCons]
  dsimp only
  rw [hBegin]
  rfl

/-- A letter after `<` begins a start tag. -/
theorem readConstruct_letter {c : CodePoint} (h : c.isAsciiLetter = true) (rest : Text) :
    readConstruct (c :: rest) = readTag (.scalar '<' :: c :: rest) (c :: rest) := by
  have hOthers : ∀ d ∈ ([.scalar '/', .scalar '!', .scalar '?'] : Text),
      d.isAsciiLetter = false := by decide
  have hNot : ∀ d ∈ ([.scalar '/', .scalar '!', .scalar '?'] : Text), c ≠ d := fun d hd e => by
    have hd := hOthers d hd
    rw [← e, h] at hd
    cases hd
  unfold readConstruct
  split
  · contradiction
  · next heq => exact absurd (List.cons.inj heq).1 (hNot _ (by decide))
  · next heq => exact absurd (List.cons.inj heq).1 (hNot _ (by decide))
  · next heq => exact absurd (List.cons.inj heq).1 (hNot _ (by decide))
  · next heq => exact absurd (List.cons.inj heq).1 (hNot _ (by decide))
  · next heq => exact absurd (List.cons.inj heq).1 (hNot _ (by decide))
  · next heq =>
    cases heq
    rw [if_pos h]

/-- The construct at a start tag that is written. -/
theorem readConstruct_startTag {tag : Text} (hTag : IsTagName tag)
    {attrs : List (Text × Text)} (hNames : ∀ attr ∈ attrs, IsWrittenName attr.1) (rest : Text) :
    readConstruct (tag ++ (attrsHtml attrs ++ .scalar '>' :: rest)) = .ok (.finished
      [.startTag tag (attrs.map fun attr => (attr.1.lower, some attr.2)) false] rest) := by
  have hRead := readStartTag_html hTag hNames rest
  obtain ⟨c, more, rfl⟩ := List.exists_cons_of_ne_nil hTag.nonempty
  have hLetter := hTag.begins c rfl
  rw [List.cons_append] at hRead ⊢
  rw [readConstruct_letter hLetter, readTag, hRead]
  simp only [decoded_attrs, hTag.small]
  rfl

/-- The construct at an end tag that is written. -/
theorem readConstruct_endTag {tag : Text} (hTag : IsTagName tag) (rest : Text) :
    readConstruct (.scalar '/' :: (tag ++ .scalar '>' :: rest)) =
      .ok (.finished (endTagEvents tag) rest) := by
  have hAngle : .scalar '>' ∉ tag := fun hMem => by
    have hWithin := hTag.within _ hMem
    revert hWithin
    decide
  rw [readConstruct, upToAngle, Text.cut_append hAngle]

/-- An end tag whose name is spelled in letters ends its element. -/
theorem endTagEvents_of_strict {tag : Text} (hTag : IsStrictTagName tag) :
    endTagEvents tag = [.endTag tag] := by
  have hTrim := hTag.trim_eq
  have hSmall := hTag.small
  have hStrict := hTag.strict
  obtain ⟨c, more, rfl⟩ := List.exists_cons_of_ne_nil hTag.nonempty
  have hName : (c.isAsciiLetter && more.all inStrictName) = true := by
    rw [hTag.begins c rfl, Bool.true_and, List.all_eq_true]
    exact fun d hd => hStrict d (List.mem_cons_of_mem _ hd)
  unfold endTagEvents
  simp only [hTrim, hName, if_true, hSmall]

end TreeTemplate
