/-
TreeTemplate.Markup.Tag — start tags.

A start tag is a name and attributes. Between them stand white space and
slashes; an attribute may also follow a quote at once. The value of an
attribute stands after one or more `=`, between quotes or without. A
quote that opens and is never closed opens nothing: then the value is
empty if white space stands before the quote, begins with the last `=` if
there are several, and is missing otherwise.

* `readAttributes` — attributes, as long as there are any.
* `readStartTag` — a start tag after its `<`. It may turn out not to be
  one, or to have no end.
-/
import TreeTemplate.Markup.Reference
import TreeTemplate.Text.Blank
import TreeTemplate.Text.Casing

namespace TreeTemplate

/-- Whether a code point is one of the two quotes. -/
def CodePoint.isQuote (c : CodePoint) : Bool := c = .scalar '"' || c = .scalar '\''

/-! ## 1. Names and gaps -/

/-- Whether a code point can stand in the name of a tag. -/
def inTagName (c : CodePoint) : Bool :=
  !(c = .scalar '\t' || c = .scalar '\n' || c = .scalar '\r' || c = .scalar '\x0c'
    || c = .scalar ' ' || c = .scalar '/' || c = .scalar '>' || c = .scalar '\x00')

/-- Whether a code point can stand in the name of an attribute, after the
first. -/
def inAttrName (c : CodePoint) : Bool :=
  !(c.isBlank || c = .scalar '/' || c = .scalar '=' || c = .scalar '>')

/-- Whether an attribute can begin with a code point. -/
def beginsAttr (c : CodePoint) : Bool :=
  !(c.isBlank || c = .scalar '/' || c = .scalar '>')

/-- Whether a code point can stand in a value without quotes. -/
def inBareValue (c : CodePoint) : Bool := !(c.isBlank || c = .scalar '>')

/-- Passes over white space and slashes, but for a slash before `>`. -/
def skipGap : Text → Text
  | [] => []
  | c :: rest =>
    if c.isBlank || (c = .scalar '/' && rest.head? != some (.scalar '>')) then skipGap rest
    else c :: rest

/-- Whether an attribute may follow a name at once: the name ends in a
quote or in white space. -/
def endsApart (name : Text) : Bool :=
  match name.getLast? with
  | some c => c.isQuote || c.isBlank
  | none => false

/-! ## 2. Attributes -/

/-- The value after the name of an attribute: the value, whether the next
attribute may follow at once, and what follows. -/
def readValue? (t : Text) : Option (Text × Bool × Text) :=
  let fromSign := t.dropWhile CodePoint.isBlank
  let signs := fromSign.takeWhile (· = .scalar '=')
  let afterSigns := fromSign.dropWhile (· = .scalar '=')
  let start := afterSigns.dropWhile CodePoint.isBlank
  if signs = [] then none
  else match start with
    | [] => some ([], false, [])
    | c :: inner =>
      if c.isQuote then
        match Text.cut c inner with
        | (value, some rest) => some (value, true, rest)
        | (_, none) =>
          if start ≠ afterSigns then some ([], true, start)
          else if 2 ≤ signs.length then
            some (.scalar '=' :: start.takeWhile inBareValue, false, start.dropWhile inBareValue)
          else none
      else some (start.takeWhile inBareValue, false, start.dropWhile inBareValue)

theorem skipGap_suffix (t : Text) : skipGap t <:+ t := by
  induction t with
  | nil => exact List.suffix_refl _
  | cons c rest ih =>
    unfold skipGap
    split
    · exact ih.trans (List.suffix_cons _ _)
    · exact List.suffix_refl _

theorem Text.cut_suffix {sep : CodePoint} {t before after : Text}
    (h : Text.cut sep t = (before, some after)) : after <:+ t := by
  induction t generalizing before with
  | nil => cases h
  | cons c rest ih =>
    unfold Text.cut at h
    split at h
    · cases h; exact List.suffix_cons _ _
    · have : Text.cut sep rest = ((Text.cut sep rest).1, some after) := by
        rw [← (Prod.mk.inj h).2]
      exact (ih this).trans (List.suffix_cons _ _)

theorem readValue?_suffix {t value after : Text} {atOnce : Bool}
    (h : readValue? t = some (value, atOnce, after)) : after <:+ t := by
  have hStart : ((t.dropWhile CodePoint.isBlank).dropWhile (· = CodePoint.scalar '=')).dropWhile
      CodePoint.isBlank <:+ t :=
    (List.dropWhile_suffix _).trans ((List.dropWhile_suffix _).trans (List.dropWhile_suffix _))
  simp only [readValue?] at h
  split at h
  · cases h
  · split at h
    · cases h; exact List.nil_suffix
    · next c inner heq =>
      have hInner : inner <:+ t := (List.suffix_cons c inner).trans (heq ▸ hStart)
      split at h
      · split at h
        · next hcut => cases h; exact (Text.cut_suffix hcut).trans hInner
        · split at h
          · cases h; exact heq ▸ hStart
          · split at h
            · cases h; exact (List.dropWhile_suffix _).trans (heq ▸ hStart)
            · cases h
      · cases h; exact (List.dropWhile_suffix _).trans (heq ▸ hStart)

/-- An attribute as it is written: its name, and its value with the
references in it. -/
abbrev WrittenAttr := Text × Option Text

/-- The attributes at the beginning of a text, and what follows them. The
first may stand there only if `mayBegin`. -/
def readAttributes (mayBegin : Bool) (t : Text) : List WrittenAttr × Text :=
  match t with
  | [] => ([], [])
  | c :: rest =>
    if mayBegin && beginsAttr c then
      let name := c :: rest.takeWhile inAttrName
      let afterName := rest.dropWhile inAttrName
      match _read : readValue? afterName with
      | some (value, atOnce, after) =>
        let next := skipGap after
        let (attrs, last) := readAttributes (atOnce || next != after) next
        ((name, some value) :: attrs, last)
      | none =>
        let next := skipGap afterName
        let (attrs, last) := readAttributes (endsApart name || next != afterName) next
        ((name, none) :: attrs, last)
    else ([], c :: rest)
termination_by t.length
decreasing_by
  · have h1 : after.length ≤ (rest.dropWhile inAttrName).length := (readValue?_suffix _read).length_le
    have h2 := (skipGap_suffix after).length_le
    have h3 := (List.dropWhile_suffix inAttrName (l := rest)).length_le
    simp only [List.length_cons]; omega
  · have h2 := (skipGap_suffix (rest.dropWhile inAttrName)).length_le
    have h3 := (List.dropWhile_suffix inAttrName (l := rest)).length_le
    simp only [List.length_cons]; omega

theorem readAttributes_suffix (mayBegin : Bool) (t : Text) :
    (readAttributes mayBegin t).2 <:+ t := by
  fun_induction readAttributes mayBegin t with
  | case1 => exact List.suffix_refl _
  | case2 mayBegin c rest _ _ afterName value atOnce after hRead next attrs last heq ih =>
    rw [heq] at ih
    exact ih.trans ((skipGap_suffix _).trans ((readValue?_suffix hRead).trans
      ((List.dropWhile_suffix _).trans (List.suffix_cons _ _))))
  | case3 mayBegin c rest _ _ afterName _ next attrs last heq ih =>
    rw [heq] at ih
    exact ih.trans ((skipGap_suffix _).trans
      ((List.dropWhile_suffix _).trans (List.suffix_cons _ _)))
  | case4 => exact List.suffix_refl _

/-! ## 3. Start tags -/

/-- What a text that begins like a start tag turns out to be. -/
inductive StartTag where
  | whole (name : Text) (attrs : List WrittenAttr) (closesItself : Bool) (rest : Text)
  /-- No tag at all, but text up to the given rest. -/
  | spoiled (rest : Text)
  | unfinished

/-- The start tag after its `<`. -/
def readStartTag (t : Text) : StartTag :=
  let name := t.takeWhile inTagName
  let afterName := t.dropWhile inTagName
  let next := skipGap afterName
  let (attrs, last) := readAttributes (endsApart name || next != afterName) next
  match last with
  | [] => .unfinished
  | .scalar '>' :: rest => .whole name attrs false rest
  | .scalar '/' :: .scalar '>' :: rest => .whole name attrs true rest
  | c :: rest => if c.isAsciiLetter || c = .scalar '=' then .unfinished else .spoiled (c :: rest)

/-- An attribute as it is meant: the name in small letters, the references
in the value replaced. -/
def WrittenAttr.decoded (attr : WrittenAttr) : Except MarkupError (Text × Option Text) :=
  match attr.2 with
  | none => .ok (attr.1.lower, none)
  | some value => (decodeReferences value).map fun t => (attr.1.lower, some t)

/-- What follows a start tag, or what is not one, is shorter than the
text. -/
theorem readStartTag_suffix {t : Text} {last : Text}
    (h : (∃ name attrs closes, readStartTag t = .whole name attrs closes last) ∨
      readStartTag t = .spoiled last) : last <:+ t := by
  have hAttrs : ∀ mayBegin, (readAttributes mayBegin (skipGap (t.dropWhile inTagName))).2 <:+ t :=
    fun mayBegin => (readAttributes_suffix mayBegin _).trans
      ((skipGap_suffix _).trans (List.dropWhile_suffix _))
  specialize hAttrs (endsApart (t.takeWhile inTagName)
    || skipGap (t.dropWhile inTagName) != t.dropWhile inTagName)
  unfold readStartTag at h
  simp only at h
  split at h
  · rcases h with ⟨_, _, _, h⟩ | h <;> cases h
  · next rest heq =>
    rw [heq] at hAttrs
    rcases h with ⟨_, _, _, h⟩ | h <;> cases h
    exact (List.suffix_cons _ _).trans hAttrs
  · next rest heq =>
    rw [heq] at hAttrs
    rcases h with ⟨_, _, _, h⟩ | h <;> cases h
    exact (List.suffix_cons _ _).trans ((List.suffix_cons _ _).trans hAttrs)
  · next c rest _ _ heq =>
    rw [heq] at hAttrs
    rcases h with ⟨_, _, _, h⟩ | h
    · split at h <;> cases h
    · split at h <;> cases h
      exact hAttrs

end TreeTemplate
