/-
TreeTemplate.Markup.Construct — what stands at a `<`.

A `<` begins a start tag, an end tag, a comment, an instruction or a
declaration; otherwise it is text. A construct without an end is
unfinished, and then the beginning of it is text as well.

* `readConstruct` — the events of a construct and what follows it.
* `unfinishedText` — the text that an unfinished construct begins with.
-/
import TreeTemplate.Markup.Event
import TreeTemplate.Markup.Tag
import TreeTemplate.Markup.Vocabulary

namespace TreeTemplate

/-! ## 1. Marks -/

/-- The text before the first place at which a mark stands, and what
follows the mark. A mark is given by what it leaves of a text that begins
with it. -/
def splitAtMark (mark : Text → Option Text) : Text → Option (Text × Text)
  | [] => none
  | c :: rest =>
    match mark (c :: rest) with
    | some after => some ([], after)
    | none => (splitAtMark mark rest).map fun (before, after) => (c :: before, after)

/-- A code point with white space before it. -/
def afterSpaced? (mark : CodePoint) (t : Text) : Option Text :=
  match t.dropWhile CodePoint.isBlank with
  | c :: rest => if c = mark then some rest else none
  | [] => none

/-- The end of a comment: two hyphens and `>`, with white space between. -/
def commentEnd : Text → Option Text
  | .scalar '-' :: .scalar '-' :: rest => afterSpaced? (.scalar '>') rest
  | _ => none

/-- The end of a conditional section: `]` and `>`. -/
def conditionalEnd : Text → Option Text
  | .scalar ']' :: rest => afterSpaced? (.scalar '>') rest
  | _ => none

/-- The end of a marked section: twice `]`, then `>`. -/
def sectionEnd : Text → Option Text
  | .scalar ']' :: rest => (afterSpaced? (.scalar ']') rest).bind (afterSpaced? (.scalar '>'))
  | _ => none

theorem splitAtMark_suffix {mark : Text → Option Text}
    (hMark : ∀ t after, mark t = some after → after <:+ t) {t before after : Text}
    (h : splitAtMark mark t = some (before, after)) : after <:+ t := by
  induction t generalizing before with
  | nil => cases h
  | cons c rest ih =>
    unfold splitAtMark at h
    split at h
    · next found heq => cases h; exact hMark _ _ heq
    · obtain ⟨⟨b, a⟩, hRest, hPair⟩ := Option.map_eq_some_iff.1 h
      cases hPair
      exact (ih hRest).trans (List.suffix_cons _ _)

theorem afterSpaced?_suffix {mark : CodePoint} {t after : Text}
    (h : afterSpaced? mark t = some after) : after <:+ t := by
  unfold afterSpaced? at h
  split at h
  · next c rest heq =>
    split at h
    · cases h
      exact (List.suffix_cons _ _).trans (heq ▸ List.dropWhile_suffix _)
    · cases h
  · cases h

theorem commentEnd_suffix (t after : Text) (h : commentEnd t = some after) : after <:+ t := by
  unfold commentEnd at h
  split at h
  · exact (afterSpaced?_suffix h).trans
      ((List.suffix_cons _ _).trans (List.suffix_cons _ _))
  · cases h

theorem conditionalEnd_suffix (t after : Text) (h : conditionalEnd t = some after) :
    after <:+ t := by
  unfold conditionalEnd at h
  split at h
  · exact (afterSpaced?_suffix h).trans (List.suffix_cons _ _)
  · cases h

theorem sectionEnd_suffix (t after : Text) (h : sectionEnd t = some after) : after <:+ t := by
  unfold sectionEnd at h
  split at h
  · obtain ⟨middle, h1, h2⟩ := Option.bind_eq_some_iff.1 h
    exact (afterSpaced?_suffix h2).trans ((afterSpaced?_suffix h1).trans (List.suffix_cons _ _))
  · cases h

/-! ## 2. Constructs -/

/-- A construct: its events and what follows it. -/
inductive Construct where
  | finished (events : List Event) (rest : Text)
  | unfinished

/-- The construct that ends at the first `>`, with the events of what
stands before it. -/
def upToAngle (events : Text → List Event) (t : Text) : Construct :=
  match Text.cut (.scalar '>') t with
  | (before, some rest) => .finished (events before) rest
  | (_, none) => .unfinished

/-- Whether a code point can stand in the name of a strict end tag. -/
def inStrictName (c : CodePoint) : Bool :=
  c.isAsciiLetter || c.isAsciiDigit || c = .scalar '-' || c = .scalar '.' || c = .scalar ':'
    || c = .scalar '_'

/-- The events of what stands between `</` and `>`. -/
def endTagEvents (before : Text) : List Event :=
  match before.trim with
  | c :: name =>
    if c.isAsciiLetter && name.all inStrictName then [.endTag (Text.lower (c :: name))]
    else match before with
      | d :: _ =>
        if d.isAsciiLetter then [.endTag (Text.lower (before.takeWhile inTagName))]
        else [.comment before]
      | [] => []
  | [] => if before = [] then [] else [.comment before]

/-- A comment, after `<!--`. -/
def readComment (t : Text) : Construct :=
  match splitAtMark commentEnd t with
  | some (before, rest) => .finished [.comment before] rest
  | none => .unfinished

/-- Whether a code point can stand in the keyword of a marked section. -/
def inKeyword (c : CodePoint) : Bool :=
  c.isAsciiLetter || c.isAsciiDigit || c = .scalar '-' || c = .scalar '.' || c = .scalar '_'

/-- Keywords of sections that end with two brackets. -/
def sectionKeywords : List Text := textsOf ["temp", "cdata", "ignore", "include", "rcdata"]

/-- Keywords of sections that end with one bracket. -/
def conditionalKeywords : List Text := textsOf ["if", "else", "endif"]

/-- A marked section, after `<![`; it has no events. -/
def readSection (t : Text) : Except MarkupError Construct :=
  match t with
  | [] => .ok .unfinished
  | c :: _ =>
    if c.isAsciiLetter then
      let keyword := t.takeWhile inKeyword
      let spaces := (t.dropWhile inKeyword).takeWhile CodePoint.isBlank
      let skipTo (mark : Text → Option Text) : Construct :=
        match splitAtMark mark t with
        | some (_, rest) => .finished [] rest
        | none => .unfinished
      if (t.dropWhile inKeyword).dropWhile CodePoint.isBlank = [] then .ok .unfinished
      else if sectionKeywords.contains (Text.lower keyword) then .ok (skipTo sectionEnd)
      else if conditionalKeywords.contains (Text.lower keyword) then .ok (skipTo conditionalEnd)
      else .error (.unknownKeyword (keyword ++ spaces))
    else .error (.missingName ((("<![" : Text) ++ t).take 20))

/-- A declaration, after `<!`: a document type, or else a comment. -/
def readDeclaration (t : Text) : Construct :=
  if Text.lower (t.take 7) = ("doctype" : Text) then
    upToAngle (fun before => [.doctype before.trim]) (t.drop 7)
  else upToAngle (fun before => [.comment before]) t

/-- A start tag, after `<`; `whole` is the text from the `<` on. -/
def readTag (whole t : Text) : Except MarkupError Construct :=
  match readStartTag t with
  | .whole name attrs closesItself rest =>
    (attrs.mapM WrittenAttr.decoded).map fun attrs =>
      .finished [.startTag name.lower attrs closesItself] rest
  | .spoiled rest => .ok (.finished [.text (whole.take (whole.length - rest.length))] rest)
  | .unfinished => .ok .unfinished

/-- The construct at a `<`, after which the text follows. -/
def readConstruct (t : Text) : Except MarkupError Construct :=
  match t with
  | [] => .ok .unfinished
  | .scalar '/' :: rest => .ok (upToAngle endTagEvents rest)
  | .scalar '!' :: .scalar '-' :: .scalar '-' :: rest => .ok (readComment rest)
  | .scalar '!' :: .scalar '[' :: rest => readSection rest
  | .scalar '!' :: rest => .ok (readDeclaration rest)
  | .scalar '?' :: rest => .ok (upToAngle (fun _ => []) rest)
  | c :: rest =>
    if c.isAsciiLetter then readTag (.scalar '<' :: c :: rest) (c :: rest)
    else .ok (.finished [.text [.scalar '<']] (c :: rest))

/-- The text that an unfinished construct begins with, and what follows:
up to the next `>`, else up to the next `<`, else the `<` alone. The text
after the first `<` is given. -/
def unfinishedText (t : Text) : Text × Text :=
  match Text.cut (.scalar '>') t with
  | (before, some rest) => (.scalar '<' :: before ++ [.scalar '>'], rest)
  | (_, none) =>
    if t.contains (.scalar '<') then
      (.scalar '<' :: t.takeWhile (· ≠ .scalar '<'), t.dropWhile (· ≠ .scalar '<'))
    else ([.scalar '<'], t)

/-! ## 3. What follows is a suffix -/

theorem upToAngle_suffix {events : Text → List Event} {t rest : Text} {found : List Event}
    (h : upToAngle events t = .finished found rest) : rest <:+ t := by
  unfold upToAngle at h
  split at h
  · next heq => cases h; exact Text.cut_suffix heq
  · cases h

theorem readComment_suffix {t rest : Text} {found : List Event}
    (h : readComment t = .finished found rest) : rest <:+ t := by
  unfold readComment at h
  split at h
  · next heq => cases h; exact splitAtMark_suffix commentEnd_suffix heq
  · cases h

theorem readDeclaration_suffix {t rest : Text} {found : List Event}
    (h : readDeclaration t = .finished found rest) : rest <:+ t := by
  unfold readDeclaration at h
  split at h
  · exact (upToAngle_suffix h).trans (List.drop_suffix _ _)
  · exact upToAngle_suffix h

theorem readSection_suffix {t rest : Text} {found : List Event}
    (h : readSection t = .ok (.finished found rest)) : rest <:+ t := by
  have skip {mark : Text → Option Text} (hMark : ∀ t after, mark t = some after → after <:+ t)
      (h : (match splitAtMark mark t with
        | some (_, rest) => Construct.finished [] rest
        | none => .unfinished) = .finished found rest) : rest <:+ t := by
    split at h
    · next heq => cases h; exact splitAtMark_suffix hMark heq
    · cases h
  unfold readSection at h
  split at h
  · cases h
  · simp only at h
    split at h
    · split at h
      · cases h
      · split at h
        · exact skip sectionEnd_suffix (Except.ok.inj h)
        · split at h
          · exact skip conditionalEnd_suffix (Except.ok.inj h)
          · cases h
    · cases h

theorem readTag_suffix {whole t rest : Text} {found : List Event}
    (h : readTag whole t = .ok (.finished found rest)) : rest <:+ t := by
  unfold readTag at h
  split at h
  · next name attrs closes last heq =>
    cases hm : attrs.mapM WrittenAttr.decoded with
    | error e => rw [hm] at h; cases h
    | ok decoded =>
      rw [hm] at h
      cases h
      exact readStartTag_suffix (.inl ⟨_, _, _, heq⟩)
  · next last heq => cases h; exact readStartTag_suffix (.inr heq)
  · cases h

theorem readConstruct_suffix {t rest : Text} {found : List Event}
    (h : readConstruct t = .ok (.finished found rest)) : rest <:+ t := by
  have cons {c : CodePoint} {s : Text} (h : rest <:+ s) : rest <:+ c :: s :=
    h.trans (List.suffix_cons _ _)
  unfold readConstruct at h
  split at h
  · cases h
  · exact cons (upToAngle_suffix (Except.ok.inj h))
  · exact cons (cons (cons (readComment_suffix (Except.ok.inj h))))
  · exact cons (cons (readSection_suffix h))
  · exact cons (readDeclaration_suffix (Except.ok.inj h))
  · exact cons (upToAngle_suffix (Except.ok.inj h))
  · split at h
    · exact readTag_suffix h
    · cases h; exact List.suffix_refl _

theorem unfinishedText_suffix (t : Text) : (unfinishedText t).2 <:+ t := by
  unfold unfinishedText
  split
  · next heq => exact Text.cut_suffix heq
  · split
    · exact List.dropWhile_suffix _
    · exact List.suffix_refl _

end TreeTemplate
