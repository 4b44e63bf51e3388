/-
TreeTemplate.Markup.Source — reading markup (specification §11).

Markup is read from left to right: text up to the next `<`, then the
construct that stands there, and so on. After the start tag of a `script`
or `style` element everything up to its end tag is text as it stands; if
there is no end tag, that text is left out.

* `eventsFrom` — the events of a text, within such an element or not.
* `parseMarkup` — the tree of a text (`parse_markup`).
-/
import TreeTemplate.Markup.Construct
import TreeTemplate.Markup.Tree

namespace TreeTemplate

/-! ## 1. Raw text -/

/-- The letter that a code point is read as in the end tag of a raw text
element. -/
def foldedLetter (c : CodePoint) : CodePoint :=
  if c = .scalar '\u0130' ∨ c = .scalar '\u0131' then .scalar 'i'
  else if c = .scalar '\u017F' then .scalar 's'
  else c.lower

/-- What follows a name, whatever the case of its letters. -/
def afterName? : Text → Text → Option Text
  | [], t => some t
  | _ :: _, [] => none
  | n :: name, c :: t => if foldedLetter c = n then afterName? name t else none

/-- The end tag of a raw text element. -/
def rawEnd (tag : Text) : Text → Option Text
  | .scalar '<' :: .scalar '/' :: rest =>
    (afterName? tag (rest.dropWhile CodePoint.isBlank)).bind (afterSpaced? (.scalar '>'))
  | _ => none

/-- The name between `</` and `>`. -/
def nameInEndTag (endTag : Text) : Text := Text.trim (endTag.drop 2).dropLast

/-! ## 2. One step -/

/-- Text as an event; empty text is none. -/
def textEvents (t : Text) : List Event := if t = [] then [] else [.text t]

/-- A step: the events met, the raw text element that reading is in
afterwards, and the text that is left. -/
abbrev ScanStep := List Event × Option Text × Text

/-- The raw text element that an event leads into. -/
def rawElementAfter : List Event → Option Text
  | [.startTag tag _ false] => if isRawText tag then some tag else none
  | _ => none

/-- The step at a `<`, after which the text follows. -/
def stepAtConstruct (rest : Text) : Except MarkupError ScanStep :=
  match readConstruct rest with
  | .error e => .error e
  | .ok (.finished events after) => .ok (events, rawElementAfter events, after)
  | .ok .unfinished =>
    let (beginning, after) := unfinishedText rest
    (decodeReferences beginning).map fun t => (textEvents t, none, after)

/-- The step over the text up to the next `<`. -/
def stepOverText (t : Text) : Except MarkupError ScanStep :=
  (decodeReferences (t.takeWhile (· ≠ .scalar '<'))).map fun content =>
    (textEvents content, none, t.dropWhile (· ≠ .scalar '<'))

/-- The step inside a raw text element: up to its end tag and over it. An
end tag that is not spelled in the letters `A` to `Z` is text as well. -/
def stepInRawText (tag t : Text) : ScanStep :=
  match splitAtMark (rawEnd tag) t with
  | none => ([], some tag, [])
  | some (content, after) =>
    let endTag := (t.drop content.length).take (t.length - content.length - after.length)
    if (nameInEndTag endTag).all CodePoint.isAsciiLetter then
      (textEvents content ++ [.endTag tag], none, after)
    else (textEvents content ++ [.text endTag], some tag, after)

/-- One step through a text. -/
def scanStep (raw : Option Text) (c : CodePoint) (rest : Text) : Except MarkupError ScanStep :=
  match raw with
  | some tag => .ok (stepInRawText tag (c :: rest))
  | none => if c = .scalar '<' then stepAtConstruct rest else stepOverText (c :: rest)

/-! ## 3. A step makes the text shorter -/

theorem afterName?_suffix {name t after : Text} (h : afterName? name t = some after) :
    after <:+ t := by
  induction name generalizing t with
  | nil => cases h; exact List.suffix_refl _
  | cons n name ih =>
    cases t with
    | nil => cases h
    | cons c t =>
      unfold afterName? at h
      split at h
      · exact (ih h).trans (List.suffix_cons _ _)
      · cases h

theorem rawEnd_suffix (tag t after : Text) (h : rawEnd tag t = some after) :
    after <:+ t ∧ after ≠ t := by
  unfold rawEnd at h
  split at h
  · next rest =>
    obtain ⟨middle, h1, h2⟩ := Option.bind_eq_some_iff.1 h
    have hs : after <:+ rest :=
      (afterSpaced?_suffix h2).trans ((afterName?_suffix h1).trans (List.dropWhile_suffix _))
    refine ⟨hs.trans ((List.suffix_cons _ _).trans (List.suffix_cons _ _)), fun e => ?_⟩
    have := hs.length_le
    rw [e] at this
    simp only [List.length_cons] at this
    omega
  · cases h

/-- The text after a mark is shorter than the text in which it is found,
if a mark is never empty. -/
theorem splitAtMark_length {mark : Text → Option Text}
    (hMark : ∀ t after, mark t = some after → after <:+ t ∧ after ≠ t) {t before after : Text}
    (h : splitAtMark mark t = some (before, after)) : after.length < t.length := by
  induction t generalizing before with
  | nil => cases h
  | cons c rest ih =>
    unfold splitAtMark at h
    split at h
    · next found heq =>
      cases h
      obtain ⟨hs, hne⟩ := hMark _ _ heq
      exact Nat.lt_of_le_of_ne hs.length_le fun e => hne (hs.eq_of_length e)
    · obtain ⟨⟨b, a⟩, hRest, hPair⟩ := Option.map_eq_some_iff.1 h
      cases hPair
      have := ih hRest
      simp only [List.length_cons]; omega

theorem stepInRawText_length (tag : Text) (c : CodePoint) (rest : Text) :
    (stepInRawText tag (c :: rest)).2.2.length < (c :: rest).length := by
  unfold stepInRawText
  split
  · simp
  · next heq =>
    have := splitAtMark_length (rawEnd_suffix tag) heq
    simp only
    split <;> exact this

theorem stepOverText_length {c : CodePoint} {rest : Text} {step : ScanStep}
    (hc : c ≠ .scalar '<') (h : stepOverText (c :: rest) = .ok step) :
    step.2.2.length < (c :: rest).length := by
  unfold stepOverText at h
  cases hd : decodeReferences ((c :: rest).takeWhile (· ≠ .scalar '<')) with
  | error e => rw [hd] at h; cases h
  | ok content =>
    rw [hd] at h
    cases h
    have : ((c :: rest).dropWhile (· ≠ .scalar '<')).length ≤ rest.length := by
      rw [List.dropWhile_cons_of_pos (by simpa using hc)]
      exact (List.dropWhile_suffix _).length_le
    simp only [List.length_cons] at this ⊢
    omega

theorem stepAtConstruct_length {rest : Text} {step : ScanStep}
    (h : stepAtConstruct rest = .ok step) : step.2.2.length ≤ rest.length := by
  unfold stepAtConstruct at h
  split at h
  · cases h
  · next heq => cases h; exact (readConstruct_suffix heq).length_le
  · simp only at h
    cases hd : decodeReferences (unfinishedText rest).1 with
    | error e => rw [hd] at h; cases h
    | ok content =>
      rw [hd] at h
      cases h
      exact (unfinishedText_suffix rest).length_le

theorem scanStep_length {raw : Option Text} {c : CodePoint} {rest : Text} {step : ScanStep}
    (h : scanStep raw c rest = .ok step) : step.2.2.length < (c :: rest).length := by
  unfold scanStep at h
  split at h
  · cases h; exact stepInRawText_length _ _ _
  · split at h
    · have := stepAtConstruct_length h
      simp only [List.length_cons]; omega
    · next hc => exact stepOverText_length hc h

/-! ## 4. All steps -/

/-- The events of a text that is inside a raw text element, or in none. -/
def eventsFrom (raw : Option Text) (t : Text) : Except MarkupError (List Event) :=
  match t with
  | [] => .ok []
  | c :: rest =>
    match _step : scanStep raw c rest with
    | .error e => .error e
    | .ok (events, raw, after) => (eventsFrom raw after).map (events ++ ·)
termination_by t.length
decreasing_by exact scanStep_length _step

/-- The events of a text. -/
def eventsOf (t : Text) : Except MarkupError (List Event) := eventsFrom none t

/-- The tree of a text: a fragment with the nodes that stand in it. -/
def parseMarkup (t : Text) : Except MarkupError Node := (eventsOf t).map Node.ofEvents

end TreeTemplate
