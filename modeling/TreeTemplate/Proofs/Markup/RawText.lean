/-
TreeTemplate.Proofs.Markup.RawText — the content of `script` and `style`.

Raw text ends at the first end tag of its element that is spelled in the
letters `A` to `Z`. An end tag that is spelled otherwise belongs to the
text; but the search goes on behind it, so it also parts what stands on its
two sides.

* `PassedOver` — the pieces of a text up to the last such end tag.
* `IsRawContent` — such a text with a last piece.
* `stepInRawText_append`, `stepInRawText_cases` — one step.
-/
import TreeTemplate.Proofs.Markup.Building
import TreeTemplate.Proofs.Markup.Mark

namespace TreeTemplate

/-! ## 1. Texts -/

/-- Pieces without an end tag, each with an end tag behind it that is not
spelled in letters. -/
inductive PassedOver (tag : Text) : Text → Prop where
  | nil : PassedOver tag []
  | snoc {t before endTag : Text} : PassedOver tag t → splitAtMark (rawEnd tag) before = none →
    rawEnd tag endTag = some [] → (nameInEndTag endTag).all CodePoint.isAsciiLetter = false →
    PassedOver tag (t ++ (before ++ endTag))

/-- A text that can stand in a raw text element. -/
def IsRawContent (tag t : Text) : Prop :=
  ∃ passed last, t = passed ++ last ∧ PassedOver tag passed
    ∧ splitAtMark (rawEnd tag) last = none

/-- The content of an element whose only content is a text. -/
def textNodes (t : Text) : List Node := if t = [] then [] else [.text t]

theorem textNodes_reverse (t : Text) : (textNodes t).reverse = textNodes t := by
  unfold textNodes
  split <;> rfl

/-! ## 2. One step -/

variable {tag : Text}

/-- The step over a piece and the end tag behind it. -/
theorem stepInRawText_append (hTag : IsRawName tag) {before endTag : Text}
    (hBefore : splitAtMark (rawEnd tag) before = none) (hEnd : rawEnd tag endTag = some [])
    (after : Text) :
    stepInRawText tag (before ++ (endTag ++ after)) =
      if (nameInEndTag endTag).all CodePoint.isAsciiLetter then
        (textEvents before ++ [.endTag tag], none, after)
      else (textEvents before ++ [.text endTag], some tag, after) := by
  have hSplit := splitAtMark_rawText hTag hBefore hEnd after
  have hTake : ((before ++ (endTag ++ after)).drop before.length).take
      ((before ++ (endTag ++ after)).length - before.length - after.length) = endTag := by
    rw [List.drop_left, List.take_append_of_le_length]
    · refine List.take_of_length_le ?_
      simp only [List.length_append]
      omega
    · simp only [List.length_append]
      omega
  unfold stepInRawText
  rw [hSplit]
  simp only [hTake]

/-- A step goes to the end of the text, or over a piece and an end tag. -/
theorem stepInRawText_cases (hTag : IsRawName tag) (t : Text) :
    stepInRawText tag t = ([], some tag, []) ∨
      ∃ before endTag after, t = before ++ (endTag ++ after)
        ∧ splitAtMark (rawEnd tag) before = none ∧ rawEnd tag endTag = some [] := by
  cases hSplit : splitAtMark (rawEnd tag) t with
  | none =>
    refine .inl ?_
    rw [stepInRawText, hSplit]
  | some found =>
    obtain ⟨before, after⟩ := found
    obtain ⟨rest, rfl, hMark⟩ := splitAtMark_eq hSplit
    obtain ⟨more, rfl, hEnd⟩ := rawEnd_eq hTag hMark
    exact .inr ⟨before, _, after, rfl,
      splitAtMark_before (isMark_rawEnd hTag.nonempty) hSplit, hEnd⟩

/-! ## 3. Building -/

namespace OpenTree

/-- Text that is read inside an element with only a text. -/
theorem foldl_take_textEvents (attrs : Table Text) (s t : Text) (outer : List OpenElement)
    (outside : List Node) :
    (textEvents t).foldl take ⟨⟨tag, attrs, textNodes s⟩ :: outer, outside⟩
      = ⟨⟨tag, attrs, textNodes (s ++ t)⟩ :: outer, outside⟩ := by
  cases t with
  | nil => rw [List.append_nil]; rfl
  | cons c t =>
    have hAttach : attach (textNodes s) (.text (c :: t)) = textNodes (s ++ c :: t) := by
      cases s <;> rfl
    rw [← hAttach]
    rfl

end OpenTree

end TreeTemplate
