/-
TreeTemplate.Proofs.Markup.Escape — escaping is undone by reading.

* `decodeReferences_escapeText`, `decodeReferences_escapeValue` — the
  references of an escaped text stand for the text.
* `angle_not_mem_escapeText`, `quote_not_mem_escapeValue` — what escaping
  leaves no trace of, so that the text ends where it is meant to end.

Both follow code point by code point: an escaped code point is one
reference that ends in a semicolon, or it is no `&` and stands for itself.
-/
import TreeTemplate.Markup.Html
import TreeTemplate.Markup.Reference

namespace TreeTemplate

/-! ## 1. What escaping leaves out -/

/-- An escaped code point holds no angle bracket. -/
theorem angle_not_mem_escapeInText (c : CodePoint) :
    .scalar '<' ∉ escapeInText c ∧ .scalar '>' ∉ escapeInText c := by
  unfold escapeInText
  split
  · decide
  · decide
  · decide
  · next hLess hMore => exact ⟨fun h => hLess (List.mem_singleton.1 h).symm,
      fun h => hMore (List.mem_singleton.1 h).symm⟩

theorem angle_not_mem_escapeInValue (c : CodePoint) :
    .scalar '<' ∉ escapeInValue c ∧ .scalar '>' ∉ escapeInValue c := by
  unfold escapeInValue
  split
  · decide
  · decide
  · exact angle_not_mem_escapeInText c

theorem quote_not_mem_escapeInValue (c : CodePoint) : .scalar '"' ∉ escapeInValue c := by
  unfold escapeInValue
  split
  · decide
  · decide
  · next hQuote _ =>
    unfold escapeInText
    split
    · decide
    · decide
    · decide
    · exact fun h => hQuote (List.mem_singleton.1 h).symm

/-- An escaped text holds no angle bracket. -/
theorem angle_not_mem_escapeText (t : Text) :
    .scalar '<' ∉ escapeText t ∧ .scalar '>' ∉ escapeText t := by
  simp only [escapeText, List.mem_flatMap, not_exists, not_and]
  exact ⟨fun c _ => (angle_not_mem_escapeInText c).1, fun c _ => (angle_not_mem_escapeInText c).2⟩

/-- An escaped value holds no angle bracket. -/
theorem angle_not_mem_escapeValue (t : Text) :
    .scalar '<' ∉ escapeValue t ∧ .scalar '>' ∉ escapeValue t := by
  simp only [escapeValue, List.mem_flatMap, not_exists, not_and]
  exact ⟨fun c _ => (angle_not_mem_escapeInValue c).1, fun c _ => (angle_not_mem_escapeInValue c).2⟩

/-- An escaped value can stand between double quotes. -/
theorem quote_not_mem_escapeValue (t : Text) : .scalar '"' ∉ escapeValue t := by
  simp only [escapeValue, List.mem_flatMap, not_exists, not_and]
  exact fun c _ => quote_not_mem_escapeInValue c

theorem escapeInText_ne_nil (c : CodePoint) : escapeInText c ≠ [] := by
  unfold escapeInText
  split
  · decide
  · decide
  · decide
  · exact List.cons_ne_nil _ _

theorem escapeText_eq_nil {t : Text} (h : escapeText t = []) : t = [] := by
  cases t with
  | nil => rfl
  | cons c rest => exact absurd (List.append_eq_nil_iff.1 h).1 (escapeInText_ne_nil c)

/-! ## 2. Reading references -/

theorem decodeReferences_nil : decodeReferences [] = .ok [] := by
  rw [decodeReferences]

/-- What is no ampersand stands for itself. -/
theorem decodeReferences_cons {c : CodePoint} (h : c ≠ .scalar '&') (rest : Text) :
    decodeReferences (c :: rest) = (decodeReferences rest).map (c :: ·) := by
  rw [decodeReferences, if_neg h]

/-- A reference is replaced by what it stands for. -/
theorem decodeReferences_amp {rest after found : Text} {reference : Reference}
    (hRead : Reference.read? rest = some (reference, after)) (hText : reference.text = .ok found) :
    decodeReferences (.scalar '&' :: rest) = (decodeReferences after).map (found ++ ·) := by
  rw [decodeReferences, if_pos rfl]
  split
  · next hNone => rw [hRead] at hNone; cases hNone
  · next _ _ hSome =>
    rw [hRead] at hSome
    cases hSome
    rw [hText]

theorem text_name (written : Text) :
    (Reference.name written).text = .ok (Reference.byBeginning written written.length) := rfl

/-- The names that escaping writes are known. -/
theorem byBeginning_written :
    Reference.byBeginning "amp;" 4 = [.scalar '&'] ∧ Reference.byBeginning "lt;" 3 = [.scalar '<']
      ∧ Reference.byBeginning "gt;" 3 = [.scalar '>']
      ∧ Reference.byBeginning "quot;" 5 = [.scalar '"'] := by
  decide +kernel

theorem decodeReferences_name {name : Text} {n : Nat} (hLength : name.length = n) {c : CodePoint}
    (hName : Reference.byBeginning name n = [c]) {rest : Text}
    (hRead : Reference.read? (name ++ rest) = some (.name name, rest)) :
    decodeReferences (.scalar '&' :: name ++ rest) = (decodeReferences rest).map (c :: ·) := by
  have hText : (Reference.name name).text = .ok [c] := by rw [text_name, hLength, hName]
  exact decodeReferences_amp hRead hText

/-- The references that escaping writes are read back. -/
theorem decodeReferences_escapeInText (c : CodePoint) (rest : Text) :
    decodeReferences (escapeInText c ++ rest) = (decodeReferences rest).map (c :: ·) := by
  obtain ⟨hAmp, hLess, hMore, _⟩ := byBeginning_written
  unfold escapeInText
  split
  · exact decodeReferences_name rfl hAmp rfl
  · exact decodeReferences_name rfl hLess rfl
  · exact decodeReferences_name rfl hMore rfl
  · next hNot _ _ => exact decodeReferences_cons hNot rest

theorem decodeReferences_escapeInValue (c : CodePoint) (rest : Text) :
    decodeReferences (escapeInValue c ++ rest) = (decodeReferences rest).map (c :: ·) := by
  have hSingle : Reference.read? (("#x27;" : Text) ++ rest)
      = some (.hexadecimal [2, 7], rest) := rfl
  unfold escapeInValue
  split
  · exact decodeReferences_name rfl byBeginning_written.2.2.2 rfl
  · exact decodeReferences_amp hSingle rfl
  · exact decodeReferences_escapeInText c rest

/-- An escaped text is read as the text. -/
theorem decodeReferences_escapeText (t : Text) : decodeReferences (escapeText t) = .ok t := by
  induction t with
  | nil => exact decodeReferences_nil
  | cons c rest ih =>
    rw [escapeText, List.flatMap_cons, decodeReferences_escapeInText]
    rw [escapeText] at ih
    rw [ih]
    rfl

/-- An escaped value is read as the value. -/
theorem decodeReferences_escapeValue (t : Text) : decodeReferences (escapeValue t) = .ok t := by
  induction t with
  | nil => exact decodeReferences_nil
  | cons c rest ih =>
    rw [escapeValue, List.flatMap_cons, decodeReferences_escapeInValue]
    rw [escapeValue] at ih
    rw [ih]
    rfl

end TreeTemplate
