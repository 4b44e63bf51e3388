/-
TreeTemplate.Proofs.Markup.Stripping — trees without white space, and their
HTML.

* `htmlOfAll_append`, `htmlIn_element`, `textHtml` — HTML piece by piece.
* `Node.withoutSpaceAll_append`, `Node.withoutSpace_of_keepsSpace` — rows,
  and elements in which white space matters.
* `Node.withoutSpace_withoutSpace` — taking white space out twice.
* `flatMap_sublist` — texts that are made shorter piece by piece.
* `htmlIn_withoutSpace_sublist` — what is left is in its order.
-/
import TreeTemplate.Markup.Html
import TreeTemplate.Proofs.Markup.Escape

namespace TreeTemplate

/-! ## 1. HTML and texts -/

theorem htmlOfAll_append (raw : Bool) (nodes others : List Node) :
    Node.htmlOfAll raw (nodes ++ others)
      = Node.htmlOfAll raw nodes ++ Node.htmlOfAll raw others := by
  induction nodes with
  | nil => rfl
  | cons node nodes ih =>
    rw [List.cons_append, Node.htmlOfAll, Node.htmlOfAll, ih, List.append_assoc]

/-- An element is written the same everywhere. -/
theorem htmlIn_element (raw : Bool) {tag : Text} (hVoid : isVoid tag = false)
    (attrs : Table Text) (children : List Node) :
    (Node.element tag attrs children).htmlIn raw =
      startTagHtml tag attrs ++ Node.htmlOfAll (isRawText tag) children ++ endTagHtml tag := by
  rw [Node.element, Node.htmlIn, if_neg (by simp [hVoid])]

/-- The HTML of a text. -/
def textHtml (raw : Bool) (t : Text) : Text := if raw then t else escapeText t

theorem textHtml_append (raw : Bool) (s t : Text) :
    textHtml raw (s ++ t) = textHtml raw s ++ textHtml raw t := by
  cases raw with
  | true => rfl
  | false => exact List.flatMap_append

theorem textHtml_eq_nil {raw : Bool} {t : Text} (h : textHtml raw t = []) : t = [] := by
  cases raw with
  | true => exact h
  | false => exact escapeText_eq_nil h

theorem htmlIn_of_isText {node : Node} (h : node.isText = true) (raw : Bool) :
    node.htmlIn raw = textHtml raw node.textContent := by
  obtain ⟨label, attrs, children⟩ := node
  cases label with
  | text content => rfl
  | _ => cases h

theorem textContents_flatMap (nodes : List Node) :
    Node.textContents nodes = nodes.flatMap Node.textContent := by
  induction nodes with
  | nil => rfl
  | cons node nodes ih => rw [Node.textContents, ih, List.flatMap_cons]

theorem htmlIn_sublist (raw : Bool) (label : Label) (attrs : List (Text × Text))
    {children others : List Node}
    (h : ∀ raw, (Node.htmlOfAll raw children).Sublist (Node.htmlOfAll raw others)) :
    ((Node.mk label attrs children).htmlIn raw).Sublist
      ((Node.mk label attrs others).htmlIn raw) := by
  cases label with
  | element tag =>
    rw [Node.htmlIn, Node.htmlIn]
    split
    · exact .refl _
    · exact ((h _).append_left _).append_right _
  | fragment =>
    rw [Node.htmlIn, Node.htmlIn]
    exact h raw
  | _ => exact .refl _

/-! ## 2. White space -/

/-- Elements in which white space matters have an end tag. -/
theorem isVoid_of_keepsSpace {tag : Text} (h : keepsSpace tag = true) : isVoid tag = false := by
  have hAll : ∀ tag ∈ spaceKeepingTags, isVoid tag = false := by decide
  exact hAll tag (List.contains_iff_mem.1 h)

/-- White space matters in raw text. -/
theorem keepsSpace_of_isRawText {tag : Text} (h : isRawText tag = true) :
    keepsSpace tag = true := by
  have hAll : ∀ tag ∈ rawTextTags, keepsSpace tag = true := by decide
  exact hAll tag (List.contains_iff_mem.1 h)

namespace Node

/-- White space is a text. -/
theorem isBlankText_eq (node : Node) :
    node.isBlankText = (node.isText && node.textContent.isBlank) := by
  obtain ⟨label, attrs, children⟩ := node
  cases label <;> rfl

theorem withoutSpaceAll_eq (nodes : List Node) :
    withoutSpaceAll nodes = (nodes.filter fun node => !node.isBlankText).map withoutSpace := by
  induction nodes with
  | nil => rfl
  | cons node nodes ih =>
    rw [withoutSpaceAll, ih]
    cases hBlank : node.isBlankText with
    | true => rw [if_pos rfl, List.filter_cons_of_neg (by simp [hBlank])]
    | false => rw [if_neg (by simp), List.filter_cons_of_pos (by simp [hBlank]), List.map_cons]

theorem withoutSpaceAll_append (nodes others : List Node) :
    withoutSpaceAll (nodes ++ others) = withoutSpaceAll nodes ++ withoutSpaceAll others := by
  rw [withoutSpaceAll_eq, List.filter_append, List.map_append, ← withoutSpaceAll_eq,
    ← withoutSpaceAll_eq]

/-- Elements in which white space matters stay. -/
theorem withoutSpace_of_keepsSpace {node : Node} (h : keepsSpace node.tag = true) :
    node.withoutSpace = node := by
  cases node
  rw [withoutSpace, if_pos h]

/-- In other nodes white space is taken out. -/
theorem withoutSpace_mk (label : Label) (h : keepsSpace (mk label [] []).tag = false)
    (attrs : Table Text) (children : List Node) :
    (mk label attrs children).withoutSpace = mk label attrs (withoutSpaceAll children) := by
  have hTag : ¬ keepsSpace (mk label attrs children).tag = true := fun hKeeps =>
    absurd (h.symm.trans hKeeps) (by decide)
  rw [withoutSpace, if_neg hTag]

theorem label_withoutSpace (node : Node) : node.withoutSpace.label = node.label := by
  cases node
  rw [withoutSpace]
  split <;> rfl

theorem isText_withoutSpace (node : Node) : node.withoutSpace.isText = node.isText := by
  rw [isText, isText, label_withoutSpace]

theorem tag_withoutSpace (node : Node) : node.withoutSpace.tag = node.tag := by
  rw [tag, tag, label_withoutSpace]

theorem isBlankText_withoutSpace (node : Node) :
    node.withoutSpace.isBlankText = node.isBlankText := by
  rw [isBlankText, isBlankText, label_withoutSpace]

/-- Once white space is taken out there is none left. -/
theorem withoutSpace_withoutSpace (node : Node) :
    node.withoutSpace.withoutSpace = node.withoutSpace := by
  induction node using Node.induct with
  | step label attrs children ih =>
    cases hKeeps : keepsSpace (mk label [] []).tag with
    | true =>
      have hStays : (mk label attrs children).withoutSpace = mk label attrs children :=
        withoutSpace_of_keepsSpace hKeeps
      rw [hStays, hStays]
    | false =>
      have hSame : (fun node : Node => !node.isBlankText) ∘ withoutSpace =
          fun node => !node.isBlankText :=
        funext fun node => congrArg (!·) (isBlankText_withoutSpace node)
      rw [withoutSpace_mk label hKeeps, withoutSpace_mk label hKeeps, withoutSpaceAll_eq,
        withoutSpaceAll_eq, List.filter_map, hSame, List.filter_filter, List.map_map]
      simp only [Bool.and_self]
      congr 1
      exact List.map_congr_left fun child hChild => ih child (List.mem_filter.1 hChild).1

end Node

/-! ## 3. What is left is in its order -/

theorem append_eq_append_iff_of_sublist {s s' t t' : Text} (hs : s.Sublist s')
    (ht : t.Sublist t') : s ++ t = s' ++ t' ↔ s = s' ∧ t = t' := by
  constructor
  · intro h
    have hLength := congrArg List.length h
    rw [List.length_append, List.length_append] at hLength
    have hLe := ht.length_le
    have hSame : s = s' := hs.eq_of_length_le (by omega)
    exact ⟨hSame, List.append_cancel_left (hSame ▸ h)⟩
  · rintro ⟨rfl, rfl⟩
    rfl

/-- Pieces that are in order piece by piece are so together, and the same only
if they are the same piece by piece. -/
theorem flatMap_sublist {α : Type} {f g : α → Text} {l : List α}
    (h : ∀ a ∈ l, (f a).Sublist (g a)) :
    (l.flatMap f).Sublist (l.flatMap g) ∧ (l.flatMap f = l.flatMap g ↔ ∀ a ∈ l, f a = g a) := by
  induction l with
  | nil => exact ⟨.slnil, iff_of_true rfl (List.forall_mem_nil _)⟩
  | cons a l ih =>
    obtain ⟨ha, hl⟩ := List.forall_mem_cons.1 h
    obtain ⟨hSublist, hSame⟩ := ih hl
    rw [List.flatMap_cons, List.flatMap_cons, List.forall_mem_cons, ← hSame]
    exact ⟨ha.append hSublist, append_eq_append_iff_of_sublist ha hSublist⟩

theorem htmlOfAll_withoutSpaceAll_sublist (raw : Bool) {nodes : List Node}
    (h : ∀ node ∈ nodes, ∀ raw, (node.withoutSpace.htmlIn raw).Sublist (node.htmlIn raw)) :
    (Node.htmlOfAll raw (Node.withoutSpaceAll nodes)).Sublist (Node.htmlOfAll raw nodes) := by
  induction nodes with
  | nil => exact .slnil
  | cons node nodes ih =>
    obtain ⟨hNode, hNodes⟩ := List.forall_mem_cons.1 h
    rw [Node.withoutSpaceAll, Node.htmlOfAll]
    split
    · exact (ih hNodes).trans (List.sublist_append_right _ _)
    · exact (hNode raw).append (ih hNodes)

theorem htmlIn_withoutSpace_sublist (raw : Bool) (node : Node) :
    (node.withoutSpace.htmlIn raw).Sublist (node.htmlIn raw) := by
  induction node using Node.induct generalizing raw with
  | step label attrs children ih =>
    rw [Node.withoutSpace]
    split
    · exact .refl _
    · exact htmlIn_sublist raw label attrs fun raw =>
        htmlOfAll_withoutSpaceAll_sublist raw fun child hChild raw => ih child hChild raw

end TreeTemplate
