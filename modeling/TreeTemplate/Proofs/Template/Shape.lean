/-
TreeTemplate.Proofs.Template.Shape — the texts in the data have no part in
the structure of the output.

Rendering a template against two values of one shape asks for the same
partials and ends in the same error or in trees of one outline. The loop,
the conditions and the partials that are fetched are decided by the shape;
what comes from a text goes into texts and values of attributes only. The
content of `script` and `style` is no exception: nothing there is rendered.

* `Likeness.outline` — values of one shape, trees of one outline.
* `fits_parseMarkup` — this likeness can be used for trees made of markup.
* `render_sameShape` — the whole rendering.
-/
import TreeTemplate.Proofs.Markup.Lexical
import TreeTemplate.Proofs.Markup.Outline
import TreeTemplate.Proofs.Partial.Store
import TreeTemplate.Proofs.Value.Shape

namespace TreeTemplate

/-! ## 1. The likeness -/

/-- Values of one shape, attributes of the same names, nodes of one outline. -/
def Likeness.outline : Likeness where
  contexts := SameShape
  attrs a b := a.names = b.names
  nodes xs ys := TreeTemplate.outline xs = TreeTemplate.outline ys
  content tag xs ys :=
    Node.outlineOfAll (isRawText tag) xs = Node.outlineOfAll (isRawText tag) ys
  attrs_refl _ := rfl
  nodes_refl _ := rfl
  content_refl _ _ := rfl
  append xs ys xs' ys' h h' := by
    rw [outline_append, outline_append, h, h']
  element tag a b xs ys hNames hContent := outline_element hNames hContent
  unwrapped xs ys h := h
  erase a b name h := Table.names_erase_congr h name
  text path c d h := by
    refine Outcomes.casesOn (outcomes_placeholderText h path) ?_ ?_
    · intro t u _
      exact .ok rfl
    · intro e
      exact .error e
  decision tag v c d h := decisionFor_eq h tag v
  loop v c d h := outcomes_loopContexts h v
  style v c d a b h hNames := outcomes_bindStyle h v hNames
  attr v c d a b h hNames := outcomes_bindPairs h (pairsOf v) hNames

theorem isInert_textNodes {t : Text} : ∀ node ∈ textNodes t, node.isInert = true := by
  intro node hNode
  unfold textNodes at hNode
  split at hNode
  · cases hNode
  · rw [List.mem_singleton.1 hNode]
    rfl

/-- Where the content of an element is written as it stands, it is a text,
on which rendering does not act. -/
theorem fits_parseMarkup {t : Text} {template : Node} (h : parseMarkup t = .ok template) :
    Everywhere Likeness.outline.Fits template.children := by
  refine (lexical_parseMarkup h).imp ?_
  rintro ⟨label, attrs, children⟩ hLexical
  cases label with
  | element tag =>
    cases hRaw : isRawText tag with
    | true =>
      obtain ⟨content, _, hChildren⟩ := hLexical.2.2 hRaw
      refine .inr ?_
      rw [hChildren]
      exact isInert_textNodes
    | false =>
      refine .inl fun xs ys hxy => ?_
      show Node.outlineOfAll (isRawText tag) xs = Node.outlineOfAll (isRawText tag) ys
      rw [hRaw]
      exact hxy
  | _ => exact trivial

/-! ## 2. The whole rendering -/

open Rendering (Matches)

/-- Two runs on values of one shape, from any one source. -/
theorem matches_renderWithin_sameShape {σ : Type} (openings : List Text) (maxDepth : Int)
    (source : Source σ) {markup : Text} {template : Node}
    (hTemplate : parseMarkup markup = .ok template) {data data' : Value}
    (hShape : SameShape data data') :
    Matches Eq (fun _ => False) (fun output output' => outline output = outline output')
      (renderWithin ⟨openings, maxDepth, some parseMarkup⟩ (some source) maxDepth.toNat []
        template.children data)
      (renderWithin ⟨openings, maxDepth, some parseMarkup⟩ (some source) maxDepth.toNat []
        template.children data') := by
  have hRoom : maxDepth ≤ ([] : List Text).length + maxDepth.toNat := by
    simp only [List.length_nil]
    omega
  refine matches_renderWithin Likeness.outline chains_eq rfl (Int.le_refl _) ?_ rfl hRoom hRoom
    (fits_parseMarkup hTemplate) hShape
  rintro chain _ name rfl
  refine matches_fetch Likeness.outline ?_ (Matches.refl _) chain
  rintro _ t root ⟨⟩ hParse
  exact fits_parseMarkup hParse

/-- Against two values that differ in the characters of their texts at most,
a template is rendered with the same requests and to the same error, or to
trees of one outline, with equally many angle brackets in their HTML. The
template is one that was read: in a tree of another make there could be
something to render inside `script` and `style`, where texts are written as they
stand. -/
theorem render_sameShape {markup : Text} {template : Node}
    (hTemplate : parseMarkup markup = .ok template) (openings : List Text) (maxDepth : Int)
    (store : Store) {data data' : Value} (hShape : SameShape data data') :
    let run (v : Value) : Except RenderError (List Node) × Store :=
      (render ⟨openings, maxDepth, some parseMarkup⟩ (some Store.source) template v).runFrom store
    (run data).2.requests = (run data').2.requests
      ∧ Outcomes (fun output output' => outline output = outline output'
          ∧ (toHtml output).count (.scalar '<') = (toHtml output').count (.scalar '<')
          ∧ (toHtml output).count (.scalar '>') = (toHtml output').count (.scalar '>'))
        (run data).1 (run data').1 := by
  intro run
  have hEnds : Agrees Eq (fun _ => False) (fun output output' => outline output = outline output')
      (run data) (run data') := by
    by_cases hOpenings : openings = []
    · simp only [run, render, if_pos hOpenings]
      exact .error rfl
    · simp only [run, render, if_neg hOpenings]
      exact matches_renderWithin_sameShape openings maxDepth Store.source hTemplate hShape store
        store rfl
  refine Agrees.casesOn hEnds ?_ ?_ ?_
  · intro output output' final final' hOutline hFinal
    exact ⟨congrArg Store.requests hFinal, .ok ⟨hOutline, count_toHtml_eq (.inl rfl) hOutline,
      count_toHtml_eq (.inr rfl) hOutline⟩⟩
  · intro e final final' hFinal
    exact ⟨congrArg Store.requests hFinal, .error e⟩
  · intro e final second hExcused
    exact hExcused.elim

/-- Texts full of markup, in the place of plain ones, inside a loop over a
partial that binds a style and an attribute. -/
theorem render_sameShape_markup :
    let template : Node := .fragment [
      .element "ul" [] [.element "li" [("loop", "items")] [.element "a" [("include", "row")] []]],
      .element "script" [] [.text "n<0"]]
    let store : Store :=
      ⟨[("row", "<b style=color:c attr=title:n if=n><var>n</var></b>")], []⟩
    let data (c n : Text) : Value := .dict [("items", .list [.dict [("c", .str c), ("n", .str n)]])]
    let run (v : Value) : Except RenderError (List Node) × Store :=
      (render ⟨[[]], 1, some parseMarkup⟩ (some Store.source) template v).runFrom store
    let output (c n : Text) : List Node := [
      .element "ul" [] [.element "li" [] [
        .element "b" [("style", ("color: " : Text) ++ c ++ (";" : Text)), ("title", n)] [.text n]]],
      .element "script" [] [.text "n<0"]]
    run (data "red" "plain") = (.ok (output "red" "plain"), ⟨store.partials, ["row"]⟩)
      ∧ run (data "'\">" "</ul>") = (.ok (output "'\">" "</ul>"), ⟨store.partials, ["row"]⟩)
      ∧ (run (data "red" "plain")).2.requests = (run (data "'\">" "</ul>")).2.requests
      ∧ Outcomes (fun output output' => outline output = outline output'
          ∧ (toHtml output).count (.scalar '<') = (toHtml output').count (.scalar '<')
          ∧ (toHtml output).count (.scalar '>') = (toHtml output').count (.scalar '>'))
        (run (data "red" "plain")).1 (run (data "'\">" "</ul>")).1 := by
  intro template store data run output
  have hTemplate : parseMarkup (("<ul><li loop=items><a include=row></a></li></ul>" : Text) ++
      ("<script>n<0</script>" : Text)) = .ok template := by decide +kernel
  have hShape : SameShape (data "red" "plain") (data "'\">" "</ul>") := by
    rw [SameShape]
    decide
  have hPlain : run (data "red" "plain")
      = (.ok (output "red" "plain"), ⟨store.partials, ["row"]⟩) := by
    decide +kernel
  have hMarkup : run (data "'\">" "</ul>")
      = (.ok (output "'\">" "</ul>"), ⟨store.partials, ["row"]⟩) := by
    decide +kernel
  exact ⟨hPlain, hMarkup, render_sameShape hTemplate [[]] 1 store hShape⟩

end TreeTemplate
