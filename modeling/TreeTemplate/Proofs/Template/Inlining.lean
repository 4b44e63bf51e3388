/-
TreeTemplate.Proofs.Template.Inlining — an inclusion is its partial, written in place.

An element with an inclusion can be replaced by the content of the partial,
wherever it stands and however often it is rendered there: what succeeded
before succeeds with the same nodes. Only inside a placeholder without a
condition this fails, since there the text of the inclusion is a path.

In place the partial stands inside one inclusion less, so besides the
replacement itself one needs that more room never changes a success.

* `Inlined` — trees of which one has the content where the other has the
  element.
* `matches_inlined` — the step over such trees.
* `render_inlined` — the whole rendering.
-/
import TreeTemplate.Proofs.Partial.Store
import TreeTemplate.Proofs.Template.Directive

namespace TreeTemplate

/-! ## 1. Trees -/

/-- The second row of trees has nodes where the first has an element, at one
place. All elements around the place are rendered inside, if at all: those
that are placeholders have a condition. -/
inductive Inlined (openings : List Text) (element : Node) (content : List Node) :
    List Node → List Node → Prop where
  | here (before after : List Node) :
    Inlined openings element content (before ++ element :: after) (before ++ (content ++ after))
  | within (before after : List Node) {tag : Text} {attrs : Table Text}
    {children children' : List Node} : Inlined openings element content children children' →
    (tag = placeholderTag → (directiveOf? openings attrs .condition).isSome) →
    Inlined openings element content (before ++ .element tag attrs children :: after)
      (before ++ .element tag attrs children' :: after)

/-! ## 2. Directives -/

/-- An inclusion acts before all else. -/
theorem renderNode_inclusion {σ : Type} {openings : List Text}
    {included : Text → Value → Rendering σ (List Node)} {element : Node}
    (hElement : element.isElement = true) {directive : Directive}
    (h : directiveOf? openings element.attrs .inclusion = some directive) (c : Value) :
    renderNode openings included element c = included (partialName directive.value) c := by
  obtain ⟨label, attrs, children⟩ := element
  cases label with
  | element tag =>
    have hFirst : directivesAmong openings attrs = directive ::
        [.condition, .loop, .style, .attr].filterMap (directiveOf? openings attrs) :=
      List.filterMap_cons_some h
    rw [renderNode, hFirst, renderElement, (directiveOf?_eq h).1]
  | _ => cases hElement

/-! ## 3. The step over the trees -/

open Rendering (Matches)

variable {σ τ : Type} {states : σ → τ → Prop} {excused : RenderError → Prop}

theorem renderNodes_append (openings : List Text)
    (included : Text → Value → Rendering σ (List Node)) (first second : List Node) (c : Value) :
    renderNodes openings included (first ++ second) c = (do
      let nodes ← renderNodes openings included first c
      let more ← renderNodes openings included second c
      pure (nodes ++ more)) := by
  induction first with
  | nil => simp [renderNodes]
  | cons node rest ih =>
    simp only [List.cons_append, renderNodes, ih, bind_assoc, pure_bind, List.append_assoc]

theorem renderNodes_singleton (openings : List Text)
    (included : Text → Value → Rendering σ (List Node)) (node : Node) (c : Value) :
    renderNodes openings included [node] c = renderNode openings included node c := by
  simp [renderNodes]

variable {openings : List Text} {included : Text → Value → Rendering σ (List Node)}
  {included' : Text → Value → Rendering τ (List Node)}

/-- Rows of nodes between which one piece differs. -/
theorem matches_between
    (hIncluded : ∀ name c d, c = d → Matches states excused Eq (included name c) (included' name d))
    (before after : List Node) {middle middle' : List Node} {c : Value}
    (h : Matches states excused Eq (renderNodes openings included middle c)
      (renderNodes openings included' middle' c)) :
    Matches states excused Eq (renderNodes openings included (before ++ (middle ++ after)) c)
      (renderNodes openings included' (before ++ (middle' ++ after)) c) := by
  have hAround (nodes : List Node) : Matches states excused Eq
      (renderNodes openings included nodes c) (renderNodes openings included' nodes c) :=
    matches_renderNodes Likeness.same hIncluded (Likeness.same_fits nodes) rfl
  have hAppend {first second first' second' : List Node}
      (hFirst : Matches states excused Eq (renderNodes openings included first c)
        (renderNodes openings included' first' c))
      (hSecond : Matches states excused Eq (renderNodes openings included second c)
        (renderNodes openings included' second' c)) :
      Matches states excused Eq (renderNodes openings included (first ++ second) c)
        (renderNodes openings included' (first' ++ second') c) := by
    rw [renderNodes_append, renderNodes_append]
    refine Matches.bind hFirst ?_
    rintro nodes _ rfl
    refine Matches.bind hSecond ?_
    rintro more _ rfl
    exact .pure rfl
  exact hAppend (hAround before) (hAppend h (hAround after))

/-- If the content can stand for the element, it can do so inside of trees. -/
theorem matches_inlined
    (hIncluded : ∀ name c d, c = d → Matches states excused Eq (included name c) (included' name d))
    {element : Node} {content : List Node}
    (hHere : ∀ c, Matches states excused Eq (renderNode openings included element c)
      (renderNodes openings included' content c))
    {nodes nodes' : List Node} (h : Inlined openings element content nodes nodes') (c : Value) :
    Matches states excused Eq (renderNodes openings included nodes c)
      (renderNodes openings included' nodes' c) := by
  induction h generalizing c with
  | here before after =>
    have hNode := hHere c
    rw [← renderNodes_singleton] at hNode
    exact matches_between hIncluded before after hNode
  | @within before after tag attrs children children' _ hCondition ih =>
    have hNode : Matches states excused Eq
        (renderNode openings included (.element tag attrs children) c)
        (renderNode openings included' (.element tag attrs children') c) := by
      rw [Node.element, Node.element, renderNode, renderNode]
      refine matches_renderElement Likeness.same hIncluded ?_ _ (fun hTag => .inr ?_) rfl rfl
      · rintro c _ rfl
        exact ih c
      · obtain ⟨directive, hDirective⟩ := Option.isSome_iff_exists.1 (hCondition hTag)
        exact ⟨directive, mem_directivesAmong hDirective, (directiveOf?_eq hDirective).1⟩
    rw [← renderNodes_singleton, ← renderNodes_singleton] at hNode
    exact matches_between hIncluded before after hNode

/-! ## 4. The whole rendering -/

theorem chains_short : Chains fun chain chain' => chain'.length ≤ chain.length where
  grow chain chain' name h := by simpa using h
  short _ _ h := h

/-- The content of a partial, outside of all inclusions, stands for an
inclusion of it. -/
theorem matches_inclusion {settings : Settings} {parser : Text → Except MarkupError Node}
    (hParser : settings.parser = some parser) {partials : Table Text} {name t : Text} {root : Node}
    (hGet : partials.get? name = some t) (hParse : parser t.trim = .ok root) (c : Value) :
    Matches (Store.Alike partials) (fun _ => True) Eq
      (includedWithin settings (some Store.source) settings.maxDepth.toNat [] name c)
      (renderWithin settings (some Store.source) settings.maxDepth.toNat [] root.children c) := by
  by_cases hFull : settings.maxDepth ≤ ([] : List Text).length
  · obtain ⟨e, hThrow⟩ : ∃ e, fetch settings (some Store.source) [] name = throw e :=
      fetch_eq_throw hFull name
    rw [includedWithin, hThrow]
    exact fun _ _ _ => .excused trivial
  · obtain ⟨more, hMore⟩ : ∃ more, settings.maxDepth.toNat = more + 1 :=
      Nat.exists_eq_succ_of_ne_zero (by simp only [List.length_nil] at hFull; omega)
    rintro store store' ⟨hStore, hStore'⟩
    rw [← hStore] at hGet
    rw [includedWithin, Rendering.runFrom_bind, fetch_store hParser hFull hGet hParse, hMore]
    -- Behind the partial, the content is inside one inclusion less.
    have hContent : Matches (Store.Alike partials) (fun _ => True) Eq
        (renderWithin settings (some Store.source) more [name] root.children c)
        (renderWithin settings (some Store.source) (more + 1) [] root.children c) :=
      matches_renderWithin Likeness.same chains_short rfl (Int.le_refl _)
        (fun chain chain' name hShort => matches_fetch_store Likeness.same
          (fun _ _ root _ _ => Likeness.same_fits root.children) hShort name)
        (by simp) (by simp only [List.length_singleton]; omega)
        (by simp only [List.length_nil]; omega) (Likeness.same_fits root.children) rfl
    exact hContent _ _ ⟨hStore, hStore'⟩

/-- The same trees, but for an inclusion in the place of which the other has
the content of the partial. -/
theorem matches_renderWithin_inlined {settings : Settings}
    {parser : Text → Except MarkupError Node} (hParser : settings.parser = some parser)
    {partials : Table Text} {element root : Node} {directive : Directive} {t : Text}
    (hElement : element.isElement = true)
    (hDirective : directiveOf? settings.openings element.attrs .inclusion = some directive)
    (hGet : partials.get? (partialName directive.value) = some t)
    (hParse : parser t.trim = .ok root) {nodes nodes' : List Node}
    (hInlined : Inlined settings.openings element root.children nodes nodes') (c : Value) :
    Matches (Store.Alike partials) (fun _ => True) Eq
      (renderWithin settings (some Store.source) settings.maxDepth.toNat [] nodes c)
      (renderWithin settings (some Store.source) settings.maxDepth.toNat [] nodes' c) := by
  have hRoom : settings.maxDepth ≤ ([] : List Text).length + settings.maxDepth.toNat := by
    simp only [List.length_nil]
    omega
  have hIncluded : ∀ name c d, c = d → Matches (Store.Alike partials) (fun _ => True) Eq
      (includedWithin settings (some Store.source) settings.maxDepth.toNat [] name c)
      (includedWithin settings (some Store.source) settings.maxDepth.toNat [] name d) :=
    matches_includedWithin Likeness.same chains_short rfl (Int.le_refl _)
      (fun chain chain' name hShort => matches_fetch_store Likeness.same
        (fun _ _ root _ _ => Likeness.same_fits root.children) hShort name)
      (Nat.le_refl _) hRoom hRoom
  rw [renderWithin_eq, renderWithin_eq]
  refine matches_inlined hIncluded (fun c => ?_) hInlined c
  rw [renderNode_inclusion hElement hDirective, ← renderWithin_eq]
  exact matches_inclusion hParser hGet hParse c

/-- If an element is an inclusion of a partial that is there and can be
parsed, what is rendered with success is rendered to the same nodes with the
content of the partial in the place of the element. Of failures this is not so:
in place the partial stands inside one inclusion less, so the limit may not be
met any more. -/
theorem render_inlined {openings : List Text} {maxDepth : Int} {template element root : Node}
    {nodes' : List Node} {directive : Directive} {store final : Store} {t : Text} {data : Value}
    {output : List Node} (hElement : element.isElement = true)
    (hDirective : directiveOf? openings element.attrs .inclusion = some directive)
    (hGet : store.partials.get? (partialName directive.value) = some t)
    (hParse : parseMarkup t.trim = .ok root)
    (hInlined : Inlined openings element root.children template.children nodes')
    (hRender : (render ⟨openings, maxDepth, some parseMarkup⟩ (some Store.source) template
      data).runFrom store = (.ok output, final)) :
    ∃ final, (render ⟨openings, maxDepth, some parseMarkup⟩ (some Store.source)
      (template.withChildren nodes') data).runFrom store = (.ok output, final) := by
  have hOpenings : openings ≠ [] := by
    rintro rfl
    cases hRender
  have hMatches : Matches (Store.Alike store.partials) (fun _ => True) Eq
      (renderWithin ⟨openings, maxDepth, some parseMarkup⟩ (some Store.source) maxDepth.toNat []
        template.children data)
      (renderWithin ⟨openings, maxDepth, some parseMarkup⟩ (some Store.source) maxDepth.toNat []
        nodes' data) :=
    matches_renderWithin_inlined rfl hElement hDirective hGet hParse hInlined data
  have hEnds := hMatches store store ⟨rfl, rfl⟩
  rw [render, if_neg hOpenings] at hRender ⊢
  rw [hRender] at hEnds
  obtain ⟨_, final, hRun, rfl, _⟩ := hEnds.of_ok
  exact ⟨final, hRun⟩

/-- A row of a list, written in place of its inclusion, inside a loop. -/
theorem render_inlined_row :
    let row : Node := .element "b" [("include", " row ")] []
    let content : List Node := [.element "i" [] [.element "var" [] [.text "name"]], .text "!"]
    let template : Node := .fragment [.element "ul" [] [.element "li" [("loop", "items")] [row]]]
    let placed : List Node := [.element "ul" [] [.element "li" [("loop", "items")] content]]
    let store : Store := ⟨[("row", "<i><var>name</var></i>!\n")], []⟩
    let data : Value :=
      .dict [("items", .list [.dict [("name", .str "A")], .dict [("name", .str "B")]])]
    let item (t : Text) : Node := .element "li" [] [.element "i" [] [.text t], .text "!"]
    Inlined [[]] row content template.children placed
      ∧ (render ⟨[[]], 1, some parseMarkup⟩ (some Store.source) template data).runFrom store
        = (.ok [.element "ul" [] [item "A", item "B"]], ⟨store.partials, ["row", "row"]⟩)
      ∧ ∃ final, (render ⟨[[]], 1, some parseMarkup⟩ (some Store.source)
        (template.withChildren placed) data).runFrom store
          = (.ok [.element "ul" [] [item "A", item "B"]], final) := by
  intro row content template placed store data item
  have hInlined : Inlined [[]] row content template.children placed :=
    .within [] [] (.within [] [] (.here [] []) (by decide)) (by decide)
  have hDirective : directiveOf? [[]] row.attrs .inclusion
      = some ⟨.inclusion, "include", " row "⟩ := by decide
  have hGet : store.partials.get? (partialName " row ")
      = some "<i><var>name</var></i>!\n" := by decide
  have hParse : parseMarkup (Text.trim "<i><var>name</var></i>!\n") = .ok (.fragment content) := by
    decide +kernel
  have hRender :
      (render ⟨[[]], 1, some parseMarkup⟩ (some Store.source) template data).runFrom store
        = (.ok [.element "ul" [] [item "A", item "B"]], ⟨store.partials, ["row", "row"]⟩) := by
    decide +kernel
  exact ⟨hInlined, hRender, render_inlined rfl hDirective hGet hParse hInlined hRender⟩

end TreeTemplate
