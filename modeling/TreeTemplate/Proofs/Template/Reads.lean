/-
TreeTemplate.Proofs.Template.Reads — what a rendering reads of the data.

Without inclusions, the paths that a template reads outside of its loops can
be listed beforehand. Two values of which each of these paths finds the same
are rendered to the same nodes, or to the same error. Inside a loop nothing
of the value outside is left: its items are all that the path of the loop
finds.

* `Node.reads`, `Node.readsOfAll` — the paths, element by element.
* `AgreeOn` — two values between which a row of paths makes no difference.
* `renderElement_agreeOn`, `renderNodes_agreeOn` — elements and trees.
* `render_agreeOn` — the whole rendering.
-/
import TreeTemplate.Proofs.Template.Directive
import TreeTemplate.Proofs.Template.Likeness

namespace TreeTemplate

/-! ## 1. Paths that are read -/

/-- The paths in the pairs of a binding, if there is one. -/
def boundPaths (binding : Option Directive) : List Text :=
  binding.elim [] fun directive => (pairsOf directive.value).map Prod.snd

/-- The path of a condition, if there is one. -/
def conditionPaths (condition : Option Directive) : List Text :=
  condition.elim [] fun directive => [(Condition.ofText directive.value).path]

namespace Node

mutual

/-- The paths that are read for a node outside of loops. A placeholder with
a condition is there for the condition only; with a loop everything else is
read inside of it. -/
def reads (openings : List Text) : Node → List Text
  | mk (.element tag) attrs children =>
    let condition := directiveOf? openings attrs .condition
    conditionPaths condition ++
      if tag = placeholderTag ∧ condition.isSome then readsOfAll openings children
      else match directiveOf? openings attrs .loop with
        | some loop => [loop.value.trim]
        | none =>
          boundPaths (directiveOf? openings attrs .style) ++
            (boundPaths (directiveOf? openings attrs .attr) ++
              if tag = placeholderTag then [(textContents children).trim]
              else readsOfAll openings children)
  | _ => []

/-- The paths that are read for a row of nodes. -/
def readsOfAll (openings : List Text) : List Node → List Text
  | [] => []
  | node :: rest => reads openings node ++ readsOfAll openings rest

end

end Node

/-- The same paths, directive by directive: those of an element on which
`directives` have still to act, where `below` are the paths that are read
inside of it. -/
def readsOfElement (tag content : Text) (below : List Text) : List Directive → List Text
  | [] => if tag = placeholderTag then [content.trim] else below
  | directive :: rest =>
    match directive.kind with
    | .inclusion => []
    | .condition => (Condition.ofText directive.value).path ::
        if tag = placeholderTag then below else readsOfElement tag content below rest
    | .loop => [directive.value.trim]
    | .style => (pairsOf directive.value).map Prod.snd ++ readsOfElement tag content below rest
    | .attr => (pairsOf directive.value).map Prod.snd ++ readsOfElement tag content below rest

section

variable {openings : List Text} {attrs : Table Text} {tag content : Text} {below : List Text}
  (rest : List Directive)

theorem readsOfElement_condition :
    readsOfElement tag content below
        ((directiveOf? openings attrs .condition).toList ++ rest) =
      conditionPaths (directiveOf? openings attrs .condition) ++
        if tag = placeholderTag ∧ (directiveOf? openings attrs .condition).isSome then below
        else readsOfElement tag content below rest := by
  cases h : directiveOf? openings attrs .condition with
  | none => simp [conditionPaths]
  | some directive => simp [readsOfElement, (directiveOf?_eq h).1, conditionPaths]

theorem readsOfElement_loop :
    readsOfElement tag content below ((directiveOf? openings attrs .loop).toList ++ rest) =
      match directiveOf? openings attrs .loop with
      | some loop => [loop.value.trim]
      | none => readsOfElement tag content below rest := by
  cases h : directiveOf? openings attrs .loop with
  | none => rfl
  | some directive => simp [readsOfElement, (directiveOf?_eq h).1]

theorem readsOfElement_style :
    readsOfElement tag content below ((directiveOf? openings attrs .style).toList ++ rest) =
      boundPaths (directiveOf? openings attrs .style) ++
        readsOfElement tag content below rest := by
  cases h : directiveOf? openings attrs .style with
  | none => rfl
  | some directive => simp [readsOfElement, (directiveOf?_eq h).1, boundPaths]

theorem readsOfElement_attr :
    readsOfElement tag content below ((directiveOf? openings attrs .attr).toList ++ rest) =
      boundPaths (directiveOf? openings attrs .attr) ++
        readsOfElement tag content below rest := by
  cases h : directiveOf? openings attrs .attr with
  | none => rfl
  | some directive => simp [readsOfElement, (directiveOf?_eq h).1, boundPaths]

end

/-- An element without an inclusion. -/
theorem reads_element {openings : List Text} {attrs : Table Text}
    (hInclusion : directiveOf? openings attrs .inclusion = none) (tag : Text)
    (children : List Node) :
    Node.reads openings (.element tag attrs children) =
      readsOfElement tag (Node.textContents children) (Node.readsOfAll openings children)
        (directivesAmong openings attrs) := by
  rw [directivesAmong_eq hInclusion, readsOfElement_condition, readsOfElement_loop,
    readsOfElement_style, readsOfElement_attr]
  rfl

/-! ## 2. Values that agree -/

/-- Two values of which each path of a row finds the same. Where the empty
path is among them, which finds the value itself, they are the same. -/
structure AgreeOn (paths : List Text) (c d : Value) : Prop where
  found : ∀ path ∈ paths, path ≠ [] → c.resolve path = d.resolve path
  whole : [] ∈ paths → c = d

variable {paths others : List Text} {c d : Value}

theorem AgreeOn.mono (h : AgreeOn paths c d) (hSubset : others ⊆ paths) : AgreeOn others c d :=
  ⟨fun path hPath => h.found path (hSubset hPath), fun hWhole => h.whole (hSubset hWhole)⟩

theorem AgreeOn.left (h : AgreeOn (paths ++ others) c d) : AgreeOn paths c d :=
  h.mono (List.subset_append_left _ _)

theorem AgreeOn.right (h : AgreeOn (paths ++ others) c d) : AgreeOn others c d :=
  h.mono (List.subset_append_right _ _)

theorem AgreeOn.resolve_eq (h : AgreeOn paths c d) {path : Text} (hPath : path ∈ paths) :
    c.resolve path = d.resolve path := by
  by_cases hEmpty : path = []
  · subst hEmpty
    rw [h.whole hPath]
  · exact h.found path hPath hEmpty

/-! ## 3. Directives and placeholders -/

theorem placeholderText_agreeOn {content : Text} (h : AgreeOn [content.trim] c d) :
    placeholderText content c = placeholderText content d := by
  have hValue : placeholderValue content.trim c = placeholderValue content.trim d := by
    by_cases hEmpty : content.trim = []
    · rw [h.whole (by rw [hEmpty]; exact List.mem_cons_self)]
    · simp only [placeholderValue, if_neg hEmpty]
      exact h.found _ List.mem_cons_self hEmpty
  rw [placeholderText, placeholderText, hValue]

theorem decisionFor_agreeOn {expression : Text}
    (h : AgreeOn [(Condition.ofText expression).path] c d) (tag : Text) :
    decisionFor tag expression c = decisionFor tag expression d := by
  rw [decisionFor, decisionFor, Condition.holds, Condition.holds, h.resolve_eq List.mem_cons_self]

theorem loopContexts_agreeOn {expression : Text} (h : AgreeOn [expression.trim] c d) :
    loopContexts expression c = loopContexts expression d := by
  simp only [loopContexts, h.resolve_eq List.mem_cons_self]

theorem bindPairs_agreeOn {pairs : List (Text × Text)} (h : AgreeOn (pairs.map Prod.snd) c d)
    (attrs : Table Text) : bindPairs c pairs attrs = bindPairs d pairs attrs := by
  induction pairs generalizing attrs with
  | nil => rfl
  | cons pair rest ih =>
    obtain ⟨name, path⟩ := pair
    have hHere : c.resolve path = d.resolve path := h.resolve_eq List.mem_cons_self
    have hRest : AgreeOn (rest.map Prod.snd) c d := h.mono (List.subset_cons_self _ _)
    simp only [bindPairs, hHere, ih hRest]

theorem foundProperties_agreeOn {pairs : List (Text × Text)}
    (h : AgreeOn (pairs.map Prod.snd) c d) : foundProperties c pairs = foundProperties d pairs := by
  induction pairs with
  | nil => rfl
  | cons pair rest ih =>
    obtain ⟨name, path⟩ := pair
    have hHere : c.resolve path = d.resolve path := h.resolve_eq List.mem_cons_self
    have hRest : AgreeOn (rest.map Prod.snd) c d := h.mono (List.subset_cons_self _ _)
    simp only [foundProperties, hHere, ih hRest]

theorem bindAttrs_agreeOn {binding : Text} (h : AgreeOn ((pairsOf binding).map Prod.snd) c d)
    (attrs : Table Text) : bindAttrs binding c attrs = bindAttrs binding d attrs :=
  bindPairs_agreeOn h attrs

theorem bindStyle_agreeOn {binding : Text} (h : AgreeOn ((pairsOf binding).map Prod.snd) c d)
    (attrs : Table Text) : bindStyle binding c attrs = bindStyle binding d attrs := by
  rw [bindStyle, bindStyle, foundProperties_agreeOn h]

/-! ## 4. Elements and trees -/

variable {σ : Type} {openings : List Text} {included : Text → Value → Rendering σ (List Node)}

/-- Under a condition only a placeholder is unwrapped, and only another
element is kept. -/
theorem tag_of_decisionFor {tag expression : Text} {decision : Decision}
    (h : decisionFor tag expression c = .ok decision) :
    (decision = .unwrap → tag = placeholderTag) ∧ (decision = .keep → tag ≠ placeholderTag) := by
  have hOutcome := outcomes_decisionFor tag expression c
  rw [h] at hOutcome
  cases hOutcome with
  | ok hDecision => exact hDecision.2

/-- What comes after a result matters for that result only. -/
theorem ofExcept_bind_congr {ε α β : Type} {wrap : ε → RenderError} {x : Except ε α}
    {f g : α → Rendering σ β} (h : ∀ a, x = .ok a → f a = g a) :
    (Rendering.ofExcept wrap x >>= f) = (Rendering.ofExcept wrap x >>= g) := by
  cases x with
  | error e => rfl
  | ok a => rw [Rendering.ofExcept, pure_bind, pure_bind, h a rfl]

theorem renderElement_agreeOn {tag content : Text} {below : List Text}
    {inside : Value → Rendering σ (List Node)}
    (hInside : ∀ c d, AgreeOn below c d → inside c = inside d) (directives : List Directive)
    (hInclusion : ∀ directive ∈ directives, directive.kind ≠ .inclusion) (attrs : Table Text)
    (h : AgreeOn (readsOfElement tag content below directives) c d) :
    renderElement included tag content inside directives attrs c
      = renderElement included tag content inside directives attrs d := by
  induction directives generalizing attrs with
  | nil =>
    unfold renderElement
    unfold readsOfElement at h
    split
    · next hTag =>
      rw [if_pos hTag] at h
      rw [placeholderText_agreeOn h]
    · next hTag =>
      rw [if_neg hTag] at h
      rw [hInside c d h]
  | cons directive rest ih =>
    obtain ⟨hHere, hInclusion⟩ := List.forall_mem_cons.1 hInclusion
    unfold renderElement
    unfold readsOfElement at h
    cases hKind : directive.kind with
    | inclusion => exact absurd hKind hHere
    | condition =>
      simp only [hKind] at h ⊢
      rw [decisionFor_agreeOn (h.mono (by simp)) tag]
      refine ofExcept_bind_congr fun decision hDecision => ?_
      have hRest := h.mono (List.subset_cons_self _ _)
      obtain ⟨hUnwrap, hKeep⟩ := tag_of_decisionFor hDecision
      cases decision with
      | drop => rfl
      | unwrap =>
        rw [if_pos (hUnwrap rfl)] at hRest
        exact hInside c d hRest
      | keep =>
        rw [if_neg (hKeep rfl)] at hRest
        exact ih hInclusion _ hRest
    | loop =>
      simp only [hKind] at h ⊢
      rw [loopContexts_agreeOn h]
    | style =>
      simp only [hKind] at h ⊢
      rw [bindStyle_agreeOn h.left]
      exact congrArg _ (funext fun bound => ih hInclusion bound h.right)
    | attr =>
      simp only [hKind] at h ⊢
      rw [bindAttrs_agreeOn h.left]
      exact congrArg _ (funext fun bound => ih hInclusion bound h.right)

theorem renderNodes_agreeOn_of_mem {nodes : List Node}
    (hNodes : ∀ node ∈ nodes, ∀ c d, AgreeOn (node.reads openings) c d →
      renderNode openings included node c = renderNode openings included node d)
    (h : AgreeOn (Node.readsOfAll openings nodes) c d) :
    renderNodes openings included nodes c = renderNodes openings included nodes d := by
  induction nodes with
  | nil => rfl
  | cons node rest ih =>
    obtain ⟨hNode, hNodes⟩ := List.forall_mem_cons.1 hNodes
    rw [Node.readsOfAll] at h
    rw [renderNodes, renderNodes, hNode c d h.left, ih hNodes h.right]

/-- Whether no inclusion stands on a node. -/
def Node.WithoutInclusion (openings : List Text) (node : Node) : Prop :=
  ∀ directive ∈ directivesOf openings node, directive.kind ≠ .inclusion

/-- A row of trees. -/
theorem renderNodes_agreeOn {nodes : List Node}
    (hInclusion : Everywhere (Node.WithoutInclusion openings) nodes)
    (h : AgreeOn (Node.readsOfAll openings nodes) c d) :
    renderNodes openings included nodes c = renderNodes openings included nodes d := by
  refine renderNodes_agreeOn_of_mem (hInclusion.induct fun label attrs children hHere ih => ?_) h
  intro c d h
  cases label with
  | element tag =>
    have hNone : directiveOf? openings attrs .inclusion = none := by
      cases hDirective : directiveOf? openings attrs .inclusion with
      | none => rfl
      | some directive =>
        exact absurd (directiveOf?_eq hDirective).1 (hHere _ (mem_directivesAmong hDirective))
    have hReads := reads_element hNone tag children
    rw [Node.element] at hReads
    rw [hReads] at h
    rw [renderNode, renderNode]
    exact renderElement_agreeOn (fun c d h => renderNodes_agreeOn_of_mem ih h) _ hHere attrs h
  | text content => rfl
  | comment content => rfl
  | doctype content => rfl
  | fragment => rfl

/-- Two values of which all paths that a template reads find the same are
rendered alike: with the same end from each state of the source. An inclusion
would read what its partial names, so there is none. The empty path asks for
more than the others: in a placeholder it is the entry `_value` of the context,
if there is one, so where it is read the values are the same. -/
theorem render_agreeOn (settings : Settings) (source : Option (Source σ)) {template : Node}
    (hInclusion : ∀ node ∈ Node.subtreesOfAll template.children,
      ∀ directive ∈ directivesOf settings.openings node, directive.kind ≠ .inclusion)
    {data data' : Value}
    (hFound : ∀ path ∈ Node.readsOfAll settings.openings template.children, path ≠ [] →
      data.resolve path = data'.resolve path)
    (hWhole : [] ∈ Node.readsOfAll settings.openings template.children → data = data') :
    render settings source template data = render settings source template data' := by
  unfold render
  split
  · rfl
  · rw [renderWithin_eq, renderWithin_eq]
    exact renderNodes_agreeOn hInclusion ⟨hFound, hWhole⟩

/-- A name that stands outside of a loop as well, where the loop does not see
it, and a negated condition on a path that finds nothing. -/
theorem render_agreeOn_list :
    let template : Node := .fragment [
      .element "h1" [("if", "! off"), ("style", "color:hue")] [.element "var" [] [.text " title "]],
      .element "var" [("if", "items.length")] [
        .element "li" [("loop", "items"), ("attr", "id:name")] [.element "var" [] [.text "name"]]]]
    let data (name : Text) : Value := .dict [("title", .str "T"), ("name", .str name),
      ("items", .list [.dict [("name", .str "A")], .dict []])]
    let output : List Node := [.element "h1" [] [.text "T"],
      .element "li" [("id", "A")] [.text "A"], .element "li" [("id", "undefined")] [.text []]]
    let run (v : Value) : Rendering Unit (List Node) := render ⟨[[]], 0, none⟩ none template v
    Node.readsOfAll [[]] template.children = ["off", "hue", "title", "items.length", "items"]
      ∧ data "x" ≠ data "y"
      ∧ (run (data "x")).runFrom () = (.ok output, ())
      ∧ run (data "x") = run (data "y") := by
  intro template data output run
  have hReads : Node.readsOfAll [[]] template.children
      = ["off", "hue", "title", "items.length", "items"] := by decide +kernel
  have hInclusion : ∀ node ∈ Node.subtreesOfAll template.children,
      ∀ directive ∈ directivesOf [[]] node, directive.kind ≠ .inclusion := by decide +kernel
  have hFound : ∀ path ∈ Node.readsOfAll [[]] template.children, path ≠ [] →
      (data "x").resolve path = (data "y").resolve path := by
    rw [hReads]
    decide +kernel
  have hWhole : [] ∈ Node.readsOfAll [[]] template.children → data "x" = data "y" := by
    rw [hReads]
    decide +kernel
  have hRun : (run (data "x")).runFrom () = (.ok output, ()) := by decide +kernel
  exact ⟨hReads, by decide +kernel, hRun,
    render_agreeOn ⟨[[]], 0, none⟩ none hInclusion hFound hWhole⟩

end TreeTemplate
