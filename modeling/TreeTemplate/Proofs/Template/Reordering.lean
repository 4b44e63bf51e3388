/-
TreeTemplate.Proofs.Template.Reordering — attributes in another order.

Directives are found by their names and act in an order of their own, so the
order in which the attributes of an element stand decides nothing but the
order in which they come out. What is written into attributes stands in the
place of the old value or at the end, and in both cases the entries are the
same in any order.

* `Table.Reordered` — the same entries of distinct names; it is kept where
  entries are written or taken away.
* `Node.Reordered` — the same tree with attributes in another order.
* `Likeness.reordered` — the likeness of such trees.
* `render_reordered` — the same requests, and the same nodes but for the
  order of attributes.
-/
import TreeTemplate.Proofs.Table
import TreeTemplate.Proofs.Template.Likeness

namespace TreeTemplate

/-! ## 1. Tables -/

/-- The same table, or one of distinct names with its entries in another
order. -/
inductive Table.Reordered {α : Type} : Table α → Table α → Prop where
  | same (a : Table α) : Reordered a a
  | moved {a b : Table α} : a.names.Nodup → a.Perm b → Reordered a b

namespace Table.Reordered

variable {α : Type} {a b : Table α}

theorem get?_eq (h : Reordered a b) (name : Text) : a.get? name = b.get? name := by
  cases h with
  | same => rfl
  | moved hNodup hPerm =>
    have hNodup' : b.names.Nodup := (hPerm.map Prod.fst).nodup_iff.1 hNodup
    refine Option.ext fun value => ?_
    rw [get?_eq_some_iff hNodup, get?_eq_some_iff hNodup', hPerm.mem_iff]

theorem has_eq (h : Reordered a b) (name : Text) : a.has name = b.has name := by
  cases h with
  | same => rfl
  | moved _ hPerm =>
    rw [Bool.eq_iff_iff, has_eq_true_iff, has_eq_true_iff]
    exact (hPerm.map Prod.fst).mem_iff

theorem erase (h : Reordered a b) (name : Text) : Reordered (a.erase name) (b.erase name) := by
  cases h with
  | same => exact .same _
  | moved hNodup hPerm => exact .moved (nodup_names_erase hNodup name) (hPerm.filter _)

theorem put (h : Reordered a b) (name : Text) (value : α) :
    Reordered (a.put name value) (b.put name value) := by
  have hHas := h.has_eq name
  cases h with
  | same => exact .same _
  | moved hNodup hPerm =>
    refine .moved (nodup_names_put hNodup name value) ?_
    unfold Table.put
    rw [hHas]
    split
    · exact hPerm.map _
    · exact hPerm.append_right _

end Table.Reordered

/-! ## 2. Directives -/

section Directives

variable {a b : Table Text}

/-- The directives of an element do not depend on the order of attributes. -/
theorem Table.Reordered.directivesAmong_eq (h : a.Reordered b) (openings : List Text) :
    directivesAmong openings a = directivesAmong openings b := by
  have hKind : directiveOf? openings a = directiveOf? openings b := by
    funext kind
    simp only [directiveOf?, h.get?_eq]
  rw [directivesAmong, directivesAmong, hKind]

theorem Table.Reordered.bindPairs (h : a.Reordered b) (context : Value)
    (pairs : List (Text × Text)) :
    Outcomes Table.Reordered (bindPairs context pairs a) (bindPairs context pairs b) := by
  induction pairs generalizing a b with
  | nil => exact .ok h
  | cons pair rest ih =>
    obtain ⟨name, path⟩ := pair
    unfold bindPairs
    cases context.resolve path with
    | ok found => exact ih (h.put name found.toText)
    | error e => exact .error e

theorem Table.Reordered.bindStyle (h : a.Reordered b) (binding : Text) (context : Value) :
    Outcomes Table.Reordered (bindStyle binding context a) (bindStyle binding context b) := by
  have hFound : Outcomes Eq (foundProperties context (pairsOf binding))
      (foundProperties context (pairsOf binding)) := .refl (fun _ => rfl) _
  refine hFound.map ?_
  rintro properties _ rfl
  split
  · exact h
  · rw [h.get?_eq]
    exact h.put _ _

end Directives

/-! ## 3. Trees -/

/-- The same tree, with the attributes of elements in another order. -/
inductive Node.Reordered : Node → Node → Prop where
  | mk (label : Label) {attrs attrs' : Table Text} {children children' : List Node} :
    attrs.Reordered attrs' → List.Forall₂ Reordered children children' →
    Reordered (.mk label attrs children) (.mk label attrs' children')

namespace Node.Reordered

theorem refl (node : Node) : node.Reordered node := by
  induction node using Node.induct with
  | step label attrs children ih => exact .mk label (.same attrs) (List.forall₂_same.2 ih)

theorem children {node node' : Node} (h : node.Reordered node') :
    List.Forall₂ Reordered node.children node'.children := by
  cases h with
  | mk _ _ hChildren => exact hChildren

/-- Induction on two such trees: what passes from the children, one by one,
to the nodes holds of the trees. -/
theorem induct {motive : Node → Node → Prop} {node node' : Node} (h : node.Reordered node')
    (step : ∀ label attrs attrs' children children', Table.Reordered attrs attrs' →
      List.Forall₂ (fun child child' => child.Reordered child' ∧ motive child child')
        children children' →
      motive (.mk label attrs children) (.mk label attrs' children')) : motive node node' := by
  induction node using Node.induct generalizing node' with
  | step label attrs children ih =>
    cases h with
    | mk _ hAttrs hChildren =>
      have hBoth := (List.forall₂_and_left _ _).2 ⟨ih, hChildren⟩
      exact step _ _ _ _ _ hAttrs (hBoth.imp fun child child' hChild =>
        ⟨hChild.2, hChild.1 hChild.2⟩)

theorem textContents_eq {nodes nodes' : List Node}
    (h : List.Forall₂ (fun node node' => node.textContent = node'.textContent) nodes nodes') :
    textContents nodes = textContents nodes' := by
  induction h with
  | nil => rfl
  | cons hHead _ ih => rw [textContents, textContents, hHead, ih]

theorem textContent_eq {node node' : Node} (h : node.Reordered node') :
    node.textContent = node'.textContent := by
  refine induct (motive := fun node node' => node.textContent = node'.textContent) h ?_
  intro label attrs attrs' children children' _ hChildren
  cases label with
  | text content => rw [textContent, textContent]
  | _ => simpa only [textContent] using textContents_eq (hChildren.imp fun _ _ h => h.2)

end Node.Reordered

/-! ## 4. Rendering -/

/-- The likeness of nodes that differ in the order of attributes. -/
def Likeness.reordered : Likeness where
  contexts := Eq
  attrs := Table.Reordered
  nodes := List.Forall₂ Node.Reordered
  content _ := List.Forall₂ Node.Reordered
  attrs_refl := .same
  nodes_refl _ := List.forall₂_same.2 fun node _ => .refl node
  content_refl _ _ := List.forall₂_same.2 fun node _ => .refl node
  append _ _ _ _ h h' := List.rel_append h h'
  element tag _ _ _ _ hAttrs hContent := .cons (.mk (.element tag) hAttrs hContent) .nil
  unwrapped _ _ h := h
  erase _ _ name h := h.erase name
  text := by
    rintro path c _ rfl
    exact .refl (fun t => .cons (.refl _) .nil) _
  decision := Likeness.same.decision
  loop := Likeness.same.loop
  style := by
    rintro v c _ a b rfl h
    exact h.bindStyle v c
  attr := by
    rintro v c _ a b rfl h
    exact h.bindPairs c (pairsOf v)

open Rendering (Matches)

variable {σ : Type} {states : σ → σ → Prop} {excused : RenderError → Prop}

/-- Two trees that differ in the order of attributes. -/
theorem matches_renderNode_reordered {openings : List Text}
    {included included' : Text → Value → Rendering σ (List Node)}
    (hIncluded : ∀ name c d, Likeness.reordered.contexts c d →
      Matches states excused Likeness.reordered.nodes (included name c) (included' name d))
    {node node' : Node} (h : node.Reordered node') (c d : Value)
    (hContexts : Likeness.reordered.contexts c d) :
    Matches states excused Likeness.reordered.nodes (renderNode openings included node c)
      (renderNode openings included' node' d) := by
  refine h.induct (motive := fun node node' => ∀ c d, Likeness.reordered.contexts c d →
    Matches states excused Likeness.reordered.nodes (renderNode openings included node c)
      (renderNode openings included' node' d)) ?_ c d hContexts
  intro label attrs attrs' children children' hAttrs hChildren c d hContexts
  have hReordered := hChildren.imp fun _ _ hChild => hChild.1
  have hMatches := hChildren.imp fun _ _ hChild => hChild.2
  cases label with
  | element tag =>
    have hInside (c d : Value) (hcd : Likeness.reordered.contexts c d) :
        Matches states excused (Likeness.reordered.content tag)
          (renderNodes openings included children c) (renderNodes openings included' children' d) :=
      matches_renderNodes_of_forall₂ Likeness.reordered hMatches hcd
    unfold renderNode
    rw [hAttrs.directivesAmong_eq openings,
      Node.Reordered.textContents_eq (hReordered.imp fun _ _ hChild => hChild.textContent_eq)]
    exact matches_renderElement Likeness.reordered hIncluded hInside _ (fun _ => .inl rfl) hAttrs
      hContexts
  | comment content => exact .pure .nil
  | _ => exact .pure (.cons (.mk _ hAttrs hReordered) .nil)

/-- The runs for two such trees. What is included is the same on both sides. -/
theorem matches_render_reordered (settings : Settings) (source : Option (Source σ))
    {template template' : Node} (h : template.Reordered template') (data : Value) :
    Matches Eq (fun _ => False) (List.Forall₂ Node.Reordered)
      (render settings source template data) (render settings source template' data) := by
  unfold render
  split
  · exact .throw _
  · rw [renderWithin_eq, renderWithin_eq]
    refine matches_renderNodes_of_forall₂ Likeness.reordered (h.children.imp fun _ _ hChild =>
      matches_renderNode_reordered (fun name c d hContexts => ?_) hChild) rfl
    cases hContexts
    refine (Matches.refl _).imp ?_
    rintro nodes _ rfl
    exact Likeness.reordered.nodes_refl nodes

/-- Trees that differ in the order of attributes ask for the same partials
in the same order, whatever these are, and either fail in the same way or
give nodes that differ in the order of attributes. -/
theorem render_reordered (settings : Settings) (source : Option (Source σ))
    {template template' : Node} (h : template.Reordered template') (data : Value) (state : σ) :
    let run (template : Node) : Except RenderError (List Node) × (σ × List Text) :=
      (render settings (source.map Source.logged) template data).runFrom (state, [])
    (run template).2 = (run template').2
      ∧ Outcomes (List.Forall₂ Node.Reordered) (run template).1 (run template').1 := by
  intro run
  have hRuns := matches_render_reordered settings (source.map Source.logged) h data (state, [])
    (state, []) rfl
  change Agrees _ _ _ (run template) (run template') at hRuns
  generalize run template = first at hRuns ⊢
  generalize run template' = second at hRuns ⊢
  cases hRuns with
  | ok hNodes hStates => exact ⟨hStates, .ok hNodes⟩
  | error hStates => exact ⟨hStates, .error _⟩
  | excused hNever => exact hNever.elim

/-- An element with static and bound attributes and properties, around an
inclusion. -/
theorem render_reordered_bound :
    let source : Source Unit := ⟨fun _ state => (.ok "N", state)⟩
    let template : Node := .fragment [.element "p" [("title", "t"), ("style", "color: red"),
      ("data-style", "top: a"), ("attr", "id: a | title: b")]
        [.element "i" [("class", "c"), ("include", "n")] []]]
    let template' : Node := .fragment [.element "p" [("attr", "id: a | title: b"),
      ("style", "color: red"), ("title", "t"), ("data-style", "top: a")]
        [.element "i" [("include", "n"), ("class", "c")] []]]
    let run (template : Node) : Except RenderError (List Node) × (Unit × List Text) :=
      (render ⟨["data-", []], 4, some parseMarkup⟩ (some source.logged) template
        (.dict [("a", .str "1"), ("b", .str "2")])).runFrom ((), [])
    template.Reordered template'
      ∧ (run template).1 = .ok [.element "p" [("title", "2"), ("style", "color: red; top: 1;"),
        ("id", "1")] [.text "N"]]
      ∧ (run template').1 = .ok [.element "p" [("style", "color: red; top: 1;"), ("title", "2"),
        ("id", "1")] [.text "N"]]
      ∧ (run template).2 = (run template').2
      ∧ Outcomes (List.Forall₂ Node.Reordered) (run template).1 (run template').1 := by
  intro source template template' run
  have hReordered : template.Reordered template' := by
    refine .mk _ (.same []) (.cons (.mk _ (.moved (by decide) (by decide)) ?_) .nil)
    exact .cons (.mk _ (.moved (by decide) (by decide)) .nil) .nil
  have hRun : (run template).1 = .ok [.element "p" [("title", "2"),
      ("style", "color: red; top: 1;"), ("id", "1")] [.text "N"]] := by decide +kernel
  have hRun' : (run template').1 = .ok [.element "p" [("style", "color: red; top: 1;"),
      ("title", "2"), ("id", "1")] [.text "N"]] := by decide +kernel
  exact ⟨hReordered, hRun, hRun', render_reordered ⟨["data-", []], 4, some parseMarkup⟩
    (some source) hReordered (.dict [("a", .str "1"), ("b", .str "2")]) ()⟩

end TreeTemplate
