/-
TreeTemplate.Proofs.Template.Provenance — where the nodes of a page come from.

Every element that is rendered comes from an element of the template or of a
partial that was loaded on the way: it has the same tag, and the names of its
attributes are those that the directives leave and write. Comments,
placeholders and fragments do not come through at all.

A rendering may load partials as it goes on, and what was loaded stays
loaded; so a run is followed by what has been loaded up to its end.

* `Source.recorded` — a source that keeps the texts it has given.
* `Rendering.Yields` — what holds at the end of a run that succeeds.
* `Node.Rendered` — a node that has come through.
* `yields_renderElement`, `yields_renderNode`, `yields_includedWithin` —
  elements, trees and inclusions.
* `render_provenance` — the whole rendering.
-/
import TreeTemplate.Proofs.Markup.WellFormed
import TreeTemplate.Proofs.Template.Likeness
import TreeTemplate.Proofs.Template.Rewriting

namespace TreeTemplate

/-! ## 1. Sources that keep what they give -/

variable {σ α β : Type}

/-- The source with a list of the texts it has given, the latest last. -/
def Source.recorded (source : Source σ) : Source (σ × List Text) where
  load name state :=
    let (answer, next) := source.load name state.1
    (answer, (next, match answer with
      | .ok t => state.2 ++ [t]
      | .error _ => state.2))

/-- What a request of such a source adds. -/
theorem ask_recorded (source : Source σ) (name : Text) (s : σ × List Text) :
    (ask source.recorded name).runFrom s =
      match (ask source name).runFrom s.1 with
      | (.ok t, next) => (.ok t, (next, s.2 ++ [t]))
      | (.error e, next) => (.error e, (next, s.2)) := by
  simp only [ask, Rendering.runFrom, Source.recorded, ExceptT.mk]
  cases (source.load name s.1).1 <;> rfl

open Rendering (Matches)

/-- The record makes no difference to what is fetched. -/
theorem matches_fetch_recorded (settings : Settings) (source : Option (Source σ))
    (chain : List Text) (name : Text) :
    Matches (fun s t => t.1 = s) (fun _ => False)
      (fun root root' => root = root' ∧ Everywhere Likeness.same.Fits root.children)
      (fetch settings source chain name)
      (fetch settings (source.map Source.recorded) chain name) := by
  cases source with
  | none => exact .throw _
  | some source =>
    have hAsk : Matches (fun s t => t.1 = s) (fun _ => False) Eq (ask source name)
        (ask source.recorded name) := by
      rintro s t rfl
      rw [ask_recorded]
      obtain ⟨answer, next⟩ := (ask source name).runFrom t.1
      cases answer with
      | ok text => exact .ok rfl rfl
      | error e => exact .error rfl
    exact matches_fetch Likeness.same (fun _ _ root _ _ => Likeness.same_fits root.children)
      hAsk chain

/-! ## 2. Runs that succeed -/

/-- What holds of the texts that have been loaded and of the result, if a run
succeeds. -/
def Rendering.Yields (x : Rendering (σ × List Text) α) (s : σ × List Text)
    (holds : List Text → α → Prop) : Prop :=
  ∀ a s', x.runFrom s = (.ok a, s') → s.2 ⊆ s'.2 ∧ holds s'.2 a

open Rendering (Yields)

variable {s : σ × List Text} {holds : List Text → α → Prop} {holds' : List Text → β → Prop}

theorem yields_pure {a : α} (h : holds s.2 a) : Yields (pure a) s holds := by
  rintro _ _ hRun
  cases hRun
  exact ⟨List.Subset.refl _, h⟩

theorem yields_throw (e : RenderError) : Yields (throw e) s holds := by
  intro a s' hRun
  cases hRun

/-- A step after another, which starts with what was loaded before. -/
theorem yields_bind {x : Rendering (σ × List Text) α} {f : α → Rendering (σ × List Text) β}
    (h : Yields x s holds)
    (hNext : ∀ a s', s.2 ⊆ s'.2 → holds s'.2 a → Yields (f a) s' holds') :
    Yields (x >>= f) s holds' := by
  intro b s'' hRun
  rw [Rendering.runFrom_bind] at hRun
  cases hFirst : x.runFrom s with
  | mk result s' =>
    rw [hFirst] at hRun
    cases result with
    | error e => cases hRun
    | ok a =>
      obtain ⟨hGrows, hHolds⟩ := h a s' hFirst
      obtain ⟨hGrows', hEnd⟩ := hNext a s' hGrows hHolds b s'' hRun
      exact ⟨List.Subset.trans hGrows hGrows', hEnd⟩

theorem yields_ofExcept {ε : Type} (wrap : ε → RenderError) (x : Except ε α) :
    Yields (Rendering.ofExcept wrap x) s fun _ a => x = .ok a := by
  cases x with
  | error e => exact yields_throw _
  | ok a => exact yields_pure rfl

/-! ## 3. Nodes -/

/-- Whether a node stands in the template, or in a partial that was loaded. -/
def Original (template : Node) (loaded : List Text) (node : Node) : Prop :=
  node ∈ template.subtrees
    ∨ ∃ t ∈ loaded, ∃ root, parseMarkup t.trim = .ok root ∧ node ∈ root.subtrees

/-- A node that has come through: neither a comment nor a placeholder nor a
fragment, and if it is an element, it comes from an original one. -/
structure Node.Rendered (openings : List Text) (template : Node) (loaded : List Text)
    (node : Node) : Prop where
  comment : ∀ content, node.label ≠ .comment content
  fragment : node.label ≠ .fragment
  placeholder : node.label ≠ .element placeholderTag
  derives : node.isElement = true →
    ∃ original, Original template loaded original ∧ Derives openings original node

/-- Nodes that have come through, at every depth. -/
def AllRendered (openings : List Text) (template : Node) (loaded : List Text)
    (nodes : List Node) : Prop :=
  Everywhere (Node.Rendered openings template loaded) nodes

variable {openings : List Text} {template : Node} {loaded loaded' known : List Text}

theorem Original.mono {node : Node} (h : Original template loaded node)
    (hGrows : loaded ⊆ loaded') : Original template loaded' node := by
  rcases h with hTemplate | ⟨t, hMem, hRoot⟩
  · exact .inl hTemplate
  · exact .inr ⟨t, hGrows hMem, hRoot⟩

theorem AllRendered.mono {nodes : List Node} (h : AllRendered openings template loaded nodes)
    (hGrows : loaded ⊆ loaded') : AllRendered openings template loaded' nodes :=
  Everywhere.imp h fun _ hNode => ⟨hNode.comment, hNode.fragment, hNode.placeholder,
    fun hElement => by
      obtain ⟨original, hOriginal, hDerives⟩ := hNode.derives hElement
      exact ⟨original, hOriginal.mono hGrows, hDerives⟩⟩

/-- Texts and document types come through as they are. -/
theorem allRendered_leaf {label : Label} {attrs : Table Text}
    (hComment : ∀ content, label ≠ .comment content) (hFragment : label ≠ .fragment)
    (hElement : ∀ tag, label ≠ .element tag) :
    AllRendered openings template loaded [.mk label attrs []] := by
  refine everywhere_singleton.2
    ⟨⟨hComment, hFragment, hElement placeholderTag, fun hIs => ?_⟩, everywhere_nil⟩
  cases label with
  | element tag => exact absurd rfl (hElement tag)
  | _ => cases hIs

theorem allRendered_text (t : Text) : AllRendered openings template loaded [.text t] :=
  allRendered_leaf (by simp) (by simp) (by simp)

/-- Renders for each context. -/
theorem yields_renderEach {body : Value → Rendering (σ × List Text) (List Node)}
    (hBody : ∀ c s, known ⊆ s.2 → Yields (body c) s (AllRendered openings template))
    (contexts : List Value) (hKnown : known ⊆ s.2) :
    Yields (renderEach body contexts) s (AllRendered openings template) := by
  induction contexts generalizing s with
  | nil => exact yields_pure everywhere_nil
  | cons c rest ih =>
    refine yields_bind (hBody c s hKnown) fun nodes s' hGrows hNodes => ?_
    refine yields_bind (ih (List.Subset.trans hKnown hGrows)) fun more s'' hGrows' hMore => ?_
    exact yields_pure (everywhere_append.2 ⟨hNodes.mono hGrows', hMore⟩)

/-- An element on which directives have still to act, if what they can make
of it has come through. -/
theorem yields_renderElement {included : Text → Value → Rendering (σ × List Text) (List Node)}
    (hIncluded : ∀ name c s, Yields (included name c) s (AllRendered openings template))
    {tag content : Text} {inside : Value → Rendering (σ × List Text) (List Node)}
    (hInside : ∀ c s, known ⊆ s.2 → Yields (inside c) s (AllRendered openings template))
    (directives : List Directive) {attrs : Table Text}
    (hDone : tag ≠ placeholderTag → ∀ final, Rewrites directives attrs final →
      ∀ loaded children, known ⊆ loaded → AllRendered openings template loaded children →
        AllRendered openings template loaded [.element tag final children])
    (c : Value) (hKnown : known ⊆ s.2) :
    Yields (renderElement included tag content inside directives attrs c) s
      (AllRendered openings template) := by
  induction directives generalizing attrs c s with
  | nil =>
    unfold renderElement
    split
    · exact yields_bind (yields_ofExcept _ _) fun t s' _ _ => yields_pure (allRendered_text t)
    · next hTag =>
      refine yields_bind (hInside c s hKnown) fun children s' hGrows hChildren => yields_pure ?_
      exact hDone hTag attrs (.nil attrs) s'.2 children (List.Subset.trans hKnown hGrows) hChildren
  | cons directive rest ih =>
    unfold renderElement
    split
    · exact hIncluded _ _ _
    · next hKind =>
      refine yields_bind (yields_ofExcept _ _) fun decision s' hGrows _ => ?_
      cases decision with
      | drop => exact yields_pure everywhere_nil
      | unwrap => exact hInside c s' (List.Subset.trans hKnown hGrows)
      | keep =>
        refine ih (fun hTag final hFinal => hDone hTag final ?_) c (List.Subset.trans hKnown hGrows)
        exact .plain (by rw [hKind]; decide) (by rw [hKind]; decide) hFinal
    · next hKind =>
      refine yields_bind (yields_ofExcept _ _) fun contexts s' hGrows _ => ?_
      refine yields_renderEach (fun c s hKnown => ?_) contexts (List.Subset.trans hKnown hGrows)
      refine ih (fun hTag final hFinal => hDone hTag final ?_) c hKnown
      exact .plain (by rw [hKind]; decide) (by rw [hKind]; decide) hFinal
    · next hKind =>
      refine yields_bind (yields_ofExcept _ _) fun bound s' hGrows hBound => ?_
      refine ih (fun hTag final hFinal => hDone hTag final ?_) c (List.Subset.trans hKnown hGrows)
      exact .style hKind hBound hFinal
    · next hKind =>
      refine yields_bind (yields_ofExcept _ _) fun bound s' hGrows hBound => ?_
      refine ih (fun hTag final hFinal => hDone hTag final ?_) c (List.Subset.trans hKnown hGrows)
      exact .attr hKind hBound hFinal

/-! ## 4. Trees -/

/-- A node of a tree that is rendered: as a tree that is read has it, in the
template or in a partial that was loaded. -/
structure Known (template : Node) (loaded : List Text) (node : Node) : Prop where
  shape : node.WellFormed
  original : Original template loaded node

variable {included : Text → Value → Rendering (σ × List Text) (List Node)}

theorem yields_renderNodes_of_mem {nodes : List Node}
    (h : ∀ node ∈ nodes, ∀ c s, known ⊆ s.2 →
      Yields (renderNode openings included node c) s (AllRendered openings template))
    (c : Value) (hKnown : known ⊆ s.2) :
    Yields (renderNodes openings included nodes c) s (AllRendered openings template) := by
  induction nodes generalizing s with
  | nil => exact yields_pure everywhere_nil
  | cons node rest ih =>
    obtain ⟨hNode, hRest⟩ := List.forall_mem_cons.1 h
    refine yields_bind (hNode c s hKnown) fun nodes s' hGrows hNodes => ?_
    refine yields_bind (ih hRest (List.Subset.trans hKnown hGrows)) fun more s'' hGrows' hMore => ?_
    exact yields_pure (everywhere_append.2 ⟨hNodes.mono hGrows', hMore⟩)

theorem yields_renderNode
    (hIncluded : ∀ name c s, Yields (included name c) s (AllRendered openings template))
    (node : Node) (hNode : Everywhere (Known template known) [node]) (c : Value)
    (s : σ × List Text) (hKnown : known ⊆ s.2) :
    Yields (renderNode openings included node c) s (AllRendered openings template) := by
  induction node using Node.induct generalizing c s with
  | step label attrs children ih =>
    obtain ⟨⟨hShape, hOriginal⟩, hBelow⟩ := everywhere_singleton.1 hNode
    have hLeaf (hRender : renderNode openings included (.mk label attrs children) c
        = pure [.mk label attrs children])
        (hNode : ∀ loaded, AllRendered openings template loaded [.mk label attrs children]) :
        Yields (renderNode openings included (.mk label attrs children) c) s
          (AllRendered openings template) := by
      rw [hRender]
      exact yields_pure (hNode _)
    cases label with
    | element tag =>
      have hInside (c : Value) (s : σ × List Text) (hKnown : known ⊆ s.2) :
          Yields (renderNodes openings included children c) s (AllRendered openings template) :=
        yields_renderNodes_of_mem (fun child hChild => ih child hChild
          (everywhere_singleton.2 (hBelow.of_mem hChild))) c hKnown
      unfold renderNode
      refine yields_renderElement hIncluded hInside _ (fun hTag final hFinal loaded nodes hLoaded
        hNodes => ?_) c hKnown
      obtain ⟨hDistinct, hNames⟩ := hFinal.names (ordered_directivesAmong openings attrs) hShape.1
      refine everywhere_singleton.2 ⟨⟨by simp [Node.element, Node.label],
        by simp [Node.element, Node.label], fun hLabel => ?_, fun _ => ?_⟩, hNodes⟩
      · exact hTag (Label.element.inj hLabel)
      · exact ⟨_, hOriginal.mono hLoaded, rfl, rfl, hDistinct, hNames⟩
    | text content =>
      obtain ⟨_, _, rfl⟩ := hShape
      exact hLeaf rfl fun _ => allRendered_leaf (by simp) (by simp) (by simp)
    | comment content => exact yields_pure everywhere_nil
    | doctype content =>
      obtain ⟨_, rfl⟩ := hShape
      exact hLeaf rfl fun _ => allRendered_leaf (by simp) (by simp) (by simp)
    | fragment => exact hShape.elim

theorem yields_renderNodes
    (hIncluded : ∀ name c s, Yields (included name c) s (AllRendered openings template))
    {nodes : List Node} (hNodes : Everywhere (Known template known) nodes) (c : Value)
    (hKnown : known ⊆ s.2) :
    Yields (renderNodes openings included nodes c) s (AllRendered openings template) :=
  yields_renderNodes_of_mem (fun node hNode => yields_renderNode hIncluded node
    (everywhere_singleton.2 (hNodes.of_mem hNode))) c hKnown

/-! ## 5. Inclusions -/

/-- The nodes of a tree that is read. -/
theorem known_of_parseMarkup {t : Text} {root : Node} (h : parseMarkup t = .ok root)
    (hOriginal : ∀ node ∈ root.subtrees, Original template loaded node) :
    Everywhere (Known template loaded) root.children := by
  intro node hNode
  refine ⟨(wellFormed_parseMarkup h).1 node hNode, hOriginal node ?_⟩
  rw [Node.subtrees_eq]
  exact List.mem_cons_of_mem _ hNode

/-- A partial that is fetched has been loaded. -/
theorem yields_fetch {settings : Settings} (hParser : settings.parser = some parseMarkup)
    (source : Option (Source σ)) (chain : List Text) (name : Text) (s : σ × List Text) :
    Yields (fetch settings (source.map Source.recorded) chain name) s
      fun loaded root => ∃ t ∈ loaded, parseMarkup t.trim = .ok root := by
  unfold fetch
  cases source with
  | none => exact yields_throw _
  | some source =>
    simp only [Option.map, hParser]
    by_cases hFull : settings.maxDepth ≤ chain.length
    · rw [if_pos hFull]
      exact yields_throw _
    · rw [if_neg hFull]
      have hAsk : Yields (ask source.recorded name) s fun loaded t => t ∈ loaded := by
        intro t s' hRun
        rw [ask_recorded] at hRun
        split at hRun
        · cases hRun
          exact ⟨List.subset_append_left _ _, List.mem_append_right _ List.mem_cons_self⟩
        · cases hRun
      refine yields_bind hAsk fun t s' _ hMem => ?_
      intro root s'' hRun
      obtain ⟨hGrows, hParse⟩ := yields_ofExcept _ _ root s'' hRun
      exact ⟨hGrows, t, hGrows hMem, hParse⟩

theorem yields_includedWithin {settings : Settings}
    (hParser : settings.parser = some parseMarkup) (source : Option (Source σ)) (remaining : Nat)
    (chain : List Text) (name : Text) (c : Value) (s : σ × List Text) :
    Yields (includedWithin settings (source.map Source.recorded) remaining chain name c) s
      (AllRendered settings.openings template) := by
  induction remaining generalizing chain name c s with
  | zero =>
    exact yields_bind (yields_fetch hParser source chain name s) fun _ _ _ _ =>
      yields_pure everywhere_nil
  | succ remaining ih =>
    refine yields_bind (yields_fetch hParser source chain name s) fun root s' _ hLoaded => ?_
    obtain ⟨t, hMem, hParse⟩ := hLoaded
    dsimp only
    rw [renderWithin_eq]
    refine yields_renderNodes (ih (chain ++ [name])) (known_of_parseMarkup hParse
      fun node hNode => .inr ⟨t, hMem, root, hParse, hNode⟩) c (List.Subset.refl _)

/-- Whatever the data, the openings, the limit of inclusions and the source
are: what is rendered has come through, from the template or from the
partials whose texts the source gave in that run. The template is one that was
read, like the partials: a fragment inside a tree, which reading never gives,
would be handed on with all that is in it. -/
theorem render_provenance {markup : Text} {template : Node}
    (hTemplate : parseMarkup markup = .ok template) {openings : List Text} {maxDepth : Int}
    {source : Option (Source σ)} {data : Value} {s s' : σ} {output : List Node}
    (hRender : (render ⟨openings, maxDepth, some parseMarkup⟩ source template data).runFrom s
      = (.ok output, s')) :
    ∃ loaded, (render ⟨openings, maxDepth, some parseMarkup⟩ (source.map Source.recorded) template
        data).runFrom (s, []) = (.ok output, (s', loaded))
      ∧ ∀ node ∈ Node.subtreesOfAll output, Node.Rendered openings template loaded node := by
  have hOpenings : openings ≠ [] := by
    rintro rfl
    cases hRender
  have hRoom : maxDepth ≤ ([] : List Text).length + maxDepth.toNat := by
    simp only [List.length_nil]
    omega
  have hSame : Matches (fun s t => t.1 = s) (fun _ => False) Eq
      (renderWithin ⟨openings, maxDepth, some parseMarkup⟩ source maxDepth.toNat []
        template.children data)
      (renderWithin ⟨openings, maxDepth, some parseMarkup⟩ (source.map Source.recorded)
        maxDepth.toNat [] template.children data) :=
    matches_renderWithin Likeness.same chains_eq rfl (Int.le_refl _)
      (fun chain _ name hChain => hChain ▸ matches_fetch_recorded _ source chain name) rfl hRoom
      hRoom (Likeness.same_fits _) rfl
  have hEnds := hSame s (s, []) rfl
  rw [render, if_neg hOpenings] at hRender ⊢
  rw [hRender] at hEnds
  obtain ⟨_, ⟨_, loaded⟩, hRun, rfl, rfl⟩ := hEnds.of_ok
  refine ⟨loaded, hRun, ?_⟩
  have hKnown : Everywhere (Known template []) template.children :=
    known_of_parseMarkup hTemplate fun node hNode => .inl hNode
  rw [renderWithin_eq] at hRun
  have hIncluded : ∀ name c s, Yields
      (includedWithin ⟨openings, maxDepth, some parseMarkup⟩ (source.map Source.recorded)
        maxDepth.toNat [] name c) s (AllRendered openings template) :=
    yields_includedWithin rfl source maxDepth.toNat []
  exact (yields_renderNodes hIncluded hKnown data (List.nil_subset _) _ _ hRun).2

/-- A page with a condition, both bindings, a comment and an inclusion. -/
theorem render_provenance_bindings :
    let template : Node := .fragment [
      .element "div" [("if", "a"), ("style", "color:c"), ("attr", "id:b"), ("class", "x")]
        [.comment "c", .element "var" [] [.text "b"]],
      .element "p" [("include", "row")] []]
    let source : Source Unit := ⟨fun _ state => (.ok "<b title=t>!</b>", state)⟩
    let data : Value := .dict [("a", .bool true), ("b", .str "k"), ("c", .str "red")]
    let output : List Node := [
      .element "div" [("class", "x"), ("style", "color: red;"), ("id", "k")] [.text "k"],
      .element "b" [("title", "t")] [.text "!"]]
    (render ⟨[[]], 2, some parseMarkup⟩ (some source) template data).runFrom () = (.ok output, ())
      ∧ ∃ loaded, (render ⟨[[]], 2, some parseMarkup⟩ ((some source).map Source.recorded) template
          data).runFrom ((), []) = (.ok output, ((), loaded))
        ∧ ∀ node ∈ Node.subtreesOfAll output, Node.Rendered [[]] template loaded node := by
  intro template source data output
  have hTemplate : parseMarkup (("<div if=a style=color:c attr=id:b class=x>" : Text) ++
      ("<!--c--><var>b</var></div><p include=row>" : Text)) = .ok template := by decide +kernel
  have hRender : (render ⟨[[]], 2, some parseMarkup⟩ (some source) template data).runFrom ()
      = (.ok output, ()) := by decide +kernel
  exact ⟨hRender, render_provenance hTemplate hRender⟩

end TreeTemplate
