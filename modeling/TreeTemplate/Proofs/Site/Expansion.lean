/-
TreeTemplate.Proofs.Site.Expansion — documents without templates left
(`expand_templates`, specification §12).

Expanding a document takes all its templates away, if neither the contents of
its templates nor the partials that can be loaded bring new ones in: what is
rendered comes from elements of the template or of partials, tag by tag. And
where there is no template, there is nothing to expand. The document stays as
it is, and nothing is asked for.

* `NoTemplate` — rows of trees without templates.
* `Source.Reaches`, `Source.Gives` — what a source can come to, and give.
* `noTemplate_render` — what one template is rendered to.
* `matches_expandChildren` — documents, node by node.
* `expandChildren_eq_self` — documents without templates.
* `expandTemplates_complete` — the main statement.
-/
import TreeTemplate.Proofs.Template.Provenance
import TreeTemplate.Proofs.Template.Requests
import TreeTemplate.Site.Document

namespace TreeTemplate

/-! ## 1. Templates in trees -/

/-- Whether no node of a row of trees, at any depth, is a template. -/
def NoTemplate (nodes : List Node) : Prop :=
  Everywhere (fun node => node.label ≠ .element templateTag) nodes

instance (nodes : List Node) : Decidable (NoTemplate nodes) :=
  inferInstanceAs (Decidable (∀ node ∈ Node.subtreesOfAll nodes, _))

/-- Whether a node, if it is a template, has no template inside. -/
def Node.NestsNone (node : Node) : Prop :=
  node.label = .element templateTag → NoTemplate node.children

instance (node : Node) : Decidable node.NestsNone :=
  inferInstanceAs (Decidable (_ → _))

theorem Node.label_eq_element {node : Node} (h : node.isElement = true) :
    node.label = .element node.tag := by
  obtain ⟨label, attrs, children⟩ := node
  cases label with
  | element tag => rfl
  | _ => cases h

/-- The root of a tree that is read is no template. -/
theorem label_of_parseMarkup {t : Text} {root : Node} (h : parseMarkup t = .ok root) :
    root.label = .fragment := by
  obtain ⟨events, _, rfl⟩ := exists_of_map_eq_ok h
  rfl

/-- A template in a tree whose root is a fragment is below the root. -/
theorem mem_below_of_template {root node : Node} (hRoot : root.label = .fragment)
    (hNode : node ∈ root.subtrees) (hLabel : node.label = .element templateTag) :
    node ∈ Node.subtreesOfAll root.children := by
  rw [Node.subtrees_eq] at hNode
  rcases List.mem_cons.1 hNode with rfl | hBelow
  · rw [hRoot] at hLabel
    cases hLabel
  · exact hBelow

/-! ## 2. What a source can give -/

variable {σ : Type}

/-- The states that a source can come to, from one on. -/
inductive Source.Reaches (source : Source σ) (start : σ) : σ → Prop where
  | start : Reaches source start start
  | request {s : σ} (name : Text) : Reaches source start s →
    Reaches source start (source.load name s).2

/-- Whether a source, from a state on, can give a text. -/
def Source.Gives (source : Source σ) (start : σ) (t : Text) : Prop :=
  ∃ s name, source.Reaches start s ∧ (source.load name s).1 = .ok t

/-- Whether no partial that a source can give has a template in it. -/
def Source.GivesNoTemplate (source : Source σ) (start : σ) : Prop :=
  ∀ t, source.Gives start t → ∀ root, parseMarkup t.trim = .ok root → NoTemplate root.children

open Rendering (Matches Parallel)

variable {settings : Settings} {source : Source σ} {start s s' : σ}

/-- A run with a record of what was loaded. -/
theorem render_recorded {template : Node} {data : Value} {output : List Node}
    (h : (render settings (some source) template data).runFrom s = (.ok output, s')) :
    ∃ loaded, (render settings (some source.recorded) template data).runFrom (s, [])
      = (.ok output, (s', loaded)) := by
  have hRuns : Matches (fun s t => t.1 = s) (fun _ => False) Eq
      (render settings (some source) template data)
      (render settings (some source.recorded) template data) :=
    (parallel_render settings source source.recorded template data).matches _
      fun name s t hState => by
        subst hState
        exact ⟨rfl, rfl⟩
  have hEnds := hRuns s (s, []) rfl
  rw [h] at hEnds
  obtain ⟨_, ⟨_, loaded⟩, hRun, rfl, rfl⟩ := hEnds.of_ok
  exact ⟨loaded, hRun⟩

/-- What a run has loaded, the source could give; and where it ends, the source
has come to. -/
theorem reaches_render_recorded {template : Node} {data : Value} {output : List Node}
    {loaded : List Text} (hReach : source.Reaches start s)
    (h : (render settings (some source.recorded) template data).runFrom (s, [])
      = (.ok output, (s', loaded))) :
    source.Reaches start s' ∧ ∀ t ∈ loaded, source.Gives start t := by
  let going (state : σ × List Text) : Prop :=
    source.Reaches start state.1 ∧ ∀ t ∈ state.2, source.Gives start t
  have hAsk (name : Text) (state : σ × List Text) (hState : going state) :
      EndsIn going (fun _ => True) (source.recorded.load name state) := by
    obtain ⟨hHere, hLoaded⟩ := hState
    simp only [Source.recorded]
    cases hAnswer : (source.load name state.1).1 with
    | error e => exact trivial
    | ok t =>
      exact ⟨.request name hHere, List.forall_mem_append.2
        ⟨hLoaded, List.forall_mem_singleton.2 ⟨state.1, name, hHere, hAnswer⟩⟩⟩
  have hStart : going (s, []) := ⟨hReach, List.forall_mem_nil _⟩
  have hEnds := (parallel_render settings source.recorded source template data).upholds hAsk
    (fun _ _ => trivial) hStart
  rw [h] at hEnds
  exact hEnds

/-! ## 3. One template -/

/-- What a template is rendered to has no template in it, if its content and
the partials have none. -/
theorem noTemplate_render (hParser : settings.parser = some parseMarkup)
    (hSource : source.GivesNoTemplate start) {content : List Node}
    (hShape : Everywhere Node.WellFormed content) (hNone : NoTemplate content)
    (hReach : source.Reaches start s) {data : Value} {output : List Node}
    (h : (render settings (some source) (.fragment content) data).runFrom s = (.ok output, s')) :
    NoTemplate output ∧ source.Reaches start s' := by
  obtain ⟨loaded, hRecorded⟩ := render_recorded h
  obtain ⟨hEnd, hGiven⟩ := reaches_render_recorded hReach hRecorded
  refine ⟨fun node hNode hLabel => ?_, hEnd⟩
  have hOpenings : settings.openings ≠ [] := by
    intro hNil
    rw [render, if_pos hNil] at h
    cases h
  have hKnown : Everywhere (Known (.fragment content) []) content := fun node hNode =>
    ⟨hShape node hNode, .inl (by rw [Node.subtrees_eq]; exact List.mem_cons_of_mem _ hNode)⟩
  have hRendered : AllRendered settings.openings (.fragment content) loaded output := by
    rw [render, if_neg hOpenings, renderWithin_eq] at hRecorded
    exact (yields_renderNodes (yields_includedWithin hParser (some source) _ _) hKnown data
      (List.nil_subset _) _ _ hRecorded).2
  -- The template among the rendered nodes would come from one that is not there.
  have hElement : node.isElement = true := by rw [Node.isElement, hLabel]
  obtain ⟨original, hOriginal, hDerives⟩ := (hRendered node hNode).derives hElement
  have hOriginalLabel : original.label = .element templateTag := by
    have hTag : node.tag = templateTag := by rw [Node.tag, hLabel]
    rw [Node.label_eq_element hDerives.element, ← hDerives.tag, hTag]
  rcases hOriginal with hContent | ⟨t, hMem, root, hParse, hPartial⟩
  · exact hNone original (mem_below_of_template rfl hContent hOriginalLabel) hOriginalLabel
  · exact hSource t (hGiven t hMem) root hParse original
      (mem_below_of_template (label_of_parseMarkup hParse) hPartial hOriginalLabel) hOriginalLabel

/-! ## 4. Documents -/

variable {rendered : List Node → Rendering σ (List Node)} {states : σ → σ → Prop}
  {nodes : List Node}

/-- What comes out of a run without templates, compared with itself. -/
def Cleared (nodes nodes' : List Node) : Prop := nodes = nodes' ∧ NoTemplate nodes

theorem matches_expandChildren_of_mem
    (h : ∀ node ∈ nodes, Matches states (fun _ => True) Cleared
      (expandChild rendered node) (expandChild rendered node)) :
    Matches states (fun _ => True) Cleared
      (expandChildren rendered nodes) (expandChildren rendered nodes) := by
  induction nodes with
  | nil => exact .pure ⟨rfl, everywhere_nil⟩
  | cons node rest ih =>
    obtain ⟨hNode, hRest⟩ := List.forall_mem_cons.1 h
    refine Matches.bind hNode fun nodes nodes' hNodes => ?_
    refine Matches.bind (ih hRest) fun more more' hMore => .pure ?_
    obtain ⟨⟨rfl, hFirst⟩, ⟨rfl, hOthers⟩⟩ := And.intro hNodes hMore
    exact ⟨rfl, everywhere_append.2 ⟨hFirst, hOthers⟩⟩

/-- A node of a document whose templates are rendered without templates. -/
theorem matches_expandChild
    (hRendered : ∀ content, Everywhere Node.WellFormed content → NoTemplate content →
      Matches states (fun _ => True) Cleared (rendered content) (rendered content)) (node : Node)
    (hShape : Everywhere Node.WellFormed [node]) (hNests : Everywhere Node.NestsNone [node]) :
    Matches states (fun _ => True) Cleared
      (expandChild rendered node) (expandChild rendered node) := by
  induction node using Node.induct with
  | step label attrs children ih =>
    obtain ⟨hWellFormed, hShape⟩ := everywhere_singleton.1 hShape
    obtain ⟨hHere, hNests⟩ := everywhere_singleton.1 hNests
    have hLeaf (hLabel : label ≠ .element templateTag) (hChildren : children = []) :
        Cleared [.mk label attrs children] [.mk label attrs children] := by
      subst hChildren
      exact ⟨rfl, everywhere_singleton.2 ⟨hLabel, everywhere_nil⟩⟩
    cases label with
    | element tag =>
      unfold expandChild
      split
      · next hTag => exact hRendered children hShape (hHere (congrArg _ hTag))
      · next hTag =>
        have hBelow := matches_expandChildren_of_mem fun child hChild =>
          ih child hChild (everywhere_singleton.2 (hShape.of_mem hChild))
            (everywhere_singleton.2 (hNests.of_mem hChild))
        refine Matches.bind hBelow fun expanded expanded' hExpanded => .pure ?_
        obtain ⟨rfl, hNone⟩ := hExpanded
        exact ⟨rfl, everywhere_singleton.2 ⟨fun hLabel => hTag (Label.element.inj hLabel), hNone⟩⟩
    | text content => exact .pure (hLeaf (by simp) hWellFormed.2.2)
    | comment content => exact .pure (hLeaf (by simp) hWellFormed.2)
    | doctype content => exact .pure (hLeaf (by simp) hWellFormed.2)
    | fragment => exact hWellFormed.elim

theorem expandChildren_of_mem (h : ∀ node ∈ nodes, expandChild rendered node = pure [node]) :
    expandChildren rendered nodes = pure nodes := by
  induction nodes with
  | nil => rfl
  | cons node rest ih =>
    obtain ⟨hNode, hRest⟩ := List.forall_mem_cons.1 h
    rw [expandChildren, hNode, ih hRest, pure_bind, pure_bind, List.singleton_append]

/-- Where there is no template, there is nothing to do. -/
theorem expandChildren_eq_self (h : NoTemplate nodes) :
    expandChildren rendered nodes = pure nodes := by
  refine expandChildren_of_mem (h.induct fun label attrs children hLabel ih => ?_)
  cases label with
  | element tag =>
    rw [expandChild, if_neg fun hTag => hLabel (congrArg _ hTag), expandChildren_of_mem ih,
      pure_bind]
  | _ => rfl

/-! ## 5. Expanding once and again -/

/-- Rendering one of the templates of a document, from wherever the source has
come to. -/
theorem matches_render_cleared (hParser : settings.parser = some parseMarkup)
    (hSource : source.GivesNoTemplate start) (data : Value) {content : List Node}
    (hShape : Everywhere Node.WellFormed content) (hNone : NoTemplate content) :
    Matches (fun s t => s = t ∧ source.Reaches start s) (fun _ => True) Cleared
      (render settings (some source) (.fragment content) data)
      (render settings (some source) (.fragment content) data) := by
  rintro s _ ⟨rfl, hReach⟩
  cases hRun : (render settings (some source) (.fragment content) data).runFrom s with
  | mk result s' =>
    cases result with
    | error e => exact .excused trivial
    | ok output =>
      obtain ⟨hOutput, hEnd⟩ := noTemplate_render hParser hSource hShape hNone hReach hRun
      exact .ok ⟨rfl, hOutput⟩ ⟨rfl, hEnd⟩

/-- What is left of a document whose templates have been expanded. -/
theorem noTemplate_expandTemplates {document result : Node} {final : σ} {data : Value}
    (hParser : settings.parser = some parseMarkup) (hSource : source.GivesNoTemplate start)
    (hShape : Everywhere Node.WellFormed document.children)
    (hNests : Everywhere Node.NestsNone document.children)
    (h : (expandTemplates settings (some source) document data).runFrom start
      = (.ok result, final)) :
    result.label = document.label ∧ NoTemplate result.children := by
  have hExpanded := matches_expandChildren_of_mem fun node hNode => matches_expandChild
    (fun content => matches_render_cleared hParser hSource data) node
    (everywhere_singleton.2 (hShape.of_mem hNode)) (everywhere_singleton.2 (hNests.of_mem hNode))
  have hEnds := hExpanded start start ⟨rfl, .start⟩
  rw [expandTemplates, Rendering.runFrom_bind] at h
  split at h
  · next nodes s' hRun =>
    rw [hRun] at hEnds
    obtain ⟨_, _, _, hCleared, _⟩ := hEnds.of_ok
    cases h
    exact ⟨rfl, hCleared.2⟩
  · cases h

/-- Whether expanding a tree leaves it as it is, for all settings, data and
sources, and asks the source for nothing. -/
def Node.Settled (root : Node) : Prop :=
  ∀ {τ : Type} (settings : Settings) (source : Source τ) (data : Value) (state : τ)
    (log : List Text),
    (expandTemplates settings (some source.logged) root data).runFrom (state, log)
      = (.ok root, (state, log))

theorem settled_of_noTemplate {root : Node} (h : NoTemplate root.children) : root.Settled := by
  intro τ settings source data state log
  obtain ⟨label, attrs, children⟩ := root
  rw [expandTemplates, expandChildren_eq_self h, pure_bind]
  rfl

/-- Documents in which no template is inside another, with partials that have
no templates: after expanding there is no template left, and expanding again
changes nothing. Where there was none, expanding changes nothing at all. What is
rendered keeps the elements it comes from, so a template inside a template, or in
a partial, would be in the result. -/
theorem expandTemplates_complete {markup : Text} {document : Node}
    (hDocument : parseMarkup markup = .ok document)
    (hNests : ∀ node ∈ document.subtrees, node.NestsNone)
    (hParser : settings.parser = some parseMarkup)
    (hSource : source.GivesNoTemplate start) (data : Value) :
    (∀ result final, (expandTemplates settings (some source) document data).runFrom start
        = (.ok result, final) →
      (∀ node ∈ result.subtrees, node.label ≠ .element templateTag) ∧ result.Settled) ∧
    ((∀ node ∈ document.subtrees, node.label ≠ .element templateTag) → document.Settled) := by
  have hBelow {p : Node → Prop} (h : ∀ node ∈ document.subtrees, p node) :
      Everywhere p document.children := fun node hNode =>
    h node (by rw [Node.subtrees_eq]; exact List.mem_cons_of_mem _ hNode)
  refine ⟨fun result final hRun => ?_, fun hNone => settled_of_noTemplate (hBelow hNone)⟩
  obtain ⟨hLabel, hNone⟩ := noTemplate_expandTemplates hParser hSource
    (wellFormed_parseMarkup hDocument).1 (hBelow hNests) hRun
  refine ⟨fun node hNode hTemplate => ?_, settled_of_noTemplate hNone⟩
  have hRoot : result.label = .fragment := hLabel.trans (label_of_parseMarkup hDocument)
  exact hNone node (mem_below_of_template hRoot hNode hTemplate) hTemplate

/-- A page with a template that includes a partial, beside a comment and an
attribute that is spelled like a directive. -/
theorem expandTemplates_complete_page :
    let markup : Text := ("<main if=no><template><p include=row></p>" : Text)
      ++ ("<var>x</var></template><!--c--></main>" : Text)
    let document : Node := .fragment [.element "main" [("if", "no")] [
      .element "template" [] [
        .element "p" [("include", "row")] [], .element "var" [] [.text "x"]],
      .comment "c"]]
    let source : Source Unit := ⟨fun _ state => (.ok "<b>!</b>", state)⟩
    let data : Value := .dict [("x", .str "k")]
    let result : Node := .fragment [.element "main" [("if", "no")] [
      .element "b" [] [.text "!"], .text "k", .comment "c"]]
    parseMarkup markup = .ok document
      ∧ (expandTemplates ⟨[[]], 2, some parseMarkup⟩ (some source) document data).runFrom ()
        = (.ok result, ())
      ∧ (∀ node ∈ result.subtrees, node.label ≠ .element templateTag) ∧ result.Settled := by
  intro markup document source data result
  have hDocument : parseMarkup markup = .ok document := by decide +kernel
  have hNests : ∀ node ∈ document.subtrees, node.NestsNone := by decide +kernel
  have hSource : source.GivesNoTemplate () := by
    rintro t ⟨_, _, _, hLoad⟩ root hRoot
    obtain rfl : ("<b>!</b>" : Text) = t := Except.ok.inj hLoad
    have hPartial : parseMarkup (Text.trim "<b>!</b>")
        = .ok (.fragment [.element "b" [] [.text "!"]]) := by decide +kernel
    obtain rfl := Except.ok.inj (hPartial.symm.trans hRoot)
    decide +kernel
  have hRun : (expandTemplates ⟨[[]], 2, some parseMarkup⟩ (some source) document data).runFrom ()
      = (.ok result, ()) := by decide +kernel
  exact ⟨hDocument, hRun,
    (expandTemplates_complete hDocument hNests rfl hSource data).1 result () hRun⟩

end TreeTemplate
