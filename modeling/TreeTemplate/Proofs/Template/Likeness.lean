/-
TreeTemplate.Proofs.Template.Likeness — rendering what is alike gives what is alike.

A likeness relates contexts, attributes and nodes. If the directives and the
placeholders give related results for related contexts, then so does the
rendering of whole trees; and if the same holds of the partials, then
inclusions keep it as well, also where one side has a little more room for
them than the other.

* `Likeness` — the relations, and what is asked of them.
* `matches_renderElement`, `matches_renderNodes` — elements and trees.
* `matches_renderWithin` — inclusions.
* `Likeness.same` — the likeness of what is equal.
-/
import TreeTemplate.Proofs.Markup.Subtree
import TreeTemplate.Proofs.Template.Run

namespace TreeTemplate

/-! ## 1. Likenesses -/

/-- Relations between contexts, attributes and nodes that the parts of
rendering keep. What is inside an element may be related in a way that its
tag decides. -/
structure Likeness where
  contexts : Value → Value → Prop
  attrs : Table Text → Table Text → Prop
  nodes : List Node → List Node → Prop
  content : Text → List Node → List Node → Prop
  attrs_refl : ∀ a, attrs a a
  nodes_refl : ∀ xs, nodes xs xs
  content_refl : ∀ tag xs, content tag xs xs
  append : ∀ xs ys xs' ys', nodes xs ys → nodes xs' ys' → nodes (xs ++ xs') (ys ++ ys')
  element : ∀ tag a b xs ys, attrs a b → content tag xs ys →
    nodes [.element tag a xs] [.element tag b ys]
  unwrapped : ∀ xs ys, content placeholderTag xs ys → nodes xs ys
  erase : ∀ a b name, attrs a b → attrs (a.erase name) (b.erase name)
  text : ∀ path c d, contexts c d →
    Outcomes (fun t u => nodes [.text t] [.text u]) (placeholderText path c)
      (placeholderText path d)
  decision : ∀ tag v c d, contexts c d → decisionFor tag v c = decisionFor tag v d
  loop : ∀ v c d, contexts c d →
    Outcomes (List.Forall₂ contexts) (loopContexts v c) (loopContexts v d)
  style : ∀ v c d a b, contexts c d → attrs a b → Outcomes attrs (bindStyle v c a) (bindStyle v d b)
  attr : ∀ v c d a b, contexts c d → attrs a b → Outcomes attrs (bindAttrs v c a) (bindAttrs v d b)

/-- Whether rendering hands on a node as it is. -/
def Node.isInert (node : Node) : Bool :=
  match node.label with
  | .element _ => false
  | .comment _ => false
  | _ => true

/-- Whether what is inside an element is related as its tag asks for: because
all nodes are, or because nothing inside is rendered. -/
def Likeness.Fits (L : Likeness) : Node → Prop
  | .mk (.element tag) _ children =>
    (∀ xs ys, L.nodes xs ys → L.content tag xs ys) ∨ ∀ child ∈ children, child.isInert = true
  | _ => True

open Rendering (Matches)

variable {σ τ : Type} {states : σ → τ → Prop} {excused : RenderError → Prop} (L : Likeness)

/-! ## 2. Elements -/

/-- Under a condition a placeholder is unwrapped and never kept, another
element is kept and never unwrapped. -/
theorem outcomes_decisionFor (tag v : Text) (c : Value) :
    Outcomes (fun d d' => d = d' ∧ (d = .unwrap → tag = placeholderTag)
      ∧ (d = .keep → tag ≠ placeholderTag)) (decisionFor tag v c) (decisionFor tag v c) := by
  unfold decisionFor
  have hHolds : Outcomes Eq ((Condition.ofText v).holds c) ((Condition.ofText v).holds c) :=
    .refl (fun _ => rfl) _
  refine hHolds.map ?_
  rintro holds _ rfl
  cases holds <;> by_cases hTag : tag = placeholderTag <;> simp [hTag]

/-- An element on which directives have still to act. Its text may differ if
it is no placeholder, or one that is there for its condition only. -/
theorem matches_renderElement {included : Text → Value → Rendering σ (List Node)}
    {included' : Text → Value → Rendering τ (List Node)}
    (hIncluded : ∀ name c d, L.contexts c d →
      Matches states excused L.nodes (included name c) (included' name d))
    {tag : Text} {inside : Value → Rendering σ (List Node)}
    {inside' : Value → Rendering τ (List Node)}
    (hInside : ∀ c d, L.contexts c d →
      Matches states excused (L.content tag) (inside c) (inside' d))
    {content content' : Text} (directives : List Directive)
    (hContent : tag = placeholderTag → content = content' ∨ ∃ d ∈ directives, d.kind = .condition)
    {a b : Table Text} (hAttrs : L.attrs a b) {c d : Value} (hContexts : L.contexts c d) :
    Matches states excused L.nodes (renderElement included tag content inside directives a c)
      (renderElement included' tag content' inside' directives b d) := by
  induction directives generalizing a b c d with
  | nil =>
    unfold renderElement
    split
    · next hTag =>
      obtain rfl | ⟨_, hMem, _⟩ := hContent hTag
      · exact Matches.bind (.ofExcept (L.text content c d hContexts)) fun t u htu => .pure htu
      · cases hMem
    · exact Matches.bind (hInside c d hContexts) fun xs ys hxy =>
        .pure (L.element tag a b xs ys hAttrs hxy)
  | cons directive rest ih =>
    have hOthers := L.erase a b directive.name hAttrs
    -- Only a condition takes the place of the text of a placeholder.
    have hRest (hKind : directive.kind ≠ .condition) (hTag : tag = placeholderTag) :
        content = content' ∨ ∃ d ∈ rest, d.kind = .condition := by
      rcases hContent hTag with hSame | ⟨d, hMem, hd⟩
      · exact .inl hSame
      · rcases List.mem_cons.1 hMem with rfl | hMem
        · exact absurd hd hKind
        · exact .inr ⟨d, hMem, hd⟩
    unfold renderElement
    split
    · exact hIncluded _ _ _ hContexts
    · rw [L.decision tag _ c d hContexts]
      refine Matches.bind (.ofExcept (outcomes_decisionFor tag _ d)) ?_
      rintro decision _ ⟨rfl, hUnwrap, hKeep⟩
      cases decision with
      | drop => exact .pure (L.nodes_refl [])
      | unwrap =>
        cases hUnwrap rfl
        exact (hInside c d hContexts).imp L.unwrapped
      | keep => exact ih (fun hTag => absurd hTag (hKeep rfl)) hOthers hContexts
    · next hKind =>
      refine Matches.bind (.ofExcept (L.loop _ c d hContexts)) fun cs ds hcs => ?_
      exact matches_renderEach (L.nodes_refl []) L.append
        (fun c d hcd => ih (hRest (by rw [hKind]; decide)) hOthers hcd) hcs
    · next hKind =>
      refine Matches.bind (.ofExcept (L.style _ c d _ _ hContexts hOthers)) fun a b hab => ?_
      exact ih (hRest (by rw [hKind]; decide)) hab hContexts
    · next hKind =>
      refine Matches.bind (.ofExcept (L.attr _ c d _ _ hContexts hOthers)) fun a b hab => ?_
      exact ih (hRest (by rw [hKind]; decide)) hab hContexts

/-! ## 3. Trees -/

/-- Nodes of which none is rendered. -/
theorem renderNodes_eq_pure (openings : List Text)
    (included : Text → Value → Rendering σ (List Node)) {nodes : List Node}
    (h : ∀ node ∈ nodes, node.isInert = true) (c : Value) :
    renderNodes openings included nodes c = pure nodes := by
  induction nodes with
  | nil => rfl
  | cons node rest ih =>
    obtain ⟨hNode, hRest⟩ := List.forall_mem_cons.1 h
    have hHere : renderNode openings included node c = pure [node] := by
      obtain ⟨label, attrs, children⟩ := node
      cases label with
      | element tag => cases hNode
      | comment content => cases hNode
      | text content => rfl
      | doctype content => rfl
      | fragment => rfl
    rw [renderNodes, hHere, ih hRest]
    rfl

variable {openings : List Text} {included : Text → Value → Rendering σ (List Node)}
  {included' : Text → Value → Rendering τ (List Node)}

/-- Two rows of nodes, if those in the same place keep the likeness. -/
theorem matches_renderNodes_of_forall₂ {nodes nodes' : List Node}
    (h : List.Forall₂ (fun node node' => ∀ c d, L.contexts c d → Matches states excused L.nodes
      (renderNode openings included node c) (renderNode openings included' node' d)) nodes nodes')
    {c d : Value} (hContexts : L.contexts c d) :
    Matches states excused L.nodes (renderNodes openings included nodes c)
      (renderNodes openings included' nodes' d) := by
  induction h with
  | nil => exact .pure (L.nodes_refl [])
  | cons hNode _ ih =>
    refine Matches.bind (hNode c d hContexts) fun xs ys hxy => ?_
    exact Matches.bind ih fun xs' ys' hxy' => .pure (L.append _ _ _ _ hxy hxy')

/-- One tree. -/
theorem matches_renderNode (hIncluded : ∀ name c d, L.contexts c d →
      Matches states excused L.nodes (included name c) (included' name d))
    (node : Node) (hFits : Everywhere L.Fits [node]) (c d : Value) (hContexts : L.contexts c d) :
    Matches states excused L.nodes (renderNode openings included node c)
      (renderNode openings included' node d) := by
  induction node using Node.induct generalizing c d with
  | step label attrs children ih =>
    obtain ⟨hHere, hBelow⟩ := everywhere_singleton.1 hFits
    cases label with
    | element tag =>
      have hInside (c d : Value) (hcd : L.contexts c d) :
          Matches states excused (L.content tag) (renderNodes openings included children c)
            (renderNodes openings included' children d) := by
        rcases hHere with hContent | hInert
        · have hChildren : ∀ child ∈ children, ∀ c d, L.contexts c d →
              Matches states excused L.nodes (renderNode openings included child c)
                (renderNode openings included' child d) := fun child hChild =>
            ih child hChild (everywhere_singleton.2 (hBelow.of_mem hChild))
          have hRow := matches_renderNodes_of_forall₂ L (List.forall₂_same.2 hChildren) hcd
          exact hRow.imp hContent
        · rw [renderNodes_eq_pure _ _ hInert, renderNodes_eq_pure _ _ hInert]
          exact .pure (L.content_refl tag children)
      unfold renderNode
      exact matches_renderElement L hIncluded hInside _ (fun _ => .inl rfl) (L.attrs_refl attrs)
        hContexts
    | text content => exact .pure (L.nodes_refl _)
    | comment content => exact .pure (L.nodes_refl _)
    | doctype content => exact .pure (L.nodes_refl _)
    | fragment => exact .pure (L.nodes_refl _)

/-- A row of trees. -/
theorem matches_renderNodes (hIncluded : ∀ name c d, L.contexts c d →
      Matches states excused L.nodes (included name c) (included' name d))
    {nodes : List Node} (hFits : Everywhere L.Fits nodes) {c d : Value}
    (hContexts : L.contexts c d) :
    Matches states excused L.nodes (renderNodes openings included nodes c)
      (renderNodes openings included' nodes d) :=
  matches_renderNodes_of_forall₂ L (List.forall₂_same.2 fun node hNode =>
    matches_renderNode L hIncluded node (everywhere_singleton.2 (hFits.of_mem hNode))) hContexts

/-! ## 4. Inclusions -/

/-- A partial is the same tree if its text is. -/
theorem matches_fetch {settings : Settings}
    (hFits : ∀ parser t root, settings.parser = some parser → parser t = .ok root →
      Everywhere L.Fits root.children)
    {source : Source σ} {source' : Source τ} {name : Text}
    (hAsk : Matches states excused Eq (ask source name) (ask source' name)) (chain : List Text) :
    Matches states excused (fun root root' => root = root' ∧ Everywhere L.Fits root.children)
      (fetch settings (some source) chain name) (fetch settings (some source') chain name) := by
  unfold fetch
  cases hParser : settings.parser with
  | none => exact .throw _
  | some parser =>
    by_cases hFull : settings.maxDepth ≤ chain.length
    · simp only [if_pos hFull]
      exact .throw _
    · simp only [if_neg hFull]
      refine Matches.bind hAsk ?_
      rintro t _ rfl
      cases hParse : parser t.trim with
      | error e => exact .throw _
      | ok root => exact .pure ⟨rfl, hFits parser _ root hParser hParse⟩

/-- Where there is room for a partial, the inclusions around it do not matter. -/
theorem fetch_eq_of_room {settings : Settings} {source : Option (Source σ)}
    {chain chain' : List Text} (h : ¬ settings.maxDepth ≤ chain.length)
    (h' : ¬ settings.maxDepth ≤ chain'.length) (name : Text) :
    fetch settings source chain name = fetch settings source chain' name := by
  unfold fetch
  simp only [if_neg h, if_neg h']

/-- No partial is fetched where there are as many inclusions as may be. -/
theorem fetch_eq_throw {settings : Settings} {source : Option (Source σ)} {chain : List Text}
    (h : settings.maxDepth ≤ chain.length) (name : Text) :
    ∃ e, fetch settings source chain name = throw e := by
  unfold fetch
  split
  · exact ⟨_, rfl⟩
  · exact ⟨_, rfl⟩
  · rw [if_pos h]
    exact ⟨_, rfl⟩

theorem matches_fetch_full {β γ δ : Type} {results : Node → β → Prop} {results' : γ → δ → Prop}
    {settings : Settings} {source : Option (Source σ)} {chain : List Text} {name : Text}
    {y : Rendering τ β} (h : settings.maxDepth ≤ chain.length)
    (hFetch : Matches states excused results (fetch settings source chain name) y)
    (f : Node → Rendering σ γ) (g : β → Rendering τ δ) :
    Matches states excused results' (fetch settings source chain name >>= f) (y >>= g) := by
  obtain ⟨e, hThrow⟩ : ∃ e, fetch settings source chain name = throw e := fetch_eq_throw h name
  rw [hThrow] at hFetch ⊢
  exact hFetch.throw_bind g

/-- What stands in the place of an inclusion. -/
def includedWithin (settings : Settings) (source : Option (Source σ)) (remaining : Nat)
    (chain : List Text) (name : Text) (c : Value) : Rendering σ (List Node) := do
  let root ← fetch settings source chain name
  match remaining with
  | 0 => pure []
  | remaining + 1 => renderWithin settings source remaining (chain ++ [name]) root.children c

theorem renderWithin_eq (settings : Settings) (source : Option (Source σ)) (remaining : Nat)
    (chain : List Text) (nodes : List Node) (c : Value) :
    renderWithin settings source remaining chain nodes c =
      renderNodes settings.openings (includedWithin settings source remaining chain) nodes c := by
  cases remaining <;> rfl

/-- Chains of inclusions on the two sides of a comparison. The second is no
longer than the first. -/
structure Chains (chains : List Text → List Text → Prop) : Prop where
  grow : ∀ chain chain' name, chains chain chain' → chains (chain ++ [name]) (chain' ++ [name])
  short : ∀ chain chain', chains chain chain' → chain'.length ≤ chain.length

theorem chains_eq : Chains Eq where
  grow := by
    rintro chain _ name rfl
    rfl
  short := by
    rintro chain _ rfl
    exact Nat.le_refl _

variable {chains : List Text → List Text → Prop} {settings settings' : Settings}
  {source : Option (Source σ)} {source' : Option (Source τ)}

/-- Inclusions inside related chains, where on both sides there is room for
as many as the limit allows. -/
theorem matches_includedWithin (hChains : Chains chains)
    (hOpenings : settings.openings = settings'.openings)
    (hLimit : settings.maxDepth ≤ settings'.maxDepth)
    (hFetch : ∀ chain chain' name, chains chain chain' →
      Matches states excused (fun root root' => root = root' ∧ Everywhere L.Fits root.children)
        (fetch settings source chain name) (fetch settings' source' chain' name))
    {remaining remaining' : Nat} {chain chain' : List Text} (hChain : chains chain chain')
    (hRoom : settings.maxDepth ≤ chain.length + remaining)
    (hRoom' : settings'.maxDepth ≤ chain'.length + remaining')
    (name : Text) (c d : Value) (hContexts : L.contexts c d) :
    Matches states excused L.nodes (includedWithin settings source remaining chain name c)
      (includedWithin settings' source' remaining' chain' name d) := by
  induction remaining generalizing remaining' chain chain' name c d with
  | zero => exact matches_fetch_full (by simpa using hRoom) (hFetch chain chain' name hChain) _ _
  | succ remaining ih =>
    by_cases hFull : settings.maxDepth ≤ chain.length
    · exact matches_fetch_full hFull (hFetch chain chain' name hChain) _ _
    · refine Matches.bind (hFetch chain chain' name hChain) ?_
      rintro root _ ⟨rfl, hRoot⟩
      have hLength := hChains.short chain chain' hChain
      -- There is still room on the first side, so there is on the second.
      obtain ⟨more, rfl⟩ : ∃ more, remaining' = more + 1 :=
        Nat.exists_eq_succ_of_ne_zero (by omega)
      dsimp only
      rw [renderWithin_eq, renderWithin_eq, hOpenings]
      refine matches_renderNodes L (ih (hChains.grow chain chain' name hChain) ?_ ?_) hRoot
        hContexts
      · rw [List.length_append, List.length_singleton]
        omega
      · rw [List.length_append, List.length_singleton]
        omega

/-- Trees with inclusions inside related chains. -/
theorem matches_renderWithin (hChains : Chains chains)
    (hOpenings : settings.openings = settings'.openings)
    (hLimit : settings.maxDepth ≤ settings'.maxDepth)
    (hFetch : ∀ chain chain' name, chains chain chain' →
      Matches states excused (fun root root' => root = root' ∧ Everywhere L.Fits root.children)
        (fetch settings source chain name) (fetch settings' source' chain' name))
    {remaining remaining' : Nat} {chain chain' : List Text} (hChain : chains chain chain')
    (hRoom : settings.maxDepth ≤ chain.length + remaining)
    (hRoom' : settings'.maxDepth ≤ chain'.length + remaining')
    {nodes : List Node} (hFits : Everywhere L.Fits nodes) {c d : Value}
    (hContexts : L.contexts c d) :
    Matches states excused L.nodes (renderWithin settings source remaining chain nodes c)
      (renderWithin settings' source' remaining' chain' nodes d) := by
  rw [renderWithin_eq, renderWithin_eq, hOpenings]
  exact matches_renderNodes L (matches_includedWithin L hChains hOpenings hLimit hFetch hChain
    hRoom hRoom') hFits hContexts

/-! ## 5. Equality -/

/-- The likeness of what is equal. -/
def Likeness.same : Likeness where
  contexts := Eq
  attrs := Eq
  nodes := Eq
  content _ := Eq
  attrs_refl _ := rfl
  nodes_refl _ := rfl
  content_refl _ _ := rfl
  append := by
    rintro xs _ xs' _ rfl rfl
    rfl
  element := by
    rintro tag a _ xs _ rfl rfl
    rfl
  unwrapped _ _ h := h
  erase := by
    rintro a _ name rfl
    rfl
  text := by
    rintro path c _ rfl
    have hText : ∀ t, [Node.text t] = [Node.text t] := fun _ => rfl
    exact .refl hText _
  decision := by
    rintro tag v c _ rfl
    rfl
  loop := by
    rintro v c _ rfl
    exact Outcomes.refl (fun _ => List.forall₂_same.2 fun _ _ => rfl) _
  style := by
    rintro v c _ a _ rfl rfl
    exact Outcomes.refl (fun _ => rfl) _
  attr := by
    rintro v c _ a _ rfl rfl
    exact Outcomes.refl (fun _ => rfl) _

/-- Equality asks nothing of a tree. -/
theorem Likeness.same_fits (nodes : List Node) : Everywhere Likeness.same.Fits nodes := by
  rintro ⟨label, attrs, children⟩ _
  cases label with
  | element tag => exact .inl fun _ _ h => h
  | _ => exact trivial

end TreeTemplate
