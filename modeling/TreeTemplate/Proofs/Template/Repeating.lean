/-
TreeTemplate.Proofs.Template.Repeating — what a loop makes of its element
(`TreeWalker` with the loop directive, specification §4.2 and §4.3).

Rendering goes on after a loop with the directives that are left, and does not
look at the attributes again. That comes to the same as rendering the element
anew without its condition and its loop, once in each context, because what is
left is just what is found there: spellings of different kinds differ, and no
kind has a second spelling. After a loop only bindings are left, so each time
there is exactly one node.

* `Table.unspelled` — attributes without those that spell a kind of directive.
* `directivesAmong_looping` — the directives of an element with a loop, and
  those that are left for a clone.
* `Rendering.GivesOne` — renderings of exactly one node.
* `OneForEach` — one node for each context, up to the first failure.
* `renderNode_loop` — the main statement.
-/
import TreeTemplate.Proofs.Template.Directive
import TreeTemplate.Proofs.Template.Iteration
import TreeTemplate.Proofs.Template.Run

namespace TreeTemplate

/-! ## 1. Attributes without directives of a kind -/

/-- The attributes without those that spell a directive of a kind. -/
def Table.unspelled (openings : List Text) (kind : DirectiveKind) (attrs : Table Text) :
    Table Text :=
  attrs.filter fun entry => ∀ opening ∈ openings, entry.1 ≠ opening ++ kind.word

/-- Whether no directive is spelled twice among attributes. -/
def SpelledOnce (openings : List Text) (attrs : Table Text) : Prop :=
  ∀ kind : DirectiveKind, ∀ opening ∈ openings, ∀ opening' ∈ openings,
    attrs.has (opening ++ kind.word) = true → attrs.has (opening' ++ kind.word) = true →
      opening = opening'

variable {openings : List Text} {attrs : Table Text} {kind other : DirectiveKind}

theorem SpelledOnce.unspelled (h : SpelledOnce openings attrs) (kind : DirectiveKind) :
    SpelledOnce openings (attrs.unspelled openings kind) := by
  have hHas {name : Text} (hName : (attrs.unspelled openings kind).has name = true) :
      attrs.has name = true := by
    rw [Table.has_eq_true_iff] at hName ⊢
    exact (List.filter_sublist.map Prod.fst).subset hName
  exact fun other opening hOpening opening' hOpening' hFirst hSecond =>
    h other opening hOpening opening' hOpening' (hHas hFirst) (hHas hSecond)

/-- A directive that is spelled once is the attribute that is taken away. -/
theorem unspelled_eq_erase (h : SpelledOnce openings attrs) {directive : Directive}
    (hDirective : directiveOf? openings attrs kind = some directive) :
    attrs.unspelled openings kind = attrs.erase directive.name := by
  obtain ⟨opening, hOpening, hFound⟩ := List.exists_of_findSome?_eq_some hDirective
  obtain ⟨value, hValue, rfl⟩ := Option.map_eq_some_iff.1 hFound
  have hHere : attrs.has (opening ++ kind.word) = true :=
    Table.has_eq_true_iff.2 (List.mem_map.2 ⟨_, Table.mem_of_get? hValue, rfl⟩)
  refine List.filter_congr fun entry hEntry => decide_eq_decide.2 ⟨fun hAll => hAll _ hOpening, ?_⟩
  intro hNe opening' hOpening' hName
  have hThere : attrs.has (opening' ++ kind.word) = true :=
    Table.has_eq_true_iff.2 (List.mem_map.2 ⟨entry, hEntry, hName⟩)
  rw [h kind opening hOpening opening' hOpening' hHere hThere] at hNe
  exact hNe hName

theorem unspelled_eq_self (h : directiveOf? openings attrs kind = none) :
    attrs.unspelled openings kind = attrs := by
  rw [directiveOf?_eq_none_iff] at h
  refine List.filter_eq_self.2 fun entry hEntry => decide_eq_true fun opening hOpening => ?_
  exact Table.not_mem_of_has_eq_false (h opening hOpening) hEntry

theorem directiveOf?_unspelled_self :
    directiveOf? openings (attrs.unspelled openings kind) kind = none := by
  rw [directiveOf?_eq_none_iff]
  intro opening hOpening
  rw [← Bool.not_eq_true, Table.has_eq_true_iff]
  intro hMem
  obtain ⟨entry, hEntry, hName⟩ := List.mem_map.1 hMem
  exact of_decide_eq_true (List.mem_filter.1 hEntry).2 opening hOpening hName

/-- Directives of the other kinds stay. -/
theorem directiveOf?_unspelled (h : other ≠ kind) :
    directiveOf? openings (attrs.unspelled openings kind) other
      = directiveOf? openings attrs other := by
  have hGet (opening : Text) : (attrs.unspelled openings kind).get? (opening ++ other.word)
      = attrs.get? (opening ++ other.word) := by
    refine Table.get?_filter fun entry _ hName => decide_eq_true fun opening' _ hSpelled => ?_
    exact h (DirectiveKind.eq_of_spelling (hName.symm.trans hSpelled))
  simp only [directiveOf?, hGet]

/-- An element with a loop and without an inclusion: its condition if it has
one, its loop, and then the directives that it has without these two. -/
theorem directivesAmong_looping (hInclusion : directiveOf? openings attrs .inclusion = none)
    {loop : Directive} (hLoop : directiveOf? openings attrs .loop = some loop) :
    directivesAmong openings attrs =
      (directiveOf? openings attrs .condition).toList ++ loop :: directivesAmong openings
        ((attrs.unspelled openings .condition).unspelled openings .loop) := by
  have hRest : directiveOf? openings
      ((attrs.unspelled openings .condition).unspelled openings .loop) .inclusion = none := by
    rw [directiveOf?_unspelled (by decide), directiveOf?_unspelled (by decide), hInclusion]
  have hCondition : directiveOf? openings
      ((attrs.unspelled openings .condition).unspelled openings .loop) .condition = none := by
    rw [directiveOf?_unspelled (by decide), directiveOf?_unspelled_self]
  rw [directivesAmong_eq hInclusion, directivesAmong_eq hRest, hLoop, hCondition,
    directiveOf?_unspelled_self]
  simp only [directiveOf?_unspelled (by decide : DirectiveKind.style ≠ .loop),
    directiveOf?_unspelled (by decide : DirectiveKind.style ≠ .condition),
    directiveOf?_unspelled (by decide : DirectiveKind.attr ≠ .loop),
    directiveOf?_unspelled (by decide : DirectiveKind.attr ≠ .condition)]
  simp

/-! ## 2. One node -/

variable {σ α : Type}

/-- Whether a rendering that succeeds gives exactly one node. -/
def Rendering.GivesOne (x : Rendering σ (List Node)) : Prop :=
  ∀ s nodes, (x.runFrom s).1 = .ok nodes → ∃ node, nodes = [node]

open Rendering (GivesOne)

theorem Rendering.GivesOne.pure (node : Node) : GivesOne (σ := σ) (pure [node]) :=
  fun _ _ hRun => ⟨node, (Except.ok.inj hRun).symm⟩

theorem Rendering.GivesOne.bind {x : Rendering σ α} {f : α → Rendering σ (List Node)}
    (h : ∀ a, GivesOne (f a)) : GivesOne (x >>= f) := by
  intro s nodes hRun
  rw [Rendering.runFrom_bind] at hRun
  split at hRun
  · next a s' _ => exact h a s' nodes hRun
  · cases hRun

/-- An element on which only bindings act gives one node. -/
theorem givesOne_renderElement {included : Text → Value → Rendering σ (List Node)}
    {tag content : Text} {inside : Value → Rendering σ (List Node)} {directives : List Directive}
    (hBindings : ∀ directive ∈ directives, directive.kind = .style ∨ directive.kind = .attr)
    (attrs : Table Text) (c : Value) :
    GivesOne (renderElement included tag content inside directives attrs c) := by
  induction directives generalizing attrs with
  | nil =>
    unfold renderElement
    split
    · exact .bind fun t => .pure _
    · exact .bind fun children => .pure _
  | cons directive rest ih =>
    obtain ⟨hHere, hRest⟩ := List.forall_mem_cons.1 hBindings
    unfold renderElement
    rcases hHere with hKind | hKind
    · simp only [hKind]
      exact .bind fun bound => ih hRest bound
    · simp only [hKind]
      exact .bind fun bound => ih hRest bound

/-- How a run ends that makes one node in each of a row of contexts: with the
nodes in their order, or with the first failure. -/
inductive OneForEach (body : Value → Rendering σ (List Node)) :
    List Value → σ → Except RenderError (List Node) × σ → Prop where
  | nil (s : σ) : OneForEach body [] s (.ok [], s)
  | cons {c : Value} {rest : List Value} {s next last : σ} {node : Node}
      {result : Except RenderError (List Node)} :
    (body c).runFrom s = (.ok [node], next) → OneForEach body rest next (result, last) →
      OneForEach body (c :: rest) s (result.map (node :: ·), last)
  | fail {c : Value} {rest : List Value} {s last : σ} {e : RenderError} :
    (body c).runFrom s = (.error e, last) → OneForEach body (c :: rest) s (.error e, last)

theorem OneForEach.length_eq {body : Value → Rendering σ (List Node)} {contexts : List Value}
    {s : σ} {run : Except RenderError (List Node) × σ} (h : OneForEach body contexts s run)
    {nodes : List Node} (hRun : run.1 = .ok nodes) : nodes.length = contexts.length := by
  induction h generalizing nodes with
  | nil =>
    cases hRun
    rfl
  | cons _ _ ih =>
    obtain ⟨others, hOthers, rfl⟩ := exists_of_map_eq_ok hRun
    rw [List.length_cons, List.length_cons, ih hOthers]
  | fail => cases hRun

theorem oneForEach_renderEach {body : Value → Rendering σ (List Node)}
    (hOne : ∀ c, GivesOne (body c)) (contexts : List Value) (s : σ) :
    OneForEach body contexts s ((renderEach body contexts).runFrom s) := by
  induction contexts generalizing s with
  | nil => exact .nil s
  | cons c rest ih =>
    rw [renderEach, Rendering.runFrom_bind]
    cases hHere : (body c).runFrom s with
    | mk result next =>
      cases result with
      | error e => exact .fail hHere
      | ok nodes =>
        obtain ⟨node, rfl⟩ := hOne c s nodes (by rw [hHere])
        have hRest := ih next
        dsimp only
        rw [Rendering.runFrom_bind]
        cases hRun : (renderEach body rest).runFrom next with
        | mk result last =>
          rw [hRun] at hRest
          have hJoined := OneForEach.cons hHere hRest
          cases result <;> exact hJoined

/-! ## 3. Elements with a loop -/

variable {included : Text → Value → Rendering σ (List Node)} {tag : Text} {loop : Directive}
  {context : Value}

/-- Whether a rendering is the same as that of `body` in each of a row of
contexts, and gives one node for each. -/
def Rendering.Repeats (x : Rendering σ (List Node)) (body : Value → Rendering σ (List Node))
    (contexts : List Value) : Prop :=
  ∀ s, OneForEach body contexts s (x.runFrom s) ∧
    ∀ nodes, (x.runFrom s).1 = .ok nodes → nodes.length = contexts.length

/-- An element with a loop is rendered in each context as it is without its
condition and its loop. -/
theorem renderNode_looping (hSpelled : SpelledOnce openings attrs)
    (hInclusion : directiveOf? openings attrs .inclusion = none)
    (hLoop : directiveOf? openings attrs .loop = some loop)
    (hCondition : ∀ condition, directiveOf? openings attrs .condition = some condition →
      tag ≠ placeholderTag ∧ (Condition.ofText condition.value).holds context = .ok true)
    (children : List Node) :
    renderNode openings included (.element tag attrs children) context =
      Rendering.ofExcept .ofLoop (loopContexts loop.value context) >>= renderEach
        (renderNode openings included (.element tag
          ((attrs.unspelled openings .condition).unspelled openings .loop) children)) := by
  have hKind := (directiveOf?_eq hLoop).1
  have hRest : (attrs.unspelled openings .condition).unspelled openings .loop
      = (attrs.unspelled openings .condition).erase loop.name :=
    unspelled_eq_erase (hSpelled.unspelled .condition)
      ((directiveOf?_unspelled (by decide)).trans hLoop)
  rw [Node.element, renderNode, directivesAmong_looping hInclusion hLoop]
  cases hDirective : directiveOf? openings attrs .condition with
  | none =>
    rw [unspelled_eq_self hDirective] at hRest ⊢
    simp only [Option.toList_none, List.nil_append, renderElement, hKind]
    rw [hRest]
    rfl
  | some condition =>
    obtain ⟨hTag, hHolds⟩ := hCondition condition hDirective
    have hDecision : decisionFor tag condition.value context = .ok .keep := by
      rw [decisionFor, hHolds]
      simp [Except.map, hTag]
    rw [unspelled_eq_erase hSpelled hDirective] at hRest ⊢
    simp only [Option.toList_some, List.singleton_append, renderElement, hKind,
      (directiveOf?_eq hDirective).1, hDecision]
    rw [hRest]
    rfl

/-- What is left of an element after its condition and its loop gives one node. -/
theorem givesOne_renderNode (hInclusion : directiveOf? openings attrs .inclusion = none)
    (children : List Node) (c : Value) :
    GivesOne (renderNode openings included (.element tag
      ((attrs.unspelled openings .condition).unspelled openings .loop) children) c) := by
  rw [Node.element, renderNode]
  refine givesOne_renderElement (fun directive hMem => ?_) _ c
  obtain ⟨kind, _, hDirective⟩ := List.mem_filterMap.1 hMem
  rw [(directiveOf?_eq hDirective).1]
  cases kind with
  | inclusion =>
    rw [directiveOf?_unspelled (by decide), directiveOf?_unspelled (by decide), hInclusion]
      at hDirective
    cases hDirective
  | condition =>
    rw [directiveOf?_unspelled (by decide), directiveOf?_unspelled_self] at hDirective
    cases hDirective
  | loop =>
    rw [directiveOf?_unspelled_self] at hDirective
    cases hDirective
  | style => exact .inl rfl
  | attr => exact .inr rfl

/-- An element with a loop over a list or a dictionary gives one node for each
item, in order: the one that the element without its condition and its loop
gives in the context of the item. The first failure ends it. A loop over
anything else fails. It comes to the loop if there is no inclusion, and if a
condition holds and leaves the element, as it leaves all but placeholders. Of no
kind is there a second spelling: it would not act on a clone, but it would on
the element rendered anew. -/
theorem renderNode_loop (hSpelled : SpelledOnce openings attrs)
    (hInclusion : directiveOf? openings attrs .inclusion = none)
    (hLoop : directiveOf? openings attrs .loop = some loop)
    (hCondition : ∀ condition, directiveOf? openings attrs .condition = some condition →
      tag ≠ placeholderTag ∧ (Condition.ofText condition.value).holds context = .ok true)
    {found : Found} (hFound : context.resolve loop.value.trim = .ok found)
    (children : List Node) :
    let visit := renderNode openings included
    let element := Node.element tag attrs children
    let once := Node.element tag
      ((attrs.unspelled openings .condition).unspelled openings .loop) children
    (∀ items, found = some (.list items) → ∃ contexts, contexts.length = items.length ∧
      (∀ (i : Nat) item, items[i]? = some item → ∃ c, contexts[i]? = some c ∧
        IsContext item (itemGiven i items.length) c) ∧
      (visit element context).Repeats (visit once) contexts) ∧
    (∀ entries, found = some (.dict entries) → ∃ contexts, contexts.length = entries.length ∧
      (∀ (i : Nat) key item, entries[i]? = some (key, item) → ∃ c, contexts[i]? = some c ∧
        IsContext item (entryGiven key i) c) ∧
      (visit element context).Repeats (visit once) contexts) ∧
    ((∀ items, found ≠ some (.list items)) → (∀ entries, found ≠ some (.dict entries)) →
      visit element context = throw (.notIterable loop.value.trim found.kind)) := by
  intro visit element once
  have hVisit : visit element context
      = Rendering.ofExcept .ofLoop (loopContexts loop.value context) >>= renderEach (visit once) :=
    renderNode_looping hSpelled hInclusion hLoop hCondition children
  have hRepeats {contexts : List Value} (h : contextsOf? found = some contexts) :
      (visit element context).Repeats (visit once) contexts := by
    have hContexts : loopContexts loop.value context = .ok contexts := by
      simp only [loopContexts, hFound, h]
    intro s
    rw [hVisit, hContexts, Rendering.ofExcept, pure_bind]
    have hOne (c : Value) : GivesOne (visit once c) := givesOne_renderNode hInclusion children c
    have hRun := oneForEach_renderEach hOne contexts s
    exact ⟨hRun, fun nodes => hRun.length_eq⟩
  refine ⟨?_, ?_, ?_⟩
  · rintro items rfl
    refine ⟨_, by rw [itemContexts_eq, List.length_mapIdx], fun i item hItem => ?_, hRepeats rfl⟩
    exact ⟨_, getElem?_itemContexts hItem, isContext_itemContext item _ _⟩
  · rintro entries rfl
    refine ⟨_, by rw [entryContexts_eq, List.length_mapIdx], fun i key item hEntry => ?_,
      hRepeats rfl⟩
    exact ⟨_, getElem?_entryContexts hEntry, isContext_entryContext key item _⟩
  · intro hList hDict
    have hNone : contextsOf? found = none := by
      cases found with
      | none => rfl
      | some v =>
        cases v with
        | list items => exact absurd rfl (hList items)
        | dict entries => exact absurd rfl (hDict entries)
        | _ => rfl
    have hContexts : loopContexts loop.value context
        = .error (.notIterable loop.value.trim found.kind) := by
      simp only [loopContexts, hFound, hNone]
    rw [hVisit, hContexts]
    rfl

/-- A loop under a condition, with a binding that finds something in one of the
contexts only. -/
theorem renderNode_loop_rows :
    let openings : List Text := ["data-", ""]
    let attrs : Table Text := [("data-if", "!off"), ("loop", " rows "), ("attr", "id:k")]
    let children : List Node := [.element "var" [] [.text "_index"]]
    let context : Value := .dict [("rows", .list [.dict [("k", .int 7)], .null])]
    let visit : Node → Value → Rendering Unit (List Node) := renderNode openings fun _ _ => pure []
    ((visit (.element "li" attrs children) context).runFrom ()).1 = .ok
        [.element "li" [("id", "7")] [.text "0"], .element "li" [("id", "undefined")] [.text "1"]]
      ∧ ∃ contexts, contexts.length = 2 ∧ (visit (.element "li" attrs children) context).Repeats
        (visit (.element "li" [("attr", "id:k")] children)) contexts := by
  intro openings attrs children context visit
  have hSpelled : SpelledOnce openings attrs := by
    intro kind
    cases kind <;> decide +kernel
  have hLoop : directiveOf? openings attrs .loop = some ⟨.loop, "loop", " rows "⟩ := by
    decide +kernel
  have hCondition : ∀ condition, directiveOf? openings attrs .condition = some condition →
      ("li" : Text) ≠ placeholderTag
        ∧ (Condition.ofText condition.value).holds context = .ok true := by
    have hDirective : directiveOf? openings attrs .condition
        = some ⟨.condition, "data-if", "!off"⟩ := by decide +kernel
    rintro _ hSome
    obtain rfl := Option.some.inj (hDirective.symm.trans hSome)
    decide +kernel
  have hOnce : (attrs.unspelled openings .condition).unspelled openings .loop
      = ([("attr", "id:k")] : Table Text) := by decide +kernel
  have hFound : context.resolve (Text.trim " rows ")
      = .ok (some (.list [.dict [("k", .int 7)], .null])) := by decide +kernel
  have hLaw := @renderNode_loop openings attrs Unit (fun _ _ => pure []) "li" _ context hSpelled
    (by decide +kernel) hLoop hCondition _ hFound children
  obtain ⟨contexts, hLength, -, hRepeats⟩ := hLaw.1 _ rfl
  rw [hOnce] at hRepeats
  exact ⟨by decide +kernel, contexts, hLength, hRepeats⟩

end TreeTemplate
