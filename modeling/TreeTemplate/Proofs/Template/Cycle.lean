/-
TreeTemplate.Proofs.Template.Cycle — partials that include themselves (the guard
of specification §4.5).

The inclusions that a rendering is inside of are a path through the
partials: each is asked for by the one before, and each but the last has
been loaded. If the limit of inclusions is greater than the number of
partials, a path that meets the limit goes through some partial twice. So
the limit stops only such templates as lead into a partial that includes
itself, perhaps through others.

* `Includes` — a partial that asks for another.
* `Stacked` — the inclusions that a rendering may be inside of.
* `Stacked.pairwise`, `Stacked.exists_twice` — paths through the partials.
* `render_tooDeep` — a rendering that meets the limit.
-/
import TreeTemplate.Proofs.Template.Nesting
import Mathlib.Data.List.Duplicate
import Mathlib.Data.List.Perm.Subperm
import Mathlib.Logic.Relation

namespace TreeTemplate

/-! ## 1. Paths through the partials -/

/-- Whether a partial is there and asks for another. -/
def Includes (settings : Settings) (partials : Table Text) (name other : Text) : Prop :=
  ∃ t parser root, partials.get? name = some t ∧ settings.parser = some parser
    ∧ parser t.trim = .ok root ∧ Mentions settings.openings root.children other

/-- The inclusions that the rendering of a template may be inside of, the
innermost last, and the trees inside of them. -/
inductive Stacked (settings : Settings) (partials : Table Text) (template : List Node) :
    List Text → List Node → Prop where
  | outside : Stacked settings partials template [] template
  | inside {stack : List Text} {nodes : List Node} {name t : Text}
    {parser : Text → Except MarkupError Node} {root : Node} :
    Stacked settings partials template stack nodes → Mentions settings.openings nodes name →
    partials.get? name = some t → settings.parser = some parser → parser t.trim = .ok root →
    Stacked settings partials template (stack ++ [name]) root.children

variable {settings : Settings} {partials : Table Text} {template nodes : List Node}
  {stack : List Text}

theorem Stacked.mem_names (h : Stacked settings partials template stack nodes) :
    ∀ name ∈ stack, name ∈ partials.names := by
  induction h with
  | outside => exact List.forall_mem_nil _
  | @inside stack nodes name t parser root _ _ hGet _ _ ih =>
    refine List.forall_mem_append.2 ⟨ih, List.forall_mem_singleton.2 ?_⟩
    exact List.mem_map.2 ⟨(name, t), Table.mem_of_get? hGet, rfl⟩

open Relation (TransGen)

/-- Each partial on the stack leads to what the innermost trees ask for. -/
theorem Stacked.leads (h : Stacked settings partials template stack nodes) :
    ∀ name ∈ stack, ∀ other, Mentions settings.openings nodes other →
      TransGen (Includes settings partials) name other := by
  induction h with
  | outside => exact List.forall_mem_nil _
  | @inside stack nodes name t parser root _ hName hGet hParser hParse ih =>
    have hHere : ∀ other, Mentions settings.openings root.children other →
        Includes settings partials name other :=
      fun other hOther => ⟨t, parser, root, hGet, hParser, hParse, hOther⟩
    refine List.forall_mem_append.2 ⟨fun outer hOuter other hOther => ?_,
      List.forall_mem_singleton.2 fun other hOther => .single (hHere other hOther)⟩
    exact (ih outer hOuter name hName).tail (hHere other hOther)

/-- Each partial on the stack leads to those that come after it. -/
theorem Stacked.pairwise (h : Stacked settings partials template stack nodes) :
    stack.Pairwise (TransGen (Includes settings partials)) := by
  induction h with
  | outside => exact .nil
  | @inside stack nodes name t parser root hStacked hName _ _ _ ih =>
    refine List.pairwise_append.2 ⟨ih, List.pairwise_singleton _ _, fun outer hOuter => ?_⟩
    exact List.forall_mem_singleton.2 (hStacked.leads outer hOuter name hName)

/-- More inclusions inside each other than there are partials: one of them is
twice on the stack, and so leads to itself. -/
theorem Stacked.exists_twice (h : Stacked settings partials template stack nodes)
    (hMore : partials.length < stack.length) :
    ∃ twice, 2 ≤ stack.count twice ∧ TransGen (Includes settings partials) twice twice := by
  have hRepeats : ¬ stack.Nodup := by
    intro hNodup
    have hLength := (List.subperm_of_subset hNodup h.mem_names).length_le
    rw [Table.names, List.length_map] at hLength
    omega
  obtain ⟨twice, hTwice⟩ := List.exists_duplicate_iff_not_nodup.2 hRepeats
  have hSublist : [twice, twice].Sublist stack := List.duplicate_iff_sublist.1 hTwice
  refine ⟨twice, List.replicate_sublist_iff.1 hSublist, ?_⟩
  exact (List.pairwise_cons.1 (h.pairwise.sublist hSublist)).1 twice List.mem_cons_self

/-! ## 2. Runs that meet the limit -/

variable {α β : Type}

/-- Whether a run on the partials, if it meets the limit of inclusions, does
so inside inclusions of a kind. -/
def Rendering.MeetsIn (partials : Table Text) (holds : List Text → Prop)
    (x : Rendering Store α) : Prop :=
  ∀ store, store.partials = partials → (x.runFrom store).2.partials = partials
    ∧ ∀ limit chain, (x.runFrom store).1 = .error (.tooDeep limit chain) → holds chain

open Rendering (MeetsIn)

variable {holds : List Text → Prop}

/-- A step that may fail, but not at the limit. -/
theorem meetsIn_throw {e : RenderError} (h : ∀ limit chain, e ≠ .tooDeep limit chain) :
    MeetsIn (α := α) partials holds (throw e) :=
  fun _ hStore => ⟨hStore, fun limit chain hError =>
    absurd (Except.error.inj hError) (h limit chain)⟩

theorem congruence_meetsIn :
    Rendering.Congruence fun α (x _ : Rendering Store α) => MeetsIn partials holds x where
  pure _ _ hStore := ⟨hStore, fun _ _ hError => by cases hError⟩
  path e := meetsIn_throw fun _ _ => nofun
  loop e := meetsIn_throw fun _ _ => by cases e <;> nofun
  bind := by
    intro α β x _ f _ hFirst hNext store hStore
    have hRun := hFirst store hStore
    rw [Rendering.runFrom_bind]
    generalize x.runFrom store = first at hRun ⊢
    obtain ⟨result, store⟩ := first
    cases result with
    | ok a => exact hNext a store hRun.1
    | error e =>
      exact ⟨hRun.1, fun limit chain hError =>
        hRun.2 limit chain (congrArg _ (Except.error.inj hError))⟩

/-- A request ends with a partial of the store, at the limit, or in another
failure. -/
theorem fetch_store_cases (settings : Settings) (chain : List Text) (name : Text) (store : Store) :
    let run := (fetch settings (some Store.source) chain name).runFrom store
    (∃ t parser root, store.partials.get? name = some t ∧ settings.parser = some parser
        ∧ parser t.trim = .ok root ∧ run = (.ok root, store.asked name))
      ∨ settings.maxDepth ≤ chain.length
        ∧ run = (.error (.tooDeep settings.maxDepth (chain ++ [name])), store)
      ∨ ∃ e final, (∀ limit chain, e ≠ .tooDeep limit chain) ∧ final.partials = store.partials
        ∧ run = (.error e, final) := by
  intro run
  cases hParser : settings.parser with
  | none =>
    refine .inr (.inr ⟨.noParser name, store, by rintro _ _ ⟨⟩, rfl, ?_⟩)
    simp only [run, fetch, hParser]
    rfl
  | some parser =>
    by_cases hFull : settings.maxDepth ≤ chain.length
    · refine .inr (.inl ⟨hFull, ?_⟩)
      simp only [run, fetch, hParser, if_pos hFull]
      rfl
    · cases hGet : store.partials.get? name with
      | none =>
        refine .inr (.inr ⟨.load (.absent name), store.asked name, by rintro _ _ ⟨⟩, rfl, ?_⟩)
        simp only [run, fetch, hParser, if_neg hFull]
        rw [Rendering.runFrom_bind, ask_store, hGet]
      | some t =>
        cases hParse : parser t.trim with
        | error e =>
          refine .inr (.inr ⟨.markup e, store.asked name, by rintro _ _ ⟨⟩, rfl, ?_⟩)
          simp only [run, fetch, hParser, if_neg hFull]
          rw [Rendering.runFrom_bind, ask_store, hGet]
          simp only [hParse]
          rfl
        | ok root =>
          exact .inl ⟨t, parser, root, rfl, rfl, hParse, fetch_store hParser hFull hGet hParse⟩

/-- An inclusion that the innermost trees ask for. -/
theorem Stacked.meetsIn_fetch (h : Stacked settings partials template stack nodes) {name : Text}
    (hName : Mentions settings.openings nodes name)
    (hHere : settings.maxDepth ≤ stack.length → holds (stack ++ [name]))
    {f : Node → Rendering Store β}
    (hNext : ∀ root, Stacked settings partials template (stack ++ [name]) root.children →
      MeetsIn partials holds (f root)) :
    MeetsIn partials holds (fetch settings (some Store.source) stack name >>= f) := by
  intro store hStore
  rw [Rendering.runFrom_bind]
  rcases fetch_store_cases settings stack name store with
    ⟨t, parser, root, hGet, hParser, hParse, hFetch⟩ | ⟨hFull, hFetch⟩
      | ⟨e, final, hOther, hFinal, hFetch⟩
  · rw [hFetch]
    exact hNext root (h.inside hName (hStore ▸ hGet) hParser hParse) _ hStore
  · rw [hFetch]
    refine ⟨hStore, fun limit chain hError => ?_⟩
    cases hError
    exact hHere hFull
  · rw [hFetch]
    exact ⟨hFinal.trans hStore, fun limit chain hError =>
      absurd (Except.error.inj hError) (hOther limit chain)⟩

/-- The inclusions at which a rendering meets the limit. -/
theorem meetsIn_render (settings : Settings) (partials : Table Text) (template : Node)
    (data : Value) :
    MeetsIn partials (fun chain => ∃ stack name nodes, chain = stack ++ [name]
        ∧ settings.maxDepth ≤ stack.length
        ∧ Stacked settings partials template.children stack nodes
        ∧ Mentions settings.openings nodes name)
      (render settings (some Store.source) template data) := by
  unfold render
  split
  · exact meetsIn_throw fun _ _ => nofun
  · rw [renderWithin_eq_renderNested]
    -- Of the two sides of the relation only the first one counts, so the other is given.
    exact @Rendering.Congruence.renderNested _ _ _ congruence_meetsIn settings settings rfl
      _ (fun _ => Store.source) _ (fun _ _ _ => pure [])
      (Stacked settings partials template.children)
      (fun stack nodes name hStacked hName f _ hNext => hStacked.meetsIn_fetch hName
        (fun hFull => ⟨stack, name, nodes, rfl, hFull, hStacked, hName⟩) hNext)
      (fun _ _ _ _ => congruence_meetsIn.pure []) _ _ _ .outside data

/-- With fewer partials than inclusions that may be made inside each other,
a rendering that meets the limit has come to a partial inside itself. With as
many, each of them could have been included once, and no more is allowed. -/
theorem render_tooDeep {settings : Settings} {template : Node} {data : Value}
    {store final : Store} {limit : Int} {chain : List Text}
    (hFew : (store.partials.length : Int) < settings.maxDepth)
    (hRender : (render settings (some Store.source) template data).runFrom store
      = (.error (.tooDeep limit chain), final)) :
    ∃ stack name nodes, chain = stack ++ [name]
      ∧ Stacked settings store.partials template.children stack nodes
      ∧ Mentions settings.openings nodes name
      ∧ ∃ twice, 2 ≤ stack.count twice
        ∧ TransGen (Includes settings store.partials) twice twice := by
  have hMeets := (meetsIn_render settings store.partials template data store rfl).2 limit chain
  rw [hRender] at hMeets
  obtain ⟨stack, name, nodes, rfl, hFull, hStacked, hName⟩ := hMeets rfl
  exact ⟨stack, name, nodes, rfl, hStacked, hName, hStacked.exists_twice (by omega)⟩

/-- Two partials that include each other. -/
theorem render_tooDeep_mutual :
    let settings : Settings := ⟨[[]], 3, some parseMarkup⟩
    let partials : Table Text := [("a", "<i include=b></i>"), ("b", "<p><i include=a></i></p>")]
    let template : Node := .fragment [.element "i" [("include", "a")] []]
    (render settings (some Store.source) template .null).runFrom ⟨partials, []⟩
        = (.error (.tooDeep 3 ["a", "b", "a", "b"]), ⟨partials, ["a", "b", "a"]⟩)
      ∧ ∃ stack name nodes, (["a", "b", "a", "b"] : List Text) = stack ++ [name]
        ∧ Stacked settings partials template.children stack nodes
        ∧ Mentions settings.openings nodes name
        ∧ ∃ twice, 2 ≤ stack.count twice
          ∧ TransGen (Includes settings partials) twice twice := by
  intro settings partials template
  have hRender : (render settings (some Store.source) template .null).runFrom ⟨partials, []⟩
      = (.error (.tooDeep 3 ["a", "b", "a", "b"]), ⟨partials, ["a", "b", "a"]⟩) := by
    decide +kernel
  exact ⟨hRender, render_tooDeep (by decide) hRender⟩

end TreeTemplate
