/-
TreeTemplate.Proofs.Template.Nesting — inclusions inside each other.

A partial may include others, and itself. The limit of inclusions is what
ends this: a partial is asked for only inside fewer inclusions than the
limit allows, so what stands deeper is never reached, and rendering needs no
other count. A greater limit changes nothing for a template that keeps to
the smaller one; for another, the rendering with the smaller limit is the
beginning of the other.

* `renderNested` — rendering level by level, where each level of inclusions
  may have a source of its own.
* `renderNested_eq_of_room` — levels that are not reached make no difference.
* `Congruence.renderNested` — relations that pass through inclusions.
* `Source.noted`, `renderNoted` — the requests with the inclusions around
  them.
* `render_limit` — two limits.
-/
import TreeTemplate.Proofs.Template.Cutting

namespace TreeTemplate

variable {σ τ : Type}

/-! ## 1. Levels of inclusions -/

/-- Renders a row of nodes inside the inclusions of `chain`, from a source
that may be another inside others. The trees of `count` levels are rendered,
each inside the one before; `deeper` renders those of the level after. -/
def renderNested (settings : Settings) (sourceAt : List Text → Source σ)
    (deeper : List Text → List Node → Value → Rendering σ (List Node)) :
    Nat → List Text → List Node → Value → Rendering σ (List Node)
  | 0, chain, nodes, context => deeper chain nodes context
  | count + 1, chain, nodes, context =>
    renderNodes settings.openings
      (fun name c => do
        let root ← fetch settings (some (sourceAt chain)) chain name
        renderNested settings sourceAt deeper count (chain ++ [name]) root.children c)
      nodes context

/-- Rendering with inclusions is rendering level by level. -/
theorem renderWithin_eq_renderNested (settings : Settings) (source : Source σ) (remaining : Nat)
    (chain : List Text) (nodes : List Node) (c : Value) :
    renderWithin settings (some source) remaining chain nodes c =
      renderNested settings (fun _ => source) (fun _ _ _ => pure []) (remaining + 1) chain
        nodes c := by
  induction remaining generalizing chain nodes c with
  | zero => rfl
  | succ remaining ih =>
    rw [renderWithin, renderNested]
    simp only [ih]

/-- Where there are levels for as many inclusions as the limit allows, it
makes no difference how many more there are, and what is done deeper: there
is no partial that is rendered there. -/
theorem renderNested_eq_of_room (settings : Settings) (sourceAt : List Text → Source σ)
    (deeper deeper' : List Text → List Node → Value → Rendering σ (List Node))
    {count count' : Nat} {chain : List Text} (hRoom : settings.maxDepth ≤ chain.length + count)
    (hRoom' : settings.maxDepth ≤ chain.length + count') (nodes : List Node) (c : Value) :
    renderNested settings sourceAt deeper (count + 1) chain nodes c =
      renderNested settings sourceAt deeper' (count' + 1) chain nodes c := by
  induction count generalizing count' chain nodes c with
  | zero =>
    rw [renderNested, renderNested]
    congr 1
    funext name c
    obtain ⟨e, hThrow⟩ : ∃ e, fetch settings (some (sourceAt chain)) chain name = throw e :=
      fetch_eq_throw (by simpa using hRoom) name
    rw [hThrow]
    rfl
  | succ count ih =>
    rw [renderNested, renderNested]
    congr 1
    funext name c
    by_cases hFull : settings.maxDepth ≤ chain.length
    · obtain ⟨e, hThrow⟩ : ∃ e, fetch settings (some (sourceAt chain)) chain name = throw e :=
        fetch_eq_throw hFull name
      rw [hThrow]
      rfl
    · obtain ⟨more, rfl⟩ : ∃ more, count' = more + 1 :=
        Nat.exists_eq_succ_of_ne_zero (by omega)
      refine congrArg _ (funext fun root => ih ?_ ?_ root.children c)
      · rw [List.length_append, List.length_singleton]
        omega
      · rw [List.length_append, List.length_singleton]
        omega

/-- A relation passes through inclusions if it passes through each partial
that is fetched; `holds` is what is known of a row of nodes and of the
inclusions around it. -/
theorem Rendering.Congruence.renderNested
    {R : (α : Type) → Rendering σ α → Rendering τ α → Prop} (hR : Congruence R)
    {settings settings' : Settings} (hOpenings : settings.openings = settings'.openings)
    {sourceAt : List Text → Source σ} {sourceAt' : List Text → Source τ}
    {deeper : List Text → List Node → Value → Rendering σ (List Node)}
    {deeper' : List Text → List Node → Value → Rendering τ (List Node)}
    (holds : List Text → List Node → Prop)
    (hFetch : ∀ chain nodes name, holds chain nodes → Mentions settings.openings nodes name →
      ∀ f g, (∀ root, holds (chain ++ [name]) root.children → R (List Node) (f root) (g root)) →
        R _ (fetch settings (some (sourceAt chain)) chain name >>= f)
          (fetch settings' (some (sourceAt' chain)) chain name >>= g))
    (hDeeper : ∀ chain nodes c, holds chain nodes →
      R _ (deeper chain nodes c) (deeper' chain nodes c))
    (count : Nat) {chain : List Text} {nodes : List Node} (hHolds : holds chain nodes)
    (c : Value) :
    R _ (TreeTemplate.renderNested settings sourceAt deeper count chain nodes c)
      (TreeTemplate.renderNested settings' sourceAt' deeper' count chain nodes c) := by
  induction count generalizing chain nodes c with
  | zero => exact hDeeper chain nodes c hHolds
  | succ count ih =>
    rw [TreeTemplate.renderNested, TreeTemplate.renderNested, ← hOpenings]
    refine hR.renderNodes (fun name hName c => ?_) c
    exact hFetch chain nodes name hHolds hName _ _ fun root hRoot => ih hRoot c

/-! ## 2. Two limits -/

open Rendering (Cuts Matches)

/-- A request beside itself. -/
theorem cuts_ask_logged (source : Source σ) (excused : RenderError → Prop) (name : Text) :
    Cuts Eq (fun s t : σ × List Text => s.2 <+: t.2) excused (ask source.logged name)
      (ask source.logged name) where
  ends := by
    rintro s _ rfl
    exact .same _ rfl
  grows := by
    intro s t hBehind
    exact hBehind.trans (List.prefix_append _ [name])

/-- A partial that is fetched under two limits, before something else. Where
the smaller one allows no more, it cuts the run short. -/
theorem cuts_fetch {openings : List Text} {limit limit' : Int} (hLimits : limit ≤ limit')
    (parser : Option (Text → Except MarkupError Node)) (source : Source σ) (chain : List Text)
    (name : Text) {f g : Node → Rendering (σ × List Text) (List Node)}
    (hNext : ∀ root, Cuts Eq (fun s t => s.2 <+: t.2) (fun e => ∃ chain, e = .tooDeep limit chain)
      (f root) (g root)) :
    Cuts Eq (fun s t => s.2 <+: t.2) (fun e => ∃ chain, e = .tooDeep limit chain)
      (fetch ⟨openings, limit, parser⟩ (some source.logged) chain name >>= f)
      (fetch ⟨openings, limit', parser⟩ (some source.logged) chain name >>= g) := by
  have hSame : Cuts Eq (fun s t => s.2 <+: t.2) (fun e => ∃ chain, e = .tooDeep limit chain)
      (fetch ⟨openings, limit', parser⟩ (some source.logged) chain name >>= f)
      (fetch ⟨openings, limit', parser⟩ (some source.logged) chain name >>= g) :=
    .bind ((parallel_fetch _ chain name).cuts (cuts_ask_logged source _)) hNext
  cases parser with
  | none => exact hSame
  | some parser =>
    by_cases hFull : limit ≤ chain.length
    · have hThrow : fetch ⟨openings, limit, some parser⟩ (some source.logged) chain name
          = throw (.tooDeep limit (chain ++ [name])) := if_pos hFull
      rw [hThrow]
      exact hSame.cut (fun s t hst => hst ▸ List.prefix_refl _) ⟨_, rfl⟩
    · have hRoom : fetch ⟨openings, limit, some parser⟩ (some source.logged) chain name
          = fetch ⟨openings, limit', some parser⟩ (some source.logged) chain name := by
        have hRoom' : ¬ limit' ≤ chain.length := by omega
        simp only [fetch, if_neg hFull, if_neg hRoom']
      rw [hRoom]
      exact hSame

/-- The runs under two limits. -/
theorem cuts_render {limit limit' : Int} (hLimits : limit ≤ limit') (openings : List Text)
    (parser : Option (Text → Except MarkupError Node)) (source : Source σ) (template : Node)
    (data : Value) :
    Cuts Eq (fun s t => s.2 <+: t.2) (fun e => ∃ chain, e = .tooDeep limit chain)
      (render ⟨openings, limit, parser⟩ (some source.logged) template data)
      (render ⟨openings, limit', parser⟩ (some source.logged) template data) := by
  unfold render
  split
  · exact .throw _
  · have hRoom (limit : Int) : limit ≤ ([] : List Text).length + limit.toNat := by
      simp only [List.length_nil]
      omega
    have hRoom' : limit ≤ ([] : List Text).length + limit'.toNat := by
      simp only [List.length_nil]
      omega
    have hOpenings : (⟨openings, limit, parser⟩ : Settings).openings
        = (⟨openings, limit', parser⟩ : Settings).openings := rfl
    rw [renderWithin_eq_renderNested, renderWithin_eq_renderNested]
    -- Both have as many levels as the greater limit asks for.
    rw [renderNested_eq_of_room _ _ _ (fun _ _ _ => pure []) (hRoom limit) hRoom']
    exact congruence_cuts.renderNested hOpenings (fun _ _ => True)
      (fun chain _ name _ _ f g hNext => cuts_fetch hLimits parser source chain name
        fun root => hNext root trivial)
      (fun _ _ _ _ => congruence_cuts.pure []) _ trivial data

/-! ## 3. Requests with the inclusions around them -/

/-- The source with a list of the names it was asked for, each after the
inclusions of `chain`. -/
def Source.noted (source : Source σ) (chain : List Text) :
    Source (σ × List (List Text × Text)) where
  load name state :=
    let (answer, next) := source.load name state.1
    (answer, (next, state.2 ++ [(chain, name)]))

/-- Renders the content of a template, and notes with each request the
inclusions around it, the innermost last. `deeper` stands for the trees that
are inside more inclusions than the limit allows. -/
def renderNoted (settings : Settings) (source : Source σ)
    (deeper : List Text → List Node → Value →
      Rendering (σ × List (List Text × Text)) (List Node)) (template : Node) (data : Value) :
    Rendering (σ × List (List Text × Text)) (List Node) :=
  if settings.openings = [] then throw .noOpenings
  else renderNested settings source.noted deeper (settings.maxDepth.toNat + 1) []
    template.children data

/-- The same requests, which in the notes are inside fewer inclusions than
the limit. -/
structure NotedWithin (limit : Int) (s : σ × List Text) (t : σ × List (List Text × Text)) :
    Prop where
  state : t.1 = s.1
  names : t.2.map Prod.snd = s.2
  within : ∀ request ∈ t.2, (request.1.length : Int) < limit

theorem matches_ask_noted (source : Source σ) {limit : Int} {chain : List Text}
    (hRoom : (chain.length : Int) < limit) (name : Text) :
    Matches (NotedWithin limit) (fun _ => False) Eq (ask source.logged name)
      (ask (source.noted chain) name) := by
  rintro ⟨_, _⟩ ⟨state, notes⟩ ⟨rfl, rfl, hWithin⟩
  have hNoted : NotedWithin limit ((source.load name state).2, notes.map Prod.snd ++ [name])
      ((source.load name state).2, notes ++ [(chain, name)]) := by
    refine ⟨rfl, by simp, fun request hRequest => ?_⟩
    rcases List.mem_append.1 hRequest with hRequest | hRequest
    · exact hWithin request hRequest
    · rw [List.mem_singleton.1 hRequest]
      exact hRoom
  show Agrees _ _ _ ((source.load name state).1.mapError _, _, _)
    ((source.load name state).1.mapError _, _, _)
  cases (source.load name state).1 with
  | ok t => exact .ok rfl hNoted
  | error e => exact .error hNoted

theorem congruence_matches {states : σ → τ → Prop} {excused : RenderError → Prop} :
    Rendering.Congruence fun α => Matches (α := α) states excused Eq where
  pure _ := .pure rfl
  path _ := .throw _
  loop _ := .throw _
  bind h hNext := h.bind fun a _ hSame => hSame ▸ hNext a

/-- A partial that is fetched, before something else. -/
theorem matches_fetch_noted (settings : Settings) (source : Source σ) (chain : List Text)
    (name : Text) {f : Node → Rendering (σ × List Text) (List Node)}
    {g : Node → Rendering (σ × List (List Text × Text)) (List Node)}
    (hNext : ∀ root, Matches (NotedWithin settings.maxDepth) (fun _ => False) Eq (f root) (g root)) :
    Matches (NotedWithin settings.maxDepth) (fun _ => False) Eq
      (fetch settings (some source.logged) chain name >>= f)
      (fetch settings (some (source.noted chain)) chain name >>= g) := by
  refine congruence_matches.bind ?_ hNext
  unfold fetch
  cases settings.parser with
  | none => exact .throw _
  | some parser =>
    dsimp only
    split
    · exact .throw _
    · next hRoom =>
      refine congruence_matches.bind (matches_ask_noted source (by omega) name) fun t => ?_
      exact congruence_matches.ofExcept (fun _ => .throw _) _

/-- The notes make no difference, and neither does what is done deeper. -/
theorem matches_render_noted (settings : Settings) (source : Source σ)
    (deeper : List Text → List Node → Value →
      Rendering (σ × List (List Text × Text)) (List Node)) (template : Node) (data : Value) :
    Matches (NotedWithin settings.maxDepth) (fun _ => False) Eq
      (render settings (some source.logged) template data)
      (renderNoted settings source deeper template data) := by
  unfold render renderNoted
  split
  · exact .throw _
  · have hRoom : settings.maxDepth ≤ ([] : List Text).length + settings.maxDepth.toNat := by
      simp only [List.length_nil]
      omega
    rw [renderWithin_eq_renderNested,
      renderNested_eq_of_room _ _ deeper (fun _ _ _ => pure []) hRoom hRoom]
    exact congruence_matches.renderNested rfl (fun _ _ => True)
      (fun chain _ name _ _ f g hNext => matches_fetch_noted settings source chain name
        fun root => hNext root trivial)
      (fun _ _ _ _ => congruence_matches.pure []) _ trivial data

/-- A template that is rendered with a limit of inclusions either meets the
limit, and then its requests are the first of those made with a greater one,
or comes to the same end with both, with the same requests. Each request is
made inside fewer inclusions than the limit, whatever the partials are, and
nothing that stands deeper is ever rendered. -/
theorem render_limit {limit limit' : Int} (hLimits : limit ≤ limit') (openings : List Text)
    (parser : Option (Text → Except MarkupError Node)) (source : Source σ) (template : Node)
    (data : Value) (state : σ)
    (deeper : List Text → List Node → Value →
      Rendering (σ × List (List Text × Text)) (List Node)) :
    let run (limit : Int) : Except RenderError (List Node) × (σ × List Text) :=
      (render ⟨openings, limit, parser⟩ (some source.logged) template data).runFrom (state, [])
    let noted : Except RenderError (List Node) × (σ × List (List Text × Text)) :=
      (renderNoted ⟨openings, limit, parser⟩ source deeper template data).runFrom (state, [])
    ((∃ chain, (run limit).1 = .error (.tooDeep limit chain))
          ∧ (run limit).2.2 <+: (run limit').2.2
        ∨ run limit = run limit')
      ∧ noted.1 = (run limit).1 ∧ noted.2.1 = (run limit).2.1
      ∧ noted.2.2.map Prod.snd = (run limit).2.2
      ∧ ∀ request ∈ noted.2.2, (request.1.length : Int) < limit := by
  intro run noted
  have hCuts := (cuts_render hLimits openings parser source template data).ends (state, [])
    (state, []) rfl
  have hNoted := matches_render_noted ⟨openings, limit, parser⟩ source deeper template data
    (state, []) (state, []) ⟨rfl, rfl, by simp⟩
  change CutAt _ _ _ (run limit) (run limit') at hCuts
  change Agrees _ _ _ (run limit) noted at hNoted
  refine ⟨?_, ?_⟩
  · generalize run limit = first at hCuts ⊢
    generalize run limit' = second at hCuts ⊢
    cases hCuts with
    | same result hStates => exact .inr (Prod.ext rfl hStates)
    | cut result hExcused hBehind =>
      obtain ⟨chain, rfl⟩ := hExcused
      exact .inl ⟨⟨chain, rfl⟩, hBehind⟩
  · generalize run limit = first at hNoted ⊢
    generalize noted = second at hNoted ⊢
    cases hNoted with
    | ok hSame hStates =>
      exact ⟨congrArg Except.ok hSame.symm, hStates.state, hStates.names, hStates.within⟩
    | error hStates => exact ⟨rfl, hStates.state, hStates.names, hStates.within⟩
    | excused hNever => exact hNever.elim

/-- A partial that includes itself, with two limits. -/
theorem render_limit_cycle :
    let source : Source Unit := ⟨fun _ state => (.ok "<b>x</b><i include=a></i>", state)⟩
    let template : Node := .fragment [.element "i" [("include", "a")] []]
    let deeper : List Text → List Node → Value →
        Rendering (Unit × List (List Text × Text)) (List Node) :=
      fun _ _ _ => pure [.text "never"]
    let run (limit : Int) : Except RenderError (List Node) × (Unit × List Text) :=
      (render ⟨[[]], limit, some parseMarkup⟩ (some source.logged) template .null).runFrom ((), [])
    let noted : Except RenderError (List Node) × (Unit × List (List Text × Text)) :=
      (renderNoted ⟨[[]], 1, some parseMarkup⟩ source deeper template .null).runFrom ((), [])
    ((run 1).1 = .error (.tooDeep 1 ["a", "a"]) ∧ (run 1).2.2 = ["a"])
      ∧ ((run 2).1 = .error (.tooDeep 2 ["a", "a", "a"]) ∧ (run 2).2.2 = ["a", "a"])
      ∧ noted.2.2 = [([], ("a" : Text))]
      ∧ ((∃ chain, (run 1).1 = .error (.tooDeep 1 chain)) ∧ (run 1).2.2 <+: (run 2).2.2
          ∨ run 1 = run 2)
      ∧ noted.1 = (run 1).1 ∧ noted.2.1 = (run 1).2.1
      ∧ noted.2.2.map Prod.snd = (run 1).2.2
      ∧ ∀ request ∈ noted.2.2, (request.1.length : Int) < 1 := by
  intro source template deeper run noted
  have hFirst : (run 1).1 = .error (.tooDeep 1 ["a", "a"]) ∧ (run 1).2.2 = ["a"] := by
    decide +kernel
  have hSecond : (run 2).1 = .error (.tooDeep 2 ["a", "a", "a"]) ∧ (run 2).2.2 = ["a", "a"] := by
    decide +kernel
  have hNoted : noted.2.2 = [([], ("a" : Text))] := by decide +kernel
  exact ⟨hFirst, hSecond, hNoted,
    render_limit (by decide) [[]] (some parseMarkup) source template .null () deeper⟩

end TreeTemplate
