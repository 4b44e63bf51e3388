/-
TreeTemplate.Proofs.Template.Requests — rendering and its source.

A rendering can do no more with its source than ask it for names and go on
with the answers. So two renderings of one template that differ in their
sources only are the same computation, and whatever is known of a request is
known of the rendering.

* `Rendering.Parallel` — the same computation with two sources.
* `parallel_render` — a rendering with two sources.
* `render_eq_of_load` — sources that answer alike.
* `Parallel.upholds` — what one request upholds, a rendering upholds.
-/
import TreeTemplate.Proofs.Template.Congruence
import TreeTemplate.Proofs.Template.Run

namespace TreeTemplate

variable {σ τ : Type} {source : Source σ} {source' : Source τ}

/-! ## 1. The same computation with two sources -/

/-- Two computations that are made in the same way of results, failures and
requests, each with its own source. -/
inductive Rendering.Parallel (source : Source σ) (source' : Source τ) :
    {α : Type} → Rendering σ α → Rendering τ α → Prop where
  | pure {α : Type} (a : α) : Parallel source source' (pure a) (pure a)
  | throw {α : Type} (e : RenderError) :
    Parallel source source' (throw e : Rendering σ α) (throw e)
  | request (name : Text) : Parallel source source' (ask source name) (ask source' name)
  | bind {α β : Type} {x : Rendering σ α} {y : Rendering τ α} {f : α → Rendering σ β}
    {g : α → Rendering τ β} : Parallel source source' x y →
    (∀ a, Parallel source source' (f a) (g a)) → Parallel source source' (x >>= f) (y >>= g)

open Rendering (Matches Parallel)

/-- Such computations are made of steps. -/
theorem congruence_parallel : Rendering.Congruence fun _ => Parallel source source' where
  pure := .pure
  path _ := .throw _
  loop _ := .throw _
  bind := .bind

theorem parallel_fetch (settings : Settings) (chain : List Text) (name : Text) :
    Parallel source source' (fetch settings (some source) chain name)
      (fetch settings (some source') chain name) := by
  unfold fetch
  cases settings.parser with
  | none => exact .throw _
  | some parser =>
    dsimp only
    split
    · exact .throw _
    · exact .bind (.request name) fun markup =>
      congruence_parallel.ofExcept (fun _ => .throw _) _

theorem parallel_renderWithin (settings : Settings) (remaining : Nat) (chain : List Text)
    (nodes : List Node) (c : Value) :
    Parallel source source' (renderWithin settings (some source) remaining chain nodes c)
      (renderWithin settings (some source') remaining chain nodes c) := by
  induction remaining generalizing chain nodes c with
  | zero =>
    unfold renderWithin
    exact congruence_parallel.renderNodes
      (fun name _ c => .bind (parallel_fetch settings chain name) fun _ => .pure []) _
  | succ remaining ih =>
    unfold renderWithin
    exact congruence_parallel.renderNodes
      (fun name _ c => .bind (parallel_fetch settings chain name) fun root => ih _ _ _) _

/-- A rendering is the same computation with every source. -/
theorem parallel_render (settings : Settings) (source : Source σ) (source' : Source τ)
    (template : Node) (data : Value) :
    Parallel source source' (render settings (some source) template data)
      (render settings (some source') template data) := by
  unfold render
  split
  · exact .throw _
  · exact parallel_renderWithin settings _ _ _ _

/-! ## 2. What follows from one request -/

/-- Sources that give the same answers in related states. -/
theorem Rendering.Parallel.matches {states : σ → τ → Prop} (excused : RenderError → Prop) {α : Type}
    {x : Rendering σ α} {y : Rendering τ α} (h : Parallel source source' x y)
    (hLoad : ∀ name s t, states s t → (source.load name s).1 = (source'.load name t).1 ∧
      states (source.load name s).2 (source'.load name t).2) :
    Matches states excused Eq x y := by
  induction h with
  | pure a => exact .pure rfl
  | throw e => exact .throw e
  | request name =>
    intro s t hStates
    obtain ⟨hAnswer, hNext⟩ := hLoad name s t hStates
    show Agrees states excused Eq ((source.load name s).1.mapError _, (source.load name s).2)
      ((source'.load name t).1.mapError _, (source'.load name t).2)
    rw [hAnswer]
    cases (source'.load name t).1 with
    | ok text => exact .ok rfl hNext
    | error e => exact .error hNext
  | bind _ _ ihFirst ihNext =>
    refine Matches.bind ihFirst ?_
    rintro a _ rfl
    exact ihNext a

/-- From sources that give the same answers the outcome is the same. -/
theorem render_eq_of_load (states : σ → τ → Prop)
    (hLoad : ∀ name s t, states s t → (source.load name s).1 = (source'.load name t).1 ∧
      states (source.load name s).2 (source'.load name t).2)
    (settings : Settings) (template : Node) (data : Value) {s : σ} {t : τ} (hStates : states s t) :
    ((render settings (some source) template data).runFrom s).1
      = ((render settings (some source') template data).runFrom t).1 := by
  have hRuns := (parallel_render settings source source' template data).matches
    (fun _ => False) hLoad s t hStates
  generalize (render settings (some source) template data).runFrom s = first at hRuns ⊢
  generalize (render settings (some source') template data).runFrom t = second at hRuns ⊢
  cases hRuns with
  | ok hSame _ => exact congrArg Except.ok hSame
  | error _ => rfl
  | excused hNever => exact hNever.elim

/-- A state after a request or a rendering: one from which it goes on, or
one in which it has failed. -/
def EndsIn {ε α : Type} (going ended : σ → Prop) : Except ε α × σ → Prop
  | (.ok _, state) => going state
  | (.error _, state) => ended state

/-- What every request upholds, in success and in failure, a rendering
upholds. -/
theorem Rendering.Parallel.upholds {going ended : σ → Prop} {α : Type} {x : Rendering σ α}
    {y : Rendering τ α} (h : Parallel source source' x y)
    (hAsk : ∀ name state, going state → EndsIn going ended (source.load name state))
    (hEnded : ∀ state, going state → ended state) {state : σ} (hState : going state) :
    EndsIn going ended (x.runFrom state) := by
  induction h generalizing state with
  | pure a => exact hState
  | throw e => exact hEnded state hState
  | request name =>
    have hLoad := hAsk name state hState
    show EndsIn going ended ((source.load name state).1.mapError _, (source.load name state).2)
    cases hAnswer : source.load name state with
    | mk answer next =>
      rw [hAnswer] at hLoad
      cases answer with
      | ok t => exact hLoad
      | error e => exact hLoad
  | bind _ _ ihFirst ihNext =>
    rw [Rendering.runFrom_bind]
    have hFirst := ihFirst hState
    split
    · next hRun =>
      rw [hRun] at hFirst
      exact ihNext _ hFirst
    · next hRun =>
      rw [hRun] at hFirst
      exact hFirst

end TreeTemplate
