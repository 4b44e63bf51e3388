/-
TreeTemplate.Proofs.Template.Run — two runs beside each other.

Most of what is said of rendering compares two runs: of two templates, on
two data values, from two sources. The runs start in related states and go
on step by step; they end in the same error, or in related results, and the
states are related again. The first run may also end in an error that
excuses the second from whatever it does.

* `Rendering.runFrom` — how a run ends.
* `Agrees`, `Rendering.Matches` — the ends of two runs, and two runs.
* `Matches.bind`, `Matches.ofExcept`, `matches_renderEach` — steps.
-/
import TreeTemplate.Proofs.Outcome
import TreeTemplate.Template.Render
import Mathlib.Data.List.Forall2

namespace TreeTemplate

/-! ## 1. Two runs -/

variable {σ τ α β γ δ : Type}

/-- The ends of two runs that agree. -/
inductive Agrees (states : σ → τ → Prop) (excused : RenderError → Prop) (results : α → β → Prop) :
    Except RenderError α × σ → Except RenderError β × τ → Prop where
  | ok {a : α} {b : β} {s : σ} {t : τ} : results a b → states s t →
    Agrees states excused results (.ok a, s) (.ok b, t)
  | error {e : RenderError} {s : σ} {t : τ} : states s t →
    Agrees states excused results (.error e, s) (.error e, t)
  | excused {e : RenderError} {s : σ} {run : Except RenderError β × τ} : excused e →
    Agrees states excused results (.error e, s) run

theorem Agrees.of_ok {states : σ → τ → Prop} {excused : RenderError → Prop}
    {results : α → β → Prop} {a : α} {s : σ} {run : Except RenderError β × τ}
    (h : Agrees states excused results (.ok a, s) run) :
    ∃ b t, run = (.ok b, t) ∧ results a b ∧ states s t := by
  cases h with
  | ok hResults hStates => exact ⟨_, _, rfl, hResults, hStates⟩

namespace Rendering

/-- How a run ends that starts in a state. -/
def runFrom (x : Rendering σ α) (s : σ) : Except RenderError α × σ := x s

/-- Two runs that agree, whatever related states they start in. -/
def Matches (states : σ → τ → Prop) (excused : RenderError → Prop) (results : α → β → Prop)
    (x : Rendering σ α) (y : Rendering τ β) : Prop :=
  ∀ s t, states s t → Agrees states excused results (x.runFrom s) (y.runFrom t)

/-- A step after another. -/
theorem runFrom_bind (x : Rendering σ α) (f : α → Rendering σ γ) (s : σ) :
    runFrom (x >>= f) s = match x.runFrom s with
      | (.ok a, s) => (f a).runFrom s
      | (.error e, s) => (.error e, s) := by
  show (match x.runFrom s with | (result, s) => ExceptT.bindCont f result s) = _
  obtain ⟨result, s⟩ := x.runFrom s
  cases result <;> rfl

variable {states : σ → τ → Prop} {excused : RenderError → Prop} {results : α → β → Prop}
  {results' : γ → δ → Prop}

theorem Matches.pure {a : α} {b : β} (h : results a b) :
    Matches states excused results (pure a) (pure b) :=
  fun _ _ hStates => .ok h hStates

theorem Matches.throw (e : RenderError) :
    Matches states excused results (throw e) (throw e) :=
  fun _ _ hStates => .error hStates

/-- A run beside itself. -/
theorem Matches.refl (x : Rendering σ α) : Matches Eq excused Eq x x := by
  rintro s _ rfl
  obtain ⟨result, s⟩ := x.runFrom s
  cases result with
  | ok a => exact .ok rfl rfl
  | error e => exact .error rfl

/-- A step after another, on both sides. -/
theorem Matches.bind {x : Rendering σ α} {y : Rendering τ β} {f : α → Rendering σ γ}
    {g : β → Rendering τ δ} (h : Matches states excused results x y)
    (hNext : ∀ a b, results a b → Matches states excused results' (f a) (g b)) :
    Matches states excused results' (x >>= f) (y >>= g) := by
  intro s t hStates
  rw [runFrom_bind, runFrom_bind]
  refine Agrees.casesOn (h s t hStates) ?_ ?_ ?_
  · intro a b s t hResults hStates
    exact hNext a b hResults s t hStates
  · intro e s t hStates
    exact .error hStates
  · intro e s run hExcused
    exact .excused hExcused

/-- A failure, beside a step after which the other goes on. -/
theorem Matches.throw_bind {e : RenderError} {y : Rendering τ β}
    (h : Matches states excused results (MonadExcept.throw e) y) (g : β → Rendering τ δ) :
    Matches states excused results' (MonadExcept.throw e) (y >>= g) := by
  intro s t hStates
  have hFirst := h s t hStates
  have hThrow {ι : Type} : runFrom (MonadExcept.throw e : Rendering σ ι) s = (.error e, s) := rfl
  rw [hThrow] at hFirst ⊢
  rw [runFrom_bind]
  generalize y.runFrom t = second at hFirst ⊢
  cases hFirst with
  | error hStates => exact .error hStates
  | excused hExcused => exact .excused hExcused

theorem Matches.imp {x : Rendering σ α} {y : Rendering τ β} {weaker : α → β → Prop}
    (h : Matches states excused results x y) (hImp : ∀ a b, results a b → weaker a b) :
    Matches states excused weaker x y := by
  intro s t hStates
  refine Agrees.casesOn (h s t hStates) ?_ ?_ ?_
  · intro a b s t hResults hStates
    exact .ok (hImp a b hResults) hStates
  · intro e s t hStates
    exact .error hStates
  · intro e s run hExcused
    exact .excused hExcused

/-- A result that uses no source. -/
theorem Matches.ofExcept {ε : Type} {wrap : ε → RenderError} {x : Except ε α} {y : Except ε β}
    (h : Outcomes results x y) :
    Matches states excused results (ofExcept wrap x) (ofExcept wrap y) := by
  cases h with
  | ok hResults => exact .pure hResults
  | error e => exact .throw _

end Rendering

open Rendering (Matches)

variable {states : σ → τ → Prop} {excused : RenderError → Prop}

/-- Renders for related contexts. -/
theorem matches_renderEach {contexts : Value → Value → Prop} {nodes : List Node → List Node → Prop}
    (hNil : nodes [] [])
    (hAppend : ∀ a b c d, nodes a b → nodes c d → nodes (a ++ c) (b ++ d))
    {body : Value → Rendering σ (List Node)} {body' : Value → Rendering τ (List Node)}
    (hBody : ∀ c d, contexts c d → Matches states excused nodes (body c) (body' d))
    {cs ds : List Value} (h : List.Forall₂ contexts cs ds) :
    Matches states excused nodes (renderEach body cs) (renderEach body' ds) := by
  induction h with
  | nil => exact .pure hNil
  | cons hHead _ ih =>
    refine Matches.bind (hBody _ _ hHead) fun a b hab => ?_
    exact Matches.bind ih fun c d hcd => .pure (hAppend a b c d hab hcd)

end TreeTemplate
