/-
TreeTemplate.Proofs.Template.Cutting — runs that are cut short.

Of two runs of one computation the first may end in an error where the
second goes on: a partial is missing, or the inclusions are too many. Until
then they are the same, so what the first has asked for is the beginning of
what the second asks for. This needs two things of a computation: that the
runs agree until the cut, and that the second never takes a request back.

* `CutAt`, `Rendering.Cuts` — the ends of such runs, and such runs.
* `congruence_cuts`, `Parallel.cuts` — from steps and requests to renderings.
* `render_morePartials` — partials that are added to a store.
-/
import TreeTemplate.Proofs.Partial.Store
import TreeTemplate.Proofs.Table
import TreeTemplate.Proofs.Template.Requests

namespace TreeTemplate

/-! ## 1. Runs of which the first is cut short -/

variable {σ τ α β : Type}

/-- The ends of two runs: the same in related states, or an error that
excuses the first, in a state behind that of the second. -/
inductive CutAt (states behind : σ → τ → Prop) (excused : RenderError → Prop) :
    Except RenderError α × σ → Except RenderError α × τ → Prop where
  | same (result : Except RenderError α) {s : σ} {t : τ} : states s t →
    CutAt states behind excused (result, s) (result, t)
  | cut {e : RenderError} {s : σ} (result : Except RenderError α) {t : τ} : excused e →
    behind s t → CutAt states behind excused (.error e, s) (result, t)

/-- Two computations of which the first may be cut short. A state that is
behind stays so while the second goes on. -/
structure Rendering.Cuts (states behind : σ → τ → Prop) (excused : RenderError → Prop)
    (x : Rendering σ α) (y : Rendering τ α) : Prop where
  ends : ∀ s t, states s t → CutAt states behind excused (x.runFrom s) (y.runFrom t)
  grows : ∀ s t, behind s t → behind s (y.runFrom t).2

open Rendering (Cuts Parallel)

variable {states behind : σ → τ → Prop} {excused : RenderError → Prop}

theorem Rendering.Cuts.throw (e : RenderError) :
    Cuts states behind excused (throw e : Rendering σ α) (throw e) where
  ends _ _ hStates := .same (.error e) hStates
  grows _ _ hBehind := hBehind

/-- A step after another. -/
theorem Rendering.Cuts.bind {x : Rendering σ α} {y : Rendering τ α} {f : α → Rendering σ β}
    {g : α → Rendering τ β} (h : Cuts states behind excused x y)
    (hNext : ∀ a, Cuts states behind excused (f a) (g a)) :
    Cuts states behind excused (x >>= f) (y >>= g) where
  ends := by
    intro s t hStates
    have hFirst := h.ends s t hStates
    rw [Rendering.runFrom_bind, Rendering.runFrom_bind]
    generalize x.runFrom s = first at hFirst ⊢
    generalize y.runFrom t = second at hFirst ⊢
    cases hFirst with
    | same result hStates =>
      cases result with
      | ok a => exact (hNext a).ends _ _ hStates
      | error e => exact .same (.error e) hStates
    | cut result hExcused hBehind =>
      cases result with
      | ok a => exact .cut _ hExcused ((hNext a).grows _ _ hBehind)
      | error e => exact .cut (.error e) hExcused hBehind
  grows := by
    intro s t hBehind
    have hFirst := h.grows s t hBehind
    rw [Rendering.runFrom_bind]
    split
    · next a t hRun =>
      rw [hRun] at hFirst
      exact (hNext a).grows s t hFirst
    · next e t hRun =>
      rw [hRun] at hFirst
      exact hFirst

/-- A failure that cuts a computation short. -/
theorem Rendering.Cuts.cut (hStates : ∀ s t, states s t → behind s t) {e : RenderError}
    (hExcused : excused e) {x : Rendering σ α} {y : Rendering τ α}
    (h : Cuts states behind excused x y) :
    Cuts states behind excused (MonadExcept.throw e : Rendering σ α) y where
  ends s t hst := .cut (y.runFrom t).1 hExcused (h.grows s t (hStates s t hst))
  grows := h.grows

theorem congruence_cuts :
    Rendering.Congruence fun α => Cuts (α := α) states behind excused where
  pure a := ⟨fun _ _ hStates => .same (.ok a) hStates, fun _ _ hBehind => hBehind⟩
  path _ := .throw _
  loop _ := .throw _
  bind := .bind

/-- A computation with two sources, if each request keeps to it. -/
theorem Rendering.Parallel.cuts {source : Source σ} {source' : Source τ} {x : Rendering σ α}
    {y : Rendering τ α} (h : Parallel source source' x y)
    (hAsk : ∀ name, Cuts states behind excused (ask source name) (ask source' name)) :
    Cuts states behind excused x y := by
  induction h with
  | pure a => exact congruence_cuts.pure a
  | throw e => exact .throw e
  | request name => exact hAsk name
  | bind _ _ ihFirst ihNext => exact .bind ihFirst ihNext

/-! ## 2. Partials that are added -/

/-- Whether each partial of a table is in another, with the same text. -/
def Extends (partials partials' : Table Text) : Prop :=
  ∀ name t, partials.get? name = some t → partials'.get? name = some t

variable {partials partials' : Table Text}

/-- A request to stores of which the second may have more partials. -/
theorem cuts_ask_store (hExtends : Extends partials partials') (name : Text) :
    Cuts (fun store store' => store.partials = partials ∧ store'.partials = partials'
        ∧ store.requests = store'.requests)
      (fun store store' => store.requests <+: store'.requests)
      (fun e => ∃ name, e = .load (.absent name)) (ask Store.source name)
      (ask Store.source name) where
  ends := by
    rintro store store' ⟨rfl, rfl, hRequests⟩
    have hAsked : (store.asked name).requests = (store'.asked name).requests :=
      congrArg (· ++ [name]) hRequests
    rw [ask_store, ask_store]
    cases hGet : store.partials.get? name with
    | none =>
      exact .cut _ ⟨name, rfl⟩ (hAsked ▸ List.prefix_refl _)
    | some t =>
      rw [hExtends name t hGet]
      exact .same (.ok t) ⟨rfl, rfl, hAsked⟩
  grows := by
    intro store store' hBehind
    rw [ask_store]
    exact hBehind.trans (List.prefix_append _ [name])

/-- What is rendered from a store is rendered from one with more partials to
the same nodes, with the same requests. If a partial is missing, the requests
up to it are the first of those that are made with more; another failure
stays as it is, with the same requests. -/
theorem render_morePartials (hExtends : Extends partials partials') (settings : Settings)
    (template : Node) (data : Value) (requests : List Text) :
    let run (partials : Table Text) : Except RenderError (List Node) × Store :=
      (render settings (some Store.source) template data).runFrom ⟨partials, requests⟩
    (∀ output, (run partials).1 = .ok output →
        (run partials').1 = .ok output ∧ (run partials').2.requests = (run partials).2.requests)
      ∧ (∀ name, (run partials).1 = .error (.load (.absent name)) →
        (run partials).2.requests <+: (run partials').2.requests)
      ∧ ∀ e, (∀ name, e ≠ .load (.absent name)) → (run partials).1 = .error e →
        (run partials').1 = .error e
          ∧ (run partials').2.requests = (run partials).2.requests := by
  intro run
  have hParallel := parallel_render settings Store.source Store.source template data
  have hRuns := (hParallel.cuts (cuts_ask_store hExtends)).ends ⟨partials, requests⟩
    ⟨partials', requests⟩ ⟨rfl, rfl, rfl⟩
  change CutAt _ _ _ (run partials) (run partials') at hRuns
  generalize run partials = first at hRuns ⊢
  generalize run partials' = second at hRuns ⊢
  cases hRuns with
  | same result hStates =>
    have hRequests := hStates.2.2
    refine ⟨fun output hOk => ⟨hOk, hRequests.symm⟩, fun name _ => ?_,
      fun e _ hError => ⟨hError, hRequests.symm⟩⟩
    exact hRequests ▸ List.prefix_refl _
  | cut result hExcused hBehind =>
    obtain ⟨missing, rfl⟩ := hExcused
    refine ⟨fun output hOk => ?_, fun name _ => hBehind, fun e hOther hError => ?_⟩
    · cases hOk
    · cases hError
      exact absurd rfl (hOther missing)

/-- A partial that is missing between two inclusions of another, and is
added before it. -/
theorem render_morePartials_missing :
    let template : Node := .fragment [.element "i" [("include", "a")] [],
      .element "i" [("include", "b")] [], .element "i" [("include", "a")] []]
    let few : Table Text := [("a", "A")]
    let more : Table Text := [("b", "<b>B</b>"), ("a", "A")]
    let run (partials : Table Text) : Except RenderError (List Node) × Store :=
      (render ⟨[[]], 4, some parseMarkup⟩ (some Store.source) template .null).runFrom ⟨partials, []⟩
    Extends few more
      ∧ run few = (.error (.load (.absent "b")), ⟨few, ["a", "b"]⟩)
      ∧ run more = (.ok [.text "A", .element "b" [] [.text "B"], .text "A"],
          ⟨more, ["a", "b", "a"]⟩)
      ∧ (∀ output, (run few).1 = .ok output →
          (run more).1 = .ok output ∧ (run more).2.requests = (run few).2.requests)
      ∧ (∀ name, (run few).1 = .error (.load (.absent name)) →
          (run few).2.requests <+: (run more).2.requests)
      ∧ ∀ e, (∀ name, e ≠ .load (.absent name)) → (run few).1 = .error e →
          (run more).1 = .error e ∧ (run more).2.requests = (run few).2.requests := by
  intro template few more run
  have hExtends : Extends few more := by
    intro name t hGet
    obtain ⟨rfl, rfl⟩ : name = "a" ∧ t = "A" := by simpa [few] using Table.mem_of_get? hGet
    decide
  have hFew : run few = (.error (.load (.absent "b")), ⟨few, ["a", "b"]⟩) := by decide +kernel
  have hMore : run more = (.ok [.text "A", .element "b" [] [.text "B"], .text "A"],
      ⟨more, ["a", "b", "a"]⟩) := by decide +kernel
  exact ⟨hExtends, hFew, hMore,
    render_morePartials hExtends ⟨[[]], 4, some parseMarkup⟩ template .null []⟩

end TreeTemplate
