/-
TreeTemplate.Proofs.Partial.Store — partials in memory.

A store answers a request from its table and never changes the table; it
only notes the request.

* `Store.source` — a store as a source of partials.
* `fetch_store` — a partial that is there.
* `matches_fetch_store` — the same partial at two places.
-/
import TreeTemplate.Partial.Loader
import TreeTemplate.Proofs.Template.Likeness

namespace TreeTemplate

/-- A store as a source of partials. -/
def Store.source : Source Store := ⟨Store.load⟩

/-- The store after a request. -/
def Store.asked (store : Store) (name : Text) : Store :=
  { store with requests := store.requests ++ [name] }

open Rendering (Matches)

theorem ask_store (name : Text) (store : Store) :
    (ask Store.source name).runFrom store =
      (match store.partials.get? name with
        | some t => .ok t
        | none => .error (.load (.absent name)), store.asked name) := by
  show ((match store.partials.get? name with
    | some t => .ok t
    | none => .error (LoadError.absent name) : Except LoadError Text).mapError RenderError.load,
      store.asked name) = _
  cases store.partials.get? name <;> rfl

/-- A partial that is there and can be parsed. -/
theorem fetch_store {settings : Settings} {parser : Text → Except MarkupError Node}
    (hParser : settings.parser = some parser) {chain : List Text}
    (hRoom : ¬ settings.maxDepth ≤ chain.length) {store : Store} {name t : Text} {root : Node}
    (hGet : store.partials.get? name = some t) (hParse : parser t.trim = .ok root) :
    (fetch settings (some Store.source) chain name).runFrom store
      = (.ok root, store.asked name) := by
  simp only [fetch, hParser, if_neg hRoom]
  rw [Rendering.runFrom_bind, ask_store, hGet]
  simp only [hParse]
  rfl

/-- Two stores of the same partials. -/
def Store.Alike (partials : Table Text) (store store' : Store) : Prop :=
  store.partials = partials ∧ store'.partials = partials

theorem matches_ask_store (partials : Table Text) (name : Text) :
    Matches (Store.Alike partials) (fun _ => True) Eq (ask Store.source name)
      (ask Store.source name) := by
  rintro store store' ⟨hStore, hStore'⟩
  rw [ask_store, ask_store, hStore, hStore']
  cases partials.get? name with
  | none => exact .error ⟨hStore, hStore'⟩
  | some t => exact .ok rfl ⟨hStore, hStore'⟩

/-- The same partial, where the second place is inside no more inclusions
than the first. -/
theorem matches_fetch_store (L : Likeness) {settings : Settings} {partials : Table Text}
    (hFits : ∀ parser t root, settings.parser = some parser → parser t = .ok root →
      Everywhere L.Fits root.children)
    {chain chain' : List Text} (hShort : chain'.length ≤ chain.length) (name : Text) :
    Matches (Store.Alike partials) (fun _ => True)
      (fun root root' => root = root' ∧ Everywhere L.Fits root.children)
      (fetch settings (some Store.source) chain name)
      (fetch settings (some Store.source) chain' name) := by
  by_cases hFull : settings.maxDepth ≤ chain.length
  · obtain ⟨e, hThrow⟩ : ∃ e, fetch settings (some Store.source) chain name = throw e :=
      fetch_eq_throw hFull name
    rw [hThrow]
    exact fun _ _ _ => .excused trivial
  · have hFull' : ¬ settings.maxDepth ≤ chain'.length := by omega
    rw [fetch_eq_of_room hFull' hFull]
    exact matches_fetch L hFits (matches_ask_store partials name) chain

end TreeTemplate
