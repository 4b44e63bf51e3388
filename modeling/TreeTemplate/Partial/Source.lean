/-
TreeTemplate.Partial.Source — where partials come from (the capability
`PartialLoader.load`, specification §6).

A source answers a request for a name with a text or an error, and may
change its state by it. Rendering knows of partials only this much.

* `Source` — the type.
* `Source.logged` — the same source, which besides keeps the names it was
  asked for, the latest last.
* `Source.empty` — the source that has nothing.
-/
import TreeTemplate.Partial.Error

namespace TreeTemplate

/-- A source of partials with states of type `σ`. -/
structure Source (σ : Type) where
  /-- The answer to a request, and the state after it. -/
  load : Text → σ → Except LoadError Text × σ

namespace Source

/-- The source with a list of the names it was asked for. -/
def logged {σ : Type} (source : Source σ) : Source (σ × List Text) where
  load name state :=
    let (answer, next) := source.load name state.1
    (answer, (next, state.2 ++ [name]))

/-- The source without partials. -/
def empty : Source Unit where
  load name state := (.error (.absent name), state)

end Source

end TreeTemplate
