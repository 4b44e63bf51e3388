/-
TreeTemplate.Template.Condition — elements under a condition
(`ConditionalFilter`, specification §4.4).

A condition is a path, negated by a `!` before it. It holds if what the
path finds counts as true, or, negated, if it does not.

* `Condition.ofText` — the path and the negation.
* `Condition.holds` — whether a condition holds of a value.
* `Decision` — what becomes of an element with a condition
  (`ConditionalFilter.decide`).
-/
import TreeTemplate.Text.Blank
import TreeTemplate.Value.Path

namespace TreeTemplate

/-- A path, and whether its truth is negated. -/
structure Condition where
  path : Text
  negated : Bool
deriving DecidableEq

namespace Condition

/-- The condition that a text spells. -/
def ofText (t : Text) : Condition :=
  match t.trim with
  | .scalar '!' :: rest => ⟨Text.trim rest, true⟩
  | path => ⟨path, false⟩

/-- Whether the condition holds of a value. -/
def holds (condition : Condition) (context : Value) : Except PathError Bool :=
  (context.resolve condition.path).map fun found => found.isTruthy != condition.negated

end Condition

/-- What becomes of an element with a condition. -/
inductive Decision where
  /-- The element is left out. -/
  | drop
  /-- The element stays, without the directive. -/
  | keep
  /-- The content of the element stays. -/
  | unwrap
deriving DecidableEq

/-- The tag of placeholders. -/
def placeholderTag : Text := "var"

/-- What becomes of an element with the tag under a condition. A
placeholder with a condition is there for the condition only. -/
def decisionFor (tag : Text) (expression : Text) (context : Value) : Except PathError Decision :=
  ((Condition.ofText expression).holds context).map fun holds =>
    if holds then if tag = placeholderTag then .unwrap else .keep else .drop

end TreeTemplate
