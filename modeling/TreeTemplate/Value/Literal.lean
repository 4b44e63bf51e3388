/-
TreeTemplate.Value.Literal — values as literals, for messages.

A literal shows what a value is: texts stand between quotes, the words for
null and the truth values are capitalized, a floating-point number keeps
its point or exponent.

* `Value.literal` — the literal of a value.
* `Value.plain` — the same, except that a text stands for itself.
-/
import TreeTemplate.Number.Shortest
import TreeTemplate.Text.Quoted
import TreeTemplate.Value.Basic

namespace TreeTemplate.Value

mutual

/-- The literal of a value. -/
def literal : Value → Text
  | .null => "None"
  | .bool b => if b then "True" else "False"
  | .int n => Text.ofInt n
  | .float x => x.toText
  | .str t => t.quoted
  | .list items => .scalar '[' :: Text.joined ", " (literals items) ++ [.scalar ']']
  | .dict entries => .scalar '\x7b' :: Text.joined ", " (entryLiterals entries) ++ [.scalar '\x7d']

/-- The literals of values. -/
def literals : List Value → List Text
  | [] => []
  | v :: rest => literal v :: literals rest

/-- The literals of entries. -/
def entryLiterals : List (Text × Value) → List Text
  | [] => []
  | (name, v) :: rest => (name.quoted ++ (": " : Text) ++ literal v) :: entryLiterals rest

end

/-- A value in a message. -/
def plain : Value → Text
  | .str t => t
  | v => v.literal

end TreeTemplate.Value
