/-
TreeTemplate.Api.Vocabulary — the directives, for those who write templates
(`GET /api/v1/directives`, specification §14).

* `DirectiveKind.valueForm` — what stands in the value of a directive.
* `DirectiveKind.summary` — what a directive does.
* `vocabulary` — all of it, with the names under the configured openings.
-/
import TreeTemplate.Template.Condition
import TreeTemplate.Template.Directive
import TreeTemplate.Template.Loop

namespace TreeTemplate

namespace DirectiveKind

/-- The form of the value of a directive. -/
def valueForm : DirectiveKind → Text
  | inclusion => "path"
  | condition => "[!]path"
  | loop => "path"
  | style => "prop:path|prop:path"
  | attr => "name:path|name:path"

/-- What a directive does, in a sentence. -/
def summary : DirectiveKind → Text
  | inclusion => "Replace the element with the rendered partial loaded from path"
  | condition => "Keep (or unwrap a <var>) when truthy, drop the subtree when falsy"
  | loop => "Repeat the element for each list item or map entry at path"
  | style => "Set CSS properties, skipping null/undefined values"
  | attr => "Set attributes to the string form of each value"

/-- A kind of directives as a data value. -/
def description (openings : List Text) (kind : DirectiveKind) : Value :=
  .dict [("name", .str kind.word),
    ("attributes", .list (openings.map fun opening => .str (opening ++ kind.word))),
    ("syntax", .str kind.valueForm), ("description", .str kind.summary)]

end DirectiveKind

/-- The names that loops put into contexts. -/
def loopNames : List Text := [indexName, firstName, lastName, keyName, valueName]

/-- The directives in the order in which they act, the tag of placeholders
and the names that loops put into contexts. -/
def vocabulary (openings : List Text) : Value :=
  .dict [("directives", .list (DirectiveKind.all.map (DirectiveKind.description openings))),
    ("placeholder", .str placeholderTag), ("synthetic_keys", .list (loopNames.map .str))]

end TreeTemplate
