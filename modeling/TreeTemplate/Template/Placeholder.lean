/-
TreeTemplate.Template.Placeholder — text from data (`VariableInterpolator`,
specification §4.7).

A placeholder is a `var` element. Its text is a path, and a text node with
what the path finds takes its place. The empty path stands for the current
item: the value under `_value` if the context has one, else the context.
-/
import TreeTemplate.Markup.Node
import TreeTemplate.Template.Condition
import TreeTemplate.Template.Loop
import TreeTemplate.Value.Spelling

namespace TreeTemplate

/-- What the path of a placeholder finds. -/
def placeholderValue (path : Text) (context : Value) : Except PathError Found :=
  if path = [] then
    match context with
    | .dict entries => .ok (some ((Table.get? entries valueName).getD context))
    | _ => .ok (some context)
  else context.resolve path

/-- The text for a placeholder with the given content. Missing values
give no text. -/
def placeholderText (content : Text) (context : Value) : Except PathError Text :=
  (placeholderValue content.trim context).map fun found =>
    if found.isMissing then [] else found.toText

end TreeTemplate
