/-
TreeTemplate.Template.Binding — attributes and properties from data
(`AttributeBinder` and `StyleBinder`, specification §4.6).

A binding is a row of pairs with `|` between them; a pair is a name, a
colon and a path. A pair without a colon has the empty path. Pairs without
a name are passed over.

* `pairsOf` — the pairs of a text (`parse_pairs`).
* `bindAttrs` — writes, for each pair, an attribute with the text of what the
  path finds (`AttributeBinder.apply`). Names are compared as they are
  spelled, as everywhere in a tree.
* `bindStyle` — writes, for each pair whose path finds something, a property
  of the inline style (`StyleBinder.apply`). The attribute is not touched if
  no path finds anything.
-/
import TreeTemplate.Template.Style
import TreeTemplate.Value.Path
import TreeTemplate.Value.Spelling

namespace TreeTemplate

/-- The pair that a piece between bars spells. -/
def pair? (piece : Text) : Option (Text × Text) :=
  let (name, path) := Text.cut (.scalar ':') piece
  if name.isBlank then none else some (name.trim, Text.trim (path.getD []))

/-- The pairs of names and paths in a text. -/
def pairsOf (t : Text) : List (Text × Text) := (t.splitOn (.scalar '|')).filterMap pair?

/-! ## 1. Attributes -/

/-- Writes an attribute for each pair. -/
def bindPairs (context : Value) : List (Text × Text) → Table Text → Except PathError (Table Text)
  | [], attrs => .ok attrs
  | (name, path) :: rest, attrs =>
    match context.resolve path with
    | .ok found => bindPairs context rest (attrs.put name found.toText)
    | .error e => .error e

/-- Writes the attributes that a binding names. -/
def bindAttrs (binding : Text) (context : Value) (attrs : Table Text) :
    Except PathError (Table Text) :=
  bindPairs context (pairsOf binding) attrs

/-! ## 2. Style -/

/-- The name of the attribute with the inline style. -/
def styleName : Text := "style"

/-- The properties that pairs give, with their normal names; those whose
path finds nothing or null are left out. -/
def foundProperties (context : Value) : List (Text × Text) → Except PathError (List (Text × Text))
  | [] => .ok []
  | (name, path) :: rest =>
    match context.resolve path with
    | .error e => .error e
    | .ok found =>
      (foundProperties context rest).map fun properties =>
        if found.isMissing then properties
        else (propertyName name, found.toText) :: properties

/-- Writes the properties that a binding names into the inline style. -/
def bindStyle (binding : Text) (context : Value) (attrs : Table Text) :
    Except PathError (Table Text) :=
  (foundProperties context (pairsOf binding)).map fun properties =>
    if properties = [] then attrs
    else
      let before := Style.ofText ((attrs.get? styleName).getD [])
      let style := properties.foldl (fun style property => style.put property.1 property.2) before
      attrs.put styleName style.toText

end TreeTemplate
