/-
TreeTemplate.Template.Style — inline styles (specification §4.6).

An inline style is a row of declarations with semicolons between them; a
declaration is a property, a colon and a value. Names of properties are
written in small letters, except those that begin with two hyphens.

* `propertyName` — the normal form of a name.
* `Style.ofText`, `Style.toText` — between texts and tables of properties
  (`parse_css`, `format_css`).
-/
import TreeTemplate.Table
import TreeTemplate.Text.Blank
import TreeTemplate.Text.Casing

namespace TreeTemplate

/-- The properties of an inline style, in order. -/
abbrev Style := Table Text

/-- The normal form of the name of a property. -/
def propertyName (name : Text) : Text :=
  let name := name.trim
  if name.startsWith "--" then name else name.lower

namespace Style

/-- The property and the value of a declaration; one without a colon or
without a name declares nothing. -/
def declaration? (t : Text) : Option (Text × Text) :=
  match Text.cut (.scalar ':') t with
  | (name, some value) => if name.isBlank then none else some (propertyName name, value.trim)
  | (_, none) => none

/-- The properties that a text declares. -/
def ofText (t : Text) : Style :=
  Table.ofList ((t.splitOn (.scalar ';')).filterMap declaration?)

/-- The text of a declaration. -/
def declarationText (property : Text × Text) : Text :=
  property.1 ++ (": " : Text) ++ property.2 ++ [.scalar ';']

/-- The text of an inline style. -/
def toText (style : Style) : Text := Text.joined " " (style.map declarationText)

end Style

end TreeTemplate
