/-
TreeTemplate.Partial.Directory — partials in a directory
(`FileSystemLoader`, specification §15).

The name of a partial is a path below a base directory. A name that leads
out of the base is refused, and so is one that leads to a file or through a
directory whose name begins with a dot.

* `locate` — the file that a name stands for (`resolve_path`).
* `loadFile` — its text (`load`).
-/
import TreeTemplate.Partial.Files

namespace TreeTemplate

/-- Whether the name of a file or a directory hides it. -/
def isHiddenName (name : Text) : Bool := name.startsWith here

/-- The names from the root of the partial with the given name, for a base
that is given by its names from the root. Slashes at the beginning of the
name count for nothing. -/
def locate (base : List Text) (name : Text) : Except LoadError (List Text) := do
  let inBase := name.dropWhile (· = .scalar '/')
  let way := base ++ Text.splitOn (.scalar '/') inBase
  Files.checkNames [] way
  let names := normalized way
  if base.isPrefixOf names then
    if (names.drop base.length).any isHiddenName then throw (.hidden name) else return names
  else throw (.outside name)

/-- The text of the partial with the given name. -/
def loadFile (files : Files) (base : List Text) (name : Text) : Except LoadError Text :=
  match locate base name with
  | .ok names => files.read ⟨"/", names⟩
  | .error e => .error e

end TreeTemplate
