/-
TreeTemplate.Table — entries under names, in the order of their arrival.

Attributes of an element, entries of a data object, properties of a style
and partials of a store are all tables. Writing under a name that a table
holds keeps the entry's place.

* `Table.get?`, `Table.has` — the first entry of a name.
* `Table.put` — writes an entry; `names_put` says what becomes of the names.
* `Table.erase` — a table without a name.
* `Table.ofList` — writes entries one after another, so the last value of
  a repeated name stands at its first place.
-/
import TreeTemplate.Text.CodePoint

namespace TreeTemplate

/-- Entries under names, in order. -/
abbrev Table (α : Type) := List (Text × α)

namespace Table

variable {α : Type}

/-- The value of the first entry with the name. -/
def get? (table : Table α) (name : Text) : Option α :=
  match table with
  | [] => none
  | (key, value) :: rest => if key = name then some value else get? rest name

/-- Whether the table has an entry with the name. -/
def has (table : Table α) (name : Text) : Bool := table.any fun entry => entry.1 = name

/-- The names, in order. -/
def names (table : Table α) : List Text := table.map Prod.fst

/-- Writes an entry: in place if the name is there, else at the end. -/
def put (table : Table α) (name : Text) (value : α) : Table α :=
  if table.has name then
    table.map fun entry => if entry.1 = name then (entry.1, value) else entry
  else table ++ [(name, value)]

/-- The table without the entries of a name. -/
def erase (table : Table α) (name : Text) : Table α := table.filter fun entry => entry.1 ≠ name

/-- The table that holds the entries, written one after another. -/
def ofList (entries : List (Text × α)) : Table α :=
  entries.foldl (fun table entry => table.put entry.1 entry.2) []

/-- The table of the first entry of each name. -/
def firstOfEach (entries : List (Text × α)) : Table α :=
  entries.foldl (fun table entry => if table.has entry.1 then table else table ++ [entry]) []

/-! ## The names of a table -/

theorem has_eq_true_iff {table : Table α} {name : Text} :
    table.has name = true ↔ name ∈ table.names := by
  simp [has, names, List.any_eq_true]

theorem names_put (table : Table α) (name : Text) (value : α) :
    (table.put name value).names =
      if table.has name then table.names else table.names ++ [name] := by
  unfold put
  split
  · simp only [names, List.map_map]
    apply List.map_congr_left
    intro entry _
    by_cases h : entry.1 = name <;> simp [h]
  · simp [names]

end Table

end TreeTemplate
