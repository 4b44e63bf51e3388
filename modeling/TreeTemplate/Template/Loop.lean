/-
TreeTemplate.Template.Loop — the contexts of a loop (`LoopExpander` and
`ContextBuilder`, specification §4.3).

A loop goes over a list or a dictionary. For each item it gives a context
of its own: the item's entries if it is a dictionary, else the item under
`_value`, and besides the place of the item. Nothing of the context
outside is left in it.

* `itemContext`, `entryContext` — the context of one item or entry
  (`build_for_item`, `build_for_entry`).
* `contextsOf?` — the contexts of a value, in order.
* `loopContexts` — the contexts of what a path finds (`iterations`).
-/
import TreeTemplate.Text.Blank
import TreeTemplate.Value.Path

namespace TreeTemplate

/-- The name of the place of an item, from zero. -/
def indexName : Text := "_index"

/-- The name that tells the first item of a list. -/
def firstName : Text := "_first"

/-- The name that tells the last item of a list. -/
def lastName : Text := "_last"

/-- The name of the key of an entry. -/
def keyName : Text := "_key"

/-- The name of an item that is not a dictionary. -/
def valueName : Text := "_value"

/-- The entries that an item brings into its context. -/
def ownEntries : Value → Table Value
  | .dict entries => entries
  | v => [(valueName, v)]

/-- The context of an item of a list with `total` items. -/
def itemContext (item : Value) (index total : Int) : Value :=
  .dict ((((ownEntries item).put indexName (.int index)).put firstName (.bool (index = 0))).put
    lastName (.bool (index = total - 1)))

/-- The context of an entry of a dictionary. -/
def entryContext (key : Text) (item : Value) (index : Int) : Value :=
  .dict (((ownEntries item).put keyName (.str key)).put indexName (.int index))

/-- The contexts for the items of a list from an index on. -/
def itemContexts (total : Int) : Int → List Value → List Value
  | _, [] => []
  | index, item :: rest => itemContext item index total :: itemContexts total (index + 1) rest

/-- The contexts for the entries of a dictionary from an index on. -/
def entryContexts : Int → List (Text × Value) → List Value
  | _, [] => []
  | index, (key, item) :: rest => entryContext key item index :: entryContexts (index + 1) rest

/-- The contexts of a list or a dictionary. -/
def contextsOf? : Found → Option (List Value)
  | some (.list items) => some (itemContexts items.length 0 items)
  | some (.dict entries) => some (entryContexts 0 entries)
  | _ => none

/-- Why a loop has no contexts. -/
inductive LoopError where
  | path (error : PathError)
  /-- What the path found is neither list nor dictionary, but of a kind. -/
  | notIterable (path kind : Text)
deriving DecidableEq

/-- The contexts of what the path of a loop finds. -/
def loopContexts (expression : Text) (context : Value) : Except LoopError (List Value) :=
  let path := expression.trim
  match context.resolve path with
  | .error e => .error (.path e)
  | .ok found =>
    match contextsOf? found with
    | some contexts => .ok contexts
    | none => .error (.notIterable path found.kind)

end TreeTemplate
