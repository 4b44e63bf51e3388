/-
TreeTemplate.Template.Directive — attributes that direct the rendering
(`DirectiveDispatcher`, specification §4.2; the attributes themselves, §3).

There are five kinds of directives. Each is an attribute whose name is the
word of the kind after one of the configured openings, such as `data-` or
nothing.

* `DirectiveKind` — the kinds, and `DirectiveKind.all`, in the order in which
  they act.
* `directivesOf` — the directives of a node, in that order: of each kind the
  one with the first opening under which it is there (`extract`).
-/
import TreeTemplate.Markup.Node

namespace TreeTemplate

/-- What a directive does. -/
inductive DirectiveKind where
  /-- Puts a partial in the place of the element. -/
  | inclusion
  /-- Keeps or drops the element. -/
  | condition
  /-- Repeats the element. -/
  | loop
  /-- Writes style properties. -/
  | style
  /-- Writes attributes. -/
  | attr
deriving DecidableEq

namespace DirectiveKind

/-- The kinds, in the order in which they act. -/
def all : List DirectiveKind := [inclusion, condition, loop, style, attr]

/-- The word for a kind in the name of an attribute. -/
def word : DirectiveKind → Text
  | inclusion => "include"
  | condition => "if"
  | loop => "loop"
  | style => "style"
  | attr => "attr"

end DirectiveKind

/-- A directive on an element: the name of the attribute as it is spelled
there, and its value. -/
structure Directive where
  kind : DirectiveKind
  name : Text
  value : Text
deriving DecidableEq

/-- The directive of a kind among attributes, under the first opening that
gives one. -/
def directiveOf? (openings : List Text) (attrs : Table Text) (kind : DirectiveKind) :
    Option Directive :=
  openings.findSome? fun opening =>
    (attrs.get? (opening ++ kind.word)).map fun value => ⟨kind, opening ++ kind.word, value⟩

/-- The directives among the attributes of an element, in the order in
which they act. -/
def directivesAmong (openings : List Text) (attrs : Table Text) : List Directive :=
  DirectiveKind.all.filterMap (directiveOf? openings attrs)

/-- The directives of a node; only elements have any. -/
def directivesOf (openings : List Text) (node : Node) : List Directive :=
  if node.isElement then directivesAmong openings node.attrs else []

/-- The node without the attribute of a directive. -/
def Node.without (node : Node) (directive : Directive) : Node :=
  node.withoutAttr directive.name

end TreeTemplate
