/-
TreeTemplate.Markup.Node — trees of markup (`TemplateNode`, specification
§3).

A node has a label, which says what it is, attributes in order, and
children. Labels other than elements and fragments have no use for
attributes and children and are made without, but may be given some.

* `Node.element`, `Node.text`, … — the ways to make a node.
* `Node.getAttr?`, `Node.withAttr`, `Node.withoutAttr` — attributes.
* `Node.textContent` — the texts in a node, one after another.
* `Node.induct` — induction on trees: a property that passes from the children
  to the node holds of all nodes.
-/
import TreeTemplate.Table

namespace TreeTemplate

/-- What a node is. -/
inductive Label where
  | element (tag : Text)
  | text (content : Text)
  | comment (content : Text)
  | doctype (content : Text)
  | fragment
deriving DecidableEq, Inhabited

/-- A tree of markup. -/
inductive Node where
  | mk (label : Label) (attrs : List (Text × Text)) (children : List Node)
deriving Inhabited

namespace Node

def label : Node → Label
  | mk label _ _ => label

/-- The attributes, in order. -/
def attrs : Node → Table Text
  | mk _ attrs _ => attrs

def children : Node → List Node
  | mk _ _ children => children

/-! ## 1. Making nodes -/

def element (tag : Text) (attrs : Table Text) (children : List Node) : Node :=
  mk (.element tag) attrs children

def text (content : Text) : Node := mk (.text content) [] []

def comment (content : Text) : Node := mk (.comment content) [] []

def doctype (content : Text) : Node := mk (.doctype content) [] []

def fragment (children : List Node) : Node := mk .fragment [] children

/-! ## 2. Asking and changing -/

/-- The tag of an element; empty for other nodes. -/
def tag (node : Node) : Text :=
  match node.label with
  | .element tag => tag
  | _ => []

def isElement (node : Node) : Bool :=
  match node.label with
  | .element _ => true
  | _ => false

def isText (node : Node) : Bool :=
  match node.label with
  | .text _ => true
  | _ => false

def getAttr? (node : Node) (name : Text) : Option Text := node.attrs.get? name

def hasAttr (node : Node) (name : Text) : Bool := node.attrs.has name

/-- The node with an attribute written, in place if it is there. -/
def withAttr (node : Node) (name value : Text) : Node :=
  mk node.label (node.attrs.put name value) node.children

/-- The node without an attribute. -/
def withoutAttr (node : Node) (name : Text) : Node :=
  mk node.label (node.attrs.erase name) node.children

def withChildren (node : Node) (children : List Node) : Node :=
  mk node.label node.attrs children

mutual

/-- The texts in a node, one after another. -/
def textContent : Node → Text
  | mk (.text content) _ _ => content
  | mk _ _ children => textContents children

/-- The texts in a row of nodes, one after another. -/
def textContents : List Node → Text
  | [] => []
  | node :: rest => textContent node ++ textContents rest

end

/-! ## 3. Induction and equality -/

theorem induct {motive : Node → Prop}
    (step : ∀ label attrs children, (∀ child ∈ children, motive child) →
      motive (mk label attrs children)) (node : Node) : motive node :=
  Node.rec (motive_1 := motive) (motive_2 := fun nodes => ∀ child ∈ nodes, motive child)
    step (fun _ h => absurd h (List.not_mem_nil))
    (fun _ _ hHead hTail child h => by
      rcases List.mem_cons.1 h with rfl | h
      · exact hHead
      · exact hTail child h) node

mutual

/-- Decides whether two nodes are the same. -/
def decEq : (a b : Node) → Decidable (a = b)
  | mk la as cs, mk lb bs ds =>
    if hl : la = lb then
      if ha : as = bs then
        match decEqNodes cs ds with
        | isTrue hc => isTrue (by rw [hl, ha, hc])
        | isFalse hc => isFalse (fun e => hc (Node.mk.inj e).2.2)
      else isFalse (fun e => ha (Node.mk.inj e).2.1)
    else isFalse (fun e => hl (Node.mk.inj e).1)

/-- Decides whether two rows of nodes are the same. -/
def decEqNodes : (as bs : List Node) → Decidable (as = bs)
  | [], [] => isTrue rfl
  | [], _ :: _ => isFalse nofun
  | _ :: _, [] => isFalse nofun
  | a :: as, b :: bs =>
    match decEq a b, decEqNodes as bs with
    | isTrue h, isTrue hs => isTrue (by rw [h, hs])
    | isFalse h, _ => isFalse (fun e => h (List.cons.inj e).1)
    | _, isFalse hs => isFalse (fun e => hs (List.cons.inj e).2)

end

instance : DecidableEq Node := decEq

end Node

end TreeTemplate
