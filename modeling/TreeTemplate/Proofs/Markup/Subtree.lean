/-
TreeTemplate.Proofs.Markup.Subtree — the nodes in a tree, at every depth.

* `Node.subtrees`, `Node.subtreesOfAll` — a node and all nodes below it, in
  the order of the text.
* `Everywhere` — a property of all nodes in a row of trees. It passes to
  and from heads, tails, children and joined rows; `Everywhere.induct` is
  the induction on trees that have it.
-/
import TreeTemplate.Markup.Node

namespace TreeTemplate

namespace Node

mutual

/-- The node and the nodes below it. -/
def subtrees : Node → List Node
  | mk label attrs children => mk label attrs children :: subtreesOfAll children

/-- The nodes of a row, and the nodes below them. -/
def subtreesOfAll : List Node → List Node
  | [] => []
  | node :: rest => subtrees node ++ subtreesOfAll rest

end

theorem subtrees_eq (node : Node) : node.subtrees = node :: subtreesOfAll node.children := by
  cases node with
  | mk label attrs children => rw [subtrees]; rfl

theorem subtreesOfAll_eq (nodes : List Node) : subtreesOfAll nodes = nodes.flatMap subtrees := by
  induction nodes with
  | nil => rfl
  | cons node rest ih => rw [subtreesOfAll, ih, List.flatMap_cons]

end Node

/-- Whether a property holds of all nodes in a row of trees. -/
def Everywhere (p : Node → Prop) (nodes : List Node) : Prop :=
  ∀ node ∈ Node.subtreesOfAll nodes, p node

variable {p q : Node → Prop} {nodes others : List Node} {node : Node}

theorem everywhere_iff : Everywhere p nodes ↔ ∀ node ∈ nodes, ∀ m ∈ node.subtrees, p m := by
  simp only [Everywhere, Node.subtreesOfAll_eq, List.mem_flatMap, forall_exists_index, and_imp]
  exact ⟨fun h node hNode m hm => h m node hNode hm, fun h m node hNode hm => h node hNode m hm⟩

theorem everywhere_nil : Everywhere p [] := everywhere_iff.2 fun _ h => absurd h List.not_mem_nil

/-- The property holds of the head, below it, and of the others. -/
theorem everywhere_cons :
    Everywhere p (node :: nodes) ↔ p node ∧ Everywhere p node.children ∧ Everywhere p nodes := by
  rw [everywhere_iff, List.forall_mem_cons, ← everywhere_iff, Node.subtrees_eq,
    List.forall_mem_cons, and_assoc]
  rfl

theorem everywhere_singleton : Everywhere p [node] ↔ p node ∧ Everywhere p node.children := by
  rw [everywhere_cons]
  exact ⟨fun h => ⟨h.1, h.2.1⟩, fun h => ⟨h.1, h.2, everywhere_nil⟩⟩

/-- Tree by tree. -/
theorem everywhere_of_forall_mem (h : ∀ node ∈ nodes, Everywhere p [node]) :
    Everywhere p nodes :=
  everywhere_iff.2 fun node hNode => everywhere_iff.1 (h node hNode) node List.mem_cons_self

theorem everywhere_append :
    Everywhere p (nodes ++ others) ↔ Everywhere p nodes ∧ Everywhere p others := by
  simp only [everywhere_iff, List.forall_mem_append]

theorem everywhere_reverse : Everywhere p nodes.reverse ↔ Everywhere p nodes := by
  simp only [everywhere_iff, List.mem_reverse]

theorem Everywhere.of_mem (h : Everywhere p nodes) (hNode : node ∈ nodes) :
    p node ∧ Everywhere p node.children := by
  have hAll := everywhere_iff.1 h node hNode
  rw [Node.subtrees_eq, List.forall_mem_cons] at hAll
  exact hAll

theorem Everywhere.imp (h : Everywhere p nodes) (hImp : ∀ node, p node → q node) :
    Everywhere q nodes :=
  fun node hNode => hImp node (h node hNode)

/-- Induction on trees whose nodes all have a property: what passes from the
children to such a node holds of all nodes in the row. -/
theorem Everywhere.induct {motive : Node → Prop} (h : Everywhere p nodes)
    (step : ∀ label attrs children, p (.mk label attrs children) →
      (∀ child ∈ children, motive child) → motive (.mk label attrs children)) :
    ∀ node ∈ nodes, motive node := by
  intro node hNode
  have hTree : Everywhere p [node] := everywhere_singleton.2 (h.of_mem hNode)
  clear h hNode
  induction node using Node.induct with
  | step label attrs children ih =>
    obtain ⟨hHere, hBelow⟩ := everywhere_singleton.1 hTree
    exact step label attrs children hHere fun child hChild =>
      ih child hChild (everywhere_singleton.2 (hBelow.of_mem hChild))

/-- The property holds of all nodes of each tree within. -/
theorem Everywhere.of_mem_subtrees (h : Everywhere p nodes)
    (hNode : node ∈ Node.subtreesOfAll nodes) : Everywhere p [node] := by
  have hTrees : ∀ tree ∈ nodes, Everywhere p [tree] ∧ ∀ m ∈ tree.subtrees, Everywhere p [m] := by
    refine h.induct fun label attrs children hHere ih => ?_
    have hTree : Everywhere p [.mk label attrs children] :=
      everywhere_singleton.2 ⟨hHere, everywhere_of_forall_mem fun child hChild =>
        (ih child hChild).1⟩
    refine ⟨hTree, fun m hm => ?_⟩
    rw [Node.subtrees_eq, Node.subtreesOfAll_eq] at hm
    rcases List.mem_cons.1 hm with rfl | hBelow
    · exact hTree
    · obtain ⟨child, hChild, hm⟩ := List.mem_flatMap.1 hBelow
      exact (ih child hChild).2 m hm
  rw [Node.subtreesOfAll_eq] at hNode
  obtain ⟨tree, hTree, hNode⟩ := List.mem_flatMap.1 hNode
  exact (hTrees tree hTree).2 node hNode

end TreeTemplate
