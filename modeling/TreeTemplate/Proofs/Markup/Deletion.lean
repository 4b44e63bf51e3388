/-
TreeTemplate.Proofs.Markup.Deletion — which nodes go with the white space.

A node in a tree is named by the way to it, which child to take at each step
from the root. Deleting the nodes at some ways leaves all others as they are;
they only come to stand at other ways, for those before them may be gone. Taking
white space out of a tree is deleting the texts of white space below its root
that are not inside `pre`, `textarea`, `script` or `style`, and nothing else
(`strip_whitespace`, specification §11, which does not name these exceptions).

* `Node.nodeAt?` — the node at a way.
* `Node.deleting`, `wayLeft` — deleting nodes, and where another comes to stand.
* `Node.nodeAt?_deleting` — it stays as it is, but for what is deleted below it.
* `Node.isInsignificant` — white space that does not matter.
* `Node.withoutSpace_exact` — the main statement.
-/
import TreeTemplate.Proofs.Markup.Stripping
import Mathlib.Data.List.Infix

namespace TreeTemplate

/-- The way to a node: the index of the child at each step. -/
abbrev Way := List Nat

/-- Where the node at a way comes to stand when nodes are deleted: at each step
only the children that stay are counted. -/
def wayLeft (gone : Way → Bool) : Way → Way
  | [] => []
  | i :: way =>
    ((List.range i).countP fun j => !gone [j]) :: wayLeft (fun below => gone (i :: below)) way

namespace Node

/-! ## 1. Deleting nodes -/

/-- The node at a way. -/
def nodeAt? : Node → Way → Option Node
  | node, [] => some node
  | node, i :: way => node.children[i]?.bind fun child => nodeAt? child way

mutual

/-- The tree without the nodes below its root that are at the ways of a kind;
with a node goes what is below it. -/
def deleting (gone : Way → Bool) : Node → Node
  | mk label attrs children => mk label attrs (deletingFrom gone 0 children)

/-- The same for the children of a node from the one with an index on. -/
def deletingFrom (gone : Way → Bool) (i : Nat) : List Node → List Node
  | [] => []
  | node :: rest =>
    if gone [i] then deletingFrom gone (i + 1) rest
    else deleting (fun below => gone (i :: below)) node :: deletingFrom gone (i + 1) rest

end

theorem label_deleting (gone : Way → Bool) (node : Node) :
    (node.deleting gone).label = node.label := by
  cases node
  rfl

theorem attrs_deleting (gone : Way → Bool) (node : Node) :
    (node.deleting gone).attrs = node.attrs := by
  cases node
  rfl

variable {gone gone' : Way → Bool}

/-- Only the ways below the root count. -/
theorem deleting_congr {node : Node} (h : ∀ i below, gone (i :: below) = gone' (i :: below)) :
    node.deleting gone = node.deleting gone' := by
  have hRow (nodes : List Node) (i : Nat) :
      deletingFrom gone i nodes = deletingFrom gone' i nodes := by
    induction nodes generalizing i with
    | nil => rfl
    | cons node rest ih =>
      have hBelow : (fun below => gone (i :: below)) = fun below => gone' (i :: below) :=
        funext (h i)
      rw [deletingFrom, deletingFrom, h i [], hBelow, ih]
  cases node with
  | mk label attrs children => rw [deleting, deleting, hRow]

/-- Where nothing is deleted the tree stays. -/
theorem deleting_eq_self {node : Node} (h : ∀ i below, gone (i :: below) = false) :
    node.deleting gone = node := by
  induction node using Node.induct generalizing gone with
  | step label attrs children ih =>
    have hRow (nodes : List Node) (hNodes : ∀ node ∈ nodes, node ∈ children) (i : Nat) :
        deletingFrom gone i nodes = nodes := by
      induction nodes generalizing i with
      | nil => rfl
      | cons node rest ihRow =>
        obtain ⟨hNode, hRest⟩ := List.forall_mem_cons.1 hNodes
        rw [deletingFrom, h i [], if_neg Bool.false_ne_true, ihRow hRest,
          ih node hNode fun j below => h i (j :: below)]
    rw [deleting, hRow children fun _ hNode => hNode]

/-! ## 2. What stays -/

/-- Whether neither the node at a way is deleted nor any on the way to it. -/
def Stays (gone : Way → Bool) (way : Way) : Prop :=
  ∀ above, above ≠ [] → above <+: way → gone above = false

theorem stays_nil (gone : Way → Bool) : Stays gone [] := fun _ hNe hAbove =>
  absurd (List.prefix_nil.1 hAbove) hNe

theorem stays_cons {i : Nat} {way : Way} :
    Stays gone (i :: way) ↔ gone [i] = false ∧ Stays (fun below => gone (i :: below)) way := by
  constructor
  · intro h
    exact ⟨h [i] (List.cons_ne_nil _ _) ⟨way, rfl⟩, fun above _ hAbove =>
      h (i :: above) (List.cons_ne_nil _ _) (List.cons_prefix_cons.2 ⟨rfl, hAbove⟩)⟩
  · rintro ⟨hHere, hBelow⟩ above hNe hAbove
    obtain ⟨j, rest, rfl⟩ := List.exists_cons_of_ne_nil hNe
    obtain ⟨rfl, hRest⟩ := List.cons_prefix_cons.1 hAbove
    cases rest with
    | nil => exact hHere
    | cons k rest => exact hBelow (k :: rest) (List.cons_ne_nil _ _) hRest

theorem children_deleting (gone : Way → Bool) (node : Node) :
    (node.deleting gone).children = deletingFrom gone 0 node.children := by
  cases node
  rfl

/-- Of the children before another, the first counts if it stays. -/
theorem countP_stays (gone : Way → Bool) (start i : Nat) :
    (List.range (i + 1)).countP (fun j => !gone [start + j]) =
      (List.range i).countP (fun j => !gone [start + 1 + j]) + if gone [start] then 0 else 1 := by
  have hShift : (fun j => !gone [start + j]) ∘ Nat.succ = fun j => !gone [start + 1 + j] := by
    funext j
    rw [Function.comp_apply, Nat.succ_eq_add_one, Nat.add_assoc, Nat.add_comm 1 j]
  rw [List.range_succ_eq_map, List.countP_cons, List.countP_map, hShift, Nat.add_zero]
  cases gone [start] <;> rfl

/-- A child that stays comes behind those that stay before it. -/
theorem getElem?_deletingFrom (nodes : List Node) {start i : Nat}
    (h : gone [start + i] = false) :
    (deletingFrom gone start nodes)[(List.range i).countP fun j => !gone [start + j]]? =
      nodes[i]?.map (deleting fun below => gone ((start + i) :: below)) := by
  induction nodes generalizing start i with
  | nil => rfl
  | cons node rest ih =>
    rw [deletingFrom]
    cases i with
    | zero =>
      rw [Nat.add_zero] at h
      simp [h]
    | succ i =>
      have hNext : start + (i + 1) = start + 1 + i := by omega
      rw [hNext] at h ⊢
      rw [countP_stays, List.getElem?_cons_succ, ← ih h]
      cases gone [start] with
      | true => rfl
      | false => exact List.getElem?_cons_succ

/-- The children that are left are those that stay. -/
theorem exists_of_getElem?_deletingFrom {nodes : List Node} {start place : Nat} {left : Node}
    (h : (deletingFrom gone start nodes)[place]? = some left) :
    ∃ i node, nodes[i]? = some node ∧ gone [start + i] = false ∧
      (List.range i).countP (fun j => !gone [start + j]) = place ∧
      left = node.deleting fun below => gone ((start + i) :: below) := by
  induction nodes generalizing start place with
  | nil => cases h
  | cons node rest ih =>
    have hLater {place : Nat}
        (hRest : (deletingFrom gone (start + 1) rest)[place]? = some left) :
        ∃ i node', (node :: rest)[i]? = some node' ∧ gone [start + i] = false ∧
          (List.range i).countP (fun j => !gone [start + j]) =
            place + (if gone [start] then 0 else 1) ∧
          left = node'.deleting fun below => gone ((start + i) :: below) := by
      obtain ⟨i, node', hNode, hStays, rfl, hLeft⟩ := ih hRest
      have hNext : start + (i + 1) = start + 1 + i := by omega
      refine ⟨i + 1, node', by rwa [List.getElem?_cons_succ], ?_, countP_stays gone start i, ?_⟩
      · rwa [hNext]
      · rwa [hNext]
    rw [deletingFrom] at h
    cases hHere : gone [start] with
    | true =>
      rw [if_pos hHere] at h
      obtain ⟨i, node', hAll⟩ := hLater h
      rw [if_pos hHere] at hAll
      exact ⟨i, node', hAll⟩
    | false =>
      rw [if_neg (by simp [hHere])] at h
      cases place with
      | zero =>
        cases h
        exact ⟨0, node, rfl, hHere, rfl, rfl⟩
      | succ place =>
        obtain ⟨i, node', hAll⟩ := hLater h
        rw [if_neg (by simp [hHere])] at hAll
        exact ⟨i, node', hAll⟩

/-- A node that stays is as it was, but for what is deleted below it. -/
theorem nodeAt?_deleting {node : Node} {way : Way} (h : Stays gone way) :
    (node.deleting gone).nodeAt? (wayLeft gone way) =
      (node.nodeAt? way).map (deleting fun below => gone (way ++ below)) := by
  induction way generalizing node gone with
  | nil => rfl
  | cons i way ih =>
    obtain ⟨hHere, hBelow⟩ := stays_cons.1 h
    rw [← Nat.zero_add i] at hHere
    have hChild := getElem?_deletingFrom node.children hHere
    simp only [Nat.zero_add] at hChild
    rw [wayLeft, nodeAt?, nodeAt?, children_deleting, hChild]
    cases node.children[i]? with
    | none => rfl
    | some child => exact ih hBelow

/-- The nodes that are left are those that stay. -/
theorem exists_of_nodeAt?_deleting {node left : Node} {way : Way}
    (h : (node.deleting gone).nodeAt? way = some left) :
    ∃ before found, node.nodeAt? before = some found ∧ Stays gone before ∧
      wayLeft gone before = way := by
  induction way generalizing node gone with
  | nil => exact ⟨[], node, rfl, stays_nil gone, rfl⟩
  | cons place way ih =>
    rw [nodeAt?, children_deleting] at h
    obtain ⟨child, hChild, hBelow⟩ := Option.bind_eq_some_iff.1 h
    obtain ⟨i, old, hOld, hStays, hPlace, rfl⟩ := exists_of_getElem?_deletingFrom hChild
    simp only [Nat.zero_add] at hStays hPlace hBelow
    obtain ⟨before, found, hFound, hStaysBelow, hWay⟩ := ih hBelow
    refine ⟨i :: before, found, ?_, stays_cons.2 ⟨hStays, hStaysBelow⟩, ?_⟩
    · rw [nodeAt?, hOld]
      exact hFound
    · rw [wayLeft, hPlace, hWay]

/-! ## 3. White space that does not matter -/

/-- Whether the node at a way below the root is a text of white space only, and
white space matters in no node on the way to it. -/
def isInsignificant (root : Node) (way : Way) : Bool :=
  !way.isEmpty && (root.nodeAt? way).any isBlankText &&
    way.inits.all fun above => (root.nodeAt? above).all fun node => !keepsSpace node.tag

theorem keepsSpace_of_isBlankText {node : Node} (h : node.isBlankText = true) :
    keepsSpace node.tag = false := by
  obtain ⟨label, attrs, children⟩ := node
  cases label with
  | text content => exact (by decide : keepsSpace [] = false)
  | _ => cases h

variable {root child : Node} {i : Nat} {way : Way}

/-- Below a node in which white space matters all of it does. -/
theorem isInsignificant_append {node : Node} (hNode : root.nodeAt? way = some node)
    (hKeeps : keepsSpace node.tag = true) (below : Way) :
    root.isInsignificant (way ++ below) = false := by
  have hOn : way ∈ (way ++ below).inits := (List.mem_inits _ _).2 ⟨below, rfl⟩
  have hNot : ¬ (way ++ below).inits.all (fun above =>
      (root.nodeAt? above).all fun node => !keepsSpace node.tag) = true := fun hAll => by
    have hHere := List.all_eq_true.1 hAll way hOn
    simp [hNode, hKeeps] at hHere
  rw [isInsignificant, Bool.eq_false_iff.2 hNot, Bool.and_false]

/-- Of the children of another node the texts of white space do not matter. -/
theorem isInsignificant_child (hRoot : keepsSpace root.tag = false)
    (hChild : root.children[i]? = some child) :
    root.isInsignificant [i] = child.isBlankText := by
  cases hBlank : child.isBlankText with
  | false => simp [isInsignificant, nodeAt?, hChild, hBlank]
  | true =>
    simp [isInsignificant, nodeAt?, hChild, hBlank, hRoot, keepsSpace_of_isBlankText hBlank]

/-- Further down it is as in the child. -/
theorem isInsignificant_below (hRoot : keepsSpace root.tag = false)
    (hChild : root.children[i]? = some child) {j : Nat} :
    root.isInsignificant (i :: j :: way) = child.isInsignificant (j :: way) := by
  have hDown (below : Way) : root.nodeAt? (i :: below) = child.nodeAt? below := by
    rw [nodeAt?, hChild]
    rfl
  have hHere : (root.nodeAt? []).all (fun node => !keepsSpace node.tag) = true := by
    simp [nodeAt?, hRoot]
  rw [isInsignificant, isInsignificant, hDown, List.inits_cons, List.all_cons, hHere,
    List.all_map]
  simp only [Function.comp_def, hDown, Bool.true_and, List.isEmpty_cons]

/-- Taking white space out is deleting what does not matter. -/
theorem withoutSpace_eq_deleting (root : Node) :
    root.withoutSpace = root.deleting root.isInsignificant := by
  induction root using Node.induct with
  | step label attrs children ih =>
    cases hKeeps : keepsSpace (mk label attrs children).tag with
    | true =>
      have hRoot : (mk label attrs children).nodeAt? [] = some (mk label attrs children) := rfl
      have hNone : ∀ i below, (mk label attrs children).isInsignificant (i :: below) = false :=
        fun i below => isInsignificant_append hRoot hKeeps (i :: below)
      rw [deleting_eq_self hNone]
      exact withoutSpace_of_keepsSpace hKeeps
    | false =>
      -- On the children that are left, of which the first has an index.
      have hRow (nodes : List Node) (start : Nat) (hNodes : children.drop start = nodes) :
          deletingFrom (mk label attrs children).isInsignificant start nodes =
            withoutSpaceAll nodes := by
        induction nodes generalizing start with
        | nil => rfl
        | cons node rest ihRow =>
          have hChild : children[start]? = some node := by
            rw [← List.head?_drop, hNodes]
            rfl
          have hRest : children.drop (start + 1) = rest := by
            rw [← List.tail_drop, hNodes]
            rfl
          have hBelow : node.deleting
              (fun below => (mk label attrs children).isInsignificant (start :: below)) =
                node.withoutSpace := by
            rw [ih node (List.mem_of_getElem? hChild)]
            exact deleting_congr fun j below => isInsignificant_below hKeeps hChild
          rw [deletingFrom, withoutSpaceAll, isInsignificant_child hKeeps hChild, hBelow,
            ihRow (start + 1) hRest]
      rw [withoutSpace_mk label hKeeps, deleting, hRow children 0 rfl]

/-! ## 4. Exactly the white space that does not matter -/

/-- Taking white space out of a tree deletes exactly the texts of white space
below its root that are not inside an element in which white space matters. Every
other node keeps its label and its attributes, and is the same tree as before if
white space matters in it; there are no nodes but these. To take white space out
again changes nothing. -/
theorem withoutSpace_exact (root : Node) :
    root.withoutSpace = root.deleting root.isInsignificant ∧
      (∀ way node, root.nodeAt? way = some node → Stays root.isInsignificant way →
        ∃ left, root.withoutSpace.nodeAt? (wayLeft root.isInsignificant way) = some left ∧
          left.label = node.label ∧ left.attrs = node.attrs ∧
          (keepsSpace node.tag = true → left = node)) ∧
      (∀ way left, root.withoutSpace.nodeAt? way = some left →
        ∃ before node, root.nodeAt? before = some node ∧ Stays root.isInsignificant before ∧
          wayLeft root.isInsignificant before = way) ∧
      root.withoutSpace.withoutSpace = root.withoutSpace := by
  have hDeleted : root.withoutSpace = root.deleting root.isInsignificant :=
    withoutSpace_eq_deleting root
  refine ⟨hDeleted, fun way node hNode hStays => ?_, fun way left hLeft => ?_,
    withoutSpace_withoutSpace root⟩
  · have hLeft : root.withoutSpace.nodeAt? (wayLeft root.isInsignificant way) =
        some (node.deleting fun below => root.isInsignificant (way ++ below)) := by
      rw [hDeleted, nodeAt?_deleting hStays, hNode]
      rfl
    refine ⟨_, hLeft, label_deleting _ node, attrs_deleting _ node, fun hKeeps => ?_⟩
    exact deleting_eq_self fun i below => isInsignificant_append hNode hKeeps (i :: below)
  · rw [hDeleted] at hLeft
    exact exists_of_nodeAt?_deleting hLeft

/-- White space at the root, in a paragraph and in preformatted text. -/
theorem withoutSpace_exact_pre :
    let pre : Node := .element "pre" [] [.text " ", .element "b" [] [.text "\n"]]
    let root : Node := .fragment [.text " ",
      .element "p" [("a", "b")] [.text "\n", pre, .text " x"], .comment " ", .text "\u00a0"]
    root.nodeAt? [1, 1] = some pre ∧ Stays root.isInsignificant [1, 1] ∧
      keepsSpace pre.tag = true ∧ wayLeft root.isInsignificant [1, 1] = [0, 0] ∧
      root.withoutSpace.nodeAt? [0, 0] = some pre ∧
      root.withoutSpace.nodeAt? [0, 1] = some (.text " x") ∧
      (∃ before node, root.nodeAt? before = some node ∧ Stays root.isInsignificant before ∧
        wayLeft root.isInsignificant before = [0, 1]) ∧
      root.withoutSpace =
        .fragment [.element "p" [("a", "b")] [pre, .text " x"], .comment " "] := by
  intro pre root
  have hPre : root.nodeAt? [1, 1] = some pre := by decide +kernel
  have hStays : Stays root.isInsignificant [1, 1] :=
    stays_cons.2 ⟨by decide +kernel, stays_cons.2 ⟨by decide +kernel, stays_nil _⟩⟩
  have hKeeps : keepsSpace pre.tag = true := by decide +kernel
  have hWay : wayLeft root.isInsignificant [1, 1] = [0, 0] := by decide +kernel
  have hText : root.withoutSpace.nodeAt? [0, 1] = some (.text " x") := by decide +kernel
  obtain ⟨hDeleted, hLeft, hOnly, -⟩ := withoutSpace_exact root
  obtain ⟨left, hThere, -, -, hSame⟩ := hLeft [1, 1] pre hPre hStays
  rw [hWay, hSame hKeeps] at hThere
  refine ⟨hPre, hStays, hKeeps, hWay, hThere, hText, hOnly [0, 1] _ hText, ?_⟩
  rw [hDeleted]
  decide +kernel

end Node

end TreeTemplate
