/-
TreeTemplate.Proofs.Template.Merging — white space between texts that stand
beside each other.

A tree that is read has no text beside a text, but rendering puts texts where
other texts are. Merging makes one text of each row of texts, as reading the
HTML would do. The HTML stays the same, but not so after white space is taken
out: a text of white space is taken out alone, while as a part of another
text it stays. So the order of the two matters, exactly where such a text
stands in a row with text that is not white space.

* `Node.merged`, `Node.mergedAll` — trees with merged texts;
  `htmlIn_merged`, `separate_mergedAll` and `mergedAll_eq_self` say that they
  are what reading the HTML gives.
* `rows_induct` — a row of nodes, from one that is no text to the next.
* `Unmixed`, `Node.Strips` — the rows that lose nothing, and where to look.
* `withoutSpace_merged_iff` — the main statement.
-/
import TreeTemplate.Proofs.Markup.Stripping
import TreeTemplate.Proofs.Markup.Subtree
import TreeTemplate.Proofs.Markup.WellFormed
import TreeTemplate.Proofs.Template.Run

namespace TreeTemplate

/-! ## 1. Merging -/

/-- Puts a node before others. Text before text makes one text. -/
def joinText : Node → List Node → List Node
  | .mk (.text s) _ _, .mk (.text t) _ _ :: rest => .text (s ++ t) :: rest
  | node, rest => node :: rest

namespace Node

mutual

/-- The tree with one text for each row of texts. -/
def merged : Node → Node
  | mk label attrs children => mk label attrs (mergedAll children)

/-- A row of nodes with one text for each row of texts. -/
def mergedAll : List Node → List Node
  | [] => []
  | node :: rest => joinText (merged node) (mergedAll rest)

end

end Node

theorem joinText_eq_cons {node : Node} {nodes : List Node}
    (h : node.isText = true → ∀ next ∈ nodes.head?, next.isText = false) :
    joinText node nodes = node :: nodes := by
  unfold joinText
  split
  · cases h rfl _ rfl
  · rfl

theorem label_merged (node : Node) : node.merged.label = node.label := by
  cases node
  rw [Node.merged]
  rfl

theorem isText_merged (node : Node) : node.merged.isText = node.isText := by
  rw [Node.isText, Node.isText, label_merged]

/-! ## 2. Merging and reading -/

theorem htmlOfAll_joinText (raw : Bool) (node : Node) (nodes : List Node) :
    Node.htmlOfAll raw (joinText node nodes) = node.htmlIn raw ++ Node.htmlOfAll raw nodes := by
  unfold joinText
  split
  · next s _ _ t _ _ rest =>
    rw [Node.htmlOfAll, Node.htmlOfAll, ← List.append_assoc]
    exact congrArg (· ++ _) (textHtml_append raw s t)
  · rw [Node.htmlOfAll]

theorem htmlOfAll_mergedAll (raw : Bool) {nodes : List Node}
    (h : ∀ node ∈ nodes, node.merged.htmlIn raw = node.htmlIn raw) :
    Node.htmlOfAll raw (Node.mergedAll nodes) = Node.htmlOfAll raw nodes := by
  induction nodes with
  | nil => rfl
  | cons node nodes ih =>
    obtain ⟨hNode, hNodes⟩ := List.forall_mem_cons.1 h
    rw [Node.mergedAll, htmlOfAll_joinText, Node.htmlOfAll, hNode, ih hNodes]

/-- Merging leaves the HTML as it is. -/
theorem htmlIn_merged (raw : Bool) (node : Node) : node.merged.htmlIn raw = node.htmlIn raw := by
  induction node using Node.induct generalizing raw with
  | step label attrs children ih =>
    have hChildren (raw : Bool) :=
      htmlOfAll_mergedAll raw fun child hChild => ih child hChild raw
    rw [Node.merged]
    cases label with
    | element tag => rw [Node.htmlIn, Node.htmlIn, hChildren]
    | fragment => rw [Node.htmlIn, Node.htmlIn, hChildren]
    | _ => rfl

theorem separate_joinText {nodes : List Node} (h : Separate nodes) (node : Node) :
    Separate (joinText node nodes) := by
  unfold joinText
  split
  · next rest =>
    cases rest with
    | nil => exact .singleton _
    | cons next rest =>
      obtain ⟨hNext, hRest⟩ := List.isChain_cons_cons.1 h
      exact .cons_cons hNext hRest
  · next hNot =>
    cases nodes with
    | nil => exact .singleton _
    | cons next nodes =>
      refine .cons_cons (fun hText => ?_) h
      obtain ⟨label, attrs, children⟩ := node
      obtain ⟨label', attrs', children'⟩ := next
      cases label with
      | text s =>
        cases label' with
        | text t => exact absurd rfl (hNot _ _ _ _ _ _ _ rfl)
        | _ => rfl
      | _ => cases hText

/-- No two texts are left beside each other. -/
theorem separate_mergedAll (nodes : List Node) : Separate (Node.mergedAll nodes) := by
  cases nodes with
  | nil => exact .nil
  | cons node nodes => exact separate_joinText (separate_mergedAll nodes) node.merged

/-- A tree that is read has nothing to merge. -/
theorem mergedAll_eq_self {nodes : List Node} (hShape : Everywhere Node.WellFormed nodes)
    (hSeparate : Separate nodes) : Node.mergedAll nodes = nodes := by
  have hRow {row : List Node} (hRow : Separate row) (h : ∀ node ∈ row, node.merged = node) :
      Node.mergedAll row = row := by
    induction row with
    | nil => rfl
    | cons node row ih =>
      obtain ⟨hNode, hOthers⟩ := List.forall_mem_cons.1 h
      rw [Node.mergedAll, hNode, ih hRow.tail hOthers]
      refine joinText_eq_cons fun hText next hNext => ?_
      cases row with
      | nil => cases hNext
      | cons other row =>
        cases hNext
        exact (List.isChain_cons_cons.1 hRow).1 hText
  refine hRow hSeparate (hShape.induct fun label attrs children hHere ih => ?_)
  rw [Node.merged]
  cases label with
  | element tag => rw [hRow hHere.2.2.1 ih]
  | text content => rw [hHere.2.2]; rfl
  | comment content => rw [hHere.2]; rfl
  | doctype content => rw [hHere.2]; rfl
  | fragment => exact hHere.elim

/-! ## 3. Rows of texts -/

/-- Induction that goes from a node that is no text to the next. -/
theorem rows_induct {motive : List Node → Prop}
    (texts : ∀ run, (∀ node ∈ run, node.isText = true) → motive run)
    (other : ∀ run node rest, (∀ node ∈ run, node.isText = true) → node.isText = false →
      motive rest → motive (run ++ node :: rest)) (nodes : List Node) : motive nodes := by
  suffices h : ∀ run, (∀ node ∈ run, node.isText = true) → motive (run ++ nodes) from
    h [] (List.forall_mem_nil _)
  induction nodes with
  | nil =>
    intro run hRun
    rw [List.append_nil]
    exact texts run hRun
  | cons node nodes ih =>
    intro run hRun
    cases hNode : node.isText with
    | false => exact other run node nodes hRun hNode (ih [] (List.forall_mem_nil _))
    | true =>
      rw [List.append_cons]
      exact ih _ (List.forall_mem_append.2 ⟨hRun, List.forall_mem_singleton.2 hNode⟩)

/-- A row of texts, up to where it ends, is merged to one text. -/
theorem mergedAll_run {run tail : List Node} (hRun : ∀ node ∈ run, node.isText = true)
    (hTail : ∀ node ∈ (Node.mergedAll tail).head?, node.isText = false) :
    ∃ row, Node.mergedAll (run ++ tail) = row ++ Node.mergedAll tail ∧
      row.map Node.label = if run = [] then [] else [.text (Node.textContents run)] := by
  induction run with
  | nil => exact ⟨[], rfl, rfl⟩
  | cons node run ih =>
    obtain ⟨hNode, hOthers⟩ := List.forall_mem_cons.1 hRun
    obtain ⟨row, hRow, hLabels⟩ := ih hOthers
    obtain ⟨label, attrs, children⟩ := node
    cases label with
    | text s =>
      rw [List.cons_append, Node.mergedAll, hRow, Node.merged, if_neg (List.cons_ne_nil _ _),
        Node.textContents, Node.textContent]
      cases run with
      | nil =>
        obtain rfl : row = [] := List.map_eq_nil_iff.1 hLabels
        refine ⟨[_], joinText_eq_cons fun _ next hNext => hTail next hNext, ?_⟩
        rw [Node.textContents, List.append_nil]
        rfl
      | cons next run =>
        rw [if_neg (List.cons_ne_nil _ _)] at hLabels
        obtain ⟨first, rfl, hFirst⟩ := List.map_eq_singleton_iff.1 hLabels
        obtain ⟨_, attrs', children'⟩ := first
        cases hFirst
        exact ⟨[_], rfl, rfl⟩
    | _ => cases hNode

/-- What is no text stays between what is merged on its two sides. -/
theorem mergedAll_cons {node : Node} (h : node.isText = false) (rest : List Node) :
    Node.mergedAll (node :: rest) = node.merged :: Node.mergedAll rest := by
  rw [Node.mergedAll]
  exact joinText_eq_cons fun hText => absurd (hText.symm.trans (isText_merged node)) (by simp [h])

/-! ## 4. What is lost in a row of texts -/

/-- The HTML of a text, if it is not taken out as white space. -/
def strippedText (raw : Bool) (t : Text) : Text := if t.isBlank then [] else textHtml raw t

theorem isBlankText_of_isText {node : Node} (h : node.isText = true) :
    node.isBlankText = node.textContent.isBlank := by
  rw [Node.isBlankText_eq, h, Bool.true_and]

/-- The HTML of a row without white space. -/
def strippedHtml (raw : Bool) (nodes : List Node) : Text :=
  Node.htmlOfAll raw (Node.withoutSpaceAll nodes)

theorem strippedHtml_append (raw : Bool) (nodes others : List Node) :
    strippedHtml raw (nodes ++ others) = strippedHtml raw nodes ++ strippedHtml raw others := by
  rw [strippedHtml, Node.withoutSpaceAll_append, htmlOfAll_append]
  rfl

/-- What is no text is not taken out. -/
theorem strippedHtml_cons {node : Node} (h : node.isText = false) (raw : Bool)
    (rest : List Node) :
    strippedHtml raw (node :: rest) = node.withoutSpace.htmlIn raw ++ strippedHtml raw rest := by
  have hBlank : node.isBlankText = false := by rw [Node.isBlankText_eq, h, Bool.false_and]
  rw [strippedHtml, Node.withoutSpaceAll, hBlank, if_neg (by simp), Node.htmlOfAll]
  rfl

theorem strippedHtml_text {node : Node} (h : node.isText = true) (raw : Bool) :
    strippedHtml raw [node] = strippedText raw node.textContent := by
  have hStays : node.withoutSpace.htmlIn raw = node.htmlIn raw := by
    obtain ⟨label, attrs, children⟩ := node
    cases label with
    | text content =>
      rw [Node.withoutSpace]
      split <;> rfl
    | _ => cases h
  rw [strippedHtml, Node.withoutSpaceAll, isBlankText_of_isText h, strippedText]
  split
  · rfl
  · rw [Node.withoutSpaceAll, Node.htmlOfAll, Node.htmlOfAll, hStays, htmlIn_of_isText h,
      List.append_nil]

/-- Each text of a row is written, or taken out, alone. -/
theorem strippedHtml_run {run : List Node} (h : ∀ node ∈ run, node.isText = true) (raw : Bool) :
    strippedHtml raw run = run.flatMap fun node => strippedText raw node.textContent := by
  induction run with
  | nil => rfl
  | cons node run ih =>
    obtain ⟨hNode, hRun⟩ := List.forall_mem_cons.1 h
    rw [← List.singleton_append, strippedHtml_append, strippedHtml_text hNode, ih hRun]
    rfl

/-- Merged texts are written, or taken out, as a whole. -/
theorem strippedHtml_mergedAll {run tail : List Node} (hRun : ∀ node ∈ run, node.isText = true)
    (hTail : ∀ node ∈ (Node.mergedAll tail).head?, node.isText = false) (raw : Bool) :
    strippedHtml raw (Node.mergedAll (run ++ tail)) =
      strippedText raw (Node.textContents run) ++ strippedHtml raw (Node.mergedAll tail) := by
  obtain ⟨row, hRow, hLabels⟩ := mergedAll_run hRun hTail
  rw [hRow, strippedHtml_append]
  refine congrArg (· ++ _) ?_
  cases run with
  | nil =>
    obtain rfl : row = [] := List.map_eq_nil_iff.1 hLabels
    rfl
  | cons node run =>
    rw [if_neg (List.cons_ne_nil _ _)] at hLabels
    obtain ⟨first, rfl, hFirst⟩ := List.map_eq_singleton_iff.1 hLabels
    obtain ⟨_, attrs, children⟩ := first
    cases hFirst
    exact strippedHtml_text rfl raw

/-- Whether white space stands in a row of texts only if there is nothing
else in the row. -/
def Uniform (run : List Node) : Prop :=
  (∃ node ∈ run, node.isBlankText = false) →
    ∀ node ∈ run, node.isBlankText = true → node.textContent = []

theorem textHtml_flatMap (raw : Bool) (nodes : List Node) :
    textHtml raw (Node.textContents nodes) =
      nodes.flatMap fun node => textHtml raw node.textContent := by
  induction nodes with
  | nil => cases raw <;> rfl
  | cons node nodes ih => rw [Node.textContents, textHtml_append, ih, List.flatMap_cons]

/-- Texts that are written alone, and as a whole. -/
theorem strippedText_run {run : List Node} (h : ∀ node ∈ run, node.isText = true) (raw : Bool) :
    (strippedHtml raw run).Sublist (strippedText raw (Node.textContents run)) ∧
      (strippedHtml raw run = strippedText raw (Node.textContents run) ↔ Uniform run) := by
  have hBlank (node : Node) (hNode : node ∈ run) :
      node.textContent.isBlank = node.isBlankText := (isBlankText_of_isText (h node hNode)).symm
  rw [strippedHtml_run h]
  by_cases hAll : ∀ node ∈ run, node.isBlankText = true
  · have hNone : (run.flatMap fun node => strippedText raw node.textContent) = [] := by
      rw [List.flatMap_eq_nil_iff]
      intro node hNode
      rw [strippedText, hBlank node hNode, hAll node hNode, if_pos rfl]
    have hWhole : (Node.textContents run).isBlank = true := by
      rw [textContents_flatMap, Text.isBlank, List.all_flatMap, List.all_eq_true]
      exact fun node hNode => (hBlank node hNode).trans (hAll node hNode)
    rw [hNone, strippedText, if_pos hWhole]
    refine ⟨.slnil, iff_of_true rfl ?_⟩
    rintro ⟨node, hNode, hSome⟩
    rw [hAll node hNode] at hSome
    cases hSome
  · have hSome : ∃ node ∈ run, node.isBlankText = false := by simpa using hAll
    have hWhole : (Node.textContents run).isBlank = false := by
      obtain ⟨node, hNode, hNot⟩ := hSome
      rw [textContents_flatMap, Text.isBlank, List.all_flatMap, List.all_eq_false]
      exact ⟨node, hNode, by rw [← Text.isBlank, hBlank node hNode, hNot]; simp⟩
    rw [strippedText, if_neg (by simp [hWhole]), textHtml_flatMap]
    obtain ⟨hSublist, hSame⟩ := flatMap_sublist (l := run)
      (f := fun node => strippedText raw node.textContent)
      (g := fun node => textHtml raw node.textContent) fun node _ => by
        rw [strippedText]
        split
        · exact List.nil_sublist _
        · exact .refl _
    have hLost (node : Node) (hNode : node ∈ run) :
        strippedText raw node.textContent = textHtml raw node.textContent ↔
          (node.isBlankText = true → node.textContent = []) := by
      rw [strippedText, hBlank node hNode]
      cases node.isBlankText with
      | true =>
        rw [if_pos rfl]
        exact ⟨fun hNil _ => textHtml_eq_nil hNil.symm, fun hNil => by
          rw [hNil rfl]
          cases raw <;> rfl⟩
      | false => exact iff_of_true rfl (fun hIs => by cases hIs)
    refine ⟨hSublist, hSame.trans ?_⟩
    exact ⟨fun h _ node hNode => (hLost node hNode).1 (h node hNode),
      fun h node hNode => (hLost node hNode).2 (h hSome node hNode)⟩

/-! ## 5. Rows of nodes -/

/-- Whether all texts that stand beside each other are such a row. -/
def Unmixed (nodes : List Node) : Prop :=
  ∀ run, run <:+: nodes → (∀ node ∈ run, node.isText = true) → Uniform run

theorem unmixed_run {run : List Node} (h : ∀ node ∈ run, node.isText = true) :
    Unmixed run ↔ Uniform run := by
  refine ⟨fun hAll => hAll run (List.infix_refl run) h, fun hRun part hPart _ => ?_⟩
  rintro ⟨node, hNode, hSome⟩ other hOther
  exact hRun ⟨node, hPart.subset hNode, hSome⟩ other (hPart.subset hOther)

/-- Texts beside each other are on one side of what is no text. -/
theorem infix_append_cons {part run rest : List Node} {node : Node} (hNode : node ∉ part)
    (h : part <:+: run ++ node :: rest) : part <:+: run ∨ part <:+: rest := by
  induction run with
  | nil =>
    rcases List.infix_cons_iff.1 h with hBegin | hBehind
    · cases part with
      | nil => exact .inl (List.nil_infix)
      | cons first part =>
        obtain ⟨rfl, -⟩ := List.cons_prefix_cons.1 hBegin
        exact absurd List.mem_cons_self hNode
    · exact .inr hBehind
  | cons first run ih =>
    rcases List.infix_cons_iff.1 h with hBegin | hBehind
    · rcases List.prefix_or_prefix_of_prefix hBegin
        (List.prefix_append (first :: run) (node :: rest)) with hPart | ⟨more, rfl⟩
      · exact .inl hPart.isInfix
      · have hMore : more <+: node :: rest := (List.prefix_append_right_inj _).1 hBegin
        cases more with
        | nil =>
          rw [List.append_nil]
          exact .inl (List.infix_refl _)
        | cons next more =>
          obtain ⟨rfl, -⟩ := List.cons_prefix_cons.1 hMore
          exact absurd (List.mem_append_right _ List.mem_cons_self) hNode
    · exact (ih hBehind).imp_left fun hPart => hPart.trans (List.suffix_cons first run).isInfix

theorem unmixed_append_cons {run rest : List Node} {node : Node} (hNode : node.isText = false) :
    Unmixed (run ++ node :: rest) ↔ Unmixed run ∧ Unmixed rest := by
  constructor
  · intro h
    refine ⟨fun part hPart => h part (hPart.trans (List.prefix_append _ _).isInfix),
      fun part hPart => h part (hPart.trans ?_)⟩
    exact ((List.suffix_cons node rest).trans (List.suffix_append run _)).isInfix
  · rintro ⟨hRun, hRest⟩ part hPart hTexts
    have hNot : node ∉ part := fun hMem => by
      rw [hTexts node hMem] at hNode
      cases hNode
    rcases infix_append_cons hNot hPart with hIn | hIn
    · exact hRun part hIn hTexts
    · exact hRest part hIn hTexts

/-- What a node loses when white space is taken out before its texts are
merged: nothing that would not go afterwards, and nothing at all exactly if a
condition holds. -/
def LosesUnless (condition : Prop) (node : Node) : Prop :=
  ∀ raw, (node.withoutSpace.htmlIn raw).Sublist (node.merged.withoutSpace.htmlIn raw) ∧
    (node.withoutSpace.htmlIn raw = node.merged.withoutSpace.htmlIn raw ↔ condition)

theorem strippedHtml_mergedAll_iff {condition : Node → Prop} (nodes : List Node)
    (h : ∀ node ∈ nodes, LosesUnless (condition node) node)
    (hTexts : ∀ node, node.isText = true → condition node) (raw : Bool) :
    (strippedHtml raw nodes).Sublist (strippedHtml raw (Node.mergedAll nodes)) ∧
      (strippedHtml raw nodes = strippedHtml raw (Node.mergedAll nodes) ↔
        Unmixed nodes ∧ ∀ node ∈ nodes, condition node) := by
  induction nodes using rows_induct with
  | texts run hRun =>
    have hMerged : strippedHtml raw (Node.mergedAll (run ++ [])) =
        strippedText raw (Node.textContents run) ++ [] :=
      strippedHtml_mergedAll hRun (fun _ hNone => by cases hNone) raw
    obtain ⟨hSublist, hSame⟩ := strippedText_run hRun raw
    rw [List.append_nil, List.append_nil] at hMerged
    rw [hMerged]
    refine ⟨hSublist, hSame.trans ?_⟩
    rw [unmixed_run hRun]
    exact (and_iff_left fun node hNode => hTexts node (hRun node hNode)).symm
  | other run node rest hRun hNode ih =>
    obtain ⟨_, hBehind⟩ := List.forall_mem_append.1 h
    obtain ⟨hHere, hRest⟩ := List.forall_mem_cons.1 hBehind
    obtain ⟨hSublist, hSame⟩ := strippedText_run hRun raw
    obtain ⟨hNodeSublist, hNodeSame⟩ := hHere raw
    obtain ⟨hRestSublist, hRestSame⟩ := ih hRest
    have hMergedText : node.merged.isText = false := (isText_merged node).trans hNode
    have hTail : ∀ first ∈ (Node.mergedAll (node :: rest)).head?, first.isText = false := by
      rw [mergedAll_cons hNode]
      rintro first hFirst
      cases hFirst
      exact hMergedText
    rw [strippedHtml_mergedAll hRun hTail, mergedAll_cons hNode, strippedHtml_cons hMergedText,
      strippedHtml_append, strippedHtml_cons hNode, unmixed_append_cons hNode, unmixed_run hRun,
      List.forall_mem_append, List.forall_mem_cons,
      append_eq_append_iff_of_sublist hSublist (hNodeSublist.append hRestSublist),
      append_eq_append_iff_of_sublist hNodeSublist hRestSublist, hSame, hNodeSame, hRestSame]
    refine ⟨hSublist.append (hNodeSublist.append hRestSublist), ?_⟩
    have hRunTexts : ∀ text ∈ run, condition text := fun text hText =>
      hTexts text (hRun text hText)
    tauto

/-! ## 6. Trees -/

/-- Whether white space is taken out of the row of children, and what is left
is written. -/
def Node.IsStripped (node : Node) : Prop :=
  match node.label with
  | .element tag => keepsSpace tag = false ∧ isVoid tag = false
  | .fragment => True
  | _ => False

/-- The nodes of a tree of whose children this is so. -/
inductive Node.Strips : Node → Node → Prop where
  | here {node : Node} : node.IsStripped → Strips node node
  | inside {node child inner : Node} : node.IsStripped → child ∈ node.children →
    Strips child inner → Strips node inner

theorem strips_iff {node : Node} {p : Node → Prop} :
    (∀ inner, node.Strips inner → p inner) ↔
      (node.IsStripped →
        p node ∧ ∀ child ∈ node.children, ∀ inner, child.Strips inner → p inner) := by
  constructor
  · exact fun h hHere => ⟨h node (.here hHere), fun child hChild inner hInner =>
      h inner (.inside hHere hChild hInner)⟩
  · rintro h inner hInner
    cases hInner with
    | here hHere => exact (h hHere).1
    | inside hHere hChild hBelow => exact (h hHere).2 _ hChild inner hBelow

/-- A node out of whose children no white space is taken loses nothing. -/
theorem LosesUnless.of_same {node : Node} (hSame : ∀ raw,
    node.withoutSpace.htmlIn raw = node.merged.withoutSpace.htmlIn raw)
    (hNot : ¬ node.IsStripped) :
    LosesUnless (∀ inner, node.Strips inner → Unmixed inner.children) node := by
  intro raw
  rw [hSame raw]
  exact ⟨.refl _, iff_of_true rfl (strips_iff.2 fun hHere => absurd hHere hNot)⟩

/-- A tree loses nothing if the rows out of which white space is taken are
unmixed. -/
theorem losesUnless (node : Node) :
    LosesUnless (∀ inner, node.Strips inner → Unmixed inner.children) node := by
  induction node using Node.induct with
  | step label attrs children ih =>
    have hTexts (text : Node) (hText : text.isText = true) :
        ∀ inner, text.Strips inner → Unmixed inner.children := by
      obtain ⟨label, attrs, children⟩ := text
      cases label with
      | text content => exact strips_iff.2 fun hHere => hHere.elim
      | _ => cases hText
    have hRow := strippedHtml_mergedAll_iff children ih hTexts
    cases label with
    | element tag =>
      cases hKeeps : keepsSpace tag with
      | true =>
        refine .of_same (fun raw => ?_) fun hHere => absurd (hKeeps.symm.trans hHere.1) (by simp)
        have hStays {children : List Node} : (Node.mk (.element tag) attrs children).withoutSpace
            = .mk (.element tag) attrs children := Node.withoutSpace_of_keepsSpace hKeeps
        rw [hStays, ← htmlIn_merged, Node.merged, hStays]
      | false =>
        have hTaken := Node.withoutSpace_mk (.element tag) hKeeps attrs
        cases hVoid : isVoid tag with
        | true =>
          refine .of_same (fun raw => ?_) fun hHere => absurd (hVoid.symm.trans hHere.2) (by simp)
          rw [Node.merged, hTaken, hTaken, Node.htmlIn, Node.htmlIn, if_pos hVoid, if_pos hVoid]
        | false =>
          intro raw
          obtain ⟨hSublist, hSame⟩ := hRow (isRawText tag)
          have hHere : (Node.mk (.element tag) attrs children).IsStripped := ⟨hKeeps, hVoid⟩
          rw [Node.merged, hTaken, hTaken, Node.htmlIn, Node.htmlIn, if_neg (by simp [hVoid]),
            if_neg (by simp [hVoid]), List.append_left_inj, List.append_right_inj, strips_iff,
            imp_iff_right hHere]
          exact ⟨(hSublist.append_left _).append_right _, hSame⟩
    | fragment =>
      intro raw
      have hHere : (Node.mk .fragment attrs children).IsStripped := trivial
      have hTaken := Node.withoutSpace_mk .fragment (by decide) attrs
      rw [Node.merged, hTaken, hTaken, Node.htmlIn, Node.htmlIn, strips_iff, imp_iff_right hHere]
      exact hRow raw
    | _ =>
      refine .of_same (fun raw => ?_) fun hHere => hHere
      have hNone : keepsSpace [] = false := by decide
      rw [Node.merged, Node.withoutSpace_mk, Node.withoutSpace_mk]
      · rfl
      · exact hNone
      · exact hNone

/-- Merging texts leaves the HTML as it is. But if white space is taken out
before, the HTML is what it is if white space is taken out afterwards exactly
where no text of white space, but for empty ones, stands in a row with text
that is not white space. -/
theorem withoutSpace_merged_iff (node : Node) :
    node.merged.toHtml = node.toHtml ∧
      (node.withoutSpace.toHtml = node.merged.withoutSpace.toHtml ↔
        ∀ inner, node.Strips inner → Unmixed inner.children) :=
  ⟨htmlIn_merged false node, (losesUnless node false).2⟩

/-- The space between two values is lost. -/
theorem withoutSpace_joins_values :
    ¬ ∀ (settings : Settings) (markup : Text) (template : Node) (data : Value)
        (nodes : List Node) (tag : Text) (attrs : Table Text),
      parseMarkup markup = .ok template →
      ((render settings (none : Option (Source Unit)) template data).runFrom ()).1 = .ok nodes →
      (Node.element tag attrs nodes).withoutSpace.toHtml
        = (Node.element tag attrs nodes).merged.withoutSpace.toHtml := by
  intro h
  have hParse : parseMarkup "<var>first</var> <var>last</var>" = .ok (.fragment
      [.element "var" [] [.text "first"], .text " ", .element "var" [] [.text "last"]]) := by
    decide +kernel
  have hRender : ((render ⟨[[]], 2, some parseMarkup⟩ (none : Option (Source Unit)) (.fragment
      [.element "var" [] [.text "first"], .text " ", .element "var" [] [.text "last"]])
      (.dict [("first", .str "Ada"), ("last", .str "Lovelace")])).runFrom ()).1
        = .ok [.text "Ada", .text " ", .text "Lovelace"] := by decide +kernel
  exact absurd (h _ _ _ _ _ "p" [] hParse hRender) (by decide +kernel)

end TreeTemplate
