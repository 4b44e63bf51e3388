/-
TreeTemplate.Proofs.Site.KeptSpace — white space in `pre`, `textarea`,
`script` and `style`.

White space in these elements matters, and taking white space out of a body
leaves them as they are. But a document is written after that, and blank
lines are taken out of its text wherever they stand. So the content of such
an element is written as it is exactly if it has no blank line; and, since a
body is looked for everywhere, if there is no body inside the element that
has white space to lose.

* `Place` — where a node stands: the way down to it, with what is on its two
  sides. `Place.fill` puts a node there.
* `htmlIn_fill` — the HTML before and behind a place.
* `withoutBodySpace_fill` — what becomes of the element at a place when white
  space is taken out.
* `renderDocument_keepsSpace` — the main statement.
-/
import TreeTemplate.Proofs.Markup.Stripping
import TreeTemplate.Proofs.Site.BlankLines
import TreeTemplate.Proofs.Site.Expansion
import TreeTemplate.Site.Build

namespace TreeTemplate

/-! ## 1. Places -/

/-- A step from a node down to one of its children: the node without that
child. -/
structure Descent where
  label : Label
  attrs : List (Text × Text)
  before : List Node
  after : List Node

/-- A place in a tree: the steps from the root down to it. -/
abbrev Place := List Descent

namespace Descent

variable (step : Descent)

/-- The tag of the node. -/
def tag : Text := (Node.mk step.label step.attrs []).tag

/-- The node with a child where the step goes. -/
def fill (child : Node) : Node :=
  .mk step.label step.attrs (step.before ++ child :: step.after)

/-- Whether the children of the node are written. -/
def IsWritten : Prop :=
  match step.label with
  | .element tag => isVoid tag = false
  | .fragment => True
  | _ => False

instance : Decidable step.IsWritten := by
  unfold IsWritten
  split <;> infer_instance

/-- Whether the children are written as raw text, if the node is or is not. -/
def inside (raw : Bool) : Bool :=
  match step.label with
  | .element tag => isRawText tag
  | _ => raw

/-- The HTML of the node up to the child. -/
def opening (raw : Bool) : Text :=
  match step.label with
  | .element tag => startTagHtml tag step.attrs ++ Node.htmlOfAll (isRawText tag) step.before
  | _ => Node.htmlOfAll raw step.before

/-- The HTML of the node from the child on. -/
def closing (raw : Bool) : Text :=
  match step.label with
  | .element tag => Node.htmlOfAll (isRawText tag) step.after ++ endTagHtml tag
  | _ => Node.htmlOfAll raw step.after

end Descent

namespace Place

/-- The tree with a node at the place. -/
def fill : Place → Node → Node
  | [], node => node
  | step :: place, node => step.fill (fill place node)

/-- The HTML of the tree up to the place. -/
def opening (raw : Bool) : Place → Text
  | [] => []
  | step :: place => step.opening raw ++ opening (step.inside raw) place

/-- The HTML of the tree from the place on. -/
def closing (raw : Bool) : Place → Text
  | [] => []
  | step :: place => closing (step.inside raw) place ++ step.closing raw

/-- Whether some node on the way is a body. -/
def inBody (place : Place) : Bool := place.any fun step => step.label = .element bodyTag

end Place

/-! ## 2. HTML -/

/-- The node of a step is what is before the child, the child, and what is
behind it. -/
theorem Descent.htmlIn_fill {step : Descent} (h : step.IsWritten) (raw : Bool) (child : Node) :
    (step.fill child).htmlIn raw =
      step.opening raw ++ child.htmlIn (step.inside raw) ++ step.closing raw := by
  obtain ⟨label, attrs, before, after⟩ := step
  cases label with
  | element tag =>
    have hVoid : ¬ isVoid tag = true := by simpa using show isVoid tag = false from h
    rw [fill, Node.htmlIn, if_neg hVoid, htmlOfAll_append, Node.htmlOfAll]
    simp only [opening, inside, closing, List.append_assoc]
  | fragment =>
    rw [fill, Node.htmlIn, htmlOfAll_append, Node.htmlOfAll]
    simp only [opening, inside, closing, List.append_assoc]
  | _ => exact h.elim

/-- The HTML of a tree with an element at a place. -/
theorem Place.htmlIn_fill {place : Place} (h : ∀ step ∈ place, step.IsWritten) (raw : Bool)
    {tag : Text} (hVoid : isVoid tag = false) (attrs : Table Text) (children : List Node) :
    (place.fill (.element tag attrs children)).htmlIn raw =
      place.opening raw ++ startTagHtml tag attrs ++ Node.htmlOfAll (isRawText tag) children
        ++ (endTagHtml tag ++ place.closing raw) := by
  induction place generalizing raw with
  | nil =>
    rw [fill, htmlIn_element raw hVoid, opening, closing, List.append_nil, List.nil_append]
  | cons step place ih =>
    obtain ⟨hStep, hPlace⟩ := List.forall_mem_cons.1 h
    rw [fill, Descent.htmlIn_fill hStep, ih hPlace, opening, closing]
    simp only [List.append_assoc]

/-! ## 3. Taking white space out -/

theorem withoutBodySpaceAll_eq (nodes : List Node) :
    withoutBodySpaceAll nodes = nodes.map withoutBodySpace := by
  induction nodes with
  | nil => rfl
  | cons node nodes ih => rw [withoutBodySpaceAll, ih, List.map_cons]

/-- Elements in which white space matters are no bodies. -/
theorem ne_bodyTag_of_keepsSpace {tag : Text} (h : keepsSpace tag = true) : tag ≠ bodyTag := by
  have hAll : ∀ tag ∈ spaceKeepingTags, tag ≠ bodyTag := by decide
  exact hAll tag (List.contains_iff_mem.1 h)

/-- The way down to a place, without the white space that does not matter. -/
def Place.withoutSpace : Place → Place
  | [] => []
  | step :: place =>
    if keepsSpace step.tag then step :: place
    else { step with
      before := Node.withoutSpaceAll step.before
      after := Node.withoutSpaceAll step.after } :: withoutSpace place

/-- The way down to a place, without the white space in bodies. -/
def Place.withoutBodySpace : Place → Place
  | [] => []
  | step :: place =>
    if step.label = .element bodyTag then Place.withoutSpace (step :: place)
    else { step with
      before := withoutBodySpaceAll step.before
      after := withoutBodySpaceAll step.after } :: withoutBodySpace place

/-- What is left of the content of an element at a place, if white space
matters in the element. -/
def Place.kept (place : Place) (children : List Node) : List Node :=
  if place.inBody then children else withoutBodySpaceAll children

variable {tag : Text} {attrs : Table Text} {children : List Node} {place : Place}

theorem isBlankText_fill (h : ∀ step ∈ place, step.IsWritten) :
    (place.fill (.element tag attrs children)).isBlankText = false := by
  cases place with
  | nil => rfl
  | cons step place =>
    obtain ⟨label, stepAttrs, before, after⟩ := step
    cases label with
    | text content => exact (h _ List.mem_cons_self).elim
    | _ => rfl

/-- An element in which white space matters stays, and so does the tree around
it but for the white space there. -/
theorem withoutSpace_fill (h : ∀ step ∈ place, step.IsWritten) (hKeeps : keepsSpace tag = true) :
    (place.fill (.element tag attrs children)).withoutSpace =
      place.withoutSpace.fill (.element tag attrs children) := by
  induction place with
  | nil => exact Node.withoutSpace_of_keepsSpace hKeeps
  | cons step place ih =>
    obtain ⟨_, hPlace⟩ := List.forall_mem_cons.1 h
    rw [Place.fill, Place.withoutSpace]
    split
    · next hStep => exact Node.withoutSpace_of_keepsSpace hStep
    · next hStep =>
      have hChild : (Place.fill place (.element tag attrs children)).isBlankText = false :=
        isBlankText_fill hPlace
      rw [Place.fill, ← ih hPlace, Descent.fill, Node.withoutSpace, if_neg (by exact hStep),
        Node.withoutSpaceAll_append, Node.withoutSpaceAll, if_neg (by simp [hChild])]
      rfl

/-- Inside a body an element in which white space matters stays; elsewhere it
loses the white space in the bodies that it holds. -/
theorem withoutBodySpace_fill (h : ∀ step ∈ place, step.IsWritten)
    (hKeeps : keepsSpace tag = true) :
    withoutBodySpace (place.fill (.element tag attrs children)) =
      place.withoutBodySpace.fill (.element tag attrs (place.kept children)) := by
  induction place with
  | nil =>
    have hBody : Label.element tag ≠ .element bodyTag := fun hLabel =>
      ne_bodyTag_of_keepsSpace hKeeps (Label.element.inj hLabel)
    rw [Place.fill, Node.element, withoutBodySpace, if_neg hBody]
    rfl
  | cons step place ih =>
    obtain ⟨_, hPlace⟩ := List.forall_mem_cons.1 h
    by_cases hBody : step.label = .element bodyTag
    · have hIn : Place.inBody (step :: place) = true := by simp [Place.inBody, hBody]
      rw [Place.withoutBodySpace, if_pos hBody, Place.kept, if_pos hIn,
        ← withoutSpace_fill h hKeeps, Place.fill, Descent.fill, withoutBodySpace, if_pos hBody]
    · have hKept : Place.kept (step :: place) children = Place.kept place children := by
        simp [Place.kept, Place.inBody, hBody]
      rw [Place.withoutBodySpace, if_neg hBody, hKept, Place.fill, Place.fill, ← ih hPlace,
        Descent.fill, withoutBodySpace, if_neg hBody, withoutBodySpaceAll_eq, List.map_append,
        List.map_cons, ← withoutBodySpaceAll_eq, ← withoutBodySpaceAll_eq]
      rfl

/-- A way down stays one to what is written. -/
theorem isWritten_withoutSpace (h : ∀ step ∈ place, step.IsWritten) :
    ∀ step ∈ place.withoutSpace, step.IsWritten := by
  induction place with
  | nil => exact h
  | cons step place ih =>
    obtain ⟨hStep, hPlace⟩ := List.forall_mem_cons.1 h
    rw [Place.withoutSpace]
    split
    · exact h
    · exact List.forall_mem_cons.2 ⟨hStep, ih hPlace⟩

theorem isWritten_withoutBodySpace (h : ∀ step ∈ place, step.IsWritten) :
    ∀ step ∈ place.withoutBodySpace, step.IsWritten := by
  induction place with
  | nil => exact h
  | cons step place ih =>
    obtain ⟨hStep, hPlace⟩ := List.forall_mem_cons.1 h
    rw [Place.withoutBodySpace]
    split
    · exact isWritten_withoutSpace h
    · exact List.forall_mem_cons.2 ⟨hStep, ih hPlace⟩

/-! ## 4. What is left is in its order -/

theorem htmlOfAll_withoutBodySpaceAll_sublist (raw : Bool) {nodes : List Node}
    (h : ∀ node ∈ nodes, ∀ raw, ((withoutBodySpace node).htmlIn raw).Sublist (node.htmlIn raw)) :
    (Node.htmlOfAll raw (withoutBodySpaceAll nodes)).Sublist (Node.htmlOfAll raw nodes) := by
  induction nodes with
  | nil => exact .slnil
  | cons node nodes ih =>
    obtain ⟨hNode, hNodes⟩ := List.forall_mem_cons.1 h
    rw [withoutBodySpaceAll, Node.htmlOfAll, Node.htmlOfAll]
    exact (hNode raw).append (ih hNodes)

theorem htmlIn_withoutBodySpace_sublist (raw : Bool) (node : Node) :
    ((withoutBodySpace node).htmlIn raw).Sublist (node.htmlIn raw) := by
  induction node using Node.induct generalizing raw with
  | step label attrs children ih =>
    rw [withoutBodySpace]
    split
    · exact htmlIn_withoutSpace_sublist raw _
    · refine htmlIn_sublist raw label attrs fun raw => ?_
      exact htmlOfAll_withoutBodySpaceAll_sublist raw fun child hChild raw => ih child hChild raw

/-! ## 5. Documents -/

/-- The content of a node that is a document type. -/
def Node.doctypeContent? (node : Node) : Option Text :=
  match node.label with
  | .doctype content => some content
  | _ => none

/-- The line for the document type: the first among the children of the
document, if there is one. -/
def documentHead (document : Node) : Text :=
  match document.children.findSome? Node.doctypeContent? with
  | some content => ("<!DOCTYPE " : Text) ++ content ++ (">\n" : Text)
  | none => []

/-- The part of a document that is written behind that line. -/
def documentRoot (document : Node) : Node :=
  match document.children.find? (fun node => node.tag = htmlTag) with
  | some root => root
  | none => .fragment (document.children.filter fun node => !isDoctype node)

theorem doctypeOf?_eq (nodes : List Node) :
    doctypeOf? nodes = nodes.findSome? Node.doctypeContent? := by
  induction nodes with
  | nil => rfl
  | cons node nodes ih =>
    rw [doctypeOf?, List.findSome?_cons, ← ih, Node.doctypeContent?]
    cases node.label <;> rfl

theorem rawDocumentText_eq (document : Node) :
    rawDocumentText document = documentHead document ++ (documentRoot document).toHtml := by
  unfold rawDocumentText documentHead documentRoot
  rw [doctypeOf?_eq]
  cases document.children.find? (fun node => node.tag = htmlTag) with
  | some root => rfl
  | none => rfl

theorem label_withoutBodySpace (node : Node) : (withoutBodySpace node).label = node.label := by
  obtain ⟨label, attrs, children⟩ := node
  rw [withoutBodySpace]
  split
  · rw [Node.withoutSpace]
    split <;> rfl
  · rfl

theorem tag_withoutBodySpace (node : Node) : (withoutBodySpace node).tag = node.tag := by
  rw [Node.tag, Node.tag, label_withoutBodySpace]

theorem isDoctype_withoutBodySpace (node : Node) :
    isDoctype (withoutBodySpace node) = isDoctype node := by
  rw [isDoctype, isDoctype, label_withoutBodySpace]

theorem children_withoutBodySpace {document : Node} (h : document.label = .fragment) :
    (withoutBodySpace document).children = document.children.map withoutBodySpace := by
  obtain ⟨label, attrs, children⟩ := document
  cases h
  rw [withoutBodySpace, if_neg (by simp), ← withoutBodySpaceAll_eq]
  rfl

/-- Taking white space out leaves the document type. -/
theorem documentHead_withoutBodySpace {document : Node} (h : document.label = .fragment) :
    documentHead (withoutBodySpace document) = documentHead document := by
  have hSame : Node.doctypeContent? ∘ withoutBodySpace = Node.doctypeContent? := by
    funext node
    rw [Function.comp_apply, Node.doctypeContent?, Node.doctypeContent?, label_withoutBodySpace]
  rw [documentHead, documentHead, children_withoutBodySpace h, List.findSome?_map, hSame]

/-- White space is taken out of the part that is written. -/
theorem documentRoot_withoutBodySpace {document : Node} (h : document.label = .fragment) :
    documentRoot (withoutBodySpace document) = withoutBodySpace (documentRoot document) := by
  have hFind : (document.children.map withoutBodySpace).find? (fun node => node.tag = htmlTag)
      = (document.children.find? fun node => node.tag = htmlTag).map withoutBodySpace := by
    rw [List.find?_map]
    simp only [Function.comp_def, tag_withoutBodySpace]
  have hFilter : (document.children.map withoutBodySpace).filter (fun node => !isDoctype node)
      = (document.children.filter fun node => !isDoctype node).map withoutBodySpace := by
    rw [List.filter_map]
    simp only [Function.comp_def, isDoctype_withoutBodySpace]
  rw [documentRoot, documentRoot, children_withoutBodySpace h, hFind, hFilter]
  cases document.children.find? (fun node => node.tag = htmlTag) with
  | some root => rfl
  | none =>
    simp only [Option.map_none]
    rw [Node.fragment, Node.fragment, withoutBodySpace, if_neg (by simp), withoutBodySpaceAll_eq]

/-- The text of a document with an element at a place in which white space
matters. -/
theorem documentText_withoutBodySpace {document : Node} (hLabel : document.label = .fragment)
    (hPlace : ∀ step ∈ place, step.IsWritten) (hKeeps : keepsSpace tag = true)
    (hRoot : documentRoot document = place.fill (.element tag attrs children)) :
    documentText (withoutBodySpace document) =
      collapseBlankLines (documentHead document ++ place.withoutBodySpace.opening false
        ++ startTagHtml tag attrs)
      ++ collapseBlankLines (Node.htmlOfAll (isRawText tag) (place.kept children))
      ++ collapseBlankLines (endTagHtml tag ++ place.withoutBodySpace.closing false) := by
  have hHtml : (withoutBodySpace (documentRoot document)).toHtml =
      place.withoutBodySpace.opening false ++ startTagHtml tag attrs
        ++ Node.htmlOfAll (isRawText tag) (place.kept children)
        ++ (endTagHtml tag ++ place.withoutBodySpace.closing false) := by
    rw [hRoot, withoutBodySpace_fill hPlace hKeeps]
    exact Place.htmlIn_fill (isWritten_withoutBodySpace hPlace) false
      (isVoid_of_keepsSpace hKeeps) _ _
  -- The start tag ends, and the end tag begins, with what is not white space.
  have hStart (before after : Text) : collapseBlankLines (before ++ startTagHtml tag attrs ++ after)
      = collapseBlankLines (before ++ startTagHtml tag attrs) ++ collapseBlankLines after := by
    rw [startTagHtml, ← List.append_assoc before]
    exact collapseBlankLines_append_behind (by decide) _ _
  have hEnd (before after : Text) : collapseBlankLines (before ++ (endTagHtml tag ++ after))
      = collapseBlankLines before ++ collapseBlankLines (endTagHtml tag ++ after) :=
    collapseBlankLines_append_before (by decide) before _
  rw [documentText, rawDocumentText_eq, documentHead_withoutBodySpace hLabel,
    documentRoot_withoutBodySpace hLabel, hHtml, ← List.append_assoc, hEnd,
    ← List.append_assoc, ← List.append_assoc, hStart]

/-- The content of an element in which white space matters is written as it
is exactly if it has no blank line and no white space in bodies. -/
theorem collapseBlankLines_kept_iff (place : Place) (raw : Bool) (children : List Node) :
    collapseBlankLines (Node.htmlOfAll raw (place.kept children)) = Node.htmlOfAll raw children ↔
      ¬ HasBlankLine (Node.htmlOfAll raw children) ∧
        Node.htmlOfAll raw (place.kept children) = Node.htmlOfAll raw children := by
  have hKept :
      (Node.htmlOfAll raw (place.kept children)).Sublist (Node.htmlOfAll raw children) := by
    rw [Place.kept]
    split
    · exact .refl _
    · exact htmlOfAll_withoutBodySpaceAll_sublist raw fun child _ raw =>
        htmlIn_withoutBodySpace_sublist raw child
  constructor
  · intro h
    have hSame : Node.htmlOfAll raw (place.kept children) = Node.htmlOfAll raw children := by
      refine hKept.eq_of_length_le ?_
      rw [← h]
      exact (collapseBlankLines_sublist _).length_le
    rw [hSame] at h
    exact ⟨collapseBlankLines_eq_self_iff.1 h, hSame⟩
  · rintro ⟨hNone, hSame⟩
    rw [hSame]
    exact collapseBlankLines_eq_self_iff.2 hNone

/-! ## 6. Documents in files -/

variable {settings : Settings} {files : Files} {now : Double} {document data : Path}
  {loader next : PartialLoader} {text : Text}

/-- A document that can be read has a fragment as its root. -/
theorem label_of_readDocument {root : Node} {value : Value}
    (h : readDocument files document data = .ok (root, value)) : root.label = .fragment := by
  obtain ⟨markup, -, h⟩ := exists_of_bind_eq_ok h
  obtain ⟨dataText, -, h⟩ := exists_of_bind_eq_ok h
  obtain ⟨read, -, h⟩ := exists_of_bind_eq_ok h
  obtain ⟨parsed, hParsed, h⟩ := exists_of_bind_eq_ok h
  have hRoot : parsed = root := by
    split at h
    · cases h
      rfl
    · cases h
  exact hRoot ▸ label_of_parseMarkup (mapError_eq_ok_iff.1 hParsed)

/-- Expanding a tree leaves its root. -/
theorem label_of_expandTemplates {σ : Type} {source : Option (Source σ)} {root expanded : Node}
    {value : Value} {s s' : σ}
    (h : (expandTemplates settings source root value).runFrom s = (.ok expanded, s')) :
    expanded.label = root.label := by
  rw [expandTemplates, Rendering.runFrom_bind] at h
  split at h
  · cases h
    rfl
  · cases h

/-- What the text of a document was made of. -/
theorem renderDocument_eq_ok
    (h : renderDocument settings files now document data loader = (.ok text, next)) :
    ∃ root value expanded, readDocument files document data = .ok (root, value) ∧
      (expandTemplates settings (some (PartialLoader.source now)) root value).runFrom loader
        = (.ok expanded, next) ∧
      expanded.label = .fragment ∧ text = documentText (withoutBodySpace expanded) := by
  unfold renderDocument at h
  split at h
  · cases h
  · next root value hRead =>
    split at h
    · cases h
    · next expanded _ hExpand =>
      cases h
      exact ⟨root, value, expanded, hRead, hExpand,
        (label_of_expandTemplates hExpand).trans (label_of_readDocument hRead), rfl⟩

/-- A document that is rendered: what is written for an element in which
white space matters is its content, as it is in the tree whose templates are
expanded, without the white space in bodies that it holds outside of a body,
and without blank lines. It is its content as it stands exactly if there is
no such white space and no blank line. The way down to the element goes through
no element without content, for what is made inside such a one is not written. -/
theorem renderDocument_keepsSpace
    (h : renderDocument settings files now document data loader = (.ok text, next)) :
    ∃ root value expanded, readDocument files document data = .ok (root, value) ∧
      (expandTemplates settings (some (PartialLoader.source now)) root value).runFrom loader
        = (.ok expanded, next) ∧
      ∀ (place : Place) (tag : Text) (attrs : Table Text) (children : List Node),
        (∀ step ∈ place, step.IsWritten) → keepsSpace tag = true →
        documentRoot expanded = place.fill (.element tag attrs children) →
        let written := collapseBlankLines (Node.htmlOfAll (isRawText tag) (place.kept children))
        let content := Node.htmlOfAll (isRawText tag) children
        text = collapseBlankLines (documentHead expanded ++ place.withoutBodySpace.opening false
            ++ startTagHtml tag attrs) ++ written
          ++ collapseBlankLines (endTagHtml tag ++ place.withoutBodySpace.closing false) ∧
        (written = content ↔ ¬ HasBlankLine content ∧
          Node.htmlOfAll (isRawText tag) (place.kept children) = content) := by
  obtain ⟨root, value, expanded, hRead, hExpand, hLabel, rfl⟩ := renderDocument_eq_ok h
  refine ⟨root, value, expanded, hRead, hExpand, fun place tag attrs children hPlace hKeeps hRoot =>
    ⟨?_, ?_⟩⟩
  · exact documentText_withoutBodySpace hLabel hPlace hKeeps hRoot
  · exact collapseBlankLines_kept_iff place (isRawText tag) children

/-- Preformatted text that a template puts into a body. -/
theorem renderDocument_keepsSpace_pre :
    let settings : Settings := ⟨[[]], 2, some parseMarkup⟩
    let markup : Text := ("<!DOCTYPE html>\n<html><body> " : Text)
      ++ ("<template><pre><var>x</var></pre></template>\n</body></html>" : Text)
    let files := Files.ofTexts [("w" : Text)]
      [("index.html", markup), ("data.json", "\x7b\"x\": \" a\\nb\"\x7d")]
    let document := Path.ofText "index.html"
    let data := Path.ofText "data.json"
    let loader := loaderBeside files document
    let text : Text := "<!DOCTYPE html>\n<html><body><pre> a\nb</pre></body></html>"
    let place : Place :=
      [⟨.element "html", [], [], []⟩, ⟨.element "body", [], [.text " "], [.text "\n"]⟩]
    let content : Text := " a\nb"
    (renderDocument settings files (.ofInt 0) document data loader).1 = .ok text ∧
      (∀ step ∈ place, step.IsWritten) ∧ keepsSpace "pre" = true ∧ ¬ HasBlankLine content ∧
      text = collapseBlankLines (("<!DOCTYPE html>\n" : Text)
          ++ place.withoutBodySpace.opening false ++ startTagHtml "pre" []) ++ content
        ++ collapseBlankLines (endTagHtml "pre" ++ place.withoutBodySpace.closing false) := by
  intro settings markup files document data loader text place content
  let parsed : Node := .fragment [.doctype "html", .text "\n",
    .element "html" [] [.element "body" [] [.text " ",
      .element "template" [] [.element "pre" [] [.element "var" [] [.text "x"]]], .text "\n"]]]
  let result : Node := .fragment [.doctype "html", .text "\n",
    place.fill (.element "pre" [] [.text content])]
  have hText : (renderDocument settings files (.ofInt 0) document data loader).1 = .ok text := by
    decide +kernel
  have hParsed : readDocument files document data
      = .ok (parsed, .dict [("x", .str content)]) := by decide +kernel
  have hResult : ((expandTemplates settings (some (PartialLoader.source (.ofInt 0))) parsed
      (.dict [("x", .str content)])).runFrom loader).1 = .ok result := by decide +kernel
  have hPlace : ∀ step ∈ place, step.IsWritten := by decide +kernel
  have hKeeps : keepsSpace "pre" = true := by decide
  have hNone : ¬ HasBlankLine content := collapseBlankLines_eq_self_iff.1 (by decide +kernel)
  rcases hRender : renderDocument settings files (.ofInt 0) document data loader with
    ⟨rendered, next⟩
  rw [hRender] at hText
  obtain ⟨root, value, expanded, hRead, hExpand, hWritten⟩ :=
    renderDocument_keepsSpace (hRender.trans (congrArg (·, next) hText))
  obtain ⟨rfl, rfl⟩ := Prod.mk.inj (Except.ok.inj (hParsed.symm.trans hRead))
  rw [hExpand] at hResult
  obtain rfl := Except.ok.inj hResult
  have hRoot : documentRoot result = place.fill (.element "pre" [] [.text content]) := by
    decide +kernel
  have hHead : documentHead result = ("<!DOCTYPE html>\n" : Text) := by decide +kernel
  have hContent : Node.htmlOfAll (isRawText "pre") [.text content] = content := by decide +kernel
  have hKept : Node.htmlOfAll (isRawText "pre") (place.kept [.text content]) = content := by
    decide +kernel
  obtain ⟨hEq, hSame⟩ := hWritten place "pre" [] [.text content] hPlace hKeeps hRoot
  rw [hContent] at hSame
  rw [hSame.2 ⟨hNone, hKept⟩, hHead] at hEq
  exact ⟨hText, hPlace, hKeeps, hNone, hEq⟩

/-- A blank line is lost from preformatted text. -/
theorem renderDocument_collapses_pre :
    ¬ ∀ (settings : Settings) (files : Files) (now : Double) (document data : Path)
        (loader : PartialLoader) (text : Text) (root : Node) (value : Value) (expanded : Node)
        (place : Place) (tag : Text) (attrs : Table Text) (children : List Node),
      (renderDocument settings files now document data loader).1 = .ok text →
      readDocument files document data = .ok (root, value) →
      ((expandTemplates settings (some (PartialLoader.source now)) root value).runFrom loader).1
        = .ok expanded →
      (∀ step ∈ place, step.IsWritten) → keepsSpace tag = true →
      documentRoot expanded = place.fill (.element tag attrs children) →
        Node.htmlOfAll (isRawText tag) children ++ endTagHtml tag <:+: text := by
  intro h
  let settings : Settings := ⟨[[]], 2, some parseMarkup⟩
  let files := Files.ofTexts [("w" : Text)]
    [("index.html", "<html><body><pre>a\n\nb</pre></body></html>"), ("data.json", "\x7b\x7d")]
  let document := Path.ofText "index.html"
  let data := Path.ofText "data.json"
  let loader := loaderBeside files document
  let place : Place := [⟨.element "html", [], [], []⟩, ⟨.element "body", [], [], []⟩]
  let root : Node := .fragment [place.fill (.element "pre" [] [.text "a\n\nb"])]
  have hText : (renderDocument settings files (.ofInt 0) document data loader).1
      = .ok "<html><body><pre>a\nb</pre></body></html>" := by decide +kernel
  have hRead : readDocument files document data = .ok (root, .dict []) := by decide +kernel
  have hExpand : ((expandTemplates settings (some (PartialLoader.source (.ofInt 0))) root
      (.dict [])).runFrom loader).1 = .ok root := by decide +kernel
  have hPlace : ∀ step ∈ place, step.IsWritten := by decide +kernel
  have hRoot : documentRoot root = place.fill (.element "pre" [] [.text "a\n\nb"]) := by
    decide +kernel
  have hInfix := h settings files (.ofInt 0) document data loader _ root (.dict []) root
    place "pre" [] [.text "a\n\nb"] hText hRead hExpand hPlace (by decide) hRoot
  exact absurd hInfix (by decide +kernel)

end TreeTemplate
