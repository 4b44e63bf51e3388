/-
TreeTemplate.Site.Document — documents with templates in them (specification
§12).

In a document the `template` elements are replaced by what their content
is rendered to. Then white space that does not matter is taken out of the
body, and blank lines are taken out of the text.

* `expandTemplates` (`expand_templates`) — a tree with its templates replaced.
* `withoutBodySpace` — a tree with the white space taken out of its bodies.
* `collapseBlankLines` — a text without blank lines.
* `documentText` (`serialize_document`) — the text of a document: a line for
  the document type, and the `html` element.
-/
import TreeTemplate.Template.Render

namespace TreeTemplate

variable {σ : Type}

/-! ## 1. Templates -/

/-- The tag of templates. -/
def templateTag : Text := "template"

mutual

/-- The nodes that a child of a document becomes. -/
def expandChild (rendered : List Node → Rendering σ (List Node)) :
    Node → Rendering σ (List Node)
  | .mk (.element tag) attrs children =>
    if tag = templateTag then rendered children
    else do
      let expanded ← expandChildren rendered children
      pure [.mk (.element tag) attrs expanded]
  | node => pure [node]

/-- The nodes that the children of a node become. -/
def expandChildren (rendered : List Node → Rendering σ (List Node)) :
    List Node → Rendering σ (List Node)
  | [] => pure []
  | node :: rest => do
    let nodes ← expandChild rendered node
    let more ← expandChildren rendered rest
    pure (nodes ++ more)

end

/-- The tree with the templates below its root replaced by what their
content is rendered to. -/
def expandTemplates (settings : Settings) (source : Option (Source σ)) (root : Node)
    (data : Value) : Rendering σ Node := do
  let children ← expandChildren
    (fun content => render settings source (.fragment content) data) root.children
  pure (root.withChildren children)

/-! ## 2. White space -/

/-- The tag of bodies. -/
def bodyTag : Text := "body"

mutual

/-- The tree with the white space that does not matter taken out of its
bodies. -/
def withoutBodySpace : Node → Node
  | .mk label attrs children =>
    if label = .element bodyTag then (Node.mk label attrs children).withoutSpace
    else .mk label attrs (withoutBodySpaceAll children)

/-- The same for a row of nodes. -/
def withoutBodySpaceAll : List Node → List Node
  | [] => []
  | node :: rest => withoutBodySpace node :: withoutBodySpaceAll rest

end

/-- What follows the last line feed in the white space that a text begins
with. -/
def afterLastBreak? : Text → Option Text
  | [] => none
  | c :: rest =>
    if c.isBlank then
      match afterLastBreak? rest with
      | some after => some after
      | none => if c = .scalar '\n' then some rest else none
    else none

theorem afterLastBreak?_suffix {t after : Text} (h : afterLastBreak? t = some after) :
    after <:+ t := by
  induction t generalizing after with
  | nil => cases h
  | cons c rest ih =>
    unfold afterLastBreak? at h
    split at h
    · split at h
      · next found heq => cases h; exact (ih heq).trans (List.suffix_cons _ _)
      · split at h
        · cases h; exact List.suffix_cons _ _
        · cases h
    · cases h

/-- The text in which white space from a line feed to the last line feed
in its row is one line feed. -/
def collapseBlankLines (t : Text) : Text :=
  match t with
  | [] => []
  | c :: rest =>
    if c = .scalar '\n' then
      match _after : afterLastBreak? rest with
      | some after => c :: collapseBlankLines after
      | none => c :: collapseBlankLines rest
    else c :: collapseBlankLines rest
termination_by t.length
decreasing_by
  · have := (afterLastBreak?_suffix _after).length_le
    simp only [List.length_cons]; omega
  · simp
  · simp

/-! ## 3. Text -/

/-- The tag of the element that holds a document. -/
def htmlTag : Text := "html"

/-- The first document type among nodes. -/
def doctypeOf? : List Node → Option Text
  | [] => none
  | node :: rest =>
    match node.label with
    | .doctype content => some content
    | _ => doctypeOf? rest

def isDoctype (node : Node) : Bool :=
  match node.label with
  | .doctype _ => true
  | _ => false

/-- The text of a document, blank lines included. -/
def rawDocumentText (document : Node) : Text :=
  let head : Text := match doctypeOf? document.children with
    | some content => ("<!DOCTYPE " : Text) ++ content ++ (">\n" : Text)
    | none => []
  let body : Text := match document.children.find? (fun node => node.tag = htmlTag) with
    | some root => root.toHtml
    | none => toHtml (document.children.filter fun node => !isDoctype node)
  head ++ body

/-- The text of a document. -/
def documentText (document : Node) : Text := collapseBlankLines (rawDocumentText document)

end TreeTemplate
