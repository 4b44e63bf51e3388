/-
TreeTemplate.Proofs.Api.Mounting — replies with and without a target.

A request with a target is rendered like the same request without one; only
then are the nodes put into the target (`mount`, specification §13). What the
reply shows of them depends on the target. Between the two tags of an element
stands the same HTML as without a target, but an element of raw text has its
content as it stands, and an element without content shows none.

* `isWritable_append`, `isWritable_htmlOfAll` — texts without lone surrogates.
* `toHtml_mount` — the HTML of a target with nodes in it.
* `exists_of_renderReply`, `renderReply_mounted` — the reply without a target,
  and the one with it.
* `handle_mounted` — the main statement, for requests to the service.
-/
import TreeTemplate.Proofs.Api.Status
import TreeTemplate.Proofs.Markup.Stripping

namespace TreeTemplate

/-! ## 1. Texts that can be sent -/

theorem isWritable_iff {t : Text} :
    t.isWritable = true ↔ ∀ c ∈ t, Encoding.isCharacter c = true := by
  induction t with
  | nil => simp [Text.isWritable, Text.toString?]
  | cons c rest ih =>
    simp only [Text.isWritable, Text.toString?, Option.isSome_map] at ih ⊢
    rw [List.forall_mem_cons, ← ih]
    cases c with
    | scalar c => simp [Encoding.isCharacter, Option.isSome_bind]
    | surrogate k => simp [Encoding.isCharacter]

theorem isWritable_append {s t : Text} :
    (s ++ t).isWritable = true ↔ s.isWritable = true ∧ t.isWritable = true := by
  rw [isWritable_iff, isWritable_iff, isWritable_iff, List.forall_mem_append]

theorem isWritable_flatMap {f : CodePoint → Text}
    (hf : ∀ c, (f c).isWritable = Encoding.isCharacter c) (t : Text) :
    Text.isWritable (t.flatMap f) = t.isWritable := by
  rw [Bool.eq_iff_iff, isWritable_iff, isWritable_iff]
  simp only [List.mem_flatMap, forall_exists_index, and_imp]
  have hEach (c : CodePoint) : (∀ d ∈ f c, Encoding.isCharacter d = true)
      ↔ Encoding.isCharacter c = true := by rw [← isWritable_iff, hf c]
  exact ⟨fun h c hc => (hEach c).1 fun d hd => h d c hc hd,
    fun h d c hc hd => (hEach c).2 (h c hc) d hd⟩

theorem isWritable_escapeInText (c : CodePoint) :
    (escapeInText c).isWritable = Encoding.isCharacter c := by
  unfold escapeInText
  split
  · decide
  · decide
  · decide
  · cases c <;> rfl

theorem isWritable_htmlOfAll_of_mem {nodes : List Node}
    (h : ∀ node ∈ nodes, (node.htmlIn true).isWritable = (node.htmlIn false).isWritable) :
    (Node.htmlOfAll true nodes).isWritable = (Node.htmlOfAll false nodes).isWritable := by
  induction nodes with
  | nil => rfl
  | cons node nodes ih =>
    obtain ⟨hNode, hNodes⟩ := List.forall_mem_cons.1 h
    rw [Node.htmlOfAll, Node.htmlOfAll, Bool.eq_iff_iff, isWritable_append, isWritable_append,
      hNode, ih hNodes]

/-- Raw text can be sent if the same can be sent with its references. -/
theorem isWritable_htmlIn (node : Node) :
    (node.htmlIn true).isWritable = (node.htmlIn false).isWritable := by
  induction node using Node.induct with
  | step label attrs children ih =>
    cases label with
    | text content => exact (isWritable_flatMap isWritable_escapeInText content).symm
    | fragment => exact isWritable_htmlOfAll_of_mem ih
    | _ => rfl

theorem isWritable_htmlOfAll (raw : Bool) {nodes : List Node}
    (h : (toHtml nodes).isWritable = true) : (Node.htmlOfAll raw nodes).isWritable = true := by
  cases raw with
  | true => exact (isWritable_htmlOfAll_of_mem fun node _ => isWritable_htmlIn node).trans h
  | false => exact h

/-! ## 2. Targets -/

/-- The HTML of a target with nodes in it: its tags, and between them its own
children, unless their place is taken, and the nodes. -/
theorem toHtml_mount (tag : Text) (attrs : Table Text) (children nodes : List Node)
    (inPlace : Bool) :
    (mount (.element tag attrs children) nodes inPlace).toHtml =
      startTagHtml tag attrs ++ if isVoid tag then [] else
        (if inPlace then [] else Node.htmlOfAll (isRawText tag) children)
          ++ Node.htmlOfAll (isRawText tag) nodes ++ endTagHtml tag := by
  have hMount : mount (.element tag attrs children) nodes inPlace
      = .element tag attrs (if inPlace then nodes else children ++ nodes) := rfl
  rw [hMount, Node.toHtml]
  cases hVoid : isVoid tag with
  | true =>
    rw [Node.element, Node.htmlIn, if_pos hVoid, if_pos rfl, List.append_nil]
  | false =>
    rw [htmlIn_element false hVoid]
    cases inPlace with
    | true => simp
    | false => simp [htmlOfAll_append]

/-- What stands in a start tag can be sent in the end tag. -/
theorem isWritable_endTagHtml {tag : Text} {attrs : Table Text}
    (h : (startTagHtml tag attrs).isWritable = true) : (endTagHtml tag).isWritable = true := by
  rw [isWritable_iff] at h
  have hTag : tag.isWritable = true := isWritable_iff.2 fun c hc =>
    h c (List.mem_append_left _ (List.mem_append_left _ (List.mem_cons_of_mem _ hc)))
  rw [endTagHtml, isWritable_append, isWritable_append]
  exact ⟨⟨by decide, hTag⟩, by decide⟩

theorem isWritable_mount {tag : Text} {attrs : Table Text} {children nodes : List Node}
    {inPlace : Bool} (hStart : (startTagHtml tag attrs).isWritable = true)
    (hOwn : isVoid tag = false → inPlace = false →
      (Node.htmlOfAll (isRawText tag) children).isWritable = true)
    (hNodes : (toHtml nodes).isWritable = true) :
    (mount (.element tag attrs children) nodes inPlace).toHtml.isWritable = true := by
  rw [toHtml_mount, isWritable_append]
  refine ⟨hStart, ?_⟩
  cases hVoid : isVoid tag with
  | true => rfl
  | false =>
    rw [if_neg (by decide), isWritable_append, isWritable_append]
    refine ⟨⟨?_, isWritable_htmlOfAll _ hNodes⟩, isWritable_endTagHtml hStart⟩
    cases inPlace with
    | true => rfl
    | false => exact hOwn hVoid rfl

/-- Only directly in raw text nodes are written in another way. -/
theorem htmlOfAll_eq (raw : Bool) (nodes : List Node) :
    Node.htmlOfAll raw nodes = if raw then Node.htmlOfAll true nodes else toHtml nodes := by
  cases raw <;> rfl

variable {settings : Settings} {now : Double} {wanted : RenderRequest}
  {fallback : Option PartialLoader} {template target : Node} {nodes : List Node}

/-- How the rendering of a request ends, with the loader as it is then. -/
def RenderRequest.rendered (settings : Settings) (now : Double) (request : RenderRequest)
    (fallback : Option PartialLoader) (template : Node) :
    Except RenderError (List Node) × Option PartialLoader :=
  let run := (render settings (some (PartialLoader.source now)) template request.data).runFrom
    (inlineFirst request.partials fallback)
  (run.1, fallbackOf run.2)

theorem renderReply_eq {given : Option Node}
    (h : readTemplate wanted = .ok (template, given)) :
    renderReply settings now wanted fallback =
      (match (wanted.rendered settings now fallback template).1 with
        | .error e => failureReply e
        | .ok nodes => nodesReply given wanted.inPlace nodes,
      (wanted.rendered settings now fallback template).2) := by
  simp only [renderReply, h]
  rfl

theorem failureReply_ne_success (e : RenderError) (body : Value) :
    failureReply e ≠ .success body := by
  cases e with
  | load e =>
    rw [failureReply]
    split <;> nofun
  | _ => nofun

/-- Once its template is read, a request depends on its target. -/
theorem readTemplate_eq (hParse : parseMarkup wanted.template.trim = .ok template)
    (hFull : template.children ≠ []) :
    readTemplate wanted = match wanted.target with
      | none => .ok (template, none)
      | some t => (readTarget t).map fun target => (template, some target) := by
  rw [readTemplate, hParse]
  exact if_neg (by rwa [List.isEmpty_iff])

/-- A reply with HTML to a request without a target shows rendered nodes. -/
theorem exists_of_renderReply (hNone : wanted.target = none) {html : Text}
    (h : (renderReply settings now wanted fallback).1 = htmlReply html) :
    ∃ template nodes, parseMarkup wanted.template.trim = .ok template ∧ template.children ≠ [] ∧
      (wanted.rendered settings now fallback template).1 = .ok nodes ∧ html = toHtml nodes ∧
      (renderReply settings now wanted fallback).2
        = (wanted.rendered settings now fallback template).2 := by
  cases hParse : parseMarkup wanted.template.trim with
  | error e =>
    simp only [renderReply, readTemplate, hParse] at h
    cases h
  | ok template =>
    by_cases hFull : template.children = []
    · simp only [renderReply, readTemplate, hParse, List.isEmpty_iff, if_pos hFull] at h
      cases h
    have hRead := readTemplate_eq hParse hFull
    rw [hNone] at hRead
    rw [renderReply_eq hRead] at h ⊢
    cases hRendered : (wanted.rendered settings now fallback template).1 with
    | error e =>
      rw [hRendered] at h
      exact absurd h (failureReply_ne_success e _)
    | ok nodes =>
      simp only [hRendered, nodesReply, htmlReply, Reply.success.injEq, Value.dict.injEq,
        List.cons.injEq, Prod.mk.injEq, Value.str.injEq] at h
      exact ⟨template, nodes, rfl, hFull, hRendered, h.1.2.symm, rfl⟩

/-- With a target, the same nodes are put into it. -/
theorem renderReply_mounted {text : Text} (hParse : parseMarkup wanted.template.trim = .ok template)
    (hFull : template.children ≠ [])
    (hRendered : (wanted.rendered settings now fallback template).1 = .ok nodes)
    (hTarget : readTarget text = .ok target) :
    renderReply settings now { wanted with target := some text } fallback =
      (htmlReply (mount target nodes wanted.inPlace).toHtml,
        (wanted.rendered settings now fallback template).2) := by
  have hRead : readTemplate { wanted with target := some text } = .ok (template, some target) := by
    rw [@readTemplate_eq { wanted with target := some text } _ hParse hFull]
    exact congrArg (Except.map _) hTarget
  rw [renderReply_eq hRead]
  have hSame : RenderRequest.rendered settings now { wanted with target := some text } fallback
      template = wanted.rendered settings now fallback template := rfl
  rw [hSame, hRendered]
  rfl

/-! ## 3. Requests -/

variable {framework : Framework} {service : Service} {path : Text} {body : List Nat}

/-- The answer to a request for rendering. -/
theorem handle_post (hRoute : framework.dispatch .post path = .ok .render)
    (hBody : framework.readBody body = .ok wanted) :
    service.handle framework now ⟨.post, path, body⟩ =
      (framework.sent
          (renderReply service.configuration.settings now wanted service.loader).1,
        { service with loader :=
          (renderReply service.configuration.settings now wanted service.loader).2 }) := by
  simp only [Service.handle, hRoute, Service.answer, hBody]

/-- Whether a reply with HTML can be sent exactly if the HTML has bytes. -/
def Framework.SendsHtml (framework : Framework) : Prop :=
  ∀ html, framework.canSend (htmlReply html) = html.isWritable

theorem sendsHtml_standard : Framework.standard.SendsHtml := by
  intro html
  show (htmlReply html).isWritable = html.isWritable
  simp [htmlReply, Reply.isWritable, Value.isWritable, Value.areWritableEntries,
    show Text.isWritable "html" = true by decide]

theorem sent_eq_htmlReply (hSends : framework.SendsHtml) {reply : Reply} {html : Text} :
    framework.sent reply = htmlReply html ↔ reply = htmlReply html ∧ html.isWritable = true := by
  constructor
  · intro h
    unfold Framework.sent at h
    split at h
    · next hReply => exact ⟨h, by rw [← hSends html, ← h, hReply]⟩
    · cases h
  · rintro ⟨rfl, h⟩
    rw [Framework.sent, if_pos ((hSends html).trans h)]

/-- A request that is answered with HTML is answered with more HTML if it has a
target, the text of exactly one element: with the start tag, the children unless
their place is taken, the HTML as it was, and the end tag. An element without
content has only its start tag, and in raw text the nodes stand without
references. The service is the same afterwards. The framework is left open, but
for what it can send: the reply with a target holds more than the one without,
so what is new in it must have bytes as well. -/
theorem handle_mounted (hSends : framework.SendsHtml)
    (hRoute : framework.dispatch .post path = .ok .render)
    (hBody : framework.readBody body = .ok wanted) (hNone : wanted.target = none)
    {html : Text}
    (hAnswer : (service.handle framework now ⟨.post, path, body⟩).1 = htmlReply html)
    {mounting : List Nat} {text : Text}
    (hMounting : framework.readBody mounting = .ok { wanted with target := some text })
    {root : Node} (hParse : parseMarkup text.trim = .ok root) {tag : Text} {attrs : Table Text}
    {children : List Node}
    (hSingle : root.children.filter Node.isElement = [.element tag attrs children])
    (hStart : (startTagHtml tag attrs).isWritable = true)
    (hOwn : isVoid tag = false → wanted.inPlace = false →
      (Node.htmlOfAll (isRawText tag) children).isWritable = true) :
    ∃ template nodes, parseMarkup wanted.template.trim = .ok template ∧
      (wanted.rendered service.configuration.settings now service.loader template).1 = .ok nodes ∧
      html = toHtml nodes ∧
      service.handle framework now ⟨.post, path, mounting⟩ =
        (htmlReply (startTagHtml tag attrs ++ if isVoid tag then [] else
            (if wanted.inPlace then [] else Node.htmlOfAll (isRawText tag) children)
              ++ (if isRawText tag then Node.htmlOfAll true nodes else html) ++ endTagHtml tag),
          (service.handle framework now ⟨.post, path, body⟩).2) := by
  rw [handle_post hRoute hBody] at hAnswer ⊢
  obtain ⟨hReply, hSent⟩ := (sent_eq_htmlReply hSends).1 hAnswer
  obtain ⟨template, nodes, hTemplate, hFull, hRendered, rfl, hAfter⟩ :=
    exists_of_renderReply hNone hReply
  refine ⟨template, nodes, hTemplate, hRendered, rfl, ?_⟩
  have hWritable := isWritable_mount hStart hOwn hSent
  rw [handle_post hRoute hMounting, hAfter,
    renderReply_mounted hTemplate hFull hRendered (readTarget_eq hParse hSingle),
    (sent_eq_htmlReply hSends).2 ⟨rfl, hWritable⟩, toHtml_mount, htmlOfAll_eq _ nodes]

/-- Behind the children of a list. -/
theorem handle_mounted_list :
    let service : Service := ⟨.ofEnvironment [], none⟩
    let post (body : Text) :=
      service.handle .standard (.ofInt 0) ⟨.post, Route.render.path, body.utf8⟩
    let body : Text := "\x7b\"template\": \"<b>a</b>\"\x7d"
    let mounting : Text := "\x7b\"template\": \"<b>a</b>\", \"target\": \"<ul><li></ul>\"\x7d"
    Framework.standard.SendsHtml ∧ (post body).1 = htmlReply "<b>a</b>" ∧
      post mounting = (htmlReply "<ul><li></li><b>a</b></ul>", (post body).2) := by
  intro service post body mounting
  let wanted : RenderRequest := ⟨"<b>a</b>", .dict [], [], none, false⟩
  have hAnswer : (post body).1 = htmlReply "<b>a</b>" := by decide +kernel
  have hBody : Framework.standard.readBody body.utf8 = .ok wanted := by decide +kernel
  have hMounting : Framework.standard.readBody mounting.utf8
      = .ok { wanted with target := some "<ul><li></ul>" } := by decide +kernel
  have hParse : parseMarkup (Text.trim "<ul><li></ul>")
      = .ok (.fragment [.element "ul" [] [.element "li" [] []]]) := by decide +kernel
  obtain ⟨_, _, _, _, _, hHandle⟩ := handle_mounted sendsHtml_standard (by decide +kernel) hBody
    rfl hAnswer hMounting hParse rfl (by decide) (by decide)
  exact ⟨sendsHtml_standard, hAnswer, hHandle⟩

/-- Whether what a target holds is always written between its tags, just as it
is without the target. -/
def IsShownIn (text : Text) : Prop :=
  ∀ (service : Service) (now : Double) (path : Text) (wanted : RenderRequest)
    (body mounting : List Nat) (html : Text) (root : Node) (tag : Text) (attrs : Table Text)
    (children : List Node),
    let framework := Framework.standard
    let post (body : List Nat) := (service.handle framework now ⟨.post, path, body⟩).1
    framework.dispatch .post path = .ok .render → framework.readBody body = .ok wanted →
    wanted.target = none → post body = htmlReply html →
    framework.readBody mounting = .ok { wanted with target := some text } →
    parseMarkup text.trim = .ok root →
    root.children.filter Node.isElement = [.element tag attrs children] →
      post mounting = htmlReply (startTagHtml tag attrs
        ++ (if wanted.inPlace then [] else Node.htmlOfAll (isRawText tag) children)
        ++ html ++ endTagHtml tag)

/-- An element without content shows nothing, raw text shows something else,
and what holds a lone surrogate cannot be sent. -/
theorem not_isShownIn :
    ¬ IsShownIn "<br>" ∧ ¬ IsShownIn "<script></script>" ∧
      ¬ IsShownIn (("<p title=" : Text) ++ .surrogate 0 :: (">" : Text)) := by
  let service : Service := ⟨.ofEnvironment [], none⟩
  let wanted : RenderRequest := ⟨"1>2", .dict [], [], none, false⟩
  let post (body : List Nat) :=
    (service.handle .standard (.ofInt 0) ⟨.post, Route.render.path, body⟩).1
  let body : List Nat := Text.utf8 "\x7b\"template\": \"1>2\"\x7d"
  let mounting (t : Text) : List Nat := Text.utf8
    (("\x7b\"template\": \"1>2\", \"target\": \"" : Text) ++ t ++ ("\"\x7d" : Text))
  have hBody : Framework.standard.readBody body = .ok wanted := by decide +kernel
  have hAnswer : post body = htmlReply "1&gt;2" := by decide +kernel
  have hReply {text spelling tag : Text} {attrs : Table Text} (h : IsShownIn text)
      (hMounting : Framework.standard.readBody (mounting spelling)
        = .ok { wanted with target := some text })
      (hParse : parseMarkup text.trim = .ok (.fragment [.element tag attrs []])) :
      post (mounting spelling)
        = htmlReply (startTagHtml tag attrs ++ ("1&gt;2" : Text) ++ endTagHtml tag) := by
    have hShown :=
      h service (.ofInt 0) Route.render.path wanted body _ _ _ _ _ _ (by decide +kernel)
      hBody rfl hAnswer hMounting hParse rfl
    rwa [Node.htmlOfAll, ite_self, List.append_nil] at hShown
  refine ⟨fun h => ?_, fun h => ?_, fun h => ?_⟩
  · have hVoid := @hReply _ "<br>" "br" [] h (by decide +kernel) (by decide +kernel)
    exact absurd hVoid (by decide +kernel)
  · have hRaw := @hReply _ "<script></script>" "script" [] h (by decide +kernel) (by decide +kernel)
    exact absurd hRaw (by decide +kernel)
  · have hLone := @hReply _ "<p title=\\ud800>" "p" [("title", [.surrogate 0])] h
      (by decide +kernel) (by decide +kernel)
    exact absurd hLone (by decide +kernel)

end TreeTemplate
