/-
TreeTemplate.Proofs.Api.Status — the statuses of rendered requests (the error
mapping of `POST /api/v1/render`, specification §14).

What a template can run into is little: it asks for the impossible, goes over
what is no list, includes too deep, or includes what is not there or is no
markup. Each request for rendering has one fate, and the fate has a status.
Three of the fates have no reply of their own, so they end as a failure of the
service: a template or a target that is no markup, a partial that is none, and
a path with digits that are no number. The same becomes of a reply that holds
a lone surrogate, because it cannot be written.

* `Failure` — how rendering from partials in memory can fail;
  `failure_of_render` — that it fails in no other way.
* `Fate` — what becomes of a request, and the status for it.
* `handle_render` — the main statement.
-/
import TreeTemplate.Api.Service
import TreeTemplate.Proofs.Partial.CachedStore
import TreeTemplate.Proofs.Table
import TreeTemplate.Proofs.Text.Pieces

namespace TreeTemplate

/-! ## 1. Failures with partials in memory -/

/-- The failures of a rendering that has its partials from a store. -/
inductive Failure (settings : Settings) (partials : Table Text) : RenderError → Prop where
  | path (e : PathError) : Failure settings partials (.path e)
  | notIterable (path kind : Text) : Failure settings partials (.notIterable path kind)
  | tooDeep {chain : List Text} : settings.maxDepth < chain.length →
    Failure settings partials (.tooDeep settings.maxDepth chain)
  | absent {name : Text} : partials.get? name = none →
    Failure settings partials (.load (.absent name))
  | markup {name t : Text} {e : MarkupError} {parser : Text → Except MarkupError Node} :
    partials.get? name = some t → settings.parser = some parser → parser t.trim = .error e →
    Failure settings partials (.markup e)

variable {settings : Settings} {partials : Table Text} {now : Double} {α β : Type}

/-- Whether a run on a store of the partials leaves such a store, and fails in
no other way than those. -/
def Rendering.FailsIn (settings : Settings) (partials : Table Text)
    (x : Rendering PartialLoader α) : Prop :=
  ∀ loader, IsStore partials loader → IsStore partials (x.runFrom loader).2 ∧
    ∀ e, (x.runFrom loader).1 = .error e → Failure settings partials e

open Rendering (FailsIn)

theorem failsIn_throw {e : RenderError} (h : Failure settings partials e) :
    FailsIn (α := α) settings partials (throw e) :=
  fun _ hStore => ⟨hStore, fun _ hError => Except.error.inj hError ▸ h⟩

theorem Rendering.FailsIn.bind {x : Rendering PartialLoader α} {f : α → Rendering PartialLoader β}
    (h : FailsIn settings partials x) (hNext : ∀ a, FailsIn settings partials (f a)) :
    FailsIn settings partials (x >>= f) := by
  intro loader hStore
  have hRun := h loader hStore
  rw [Rendering.runFrom_bind]
  generalize x.runFrom loader = first at hRun ⊢
  obtain ⟨result, loader⟩ := first
  cases result with
  | ok a => exact hNext a loader hRun.1
  | error e => exact ⟨hRun.1, fun e' hError => hRun.2 e' (congrArg _ (Except.error.inj hError))⟩

theorem congruence_failsIn : Rendering.Congruence fun α (x _ : Rendering PartialLoader α) =>
    FailsIn settings partials x where
  pure _ _ hStore := ⟨hStore, fun _ hError => by cases hError⟩
  path e := failsIn_throw (.path e)
  loop e := by
    cases e with
    | path e => exact failsIn_throw (.path e)
    | notIterable path kind => exact failsIn_throw (.notIterable path kind)
  bind := .bind

/-- What an inclusion can run into. -/
theorem failsIn_fetch {parser : Text → Except MarkupError Node}
    (hParser : settings.parser = some parser) (chain : List Text) (name : Text) :
    FailsIn settings partials (fetch settings (some (PartialLoader.source now)) chain name) := by
  rintro _ ⟨store, rfl, rfl⟩
  simp only [fetch, hParser]
  split
  · next hFull =>
    refine failsIn_throw (.tooDeep ?_) _ ⟨store, rfl, rfl⟩
    rw [List.length_append, List.length_singleton]
    omega
  · have hAsk (loader : PartialLoader) : (ask (PartialLoader.source now) name).runFrom loader
        = ((loader.load now name).1.mapError .load, (loader.load now name).2) := rfl
    have hStore : IsStore store.partials
        (.leaf (.memory ⟨store.partials, store.requests ++ [name]⟩) : PartialLoader) :=
      ⟨_, rfl, rfl⟩
    rw [Rendering.runFrom_bind, hAsk, PartialLoader.load, load_store]
    cases hGet : store.partials.get? name with
    | none => exact failsIn_throw (.absent hGet) _ hStore
    | some t =>
      have hParsed : FailsIn settings store.partials
          (Rendering.ofExcept .markup (parser t.trim)) := by
        cases hParse : parser t.trim with
        | error e => exact failsIn_throw (.markup hGet hParser hParse)
        | ok root => exact congruence_failsIn.pure root
      exact hParsed _ hStore

theorem failsIn_renderNodes {openings : List Text}
    {included : Text → Value → Rendering PartialLoader (List Node)}
    (h : ∀ name c, FailsIn settings partials (included name c)) (nodes : List Node) (c : Value) :
    FailsIn settings partials (renderNodes openings included nodes c) :=
  -- Only the first side of the relation counts, so the other is given.
  @Rendering.Congruence.renderNodes _ _ _ congruence_failsIn _ _ (fun _ _ => pure []) _
    (fun name _ c => h name c) c

theorem failsIn_renderWithin {parser : Text → Except MarkupError Node}
    (hParser : settings.parser = some parser) (remaining : Nat) (chain : List Text)
    (nodes : List Node) (c : Value) :
    FailsIn settings partials
      (renderWithin settings (some (PartialLoader.source now)) remaining chain nodes c) := by
  induction remaining generalizing chain nodes c with
  | zero =>
    unfold renderWithin
    exact failsIn_renderNodes (fun name _ => (failsIn_fetch hParser chain name).bind fun _ =>
      congruence_failsIn.pure []) nodes c
  | succ remaining ih =>
    unfold renderWithin
    exact failsIn_renderNodes (fun name c => (failsIn_fetch hParser chain name).bind fun root =>
      ih _ _ c) nodes c

/-- Rendering from partials in memory fails in no other way. -/
theorem failure_of_render {parser : Text → Except MarkupError Node}
    (hOpenings : settings.openings ≠ []) (hParser : settings.parser = some parser)
    (template : Node) (data : Value) (loader : PartialLoader) (hStore : IsStore partials loader)
    {e : RenderError}
    (h : ((render settings (some (PartialLoader.source now)) template data).runFrom loader).1
      = .error e) : Failure settings partials e := by
  rw [render, if_neg hOpenings] at h
  exact (failsIn_renderWithin hParser _ _ _ _ loader hStore).2 e h

/-! ## 2. Settings from the environment -/

theorem openingsOf_ne_nil (t : Text) : Configuration.openingsOf t ≠ [] := by
  unfold Configuration.openingsOf
  cases hPieces : t.splitOn (.scalar ',') with
  | nil => exact absurd hPieces (Text.splitOn_ne_nil _ _)
  | cons piece rest =>
    rw [List.map_cons, Table.firstOfEach_cons]
    exact List.cons_ne_nil _ _

/-! ## 3. The fate of a request -/

/-- How the rendering of a template ends, with no partials but those of the
request. -/
def RenderRequest.ending (settings : Settings) (now : Double) (request : RenderRequest)
    (template : Node) : Except RenderError (List Node) :=
  ((render settings (some (PartialLoader.source now)) template request.data).runFrom
    (.leaf (.memory ⟨request.partials, []⟩))).1

/-- Whether the texts of a request are a template that is not empty and, if
there is one, a target that is a single element. -/
structure RenderRequest.Reads (request : RenderRequest) (template : Node) : Prop where
  parses : parseMarkup request.template.trim = .ok template
  nonempty : template.children ≠ []
  single : ∀ t, request.target = some t → ∃ root, parseMarkup t.trim = .ok root ∧
    (root.children.filter Node.isElement).length = 1

/-- What becomes of a request for rendering, and the status for it. -/
inductive Fate (settings : Settings) (now : Double) (request : RenderRequest) : Nat → Prop where
  /-- The template is no markup. -/
  | badTemplate {e : MarkupError} : parseMarkup request.template.trim = .error e →
    Fate settings now request 500
  /-- The template is empty. -/
  | noTemplate {template : Node} : parseMarkup request.template.trim = .ok template →
    template.children = [] → Fate settings now request 400
  /-- The target is no markup. -/
  | badTarget {template : Node} {t : Text} {e : MarkupError} :
    parseMarkup request.template.trim = .ok template → template.children ≠ [] →
    request.target = some t → parseMarkup t.trim = .error e → Fate settings now request 500
  /-- The target is not one element. -/
  | noTarget {template root : Node} {t : Text} :
    parseMarkup request.template.trim = .ok template → template.children ≠ [] →
    request.target = some t → parseMarkup t.trim = .ok root →
    (root.children.filter Node.isElement).length ≠ 1 → Fate settings now request 400
  /-- A path has digits that are no number. -/
  | badPath {template : Node} {e : PathError} : request.Reads template →
    request.ending settings now template = .error (.path e) → Fate settings now request 500
  /-- A partial is no markup. -/
  | badPartial {template : Node} {name t : Text} {e : MarkupError} : request.Reads template →
    request.ending settings now template = .error (.markup e) →
    request.partials.get? name = some t → parseMarkup t.trim = .error e →
    Fate settings now request 500
  /-- A loop goes over what is neither list nor dictionary. -/
  | notIterable {template : Node} {path kind : Text} : request.Reads template →
    request.ending settings now template = .error (.notIterable path kind) →
    Fate settings now request 422
  /-- Inclusions inside each other meet the limit. -/
  | tooDeep {template : Node} {chain : List Text} : request.Reads template →
    request.ending settings now template = .error (.tooDeep settings.maxDepth chain) →
    settings.maxDepth < chain.length → Fate settings now request 422
  /-- A partial is not there. -/
  | absent {template : Node} {name : Text} : request.Reads template →
    request.ending settings now template = .error (.load (.absent name)) →
    request.partials.get? name = none → Fate settings now request 502
  /-- The template is rendered. -/
  | rendered {template : Node} {nodes : List Node} : request.Reads template →
    request.ending settings now template = .ok nodes → Fate settings now request 200

variable {request : RenderRequest} {template : Node}

theorem readTarget_eq {t : Text} {root target : Node} (hParse : parseMarkup t.trim = .ok root)
    (hTarget : root.children.filter Node.isElement = [target]) : readTarget t = .ok target := by
  simp only [readTarget, hParse, hTarget]

theorem readTarget_of_single {t : Text} {root : Node} (hParse : parseMarkup t.trim = .ok root)
    (hOne : (root.children.filter Node.isElement).length = 1) :
    ∃ target, readTarget t = .ok target :=
  (List.length_eq_one_iff.1 hOne).imp fun _ hTarget => readTarget_eq hParse hTarget

theorem readTarget_of_others {t : Text} {root : Node} (hParse : parseMarkup t.trim = .ok root)
    (hOthers : (root.children.filter Node.isElement).length ≠ 1) :
    ∃ detail, readTarget t = .error (.refused 400 detail) := by
  simp only [readTarget, hParse]
  split
  · next target hTarget => exact absurd (congrArg List.length hTarget) hOthers
  · exact ⟨_, rfl⟩

theorem RenderRequest.Reads.readTemplate (h : request.Reads template) :
    ∃ target, readTemplate request = .ok (template, target) := by
  obtain ⟨hParse, hNe, hTarget⟩ := h
  simp only [TreeTemplate.readTemplate, hParse, List.isEmpty_eq_false_iff.2 hNe]
  cases hGiven : request.target with
  | none => exact ⟨none, rfl⟩
  | some t =>
    obtain ⟨root, hRoot, hOne⟩ := hTarget t hGiven
    obtain ⟨target, hRead⟩ := readTarget_of_single hRoot hOne
    exact ⟨some target, by simp only [hRead]; rfl⟩

/-- The reply to a request that can be read. -/
theorem RenderRequest.Reads.renderReply (h : request.Reads template) :
    (renderReply settings now request none).1.status
      = match request.ending settings now template with
        | .error e => (failureReply e).status
        | .ok _ => 200 := by
  obtain ⟨target, hRead⟩ := h.readTemplate
  simp only [TreeTemplate.renderReply, hRead]
  show Reply.status (match request.ending settings now template with
    | .error e => failureReply e
    | .ok nodes => nodesReply target request.inPlace nodes) = _
  cases request.ending settings now template with
  | error e => rfl
  | ok nodes => cases target <;> rfl

/-- The status of a request is the one of its fate. -/
theorem Fate.status_eq {status : Nat} (h : Fate settings now request status) :
    (renderReply settings now request none).1.status = status := by
  cases h with
  | badTemplate hParse => simp only [renderReply, readTemplate, hParse]; rfl
  | noTemplate hParse hEmpty => simp only [renderReply, readTemplate, hParse, hEmpty]; rfl
  | badTarget hParse hNe hTarget hRoot =>
    simp only [renderReply, readTemplate, hParse, List.isEmpty_eq_false_iff.2 hNe, hTarget,
      readTarget, hRoot]
    rfl
  | noTarget hParse hNe hTarget hRoot hOne =>
    obtain ⟨detail, hRead⟩ := readTarget_of_others hRoot hOne
    simp only [renderReply, readTemplate, hParse, List.isEmpty_eq_false_iff.2 hNe, hTarget, hRead]
    rfl
  | badPath hReads hEnding => rw [hReads.renderReply, hEnding]; rfl
  | badPartial hReads hEnding => rw [hReads.renderReply, hEnding]; rfl
  | notIterable hReads hEnding => rw [hReads.renderReply, hEnding]; rfl
  | tooDeep hReads hEnding => rw [hReads.renderReply, hEnding]; rfl
  | absent hReads hEnding => rw [hReads.renderReply, hEnding]; rfl
  | rendered hReads hEnding => rw [hReads.renderReply, hEnding]

/-- Each request has a fate. -/
theorem exists_fate (hOpenings : settings.openings ≠ [])
    (hParser : settings.parser = some parseMarkup) (now : Double) (request : RenderRequest) :
    ∃ status, Fate settings now request status := by
  cases hParse : parseMarkup request.template.trim with
  | error e => exact ⟨_, .badTemplate hParse⟩
  | ok template =>
    by_cases hEmpty : template.children = []
    · exact ⟨_, .noTemplate hParse hEmpty⟩
    by_cases hReads : request.Reads template
    · cases hEnding : request.ending settings now template with
      | ok nodes => exact ⟨_, .rendered hReads hEnding⟩
      | error e =>
        cases failure_of_render hOpenings hParser template request.data _ ⟨_, rfl, rfl⟩ hEnding with
        | path e => exact ⟨_, .badPath hReads hEnding⟩
        | notIterable path kind => exact ⟨_, .notIterable hReads hEnding⟩
        | tooDeep hDeep => exact ⟨_, .tooDeep hReads hEnding hDeep⟩
        | absent hGet => exact ⟨_, .absent hReads hEnding hGet⟩
        | markup hGet hOther hPartial =>
          obtain rfl := Option.some.inj (hParser.symm.trans hOther)
          exact ⟨_, .badPartial hReads hEnding hGet hPartial⟩
    · -- The template can be read, so it is the target that cannot.
      cases hTarget : request.target with
      | none => exact absurd ⟨hParse, hEmpty, fun t ht => nomatch hTarget.symm.trans ht⟩ hReads
      | some t =>
        cases hRoot : parseMarkup t.trim with
        | error e => exact ⟨_, .badTarget hParse hEmpty hTarget hRoot⟩
        | ok root =>
          refine ⟨_, .noTarget hParse hEmpty hTarget hRoot fun hOne => hReads ⟨hParse, hEmpty, ?_⟩⟩
          intro t' ht'
          obtain rfl := Option.some.inj (hTarget.symm.trans ht')
          exact ⟨root, hRoot, hOne⟩

/-! ## 4. The service -/

/-- The status of a request for rendering, if the service has no loader of its
own: the one of its only fate, unless the reply cannot be sent. The framework is
left open: it brings the request to the route and reads its body, and whether it
can send the reply is asked of it. The configuration comes from an environment,
so that there is an opening of directives; without one nothing is rendered. -/
theorem handle_render {framework : Framework} {environment : Table Text} {service : Service}
    (hConfiguration : service.configuration = Configuration.ofEnvironment environment)
    (hLoader : service.loader = none) {request : ApiRequest}
    (hRoute : framework.dispatch request.method request.path = .ok .render)
    {wanted : RenderRequest} (hBody : framework.readBody request.body = .ok wanted)
    (now : Double) :
    ∃ status, Fate service.configuration.settings now wanted status ∧
      (∀ other, Fate service.configuration.settings now wanted other → other = status) ∧
      (service.handle framework now request).1.status =
        if framework.canSend (renderReply service.configuration.settings now wanted none).1
        then status else 500 := by
  have hOpenings : service.configuration.settings.openings ≠ [] := by
    rw [hConfiguration]
    exact openingsOf_ne_nil _
  obtain ⟨status, hFate⟩ := exists_fate hOpenings rfl now wanted
  refine ⟨status, hFate, fun other hOther => hOther.status_eq.symm.trans hFate.status_eq, ?_⟩
  have hHandle : (service.handle framework now request).1
      = framework.sent (renderReply service.configuration.settings now wanted none).1 := by
    simp only [Service.handle, hRoute, Service.answer, hBody, hLoader]
  rw [hHandle, Framework.sent]
  split
  · exact hFate.status_eq
  · rfl

/-- An inclusion without partials. -/
theorem handle_render_absent :
    let service : Service := ⟨.ofEnvironment [], none⟩
    let request : ApiRequest :=
      ⟨.post, Route.render.path, Text.utf8 "\x7b\"template\": \"<i include=a></i>\"\x7d"⟩
    let wanted : RenderRequest := ⟨"<i include=a></i>", .dict [], [], none, false⟩
    Framework.standard.dispatch request.method request.path = .ok .render ∧
      Framework.standard.readBody request.body = .ok wanted ∧
      ∃ status, Fate service.configuration.settings (.ofInt 0) wanted status ∧
        (∀ other, Fate service.configuration.settings (.ofInt 0) wanted other → other = status) ∧
        (service.handle .standard (.ofInt 0) request).1.status =
          if Framework.standard.canSend
            (renderReply service.configuration.settings (.ofInt 0) wanted none).1
          then status else 500 := by
  intro service request wanted
  have hRoute : Framework.standard.dispatch request.method request.path = .ok .render := by
    decide +kernel
  have hBody : Framework.standard.readBody request.body = .ok wanted := by decide +kernel
  exact ⟨hRoute, hBody, handle_render rfl rfl hRoute hBody _⟩

/-- A path with a digit that is no number, on a list: the failure has no reply
of its own. -/
theorem handle_render_superscript :
    ¬ ∀ (service : Service) (request : ApiRequest) (wanted : RenderRequest) (now : Double),
      service.configuration = Configuration.ofEnvironment [] → service.loader = none →
      Framework.standard.dispatch request.method request.path = .ok .render →
      Framework.standard.readBody request.body = .ok wanted →
        (service.handle .standard now request).1.status ∈ [200, 400, 422, 502] := by
  intro h
  have hStatus := h ⟨.ofEnvironment [], none⟩
    ⟨.post, Route.render.path, Text.utf8
      "\x7b\"template\": \"<var>x.²</var>\", \"data\": \x7b\"x\": [1]\x7d\x7d"⟩
    ⟨"<var>x.²</var>", .dict [("x", .list [.int 1])], [], none, false⟩ (.ofInt 0) rfl rfl
    (by decide +kernel) (by decide +kernel)
  exact absurd hStatus (by decide +kernel)

end TreeTemplate
