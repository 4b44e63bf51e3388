/-
TreeTemplate.Proofs.Markup.Lexical — the names and texts in a tree that is read.

Names are in small letters and hold nothing that would end them, comments
hold no end of a comment, document types no `>`, and a `script` or `style`
element holds nothing but one text, up to an end tag that ends it.

* `Event.Lexical`, `lexical_readConstruct` — the events of a construct.
* `Node.Lexical` — the shape of one node.
* `OpenTree.Reads` — a tree under construction, inside a raw text element or
  in none.
* `lexical_parseMarkup` — all nodes of a tree that is read.
-/
import TreeTemplate.Proofs.Markup.RawText
import TreeTemplate.Proofs.Markup.StartTag
import TreeTemplate.Proofs.Outcome
import TreeTemplate.Proofs.Table

namespace TreeTemplate

/-! ## 1. Events -/

/-- The names and texts that an event of a construct can have. -/
def Event.Lexical : Event → Prop
  | .startTag tag attrs _ => IsTagName tag ∧ ∀ attr ∈ attrs, IsAttrName attr.1
  | .comment content => splitAtMark commentEnd content = none
  | .doctype content => .scalar '>' ∉ content ∧ content.trim = content
  | _ => True

theorem upToAngle_eq {events : Text → List Event} {t rest : Text} {found : List Event}
    (h : upToAngle events t = .finished found rest) :
    ∃ before, found = events before ∧ .scalar '>' ∉ before := by
  unfold upToAngle at h
  split at h
  · next before _ hCut =>
    cases h
    exact ⟨before, rfl, (Text.cut_eq hCut).2⟩
  · cases h

/-- A text without `>` has no end of a comment. -/
theorem splitAtMark_commentEnd_of_not_mem {t : Text} (h : .scalar '>' ∉ t) :
    splitAtMark commentEnd t = none :=
  splitAtMark_eq_none_of_not_mem angle_mem_of_commentEnd h

/-- What stands between `</` and `>` ends an element, is a comment, or nothing. -/
theorem endTagEvents_cases (before : Text) :
    endTagEvents before = [] ∨ (∃ tag, endTagEvents before = [.endTag tag]) ∨
      endTagEvents before = [.comment before] := by
  unfold endTagEvents
  split
  · split
    · exact .inr (.inl ⟨_, rfl⟩)
    · split
      · split
        · exact .inr (.inl ⟨_, rfl⟩)
        · exact .inr (.inr rfl)
      · exact .inl rfl
  · split
    · exact .inl rfl
    · exact .inr (.inr rfl)

theorem lexical_endTagEvents {before : Text} (h : .scalar '>' ∉ before) :
    endTagEvents before = [] ∨ ∃ event, endTagEvents before = [event] ∧ event.Lexical := by
  rcases endTagEvents_cases before with hNone | ⟨tag, hEnd⟩ | hComment
  · exact .inl hNone
  · exact .inr ⟨_, hEnd, trivial⟩
  · exact .inr ⟨_, hComment, splitAtMark_commentEnd_of_not_mem h⟩

theorem lexical_readDeclaration {t rest : Text} {events : List Event}
    (h : readDeclaration t = .finished events rest) :
    ∃ event, events = [event] ∧ event.Lexical := by
  unfold readDeclaration at h
  split at h
  · obtain ⟨before, rfl, hAngle⟩ := upToAngle_eq h
    exact ⟨_, rfl, fun hMem => hAngle (Text.mem_trim hMem), Text.trim_trim before⟩
  · obtain ⟨before, rfl, hAngle⟩ := upToAngle_eq h
    exact ⟨_, rfl, splitAtMark_commentEnd_of_not_mem hAngle⟩

theorem readSection_events {t rest : Text} {events : List Event}
    (h : readSection t = .ok (.finished events rest)) : events = [] := by
  unfold readSection at h
  cases t with
  | nil => cases h
  | cons c more =>
    simp only at h
    split at h
    · split at h
      · cases h
      · split at h
        · have hSkip := Except.ok.inj h
          split at hSkip
          · cases hSkip
            rfl
          · cases hSkip
        · split at h
          · have hSkip := Except.ok.inj h
            split at hSkip
            · cases hSkip
              rfl
            · cases hSkip
          · cases h
    · cases h

/-- The name and the attributes of a start tag that is read as a whole. -/
theorem readStartTag_whole {t name rest : Text} {attrs : List WrittenAttr} {closes : Bool}
    (h : readStartTag t = .whole name attrs closes rest) :
    name = t.takeWhile inTagName ∧ ∀ attr ∈ attrs, IsAttrName (Text.lower attr.1) := by
  unfold readStartTag at h
  simp only at h
  have hAttrs (mayBegin : Bool) (next : Text) :
      ∀ attr ∈ (readAttributes mayBegin next).1, IsAttrName (Text.lower attr.1) := by
    intro attr hAttr
    obtain ⟨c, more, hName, hc, hMore⟩ := written_of_mem_readAttributes hAttr
    rw [hName]
    exact isAttrName_lower hc hMore
  split at h
  · cases h
  · cases h
    exact ⟨rfl, hAttrs _ _⟩
  · cases h
    exact ⟨rfl, hAttrs _ _⟩
  · split at h <;> cases h

theorem lexical_readTag {whole rest : Text} {c : CodePoint} (hc : c.isAsciiLetter = true)
    {t : Text} {events : List Event} (h : readTag whole (c :: t) = .ok (.finished events rest)) :
    ∃ event, events = [event] ∧ event.Lexical := by
  unfold readTag at h
  split at h
  · next name attrs closes last hRead =>
    obtain ⟨rfl, hAttrs⟩ := readStartTag_whole hRead
    obtain ⟨decoded, hDecoded, hConstruct⟩ := exists_of_map_eq_ok h
    cases hConstruct
    rw [List.takeWhile_cons_of_pos (inTagName_of_isAsciiLetter hc)]
    have hName := isTagName_lower hc fun d (hd : d ∈ t.takeWhile inTagName) =>
      List.mem_takeWhile_imp hd
    exact ⟨_, rfl, hName, isAttrName_of_decoded hAttrs hDecoded⟩
  · cases h
    exact ⟨_, rfl, trivial⟩
  · cases h

/-- A construct has at most one event, and its names and texts are those
that one can have. -/
theorem lexical_readConstruct {t rest : Text} {events : List Event}
    (h : readConstruct t = .ok (.finished events rest)) :
    events = [] ∨ ∃ event, events = [event] ∧ event.Lexical := by
  unfold readConstruct at h
  split at h
  · cases h
  · obtain ⟨before, rfl, hAngle⟩ := upToAngle_eq (Except.ok.inj h)
    exact lexical_endTagEvents hAngle
  · next comment =>
    have hComment := Except.ok.inj h
    unfold readComment at hComment
    split at hComment
    · next before _ hSplit =>
      cases hComment
      exact .inr ⟨_, rfl, splitAtMark_before isMark_commentEnd hSplit⟩
    · cases hComment
  · exact .inl (readSection_events h)
  · exact .inr (lexical_readDeclaration (Except.ok.inj h))
  · obtain ⟨_, rfl, _⟩ := upToAngle_eq (Except.ok.inj h)
    exact .inl rfl
  · split at h
    · next hc => exact .inr (lexical_readTag hc h)
    · cases h
      exact .inr ⟨_, rfl, trivial⟩

/-! ## 2. Nodes -/

/-- The names and texts that a node can have. -/
def Node.Lexical : Node → Prop
  | mk (.element tag) attrs children =>
    IsTagName tag ∧ (∀ attr ∈ attrs, IsAttrName attr.1)
      ∧ (isRawText tag = true → ∃ t, IsRawContent tag t ∧ children = textNodes t)
  | mk (.comment content) _ _ => splitAtMark commentEnd content = none
  | mk (.doctype content) _ _ => .scalar '>' ∉ content ∧ content.trim = content
  | mk _ _ _ => True

theorem everywhere_textNodes (t : Text) : Everywhere Node.Lexical (textNodes t) := by
  unfold textNodes
  split
  · exact everywhere_nil
  · exact everywhere_singleton.2 ⟨trivial, everywhere_nil⟩

/-- What is kept of names and texts while a tree is built outside of raw
text elements. -/
def lexicalRule : TreeRule where
  node := Node.Lexical
  frame element := isRawText element.tag = false ∧ IsTagName element.tag
    ∧ ∀ attr ∈ element.attrs, IsAttrName attr.1
  root _ := True
  nests _ _ := True
  joined _ _ _ _ := trivial
  bare _ _ _ _ := trivial
  closed _ h := ⟨h.2.1, h.2.2, fun hRaw => absurd (hRaw.symm.trans h.1) (by decide)⟩
  attached _ _ h _ _ := h
  outside _ _ _ _ := trivial
  nested _ _ _ := trivial

/-- The attributes of an element that is opened. -/
theorem isAttrName_openTag {attrs : List (Text × Option Text)}
    (h : ∀ attr ∈ attrs, IsAttrName attr.1) :
    ∀ attr ∈ Table.firstOfEach (attrs.map fun (name, value) => (name, value.getD [])),
      IsAttrName attr.1 := by
  intro attr hAttr
  obtain ⟨written, hWritten, rfl⟩ := List.mem_map.1 (Table.mem_firstOfEach attr hAttr)
  exact h written hWritten

theorem lexicalRule_admits {event : Event} (h : event.Lexical)
    (hRaw : ∀ tag attrs closes, event = .startTag tag attrs closes → isRawText tag = false) :
    lexicalRule.Admits event := by
  cases event with
  | startTag tag attrs closes =>
    have hTag := hRaw tag attrs closes rfl
    have hAttrs := isAttrName_openTag h.2
    simp only [TreeRule.Admits]
    split
    · exact ⟨h.1, hAttrs, fun hIs => absurd (hIs.symm.trans hTag) (by decide)⟩
    · exact ⟨hTag, h.1, hAttrs⟩
  | endTag tag => exact trivial
  | text content => exact fun _ => trivial
  | comment content => exact h
  | doctype content => exact h

theorem lexicalRule_admits_textEvents (t : Text) :
    ∀ event ∈ textEvents t, lexicalRule.Admits event := by
  unfold textEvents
  split
  · exact List.forall_mem_nil _
  · intro event hEvent
    rw [List.mem_singleton.1 hEvent]
    exact fun _ => trivial

/-! ## 3. Reading -/

namespace OpenTree

/-- A tree under construction. Inside a raw text element that element is the
innermost, and it has nothing but the text up to the last end tag that was
passed over. -/
def Reads : Option Text → OpenTree → Prop
  | none, tree => tree.Follows lexicalRule
  | some tag, tree => ∃ attrs t outer, isRawText tag = true ∧ IsTagName tag
    ∧ (∀ attr ∈ attrs, IsAttrName attr.1) ∧ PassedOver tag t
    ∧ tree.stack = ⟨tag, attrs, textNodes t⟩ :: outer
    ∧ OpenTree.Follows lexicalRule ⟨outer, tree.outside⟩

variable {tree : OpenTree}

/-- The node of a raw text element that is closed. -/
theorem lexical_rawElement {tag t : Text} {attrs : Table Text} (hTag : IsTagName tag)
    (hAttrs : ∀ attr ∈ attrs, IsAttrName attr.1) (h : IsRawContent tag t) :
    Everywhere Node.Lexical [(⟨tag, attrs, textNodes t⟩ : OpenElement).node] := by
  rw [OpenElement.node, textNodes_reverse]
  exact everywhere_singleton.2 ⟨⟨hTag, hAttrs, fun _ => ⟨t, h, rfl⟩⟩, everywhere_textNodes t⟩

/-- A raw text element is closed. -/
theorem Reads.closeTag {tag t : Text} {attrs : Table Text} {outer : List OpenElement}
    {outside : List Node} (hTag : IsTagName tag) (hAttrs : ∀ attr ∈ attrs, IsAttrName attr.1)
    (h : IsRawContent tag t) (hTree : OpenTree.Follows lexicalRule ⟨outer, outside⟩) :
    Reads none (OpenTree.closeTag ⟨⟨tag, attrs, textNodes t⟩ :: outer, outside⟩ tag) := by
  rw [closeTag_cons ⟨tag, attrs, textNodes t⟩]
  exact hTree.add (lexical_rawElement hTag hAttrs h) fun _ _ _ => trivial

theorem isVoid_of_isRawText {tag : Text} (h : isRawText tag = true) : isVoid tag = false := by
  have hAll : ∀ tag ∈ rawTextTags, isVoid tag = false := by decide
  exact hAll tag (List.contains_iff_mem.1 h)

theorem isRawText_of_isVoid {tag : Text} (h : isVoid tag = true) : isRawText tag = false := by
  by_contra hRaw
  have hNotVoid := isVoid_of_isRawText (by simpa using hRaw)
  exact absurd (h.symm.trans hNotVoid) (by decide)

/-- One event outside of raw text elements. -/
theorem Reads.take (h : Reads none tree) {event : Event} (hEvent : event.Lexical) :
    Reads (rawElementAfter [event]) (tree.take event) := by
  by_cases hRaw : ∃ tag attrs closes, event = .startTag tag attrs closes ∧ isRawText tag = true
  · obtain ⟨tag, attrs, closes, rfl, hRaw⟩ := hRaw
    have hVoid := isVoid_of_isRawText hRaw
    have hAttrs := isAttrName_openTag hEvent.2
    have hClosed : (tree.closeImplied tag).Follows lexicalRule := Follows.close h _
    have hOpened : tree.openTag tag attrs =
        ⟨⟨tag, Table.firstOfEach (attrs.map fun (name, value) => (name, value.getD [])),
          textNodes []⟩ :: (tree.closeImplied tag).stack, (tree.closeImplied tag).outside⟩ := by
      rw [openTag]
      simp only [hVoid]
      rfl
    cases closes with
    | true =>
      simp only [OpenTree.take, hVoid, Bool.not_false, Bool.and_true, if_true, hOpened]
      exact Reads.closeTag hEvent.1 hAttrs ⟨[], [], rfl, .nil, rfl⟩ hClosed
    | false =>
      simp only [OpenTree.take, rawElementAfter, hRaw, if_true, hOpened]
      exact ⟨_, [], _, hRaw, hEvent.1, hAttrs, .nil, rfl, hClosed⟩
  · have hNotRaw : ∀ tag attrs closes, event = .startTag tag attrs closes →
        isRawText tag = false := fun tag attrs closes e => by
      by_contra hIs
      exact hRaw ⟨tag, attrs, closes, e, by simpa using hIs⟩
    have hNone : rawElementAfter [event] = none := by
      unfold rawElementAfter
      split
      · next heq =>
        have hTag := hNotRaw _ _ _ (List.cons.inj heq).1
        rw [if_neg (by simp [hTag])]
      · rfl
    rw [hNone]
    exact Follows.take h (lexicalRule_admits hEvent hNotRaw)

/-- One step through the text. -/
theorem Reads.scanStep {raw : Option Text} (h : Reads raw tree) {c : CodePoint} {rest : Text}
    {step : ScanStep} (hStep : scanStep raw c rest = .ok step) :
    Reads step.2.1 (step.1.foldl OpenTree.take tree) := by
  have hText {t : Text} (h : Reads none tree) :
      Reads none ((textEvents t).foldl OpenTree.take tree) :=
    Follows.foldl_take h (lexicalRule_admits_textEvents t)
  unfold TreeTemplate.scanStep at hStep
  split at hStep
  · next tag =>
    cases hStep
    obtain ⟨stack, outside⟩ := tree
    have hReads := h
    obtain ⟨attrs, t, outer, hRaw, hTag, hAttrs, hPassed, hStack, hTree⟩ := h
    have hName := isRawName_of_isRawText hRaw
    cases hStack
    rcases stepInRawText_cases hName (c :: rest) with
      hEnd | ⟨before, endTag, after, hSplit, hNone, hEnd⟩
    · rw [hEnd]
      exact hReads
    · rw [hSplit, stepInRawText_append hName hNone hEnd]
      split
      · simp only [List.foldl_append, foldl_take_textEvents]
        exact Reads.closeTag hTag hAttrs ⟨t, before, rfl, hPassed, hNone⟩ hTree
      · next hSpelling =>
        have hEvents : [Event.text endTag] = textEvents endTag := by
          obtain ⟨more, hMore, _⟩ := rawEnd_eq hName hEnd
          rw [hMore]
          rfl
        simp only [List.foldl_append, foldl_take_textEvents, hEvents]
        refine ⟨attrs, _, outer, hRaw, hTag, hAttrs, ?_, rfl, hTree⟩
        rw [List.append_assoc]
        exact .snoc hPassed hNone hEnd (by simpa using hSpelling)
  · split at hStep
    · unfold stepAtConstruct at hStep
      split at hStep
      · cases hStep
      · next hConstruct =>
        cases hStep
        rcases lexical_readConstruct hConstruct with rfl | ⟨event, rfl, hEvent⟩
        · exact h
        · exact h.take hEvent
      · obtain ⟨t, _, rfl⟩ := exists_of_map_eq_ok hStep
        exact hText h
    · obtain ⟨t, _, rfl⟩ := exists_of_map_eq_ok hStep
      exact hText h

/-- All steps. -/
theorem Reads.eventsFrom {raw : Option Text} (h : Reads raw tree) {t : Text} {events : List Event}
    (hEvents : eventsFrom raw t = .ok events) :
    ∃ raw, Reads raw (events.foldl OpenTree.take tree) := by
  fun_induction TreeTemplate.eventsFrom raw t generalizing tree events with
  | case1 raw =>
    cases hEvents
    exact ⟨raw, h⟩
  | case2 raw c rest e hStep => cases hEvents
  | case3 raw c rest events raw' after hStep ih =>
    obtain ⟨later, hLater, rfl⟩ := exists_of_map_eq_ok hEvents
    rw [List.foldl_append]
    exact ih (h.scanStep hStep) hLater

/-- A tree that is finished, inside a raw text element or in none. -/
theorem Reads.finish {raw : Option Text} (h : Reads raw tree) :
    Everywhere Node.Lexical tree.finish.children := by
  cases raw with
  | none => exact (Follows.finish h).1
  | some tag =>
    obtain ⟨stack, outside⟩ := tree
    obtain ⟨attrs, t, outer, _, hTag, hAttrs, hPassed, hStack, hTree⟩ := h
    cases hStack
    have hContent : IsRawContent tag t := ⟨t, [], (List.append_nil t).symm, hPassed, rfl⟩
    have hClosed := Reads.closeTag hTag hAttrs hContent hTree
    rw [closeTag_cons ⟨tag, attrs, textNodes t⟩] at hClosed
    exact everywhere_reverse.2 (Follows.close hClosed outer.length).outside

end OpenTree

/-- All nodes of a tree that is read have names and texts that they can
have. -/
theorem lexical_parseMarkup {t : Text} {template : Node} (h : parseMarkup t = .ok template) :
    Everywhere Node.Lexical template.children := by
  obtain ⟨events, hEvents, rfl⟩ := exists_of_map_eq_ok h
  have hEmpty : OpenTree.empty.Reads none := OpenTree.follows_empty trivial
  obtain ⟨raw, hReads⟩ := hEmpty.eventsFrom hEvents
  exact hReads.finish

end TreeTemplate
