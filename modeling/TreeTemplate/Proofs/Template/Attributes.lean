/-
TreeTemplate.Proofs.Template.Attributes — attributes from data, as a reader sees them.

A binding (`AttributeBinder`, specification §4.6) writes its attributes beside
those of the element, name by name as they are spelled. Reading markup takes
names that differ only in the case of their letters for one, and of these the
first counts. So it is the first spelling of a name that decides which of the
values is seen. That a binding takes effect "unconditionally", as the
specification has it, asks for one spelling of each name; `SpelledAlike` says so,
and the other side condition, on plain names, is only there to have the names
read at all.

* `givenAttrs` — the attributes that a binding gives.
* `firstSpelling`, `seenText` — the spelling of a name that is read first, and
  what it says.
* `TakesEffect` — the given attributes are read, the others as before.
* `bindAttrs_read` — what is read; where names are spelled alike, the binding
  takes effect.
-/
import TreeTemplate.Proofs.Markup.Opening
import TreeTemplate.Proofs.Template.Rewriting
import TreeTemplate.Template.Binding

namespace TreeTemplate

/-! ## 1. Names -/

/-- Whether a name is a letter from `A` to `Z` with such letters, digits and
hyphens behind it. -/
def isPlainName : Text → Bool
  | [] => false
  | c :: rest =>
    c.isAsciiLetter && rest.all fun d => d.isAsciiLetter || d.isAsciiDigit || d = .scalar '-'

theorem ne_sign_of_strict {c : CodePoint} (h : inStrictName c = true) :
    c ≠ .scalar '/' ∧ c ≠ .scalar '=' ∧ c ≠ .scalar '>' := by
  refine ⟨?_, ?_, ?_⟩ <;> rintro rfl <;> revert h <;> decide

/-- A plain name can be written as the name of an attribute. -/
theorem isWrittenName_of_isPlainName {name : Text} (h : isPlainName name = true) :
    IsWrittenName name := by
  cases name with
  | nil => cases h
  | cons c rest =>
    rw [isPlainName, Bool.and_eq_true, List.all_eq_true] at h
    obtain ⟨hLetter, hRest⟩ := h
    have hFirst : inStrictName c = true := by simp [inStrictName, hLetter]
    have hStrict (d : CodePoint) (hd : d ∈ rest) : inStrictName d = true := by
      have hPlain := hRest d hd
      simp only [Bool.or_eq_true, decide_eq_true_eq] at hPlain
      rcases hPlain with (hLetter | hDigit) | rfl
      · simp [inStrictName, hLetter]
      · simp [inStrictName, hDigit]
      · decide
    refine ⟨fun d hd => ?_, fun d hd => ?_, List.cons_ne_nil _ _⟩
    · cases hd
      obtain ⟨hSlash, _, hMore⟩ := ne_sign_of_strict hFirst
      simp [beginsAttr, isBlank_of_strict hFirst, hSlash, hMore]
    · obtain ⟨hSlash, hEquals, hMore⟩ := ne_sign_of_strict (hStrict d hd)
      simp [inAttrName, isBlank_of_strict (hStrict d hd), hSlash, hEquals, hMore]

/-! ## 2. What a binding gives -/

/-- The text of what a path finds. -/
def pathText (context : Value) (path : Text) : Text :=
  match context.resolve path with
  | .ok found => found.toText
  | .error _ => []

/-- The attributes that a binding gives, in order. -/
def givenAttrs (binding : Text) (context : Value) : Table Text :=
  (pairsOf binding).map fun pair => (pair.1, pathText context pair.2)

theorem bindPairs_eq {context : Value} {pairs : List (Text × Text)} {attrs bound : Table Text}
    (h : bindPairs context pairs attrs = .ok bound) :
    bound = attrs.putAll (pairs.map fun pair => (pair.1, pathText context pair.2)) := by
  induction pairs generalizing attrs with
  | nil => exact (Except.ok.inj h).symm
  | cons pair rest ih =>
    rw [bindPairs] at h
    split at h
    · next found hFound =>
      have hText : pathText context pair.2 = found.toText := by rw [pathText, hFound]
      rw [List.map_cons, Table.putAll_cons, hText]
      exact ih h
    · cases h

/-! ## 3. Spellings -/

/-- The first spelling of a name. -/
def firstSpelling (spellings : List Text) (name : Text) : Option Text :=
  spellings.find? fun spelling => spelling.lower = name

/-- What is read under a name when attributes have been given to an element:
the last value of its first spelling. -/
def seenText (attrs given : Table Text) (name : Text) : Option Text :=
  (firstSpelling (attrs.names ++ given.names) name).bind fun spelling =>
    ((Table.ofList given).get? spelling).or (attrs.get? spelling)

/-- The last value that is given to a name, however it is spelled. -/
def lastText (given : Table Text) (name : Text) : Option Text :=
  (Table.ofList given.lowered).get? name

theorem get?_lowered (attrs : Table Text) (name : Text) :
    Table.get? attrs.lowered name = (firstSpelling attrs.names name).bind attrs.get? := by
  induction attrs with
  | nil => rfl
  | cons attr rest ih =>
    rw [Table.lowered, List.map_cons, Table.get?, firstSpelling, Table.names, List.map_cons,
      List.find?_cons]
    by_cases hName : attr.1.lower = name
    · simp [hName, Table.get?]
    · simp only [hName, if_false, decide_false]
      refine ih.trans (Option.bind_congr fun spelling hSpelling => ?_)
      have hLower : spelling.lower = name := by simpa using List.find?_some hSpelling
      have hNe : attr.1 ≠ spelling := fun hSame => hName (by rw [hSame, hLower])
      rw [Table.get?, if_neg hNe]

/-- Writing attributes adds their spellings behind those that are there. -/
theorem firstSpelling_putAll (attrs given : Table Text) (name : Text) :
    firstSpelling (attrs.putAll given).names name =
      firstSpelling (attrs.names ++ given.names) name := by
  induction given generalizing attrs with
  | nil => exact congrArg (firstSpelling · name) (List.append_nil attrs.names).symm
  | cons attr given ih =>
    rw [Table.putAll_cons, ih, Table.names_put]
    have hNames : Table.names (attr :: given) = attr.1 :: Table.names given := rfl
    split
    · next hHas =>
      rw [hNames, firstSpelling, firstSpelling, List.find?_append, List.find?_append,
        List.find?_cons]
      split
      · next hSame =>
        -- The spelling is there already, so the search does not get to it.
        have hThere : (attrs.names.find? fun spelling => spelling.lower = name).isSome = true :=
          List.find?_isSome.2 ⟨attr.1, Table.has_eq_true_iff.1 hHas, hSame⟩
        rw [Option.or_of_isSome hThere, Option.or_of_isSome hThere]
      · rfl
    · rw [hNames, List.append_assoc, List.singleton_append]

/-- The attributes that are read when a binding has given some to an element. -/
theorem get?_firstOfEach_lowered (attrs given : Table Text) (name : Text) :
    (Table.firstOfEach (attrs.putAll given).lowered).get? name = seenText attrs given name := by
  rw [Table.get?_firstOfEach, get?_lowered, firstSpelling_putAll, seenText]
  exact Option.bind_congr fun spelling _ => Table.get?_putAll attrs given spelling

/-! ## 4. Bindings that take effect -/

/-- Whether the attributes that are read are the given ones, of each name the
last, and the others as they were. -/
structure TakesEffect (given before read : Table Text) : Prop where
  named : ∀ name ∈ Table.names given.lowered, read.get? name = lastText given name
  others : read.filter (fun attr => attr.1 ∉ Table.names given.lowered) =
    before.filter fun attr => attr.1 ∉ Table.names given.lowered

/-- Whether each name that is given is spelled in one way, and as it stands in
the element if it does. -/
structure SpelledAlike (attrs given : Table Text) : Prop where
  alike : ∀ name ∈ given.names, ∀ other ∈ given.names, name.lower = other.lower → name = other
  there : ∀ name ∈ given.names, attrs.has name.lower = true → name.lower = name

theorem mem_names_lowered {given : Table Text} {name : Text} :
    name ∈ Table.names given.lowered ↔ ∃ spelling ∈ given.names, spelling.lower = name := by
  rw [Table.names, Table.lowered, List.map_map, Table.names]
  simp

/-- The last value of a name that is spelled in one way. -/
theorem lastText_eq {given : Table Text} {name spelling : Text}
    (h : ∀ other ∈ given.names, other.lower = name ↔ other = spelling) :
    lastText given name = (Table.ofList given).get? spelling := by
  induction given with
  | nil => rfl
  | cons attr rest ih =>
    have hAttr : attr.1.lower = name ↔ attr.1 = spelling := h _ List.mem_cons_self
    have hRest := ih fun other hOther => h other (List.mem_cons_of_mem _ hOther)
    rw [lastText, Table.lowered, List.map_cons, Table.get?_ofList_cons, Table.get?_ofList_cons,
      ← hRest]
    simp only [hAttr]
    rfl

/-- Where names are spelled alike, it is the last value that is read. -/
theorem SpelledAlike.seenText_eq {attrs given : Table Text} (h : SpelledAlike attrs given)
    (hSmall : ∀ spelling ∈ attrs.names, spelling.lower = spelling) {name : Text}
    (hName : name ∈ Table.names given.lowered) :
    seenText attrs given name = lastText given name := by
  obtain ⟨given₀, hGiven, hLower⟩ := mem_names_lowered.1 hName
  obtain ⟨spelling, hFirst⟩ :
      ∃ spelling, firstSpelling (attrs.names ++ given.names) name = some spelling := by
    rw [← Option.isSome_iff_exists, firstSpelling, List.find?_isSome]
    exact ⟨given₀, List.mem_append_right _ hGiven, decide_eq_true hLower⟩
  have hSpelling : spelling.lower = name := by simpa using List.find?_some hFirst
  have hOnly : ∀ other ∈ given.names, other.lower = name ↔ other = spelling := by
    refine fun other hOther => ⟨fun hOtherLower => ?_, fun hSame => hSame ▸ hSpelling⟩
    rcases List.mem_append.1 (List.mem_of_find?_eq_some hFirst) with hThere | hGiven
    · have hSame : spelling = name := (hSmall spelling hThere).symm.trans hSpelling
      have hHas : attrs.has other.lower = true := by
        rw [hOtherLower, ← hSame, Table.has_eq_true_iff]
        exact hThere
      rw [← h.there other hOther hHas, hOtherLower, hSame]
    · exact h.alike other hOther spelling hGiven (hOtherLower.trans hSpelling.symm)
  rw [lastText_eq hOnly, seenText, hFirst, Option.bind_some]
  have hHas : (Table.ofList given).has spelling = true := by
    rw [Table.has_eq_true_iff, Table.mem_names_ofList, ← (hOnly given₀ hGiven).1 hLower]
    exact hGiven
  cases hGet : (Table.ofList given).get? spelling with
  | none =>
    rw [Table.get?_eq_none_iff, hHas] at hGet
    cases hGet
  | some text => rfl

/-- What is chosen among the names that are not given is read as it was. -/
theorem filter_read {p : Text → Bool} {attrs given : Table Text}
    (hGiven : ∀ attr ∈ given, p attr.1.lower = false)
    (hSmall : ∀ spelling ∈ attrs.names, spelling.lower = spelling) (hNodup : attrs.names.Nodup) :
    (Table.firstOfEach (attrs.putAll given).lowered).filter (fun attr => p attr.1) =
      attrs.filter fun attr => p attr.1 := by
  have hAttrs : ∀ attr ∈ attrs, attr.1.lower = attr.1 := fun attr hAttr =>
    hSmall attr.1 (List.mem_map.2 ⟨attr, hAttr, rfl⟩)
  have hBound : (attrs.putAll given).filter
      (fun attr => p attr.1.lower) = attrs.filter fun attr => p attr.1 := by
    refine Table.putAll_of_step (p := fun table : Table Text =>
      table.filter (fun attr => p attr.1.lower) = attrs.filter fun attr => p attr.1)
      (List.filter_congr fun attr hAttr => by rw [hAttrs attr hAttr])
      fun table hTable attr hAttr => ?_
    have hPut := Table.filter_put (p := fun name => p name.lower) (hGiven attr hAttr) table attr.2
    exact hPut.trans hTable
  have hLowered (table : Table Text) : (table.lowered).filter (fun attr => p attr.1) =
      Table.lowered (table.filter fun attr => p attr.1.lower) := List.filter_map
  have hSame : Table.lowered (attrs.filter fun attr => p attr.1) =
      attrs.filter fun attr => p attr.1 := by
    refine (List.map_congr_left fun attr hAttr => ?_).trans (List.map_id _)
    rw [hAttrs attr (List.mem_filter.1 hAttr).1]
    rfl
  rw [Table.firstOfEach_filter, hLowered, hBound, hSame]
  exact Table.firstOfEach_eq_self (hNodup.sublist (List.filter_sublist.map _))

/-! ## 5. What is read -/

variable {tag : Text} {attrs bound : Table Text} {children : List Node}

/-- An element anywhere in a tree that was read. -/
theorem regular_of_parseMarkup {markup : Text} {template : Node}
    (h : parseMarkup markup = .ok template)
    (hNode : .element tag attrs children ∈ template.subtrees) :
    Everywhere Node.Regular [.element tag attrs children] := by
  have hRegular : Everywhere Node.Regular template.children := fun node hNode =>
    ⟨(wellFormed_parseMarkup h).1 node hNode, lexical_parseMarkup h node hNode⟩
  obtain ⟨events, _, rfl⟩ := exists_of_map_eq_ok h
  rw [Node.subtrees_eq] at hNode
  rcases List.mem_cons.1 hNode with hRoot | hBelow
  · cases hRoot
  · exact hRegular.of_mem_subtrees hBelow

/-- When a binding has given attributes to an element of a tree that was read,
its HTML is read again with that element first. The names it gives are such as
can be written: one with white space or `=` in it would be read as another. A
name that is given is read with the last value of its first spelling, the others
as they were. So the binding takes effect exactly if that is the last value of
each name, as it is where names are spelled alike. -/
theorem bindAttrs_read {markup : Text} {template : Node}
    (hTemplate : parseMarkup markup = .ok template)
    (hNode : .element tag attrs children ∈ template.subtrees) {binding : Text} {context : Value}
    (hPlain : ∀ pair ∈ pairsOf binding, isPlainName pair.1 = true)
    (hBound : bindAttrs binding context attrs = .ok bound) :
    let given := givenAttrs binding context
    let named := Table.names given.lowered
    ∃ read content rest, parseMarkup (Node.toHtml (.element tag bound children)) =
        .ok (.fragment (.element tag read content :: rest)) ∧
      read.filter (fun attr => attr.1 ∉ named) = attrs.filter (fun attr => attr.1 ∉ named) ∧
      (∀ name ∈ named, read.get? name = seenText attrs given name) ∧
      (TakesEffect given attrs read ↔
        ∀ name ∈ named, seenText attrs given name = lastText given name) ∧
      (SpelledAlike attrs given → TakesEffect given attrs read) := by
  intro given named
  have hRegular := regular_of_parseMarkup hTemplate hNode
  obtain ⟨⟨⟨hNodup, _⟩, _, hAttrs, _⟩, _⟩ := everywhere_singleton.1 hRegular
  have hSmall : ∀ spelling ∈ attrs.names, spelling.lower = spelling := by
    intro spelling hSpelling
    obtain ⟨attr, hAttr, rfl⟩ := List.mem_map.1 hSpelling
    exact (hAttrs attr hAttr).small
  have hTable : bound = attrs.putAll given := bindPairs_eq hBound
  have hWritten : ∀ attr ∈ bound, IsWrittenName attr.1 := by
    intro attr hAttr
    rw [hTable] at hAttr
    rcases Table.mem_putAll attr hAttr with hThere | hGiven
    · exact (hAttrs attr hThere).toIsWrittenName
    · obtain ⟨pair, hPair, rfl⟩ := List.mem_map.1 hGiven
      exact isWrittenName_of_isPlainName (hPlain pair hPair)
  obtain ⟨content, rest, hRead⟩ := parseMarkup_opening hRegular hWritten
  have hSeen (name : Text) :
      (Table.firstOfEach bound.lowered).get? name = seenText attrs given name := by
    rw [hTable]
    exact get?_firstOfEach_lowered attrs given name
  have hOthers : (Table.firstOfEach bound.lowered).filter (fun attr => attr.1 ∉ named) =
      attrs.filter fun attr => attr.1 ∉ named := by
    rw [hTable]
    refine filter_read (p := fun name => decide (name ∉ named)) (fun attr hAttr => ?_) hSmall hNodup
    exact decide_eq_false (not_not.2 (mem_names_lowered.2
      ⟨attr.1, List.mem_map.2 ⟨attr, hAttr, rfl⟩, rfl⟩))
  have hEffect : TakesEffect given attrs (Table.firstOfEach bound.lowered) ↔
      ∀ name ∈ named, seenText attrs given name = lastText given name :=
    ⟨fun h name hName => (hSeen name).symm.trans (h.named name hName),
      fun h => ⟨fun name hName => (hSeen name).trans (h name hName), hOthers⟩⟩
  exact ⟨_, content, rest, hRead, hOthers, fun name _ => hSeen name, hEffect,
    fun hAlike => hEffect.2 fun name hName => hAlike.seenText_eq hSmall hName⟩

/-- A title that is there and one that is not, with an attribute between them
that is not given. -/
theorem bindAttrs_read_title :
    let binding : Text := "title:a|data-n:n|title:b"
    let context : Value := .dict [("a", .str "A"), ("b", .str "<B>"), ("n", .int 3)]
    let attrs : Table Text := [("title", "old"), ("class", "c")]
    let bound : Table Text := [("title", "<B>"), ("class", "c"), ("data-n", "3")]
    parseMarkup "<p Title=old class=c>" = .ok (.fragment [.element "p" attrs []]) ∧
      (∀ pair ∈ pairsOf binding, isPlainName pair.1 = true) ∧
      bindAttrs binding context attrs = .ok bound ∧
      SpelledAlike attrs (givenAttrs binding context) ∧
      ∃ read content rest, parseMarkup (Node.toHtml (.element "p" bound [])) =
          .ok (.fragment (.element "p" read content :: rest)) ∧
        TakesEffect (givenAttrs binding context) attrs read := by
  intro binding context attrs bound
  have hTemplate : parseMarkup "<p Title=old class=c>" =
      .ok (.fragment [.element "p" attrs []]) := by decide +kernel
  have hPlain : ∀ pair ∈ pairsOf binding, isPlainName pair.1 = true := by decide +kernel
  have hBound : bindAttrs binding context attrs = .ok bound := by decide +kernel
  have hAlike : SpelledAlike attrs (givenAttrs binding context) :=
    ⟨by decide +kernel, by decide +kernel⟩
  obtain ⟨read, content, rest, hRead, _, _, _, hEffect⟩ :=
    bindAttrs_read hTemplate (List.mem_cons_of_mem _ List.mem_cons_self) hPlain hBound
  exact ⟨hTemplate, hPlain, hBound, hAlike, read, content, rest, hRead, hEffect hAlike⟩

/-- Not every binding takes effect: one that gives `SRC` to an image with a
`src` is not seen. -/
theorem not_takesEffect_capitals :
    let context : Value := .dict [("x", .str "b.png")]
    let attrs : Table Text := [("src", "a.png")]
    let bound : Table Text := [("src", "a.png"), ("SRC", "b.png")]
    parseMarkup "<img src=\"a.png\">" = .ok (.fragment [.element "img" attrs []]) ∧
      (∀ pair ∈ pairsOf "SRC:x", isPlainName pair.1 = true) ∧
      bindAttrs "SRC:x" context attrs = .ok bound ∧
      ¬ ∃ read content rest, parseMarkup (Node.toHtml (.element "img" bound [])) =
          .ok (.fragment (.element "img" read content :: rest)) ∧
        TakesEffect (givenAttrs "SRC:x" context) attrs read := by
  intro context attrs bound
  refine ⟨by decide +kernel, by decide +kernel, by decide +kernel, ?_⟩
  rintro ⟨read, content, rest, hRead, hEffect⟩
  have hAgain : parseMarkup (Node.toHtml (.element "img" bound [])) =
      .ok (.fragment [.element "img" attrs []]) := by decide +kernel
  rw [hAgain] at hRead
  cases hRead
  have hSeen := hEffect.named "src" (by decide +kernel)
  revert hSeen
  decide +kernel

end TreeTemplate
