/-
TreeTemplate.Proofs.Template.Styling — properties from data (`StyleBinder`,
specification §4.6).

A style binding writes the properties it names over those of the element. The
values come from the data and are written as they are, so a semicolon in a
value ends the declaration it stands in, and the rest of the value is read as
further declarations.

* `givenProperties` — the properties that a binding gives.
* `SetsOnly` — no other properties come, change or move.
* `DeclaresItself` — a property that says nothing about others.
* `bindStyle_sets` — a binding sets only the properties it names, whatever the
  element, exactly if each property that it gives declares itself.
-/
import TreeTemplate.Proofs.Outcome
import TreeTemplate.Proofs.Template.Style
import TreeTemplate.Template.Binding

namespace TreeTemplate

/-! ## 1. What a binding gives -/

/-- The property that a pair gives, if its path finds something other than null. -/
def givenProperty? (context : Value) (pair : Text × Text) : Option (Text × Text) :=
  match context.resolve pair.2 with
  | .ok found => if found.isMissing then none else some (propertyName pair.1, found.toText)
  | .error _ => none

/-- The properties that the pairs of a binding give, in order. -/
def givenProperties (binding : Text) (context : Value) : List (Text × Text) :=
  (pairsOf binding).filterMap (givenProperty? context)

/-- The style that an element's attributes have. -/
def styleOf (attrs : Table Text) : Style := Style.ofText ((attrs.get? styleName).getD [])

theorem foundProperties_eq {context : Value} {pairs : List (Text × Text)}
    (h : ∀ pair ∈ pairs, ∃ found, context.resolve pair.2 = .ok found) :
    foundProperties context pairs = .ok (pairs.filterMap (givenProperty? context)) := by
  induction pairs with
  | nil => rfl
  | cons pair rest ih =>
    obtain ⟨found, hFound⟩ := h pair List.mem_cons_self
    have hRest := ih fun other hOther => h other (List.mem_cons_of_mem _ hOther)
    simp only [foundProperties, hFound, hRest, List.filterMap_cons, givenProperty?]
    cases found.isMissing <;> rfl

/-- A name of a pair has no colon and is not blank. -/
theorem name_of_mem_pairsOf {binding : Text} {pair : Text × Text} (h : pair ∈ pairsOf binding) :
    .scalar ':' ∉ pair.1 ∧ pair.1.isBlank = false := by
  obtain ⟨piece, _, hPair⟩ := List.mem_filterMap.1 h
  have hColon : .scalar ':' ∉ (Text.cut (.scalar ':') piece).1 := by
    rcases Text.cut_cases (.scalar ':') piece with ⟨hNone, hCut⟩ | ⟨_, _, _, hNone, hCut⟩ <;>
      rwa [hCut]
  simp only [pair?] at hPair
  split at hPair
  · cases hPair
  · next hBlank =>
    cases hPair
    refine ⟨fun hMem => hColon (Text.mem_trim hMem), ?_⟩
    rwa [← Bool.not_eq_true, ← Text.trim_eq_nil_iff, Text.trim_trim, Text.trim_eq_nil_iff]

theorem isPropertyName_of_mem_givenProperties {binding : Text} {context : Value}
    {property : Text × Text} (h : property ∈ givenProperties binding context)
    (hSemicolon : .scalar ';' ∉ property.1) : IsPropertyName property.1 := by
  obtain ⟨pair, hPair, hGiven⟩ := List.mem_filterMap.1 h
  obtain ⟨hColon, hBlank⟩ := name_of_mem_pairsOf hPair
  rw [givenProperty?] at hGiven
  split at hGiven
  · split at hGiven
    · cases hGiven
    · cases hGiven
      exact {
        normal := propertyName_propertyName pair.1
        nonempty := propertyName_of_isBlank_eq_false hBlank
        noColon := fun hMem => hColon (mem_of_mem_propertyName hMem (by decide))
        noSemicolon := hSemicolon }
  · cases hGiven

/-- The style that is read after a binding: what the properties declare that are written. -/
theorem styleOf_bindStyle {binding : Text} {context : Value}
    (hFound : ∀ pair ∈ pairsOf binding, ∃ found, context.resolve pair.2 = .ok found)
    (attrs : Table Text) :
    ∃ bound, bindStyle binding context attrs = .ok bound ∧
      styleOf bound = Table.ofList
        (((styleOf attrs).putAll (givenProperties binding context)).flatMap Style.declaredBy) := by
  rw [bindStyle, foundProperties_eq hFound]
  refine ⟨_, rfl, ?_⟩
  rw [← givenProperties, ← Style.ofText_toText]
  by_cases hNone : givenProperties binding context = []
  · simp only [hNone, if_true]
    exact (Style.ofText_toText_ofText _).symm
  · simp only [hNone, if_false]
    rw [styleOf, Table.get?_put, if_pos rfl]
    rfl

/-! ## 2. Properties that set only themselves -/

/-- Reading a style again shows the named properties and those that were
there, and the ones without a name in their places with their values. -/
structure SetsOnly (named : List Text) (before after : Style) : Prop where
  names : ∀ name, name ∈ after.names ↔ name ∈ before.names ∨ name ∈ named
  others : ∀ (place : Nat) (property : Text × Text), before[place]? = some property →
    property.1 ∉ named → after[place]? = some property

/-- A property that declares itself and nothing else when it is written. -/
def DeclaresItself (property : Text × Text) : Prop :=
  .scalar ';' ∉ property.1 ∧ ∀ declared ∈ Style.declaredBy property, declared.1 = property.1

/-- So does any property without semicolons. -/
theorem declaresItself_of_not_mem {property : Text × Text} (hName : IsPropertyName property.1)
    (hValue : .scalar ';' ∉ property.2) : DeclaresItself property := by
  refine ⟨hName.noSemicolon, fun declared hDeclared => ?_⟩
  rw [Style.declaredBy_of_not_mem hName hValue, List.mem_singleton] at hDeclared
  rw [hDeclared]

/-- Where each given property declares itself, a binding sets only what it names. -/
theorem setsOnly_of_declaresItself {t : Text} {binding : Text} {context : Value}
    (hOwn : ∀ property ∈ Table.ofList (givenProperties binding context), DeclaresItself property) :
    SetsOnly (Table.names (givenProperties binding context)) (Style.ofText t)
      (Table.ofList (((Style.ofText t).putAll (givenProperties binding context)).flatMap
        Style.declaredBy)) := by
  have hBefore := Style.nodup_names_ofText t
  have hParts : ∀ property ∈ (Style.ofText t).putAll (givenProperties binding context),
      IsPropertyName property.1 ∧
        ∀ declared ∈ Style.declaredBy property, declared.1 = property.1 := by
    intro property hProperty
    rcases (Table.mem_putAll_iff hBefore).1 hProperty with hGiven | ⟨hOld, _⟩
    · obtain ⟨hSemicolon, hSelf⟩ := hOwn property hGiven
      have hMem := Table.mem_of_mem_ofList hGiven
      exact ⟨isPropertyName_of_mem_givenProperties hMem hSemicolon, hSelf⟩
    · obtain ⟨hName, _, hValue⟩ := Style.isPropertyName_of_mem_ofText hOld
      exact ⟨hName, (declaresItself_of_not_mem hName hValue).2⟩
  rw [Style.ofList_flatMap_declaredBy (Table.nodup_names_putAll hBefore _) hParts]
  refine ⟨fun name => ?_, fun place property hPlace hOther => ?_⟩
  · rw [← Table.mem_names_putAll, Table.names, List.map_map]
    rfl
  · obtain ⟨hName, hTrim, hValue⟩ :=
      Style.isPropertyName_of_mem_ofText (List.mem_of_getElem? hPlace)
    have hStill : ((Style.ofText t).putAll (givenProperties binding context))[place]? =
        some property := Table.getElem?_putAll_of_not_mem hPlace hOther
    rw [List.getElem?_map, hStill, Option.map_some,
      Style.declaredBy_of_not_mem hName hValue, hTrim]
    rfl

/-- Of two different members one is not the first. -/
theorem exists_getElem?_one {α : Type} {l : List α} {a b : α} (ha : a ∈ l) (hb : b ∈ l)
    (hNe : a ≠ b) : ∃ c, l[1]? = some c := by
  rcases l with _ | ⟨c, _ | ⟨d, rest⟩⟩
  · cases ha
  · exact absurd ((List.mem_singleton.1 ha).trans (List.mem_singleton.1 hb).symm) hNe
  · exact ⟨d, rfl⟩

/-- A property that declares another is read as two at least. -/
theorem exists_second_name {property declared : Text × Text} (hName : IsPropertyName property.1)
    (hDeclared : declared ∈ Style.declaredBy property) (hNe : declared.1 ≠ property.1)
    (later : List (Text × Text)) :
    ∃ name ∈ Table.names (Style.declaredBy property),
      (Table.ofList (Style.declaredBy property ++ later)).names[1]? = some name := by
  obtain ⟨value, more, hSelf⟩ := Style.exists_declaredBy_eq_cons hName property.2
  have hOne : property.1 ∈ Table.names (Style.declaredBy property) := by
    rw [show Style.declaredBy property = _ from hSelf]
    exact List.mem_cons_self
  have hTwo : declared.1 ∈ Table.names (Style.declaredBy property) :=
    List.mem_map.2 ⟨declared, hDeclared, rfl⟩
  obtain ⟨name, hSecond⟩ := exists_getElem?_one (Table.mem_names_ofList.2 hTwo)
    (Table.mem_names_ofList.2 hOne) hNe
  obtain ⟨others, hFirst⟩ :=
    Table.names_prefix_putAll (Table.ofList (Style.declaredBy property)) later
  refine ⟨name, Table.mem_names_ofList.1 (List.mem_of_getElem? hSecond), ?_⟩
  rw [Table.ofList_eq, Table.putAll_append, ← Table.ofList_eq, ← hFirst,
    List.getElem?_append_left (List.getElem?_eq_some_iff.1 hSecond).1, hSecond]

/-- A given property that declares another shows in the element that has the one,
and behind it a property that the binding does not name. -/
theorem declaresItself_of_setsOnly {given : List (Text × Text)}
    (hOnly : ∀ t, SetsOnly (Table.names given) (Style.ofText t)
      (Table.ofList (((Style.ofText t).putAll given).flatMap Style.declaredBy)))
    {property : Text × Text} (hProperty : property ∈ Table.ofList given) :
    DeclaresItself property := by
  have hNamed : property.1 ∈ Table.names given :=
    List.mem_map.2 ⟨property, Table.mem_of_mem_ofList hProperty, rfl⟩
  have hName : IsPropertyName property.1 := by
    obtain ⟨read, hRead, hSame⟩ := List.mem_map.1 (((hOnly []).names _).2 (.inr hNamed))
    obtain ⟨written, _, hDeclared⟩ := List.mem_flatMap.1 (Table.mem_of_mem_ofList hRead)
    exact hSame ▸ (Style.isPropertyName_of_mem_declarations hDeclared).1
  refine ⟨hName.noSemicolon, fun declared hDeclared => Classical.byContradiction fun hNe => ?_⟩
  obtain ⟨other, hOther, hNew⟩ := exists_isPropertyName_not_mem
    (Table.names given ++ Table.names (Style.declaredBy property))
  rw [List.mem_append, not_or] at hNew
  let before : Style := [(property.1, []), (other, [])]
  have hBefore : Style.ofText (Style.toText before) = before := by
    refine Style.ofText_toText_of_not_mem ?_ fun written hWritten => ?_
    · have hDiffer : property.1 ≠ other := fun h => hNew.1 (h ▸ hNamed)
      simp [before, Table.names, hDiffer]
    · simp only [before, List.mem_cons, List.not_mem_nil, or_false] at hWritten
      rcases hWritten with rfl | rfl
      · exact ⟨hName, List.not_mem_nil⟩
      · exact ⟨hOther, List.not_mem_nil⟩
  have hNodup : before.names.Nodup := hBefore ▸ Style.nodup_names_ofText _
  obtain ⟨rest, hWritten⟩ := Table.exists_putAll_eq_cons hProperty hNodup
  have hRead := (hBefore ▸ hOnly (Style.toText before)).others 1 (other, []) rfl hNew.1
  rw [hWritten, List.flatMap_cons] at hRead
  -- The second name that is read would be the other, but the property declares one.
  obtain ⟨name, hMem, hSecond⟩ :=
    exists_second_name hName hDeclared hNe (rest.flatMap Style.declaredBy)
  have hThere : (Table.ofList (Style.declaredBy property ++
      rest.flatMap Style.declaredBy)).names[1]? = some other := by
    rw [Table.names, List.getElem?_map, hRead]
    rfl
  rw [hSecond] at hThere
  cases hThere
  exact hNew.2 hMem

/-! ## 3. What a binding sets -/

/-- After a binding whose paths can be followed, an element has the style that
the written properties declare. The binding sets nothing but the properties it
names, in every element, exactly if each property it gives declares itself. Where
one of the paths fails there is no element at all. -/
theorem bindStyle_sets {binding : Text} {context : Value}
    (hFound : ∀ pair ∈ pairsOf binding, ∃ found, context.resolve pair.2 = .ok found) :
    (∀ attrs, ∃ bound, bindStyle binding context attrs = .ok bound ∧
      styleOf bound = Table.ofList
        (((styleOf attrs).putAll (givenProperties binding context)).flatMap Style.declaredBy)) ∧
    ((∀ attrs bound, bindStyle binding context attrs = .ok bound →
        SetsOnly (Table.names (givenProperties binding context)) (styleOf attrs)
          (styleOf bound)) ↔
      ∀ property ∈ Table.ofList (givenProperties binding context), DeclaresItself property) := by
  refine ⟨styleOf_bindStyle hFound, fun hOnly => ?_, fun hOwn attrs bound hBound => ?_⟩
  · refine fun property hProperty => declaresItself_of_setsOnly (fun t => ?_) hProperty
    obtain ⟨bound, hBound, hStyle⟩ := styleOf_bindStyle hFound [(styleName, t)]
    have hText : styleOf [(styleName, t)] = Style.ofText t := by
      rw [styleOf, Table.get?, if_pos rfl]
      rfl
    have hSets := hOnly _ bound hBound
    rwa [hStyle, hText] at hSets
  · obtain ⟨bound', hBound', hStyle⟩ := styleOf_bindStyle hFound attrs
    rw [hBound] at hBound'
    cases hBound'
    rw [hStyle]
    exact setsOnly_of_declaresItself hOwn

/-- A color and a margin that are given to an element with a margin and a
width, and a property whose path finds nothing. -/
theorem bindStyle_sets_margin :
    let binding : Text := "Color:c|top:x|margin:m"
    let context : Value := .dict [("c", .str "red"), ("m", .int 2)]
    (∀ pair ∈ pairsOf binding, ∃ found, context.resolve pair.2 = .ok found) ∧
    (∀ property ∈ Table.ofList (givenProperties binding context), DeclaresItself property) ∧
    ∃ bound, bindStyle binding context [("style", "margin: 0; width: 1px")] = .ok bound ∧
      styleOf bound = ([("margin", "2"), ("width", "1px"), ("color", "red")] : Style) ∧
      SetsOnly ["color", "margin"] [("margin", "0"), ("width", "1px")] (styleOf bound) := by
  intro binding context
  have hFound : ∀ pair ∈ pairsOf binding, ∃ found, context.resolve pair.2 = .ok found := by
    have hPairs : pairsOf binding =
        ([("Color", "c"), ("top", "x"), ("margin", "m")] : Table Text) := by decide +kernel
    rw [hPairs]
    simp only [List.forall_mem_cons, List.not_mem_nil, IsEmpty.forall_iff, implies_true, and_true]
    exact ⟨⟨some (.str "red"), by decide +kernel⟩, ⟨none, by decide +kernel⟩,
      ⟨some (.int 2), by decide +kernel⟩⟩
  have hOwn : ∀ property ∈ Table.ofList (givenProperties binding context),
      DeclaresItself property := by
    unfold DeclaresItself
    decide +kernel
  obtain ⟨bound, hBound, hStyle⟩ := (bindStyle_sets hFound).1 [("style", "margin: 0; width: 1px")]
  refine ⟨hFound, hOwn, bound, hBound, hStyle.trans (by decide +kernel), ?_⟩
  exact (bindStyle_sets hFound).2.2 hOwn _ bound hBound

/-- Not every binding sets only the properties it names: a value of the data
with semicolons in it changes `margin` and sets `top`. -/
theorem not_setsOnly_semicolons :
    ¬ ∀ (binding : Text) (context : Value) (attrs bound : Table Text),
      bindStyle binding context attrs = .ok bound →
        SetsOnly (Table.names (givenProperties binding context)) (styleOf attrs)
          (styleOf bound) := by
  intro h
  have hBound : bindStyle "color:c" (.dict [("c", .str "red; margin: 9px; top: 0")])
      [("style", "margin: 0")] =
        .ok [("style", "margin: 0; color: red; margin: 9px; top: 0;")] := by decide
  have hMargin := (h _ _ _ _ hBound).others 0 ("margin", "0") (by decide) (by decide)
  revert hMargin
  decide

end TreeTemplate
