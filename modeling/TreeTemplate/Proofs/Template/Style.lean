/-
TreeTemplate.Proofs.Template.Style — inline styles written and read
(`format_css` and `parse_css`, specification §4.6).

A style that is written is read back declaration by declaration. What a
property with its value declares depends on its text alone: the property
itself, if no semicolon stands in it; a value with a semicolon ends there,
and what follows declares more.

* `IsPropertyName` — names as they are read.
* `Style.declarations` — what a text declares, and `Style.declaredBy` what a
  property declares that is written: itself first.
* `Style.ofText_toText` — a written style, read again;
  `Style.ofText_toText_ofText`, one that was read before.
* `Style.ofText_normalForm` — the normal form of what is read.
-/
import TreeTemplate.Proofs.Table
import TreeTemplate.Proofs.Text.Casing
import TreeTemplate.Template.Style
import Mathlib.Algebra.Order.BigOperators.Group.List
import Mathlib.Algebra.Order.Ring.Nat

namespace TreeTemplate

/-! ## 1. Names of properties -/

theorem trim_propertyName (name : Text) : (propertyName name).trim = propertyName name := by
  rw [propertyName]
  split
  · exact Text.trim_trim name
  · exact Text.trim_lower (Text.trim_trim name)

/-- A normal form is its own. -/
theorem propertyName_propertyName (name : Text) :
    propertyName (propertyName name) = propertyName name := by
  rw [propertyName, trim_propertyName]
  by_cases hCustom : (propertyName name).startsWith "--" = true
  · exact if_pos hCustom
  · refine (if_neg hCustom).trans ?_
    rw [propertyName] at hCustom ⊢
    split
    · next hBegins => rw [if_pos hBegins] at hCustom; exact absurd hBegins hCustom
    · exact Text.lower_lower _

theorem propertyName_of_isBlank_eq_false {name : Text} (h : name.isBlank = false) :
    propertyName name ≠ [] := by
  have hTrim : name.trim ≠ [] := by
    rw [ne_eq, Text.trim_eq_nil_iff, h]
    decide
  rw [propertyName]
  split
  · exact hTrim
  · obtain ⟨c, rest, hCons⟩ := List.exists_cons_of_ne_nil hTrim
    obtain ⟨_, _, hLower, _⟩ := Text.lower_cons c rest
    rw [hCons, hLower]
    exact List.cons_ne_nil _ _

/-- The normal form has no signs before the small letters but those of the name. -/
theorem mem_of_mem_propertyName {name : Text} {c : CodePoint} (h : c ∈ propertyName name)
    (hc : c.value ≤ 0x60) : c ∈ name := by
  rw [propertyName] at h
  split at h
  · exact Text.mem_trim h
  · rcases Text.mem_lower h with hSettled | hMem
    · exact absurd hSettled.lt_value (Nat.not_lt.2 hc)
    · exact Text.mem_trim hMem

/-- A name of a property as it is read. -/
structure IsPropertyName (name : Text) : Prop where
  normal : propertyName name = name
  nonempty : name ≠ []
  noColon : .scalar ':' ∉ name
  noSemicolon : .scalar ';' ∉ name

/-- The normal form of a name without a colon and a semicolon. -/
theorem isPropertyName_propertyName {name : Text} (hBlank : name.isBlank = false)
    (hColon : .scalar ':' ∉ name) (hSemicolon : .scalar ';' ∉ name) :
    IsPropertyName (propertyName name) where
  normal := propertyName_propertyName name
  nonempty := propertyName_of_isBlank_eq_false hBlank
  noColon h := hColon (mem_of_mem_propertyName h (by decide))
  noSemicolon h := hSemicolon (mem_of_mem_propertyName h (by decide))

theorem IsPropertyName.isBlank_eq_false {name : Text} (h : IsPropertyName name) :
    name.isBlank = false := by
  have hTrim : name.trim = name := by
    rw [← h.normal]
    exact trim_propertyName name
  rw [← Bool.not_eq_true, ← Text.trim_eq_nil_iff, hTrim]
  exact h.nonempty

/-- There is always one more name. -/
theorem exists_isPropertyName_not_mem (names : List Text) :
    ∃ name, IsPropertyName name ∧ name ∉ names := by
  let long : Text := ("--" : Text) ++ List.replicate (names.map List.length).sum (.scalar 'x')
  have hSigns : ∀ c ∈ long, c = .scalar '-' ∨ c = .scalar 'x' := by
    intro c hc
    rcases List.mem_append.1 hc with hHyphens | hRun
    · exact .inl ((by decide : ∀ c ∈ ("--" : Text), c = .scalar '-') c hHyphens)
    · exact .inr (List.eq_of_mem_replicate hRun)
  have hNone {c : CodePoint} (hHyphen : c ≠ .scalar '-') (hX : c ≠ .scalar 'x') : c ∉ long :=
    fun hc => (hSigns c hc).elim hHyphen hX
  have hTrim : long.trim = long := by
    have hBlank : ∀ c ∈ long, c.isBlank = false := fun c hc => by
      rcases hSigns c hc with rfl | rfl <;> decide
    exact Text.trim_eq_self (fun c hc => hBlank c (List.mem_of_mem_head? hc))
      fun c hc => hBlank c (List.mem_of_mem_getLast? hc)
  refine ⟨long, ⟨?_, ?_, hNone (by decide) (by decide), hNone (by decide) (by decide)⟩, ?_⟩
  · rw [propertyName, hTrim]
    exact if_pos rfl
  · exact List.cons_ne_nil _ _
  · intro hMem
    have hLength : long.length ≤ (names.map List.length).sum :=
      List.le_sum_of_mem (List.mem_map.2 ⟨long, hMem, rfl⟩)
    rw [List.length_append, List.length_replicate] at hLength
    have hTwo : (("--" : Text)).length = 2 := rfl
    omega

namespace Style

/-! ## 2. Declarations -/

/-- A piece of a style declares a property that can be read back. -/
theorem isPropertyName_of_declaration? {piece : Text} {property : Text × Text}
    (h : declaration? piece = some property) (hPiece : .scalar ';' ∉ piece) :
    IsPropertyName property.1 ∧ property.2.trim = property.2 ∧ .scalar ';' ∉ property.2 := by
  unfold declaration? at h
  rcases Text.cut_cases (.scalar ':') piece with ⟨_, hCut⟩ | ⟨name, value, rfl, hColon, hCut⟩
  · rw [hCut] at h
    cases h
  · simp only [List.mem_append, List.mem_cons, not_or] at hPiece
    simp only [hCut] at h
    split at h
    · cases h
    · next hBlank =>
      cases h
      exact ⟨isPropertyName_propertyName (by simpa using hBlank) hColon hPiece.1,
        Text.trim_trim value, fun hMem => hPiece.2.2 (Text.mem_trim hMem)⟩

/-- A name, a colon and a value. -/
theorem declaration?_property {name : Text} (h : IsPropertyName name) (value : Text) :
    declaration? (name ++ (": " : Text) ++ value) = some (name, value.trim) := by
  have hText : name ++ (": " : Text) ++ value = name ++ .scalar ':' :: .scalar ' ' :: value := by
    rw [List.append_assoc]
    rfl
  rw [hText, declaration?, Text.cut_append h.noColon]
  simp only [h.isBlank_eq_false, h.normal,
    Text.trim_cons_of_isBlank (show (CodePoint.scalar ' ').isBlank = true by decide)]
  rfl

/-- White space before a declaration. -/
theorem declaration?_space (piece : Text) :
    declaration? (.scalar ' ' :: piece) = declaration? piece := by
  have hBlank : (CodePoint.scalar ' ').isBlank = true := by decide
  have hName (name : Text) : propertyName (.scalar ' ' :: name) = propertyName name := by
    rw [propertyName, propertyName, Text.trim_cons_of_isBlank hBlank]
  have hIs (name : Text) : Text.isBlank (.scalar ' ' :: name) = name.isBlank := by
    rw [Text.isBlank, List.all_cons, hBlank, Bool.true_and, Text.isBlank]
  rw [declaration?, Text.cut, if_neg (by decide)]
  unfold declaration?
  rcases Text.cut (.scalar ':') piece with ⟨name, _ | value⟩
  · rfl
  · simp only [hName, hIs]

/-- What a text declares, one after another. -/
def declarations (t : Text) : List (Text × Text) := (t.splitOn (.scalar ';')).filterMap declaration?

theorem ofText_eq (t : Text) : ofText t = Table.ofList (declarations t) := rfl

theorem declarations_append (before after : Text) :
    declarations (before ++ .scalar ';' :: after) = declarations before ++ declarations after := by
  rw [declarations, Text.splitOn_append, List.filterMap_append]
  rfl

theorem declarations_of_not_mem {t : Text} (h : .scalar ';' ∉ t) :
    declarations t = (declaration? t).toList := by
  rw [declarations, Text.splitOn_eq_singleton h, List.filterMap_cons, List.filterMap_nil]
  cases declaration? t with
  | none => rfl
  | some property => rfl

theorem declarations_space (t : Text) : declarations (.scalar ' ' :: t) = declarations t := by
  rw [declarations, Text.splitOn, if_neg (by decide), declarations]
  obtain ⟨piece, pieces, hPieces⟩ :=
    List.exists_cons_of_ne_nil (Text.splitOn_ne_nil (.scalar ';') t)
  rw [hPieces]
  simp only [List.filterMap_cons, declaration?_space]

/-- What a property that is written declares. -/
def declaredBy (property : Text × Text) : List (Text × Text) :=
  declarations (property.1 ++ (": " : Text) ++ property.2)

/-- A property whose value has no semicolon declares itself. -/
theorem declaredBy_of_not_mem {name value : Text} (hName : IsPropertyName name)
    (hValue : .scalar ';' ∉ value) : declaredBy (name, value) = [(name, value.trim)] := by
  have hNone : .scalar ';' ∉ name ++ (": " : Text) ++ value := by
    have hSign : CodePoint.scalar ';' ∉ (": " : Text) := by decide
    simp only [List.mem_append, hName.noSemicolon, hSign, hValue, or_self, not_false_eq_true]
  rw [declaredBy, declarations_of_not_mem hNone, declaration?_property hName]
  rfl

/-- A property declares itself first, whatever its value. -/
theorem exists_declaredBy_eq_cons {name : Text} (hName : IsPropertyName name) (value : Text) :
    ∃ text rest, declaredBy (name, value) = (name, text) :: rest := by
  rcases Text.cut_cases (.scalar ';') value with ⟨hNone, _⟩ | ⟨text, rest, rfl, hText, _⟩
  · exact ⟨_, _, declaredBy_of_not_mem hName hNone⟩
  · have hFirst : declaredBy (name, text ++ .scalar ';' :: rest) =
        declaredBy (name, text) ++ declarations rest := by
      rw [declaredBy, ← List.append_assoc]
      exact declarations_append _ _
    exact ⟨_, _, hFirst.trans (congrArg (· ++ _) (declaredBy_of_not_mem hName hText))⟩

/-- What is declared is in normal form. -/
theorem isPropertyName_of_mem_declarations {t : Text} {property : Text × Text}
    (h : property ∈ declarations t) :
    IsPropertyName property.1 ∧ property.2.trim = property.2 ∧ .scalar ';' ∉ property.2 := by
  obtain ⟨piece, hPiece, hDeclared⟩ := List.mem_filterMap.1 h
  refine isPropertyName_of_declaration? hDeclared fun hSemicolon => ?_
  exact (Text.exists_mem_splitOn.1 ⟨piece, hPiece, hSemicolon⟩).2 rfl

/-- What is read is in normal form. -/
theorem isPropertyName_of_mem_ofText {t : Text} {property : Text × Text}
    (h : property ∈ ofText t) :
    IsPropertyName property.1 ∧ property.2.trim = property.2 ∧ .scalar ';' ∉ property.2 :=
  isPropertyName_of_mem_declarations (Table.mem_of_mem_ofList h)

theorem nodup_names_ofText (t : Text) : (ofText t).names.Nodup :=
  Table.nodup_names_ofList (declarations t)

/-! ## 3. Written styles -/

/-- A style that is written declares what its properties do. -/
theorem declarations_toText (style : Style) :
    declarations (toText style) = style.flatMap declaredBy := by
  induction style with
  | nil => rfl
  | cons property rest ih =>
    obtain ⟨name, value⟩ := property
    have hEnd (after : Text) : declarationText (name, value) ++ after =
        (name ++ (": " : Text) ++ value) ++ .scalar ';' :: after := by
      rw [declarationText, List.append_assoc _ [_]]
      rfl
    rw [List.flatMap_cons, ← ih, declaredBy]
    cases rest with
    | nil =>
      have hText : toText [(name, value)] = declarationText (name, value) ++ [] :=
        (List.append_nil _).symm
      rw [hText, hEnd, declarations_append]
      rfl
    | cons next rest =>
      have hText : toText ((name, value) :: next :: rest) =
          declarationText (name, value) ++ .scalar ' ' :: toText (next :: rest) := by
        rw [toText, List.map_cons, List.map_cons, Text.joined, List.append_assoc]
        · rfl
        · simp
      rw [hText, hEnd, declarations_append, declarations_space]

/-- A style that is written and read again. -/
theorem ofText_toText (style : Style) :
    ofText (toText style) = Table.ofList (style.flatMap declaredBy) := by
  rw [ofText_eq, declarations_toText]

/-- Where each property declares nothing but itself, a style is read again with
the last value of each. -/
theorem ofList_flatMap_declaredBy {style : Style} (hNodup : style.names.Nodup)
    (hOwn : ∀ property ∈ style, IsPropertyName property.1 ∧
      ∀ declared ∈ declaredBy property, declared.1 = property.1) :
    Table.ofList (style.flatMap declaredBy) =
      style.map fun property => (property.1, ((declaredBy property).getLastD property).2) := by
  refine Table.putAll_flatMap hNodup fun property hProperty => ⟨?_, (hOwn property hProperty).2⟩
  obtain ⟨_, _, hCons⟩ := exists_declaredBy_eq_cons (hOwn property hProperty).1 property.2
  exact hCons ▸ List.cons_ne_nil _ _

/-- Without semicolons a style is read as it was, but for white space around
the values. -/
theorem ofText_toText_of_not_mem {style : Style} (hNodup : style.names.Nodup)
    (hStyle : ∀ property ∈ style, IsPropertyName property.1 ∧ .scalar ';' ∉ property.2) :
    ofText (toText style) = style.map fun property => (property.1, property.2.trim) := by
  have hSelf (property : Text × Text) (hProperty : property ∈ style) :
      declaredBy property = [(property.1, property.2.trim)] :=
    declaredBy_of_not_mem (hStyle property hProperty).1 (hStyle property hProperty).2
  rw [ofText_toText, ofList_flatMap_declaredBy hNodup]
  · exact List.map_congr_left fun property hProperty => by rw [hSelf property hProperty]; rfl
  · intro property hProperty
    refine ⟨(hStyle property hProperty).1, fun declared hDeclared => ?_⟩
    rw [hSelf property hProperty, List.mem_singleton] at hDeclared
    rw [hDeclared]

/-- A style that was read is written so that it can be read again. -/
theorem ofText_toText_ofText (t : Text) : ofText (toText (ofText t)) = ofText t := by
  rw [ofText_toText_of_not_mem (nodup_names_ofText t) fun property hProperty =>
    ⟨(isPropertyName_of_mem_ofText hProperty).1, (isPropertyName_of_mem_ofText hProperty).2.2⟩]
  refine (List.map_congr_left fun property hProperty => ?_).trans (List.map_id _)
  rw [(isPropertyName_of_mem_ofText hProperty).2.1]
  rfl

/-! ## 4. The normal form -/

/-- What is read from a text is in normal form: written and read again it is the
same. Each name is trimmed and normal, is not empty, has no colon and no
semicolon, and stands once, at the place of its first declaration and with the
value of its last. -/
theorem ofText_normalForm (t : Text) :
    ofText (toText (ofText t)) = ofText t ∧
      toText (ofText (toText (ofText t))) = toText (ofText t) ∧
      (∀ name ∈ (ofText t).names, IsPropertyName name ∧ name.trim = name) ∧
      (ofText t).names.Nodup ∧
      (ofText t).names = (Table.names (declarations t)).eraseDups ∧
      ∀ name, (ofText t).get? name = Table.get? (declarations t).reverse name := by
  have hAgain : ofText (toText (ofText t)) = ofText t := ofText_toText_ofText t
  refine ⟨hAgain, congrArg toText hAgain, fun name hName => ?_, nodup_names_ofText t,
    Table.names_ofList _, Table.get?_ofList _⟩
  obtain ⟨property, hProperty, rfl⟩ := List.mem_map.1 hName
  have hIs : IsPropertyName property.1 := (isPropertyName_of_mem_ofText hProperty).1
  refine ⟨hIs, ?_⟩
  rw [← hIs.normal]
  exact trim_propertyName property.1

/-- A style with a repeated property, an empty name, a value with colons, a
declaration without a colon, and a custom property. -/
theorem ofText_normalForm_repeated :
    let t : Text := " Color : red;: 1;--A:b:c ;width;;margin:;COLOR:\tblue;--a:"
    ofText t = ([("color", "blue"), ("--A", "b:c"), ("margin", []), ("--a", [])] : Style) ∧
      toText (ofText t) = ("color: blue; --A: b:c; margin: ; --a: ;" : Text) ∧
      ofText ("color: blue; --A: b:c; margin: ; --a: ;" : Text) = ofText t ∧
      IsPropertyName "--A" ∧ Table.get? (declarations t).reverse "color" = some "blue" := by
  intro t
  have hRead : ofText t =
      ([("color", "blue"), ("--A", "b:c"), ("margin", []), ("--a", [])] : Style) := by
    decide +kernel
  have hWritten : toText (ofText t) = ("color: blue; --A: b:c; margin: ; --a: ;" : Text) := by
    rw [hRead]
    decide +kernel
  obtain ⟨hAgain, _, hNames, _, _, hLast⟩ := ofText_normalForm t
  rw [hWritten] at hAgain
  have hName : ("--A" : Text) ∈ (ofText t).names := by
    rw [hRead]
    decide
  refine ⟨hRead, hWritten, hAgain, (hNames _ hName).1, ?_⟩
  rw [← hLast, hRead]
  decide

end Style

end TreeTemplate
