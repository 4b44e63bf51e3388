/-
TreeTemplate.Proofs.Template.Rewriting — what directives make of the attributes.

Each directive takes its own attribute away; the two bindings then write
some. The style binding writes `style` or nothing, the other one all names
of its pairs. Since the bindings come last, and the name of the last
directive is never `style`, nothing that is written is taken away again.

* `Rewrites` — the attributes before and after a row of directives.
* `Rewrites.names` — the names after it, exactly.
* `Derives` — an element that comes from another.
-/
import TreeTemplate.Proofs.Outcome
import TreeTemplate.Proofs.Table
import TreeTemplate.Proofs.Template.Directive

namespace TreeTemplate

/-! ## 1. Bindings -/

/-- The style binding writes `style`, or nothing. -/
theorem bindStyle_eq {binding : Text} {c : Value} {attrs bound : Table Text}
    (h : bindStyle binding c attrs = .ok bound) :
    bound = attrs ∨ ∃ value, bound = attrs.put styleName value := by
  obtain ⟨properties, _, rfl⟩ := exists_of_map_eq_ok h
  dsimp only
  split
  · exact .inl rfl
  · exact .inr ⟨_, rfl⟩

theorem bindPairs_names {c : Value} {pairs : List (Text × Text)} {attrs bound : Table Text}
    (h : bindPairs c pairs attrs = .ok bound) (hDistinct : attrs.names.Nodup) :
    bound.names.Nodup
      ∧ ∀ name, name ∈ bound.names ↔ name ∈ attrs.names ∨ name ∈ pairs.map Prod.fst := by
  induction pairs generalizing attrs with
  | nil =>
    cases h
    exact ⟨hDistinct, by simp⟩
  | cons pair rest ih =>
    unfold bindPairs at h
    split at h
    · next found _ =>
      obtain ⟨hNodup, hNames⟩ := ih h (Table.nodup_names_put hDistinct _ _)
      refine ⟨hNodup, fun name => ?_⟩
      rw [hNames, Table.mem_names_put, List.map_cons, List.mem_cons, or_assoc]
    · cases h

/-- The other binding writes the names of all its pairs. -/
theorem bindAttrs_names {binding : Text} {c : Value} {attrs bound : Table Text}
    (h : bindAttrs binding c attrs = .ok bound) (hDistinct : attrs.names.Nodup) :
    bound.names.Nodup ∧ ∀ name, name ∈ bound.names ↔
      name ∈ attrs.names ∨ name ∈ (pairsOf binding).map Prod.fst :=
  bindPairs_names h hDistinct

/-! ## 2. Rows of directives -/

/-- The attributes of an element before directives have acted on it, and
after, if it has stayed. -/
inductive Rewrites : List Directive → Table Text → Table Text → Prop where
  | nil (attrs : Table Text) : Rewrites [] attrs attrs
  | plain {directive : Directive} {rest : List Directive} {attrs final : Table Text} :
    directive.kind ≠ .style → directive.kind ≠ .attr →
    Rewrites rest (attrs.erase directive.name) final → Rewrites (directive :: rest) attrs final
  | style {directive : Directive} {rest : List Directive} {attrs bound final : Table Text}
    {c : Value} : directive.kind = .style →
    bindStyle directive.value c (attrs.erase directive.name) = .ok bound →
    Rewrites rest bound final → Rewrites (directive :: rest) attrs final
  | attr {directive : Directive} {rest : List Directive} {attrs bound final : Table Text}
    {c : Value} : directive.kind = .attr →
    bindAttrs directive.value c (attrs.erase directive.name) = .ok bound →
    Rewrites rest bound final → Rewrites (directive :: rest) attrs final

/-- The names of an element on which directives have acted: those it had,
without the names of the directives; `style`, if a style binding wrote it;
and the names in the pairs of an attribute binding. -/
def NamesAfter (directives : List Directive) (before after : List Text) : Prop :=
  ∃ styled : Bool, (styled = true → ∃ d ∈ directives, d.kind = .style) ∧
    ∀ name, name ∈ after ↔ (name ∈ before ∧ ∀ d ∈ directives, d.name ≠ name)
      ∨ (styled = true ∧ name = styleName)
      ∨ ∃ d ∈ directives, d.kind = .attr ∧ name ∈ (pairsOf d.value).map Prod.fst

/-- A directive that writes nothing, before others. -/
theorem NamesAfter.plain {directive : Directive} {rest : List Directive} {attrs : Table Text}
    {after : List Text} (hKind : directive.kind ≠ .attr)
    (h : NamesAfter rest (attrs.erase directive.name).names after) :
    NamesAfter (directive :: rest) attrs.names after := by
  obtain ⟨styled, hStyled, hNames⟩ := h
  refine ⟨styled, fun hIs => ?_, fun name => ?_⟩
  · obtain ⟨d, hMem, hd⟩ := hStyled hIs
    exact ⟨d, List.mem_cons_of_mem _ hMem, hd⟩
  · rw [hNames, Table.mem_names_erase, List.forall_mem_cons, and_assoc]
    simp only [List.mem_cons, exists_eq_or_imp, hKind, false_and, false_or, ne_comm]

/-- A style binding that writes, before others. -/
theorem NamesAfter.style {directive : Directive} {rest : List Directive} {attrs : Table Text}
    {value : Text} {after : List Text} (hKind : directive.kind = .style)
    (hKept : ∀ d ∈ rest, d.name ≠ styleName)
    (h : NamesAfter rest ((attrs.erase directive.name).put styleName value).names after) :
    NamesAfter (directive :: rest) attrs.names after := by
  obtain ⟨styled, hStyled, hNames⟩ := h
  have hNotAttr : directive.kind ≠ .attr := by rw [hKind]; decide
  refine ⟨true, fun _ => ⟨directive, List.mem_cons_self, hKind⟩, fun name => ?_⟩
  rw [hNames, Table.mem_names_put, Table.mem_names_erase, List.forall_mem_cons]
  simp only [List.mem_cons, exists_eq_or_imp, hNotAttr, false_and, false_or, true_and]
  constructor
  · rintro (⟨⟨hMem, hNe⟩ | rfl, hRest⟩ | ⟨_, rfl⟩ | hPairs)
    · exact .inl ⟨hMem, hNe.symm, hRest⟩
    · exact .inr (.inl rfl)
    · exact .inr (.inl rfl)
    · exact .inr (.inr hPairs)
  · rintro (⟨hMem, hNe, hRest⟩ | rfl | hPairs)
    · exact .inl ⟨.inl ⟨hMem, hNe.symm⟩, hRest⟩
    · exact .inl ⟨.inr rfl, hKept⟩
    · exact .inr (.inr hPairs)

/-- An attribute binding, after which nothing acts. -/
theorem NamesAfter.attr {directive : Directive} {attrs : Table Text} {after : List Text}
    (hKind : directive.kind = .attr)
    (h : ∀ name, name ∈ after ↔ name ∈ (attrs.erase directive.name).names
      ∨ name ∈ (pairsOf directive.value).map Prod.fst) :
    NamesAfter [directive] attrs.names after := by
  refine ⟨false, by simp, fun name => ?_⟩
  rw [h, Table.mem_names_erase]
  simp [hKind, ne_comm]

/-- The names after a row of directives. -/
theorem Rewrites.names {directives : List Directive} {attrs final : Table Text}
    (h : Rewrites directives attrs final) (hOrdered : Ordered directives)
    (hDistinct : attrs.names.Nodup) :
    final.names.Nodup ∧ NamesAfter directives attrs.names final.names := by
  induction h with
  | nil attrs => exact ⟨hDistinct, false, by simp, by simp⟩
  | plain hStyle hAttr _ ih =>
    obtain ⟨hNodup, hNames⟩ := ih hOrdered.tail (Table.nodup_names_erase hDistinct _)
    exact ⟨hNodup, hNames.plain hAttr⟩
  | style hKind hBound _ ih =>
    rcases bindStyle_eq hBound with rfl | ⟨value, rfl⟩
    · obtain ⟨hNodup, hNames⟩ := ih hOrdered.tail (Table.nodup_names_erase hDistinct _)
      exact ⟨hNodup, hNames.plain (by rw [hKind]; decide)⟩
    · obtain ⟨hNodup, hNames⟩ := ih hOrdered.tail
        (Table.nodup_names_put (Table.nodup_names_erase hDistinct _) _ _)
      exact ⟨hNodup, hNames.style hKind (hOrdered.ne_styleName hKind)⟩
  | attr hKind hBound hRest _ =>
    cases hOrdered.eq_nil hKind
    cases hRest
    obtain ⟨hNodup, hNames⟩ := bindAttrs_names hBound (Table.nodup_names_erase hDistinct _)
    exact ⟨hNodup, .attr hKind hNames⟩

/-! ## 3. Elements -/

/-- Whether an element comes from another one: it has the same tag, and the
names of its attributes are those that the directives of the other leave and
write. -/
structure Derives (openings : List Text) (original node : Node) : Prop where
  element : original.isElement = true
  tag : node.tag = original.tag
  distinct : node.attrs.names.Nodup
  names : NamesAfter (directivesOf openings original) original.attrs.names node.attrs.names

end TreeTemplate
