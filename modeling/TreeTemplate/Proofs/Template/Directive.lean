/-
TreeTemplate.Proofs.Template.Directive — the directives of an element.

* `DirectiveKind.eq_of_spelling` — spellings of different kinds differ.
* `directiveOf?_eq` — what the directive of a kind is.
* `mem_directivesAmong` — it is among the directives of the element.
* `directivesAmong_eq_nil`, `directivesAmong_eq` — elements without
  directives, and without an inclusion.
* `Ordered` — directives in the order in which they act.
* `ordered_directivesAmong` — those of an element are in that order.
-/
import TreeTemplate.Proofs.Table
import TreeTemplate.Template.Render
import Mathlib.Data.List.Pairwise

namespace TreeTemplate

/-! ## 1. One directive -/

/-- A spelling belongs to one kind only, whatever the openings. -/
theorem DirectiveKind.eq_of_spelling {opening opening' : Text} {kind kind' : DirectiveKind}
    (h : opening ++ kind.word = opening' ++ kind'.word) : kind = kind' := by
  -- The last two letters tell the kind.
  have hLast (opening : Text) (kind : DirectiveKind) :
      (opening ++ kind.word).reverse.take 2 = kind.word.reverse.take 2 := by
    rw [List.reverse_append, List.take_append_of_le_length (by cases kind <;> decide)]
  have hWords : ∀ kind kind' : DirectiveKind,
      kind.word.reverse.take 2 = kind'.word.reverse.take 2 → kind = kind' := by
    intro kind kind'
    cases kind <;> cases kind' <;> decide
  exact hWords kind kind' (by rw [← hLast opening kind, h, hLast])

/-- The directive of a kind is spelled as its word after an opening. -/
theorem directiveOf?_eq {openings : List Text} {attrs : Table Text} {kind : DirectiveKind}
    {directive : Directive} (h : directiveOf? openings attrs kind = some directive) :
    directive.kind = kind ∧ ∃ opening ∈ openings, directive.name = opening ++ kind.word := by
  obtain ⟨opening, hOpening, hFound⟩ := List.exists_of_findSome?_eq_some h
  obtain ⟨value, _, rfl⟩ := Option.map_eq_some_iff.1 hFound
  exact ⟨rfl, opening, hOpening, rfl⟩

/-- The directive of a kind is one of the directives of the element. -/
theorem mem_directivesAmong {openings : List Text} {attrs : Table Text} {kind : DirectiveKind}
    {directive : Directive} (h : directiveOf? openings attrs kind = some directive) :
    directive ∈ directivesAmong openings attrs :=
  List.mem_filterMap.2 ⟨kind, by cases kind <;> decide, h⟩

/-- There is no directive of a kind if its word stands after no opening. -/
theorem directiveOf?_eq_none_iff {openings : List Text} {attrs : Table Text}
    {kind : DirectiveKind} : directiveOf? openings attrs kind = none
      ↔ ∀ opening ∈ openings, attrs.has (opening ++ kind.word) = false := by
  simp [directiveOf?, List.findSome?_eq_none_iff, Table.get?_eq_none_iff]

/-- An element without directives. -/
theorem directivesAmong_eq_nil {openings : List Text} {attrs : Table Text}
    (h : ∀ opening ∈ openings, ∀ kind : DirectiveKind, attrs.has (opening ++ kind.word) = false) :
    directivesAmong openings attrs = [] :=
  List.filterMap_eq_nil_iff.2 fun kind _ =>
    directiveOf?_eq_none_iff.2 fun opening hOpening => h opening hOpening kind

/-- The directives of an element without an inclusion, kind by kind. -/
theorem directivesAmong_eq {openings : List Text} {attrs : Table Text}
    (h : directiveOf? openings attrs .inclusion = none) :
    directivesAmong openings attrs =
      (directiveOf? openings attrs .condition).toList ++
        ((directiveOf? openings attrs .loop).toList ++
          ((directiveOf? openings attrs .style).toList ++
            ((directiveOf? openings attrs .attr).toList ++ []))) := by
  have hCons (kind : DirectiveKind) (kinds : List DirectiveKind) :
      (kind :: kinds).filterMap (directiveOf? openings attrs)
        = (directiveOf? openings attrs kind).toList
          ++ kinds.filterMap (directiveOf? openings attrs) := by
    cases hKind : directiveOf? openings attrs kind <;> simp [hKind]
  simp only [directivesAmong, DirectiveKind.all, hCons, h, List.filterMap_nil, Option.toList_none,
    List.nil_append]

/-! ## 2. Order -/

/-- The place of a kind among the kinds. -/
def DirectiveKind.rank : DirectiveKind → Nat
  | inclusion => 0
  | condition => 1
  | loop => 2
  | style => 3
  | attr => 4

/-- Directives in the order in which they act, the last of which is not
spelled `style`. -/
structure Ordered (directives : List Directive) : Prop where
  order : directives.Pairwise fun first second => first.kind.rank < second.kind.rank
  spelled : ∀ directive ∈ directives, directive.kind = .attr → directive.name ≠ styleName

theorem Ordered.tail {directive : Directive} {rest : List Directive}
    (h : Ordered (directive :: rest)) : Ordered rest :=
  ⟨(List.pairwise_cons.1 h.order).2, fun d hd => h.spelled d (List.mem_cons_of_mem _ hd)⟩

/-- After a style binding the name `style` is not taken away. -/
theorem Ordered.ne_styleName {directive : Directive} {rest : List Directive}
    (h : Ordered (directive :: rest)) (hKind : directive.kind = .style) :
    ∀ d ∈ rest, d.name ≠ styleName := by
  intro d hd
  have hRank := (List.pairwise_cons.1 h.order).1 d hd
  refine h.spelled d (List.mem_cons_of_mem _ hd) ?_
  rw [hKind] at hRank
  cases hd' : d.kind <;> rw [hd'] at hRank <;> simp [DirectiveKind.rank] at hRank ⊢

/-- Nothing acts after an attribute binding. -/
theorem Ordered.eq_nil {directive : Directive} {rest : List Directive}
    (h : Ordered (directive :: rest)) (hKind : directive.kind = .attr) : rest = [] := by
  cases rest with
  | nil => rfl
  | cons d rest =>
    have hRank := (List.pairwise_cons.1 h.order).1 d List.mem_cons_self
    rw [hKind] at hRank
    cases hd : d.kind <;> rw [hd] at hRank <;> simp [DirectiveKind.rank] at hRank

/-- The directives of an element come in the order in which they act. -/
theorem ordered_directivesAmong (openings : List Text) (attrs : Table Text) :
    Ordered (directivesAmong openings attrs) where
  order := by
    have hKinds : DirectiveKind.all.Pairwise fun first second => first.rank < second.rank := by
      decide
    refine List.pairwise_filterMap.2 (hKinds.imp fun {first second} hRank d hd d' hd' => ?_)
    rw [(directiveOf?_eq hd).1, (directiveOf?_eq hd').1]
    exact hRank
  spelled := by
    intro directive hMem hKind hName
    obtain ⟨kind, _, hFound⟩ := List.mem_filterMap.1 hMem
    obtain ⟨rfl, opening, _, hSpelled⟩ := directiveOf?_eq hFound
    rw [hName, hKind] at hSpelled
    have hWords : ([] : Text) ++ DirectiveKind.style.word = opening ++ DirectiveKind.attr.word :=
      hSpelled
    cases DirectiveKind.eq_of_spelling hWords

end TreeTemplate
