/-
TreeTemplate.Proofs.Value.Shape — what of a value its texts do not decide.

The shape of a value is the value with all code points of its texts made the
same: their number is left of them. Names of entries belong to the shape,
also where a loop makes texts of them. What a path finds, whether that counts
as true and what a loop goes over are decided by the shape.

* `Value.shape`, `SameShape` — the shape, and values of one shape.
* `sameShape_str_iff`, `sameShape_list_iff`, `sameShape_dict_iff` — which
  values those are.
* `resolve_shape` — a path finds in the shape the shape of what it finds.
* `outcomes_loopContexts`, `holds_eq`, … — the parts of rendering that read
  data, on values of one shape.
-/
import TreeTemplate.Proofs.Outcome
import TreeTemplate.Proofs.Table
import TreeTemplate.Template.Binding
import TreeTemplate.Template.Placeholder
import Mathlib.Data.List.Forall2

namespace TreeTemplate

/-! ## 1. Shapes -/

/-- A text of the same length in which all code points are the same. -/
def Text.shape (t : Text) : Text := t.map fun _ => .scalar '*'

namespace Value

mutual

/-- The value with its texts made into their shapes. -/
def shape : Value → Value
  | .str t => .str t.shape
  | .list items => .list (shapes items)
  | .dict entries => .dict (entryShapes entries)
  | v => v

/-- The shapes of values. -/
def shapes : List Value → List Value
  | [] => []
  | v :: rest => shape v :: shapes rest

/-- The shapes of entries, under their names. -/
def entryShapes : List (Text × Value) → List (Text × Value)
  | [] => []
  | (name, v) :: rest => (name, shape v) :: entryShapes rest

end

theorem shapes_eq (items : List Value) : shapes items = items.map shape := by
  induction items with
  | nil => rfl
  | cons v rest ih => rw [shapes, ih, List.map_cons]

theorem entryShapes_eq (entries : List (Text × Value)) :
    entryShapes entries = entries.map fun entry => (entry.1, entry.2.shape) := by
  induction entries with
  | nil => rfl
  | cons entry rest ih => rw [entryShapes, ih, List.map_cons]

theorem shape_shape_str (t : Text) : (Value.str t).shape.shape = (Value.str t).shape := by
  simp [shape, Text.shape]

mutual

/-- A shape is its own shape. -/
theorem shape_shape : (v : Value) → v.shape.shape = v.shape
  | .str t => shape_shape_str t
  | .list items => congrArg Value.list (shapes_shapes items)
  | .dict entries => congrArg Value.dict (entryShapes_entryShapes entries)
  | .null => rfl
  | .bool _ => rfl
  | .int _ => rfl
  | .float _ => rfl

theorem shapes_shapes : (items : List Value) → shapes (shapes items) = shapes items
  | [] => rfl
  | v :: rest => congrArg₂ List.cons (shape_shape v) (shapes_shapes rest)

theorem entryShapes_entryShapes :
    (entries : List (Text × Value)) → entryShapes (entryShapes entries) = entryShapes entries
  | [] => rfl
  | (name, v) :: rest =>
    congrArg₂ List.cons (congrArg (Prod.mk name) (shape_shape v)) (entryShapes_entryShapes rest)

end

end Value

/-- Values that differ in the code points of their texts at most. -/
def SameShape (v w : Value) : Prop := v.shape = w.shape

theorem map_shape_eq_iff {items others : List Value} :
    items.map Value.shape = others.map Value.shape ↔ List.Forall₂ SameShape items others := by
  rw [← List.forall₂_eq_eq_eq, List.forall₂_map_left_iff, List.forall₂_map_right_iff]
  rfl

/-- Texts of one shape are equally long. -/
theorem sameShape_str_iff {s t : Text} : SameShape (.str s) (.str t) ↔ s.length = t.length := by
  simp [SameShape, Value.shape, Text.shape, List.map_const', List.replicate_inj]

/-- Lists of one shape have items of one shape, place by place. -/
theorem sameShape_list_iff {items others : List Value} :
    SameShape (.list items) (.list others) ↔ List.Forall₂ SameShape items others := by
  rw [SameShape, Value.shape, Value.shape, Value.list.injEq, Value.shapes_eq, Value.shapes_eq,
    map_shape_eq_iff]

/-- Dictionaries of one shape have the same names in the same order, with
values of one shape. -/
theorem sameShape_dict_iff {entries others : List (Text × Value)} :
    SameShape (.dict entries) (.dict others) ↔
      List.Forall₂ (fun entry other => entry.1 = other.1 ∧ SameShape entry.2 other.2)
        entries others := by
  rw [SameShape, Value.shape, Value.shape, Value.dict.injEq, Value.entryShapes_eq,
    Value.entryShapes_eq, ← List.forall₂_eq_eq_eq, List.forall₂_map_left_iff,
    List.forall₂_map_right_iff]
  simp only [Prod.mk.injEq, SameShape]

/-- The shape of what is found. -/
def Found.shape (found : Found) : Found := found.map Value.shape

/-! ## 2. Paths -/

/-- A segment finds in shapes the shape of what it finds. -/
theorem memberOf_shapes (items : List Value) (segment : Text) :
    memberOf (items.map Value.shape) segment = (memberOf items segment).map Found.shape := by
  unfold memberOf
  split
  · rw [List.length_map]
    rfl
  · split
    · cases indexOf segment with
      | error e => rfl
      | ok n =>
        show Except.ok (items.map Value.shape)[n]? = Except.ok (Found.shape items[n]?)
        rw [List.getElem?_map]
        rfl
    · rfl

theorem lookup_shape (v : Value) (segment : Text) :
    v.shape.lookup segment = (v.lookup segment).map Found.shape := by
  cases v with
  | str t =>
    have hItems : t.shape.map (fun c => Value.str [c])
        = (t.map fun c => Value.str [c]).map Value.shape := by
      rw [Text.shape, List.map_map, List.map_map]
      rfl
    rw [Value.shape, Value.lookup, hItems, memberOf_shapes]
    rfl
  | list items =>
    rw [Value.shape, Value.shapes_eq]
    exact memberOf_shapes items segment
  | dict entries =>
    rw [Value.shape, Value.entryShapes_eq, Value.lookup, Table.get?_map]
    rfl
  | _ => rfl

theorem follow_shape (found : Found) (segments : List Text) :
    found.shape.follow segments = (found.follow segments).map Found.shape := by
  induction segments generalizing found with
  | nil => rfl
  | cons segment rest ih =>
    have hStep : found.shape.step segment = (found.step segment).map Found.shape := by
      cases found with
      | none => rfl
      | some v =>
        cases v with
        | null => rfl
        | bool b => rfl
        | int n => rfl
        | float x => rfl
        | str t => exact lookup_shape (.str t) segment
        | list items => exact lookup_shape (.list items) segment
        | dict entries => exact lookup_shape (.dict entries) segment
    rw [Found.follow, Found.follow, hStep]
    cases found.step segment with
    | error e => rfl
    | ok next => exact ih next

/-- A path finds in the shape of a value the shape of what it finds. -/
theorem resolve_shape (v : Value) (path : Text) :
    v.shape.resolve path = (v.resolve path).map Found.shape := by
  show Found.resolve (Found.shape (some v)) path = _
  rw [Value.resolve, Found.resolve, Found.resolve]
  split
  · rfl
  · exact follow_shape (some v) _

theorem outcomes_of_map_eq {ε α β : Type} {f : α → β} {x y : Except ε α} (h : x.map f = y.map f) :
    Outcomes (fun a b => f a = f b) x y := by
  cases x with
  | error e =>
    cases y with
    | error e' => cases h; exact .error e
    | ok b => cases h
  | ok a =>
    cases y with
    | error e' => cases h
    | ok b => exact .ok (Except.ok.inj h)

/-- What a path finds in values of one shape. -/
theorem outcomes_resolve {v w : Value} (h : SameShape v w) (path : Text) :
    Outcomes (fun found found' => found.shape = found'.shape) (v.resolve path)
      (w.resolve path) :=
  outcomes_of_map_eq (by rw [← resolve_shape, ← resolve_shape, h])

theorem isTruthy_shape (found : Found) : found.shape.isTruthy = found.isTruthy := by
  cases found with
  | none => rfl
  | some v =>
    cases v with
    | str t => cases t <;> rfl
    | _ => rfl

theorem isMissing_shape (found : Found) : found.shape.isMissing = found.isMissing := by
  cases found with
  | none => rfl
  | some v => cases v <;> rfl

theorem kind_shape (found : Found) : found.shape.kind = found.kind := by
  cases found with
  | none => rfl
  | some v => cases v <;> rfl

/-! ## 3. What rendering reads -/

section

variable {v w : Value}

/-- A condition holds of both values or of neither. -/
theorem holds_eq (h : SameShape v w) (condition : Condition) :
    condition.holds v = condition.holds w := by
  unfold Condition.holds
  refine Outcomes.casesOn (outcomes_resolve h condition.path) ?_ ?_
  · intro found found' hShape
    simp only [Except.map]
    rw [← isTruthy_shape, hShape, isTruthy_shape]
  · intro e
    rfl

theorem decisionFor_eq (h : SameShape v w) (tag expression : Text) :
    decisionFor tag expression v = decisionFor tag expression w := by
  rw [decisionFor, decisionFor, holds_eq h]

/-- The paths of a style binding find values for the same properties. -/
theorem outcomes_foundProperties (h : SameShape v w) (pairs : List (Text × Text)) :
    Outcomes (fun ps qs => ps.map Prod.fst = qs.map Prod.fst) (foundProperties v pairs)
      (foundProperties w pairs) := by
  induction pairs with
  | nil => exact .ok rfl
  | cons pair rest ih =>
    obtain ⟨name, path⟩ := pair
    unfold foundProperties
    refine Outcomes.casesOn (outcomes_resolve h path) ?_ ?_
    · intro found found' hShape
      refine ih.map fun ps qs hNames => ?_
      rw [← isMissing_shape, hShape, isMissing_shape]
      split
      · exact hNames
      · exact congrArg (propertyName name :: ·) hNames
    · intro e
      exact .error e

/-- The style binding writes the same names. -/
theorem outcomes_bindStyle (h : SameShape v w) (binding : Text) {a b : Table Text}
    (hNames : a.names = b.names) :
    Outcomes (fun a b => a.names = b.names) (bindStyle binding v a) (bindStyle binding w b) := by
  refine (outcomes_foundProperties h (pairsOf binding)).map fun ps qs hProperties => ?_
  have hNil : ps = [] ↔ qs = [] := by
    rw [← List.map_eq_nil_iff, hProperties, List.map_eq_nil_iff]
  by_cases hEmpty : ps = []
  · rw [if_pos hEmpty, if_pos (hNil.1 hEmpty)]
    exact hNames
  · rw [if_neg hEmpty, if_neg (mt hNil.2 hEmpty)]
    exact Table.names_put_congr hNames _ _ _

/-- The other binding writes the same names. -/
theorem outcomes_bindPairs (h : SameShape v w) (pairs : List (Text × Text)) {a b : Table Text}
    (hNames : a.names = b.names) :
    Outcomes (fun a b => a.names = b.names) (bindPairs v pairs a) (bindPairs w pairs b) := by
  induction pairs generalizing a b with
  | nil => exact .ok hNames
  | cons pair rest ih =>
    obtain ⟨name, path⟩ := pair
    unfold bindPairs
    refine Outcomes.casesOn (outcomes_resolve h path) ?_ ?_
    · intro found found' _
      exact ih (Table.names_put_congr hNames _ _ _)
    · intro e
      exact .error e

/-- A placeholder has a text for both values or for neither. -/
theorem outcomes_placeholderText (h : SameShape v w) (content : Text) :
    Outcomes (fun _ _ => True) (placeholderText content v) (placeholderText content w) := by
  have hValue : Outcomes (fun _ _ => True) (placeholderValue content.trim v)
      (placeholderValue content.trim w) := by
    unfold placeholderValue
    split
    · cases v <;> cases w <;> exact .ok trivial
    · refine Outcomes.casesOn (outcomes_resolve h content.trim) ?_ ?_
      · intro found found' _
        exact .ok trivial
      · intro e
        exact .error e
  exact hValue.map fun _ _ _ => trivial

end

/-! ## 4. Loops -/

theorem entryShapes_put (table : Table Value) (name : Text) (v : Value) :
    Value.entryShapes (table.put name v) = Table.put (Value.entryShapes table) name v.shape := by
  rw [Value.entryShapes_eq, Value.entryShapes_eq]
  unfold Table.put
  rw [Table.has_map]
  split
  · rw [List.map_map, List.map_map]
    refine List.map_congr_left fun entry _ => ?_
    by_cases hName : entry.1 = name <;> simp [hName]
  · simp

theorem ownEntries_shape (item : Value) :
    Value.entryShapes (ownEntries item.shape) = Value.entryShapes (ownEntries item) := by
  cases item with
  | dict entries => exact Value.entryShapes_entryShapes entries
  | str t => exact congrArg (fun v => [(valueName, v)]) (Value.shape_shape_str t)
  | list items =>
    exact congrArg (fun vs => [(valueName, Value.list vs)]) (Value.shapes_shapes items)
  | _ => rfl

theorem itemContext_shape (item : Value) (index total : Int) :
    (itemContext item.shape index total).shape = (itemContext item index total).shape := by
  simp only [itemContext, Value.shape, entryShapes_put, ownEntries_shape]

theorem entryContext_shape (key : Text) (item : Value) (index : Int) :
    (entryContext key item.shape index).shape = (entryContext key item index).shape := by
  simp only [entryContext, Value.shape, entryShapes_put, ownEntries_shape]

theorem itemContexts_shapes (total index : Int) (items : List Value) :
    (itemContexts total index (items.map Value.shape)).map Value.shape
      = (itemContexts total index items).map Value.shape := by
  induction items generalizing index with
  | nil => rfl
  | cons item rest ih =>
    simp only [List.map_cons, itemContexts, itemContext_shape, ih]

theorem entryContexts_shapes (index : Int) (entries : List (Text × Value)) :
    (entryContexts index (entries.map fun entry => (entry.1, entry.2.shape))).map Value.shape
      = (entryContexts index entries).map Value.shape := by
  induction entries generalizing index with
  | nil => rfl
  | cons entry rest ih =>
    simp only [List.map_cons, entryContexts, entryContext_shape, ih]

/-- A loop over the shape of what is found goes over as many contexts, of the
same shapes. -/
theorem contextsOf?_shape (found : Found) :
    (contextsOf? found.shape).map (List.map Value.shape)
      = (contextsOf? found).map (List.map Value.shape) := by
  cases found with
  | none => rfl
  | some v =>
    cases v with
    | list items =>
      show some _ = some _
      rw [Value.shapes_eq, itemContexts_shapes, List.length_map]
    | dict entries =>
      show some _ = some _
      rw [Value.entryShapes_eq, entryContexts_shapes]
    | _ => rfl

/-- The contexts of a loop over values of one shape. -/
theorem outcomes_loopContexts {v w : Value} (h : SameShape v w) (expression : Text) :
    Outcomes (List.Forall₂ SameShape) (loopContexts expression v)
      (loopContexts expression w) := by
  unfold loopContexts
  dsimp only
  refine Outcomes.casesOn (outcomes_resolve h expression.trim) ?_ ?_
  · intro found found' hShape
    have hContexts : (contextsOf? found).map (List.map Value.shape)
        = (contextsOf? found').map (List.map Value.shape) := by
      rw [← contextsOf?_shape, hShape, contextsOf?_shape]
    have hKind : found.kind = found'.kind := by rw [← kind_shape, hShape, kind_shape]
    dsimp only
    rw [hKind]
    generalize contextsOf? found = cs at hContexts ⊢
    generalize contextsOf? found' = ds at hContexts ⊢
    cases cs with
    | none =>
      cases ds with
      | none => exact .error _
      | some ds => cases hContexts
    | some cs =>
      cases ds with
      | none => cases hContexts
      | some ds =>
        exact .ok (map_shape_eq_iff.1 (Option.some.inj hContexts))
  · intro e
    exact .error _

end TreeTemplate
