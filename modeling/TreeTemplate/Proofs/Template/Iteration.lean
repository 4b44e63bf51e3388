/-
TreeTemplate.Proofs.Template.Iteration — what the contexts of a loop hold
(`ContextBuilder`, specification §4.3).

The context of an item is made of the entries that the item brings, and over
them those that the loop gives. So under any name that the loop does not give,
a path in the context goes where it goes from the item; and the item is there
outside of the loop as well, under its index or its key behind the path of the
loop. A name that the loop gives hides an entry of the item.

* `Table.Overrides` — a table with other entries written over it.
* `IsContext` — the context of an item, by its entries.
* `getElem?_itemContexts`, `getElem?_entryContexts` — the contexts in order.
* `StandsFor` — paths in a context and their meaning outside of it.
* `loopContexts_standFor` — the main statement.
-/
import TreeTemplate.Proofs.Table
import TreeTemplate.Proofs.Value.Path
import TreeTemplate.Template.Loop

namespace TreeTemplate

/-! ## 1. Entries over others -/

namespace Table

variable {α : Type} {own given result : Table α}

/-- What comes of a table when other entries are written over it: each takes
the place of its name, or comes last if the name is new. -/
structure Overrides (own given result : Table α) : Prop where
  names : result.names = own.names ++ given.names.filter fun name => !own.has name
  values : ∀ name, result.get? name = (given.get? name).or (own.get? name)

theorem overrides_nil (own : Table α) : Overrides own [] own :=
  ⟨(List.append_nil _).symm, fun _ => rfl⟩

/-- One more entry, of a name that was not written yet. -/
theorem Overrides.put (h : Overrides own given result) {name : Text}
    (hNew : given.has name = false) (value : α) :
    Overrides own (given ++ [(name, value)]) (result.put name value) where
  names := by
    have hHas : result.has name = own.has name := by
      have hGiven : name ∉ given.names := by
        rw [← has_eq_true_iff, hNew]
        exact Bool.false_ne_true
      rw [Bool.eq_iff_iff, has_eq_true_iff, has_eq_true_iff, h.names, List.mem_append]
      exact or_iff_left fun hMem => hGiven (List.mem_of_mem_filter hMem)
    have hNames : Table.names (given ++ [(name, value)]) = given.names ++ [name] := by
      simp [Table.names]
    rw [names_put, hHas, hNames, h.names]
    cases hOwn : own.has name <;> simp [hOwn]
  values other := by
    rw [get?_put, get?_append, get?, get?]
    split
    · next hName => rw [← hName, get?_eq_none_iff.2 hNew, Option.none_or, Option.some_or]
    · rw [h.values other, Option.or_none]

end Table

/-! ## 2. The contexts of a loop -/

/-- What a loop over a list gives in the context of an item. -/
def itemGiven (index total : Int) : Table Value :=
  [(indexName, .int index), (firstName, .bool (index = 0)), (lastName, .bool (index = total - 1))]

/-- What a loop over a dictionary gives in the context of an entry. -/
def entryGiven (key : Text) (index : Int) : Table Value :=
  [(keyName, .str key), (indexName, .int index)]

/-- Whether a context holds what an item brings, and over it what is given. -/
def IsContext (item : Value) (given : Table Value) (c : Value) : Prop :=
  ∃ entries, c = .dict entries ∧ Table.Overrides (ownEntries item) given entries

theorem isContext_itemContext (item : Value) (index total : Int) :
    IsContext item (itemGiven index total) (itemContext item index total) :=
  ⟨_, rfl, (((Table.overrides_nil _).put rfl _).put rfl _).put rfl _⟩

theorem isContext_entryContext (key : Text) (item : Value) (index : Int) :
    IsContext item (entryGiven key index) (entryContext key item index) :=
  ⟨_, rfl, ((Table.overrides_nil _).put rfl _).put rfl _⟩

theorem itemContexts_eq (total first : Int) (items : List Value) :
    itemContexts total first items
      = items.mapIdx fun i item => itemContext item (first + i) total := by
  induction items generalizing first with
  | nil => rfl
  | cons item rest ih =>
    rw [itemContexts, ih, List.mapIdx_cons]
    simp [Int.add_assoc, Int.add_comm 1]

theorem entryContexts_eq (first : Int) (entries : List (Text × Value)) :
    entryContexts first entries
      = entries.mapIdx fun i entry => entryContext entry.1 entry.2 (first + i) := by
  induction entries generalizing first with
  | nil => rfl
  | cons entry rest ih =>
    rw [entryContexts, ih, List.mapIdx_cons]
    simp [Int.add_assoc, Int.add_comm 1]

/-- The contexts of the items, in order. -/
theorem getElem?_itemContexts {items : List Value} {i : Nat} {item : Value}
    (h : items[i]? = some item) :
    (itemContexts items.length 0 items)[i]? = some (itemContext item i items.length) := by
  rw [itemContexts_eq, List.getElem?_mapIdx, h, Option.map_some, Int.zero_add]

/-- The contexts of the entries, in order. -/
theorem getElem?_entryContexts {entries : List (Text × Value)} {i : Nat} {key : Text}
    {item : Value} (h : entries[i]? = some (key, item)) :
    (entryContexts 0 entries)[i]? = some (entryContext key item i) := by
  rw [entryContexts_eq, List.getElem?_mapIdx, h, Option.map_some, Int.zero_add]

/-! ## 3. Paths in a context -/

/-- A path behind another goes on from what the other finds. -/
theorem resolve_behind {v : Value} {outer : Text} {found : Found} (hOuter : outer ≠ [])
    (h : v.resolve outer = .ok found) (path : Text) :
    v.resolve (outer ++ .scalar '.' :: path) = found.follow (path.splitOn (.scalar '.')) := by
  rw [Value.resolve] at h ⊢
  rw [Found.resolve_behind hOuter, h]

/-- What the paths in the context `c` of an item mean outside, where the item is
found by the path `outer`. A dictionary has its entries in the context, but for
those whose names are given by the loop; any other item is there as a whole. -/
def StandsFor (data : Value) (outer : Text) (item : Value) (given : List Text) (c : Value) : Prop :=
  match item with
  | .dict _ => ∀ path : Text, path ≠ [] →
      (∀ name ∈ given, (path.splitOn (.scalar '.')).head? ≠ some name) →
      c.resolve path = data.resolve (outer ++ .scalar '.' :: path)
  | _ => c.resolve valueName = data.resolve outer ∧ ∀ path : Text, path ≠ [] →
      c.resolve (valueName ++ .scalar '.' :: path) = data.resolve (outer ++ .scalar '.' :: path)

variable {data item c : Value} {given : Table Value} {outer : Text}

/-- Under a name that is not given the context has what the item brings. -/
theorem IsContext.step_eq (h : IsContext item given c) {name : Text}
    (hName : name ∉ given.names) :
    Found.step (some c) name = .ok (Table.get? (ownEntries item) name) := by
  obtain ⟨entries, rfl, hOver⟩ := h
  have hGiven : given.get? name = none := by
    rw [Table.get?_eq_none_iff, ← Bool.not_eq_true, Table.has_eq_true_iff]
    exact hName
  show Except.ok (Table.get? entries name) = _
  rw [hOver.values, hGiven, Option.none_or]

/-- An item that is no dictionary is in its context as a whole. -/
theorem IsContext.resolve_valueName (h : IsContext item given c)
    (hDict : ∀ entries, item ≠ .dict entries) (hValue : valueName ∉ given.names) :
    c.resolve valueName = .ok (some item) := by
  have hOwn : ownEntries item = [(valueName, item)] := by
    cases item with
    | dict entries => exact absurd rfl (hDict entries)
    | _ => rfl
  have hSegments : segmentsOf valueName = [valueName] := by decide
  rw [resolve_eq_follow, hSegments, Found.follow, h.step_eq hValue, hOwn]
  rfl

theorem IsContext.standsFor (h : IsContext item given c) (hValue : valueName ∉ given.names)
    (hOuter : outer ≠ []) (hItem : data.resolve outer = .ok (some item)) :
    StandsFor data outer item given.names c := by
  have hWhole (hDict : ∀ entries, item ≠ .dict entries) :
      c.resolve valueName = data.resolve outer ∧ ∀ path : Text, path ≠ [] →
        c.resolve (valueName ++ .scalar '.' :: path)
          = data.resolve (outer ++ .scalar '.' :: path) := by
    have hHere := h.resolve_valueName hDict hValue
    refine ⟨hHere.trans hItem.symm, fun path _ => ?_⟩
    rw [resolve_behind (by decide) hHere, resolve_behind hOuter hItem]
  cases item with
  | dict entries =>
    intro path hPath hFirst
    rw [resolve_behind hOuter hItem, resolve_eq_follow, segmentsOf, if_neg hPath]
    cases hSegments : path.splitOn (.scalar '.') with
    | nil => exact absurd hSegments (Text.splitOn_ne_nil _ _)
    | cons first rest =>
      have hName : first ∉ given.names := fun hMem => hFirst first hMem (by rw [hSegments]; rfl)
      rw [Found.follow, Found.follow, h.step_eq hName]
      rfl
  | _ => exact hWhole fun _ hDict => by cases hDict

/-! ## 4. Loops -/

theorem loopContexts_eq {source : Text} (hTrimmed : source.trim = source) {found : Found}
    {contexts : List Value} (hFound : data.resolve source = .ok found)
    (hContexts : contextsOf? found = some contexts) : loopContexts source data = .ok contexts := by
  simp only [loopContexts, hTrimmed, hFound, hContexts]

/-- A path in the context of a loop means the path outside of it that goes on
behind the loop's own path with the index or the key of the item. That path is
not empty, for a dot at the beginning would ask for an entry without a name, and
is trimmed, as loops take their paths trimmed and others do not; a key with a
dot in it is no segment of a path. The bound on
the index holds in any memory: no list has so many items that an index of it
takes more digits than are read. -/
theorem loopContexts_standFor {data : Value} {source : Text} (hSource : source ≠ [])
    (hTrimmed : source.trim = source) :
    (∀ items, data.resolve source = .ok (some (.list items)) →
      ∃ contexts, loopContexts source data = .ok contexts ∧ contexts.length = items.length ∧
        ∀ i item, items[i]? = some item → i < 10 ^ Json.maxDigits →
          ∃ c, contexts[i]? = some c ∧
            StandsFor data (source ++ .scalar '.' :: Text.ofNat i) item
              [indexName, firstName, lastName] c) ∧
    (∀ entries : List (Text × Value), data.resolve source = .ok (some (.dict entries)) →
      (Table.names entries).Nodup →
      ∃ contexts, loopContexts source data = .ok contexts ∧ contexts.length = entries.length ∧
        ∀ (i : Nat) key item, entries[i]? = some (key, item) → .scalar '.' ∉ key →
          ∃ c, contexts[i]? = some c ∧
            StandsFor data (source ++ .scalar '.' :: key) item [keyName, indexName] c) := by
  constructor
  · intro items hFound
    refine ⟨_, loopContexts_eq hTrimmed hFound rfl, by rw [itemContexts_eq, List.length_mapIdx], ?_⟩
    intro i item hItem hIndex
    refine ⟨_, getElem?_itemContexts hItem, ?_⟩
    have hSpells := spells_ofNat hIndex
    have hOuter : data.resolve (source ++ .scalar '.' :: Text.ofNat i) = .ok (some item) := by
      rw [resolve_behind hSource hFound, Text.splitOn_eq_singleton hSpells.point_notMem,
        Found.follow, step_eq_ok_iff.2 (.index rfl hSpells), hItem]
      rfl
    have hValue : valueName ∉ [indexName, firstName, lastName] := by decide
    exact (isContext_itemContext item _ _).standsFor hValue (by simp) hOuter
  · intro entries hFound hNodup
    refine ⟨_, loopContexts_eq hTrimmed hFound rfl, by rw [entryContexts_eq, List.length_mapIdx],
      ?_⟩
    intro i key item hEntry hKey
    refine ⟨_, getElem?_entryContexts hEntry, ?_⟩
    have hOuter : data.resolve (source ++ .scalar '.' :: key) = .ok (some item) := by
      rw [resolve_behind hSource hFound, Text.splitOn_eq_singleton hKey, Found.follow,
        step_eq_ok_iff.2 (.entry entries key),
        (Table.get?_eq_some_iff hNodup).2 (List.mem_of_getElem? hEntry)]
      rfl
    have hValue : valueName ∉ [keyName, indexName] := by decide
    exact (isContext_entryContext key item _).standsFor hValue (by simp) hOuter

/-- An entry that is hidden by the index, an item that is null, and a value
under the empty key. -/
theorem loopContexts_standFor_hidden :
    let row : Value := .dict [("a", .int 1), ("_index", .int 7)]
    let items : List Value := [row, .null]
    let entries : List (Text × Value) := [("", .list [.int 5]), ("k", row)]
    let data : Value := .dict [("xs", .list items), ("m", .dict entries)]
    data.resolve "xs" = .ok (some (.list items)) ∧ data.resolve "m" = .ok (some (.dict entries))
      ∧ (Table.names entries).Nodup
      ∧ (∃ contexts c, loopContexts "xs" data = .ok contexts ∧ contexts[0]? = some c
        ∧ c.resolve "a" = data.resolve "xs.0.a")
      ∧ (itemContext row 0 2).resolve "_index" ≠ data.resolve "xs.0._index"
      ∧ (∃ contexts c, loopContexts "m" data = .ok contexts ∧ contexts[0]? = some c
        ∧ c.resolve "_value" = data.resolve "m." ∧ c.resolve "_value.0" = data.resolve "m..0") := by
  intro row items entries data
  have hItems : data.resolve "xs" = .ok (some (.list items)) := by decide +kernel
  have hEntries : data.resolve "m" = .ok (some (.dict entries)) := by decide +kernel
  have hNodup : (Table.names entries).Nodup := by decide
  have hPath : ("xs.0.a" : Text)
      = ("xs" : Text) ++ .scalar '.' :: Text.ofNat 0 ++ .scalar '.' :: ("a" : Text) := by
    decide +kernel
  obtain ⟨hList, -⟩ := @loopContexts_standFor data "xs" (by decide) (by decide)
  obtain ⟨-, hDict⟩ := @loopContexts_standFor data "m" (by decide) (by decide)
  obtain ⟨contexts, hContexts, -, hAll⟩ := hList items hItems
  obtain ⟨c, hc, hStands⟩ := hAll 0 row rfl (Nat.pow_pos (by decide))
  obtain ⟨contexts', hContexts', -, hAll'⟩ := hDict entries hEntries hNodup
  obtain ⟨c', hc', hWhole, hBehind⟩ := hAll' 0 "" _ rfl (by decide)
  refine ⟨hItems, hEntries, hNodup, ⟨contexts, c, hContexts, hc, ?_⟩, by decide +kernel,
    ⟨contexts', c', hContexts', hc', hWhole, hBehind "0" (by decide)⟩⟩
  rw [hPath]
  exact hStands "a" (by decide) (by decide)

end TreeTemplate
