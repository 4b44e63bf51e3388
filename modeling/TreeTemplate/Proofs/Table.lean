/-
TreeTemplate.Proofs.Table — the names and entries of tables.

* `Table.mem_names_put`, `Table.mem_names_erase` — the names after an entry
  is written, or those of a name are taken away; they stay distinct.
* `Table.names_put_congr`, `Table.names_erase_congr` — the same for tables
  of the same names.
* `Table.firstOfEach_of_step` — what is kept while the first entry of each
  name is collected; `Table.firstOfEach_cons` says what comes of it.
* `Table.get?_eq_none_iff`, `Table.get?_map` — the value of a name, also in
  tables with other values; `Table.get?_put` — after an entry is written.
* `Table.mem_put`, `Table.mem_erase`, `Table.get?_eq_some_iff` — the entries
  after writing and taking away, and where the names are distinct.
* `Table.putAll_of_step` — what is kept while several entries are written;
  `Table.names_ofList`, `Table.get?_ofList` — a table made of entries has each
  name at its first place with its last value.
-/
import TreeTemplate.Table
import Mathlib.Data.List.Basic
import Mathlib.Data.List.Induction

namespace TreeTemplate

namespace Table

variable {α : Type}

/-! ## 1. Names -/

theorem mem_names_erase {table : Table α} {name other : Text} :
    other ∈ (table.erase name).names ↔ other ∈ table.names ∧ other ≠ name := by
  simp only [names, erase, List.mem_map, List.mem_filter]
  constructor
  · rintro ⟨entry, ⟨hMem, hNe⟩, rfl⟩
    exact ⟨⟨entry, hMem, rfl⟩, by simpa using hNe⟩
  · rintro ⟨⟨entry, hMem, rfl⟩, hNe⟩
    exact ⟨entry, ⟨hMem, by simpa using hNe⟩, rfl⟩

theorem nodup_names_erase {table : Table α} (h : table.names.Nodup) (name : Text) :
    (table.erase name).names.Nodup :=
  h.sublist (List.filter_sublist.map Prod.fst)

theorem names_erase_congr {a b : Table α} (h : a.names = b.names) (name : Text) :
    (a.erase name).names = (b.erase name).names := by
  have hErase (a : Table α) : (a.erase name).names = a.names.filter fun key => key ≠ name := by
    rw [erase, names, names, List.filter_map]
    rfl
  rw [hErase, hErase, h]

theorem mem_names_put {table : Table α} {name other : Text} {value : α} :
    other ∈ (table.put name value).names ↔ other ∈ table.names ∨ other = name := by
  rw [names_put]
  split
  · next hHas =>
    rw [has_eq_true_iff] at hHas
    exact ⟨.inl, fun h => h.elim id fun e => e ▸ hHas⟩
  · simp

/-- A new name at the end leaves the names distinct. -/
theorem nodup_names_append {table : Table α} (h : table.names.Nodup) {entry : Text × α}
    (hNew : entry.1 ∉ table.names) : (names (table ++ [entry])).Nodup := by
  rw [names, List.map_append, List.map_cons, List.map_nil]
  refine List.nodup_append.2 ⟨h, by simp, fun name hName last hLast => ?_⟩
  rw [List.mem_singleton.1 hLast]
  exact fun e => hNew (e ▸ hName)

theorem nodup_names_put {table : Table α} (h : table.names.Nodup) (name : Text) (value : α) :
    (table.put name value).names.Nodup := by
  by_cases hHas : table.has name = true
  · rw [names_put, if_pos hHas]
    exact h
  · rw [put, if_neg hHas]
    rw [has_eq_true_iff] at hHas
    exact nodup_names_append h hHas

theorem names_put_congr {a b : Table α} (h : a.names = b.names) (name : Text) (value value' : α) :
    (a.put name value).names = (b.put name value').names := by
  have hHas : a.has name = b.has name := by
    rw [Bool.eq_iff_iff, has_eq_true_iff, has_eq_true_iff, h]
  rw [names_put, names_put, hHas, h]

/-! ## 2. The first entry of each name -/

/-- What holds of the empty table, and is kept when an entry of a new name
is added, holds of the table of the first entries. -/
theorem firstOfEach_of_step {entries : List (Text × α)} {p : Table α → Prop} (hNil : p [])
    (hStep : ∀ table, p table → ∀ entry ∈ entries, entry.1 ∉ table.names → p (table ++ [entry])) :
    p (firstOfEach entries) := by
  have hFold (rest : List (Text × α)) (hRest : ∀ entry ∈ rest, entry ∈ entries) (table : Table α)
      (hTable : p table) : p (rest.foldl
        (fun table entry => if table.has entry.1 then table else table ++ [entry]) table) := by
    induction rest generalizing table with
    | nil => exact hTable
    | cons entry rest ih =>
      obtain ⟨hEntry, hRest⟩ := List.forall_mem_cons.1 hRest
      rw [List.foldl_cons]
      refine ih hRest _ ?_
      split
      · exact hTable
      · next hNew =>
        rw [has_eq_true_iff] at hNew
        exact hStep table hTable entry hEntry hNew
  exact hFold entries (fun _ hEntry => hEntry) [] hNil

theorem nodup_firstOfEach (entries : List (Text × α)) : (firstOfEach entries).names.Nodup :=
  firstOfEach_of_step (p := fun table => table.names.Nodup) List.nodup_nil
    fun _ hTable _ _ hNew => nodup_names_append hTable hNew

theorem mem_firstOfEach {entries : List (Text × α)} :
    ∀ entry ∈ firstOfEach entries, entry ∈ entries := by
  refine firstOfEach_of_step (p := fun table => ∀ entry ∈ table, entry ∈ entries)
    (List.forall_mem_nil _) ?_
  intro table hTable entry hEntry _ other hOther
  rcases List.mem_append.1 hOther with hOther | hOther
  · exact hTable other hOther
  · rw [List.mem_singleton.1 hOther]
    exact hEntry

/-- The entries of different names are all kept. -/
theorem firstOfEach_eq_self {entries : List (Text × α)} (h : (names entries).Nodup) :
    firstOfEach entries = entries := by
  have hFold (table : Table α) (hBoth : (names (table ++ entries)).Nodup) :
      entries.foldl (fun table entry => if table.has entry.1 then table else table ++ [entry])
        table = table ++ entries := by
    induction entries generalizing table with
    | nil => exact (List.append_nil table).symm
    | cons entry entries ih =>
      have hNew : ¬ table.has entry.1 = true := by
        rw [has_eq_true_iff]
        rw [names, List.map_append, List.map_cons] at hBoth
        exact fun hMem => (List.nodup_append.1 hBoth).2.2 _ hMem _ List.mem_cons_self rfl
      have hStep : table ++ entry :: entries = table ++ [entry] ++ entries := by simp
      rw [List.foldl_cons, if_neg hNew, hStep]
      rw [hStep] at hBoth
      exact ih (List.nodup_cons.1 h).2 _ hBoth
  exact hFold [] h

/-- Collecting goes on with the entries whose names are not there yet. -/
theorem foldl_firstOfEach (entries : List (Text × α)) (table : Table α) :
    entries.foldl (fun table entry => if table.has entry.1 then table else table ++ [entry]) table
      = table ++ (firstOfEach entries).filter fun entry => !table.has entry.1 := by
  induction entries generalizing table with
  | nil => simp [firstOfEach]
  | cons entry rest ih =>
    have hFirst : firstOfEach (entry :: rest)
        = entry :: (firstOfEach rest).filter fun other => !has [entry] other.1 := ih [entry]
    rw [List.foldl_cons, hFirst]
    by_cases hHas : table.has entry.1 = true
    · rw [if_pos hHas, ih, List.filter_cons_of_neg (by simpa using hHas), List.filter_filter]
      congr 1
      refine List.filter_congr fun other _ => ?_
      -- A name that the table does not have is not the name of the entry.
      by_cases hOther : other.1 = entry.1
      · simp [hOther, hHas]
      · simp [has, Ne.symm hOther]
    · rw [if_neg hHas, ih, List.filter_cons_of_pos (by simpa using hHas), List.filter_filter]
      simp [has, Bool.and_comm]

/-- The first entry comes first, and no other of its name is left. -/
theorem firstOfEach_cons (entry : Text × α) (rest : List (Text × α)) :
    firstOfEach (entry :: rest) = entry :: (firstOfEach rest).erase entry.1 := by
  have hRest := foldl_firstOfEach rest [entry]
  refine hRest.trans ?_
  simp [has, erase, eq_comm]

/-- Choosing by names and taking the first of each name go together. -/
theorem firstOfEach_filter (p : Text → Bool) (entries : List (Text × α)) :
    (firstOfEach entries).filter (fun entry => p entry.1) =
      firstOfEach (entries.filter fun entry => p entry.1) := by
  induction entries with
  | nil => rfl
  | cons entry rest ih =>
    rw [firstOfEach_cons, List.filter_cons, List.filter_cons]
    split
    · rw [firstOfEach_cons, ← ih, erase, erase, List.filter_filter, List.filter_filter]
      simp only [Bool.and_comm]
    · next hNot =>
      rw [← ih, erase, List.filter_filter]
      refine List.filter_congr fun other _ => ?_
      -- A name that is chosen is not the one that is left out.
      have hNe : p other.1 = true → other.1 ≠ entry.1 := fun hp e => hNot (e ▸ hp)
      cases hp : p other.1 with
      | false => rfl
      | true => simp [hNe hp]

/-! ## 3. Values -/

theorem get?_eq_none_iff {table : Table α} {name : Text} :
    table.get? name = none ↔ table.has name = false := by
  induction table with
  | nil => simp [get?, has]
  | cons entry rest ih =>
    obtain ⟨key, value⟩ := entry
    by_cases h : key = name
    · simp [get?, has, h]
    · simpa [get?, has, h] using ih

/-- Of two tables one after the other the first counts. -/
theorem get?_append (a b : Table α) (name : Text) :
    get? (a ++ b) name = (a.get? name).or (b.get? name) := by
  induction a with
  | nil => rfl
  | cons entry rest ih =>
    rw [List.cons_append, get?, get?]
    split
    · rfl
    · exact ih

/-- What is kept of a name is all that counts for it. -/
theorem get?_filter {table : Table α} {kept : Text × α → Bool} {name : Text}
    (h : ∀ entry ∈ table, entry.1 = name → kept entry = true) :
    get? (table.filter kept) name = table.get? name := by
  induction table with
  | nil => rfl
  | cons entry rest ih =>
    obtain ⟨hEntry, hRest⟩ := List.forall_mem_cons.1 h
    by_cases hKept : kept entry = true
    · rw [List.filter_cons_of_pos hKept, get?, get?, ih hRest]
    · rw [List.filter_cons_of_neg hKept, get?, if_neg fun hName => hKept (hEntry hName), ih hRest]

theorem get?_erase {table : Table α} {name other : Text} (h : name ≠ other) :
    (table.erase other).get? name = table.get? name :=
  get?_filter fun _ _ hName => decide_eq_true (hName ▸ h)

/-- A written value stands under its name, and all else as before. -/
theorem get?_put (table : Table α) (name other : Text) (value : α) :
    (table.put name value).get? other = if name = other then some value else table.get? other := by
  have hOthers (entries : Table α) :
      get? (entries.map fun entry => if entry.1 = name then (entry.1, value) else entry) other
        = if name = other then (get? entries other).map fun _ => value else get? entries other := by
    induction entries with
    | nil => simp [get?]
    | cons entry rest ih =>
      obtain ⟨key, old⟩ := entry
      by_cases hOther : key = other
      · subst hOther
        by_cases hKey : key = name
        · simp [get?, hKey]
        · simp [get?, hKey, Ne.symm hKey]
      · by_cases hKey : key = name
        · subst hKey
          simp [get?, hOther, ih]
        · simp [get?, hKey, hOther, ih]
  unfold put
  split
  · next hHas =>
    rw [hOthers]
    split
    · next hName =>
      cases hGet : table.get? other with
      | some old => rfl
      | none =>
        rw [get?_eq_none_iff, ← hName, hHas] at hGet
        cases hGet
    · rfl
  · next hHas =>
    rw [get?_append, get?, get?]
    split
    · next hName =>
      rw [get?_eq_none_iff.2 (by rw [← hName]; simpa using hHas), Option.none_or]
    · rw [Option.or_none]

/-- What stands under a name is its first entry. -/
theorem get?_firstOfEach (entries : List (Text × α)) (name : Text) :
    (firstOfEach entries).get? name = get? entries name := by
  induction entries with
  | nil => rfl
  | cons entry rest ih =>
    rw [firstOfEach_cons, get?, get?]
    split
    · rfl
    · next hName => rw [get?_erase (Ne.symm hName), ih]

theorem get?_map {β : Type} (table : Table α) (f : α → β) (name : Text) :
    get? (table.map fun entry => (entry.1, f entry.2)) name = (table.get? name).map f := by
  induction table with
  | nil => rfl
  | cons entry rest ih =>
    obtain ⟨key, value⟩ := entry
    rw [List.map_cons, get?, get?]
    split
    · rfl
    · exact ih

theorem has_map {β : Type} (table : Table α) (f : α → β) (name : Text) :
    has (table.map fun entry => (entry.1, f entry.2)) name = table.has name := by
  rw [has, has, List.any_map]
  rfl

/-! ## 4. Entries -/

theorem mem_of_get? {table : Table α} {name : Text} {value : α}
    (h : table.get? name = some value) : (name, value) ∈ table := by
  induction table with
  | nil => cases h
  | cons entry rest ih =>
    obtain ⟨key, other⟩ := entry
    rw [get?] at h
    split at h
    · next hKey =>
      subst hKey
      cases h
      exact List.mem_cons_self
    · exact List.mem_cons_of_mem _ (ih h)

/-- Where the names are distinct, a value stands under a name if the entry is there. -/
theorem get?_eq_some_iff {table : Table α} (hNodup : table.names.Nodup) {name : Text} {value : α} :
    table.get? name = some value ↔ (name, value) ∈ table := by
  refine ⟨mem_of_get?, fun hMem => ?_⟩
  induction table with
  | nil => cases hMem
  | cons entry rest ih =>
    obtain ⟨key, other⟩ := entry
    obtain ⟨hKey, hRest⟩ := List.nodup_cons.1 hNodup
    rw [get?]
    rcases List.mem_cons.1 hMem with hEntry | hMem
    · cases hEntry
      rw [if_pos rfl]
    · have hNe : key ≠ name := by
        rintro rfl
        exact hKey (List.mem_map.2 ⟨_, hMem, rfl⟩)
      rw [if_neg hNe]
      exact ih hRest hMem

theorem not_mem_of_has_eq_false {table : Table α} {name : Text} (h : table.has name = false)
    {entry : Text × α} (hMem : entry ∈ table) : entry.1 ≠ name := by
  rintro rfl
  have hHas : table.has entry.1 = true := has_eq_true_iff.2 (List.mem_map.2 ⟨entry, hMem, rfl⟩)
  rw [h] at hHas
  cases hHas

theorem mem_erase {table : Table α} {name : Text} {entry : Text × α} :
    entry ∈ table.erase name ↔ entry ∈ table ∧ entry.1 ≠ name := by
  simp [erase]

theorem mem_put {table : Table α} {name : Text} {value : α} {entry : Text × α} :
    entry ∈ table.put name value ↔ entry = (name, value) ∨ entry ∈ table ∧ entry.1 ≠ name := by
  unfold put
  split
  · next hHas =>
    obtain ⟨old, hOld, rfl⟩ := List.mem_map.1 (has_eq_true_iff.1 hHas)
    simp only [List.mem_map]
    constructor
    · rintro ⟨other, hOther, rfl⟩
      by_cases h : other.1 = old.1
      · simp [h]
      · simp [h, hOther]
    · rintro (rfl | ⟨hMem, hNe⟩)
      · exact ⟨old, hOld, by simp⟩
      · exact ⟨entry, hMem, by simp [hNe]⟩
  · next hHas =>
    have hNe : entry ∈ table → entry.1 ≠ name :=
      not_mem_of_has_eq_false (by simpa using hHas)
    simp only [List.mem_append, List.mem_singleton]
    tauto

/-- Writing under a name again takes the place of what was written. -/
theorem put_put (table : Table α) (name : Text) (value value' : α) :
    (table.put name value).put name value' = table.put name value' := by
  have hHas : (table.put name value).has name = true :=
    has_eq_true_iff.2 (mem_names_put.2 (.inr rfl))
  rw [put, if_pos hHas, put, put]
  split
  · rw [List.map_map]
    refine List.map_congr_left fun entry _ => ?_
    by_cases h : entry.1 = name <;> simp [h]
  · next hNew =>
    have hSame : (table.map fun entry => if entry.1 = name then (entry.1, value') else entry) =
        table := by
      refine (List.map_congr_left fun entry hEntry => ?_).trans (List.map_id _)
      exact if_neg (not_mem_of_has_eq_false (by simpa using hNew) hEntry)
    rw [List.map_append, hSame]
    simp

/-- Writing under a name that is not chosen changes nothing among the chosen. -/
theorem filter_put {p : Text → Bool} {name : Text} (h : p name = false) (table : Table α)
    (value : α) :
    (table.put name value).filter (fun entry => p entry.1) =
      table.filter fun entry => p entry.1 := by
  rw [put]
  split
  · rw [List.filter_map]
    have hNames : ((fun entry : Text × α => p entry.1) ∘
        fun entry => if entry.1 = name then (entry.1, value) else entry) =
          fun entry => p entry.1 := by
      funext entry
      by_cases hName : entry.1 = name <;> simp [hName]
    rw [hNames]
    refine (List.map_congr_left fun entry hEntry => ?_).trans (List.map_id _)
    have hChosen := (List.mem_filter.1 hEntry).2
    exact if_neg fun hName => by simp [hName, h] at hChosen
  · rw [List.filter_append, List.filter_cons_of_neg (by simp [h]), List.filter_nil,
      List.append_nil]

theorem length_put (table : Table α) (name : Text) (value : α) :
    (table.put name value).length = if table.has name then table.length else table.length + 1 := by
  unfold put
  split <;> simp

theorem erase_eq_self {table : Table α} {name : Text} (h : table.has name = false) :
    table.erase name = table :=
  List.filter_eq_self.2 fun _ hEntry => by simpa using not_mem_of_has_eq_false h hEntry

/-- Writing changes nothing under other names. -/
theorem erase_put (table : Table α) (name : Text) (value : α) :
    (table.put name value).erase name = table.erase name := by
  unfold put
  split
  · rw [erase, List.filter_map, erase]
    have hKeys : ((fun entry : Text × α => decide (entry.1 ≠ name)) ∘
        fun entry : Text × α => if entry.1 = name then (entry.1, value) else entry)
          = fun entry => decide (entry.1 ≠ name) := by
      funext entry
      by_cases h : entry.1 = name <;> simp [h]
    rw [hKeys]
    refine (List.map_congr_left fun entry hEntry => ?_).trans (List.map_id _)
    have hNe : entry.1 ≠ name := by simpa using (List.mem_filter.1 hEntry).2
    simp [hNe]
  · simp [erase]

/-- Of distinct names one is taken away. -/
theorem length_erase {table : Table α} (hNodup : table.names.Nodup) {entry : Text × α}
    (hMem : entry ∈ table) : (table.erase entry.1).length + 1 = table.length := by
  induction table with
  | nil => cases hMem
  | cons first rest ih =>
    obtain ⟨hFirst, hRest⟩ := List.nodup_cons.1 hNodup
    rw [erase]
    rcases List.mem_cons.1 hMem with rfl | hMem
    · have hHas : has rest entry.1 = false := by
        rw [← Bool.not_eq_true, has_eq_true_iff]
        exact hFirst
      rw [List.filter_cons_of_neg (by simp), List.length_cons]
      exact congrArg (·.length + 1) (erase_eq_self hHas)
    · have hNe : first.1 ≠ entry.1 := fun e =>
        hFirst (List.mem_map.2 ⟨entry, hMem, e.symm⟩)
      rw [List.filter_cons_of_pos (by simpa using hNe), List.length_cons, List.length_cons]
      exact congrArg (· + 1) (ih hRest hMem)

/-! ## 5. Several entries, one after another -/

/-- The table with entries written into it, one after another. -/
def putAll (table : Table α) (entries : List (Text × α)) : Table α :=
  entries.foldl (fun table entry => table.put entry.1 entry.2) table

theorem ofList_eq (entries : List (Text × α)) : ofList entries = putAll [] entries := rfl

theorem putAll_cons (table : Table α) (entry : Text × α) (entries : List (Text × α)) :
    table.putAll (entry :: entries) = (table.put entry.1 entry.2).putAll entries := rfl

theorem putAll_append (table : Table α) (entries others : List (Text × α)) :
    table.putAll (entries ++ others) = (table.putAll entries).putAll others :=
  List.foldl_append

/-- What writing one of the entries keeps, writing them all keeps. -/
theorem putAll_of_step {entries : List (Text × α)} {p : Table α → Prop} {table : Table α}
    (hTable : p table)
    (hStep : ∀ table, p table → ∀ entry ∈ entries, p (table.put entry.1 entry.2)) :
    p (table.putAll entries) := by
  induction entries generalizing table with
  | nil => exact hTable
  | cons entry entries ih =>
    exact ih (hStep table hTable entry List.mem_cons_self) fun table hTable other hOther =>
      hStep table hTable other (List.mem_cons_of_mem _ hOther)

theorem nodup_names_putAll {table : Table α} (h : table.names.Nodup)
    (entries : List (Text × α)) : (table.putAll entries).names.Nodup :=
  putAll_of_step (p := fun table => table.names.Nodup) h
    fun _ hTable entry _ => nodup_names_put hTable entry.1 entry.2

/-- The names that were there stay in their places, at the beginning. -/
theorem names_prefix_putAll (table : Table α) (entries : List (Text × α)) :
    table.names <+: (table.putAll entries).names := by
  refine putAll_of_step (p := fun other => table.names <+: other.names) (List.prefix_refl _)
    fun other hOther entry _ => hOther.trans ?_
  rw [names_put]
  split
  · exact List.prefix_refl _
  · exact List.prefix_append ..

theorem mem_putAll {table : Table α} {entries : List (Text × α)} :
    ∀ entry ∈ table.putAll entries, entry ∈ table ∨ entry ∈ entries := by
  refine putAll_of_step (p := fun other => ∀ entry ∈ other, entry ∈ table ∨ entry ∈ entries)
    (fun entry hEntry => .inl hEntry) fun other hOther written hWritten entry hEntry => ?_
  rcases mem_put.1 hEntry with rfl | ⟨hOld, _⟩
  · exact .inr hWritten
  · exact hOther entry hOld

theorem mem_names_putAll {table : Table α} {entries : List (Text × α)} {name : Text} :
    name ∈ (table.putAll entries).names ↔ name ∈ table.names ∨ name ∈ names entries := by
  induction entries generalizing table with
  | nil => simp [names, putAll]
  | cons entry entries ih =>
    rw [putAll_cons, ih, mem_names_put, or_assoc]
    simp only [names, List.map_cons, List.mem_cons]

/-- The last entry written under a name decides. -/
theorem get?_putAll (table : Table α) (entries : List (Text × α)) (name : Text) :
    (table.putAll entries).get? name = (get? (ofList entries) name).or (table.get? name) := by
  induction entries generalizing table with
  | nil => rfl
  | cons entry entries ih =>
    rw [ofList_eq, putAll_cons, putAll_cons, ih, ih (put [] entry.1 entry.2), get?_put,
      get?_put, Option.or_assoc]
    congr 1
    split <;> rfl

/-- An entry of another name stays in its place. -/
theorem getElem?_put_of_ne {table : Table α} {name : Text} {entry : Text × α} {place : Nat}
    (h : table[place]? = some entry) (hNe : entry.1 ≠ name) (value : α) :
    (table.put name value)[place]? = some entry := by
  rw [put]
  split
  · rw [List.getElem?_map, h, Option.map_some, if_neg hNe]
  · exact List.getElem?_append_left (List.getElem?_eq_some_iff.1 h).1 ▸ h

theorem getElem?_putAll_of_not_mem {table : Table α} {entries : List (Text × α)}
    {entry : Text × α} {place : Nat} (h : table[place]? = some entry)
    (hNew : entry.1 ∉ names entries) : (table.putAll entries)[place]? = some entry :=
  putAll_of_step (p := fun table => table[place]? = some entry) h
    fun _ hTable written hWritten => getElem?_put_of_ne hTable
      (fun hName => hNew (List.mem_map.2 ⟨written, hWritten, hName.symm⟩)) _

/-- Of entries of one name, the last decides. -/
theorem putAll_of_name (table : Table α) {name : Text} {first : Text × α}
    {rest : List (Text × α)} (h : ∀ entry ∈ first :: rest, entry.1 = name) :
    table.putAll (first :: rest) = table.put name (rest.getLastD first).2 := by
  induction rest generalizing table first with
  | nil => rw [putAll_cons, h first List.mem_cons_self]; rfl
  | cons second rest ih =>
    have hFirst : first.1 = name := h first List.mem_cons_self
    rw [putAll_cons, ih _ fun entry hEntry => h entry (List.mem_cons_of_mem _ hEntry), hFirst,
      put_put, List.getLastD_cons]

/-- Where each entry of a table is written as entries of its own name, the
table has the last value of each. -/
theorem putAll_flatMap {table : Table α} {entries : List (Text × α)}
    {parts : Text × α → List (Text × α)} (hNodup : (names (table ++ entries)).Nodup)
    (hParts : ∀ entry ∈ entries, parts entry ≠ [] ∧ ∀ part ∈ parts entry, part.1 = entry.1) :
    table.putAll (entries.flatMap parts) =
      table ++ entries.map fun entry => (entry.1, ((parts entry).getLastD entry).2) := by
  induction entries generalizing table with
  | nil => exact (List.append_nil table).symm
  | cons entry entries ih =>
    obtain ⟨hNe, hOwn⟩ := hParts entry List.mem_cons_self
    have hNew : table.has entry.1 = false := by
      rw [← Bool.not_eq_true, has_eq_true_iff]
      rw [names, List.map_append, List.map_cons] at hNodup
      exact fun hMem => (List.nodup_append.1 hNodup).2.2 _ hMem _ List.mem_cons_self rfl
    have hWritten : table.putAll (parts entry) =
        table ++ [(entry.1, ((parts entry).getLastD entry).2)] := by
      obtain ⟨first, rest, hCons⟩ := List.exists_cons_of_ne_nil hNe
      rw [hCons] at hOwn ⊢
      rw [putAll_of_name table hOwn, put, hNew, if_neg Bool.false_ne_true, List.getLastD_cons]
    have hNext :
        (names (table ++ [(entry.1, ((parts entry).getLastD entry).2)] ++ entries)).Nodup := by
      rw [List.append_assoc, List.singleton_append]
      simpa [names] using hNodup
    rw [List.flatMap_cons, putAll_append, hWritten,
      ih hNext fun other hOther => hParts other (List.mem_cons_of_mem _ hOther),
      List.append_assoc, List.map_cons, List.singleton_append]

/-! ## 6. Tables of entries -/

theorem nodup_names_ofList (entries : List (Text × α)) : (ofList entries).names.Nodup :=
  nodup_names_putAll (show (names []).Nodup from List.nodup_nil) entries

theorem mem_names_ofList {entries : List (Text × α)} {name : Text} :
    name ∈ (ofList entries).names ↔ name ∈ names entries := by
  rw [ofList_eq, mem_names_putAll]
  simp [names]

theorem mem_of_mem_ofList {entries : List (Text × α)} {entry : Text × α}
    (h : entry ∈ ofList entries) : entry ∈ entries :=
  (mem_putAll entry h).resolve_left List.not_mem_nil

theorem get?_ofList_cons (entry : Text × α) (entries : List (Text × α)) (name : Text) :
    get? (ofList (entry :: entries)) name =
      (get? (ofList entries) name).or (if entry.1 = name then some entry.2 else none) := by
  rw [ofList_eq, putAll_cons, get?_putAll, get?_put]
  rfl

theorem ofList_concat (entries : List (Text × α)) (entry : Text × α) :
    ofList (entries ++ [entry]) = (ofList entries).put entry.1 entry.2 := by
  rw [ofList_eq, putAll_append]
  rfl

/-- Each name stands where it was written first. -/
theorem names_ofList (entries : List (Text × α)) :
    (ofList entries).names = (names entries).eraseDups := by
  induction entries using List.reverseRecOn with
  | nil => rfl
  | append_singleton entries entry ih =>
    have hNames : names (entries ++ [entry]) = names entries ++ [entry.1] := by simp [names]
    have hNew : (ofList entries).has entry.1 = true ↔ entry.1 ∈ names entries := by
      rw [has_eq_true_iff, mem_names_ofList]
    rw [ofList_concat, names_put, ih, hNames, List.eraseDups_append]
    by_cases hMem : entry.1 ∈ names entries
    · simp [hNew, hMem, List.removeAll]
    · simp [hNew, hMem, List.removeAll, List.eraseDups_cons]

/-- Each name has the value that was written last. -/
theorem get?_ofList (entries : List (Text × α)) (name : Text) :
    (ofList entries).get? name = get? entries.reverse name := by
  induction entries with
  | nil => rfl
  | cons entry entries ih =>
    rw [get?_ofList_cons, ih, List.reverse_cons, get?_append]
    rfl

/-- Of the entries that are written the last of each name is there. -/
theorem mem_putAll_iff {table : Table α} (hTable : table.names.Nodup)
    {entries : List (Text × α)} {entry : Text × α} :
    entry ∈ table.putAll entries ↔
      entry ∈ ofList entries ∨ entry ∈ table ∧ entry.1 ∉ names entries := by
  have hValue := get?_putAll table entries entry.1
  rw [← get?_eq_some_iff (nodup_names_putAll hTable entries),
    ← get?_eq_some_iff (nodup_names_ofList entries), ← get?_eq_some_iff hTable, hValue,
    ← mem_names_ofList, ← has_eq_true_iff, Bool.not_eq_true, ← get?_eq_none_iff]
  cases (ofList entries).get? entry.1 <;> simp

/-- An entry that is written takes the first place of the table that begins
with its name. -/
theorem exists_putAll_eq_cons {entries others : List (Text × α)} {entry : Text × α}
    (hEntry : entry ∈ ofList entries) {value : α}
    (hNodup : (names ((entry.1, value) :: others)).Nodup) :
    ∃ rest, putAll ((entry.1, value) :: others) entries = entry :: rest := by
  have hPlaces := names_prefix_putAll ((entry.1, value) :: others) entries
  obtain ⟨first, rest, hWritten⟩ : ∃ first rest,
      putAll ((entry.1, value) :: others) entries = first :: rest := by
    refine List.exists_cons_of_ne_nil fun hNil => ?_
    rw [hNil] at hPlaces
    exact List.cons_ne_nil _ _ (List.prefix_nil.1 hPlaces)
  have hName : first.1 = entry.1 := by
    rw [hWritten] at hPlaces
    exact (List.cons_prefix_cons.1 hPlaces).1.symm
  have hMem : entry ∈ putAll ((entry.1, value) :: others) entries :=
    (mem_putAll_iff hNodup).2 (.inl hEntry)
  have hWhole := nodup_names_putAll hNodup entries
  rw [hWritten] at hMem hWhole
  rcases List.mem_cons.1 hMem with rfl | hRest
  · exact ⟨rest, hWritten⟩
  · exact absurd (List.mem_map.2 ⟨entry, hRest, hName.symm⟩) (List.nodup_cons.1 hWhole).1

end Table

end TreeTemplate
