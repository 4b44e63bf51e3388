/-
TreeTemplate.Proofs.Partial.Chaining — chains inside chains (`ChainLoader`,
specification §15).

However chains of loaders are nested, a request goes over their leaves from
left to right. It stops at the first leaf that does not miss, or at the last
one, and gives what that leaf answers; the leaves behind it are not asked.
A chain that misses passes its miss on, so the chain around it goes on with
the next loader as if the leaves were its own.

* `AskedInTurn` — a request that goes over a row of leaves.
* `AskedInTurn.unique` — it can end in one way only.
* `Loader.Chained` — loaders made of chains and leaves.
* `Chained.load` — one request; `Chained.leaves_afterLoads` — a row of them.
* `load_chained` — the main statement: nested chains are the row of their
  leaves, and chained stores are one store.
-/
import TreeTemplate.Proofs.Partial.CachedStore
import TreeTemplate.Proofs.Table

namespace TreeTemplate

variable {τ ℓ : Type}

/-! ## 1. A row of leaves -/

/-- Whether an answer says no more than that the partial is not there. -/
def IsMiss (answer : Except LoadError Text) : Prop := ∃ e, answer = .error e ∧ e.isMiss = true

/-- How a request goes over leaves: it asks leaves that miss, and then one that
does not miss or has no leaf behind it. The answer of that one is the outcome,
and the leaves behind it are left as they were. -/
def AskedInTurn (kind : LeafKind ℓ) (wanted : Text) (leaves : List ℓ)
    (outcome : Except LoadError Text) (after : List ℓ) : Prop :=
  ∃ missing last behind, leaves = missing ++ last :: behind ∧
    (∀ leaf ∈ missing, IsMiss (kind.load wanted leaf).1) ∧
    outcome = (kind.load wanted last).1 ∧ (IsMiss outcome → behind = []) ∧
    after = missing.map (fun leaf => (kind.load wanted leaf).2)
      ++ (kind.load wanted last).2 :: behind

variable {kind : LeafKind ℓ} {wanted : Text} {leaves leaves' after after' : List ℓ}
  {outcome outcome' : Except LoadError Text}

/-- More leaves behind one that does not miss. -/
theorem AskedInTurn.stop (h : AskedInTurn kind wanted leaves outcome after)
    (hFound : ¬ IsMiss outcome) (more : List ℓ) :
    AskedInTurn kind wanted (leaves ++ more) outcome (after ++ more) := by
  obtain ⟨missing, last, behind, rfl, hMissing, hOutcome, -, rfl⟩ := h
  exact ⟨missing, last, behind ++ more, by simp, hMissing, hOutcome, fun hMiss =>
    absurd hMiss hFound, by simp⟩

/-- More leaves behind those that all miss. -/
theorem AskedInTurn.goOn (h : AskedInTurn kind wanted leaves outcome after)
    (hMiss : IsMiss outcome) (hMore : AskedInTurn kind wanted leaves' outcome' after') :
    AskedInTurn kind wanted (leaves ++ leaves') outcome' (after ++ after') := by
  obtain ⟨missing, last, behind, rfl, hMissing, rfl, hLast, rfl⟩ := h
  obtain rfl := hLast hMiss
  obtain ⟨missing', last', behind', rfl, hMissing', hOutcome, hLast', rfl⟩ := hMore
  refine ⟨missing ++ last :: missing', last', behind', by simp, ?_, hOutcome, hLast', by simp⟩
  exact List.forall_mem_append.2 ⟨hMissing, List.forall_mem_cons.2 ⟨hMiss, hMissing'⟩⟩

/-- Two ways in which a request goes over the same leaves, of which the first
asks no more leaves than the second, are one. -/
theorem AskedInTurn.eq_of_prefix {missing missing' behind behind' : List ℓ} {last last' : ℓ}
    (hLeaves : missing ++ last :: behind = missing' ++ last' :: behind')
    (hMissing' : ∀ leaf ∈ missing', IsMiss (kind.load wanted leaf).1)
    (hLast : IsMiss (kind.load wanted last).1 → behind = []) (hPrefix : missing <+: missing') :
    missing = missing' ∧ last = last' ∧ behind = behind' := by
  obtain ⟨between, rfl⟩ := hPrefix
  rw [List.append_assoc] at hLeaves
  have hRest := List.append_cancel_left hLeaves
  cases between with
  | nil =>
    obtain ⟨hSame, hBehind⟩ := List.cons.inj hRest
    exact ⟨(List.append_nil missing).symm, hSame, hBehind⟩
  | cons leaf between =>
    -- The last leaf of the first way misses in the second, so nothing is behind it.
    obtain ⟨rfl, hBehind⟩ := List.cons.inj hRest
    have hNone := hLast (hMissing' last (List.mem_append_right _ List.mem_cons_self))
    rw [hNone] at hBehind
    simp at hBehind

/-- What a request gives and leaves is settled by the leaves. -/
theorem AskedInTurn.unique (h : AskedInTurn kind wanted leaves outcome after)
    (h' : AskedInTurn kind wanted leaves outcome' after') :
    outcome = outcome' ∧ after = after' := by
  obtain ⟨missing, last, behind, rfl, hMissing, rfl, hLast, rfl⟩ := h
  obtain ⟨missing', last', behind', hLeaves, hMissing', rfl, hLast', rfl⟩ := h'
  have hSame : missing = missing' ∧ last = last' ∧ behind = behind' := by
    rcases List.prefix_or_prefix_of_prefix (List.prefix_append missing (last :: behind))
      (hLeaves ▸ List.prefix_append missing' (last' :: behind')) with hPrefix | hPrefix
    · exact eq_of_prefix hLeaves hMissing' hLast hPrefix
    · obtain ⟨h₁, h₂, h₃⟩ := eq_of_prefix hLeaves.symm hMissing hLast' hPrefix
      exact ⟨h₁.symm, h₂.symm, h₃.symm⟩
  obtain ⟨rfl, rfl, rfl⟩ := hSame
  exact ⟨rfl, rfl⟩

/-! ## 2. Nested chains -/

/-- A loader that is made of chains and leaves. -/
inductive Loader.Chained : Loader τ ℓ → Prop where
  | leaf (leaf : ℓ) : Chained (.leaf leaf)
  | chain {first : Loader τ ℓ} {rest : List (Loader τ ℓ)} :
    Chained first → (∀ loader ∈ rest, Chained loader) → Chained (.chain first rest)

variable [Moment τ] {now : τ} {loader other : Loader τ ℓ}

/-- A loader whose request goes over its leaves, and which stays made of chains. -/
structure Loader.LoadsInTurn (kind : LeafKind ℓ) (now : τ) (wanted : Text) (loader : Loader τ ℓ) :
    Prop where
  chained : (loader.load kind now wanted).2.Chained
  asked : AskedInTurn kind wanted loader.leaves (loader.load kind now wanted).1
    (loader.load kind now wanted).2.leaves

/-- A request to loaders one after another ends at the first of them, or goes
on behind it. -/
theorem Loader.loadFirst_cases (kind : LeafKind ℓ) (now : τ) (wanted : Text) (miss : LoadError)
    (loader : Loader τ ℓ) (rest : List (Loader τ ℓ)) :
    let load := loader.load kind now wanted
    (¬ IsMiss load.1 ∧
      loadFirst kind now wanted miss (loader :: rest) = (load.1, load.2 :: rest)) ∨
    ∃ e, load.1 = .error e ∧ e.isMiss = true ∧
      loadFirst kind now wanted miss (loader :: rest)
        = ((loadFirst kind now wanted e rest).1,
          load.2 :: (loadFirst kind now wanted e rest).2) := by
  rw [loadFirst]
  rcases loader.load kind now wanted with ⟨e | t, next⟩
  · by_cases hMiss : e.isMiss = true
    · refine .inr ⟨e, rfl, hMiss, ?_⟩
      dsimp only
      rw [if_pos hMiss]
    · refine .inl ⟨?_, ?_⟩
      · rintro ⟨_, ⟨⟩, hIs⟩
        exact hMiss hIs
      · dsimp only
        rw [if_neg hMiss]
  · refine .inl ⟨?_, rfl⟩
    rintro ⟨_, ⟨⟩, _⟩

/-- A chain asks its loaders one after another. -/
theorem Loader.load_chain (kind : LeafKind ℓ) (now : τ) (wanted : Text) (miss : LoadError)
    (first : Loader τ ℓ) (rest : List (Loader τ ℓ)) :
    ∃ answer next others,
      loadFirst kind now wanted miss (first :: rest) = (answer, next :: others) ∧
      (chain first rest).load kind now wanted = (answer, chain next others) := by
  rw [loadFirst, load]
  rcases first.load kind now wanted with ⟨e | t, next⟩
  · dsimp only
    split
    · exact ⟨_, _, _, rfl, rfl⟩
    · exact ⟨_, _, _, rfl, rfl⟩
  · exact ⟨_, _, _, rfl, rfl⟩

/-- Loaders one after another go over all their leaves. -/
theorem Loader.loadFirst_inTurn {rest : List (Loader τ ℓ)} (hSome : rest ≠ [])
    (hRest : ∀ loader ∈ rest, loader.Chained ∧ loader.LoadsInTurn kind now wanted)
    (miss : LoadError) :
    let load := loadFirst kind now wanted miss rest
    (∀ loader ∈ load.2, loader.Chained) ∧
      AskedInTurn kind wanted (leavesOfAll rest) load.1 (leavesOfAll load.2) := by
  induction rest generalizing miss with
  | nil => exact absurd rfl hSome
  | cons loader rest ih =>
    obtain ⟨⟨-, hNext, hAsked⟩, hOthers⟩ := List.forall_mem_cons.1 hRest
    have hChained : ∀ loader ∈ rest, loader.Chained := fun loader hLoader =>
      (hOthers loader hLoader).1
    rcases loadFirst_cases kind now wanted miss loader rest with
      ⟨hFound, hLoad⟩ | ⟨e, hAnswer, hMiss, hLoad⟩
    · simp only [hLoad, leavesOfAll]
      exact ⟨List.forall_mem_cons.2 ⟨hNext, hChained⟩, hAsked.stop hFound _⟩
    · simp only [hLoad, leavesOfAll]
      cases rest with
      | nil =>
        rw [hAnswer] at hAsked
        simp only [loadFirst, leavesOfAll, List.append_nil]
        exact ⟨List.forall_mem_cons.2 ⟨hNext, List.forall_mem_nil _⟩, hAsked⟩
      | cons second rest =>
        obtain ⟨hLater, hTurn⟩ := ih (List.cons_ne_nil _ _) hOthers e
        exact ⟨List.forall_mem_cons.2 ⟨hNext, hLater⟩, hAsked.goOn ⟨e, hAnswer, hMiss⟩ hTurn⟩

/-- One request to nested chains. -/
theorem Loader.Chained.load (h : loader.Chained) (kind : LeafKind ℓ) (now : τ) (wanted : Text) :
    loader.LoadsInTurn kind now wanted := by
  induction h with
  | leaf leaf =>
    constructor
    · rw [Loader.load]
      exact .leaf _
    · rw [Loader.load]
      exact ⟨[], leaf, [], rfl, List.forall_mem_nil _, rfl, fun _ => rfl, rfl⟩
  | @chain first rest hFirst hRest ihFirst ihRest =>
    have hAll : ∀ loader ∈ first :: rest, loader.Chained ∧ loader.LoadsInTurn kind now wanted :=
      List.forall_mem_cons.2 ⟨⟨hFirst, ihFirst⟩, fun loader hLoader =>
        ⟨hRest loader hLoader, ihRest loader hLoader⟩⟩
    -- The miss with which a chain begins is never given, for a chain has a loader.
    obtain ⟨answer, next, others, hLoad, hChain⟩ :=
      load_chain kind now wanted .nullByte first rest
    obtain ⟨hLater, hTurn⟩ := loadFirst_inTurn (List.cons_ne_nil _ _) hAll .nullByte
    rw [hLoad] at hLater hTurn
    obtain ⟨hNext, hOthers⟩ := List.forall_mem_cons.1 hLater
    constructor
    · rw [hChain]
      exact .chain hNext hOthers
    · rw [hChain]
      exact hTurn

/-- Requests one after another leave nested chains. -/
theorem Loader.Chained.afterLoads (h : loader.Chained) (kind : LeafKind ℓ)
    (loads : List (τ × Text)) : (loader.afterLoads kind loads).Chained := by
  induction loads generalizing loader with
  | nil => exact h
  | cons load rest ih => exact ih (h.load kind load.1 load.2).chained

/-- What requests leave of the leaves is settled by the leaves. -/
theorem Loader.Chained.leaves_afterLoads (h : loader.Chained) (h' : other.Chained)
    (hLeaves : other.leaves = loader.leaves) (kind : LeafKind ℓ) (loads : List (τ × Text)) :
    (other.afterLoads kind loads).leaves = (loader.afterLoads kind loads).leaves := by
  induction loads generalizing loader other with
  | nil => exact hLeaves
  | cons load rest ih =>
    have hLoad := h.load kind load.1 load.2
    have hLoad' := h'.load kind load.1 load.2
    have hAsked' := hLoad'.asked
    rw [hLeaves] at hAsked'
    exact ih hLoad.chained hLoad'.chained (hAsked'.unique hLoad.asked).2

/-! ## 3. Chained stores -/

/-- The partials of a leaf that is a store. -/
def Leaf.table? : Leaf → Option (Table Text)
  | memory store => some store.partials
  | _ => none

/-- A request changes no table. -/
theorem Leaf.table?_load (wanted : Text) (leaf : Leaf) :
    (Leaf.load wanted leaf).2.table? = leaf.table? := by
  cases leaf <;> rfl

theorem AskedInTurn.tables {leaves after : List Leaf}
    (h : AskedInTurn Leaf.kind wanted leaves outcome after) :
    after.map Leaf.table? = leaves.map Leaf.table? := by
  obtain ⟨missing, last, behind, rfl, -, -, -, rfl⟩ := h
  rw [List.map_append, List.map_append, List.map_map, List.map_cons, List.map_cons]
  exact congrArg₂ (· ++ ·) (List.map_congr_left fun leaf _ => Leaf.table?_load wanted leaf)
    (congrArg (· :: _) (Leaf.table?_load wanted last))

/-- What a store gives is settled by its table. -/
theorem Leaf.load_of_table? {leaf : Leaf} {table : Table Text} (h : leaf.table? = some table)
    (wanted : Text) (requests : List Text) :
    (Leaf.load wanted leaf).1 = (Store.load wanted ⟨table, requests⟩).1 := by
  cases leaf with
  | memory store =>
    cases h
    rfl
  | _ => cases h

theorem Store.isMiss_load_iff (wanted : Text) (store : Store) :
    IsMiss (store.load wanted).1 ↔ store.partials.get? wanted = none := by
  rw [Store.load]
  cases store.partials.get? wanted with
  | none => exact ⟨fun _ => rfl, fun _ => ⟨_, rfl, rfl⟩⟩
  | some t =>
    refine ⟨?_, fun hNone => nomatch hNone⟩
    rintro ⟨_, ⟨⟩, _⟩

theorem Table.get?_flatten_eq_none {tables : List (Table Text)}
    (h : ∀ table ∈ tables, table.get? wanted = none) : get? tables.flatten wanted = none := by
  induction tables with
  | nil => rfl
  | cons table rest ih =>
    obtain ⟨hTable, hRest⟩ := List.forall_mem_cons.1 h
    rw [List.flatten_cons, get?_append, hTable, ih hRest]
    rfl

/-- A request that goes over stores gives what their partials together have. -/
theorem AskedInTurn.stores {leaves after : List Leaf} {tables : List (Table Text)}
    (h : AskedInTurn Leaf.kind wanted leaves outcome after)
    (hTables : leaves.map Leaf.table? = tables.map some) (requests : List Text) :
    outcome = (Store.load wanted ⟨tables.flatten, requests⟩).1 := by
  obtain ⟨missing, last, behind, rfl, hMissing, rfl, hLast, -⟩ := h
  rw [List.map_append, List.map_cons] at hTables
  obtain ⟨before, others, rfl, hBefore, hOthers⟩ := List.append_eq_map_iff.1 hTables
  obtain ⟨table, later, rfl, hTable, hLater⟩ := List.map_eq_cons_iff.1 hOthers
  have hNone : Table.get? before.flatten wanted = none := by
    refine Table.get?_flatten_eq_none fun other hOther => ?_
    obtain ⟨leaf, hLeaf, hSome⟩ := List.mem_map.1 (hBefore ▸ List.mem_map_of_mem hOther)
    have hMiss := hMissing leaf hLeaf
    rw [show Leaf.kind.load wanted leaf = leaf.load wanted from rfl,
      Leaf.load_of_table? hSome wanted [], Store.isMiss_load_iff] at hMiss
    exact hMiss
  have hAnswer : (Leaf.kind.load wanted last).1 = (Store.load wanted ⟨table, requests⟩).1 :=
    Leaf.load_of_table? hTable.symm wanted requests
  rw [hAnswer] at hLast ⊢
  cases hGet : table.get? wanted with
  | some t => simp [Store.load, Table.get?_append, hNone, hGet]
  | none =>
    -- The last leaf misses as well, so there is no other table.
    rw [hLast ((Store.isMiss_load_iff _ _).2 hGet)] at hLater
    obtain rfl := List.map_eq_nil_iff.1 hLater
    simp [Store.load, Table.get?_append, hNone, hGet]

/-- Requests one after another change no table. -/
theorem Loader.Chained.tables_afterLoads {loader : Loader τ Leaf} (h : loader.Chained)
    (loads : List (τ × Text)) :
    (loader.afterLoads Leaf.kind loads).leaves.map Leaf.table?
      = loader.leaves.map Leaf.table? := by
  induction loads generalizing loader with
  | nil => rfl
  | cons load rest ih =>
    have hLoad := h.load Leaf.kind load.1 load.2
    exact (ih hLoad.chained).trans hLoad.asked.tables

/-- The store of all partials of a row of stores. Of those with one name the
leftmost counts. -/
def Store.union (stores : List Store) : Store :=
  ⟨Table.firstOfEach (stores.flatMap Store.partials), []⟩

/-- What nested chains of stores give, whatever was loaded before. -/
theorem Loader.Chained.load_stores {loader : Loader τ Leaf} (h : loader.Chained)
    {stores : List Store} (hStores : loader.leaves = stores.map .memory)
    (earlier : List (τ × Text)) (now : τ) (wanted : Text) (requests : List Text) :
    ((loader.afterLoads Leaf.kind earlier).load Leaf.kind now wanted).1
      = (Store.load wanted ⟨stores.flatMap Store.partials, requests⟩).1 := by
  have hAsked := ((h.afterLoads Leaf.kind earlier).load Leaf.kind now wanted).asked
  have hTables : (loader.afterLoads Leaf.kind earlier).leaves.map Leaf.table?
      = (stores.map Store.partials).map some := by
    rw [h.tables_afterLoads, hStores, List.map_map, List.map_map]
    rfl
  exact hAsked.stores hTables requests

/-! ## 4. Any row of requests -/

/-- Any request in any row of requests to nested chains. Whatever the leaves
answer, the request goes over them from left to right; each keeps what it was
asked and what it answered, so this says as well which of them were asked. In
every other nesting of the same leaves the request gives the same and leaves
the same. If the leaves are stores, it gives what one store of all their
partials gives. -/
theorem load_chained (name : Text) (answer : Text → ℓ → Except LoadError Text × ℓ)
    (earlier : List (τ × Text)) (now : τ) (wanted : Text) :
    (∀ loader : Loader τ (ℓ × List (Text × Except LoadError Text)), loader.Chained →
      let kind := recordingKind name answer
      let before := loader.afterLoads kind earlier
      let load := before.load kind now wanted
      AskedInTurn kind wanted before.leaves load.1 load.2.leaves ∧
        ∀ other : Loader τ (ℓ × List (Text × Except LoadError Text)), other.Chained →
          other.leaves = loader.leaves →
          let load' := (other.afterLoads kind earlier).load kind now wanted
          load'.1 = load.1 ∧ load'.2.leaves = load.2.leaves) ∧
    ∀ (loader : Loader τ Leaf) (stores : List Store), loader.Chained →
      loader.leaves = stores.map .memory →
      let store : Loader τ Leaf := .leaf (.memory (Store.union stores))
      ((loader.afterLoads Leaf.kind earlier).load Leaf.kind now wanted).1
        = ((store.afterLoads Leaf.kind earlier).load Leaf.kind now wanted).1 := by
  refine ⟨fun loader hChained => ?_, fun loader stores hChained hStores => ?_⟩
  · intro kind before load
    have hAsked := ((hChained.afterLoads kind earlier).load kind now wanted).asked
    refine ⟨hAsked, fun other hOther hLeaves => ?_⟩
    have hAsked' := ((hOther.afterLoads kind earlier).load kind now wanted).asked
    rw [hChained.leaves_afterLoads hOther hLeaves kind earlier] at hAsked'
    exact hAsked'.unique hAsked
  · intro store
    have hOne : store.Chained := .leaf _
    have hUnion : store.leaves = [Store.union stores].map .memory := by
      rw [Loader.leaves, List.map_singleton]
    rw [hChained.load_stores hStores earlier now wanted [],
      hOne.load_stores hUnion earlier now wanted [], List.flatMap_singleton]
    simp only [Store.load, Store.union, Table.get?_firstOfEach]

/-- Leaves with scripts of what they answer: the third refuses the first name,
and the fourth is never asked. Beside them two stores with a name in common. -/
theorem load_chained_scripts :
    let answer : Text → List (Except LoadError Text) →
        Except LoadError Text × List (Except LoadError Text) := fun wanted script =>
      (script.headD (.error (.absent wanted)), script.tail)
    let kind := recordingKind "script" answer
    let first : LoadError := .system .notFound "/p"
    let second : LoadError := .hidden ".p"
    let a : List (Except LoadError Text) × List (Text × Except LoadError Text) := ([], [])
    let b := ([.error first], [])
    let c := ([.error second, .ok "Q"], [])
    let d := ([.ok "never"], [])
    let nested : Loader Double _ :=
      .chain (.chain (.leaf a) [.leaf b]) [.chain (.chain (.leaf c) []) [.leaf d]]
    let flat : Loader Double _ := .chain (.leaf a) [.leaf b, .leaf c, .leaf d]
    let stores : List Store := [⟨[("p", "1")], []⟩, ⟨[("p", "2"), ("q", "3")], []⟩]
    let chained : Loader Double Leaf :=
      .chain (.chain (.leaf (.memory ⟨[("p", "1")], []⟩)) [])
        [.leaf (.memory ⟨[("p", "2"), ("q", "3")], []⟩)]
    let earlier : List (Double × Text) := [(.ofInt 0, "p")]
    let before := nested.afterLoads kind earlier
    let load := before.load kind (.ofInt 1) "q"
    let load' := (flat.afterLoads kind earlier).load kind (.ofInt 1) "q"
    let logs : List (List (Text × Except LoadError Text)) :=
      [[("p", .error (.absent "p")), ("q", .error (.absent "q"))],
        [("p", .error first), ("q", .error (.absent "q"))],
        [("p", .error second), ("q", .ok "Q")], []]
    flat.leaves = nested.leaves ∧ chained.leaves = stores.map .memory ∧
      load.1 = .ok "Q" ∧ load.2.leaves.map Prod.snd = logs ∧
      AskedInTurn kind "q" before.leaves load.1 load.2.leaves ∧
      load'.1 = load.1 ∧ load'.2.leaves = load.2.leaves ∧
      ((chained.afterLoads Leaf.kind earlier).load Leaf.kind (.ofInt 1) "q").1 = .ok "3" := by
  intro answer kind first second a b c d nested flat stores chained earlier before load load' logs
  have hNested : nested.Chained := by
    refine .chain (.chain (.leaf a) ?_) ?_
    · exact List.forall_mem_singleton.2 (.leaf b)
    · refine List.forall_mem_singleton.2 (.chain (.chain (.leaf c) (List.forall_mem_nil _)) ?_)
      exact List.forall_mem_singleton.2 (.leaf d)
  have hFlat : flat.Chained := by
    refine .chain (.leaf a) ?_
    simp only [List.forall_mem_cons]
    exact ⟨.leaf b, .leaf c, .leaf d, List.forall_mem_nil _⟩
  have hChained : chained.Chained :=
    .chain (.chain (.leaf _) (List.forall_mem_nil _)) (List.forall_mem_singleton.2 (.leaf _))
  obtain ⟨hLeaves, hStores⟩ := load_chained "script" answer earlier (.ofInt 1) "q"
  obtain ⟨hAsked, hOther⟩ := hLeaves nested hNested
  obtain ⟨hSame, hSameLeaves⟩ := hOther flat hFlat rfl
  refine ⟨rfl, rfl, rfl, rfl, hAsked, hSame, hSameLeaves, ?_⟩
  exact (hStores chained stores hChained rfl).trans (by decide +kernel)

end TreeTemplate
