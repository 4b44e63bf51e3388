/-
TreeTemplate.Proofs.Partial.CachedStore — rendering through a cache
(`CachedLoader` around `InMemoryLoader`, specification §15).

A cache over partials that do not change cannot be seen from outside: every
rendering ends in the same way with it and without it, whatever was loaded
before, and whatever the clock does. And while nothing passes and there is
room for all that is asked for, the store is asked for no name twice.

* `Loader.clocked`, `Loader.afterLoads` — a loader in use.
* `CachesStore` — a loader that keeps texts of a store.
* `AskedOnce`, `HoldsAsked` — a cache that holds what has been asked for.
* `render_cachedFor` — rendering through a cache.
-/
import TreeTemplate.Proofs.Partial.Caching
import TreeTemplate.Proofs.Number.Rounding
import TreeTemplate.Proofs.Template.Requests
import Mathlib.Data.List.Dedup
import Mathlib.Data.List.Perm.Subperm

namespace TreeTemplate

open Moment (isAfter plus)

variable {τ ℓ : Type} [Moment τ]

/-! ## 1. Loaders in use -/

/-- A loader whose requests are made at the times of a clock. -/
def Loader.clocked (kind : LeafKind ℓ) : Source (Loader τ ℓ × (Nat → τ)) where
  load wanted state :=
    let (answer, next) := state.1.load kind (state.2 0) wanted
    (answer, (next, fun n => state.2 (n + 1)))

/-- A loader after loads one after another, each at its time. -/
def Loader.afterLoads (kind : LeafKind ℓ) (loader : Loader τ ℓ) (loads : List (τ × Text)) :
    Loader τ ℓ :=
  loads.foldl (fun loader load => (loader.load kind load.1 load.2).2) loader

/-! ## 2. Texts of a store -/

/-- A loader that keeps what it has loaded from a store of the partials. -/
def CachesStore (partials : Table Text) (ttl : τ) (loader : Loader τ Leaf) : Prop :=
  ∃ store cache, loader = .cached (.leaf (.memory store)) cache ∧ store.partials = partials ∧
    cache.defaultTtl = .counted ttl ∧
    cache.Filed "memory" fun wanted t _ => partials.get? wanted = some t

/-- A loader that is a store of the partials. -/
def IsStore (partials : Table Text) (loader : Loader τ Leaf) : Prop :=
  ∃ store, loader = .leaf (.memory store) ∧ store.partials = partials

variable {partials : Table Text} {ttl : τ} {loader loader' : Loader τ Leaf}

theorem load_store (store : Store) (now : τ) (wanted : Text) :
    (Loader.leaf (.memory store)).load Leaf.kind now wanted
      = (match store.partials.get? wanted with
          | some t => .ok t
          | none => .error (.absent wanted),
        .leaf (.memory ⟨store.partials, store.requests ++ [wanted]⟩)) := by
  rw [Loader.load]
  rfl

/-- A text that a store gives is one of its partials. -/
theorem get?_of_load_store {store : Store} {now : τ} {wanted t : Text}
    (h : ((Loader.leaf (.memory store)).load Leaf.kind now wanted).1 = .ok t) :
    store.partials.get? wanted = some t := by
  rw [load_store] at h
  dsimp only at h
  split at h
  · next hGet =>
    cases h
    exact hGet
  · cases h

/-- What a request leaves of a store. -/
theorem eq_of_load_store {store : Store} {now : τ} {wanted : Text} {answer : Except LoadError Text}
    {next : Loader τ Leaf}
    (h : (Loader.leaf (.memory store)).load Leaf.kind now wanted = (answer, next)) :
    next = .leaf (.memory ⟨store.partials, store.requests ++ [wanted]⟩) := by
  rw [load_store] at h
  exact (Prod.mk.inj h).2.symm

/-- A load gives what the store has, with a cache and without. -/
theorem CachesStore.load (h : CachesStore partials ttl loader) (h' : IsStore partials loader')
    (now now' : τ) (wanted : Text) :
    (loader.load Leaf.kind now wanted).1 = (loader'.load Leaf.kind now' wanted).1 ∧
      CachesStore partials ttl (loader.load Leaf.kind now wanted).2 ∧
      IsStore partials (loader'.load Leaf.kind now' wanted).2 := by
  obtain ⟨store, cache, rfl, rfl, hTtl, hFiled⟩ := h
  obtain ⟨store', rfl, hStore⟩ := h'
  have hSame : ((Loader.leaf (.memory store)).load Leaf.kind now wanted).1
      = ((Loader.leaf (.memory store')).load Leaf.kind now' wanted).1 := by
    rw [load_store, load_store, hStore]
  have hNext : IsStore store.partials ((Loader.leaf (.memory store')).load Leaf.kind now' wanted).2 := by
    rw [load_store]
    exact ⟨_, rfl, hStore⟩
  rw [← hSame]
  have hUsedTtl := (Cache.defaultTtl_get now (cacheKey ["memory", wanted]) cache).trans hTtl
  obtain ⟨entry, hMem, _, hLoad⟩ | ⟨t, next, hNone, hInner, hLoad⟩ |
      ⟨e, next, hNone, hInner, hLoad⟩ :=
    load_cached_cases Leaf.kind now wanted (.leaf (.memory store)) hTtl
      (cacheKey ["memory", wanted]) rfl
  · obtain ⟨other, hName, hText⟩ := hFiled _ hMem
    obtain rfl : wanted = other := cacheKey_injective hName
    refine ⟨?_, ?_, hNext⟩
    · rw [hLoad, load_store, hText]
    · rw [hLoad]
      exact ⟨store, _, rfl, rfl, hUsedTtl, hFiled.get now _ fun _ _ _ => id⟩
  · have hText : store.partials.get? wanted = some t := get?_of_load_store (by rw [hInner])
    refine ⟨?_, ?_, hNext⟩
    · rw [hLoad, hInner]
    · rw [hLoad, eq_of_load_store hInner]
      exact ⟨_, _, rfl, rfl, (Cache.defaultTtl_set ..).trans hUsedTtl,
        (hFiled.get_none hNone fun _ _ _ _ => id).set hUsedTtl now hText⟩
  · refine ⟨?_, ?_, hNext⟩
    · rw [hLoad, hInner]
    · rw [hLoad, eq_of_load_store hInner]
      exact ⟨_, _, rfl, rfl, hUsedTtl, hFiled.get now _ fun _ _ _ => id⟩

/-- Loads leave a loader that keeps texts of the store. -/
theorem CachesStore.afterLoads (h : CachesStore partials ttl loader) (loads : List (τ × Text)) :
    CachesStore partials ttl (loader.afterLoads Leaf.kind loads) := by
  induction loads generalizing loader with
  | nil => exact h
  | cons load rest ih =>
    have hStore : IsStore partials (.leaf (.memory ⟨partials, []⟩) : Loader τ Leaf) := ⟨_, rfl, rfl⟩
    exact ih (h.load hStore load.1 load.1 load.2).2.1

/-- Rendering while the clock goes on. -/
theorem CachesStore.render_clocked (h : CachesStore partials ttl loader)
    (h' : IsStore partials loader') (clock : Nat → τ) (now : τ) (settings : Settings)
    (template : Node) (data : Value) :
    ((render settings (some (Loader.clocked Leaf.kind)) template data).runFrom (loader, clock)).1
      = ((render settings (some (Loader.source Leaf.kind now)) template data).runFrom loader').1 :=
  render_eq_of_load
    (fun state loader' => CachesStore partials ttl state.1 ∧ IsStore partials loader')
    (fun name state _ hStates => hStates.1.load hStates.2 (state.2 0) now name)
    settings template data ⟨h, h'⟩

/-- Rendering at one time. -/
theorem CachesStore.render_source (h : CachesStore partials ttl loader)
    (h' : IsStore partials loader') (now : τ) (settings : Settings) (template : Node)
    (data : Value) :
    ((render settings (some (Loader.source Leaf.kind now)) template data).runFrom loader).1
      = ((render settings (some (Loader.source Leaf.kind now)) template data).runFrom loader').1 :=
  render_eq_of_load
    (fun loader loader' => CachesStore partials ttl loader ∧ IsStore partials loader')
    (fun name _ _ hStates => hStates.1.load hStates.2 now now name) settings template data ⟨h, h'⟩

/-! ## 3. Nothing is asked for twice -/

namespace Cache

variable {α : Type} {cache used : Cache τ α} {now : τ} {name : Text}

/-- Whether no entry has passed. -/
def AllFresh (now : τ) (cache : Cache τ α) : Prop :=
  ∀ entry ∈ cache.entries, isAfter now entry.2.expires = false

theorem AllFresh.get (h : cache.AllFresh now) (name : Text) : (cache.get now name).2.AllFresh now := by
  intro entry hEntry
  obtain ⟨old, hOld, _, _, hExpires⟩ := mem_entries_get hEntry
  rw [← hExpires]
  exact h old hOld

/-- While nothing has passed, a look-up drops no name. -/
theorem AllFresh.names_get (h : cache.AllFresh now) (name : Text) :
    (cache.get now name).2.entries.names = cache.entries.names := by
  obtain ⟨_, hGet⟩ | ⟨entry, hMem, hPassed, _⟩ | ⟨entry, hMem, _, hGet⟩ := get_cases now name cache
  · rw [hGet]
  · rw [h _ hMem] at hPassed
    cases hPassed
  · have hHas : cache.entries.has name = true :=
      Table.has_eq_true_iff.2 (List.mem_map.2 ⟨_, hMem, rfl⟩)
    rw [hGet, Table.names_put, if_pos hHas]

end Cache

/-- Whether there is room for an entry of each name that was asked for. -/
def HasRoom (limit : Int) (log : List Text) : Prop := limit ≤ 0 ∨ (log.dedup.length : Int) ≤ limit

theorem length_le_dedup {asked log : List Text} (hNodup : asked.Nodup) (h : asked ⊆ log) :
    asked.length ≤ log.dedup.length :=
  (List.subperm_of_subset hNodup fun _ hName => List.mem_dedup.2 (h hName)).length_le

theorem HasRoom.of_append {limit : Int} {log later : List Text} (h : HasRoom limit (log ++ later)) :
    HasRoom limit log := by
  refine h.imp_right fun hLength => ?_
  have hFewer := length_le_dedup log.nodup_dedup fun _ hName =>
    List.mem_append_left later (List.mem_dedup.1 hName)
  omega

/-- A cache that holds what was asked for: the names, each once, and nothing
that has passed. -/
structure AskedOnce (ttl : τ) (limit : Int) (now : τ) (asked : List Text) (cache : Cache τ Text) :
    Prop where
  defaultTtl : cache.defaultTtl = .counted ttl
  maxSize : cache.maxSize = limit
  fresh : cache.AllFresh now
  names : cache.entries.names = asked.map fun wanted => cacheKey ["memory", wanted]
  nodup : asked.Nodup

variable {limit : Int} {now : τ} {asked : List Text} {cache : Cache τ Text} {wanted : Text}

/-- A look-up leaves what the cache holds. -/
theorem AskedOnce.get (h : AskedOnce ttl limit now asked cache) (key : Text) :
    AskedOnce ttl limit now asked (cache.get now key).2 := by
  obtain ⟨hMaxSize, hTtl⟩ := Cache.settings_after cache (now, .get key)
  exact ⟨hTtl.trans h.defaultTtl, hMaxSize.trans h.maxSize, h.fresh.get key,
    (h.fresh.names_get key).trans h.names, h.nodup⟩

/-- A name that is not there was not asked for. -/
theorem AskedOnce.not_mem (h : AskedOnce ttl limit now asked cache)
    (hNone : ∀ entry ∈ cache.entries, entry.1 ≠ cacheKey ["memory", wanted]) : wanted ∉ asked := by
  intro hMem
  have hName : cacheKey ["memory", wanted] ∈ cache.entries.names := by
    rw [h.names]
    exact List.mem_map_of_mem hMem
  obtain ⟨entry, hEntry, hSame⟩ := List.mem_map.1 hName
  exact hNone entry hEntry hSame

theorem AskedOnce.nodup_append (h : AskedOnce ttl limit now asked cache) (hNew : wanted ∉ asked) :
    (asked ++ [wanted]).Nodup :=
  h.nodup.append (List.nodup_singleton _) (List.disjoint_singleton.2 hNew)

/-- A new entry, for which nothing is dropped if there is room. -/
theorem AskedOnce.set (h : AskedOnce ttl limit now asked cache)
    (hForward : isAfter now (plus now ttl) = false) (hNew : wanted ∉ asked)
    (hRoom : limit ≤ 0 ∨ (asked.length : Int) < limit) (t : Text) :
    AskedOnce ttl limit now (asked ++ [wanted])
      (cache.set now (cacheKey ["memory", wanted]) t none).2 := by
  have hLength : cache.size = asked.length := by
    simpa [Cache.size, Table.names] using congrArg List.length h.names
  have hAll : cache.roomFor now (cacheKey ["memory", wanted]) = cache.entries := by
    refine Cache.roomFor_eq_self_of_fresh h.fresh (fun hLimit => ?_) _
    rw [hLength, h.maxSize]
    rw [h.maxSize] at hLimit
    omega
  have hHas : ¬ cache.entries.has (cacheKey ["memory", wanted]) = true := by
    rw [Table.has_eq_true_iff, h.names, List.mem_map]
    rintro ⟨other, hOther, hKey⟩
    exact hNew (cacheKey_injective hKey ▸ hOther)
  rw [Cache.set_eq h.defaultTtl, hAll]
  refine ⟨h.defaultTtl, h.maxSize, fun entry hEntry => ?_, ?_, h.nodup_append hNew⟩
  · rcases Table.mem_put.1 hEntry with rfl | ⟨hOld, _⟩
    · exact hForward
    · exact h.fresh entry hOld
  · rw [Table.names_put, if_neg hHas, h.names, List.map_append, List.map_singleton]

/-- One load at the time of the others: the store is asked for the name if it
was not asked for it before. -/
theorem AskedOnce.load {start log : List Text} (h : AskedOnce ttl limit now asked cache)
    (hForward : isAfter now (plus now ttl) = false) (hLog : asked ⊆ log)
    (hRoom : HasRoom limit (log ++ [wanted])) :
    ∃ answer asked' cache',
      (Loader.cached (.leaf (.memory ⟨partials, start ++ asked⟩)) cache).load Leaf.kind now wanted
        = (answer, .cached (.leaf (.memory ⟨partials, start ++ asked'⟩)) cache') ∧
      asked'.Nodup ∧ ∀ t, answer = .ok t →
        AskedOnce ttl limit now asked' cache' ∧ asked' ⊆ log ++ [wanted] := by
  have hUsed := h.get (cacheKey ["memory", wanted])
  obtain ⟨entry, _, _, hLoad⟩ | ⟨t, next, hNone, hInner, hLoad⟩ |
      ⟨e, next, hNone, hInner, hLoad⟩ :=
    load_cached_cases Leaf.kind now wanted (.leaf (.memory ⟨partials, start ++ asked⟩))
      h.defaultTtl (cacheKey ["memory", wanted]) rfl
  · exact ⟨_, asked, _, hLoad, h.nodup, fun _ _ =>
      ⟨hUsed, List.Subset.trans hLog (List.subset_append_left _ _)⟩⟩
  · have hNew : wanted ∉ asked := hUsed.not_mem (Cache.ne_of_get_eq_none hNone)
    have hAsked : asked ++ [wanted] ⊆ log ++ [wanted] := fun name hName =>
      List.mem_append.2 ((List.mem_append.1 hName).imp_left fun hOld => hLog hOld)
    have hLength := length_le_dedup (h.nodup_append hNew) hAsked
    rw [List.length_append, List.length_singleton] at hLength
    rw [eq_of_load_store hInner, List.append_assoc] at hLoad
    refine ⟨_, asked ++ [wanted], _, hLoad, h.nodup_append hNew, fun _ _ => ⟨?_, hAsked⟩⟩
    exact hUsed.set hForward hNew (hRoom.imp_right fun _ => by omega) t
  · have hNew : wanted ∉ asked := hUsed.not_mem (Cache.ne_of_get_eq_none hNone)
    rw [eq_of_load_store hInner, List.append_assoc] at hLoad
    exact ⟨_, asked ++ [wanted], _, hLoad, h.nodup_append hNew, fun _ hAnswer => nomatch hAnswer⟩

/-- A state of a rendering that has asked the store for no name twice. -/
def NotAskedTwice (partials : Table Text) (start : List Text) (limit : Int)
    (state : Loader τ Leaf × List Text) : Prop :=
  HasRoom limit state.2 → ∃ asked cache,
    state.1 = .cached (.leaf (.memory ⟨partials, start ++ asked⟩)) cache ∧ asked.Nodup

/-- A state of a rendering that goes on: what the store was asked for is in
the cache. When the rendering has failed, the last name may not be. -/
def HoldsAsked (partials : Table Text) (start : List Text) (ttl : τ) (limit : Int) (now : τ)
    (state : Loader τ Leaf × List Text) : Prop :=
  HasRoom limit state.2 → ∃ asked cache,
    state.1 = .cached (.leaf (.memory ⟨partials, start ++ asked⟩)) cache ∧
      AskedOnce ttl limit now asked cache ∧ asked ⊆ state.2

variable {start : List Text} {state : Loader τ Leaf × List Text}

theorem HoldsAsked.notAskedTwice (h : HoldsAsked partials start ttl limit now state) :
    NotAskedTwice partials start limit state := by
  intro hRoom
  obtain ⟨asked, cache, hState, hAsked, _⟩ := h hRoom
  exact ⟨asked, cache, hState, hAsked.nodup⟩

/-- What a request leaves. -/
theorem HoldsAsked.load (h : HoldsAsked partials start ttl limit now state)
    (hForward : isAfter now (plus now ttl) = false) (name : Text) :
    EndsIn (HoldsAsked partials start ttl limit now) (NotAskedTwice partials start limit)
      ((Loader.source Leaf.kind now).logged.load name state) := by
  have hLoad (hRoom : HasRoom limit (state.2 ++ [name])) :
      ∃ answer asked cache, state.1.load Leaf.kind now name
          = (answer, .cached (.leaf (.memory ⟨partials, start ++ asked⟩)) cache) ∧
        asked.Nodup ∧ ∀ t, answer = .ok t →
          AskedOnce ttl limit now asked cache ∧ asked ⊆ state.2 ++ [name] := by
    obtain ⟨asked, cache, hState, hAsked, hLog⟩ := h hRoom.of_append
    rw [hState]
    exact hAsked.load hForward hLog hRoom
  show EndsIn _ _ ((state.1.load Leaf.kind now name).1,
    ((state.1.load Leaf.kind now name).2, state.2 ++ [name]))
  cases hAnswer : (state.1.load Leaf.kind now name).1 with
  | ok t =>
    intro hRoom
    obtain ⟨answer, asked, cache, hEq, _, hHolds⟩ := hLoad hRoom
    rw [hEq] at hAnswer ⊢
    exact ⟨asked, cache, rfl, hHolds t hAnswer⟩
  | error e =>
    intro hRoom
    obtain ⟨answer, asked, cache, hEq, hNodup, _⟩ := hLoad hRoom
    rw [hEq]
    exact ⟨asked, cache, rfl, hNodup⟩

/-- A rendering at one time, from a state in which the cache holds what was
asked for. -/
theorem HoldsAsked.render (h : HoldsAsked partials start ttl limit now state)
    (hForward : isAfter now (plus now ttl) = false) (settings : Settings) (template : Node)
    (data : Value) :
    NotAskedTwice partials start limit
      ((render settings (some (Loader.source Leaf.kind now).logged) template data).runFrom
        state).2 := by
  have hRun := (parallel_render settings _ (Loader.source Leaf.kind now).logged template
    data).upholds (fun name _ hState => HoldsAsked.load hState hForward name)
    (fun _ hState => hState.notAskedTwice) h
  generalize (TreeTemplate.render settings _ template data).runFrom state = run at hRun ⊢
  obtain ⟨outcome | outcome, final⟩ := run
  · exact hRun
  · exact HoldsAsked.notAskedTwice hRun

/-! ## 4. Rendering -/

/-- Whether a lifetime is not negative. -/
def Lifetime.NotNegative (ttl : Lifetime Double) : Prop :=
  ∀ duration, ttl = .counted duration → duration.lt (.ofInt 0) = false

theorem Lifetime.notNegative_ofInt {seconds : Int} (h : 0 ≤ seconds) :
    (Lifetime.ofInt seconds).NotNegative := by
  intro duration hDuration
  unfold Lifetime.ofInt at hDuration
  dsimp only at hDuration
  split at hDuration
  · cases hDuration
    exact Double.ofInt_not_lt h
  · cases hDuration

/-- A store behind a cache, whatever its time to live and its size. Every
rendering ends as it does without the cache, whatever was loaded before and
at whatever times. One that starts with an empty cache and is made at one
time asks the store for no name twice, if the cache has room for all that is
asked for and its time to live is not negative. A time to live that is too great
for a number of the clock is left out, since every writing with it fails. -/
theorem render_cachedFor (store : Store) {ttl : Lifetime Double} (hTtl : ttl ≠ .uncountable)
    (limit : Int) (settings : Settings) (template : Node) (data : Value) :
    let inner : PartialLoader := .leaf (.memory store)
    let cached := PartialLoader.cachedFor ttl limit inner
    (∀ loads clock now,
      ((render settings (some (Loader.clocked Leaf.kind)) template data).runFrom
          (cached.afterLoads Leaf.kind loads, clock)).1
        = ((render settings (some (PartialLoader.source now)) template data).runFrom inner).1) ∧
    (∀ loads now,
      ((render settings (some (PartialLoader.source now)) template data).runFrom
          (cached.afterLoads Leaf.kind loads)).1
        = ((render settings (some (PartialLoader.source now)) template data).runFrom inner).1) ∧
    ∀ now, ttl.NotNegative →
      NotAskedTwice store.partials store.requests limit
        ((render settings (some (PartialLoader.source now).logged) template data).runFrom
          (cached, [])).2 := by
  intro inner cached
  obtain ⟨duration, rfl⟩ : ∃ duration, ttl = .counted duration := by
    cases ttl with
    | counted duration => exact ⟨duration, rfl⟩
    | uncountable => exact absurd rfl hTtl
  have hCached : CachesStore store.partials duration cached :=
    ⟨store, _, rfl, rfl, rfl, Cache.filed_empty _ _⟩
  have hInner : IsStore store.partials inner := ⟨store, rfl, rfl⟩
  refine ⟨fun loads clock now => ?_, fun loads now => ?_, fun now hNotNegative => ?_⟩
  · exact (hCached.afterLoads loads).render_clocked hInner clock now settings template data
  · exact (hCached.afterLoads loads).render_source hInner now settings template data
  · have hEmpty : AskedOnce duration limit now [] (.empty (.counted duration) limit) :=
      ⟨rfl, rfl, List.forall_mem_nil _, rfl, List.nodup_nil⟩
    have hStart : HoldsAsked store.partials store.requests duration limit now (cached, []) :=
      fun _ => ⟨[], _, by rw [List.append_nil]; rfl, hEmpty, List.nil_subset _⟩
    exact hStart.render (Double.add_not_lt now (hNotNegative duration rfl)) settings template data

/-- A partial that is included twice. -/
theorem render_cachedFor_row_twice :
    let row : Node := .element "b" [("include", "row")] []
    let template : Node := .fragment [row, row]
    let settings : Settings := ⟨[[]], 4, some parseMarkup⟩
    let store : Store := ⟨[("row", "R"), ("other", "")], []⟩
    let cached := PartialLoader.cachedFor (.ofInt 300) 1 (.leaf (.memory store))
    let run := (render settings (some (PartialLoader.source (.ofInt 7)).logged) template
      (.dict [])).runFrom (cached, [])
    ((render settings (some (PartialLoader.source (.ofInt 7))) template (.dict [])).runFrom
        (cached.afterLoads Leaf.kind [(.ofInt 1, "row"), (.ofInt 2, "other")])).1
      = .ok [.text "R", .text "R"] ∧
    run.2.2 = ["row", "row"] ∧
    ∃ asked cache, run.2.1 = .cached (.leaf (.memory ⟨store.partials, asked⟩)) cache ∧
      asked.Nodup := by
  intro row template settings store cached run
  have hTtl : Lifetime.ofInt 300 ≠ .uncountable := by decide +kernel
  obtain ⟨_, hSame, hOnce⟩ := render_cachedFor store hTtl 1 settings template (.dict [])
  have hLog : run.2.2 = ["row", "row"] := by decide +kernel
  have hRoom : HasRoom 1 run.2.2 := by
    rw [hLog]
    exact .inr (by decide)
  refine ⟨(hSame _ _).trans (by decide +kernel), hLog, ?_⟩
  exact hOnce (.ofInt 7) (Lifetime.notNegative_ofInt (by decide)) hRoom

/-- Where the time to live cannot be counted, a rendering through the cache
fails although the store has the partial. -/
theorem render_uncountable :
    let template : Node := .fragment [.element "b" [("include", "row")] []]
    let settings : Settings := ⟨[[]], 4, some parseMarkup⟩
    let inner : PartialLoader := .leaf (.memory ⟨[("row", "R")], []⟩)
    let outcome (loader : PartialLoader) := ((render settings
      (some (PartialLoader.source (.ofInt 7))) template (.dict [])).runFrom loader).1
    let cached := PartialLoader.cachedFor (.ofInt (10 ^ 400)) 500 inner
    outcome cached = .error (.load .uncountable) ∧ outcome inner = .ok [.text "R"] ∧
      outcome cached ≠ outcome inner := by
  decide +kernel

end TreeTemplate
