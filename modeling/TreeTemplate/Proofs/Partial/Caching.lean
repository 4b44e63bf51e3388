/-
TreeTemplate.Proofs.Partial.Caching — cached loaders (`CachedLoader`,
specification §15).

A cached loader gives what its inner loader gives, or what that has given not
long ago: the text of the last request for the same name that succeeded, if
its time has not passed. A failure is never kept. All this is so whatever the
inner loader answers, and in whatever order names are asked for.

* `Cache.Filed` — what every entry of a cache says about its name.
* `load_cached_cases` — the three ways a load can go.
* `Visit`, `Loader.visits` — loads one after another, with the requests that
  reach the inner loader.
* `Recalls` — a text that was given last, not long ago.
* `visits_cached` — any row of loads through a cached loader.
-/
import TreeTemplate.Partial.Loader
import TreeTemplate.Proofs.Partial.Eviction

namespace TreeTemplate

open Moment (isAfter plus)

variable {τ ℓ α : Type} [Moment τ]

/-! ## 1. Names in a cache -/

theorem cacheKey_injective {name wanted wanted' : Text}
    (h : cacheKey [name, wanted] = cacheKey [name, wanted']) : wanted = wanted' :=
  List.append_cancel_left h

namespace Cache

/-- What a look-up leaves of an entry, besides the time of its last use. -/
theorem mem_entries_get {now : τ} {name : Text} {cache : Cache τ α} {entry : Text × CacheEntry τ α}
    (h : entry ∈ (cache.get now name).2.entries) :
    ∃ old ∈ cache.entries, old.1 = entry.1 ∧ old.2.value = entry.2.value ∧
      old.2.expires = entry.2.expires := by
  obtain ⟨_, hGet⟩ | ⟨_, _, _, hGet⟩ | ⟨found, hMem, _, hGet⟩ := get_cases now name cache
  · rw [hGet] at h
    exact ⟨entry, h, rfl, rfl, rfl⟩
  · rw [hGet] at h
    exact ⟨entry, (Table.mem_erase.1 h).1, rfl, rfl, rfl⟩
  · rw [hGet] at h
    rcases Table.mem_put.1 h with rfl | ⟨hOld, _⟩
    · exact ⟨(name, found), hMem, rfl, rfl, rfl⟩
    · exact ⟨entry, hOld, rfl, rfl, rfl⟩

/-- After a look-up that finds nothing, nothing is there. -/
theorem ne_of_get_eq_none {now : τ} {name : Text} {cache : Cache τ α}
    (h : (cache.get now name).1 = none) :
    ∀ entry ∈ (cache.get now name).2.entries, entry.1 ≠ name := by
  obtain ⟨hNew, hGet⟩ | ⟨_, _, _, hGet⟩ | ⟨_, _, _, hGet⟩ := get_cases now name cache
  · rw [hGet]
    exact fun entry hEntry => Table.not_mem_of_has_eq_false hNew hEntry
  · rw [hGet]
    exact fun entry hEntry => (Table.mem_erase.1 hEntry).2
  · rw [hGet] at h
    cases h

theorem defaultTtl_get (now : τ) (name : Text) (cache : Cache τ α) :
    (cache.get now name).2.defaultTtl = cache.defaultTtl :=
  (settings_after cache (now, .get name)).2

theorem defaultTtl_set (now : τ) (name : Text) (value : α) (given : Option (Lifetime τ))
    (cache : Cache τ α) : (cache.set now name value given).2.defaultTtl = cache.defaultTtl :=
  (settings_after cache (now, .set name value given)).2

/-- Where the time to live can be counted, an entry is written. -/
theorem set_eq {ttl : τ} {cache : Cache τ α} (hTtl : cache.defaultTtl = .counted ttl) (now : τ)
    (name : Text) (value : α) :
    cache.set now name value none = (true, { cache with
      entries := (cache.roomFor now name).put name ⟨value, plus now ttl, now⟩ }) := by
  simp [set, effectiveTtl, hTtl]

/-- Every entry stands under the name of something wanted from the loader
`name`, and its value and the time of its passing are as `holds` says. -/
def Filed (name : Text) (holds : Text → α → τ → Prop) (cache : Cache τ α) : Prop :=
  ∀ entry ∈ cache.entries, ∃ wanted, entry.1 = cacheKey [name, wanted] ∧
    holds wanted entry.2.value entry.2.expires

variable {name wanted : Text} {holds holds' : Text → α → τ → Prop} {cache : Cache τ α}

omit [Moment τ] in
theorem filed_empty (ttl : Lifetime τ) (limit : Int) :
    (empty ttl limit : Cache τ α).Filed name holds :=
  List.forall_mem_nil _

/-- A look-up that finds something changes nothing that is filed. -/
theorem Filed.get (h : cache.Filed name holds) (now : τ) (key : Text)
    (hImp : ∀ wanted value expires, holds wanted value expires → holds' wanted value expires) :
    (cache.get now key).2.Filed name holds' := by
  intro entry hEntry
  obtain ⟨old, hOld, hKey, hValue, hExpires⟩ := mem_entries_get hEntry
  obtain ⟨wanted, hName, hHolds⟩ := h old hOld
  rw [hKey] at hName
  rw [hValue, hExpires] at hHolds
  exact ⟨wanted, hName, hImp _ _ _ hHolds⟩

/-- After a look-up that finds nothing, only other names are filed. -/
theorem Filed.get_none (h : cache.Filed name holds) {now : τ}
    (hNone : (cache.get now (cacheKey [name, wanted])).1 = none)
    (hImp : ∀ other value expires, other ≠ wanted → holds other value expires →
      holds' other value expires) :
    (cache.get now (cacheKey [name, wanted])).2.Filed name holds' := by
  intro entry hEntry
  obtain ⟨other, hName, hHolds⟩ := h.get now _ (fun _ _ _ => id) entry hEntry
  refine ⟨other, hName, hImp _ _ _ ?_ hHolds⟩
  rintro rfl
  exact ne_of_get_eq_none hNone entry hEntry hName

/-- A new entry is filed with those that are left. -/
theorem Filed.set (h : cache.Filed name holds) {ttl : τ} (hTtl : cache.defaultTtl = .counted ttl)
    (now : τ) {value : α} (hHolds : holds wanted value (plus now ttl)) :
    (cache.set now (cacheKey [name, wanted]) value none).2.Filed name holds := by
  rw [set_eq hTtl]
  intro entry hEntry
  rcases Table.mem_put.1 hEntry with rfl | ⟨hOld, _⟩
  · exact ⟨wanted, rfl, hHolds⟩
  · exact h entry ((roomFor_sublist now _ cache).subset hOld)

end Cache

/-! ## 2. Loads -/

/-- The three ways a load through a cached loader can go: the text is there;
it is not, and the inner loader gives it; or the inner loader fails. -/
theorem load_cached_cases (kind : LeafKind ℓ) (now : τ) (wanted : Text) (inner : Loader τ ℓ)
    {cache : Cache τ Text} {ttl : τ} (hTtl : cache.defaultTtl = .counted ttl) (key : Text)
    (hKey : cacheKey [inner.name kind, wanted] = key) :
    (∃ entry, (key, entry) ∈ cache.entries ∧ isAfter now entry.expires = false ∧
      (Loader.cached inner cache).load kind now wanted
        = (.ok entry.value, .cached inner (cache.get now key).2)) ∨
    (∃ t next, (cache.get now key).1 = none ∧ inner.load kind now wanted = (.ok t, next) ∧
      (Loader.cached inner cache).load kind now wanted
        = (.ok t, .cached next ((cache.get now key).2.set now key t none).2)) ∨
    (∃ e next, (cache.get now key).1 = none ∧ inner.load kind now wanted = (.error e, next) ∧
      (Loader.cached inner cache).load kind now wanted
        = (.error e, .cached next (cache.get now key).2)) := by
  have hUsed := (Cache.defaultTtl_get now key cache).trans hTtl
  rcases hLook : cache.get now key with ⟨_ | t, used⟩
  · rw [hLook] at hUsed
    rcases hInner : inner.load kind now wanted with ⟨e | t, next⟩
    · refine .inr (.inr ⟨e, next, rfl, rfl, ?_⟩)
      simp only [Loader.load, hKey, hLook, hInner]
    · refine .inr (.inl ⟨t, next, rfl, rfl, ?_⟩)
      simp only [Loader.load, hKey, hLook, hInner, Cache.set_eq hUsed, if_true]
  · have hLoad : (Loader.cached inner cache).load kind now wanted = (.ok t, .cached inner used) := by
      simp only [Loader.load, hKey, hLook]
    obtain ⟨_, hGet⟩ | ⟨_, _, _, hGet⟩ | ⟨entry, hMem, hFresh, hGet⟩ := Cache.get_cases now key cache
    · rw [hLook] at hGet
      cases hGet
    · rw [hLook] at hGet
      cases hGet
    · rw [hLook] at hGet
      obtain rfl : t = entry.value := Option.some.inj (Prod.mk.inj hGet).1
      exact .inl ⟨entry, hMem, hFresh, hLoad⟩

/-! ## 3. Loads one after another -/

/-- A load: its time, what was wanted, how it ended, and the requests that
reached the leaves in it, with their answers. -/
structure Visit (τ : Type) where
  time : τ
  wanted : Text
  outcome : Except LoadError Text
  asked : List (Text × Except LoadError Text)
deriving DecidableEq

/-- A leaf that answers in any way, and keeps its requests with the answers,
the latest last. -/
def recordingKind (name : Text) (answer : Text → ℓ → Except LoadError Text × ℓ) :
    LeafKind (ℓ × List (Text × Except LoadError Text)) where
  name _ := name
  load wanted leaf :=
    let (reply, next) := answer wanted leaf.1
    (reply, (next, leaf.2 ++ [(wanted, reply)]))

namespace Loader

/-- The requests that the leaves have kept. -/
def requests (loader : Loader τ (ℓ × List α)) : List α := loader.leaves.flatMap Prod.snd

/-- A load and the loader after it. -/
def visit (kind : LeafKind (ℓ × List (Text × Except LoadError Text)))
    (loader : Loader τ (ℓ × List (Text × Except LoadError Text))) (load : τ × Text) :
    Visit τ × Loader τ (ℓ × List (Text × Except LoadError Text)) :=
  let (outcome, next) := loader.load kind load.1 load.2
  (⟨load.1, load.2, outcome, next.requests.drop loader.requests.length⟩, next)

/-- Loads one after another, each at its time. -/
def visits (kind : LeafKind (ℓ × List (Text × Except LoadError Text))) :
    Loader τ (ℓ × List (Text × Except LoadError Text)) → List (τ × Text) → List (Visit τ)
  | _, [] => []
  | loader, load :: rest => (loader.visit kind load).1 :: visits kind (loader.visit kind load).2 rest

end Loader

/-- The text was the answer to the last request for the name that succeeded,
and it is kept until the deadline. -/
def Recalls (ttl : τ) (earlier : List (Visit τ)) (wanted text : Text) (deadline : τ) : Prop :=
  ∃ before source between, earlier = before ++ source :: between ∧
    source.asked = [(wanted, .ok text)] ∧ deadline = plus source.time ttl ∧
    ∀ visit ∈ between, ∀ t, (wanted, .ok t) ∉ visit.asked

omit [Moment τ] in
/-- The last load of a name has failed. -/
def FailedLast (earlier : List (Visit τ)) (wanted : Text) : Prop :=
  ∃ before failed between e, earlier = before ++ failed :: between ∧ failed.wanted = wanted ∧
    failed.outcome = .error e ∧ ∀ visit ∈ between, visit.wanted ≠ wanted

/-- What a load through a cached loader does after earlier ones: it gives the
text that was last given for the name, not long ago, and asks nothing; or it
asks for the name once and gives the answer. The latter it does at any rate
if the last load of the name has failed. -/
def Visit.Follows (ttl : τ) (earlier : List (Visit τ)) (visit : Visit τ) : Prop :=
  ((visit.asked = [] ∧ ∃ text deadline, visit.outcome = .ok text ∧
      Recalls ttl earlier visit.wanted text deadline ∧ isAfter visit.time deadline = false) ∨
    visit.asked = [(visit.wanted, visit.outcome)]) ∧
  (FailedLast earlier visit.wanted → visit.asked = [(visit.wanted, visit.outcome)])

variable {ttl : τ} {earlier : List (Visit τ)} {visit : Visit τ} {wanted text : Text} {deadline : τ}

theorem Recalls.append (h : Recalls ttl earlier wanted text deadline)
    (hOther : ∀ t, (wanted, .ok t) ∉ visit.asked) :
    Recalls ttl (earlier ++ [visit]) wanted text deadline := by
  obtain ⟨before, source, between, rfl, hAsked, hDeadline, hBetween⟩ := h
  refine ⟨before, source, between ++ [visit], by simp, hAsked, hDeadline, ?_⟩
  exact List.forall_mem_append.2 ⟨hBetween, List.forall_mem_singleton.2 hOther⟩

theorem recalls_append (h : visit.asked = [(wanted, .ok text)]) :
    Recalls ttl (earlier ++ [visit]) wanted text (plus visit.time ttl) :=
  ⟨earlier, visit, [], rfl, h, rfl, List.forall_mem_nil _⟩

omit [Moment τ] in
theorem failedLast_append (h : FailedLast (earlier ++ [visit]) wanted) :
    (visit.wanted = wanted ∧ ∃ e, visit.outcome = .error e) ∨
      (visit.wanted ≠ wanted ∧ FailedLast earlier wanted) := by
  obtain ⟨before, failed, between, e, hEarlier, hWanted, hOutcome, hBetween⟩ := h
  rcases List.eq_nil_or_concat between with rfl | ⟨others, last, rfl⟩
  · obtain ⟨_, hLast⟩ := List.append_inj' hEarlier rfl
    cases hLast
    exact .inl ⟨hWanted, e, hOutcome⟩
  · rw [List.concat_eq_append, ← List.cons_append, ← List.append_assoc] at hEarlier
    obtain ⟨hBefore, hLast⟩ := List.append_inj' hEarlier rfl
    cases hLast
    rw [List.concat_eq_append, List.forall_mem_append, List.forall_mem_singleton] at hBetween
    exact .inr ⟨hBetween.2, before, failed, others, e, hBefore, hWanted, hOutcome, hBetween.1⟩

/-- What a cache says about a name after loads: the text that was last given,
unless the last load has failed. -/
def Fresh (ttl : τ) (earlier : List (Visit τ)) (wanted text : Text) (deadline : τ) : Prop :=
  Recalls ttl earlier wanted text deadline ∧ ¬ FailedLast earlier wanted

/-- A load changes nothing about other names, and nothing if it has asked
for nothing and given a text. -/
theorem Fresh.append (h : Fresh ttl earlier wanted text deadline)
    (hOther : ∀ t, (wanted, .ok t) ∉ visit.asked)
    (hOutcome : visit.wanted = wanted → ∃ t, visit.outcome = .ok t) :
    Fresh ttl (earlier ++ [visit]) wanted text deadline := by
  refine ⟨h.1.append hOther, fun hFailed => ?_⟩
  rcases failedLast_append hFailed with ⟨hSame, e, hError⟩ | ⟨_, hBefore⟩
  · obtain ⟨t, hText⟩ := hOutcome hSame
    rw [hError] at hText
    cases hText
  · exact h.2 hBefore

variable {name : Text} {answer : Text → ℓ → Except LoadError Text × ℓ}

theorem visit_eq {kind : LeafKind (ℓ × List (Text × Except LoadError Text))}
    {leaf leaf' : ℓ × List (Text × Except LoadError Text)} {cache cache' : Cache τ Text} {now : τ}
    {outcome : Except LoadError Text}
    (h : (Loader.cached (.leaf leaf) cache).load kind now wanted
      = (outcome, .cached (.leaf leaf') cache')) :
    (Loader.cached (.leaf leaf) cache).visit kind (now, wanted)
      = (⟨now, wanted, outcome, leaf'.2.drop leaf.2.length⟩, .cached (.leaf leaf') cache') := by
  rw [Loader.visit, h]
  simp [Loader.requests, Loader.leaves]

/-- One load, after which the cache is filed again. -/
theorem visit_cached (answer : Text → ℓ → Except LoadError Text × ℓ)
    (leaf : ℓ × List (Text × Except LoadError Text)) {cache : Cache τ Text}
    (hTtl : cache.defaultTtl = .counted ttl) (hFiled : cache.Filed name (Fresh ttl earlier))
    (load : τ × Text) :
    ∃ visit leaf' cache',
      (Loader.cached (.leaf leaf) cache).visit (recordingKind name answer) load
        = (visit, .cached (.leaf leaf') cache') ∧
      visit.Follows ttl earlier ∧ cache'.defaultTtl = .counted ttl ∧
      cache'.Filed name (Fresh ttl (earlier ++ [visit])) := by
  obtain ⟨now, wanted⟩ := load
  rcases hAnswer : answer wanted leaf.1 with ⟨reply, state⟩
  have hLeaf : (Loader.leaf leaf : Loader τ _).load (recordingKind name answer) now wanted
      = (reply, .leaf (state, leaf.2 ++ [(wanted, reply)])) := by
    simp [Loader.load, recordingKind, hAnswer]
  have hUsedTtl := (Cache.defaultTtl_get now (cacheKey [name, wanted]) cache).trans hTtl
  obtain ⟨entry, hMem, hFresh, hLoad⟩ | ⟨t, next, hNone, hInner, hLoad⟩ |
      ⟨e, next, hNone, hInner, hLoad⟩ :=
    load_cached_cases (recordingKind name answer) now wanted (.leaf leaf) hTtl
      (cacheKey [name, wanted]) rfl
  · obtain ⟨other, hName, hRecalls, hNotFailed⟩ := hFiled _ hMem
    obtain rfl : wanted = other := cacheKey_injective hName
    refine ⟨_, _, _, visit_eq hLoad, ⟨.inl ⟨?_, entry.value, entry.expires, rfl, hRecalls, hFresh⟩,
      fun hFailed => absurd hFailed hNotFailed⟩, hUsedTtl, ?_⟩
    · exact List.drop_length
    · refine hFiled.get now _ fun other value expires hOther => ?_
      exact hOther.append (by simp) fun _ => ⟨entry.value, rfl⟩
  · rw [hLeaf] at hInner
    cases hInner
    have hAsked : (leaf.2 ++ [(wanted, (.ok t : Except LoadError Text))]).drop leaf.2.length
        = [(wanted, .ok t)] := List.drop_left
    refine ⟨_, _, _, visit_eq hLoad, ⟨.inr hAsked, fun _ => hAsked⟩,
      (Cache.defaultTtl_set ..).trans hUsedTtl, ?_⟩
    refine Cache.Filed.set ?_ hUsedTtl now ⟨recalls_append hAsked, fun hFailed => ?_⟩
    · refine hFiled.get_none hNone fun other value expires hOther hBefore => ?_
      exact hBefore.append (by simp [hAsked, hOther]) fun hSame => absurd hSame.symm hOther
    · rcases failedLast_append hFailed with ⟨_, e, hError⟩ | ⟨hOther, _⟩
      · cases hError
      · exact hOther rfl
  · rw [hLeaf] at hInner
    cases hInner
    have hAsked : (leaf.2 ++ [(wanted, (.error e : Except LoadError Text))]).drop leaf.2.length
        = [(wanted, .error e)] := List.drop_left
    refine ⟨_, _, _, visit_eq hLoad, ⟨.inr hAsked, fun _ => hAsked⟩, hUsedTtl, ?_⟩
    refine hFiled.get_none hNone fun other value expires hOther hBefore => ?_
    exact hBefore.append (by simp [hAsked]) fun hSame => absurd hSame.symm hOther

/-- Loads that go on from a cache that is filed. -/
theorem visits_filed {leaf : ℓ × List (Text × Except LoadError Text)} {cache : Cache τ Text}
    (earlier : List (Visit τ)) (hTtl : cache.defaultTtl = .counted ttl)
    (hFiled : cache.Filed name (Fresh ttl earlier))
    {loads : List (τ × Text)} {before later : List (Visit τ)}
    (h : (Loader.cached (.leaf leaf) cache).visits (recordingKind name answer) loads
      = before ++ visit :: later) :
    visit.Follows ttl (earlier ++ before) := by
  induction loads generalizing leaf cache earlier before with
  | nil => cases before <;> cases h
  | cons load rest ih =>
    obtain ⟨first, leaf', cache', hVisit, hFirst, hTtl', hFiled'⟩ :=
      visit_cached answer leaf hTtl hFiled load
    rw [Loader.visits, hVisit] at h
    cases before with
    | nil =>
      cases h
      rw [List.append_nil]
      exact hFirst
    | cons _ before =>
      obtain ⟨rfl, hRest⟩ := List.cons.inj h
      rw [List.append_cons]
      exact ih _ hTtl' hFiled' hRest

/-- Each of any row of loads through a cached loader, whatever its inner
loader answers, gives what was last given for the name, not longer ago than
the time to live, or asks the inner loader once; and after a load that has
failed the next of that name asks. -/
theorem visits_cached (name : Text) (answer : Text → ℓ → Except LoadError Text × ℓ) (start : ℓ)
    (ttl : τ) (limit : Int) (loads : List (τ × Text)) (earlier later : List (Visit τ))
    {visit : Visit τ}
    (h : (Loader.cached (.leaf (start, [])) (.empty (.counted ttl) limit)).visits
      (recordingKind name answer) loads = earlier ++ visit :: later) :
    visit.Follows ttl earlier :=
  visits_filed [] rfl (Cache.filed_empty _ _) h

/-- A text is recalled, and after its time a failure is not. -/
theorem visits_cached_failure :
    let answer : Text → Nat → Except LoadError Text × Nat := fun _ count =>
      (if count = 0 then .ok "A" else .error .nullByte, count + 1)
    let first : Visit Double := ⟨.ofInt 0, "a", .ok "A", [("a", .ok "A")]⟩
    let second : Visit Double := ⟨.ofInt 5, "a", .ok "A", []⟩
    let third : Visit Double := ⟨.ofInt 20, "a", .error .nullByte, [("a", .error .nullByte)]⟩
    let fourth : Visit Double := ⟨.ofInt 21, "a", .error .nullByte, [("a", .error .nullByte)]⟩
    (Loader.cached (.leaf (0, [])) (.empty (.counted (.ofInt 10)) 500)).visits
        (recordingKind "script" answer)
        [(.ofInt 0, "a"), (.ofInt 5, "a"), (.ofInt 20, "a"), (.ofInt 21, "a")]
      = [first, second, third, fourth] ∧
    second.Follows (.ofInt 10) [first] ∧ fourth.Follows (.ofInt 10) [first, second, third] := by
  intro answer first second third fourth
  have hVisits : (Loader.cached (.leaf (0, [])) (.empty (.counted (.ofInt 10)) 500)).visits
      (recordingKind "script" answer)
      [(.ofInt 0, "a"), (.ofInt 5, "a"), (.ofInt 20, "a"), (.ofInt 21, "a")]
        = [first, second, third, fourth] := by decide +kernel
  exact ⟨hVisits, visits_cached "script" answer 0 _ 500 _ [first] _ hVisits,
    visits_cached "script" answer 0 _ 500 _ [first, second, third] _ hVisits⟩

/-- Where the time to live cannot be counted, a load fails although the
inner loader gives a text. -/
theorem visits_uncountable :
    let visit : Visit Double := ⟨.ofInt 1000, "a", .error .uncountable, [("a", .ok "A")]⟩
    (Loader.cached (.leaf (⟨[("a", "A")], []⟩, [])) (.empty (.ofInt (10 ^ 400)) 500)).visits
        (recordingKind "memory" Store.load) [(.ofInt 1000, "a")] = [visit] ∧
      visit.asked ≠ [] ∧ visit.asked ≠ [(visit.wanted, visit.outcome)] := by
  intro visit
  have hVisits : (Loader.cached (.leaf (⟨[("a", "A")], []⟩, []))
      (.empty (.ofInt (10 ^ 400)) 500)).visits (recordingKind "memory" Store.load)
        [(.ofInt 1000, "a")] = [visit] := by decide +kernel
  exact ⟨hVisits, by decide, by decide⟩

end TreeTemplate
