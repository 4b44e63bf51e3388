/-
TreeTemplate.Proofs.Partial.Expiry — nothing is found after its time.

The time up to which an entry can be found is fixed when the entry is
written. Other operations use the entry, drop it or pass it by; only writing
under its name gives it another time. So behind that time a look-up finds
nothing, whatever has been done with the cache in between. The time follows
from the lifetime that is given with the entry, unless that is zero: then the
cache's own counts.

* `Cache.EndsAt` — the time of the entries of a name, and `Cache.EndsAt.run`,
  which says what keeps it.
* `Cache.NoneAfter` — nothing is found under a name after a time.
* `Cache.noneAfter_given` — what becomes of a lifetime that is given.
-/
import TreeTemplate.Proofs.Partial.Eviction

namespace TreeTemplate

variable {τ α : Type} [Moment τ]

open Moment (isAfter plus)

namespace Cache

/-! ## 1. The time of an entry -/

variable {cache : Cache τ α} {name : Text} {deadline : τ}

/-- Whether an operation writes under a name. -/
def Operation.Writes (name : Text) : Operation τ α → Prop
  | set other _ _ => other = name
  | _ => False

/-- Whether what stands under a name can be found up to a time. -/
def EndsAt (cache : Cache τ α) (name : Text) (deadline : τ) : Prop :=
  ∀ entry ∈ cache.entries, entry.1 = name → entry.2.expires = deadline

omit [Moment τ] in
theorem EndsAt.sublist (h : cache.EndsAt name deadline) {other : Cache τ α}
    (hEntries : other.entries.Sublist cache.entries) : other.EndsAt name deadline :=
  fun entry hEntry => h entry (hEntries.subset hEntry)

/-- What does not write under a name leaves the time as it is. -/
theorem EndsAt.after (h : cache.EndsAt name deadline) {step : τ × Operation τ α}
    (hStep : ¬ step.2.Writes name) : (cache.after step).EndsAt name deadline := by
  obtain ⟨now, operation⟩ := step
  cases operation with
  | set other value given =>
    have hRoom := roomFor_sublist now other cache
    obtain ⟨duration, _, hSet⟩ | ⟨_, hSet⟩ := set_cases now other value given cache
    · rw [Cache.after, hSet]
      intro entry hEntry hName
      rcases Table.mem_put.1 hEntry with rfl | ⟨hOld, _⟩
      · exact absurd hName hStep
      · exact h entry (hRoom.subset hOld) hName
    · rw [Cache.after, hSet]
      exact h.sublist hRoom
  | get other =>
    obtain ⟨_, hGet⟩ | ⟨_, _, _, hGet⟩ | ⟨found, hMem, _, hGet⟩ := get_cases now other cache
    · rw [Cache.after, hGet]
      exact h
    · rw [Cache.after, hGet]
      exact h.sublist List.filter_sublist
    · -- The entry is used, but its time stays.
      rw [Cache.after, hGet]
      intro entry hEntry hName
      rcases Table.mem_put.1 hEntry with rfl | ⟨hOld, _⟩
      · exact h (other, found) hMem hName
      · exact h entry hOld hName
  | delete other => exact h.sublist List.filter_sublist
  | clear => exact h.sublist (List.nil_sublist _)

theorem EndsAt.run (h : cache.EndsAt name deadline) {history : List (τ × Operation τ α)}
    (hHistory : ∀ step ∈ history, ¬ step.2.Writes name) :
    (cache.run history).EndsAt name deadline := by
  induction history generalizing cache with
  | nil => exact h
  | cons step rest ih =>
    obtain ⟨hStep, hRest⟩ := List.forall_mem_cons.1 hHistory
    exact ih (h.after hStep) hRest

theorem EndsAt.get_eq_none (h : cache.EndsAt name deadline) {now : τ}
    (hNow : isAfter now deadline = true) : (cache.get now name).1 = none := by
  obtain ⟨_, hGet⟩ | ⟨_, _, _, hGet⟩ | ⟨found, hMem, hFresh, _⟩ := get_cases now name cache
  · rw [hGet]
  · rw [hGet]
  · rw [h (name, found) hMem rfl, hNow] at hFresh
    cases hFresh

/-! ## 2. Writing -/

variable {now duration : τ} {value : α} {given : Option (Lifetime τ)}

/-- What is written, if its time can be counted. -/
theorem set_counted (h : cache.effectiveTtl given = .counted duration) :
    cache.set now name value given = (true, { cache with
      entries := (cache.roomFor now name).put name ⟨value, plus now duration, now⟩ }) := by
  rw [set, h]

theorem endsAt_set (h : cache.effectiveTtl given = .counted duration) :
    (cache.set now name value given).2.EndsAt name (plus now duration) := by
  rw [set_counted h]
  intro entry hEntry hName
  rcases Table.mem_put.1 hEntry with rfl | ⟨_, hNe⟩
  · rfl
  · exact absurd hName hNe

/-- What has just been written is found up to its time. -/
theorem get_set (h : cache.effectiveTtl given = .counted duration) {later : τ}
    (hLater : isAfter later (plus now duration) = false) :
    ((cache.set now name value given).2.get later name).1 = some value := by
  rw [set_counted h, get, Table.get?_put, if_pos rfl]
  simp [hLater]

/-! ## 3. Lifetimes that are given -/

/-- Whether nothing is found under a name after a time, whatever is done
before but to write under the name. -/
def NoneAfter (cache : Cache τ α) (name : Text) (deadline : τ) : Prop :=
  ∀ history : List (τ × Operation τ α), (∀ step ∈ history, ¬ step.2.Writes name) →
    ∀ later, isAfter later deadline = true → ((cache.run history).get later name).1 = none

theorem noneAfter_set (h : cache.effectiveTtl given = .counted duration) :
    (cache.set now name value given).2.NoneAfter name (plus now duration) :=
  fun _ hHistory _ hLater => ((endsAt_set h).run hHistory).get_eq_none hLater

/-- A lifetime that is given and is not zero is kept to. In place of one of
zero that of the cache counts; so nothing is found after the time of writing
exactly if every time after it is also after the lifetime of the cache. -/
theorem noneAfter_given (ttl : Lifetime τ) (limit : Int) (history : List (τ × Operation τ α)) (now : τ)
    (name : Text) (value : α) (given : τ) :
    let cache := (empty ttl limit).run history
    let written := cache.set now name value (some (.counted given))
    (Moment.isZero given = false →
      written.1 = true ∧ written.2.NoneAfter name (plus now given)) ∧
    (Moment.isZero given = true → ∀ usual, ttl = .counted usual →
      written.1 = true ∧ written.2.NoneAfter name (plus now usual) ∧
        (written.2.NoneAfter name (plus now given) ↔ ∀ later,
          isAfter later (plus now given) = true → isAfter later (plus now usual) = true)) := by
  intro cache written
  have hTtl : cache.defaultTtl = ttl := (settings_run ttl limit history).2
  refine ⟨fun hGiven => ?_, fun hZero usual hUsual => ?_⟩
  · have hEffective : cache.effectiveTtl (some (.counted given)) = .counted given :=
      if_neg (by simp [Lifetime.isZero, hGiven])
    exact ⟨congrArg Prod.fst (set_counted hEffective), noneAfter_set hEffective⟩
  · have hEffective : cache.effectiveTtl (some (.counted given)) = .counted usual :=
      (if_pos hZero).trans (hTtl.trans hUsual)
    refine ⟨congrArg Prod.fst (set_counted hEffective), noneAfter_set hEffective,
      fun hNone later hLater => ?_, fun hTimes other hOther later hLater =>
        noneAfter_set hEffective other hOther later (hTimes later hLater)⟩
    -- At a time between the two the entry that has just been written is found.
    by_contra hBetween
    have hFound : (written.2.get later name).1 = some value :=
      get_set hEffective (by simpa using hBetween)
    have hMissed : (written.2.get later name).1 = none :=
      hNone [] (List.forall_mem_nil _) later hLater
    rw [hMissed] at hFound
    cases hFound

/-- An entry for two seconds, which is used after one and in whose cache
another is written, is not found after three. -/
theorem noneAfter_given_two_seconds :
    let cache : Cache Double Nat := empty (.ofInt 300) 1000
    let written := cache.set (.ofInt 1000) "k" 1 (some (.counted (.ofInt 2)))
    let history : List (Double × Operation Double Nat) :=
      [(.ofInt 1001, .get "k"), (.ofInt 1001, .set "other" 2 none)]
    (Moment.isZero (Double.ofInt 2) = false ∧ (∀ step ∈ history, ¬ step.2.Writes "k") ∧
      isAfter (Double.ofInt 1003) (plus (.ofInt 1000) (.ofInt 2)) = true) ∧
    (written.2.get (.ofInt 1001) "k").1 = some 1 ∧
      ((written.2.run history).get (.ofInt 1003) "k").1 = none := by
  intro cache written history
  have hGiven : Moment.isZero (Double.ofInt 2) = false := by decide +kernel
  have hOther : ("other" : Text) ≠ "k" := by decide
  have hHistory : ∀ step ∈ history, ¬ step.2.Writes "k" := by
    simp [history, Operation.Writes, hOther]
  have hLater : isAfter (Double.ofInt 1003) (plus (.ofInt 1000) (.ofInt 2)) = true := by
    decide +kernel
  have hFound : (written.2.get (.ofInt 1001) "k").1 = some 1 := by decide +kernel
  obtain ⟨_, hNone⟩ := (noneAfter_given (.ofInt 300) 1000 [] (.ofInt 1000) "k" 1 (.ofInt 2)).1 hGiven
  exact ⟨⟨hGiven, hHistory, hLater⟩, hFound, hNone history hHistory _ hLater⟩

/-- An entry that is given no time at all is found a second later, in a cache
that keeps entries for ten. -/
theorem not_noneAfter_zero :
    let cache : Cache Double Nat := empty (.ofInt 10) 1000
    let written := cache.set (.ofInt 1000) "k" 1 (some (.counted (.ofInt 0)))
    ¬ written.2.NoneAfter "k" (plus (.ofInt 1000) (.ofInt 0)) := by
  intro cache written hNone
  have hLater : isAfter (Double.ofInt 1001) (plus (.ofInt 1000) (.ofInt 0)) = true := by
    decide +kernel
  have hFound : (written.2.get (.ofInt 1001) "k").1 = some 1 := by decide +kernel
  have hMissed : (written.2.get (.ofInt 1001) "k").1 = none :=
    hNone [] (List.forall_mem_nil _) _ hLater
  rw [hMissed] at hFound
  cases hFound

end Cache

end TreeTemplate
