/-
TreeTemplate.Proofs.Partial.Eviction — what a cache drops (`TTLCache`, whose
`set` makes room before it writes).

A cache whose size has a limit never holds more entries than that, and it
drops no entry without need: those whose time has passed first, and only if
it is still full one more, whose last use is longest ago.

* `OrderedMoment` — times of which "later than" is a strict order.
* `Cache.Operation`, `Cache.run` — what can be done with a cache, and a
  history of operations, each at its time.
* `Cache.trace` — what is seen of a cache along a history.
* `Cache.SpareRoom` — the entries that are left when room has been made.
* `Cache.run_bounded` — size, counts and entries after any history.
-/
import TreeTemplate.Partial.Cache
import TreeTemplate.Proofs.Table
import Mathlib.Data.Bool.Count
import Mathlib.Data.List.Induction

namespace TreeTemplate

variable {τ α β : Type} [Moment τ]

/-! ## 1. Times -/

/-- Times of which "later than" is a strict order. -/
class OrderedMoment (τ : Type) [Moment τ] : Prop where
  isAfter_irrefl (s : τ) : Moment.isAfter s s = false
  isAfter_trans {s t u : τ} : Moment.isAfter s t = true → Moment.isAfter t u = true →
    Moment.isAfter s u = true

instance : OrderedMoment Double where
  isAfter_irrefl s := by simp [Moment.isAfter, Double.lt]
  isAfter_trans {s t u} hst htu := by
    simp only [Moment.isAfter, Double.lt, Bool.and_eq_true, Bool.not_eq_true', decide_eq_true_eq]
      at hst htu ⊢
    exact ⟨⟨htu.1.1, hst.1.2⟩, by omega⟩

open Moment (isAfter)

namespace Cache

/-! ## 2. The longest unused entry -/

section LongestUnused

variable [OrderedMoment τ]

/-- The entry that is found stands among those that are searched, and no
other was used earlier. -/
theorem longestUnusedFrom_spec (found : Text × CacheEntry τ α) (rest : Table (CacheEntry τ α)) :
    longestUnusedFrom found rest ∈ found :: rest ∧ ∀ entry ∈ found :: rest,
      isAfter (longestUnusedFrom found rest).2.lastUse entry.2.lastUse = false := by
  suffices h : longestUnusedFrom found rest ∈ found :: rest ∧
      (longestUnusedFrom found rest = found ∨
        isAfter found.2.lastUse (longestUnusedFrom found rest).2.lastUse = true) ∧
      ∀ entry ∈ found :: rest,
        isAfter (longestUnusedFrom found rest).2.lastUse entry.2.lastUse = false from ⟨h.1, h.2.2⟩
  induction rest generalizing found with
  | nil =>
    refine ⟨List.mem_cons_self, .inl rfl, fun entry hEntry => ?_⟩
    rw [List.mem_singleton.1 hEntry]
    exact OrderedMoment.isAfter_irrefl _
  | cons entry rest ih =>
    rw [longestUnusedFrom]
    split
    · next hEarlier =>
      obtain ⟨hMem, hFound, hLeast⟩ := ih entry
      have hBefore : isAfter found.2.lastUse (longestUnusedFrom entry rest).2.lastUse = true := by
        rcases hFound with hSame | hAfter
        · rw [hSame]
          exact hEarlier
        · exact OrderedMoment.isAfter_trans hEarlier hAfter
      refine ⟨List.mem_cons_of_mem _ hMem, .inr hBefore, List.forall_mem_cons.2 ⟨?_, hLeast⟩⟩
      rw [← Bool.not_eq_true]
      intro hAfter
      have hSelf := OrderedMoment.isAfter_trans hAfter hBefore
      rw [OrderedMoment.isAfter_irrefl] at hSelf
      cases hSelf
    · next hLater =>
      obtain ⟨hMem, hFound, hLeast⟩ := ih found
      obtain ⟨hLeastFound, hLeastRest⟩ := List.forall_mem_cons.1 hLeast
      have hEntry : isAfter (longestUnusedFrom found rest).2.lastUse entry.2.lastUse = false := by
        rw [← Bool.not_eq_true]
        intro hAfter
        rcases hFound with hSame | hBefore
        · rw [hSame] at hAfter
          exact hLater hAfter
        · exact hLater (OrderedMoment.isAfter_trans hBefore hAfter)
      refine ⟨?_, hFound, List.forall_mem_cons.2 ⟨hLeastFound, List.forall_mem_cons.2
        ⟨hEntry, hLeastRest⟩⟩⟩
      rcases List.mem_cons.1 hMem with hSame | hRest
      · rw [hSame]
        exact List.mem_cons_self
      · exact List.mem_cons_of_mem _ (List.mem_cons_of_mem _ hRest)

/-- The entry that is dropped. -/
theorem exists_dropLongestUnused {entries : Table (CacheEntry τ α)} (h : entries ≠ []) :
    ∃ victim ∈ entries, dropLongestUnused entries = entries.erase victim.1 ∧
      ∀ entry ∈ entries, isAfter victim.2.lastUse entry.2.lastUse = false := by
  cases entries with
  | nil => exact absurd rfl h
  | cons first rest =>
    obtain ⟨hMem, hLeast⟩ := longestUnusedFrom_spec first rest
    exact ⟨longestUnusedFrom first rest, hMem, rfl, hLeast⟩

end LongestUnused

/-! ## 3. Room for one more entry -/

/-- The entries `others` are what is left of `entries` when there is room
for one more: the passed ones are dropped, but if there are none of them and
the limit is reached, one whose last use is longest ago. -/
def SpareRoom (now : τ) (limit : Int) (entries others : Table (CacheEntry τ α)) : Prop :=
  if (entries.length : Int) = limit ∧ ∀ entry ∈ entries, isAfter now entry.2.expires = false then
    ∃ victim ∈ entries, others = entries.erase victim.1 ∧ others.length + 1 = entries.length ∧
      ∀ entry ∈ entries, isAfter victim.2.lastUse entry.2.lastUse = false
  else others = entries.filter fun entry => !isAfter now entry.2.expires

/-- An invariant of caches: the names are distinct, and no more than the
limit allows. -/
structure Bounded (cache : Cache τ α) : Prop where
  nodup : cache.entries.names.Nodup
  size_le : 0 < cache.maxSize → (cache.size : Int) ≤ cache.maxSize

omit [Moment τ] in
/-- Fewer entries are within the limit as well. -/
theorem Bounded.sublist {cache other : Cache τ α} (h : cache.Bounded)
    (hEntries : other.entries.Sublist cache.entries) (hLimit : other.maxSize = cache.maxSize) :
    other.Bounded := by
  refine ⟨h.nodup.sublist (hEntries.map Prod.fst), fun hPositive => ?_⟩
  rw [hLimit] at hPositive ⊢
  have hSize := h.size_le hPositive
  have hFewer := hEntries.length_le
  simp only [size] at hSize ⊢
  omega

theorem unexpired_eq_self_iff {now : τ} {entries : Table (CacheEntry τ α)} :
    unexpired now entries = entries ↔ ∀ entry ∈ entries, isAfter now entry.2.expires = false := by
  simp [unexpired]

/-- Within the limit, at most one entry is dropped besides the passed ones. -/
theorem spareRoom_makeRoom [OrderedMoment τ] (now : τ) {limit : Int} (hLimit : 0 < limit)
    {entries : Table (CacheEntry τ α)} (hNodup : entries.names.Nodup)
    (hSize : (entries.length : Int) ≤ limit) :
    SpareRoom now limit entries (makeRoom now limit.toNat entries) := by
  have hFewer : (unexpired now entries).length ≤ entries.length := List.length_filter_le _ _
  unfold SpareRoom
  split
  · next hFull =>
    obtain ⟨hLength, hFresh⟩ := hFull
    have hNil : entries ≠ [] := by
      rintro rfl
      simp only [List.length_nil] at hLength
      omega
    have hOne : entries.length + 1 - limit.toNat = 1 := by omega
    obtain ⟨victim, hVictim, hDrop, hLeast⟩ := exists_dropLongestUnused hNil
    refine ⟨victim, hVictim, ?_, ?_, hLeast⟩
    · simp only [makeRoom, unexpired_eq_self_iff.2 hFresh, hOne]
      exact hDrop
    · simp only [makeRoom, unexpired_eq_self_iff.2 hFresh, hOne]
      show (dropLongestUnused entries).length + 1 = _
      rw [hDrop]
      exact Table.length_erase hNodup hVictim
  · next hSpare =>
    -- If all entries were left, there would be none passed and fewer than the limit.
    have hRoom : (unexpired now entries).length + 1 - limit.toNat = 0 := by
      by_cases hSame : (unexpired now entries).length = entries.length
      · have hFresh := unexpired_eq_self_iff.1 (List.filter_sublist.eq_of_length hSame)
        have hLength : (entries.length : Int) ≠ limit := fun e => hSpare ⟨e, hFresh⟩
        omega
      · omega
    simp only [makeRoom, hRoom]
    rfl

/-! ## 4. Histories -/

/-- What can be done with a cache. -/
inductive Operation (τ α : Type) where
  | set (name : Text) (value : α) (ttl : Option (Lifetime τ))
  | get (name : Text)
  | delete (name : Text)
  | clear

/-- The cache after an operation at a time. -/
def after (cache : Cache τ α) : τ × Operation τ α → Cache τ α
  | (now, .set name value ttl) => (cache.set now name value ttl).2
  | (now, .get name) => (cache.get now name).2
  | (_, .delete name) => cache.delete name
  | (_, .clear) => cache.clear

/-- The cache after operations, one after another. -/
def run (cache : Cache τ α) (history : List (τ × Operation τ α)) : Cache τ α :=
  history.foldl after cache

/-- What is seen along a history of a cache: `view` looks at each operation
and at the cache before it. -/
def trace (view : Cache τ α → τ × Operation τ α → Option β) :
    Cache τ α → List (τ × Operation τ α) → List β
  | _, [] => []
  | cache, step :: rest => (view cache step).toList ++ trace view (cache.after step) rest

/-- Whether a look-up finds an entry. -/
def found? (cache : Cache τ α) : τ × Operation τ α → Option Bool
  | (now, .get name) => some (cache.get now name).1.isSome
  | _ => none

/-- Whether an operation is a look-up. -/
def Operation.isLookUp : Operation τ α → Bool
  | get _ => true
  | _ => false

theorem run_append (cache : Cache τ α) (earlier later : List (τ × Operation τ α)) :
    cache.run (earlier ++ later) = (cache.run earlier).run later :=
  List.foldl_append ..

theorem trace_append (view : Cache τ α → τ × Operation τ α → Option β) (cache : Cache τ α)
    (earlier later : List (τ × Operation τ α)) :
    trace view cache (earlier ++ later)
      = trace view cache earlier ++ trace view (cache.run earlier) later := by
  induction earlier generalizing cache with
  | nil => rfl
  | cons step rest ih => rw [List.cons_append, trace, trace, ih, List.append_assoc]; rfl

/-- What one operation keeps, a history keeps. -/
theorem run_induct {p : Cache τ α → Prop} (hStep : ∀ cache step, p cache → p (cache.after step))
    {cache : Cache τ α} (h : p cache) (history : List (τ × Operation τ α)) :
    p (cache.run history) := by
  induction history generalizing cache with
  | nil => exact h
  | cons step rest ih => exact ih (hStep cache step h)

/-! ## 5. What one operation does -/

/-- All that a look-up can do. -/
theorem get_cases (now : τ) (name : Text) (cache : Cache τ α) :
    (cache.entries.has name = false ∧
      cache.get now name = (none, { cache with misses := cache.misses + 1 })) ∨
    (∃ entry, (name, entry) ∈ cache.entries ∧ isAfter now entry.expires = true ∧
      cache.get now name = (none, { cache with
        entries := cache.entries.erase name, misses := cache.misses + 1 })) ∨
    (∃ entry, (name, entry) ∈ cache.entries ∧ isAfter now entry.expires = false ∧
      cache.get now name = (some entry.value, { cache with
        entries := cache.entries.put name { entry with lastUse := now }
        hits := cache.hits + 1 })) := by
  unfold get
  cases hGet : cache.entries.get? name with
  | none => exact .inl ⟨Table.get?_eq_none_iff.1 hGet, rfl⟩
  | some entry =>
    have hMem := Table.mem_of_get? hGet
    cases hPassed : isAfter now entry.expires with
    | true => exact .inr (.inl ⟨entry, hMem, hPassed, by simp [hPassed]⟩)
    | false => exact .inr (.inr ⟨entry, hMem, hPassed, by simp [hPassed]⟩)

/-- All that writing can do: there is room, and the entry is written or not. -/
theorem set_cases (now : τ) (name : Text) (value : α) (ttl : Option (Lifetime τ))
    (cache : Cache τ α) :
    (∃ duration, cache.effectiveTtl ttl = .counted duration ∧
      cache.set now name value ttl = (true, { cache with
        entries := (cache.roomFor now name).put name ⟨value, Moment.plus now duration, now⟩ })) ∨
    (cache.effectiveTtl ttl = .uncountable ∧
      cache.set now name value ttl = (false, { cache with entries := cache.roomFor now name })) := by
  unfold set
  cases cache.effectiveTtl ttl with
  | counted duration => exact .inl ⟨duration, rfl, rfl⟩
  | uncountable => exact .inr ⟨rfl, rfl⟩

theorem settings_after (cache : Cache τ α) (step : τ × Operation τ α) :
    (cache.after step).maxSize = cache.maxSize ∧
      (cache.after step).defaultTtl = cache.defaultTtl := by
  obtain ⟨now, operation⟩ := step
  cases operation with
  | set name value ttl =>
    obtain ⟨_, _, hSet⟩ | ⟨_, hSet⟩ := set_cases now name value ttl cache <;> simp [after, hSet]
  | get name =>
    obtain ⟨_, hGet⟩ | ⟨_, _, _, hGet⟩ | ⟨_, _, _, hGet⟩ := get_cases now name cache <;>
      simp [after, hGet]
  | delete name => exact ⟨rfl, rfl⟩
  | clear => exact ⟨rfl, rfl⟩

/-- Room is made only for a name that is new, in a cache with a limit. -/
theorem spareRoom_roomFor [OrderedMoment τ] {cache : Cache τ α} (h : cache.Bounded)
    (hLimit : 0 < cache.maxSize) (now : τ) {name : Text} (hNew : cache.entries.has name = false) :
    SpareRoom now cache.maxSize cache.entries (cache.roomFor now name) := by
  rw [roomFor, if_pos ⟨hLimit, hNew⟩]
  exact spareRoom_makeRoom now hLimit h.nodup (h.size_le hLimit)

/-- There is room. -/
theorem SpareRoom.length_lt {now : τ} {limit : Int} {entries others : Table (CacheEntry τ α)}
    (h : SpareRoom now limit entries others) (hSize : (entries.length : Int) ≤ limit) :
    (others.length : Int) < limit := by
  unfold SpareRoom at h
  split at h
  · obtain ⟨_, _, _, hOne, _⟩ := h
    omega
  · next hSpare =>
    subst h
    have hFewer := List.length_filter_le (fun entry => !isAfter now entry.2.expires) entries
    by_cases hSame : (entries.filter fun entry => !isAfter now entry.2.expires).length
        = entries.length
    · have hFresh := unexpired_eq_self_iff.1 (List.filter_sublist.eq_of_length hSame)
      have hLength : (entries.length : Int) ≠ limit := fun e => hSpare ⟨e, hFresh⟩
      omega
    · omega

theorem roomFor_eq_self {cache : Cache τ α} {name : Text} (h : cache.entries.has name = true)
    (now : τ) : cache.roomFor now name = cache.entries :=
  if_neg fun hNew => by simp [h] at hNew

/-- Nothing is dropped while there is room and nothing has passed. -/
theorem roomFor_eq_self_of_fresh {now : τ} {cache : Cache τ α}
    (hFresh : ∀ entry ∈ cache.entries, isAfter now entry.2.expires = false)
    (hRoom : 0 < cache.maxSize → (cache.size : Int) < cache.maxSize) (name : Text) :
    cache.roomFor now name = cache.entries := by
  unfold roomFor
  split
  · next hNew =>
    have hSize : (cache.entries.length : Int) < cache.maxSize := hRoom hNew.1
    have hNone : cache.entries.length + 1 - cache.maxSize.toNat = 0 := by omega
    simp only [makeRoom, unexpired_eq_self_iff.2 hFresh, hNone]
    rfl
  · rfl

theorem dropUnused_sublist (n : Nat) (entries : Table (CacheEntry τ α)) :
    (dropUnused n entries).Sublist entries := by
  induction n generalizing entries with
  | zero => exact List.Sublist.refl _
  | succ n ih =>
    refine (ih _).trans ?_
    unfold dropLongestUnused
    split
    · exact List.filter_sublist
    · exact List.Sublist.refl _

/-- Making room adds nothing. -/
theorem roomFor_sublist (now : τ) (name : Text) (cache : Cache τ α) :
    (cache.roomFor now name).Sublist cache.entries := by
  unfold roomFor
  split
  · exact (dropUnused_sublist _ _).trans List.filter_sublist
  · exact List.Sublist.refl _

/-- The entries of other names after writing are those that room was made among. -/
theorem erase_set (now : τ) (name : Text) (value : α) (ttl : Option (Lifetime τ))
    (cache : Cache τ α) :
    (cache.set now name value ttl).2.entries.erase name = (cache.roomFor now name).erase name := by
  obtain ⟨_, _, hSet⟩ | ⟨_, hSet⟩ := set_cases now name value ttl cache
  · rw [hSet]
    exact Table.erase_put ..
  · rw [hSet]

/-- Within the limit there is room for a new entry. -/
theorem length_roomFor [OrderedMoment τ] {cache : Cache τ α} (h : cache.Bounded)
    (hLimit : 0 < cache.maxSize) (now : τ) (name : Text) :
    ((cache.roomFor now name).length : Int) ≤ cache.maxSize ∧
      ((cache.roomFor now name).has name = false →
        ((cache.roomFor now name).length : Int) < cache.maxSize) := by
  cases hHas : cache.entries.has name with
  | true =>
    rw [roomFor_eq_self hHas]
    exact ⟨h.size_le hLimit, fun hNew => by simp [hHas] at hNew⟩
  | false =>
    have hLength := (spareRoom_roomFor h hLimit now hHas).length_lt (h.size_le hLimit)
    exact ⟨Int.le_of_lt hLength, fun _ => hLength⟩

/-- One operation keeps the names distinct and the size within the limit. -/
theorem Bounded.after [OrderedMoment τ] {cache : Cache τ α} (h : cache.Bounded)
    (step : τ × Operation τ α) : (cache.after step).Bounded := by
  obtain ⟨now, operation⟩ := step
  cases operation with
  | set name value ttl =>
    have hNodup : (cache.roomFor now name).names.Nodup :=
      h.nodup.sublist ((roomFor_sublist now name cache).map Prod.fst)
    obtain ⟨duration, _, hSet⟩ | ⟨_, hSet⟩ := set_cases now name value ttl cache
    · rw [Cache.after, hSet]
      refine ⟨Table.nodup_names_put hNodup name _, fun hLimit => ?_⟩
      obtain ⟨hLe, hLt⟩ := length_roomFor h hLimit now name
      show ((Table.put _ _ _).length : Int) ≤ cache.maxSize
      rw [Table.length_put]
      split
      · exact hLe
      · next hNew =>
        have hLt := hLt (by simpa using hNew)
        omega
    · rw [Cache.after, hSet]
      exact ⟨hNodup, fun hLimit => (length_roomFor h hLimit now name).1⟩
  | get name =>
    obtain ⟨_, hGet⟩ | ⟨_, _, _, hGet⟩ | ⟨entry, hMem, _, hGet⟩ := get_cases now name cache
    · rw [Cache.after, hGet]
      exact h.sublist (List.Sublist.refl _) rfl
    · rw [Cache.after, hGet]
      exact h.sublist List.filter_sublist rfl
    · rw [Cache.after, hGet]
      have hHas : cache.entries.has name = true :=
        Table.has_eq_true_iff.2 (List.mem_map.2 ⟨_, hMem, rfl⟩)
      refine ⟨Table.nodup_names_put h.nodup name _, fun hLimit => ?_⟩
      show ((Table.put _ _ _).length : Int) ≤ cache.maxSize
      rw [Table.length_put, if_pos hHas]
      exact h.size_le hLimit
  | delete name => exact h.sublist List.filter_sublist rfl
  | clear => exact h.sublist (List.nil_sublist _) rfl

omit [Moment τ] in
theorem bounded_empty (ttl : Lifetime τ) (limit : Int) : (empty ttl limit : Cache τ α).Bounded :=
  ⟨List.nodup_nil, fun hLimit => Int.le_of_lt hLimit⟩

/-- Every cache that starts empty stays within its limit. -/
theorem bounded_run [OrderedMoment τ] (ttl : Lifetime τ) (limit : Int)
    (history : List (τ × Operation τ α)) : ((empty ttl limit).run history).Bounded :=
  run_induct (fun _ step h => h.after step) (bounded_empty ttl limit) history

theorem settings_run (ttl : Lifetime τ) (limit : Int) (history : List (τ × Operation τ α)) :
    ((empty ttl limit).run history).maxSize = limit ∧
      ((empty ttl limit).run history).defaultTtl = ttl :=
  run_induct (p := fun cache => cache.maxSize = limit ∧ cache.defaultTtl = ttl)
    (fun cache step h => ⟨(settings_after cache step).1.trans h.1,
      (settings_after cache step).2.trans h.2⟩)
    ⟨rfl, rfl⟩ history

/-! ## 6. Counts -/

/-- A look-up is counted as a hit or as a miss; nothing else is counted. -/
theorem counts_after (cache : Cache τ α) {step : τ × Operation τ α} (h : step.2 ≠ .clear) :
    (cache.after step).hits = cache.hits + (found? cache step).toList.count true ∧
      (cache.after step).misses = cache.misses + (found? cache step).toList.count false := by
  obtain ⟨now, operation⟩ := step
  cases operation with
  | set name value ttl =>
    obtain ⟨_, _, hSet⟩ | ⟨_, hSet⟩ := set_cases now name value ttl cache <;>
      simp [after, hSet, found?]
  | get name =>
    obtain ⟨_, hGet⟩ | ⟨_, _, _, hGet⟩ | ⟨_, _, _, hGet⟩ := get_cases now name cache <;>
      simp [after, hGet, found?]
  | delete name => simp [after, delete, found?]
  | clear => exact absurd rfl h

theorem counts_run (cache : Cache τ α) {history : List (τ × Operation τ α)}
    (h : ∀ step ∈ history, step.2 ≠ .clear) :
    (cache.run history).hits = cache.hits + (trace found? cache history).count true ∧
      (cache.run history).misses = cache.misses + (trace found? cache history).count false := by
  induction history generalizing cache with
  | nil => exact ⟨rfl, rfl⟩
  | cons step rest ih =>
    obtain ⟨hStep, hRest⟩ := List.forall_mem_cons.1 h
    obtain ⟨hHits, hMisses⟩ := counts_after cache hStep
    obtain ⟨hHitsRest, hMissesRest⟩ := ih (cache.after step) hRest
    rw [trace, List.count_append, List.count_append, ← Nat.add_assoc, ← Nat.add_assoc, ← hHits,
      ← hMisses]
    exact ⟨hHitsRest, hMissesRest⟩

/-- Every look-up is seen once. -/
theorem length_trace_found (cache : Cache τ α) (history : List (τ × Operation τ α)) :
    (trace found? cache history).length = history.countP fun step => step.2.isLookUp := by
  induction history generalizing cache with
  | nil => rfl
  | cons step rest ih =>
    have hStep : (found? cache step).toList.length = if step.2.isLookUp then 1 else 0 := by
      obtain ⟨now, operation⟩ := step
      cases operation <;> rfl
    rw [trace, List.length_append, ih, hStep, List.countP_cons, Nat.add_comm]

/-- Whether counting starts after a history: at the beginning, and when
everything has been dropped. -/
def Restarts (history : List (τ × Operation τ α)) : Prop :=
  ∀ step ∈ history.getLast?, step.2 = .clear

theorem counts_of_restarts {history : List (τ × Operation τ α)} (h : Restarts history)
    (ttl : Lifetime τ) (limit : Int) :
    ((empty ttl limit).run history).hits = 0 ∧ ((empty ttl limit).run history).misses = 0 := by
  induction history using List.reverseRecOn with
  | nil => exact ⟨rfl, rfl⟩
  | append_singleton earlier step =>
    obtain ⟨now, operation⟩ := step
    obtain rfl : operation = .clear := h (now, operation) (by simp)
    rw [run_append]
    exact ⟨rfl, rfl⟩

/-! ## 7. Any history -/

/-- After any history of a cache with a limit there are no more entries than
that; a limit that is not positive is none. Look-ups since everything was last
dropped are counted, those that found an entry as hits. Writing under a name that
is there drops nothing; writing under a new one leaves of the others what there
is room for. -/
theorem run_bounded [OrderedMoment τ] (ttl : Lifetime τ) {limit : Int} (hLimit : 0 < limit)
    (history : List (τ × Operation τ α)) :
    let cache := (empty ttl limit).run history
    (cache.size : Int) ≤ limit ∧
    (∀ earlier later, history = earlier ++ later → Restarts earlier →
      (∀ step ∈ later, step.2 ≠ .clear) →
      cache.hits + cache.misses = later.countP (fun step => step.2.isLookUp) ∧
        cache.hits = (trace found? ((empty ttl limit).run earlier) later).count true) ∧
    ∀ now name value given,
      let written := (cache.set now name value given).2
      if cache.entries.has name then
        written.entries.names = cache.entries.names ∧
          written.entries.erase name = cache.entries.erase name
      else SpareRoom now limit cache.entries (written.entries.erase name) := by
  intro cache
  have hBounded : cache.Bounded := bounded_run ttl limit history
  have hMaxSize : cache.maxSize = limit := (settings_run ttl limit history).1
  refine ⟨?_, ?_, ?_⟩
  · rw [← hMaxSize]
    exact hBounded.size_le (hMaxSize ▸ hLimit)
  · intro earlier later hHistory hRestarts hLater
    obtain ⟨hHits, hMisses⟩ := counts_run ((empty ttl limit).run earlier) hLater
    obtain ⟨hNoHits, hNoMisses⟩ := counts_of_restarts hRestarts ttl limit
    rw [← run_append, ← hHistory, hNoHits, Nat.zero_add] at hHits
    rw [← run_append, ← hHistory, hNoMisses, Nat.zero_add] at hMisses
    refine ⟨?_, hHits⟩
    rw [← length_trace_found ((empty ttl limit).run earlier), hHits, hMisses]
    exact List.count_true_add_count_false _
  · intro now name value given
    dsimp only
    rw [erase_set]
    split
    · next hHas =>
      rw [roomFor_eq_self hHas]
      refine ⟨?_, rfl⟩
      obtain ⟨_, _, hSet⟩ | ⟨_, hSet⟩ := set_cases now name value given cache
      · rw [hSet, roomFor_eq_self hHas, Table.names_put, if_pos hHas]
      · rw [hSet, roomFor_eq_self hHas]
    · next hHas =>
      have hNew : cache.entries.has name = false := by simpa using hHas
      have hSpare := spareRoom_roomFor hBounded (hMaxSize ▸ hLimit) now hNew
      have hSelf : (cache.roomFor now name).erase name = cache.roomFor now name :=
        List.filter_eq_self.2 fun entry hEntry => by
          simpa using Table.not_mem_of_has_eq_false hNew ((roomFor_sublist now name cache).subset hEntry)
      rw [hSelf, ← hMaxSize]
      exact hSpare

/-- Two names take turns in a cache for one entry. -/
theorem run_bounded_two_names :
    let history : List (Double × Operation Double Nat) :=
      [(.ofInt 1, .set "a" 1 none), (.ofInt 2, .set "b" 2 none), (.ofInt 3, .get "a"),
        (.ofInt 4, .get "b")]
    let cache := (empty (.ofInt 300) 1).run history
    let written := (cache.set (.ofInt 5) "c" 3 none).2
    (cache.size : Int) ≤ 1 ∧ (cache.hits + cache.misses = 2 ∧ cache.hits = 1) ∧
      SpareRoom (.ofInt 5) 1 cache.entries (written.entries.erase "c") := by
  intro history cache written
  obtain ⟨hSize, hCounts, hWritten⟩ := run_bounded (.ofInt 300) (by decide : (0 : Int) < 1) history
  refine ⟨hSize, ?_, ?_⟩
  · obtain ⟨hTotal, hHits⟩ := hCounts [] history rfl (by simp [Restarts]) (by simp [history])
    exact ⟨hTotal, hHits.trans (by decide +kernel)⟩
  · have hNew : ¬ cache.entries.has "c" = true := by decide +kernel
    have hSpare := hWritten (.ofInt 5) "c" 3 none
    rw [if_neg hNew] at hSpare
    exact hSpare

end Cache

end TreeTemplate
