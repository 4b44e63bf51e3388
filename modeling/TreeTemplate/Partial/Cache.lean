/-
TreeTemplate.Partial.Cache — values that are kept for a while (`TTLCache`,
specification §15).

An entry of the cache can be found until its time has passed. A cache with
a positive size makes room before it takes a new name: it drops what has
passed, and, if it is still full, the entry whose last use is longest ago.

* `Moment` — what the cache asks of times, and `Lifetime`.
* `Cache.get`, `Cache.set`, `Cache.delete`, `Cache.clear` — its operations.
* `Cache.stats` — counts of entries, hits and misses.
-/
import TreeTemplate.Number.Double
import TreeTemplate.Table

namespace TreeTemplate

/-- Times, and durations of the same type. -/
class Moment (τ : Type) where
  /-- The time that is a duration after another. -/
  plus : τ → τ → τ
  /-- Whether the first time is later than the second. -/
  isAfter : τ → τ → Bool
  /-- Whether a duration is zero. -/
  isZero : τ → Bool

instance : Moment Double where
  plus := Double.add
  isAfter s t := t.lt s
  isZero := Double.isZero

/-- How long something is kept. -/
inductive Lifetime (τ : Type) where
  | counted (duration : τ)
  /-- A duration that no clock can count. -/
  | uncountable
deriving DecidableEq

/-- Whether a lifetime is zero. -/
def Lifetime.isZero {τ : Type} [Moment τ] : Lifetime τ → Bool
  | counted duration => Moment.isZero duration
  | uncountable => false

/-- That many seconds. -/
def Lifetime.ofInt (seconds : Int) : Lifetime Double :=
  let duration := Double.ofInt seconds
  if duration.finite?.isSome then counted duration else uncountable

/-- A value with the last time at which it can be found, and the time of
its last use. -/
structure CacheEntry (τ α : Type) where
  value : α
  expires : τ
  lastUse : τ
deriving DecidableEq

/-- Entries under names, with the settings and the counts of a cache. A
size that is not positive sets no limit. -/
structure Cache (τ α : Type) where
  entries : Table (CacheEntry τ α)
  defaultTtl : Lifetime τ
  maxSize : Int
  hits : Nat
  misses : Nat

namespace Cache

variable {τ α : Type}

/-- A cache without entries. -/
def empty (defaultTtl : Lifetime τ) (maxSize : Int) : Cache τ α := ⟨[], defaultTtl, maxSize, 0, 0⟩

/-- The count of entries, passed ones too. -/
def size (cache : Cache τ α) : Nat := cache.entries.length

/-! ## 1. Making room -/

/-- Of an entry and the ones after it the one whose last use is longest
ago; of several the first. -/
def longestUnusedFrom [Moment τ] :
    Text × CacheEntry τ α → Table (CacheEntry τ α) → Text × CacheEntry τ α
  | found, [] => found
  | found, entry :: rest =>
    longestUnusedFrom
      (if Moment.isAfter found.2.lastUse entry.2.lastUse then entry else found) rest

/-- The entry whose last use is longest ago. -/
def longestUnused? [Moment τ] : Table (CacheEntry τ α) → Option (Text × CacheEntry τ α)
  | [] => none
  | entry :: rest => some (longestUnusedFrom entry rest)

/-- The entries without the one whose last use is longest ago. -/
def dropLongestUnused [Moment τ] (entries : Table (CacheEntry τ α)) : Table (CacheEntry τ α) :=
  match longestUnused? entries with
  | some (name, _) => entries.erase name
  | none => entries

/-- Drops the given number of entries, the longest unused first. -/
def dropUnused [Moment τ] : Nat → Table (CacheEntry τ α) → Table (CacheEntry τ α)
  | 0, entries => entries
  | n + 1, entries => dropUnused n (dropLongestUnused entries)

/-- The entries whose time has not passed. -/
def unexpired [Moment τ] (now : τ) (entries : Table (CacheEntry τ α)) :
    Table (CacheEntry τ α) :=
  entries.filter fun entry => !Moment.isAfter now entry.2.expires

/-- Makes room for one more entry. -/
def makeRoom [Moment τ] (now : τ) (maxSize : Nat) (entries : Table (CacheEntry τ α)) :
    Table (CacheEntry τ α) :=
  let fresh := unexpired now entries
  dropUnused (fresh.length + 1 - maxSize) fresh

/-- The entries after room has been made for a name, if it is new and the
size has a limit. -/
def roomFor [Moment τ] (now : τ) (name : Text) (cache : Cache τ α) : Table (CacheEntry τ α) :=
  if 0 < cache.maxSize ∧ cache.entries.has name = false then
    makeRoom now cache.maxSize.toNat cache.entries
  else cache.entries

/-! ## 2. Operations -/

/-- Looks a name up. An entry that is found is used; one whose time has
passed is dropped. -/
def get [Moment τ] (now : τ) (name : Text) (cache : Cache τ α) : Option α × Cache τ α :=
  match cache.entries.get? name with
  | none => (none, { cache with misses := cache.misses + 1 })
  | some entry =>
    if Moment.isAfter now entry.expires then
      (none, { cache with entries := cache.entries.erase name, misses := cache.misses + 1 })
    else
      (some entry.value, { cache with
        entries := cache.entries.put name { entry with lastUse := now }
        hits := cache.hits + 1 })

/-- The time for which an entry is kept: the given one, unless it is
missing or zero. -/
def effectiveTtl [Moment τ] (cache : Cache τ α) : Option (Lifetime τ) → Lifetime τ
  | some ttl => if ttl.isZero then cache.defaultTtl else ttl
  | none => cache.defaultTtl

/-- Writes an entry. One whose time cannot be counted is not written, but
room has been made for it. Tells whether the entry has been written. -/
def set [Moment τ] (now : τ) (name : Text) (value : α) (ttl : Option (Lifetime τ))
    (cache : Cache τ α) : Bool × Cache τ α :=
  let entries := cache.roomFor now name
  match cache.effectiveTtl ttl with
  | .counted duration =>
    (true, { cache with entries := entries.put name ⟨value, Moment.plus now duration, now⟩ })
  | .uncountable => (false, { cache with entries := entries })

/-- Drops a name. -/
def delete (name : Text) (cache : Cache τ α) : Cache τ α :=
  { cache with entries := cache.entries.erase name }

/-- Drops everything, the counts too. -/
def clear (cache : Cache τ α) : Cache τ α := { cache with entries := [], hits := 0, misses := 0 }

/-! ## 3. Counts -/

/-- The share of hits among all look-ups, to three decimal places; `none`
if there were none. -/
def hitRate? (cache : Cache τ α) : Option Double :=
  if cache.hits + cache.misses = 0 then none
  else some (Double.roundedTo 3 (.ofRatio false cache.hits (cache.hits + cache.misses)))

end Cache

/-- The name under which the cache keeps what belongs to several names. -/
def cacheKey (parts : List Text) : Text := Text.joined ":" parts

end TreeTemplate
