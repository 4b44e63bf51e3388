/-
TreeTemplate.Partial.Loader — loaders made of loaders (`ChainLoader`,
`CachedLoader` and `InMemoryLoader`, specification §15).

A loader is a leaf, which has partials itself; a chain, which asks its
loaders from left to right until one does not miss; or a cached loader,
which keeps what another has loaded. What leaves are is left open.

* `Loader` — the type, and `Loader.load`, one request.
* `Loader.leaves` — the leaves, from left to right.
* `Leaf` — the leaves there are: a store in memory, a directory, a server, and
  a leaf that always fails.
* `Loader.source` — a loader as a source for rendering.
-/
import TreeTemplate.Partial.Cache
import TreeTemplate.Partial.Directory
import TreeTemplate.Partial.Remote
import TreeTemplate.Partial.Source

namespace TreeTemplate

/-! ## 1. Loaders over any leaves -/

/-- A loader with leaves of type `ℓ` and times of type `τ`. -/
inductive Loader (τ ℓ : Type) where
  | leaf (leaf : ℓ)
  | chain (first : Loader τ ℓ) (rest : List (Loader τ ℓ))
  | cached (inner : Loader τ ℓ) (cache : Cache τ Text)

/-- What can be done with a leaf: it has a name, and it loads. -/
structure LeafKind (ℓ : Type) where
  name : ℓ → Text
  load : Text → ℓ → Except LoadError Text × ℓ

namespace Loader

variable {τ ℓ : Type}

mutual

/-- The name of a loader. -/
def name (kind : LeafKind ℓ) : Loader τ ℓ → Text
  | leaf l => kind.name l
  | chain first rest =>
    ("chain(" : Text) ++ Text.joined "," (name kind first :: names kind rest) ++ [.scalar ')']
  | cached inner _ => ("cached-" : Text) ++ name kind inner

/-- The names of loaders. -/
def names (kind : LeafKind ℓ) : List (Loader τ ℓ) → List Text
  | [] => []
  | loader :: rest => name kind loader :: names kind rest

end

mutual

/-- Loads a partial at a time. Only what was loaded is kept by a cache. -/
def load [Moment τ] (kind : LeafKind ℓ) (now : τ) (wanted : Text) :
    Loader τ ℓ → Except LoadError Text × Loader τ ℓ
  | leaf l =>
    let (answer, next) := kind.load wanted l
    (answer, leaf next)
  | chain first rest =>
    match load kind now wanted first with
    | (.ok t, next) => (.ok t, chain next rest)
    | (.error e, next) =>
      if e.isMiss then
        let (answer, others) := loadFirst kind now wanted e rest
        (answer, chain next others)
      else (.error e, chain next rest)
  | cached inner cache =>
    let key := cacheKey [inner.name kind, wanted]
    match cache.get now key with
    | (some t, used) => (.ok t, cached inner used)
    | (none, used) =>
      match load kind now wanted inner with
      | (.ok t, next) =>
        let (written, filled) := used.set now key t none
        (if written then .ok t else .error .uncountable, cached next filled)
      | (.error e, next) => (.error e, cached next used)

/-- Loads a partial from the first loader that does not miss; `miss` is
the answer if there is none. -/
def loadFirst [Moment τ] (kind : LeafKind ℓ) (now : τ) (wanted : Text) (miss : LoadError) :
    List (Loader τ ℓ) → Except LoadError Text × List (Loader τ ℓ)
  | [] => (.error miss, [])
  | loader :: rest =>
    match load kind now wanted loader with
    | (.ok t, next) => (.ok t, next :: rest)
    | (.error e, next) =>
      if e.isMiss then
        let (answer, others) := loadFirst kind now wanted e rest
        (answer, next :: others)
      else (.error e, next :: rest)

end

mutual

/-- The leaves of a loader, from left to right. -/
def leaves : Loader τ ℓ → List ℓ
  | leaf l => [l]
  | chain first rest => leaves first ++ leavesOfAll rest
  | cached inner _ => leaves inner

/-- The leaves of loaders, from left to right. -/
def leavesOfAll : List (Loader τ ℓ) → List ℓ
  | [] => []
  | loader :: rest => leaves loader ++ leavesOfAll rest

end

/-- A loader at a time as a source of partials. -/
def source [Moment τ] (kind : LeafKind ℓ) (now : τ) : Source (Loader τ ℓ) where
  load := load kind now

end Loader

/-! ## 2. Leaves -/

/-- A store of partials in memory, with the names it was asked for. -/
structure Store where
  partials : Table Text
  requests : List Text
deriving DecidableEq

/-- The answer of a store to a request. -/
def Store.load (wanted : Text) (store : Store) : Except LoadError Text × Store :=
  (match store.partials.get? wanted with
    | some t => .ok t
    | none => .error (.absent wanted),
  { store with requests := store.requests ++ [wanted] })

/-- A leaf of a loader. -/
inductive Leaf where
  | memory (store : Store)
  | directory (files : Files) (base : List Text)
  | remote (exchange : Exchange)
  | failing (error : LoadError)

namespace Leaf

def name : Leaf → Text
  | memory _ => "memory"
  | directory _ _ => "filesystem"
  | remote _ => "http"
  | failing _ => "broken"

def load (wanted : Text) : Leaf → Except LoadError Text × Leaf
  | memory store => let (answer, next) := store.load wanted; (answer, memory next)
  | directory files base => (loadFile files base wanted, directory files base)
  | remote exchange => let (answer, next) := exchange.load wanted; (answer, remote next)
  | failing error => (.error error, failing error)

def kind : LeafKind Leaf := ⟨name, load⟩

end Leaf

/-- A loader over the leaves there are. -/
abbrev PartialLoader := Loader Double Leaf

namespace PartialLoader

/-- The name of a loader. -/
def name (loader : PartialLoader) : Text := Loader.name Leaf.kind loader

/-- A loader of the partials in a directory. -/
def ofDirectory (files : Files) (base : Path) : Except LoadError PartialLoader := do
  let start := if base.root.isEmpty then files.current else []
  Files.checkNames start.reverse base.names
  return .leaf (.directory files (base.absolute files.current))

/-- A loader that keeps what another has loaded. -/
def cachedFor (ttl : Lifetime Double) (maxSize : Int) (inner : PartialLoader) : PartialLoader :=
  .cached inner (.empty ttl maxSize)

/-- The time to live and the size of a cache, unless they are given. -/
def defaultTtl : Lifetime Double := .ofInt 300

def defaultMaxSize : Int := 500

/-- Loads a partial at a time. -/
def load (now : Double) (wanted : Text) (loader : PartialLoader) :
    Except LoadError Text × PartialLoader :=
  Loader.load Leaf.kind now wanted loader

/-- A loader at a time as a source of partials. -/
def source (now : Double) : Source PartialLoader := Loader.source Leaf.kind now

end PartialLoader

end TreeTemplate
