/-
TreeTemplate.Partial.Remote — partials from a server (`HTTPLoader`,
specification §15).

A request that fails for a reason that may pass, because the server cannot
be reached or answers with a status from 500 on, is made again after a
pause. The pauses grow with each attempt; there is none after the last.

Retrying knows nothing of servers: `loadRetrying` works with any way to make
an attempt and any way to sleep. `Exchange` is one of them, a server whose
responses are written down beforehand.

* `Attempt` — how one request ends.
* `tryEach` — one attempt for each number in a row, until one of them settles
  the matter. `loadRetrying` — as many as are configured.
* `Exchange` — a server, if there is one, and what was done.
* `Exchange.load` — a partial from it, redirections followed.
-/
import TreeTemplate.Number.Shortest
import TreeTemplate.Partial.Error
import TreeTemplate.Web.Resolution

namespace TreeTemplate

/-! ## 1. Retrying -/

/-- How one request ends. -/
abbrev Attempt := Except LoadError Text

/-- Whether the same request may end otherwise later. -/
def Attempt.mayPass : Attempt → Bool
  | .error (.status code) => 500 ≤ code
  | .error (.unreachable ..) => true
  | _ => false

/-- A pause in seconds, as a whole or as a floating-point number. -/
inductive Delay where
  | whole (seconds : Int)
  | exact (seconds : Double)
deriving DecidableEq

namespace Delay

/-- A pause that many times as long. -/
def times (delay : Delay) (n : Nat) : Delay :=
  match delay with
  | whole seconds => whole (seconds * n)
  | exact seconds => exact (seconds.mul (.ofInt n))

def toText : Delay → Text
  | whole seconds => Text.ofInt seconds
  | exact seconds => seconds.toText

end Delay

section Retrying

variable {σ : Type} (attempt : σ → Attempt × σ) (sleep : Delay → σ → σ) (delay : Delay)

/-- Makes an attempt for each of the numbers, until one settles the matter or
the number is the last there is. Between two attempts there is a pause. If the
numbers end before that, nothing comes of it. -/
def tryEach (last : Nat) : List Nat → σ → Option Attempt × σ
  | [], state => (none, state)
  | i :: rest, state =>
    let (ended, next) := attempt state
    if Attempt.mayPass ended ∧ i ≠ last then tryEach last rest (sleep (delay.times (i + 1)) next)
    else (some ended, next)

/-- The attempts to make for a configured count of them: one in any case. -/
def attemptCount (count : Int) : Nat := (max 1 count).toNat

/-- As many attempts as are configured, until one settles the matter. -/
def loadRetrying (count : Int) (state : σ) : Option Attempt × σ :=
  tryEach attempt sleep delay (attemptCount count - 1) (List.range (attemptCount count)) state

/-- Numbers among which is the last one do not end too early. -/
theorem isSome_tryEach {last : Nat} {numbers : List Nat} (h : last ∈ numbers) (state : σ) :
    (tryEach attempt sleep delay last numbers state).1.isSome = true := by
  induction numbers generalizing state with
  | nil => cases h
  | cons i rest ih =>
    rw [tryEach]
    dsimp only
    split
    · next hAgain => exact ih ((List.mem_cons.1 h).resolve_left (Ne.symm hAgain.2)) _
    · rfl

theorem isSome_loadRetrying (count : Int) (state : σ) :
    (loadRetrying attempt sleep delay count state).1.isSome = true :=
  isSome_tryEach attempt sleep delay
    (List.mem_range.2 (Nat.sub_lt (by unfold attemptCount; omega) Nat.one_pos)) state

end Retrying

/-! ## 2. A server -/

/-- What comes back. With a status from 300 to 399 the body is the address
to go on to. -/
inductive Response where
  | answer (status : Int) (body : Text)
  /-- There is no answer, for a reason with a name. -/
  | failure (reason words : Text)
deriving DecidableEq

/-- What stands at the other end. -/
inductive Server where
  /-- A server with the responses it will give. -/
  | scripted (responses : List Response)
  /-- Nothing: there is no network. -/
  | offline
deriving DecidableEq

/-- What has been done to get partials. -/
inductive RemoteAction where
  | request (address : Text)
  | pause (seconds : Text)
deriving DecidableEq

/-- A server below a base address, and what has been done so far. -/
structure Exchange where
  base : Text
  attempts : Int
  delay : Delay
  server : Server
  log : List RemoteAction
deriving DecidableEq

namespace Server

/-- The response after all those that were given. -/
def exhausted : Response := .answer 599 []

/-- The schemes for which there is a way to ask. -/
def knownSchemes : List Text := ["http", "https", "ws", "wss"]

/-- The response to a request without a network. -/
def offlineResponse (url : Url) : Response :=
  if url.scheme.isEmpty then
    .failure "UnsupportedProtocol" "Request URL is missing an 'http://' or 'https://' protocol."
  else if url.scheme ∉ knownSchemes then
    .failure "UnsupportedProtocol"
      (("Request URL has an unsupported protocol '" : Text) ++ url.scheme ++ ("://'." : Text))
  else .failure "ConnectError" "[Errno -3] Temporary failure in name resolution"

/-- The response to a request, and what will be given afterwards. -/
def ask (url : Url) : Server → Response × Server
  | scripted [] => (exhausted, scripted [])
  | scripted (response :: rest) => (response, scripted rest)
  | offline => (offlineResponse url, offline)

end Server

namespace Response

/-- Whether a status says to look elsewhere. -/
def pointsElsewhere (status : Int) : Bool := 300 ≤ status && status < 400

/-- The statuses of redirections. -/
def redirections : List Int := [301, 302, 303, 307, 308]

/-- What of an answer has no bytes: addresses are sent in ASCII. -/
def unspelled? (status : Int) (body : Text) : Option Unspelled :=
  (if pointsElsewhere status then Encoding.ascii else .utf8).unspelled? body

/-- How a request for an address ends or goes on, for the answer to it. -/
def settle (url : Url) (status : Int) (body : Text) : Except LoadError (Text ⊕ Url) := do
  if let some unspelled := unspelled? status body then throw (.unspelled unspelled)
  url.checkAnswered.mapError .address
  if status ∈ redirections ∧ body ≠ [] then
    match url.followed body with
    | .ok next => return .inr next
    | .error .misled => throw (.unreachable "RemoteProtocolError" UrlError.misled.message)
    | .error error => throw (.address error)
  else if 200 ≤ status ∧ status < 300 then return .inl body
  else throw (.status status)

end Response

namespace Exchange

/-- Makes one request. -/
def request (url : Url) (exchange : Exchange) : Response × Exchange :=
  let (response, server) := exchange.server.ask url
  (response, { exchange with
    server := server
    log := exchange.log ++ [.request url.toText] })

/-- The greatest number of redirections that are followed in a row. -/
def maxRedirections : Nat := 20

/-- Makes a request and follows redirections, at most the given number. -/
def fetchFrom : Nat → Url → Exchange → Attempt × Exchange
  | more, url, exchange =>
    match url.hostName with
    | .error error => (.error (.address error), exchange)
    | .ok _ =>
      match exchange.request url with
      | (.failure reason words, after) => (.error (.unreachable reason words), after)
      | (.answer status body, after) =>
        match Response.settle url status body with
        | .error error => (.error error, after)
        | .ok (.inl text) => (.ok text, after)
        | .ok (.inr next) =>
          match more with
          | 0 => (.error (.unreachable "TooManyRedirects" "Exceeded maximum allowed redirects."),
              after)
          | more + 1 => fetchFrom more next after

/-- Pauses. -/
def sleep (delay : Delay) (exchange : Exchange) : Exchange :=
  { exchange with log := exchange.log ++ [.pause delay.toText] }

/-- The address of the partial with the given name. -/
def addressOf (name : Text) (exchange : Exchange) : Except UrlError Url := do
  let base ← Url.ofText exchange.base
  (← base.asBase).below name

/-- Asks for the partial with the given name once. Nothing is asked for if
there is no address for it. -/
def ask (name : Text) (exchange : Exchange) : Attempt × Exchange :=
  match exchange.addressOf name with
  | .error error => (.error (.address error), exchange)
  | .ok url => fetchFrom maxRedirections url exchange

/-- The partial with the given name. -/
def load (name : Text) (exchange : Exchange) : Except LoadError Text × Exchange :=
  let run := loadRetrying (ask name) sleep exchange.delay exchange.attempts exchange
  (run.1.get (isSome_loadRetrying _ _ _ _ _), run.2)

end Exchange

end TreeTemplate
