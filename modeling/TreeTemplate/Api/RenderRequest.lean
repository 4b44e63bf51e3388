/-
TreeTemplate.Api.RenderRequest — requests for rendering (the body of `POST
/api/v1/render`, specification §14).

The body of a request is a JSON object with a template and, if wanted,
data, partials, a target to mount into, and whether the result takes the
place of what is in the target. Other entries are passed over. All faults
of a body are told of at once.

* `RenderRequest` — a request.
* `RenderRequest.ofValue` — the request in a value, or its faults.
* `RenderRequest.ofBody` — the request in a body, or the reply to it.
-/
import TreeTemplate.Api.Reply
import TreeTemplate.Text.Undecoded
import TreeTemplate.Value.Json

namespace TreeTemplate

/-- A request for rendering. -/
structure RenderRequest where
  template : Text
  data : Value
  partials : Table Text
  target : Option Text
  inPlace : Bool
deriving DecidableEq

/-- A part of a body, or its faults. -/
abbrev Checked (α : Type) := Except (List Fault) α

namespace Checked

variable {α : Type}

/-- The faults of a part. -/
def faults : Checked α → List Fault
  | .ok _ => []
  | .error faults => faults

/-- A part with one fault. -/
def fault (place : List Text) (kind : FaultKind) (found : Value) : Checked α :=
  .error [⟨place, kind, found⟩]

end Checked

namespace RenderRequest

/-! ## 1. Parts of a body -/

/-- The name of the whole, in the places of faults. -/
def bodyName : Text := "body"

/-- A text. -/
def checkText (place : List Text) : Value → Checked Text
  | .str t => .ok t
  | v => .fault place .notText v

/-- Entries whose values are texts. -/
def checkTexts (place : List Text) : List (Text × Value) → Checked (Table Text)
  | [] => .ok []
  | (name, v) :: rest =>
    let value := checkText (place ++ [name]) v
    let others := checkTexts place rest
    match value, others with
    | .ok value, .ok others => .ok ((name, value) :: others)
    | _, _ => .error (value.faults ++ others.faults)

/-- A dictionary of texts. -/
def checkTable (place : List Text) : Value → Checked (Table Text)
  | .dict entries => checkTexts place entries
  | v => .fault place .notDictionary v

/-- A small letter for a capital one of ASCII. -/
def plainLetter (c : CodePoint) : CodePoint :=
  if 65 ≤ c.value ∧ c.value ≤ 90 then .ofNat (c.value + 32) else c

/-- The words for truth. -/
def trueWords : List Text := ["1", "t", "true", "on", "y", "yes"]

/-- The words for falsehood. -/
def falseWords : List Text := ["0", "f", "false", "off", "n", "no"]

/-- A truth value by zero or one. Other numbers stand for none, and those
that are not `small` are not even numbers here. -/
def boolOfInteger (place : List Text) (v : Value) (small : Bool) (n : Int) : Checked Bool :=
  if n = 0 then .ok false
  else if n = 1 then .ok true
  else .fault place (if small then .noTruthValue else .notTruthValue) v

/-- A truth value: one as such, by a word, or by zero or one. -/
def checkBool (place : List Text) (v : Value) : Checked Bool :=
  match v with
  | .bool b => .ok b
  | .str t =>
    if t.isWritable = false then .fault place .notUnicode v
    else if t.map plainLetter ∈ trueWords then .ok true
    else if t.map plainLetter ∈ falseWords then .ok false
    else .fault place .noTruthValue v
  | .int n => boolOfInteger place v (-(twoTo 63 : Int) ≤ n && n < twoTo 63) n
  | .float x =>
    match x.integer? with
    | some n => boolOfInteger place v (-(twoTo 63 : Int) < n && n < twoTo 63) n
    | none => .fault place .notTruthValue v
  | _ => .fault place .notTruthValue v

/-! ## 2. Bodies -/

/-- An entry that may be missing. -/
def optional {α : Type} (entries : Table Value) (name : Text) (standard : α)
    (check : List Text → Value → Checked α) : Checked α :=
  match entries.get? name with
  | none => .ok standard
  | some v => check [bodyName, name] v

/-- A text that may be null. -/
def checkNullable (place : List Text) : Value → Checked (Option Text)
  | .null => .ok none
  | v => (checkText place v).map some

/-- The request in a value. -/
def ofValue (v : Value) : Checked RenderRequest :=
  match v with
  | .dict entries =>
    let template : Checked Text :=
      match Table.get? entries "template" with
      | some t => checkText [bodyName, "template"] t
      | none => .fault [bodyName, "template"] .missing v
    let data := (Table.get? entries "data").getD (.dict [])
    let partials := optional entries "partials" [] checkTable
    let target := optional entries "target" none checkNullable
    let inPlace := optional entries "replace" false checkBool
    match template, partials, target, inPlace with
    | .ok template, .ok partials, .ok target, .ok inPlace =>
      .ok ⟨template, data, partials, target, inPlace⟩
    | _, _, _, _ =>
      .error (template.faults ++ partials.faults ++ target.faults ++ inPlace.faults)
  | v => .fault [bodyName] .notObject v

/-- The text of a body. Where the first bytes are zero tells how wide the
units of the text are, and which of their bytes comes first. A mark of the
byte order at the beginning counts for nothing. -/
def textOf? (body : List Nat) : Option Text :=
  match body with
  | 0xEF :: 0xBB :: 0xBF :: rest => (Text.decoded rest).toOption
  | 0 :: 0 :: _ :: _ :: _ => Text.ofUtf32? true body
  | 0 :: _ :: _ :: _ :: _ => Text.ofUtf16? true body
  | _ :: 0 :: 0 :: 0 :: _ => Text.ofUtf32? false body
  | _ :: 0 :: _ :: _ :: _ => Text.ofUtf16? false body
  | [0, _] => Text.ofUtf16? true body
  | [_, 0] => Text.ofUtf16? false body
  | _ => (Text.decoded body).toOption

/-- The reply to a body that cannot be read at all. -/
def unreadable : Reply := .refused 400 "There was an error parsing the body"

/-- The request in a body, which is given by its bytes. -/
def ofBody (body : List Nat) : Except Reply RenderRequest :=
  if body = [] then .error (.invalid [⟨[bodyName], .missing, .null⟩])
  else
    match textOf? body with
    | none => .error unreadable
    | some t =>
      match Json.read t with
      | .error (.malformed _ position _ _) =>
        .error (.invalid [⟨[bodyName, Text.ofNat position], .malformed, .dict []⟩])
      | .error (.tooManyDigits _) | .error (.tooDeep _) => .error unreadable
      | .ok v => (ofValue v).mapError .invalid

end RenderRequest

end TreeTemplate
