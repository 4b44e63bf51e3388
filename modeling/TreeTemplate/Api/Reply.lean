/-
TreeTemplate.Api.Reply — what the service answers.

A reply can only be sent if it can be written: a lone surrogate has no
bytes, and infinities and not-a-number have no place in a reply.

* `Fault` — what is wrong with the body of a request, and where.
* `Reply` — an answer, and `Reply.status`.
-/
import TreeTemplate.Value.Basic

namespace TreeTemplate

/-! ## 1. What can be written -/

/-- Whether a text has no lone surrogates. -/
def Text.isWritable (t : Text) : Bool := t.toString?.isSome

mutual

/-- Whether a value can be part of a reply. -/
def Value.isWritable : Value → Bool
  | .float x => x.finite?.isSome
  | .str t => t.isWritable
  | .list items => areWritable items
  | .dict entries => areWritableEntries entries
  | _ => true

/-- Whether values can be part of a reply. -/
def Value.areWritable : List Value → Bool
  | [] => true
  | v :: rest => isWritable v && areWritable rest

/-- Whether entries can be part of a reply. -/
def Value.areWritableEntries : List (Text × Value) → Bool
  | [] => true
  | (name, v) :: rest => name.isWritable && isWritable v && areWritableEntries rest

end

/-! ## 2. Replies -/

/-- What is wrong with a part of a body. -/
inductive FaultKind where
  | missing
  | notText
  | notDictionary
  | notObject
  /-- A text or a number that stands for no truth value. -/
  | noTruthValue
  /-- Neither truth value, text nor whole number. -/
  | notTruthValue
  /-- A text with lone surrogates. -/
  | notUnicode
  /-- The body is no JSON text. -/
  | malformed
deriving DecidableEq

/-- The word for a kind of faults. -/
def FaultKind.word : FaultKind → Text
  | missing => "missing"
  | notText => "string_type"
  | notDictionary => "dict_type"
  | notObject => "model_attributes_type"
  | noTruthValue => "bool_parsing"
  | notTruthValue => "bool_type"
  | notUnicode => "string_unicode"
  | malformed => "json_invalid"

/-- A fault in the body of a request, with the names on the way to it and
the value that is there. -/
structure Fault where
  place : List Text
  kind : FaultKind
  found : Value
deriving DecidableEq

/-- Whether a fault can be told of. -/
def Fault.isWritable (fault : Fault) : Bool :=
  fault.place.all Text.isWritable && fault.found.isWritable

/-- An answer of the service. -/
inductive Reply where
  | success (body : Value)
  | refused (status : Nat) (detail : Text)
  | invalid (faults : List Fault)
  /-- Something went wrong that has no reply of its own. -/
  | crashed
deriving DecidableEq

namespace Reply

/-- The status of a reply. -/
def status : Reply → Nat
  | success _ => 200
  | refused status _ => status
  | invalid _ => 422
  | crashed => 500

/-- Whether a reply can be written. -/
def isWritable : Reply → Bool
  | success body => body.isWritable
  | refused _ detail => detail.isWritable
  | invalid faults => faults.all Fault.isWritable
  | crashed => true

end Reply

end TreeTemplate
