/-
TreeTemplate.Value.Path — finding a value by a path (`PathResolver`,
specification §4.1).

A path is a row of segments with dots between them. A segment names an
entry of a dictionary; of a list or a text it is `length`, or the index of
an item in digits. Once nothing or null is found, whatever segments are
left find nothing.

* `Value.lookup` — one segment.
* `Found.follow` — a row of segments; `follow_append` says that rows compose.
* `Found.resolve` — a path (`resolve`). The empty path finds what it starts
  from.
* `PathError` — a segment made of digits need not be a number: digits such as
  `²` take no part in numbers, and more than 4300 digits are not read.
-/
import TreeTemplate.Text.Digit
import TreeTemplate.Value.Json

namespace TreeTemplate

/-- Why a segment of digits is no index. -/
inductive PathError where
  | notDecimal (segment : Text)
  | tooManyDigits (count : Nat)
deriving DecidableEq

/-- A segment that is quoted in a message is cut after 200 code points. -/
def PathError.message : PathError → Text
  | notDecimal segment =>
    ("invalid literal for int() with base 10: " : Text) ++ segment.quoted.take 200
  | tooManyDigits count => Json.tooManyDigitsMessage count

/-- The decimal digits at the beginning of a text, as values. -/
def leadingDigits : Text → List Nat
  | [] => []
  | c :: rest => match c.decimalValue? with
    | some d => d :: leadingDigits rest
    | none => []

/-- Whether the text is a row of digits of any kind, and not empty. -/
def isDigits (t : Text) : Bool := !t.isEmpty && t.all CodePoint.isDigit

/-- The number that a row of digits spells. -/
def indexOf (segment : Text) : Except PathError Nat :=
  let digits := leadingDigits segment
  if Json.maxDigits < digits.length then .error (.tooManyDigits digits.length)
  else if digits.length < segment.length then .error (.notDecimal segment)
  else .ok (numberOf 10 digits)

/-- What a segment finds in a sequence of values: its length, or an item. -/
def memberOf (items : List Value) (segment : Text) : Except PathError Found :=
  if segment = ("length" : Text) then .ok (some (.int items.length))
  else if isDigits segment then (indexOf segment).map (items[·]?)
  else .ok none

/-- What a segment finds in a value. -/
def Value.lookup (v : Value) (segment : Text) : Except PathError Found :=
  match v with
  | .dict entries => .ok (Table.get? entries segment)
  | .list items => memberOf items segment
  | .str t => memberOf (t.map fun c => .str [c]) segment
  | _ => .ok none

namespace Found

/-- What one segment finds, from a finding. -/
def step (found : Found) (segment : Text) : Except PathError Found :=
  match found with
  | none => .ok none
  | some .null => .ok none
  | some v => v.lookup segment

/-- What a row of segments finds, from a finding. -/
def follow : Found → List Text → Except PathError Found
  | found, [] => .ok found
  | found, segment :: rest =>
    match found.step segment with
    | .ok next => next.follow rest
    | .error e => .error e

/-- What a path finds, from a finding. -/
def resolve (found : Found) (path : Text) : Except PathError Found :=
  if path = [] then .ok found else found.follow (path.splitOn (.scalar '.'))

/-! ## Rows of segments compose -/

theorem follow_append (found : Found) (first second : List Text) :
    found.follow (first ++ second) =
      match found.follow first with
      | .ok next => next.follow second
      | .error e => .error e := by
  induction first generalizing found with
  | nil => rfl
  | cons segment rest ih =>
    simp only [List.cons_append, follow]
    cases found.step segment with
    | error e => rfl
    | ok next => exact ih next

end Found

/-- What a path finds in a value. -/
def Value.resolve (v : Value) (path : Text) : Except PathError Found :=
  Found.resolve (some v) path

end TreeTemplate
