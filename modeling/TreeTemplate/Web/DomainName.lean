/-
TreeTemplate.Web.DomainName — names of hosts in letters of all scripts.

The network knows names in letters of ASCII. A label with other letters is
known by its spelling in such letters, after `xn--`.

* `DomainName.encode` — the name as the network knows it.
* `DomainName.decode` — the name as people know it.
-/
import TreeTemplate.Web.Label
import TreeTemplate.Web.Punycode

namespace TreeTemplate.DomainName

/-! ## 1. Labels -/

/-- The beginning of labels that are spelled in other letters. -/
def mark : Text := "xn--"

/-- The greatest length of a label. -/
def maxLabelLength : Nat := 63

def isAscii (t : Text) : Bool := t.all fun c => c.value < 0x80

/-- A label in small letters. -/
def smallLetters (t : Text) : Text :=
  t.map fun c => if 65 ≤ c.value ∧ c.value ≤ 90 then .ofNat (c.value + 32) else c

/-- The label as people know it, for one of ASCII. -/
def decodeLabel (label : Text) : Except LabelFault Text :=
  let label := smallLetters label
  match Text.afterPrefix? mark label with
  | none => (checkLabel label).map fun () => label
  | some spelling =>
    if spelling.isEmpty || spelling.getLast? = some Label.hyphen then .error .misshapen
    else match Punycode.decode? spelling with
      | none => .error .misshapen
      | some t => (checkLabel t).map fun () => t

/-- The label as the network knows it. -/
def encodeLabel (label : Text) : Except LabelFault Text := do
  let encoded ← if isAscii label then (decodeLabel label).map fun _ => label
    else (checkLabel label).map fun () => mark ++ Punycode.encode label
  if maxLabelLength < encoded.length then throw .misshapen
  return encoded

/-! ## 2. Names -/

/-- The dots of all scripts. -/
def dots : List CodePoint :=
  [.scalar '.', .scalar '\u3002', .scalar '\uFF0E', .scalar '\uFF61']

/-- The labels of a name, and whether a dot ends it. -/
def labelsOf (name : Text) : List Text × Bool :=
  let labels := (name.map fun c => if c ∈ dots then .scalar '.' else c).splitOn (.scalar '.')
  if labels.getLast? = some [] then (labels.dropLast, true) else (labels, false)

/-- The name of labels. -/
def ofLabels (labels : List Text) (endsInDot : Bool) : Text :=
  Text.joined "." (if endsInDot then labels ++ [[]] else labels)

/-- The greatest length of a name, a dot at its end not counted. -/
def maxLength : Nat := 253

/-- The name as the network knows it. -/
def encode (name : Text) : Except LabelFault Text := do
  if name.isEmpty then throw .misshapen
  let (labels, endsInDot) := labelsOf name
  let encoded := ofLabels (← labels.mapM encodeLabel) endsInDot
  if (if endsInDot then maxLength + 1 else maxLength) < encoded.length then throw .misshapen
  return encoded

/-- The name as people know it, for one of ASCII. -/
def decode (name : Text) : Except LabelFault Text := do
  if name.isEmpty then throw .misshapen
  let (labels, endsInDot) := labelsOf name
  return ofLabels (← labels.mapM decodeLabel) endsInDot

end TreeTemplate.DomainName
