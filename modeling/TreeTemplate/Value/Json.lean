/-
TreeTemplate.Value.Json — values as JSON text.

The reader takes JSON with the three numbers `NaN`, `Infinity` and
`-Infinity` besides. A number without point and exponent is a whole
number, any other is rounded to a floating-point number. Of entries with
one name in an object the first gives the place and the last the value. A
failure says what was expected and where.

* `Json.read` — the value of a text.
* `Json.write` — the compact spelling of a value, in ASCII.
* `Json.Failure.message` — the words for a failure, with line, column and
  position.
-/
import TreeTemplate.Number.Shortest
import TreeTemplate.Text.Bytes
import TreeTemplate.Text.Digit
import TreeTemplate.Text.Quoted
import TreeTemplate.Value.Basic

namespace TreeTemplate.Json

/-! ## 1. Failures -/

/-- What a malformed text lacks or has too much of. -/
inductive Cause where
  | expectingValue
  | expectingName
  | expectingColon
  | expectingComma
  | unterminatedString
  | badEscape
  | badNumberEscape
  | controlCharacter
  | extraData
  | byteOrderMark
deriving DecidableEq

def Cause.message : Cause → Text
  | expectingValue => "Expecting value"
  | expectingName => "Expecting property name enclosed in double quotes"
  | expectingColon => "Expecting ':' delimiter"
  | expectingComma => "Expecting ',' delimiter"
  | unterminatedString => "Unterminated string starting at"
  | badEscape => "Invalid \\escape"
  | badNumberEscape => "Invalid \\uXXXX escape"
  | controlCharacter => "Invalid control character at"
  | extraData => "Extra data"
  | byteOrderMark => "Unexpected UTF-8 BOM (decode using utf-8-sig)"

/-- Why a text has no value: it is malformed at a position, counted from
zero, that lies in a line and a column, counted from one; or it holds a
whole number with more digits than are read, or more lists and dictionaries
inside each other. -/
inductive Failure where
  | malformed (cause : Cause) (position line column : Nat)
  | tooManyDigits (count : Nat)
  | tooDeep (atList : Bool)
deriving DecidableEq

/-- The greatest count of digits that is read as a whole number. -/
def maxDigits : Nat := 4300

/-- What is said of a whole number with too many digits. -/
def tooManyDigitsMessage (count : Nat) : Text :=
  ("Exceeds the limit (4300 digits) for integer string conversion: value has " : Text)
    ++ Text.ofNat count
    ++ (" digits; use sys.set_int_max_str_digits() to increase the limit" : Text)

def Failure.message : Failure → Text
  | malformed cause position line column =>
    cause.message ++ (": line " : Text) ++ Text.ofNat line ++ (" column " : Text)
      ++ Text.ofNat column ++ (" (char " : Text) ++ Text.ofNat position ++ (")" : Text)
  | tooManyDigits count => tooManyDigitsMessage count
  | tooDeep atList =>
    ("maximum recursion depth exceeded while decoding a JSON " : Text)
      ++ (if atList then "array" else "object") ++ (" from a unicode string" : Text)

/-- A failure inside a text, at the place where `left` code points are left. -/
inductive Fault where
  | malformed (cause : Cause) (left : Nat)
  | tooManyDigits (count : Nat)
  | tooDeep (atList : Bool)

/-- The fault of a cause at the beginning of a rest of the text. -/
def Fault.here (cause : Cause) (rest : Text) : Fault := .malformed cause rest.length

/-- The failure that a fault is in a whole text. -/
def Fault.inText (t : Text) : Fault → Failure
  | malformed cause left =>
    let position := t.length - left
    let before := t.take position
    let column := (before.reverse.takeWhile (· ≠ .scalar '\n')).length + 1
    .malformed cause position (before.count (.scalar '\n') + 1) column
  | tooManyDigits count => .tooManyDigits count
  | tooDeep atList => .tooDeep atList

/-! ## 2. Reading -/

def isSpace (c : CodePoint) : Bool :=
  c = .scalar ' ' || c = .scalar '\t' || c = .scalar '\n' || c = .scalar '\r'

def skipSpace (t : Text) : Text := t.dropWhile isSpace

/-- The code point that a letter after a backslash stands for. -/
def escapes : List (Char × Char) :=
  [('"', '"'), ('\\', '\\'), ('/', '/'), ('b', '\x08'), ('f', '\x0c'), ('n', '\n'),
    ('r', '\r'), ('t', '\t')]

def escaped? : CodePoint → Option CodePoint
  | .scalar c => (escapes.lookup c).map .scalar
  | .surrogate _ => none

/-- The number of four hexadecimal digits. -/
def hexNumber? (digits : Text) : Option Nat :=
  (digits.mapM CodePoint.hexValue?).map (numberOf 16)

/-- What stands for a code point in a string: the code point, or a unit of
sixteen bits in an escape. -/
inductive Spelled where
  | plain (c : CodePoint)
  | unit (n : Nat)

/-- The text that is spelled. Two units that make up a pair of surrogates
give one code point. -/
def textSpelled : List Spelled → Text
  | [] => []
  | .plain c :: rest => c :: textSpelled rest
  | [.unit n] => [.ofNat n]
  | .unit n :: .plain c :: rest => .ofNat n :: c :: textSpelled rest
  | .unit high :: .unit low :: rest =>
    match Text.ofPair? high low with
    | some c => c :: textSpelled rest
    | none => .ofNat high :: textSpelled (.unit low :: rest)

/-- Puts something before what has been read. -/
def consRead (c : Spelled) : Except Fault (List Spelled × Text) →
    Except Fault (List Spelled × Text) :=
  Except.map fun (spelled, rest) => (c :: spelled, rest)

/-- What stands before the closing quote, and the rest. `opened` is the
rest from the opening quote on. -/
def readSpelled (opened : Text) : Text → Except Fault (List Spelled × Text)
  | [] => .error (.here .unterminatedString opened)
  | .scalar '"' :: rest => .ok ([], rest)
  | .scalar '\\' :: [] => .error (.here .unterminatedString opened)
  | .scalar '\\' :: .scalar 'u' :: a :: b :: c :: d :: rest =>
    match rest.isEmpty, hexNumber? [a, b, c, d] with
    | false, some n => consRead (.unit n) (readSpelled opened rest)
    | _, _ => .error (.malformed .badNumberEscape (rest.length + 5))
  | .scalar '\\' :: .scalar 'u' :: rest => .error (.malformed .badNumberEscape (rest.length + 1))
  | .scalar '\\' :: c :: rest =>
    match escaped? c with
    | some d => consRead (.plain d) (readSpelled opened rest)
    | none => .error (.malformed .badEscape (rest.length + 2))
  | c :: rest =>
    if c.value < 0x20 then .error (.malformed .controlCharacter (rest.length + 1))
    else consRead (.plain c) (readSpelled opened rest)

/-- The text up to the closing quote, and the rest. -/
def readString (opened t : Text) : Except Fault (Text × Text) :=
  (readSpelled opened t).map fun (spelled, rest) => (textSpelled spelled, rest)

/-- The digits `0` to `9` at the beginning, as values, and the rest. -/
def readDigits (t : Text) : List Nat × Text :=
  ((t.takeWhile CodePoint.isAsciiDigit).map (·.value - 48), t.dropWhile CodePoint.isAsciiDigit)

/-- The digits after a point, if there are any. -/
def readFraction (t : Text) : List Nat × Text :=
  match t with
  | .scalar '.' :: rest =>
    let (digits, after) := readDigits rest
    if digits.isEmpty then ([], t) else (digits, after)
  | _ => ([], t)

/-- The exponent after an `e`, if there are digits in it. -/
def readExponent (t : Text) : Option Int × Text :=
  match t with
  | .scalar c :: rest =>
    if c = 'e' ∨ c = 'E' then
      let (negative, rest) := match rest with
        | .scalar '-' :: rest => (true, rest)
        | .scalar '+' :: rest => (false, rest)
        | _ => (false, rest)
      let (digits, after) := readDigits rest
      if digits.isEmpty then (none, t)
      else (some (Double.withSign negative (numberOf 10 digits)), after)
    else (none, t)
  | _ => (none, t)

/-- The number at the beginning of a text that follows its sign, for a
text that begins with a digit. -/
def readNumber (negative : Bool) (t : Text) : Option (Except Fault (Value × Text)) :=
  let (digits, rest) := match t with
    | .scalar '0' :: rest => ([0], rest)
    | _ => readDigits t
  if digits.isEmpty then none
  else
    let (fraction, rest) := readFraction rest
    let (exponent, rest) := readExponent rest
    if fraction.isEmpty ∧ exponent.isNone then
      if maxDigits < digits.length then some (.error (.tooManyDigits digits.length))
      else some (.ok (.int (Double.withSign negative (numberOf 10 digits)), rest))
    else
      let x := Double.ofDecimal negative (numberOf 10 (digits ++ fraction))
        (exponent.getD 0 - fraction.length)
      some (.ok (.float x, rest))

/-- The words that are values. -/
def words : List (Text × Value) :=
  [("null", .null), ("true", .bool true), ("false", .bool false), ("NaN", .float .nan),
    ("Infinity", .float (.infinity false)), ("-Infinity", .float (.infinity true))]

/-- The word or number at the beginning of a text. -/
def readScalar (t : Text) : Except Fault (Value × Text) :=
  match words.findSome? fun (word, v) => (Text.afterPrefix? word t).map (v, ·) with
  | some found => .ok found
  | none =>
    let number := match t with
      | .scalar '-' :: rest => readNumber true rest
      | _ => readNumber false t
    number.getD (.error (.here .expectingValue t))

/-- How many lists and dictionaries may stand inside each other. -/
def maxDepth : Nat := 980

mutual

/-- The value at the beginning of a text, and the rest. Each value takes
at least one code point, so the length of the text bounds the steps. -/
def readValue : Nat → Nat → Text → Except Fault (Value × Text)
  | 0, _, t => .error (.here .expectingValue t)
  | fuel + 1, depth, t =>
    match t with
    | .scalar '"' :: rest => (readString t rest).map fun (s, rest) => (.str s, rest)
    | .scalar '[' :: rest =>
      if depth = 0 then .error (.tooDeep true)
      else match skipSpace rest with
        | .scalar ']' :: rest => .ok (.list [], rest)
        | rest => (readItems fuel (depth - 1) rest).map fun (items, rest) => (.list items, rest)
    | .scalar '\x7b' :: rest =>
      if depth = 0 then .error (.tooDeep false)
      else match skipSpace rest with
        | .scalar '\x7d' :: rest => .ok (.dict [], rest)
        | rest => (readEntries fuel (depth - 1) rest).map fun (entries, rest) =>
            (.dict (Table.ofList entries), rest)
    | _ => readScalar t

/-- The items up to the closing bracket. -/
def readItems : Nat → Nat → Text → Except Fault (List Value × Text)
  | 0, _, t => .error (.here .expectingValue t)
  | fuel + 1, depth, t => do
    let (item, rest) ← readValue fuel depth t
    match skipSpace rest with
    | .scalar ']' :: rest => .ok ([item], rest)
    | .scalar ',' :: rest =>
      let (items, rest) ← readItems fuel depth (skipSpace rest)
      .ok (item :: items, rest)
    | rest => .error (.here .expectingComma rest)

/-- The entries up to the closing brace. -/
def readEntries : Nat → Nat → Text → Except Fault (List (Text × Value) × Text)
  | 0, _, t => .error (.here .expectingName t)
  | fuel + 1, depth, t =>
    match t with
    | .scalar '"' :: rest => do
      let (name, rest) ← readString t rest
      match skipSpace rest with
      | .scalar ':' :: rest =>
        let (value, rest) ← readValue fuel depth (skipSpace rest)
        match skipSpace rest with
        | .scalar '\x7d' :: rest => .ok ([(name, value)], rest)
        | .scalar ',' :: rest =>
          let (entries, rest) ← readEntries fuel depth (skipSpace rest)
          .ok ((name, value) :: entries, rest)
        | rest => .error (.here .expectingComma rest)
      | rest => .error (.here .expectingColon rest)
    | _ => .error (.here .expectingName t)

end

/-- The value of a text that holds one value and white space around it. -/
def readWhole (t : Text) : Except Fault Value := do
  if t.head? = some (.scalar '\uFEFF') then throw (.here .byteOrderMark t)
  let (value, rest) ← readValue (2 * t.length + 2) maxDepth (skipSpace t)
  match skipSpace rest with
  | [] => .ok value
  | rest => .error (.here .extraData rest)

/-- The value of a text. -/
def read (t : Text) : Except Failure Value := (readWhole t).mapError (Fault.inText t)

/-! ## 3. Writing -/

/-- An escape by number, for one unit of sixteen bits. -/
def unitEscape (n : Nat) : Text := ("\\u" : Text) ++ Text.hex 4 n

/-- A code point inside a string. -/
def writeCodePoint (c : CodePoint) : Text :=
  let n := c.value
  if c = .scalar '"' then "\\\""
  else if c = .scalar '\\' then "\\\\"
  else if c = .scalar '\n' then "\\n"
  else if c = .scalar '\r' then "\\r"
  else if c = .scalar '\t' then "\\t"
  else if c = .scalar '\x08' then "\\b"
  else if c = .scalar '\x0c' then "\\f"
  else if 0x20 ≤ n ∧ n < 0x7F then [c]
  else if n < 0x10000 then unitEscape n
  else unitEscape (0xD800 + (n - 0x10000) / 0x400) ++ unitEscape (0xDC00 + (n - 0x10000) % 0x400)

/-- A text as a string. -/
def writeString (t : Text) : Text :=
  .scalar '"' :: t.flatMap writeCodePoint ++ [.scalar '"']

/-- A floating-point number. -/
def writeDouble (x : Double) : Text :=
  match x.finiteText? with
  | some t => t
  | none => if x.isNaN then "NaN" else if x.isNegative then "-Infinity" else "Infinity"

mutual

/-- The compact spelling of a value. -/
def write : Value → Text
  | .null => "null"
  | .bool b => if b then "true" else "false"
  | .int n => Text.ofInt n
  | .float x => writeDouble x
  | .str t => writeString t
  | .list items => .scalar '[' :: Text.joined "," (writeItems items) ++ [.scalar ']']
  | .dict entries => .scalar '\x7b' :: Text.joined "," (writeEntries entries) ++ [.scalar '\x7d']

def writeItems : List Value → List Text
  | [] => []
  | v :: rest => write v :: writeItems rest

def writeEntries : List (Text × Value) → List Text
  | [] => []
  | (name, v) :: rest => (writeString name ++ .scalar ':' :: write v) :: writeEntries rest

end

end TreeTemplate.Json
