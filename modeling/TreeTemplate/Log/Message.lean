/-
TreeTemplate.Log.Message — messages with values in them.

A message is a pattern and its arguments. In the pattern a percent sign
begins a directive: a key in parentheses, flags, a width, a precision and
a letter that says how the next argument is written. `%%` is a percent
sign. Without arguments the pattern is the message as it stands.

* `LogPiece`, `LogPiece.ofText` — what a pattern is made of.
* `LogDirective.write` — an argument as a directive wants it.
* `LogMessage.text` — the message, or what is wrong with it.
-/
import TreeTemplate.Number.Decimal
import TreeTemplate.Text.Digit
import TreeTemplate.Value.Literal

namespace TreeTemplate

/-! ## 1. What can be wrong -/

/-- What is wrong with a message. -/
inductive LogError where
  | tooFewArguments
  | tooManyArguments
  | notMapping
  | missingKey (name : Text)
  | incompleteKey
  | incomplete
  /-- A width or a precision is taken from an argument that is no integer. -/
  | sizeNotInteger
  /-- A width or a precision in the pattern is too large. -/
  | sizeTooLarge (field : Text)
  /-- A width or a precision in an argument is too large for its type. -/
  | argumentTooLarge (type : Text)
  | notReal (letter : CodePoint) (kind : Text)
  | notInteger (letter : CodePoint) (kind : Text)
  | notFloat (kind : Text)
  | notCharacter
  | characterOutOfRange
  | nanAsInteger
  | infinityAsInteger
  | integerTooLarge
  | unknownLetter (letter : CodePoint) (index : Nat)
deriving DecidableEq

/-- A number in hexadecimal, without leading zeros. -/
def hexText (n : Nat) : Text :=
  Text.hex (Nat.log2 n / 4 + 1) n

namespace LogError

/-- The words for an error. -/
def message : LogError → Text
  | tooFewArguments => "not enough arguments for format string"
  | tooManyArguments => "not all arguments converted during string formatting"
  | notMapping => "format requires a mapping"
  | missingKey name => name
  | incompleteKey => "incomplete format key"
  | incomplete => "incomplete format"
  | sizeNotInteger => "* wants int"
  | sizeTooLarge field => field ++ (" too big" : Text)
  | argumentTooLarge type => ("Python int too large to convert to " : Text) ++ type
  | notReal letter kind =>
    .scalar '%' :: letter :: (" format: a real number is required, not " : Text) ++ kind
  | notInteger letter kind =>
    .scalar '%' :: letter :: (" format: an integer is required, not " : Text) ++ kind
  | notFloat kind => ("must be real number, not " : Text) ++ kind
  | notCharacter => "%c requires int or char"
  | characterOutOfRange => "%c arg not in range(0x110000)"
  | nanAsInteger => "cannot convert float NaN to integer"
  | infinityAsInteger => "cannot convert float infinity to integer"
  | integerTooLarge => "int too large to convert to float"
  | unknownLetter letter index =>
    let shown := if 31 ≤ letter.value ∧ letter.value < 127 then letter else .scalar '?'
    ("unsupported format character '" : Text) ++ shown :: ("' (0x" : Text)
      ++ hexText letter.value ++ (") at index " : Text) ++ Text.ofNat index

end LogError

/-! ## 2. Patterns -/

/-- A width or a precision: a number, or the next argument. -/
inductive LogSize where
  | number (n : Nat)
  | argument
deriving DecidableEq

/-- A directive of a pattern. -/
structure LogDirective where
  left : Bool
  signed : Bool
  blank : Bool
  alternate : Bool
  zeros : Bool
  width : Option LogSize
  precision : Option LogSize
  /-- The letter; none if the pattern ends before it. -/
  letter : Option CodePoint
  /-- Where the letter stands in the pattern. -/
  index : Nat
deriving DecidableEq

/-- The key of a directive. -/
inductive LogKey where
  | none
  | name (name : Text)
  | unclosed
deriving DecidableEq

/-- A piece of a pattern. -/
inductive LogPiece where
  | literal (c : CodePoint)
  | directive (key : LogKey) (directive : LogDirective)
deriving DecidableEq

namespace LogPiece

/-- The text up to the parenthesis that closes the current one, and what
follows it. `depth` parentheses are open inside. -/
def splitKey (depth : Nat) : Text → Option (Text × Text)
  | [] => none
  | c :: rest =>
    if c = .scalar ')' then
      match depth with
      | 0 => some ([], rest)
      | depth + 1 => (splitKey depth rest).map fun (key, after) => (c :: key, after)
    else
      (splitKey (if c = .scalar '(' then depth + 1 else depth) rest).map
        fun (key, after) => (c :: key, after)

/-- Whether a code point is a flag. -/
def isFlag (c : CodePoint) : Bool :=
  c = .scalar '-' || c = .scalar '+' || c = .scalar ' ' || c = .scalar '#' || c = .scalar '0'

/-- A width or a precision at the beginning of a text. -/
def splitSize (t : Text) : Option LogSize × Text :=
  match t with
  | .scalar '*' :: rest => (some .argument, rest)
  | _ =>
    let digits := t.takeWhile CodePoint.isAsciiDigit
    let rest := t.dropWhile CodePoint.isAsciiDigit
    (if digits.isEmpty then none else some (.number (numberOf 10 (digits.map (·.value - 48)))),
      rest)

/-- A precision after its point; a point alone is the precision zero. -/
def splitPrecision (t : Text) : Option LogSize × Text :=
  match t with
  | .scalar '.' :: rest =>
    let (size, after) := splitSize rest
    (some (size.getD (.number 0)), after)
  | _ => (none, t)

/-- A letter that may stand before the last and means nothing. -/
def dropLengthMark (t : Text) : Text :=
  match t with
  | .scalar c :: rest => if c = 'h' ∨ c = 'l' ∨ c = 'L' then rest else t
  | _ => t

/-- The directive after its percent sign and its key, and what follows it.
`total` is the length of the pattern. -/
def splitDirective (total : Nat) (t : Text) : LogDirective × Text :=
  let flags : Text := t.takeWhile isFlag
  let (width, afterWidth) := splitSize (t.dropWhile isFlag)
  let (precision, afterPrecision) := splitPrecision afterWidth
  let last := dropLengthMark afterPrecision
  (⟨flags.holds (.scalar '-'), flags.holds (.scalar '+'), flags.holds (.scalar ' '),
    flags.holds (.scalar '#'), flags.holds (.scalar '0'), width, precision, last.head?,
    total - last.length⟩, last.drop 1)

/-- The key and the directive after a percent sign, and what follows. -/
def splitPiece (total : Nat) (t : Text) : LogPiece × Text :=
  match t with
  | .scalar '%' :: rest => (.literal (.scalar '%'), rest)
  | .scalar '(' :: rest =>
    match splitKey 0 rest with
    | none => (.directive .unclosed (splitDirective total []).1, [])
    | some (key, after) =>
      let (found, left) := splitDirective total after
      (.directive (.name key) found, left)
  | _ =>
    let (found, left) := splitDirective total t
    (.directive .none found, left)

/-- The pieces of a text. The rest of a pattern is shorter than the pattern,
so its length is enough steps. -/
def piecesFrom (total : Nat) : Nat → Text → List LogPiece
  | 0, _ => []
  | _, [] => []
  | steps + 1, c :: rest =>
    if c = .scalar '%' then
      let (piece, after) := splitPiece total rest
      piece :: piecesFrom total steps after
    else .literal c :: piecesFrom total steps rest

/-- The pieces of a pattern. -/
def ofText (t : Text) : List LogPiece := piecesFrom t.length t.length t

end LogPiece

/-! ## 3. Arguments as text -/

namespace LogDirective

/-- The kind of a value that is no number, in a word. -/
def kindOf (v : Value) : Text :=
  match v with
  | .null => "NoneType"
  | v => Found.kind (some v)

/-- A literal in which each code point outside ASCII is an escape. -/
def asciiLiteral (v : Value) : Text :=
  v.literal.flatMap fun c => if c.value < 0x80 then [c] else Text.numberEscape c

/-- A number in a base, without leading zeros. -/
def baseText (base : Nat) (n : Nat) : Text :=
  if n < base ∨ base < 2 then [Text.hexDigit n]
  else baseText base (n / base) ++ [Text.hexDigit (n % base)]
termination_by n
decreasing_by exact Nat.div_lt_self (by omega) (by omega)

/-- The integer for a directive that cuts a number off after its point. -/
def truncated (letter : CodePoint) : Value → Except LogError Int
  | .bool b => .ok (if b then 1 else 0)
  | .int n => .ok n
  | .float x =>
    match x.finite? with
    | some (negative, m, q) =>
      let (num, den) := Double.ratioOf m q
      .ok (Double.withSign negative (num / den))
    | none => .error (if x.isNaN then .nanAsInteger else .infinityAsInteger)
  | v => .error (.notReal letter (kindOf v))

/-- The integer for a directive that takes integers only. -/
def whole (letter : CodePoint) : Value → Except LogError Int
  | .bool b => .ok (if b then 1 else 0)
  | .int n => .ok n
  | v => .error (.notInteger letter (kindOf v))

/-- The number for a directive that takes floating-point numbers. -/
def floating : Value → Except LogError Double
  | .bool b => .ok (.ofInt (if b then 1 else 0))
  | .int n => if (Double.ofInt n).isInfinite then .error .integerTooLarge else .ok (.ofInt n)
  | .float x => .ok x
  | v => .error (.notFloat (kindOf v))

/-- The code point for a directive that takes characters. -/
def character : Value → Except LogError CodePoint
  | .str [c] => .ok c
  | .bool b => .ok (.ofNat (if b then 1 else 0))
  | .int n =>
    if 0 ≤ n ∧ n < 0x110000 then .ok (.ofNat n.toNat) else .error .characterOutOfRange
  | _ => .error .notCharacter

/-- An argument as text: the mark before its digits, such as a sign, and
the rest. -/
structure Written where
  sign : Text
  mark : Text
  body : Text
  /-- Whether zeros may fill the width, and a sign may be wanted. -/
  isNumber : Bool

/-- A text that is no number. -/
def Written.ofText (t : Text) (precision : Option Nat) : Written :=
  ⟨[], [], match precision with
    | some n => t.take n
    | none => t, false⟩

/-- An integer in a base, with a mark before it, and zeros up to the
precision. -/
def Written.ofInteger (base : Nat) (mark : Text) (precision : Option Nat) (n : Int) : Written :=
  let digits := baseText base n.natAbs
  ⟨if n < 0 then "-" else [], mark,
    List.replicate (precision.getD 0 - digits.length) (.scalar '0') ++ digits, true⟩

/-- A number that is spelled with its sign. -/
def Written.ofSpelling (t : Text) : Written :=
  match t with
  | .scalar '-' :: rest => ⟨"-", [], rest, true⟩
  | _ => ⟨[], [], t, true⟩

/-- A text with each small letter of ASCII as a capital one. -/
def inCapitals (t : Text) : Text :=
  t.map fun c => if 97 ≤ c.value ∧ c.value ≤ 122 then .ofNat (c.value - 32) else c

/-- An argument as the letter of a directive wants it. -/
def written (directive : LogDirective) (letter : CodePoint) (precision : Option Nat)
    (v : Value) : Except LogError Written :=
  let places := precision.getD 6
  let kept := directive.alternate
  let spelled (text : Double → Text) : Except LogError Written :=
    (floating v).map fun x => .ofSpelling (text x)
  let inBase (base : Nat) (mark : Text) : Except LogError Written :=
    (whole letter v).map (.ofInteger base (if directive.alternate then mark else []) precision)
  let capitalized (w : Written) : Written :=
    { w with mark := inCapitals w.mark, body := inCapitals w.body }
  match letter with
  | .scalar 's' => .ok (.ofText v.plain precision)
  | .scalar 'r' => .ok (.ofText v.literal precision)
  | .scalar 'a' => .ok (.ofText (asciiLiteral v) precision)
  | .scalar 'd' | .scalar 'i' | .scalar 'u' =>
    (truncated letter v).map (.ofInteger 10 [] precision)
  | .scalar 'o' => inBase 8 "0o"
  | .scalar 'x' => inBase 16 "0x"
  | .scalar 'X' => (inBase 16 "0x").map capitalized
  | .scalar 'f' => spelled (Double.fixedText places kept)
  | .scalar 'F' => (spelled (Double.fixedText places kept)).map capitalized
  | .scalar 'e' => spelled (Double.scientificText places kept)
  | .scalar 'E' => (spelled (Double.scientificText places kept)).map capitalized
  | .scalar 'g' => spelled (Double.generalText places kept)
  | .scalar 'G' => (spelled (Double.generalText places kept)).map capitalized
  | .scalar 'c' => (character v).map fun c => ⟨[], [], [c], false⟩
  | _ => .error (.unknownLetter letter directive.index)

/-- The text of an argument, filled up to a width. -/
def filled (directive : LogDirective) (left : Bool) (width : Nat) (w : Written) : Text :=
  let sign : Text :=
    if w.isNumber ∧ w.sign = [] then
      if directive.signed then "+" else if directive.blank then " " else []
    else w.sign
  let missing := width - (sign.length + w.mark.length + w.body.length)
  if left then sign ++ w.mark ++ w.body ++ List.replicate missing (.scalar ' ')
  else if w.isNumber ∧ directive.zeros then
    sign ++ w.mark ++ List.replicate missing (.scalar '0') ++ w.body
  else List.replicate missing (.scalar ' ') ++ sign ++ w.mark ++ w.body

/-- An argument as a directive wants it. A negative width means the left
side, a negative precision none. -/
def write (directive : LogDirective) (letter : CodePoint) (width precision : Option Int)
    (v : Value) : Except LogError Text :=
  (directive.written letter (precision.map Int.toNat) v).map
    (directive.filled (directive.left || (width.any (· < 0))) ((width.getD 0).natAbs))

end LogDirective

/-! ## 4. Messages -/

/-- A pattern and its arguments. -/
structure LogMessage where
  pattern : Text
  arguments : List Value
deriving DecidableEq

namespace LogMessage

/-- The arguments that have not been used, and the dictionary that keys are
looked up in, if there is one. -/
structure Supply where
  arguments : List Value
  keys : Option (Table Value)

/-- The next argument. -/
def Supply.next (supply : Supply) : Except LogError (Value × Supply) :=
  match supply.arguments with
  | [] => .error .tooFewArguments
  | v :: rest => .ok (v, { supply with arguments := rest })

/-- The arguments after a key has been looked up: its value is the only
one. -/
def Supply.lookedUp (supply : Supply) : LogKey → Except LogError Supply
  | .none => .ok supply
  | .unclosed => .error (if supply.keys.isSome then .incompleteKey else .notMapping)
  | .name key =>
    match supply.keys with
    | none => .error .notMapping
    | some keys =>
      match keys.get? key with
      | none => .error (.missingKey key)
      | some v => .ok { supply with arguments := [v] }

/-- The limits of a field of a directive: its name, the type of its values,
and the greatest of them. -/
structure SizeField where
  name : Text
  type : Text
  greatest : Nat

def widthField : SizeField := ⟨"width", "C ssize_t", twoTo 63 - 1⟩

def precisionField : SizeField := ⟨"precision", "C int", twoTo 31 - 1⟩

/-- A width or a precision, and the arguments that are left. -/
def Supply.size (supply : Supply) (field : SizeField) :
    Option LogSize → Except LogError (Option Int × Supply)
  | none => .ok (none, supply)
  | some (.number n) =>
    if n ≤ field.greatest then .ok (some n, supply) else .error (.sizeTooLarge field.name)
  | some .argument =>
    match supply.next with
    | .error e => .error e
    | .ok (.int n, left) =>
      if -(field.greatest : Int) - 1 ≤ n ∧ n ≤ field.greatest then .ok (some n, left)
      else .error (.argumentTooLarge field.type)
    | .ok (.bool b, left) => .ok (some (if b then 1 else 0), left)
    | .ok _ => .error .sizeNotInteger

/-- The text of a directive, and the arguments that are left. -/
def directiveText (key : LogKey) (directive : LogDirective) (supply : Supply) :
    Except LogError (Text × Supply) := do
  let supply ← supply.lookedUp key
  let (width, supply) ← supply.size widthField directive.width
  let (precision, supply) ← supply.size precisionField directive.precision
  match directive.letter with
  | none => throw .incomplete
  | some letter =>
    let (v, supply) ← supply.next
    let t ← directive.write letter width precision v
    pure (t, supply)

/-- The text of pieces. Arguments must not be left over, except that a
dictionary need not be used. -/
def fill : List LogPiece → Supply → Except LogError Text
  | [], supply =>
    if supply.keys.isNone ∧ supply.arguments ≠ [] then .error .tooManyArguments else .ok []
  | .literal c :: rest, supply => (fill rest supply).map (c :: ·)
  | .directive key directive :: rest, supply => do
    let (t, supply) ← directiveText key directive supply
    let more ← fill rest supply
    pure (t ++ more)

/-- What the directives of a message may use: a single dictionary that is
not empty is one for keys. -/
def supply (arguments : List Value) : Supply :=
  match arguments with
  | [.dict (entry :: entries)] => ⟨arguments, some (entry :: entries)⟩
  | _ => ⟨arguments, none⟩

/-- The text of a message. -/
def text (message : LogMessage) : Except LogError Text :=
  if message.arguments = [] then .ok message.pattern
  else fill (LogPiece.ofText message.pattern) (supply message.arguments)

end LogMessage

end TreeTemplate
