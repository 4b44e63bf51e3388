/-
TreeTemplate.Site.Arguments — the arguments of the command.

The command takes two paths and some options. An option may be shortened
as long as no other begins so, and its value may follow in the next
argument or after `=`. The first argument `--` ends the options.

* `Argument.ofTexts?` — what each argument is, on its own.
* `BuildOptions` — what is asked for.
* `CommandLine.ofTexts` — the outcome of reading all arguments.
-/
import TreeTemplate.Text.Blank
import TreeTemplate.Text.Digit

namespace TreeTemplate

/-! ## 1. Single arguments -/

/-- The options of the command. -/
inductive CommandOption where
  | help
  | out
  | logLevel
deriving DecidableEq

/-- The spellings of options. -/
def CommandOption.spellings : List (Text × CommandOption) :=
  [("-h", help), ("--help", help), ("--out", out), ("--log-level", logLevel)]

/-- An argument on its own. -/
inductive Argument where
  /-- A path, or the value of an option. -/
  | plain (t : Text)
  /-- An option, whether it is spelled with one hyphen, and its value if it
  stands in the same argument. -/
  | option (kind : CommandOption) (short : Bool) (value : Option Text)
  /-- An option that there is not. -/
  | unknown
  /-- The end of the options. -/
  | stop
deriving DecidableEq

namespace Argument

/-- Whether a text is a negative number: a hyphen and digits, perhaps with
a point before the last of them. One line feed may follow. -/
def isNegativeNumber (t : Text) : Bool :=
  match t with
  | .scalar '-' :: rest =>
    let isDigit (c : CodePoint) : Bool := c.decimalValue?.isSome
    let whole := rest.takeWhile isDigit
    let atEnd (t : Text) : Bool := t = [] || t = [.scalar '\n']
    match rest.dropWhile isDigit with
    | .scalar '.' :: fraction =>
      !(fraction.takeWhile isDigit).isEmpty && atEnd (fraction.dropWhile isDigit)
    | after => !whole.isEmpty && atEnd after
  | _ => false

/-- The options that an argument with two hyphens may mean, with the value
after `=`. -/
def longMeanings (t : Text) : List Argument :=
  let (name, value) := Text.cut (.scalar '=') t
  CommandOption.spellings.filterMap fun (spelling, kind) =>
    if spelling.startsWith name then some (.option kind false value) else none

/-- The options that an argument with one hyphen may mean. The value
follows the letter. -/
def shortMeanings (t : Text) : List Argument :=
  CommandOption.spellings.filterMap fun (spelling, kind) =>
    if spelling = t.take 2 then some (.option kind true (some (t.drop 2)))
    else if spelling.startsWith t then some (.option kind false none)
    else none

/-- Whether a spelling has one hyphen only. -/
def isShort (spelling : Text) : Bool := !spelling.startsWith "--"

/-- The option whose spelling an argument is, or begins with before `=`. -/
def spelled? (t : Text) : Option Argument :=
  let (name, value) := Text.cut (.scalar '=') t
  (CommandOption.spellings.findSome? fun (spelling, kind) =>
    if spelling = t then some (.option kind (isShort spelling) none) else none).or
  (CommandOption.spellings.findSome? fun (spelling, kind) =>
    if spelling = name then some (.option kind (isShort spelling) value) else none)

/-- What an argument before the end of the options is; nothing if it may
mean several options. -/
def ofText? (t : Text) : Option Argument :=
  match t with
  | .scalar '-' :: second :: _ =>
    match spelled? t with
    | some argument => some argument
    | none =>
      match if second = .scalar '-' then longMeanings t else shortMeanings t with
      | [argument] => some argument
      | [] =>
        some (if isNegativeNumber t || t.holds (.scalar ' ') then .plain t else .unknown)
      | _ => none
  | _ => some (.plain t)

/-- The argument that ends the options. -/
def stopText : Text := "--"

/-- What the arguments are. -/
def ofTexts? : List Text → Option (List Argument)
  | [] => some []
  | t :: rest =>
    if t = stopText then some (.stop :: rest.map .plain)
    else do
      let argument ← ofText? t
      let others ← ofTexts? rest
      pure (argument :: others)

end Argument

/-! ## 2. All arguments -/

/-- What is asked for. A path or a value that is spelled `--` counts as not
given, unless it follows the end of the options at once. -/
structure BuildOptions where
  document : Option Text
  data : Option Text
  out : Option Text
  logLevel : Option Text
deriving DecidableEq

/-- The outcome of reading arguments. -/
inductive CommandLine where
  | build (options : BuildOptions)
  | help
  | wrong
deriving DecidableEq

namespace CommandLine

/-- What has been read so far. -/
structure Progress where
  /-- The paths, the latest first. -/
  paths : List (Option Text)
  out : Option Text
  logLevel : Option Text
  /-- Whether there was an argument too many. -/
  surplus : Bool
  /-- Whether all paths were there before the latest option. -/
  complete : Bool
  /-- Whether the end of the options has come and nothing else since. -/
  stopped : Bool

/-- The count of paths. -/
def pathCount : Nat := 2

namespace Progress

/-- Before the first argument. -/
def start : Progress := ⟨[], some "dist", none, false, false, false⟩

/-- A path or a value, if it is given. -/
def given? (t : Text) (exempt : Bool) : Option Text :=
  if t = Argument.stopText ∧ exempt = false then none else some t

/-- After a path. -/
def addPath (progress : Progress) (t : Text) : Progress :=
  if progress.paths.length < pathCount then
    { progress with paths := given? t progress.stopped :: progress.paths, stopped := false }
  else { progress with surplus := true }

/-- After the end of the options. -/
def stop (progress : Progress) (isFirst : Bool) : Progress :=
  if progress.complete then { progress with surplus := true }
  else { progress with stopped := isFirst }

/-- After an option with its value. -/
def setOption (progress : Progress) (kind : CommandOption) (t : Text) : Progress :=
  let value := given? t false
  let next := { progress with complete := progress.paths.length = pathCount }
  match kind with
  | .out => { next with out := value }
  | .logLevel => { next with logLevel := value }
  | .help => next

/-- After the last argument. -/
def finish (progress : Progress) : CommandLine :=
  match progress.surplus, progress.paths with
  | false, [data, document] => build ⟨document, data, progress.out, progress.logLevel⟩
  | _, _ => wrong

end Progress

/-- What an option for help with a value in the same argument leads to:
the value may only repeat the letter. -/
def helpWith (short : Bool) : Option Text → CommandLine
  | none => help
  | some t => if short ∧ t ≠ [] ∧ t.all (· = .scalar 'h') then help else wrong

/-- Reads arguments. `inRun` says whether the argument before was a path. -/
def read (progress : Progress) (inRun : Bool) : List Argument → CommandLine
  | [] => progress.finish
  | .plain t :: rest => read (progress.addPath t) true rest
  | .stop :: rest => read (progress.stop (!inRun)) true rest
  | .unknown :: rest =>
    read { progress with surplus := true, complete := progress.paths.length = pathCount }
      false rest
  | .option .help short value :: _ => helpWith short value
  | .option kind _ (some t) :: rest => read (progress.setOption kind t) false rest
  | .option kind _ none :: .plain t :: rest => read (progress.setOption kind t) false rest
  | .option _ _ none :: _ => wrong

/-- The outcome of reading the arguments of the command. -/
def ofTexts (arguments : List Text) : CommandLine :=
  match Argument.ofTexts? arguments with
  | some arguments => read .start false arguments
  | none => wrong

end CommandLine

end TreeTemplate
