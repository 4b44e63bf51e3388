/-
TreeTemplate.Log.Record — log records, and how they are written.

A record is written as a line of text, with the name of its level in at
least eight places and an error on a line of its own, or as fields for a
reader that is a program.

* `LogRecord.text` — a record as text.
* `LogRecord.fields` — a record as fields.
-/
import TreeTemplate.Log.Level
import TreeTemplate.Log.Message

namespace TreeTemplate

/-- An event in a program. -/
structure LogRecord where
  /-- When it happened, in words. -/
  time : Text
  logger : Text
  level : LogLevel
  /-- The source file that tells of it. -/
  file : Text
  line : Int
  message : LogMessage
  /-- The kind of an error and its words, if the event is one. -/
  error : Option (Text × Text)
deriving DecidableEq

namespace LogRecord

/-- What an error is called, and its words if it has any. -/
def errorText : Text × Text → Text
  | (kind, []) => kind
  | (kind, words) => kind ++ (": " : Text) ++ words

/-- The name of a level, with spaces up to eight places. -/
def levelColumn (level : LogLevel) : Text :=
  let name := level.name
  name ++ List.replicate (8 - name.length) (.scalar ' ')

/-- The error on a line after a text. -/
def withError (t : Text) : Option (Text × Text) → Text
  | none => t
  | some error =>
    (if t.getLast? = some (.scalar '\n') then t else t ++ ("\n" : Text)) ++ errorText error

/-- A record as text. -/
def text (record : LogRecord) : Except LogError Text :=
  record.message.text.map fun message =>
    withError (record.time ++ (" | " : Text) ++ levelColumn record.level ++ (" | " : Text)
      ++ record.logger ++ .scalar ':' :: Text.ofInt record.line ++ (" | " : Text) ++ message)
      record.error

/-- A file name without its last extension; dots at the beginning begin
none. -/
def withoutExtension (name : Text) : Text :=
  let dots : Text := name.takeWhile (· = .scalar '.')
  let rest : Text := name.dropWhile (· = .scalar '.')
  if rest.holds (.scalar '.') then
    dots ++ ((rest.reverse.dropWhile (· ≠ .scalar '.')).drop 1).reverse
  else name

/-- The name of the module in a source file. -/
def moduleOf (file : Text) : Text :=
  withoutExtension ((file.splitOn (.scalar '/')).getLastD [])

/-- A record as fields, without the time. -/
def fields (record : LogRecord) : Except LogError (Table Value) :=
  record.message.text.map fun message =>
    [(("level" : Text), .str record.level.name), (("logger" : Text), .str record.logger),
      (("message" : Text), .str message), (("module" : Text), .str (moduleOf record.file)),
      (("line" : Text), .int record.line)]
      ++ (record.error.map fun error => (("exception" : Text), Value.str (errorText error))).toList

end LogRecord

end TreeTemplate
