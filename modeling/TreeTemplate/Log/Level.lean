/-
TreeTemplate.Log.Level — how grave a message is.

A level is a number. Some levels have names; two levels have two.

* `LogLevel.name` — the name of a level, or a phrase with its number.
* `LogLevel.ofName?` — the level with a name, in letters of any case.
-/
import TreeTemplate.Table

namespace TreeTemplate

/-- How grave a message is: the greater, the graver. -/
abbrev LogLevel := Int

namespace LogLevel

def notSet : LogLevel := 0
def debug : LogLevel := 10
def info : LogLevel := 20
def warning : LogLevel := 30
def error : LogLevel := 40
def critical : LogLevel := 50

/-- The names of levels, those that messages use first. -/
def named : Table LogLevel :=
  [("NOTSET", notSet), ("DEBUG", debug), ("INFO", info), ("WARNING", warning), ("ERROR", error),
    ("CRITICAL", critical), ("WARN", warning), ("FATAL", critical)]

/-- The name of a level. -/
def name (level : LogLevel) : Text :=
  match named.find? fun entry => entry.2 = level with
  | some (name, _) => name
  | none => ("Level " : Text) ++ Text.ofInt level

/-- The capital form of a letter, as far as names of settings use it: the
dotless i and the long s are capital I and S, and two ligatures are S and T. -/
def capital (c : CodePoint) : Text :=
  if 97 ≤ c.value ∧ c.value ≤ 122 then [.ofNat (c.value - 32)]
  else if c = .scalar '\u0131' then "I"
  else if c = .scalar '\u017F' then "S"
  else if c = .scalar '\uFB05' ∨ c = .scalar '\uFB06' then "ST"
  else [c]

/-- A name in capital letters. -/
def capitals (name : Text) : Text := name.flatMap capital

/-- The level with a name. -/
def ofName? (name : Text) : Option LogLevel := named.get? (capitals name)

end LogLevel

end TreeTemplate
