/-
TreeTemplate.Log.Setup — where messages go (`setup_logging`, specification
§16).

Messages go to the console from a level on, and, if a directory for logs
is set, all of them to a file in it. Some libraries are kept quiet. The
first set-up counts: later ones change nothing.

* `LogOptions` — what a program wants; the environment is asked for the rest.
* `Logging` — the outcome, with the messages that tell of it.
* `setupLogging` — one set-up.
-/
import TreeTemplate.Configuration
import TreeTemplate.Log.Level

namespace TreeTemplate

/-- What a program wants of its logging. -/
structure LogOptions where
  level : Option Text
  directory : Option Text
  asFields : Option Bool
deriving DecidableEq

/-- Where messages go. -/
inductive LogTarget where
  | console
  | file (path : Path)
deriving DecidableEq

/-- Messages from a level on go to a target, as fields or as text. -/
structure LogHandler where
  target : LogTarget
  level : LogLevel
  asFields : Bool
deriving DecidableEq

/-- The level of all messages that handlers get to see. -/
def rootLogLevel : LogLevel := .debug

/-- The levels of libraries that are kept quiet. -/
def quietLoggers : Table LogLevel :=
  [("uvicorn", .warning), ("uvicorn.access", .warning), ("httpx", .warning),
    ("httpcore", .warning), ("uvicorn.error", .info)]

/-- A logging that has been set up. -/
structure Logging where
  handlers : List LogHandler
  /-- The messages that tell of the set-up. -/
  opening : List Text
deriving DecidableEq

/-- Why logging cannot be set up. -/
inductive LogSetupError where
  /-- The name is that of a pattern and not of a level. -/
  | unknownLevel (pattern : Text)
  /-- The name is that of a table of patterns and not of a level. -/
  | noLevel (table : Text)
  | load (error : LoadError)
deriving DecidableEq

/-- The words for an error. -/
def LogSetupError.message : LogSetupError → Text
  | unknownLevel pattern => ("Unknown level: " : Text) ++ pattern.quoted
  | noLevel table => ("Level not an integer or a valid string: " : Text) ++ table
  | load error => error.message

/-- What the name of a level can stand for: a level, or a pattern or a
table of patterns, which have names of the same form. -/
inductive NamedSetting where
  | level (level : LogLevel)
  | pattern (text : Text)
  | patterns (shown : Text)
deriving DecidableEq

namespace NamedSetting

/-- The name of the pattern. -/
def patternName : Text := "BASIC_FORMAT"

/-- The pattern of that name. -/
def basicPattern : Text := "%(levelname)s:%(name)s:%(message)s"

/-- The name of the table of patterns. -/
def tableName : Text := "_STYLES"

/-- The table of that name: for each mark of a style the style and the
pattern. -/
def shownTable : Text :=
  ("\x7b'%': (<class 'logging.PercentStyle'>, " : Text) ++ basicPattern.quoted
    ++ ("), '\x7b': (<class 'logging.StrFormatStyle'>, " : Text)
    ++ Text.quoted "\x7blevelname\x7d:\x7bname\x7d:\x7bmessage\x7d"
    ++ ("), '$': (<class 'logging.StringTemplateStyle'>, " : Text)
    ++ Text.quoted "$\x7blevelname\x7d:$\x7bname\x7d:$\x7bmessage\x7d" ++ (")\x7d" : Text)

/-- What a name stands for. -/
def ofName? (name : Text) : Option NamedSetting :=
  if LogLevel.capitals name = patternName then some (pattern basicPattern)
  else if LogLevel.capitals name = tableName then some (patterns shownTable)
  else (LogLevel.ofName? name).map level

/-- The level, if the name stands for one. -/
def level? : NamedSetting → Except LogSetupError LogLevel
  | level l => .ok l
  | pattern t => .error (.unknownLevel t)
  | patterns t => .error (.noLevel t)

end NamedSetting

/-- The setting for a name that is asked for, unless it names the level of
all messages; else for the name in the environment; else the level of
information. -/
def chosenSetting (environment : Table Text) (wanted : Option Text) : NamedSetting :=
  match wanted.bind NamedSetting.ofName? with
  | some (.level level) =>
    if level = .notSet then fromEnvironment else .level level
  | some setting => setting
  | none => fromEnvironment
where
  /-- The setting of the environment. -/
  fromEnvironment : NamedSetting :=
    (NamedSetting.ofName? ((environment.get? "LOG_LEVEL").getD "INFO")).getD (.level .info)

/-- The name of the log file in its directory. -/
def logFileName : Text := "vanillatemplates.log"

/-- Makes the log file in a directory, which is made if it is missing. -/
def openLogFile (files : Files) (directory : Path) : Except LoadError Path × Files :=
  match files.makeDirectories directory with
  | (.error e, made) => (.error e, made)
  | (.ok (), made) =>
    let path : Path := ⟨"/", (directory.child logFileName).absolute files.current⟩
    match made.position path with
    | .error fault => (.error (.system fault path.toText), made)
    | .ok place =>
      match made.entryAt? place, made.refusal? .write place with
      | some .directory, _ => (.error (.system .isDirectory path.toText), made)
      | _, some fault => (.error (.system fault path.toText), made)
      | some (.file _), none => (.ok path, made)
      | none, none => (.ok path, made.place place (.file []))

/-- The messages that tell of a set-up. -/
def openingMessages (level : LogLevel) (directory : Option Path) (asFields : Bool) : List Text :=
  [("[STARTUP] Vanilla Templates " : Text) ++ version,
    ("[STARTUP] Log level: " : Text) ++ level.name,
    ("[STARTUP] Log file: " : Text) ++ (match directory with
      | some path => path.toText
      | none => "disabled"),
    ("[STARTUP] Log format: " : Text) ++ (if asFields then "JSON" else "text")]

/-- Sets logging up. -/
def setupLogging (environment : Table Text) (options : LogOptions) (files : Files) :
    Except LogSetupError Logging × Files :=
  match (chosenSetting environment options.level).level? with
  | .error e => (.error e, files)
  | .ok level =>
    let directory := (options.directory.filter fun t => !t.isEmpty).or
      (Configuration.nonempty? environment "LOG_DIR")
    let asFields := options.asFields.getD
      (Text.lower ((environment.get? "LOG_FORMAT").getD "text") = ("json" : Text))
    let console : LogHandler := ⟨.console, level, asFields⟩
    let opening := openingMessages level (directory.map Path.ofText) asFields
    match directory with
    | none => (.ok ⟨[console], opening⟩, files)
    | some t =>
      match openLogFile files (.ofText t) with
      | (.error e, made) => (.error (.load e), made)
      | (.ok path, made) => (.ok ⟨[console, ⟨.file path, .debug, asFields⟩], opening⟩, made)

/-- The messages that handlers for the console show of the opening. -/
def Logging.shown (logging : Logging) : List Text :=
  logging.handlers.flatMap fun handler =>
    if handler.target = .console ∧ handler.level ≤ .info then logging.opening else []

/-- Sets logging up, unless that has been done. -/
def setupOnce (environment : Table Text) (options : LogOptions) (logging : Option Logging)
    (files : Files) : Except LogSetupError (Option Logging) × Files :=
  match logging with
  | some l => (.ok (some l), files)
  | none =>
    let (outcome, after) := setupLogging environment options files
    (outcome.map some, after)

end TreeTemplate
