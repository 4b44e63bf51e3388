/-
TreeTemplate.Configuration — settings from the environment (`Config`,
specification §10).

Each setting is a variable of the environment. One that is not set, or
that should be a number and is none, has a default.

* `Configuration` — the settings, and `Configuration.ofEnvironment`.
* `Configuration.settings` — those that rendering needs.
* `Configuration.defaultLoader?` — the loader that they describe: of a server,
  or else of a directory, and cached if a time to live is set
  (`create_default_loader`, §15).
-/
import TreeTemplate.Number.Reading
import TreeTemplate.Partial.Loader
import TreeTemplate.Template.Render

namespace TreeTemplate

/-- The version of the program. -/
def version : Text := "0.11.0"

/-- The settings. -/
structure Configuration where
  templateDirectory : Option Path
  partialsAddress : Option Text
  httpTimeout : Double
  httpAttempts : Int
  httpDelay : Double
  partialTtl : Int
  maxDepth : Int
  openings : List Text
deriving DecidableEq

namespace Configuration

/-- The openings of directive names in a text: those between commas,
without repetitions. -/
def openingsOf (t : Text) : List Text :=
  (Table.firstOfEach ((t.splitOn (.scalar ',')).map fun piece => (piece.trim, ()))).names

/-- A text that is set and not empty. -/
def nonempty? (environment : Table Text) (name : Text) : Option Text :=
  (environment.get? name).filter fun t => !t.isEmpty

/-- The settings of an environment. -/
def ofEnvironment (environment : Table Text) : Configuration where
  templateDirectory := (nonempty? environment "TEMPLATE_DIR").map Path.ofText
  partialsAddress := nonempty? environment "PARTIALS_BASE_URL"
  httpTimeout := double "HTTP_TIMEOUT" (.ofInt 10)
  httpAttempts := integer "HTTP_RETRY_COUNT" 3
  httpDelay := double "HTTP_RETRY_DELAY" (.ofInt 1)
  partialTtl := integer "PARTIAL_CACHE_TTL" 300
  maxDepth := integer "MAX_INCLUDE_DEPTH" 32
  openings := openingsOf ((environment.get? "DIRECTIVE_PREFIXES").getD "data-,")
where
  /-- A whole number, or its default. -/
  integer (name : Text) (standard : Int) : Int :=
    ((environment.get? name).bind readInteger?).getD standard
  /-- A floating-point number, or its default. -/
  double (name : Text) (standard : Double) : Double :=
    ((environment.get? name).bind readDouble?).getD standard

/-- What rendering needs. -/
def settings (configuration : Configuration) : Settings :=
  ⟨configuration.openings, configuration.maxDepth, some parseMarkup⟩

/-- The loader that the settings describe. -/
def defaultLoader? (configuration : Configuration) (files : Files) : Option PartialLoader :=
  let plain? : Option PartialLoader :=
    match configuration.partialsAddress, configuration.templateDirectory with
    | some address, _ => some (.leaf (.remote
        ⟨address, configuration.httpAttempts, .exact configuration.httpDelay, .offline, []⟩))
    | none, some directory => some (.leaf (.directory files (directory.absolute files.current)))
    | none, none => none
  plain?.map fun loader =>
    if 0 < configuration.partialTtl then
      PartialLoader.cachedFor (.ofInt configuration.partialTtl) PartialLoader.defaultMaxSize loader
    else loader

end Configuration

end TreeTemplate
