/-
TreeTemplate.Main — the program.

The command works on files that are given as a value. The program begins
with no files at all; whenever the command misses one, it is looked for on
the disk, and the command is run again. What the command has changed is
written at the end.
-/
import TreeTemplate.Site.Command

namespace TreeTemplate

/-- The variables of the environment that settings are taken from. -/
def settingNames : List String :=
  ["TEMPLATE_DIR", "PARTIALS_BASE_URL", "HTTP_TIMEOUT", "HTTP_RETRY_COUNT", "HTTP_RETRY_DELAY",
    "PARTIAL_CACHE_TTL", "MAX_INCLUDE_DEPTH", "DIRECTIVE_PREFIXES", "LOG_LEVEL", "LOG_DIR",
    "LOG_FORMAT"]

/-- How the program is used. -/
def usage : String := "usage: [-h] [--out OUT] [--log-level LOG_LEVEL] template data"

/-- The settings in the environment. -/
def readEnvironment : IO (Table Text) := do
  let found ← settingNames.mapM fun name => do
    pure ((← IO.getEnv name).map fun value => (Text.ofString name, Text.ofString value))
  pure (found.filterMap id)

/-- The name of a file for the system. -/
def diskName (names : List Text) : String := (absoluteText names).toStringLossy

/-- The files with what stands on the disk at names from the root. Of what is
closed to the program no more is known than whether it is on the way to
something. -/
def withEntry (files : Files) (names : List Text) (isOnTheWay : Bool) : IO Files := do
  if (files.entryAt? names).isSome then return files
  try
    let content ← IO.FS.readBinFile (diskName names)
    return files.place names (.file (content.toList.map UInt8.toNat))
  catch
    | .inappropriateType .. => return files.place names .directory
    | .permissionDenied _ code words =>
      if isOnTheWay then return files.place names .directory
      let closed : Refusal := ⟨.look, names, .ofNumber code.toNat words⟩
      return { files.place names (.file []) with refusals := closed :: files.refusals }
    | _ => return files

/-- The files with what stands on the disk at names from the root, and at
the names above. -/
def withDisk (files : Files) (names : List Text) : IO Files :=
  (List.range names.length).foldlM
    (fun files i => withEntry files (names.take (i + 1)) (i + 1 < names.length)) files

/-- The path that the command has missed. -/
def missedPath? : Except LogSetupError Outcome → Option Text
  | .ok (.failed (.build (.load (.system .notFound path)))) => some path
  | .ok (.failed (.build (.render (.load (.system .notFound path))))) => some path
  | _ => none

/-- Runs the command until it misses nothing that is on the disk. -/
partial def runOnDisk (environment : Table Text) (arguments : List Text) (files : Files) :
    IO (Except LogSetupError Outcome × Files × Files) := do
  let (outcome, after) := runCommand environment files (.ofInt 0) arguments
  match missedPath? outcome with
  | none => pure (outcome, files, after)
  | some path =>
    let names := (Path.ofText path).absolute files.current
    let more ← withDisk files names
    if (more.entryAt? names).isSome && (files.entryAt? names).isNone then
      runOnDisk environment arguments more
    else pure (outcome, files, after)

/-- The directories that the command may write into. -/
def outputPaths (environment : Table Text) (arguments : List Text) : List Path :=
  let out := match CommandLine.ofTexts arguments with
    | .build options => options.out.toList
    | _ => []
  let logs := (Configuration.nonempty? environment "LOG_DIR").toList
  out.map (fun t => (Path.ofText t).child indexFile)
    ++ logs.map (fun t => (Path.ofText t).child logFileName)

/-- Writes what has changed. -/
def writeChanges (before after : Files) : IO Unit :=
  after.entries.forM fun (names, entry) =>
    if before.entryAt? names = some entry then pure ()
    else match entry with
      | .directory => IO.FS.createDirAll (diskName names)
      | .file bytes => IO.FS.writeBinFile (diskName names) ⟨(bytes.map UInt8.ofNat).toArray⟩

end TreeTemplate

open TreeTemplate in
/-- The program. -/
def main (arguments : List String) : IO UInt32 := do
  let arguments := arguments.map Text.ofString
  let environment ← readEnvironment
  let current := namesIn (Text.ofString (← IO.currentDir).toString)
  let start := Files.placeDirectories ⟨current, [], [], []⟩ current
  let known ← (outputPaths environment arguments).foldlM
    (fun files path => withDisk files (path.absolute current)) start
  let (outcome, before, after) ← runOnDisk environment arguments known
  try writeChanges before after
  catch e =>
    IO.eprintln s!"Build failed: {e}"
    return 1
  match outcome with
  | .error e =>
    IO.eprintln e.message.toStringLossy
    pure 1
  | .ok ending =>
    match ending with
    | .helped => IO.println usage
    | .misused => IO.eprintln usage
    | _ => pure ()
    IO.print ending.output.toStringLossy
    IO.eprint ending.errors.toStringLossy
    pure (UInt32.ofNat ending.exit)
