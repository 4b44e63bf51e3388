/-
TreeTemplate.Site.Command — the command that builds a page, around
`build_site` of specification §12.

* `Outcome` — how the command ends: its exit code, and what it says.
* `runCommand` — the command on arguments, an environment and files, with the
  files afterwards.
-/
import TreeTemplate.Log.Setup
import TreeTemplate.Site.Arguments
import TreeTemplate.Site.Build

namespace TreeTemplate

/-- Why the command fails. -/
inductive CommandError where
  /-- A path is not given. -/
  | noPath
  | build (error : BuildError)
deriving DecidableEq

/-- The words for an error. -/
def CommandError.message : CommandError → Text
  | noPath => "expected str, bytes or os.PathLike object, not list"
  | build error => error.message

/-- How the command ends. -/
inductive Outcome where
  /-- It told how it is used. -/
  | helped
  /-- Its arguments were wrong. -/
  | misused
  | built (index : Path)
  | failed (error : CommandError)
deriving DecidableEq

namespace Outcome

/-- The exit code. -/
def exit : Outcome → Nat
  | helped => 0
  | misused => 2
  | built _ => 0
  | failed _ => 1

/-- What is written to the output. -/
def output : Outcome → Text
  | built index => ("Wrote " : Text) ++ index.toText ++ ("\n" : Text)
  | _ => []

/-- What is written to the error output. -/
def errors : Outcome → Text
  | failed error => ("Build failed: " : Text) ++ error.message ++ ("\n" : Text)
  | _ => []

end Outcome

/-- Builds a page as options say. The directory for the result is asked for
when there is a result. -/
def buildWith (configuration : Configuration) (files : Files) (now : Double)
    (options : BuildOptions) : Except CommandError Path × Files :=
  match options.document, options.data with
  | some document, some data =>
    let document := Path.ofText document
    let data := Path.ofText data
    let loader := loaderBeside files document
    match options.out with
    | some out =>
      let ((result, after), _) :=
        buildSite configuration.settings files now document data (.ofText out) loader
      (result.mapError .build, after)
    | none =>
      let (result, _) := renderDocument configuration.settings files now document data loader
      (match result with
        | .ok _ => .error .noPath
        | .error e => .error (.build e), files)
  | _, _ => (.error .noPath, files)

/-- Runs the command. Logging that cannot be set up ends it before it has
begun. -/
def runCommand (environment : Table Text) (files : Files) (now : Double)
    (arguments : List Text) : Except LogSetupError Outcome × Files :=
  match CommandLine.ofTexts arguments with
  | .wrong => (.ok .misused, files)
  | .help => (.ok .helped, files)
  | .build options =>
    match setupLogging environment ⟨options.logLevel, none, none⟩ files with
    | (.error e, after) => (.error e, after)
    | (.ok _, files) =>
      match buildWith (.ofEnvironment environment) files now options with
      | (.ok index, after) => (.ok (.built index), after)
      | (.error e, after) => (.ok (.failed e), after)

end TreeTemplate
