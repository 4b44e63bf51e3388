/-
TreeTemplate.Site.Build — building a page from files (specification §12).

A document and its data are read from files, the templates in the document
are expanded, and the result is written to `index.html` in a directory
that is made if it is missing. Without another source, partials are read
from the directory of the document.

* `renderDocument` (`render_document`) — the text of a document.
* `buildSite` (`build_site`) — writes it. A failure tells what has become of
  the files.
-/
import TreeTemplate.Partial.Loader
import TreeTemplate.Site.Document
import TreeTemplate.Text.Unspelled

namespace TreeTemplate

/-- Why a page cannot be built. -/
inductive BuildError where
  | load (error : LoadError)
  | data (failure : Json.Failure)
  | markup (error : MarkupError)
  | noElements (path : Text)
  | render (error : RenderError)
  /-- The text holds lone surrogates. -/
  | unwritable (unspelled : Unspelled)
deriving DecidableEq

namespace BuildError

/-- The words for an error. -/
def message : BuildError → Text
  | load error => error.message
  | data failure => failure.message
  | markup error => error.message
  | noElements path => ("Parsing the HTML template failed: " : Text) ++ path
  | render error => error.message
  | unwritable unspelled => unspelled.message

end BuildError

/-! ## 1. Rendering -/

/-- The loader for the partials of a document. -/
def loaderBeside (files : Files) (document : Path) : PartialLoader :=
  .leaf (.directory files (document.parent.absolute files.current))

/-- A document and its data, read from files. -/
def readDocument (files : Files) (document data : Path) : Except BuildError (Node × Value) := do
  let markup ← (files.read document).mapError BuildError.load
  let dataText ← (files.read data).mapError BuildError.load
  let value ← (Json.read dataText).mapError BuildError.data
  let root ← (parseMarkup markup).mapError BuildError.markup
  if root.children.any Node.isElement then pure (root, value)
  else throw (.noElements document.toText)

/-- The text of the document in one file with the data in another, and
the state of the loader afterwards. -/
def renderDocument (settings : Settings) (files : Files) (now : Double) (document data : Path)
    (loader : PartialLoader) : Except BuildError Text × PartialLoader :=
  match readDocument files document data with
  | .error e => (.error e, loader)
  | .ok (root, value) =>
    match expandTemplates settings (some (PartialLoader.source now)) root value loader with
    | (.error e, next) => (.error (.render e), next)
    | (.ok expanded, next) => (.ok (documentText (withoutBodySpace expanded)), next)

/-! ## 2. Writing -/

/-- Writes a text to a file. The file is emptied when it is opened. So a text
that has no bytes leaves it empty, and a write that ends too early leaves it
with the first bytes of the text. -/
def writeFile (files : Files) (path : Path) (text : Text) : Except BuildError Unit × Files :=
  match files.position path with
  | .error fault => (.error (.load (.system fault path.toText)), files)
  | .ok place =>
    match files.entryAt? place, files.refusal? .write place with
    | some .directory, _ => (.error (.load (.system .isDirectory path.toText)), files)
    | _, some fault => (.error (.load (.system fault path.toText)), files)
    | _, none =>
      match Encoding.utf8.unspelled? text with
      | some unspelled => (.error (.unwritable unspelled), files.place place (.file []))
      | none =>
        match files.shortWrite? place with
        | some write =>
          (.error (.load (.interrupted write.fault)),
            files.place place (.file (text.utf8.take write.count)))
        | none => (.ok (), files.place place (.file text.utf8))

/-- The name of the file that is written. -/
def indexFile : Text := "index.html"

/-- Builds a page and writes it into a directory. Gives the path of the
file, and the files afterwards. -/
def buildSite (settings : Settings) (files : Files) (now : Double) (document data out : Path)
    (loader : PartialLoader) : (Except BuildError Path × Files) × PartialLoader :=
  match renderDocument settings files now document data loader with
  | (.error e, next) => ((.error e, files), next)
  | (.ok text, next) =>
    let (outcome, made) := files.makeDirectories out
    match outcome with
    | .error e => ((.error (.load e), made), next)
    | .ok () =>
      let index := out.child indexFile
      let (written, after) := writeFile made index text
      ((written.map fun _ => index, after), next)

end TreeTemplate
