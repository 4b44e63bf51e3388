/-
TreeTemplate.Partial.Files — paths and a tree of files.

A path is a row of names, from the root or from the directory that one is
in. Paths are taken in two ways: `normalized` strikes out `..` together
with the name before it, whatever is there; `Files.find` walks from
directory to directory, as the system does.

Not all that is wanted of a file can be had. A file may be closed to the
program or hold bytes that are no text, a directory may be closed to new
names, and a write may end for want of room when some bytes are written. None
of this can be read off the tree of files, so it is part of what is given:
`Files.refusals` and `Files.shortWrites`.

* `Path.ofText`, `Path.toText` — between texts and paths.
* `normalized` — a row of names without `.` and `..`.
* `Files` — the files and directories there are, by their names from the
  root, and what cannot be done with them.
* `Files.read`, `Files.makeDirectories` — what is done with them.
-/
import TreeTemplate.Partial.Error

namespace TreeTemplate

/-! ## 1. Paths -/

/-- The name of the directory itself. -/
def here : Text := "."

/-- The name of the directory above. -/
def above : Text := ".."

/-- A path: what stands before the first name (nothing for a path that
does not begin at the root), and the names, none of them empty or `.`. -/
structure Path where
  root : Text
  names : List Text
deriving DecidableEq

/-- The names between slashes, but for empty ones and `.`. -/
def namesIn (t : Text) : List Text :=
  (t.splitOn (.scalar '/')).filter fun name => name ≠ [] ∧ name ≠ here

namespace Path

/-- The path that a text spells. Two slashes at the beginning, and no
third, are a root of their own. -/
def ofText (t : Text) : Path :=
  let slashes := (t.takeWhile (· = .scalar '/')).length
  ⟨if slashes = 0 then [] else if slashes = 2 then "//" else "/", namesIn t⟩

/-- The text of a path. -/
def toText (path : Path) : Text :=
  if path.root = [] ∧ path.names = [] then here
  else path.root ++ Text.joined "/" path.names

/-- The path with a name after it. -/
def child (path : Path) (name : Text) : Path := ⟨path.root, path.names ++ [name]⟩

/-- The path without its last name. -/
def parent (path : Path) : Path := ⟨path.root, path.names.dropLast⟩

end Path

/-- Walks along names, where `..` goes back to the name before, and from
the root nowhere. The names walked so far come latest first. -/
def normalizedFrom : List Text → List Text → List Text
  | walked, [] => walked.reverse
  | walked, name :: rest =>
    if name = [] ∨ name = here then normalizedFrom walked rest
    else if name = above then normalizedFrom walked.tail rest
    else normalizedFrom (name :: walked) rest

/-- The row of names without empty ones, `.` and `..`. -/
def normalized (names : List Text) : List Text := normalizedFrom [] names

/-- The names of a path from the root, for one who is in a directory. -/
def Path.absolute (path : Path) (directory : List Text) : List Text :=
  normalized (if path.root = [] then directory ++ path.names else path.names)

/-- The text of names from the root. -/
def absoluteText (names : List Text) : Text := .scalar '/' :: Text.joined "/" names

/-! ## 2. Files -/

/-- What a name can stand for: a file, which holds bytes, or a directory. -/
inductive FileEntry where
  | file (bytes : List Nat)
  | directory
deriving DecidableEq

/-- What can be wanted at a place in the tree of files. -/
inductive FileUse where
  /-- To go on from a directory. -/
  | pass
  /-- To open a file for reading. -/
  | look
  /-- To read a file that is open. -/
  | read
  /-- To make a directory. -/
  | make
  /-- To open a file for writing. -/
  | write
deriving DecidableEq

/-- A use that is refused at a place, whatever stands there: for want of a
permission or of room, or because a device fails. -/
structure Refusal where
  use : FileUse
  place : List Text
  fault : SystemFault
deriving DecidableEq

/-- A write at a place that ends too early, when so many bytes are written. -/
structure ShortWrite where
  place : List Text
  count : Nat
  fault : SystemFault
deriving DecidableEq

/-- The files and directories there are, by their names from the root, the
directory that one is in, and what cannot be done. -/
structure Files where
  current : List Text
  entries : List (List Text × FileEntry)
  refusals : List Refusal
  shortWrites : List ShortWrite
deriving DecidableEq

namespace Files

/-- What stands at names from the root. -/
def entryAt? (files : Files) (names : List Text) : Option FileEntry :=
  if names = [] then some .directory
  else (files.entries.find? fun entry => entry.1 = names).map Prod.snd

/-- Why a use is refused at a place, if it is. -/
def refusal? (files : Files) (use : FileUse) (place : List Text) : Option SystemFault :=
  (files.refusals.find? fun refusal => refusal.use = use ∧ refusal.place = place).map
    Refusal.fault

/-- The write at a place, if it ends too early. -/
def shortWrite? (files : Files) (place : List Text) : Option ShortWrite :=
  files.shortWrites.find? fun write => write.place = place

/-- The greatest number of bytes in a name. -/
def maxNameBytes : Nat := 255

/-- Walks along names from a directory, given by its names from the root,
to the names from the root at which they end. -/
def walk (files : Files) : List Text → List Text → Except SystemFault (List Text)
  | position, [] => .ok position
  | position, name :: rest =>
    match files.entryAt? position with
    | none => .error .notFound
    | some (.file _) => .error .notDirectory
    | some .directory =>
      match files.refusal? .pass position with
      | some fault => .error fault
      | none =>
        if name = above then walk files position.dropLast rest
        else if maxNameBytes < name.byteLength then .error .nameTooLong
        else walk files (position ++ [name]) rest

/-- Where a path begins. -/
def start (files : Files) (path : Path) : List Text :=
  if path.root = [] then files.current else []

/-- The greatest number of bytes in the text of a path. -/
def maxPathBytes : Nat := 4095

/-- The names from the root at which a path ends. -/
def position (files : Files) (path : Path) : Except SystemFault (List Text) :=
  if maxPathBytes < path.toText.byteLength then .error .nameTooLong
  else files.walk (files.start path) path.names

/-- What stands at a path. -/
def find (files : Files) (path : Path) : Except SystemFault FileEntry := do
  let position ← files.position path
  match files.entryAt? position with
  | some entry => pure entry
  | none => throw .notFound

/-- The text in which each end of a line is one line feed. -/
def withPlainLines : Text → Text
  | [] => []
  | .scalar '\r' :: .scalar '\n' :: rest => .scalar '\n' :: withPlainLines rest
  | .scalar '\r' :: rest => .scalar '\n' :: withPlainLines rest
  | c :: rest => c :: withPlainLines rest

/-- Checks that a text can be the text of a path. -/
def checkText (t : Text) : Except LoadError Unit :=
  match Encoding.fileName.unspelled? t with
  | some unspelled => .error (.unspelled unspelled)
  | none => if t.holds (.scalar '\x00') then .error .nullByte else .ok ()

/-- Checks the names on a way, of which those that have been walked come
latest first, as long as something is asked for under them. -/
def checkNames : List Text → List Text → Except LoadError Unit
  | _, [] => .ok ()
  | walked, name :: rest =>
    if name = [] ∨ name = here then checkNames walked rest
    else if name = above then checkNames walked.tail rest
    else match checkText (absoluteText (name :: walked).reverse) with
      | .ok () => checkNames (name :: walked) rest
      | .error error => .error error

/-- The bytes of the file at a place, which a path has led to. -/
def bytesAt (files : Files) (path : Path) (place : List Text) : Except LoadError (List Nat) :=
  match files.entryAt? place, files.refusal? .look place with
  | none, _ => .error (.system .notFound path.toText)
  | some _, some fault => .error (.system fault path.toText)
  | some .directory, none => .error (.system .isDirectory path.toText)
  | some (.file bytes), none =>
    match files.refusal? .read place with
    | some fault => .error (.interrupted fault)
    | none => .ok bytes

/-- The text of the file at a path. -/
def read (files : Files) (path : Path) : Except LoadError Text := do
  checkText path.toText
  let place ← (files.position path).mapError fun fault => .system fault path.toText
  let bytes ← files.bytesAt path place
  let text ← (Text.decoded bytes).mapError .undecoded
  return withPlainLines text

/-- The files with something put at names from the root. -/
def place (files : Files) (names : List Text) (entry : FileEntry) : Files :=
  { files with entries :=
      if files.entries.any (fun e => e.1 = names) then
        files.entries.map fun e => if e.1 = names then (names, entry) else e
      else files.entries ++ [(names, entry)] }

/-- The files with a directory at names from the root and at all names
above it. -/
def placeDirectories (files : Files) (names : List Text) : Files :=
  (List.range names.length).foldl (fun files i => files.place (names.take (i + 1)) .directory) files

/-- The files of texts at paths in a directory that one is in. Nothing is
refused. -/
def ofTexts (current : List Text) (texts : List (Text × Text)) : Files :=
  texts.foldl
    (fun files (path, content) =>
      let names := normalized (current ++ namesIn path)
      (files.placeDirectories names.dropLast).place names (.file content.utf8))
    (placeDirectories ⟨current, [], [], []⟩ current)

/-- Makes a directory at names from a directory. -/
def makeDirectory (files : Files) (path : Path) : Except SystemFault Files := do
  let position ← files.position path
  match files.entryAt? position, files.refusal? .make position with
  | some _, _ => throw .exists
  | none, some fault => throw fault
  | none, none => pure (files.place position .directory)

/-- Whether a directory stands at a path. -/
def isDirectory (files : Files) (path : Path) : Bool :=
  match files.find path with
  | .ok .directory => true
  | _ => false

/-- Makes the directory of a path with the given root, and at most the
given number above it. -/
def makeDirectoriesAbove (files : Files) (root : Text) :
    Nat → List Text → Except LoadError Unit × Files
  | depth, names =>
    let path : Path := ⟨root, names⟩
    match files.makeDirectory path with
    | .ok made => (.ok (), made)
    | .error .notFound =>
      match depth with
      | 0 => (.error (.system .notFound path.toText), files)
      | depth + 1 =>
        match files.makeDirectoriesAbove root depth names.dropLast with
        | (.error e, made) => (.error e, made)
        | (.ok (), made) =>
          match made.makeDirectory path with
          | .ok whole => (.ok (), whole)
          | .error fault =>
            if made.isDirectory path then (.ok (), made)
            else (.error (.system fault path.toText), made)
    | .error fault =>
      if files.isDirectory path then (.ok (), files)
      else (.error (.system fault path.toText), files)

/-- Makes a directory and those above it, as far as they are missing. An
error names the path that could not be made; what was made before stays. -/
def makeDirectories (files : Files) (path : Path) : Except LoadError Unit × Files :=
  match checkText path.toText with
  | .error error => (.error error, files)
  | .ok () => files.makeDirectoriesAbove path.root path.names.length path.names

end Files

end TreeTemplate
