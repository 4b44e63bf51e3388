/-
TreeTemplate.Proofs.Site.Writing — what a build leaves of the files
(`build_site` and the command around it, specification §12; that there is no
partial success, §7).

A build reads all that it needs before it writes, and makes directories before
the one file that it writes. So a build that fails leaves the files as they
were, and one that succeeds changes the index file only. There is one gap: the
index file is emptied when it is opened, and what fails after that fails too
late. The page may hold a lone surrogate, which data can bring in and which has
no bytes, or the write may end too early.

Nothing is assumed of the files. Any of them may be closed to the program, be
no text or fail while it is read, and any directory may be closed to new names:
that is what `Files.refusals` is for. All of it is met before the index file is
opened.

* `Files.fileAt?`, `Files.SameFiles`, `Files.SameFilesBut` — the files that
  there are, and what two states have in common.
* `onlyDirectories_makeDirectories` — directories, one after another.
* `BrokenOff` — what is in a file when a write has been broken off.
* `writeFile_cases`, `buildSite_leaves` — the ends of a write, and of a build.
* `runCommand_leaves` — the main statement; `runCommand_empties` — the gap.
-/
import TreeTemplate.Proofs.Outcome
import TreeTemplate.Site.Command
import Mathlib.Data.List.Basic

namespace TreeTemplate

/-! ## 1. Files -/

/-- The bytes of the file at names from the root, if there is a file. -/
def Files.fileAt? (files : Files) (names : List Text) : Option (List Nat) :=
  match files.entryAt? names with
  | some (.file bytes) => some bytes
  | _ => none

/-- Whether there are the same files in two states, with the same bytes. -/
def Files.SameFiles (files after : Files) : Prop :=
  ∀ names, after.fileAt? names = files.fileAt? names

/-- Whether there are the same files in two states, with the same bytes, but
for one place. -/
def Files.SameFilesBut (place : List Text) (files after : Files) : Prop :=
  ∀ names, names ≠ place → after.fileAt? names = files.fileAt? names

namespace Files

variable {files made after : Files} {names place : List Text} {entry : FileEntry} {path : Path}

theorem SameFiles.trans (h : SameFiles files made) (h' : SameFiles made after) :
    SameFiles files after :=
  fun names => (h' names).trans (h names)

theorem SameFiles.transBut (h : SameFiles files made) (h' : SameFilesBut place made after) :
    SameFilesBut place files after :=
  fun names hNames => (h' names hNames).trans (h names)

/-- What stands at names after something has been put somewhere. -/
theorem entryAt?_place (hPlace : place ≠ []) (names : List Text) :
    (files.place place entry).entryAt? names =
      if names = place then some entry else files.entryAt? names := by
  have hRoot : names = [] → names ≠ place := fun hNil e => hPlace (e ▸ hNil)
  unfold entryAt? Files.place
  split
  · next hNil => rw [if_neg (hRoot hNil)]
  dsimp only
  split
  · next hAny =>
    -- What is put somewhere takes the place of what was there.
    have hFind : (files.entries.map fun e => if e.1 = place then (place, entry) else e).find?
          (fun e => e.1 = names) =
        (files.entries.find? fun e => e.1 = names).map fun e =>
          if e.1 = place then (place, entry) else e := by
      rw [List.find?_map]
      congr 2
      funext e
      by_cases he : e.1 = place <;> simp [he]
    rw [hFind]
    split
    · next hNames =>
      subst hNames
      obtain ⟨e, hMem, he⟩ := List.any_eq_true.1 hAny
      cases hFound : files.entries.find? fun e => e.1 = names with
      | none => exact absurd he (List.find?_eq_none.1 hFound e hMem)
      | some found =>
        have hIs : found.1 = names := by simpa using List.find?_some hFound
        simp [hIs]
    · next hNames =>
      cases hFound : files.entries.find? fun e => e.1 = names with
      | none => rfl
      | some found =>
        have hIs : found.1 = names := by simpa using List.find?_some hFound
        simp [hIs, hNames]
  · next hAny =>
    rw [List.find?_append]
    split
    · next hNames =>
      subst hNames
      have hNone : (files.entries.find? fun e => e.1 = names) = none :=
        List.find?_eq_none.2 fun e hMem he => hAny (List.any_eq_true.2 ⟨e, hMem, he⟩)
      simp [hNone]
    · next hNames => simp [Ne.symm hNames]

theorem fileAt?_place (hPlace : place ≠ []) (bytes : List Nat) :
    (files.place place (.file bytes)).fileAt? place = some bytes := by
  rw [fileAt?, entryAt?_place hPlace, if_pos rfl]

theorem sameFilesBut_place (hPlace : place ≠ []) :
    SameFilesBut place files (files.place place entry) := by
  intro names hNames
  rw [fileAt?, entryAt?_place hPlace, if_neg hNames]
  rfl

/-- A directory in an empty place. -/
theorem sameFiles_place_directory (h : files.entryAt? place = none) :
    SameFiles files (files.place place .directory) := by
  have hPlace : place ≠ [] := by
    rintro rfl
    cases h
  intro names
  by_cases hNames : names = place
  · rw [fileAt?, fileAt?, entryAt?_place hPlace, if_pos hNames, hNames, h]
  · exact sameFilesBut_place hPlace names hNames

/-! ## 2. Directories -/

/-- Whether the files of two states differ in nothing but directories, and the
same writes end too early. -/
structure OnlyDirectories (files made : Files) : Prop where
  sameFiles : SameFiles files made
  shortWrites : made.shortWrites = files.shortWrites

theorem OnlyDirectories.refl (files : Files) : OnlyDirectories files files :=
  ⟨fun _ => rfl, rfl⟩

theorem OnlyDirectories.trans (h : OnlyDirectories files made)
    (h' : OnlyDirectories made after) : OnlyDirectories files after :=
  ⟨h.sameFiles.trans h'.sameFiles, h'.shortWrites.trans h.shortWrites⟩

/-- A directory is made where nothing is. -/
theorem onlyDirectories_makeDirectory (h : files.makeDirectory path = .ok made) :
    OnlyDirectories files made := by
  obtain ⟨place, -, h⟩ := exists_of_bind_eq_ok h
  split at h
  · cases h
  · cases h
  · next hNone _ =>
    cases h
    exact ⟨sameFiles_place_directory hNone, rfl⟩

theorem onlyDirectories_makeDirectoriesAbove (root : Text) (depth : Nat) (names : List Text) :
    OnlyDirectories files (files.makeDirectoriesAbove root depth names).2 := by
  induction depth generalizing files names with
  | zero =>
    unfold makeDirectoriesAbove
    dsimp only
    split
    · next hMade => exact onlyDirectories_makeDirectory hMade
    · exact .refl files
    · split <;> exact .refl files
  | succ depth ih =>
    have hAbove : OnlyDirectories files (files.makeDirectoriesAbove root depth names.dropLast).2 :=
      ih names.dropLast
    unfold makeDirectoriesAbove
    dsimp only
    split
    · next hMade => exact onlyDirectories_makeDirectory hMade
    · split
      · next hError => rwa [hError] at hAbove
      · next made hOk =>
        rw [hOk] at hAbove
        split
        · next hWhole => exact hAbove.trans (onlyDirectories_makeDirectory hWhole)
        · split <;> exact hAbove
    · split <;> exact .refl files

/-- Making directories changes no file. -/
theorem onlyDirectories_makeDirectories (path : Path) :
    OnlyDirectories files (files.makeDirectories path).2 := by
  unfold makeDirectories
  split
  · exact .refl files
  · exact onlyDirectories_makeDirectoriesAbove _ _ _

/-! ## 3. The place of a file -/

/-- Putting something somewhere changes nothing in what is refused. -/
theorem refusal?_place (place : List Text) (entry : FileEntry) (use : FileUse)
    (names : List Text) : (files.place place entry).refusal? use names = files.refusal? use names :=
  rfl

/-- A walk goes through directories, so it ends where it did if something else
has been put somewhere. -/
theorem walk_place (hPlace : place ≠ []) (hEntry : files.entryAt? place ≠ some .directory)
    {start : List Text} (h : files.walk start names = .ok place) :
    (files.place place entry).walk start names = .ok place := by
  induction names generalizing start with
  | nil => exact h
  | cons name rest ih =>
    rw [walk] at h ⊢
    split at h
    · cases h
    · cases h
    · next hHere =>
      have hStart : start ≠ place := fun e => hEntry (e ▸ hHere)
      rw [entryAt?_place hPlace, if_neg hStart, hHere, refusal?_place]
      dsimp only
      split at h
      · cases h
      · split at h
        · next hName => rw [if_pos hName, ih h]
        · next hName =>
          rw [if_neg hName]
          split at h
          · cases h
          · next hLong => rw [if_neg hLong, ih h]

theorem position_place (hPlace : place ≠ []) (hEntry : files.entryAt? place ≠ some .directory)
    (h : files.position path = .ok place) :
    (files.place place entry).position path = .ok place := by
  unfold position at h ⊢
  split at h
  · cases h
  · next hLong =>
    rw [if_neg hLong]
    exact walk_place hPlace hEntry h

end Files

/-! ## 4. One file -/

variable {files made after : Files} {path : Path} {text : Text} {bytes : List Nat}
  {place : List Text}

/-- What has become of a file that was to be written at a place, to which its
path leads: it holds the bytes, and no other file has changed. -/
structure Files.Holds (files after : Files) (path : Path) (place : List Text)
    (bytes : List Nat) : Prop where
  position : after.position path = .ok place
  holds : after.fileAt? place = some bytes
  others : files.SameFilesBut place after

theorem Files.Holds.trans (hSame : files.SameFiles made) (h : made.Holds after path place bytes) :
    files.Holds after path place bytes :=
  ⟨h.position, h.holds, hSame.transBut h.others⟩

/-- Whether the bytes of UTF-8 can spell a text. -/
def Text.Writable (t : Text) : Prop := Encoding.utf8.unspelled? t = none

instance (t : Text) : Decidable t.Writable := inferInstanceAs (Decidable (_ = _))

/-- What is in the file at a place when a write of a text has been broken off:
nothing if the text has no bytes, and the first bytes if the write ends too
early. -/
inductive BrokenOff (files : Files) (text : Text) (place : List Text) : List Nat → Prop where
  | unspelled : ¬ text.Writable → BrokenOff files text place []
  | short {write : ShortWrite} : text.Writable → files.shortWrite? place = some write →
    BrokenOff files text place (text.utf8.take write.count)

theorem BrokenOff.of_eq (h : BrokenOff made text place bytes)
    (hWrites : made.shortWrites = files.shortWrites) : BrokenOff files text place bytes := by
  cases h with
  | unspelled hText => exact .unspelled hText
  | short hText hShort =>
    refine .short hText ?_
    rwa [Files.shortWrite?, ← hWrites]

theorem holds_place (hEntry : files.entryAt? place ≠ some .directory)
    (h : files.position path = .ok place) (bytes : List Nat) :
    files.Holds (files.place place (.file bytes)) path place bytes := by
  have hPlace : place ≠ [] := by
    rintro rfl
    exact hEntry rfl
  exact ⟨Files.position_place hPlace hEntry h, Files.fileAt?_place hPlace bytes,
    Files.sameFilesBut_place hPlace⟩

/-- The ends of a write: a file that cannot be opened, one that has been emptied
before the write is broken off, and one that holds the text. -/
theorem writeFile_cases (files : Files) (path : Path) (text : Text) :
    (∃ e, writeFile files path text = (.error e, files)) ∨
    (∃ e after place bytes, writeFile files path text = (.error e, after) ∧
      BrokenOff files text place bytes ∧ files.Holds after path place bytes) ∨
    (text.Writable ∧ ∃ after place, writeFile files path text = (.ok (), after) ∧
      files.Holds after path place text.utf8) := by
  unfold writeFile
  split
  · exact .inl ⟨_, rfl⟩
  · next place hPlace =>
    split
    · exact .inl ⟨_, rfl⟩
    · exact .inl ⟨_, rfl⟩
    · next hEntry =>
      have hHolds := holds_place hEntry hPlace
      split
      · next unspelled hSome =>
        have hText : ¬ text.Writable := by
          rw [Text.Writable, hSome]
          exact Option.some_ne_none _
        exact .inr (.inl ⟨_, _, place, _, rfl, .unspelled hText, hHolds _⟩)
      · next hText =>
        split
        · next write hShort =>
          exact .inr (.inl ⟨_, _, place, _, rfl, .short hText hShort, hHolds _⟩)
        · exact .inr (.inr ⟨hText, _, place, rfl, hHolds _⟩)

/-! ## 5. Building -/

/-- What a build leaves of the files, for the page that was to be written. -/
inductive Leaves (rendered : Except BuildError Text) (index : Path) (files after : Files) :
    Except BuildError Path → Prop where
  /-- The index file holds the page. -/
  | written {text : Text} {place : List Text} : rendered = .ok text → text.Writable →
    files.Holds after index place text.utf8 → Leaves rendered index files after (.ok index)
  /-- The page was there, but writing it has been broken off. -/
  | brokenOff {text : Text} {place : List Text} {bytes : List Nat} {e : BuildError} :
    rendered = .ok text → BrokenOff files text place bytes →
    files.Holds after index place bytes → Leaves rendered index files after (.error e)
  | untouched {e : BuildError} : files.SameFiles after →
    Leaves rendered index files after (.error e)

theorem buildSite_leaves (settings : Settings) (files : Files) (now : Double)
    (document data out : Path) (loader : PartialLoader) :
    Leaves (renderDocument settings files now document data loader).1 (out.child indexFile) files
      (buildSite settings files now document data out loader).1.2
      (buildSite settings files now document data out loader).1.1 := by
  have hMade := @Files.onlyDirectories_makeDirectories files out
  unfold buildSite
  cases hRender : renderDocument settings files now document data loader with
  | mk rendered next =>
    cases rendered with
    | error e => exact .untouched fun _ => rfl
    | ok text =>
      dsimp only
      cases hDirectories : files.makeDirectories out with
      | mk outcome made =>
        rw [hDirectories] at hMade
        cases outcome with
        | error e => exact .untouched hMade.sameFiles
        | ok _ =>
          dsimp only
          rcases writeFile_cases made (out.child indexFile) text with
            ⟨e, hWrite⟩ | ⟨e, after, place, bytes, hWrite, hBroken, hHolds⟩ |
            ⟨hText, after, place, hWrite, hHolds⟩
          · rw [hWrite]
            exact .untouched hMade.sameFiles
          · rw [hWrite]
            exact .brokenOff rfl (hBroken.of_eq hMade.shortWrites) (hHolds.trans hMade.sameFiles)
          · rw [hWrite]
            exact .written rfl hText (hHolds.trans hMade.sameFiles)

/-! ## 6. The command -/

variable {environment : Table Text} {now : Double} {arguments : List Text} {outcome : Outcome}

/-- Whether arguments ask for a page: the text that the files, as they are,
give for it, and the path of the file that is to hold it. -/
def AsksFor (environment : Table Text) (files : Files) (now : Double) (arguments : List Text)
    (text : Text) (index : Path) : Prop :=
  ∃ options document data out, CommandLine.ofTexts arguments = .build options ∧
    options.document = some document ∧ options.data = some data ∧ options.out = some out ∧
    index = (Path.ofText out).child indexFile ∧
    (renderDocument (Configuration.ofEnvironment environment).settings files now
      (.ofText document) (.ofText data) (loaderBeside files (.ofText document))).1 = .ok text

/-- Setting up logging without a directory changes nothing. -/
theorem setupLogging_files {options : LogOptions} (hOptions : options.directory = none)
    (hLog : environment.get? "LOG_DIR" = none) :
    (setupLogging environment options files).2 = files := by
  have hNone : ((options.directory.filter fun t => !t.isEmpty).or
      (Configuration.nonempty? environment "LOG_DIR")) = none := by
    rw [hOptions, Configuration.nonempty?, hLog]
    rfl
  unfold setupLogging
  split
  · rfl
  · simp only [hNone]

/-- The end of a build with the options that arguments have spelled. -/
theorem buildWith_cases {options : BuildOptions}
    (hOptions : CommandLine.ofTexts arguments = .build options) {result : Except CommandError Path}
    (hRun : buildWith (.ofEnvironment environment) files now options = (result, after)) :
    (∃ e, result = .error e ∧ files.SameFiles after) ∨
    (∃ text index place, AsksFor environment files now arguments text index ∧
      ((∃ bytes e, BrokenOff files text place bytes ∧ files.Holds after index place bytes ∧
          result = .error e) ∨
        (text.Writable ∧ files.Holds after index place text.utf8 ∧ result = .ok index))) := by
  unfold buildWith at hRun
  split at hRun
  · next document data hDocument hData =>
    dsimp only at hRun
    split at hRun
    · next out hOut =>
      have hLeaves := buildSite_leaves (Configuration.ofEnvironment environment).settings files now
        (.ofText document) (.ofText data) (.ofText out) (loaderBeside files (.ofText document))
      generalize buildSite (Configuration.ofEnvironment environment).settings files now
        (.ofText document) (.ofText data) (.ofText out) (loaderBeside files (.ofText document))
        = build at hRun hLeaves
      obtain ⟨⟨built, left⟩, next⟩ := build
      cases hRun
      have hAsks {text : Text} (hText : _ = Except.ok text) :
          AsksFor environment files now arguments text ((Path.ofText out).child indexFile) :=
        ⟨options, document, data, out, hOptions, hDocument, hData, hOut, rfl, hText⟩
      cases hLeaves with
      | written hText hWritable hHolds =>
        exact .inr ⟨_, _, _, hAsks hText, .inr ⟨hWritable, hHolds, rfl⟩⟩
      | brokenOff hText hBroken hHolds =>
        exact .inr ⟨_, _, _, hAsks hText, .inl ⟨_, _, hBroken, hHolds, rfl⟩⟩
      | untouched hSame => exact .inl ⟨_, rfl, hSame⟩
    · refine .inl ?_
      obtain ⟨hResult, rfl⟩ := Prod.mk.inj hRun
      subst hResult
      split
      · exact ⟨_, rfl, fun _ => rfl⟩
      · exact ⟨_, rfl, fun _ => rfl⟩
  · cases hRun
    exact .inl ⟨_, rfl, fun _ => rfl⟩

/-- What the command leaves, if no log is kept: a log would be one more file
that it makes. A page that is built is in its file and nothing else has changed.
If the build fails nothing has changed, but for two cases, in which the page was
rendered and its file has been opened: the page has no bytes, and the file is
empty; or the write ends too early, and the file holds the first bytes. -/
theorem runCommand_leaves (hLog : environment.get? "LOG_DIR" = none)
    (hRun : runCommand environment files now arguments = (.ok outcome, after)) :
    (outcome.exit = 1 → files.SameFiles after ∨ ∃ text index place bytes,
      AsksFor environment files now arguments text index ∧ BrokenOff files text place bytes ∧
        files.Holds after index place bytes) ∧
    (∀ index, outcome = .built index → ∃ text place,
      AsksFor environment files now arguments text index ∧ text.Writable ∧
        files.Holds after index place text.utf8) := by
  unfold runCommand at hRun
  split at hRun
  · cases hRun
    exact ⟨fun h => absurd h (by decide), fun _ h => by cases h⟩
  · cases hRun
    exact ⟨fun h => absurd h (by decide), fun _ h => by cases h⟩
  · next options hOptions =>
    have hSetup : (setupLogging environment ⟨options.logLevel, none, none⟩ files).2 = files :=
      setupLogging_files rfl hLog
    split at hRun
    · cases hRun
    · next log left hLogging =>
      rw [hLogging] at hSetup
      dsimp only at hSetup
      subst hSetup
      cases hBuild : buildWith (.ofEnvironment environment) left now options with
      | mk result final =>
        rw [hBuild] at hRun
        rcases buildWith_cases hOptions hBuild with ⟨e, rfl, hSame⟩ |
          ⟨text, index, place, hAsks, ⟨bytes, e, hBroken, hHolds, rfl⟩ | ⟨hText, hHolds, rfl⟩⟩
        · cases hRun
          exact ⟨fun _ => .inl hSame, fun _ h => by cases h⟩
        · cases hRun
          exact ⟨fun _ => .inr ⟨text, index, place, bytes, hAsks, hBroken, hHolds⟩,
            fun _ h => by cases h⟩
        · cases hRun
          refine ⟨fun h => absurd h (by simp [Outcome.exit]), fun other hOther => ?_⟩
          cases hOther
          exact ⟨text, place, hAsks, hText, hHolds⟩

/-- A page that is written over its own template. -/
theorem runCommand_leaves_template :
    let files := Files.ofTexts [("w" : Text)]
      [("index.html", "<html><template><var>x</var></template></html>"),
        ("data.json", "\x7b\"x\": \"k\"\x7d")]
    let arguments : List Text := [("index.html" : Text), "data.json", "--out", "."]
    let index : Path := ⟨[], [("index.html" : Text)]⟩
    let after := files.place [("w" : Text), "index.html"] (.file (Text.utf8 "<html>k</html>"))
    Table.get? [] "LOG_DIR" = (none : Option Text) ∧
      runCommand [] files (.ofInt 0) arguments = (.ok (.built index), after) ∧
      ∃ text place, AsksFor [] files (.ofInt 0) arguments text index ∧ text.Writable ∧
        files.Holds after index place text.utf8 := by
  intro files arguments index after
  have hLog : Table.get? [] "LOG_DIR" = (none : Option Text) := rfl
  have hRun : runCommand [] files (.ofInt 0) arguments = (.ok (.built index), after) := by
    decide +kernel
  exact ⟨hLog, hRun, (runCommand_leaves hLog hRun).2 index rfl⟩

/-- A disk without room for the page. -/
example :
    let files := Files.ofTexts [("w" : Text)]
      [("index.html", "<html><template><var>x</var></template></html>"),
        ("data.json", "\x7b\"x\": \"k\"\x7d"), ("dist/index.html", "old")]
    let index : List Text := [("w" : Text), "dist", "index.html"]
    let noRoom : SystemFault := .other ⟨28, "No space left on device", by decide⟩
    runCommand [] { files with shortWrites := [⟨index, 7, noRoom⟩] } (.ofInt 0)
        [("index.html" : Text), "data.json"] =
      (.ok (.failed (.build (.load (.interrupted noRoom)))),
        { files.place index (.file (Text.utf8 "<html>k")) with
          shortWrites := [⟨index, 7, noRoom⟩] }) := by
  decide +kernel

/-- A page with a lone surrogate is not built, but the page that was there is
gone. -/
theorem runCommand_empties :
    ¬ ∀ (environment : Table Text) (files : Files) (now : Double) (arguments : List Text)
        (outcome : Outcome) (after : Files), environment.get? "LOG_DIR" = none →
      runCommand environment files now arguments = (.ok outcome, after) → outcome.exit = 1 →
        files.SameFiles after := by
  intro h
  let files := Files.ofTexts [("w" : Text)]
    [("index.html", "<html><template><var>x</var></template></html>"),
      ("data.json", "\x7b\"x\": \"\\ud800\"\x7d"), ("dist/index.html", "old")]
  let index : List Text := [("w" : Text), "dist", "index.html"]
  let error : BuildError := .unwritable ⟨.utf8, 6, 1, .surrogate 0⟩
  have hRun : runCommand [] files (.ofInt 0) [("index.html" : Text), "data.json"]
      = (.ok (.failed (.build error)), files.place index (.file [])) := by decide +kernel
  have hSame := h [] files _ _ _ _ rfl hRun rfl index
  exact absurd hSame (by decide +kernel)

end TreeTemplate
