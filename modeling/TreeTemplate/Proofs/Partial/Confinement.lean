/-
TreeTemplate.Proofs.Partial.Confinement — partials stay in their directory
(`resolve_path` and `load` of `FileSystemLoader`, specification §15).

The names on the way to a partial are walked one by one, those of the base
first: an empty name and `.` lead nowhere, `..` leads back to the name before.
Where that ends is the place of the partial, provided that it lies in the base
and that no name behind the base begins with a dot. It does not matter whether
the way leaves the base in between.

* `CanPass`, `IsStep`, `IsFileName` — parts of paths, pieces of them, and what a
  file or a directory can be called.
* `destination` — where a name leads, by one step for each piece of it.
* `Served` — the places in a base that are not hidden.
* `isFileName_base` — the bases that loaders are made with.
* `Confined` — what becomes of a request; `ofDirectory_confined` — the main
  statement.
-/
import TreeTemplate.Partial.Loader
import TreeTemplate.Proofs.Text.Pieces
import TreeTemplate.Proofs.Outcome
import Mathlib.Data.List.Infix
import Mathlib.Data.List.TakeWhile
import Mathlib.Tactic.MkIffOfInductiveProp

namespace TreeTemplate

/-! ## 1. Names of files -/

/-- Whether all code points have bytes in the names of files. -/
def Spelled (t : Text) : Prop := ∀ c ∈ t, Encoding.fileName.spells c = true

instance (t : Text) : Decidable (Spelled t) :=
  inferInstanceAs (Decidable (∀ c ∈ t, Encoding.fileName.spells c = true))

/-- What can be a part of the text of a path. -/
@[mk_iff]
structure CanPass (t : Text) : Prop where
  spelled : Spelled t
  noNull : .scalar '\x00' ∉ t

instance (t : Text) : Decidable (CanPass t) := decidable_of_iff' _ (canPass_iff t)

/-- What can stand between two slashes. -/
@[mk_iff]
structure IsStep (name : Text) : Prop extends CanPass name where
  noSlash : .scalar '/' ∉ name

instance (name : Text) : Decidable (IsStep name) := decidable_of_iff' _ (isStep_iff name)

/-- What the name of a file or a directory can be. -/
@[mk_iff]
structure IsFileName (name : Text) : Prop extends IsStep name where
  nonempty : name ≠ []
  ne_here : name ≠ here
  ne_above : name ≠ above

instance (name : Text) : Decidable (IsFileName name) := decidable_of_iff' _ (isFileName_iff name)

theorem isHiddenName_iff (name : Text) :
    isHiddenName name = true ↔ name.head? = some (.scalar '.') := by
  cases name with
  | nil => decide
  | cons c rest =>
    show (Text.afterPrefix? [.scalar '.'] (c :: rest)).isSome = true ↔ _
    by_cases hc : CodePoint.scalar '.' = c
    · simp [Text.afterPrefix?, hc]
    · simp [Text.afterPrefix?, hc, Ne.symm hc]

theorem unspelledFrom?_eq_none_iff {encoding : Encoding} {offset : Nat} {t : Text} :
    encoding.unspelledFrom? offset t = none ↔ ∀ c ∈ t, encoding.spells c = true := by
  induction t generalizing offset with
  | nil => simp [Encoding.unspelledFrom?]
  | cons c rest ih =>
    by_cases hc : encoding.spells c = true
    · simp [Encoding.unspelledFrom?, hc, ih]
    · simp [Encoding.unspelledFrom?, hc]

theorem holds_eq_false_iff {t : Text} {c : CodePoint} : t.holds c = false ↔ c ∉ t := by
  simp only [Text.holds, List.any_eq_false, decide_eq_true_eq]
  exact ⟨fun h hMem => h c hMem rfl, fun h d hMem hd => h (hd ▸ hMem)⟩

theorem checkText_eq_ok_iff {t : Text} :
    Files.checkText t = .ok () ↔ CanPass t := by
  rw [canPass_iff]
  unfold Files.checkText
  split
  · next row hRow =>
    refine ⟨nofun, fun ⟨hSpelled, _⟩ => ?_⟩
    rw [Encoding.unspelled?, unspelledFrom?_eq_none_iff.2 hSpelled] at hRow
    cases hRow
  · next hNone =>
    have hSpelled : Spelled t := unspelledFrom?_eq_none_iff.1 hNone
    rw [← holds_eq_false_iff]
    split
    · next hHolds => simp [hHolds]
    · next hHolds => simp [hSpelled, hHolds]

/-- A text without a NUL character that no file name can spell. -/
theorem checkText_eq_unspelled {t : Text} (h : ¬ Spelled t) :
    ∃ row, Files.checkText t = .error (.unspelled row) := by
  unfold Files.checkText
  split
  · next row _ => exact ⟨row, rfl⟩
  · next hNone => exact absurd (unspelledFrom?_eq_none_iff.1 hNone) h

/-! ## 2. Walking along names -/

/-- Where one more name leads from names. -/
def entered (names : List Text) (name : Text) : List Text :=
  if name = [] ∨ name = here then names
  else if name = above then names.dropLast
  else names ++ [name]

theorem normalizedFrom_eq_foldl (walked names : List Text) :
    normalizedFrom walked names = names.foldl entered walked.reverse := by
  induction names generalizing walked with
  | nil => rfl
  | cons name rest ih =>
    rw [normalizedFrom, List.foldl_cons, entered]
    split
    · exact ih walked
    split
    · rw [ih, ← List.dropLast_reverse]
    · rw [ih, List.reverse_cons]

theorem normalized_eq_foldl (names : List Text) : normalized names = names.foldl entered [] :=
  normalizedFrom_eq_foldl [] names

theorem entered_of_isFileName {name : Text} (h : IsFileName name) (names : List Text) :
    entered names name = names ++ [name] := by
  rw [entered, if_neg (not_or.2 ⟨h.nonempty, h.ne_here⟩), if_neg h.ne_above]

/-- Names of files lead just to where they say. -/
theorem foldl_entered_of_isFileName {names : List Text} (h : ∀ name ∈ names, IsFileName name)
    (walked : List Text) : names.foldl entered walked = walked ++ names := by
  induction names generalizing walked with
  | nil => exact (List.append_nil walked).symm
  | cons name rest ih =>
    obtain ⟨hName, hRest⟩ := List.forall_mem_cons.1 h
    rw [List.foldl_cons, entered_of_isFileName hName, ih hRest, List.append_assoc,
      List.singleton_append]

theorem forall_mem_entered {walked : List Text} {name : Text} (hName : IsStep name)
    (hWalked : ∀ n ∈ walked, IsFileName n) : ∀ n ∈ entered walked name, IsFileName n := by
  unfold entered
  split
  · exact hWalked
  · next hNe =>
    obtain ⟨hNonempty, hHere⟩ := not_or.1 hNe
    split
    · exact fun n hMem => hWalked n ((List.dropLast_sublist _).mem hMem)
    · next hAbove =>
      refine List.forall_mem_append.2 ⟨hWalked, List.forall_mem_singleton.2 ?_⟩
      exact ⟨hName, hNonempty, hHere, hAbove⟩

/-- Wherever a walk leads, the place has names of files. -/
theorem forall_mem_foldl_entered {names walked : List Text} (hNames : ∀ n ∈ names, IsStep n)
    (hWalked : ∀ n ∈ walked, IsFileName n) : ∀ n ∈ names.foldl entered walked, IsFileName n := by
  induction names generalizing walked with
  | nil => exact hWalked
  | cons name rest ih =>
    obtain ⟨hName, hRest⟩ := List.forall_mem_cons.1 hNames
    exact ih hRest (forall_mem_entered hName hWalked)

/-! ## 3. What is checked on the way -/

theorem mem_absoluteText {c : CodePoint} {names : List Text} (h : c ∈ absoluteText names) :
    c = .scalar '/' ∨ ∃ name ∈ names, c ∈ name := by
  rcases List.mem_cons.1 h with rfl | h
  · exact .inl rfl
  · exact (Text.mem_of_mem_joined h).imp_left List.mem_singleton.1

theorem spelled_absoluteText_iff {names : List Text} :
    Spelled (absoluteText names) ↔ ∀ name ∈ names, Spelled name := by
  constructor
  · intro h name hName c hc
    exact h c (List.mem_cons_of_mem _ (Text.mem_joined _ hName hc))
  · intro h c hc
    rcases mem_absoluteText hc with rfl | ⟨name, hName, hMem⟩
    · decide
    · exact h name hName c hMem

theorem null_notMem_absoluteText_iff {names : List Text} :
    .scalar '\x00' ∉ absoluteText names ↔ ∀ name ∈ names, CodePoint.scalar '\x00' ∉ name := by
  constructor
  · intro h name hName hc
    exact h (List.mem_cons_of_mem _ (Text.mem_joined _ hName hc))
  · intro h hc
    rcases mem_absoluteText hc with hSlash | ⟨name, hName, hMem⟩
    · exact absurd hSlash (by decide)
    · exact h name hName hMem

theorem checkText_absoluteText {names : List Text} :
    Files.checkText (absoluteText names) = .ok () ↔ ∀ name ∈ names, CanPass name := by
  simp only [checkText_eq_ok_iff, canPass_iff, spelled_absoluteText_iff,
    null_notMem_absoluteText_iff, forall₂_and]

theorem canPass_of_leadsOn {name : Text} (h : (name = [] ∨ name = here) ∨ name = above) :
    CanPass name := by
  rcases h with (rfl | rfl) | rfl <;> decide

/-- A way is passed if all names on it can be. -/
theorem checkNames_eq_ok_iff {names walked : List Text} (hWalked : ∀ n ∈ walked, CanPass n) :
    Files.checkNames walked names = .ok () ↔ ∀ n ∈ names, CanPass n := by
  induction names generalizing walked with
  | nil => simp [Files.checkNames]
  | cons name rest ih =>
    rw [Files.checkNames, List.forall_mem_cons]
    split
    · next hHere => rw [ih hWalked, and_iff_right (canPass_of_leadsOn (.inl hHere))]
    split
    · next hAbove =>
      rw [ih fun n hMem => hWalked n (List.mem_of_mem_tail hMem),
        and_iff_right (canPass_of_leadsOn (.inr hAbove))]
    by_cases hName : CanPass name
    · have hNext : ∀ n ∈ name :: walked, CanPass n := List.forall_mem_cons.2 ⟨hName, hWalked⟩
      rw [checkText_absoluteText.2 fun n hMem => hNext n (List.mem_reverse.1 hMem),
        and_iff_right hName]
      exact ih hNext
    · split
      · next hOk =>
        exact absurd (checkText_absoluteText.1 hOk name (List.mem_reverse.2 List.mem_cons_self))
          hName
      · exact ⟨nofun, fun h => absurd h.1 hName⟩

/-- Without a NUL character, the only cause to stop is a name that has no
bytes. -/
theorem checkNames_eq_unspelled {names walked : List Text}
    (hWalked : ∀ n ∈ walked, CanPass n) (hNames : ∀ n ∈ names, CodePoint.scalar '\x00' ∉ n)
    (h : ¬ ∀ n ∈ names, Spelled n) :
    ∃ row, Files.checkNames walked names = .error (.unspelled row) := by
  induction names generalizing walked with
  | nil => exact absurd (fun n hMem => absurd hMem List.not_mem_nil) h
  | cons name rest ih =>
    obtain ⟨hName, hRest⟩ := List.forall_mem_cons.1 hNames
    rw [List.forall_mem_cons, not_and] at h
    rw [Files.checkNames]
    split
    · next hHere => exact ih hWalked hRest (h (canPass_of_leadsOn (.inl hHere)).spelled)
    split
    · next hAbove =>
      exact ih (fun n hMem => hWalked n (List.mem_of_mem_tail hMem)) hRest
        (h (canPass_of_leadsOn (.inr hAbove)).spelled)
    by_cases hSpelled : Spelled name
    · have hNext : ∀ n ∈ name :: walked, CanPass n :=
        List.forall_mem_cons.2 ⟨⟨hSpelled, hName⟩, hWalked⟩
      rw [checkText_absoluteText.2 fun n hMem => hNext n (List.mem_reverse.1 hMem)]
      exact ih hNext hRest (h hSpelled)
    · obtain ⟨row, hRow⟩ := checkText_eq_unspelled
        (mt spelled_absoluteText_iff.1 fun hAll => hSpelled
          (hAll name (List.mem_reverse.2 List.mem_cons_self)))
      rw [hRow]
      exact ⟨row, rfl⟩

/-! ## 4. Where a name leads -/

/-- The pieces of a name between slashes; slashes at its beginning count for
nothing. -/
def piecesOf (name : Text) : List Text :=
  Text.splitOn (.scalar '/') (name.dropWhile (· = .scalar '/'))

/-- Where a name leads from a base: first along the names of the base, then
along the pieces of the name. -/
def destination (base : List Text) (name : Text) : List Text :=
  (piecesOf name).foldl entered (base.foldl entered [])

/-- Whether a place lies in a base, and nothing on the way to it from the base
has a name that begins with a dot. -/
def Served (base names : List Text) : Prop :=
  base <+: names ∧ ∀ name ∈ names.drop base.length, name.head? ≠ some (.scalar '.')

instance (base names : List Text) : Decidable (Served base names) :=
  inferInstanceAs (Decidable (_ ∧ _))

variable {base : List Text} {name : Text}

theorem mem_piecesOf {piece : Text} (h : piece ∈ piecesOf name) {c : CodePoint} (hc : c ∈ piece) :
    c ∈ name ∧ c ≠ .scalar '/' := by
  obtain ⟨hMem, hNe⟩ := Text.exists_mem_splitOn.1 ⟨piece, h, hc⟩
  exact ⟨(List.dropWhile_sublist _).mem hMem, hNe⟩

theorem isStep_of_mem_piecesOf (hName : CanPass name) {piece : Text} (h : piece ∈ piecesOf name) :
    IsStep piece where
  spelled c hc := hName.spelled c (mem_piecesOf h hc).1
  noNull hc := hName.noNull (mem_piecesOf h hc).1
  noSlash hc := (mem_piecesOf h hc).2 rfl

theorem not_spelled_piecesOf (h : ¬ Spelled name) : ¬ ∀ piece ∈ piecesOf name, Spelled piece := by
  intro hPieces
  refine h fun c hc => ?_
  by_cases hSlash : c = .scalar '/'
  · rw [hSlash]
    rfl
  · rw [← List.takeWhile_append_dropWhile (p := (· = .scalar '/')) (l := name)] at hc
    rcases List.mem_append.1 hc with hc | hc
    · exact absurd (by simpa using List.mem_takeWhile_imp hc) hSlash
    · obtain ⟨piece, hMem, hc⟩ := Text.exists_mem_splitOn.2 ⟨hc, hSlash⟩
      exact hPieces piece hMem c hc

theorem isFileName_destination (hBase : ∀ n ∈ base, IsFileName n) (hName : CanPass name) :
    ∀ n ∈ destination base name, IsFileName n := by
  refine forall_mem_foldl_entered (fun piece => isStep_of_mem_piecesOf hName) ?_
  rw [foldl_entered_of_isFileName hBase]
  exact hBase

theorem any_isHiddenName_iff {names : List Text} :
    names.any isHiddenName = true ↔ ¬ ∀ n ∈ names, n.head? ≠ some (.scalar '.') := by
  simp only [List.any_eq_true, isHiddenName_iff, not_forall, not_not, exists_prop]

/-- The place of a partial is where its name leads, if it is served. -/
theorem locate_eq (hBase : ∀ n ∈ base, IsFileName n) (hName : CanPass name) :
    locate base name =
      if base <+: destination base name then
        if Served base (destination base name) then .ok (destination base name)
        else .error (.hidden name)
      else .error (.outside name) := by
  have hPass : Files.checkNames [] (base ++ piecesOf name) = .ok () := by
    refine (checkNames_eq_ok_iff (List.forall_mem_nil _)).2 (List.forall_mem_append.2 ⟨?_, ?_⟩)
    · exact fun n hMem => (hBase n hMem).toCanPass
    · exact fun piece hMem => (isStep_of_mem_piecesOf hName hMem).toCanPass
  have hPlace : normalized (base ++ piecesOf name) = destination base name := by
    rw [normalized_eq_foldl, List.foldl_append]
    rfl
  have hLocate : locate base name = (do
      Files.checkNames [] (base ++ piecesOf name)
      let names := normalized (base ++ piecesOf name)
      if base.isPrefixOf names then
        if (names.drop base.length).any isHiddenName then throw (.hidden name) else return names
      else throw (.outside name)) := rfl
  rw [hLocate, hPass, hPlace]
  show (if base.isPrefixOf (destination base name) then _ else _ : Except LoadError (List Text)) = _
  by_cases hIn : base <+: destination base name
  · rw [if_pos (List.isPrefixOf_iff_prefix.2 hIn), if_pos hIn]
    by_cases hServed : Served base (destination base name)
    · rw [if_pos hServed, if_neg (mt any_isHiddenName_iff.1 (not_not.2 hServed.2))]
      rfl
    · rw [if_neg hServed, if_pos (any_isHiddenName_iff.2 fun h => hServed ⟨hIn, h⟩)]
      rfl
  · rw [if_neg (mt List.isPrefixOf_iff_prefix.1 hIn), if_neg hIn]
    rfl

/-- A name that no file name can spell leads nowhere. -/
theorem locate_eq_unspelled (hBase : ∀ n ∈ base, IsFileName n) (hSpelled : ¬ Spelled name)
    (hNull : .scalar '\x00' ∉ name) : ∃ row, locate base name = .error (.unspelled row) := by
  have hNames : ∀ n ∈ base ++ piecesOf name, CodePoint.scalar '\x00' ∉ n :=
    List.forall_mem_append.2 ⟨fun n hMem => (hBase n hMem).noNull,
      fun piece hMem hc => hNull (mem_piecesOf hMem hc).1⟩
  obtain ⟨row, hRow⟩ := checkNames_eq_unspelled
    (List.forall_mem_nil CanPass) hNames
    fun hAll => not_spelled_piecesOf hSpelled fun piece hMem =>
      hAll piece (List.mem_append_right _ hMem)
  exact ⟨row, congrArg (· >>= _) hRow⟩

/-- A place that is found has names of files, is served, and is where the name
leads. -/
theorem served_of_locate (hBase : ∀ n ∈ base, IsFileName n) (hNull : .scalar '\x00' ∉ name)
    {names : List Text} (h : locate base name = .ok names) :
    (∀ n ∈ names, IsFileName n) ∧ Served base names ∧ names = destination base name := by
  by_cases hSpelled : Spelled name
  · have hName : CanPass name := ⟨hSpelled, hNull⟩
    rw [locate_eq hBase hName] at h
    split at h
    · split at h
      · next hServed =>
        cases h
        exact ⟨isFileName_destination hBase hName, hServed, rfl⟩
      · cases h
    · cases h
  · obtain ⟨row, hRow⟩ := locate_eq_unspelled hBase hSpelled hNull
    rw [hRow] at h
    cases h

/-! ## 5. The path from the base -/

theorem piecesOf_joined {names : List Text} (hNe : names ≠ [])
    (h : ∀ n ∈ names, IsFileName n) : piecesOf (Text.joined [.scalar '/'] names) = names := by
  have hStart : (Text.joined [.scalar '/'] names).dropWhile (· = .scalar '/')
      = Text.joined [.scalar '/'] names := by
    obtain ⟨first, rest, rfl⟩ := List.exists_cons_of_ne_nil hNe
    have hFirst := h first List.mem_cons_self
    obtain ⟨c, cs, rfl⟩ := List.exists_cons_of_ne_nil hFirst.nonempty
    have hc : c ≠ .scalar '/' := fun e => hFirst.noSlash (e ▸ List.mem_cons_self)
    cases rest <;> exact List.dropWhile_cons_of_neg (by simpa using hc)
  rw [piecesOf, hStart, Text.splitOn_joined hNe fun n hMem => (h n hMem).noSlash]

theorem toText_eq_joined {names : List Text} (hNe : names ≠ []) :
    Path.toText ⟨[], names⟩ = Text.joined [.scalar '/'] names := by
  rw [Path.toText, if_neg (fun h => hNe h.2)]
  rfl

/-- The path from the base to a place leads to the place. -/
theorem destination_toText (hBase : ∀ n ∈ base, IsFileName n) {names : List Text}
    (h : ∀ n ∈ names, IsFileName n) :
    destination base (Path.toText ⟨[], names⟩) = base ++ names := by
  rw [destination, foldl_entered_of_isFileName hBase, List.nil_append]
  by_cases hNe : names = []
  · subst hNe
    exact (List.append_nil base).symm
  · rw [toText_eq_joined hNe, piecesOf_joined hNe h, foldl_entered_of_isFileName h]

theorem canPass_toText {names : List Text} (h : ∀ n ∈ names, IsFileName n) :
    CanPass (Path.toText ⟨[], names⟩) := by
  by_cases hNe : names = []
  · subst hNe
    exact canPass_of_leadsOn (.inl (.inr rfl))
  · have hAll : CanPass (absoluteText names) := checkText_eq_ok_iff.1
      (checkText_absoluteText.2 fun n hMem => (h n hMem).toCanPass)
    rw [toText_eq_joined hNe]
    exact ⟨fun c hc => hAll.spelled c (List.mem_cons_of_mem _ hc),
      fun hc => hAll.noNull (List.mem_cons_of_mem _ hc)⟩

/-! ## 6. The base of a loader -/

theorem noSlash_of_mem_namesIn {t n : Text} (h : n ∈ namesIn t) : .scalar '/' ∉ n := fun hc =>
  (Text.exists_mem_splitOn.1 ⟨n, (List.mem_filter.1 h).1, hc⟩).2 rfl

/-- A loader of a directory has the names of the directory as its base, from
the root. They are names of files if those are that one is in: what a path adds
to them is checked and normalized when the loader is made. -/
theorem isFileName_base {files : Files} (hCurrent : ∀ n ∈ files.current, IsFileName n) {t : Text}
    {loader : PartialLoader} (h : PartialLoader.ofDirectory files (Path.ofText t) = .ok loader) :
    loader = .leaf (.directory files ((Path.ofText t).absolute files.current)) ∧
      ∀ n ∈ (Path.ofText t).absolute files.current, IsFileName n := by
  have hWalked : ∀ n ∈ (if (Path.ofText t).root.isEmpty then files.current else []),
      IsFileName n := by
    split
    · exact hCurrent
    · exact fun n hMem => absurd hMem List.not_mem_nil
  obtain ⟨⟨⟩, hPass, hLoader⟩ := exists_of_bind_eq_ok h
  have hPath : ∀ n ∈ (Path.ofText t).names, IsStep n := fun n hMem => by
    have hn := (checkNames_eq_ok_iff fun n hMem =>
      (hWalked n (List.mem_reverse.1 hMem)).toCanPass).1 hPass n hMem
    exact ⟨hn, noSlash_of_mem_namesIn hMem⟩
  refine ⟨(Except.ok.inj hLoader).symm, ?_⟩
  rw [Path.absolute, normalized_eq_foldl]
  refine forall_mem_foldl_entered ?_ fun n hMem => absurd hMem List.not_mem_nil
  split
  · exact List.forall_mem_append.2 ⟨fun n hMem => (hCurrent n hMem).toIsStep, hPath⟩
  · exact hPath

/-! ## 7. Reading a file -/

variable {files files' : Files} {position names place : List Text}

theorem walk_eq_ok (hNames : ∀ n ∈ names, n ≠ above) (h : files.walk position names = .ok place) :
    place = position ++ names := by
  induction names generalizing position with
  | nil =>
    cases h
    exact (List.append_nil _).symm
  | cons name rest ih =>
    obtain ⟨hName, hRest⟩ := List.forall_mem_cons.1 hNames
    rw [Files.walk] at h
    split at h
    · cases h
    · cases h
    · split at h
      · cases h
      · rw [if_neg hName] at h
        split at h
        · cases h
        · rw [ih hRest h, List.append_assoc, List.singleton_append]

/-- Whether the same stands at a place in two states of the files, and the same
is refused there. -/
def Files.AlikeAt (files files' : Files) (place : List Text) : Prop :=
  files.entryAt? place = files'.entryAt? place ∧
    ∀ use, files.refusal? use place = files'.refusal? use place

/-- A walk looks at no more than what it goes through. -/
theorem walk_congr (hNames : ∀ n ∈ names, n ≠ above)
    (h : ∀ way, way <+: names → files.AlikeAt files' (position ++ way)) :
    files.walk position names = files'.walk position names := by
  induction names generalizing position with
  | nil => rfl
  | cons name rest ih =>
    obtain ⟨hName, hRest⟩ := List.forall_mem_cons.1 hNames
    have hHere : files.AlikeAt files' position := by simpa using h [] List.nil_prefix
    have hNext : files.walk (position ++ [name]) rest = files'.walk (position ++ [name]) rest :=
      ih hRest fun way hWay => by
        simpa using h (name :: way) (List.cons_prefix_cons.2 ⟨rfl, hWay⟩)
    rw [Files.walk, Files.walk, hHere.1, hHere.2, hNext, if_neg hName, if_neg hName]

theorem position_root (names : List Text) :
    files.position ⟨"/", names⟩ =
      if Files.maxPathBytes < (Path.toText ⟨"/", names⟩).byteLength then .error .nameTooLong
      else files.walk [] names := rfl

/-- A path from the root ends where its names say. -/
theorem position_root_eq_ok (hNames : ∀ n ∈ names, n ≠ above)
    (h : files.position ⟨"/", names⟩ = .ok place) : place = names := by
  rw [position_root] at h
  split at h
  · cases h
  · exact walk_eq_ok hNames h

theorem bytesAt_eq_ok {path : Path} {bytes : List Nat} (h : files.bytesAt path place = .ok bytes) :
    files.entryAt? place = some (.file bytes) := by
  unfold Files.bytesAt at h
  split at h
  · cases h
  · cases h
  · cases h
  · next hEntry _ =>
    split at h
    · cases h
    · cases h
      exact hEntry

/-- What is read is the text of the bytes of the file at the names. -/
theorem read_eq_ok (hNames : ∀ n ∈ names, n ≠ above) {t : Text}
    (h : files.read ⟨"/", names⟩ = .ok t) :
    ∃ bytes content, files.entryAt? names = some (.file bytes) ∧
      Text.decoded bytes = .ok content ∧ t = Files.withPlainLines content := by
  obtain ⟨-, -, h⟩ := exists_of_bind_eq_ok h
  obtain ⟨place, hPlace, h⟩ := exists_of_bind_eq_ok h
  obtain ⟨bytes, hBytes, h⟩ := exists_of_bind_eq_ok h
  obtain ⟨content, hContent, h⟩ := exists_of_bind_eq_ok h
  have hPosition : place = names := position_root_eq_ok hNames (mapError_eq_ok_iff.1 hPlace)
  rw [hPosition] at hBytes
  exact ⟨bytes, content, bytesAt_eq_ok hBytes, mapError_eq_ok_iff.1 hContent,
    (Except.ok.inj h).symm⟩

/-- What is read depends on the names and those before them only. -/
theorem read_congr (hNames : ∀ n ∈ names, n ≠ above)
    (h : ∀ way, way <+: names → files.AlikeAt files' way) :
    files.read ⟨"/", names⟩ = files'.read ⟨"/", names⟩ := by
  have hPosition : files.position ⟨"/", names⟩ = files'.position ⟨"/", names⟩ := by
    rw [position_root, position_root, walk_congr hNames fun way hWay => by simpa using h way hWay]
  have hThere : files.AlikeAt files' names := h names (List.prefix_refl names)
  rw [Files.read, Files.read, hPosition]
  refine bind_congr_of_ok fun _ _ => bind_congr_of_ok fun place hPlace => ?_
  have hEnd : place = names := position_root_eq_ok hNames (mapError_eq_ok_iff.1 hPlace)
  rw [hEnd, Files.bytesAt, Files.bytesAt, hThere.1, hThere.2, hThere.2]

/-! ## 8. Confinement -/

/-- The places before a served one lie before the base or are served. -/
theorem Served.of_prefix (h : Served base names) {way : List Text} (hWay : way <+: names) :
    Served base way ∨ way <+: base := by
  rcases List.prefix_or_prefix_of_prefix h.1 hWay with hBase | hBefore
  · exact .inl ⟨hBase, fun n hMem => h.2 n ((hWay.drop base.length).mem hMem)⟩
  · exact .inr hBefore

/-- What becomes of a request for a name without a NUL character. -/
structure Confined (base : List Text) (name : Text) : Prop where
  /-- A name that no file name can spell has no place. -/
  unspelled : ¬ Spelled name → ∃ row, locate base name = .error (.unspelled row)
  /-- The place of any other name is where it leads, if that is served. -/
  served : Spelled name → Served base (destination base name) →
    locate base name = .ok (destination base name)
  /-- A name that leads out of the base is refused. -/
  outside : Spelled name → ¬ base <+: destination base name →
    locate base name = .error (.outside name)
  /-- A name that leads to something hidden in the base is refused. -/
  hidden : Spelled name → base <+: destination base name →
    ¬ Served base (destination base name) → locate base name = .error (.hidden name)
  /-- The path from the base to the place has the same place. -/
  again : ∀ names, locate base name = .ok names →
    locate base (Path.toText ⟨[], names.drop base.length⟩) = .ok names
  /-- What is loaded is the text of a file in the base that is not hidden. -/
  loaded : ∀ files t, loadFile files base name = .ok t →
    Served base (destination base name) ∧ ∃ bytes content,
      files.entryAt? (destination base name) = some (.file bytes) ∧
        Text.decoded bytes = .ok content ∧ t = Files.withPlainLines content
  /-- Nothing else decides what is loaded, but for the directories above the
  base. -/
  unaffected : ∀ files files' : Files,
    (∀ names, Served base names ∨ names <+: base → files.AlikeAt files' names) →
      loadFile files base name = loadFile files' base name

/-- Requests stay in a base of file names. -/
theorem confined_of_isFileName (hBase : ∀ n ∈ base, IsFileName n) (hNull : .scalar '\x00' ∉ name) :
    Confined base name where
  unspelled hSpelled := locate_eq_unspelled hBase hSpelled hNull
  served hSpelled hServed := by
    rw [locate_eq hBase ⟨hSpelled, hNull⟩, if_pos hServed.1, if_pos hServed]
  outside hSpelled hOut := by rw [locate_eq hBase ⟨hSpelled, hNull⟩, if_neg hOut]
  hidden hSpelled hIn hServed := by
    rw [locate_eq hBase ⟨hSpelled, hNull⟩, if_pos hIn, if_neg hServed]
  again names h := by
    obtain ⟨hNames, hServed, -⟩ := served_of_locate hBase hNull h
    have hRest : ∀ n ∈ names.drop base.length, IsFileName n := fun n hMem =>
      hNames n (List.mem_of_mem_drop hMem)
    have hPlace : destination base (Path.toText ⟨[], names.drop base.length⟩) = names :=
      (destination_toText hBase hRest).trans (List.prefix_append_drop hServed.1).symm
    rw [locate_eq hBase (canPass_toText hRest), hPlace, if_pos hServed.1, if_pos hServed]
  loaded files t h := by
    unfold loadFile at h
    split at h
    · next names hLocate =>
      obtain ⟨hNames, hServed, rfl⟩ := served_of_locate hBase hNull hLocate
      exact ⟨hServed, read_eq_ok (fun n hMem => (hNames n hMem).ne_above) h⟩
    · cases h
  unaffected files files' hSame := by
    unfold loadFile
    split
    · next names hLocate =>
      obtain ⟨hNames, hServed, -⟩ := served_of_locate hBase hNull hLocate
      exact read_congr (fun n hMem => (hNames n hMem).ne_above)
        fun way hWay => hSame way (hServed.of_prefix hWay)
    · rfl

/-- Requests to a loader of a directory stay in the directory, whatever the way
that their names take. The directory is given by any text for which there is a
loader, for one who is in a directory with names of files. A name with a NUL
character is left out: it is refused in another way. -/
theorem ofDirectory_confined {files : Files} (hCurrent : ∀ n ∈ files.current, IsFileName n)
    {t : Text} {loader : PartialLoader}
    (hLoader : PartialLoader.ofDirectory files (Path.ofText t) = .ok loader)
    (hNull : .scalar '\x00' ∉ name) :
    loader = .leaf (.directory files ((Path.ofText t).absolute files.current)) ∧
      Confined ((Path.ofText t).absolute files.current) name := by
  obtain ⟨hLeaf, hBase⟩ := isFileName_base hCurrent hLoader
  exact ⟨hLeaf, confined_of_isFileName hBase hNull⟩

/-- A name that leaves the base and comes back. -/
theorem ofDirectory_confined_roundabout :
    let files := Files.ofTexts [("srv" : Text)] []
    let loader : PartialLoader := .leaf (.directory files [("srv" : Text), "parts"])
    (∀ n ∈ files.current, IsFileName n) ∧
      PartialLoader.ofDirectory files (Path.ofText "x/../parts") = .ok loader ∧
      CodePoint.scalar '\x00' ∉ ("/a/../../parts/./b.html" : Text) ∧
      locate [("srv" : Text), "parts"] "/a/../../parts/./b.html"
        = .ok [("srv" : Text), "parts", "b.html"] := by
  intro files loader
  have hCurrent : ∀ n ∈ files.current, IsFileName n := by decide
  have hLoader : PartialLoader.ofDirectory files (Path.ofText "x/../parts") = .ok loader := rfl
  have hNull : CodePoint.scalar '\x00' ∉ ("/a/../../parts/./b.html" : Text) := by decide
  have hPlace : destination [("srv" : Text), "parts"] "/a/../../parts/./b.html"
      = [("srv" : Text), "parts", "b.html"] := by decide
  have hLocate := (ofDirectory_confined hCurrent hLoader hNull).2.served (by decide) (by decide)
  exact ⟨hCurrent, hLoader, hNull, hPlace ▸ hLocate⟩

/-- A directory beside the base, whose name begins with that of the base. -/
example : locate [("srv" : Text), ("parts" : Text)] "../parts2/b.html"
    = .error (.outside "../parts2/b.html") := by decide

/-- A lone surrogate that stands for no byte keeps a name from its place,
although the place is served. -/
theorem locate_lone_surrogate :
    ¬ ∀ (base : List Text) (name : Text), (∀ n ∈ base, IsFileName n) →
      CodePoint.scalar '\x00' ∉ name → Served base (destination base name) →
        locate base name = .ok (destination base name) := by
  intro h
  have hPlace := h [] [.surrogate 0] (fun n hMem => absurd hMem List.not_mem_nil) (by decide)
    (by decide)
  exact absurd hPlace (by decide)

end TreeTemplate
