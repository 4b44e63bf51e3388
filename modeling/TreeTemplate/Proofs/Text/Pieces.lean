/-
TreeTemplate.Proofs.Text.Pieces — where a text is taken apart.

* `Text.cut_append`, `Text.cut_eq` — the first separator; `Text.cut_cases`,
  if there is one.
* `takeWhile_append_cons`, `dropWhile_append_cons` — a run up to the first
  code point that does not belong to it.
* `Text.trim_eq_self` — a text without white space at its ends.
* `Text.trim_trim` — trimming twice; `Text.trim_eq_nil_iff` — white space only.
* `Text.splitOn_append`, `Text.splitOn_joined` — texts with a separator
  between them come apart again.
-/
import TreeTemplate.Text.Blank
import Mathlib.Data.List.Basic
import Mathlib.Data.List.TakeWhile

namespace TreeTemplate

/-! ## 1. Runs -/

theorem takeWhile_append_cons {p : CodePoint → Bool} {run : Text} (hRun : ∀ c ∈ run, p c = true)
    {c : CodePoint} (hc : p c = false) (rest : Text) :
    (run ++ c :: rest).takeWhile p = run := by
  rw [List.takeWhile_append_of_pos hRun, List.takeWhile_cons_of_neg (by simp [hc]),
    List.append_nil]

theorem dropWhile_append_cons {p : CodePoint → Bool} {run : Text} (hRun : ∀ c ∈ run, p c = true)
    {c : CodePoint} (hc : p c = false) (rest : Text) :
    (run ++ c :: rest).dropWhile p = c :: rest := by
  rw [List.dropWhile_append_of_pos hRun, List.dropWhile_cons_of_neg (by simp [hc])]

namespace Text

/-! ## 2. The first separator -/

theorem cut_append {sep : CodePoint} {before : Text} (h : sep ∉ before) (after : Text) :
    cut sep (before ++ sep :: after) = (before, some after) := by
  induction before with
  | nil => simp [cut]
  | cons c before ih =>
    have hc : c ≠ sep := fun e => h (e ▸ List.mem_cons_self)
    have hRest : sep ∉ before := fun hMem => h (List.mem_cons_of_mem _ hMem)
    rw [List.cons_append, cut, if_neg hc, ih hRest]

/-- A text without the separator is not cut. -/
theorem cut_of_not_mem {sep : CodePoint} {t : Text} (h : sep ∉ t) : cut sep t = (t, none) := by
  induction t with
  | nil => rfl
  | cons c rest ih =>
    obtain ⟨hc, hRest⟩ := List.ne_and_not_mem_of_not_mem_cons h
    rw [cut, if_neg (Ne.symm hc), ih hRest]

/-- A text has no separator, or it is cut at the first. -/
theorem cut_cases (sep : CodePoint) (t : Text) :
    (sep ∉ t ∧ cut sep t = (t, none)) ∨
      ∃ before after, t = before ++ sep :: after ∧ sep ∉ before ∧
        cut sep t = (before, some after) := by
  by_cases h : sep ∈ t
  · obtain ⟨before, after, rfl, hBefore⟩ := List.eq_append_cons_of_mem h
    exact .inr ⟨before, after, rfl, hBefore, cut_append hBefore after⟩
  · exact .inl ⟨h, cut_of_not_mem h⟩

/-- What stands before the first separator, and after it. -/
theorem cut_eq {sep : CodePoint} {t before after : Text} (h : cut sep t = (before, some after)) :
    t = before ++ sep :: after ∧ sep ∉ before := by
  induction t generalizing before with
  | nil => cases h
  | cons c rest ih =>
    unfold cut at h
    split at h
    · next hc =>
      cases h
      exact ⟨by rw [hc]; rfl, List.not_mem_nil⟩
    · next hc =>
      obtain ⟨rfl, hAfter⟩ := Prod.mk.inj h
      obtain ⟨hRest, hNot⟩ := ih (Prod.ext rfl hAfter)
      refine ⟨congrArg (c :: ·) hRest, fun hMem => ?_⟩
      rcases List.mem_cons.1 hMem with rfl | hMem
      · exact hc rfl
      · exact hNot hMem

/-! ## 3. White space at the ends -/

theorem trimEnd_eq_self {t : Text} (h : ∀ c ∈ t.getLast?, c.isBlank = false) : trimEnd t = t := by
  induction t with
  | nil => rfl
  | cons c rest ih =>
    cases rest with
    | nil => simp [trimEnd, h c rfl]
    | cons d rest =>
      have hRest := ih fun e he => h e (by rwa [List.getLast?_cons_cons])
      rw [trimEnd, hRest]

theorem trimStart_eq_self {t : Text} (h : ∀ c ∈ t.head?, c.isBlank = false) :
    trimStart t = t := by
  cases t with
  | nil => rfl
  | cons c rest => exact List.dropWhile_cons_of_neg (by simp [h c rfl])

/-- A text without white space at its ends. -/
theorem trim_eq_self {t : Text} (hHead : ∀ c ∈ t.head?, c.isBlank = false)
    (hLast : ∀ c ∈ t.getLast?, c.isBlank = false) : trim t = t := by
  rw [trim, trimStart_eq_self hHead, trimEnd_eq_self hLast]

theorem getLast?_trimEnd (t : Text) : ∀ c ∈ (trimEnd t).getLast?, c.isBlank = false := by
  induction t with
  | nil => exact fun c hc => by cases hc
  | cons c rest ih =>
    unfold trimEnd
    split
    · split
      · exact fun c hc => by cases hc
      · next hc => intro d hd; cases hd; simpa using hc
    · next kept hNe =>
      obtain ⟨d, kept, hKept⟩ := List.exists_cons_of_ne_nil hNe
      rw [hKept] at ih ⊢
      rwa [List.getLast?_cons_cons]

theorem head?_trimEnd {t : Text} (h : ∀ c ∈ t.head?, c.isBlank = false) :
    ∀ c ∈ (trimEnd t).head?, c.isBlank = false := by
  cases t with
  | nil => exact h
  | cons c rest =>
    have hc := h c rfl
    unfold trimEnd
    split
    · rw [if_neg (by simp [hc])]
      exact h
    · exact h

theorem head?_trimStart (t : Text) : ∀ c ∈ (trimStart t).head?, c.isBlank = false := by
  intro c hc
  have h := List.head?_dropWhile_not CodePoint.isBlank t
  rw [trimStart] at hc
  rw [Option.mem_def.1 hc] at h
  simpa using h

theorem head?_trim (t : Text) : ∀ c ∈ (trim t).head?, c.isBlank = false :=
  head?_trimEnd (head?_trimStart t)

theorem getLast?_trim (t : Text) : ∀ c ∈ (trim t).getLast?, c.isBlank = false :=
  getLast?_trimEnd _

/-- Trimming twice is trimming once. -/
theorem trim_trim (t : Text) : trim (trim t) = trim t :=
  trim_eq_self (head?_trim t) (getLast?_trim t)

/-- Nothing is left of white space only. -/
theorem trim_eq_nil_iff {t : Text} : trim t = [] ↔ t.isBlank = true := by
  have hAll : t.isBlank = true ↔ trimStart t = [] := by
    rw [isBlank, List.all_eq_true, trimStart, List.dropWhile_eq_nil_iff]
  rw [hAll, trim]
  refine ⟨fun h => ?_, fun h => by rw [h]; rfl⟩
  have hHead := head?_trimStart t
  cases hStart : trimStart t with
  | nil => rfl
  | cons c rest =>
    -- What is not white space at the beginning is kept.
    rw [hStart] at h hHead
    unfold trimEnd at h
    split at h
    · simp [hHead c rfl] at h
    · cases h

theorem mem_trimEnd {t : Text} {c : CodePoint} (h : c ∈ trimEnd t) : c ∈ t := by
  induction t with
  | nil => exact h
  | cons d rest ih =>
    unfold trimEnd at h
    split at h
    · split at h
      · cases h
      · rw [List.mem_singleton.1 h]
        exact List.mem_cons_self
    · rcases List.mem_cons.1 h with rfl | h
      · exact List.mem_cons_self
      · exact List.mem_cons_of_mem _ (ih h)

/-- Trimming adds nothing. -/
theorem mem_trim {t : Text} {c : CodePoint} (h : c ∈ trim t) : c ∈ t :=
  (List.dropWhile_sublist _).mem (mem_trimEnd h)

theorem trim_cons_of_isBlank {c : CodePoint} (h : c.isBlank = true) (t : Text) :
    trim (c :: t) = trim t := by
  rw [trim, trimStart, List.dropWhile_cons_of_pos h]
  rfl

/-! ## 4. The pieces between separators -/

theorem splitOn_ne_nil (sep : CodePoint) (t : Text) : splitOn sep t ≠ [] := by
  cases t with
  | nil => exact List.cons_ne_nil _ _
  | cons c rest =>
    unfold splitOn
    split
    · exact List.cons_ne_nil _ _
    · split <;> exact List.cons_ne_nil _ _

/-- Two texts with the separator between them come apart there. -/
theorem splitOn_append (sep : CodePoint) (before after : Text) :
    splitOn sep (before ++ sep :: after) = splitOn sep before ++ splitOn sep after := by
  induction before with
  | nil => simp [splitOn]
  | cons c before ih =>
    rw [List.cons_append, splitOn, splitOn, ih]
    split
    · rfl
    · cases h : splitOn sep before with
      | nil => exact absurd h (splitOn_ne_nil sep before)
      | cons piece pieces => rfl

theorem splitOn_eq_singleton {sep : CodePoint} {t : Text} (h : sep ∉ t) : splitOn sep t = [t] := by
  induction t with
  | nil => rfl
  | cons c rest ih =>
    have hc : c ≠ sep := fun e => h (e ▸ List.mem_cons_self)
    have hRest : sep ∉ rest := fun hMem => h (List.mem_cons_of_mem _ hMem)
    rw [splitOn, if_neg hc, ih hRest]

/-- Pieces without the separator come apart where they were joined. -/
theorem splitOn_joined {sep : CodePoint} {pieces : List Text} (hNe : pieces ≠ [])
    (h : ∀ piece ∈ pieces, sep ∉ piece) : splitOn sep (joined [sep] pieces) = pieces := by
  induction pieces with
  | nil => exact absurd rfl hNe
  | cons piece rest ih =>
    obtain ⟨hPiece, hRest⟩ := List.forall_mem_cons.1 h
    cases rest with
    | nil => exact splitOn_eq_singleton hPiece
    | cons next rest =>
      have hJoined : joined [sep] (piece :: next :: rest)
          = piece ++ sep :: joined [sep] (next :: rest) := by simp [joined]
      rw [hJoined, splitOn_append, splitOn_eq_singleton hPiece, ih (List.cons_ne_nil _ _) hRest,
        List.singleton_append]

/-- The pieces hold the code points of the text, but for the separator. -/
theorem exists_mem_splitOn {sep c : CodePoint} {t : Text} :
    (∃ piece ∈ splitOn sep t, c ∈ piece) ↔ c ∈ t ∧ c ≠ sep := by
  induction t with
  | nil => simp [splitOn]
  | cons d rest ih =>
    by_cases hd : d = sep
    · have hPieces : (∃ piece ∈ splitOn sep (d :: rest), c ∈ piece)
          ↔ ∃ piece ∈ splitOn sep rest, c ∈ piece := by simp [splitOn, hd]
      rw [hPieces, ih, List.mem_cons, hd]
      tauto
    · have hPieces : (∃ piece ∈ splitOn sep (d :: rest), c ∈ piece)
          ↔ c = d ∨ ∃ piece ∈ splitOn sep rest, c ∈ piece := by
        rw [splitOn, if_neg hd]
        cases splitOn sep rest <;> simp [or_assoc]
      rw [hPieces, ih, List.mem_cons]
      constructor
      · rintro (rfl | ⟨hMem, hNe⟩)
        · exact ⟨.inl rfl, hd⟩
        · exact ⟨.inr hMem, hNe⟩
      · rintro ⟨rfl | hMem, hNe⟩
        · exact .inl rfl
        · exact .inr ⟨hMem, hNe⟩

theorem mem_of_mem_joined {c : CodePoint} {sep : Text} {pieces : List Text}
    (h : c ∈ joined sep pieces) : c ∈ sep ∨ ∃ piece ∈ pieces, c ∈ piece := by
  induction pieces with
  | nil => cases h
  | cons piece rest ih =>
    cases rest with
    | nil => exact .inr ⟨piece, List.mem_cons_self, h⟩
    | cons next rest =>
      rw [joined, List.mem_append, List.mem_append] at h
      · rcases h with (h | h) | h
        · exact .inr ⟨piece, List.mem_cons_self, h⟩
        · exact .inl h
        · rcases ih h with hSep | ⟨p, hp, hMem⟩
          · exact .inl hSep
          · exact .inr ⟨p, List.mem_cons_of_mem _ hp, hMem⟩
      · simp

theorem mem_joined {c : CodePoint} {piece : Text} (sep : Text) {pieces : List Text}
    (hPiece : piece ∈ pieces) (hc : c ∈ piece) : c ∈ joined sep pieces := by
  induction pieces with
  | nil => cases hPiece
  | cons first rest ih =>
    cases rest with
    | nil => rwa [joined, ← List.mem_singleton.1 hPiece]
    | cons next rest =>
      rw [joined, List.mem_append, List.mem_append]
      · rcases List.mem_cons.1 hPiece with rfl | hPiece
        · exact .inl (.inl hc)
        · exact .inr (ih hPiece)
      · simp

end Text

end TreeTemplate
