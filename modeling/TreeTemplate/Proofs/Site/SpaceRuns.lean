/-
TreeTemplate.Proofs.Site.SpaceRuns — blank lines, run by run
(`serialize_document`, specification §12).

A text is a row of runs, by turns of white space and of other code points, each
as long as it can be. Taking blank lines out goes through the text once, from
left to right; what comes of it is what comes of each run by itself. A run of
white space with two line feeds or more is cut down to what is before the first,
one line feed, and what is behind the last; every other run stays.

* `Text.spaceRuns`, `shortened` — the runs, and what comes of one.
* `collapseBlankLines_blanks`, `collapseBlankLines_flatten` — one run of white
  space, and a row of runs.
* `documentText_runs` — the main statement, for the text of a document.
-/
import TreeTemplate.Proofs.Site.KeptSpace
import TreeTemplate.Proofs.Text.Pieces
import Mathlib.Data.List.DropRight
import Mathlib.Data.List.SplitBy

namespace TreeTemplate

/-! ## 1. Runs -/

/-- The runs of a text, each as long as it can be. -/
def Text.spaceRuns (t : Text) : List Text := t.splitBy fun c d => c.isBlank == d.isBlank

/-- What comes of a run. -/
def shortened (run : Text) : Text :=
  if run.isBlank = true ∧ 2 ≤ run.count lineFeed then
    run.takeWhile (· ≠ lineFeed) ++ lineFeed :: run.rtakeWhile (· ≠ lineFeed)
  else run

/-- Whether a text is not empty, and white space throughout or nowhere. -/
def IsRun (run : Text) : Prop := run ≠ [] ∧ ∀ c ∈ run, c.isBlank = run.isBlank

theorem isRun_of_mem_spaceRuns {t run : Text} (h : run ∈ t.spaceRuns) : IsRun run := by
  have hNe : run ≠ [] := List.ne_nil_of_mem_splitBy h
  have hSame := List.isChain_of_mem_splitBy h
  obtain ⟨c, rest, rfl⟩ := List.exists_cons_of_ne_nil hNe
  have hPairs : (c :: rest).Pairwise fun d e => d.isBlank = e.isBlank :=
    (hSame.imp fun d e hEq => by simpa using hEq).pairwise
  have hAll : ∀ d ∈ c :: rest, d.isBlank = c.isBlank :=
    List.forall_mem_cons.2 ⟨rfl, fun d hd => (List.rel_of_pairwise_cons hPairs hd).symm⟩
  have hWhole : Text.isBlank (c :: rest) = c.isBlank := by
    cases hc : c.isBlank with
    | true => exact List.all_eq_true.2 fun d hd => (hAll d hd).trans hc
    | false => rw [Text.isBlank, List.all_cons, hc, Bool.false_and]
  exact ⟨hNe, hWhole ▸ hAll⟩

/-- White space and other code points come by turns. -/
theorem isChain_spaceRuns (t : Text) :
    t.spaceRuns.IsChain fun run next => next.isBlank = !run.isBlank := by
  refine (List.isChain_getLast_head_splitBy _ t).imp_of_mem_imp fun run next hRun hNext hTurn => ?_
  obtain ⟨hRunNe, hNextNe, hDiffer⟩ := hTurn
  rw [(isRun_of_mem_spaceRuns hRun).2 _ (List.getLast_mem hRunNe),
    (isRun_of_mem_spaceRuns hNext).2 _ (List.head_mem hNextNe)] at hDiffer
  have hNe : run.isBlank ≠ next.isBlank := by simpa using hDiffer
  exact Bool.eq_not.2 hNe.symm

/-! ## 2. One run of white space -/

/-- A member has a last place. -/
theorem exists_last_of_mem {c : CodePoint} {t : Text} (h : c ∈ t) :
    ∃ before after, t = before ++ c :: after ∧ c ∉ after := by
  obtain ⟨after, before, hReverse, hNot⟩ :=
    List.eq_append_cons_of_mem (List.mem_reverse.2 h)
  refine ⟨before.reverse, after.reverse, ?_, fun hMem => hNot (List.mem_reverse.1 hMem)⟩
  rw [← t.reverse_reverse, hReverse]
  simp

theorem shortened_eq_self {run : Text} (h : run.count lineFeed < 2) : shortened run = run :=
  if_neg fun hLong => Nat.not_le.2 h hLong.2

/-- White space from the first to the last line feed becomes one. -/
theorem shortened_append {before blanks after : Text} (hBefore : lineFeed ∉ before)
    (hAfter : lineFeed ∉ after)
    (hBlank : Text.isBlank (before ++ lineFeed :: (blanks ++ lineFeed :: after)) = true) :
    shortened (before ++ lineFeed :: (blanks ++ lineFeed :: after)) =
      before ++ lineFeed :: after := by
  have hOther {t : Text} (h : lineFeed ∉ t) : ∀ c ∈ t, decide (c ≠ lineFeed) = true :=
    fun c hc => decide_eq_true fun e => h (e ▸ hc)
  have hStop : decide (lineFeed ≠ lineFeed) = false := by decide
  have hReverse : (before ++ lineFeed :: (blanks ++ lineFeed :: after)).reverse =
      after.reverse ++ lineFeed :: (before ++ lineFeed :: blanks).reverse := by simp
  have hCount : 2 ≤ (before ++ lineFeed :: (blanks ++ lineFeed :: after)).count lineFeed := by
    simp only [List.count_append, List.count_cons_self]
    omega
  have hLast : (after.reverse ++ lineFeed :: (before ++ lineFeed :: blanks).reverse).takeWhile
      (· ≠ lineFeed) = after.reverse :=
    takeWhile_append_cons (fun c hc => hOther hAfter c (List.mem_reverse.1 hc)) hStop _
  rw [shortened, if_pos ⟨hBlank, hCount⟩, takeWhile_append_cons (hOther hBefore) hStop,
    List.rtakeWhile, hReverse, hLast, List.reverse_reverse]

/-- What comes of white space. -/
theorem collapseBlankLines_blanks {run : Text} (h : run.isBlank = true) :
    collapseBlankLines run = shortened run := by
  by_cases hFirst : lineFeed ∈ run
  · obtain ⟨before, rest, rfl, hBefore⟩ := List.eq_append_cons_of_mem hFirst
    rw [collapseBlankLines_of_not_mem hBefore, collapseBlankLines_break]
    by_cases hSecond : lineFeed ∈ rest
    · obtain ⟨blanks, after, rfl, hAfter⟩ := exists_last_of_mem hSecond
      have hBlanks : ∀ c ∈ blanks, c.isBlank = true := fun c hc =>
        List.all_eq_true.1 h c (by simp [hc])
      rw [afterLastBreak?_blanks hBlanks, afterLastBreak?_eq_none hAfter,
        shortened_append hBefore hAfter h, Option.getD_none, Option.getD_some,
        collapseBlankLines_eq_self_of_not_mem hAfter]
    · have hOne : (before ++ lineFeed :: rest).count lineFeed < 2 := by
        rw [List.count_append, List.count_cons_self, List.count_eq_zero_of_not_mem hBefore,
          List.count_eq_zero_of_not_mem hSecond]
        decide
      rw [afterLastBreak?_eq_none hSecond, Option.getD_none,
        collapseBlankLines_eq_self_of_not_mem hSecond, shortened_eq_self hOne]
  · have hNone : run.count lineFeed < 2 := by
      rw [List.count_eq_zero_of_not_mem hFirst]
      decide
    rw [collapseBlankLines_eq_self_of_not_mem hFirst, shortened_eq_self hNone]

/-! ## 3. A row of runs -/

/-- Taking blank lines out of runs that come by turns is doing so in each. -/
theorem collapseBlankLines_flatten {runs : List Text} (hRuns : ∀ run ∈ runs, IsRun run)
    (hTurns : runs.IsChain fun run next => next.isBlank = !run.isBlank) :
    collapseBlankLines runs.flatten = runs.flatMap shortened := by
  induction runs with
  | nil => exact collapseBlankLines_nil
  | cons run rest ih =>
    obtain ⟨⟨_, hRun⟩, hRest⟩ := List.forall_mem_cons.1 hRuns
    obtain ⟨hNext, hTurns⟩ := List.isChain_cons.1 hTurns
    rw [List.flatten_cons, List.flatMap_cons, ← ih hRest hTurns]
    cases hBlank : run.isBlank with
    | false =>
      -- There is no line feed in the run, and nothing to be cut down.
      have hNone : lineFeed ∉ run := fun hMem =>
        absurd ((hRun _ hMem).trans hBlank) (by decide)
      have hStays : shortened run = run := if_neg fun hLong => by simp [hBlank] at hLong
      rw [collapseBlankLines_of_not_mem hNone, hStays]
    | true =>
      rw [← collapseBlankLines_blanks hBlank]
      cases rest with
      | nil => rw [List.flatten_nil, collapseBlankLines_nil, List.append_nil, List.append_nil]
      | cons next rest =>
        -- The next run begins with a code point that parts the text in two.
        obtain ⟨hNe, hOther⟩ := hRest next List.mem_cons_self
        obtain ⟨c, more, rfl⟩ := List.exists_cons_of_ne_nil hNe
        have hTurn : Text.isBlank (c :: more) = !run.isBlank := hNext _ rfl
        have hc : c.isBlank = false := by
          rw [hOther c List.mem_cons_self, hTurn, hBlank]
          rfl
        exact collapseBlankLines_append_before hc run _

/-- Taking blank lines out of a text is doing so in each of its runs. -/
theorem collapseBlankLines_eq (t : Text) :
    collapseBlankLines t = t.spaceRuns.flatMap shortened := by
  have hFlatten : t.spaceRuns.flatten = t := List.flatten_splitBy _ t
  have hRuns := collapseBlankLines_flatten (fun _ hRun => isRun_of_mem_spaceRuns hRun)
    (isChain_spaceRuns t)
  rwa [hFlatten] at hRuns

/-! ## 4. Documents -/

/-- The text of a document has no blank line. It is the line for the document type
and the HTML behind it, in which each run of white space with two line feeds or
more is cut down to one of them and nothing else is changed; so taking blank lines
out of it once more changes nothing. -/
theorem documentText_runs (document : Node) :
    ¬ HasBlankLine (documentText document) ∧
      documentText document =
        (documentHead document ++ (documentRoot document).toHtml).spaceRuns.flatMap shortened ∧
      collapseBlankLines (documentText document) = documentText document := by
  have hNone : ¬ HasBlankLine (documentText document) :=
    not_hasBlankLine_collapseBlankLines (rawDocumentText document)
  refine ⟨hNone, ?_, collapseBlankLines_eq_self_iff.2 hNone⟩
  rw [documentText, rawDocumentText_eq]
  exact collapseBlankLines_eq _

/-- White space of several kinds between line feeds, and at the two ends of a run. -/
example :
    let t : Text := "<p>a \n \u00a0\t\n\n b\n</p>\u2028\n</html>"
    t.spaceRuns =
        (["<p>a", " \n \u00a0\t\n\n ", "b", "\n", "</p>", "\u2028\n", "</html>"] : List Text) ∧
      t.spaceRuns.map shortened =
        (["<p>a", " \n ", "b", "\n", "</p>", "\u2028\n", "</html>"] : List Text) := by
  decide +kernel

end TreeTemplate
