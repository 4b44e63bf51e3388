/-
TreeTemplate.Proofs.Value.Path — where paths lead (`resolve`, specification
§4.1, which says that it never fails).

A segment leads from one finding to the next: in a dictionary to the entry of
its name; in a list or a text to the length, or to the member whose index it
spells; and else to nothing. What it does not say is where digits lead that
spell no number, such as `²`, or that are too many to be read: in a list or a
text these fail. A path leads along its segments, or fails at one of them.

* `Spells` — the number that a row of decimal digits spells;
  `Refuses` — digits that are not read as a number.
* `Leads`, `LeadsAlong` — where one segment leads, and a row of segments.
* `step_eq_ok_iff`, `step_eq_error_iff` — one segment.
* `resolve_eq_iff` — the main statement: a path finds that to which its
  segments lead, and it fails exactly at digits that are not read.
* `Found.resolve_composes` — a path behind another goes on from what the other
  finds.
-/
import TreeTemplate.Proofs.Text.Pieces
import TreeTemplate.Value.Path
import Mathlib.Algebra.Group.Nat.Defs

namespace TreeTemplate

/-! ## 1. Rows of digits -/

/-- How many decimal digits a text begins with. -/
def decimalCount (t : Text) : Nat := (t.takeWhile fun c => c.decimalValue?.isSome).length

/-- The number that a row of decimal digits of any script spells. -/
def Spells (segment : Text) (n : Nat) : Prop :=
  segment ≠ [] ∧ segment.length ≤ Json.maxDigits ∧
    ∃ digits : List Nat, segment.map CodePoint.decimalValue? = digits.map some
      ∧ numberOf 10 digits = n

/-- Digits that are not read as a number, and why: too many decimal digits, or
one that takes no part in numbers. -/
inductive Refuses (segment : Text) : PathError → Prop where
  | tooManyDigits : isDigits segment = true → Json.maxDigits < decimalCount segment →
    Refuses segment (.tooManyDigits (decimalCount segment))
  | notDecimal : isDigits segment = true → decimalCount segment ≤ Json.maxDigits →
    (∃ c ∈ segment, c.decimalValue? = none) → Refuses segment (.notDecimal segment)

theorem length_leadingDigits (t : Text) : (leadingDigits t).length = decimalCount t := by
  induction t with
  | nil => rfl
  | cons c rest ih =>
    rw [decimalCount] at ih
    rw [leadingDigits, decimalCount, List.takeWhile_cons]
    cases c.decimalValue? with
    | none => rfl
    | some d => simp [ih]

/-- All of a text is read if each of its code points is a decimal digit. -/
theorem decimalCount_lt_iff {t : Text} :
    decimalCount t < t.length ↔ ∃ c ∈ t, c.decimalValue? = none := by
  induction t with
  | nil => simp [decimalCount]
  | cons c rest ih =>
    rw [decimalCount] at ih
    rw [decimalCount, List.takeWhile_cons]
    cases hValue : c.decimalValue? with
    | none => simp [hValue]
    | some d => simp [hValue, ih]

theorem map_decimalValue?_eq_iff {t : Text} {digits : List Nat} :
    t.map CodePoint.decimalValue? = digits.map some
      ↔ leadingDigits t = digits ∧ ∀ c ∈ t, c.decimalValue? ≠ none := by
  induction t generalizing digits with
  | nil => cases digits <;> simp [leadingDigits]
  | cons c rest ih =>
    cases digits with
    | nil => cases hValue : c.decimalValue? <;> simp [leadingDigits, hValue]
    | cons d digits =>
      cases hValue : c.decimalValue? with
      | none => simp [hValue]
      | some e => simp [leadingDigits, hValue, ih, and_assoc]

/-- The digits that a number is written with spell it. -/
theorem exists_digits_ofNat (n : Nat) : ∃ digits : List Nat,
    (Text.ofNat n).map CodePoint.decimalValue? = digits.map some ∧ numberOf 10 digits = n := by
  have hDigit : ∀ d < 10, (Text.digit d).decimalValue? = some d := by decide
  induction n using Nat.strongRecOn with
  | ind n ih =>
    unfold Text.ofNat
    split
    · next hSmall => exact ⟨[n], by simp [hDigit n hSmall], by simp [numberOf]⟩
    · obtain ⟨digits, hDigits, hNumber⟩ := ih (n / 10) (by omega)
      refine ⟨digits ++ [n % 10], ?_, ?_⟩
      · simp [hDigits, hDigit (n % 10) (by omega)]
      · rw [numberOf] at hNumber ⊢
        rw [List.foldl_append, hNumber, List.foldl_cons, List.foldl_nil]
        omega

theorem ofNat_ne_nil (n : Nat) : Text.ofNat n ≠ [] := by
  unfold Text.ofNat
  split <;> simp

theorem length_ofNat_le {n count : Nat} (hCount : 0 < count) (h : n < 10 ^ count) :
    (Text.ofNat n).length ≤ count := by
  induction count generalizing n with
  | zero => cases hCount
  | succ count ih =>
    unfold Text.ofNat
    split
    · simp
    · next hLarge =>
      have hRest : 0 < count := by
        rcases Nat.eq_zero_or_pos count with rfl | hRest
        · rw [Nat.zero_add, Nat.pow_one] at h
          omega
        · exact hRest
      have hTenth : n / 10 < 10 ^ count := by
        rw [Nat.pow_succ] at h
        omega
      rw [List.length_append, List.length_singleton]
      exact Nat.succ_le_succ (ih hRest hTenth)

theorem isDigits_of_decimal {segment : Text} (hNe : segment ≠ [])
    (h : ∀ c ∈ segment, c.decimalValue? ≠ none) : isDigits segment = true := by
  have hAll : segment.all CodePoint.isDigit = true := List.all_eq_true.2 fun c hc => by
    rw [CodePoint.isDigit, Option.isSome_iff_ne_none.2 (h c hc), Bool.true_or]
  rw [isDigits, hAll, List.isEmpty_eq_false_iff.2 hNe]
  rfl

/-- A row of digits is one segment of a path. -/
theorem Spells.point_notMem {segment : Text} {n : Nat} (h : Spells segment n) :
    CodePoint.scalar '.' ∉ segment := by
  obtain ⟨_, _, digits, hDigits, _⟩ := h
  intro hMem
  exact (map_decimalValue?_eq_iff.1 hDigits).2 _ hMem (by decide)

theorem spells_iff {segment : Text} {n : Nat} :
    Spells segment n ↔ isDigits segment = true ∧ indexOf segment = .ok n := by
  have hAll : ¬ decimalCount segment < segment.length ↔ ∀ c ∈ segment, c.decimalValue? ≠ none := by
    rw [decimalCount_lt_iff]
    push Not
    rfl
  have hLe : decimalCount segment ≤ segment.length := (List.takeWhile_sublist _).length_le
  simp only [Spells, map_decimalValue?_eq_iff, indexOf, length_leadingDigits]
  constructor
  · rintro ⟨hNe, hLength, digits, ⟨rfl, hDecimal⟩, rfl⟩
    refine ⟨isDigits_of_decimal hNe hDecimal, ?_⟩
    rw [if_neg (by omega), if_neg (hAll.2 hDecimal)]
  · rintro ⟨hDigits, hRead⟩
    split at hRead
    · cases hRead
    · split at hRead
      · cases hRead
      · next hMany hWhole =>
        refine ⟨?_, by omega, _, ⟨rfl, hAll.1 hWhole⟩, Except.ok.inj hRead⟩
        rintro rfl
        cases hDigits

theorem refuses_iff {segment : Text} {e : PathError} :
    Refuses segment e ↔ isDigits segment = true ∧ indexOf segment = .error e := by
  simp only [indexOf, length_leadingDigits]
  constructor
  · rintro (⟨hDigits, hMany⟩ | ⟨hDigits, hFew, hOther⟩)
    · exact ⟨hDigits, if_pos hMany⟩
    · rw [if_neg (by omega), if_pos (decimalCount_lt_iff.2 hOther)]
      exact ⟨hDigits, rfl⟩
  · rintro ⟨hDigits, hRead⟩
    split at hRead
    · next hMany =>
      cases hRead
      exact .tooManyDigits hDigits hMany
    · split at hRead
      · next hFew hOther =>
        cases hRead
        exact .notDecimal hDigits (by omega) (decimalCount_lt_iff.1 hOther)
      · cases hRead

/-- A number below the limit, written in decimal, spells itself. -/
theorem spells_ofNat {n : Nat} (h : n < 10 ^ Json.maxDigits) : Spells (Text.ofNat n) n := by
  obtain ⟨digits, hDigits, hNumber⟩ := exists_digits_ofNat n
  exact ⟨ofNat_ne_nil n, length_ofNat_le (by decide) h, digits, hDigits, hNumber⟩

/-! ## 2. One segment -/

/-- The members of a list, and those of a text: its code points one by one. -/
def Value.members? : Value → Option (List Value)
  | .list items => some items
  | .str t => some (t.map fun c => .str [c])
  | _ => none

/-- Where a segment leads. -/
inductive Leads : Found → Text → Found → Prop where
  | nothing (segment : Text) : Leads none segment none
  /-- Null, truth values and numbers have nothing inside. -/
  | bare {v : Value} (segment : Text) : v.members? = none → (∀ entries, v ≠ .dict entries) →
    Leads (some v) segment none
  | entry (entries : List (Text × Value)) (name : Text) :
    Leads (some (.dict entries)) name (Table.get? entries name)
  | length {v : Value} {members : List Value} : v.members? = some members →
    Leads (some v) "length" (some (.int members.length))
  | index {v : Value} {members : List Value} {segment : Text} {n : Nat} :
    v.members? = some members → Spells segment n → Leads (some v) segment members[n]?
  | noIndex {v : Value} {members : List Value} {segment : Text} : v.members? = some members →
    segment ≠ ("length" : Text) → isDigits segment = false → Leads (some v) segment none

theorem step_eq_memberOf {v : Value} {members : List Value} (h : v.members? = some members)
    (segment : Text) : Found.step (some v) segment = memberOf members segment := by
  cases v with
  | list items => cases h; rfl
  | str t => cases h; rfl
  | _ => cases h

theorem isDigits_length : isDigits ("length" : Text) = false := by decide

/-- What becomes of a segment in a row of members: `length`, digits that are
read, digits that are not, and anything else. -/
theorem memberOf_eq_iff {members : List Value} {segment : Text} {result : Except PathError Found} :
    memberOf members segment = result ↔
      (segment = ("length" : Text) ∧ .ok (some (.int members.length)) = result) ∨
      (∃ n, Spells segment n ∧ .ok members[n]? = result) ∨
      (∃ e, Refuses segment e ∧ .error e = result) ∨
      (segment ≠ ("length" : Text) ∧ isDigits segment = false ∧ .ok none = result) := by
  simp only [spells_iff, refuses_iff]
  by_cases hLength : segment = ("length" : Text)
  · rw [hLength]
    simp [memberOf, isDigits_length]
  · cases hDigits : isDigits segment with
    | false => simp [memberOf, hLength, hDigits]
    | true =>
      cases hIndex : indexOf segment <;> simp [memberOf, hLength, hDigits, hIndex, Except.map]

theorem memberOf_eq_ok_iff {members : List Value} {segment : Text} {found : Found} :
    memberOf members segment = .ok found ↔
      (segment = ("length" : Text) ∧ some (.int members.length) = found) ∨
      (∃ n, Spells segment n ∧ members[n]? = found) ∨
      (segment ≠ ("length" : Text) ∧ isDigits segment = false ∧ none = found) := by
  simp [memberOf_eq_iff]

theorem memberOf_eq_error_iff {members : List Value} {segment : Text} {e : PathError} :
    memberOf members segment = .error e ↔ Refuses segment e := by
  simp [memberOf_eq_iff]

/-- A value without members is a dictionary, or a segment leads to nothing. -/
theorem step_of_no_members {v : Value} (h : v.members? = none) :
    (∃ entries, v = .dict entries) ∨
      (∀ entries, v ≠ .dict entries) ∧ ∀ segment, Found.step (some v) segment = .ok none := by
  cases v with
  | dict entries => exact .inl ⟨entries, rfl⟩
  | list items => cases h
  | str t => cases h
  | null => exact .inr ⟨nofun, fun _ => rfl⟩
  | bool b => exact .inr ⟨nofun, fun _ => rfl⟩
  | int n => exact .inr ⟨nofun, fun _ => rfl⟩
  | float x => exact .inr ⟨nofun, fun _ => rfl⟩

theorem step_eq_ok_iff {found next : Found} {segment : Text} :
    found.step segment = .ok next ↔ Leads found segment next := by
  constructor
  · intro h
    cases found with
    | none =>
      cases h
      exact .nothing segment
    | some v =>
      cases hMembers : v.members? with
      | some members =>
        rw [step_eq_memberOf hMembers, memberOf_eq_ok_iff] at h
        rcases h with ⟨rfl, rfl⟩ | ⟨n, hSpells, rfl⟩ | ⟨hLength, hDigits, rfl⟩
        · exact .length hMembers
        · exact .index hMembers hSpells
        · exact .noIndex hMembers hLength hDigits
      | none =>
        rcases step_of_no_members hMembers with ⟨entries, rfl⟩ | ⟨hDict, hStep⟩
        · cases h
          exact .entry entries segment
        · rw [hStep segment] at h
          cases h
          exact .bare segment hMembers hDict
  · intro h
    cases h with
    | nothing => rfl
    | bare _ hMembers hDict =>
      rcases step_of_no_members hMembers with ⟨entries, rfl⟩ | ⟨_, hStep⟩
      · exact absurd rfl (hDict entries)
      · exact hStep segment
    | entry => rfl
    | length hMembers =>
      rw [step_eq_memberOf hMembers]
      exact memberOf_eq_ok_iff.2 (.inl ⟨rfl, rfl⟩)
    | index hMembers hSpells =>
      rw [step_eq_memberOf hMembers]
      exact memberOf_eq_ok_iff.2 (.inr (.inl ⟨_, hSpells, rfl⟩))
    | noIndex hMembers hLength hDigits =>
      rw [step_eq_memberOf hMembers]
      exact memberOf_eq_ok_iff.2 (.inr (.inr ⟨hLength, hDigits, rfl⟩))

/-- A segment fails only at digits, in a list or a text. -/
theorem step_eq_error_iff {found : Found} {segment : Text} {e : PathError} :
    found.step segment = .error e
      ↔ (∃ v members, found = some v ∧ v.members? = some members) ∧ Refuses segment e := by
  constructor
  · intro h
    cases found with
    | none => cases h
    | some v =>
      cases hMembers : v.members? with
      | some members =>
        rw [step_eq_memberOf hMembers, memberOf_eq_error_iff] at h
        exact ⟨⟨v, members, rfl, hMembers⟩, h⟩
      | none =>
        rcases step_of_no_members hMembers with ⟨entries, rfl⟩ | ⟨_, hStep⟩
        · cases h
        · rw [hStep segment] at h
          cases h
  · rintro ⟨⟨v, members, rfl, hMembers⟩, hRefuses⟩
    rw [step_eq_memberOf hMembers]
    exact memberOf_eq_error_iff.2 hRefuses

/-! ## 3. Paths -/

/-- The segments of a path; the empty path has none. -/
def segmentsOf (path : Text) : List Text := if path = [] then [] else path.splitOn (.scalar '.')

/-- Where a row of segments leads. -/
inductive LeadsAlong : Found → List Text → Found → Prop where
  | nil (found : Found) : LeadsAlong found [] found
  | cons {found next last : Found} {segment : Text} {rest : List Text} :
    Leads found segment next → LeadsAlong next rest last → LeadsAlong found (segment :: rest) last

theorem Found.resolve_eq_follow (found : Found) (path : Text) :
    found.resolve path = found.follow (segmentsOf path) := by
  rw [Found.resolve, segmentsOf]
  split <;> rfl

theorem resolve_eq_follow (v : Value) (path : Text) :
    v.resolve path = Found.follow (some v) (segmentsOf path) :=
  Found.resolve_eq_follow (some v) path

theorem follow_eq_ok_iff {found last : Found} {segments : List Text} :
    found.follow segments = .ok last ↔ LeadsAlong found segments last := by
  constructor
  · intro h
    induction segments generalizing found with
    | nil =>
      cases h
      exact .nil _
    | cons segment rest ih =>
      rw [Found.follow] at h
      split at h
      · next next hStep => exact .cons (step_eq_ok_iff.1 hStep) (ih h)
      · cases h
  · intro h
    induction h with
    | nil => rfl
    | cons hHead _ ih => rw [Found.follow, step_eq_ok_iff.2 hHead]; exact ih

/-- A row of segments fails at the first that fails where it is led to. -/
theorem follow_eq_error_iff {found : Found} {segments : List Text} {e : PathError} :
    found.follow segments = .error e ↔ ∃ before segment after v members,
      segments = before ++ segment :: after ∧ LeadsAlong found before (some v) ∧
        v.members? = some members ∧ Refuses segment e := by
  constructor
  · intro h
    induction segments generalizing found with
    | nil => cases h
    | cons segment rest ih =>
      rw [Found.follow] at h
      split at h
      · next next hStep =>
        obtain ⟨before, segment', after, v, members, rfl, hBefore, hRest⟩ := ih h
        exact ⟨segment :: before, segment', after, v, members, rfl,
          .cons (step_eq_ok_iff.1 hStep) hBefore, hRest⟩
      · next e' hStep =>
        cases h
        obtain ⟨⟨v, members, rfl, hMembers⟩, hRefuses⟩ := step_eq_error_iff.1 hStep
        exact ⟨[], segment, rest, v, members, rfl, .nil _, hMembers, hRefuses⟩
  · rintro ⟨before, segment, after, v, members, rfl, hBefore, hMembers, hRefuses⟩
    have hStep : Found.step (some v) segment = .error e :=
      step_eq_error_iff.2 ⟨⟨v, members, rfl, hMembers⟩, hRefuses⟩
    rw [Found.follow_append, follow_eq_ok_iff.2 hBefore]
    simp only [Found.follow, hStep]

/-- A path finds that to which its segments lead. It fails exactly where a list
or a text meets digits that are not read. -/
theorem resolve_eq_iff (v : Value) (path : Text) :
    (∀ found, v.resolve path = .ok found ↔ LeadsAlong (some v) (segmentsOf path) found) ∧
      ∀ e, v.resolve path = .error e ↔ ∃ before segment after w members,
        segmentsOf path = before ++ segment :: after ∧
          LeadsAlong (some v) before (some w) ∧ w.members? = some members ∧ Refuses segment e := by
  rw [resolve_eq_follow]
  exact ⟨fun _ => follow_eq_ok_iff, fun _ => follow_eq_error_iff⟩

/-- Not every path finds something or nothing: `²` counts as a digit and is
none of a number. -/
theorem resolve_superscript :
    ¬ ∀ (v : Value) (path : Text), ∃ found, v.resolve path = .ok found := by
  intro h
  obtain ⟨found, hFound⟩ := h (.list [.int 1]) "²"
  have hError : (Value.list [.int 1]).resolve "²" = .error (.notDecimal "²") := by decide
  cases hError.symm.trans hFound

/-! ## 4. A path behind another -/

/-- The segments of a path behind another come after those of the other. -/
theorem segmentsOf_behind {outer : Text} (hOuter : outer ≠ []) (path : Text) :
    segmentsOf (outer ++ .scalar '.' :: path) = segmentsOf outer ++ path.splitOn (.scalar '.') := by
  rw [segmentsOf, segmentsOf, if_neg (by simp), if_neg hOuter, Text.splitOn_append]

/-- A path behind another goes on from what the other finds, unless the other fails. -/
theorem Found.resolve_behind {found : Found} {outer : Text} (hOuter : outer ≠ []) (path : Text) :
    found.resolve (outer ++ .scalar '.' :: path) =
      match found.resolve outer with
      | .ok next => next.follow (path.splitOn (.scalar '.'))
      | .error e => .error e := by
  rw [Found.resolve_eq_follow, Found.resolve_eq_follow, segmentsOf_behind hOuter]
  exact Found.follow_append found _ _

/-- Behind nothing and behind null, segments find nothing. -/
theorem Found.follow_of_isMissing {found : Found} (h : found.isMissing = true)
    {segments : List Text} (hNe : segments ≠ []) : found.follow segments = .ok none := by
  have hNothing (segments : List Text) : Found.follow none segments = .ok none := by
    induction segments with
    | nil => rfl
    | cons segment rest ih => exact ih
  have hStep (segment : Text) : found.step segment = .ok none := by
    rcases found with _ | v
    · rfl
    · cases v with
      | null => rfl
      | _ => cases h
  obtain ⟨segment, rest, rfl⟩ := List.exists_cons_of_ne_nil hNe
  rw [Found.follow, hStep]
  exact hNothing rest

/-- Paths compose: a path behind another ends as it does from what the other
finds, and finds nothing if that is null or nothing. Where the other fails, so
do both together. The empty path is neither of them: alone it has no segment, but
beside a dot it has one, the empty name. -/
theorem Found.resolve_composes (c : Found) {p q : Text} (hp : p ≠ []) (hq : q ≠ []) :
    (∀ found, c.resolve p = .ok found →
      c.resolve (p ++ .scalar '.' :: q) = found.resolve q ∧
        (found.isMissing = true → c.resolve (p ++ .scalar '.' :: q) = .ok none)) ∧
      ∀ e, c.resolve p = .error e → c.resolve (p ++ .scalar '.' :: q) = .error e := by
  rw [Found.resolve_behind hp]
  refine ⟨fun found hFound => ?_, fun e hError => by rw [hError]⟩
  have hGoesOn : found.follow (q.splitOn (.scalar '.')) = found.resolve q := (if_neg hq).symm
  rw [hFound]
  exact ⟨hGoesOn, fun hMissing => Found.follow_of_isMissing hMissing (Text.splitOn_ne_nil _ q)⟩

/-- From null in a list, from an entry behind an empty name, and from digits that
are not read. -/
theorem Found.resolve_composes_null :
    let c : Found := some (.dict [("a", .list [.null, .dict [("", .str "xy")]])])
    c.resolve "a.0" = .ok (some .null) ∧ c.resolve "a.0..length" = .ok none ∧
      c.resolve "a.1." = .ok (some (.str "xy")) ∧ c.resolve "a.1..length" = .ok (some (.int 2)) ∧
      c.resolve "a.²" = .error (.notDecimal "²") ∧
      c.resolve "a.².length" = .error (.notDecimal "²") := by
  intro c
  have hNull : c.resolve "a.0" = .ok (some .null) := by decide
  have hEntry : c.resolve "a.1." = .ok (some (.str "xy")) := by decide
  have hDigits : c.resolve "a.²" = .error (.notDecimal "²") := by decide
  refine ⟨hNull, ?_, hEntry, ?_, hDigits, ?_⟩
  · exact ((Found.resolve_composes c (p := "a.0") (q := ".length") (by decide) (by decide)).1
      _ hNull).2 rfl
  · exact ((Found.resolve_composes c (p := "a.1.") (q := "length") (by decide) (by decide)).1
      _ hEntry).1
  · exact (Found.resolve_composes c (p := "a.²") (q := "length") (by decide) (by decide)).2
      _ hDigits

/-- The empty path is no beginning: what comes behind it is behind an empty name. -/
example : (Value.dict [("a", .int 1)]).resolve ".a" = .ok none := by decide

end TreeTemplate
