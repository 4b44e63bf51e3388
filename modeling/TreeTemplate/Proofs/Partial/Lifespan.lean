/-
TreeTemplate.Proofs.Partial.Lifespan — what a cache still knows.

In exact arithmetic a cache is a map whose entries last for a time, except
that it may lose entries for want of room. It never gives anything else than
what was written last, and never after its time. What it loses before its
time is lost because as many other names as the cache may hold have been used
since that name was.

* `Cache.LastUsed`, `Cache.Crowded` — what was used after the last use of a
  name, and how many names.
* `Cache.Live` — what was written last under a name and has not passed.
* `Cache.Remembers` — how a cache stands to its history, and
  `Cache.Remembers.append` — one more operation.
* `Cache.get_live_or_crowded` — what a look-up gives after any history.
-/
import TreeTemplate.Proofs.Partial.Eviction
import Mathlib.Algebra.Order.Ring.Int
import Mathlib.Data.List.Dedup
import Mathlib.Data.List.Perm.Subperm

namespace TreeTemplate

variable {τ α : Type}

namespace Cache

/-! ## 1. Names used one after another -/

variable {limit : Int} {name : Text}

/-- A name was last used at a time, and after that others. -/
def LastUsed (uses : List (τ × Text)) (name : Text) (time : τ) (others : List (τ × Text)) : Prop :=
  ∃ earlier, uses = earlier ++ (time, name) :: others ∧ ∀ use ∈ others, use.2 ≠ name

theorem lastUsed_append (uses : List (τ × Text)) (name : Text) (time : τ) :
    LastUsed (uses ++ [(time, name)]) name time [] :=
  ⟨uses, rfl, List.forall_mem_nil _⟩

theorem LastUsed.append {uses others : List (τ × Text)} {time : τ}
    (h : LastUsed uses name time others) {more : List (τ × Text)}
    (hMore : ∀ use ∈ more, use.2 ≠ name) : LastUsed (uses ++ more) name time (others ++ more) := by
  obtain ⟨earlier, rfl, hOthers⟩ := h
  refine ⟨earlier, by rw [List.append_assoc, List.cons_append], ?_⟩
  exact List.forall_mem_append.2 ⟨hOthers, hMore⟩

/-- As many names as the limit allows have been used since the last use of
a name. -/
def Crowded (limit : Int) (uses : List (τ × Text)) (name : Text) : Prop :=
  ∃ time others, LastUsed uses name time others ∧ limit ≤ ((others.map Prod.snd).dedup.length : Int)

theorem Crowded.append {uses : List (τ × Text)} (h : Crowded limit uses name)
    {more : List (τ × Text)} (hMore : ∀ use ∈ more, use.2 ≠ name) :
    Crowded limit (uses ++ more) name := by
  obtain ⟨time, others, hLast, hLimit⟩ := h
  refine ⟨time, others ++ more, hLast.append hMore, ?_⟩
  have hSubset : (others.map Prod.snd).dedup ⊆ ((others ++ more).map Prod.snd).dedup := by
    intro other hOther
    rw [List.mem_dedup, List.map_append, List.mem_append]
    exact .inl (List.mem_dedup.1 hOther)
  have hMoreNames := (List.subperm_of_subset (List.nodup_dedup _) hSubset).length_le
  omega

/-- If the entry that was used first is dropped for a new one from as many
as the limit allows, all of these have been used since. -/
theorem crowded_of_victim [LinearOrder τ] {entries : Table (CacheEntry τ α)} {uses : List (τ × Text)}
    (hNodup : entries.names.Nodup) (hFull : (entries.length : Int) = limit)
    (hTimes : (uses.map Prod.fst).Pairwise (· < ·))
    (hUsed : ∀ entry ∈ entries, ∃ others, LastUsed uses entry.1 entry.2.lastUse others)
    {victim : Text × CacheEntry τ α} (hVictim : victim ∈ entries)
    (hLeast : ∀ entry ∈ entries, victim.2.lastUse ≤ entry.2.lastUse)
    (hNew : entries.has name = false) (now : τ) :
    Crowded limit (uses ++ [(now, name)]) victim.1 := by
  obtain ⟨others, hLast⟩ := hUsed victim hVictim
  have hVictimNew : name ≠ victim.1 := (Table.not_mem_of_has_eq_false hNew hVictim).symm
  have hOthers : LastUsed (uses ++ [(now, name)]) victim.1 victim.2.lastUse
      (others ++ [(now, name)]) := hLast.append (by simpa using hVictimNew)
  refine ⟨victim.2.lastUse, others ++ [(now, name)], hOthers, ?_⟩
  -- Every other entry was used after the victim, at a later time.
  have hAfter : ∀ entry ∈ entries, entry.1 ≠ victim.1 → entry.1 ∈ others.map Prod.snd := by
    intro entry hEntry hNe
    obtain ⟨earlier, rfl, _⟩ := hLast
    obtain ⟨_, before, hBefore, _⟩ := hUsed entry hEntry
    have hMem : (entry.2.lastUse, entry.1) ∈ earlier ++ (victim.2.lastUse, victim.1) :: others := by
      rw [hBefore]
      simp
    rcases List.mem_append.1 hMem with hEarlier | hRest
    · rw [List.map_append, List.pairwise_append] at hTimes
      have hLess := hTimes.2.2 entry.2.lastUse (List.mem_map.2 ⟨_, hEarlier, rfl⟩)
        victim.2.lastUse (by simp)
      exact absurd (hLeast entry hEntry) (not_le.2 hLess)
    · rcases List.mem_cons.1 hRest with hSame | hOther
      · exact absurd (congrArg Prod.snd hSame) hNe
      · exact List.mem_map.2 ⟨_, hOther, rfl⟩
  have hNames : name :: (entries.erase victim.1).names ⊆
      ((others ++ [(now, name)]).map Prod.snd).dedup := by
    intro other hOther
    rw [List.mem_dedup, List.map_append, List.mem_append]
    rcases List.mem_cons.1 hOther with rfl | hOther
    · exact .inr (by simp)
    · obtain ⟨entry, hEntry, rfl⟩ := List.mem_map.1 hOther
      obtain ⟨hEntry, hNe⟩ := Table.mem_erase.1 hEntry
      exact .inl (hAfter entry hEntry hNe)
  have hDistinct : (name :: (entries.erase victim.1).names).Nodup := by
    refine List.nodup_cons.2 ⟨fun hMem => ?_, Table.nodup_names_erase hNodup _⟩
    obtain ⟨entry, hEntry, hName⟩ := List.mem_map.1 hMem
    exact Table.not_mem_of_has_eq_false hNew (Table.mem_erase.1 hEntry).1 hName
  have hCount := (List.subperm_of_subset hDistinct hNames).length_le
  have hOne := Table.length_erase hNodup hVictim
  rw [List.length_cons, Table.names, List.length_map] at hCount
  omega

end Cache

/-! ## 2. Exact times -/

variable [LinearOrder τ] [Add τ] [Zero τ]

/-- Numbers in order as times. -/
instance (priority := low) Moment.ofOrder : Moment τ where
  plus := (· + ·)
  isAfter s t := decide (t < s)
  isZero d := decide (d = 0)

instance (priority := low) OrderedMoment.ofOrder : OrderedMoment τ where
  isAfter_irrefl s := decide_eq_false (lt_irrefl s)
  isAfter_trans hst htu := by
    simp only [Moment.isAfter, decide_eq_true_eq] at hst htu ⊢
    exact lt_trans htu hst

theorem Moment.isAfter_eq_true_iff {s t : τ} : Moment.isAfter s t = true ↔ t < s :=
  decide_eq_true_iff

theorem Moment.isAfter_eq_false_iff {s t : τ} : Moment.isAfter s t = false ↔ s ≤ t := by
  rw [← Bool.not_eq_true, isAfter_eq_true_iff, not_lt]

namespace Cache

/-! ## 3. What was written last -/

/-- Whether an operation decides anew what stands under a name. -/
def Operation.Decides (name : Text) : Operation τ α → Prop
  | set other _ _ => other = name
  | get _ => False
  | delete other => other = name
  | clear => True

/-- For how long something is kept: for the given time, unless none or zero
is given. -/
def duration? (ttl : τ) : Option (Lifetime τ) → Option τ
  | none => some ttl
  | some (.counted given) => some (if given = 0 then ttl else given)
  | some .uncountable => none

variable {ttl : τ} {history : List (τ × Operation τ α)} {now : τ} {value : α}

/-- The last operation of a history that decides about a name has written
the value under it, to be kept until the deadline. -/
def Written (ttl : τ) (history : List (τ × Operation τ α)) (name : Text) (value : α)
    (deadline : τ) : Prop :=
  ∃ earlier time given later duration, history = earlier ++ (time, .set name value given) :: later ∧
    (∀ step ∈ later, ¬ step.2.Decides name) ∧ duration? ttl given = some duration ∧
    deadline = time + duration

/-- What was written last under a name, if its time has not passed. -/
def Live (ttl : τ) (history : List (τ × Operation τ α)) (now : τ) (name : Text) (value : α) : Prop :=
  ∃ deadline, Written ttl history name value deadline ∧ now ≤ deadline

theorem written_append {operation : Operation τ α} {deadline : τ} :
    Written ttl (history ++ [(now, operation)]) name value deadline ↔
      (∃ given duration, operation = .set name value given ∧ duration? ttl given = some duration ∧
        deadline = now + duration) ∨
      (¬ operation.Decides name ∧ Written ttl history name value deadline) := by
  constructor
  · rintro ⟨earlier, time, given, later, duration, hHistory, hLater, hDuration, hDeadline⟩
    rcases List.eq_nil_or_concat later with rfl | ⟨between, last, rfl⟩
    · obtain ⟨_, hLast⟩ := List.append_inj' hHistory rfl
      cases hLast
      exact .inl ⟨given, duration, rfl, hDuration, hDeadline⟩
    · rw [List.concat_eq_append, ← List.cons_append, ← List.append_assoc] at hHistory
      obtain ⟨hBefore, hLast⟩ := List.append_inj' hHistory rfl
      cases hLast
      rw [List.concat_eq_append, List.forall_mem_append, List.forall_mem_singleton] at hLater
      exact .inr ⟨hLater.2, earlier, time, given, between, duration, hBefore, hLater.1, hDuration,
        hDeadline⟩
  · rintro (⟨given, duration, rfl, hDuration, hDeadline⟩ | ⟨hKeeps, hWritten⟩)
    · exact ⟨history, now, given, [], duration, rfl, List.forall_mem_nil _, hDuration, hDeadline⟩
    · obtain ⟨earlier, time, given, later, duration, rfl, hLater, hDuration, hDeadline⟩ := hWritten
      refine ⟨earlier, time, given, later ++ [(now, operation)], duration, ?_, ?_, hDuration,
        hDeadline⟩
      · rw [List.append_assoc, List.cons_append]
      · rw [List.forall_mem_append, List.forall_mem_singleton]
        exact ⟨hLater, hKeeps⟩

/-- Nothing else was written last. -/
theorem Written.unique {value' : α} {deadline deadline' : τ}
    (h : Written ttl history name value deadline) (h' : Written ttl history name value' deadline') :
    value = value' ∧ deadline = deadline' := by
  induction history using List.reverseRecOn with
  | nil =>
    obtain ⟨earlier, _, _, _, _, hNil, _⟩ := h
    cases earlier <;> cases hNil
  | append_singleton history step ih =>
    obtain ⟨now, operation⟩ := step
    rcases written_append.1 h with ⟨given, duration, rfl, hDuration, rfl⟩ | ⟨hKeeps, hBefore⟩
    · rcases written_append.1 h' with ⟨_, _, hSame, hDuration', rfl⟩ | ⟨hKeeps, _⟩
      · cases hSame
        rw [hDuration] at hDuration'
        cases hDuration'
        exact ⟨rfl, rfl⟩
      · exact absurd rfl hKeeps
    · rcases written_append.1 h' with ⟨_, _, rfl, _⟩ | ⟨_, hBefore'⟩
      · exact absurd rfl hKeeps
      · exact ih hBefore hBefore'

/-! ## 4. Uses -/

/-- The name that an operation uses, with the time: one that is written, or
one that is looked up and found. -/
def use? (cache : Cache τ α) : τ × Operation τ α → Option (τ × Text)
  | (now, .set name _ _) => some (now, name)
  | (now, .get name) => if (cache.get now name).1.isSome then some (now, name) else none
  | _ => none

/-- The names that are used along a history of a cache that starts empty,
with the times. -/
def uses (ttl : τ) (limit : Int) (history : List (τ × Operation τ α)) : List (τ × Text) :=
  trace use? (empty (.counted ttl) limit) history

/-- The times of uses are times of the history. -/
theorem sublist_trace_use (cache : Cache τ α) (history : List (τ × Operation τ α)) :
    ((trace use? cache history).map Prod.fst).Sublist (history.map Prod.fst) := by
  induction history generalizing cache with
  | nil => exact List.Sublist.refl _
  | cons step rest ih =>
    have hStep : ((use? cache step).toList.map Prod.fst).Sublist [step.1] := by
      obtain ⟨now, operation⟩ := step
      cases operation with
      | set name value given => exact List.Sublist.refl _
      | get name =>
        rw [use?]
        split
        · exact List.Sublist.refl _
        · exact List.nil_sublist _
      | delete name => exact List.nil_sublist _
      | clear => exact List.nil_sublist _
    rw [trace, List.map_append]
    exact hStep.append (ih (cache.after step))

theorem uses_append (history : List (τ × Operation τ α)) (step : τ × Operation τ α) :
    uses ttl limit (history ++ [step]) = uses ttl limit history
      ++ (use? ((empty (.counted ttl) limit).run history) step).toList := by
  rw [uses, trace_append, trace, trace, List.append_nil, uses]

/-! ## 5. A cache and its history -/

/-- Whether the clock goes on from each operation to the next. -/
def Strict (history : List (τ × Operation τ α)) : Prop :=
  (history.map Prod.fst).Pairwise (· < ·)

theorem Strict.uses (h : Strict history) : ((uses ttl limit history).map Prod.fst).Pairwise (· < ·) :=
  List.Pairwise.sublist (sublist_trace_use _ history) h

/-- What a cache holds and what it has lost after a history: every entry is
what was written last under its name and has the time of its last use; and
what was written last, but is not there, has passed or had to make room. -/
structure Remembers (ttl : τ) (limit : Int) (history : List (τ × Operation τ α)) : Prop where
  written : ∀ entry ∈ ((empty (.counted ttl) limit).run history).entries,
    Written ttl history entry.1 entry.2.value entry.2.expires
  used : ∀ entry ∈ ((empty (.counted ttl) limit).run history).entries,
    ∃ others, LastUsed (uses ttl limit history) entry.1 entry.2.lastUse others
  lost : ∀ name value deadline, Written ttl history name value deadline →
    (∀ entry ∈ ((empty (.counted ttl) limit).run history).entries, entry.1 ≠ name) →
    (∃ step ∈ history, deadline < step.1) ∨
      0 < limit ∧ (Strict history → Crowded limit (uses ttl limit history) name)

/-- One more operation, if entries after it are old ones or the one it uses,
and old ones that are gone have passed or had to make room. -/
theorem Remembers.append (h : Remembers ttl limit history) {step : τ × Operation τ α}
    {before after : Cache τ α} (hBefore : before = (empty (.counted ttl) limit).run history)
    (hAfter : after = before.after step)
    (hEntries : ∀ entry ∈ after.entries,
      (entry ∈ before.entries ∧ ¬ step.2.Decides entry.1 ∧
        ∀ use ∈ use? before step, use.2 ≠ entry.1) ∨
      Written ttl (history ++ [step]) entry.1 entry.2.value entry.2.expires ∧
        use? before step = some (entry.2.lastUse, entry.1))
    (hUsed : ∀ use ∈ use? before step, ∃ entry ∈ after.entries, entry.1 = use.2)
    (hGone : ∀ entry ∈ before.entries, ¬ step.2.Decides entry.1 →
      (∃ kept ∈ after.entries, kept.1 = entry.1) ∨ entry.2.expires < step.1 ∨
        0 < limit ∧ (Strict history →
          Crowded limit (uses ttl limit history ++ (use? before step).toList) entry.1)) :
    Remembers ttl limit (history ++ [step]) := by
  subst hBefore
  have hRun : (empty (.counted ttl) limit).run (history ++ [step]) = after := by
    rw [run_append, hAfter]
    rfl
  have hStrict (hStrict : Strict (history ++ [step])) : Strict history := by
    rw [Strict, List.map_append] at hStrict
    exact (List.pairwise_append.1 hStrict).1
  constructor
  · rw [hRun]
    intro entry hEntry
    rcases hEntries entry hEntry with ⟨hOld, hKeeps, _⟩ | ⟨hWritten, _⟩
    · exact written_append.2 (.inr ⟨hKeeps, h.written entry hOld⟩)
    · exact hWritten
  · rw [hRun]
    intro entry hEntry
    rw [uses_append]
    rcases hEntries entry hEntry with ⟨hOld, _, hOther⟩ | ⟨_, hUse⟩
    · obtain ⟨others, hLast⟩ := h.used entry hOld
      exact ⟨_, hLast.append fun use hMem => hOther use (Option.mem_toList.1 hMem)⟩
    · rw [hUse]
      exact ⟨[], lastUsed_append _ _ _⟩
  · rw [hRun, uses_append]
    intro name value deadline hWritten hAbsent
    have hOthers : ∀ use ∈ (use? ((empty (.counted ttl) limit).run history) step).toList,
        use.2 ≠ name := by
      intro use hUse hName
      obtain ⟨entry, hEntry, hSame⟩ := hUsed use (Option.mem_toList.1 hUse)
      exact hAbsent entry hEntry (hSame.trans hName)
    rcases written_append.1 hWritten with ⟨given, duration, hSet, _⟩ | ⟨hKeeps, hOld⟩
    · refine absurd rfl (hOthers (step.1, name) (Option.mem_toList.2 ?_))
      obtain ⟨now, operation⟩ := step
      subst hSet
      rfl
    · by_cases hPresent : ∃ entry ∈ ((empty (.counted ttl) limit).run history).entries, entry.1 = name
      · obtain ⟨entry, hEntry, rfl⟩ := hPresent
        rcases hGone entry hEntry hKeeps with ⟨kept, hKept, hSame⟩ | hPassed | ⟨hLimit, hCrowded⟩
        · exact absurd hSame (hAbsent kept hKept)
        · obtain ⟨_, rfl⟩ := (h.written entry hEntry).unique hOld
          exact .inl ⟨step, by simp, hPassed⟩
        · exact .inr ⟨hLimit, fun hMore => hCrowded (hStrict hMore)⟩
      · have hMissing : ∀ entry ∈ ((empty (.counted ttl) limit).run history).entries,
            entry.1 ≠ name := fun entry hEntry hName => hPresent ⟨entry, hEntry, hName⟩
        rcases h.lost name value deadline hOld hMissing with ⟨passing, hPassing, hLess⟩ | hLost
        · exact .inl ⟨passing, List.mem_append_left _ hPassing, hLess⟩
        · exact .inr ⟨hLost.1, fun hMore => (hLost.2 (hStrict hMore)).append hOthers⟩

/-! ## 6. Operations -/

/-- A time that is given can be counted, as every time can in exact arithmetic. -/
def Operation.IsCounted : Operation τ α → Prop
  | set _ _ given => given ≠ some .uncountable
  | _ => True

theorem effectiveTtl_eq {cache : Cache τ α} (hTtl : cache.defaultTtl = .counted ttl)
    {given : Option (Lifetime τ)} (hGiven : given ≠ some .uncountable) :
    ∃ duration, duration? ttl given = some duration ∧
      cache.effectiveTtl given = .counted duration := by
  rcases given with _ | duration | _
  · exact ⟨ttl, rfl, hTtl⟩
  · by_cases hZero : duration = 0
    · exact ⟨ttl, by simp [duration?, hZero], by
        simp [effectiveTtl, Lifetime.isZero, Moment.isZero, hZero, hTtl]⟩
    · exact ⟨duration, by simp [duration?, hZero], by
        simp [effectiveTtl, Lifetime.isZero, Moment.isZero, hZero]⟩
  · exact absurd rfl hGiven

theorem Remembers.get (h : Remembers (α := α) ttl limit history) (now : τ) (name : Text) :
    Remembers ttl limit (history ++ [(now, .get name)]) := by
  have hNodup := (bounded_run (.counted ttl) limit history).nodup
  generalize hBefore : (empty (.counted ttl) limit).run history = cache at hNodup
  have hWritten := h.written
  rw [hBefore] at hWritten
  obtain ⟨_, hGet⟩ | ⟨passed, hMem, hPassed, hGet⟩ | ⟨found, hMem, _, hGet⟩ := get_cases now name cache
  · have hUse : use? cache (now, .get name) = none := by simp [use?, hGet]
    refine h.append hBefore.symm rfl (fun entry hEntry => .inl ⟨?_, id, by simp [hUse]⟩)
      (by simp [hUse]) (fun entry hEntry _ => .inl ⟨entry, ?_, rfl⟩)
    · simpa [after, hGet] using hEntry
    · simpa [after, hGet] using hEntry
  · have hUse : use? cache (now, .get name) = none := by simp [use?, hGet]
    have hAfter : (cache.after (now, .get name)).entries = cache.entries.erase name := by
      simp [after, hGet]
    refine h.append hBefore.symm rfl (fun entry hEntry => .inl ⟨?_, id, by simp [hUse]⟩)
      (by simp [hUse]) (fun entry hEntry _ => ?_)
    · rw [hAfter] at hEntry
      exact (Table.mem_erase.1 hEntry).1
    · rw [hAfter]
      by_cases hName : entry.1 = name
      · subst hName
        have hSame : some entry.2 = some passed :=
          ((Table.get?_eq_some_iff hNodup).2 hEntry).symm.trans
            ((Table.get?_eq_some_iff hNodup).2 hMem)
        cases hSame
        exact .inr (.inl (Moment.isAfter_eq_true_iff.1 hPassed))
      · exact .inl ⟨entry, Table.mem_erase.2 ⟨hEntry, hName⟩, rfl⟩
  · have hUse : use? cache (now, .get name) = some (now, name) := by simp [use?, hGet]
    have hAfter : (cache.after (now, .get name)).entries
        = cache.entries.put name { found with lastUse := now } := by
      simp [after, hGet]
    refine h.append hBefore.symm rfl (fun entry hEntry => ?_) (fun use hMore => ?_)
      (fun entry hEntry _ => ?_)
    · rw [hAfter] at hEntry
      rw [hUse]
      rcases Table.mem_put.1 hEntry with rfl | ⟨hOld, hName⟩
      · exact .inr ⟨written_append.2 (.inr ⟨id, hWritten (name, found) hMem⟩), rfl⟩
      · refine .inl ⟨hOld, id, fun use hMore => ?_⟩
        cases hMore
        exact hName.symm
    · rw [hUse] at hMore
      cases hMore
      rw [hAfter]
      exact ⟨_, Table.mem_put.2 (.inl rfl), rfl⟩
    · rw [hAfter]
      by_cases hName : entry.1 = name
      · exact .inl ⟨_, Table.mem_put.2 (.inl rfl), hName.symm⟩
      · exact .inl ⟨entry, Table.mem_put.2 (.inr ⟨hEntry, hName⟩), rfl⟩

theorem Remembers.set (h : Remembers ttl limit history) (now : τ) (name : Text) (value : α)
    {given : Option (Lifetime τ)} (hGiven : given ≠ some .uncountable) :
    Remembers ttl limit (history ++ [(now, .set name value given)]) := by
  have hBounded := bounded_run (.counted ttl) limit history
  obtain ⟨hLimit, hTtl⟩ := settings_run (.counted ttl) limit history
  generalize hBefore : (empty (.counted ttl) limit).run history = cache at hBounded hLimit hTtl
  have hUsed := h.used
  rw [hBefore] at hUsed
  obtain ⟨duration, hDuration, hEffective⟩ := effectiveTtl_eq hTtl hGiven
  have hAfter : (cache.after (now, .set name value given)).entries
      = (cache.roomFor now name).put name ⟨value, now + duration, now⟩ := by
    simp [after, Cache.set, hEffective, Moment.plus]
  have hRoom := roomFor_sublist now name cache
  refine h.append hBefore.symm rfl (fun entry hEntry => ?_) (fun use hMore => ?_)
    (fun entry hEntry hKeeps => ?_)
  · rw [hAfter] at hEntry
    rcases Table.mem_put.1 hEntry with rfl | ⟨hOld, hName⟩
    · exact .inr ⟨written_append.2 (.inl ⟨given, duration, rfl, hDuration, rfl⟩), rfl⟩
    · refine .inl ⟨hRoom.subset hOld, hName.symm, fun use hMore => ?_⟩
      cases hMore
      exact hName.symm
  · cases hMore
    rw [hAfter]
    exact ⟨_, Table.mem_put.2 (.inl rfl), rfl⟩
  · rw [hAfter]
    by_cases hKept : entry ∈ cache.roomFor now name
    · exact .inl ⟨entry, Table.mem_put.2 (.inr ⟨hKept, Ne.symm hKeeps⟩), rfl⟩
    -- Room has been made, so the name is new and the limit positive.
    · have hMade : 0 < cache.maxSize ∧ cache.entries.has name = false := by
        by_contra hNot
        rw [roomFor, if_neg hNot] at hKept
        exact hKept hEntry
      have hSpare := spareRoom_roomFor hBounded hMade.1 now hMade.2
      rw [SpareRoom] at hSpare
      split at hSpare
      · next hFull =>
        obtain ⟨victim, hVictim, hOthers, _, hLeast⟩ := hSpare
        have hName : entry.1 = victim.1 := by
          by_contra hNe
          rw [hOthers] at hKept
          exact hKept (Table.mem_erase.2 ⟨hEntry, hNe⟩)
        rw [hLimit] at hFull hMade
        refine .inr (.inr ⟨hMade.1, fun hStrict => ?_⟩)
        rw [hName]
        exact crowded_of_victim hBounded.nodup hFull.1 hStrict.uses hUsed hVictim
          (fun other hOther => Moment.isAfter_eq_false_iff.1 (hLeast other hOther)) hMade.2 now
      · rw [hSpare] at hKept
        have hPassed : Moment.isAfter now entry.2.expires = true := by
          simpa [hEntry] using hKept
        exact .inr (.inl (Moment.isAfter_eq_true_iff.1 hPassed))

theorem Remembers.delete (h : Remembers (α := α) ttl limit history) (now : τ) (name : Text) :
    Remembers ttl limit (history ++ [(now, .delete name)]) := by
  refine h.append rfl rfl (fun entry hEntry => .inl ?_) (fun use hMore => by cases hMore)
    (fun entry hEntry hKeeps => .inl ⟨entry, Table.mem_erase.2 ⟨hEntry, Ne.symm hKeeps⟩, rfl⟩)
  obtain ⟨hOld, hName⟩ := Table.mem_erase.1 hEntry
  exact ⟨hOld, hName.symm, fun use hMore => by cases hMore⟩

theorem Remembers.clear (h : Remembers (α := α) ttl limit history) (now : τ) :
    Remembers ttl limit (history ++ [(now, .clear)]) :=
  h.append rfl rfl (fun entry hEntry => by cases hEntry) (fun use hMore => by cases hMore)
    (fun entry _ hKeeps => absurd trivial hKeeps)

/-- Every history, if times can be counted. -/
theorem remembers_run (ttl : τ) (limit : Int) {history : List (τ × Operation τ α)}
    (h : ∀ step ∈ history, step.2.IsCounted) : Remembers ttl limit history := by
  induction history using List.reverseRecOn with
  | nil =>
    refine ⟨List.forall_mem_nil _, List.forall_mem_nil _, fun name value deadline hWritten => ?_⟩
    obtain ⟨earlier, _, _, _, _, hNil, _⟩ := hWritten
    cases earlier <;> cases hNil
  | append_singleton history step ih =>
    rw [List.forall_mem_append, List.forall_mem_singleton] at h
    have hHistory := ih h.1
    obtain ⟨now, operation⟩ := step
    cases operation with
    | set name value given => exact hHistory.set now name value h.2
    | get name => exact hHistory.get now name
    | delete name => exact hHistory.delete now name
    | clear => exact hHistory.clear now

/-! ## 7. Look-ups -/

/-- What a look-up gives is what was written last and has not passed. If it
gives nothing although there is something of that kind, then there is a
limit to the size, and if the clock goes on from each operation to the next,
as many other names as the limit allows have been used since the last use of
this one. Lifetimes are counted, for exact numbers have no greatest; and the
look-up is not before any operation, for what has been dropped cannot be found
by turning the clock back. -/
theorem get_live_or_crowded (ttl : τ) (limit : Int) {history : List (τ × Operation τ α)}
    (hCounted : ∀ step ∈ history, step.2.IsCounted) {now : τ}
    (hNow : ∀ step ∈ history, step.1 ≤ now) (name : Text) :
    let found := (((empty (.counted ttl) limit).run history).get now name).1
    (∀ value, found = some value → Live ttl history now name value) ∧
      (found = none → (∃ value, Live ttl history now name value) →
        0 < limit ∧ (Strict history → Crowded limit (uses ttl limit history) name)) := by
  have h := remembers_run ttl limit hCounted
  have hNodup := (bounded_run (.counted ttl) limit history).nodup
  have hWritten := h.written
  have hLost := h.lost
  generalize (empty (.counted ttl) limit).run history = cache at hNodup hWritten hLost ⊢
  -- An entry that passed is not live, and an entry that did not is found.
  have hNotLive (entry : CacheEntry τ α) (hMem : (name, entry) ∈ cache.entries)
      (hPassed : Moment.isAfter now entry.expires = true) (value : α) :
      ¬ Live ttl history now name value := by
    rintro ⟨deadline, hLast, hBy⟩
    obtain ⟨_, rfl⟩ := (hWritten (name, entry) hMem).unique hLast
    exact absurd hBy (not_le.2 (Moment.isAfter_eq_true_iff.1 hPassed))
  obtain ⟨hNew, hGet⟩ | ⟨passed, hMem, hPassed, hGet⟩ | ⟨found, hMem, hFresh, hGet⟩ :=
    get_cases now name cache
  · refine ⟨fun value hFound => by simp [hGet] at hFound, fun _ hLive => ?_⟩
    obtain ⟨value, deadline, hLast, hBy⟩ := hLive
    have hMissing : ∀ entry ∈ cache.entries, entry.1 ≠ name :=
      fun entry hEntry => Table.not_mem_of_has_eq_false hNew hEntry
    rcases hLost name value deadline hLast hMissing with ⟨step, hStep, hLess⟩ | hCrowded
    · exact absurd (hBy.trans' (hNow step hStep)) (not_le.2 hLess)
    · exact hCrowded
  · refine ⟨fun value hFound => by simp [hGet] at hFound, fun _ hLive => ?_⟩
    obtain ⟨value, hLive⟩ := hLive
    exact absurd hLive (hNotLive passed hMem hPassed value)
  · refine ⟨fun value hFound => ?_, fun hFound => by simp [hGet] at hFound⟩
    obtain rfl : found.value = value := by simpa [hGet] using hFound
    exact ⟨found.expires, hWritten _ hMem, Moment.isAfter_eq_false_iff.1 hFresh⟩

/-- In a cache for one entry the second of two names takes the place of the
first, which is still live. -/
theorem get_live_or_crowded_two_names :
    let history : List (Int × Operation Int Nat) :=
      [(0, .set "a" 1 none), (1, .set "b" 2 (some (.counted 3)))]
    let cache := (empty (.counted 10) 1).run history
    ((cache.get 4 "b").1 = some 2 ∧ Live 10 history 4 "b" 2) ∧
      (cache.get 4 "a").1 = none ∧ Live 10 history 4 "a" 1 ∧ Crowded 1 (uses 10 1 history) "a" := by
  intro history cache
  have hCounted : ∀ step ∈ history, step.2.IsCounted := by simp [history, Operation.IsCounted]
  have hNow : ∀ step ∈ history, step.1 ≤ (4 : Int) := by decide
  have hFound : (cache.get 4 "b").1 = some 2 := by decide +kernel
  have hMissed : (cache.get 4 "a").1 = none := by decide +kernel
  have hOther : ("b" : Text) ≠ "a" := by decide
  have hFirst : Live 10 history 4 "a" 1 :=
    ⟨10, ⟨[], 0, none, _, 10, rfl, by simp [Operation.Decides, hOther], rfl, rfl⟩, by decide⟩
  have hStrict : Strict history := by simp [Strict, history]
  obtain ⟨hLive, _⟩ := get_live_or_crowded 10 1 hCounted hNow "b"
  obtain ⟨_, hCrowded⟩ := get_live_or_crowded 10 1 hCounted hNow "a"
  exact ⟨⟨hFound, hLive 2 hFound⟩, hMissed, hFirst, (hCrowded hMissed ⟨1, hFirst⟩).2 hStrict⟩

end Cache

end TreeTemplate
