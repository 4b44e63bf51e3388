/-
TreeTemplate.Proofs.Outcome — results and failures.

* `exists_of_map_eq_ok`, `exists_of_bind_eq_ok` — what a result was made of.
* `bind_congr_of_ok` — what follows a step counts where the step has a result.
* `mapError_eq_ok_iff` — a result does not depend on how errors are told.
* `Outcomes` — related results, or the same failure.
-/
namespace TreeTemplate

/-- What a result was made of. -/
theorem exists_of_map_eq_ok {ε α β : Type} {f : α → β} {x : Except ε α} {b : β}
    (h : x.map f = .ok b) : ∃ a, x = .ok a ∧ f a = b := by
  cases x with
  | error e => cases h
  | ok a => exact ⟨a, rfl, Except.ok.inj h⟩

/-- The results of two steps. -/
theorem exists_of_bind_eq_ok {ε α β : Type} {x : Except ε α} {f : α → Except ε β} {b : β}
    (h : x >>= f = .ok b) : ∃ a, x = .ok a ∧ f a = .ok b := by
  cases x with
  | error e => cases h
  | ok a => exact ⟨a, rfl, h⟩

/-- What comes after a step counts for the results that the step has. -/
theorem bind_congr_of_ok {ε α β : Type} {x : Except ε α} {f g : α → Except ε β}
    (h : ∀ a, x = .ok a → f a = g a) : x >>= f = x >>= g := by
  cases x with
  | error e => rfl
  | ok a => exact h a rfl

theorem mapError_eq_ok_iff {ε ε' α : Type} {f : ε → ε'} {x : Except ε α} {a : α} :
    x.mapError f = .ok a ↔ x = .ok a := by
  cases x with
  | error e => exact iff_of_false nofun nofun
  | ok b =>
    exact ⟨fun h => congrArg Except.ok (Except.ok.inj h),
      fun h => congrArg Except.ok (Except.ok.inj h)⟩

/-- Related results, or the same error. -/
inductive Outcomes {ε α β : Type} (results : α → β → Prop) : Except ε α → Except ε β → Prop where
  | ok {a : α} {b : β} : results a b → Outcomes results (.ok a) (.ok b)
  | error (e : ε) : Outcomes results (.error e) (.error e)

theorem Outcomes.refl {ε α : Type} {results : α → α → Prop} (h : ∀ a, results a a)
    (x : Except ε α) : Outcomes results x x := by
  cases x with
  | ok a => exact .ok (h a)
  | error e => exact .error e

theorem Outcomes.map {ε α β γ δ : Type} {results : α → β → Prop} {results' : γ → δ → Prop}
    {f : α → γ} {g : β → δ} {x : Except ε α} {y : Except ε β} (h : Outcomes results x y)
    (hMap : ∀ a b, results a b → results' (f a) (g b)) :
    Outcomes results' (x.map f) (y.map g) := by
  cases h with
  | ok hab => exact .ok (hMap _ _ hab)
  | error e => exact .error e

end TreeTemplate
