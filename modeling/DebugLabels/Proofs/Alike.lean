import DebugLabels.Logged

/-!
# Outcomes that are alike

Two runs of a chain of steps are compared step by step.  Two outcomes are `Alike` if both are values
that are related, or both are failures that are.  Chains of steps are alike if their steps are
(`Alike.bind`), so a comparison needs one lemma for each step.
-/

namespace DebugLabels

variable {α β γ δ : Type} {S : Failure → Failure → Prop} {R : α → β → Prop} {Q : γ → δ → Prop}

/-- Both outcomes are values that are related by `R`, or both are failures that are by `S`. -/
inductive Alike (S : Failure → Failure → Prop) (R : α → β → Prop) :
    Except Failure α → Except Failure β → Prop
  | ok {a : α} {b : β} (h : R a b) : Alike S R (.ok a) (.ok b)
  | error {failure failure' : Failure} (h : S failure failure') :
    Alike S R (.error failure) (.error failure')

namespace Alike

/-- Chains of two steps are alike if the first steps are, and the second ones on their values. -/
theorem bind {first : Except Failure α} {first' : Except Failure β} {next : α → Except Failure γ}
    {next' : β → Except Failure δ} (h : Alike S R first first')
    (hnext : ∀ a b, first = .ok a → first' = .ok b → R a b → Alike S Q (next a) (next' b)) :
    Alike S Q (first >>= next) (first' >>= next') := by
  cases h with
  | ok h => exact hnext _ _ rfl rfl h
  | error h => exact .error h

/-- If the values of the first steps are the same, only the failures can differ. -/
theorem bind_eq {first first' : Except Failure α} {next : α → Except Failure γ}
    {next' : α → Except Failure δ} (h : Alike S Eq first first')
    (hnext : ∀ a, first = .ok a → first' = .ok a → Alike S Q (next a) (next' a)) :
    Alike S Q (first >>= next) (first' >>= next') :=
  h.bind fun a _ hfirst hfirst' hab => hab ▸ hnext a hfirst (hab ▸ hfirst')

theorem map {step : Except Failure α} {step' : Except Failure β} {f : α → γ} {g : β → δ}
    (h : Alike S R step step') (hfg : ∀ a b, R a b → Q (f a) (g b)) :
    Alike S Q (f <$> step) (g <$> step') := by
  cases h with
  | ok h => exact .ok (hfg _ _ h)
  | error h => exact .error h

theorem map_eq {step step' : Except Failure α} (f : α → γ) (h : Alike S Eq step step') :
    Alike S Eq (f <$> step) (f <$> step') :=
  h.map fun _ _ => congrArg f

/-- Two outcomes that are alike are one value, or two failures. -/
theorem exists_eq_or_exists {step step' : Except Failure α} (h : Alike S Eq step step') :
    (∃ value, step = .ok value ∧ step' = .ok value) ∨
      ∃ failure failure', step = .error failure ∧ step' = .error failure' ∧ S failure failure' := by
  cases h with
  | ok h => exact Or.inl ⟨_, rfl, h ▸ rfl⟩
  | error h => exact Or.inr ⟨_, _, rfl, rfl, h⟩

theorem of_error {failure failure' : Failure}
    (h : Alike S R (.error failure : Except Failure α) (.error failure')) : S failure failure' := by
  cases h with
  | error h => exact h

end Alike
end DebugLabels
