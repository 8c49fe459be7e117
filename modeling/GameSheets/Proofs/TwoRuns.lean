/-
  Two runs side by side.

  Two runs are alike when they report the same events and then fail with the same error or succeed
  with related values.  Alike runs stay alike when alike runs follow them, and they become equal
  once what follows does not tell related values apart.
-/
import Mathlib.Data.List.Forall2
import GameSheets.Reported

namespace GameSheets.Reported

variable {ε ε' α β γ δ : Type}

/-- The runs report the same events, and fail alike or succeed with related values. -/
inductive Alike (R : α → β → Prop) : Reported ε α → Reported ε β → Prop
  | ok {events : List Event} {value : α} {other : β} (h : R value other) :
      Alike R ⟨events, .ok value⟩ ⟨events, .ok other⟩
  | error {events : List Event} {cause : ε} :
      Alike R ⟨events, .error cause⟩ ⟨events, .error cause⟩

namespace Alike

variable {R : α → β → Prop} {S : γ → δ → Prop}

theorem done {value : α} {other : β} (h : R value other) :
    Alike R (pure value : Reported ε α) (pure other) :=
  .ok h

theorem refl {R : α → α → Prop} (hR : ∀ value, R value value) (run : Reported ε α) :
    Alike R run run := by
  obtain ⟨events, outcome⟩ := run
  cases outcome with
  | error cause => exact .error
  | ok value => exact .ok (hR value)

/-- Alike runs followed by alike runs are alike. -/
theorem bind {first : Reported ε α} {second : Reported ε β} (h : Alike R first second)
    {next : α → Reported ε γ} {otherNext : β → Reported ε δ}
    (hnext : ∀ value other, first.outcome = .ok value → R value other →
      Alike S (next value) (otherNext other)) :
    Alike S (first >>= next) (second >>= otherNext) := by
  cases h with
  | error => exact .error
  | @ok events value other hvalue =>
    have hruns := hnext value other rfl hvalue
    show Alike S ⟨events ++ (next value).events, (next value).outcome⟩
      ⟨events ++ (otherNext other).events, (otherNext other).outcome⟩
    generalize next value = run at hruns ⊢
    generalize otherNext other = otherRun at hruns ⊢
    cases hruns with
    | error => exact .error
    | ok h => exact .ok h

/-- Runs that are alike with equal values are equal. -/
theorem eq {first second : Reported ε α} (h : Alike (· = ·) first second) : first = second := by
  cases h with
  | error => rfl
  | ok h => rw [h]

/-- Alike runs followed by runs that do not tell their values apart are equal. -/
theorem bind_eq {first : Reported ε α} {second : Reported ε β} (h : Alike R first second)
    {next : α → Reported ε γ} {otherNext : β → Reported ε γ}
    (hnext : ∀ value other, first.outcome = .ok value → R value other →
      next value = otherNext other) :
    first >>= next = second >>= otherNext := by
  refine (h.bind ?_).eq
  intro value other hvalue hrelated
  rw [hnext value other hvalue hrelated]
  exact refl (fun _ => rfl) _

theorem mapError {first : Reported ε α} {second : Reported ε β} (h : Alike R first second)
    (widen : ε → ε') : Alike R (first.mapError widen) (second.mapError widen) := by
  cases h with
  | error => exact .error
  | ok h => exact .ok h

end Alike

/-- What follows a run matters on its value alone. -/
theorem bind_congr {first : Reported ε α} {next otherNext : α → Reported ε β}
    (h : ∀ value, first.outcome = .ok value → next value = otherNext value) :
    first >>= next = first >>= otherNext := by
  refine (Alike.refl (fun _ => rfl) first).bind_eq ?_
  rintro value _ hvalue rfl
  exact h value hvalue

/-- Passes are equal where their steps are, item by item. -/
theorem forEach_congr {run : α → Reported ε γ} {otherRun : β → Reported ε γ} {items : List α}
    {others : List β}
    (h : List.Forall₂ (fun item other => run item = otherRun other) items others) :
    forEach run items = forEach otherRun others := by
  induction h with
  | nil => rfl
  | cons hhead _ ih => rw [forEach, forEach, hhead, ih]

end GameSheets.Reported
