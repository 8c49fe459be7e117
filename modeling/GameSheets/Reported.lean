/-
  Results with the events on the way to them.

  A computation reports events and then succeeds or fails; the events of a failed one are kept.
  The outcome of a sequence of computations depends on their outcomes alone, never on the events.
-/
import GameSheets.Event

namespace GameSheets

/-- An outcome, and the events that were reported before it was known. -/
structure Reported (ε α : Type) where
  events : List Event
  outcome : Except ε α

namespace Reported

variable {ε ε' α β : Type}

/-- Succeeds without a report. -/
def done (value : α) : Reported ε α :=
  ⟨[], .ok value⟩

/-- The second computation runs on the value of the first, unless that failed. -/
def andThen (first : Reported ε α) (second : α → Reported ε β) : Reported ε β :=
  match first.outcome with
  | .error cause => ⟨first.events, .error cause⟩
  | .ok value => ⟨first.events ++ (second value).events, (second value).outcome⟩

instance : Monad (Reported ε) where
  pure := done
  bind := andThen

/-- An outcome without a report. -/
def lift (outcome : Except ε α) : Reported ε α :=
  ⟨[], outcome⟩

/-- Reports events. -/
def report (events : List Event) : Reported ε Unit :=
  ⟨events, .ok ()⟩

/-- The same computation with its error seen as one of a wider kind. -/
def mapError (widen : ε → ε') (computation : Reported ε α) : Reported ε' α :=
  ⟨computation.events, computation.outcome.mapError widen⟩

/-- Runs a computation on every item in order, up to the first failure. -/
def forEach (run : α → Reported ε β) : List α → Reported ε (List β)
  | [] => done []
  | item :: rest => do
    let value ← run item
    let others ← forEach run rest
    return value :: others

@[simp] theorem outcome_done (value : α) : (done value : Reported ε α).outcome = .ok value := rfl

@[simp] theorem outcome_pure (value : α) : (pure value : Reported ε α).outcome = .ok value := rfl

@[simp] theorem outcome_lift (outcome : Except ε α) : (lift outcome).outcome = outcome := rfl

@[simp] theorem outcome_report (events : List Event) :
    (report events : Reported ε Unit).outcome = .ok () := rfl

/-- The outcome of a sequence is the sequence of the outcomes. -/
@[simp] theorem outcome_bind (first : Reported ε α) (second : α → Reported ε β) :
    (first >>= second).outcome = first.outcome >>= fun value => (second value).outcome := by
  show (andThen first second).outcome = _
  unfold andThen
  cases first.outcome <;> rfl

@[simp] theorem outcome_mapError (widen : ε → ε') (computation : Reported ε α) :
    (computation.mapError widen).outcome = computation.outcome.mapError widen := rfl

/-- Events of a sequence: those of the first, then those of the second if it runs. -/
theorem events_bind (first : Reported ε α) (second : α → Reported ε β) :
    (first >>= second).events =
      first.events ++
        (match first.outcome with
        | .error _ => []
        | .ok value => (second value).events) := by
  show (andThen first second).events = _
  unfold andThen
  cases first.outcome <;> simp

/-- Running a computation on every item succeeds or fails as its outcomes do. -/
theorem outcome_forEach (run : α → Reported ε β) (items : List α) :
    (forEach run items).outcome = items.mapM fun item => (run item).outcome := by
  induction items with
  | nil => rfl
  | cons item rest ih =>
    simp only [forEach, outcome_bind, List.mapM_cons, ih]
    rfl

end Reported

end GameSheets
