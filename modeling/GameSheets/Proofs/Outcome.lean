/-
  Outcomes of passes over a list.

  A pass runs a step that may fail on every item.  It succeeds exactly where every step succeeds,
  and then its results are those of the steps, in order: `List.Forall₂` between items and results.
  The induction over the pass is made here, once; what is said of a pass elsewhere is said of one
  step.  The reports of a pass that succeeds are those of all its steps.
-/
import Mathlib.Data.List.Forall2
import GameSheets.Reported

namespace GameSheets.Outcome

variable {ε ε' α β : Type}

/-! ## Single steps -/

theorem bind_eq_ok {first : Except ε α} {second : α → Except ε β} {result : β} :
    first >>= second = .ok result ↔ ∃ value, first = .ok value ∧ second value = .ok result := by
  cases first with
  | error cause => simp [bind, Except.bind]
  | ok value => simp [bind, Except.bind]

theorem bind_eq_error {first : Except ε α} {second : α → Except ε β} {cause : ε} :
    first >>= second = .error cause ↔
      first = .error cause ∨ ∃ value, first = .ok value ∧ second value = .error cause := by
  cases first with
  | error other => simp [bind, Except.bind]
  | ok value => simp [bind, Except.bind]

theorem bind_pure_eq_error {first : Except ε α} {f : α → β} {cause : ε} :
    (first >>= fun value => pure (f value)) = .error cause ↔ first = .error cause := by
  cases first with
  | error other => simp [bind, Except.bind]
  | ok value => simp [bind, Except.bind, pure, Except.pure]

theorem map_eq_ok {f : α → β} {outcome : Except ε α} {result : β} :
    outcome.map f = .ok result ↔ ∃ value, outcome = .ok value ∧ f value = result := by
  cases outcome with
  | error cause => simp [Except.map]
  | ok value => simp [Except.map]

theorem map_eq_error {f : α → β} {outcome : Except ε α} {cause : ε} :
    outcome.map f = .error cause ↔ outcome = .error cause := by
  cases outcome with
  | error other => simp [Except.map]
  | ok value => simp [Except.map]

theorem mapError_eq_ok {widen : ε → ε'} {outcome : Except ε α} {result : α} :
    outcome.mapError widen = .ok result ↔ outcome = .ok result := by
  cases outcome with
  | error cause => simp [Except.mapError]
  | ok value => simp [Except.mapError]

theorem mapError_eq_error {widen : ε → ε'} {outcome : Except ε α} {cause : ε'} :
    outcome.mapError widen = .error cause ↔
      ∃ inner, outcome = .error inner ∧ widen inner = cause := by
  cases outcome with
  | error inner => simp [Except.mapError]
  | ok value => simp [Except.mapError]

/-- What does not fail succeeds. -/
theorem exists_ok_iff {outcome : Except ε α} :
    (∃ value, outcome = .ok value) ↔ ∀ cause, outcome ≠ .error cause := by
  cases outcome with
  | error cause => simp
  | ok value => simp

/-! ## Passes -/

/-- A pass succeeds with the results of its steps in order. -/
theorem mapM_eq_ok {run : α → Except ε β} {items : List α} {results : List β} :
    items.mapM run = .ok results ↔
      List.Forall₂ (fun item result => run item = .ok result) items results := by
  induction items generalizing results with
  | nil =>
    rw [List.mapM_nil, List.forall₂_nil_left_iff]
    constructor
    · intro h
      exact (Except.ok.inj h).symm
    · rintro rfl
      rfl
  | cons item rest ih =>
    rw [List.mapM_cons, bind_eq_ok, List.forall₂_cons_left_iff]
    constructor
    · rintro ⟨result, hitem, htail⟩
      obtain ⟨others, hrest, hpure⟩ := bind_eq_ok.mp htail
      exact ⟨result, others, hitem, ih.mp hrest, (Except.ok.inj hpure).symm⟩
    · rintro ⟨result, others, hitem, hrest, rfl⟩
      exact ⟨result, hitem, bind_eq_ok.mpr ⟨others, ih.mpr hrest, rfl⟩⟩

/-- A pass fails with the error of the first step that fails. -/
theorem mapM_eq_error {run : α → Except ε β} {items : List α} {cause : ε} :
    items.mapM run = .error cause ↔
      ∃ before item after, items = before ++ item :: after ∧
        (∀ other ∈ before, ∃ result, run other = .ok result) ∧ run item = .error cause := by
  induction items with
  | nil =>
    rw [List.mapM_nil]
    constructor
    · rintro ⟨⟩
    · rintro ⟨before, item, after, heq, -⟩
      simp at heq
  | cons first rest ih =>
    rw [List.mapM_cons]
    cases hfirst : run first with
    | error other =>
      constructor
      · rintro ⟨⟩
        exact ⟨[], first, rest, rfl, fun _ h => absurd h List.not_mem_nil, hfirst⟩
      · rintro ⟨before, item, after, heq, hbefore, hitem⟩
        cases before with
        | nil =>
          obtain ⟨rfl, -⟩ := List.cons.inj heq
          rw [hfirst] at hitem
          obtain rfl := Except.error.inj hitem
          rfl
        | cons other before =>
          -- the first step would have succeeded
          obtain ⟨rfl, -⟩ := List.cons.inj heq
          obtain ⟨result, hresult⟩ := hbefore first List.mem_cons_self
          rw [hfirst] at hresult
          cases hresult
    | ok value =>
      have hrest : (Except.ok value >>= fun value => do
          let others ← rest.mapM run
          pure (value :: others)) = Except.error cause ↔ rest.mapM run = .error cause := by
        cases rest.mapM run with
        | error other => exact Iff.rfl
        | ok others =>
          constructor
          · rintro ⟨⟩
          · rintro ⟨⟩
      rw [hrest, ih]
      constructor
      · rintro ⟨before, item, after, rfl, hbefore, hitem⟩
        refine ⟨first :: before, item, after, rfl, ?_, hitem⟩
        intro other hother
        rcases List.mem_cons.mp hother with rfl | hother
        · exact ⟨value, hfirst⟩
        · exact hbefore other hother
      · rintro ⟨before, item, after, heq, hbefore, hitem⟩
        cases before with
        | nil =>
          obtain ⟨rfl, -⟩ := List.cons.inj heq
          rw [hfirst] at hitem
          cases hitem
        | cons other before =>
          obtain ⟨rfl, rfl⟩ := List.cons.inj heq
          exact ⟨before, item, after, rfl,
            fun third hthird => hbefore third (List.mem_cons_of_mem _ hthird), hitem⟩

/-- A pass fails at the first place whose step fails. -/
theorem exists_getElem?_of_mapM_eq_error {run : α → Except ε β} {items : List α} {cause : ε}
    (h : items.mapM run = .error cause) :
    ∃ (i : Nat) (item : α), items[i]? = some item ∧ run item = .error cause ∧
      ∀ j < i, ∀ other, items[j]? = some other → ∃ result, run other = .ok result := by
  obtain ⟨before, item, after, rfl, hbefore, hitem⟩ := mapM_eq_error.mp h
  refine ⟨before.length, item, by simp, hitem, ?_⟩
  intro j hj other hother
  rw [List.getElem?_append_left hj] at hother
  exact hbefore other (List.mem_of_getElem? hother)

/-- A reporting pass succeeds with the results of its steps in order. -/
theorem forEach_eq_ok {run : α → Reported ε β} {items : List α} {results : List β} :
    (Reported.forEach run items).outcome = .ok results ↔
      List.Forall₂ (fun item result => (run item).outcome = .ok result) items results := by
  rw [Reported.outcome_forEach, mapM_eq_ok]

/-- Passes succeed or fail alike where their steps do, item by item. -/
theorem mapM_congr {γ : Type} {run : α → Except ε γ} {otherRun : β → Except ε γ}
    {items : List α} {others : List β}
    (h : List.Forall₂ (fun item other => otherRun other = run item) items others) :
    others.mapM otherRun = items.mapM run := by
  induction h with
  | nil => rfl
  | cons hhead _ ih => rw [List.mapM_cons, List.mapM_cons, hhead, ih]

/-- A pass that has no result for some items is a pass over the other ones. -/
theorem mapM_filter {runs : α → Bool} {run : α → Except ε β} {runSome : α → Except ε (Option β)}
    {items : List α} (hrun : ∀ item ∈ items, runs item = true → runSome item = (run item).map some)
    (hskip : ∀ item ∈ items, runs item = false → runSome item = .ok none) :
    (items.mapM runSome).map (·.filterMap id) = (items.filter runs).mapM run := by
  induction items with
  | nil => rfl
  | cons item rest ih =>
    obtain ⟨hrunHead, hrunRest⟩ := List.forall_mem_cons.mp hrun
    obtain ⟨hskipHead, hskipRest⟩ := List.forall_mem_cons.mp hskip
    have hrest := ih hrunRest hskipRest
    rw [List.mapM_cons]
    cases hruns : runs item with
    | false =>
      rw [List.filter_cons_of_neg (by rw [hruns]; decide), hskipHead hruns, ← hrest]
      cases rest.mapM runSome <;> rfl
    | true =>
      rw [List.filter_cons_of_pos hruns, List.mapM_cons, hrunHead hruns, ← hrest]
      cases run item with
      | error cause => rfl
      | ok value => cases rest.mapM runSome <;> rfl

/-- A result of a pass is the result of a step on some item. -/
theorem exists_of_mem_right {R : α → β → Prop} {items : List α} {results : List β}
    (h : List.Forall₂ R items results) {result : β} (hmem : result ∈ results) :
    ∃ item ∈ items, R item result := by
  induction h with
  | nil => exact absurd hmem List.not_mem_nil
  | cons hhead _ ih =>
    rcases List.mem_cons.mp hmem with rfl | htail
    · exact ⟨_, List.mem_cons_self, hhead⟩
    · obtain ⟨item, hitem, hR⟩ := ih htail
      exact ⟨item, List.mem_cons_of_mem _ hitem, hR⟩

/-- An item of a pass has the result of its step. -/
theorem exists_of_mem_left {R : α → β → Prop} {items : List α} {results : List β}
    (h : List.Forall₂ R items results) {item : α} (hmem : item ∈ items) :
    ∃ result ∈ results, R item result :=
  exists_of_mem_right h.flip hmem

/-- Each step of a pass is made on an item of the pass. -/
theorem forall₂_mem_left {R : α → β → Prop} {items : List α} {results : List β}
    (h : List.Forall₂ R items results) :
    List.Forall₂ (fun item result => item ∈ items ∧ R item result) items results :=
  (List.forall₂_and_left _ _).mpr ⟨fun _ hitem => hitem, h⟩

/-- Each result of a pass is one of its results. -/
theorem forall₂_mem_right {R : α → β → Prop} {items : List α} {results : List β}
    (h : List.Forall₂ R items results) :
    List.Forall₂ (fun item result => result ∈ results ∧ R item result) items results :=
  (forall₂_mem_left h.flip).flip

/-- What is the same of every item and its result is the same of all of them in order. -/
theorem map_eq_map {γ : Type} {R : α → β → Prop} {items : List α} {results : List β}
    (h : List.Forall₂ R items results) {f : α → γ} {g : β → γ}
    (hsame : ∀ item result, R item result → f item = g result) :
    items.map f = results.map g := by
  rw [← List.forall₂_eq_eq_eq, List.forall₂_map_left_iff, List.forall₂_map_right_iff]
  exact h.imp hsame

/-- Where a step has one result, the results of a pass are pairwise related exactly where the
results of its items are. -/
theorem pairwise_iff_of_forall₂ {R : α → β → Prop}
    (hunique : ∀ item result other, R item result → R item other → result = other)
    {related : β → β → Prop} {items : List α} {results : List β}
    (h : List.Forall₂ R items results) :
    results.Pairwise related ↔ items.Pairwise fun item other =>
      ∀ result another, R item result → R other another → related result another := by
  induction h with
  | nil => exact ⟨fun _ => .nil, fun _ => .nil⟩
  | cons hhead hrest ih =>
    rw [List.pairwise_cons, List.pairwise_cons, ih]
    refine and_congr_left' ?_
    constructor
    · intro hall other hother result another hresult hanother
      obtain ⟨last, hlast, hR⟩ := exists_of_mem_left hrest hother
      rw [hunique _ _ _ hresult hhead, hunique _ _ _ hanother hR]
      exact hall last hlast
    · intro hall another hanother
      obtain ⟨other, hother, hR⟩ := exists_of_mem_right hrest hanother
      exact hall other hother _ another hhead hR

/-- A pass succeeds where all its steps do. -/
theorem exists_mapM_eq_ok_iff {run : α → Except ε β} {items : List α} :
    (∃ results, items.mapM run = .ok results) ↔
      ∀ item ∈ items, ∃ result, run item = .ok result := by
  constructor
  · rintro ⟨results, hresults⟩ item hitem
    obtain ⟨result, -, hresult⟩ := exists_of_mem_left (mapM_eq_ok.mp hresults) hitem
    exact ⟨result, hresult⟩
  · intro hall
    rw [exists_ok_iff]
    intro cause herror
    obtain ⟨before, item, after, rfl, -, hitem⟩ := mapM_eq_error.mp herror
    obtain ⟨result, hresult⟩ := hall item (List.mem_append_right _ List.mem_cons_self)
    rw [hitem] at hresult
    cases hresult

/-- An item of a pass is paired with a result of its step. -/
theorem exists_mem_zip {R : α → β → Prop} {items : List α} {results : List β}
    (h : List.Forall₂ R items results) {item : α} (hmem : item ∈ items) :
    ∃ result, (item, result) ∈ items.zip results ∧ R item result := by
  induction h with
  | nil => exact absurd hmem List.not_mem_nil
  | cons hhead _ ih =>
    rw [List.zip_cons_cons]
    rcases List.mem_cons.mp hmem with rfl | htail
    · exact ⟨_, List.mem_cons_self, hhead⟩
    · obtain ⟨result, hresult, hR⟩ := ih htail
      exact ⟨result, List.mem_cons_of_mem _ hresult, hR⟩

/-- The result at a place of a pass is that of the item there. -/
theorem exists_of_getElem?_right {R : α → β → Prop} {items : List α} {results : List β}
    (h : List.Forall₂ R items results) {i : Nat} {result : β}
    (hresult : results[i]? = some result) : ∃ item, items[i]? = some item ∧ R item result := by
  induction h generalizing i with
  | nil => cases hresult
  | cons hhead _ ih =>
    cases i with
    | zero =>
      obtain rfl := Option.some.inj hresult
      exact ⟨_, rfl, hhead⟩
    | succ i => exact ih hresult

/-! ## Passes that check -/

/-- A pass that checks each item before it makes something of it succeeds where all checks do, with
what is made of the items. -/
theorem checked_eq_ok_iff {γ : Type} {check : α → Except ε Unit} {make : α → β}
    {whole : List β → γ} {items : List α} {result : γ} :
    (do
      let made ← items.mapM fun item => do
        check item
        return make item
      return whole made) = Except.ok result ↔
      (∀ item ∈ items, check item = .ok ()) ∧ result = whole (items.map make) := by
  constructor
  · intro hresult
    obtain ⟨made, hmade, hwhole⟩ := bind_eq_ok.mp hresult
    have hsteps : List.Forall₂ (fun item part => check item = .ok () ∧ make item = part) items
        made := by
      refine (mapM_eq_ok.mp hmade).imp fun item part hstep => ?_
      obtain ⟨⟨⟩, hcheck, hpart⟩ := bind_eq_ok.mp hstep
      exact ⟨hcheck, Except.ok.inj hpart⟩
    have hparts : items.map make = made :=
      List.forall₂_eq_eq_eq ▸
        List.forall₂_map_left_iff.mpr (hsteps.imp fun _ _ hstep => hstep.2)
    refine ⟨fun item hitem => ?_, ?_⟩
    · obtain ⟨_, -, hcheck, -⟩ := exists_of_mem_left hsteps hitem
      exact hcheck
    · rw [hparts]
      exact (Except.ok.inj hwhole).symm
  · rintro ⟨hall, rfl⟩
    have hmade : items.mapM (fun item => do
        check item
        return make item) = .ok (items.map make) := by
      rw [mapM_eq_ok, List.forall₂_map_right_iff, List.forall₂_same]
      intro item hitem
      exact bind_eq_ok.mpr ⟨(), hall item hitem, rfl⟩
    exact bind_eq_ok.mpr ⟨_, hmade, rfl⟩

/-- It fails with the error of the first check that fails. -/
theorem checked_eq_error {γ : Type} {check : α → Except ε Unit} {make : α → β}
    {whole : List β → γ} {items : List α} {cause : ε} :
    (do
      let made ← items.mapM fun item => do
        check item
        return make item
      return whole made) = Except.error cause ↔
      ∃ before item after, items = before ++ item :: after ∧
        (∀ other ∈ before, check other = .ok ()) ∧ check item = .error cause := by
  rw [bind_pure_eq_error, mapM_eq_error]
  have hok : ∀ item, (∃ result, (do check item; return make item) = Except.ok result) ↔
      check item = .ok () := by
    intro item
    cases check item with
    | error other => simp [bind, Except.bind]
    | ok value => simp [bind, Except.bind, pure, Except.pure]
  simp only [hok, bind_pure_eq_error]

/-! ## Errors -/

/-- Every error of the outcome has the property. -/
def FailsOnly (P : ε → Prop) (outcome : Except ε α) : Prop :=
  ∀ cause, outcome = .error cause → P cause

theorem failsOnly_ok {P : ε → Prop} {value : α} : FailsOnly P (.ok value : Except ε α) := by
  rintro cause ⟨⟩

theorem failsOnly_error {P : ε → Prop} {cause : ε} (h : P cause) :
    FailsOnly P (.error cause : Except ε α) := by
  rintro _ ⟨⟩
  exact h

/-- A sequence fails with the errors of its first step, or with those of its second step where the
first succeeds. -/
theorem FailsOnly.bind {P : ε → Prop} {first : Except ε α} {second : α → Except ε β}
    (h : FailsOnly P first) (hsecond : ∀ value, first = .ok value → FailsOnly P (second value)) :
    FailsOnly P (first >>= second) := by
  cases first with
  | error cause => exact failsOnly_error (h cause rfl)
  | ok value => exact hsecond value rfl

theorem FailsOnly.map {P : ε → Prop} {outcome : Except ε α} (h : FailsOnly P outcome)
    (f : α → β) : FailsOnly P (outcome.map f) := by
  cases outcome with
  | error cause => exact failsOnly_error (h cause rfl)
  | ok value => exact failsOnly_ok

theorem FailsOnly.mapError {P : ε' → Prop} {widen : ε → ε'} {outcome : Except ε α}
    (h : FailsOnly (fun cause => P (widen cause)) outcome) :
    FailsOnly P (outcome.mapError widen) := by
  cases outcome with
  | error cause => exact failsOnly_error (h cause rfl)
  | ok value => exact failsOnly_ok

/-- A pass fails with the errors of its steps. -/
theorem FailsOnly.mapM {P : ε → Prop} {run : α → Except ε β} {items : List α}
    (h : ∀ item ∈ items, FailsOnly P (run item)) : FailsOnly P (items.mapM run) := by
  induction items with
  | nil => exact failsOnly_ok
  | cons item rest ih =>
    obtain ⟨hhead, hrest⟩ := List.forall_mem_cons.mp h
    rw [List.mapM_cons]
    exact hhead.bind fun _ _ => (ih hrest).bind fun _ _ => failsOnly_ok

/-! ## Reports -/

/-- A sequence whose first run succeeds has the reports of both. -/
theorem events_bind_of_ok {first : Reported ε α} {second : α → Reported ε β} {value : α}
    (h : first.outcome = .ok value) :
    (first >>= second).events = first.events ++ (second value).events := by
  rw [Reported.events_bind, h]

/-- A reporting pass that succeeds has the reports of each of its steps. -/
theorem mem_events_forEach {run : α → Reported ε β} {items : List α} {results : List β}
    (h : (Reported.forEach run items).outcome = .ok results) {item : α} (hitem : item ∈ items)
    {event : Event} (hevent : event ∈ (run item).events) :
    event ∈ (Reported.forEach run items).events := by
  have hsteps := forEach_eq_ok.mp h
  clear h
  induction hsteps with
  | nil => cases hitem
  | @cons head result rest results hhead hrest ih =>
    have hothers : (Reported.forEach run rest).outcome = .ok results := forEach_eq_ok.mpr hrest
    rw [Reported.forEach, events_bind_of_ok hhead, events_bind_of_ok hothers]
    rcases List.mem_cons.mp hitem with rfl | htail
    · exact List.mem_append_left _ hevent
    · exact List.mem_append_right _ (List.mem_append_left _ (ih htail))

end GameSheets.Outcome
