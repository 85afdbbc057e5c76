import Mathlib.Data.List.Basic

/-!
Checks in a fixed order. A check tells a failure and the condition under which it arises. Where
several conditions hold the first check decides what is told, and where none holds nothing fails.
-/

namespace PostalAddress

structure Check (Failure : Type) where
  failure : Failure
  arises : Prop

namespace Check

variable {Failure Raised Value Result : Type}

def NoneArises (checks : List (Check Failure)) : Prop := ∀ check ∈ checks, ¬check.arises

def FirstFailure (checks : List (Check Failure)) (failure : Failure) : Prop :=
  ∃ before check behind, checks = before ++ check :: behind ∧
    NoneArises before ∧ check.arises ∧ check.failure = failure

/-- The outcome is an error exactly if some check arises, and then it is the first one's. -/
def Decide (checks : List (Check Failure)) : Except Failure Value → Prop
  | .error failure => FirstFailure checks failure
  | .ok _ => NoneArises checks

theorem none_arises_cons (check : Check Failure) (checks : List (Check Failure)) :
    NoneArises (check :: checks) ↔ ¬check.arises ∧ NoneArises checks :=
  List.forall_mem_cons

theorem none_arises_append (left right : List (Check Failure)) :
    NoneArises (left ++ right) ↔ NoneArises left ∧ NoneArises right :=
  List.forall_mem_append

theorem none_arises_map {Item : Type} (check : Item → Check Failure) (items : List Item) :
    NoneArises (items.map check) ↔ ∀ item ∈ items, ¬(check item).arises :=
  List.forall_mem_map

theorem first_failure_cons (check : Check Failure) (checks : List (Check Failure))
    (failure : Failure) :
    FirstFailure (check :: checks) failure ↔
      check.arises ∧ check.failure = failure ∨ ¬check.arises ∧ FirstFailure checks failure := by
  constructor
  · intro first
    rcases first with ⟨before, found, behind, parted, noneBefore, arises, told⟩
    cases before with
    | nil =>
        cases parted
        exact .inl ⟨arises, told⟩
    | cons head rest =>
        cases parted
        have noneArises := (none_arises_cons _ _).1 noneBefore
        exact .inr ⟨noneArises.1, rest, found, behind, rfl, noneArises.2, arises, told⟩
  · intro cases
    rcases cases with ⟨arises, told⟩ | ⟨passed, before, found, behind, parted, noneBefore, first⟩
    · exact ⟨[], check, checks, rfl, List.forall_mem_nil _, arises, told⟩
    · refine ⟨check :: before, found, behind, ?_, ?_, first⟩
      · rw [parted]
        rfl
      · exact (none_arises_cons _ _).2 ⟨passed, noneBefore⟩

theorem first_failure_unique (checks : List (Check Failure)) (left right : Failure)
    (first : FirstFailure checks left) (other : FirstFailure checks right) : left = right := by
  induction checks with
  | nil =>
      rcases first with ⟨before, _, _, parted, _⟩
      cases before <;> cases parted
  | cons check checks induction =>
      rw [first_failure_cons] at first other
      by_cases arises : check.arises
      · simp only [arises, true_and, not_true_eq_false, false_and, or_false] at first other
        exact first.symm.trans other
      · simp only [arises, false_and, not_false_eq_true, true_and, false_or] at first other
        exact induction first other

theorem first_failure_arises (checks : List (Check Failure)) (failure : Failure)
    (first : FirstFailure checks failure) : ¬NoneArises checks := by
  intro none
  rcases first with ⟨before, check, behind, parted, _, arises, _⟩
  exact none check (by simp [parted]) arises

section Search

variable {Item : Type} (items : List Item) (isBad : Item → Bool) (arises : Item → Prop)
  (agrees : ∀ item, isBad item = true ↔ arises item) (failure : Item → Failure)

include agrees

theorem first_failure_of_find (item : Item) (found : items.find? isBad = some item) :
    FirstFailure (items.map fun item => ⟨failure item, arises item⟩) (failure item) := by
  let check : Item → Check Failure := fun item => ⟨failure item, arises item⟩
  rcases List.find?_eq_some_iff_append.1 found with ⟨bad, before, behind, parted, good⟩
  refine ⟨before.map check, check item, behind.map check, ?_, ?_, (agrees item).1 bad, rfl⟩
  · rw [parted, List.map_append, List.map_cons]
  · apply (none_arises_map check before).2
    intro other member arisesThere
    have goodThere := good other member
    rw [(agrees other).2 arisesThere] at goodThere
    cases goodThere

theorem none_arises_of_find (found : items.find? isBad = none) :
    NoneArises (items.map fun item => (⟨failure item, arises item⟩ : Check Failure)) := by
  apply (none_arises_map _ items).2
  intro item member arisesThere
  exact List.find?_eq_none.1 found item member ((agrees item).2 arisesThere)

end Search

namespace Decide

variable {checks more : List (Check Failure)} {outcome : Except Failure Value}

theorem error_iff (decided : Decide checks outcome) (failure : Failure) :
    outcome = .error failure ↔ FirstFailure checks failure := by
  cases outcome with
  | error told =>
      constructor
      · intro same
        cases same
        exact decided
      · intro first
        rw [first_failure_unique checks told failure decided first]
  | ok value =>
      constructor
      · intro impossible
        cases impossible
      · intro first
        exact absurd decided (first_failure_arises checks failure first)

theorem ok_iff (decided : Decide checks outcome) :
    (∃ value, outcome = .ok value) ↔ NoneArises checks := by
  cases outcome with
  | ok value => exact ⟨fun _ => decided, fun _ => ⟨value, rfl⟩⟩
  | error failure =>
      constructor
      · intro impossible
        rcases impossible with ⟨_, same⟩
        cases same
      · intro none
        exact absurd none (first_failure_arises checks failure decided)

theorem map_error_iff {Told : Type} (decided : Decide checks outcome) (tell : Failure → Told)
    (told : Told) :
    outcome.mapError tell = .error told ↔
      ∃ failure, FirstFailure checks failure ∧ told = tell failure := by
  simp only [← decided.error_iff]
  cases outcome with
  | error failure => simp [Except.mapError, eq_comm]
  | ok value => simp [Except.mapError]

theorem map (decided : Decide checks outcome) (change : Value → Result) :
    Decide checks (outcome.map change) := by
  cases outcome <;> exact decided

theorem cons_of_arises (failure : Failure) (arises : Prop) (holds : arises) :
    Decide (⟨failure, arises⟩ :: checks) (.error failure : Except Failure Value) :=
  (first_failure_cons _ _ _).2 (.inl ⟨holds, rfl⟩)

theorem cons_of_not (check : Check Failure) (passed : ¬check.arises)
    (decided : Decide checks outcome) : Decide (check :: checks) outcome := by
  cases outcome with
  | error failure => exact (first_failure_cons _ _ _).2 (.inr ⟨passed, decided⟩)
  | ok value => exact (none_arises_cons _ _).2 ⟨passed, decided⟩

theorem append_error (failure : Failure)
    (decided : Decide checks (.error failure : Except Failure Value)) :
    Decide (checks ++ more) (.error failure : Except Failure Result) := by
  rcases decided with ⟨before, check, behind, parted, first⟩
  exact ⟨before, check, behind ++ more, by rw [parted, List.append_assoc]; rfl, first⟩

theorem append_ok (passed : NoneArises checks) (decided : Decide more outcome) :
    Decide (checks ++ more) outcome := by
  induction checks with
  | nil => exact decided
  | cons check checks induction =>
      have parts := (none_arises_cons _ _).1 passed
      exact cons_of_not check parts.1 (induction parts.2)

/-- What comes after a step that may fail is checked after it. -/
theorem bind {step : Except Failure Value} {next : Value → Except Failure Result}
    (decided : Decide checks step)
    (nextDecided : ∀ value, step = .ok value → Decide more (next value)) :
    Decide (checks ++ more) (step.bind next) := by
  cases step with
  | error failure => exact append_error failure decided
  | ok value => exact append_ok decided (nextDecided value rfl)

section Told

variable (tell : Raised → Failure) {step : Except Raised Value}
  (decided : Decide checks (step.mapError tell))

include decided

theorem map_told (change : Value → Result) : Decide checks ((step.map change).mapError tell) := by
  cases step <;> exact decided

theorem bind_told {next : Value → Except Raised Result}
    (nextDecided : ∀ value, step = .ok value → Decide more ((next value).mapError tell)) :
    Decide (checks ++ more) ((step.bind next).mapError tell) := by
  cases step with
  | error raised => exact append_error (tell raised) decided
  | ok value => exact append_ok decided (nextDecided value rfl)

end Told

end Decide

end Check

end PostalAddress
