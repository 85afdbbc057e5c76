import PostalAddress.Proofs.BlankValues

/-!
Which fields unit recovery changes. Storing units fills unit fields that were free and leaves every
other field as it is. The fragment then goes behind one identifier, that of the occupancy if there
is one, and last the city is written.
-/

namespace PostalAddress

def recoveredFields : List Component :=
  .city :: UnitFields.all.flatMap fun slot => [slot.designator, slot.identifier]

/-- A later bag that has all but the recovered fields from an earlier one. -/
def Bag.KeepsOthers (later earlier : Bag) : Prop :=
  ∀ component, component ∉ recoveredFields → later.get component = earlier.get component

/-- A later bag that differs from an earlier one only in recovered fields that were free. -/
def Bag.FillsFree (later earlier : Bag) : Prop :=
  ∀ component, later.get component = earlier.get component ∨
    component ∈ recoveredFields ∧ earlier.has component = false

namespace Bag.FillsFree

theorem refl (bag : Bag) : bag.FillsFree bag := fun _ => .inl rfl

theorem trans {latest later earlier : Bag} (newer : latest.FillsFree later)
    (older : later.FillsFree earlier) : latest.FillsFree earlier := by
  intro component
  rcases older component with same | free
  · rcases newer component with again | ⟨recovered, free⟩
    · exact .inl (again.trans same)
    · rw [Bag.has, value, same] at free
      exact .inr ⟨recovered, free⟩
  · exact .inr free

theorem set {later earlier : Bag} (fills : later.FillsFree earlier) (field : Component)
    (value : Text) (recovered : field ∈ recoveredFields) (free : earlier.has field = false) :
    (later.set field value).FillsFree earlier := by
  intro component
  by_cases same : component = field
  · rw [same]
    exact .inr ⟨recovered, free⟩
  · rw [get_set_other later field component value same]
    exact fills component

end Bag.FillsFree

theorem UnitFields.recovered (slot : UnitFields) (listed : slot ∈ all) :
    slot.designator ∈ recoveredFields ∧ slot.identifier ∈ recoveredFields := by
  revert slot
  decide

theorem store_unit_fills (bag : Bag) (designator identifier : Text) :
    (storeUnit bag designator identifier).FillsFree bag := by
  rw [storeUnit]
  split
  case h_1 => exact .refl bag
  case h_2 slot found =>
    have recovered := slot.recovered (List.mem_of_find?_eq_some found)
    have free := List.find?_some (p := fun slot : UnitFields => slot.isFree bag) found
    rw [UnitFields.isFree, Bool.and_eq_true, Bool.not_eq_true', Bool.not_eq_true'] at free
    have stored := (Bag.FillsFree.refl bag).set slot.designator designator recovered.1 free.1
    split
    case isTrue => exact stored
    case isFalse => exact stored.set slot.identifier identifier recovered.2 free.2

theorem take_segments_fills (bag : Bag) (segments : List Text) :
    (takeSegments bag segments).1.FillsFree bag := by
  fun_induction takeSegments bag segments with
  | case1 => exact .refl _
  | case2 => exact .refl _
  | case3 => exact .refl _
  | case4 bag segment rest _ _ designator identifier _ hypothesis =>
      exact hypothesis.trans (store_unit_fills bag designator identifier)
  | case5 _ _ _ _ _ _ hypothesis => exact hypothesis
  | case6 => exact .refl _

namespace CityRecovery

theorem take_designator_fills (recovery : CityRecovery Bag) :
    recovery.takeDesignator.store.FillsFree recovery.store := by
  simp only [takeDesignator]
  split
  case isTrue => exact .refl _
  case isFalse =>
    split
    case isTrue => exact store_unit_fills _ _ _
    case isFalse => split <;> exact .refl _

/-- The fragment belongs to the identifier of the occupancy, or to that of the larger unit if the
occupancy has none. -/
theorem open_identifier_cases (bag : Bag) (identifier : Component)
    (found : openIdentifier? bag = some identifier) :
    identifier = .occupancyIdentifier ∨
      identifier = .subaddressIdentifier ∧ bag.has .occupancyIdentifier = false := by
  rw [openIdentifier?, List.find?_cons] at found
  cases occupied : FieldStore.has bag Component.occupancyIdentifier with
  | true =>
      rw [occupied] at found
      cases found
      exact .inl rfl
  | false =>
      rw [occupied] at found
      have listed := List.mem_of_find?_eq_some found
      exact .inr ⟨List.mem_singleton.1 listed, occupied⟩

/-- The fragment leaves a field as it is, or puts a letter behind the identifier that it is. -/
theorem take_fragment_field (recovery : CityRecovery Bag) (component : Component) :
    recovery.takeFragment.store.get component = recovery.store.get component ∨
      ∃ letter, isLetter letter = true ∧
        openIdentifier? recovery.store = some component ∧
        recovery.takeFragment.store.get component =
          some (recovery.store.value component ++ [' ', letter]) := by
  rw [takeFragment]
  split
  case h_2 => exact .inl rfl
  case h_1 letter rest identifier fragment found =>
    by_cases same : component = identifier
    · subst same
      exact .inr ⟨letter, (fragment_parts _ _ _ fragment).2.1, found, Bag.get_set_self _ _ _⟩
    · exact .inl (Bag.get_set_other _ _ _ _ same)

end CityRecovery

def Bag.HasFragment (later earlier : Bag) (identifier : Component) : Prop :=
  ∃ letter, isLetter letter = true ∧
    later.get identifier = some (earlier.value identifier ++ [' ', letter])

/-- A field other than the city stays as it is unless it is a free field of a unit, or the identifier
that a fragment belongs to. -/
theorem recover_units_field (bag : Bag) (component : Component) (noCity : component ≠ .city) :
    (recoverUnits bag).get component = bag.get component ∨
      component ∈ recoveredFields ∧ bag.has component = false ∨
      (recoverUnits bag).HasFragment bag component ∧
        (component = .occupancyIdentifier ∨
          component = .subaddressIdentifier ∧ bag.has .occupancyIdentifier = false) := by
  simp only [recoverUnits]
  split
  case isTrue => exact .inl rfl
  case isFalse =>
    let recovery := (CityRecovery.ofSegments bag (bag.value .city)).takeDesignator
    have fills : recovery.store.FillsFree bag :=
      (CityRecovery.take_designator_fills _).trans (take_segments_fills bag _)
    have written : (FieldStore.set recovery.takeFragment.store .city
        recovery.takeFragment.city).get component = recovery.takeFragment.store.get component :=
      Bag.get_set_other _ _ _ _ noCity
    rcases fills component with kept | free
    · rcases recovery.take_fragment_field component with same | ⟨letter, alphabetic, found, extended⟩
      · exact .inl (written.trans (same.trans kept))
      · have value : recovery.store.value component = bag.value component :=
          congrArg (·.getD []) kept
        rw [value] at extended
        refine .inr (.inr ⟨⟨letter, alphabetic, written.trans extended⟩, ?_⟩)
        rcases CityRecovery.open_identifier_cases _ _ found with occupancy | ⟨larger, vacant⟩
        · exact .inl occupancy
        · -- What is free behind the stored units was free before.
          rcases fills .occupancyIdentifier with same | ⟨_, free⟩
          · rw [Bag.has, Bag.value, same] at vacant
            exact .inr ⟨larger, vacant⟩
          · exact .inr ⟨larger, free⟩
    · exact .inr (.inl free)

theorem recover_units_keeps_others (bag : Bag) : (recoverUnits bag).KeepsOthers bag := by
  intro component apart
  have noCity : component ≠ .city := fun same => apart (same ▸ List.mem_cons_self)
  rcases recover_units_field bag component noCity with same | free | ⟨_, occupancy | larger⟩
  · exact same
  · exact absurd free.1 apart
  · exact absurd (occupancy ▸ by decide) apart
  · exact absurd (larger.1 ▸ by decide) apart

end PostalAddress
