import PostalAddress.Proofs.RecoveredUnits
import PostalAddress.UnitPair

/-!
Units that are stored one after the other. Each goes to the slot at its own place among the slots
that were free at first, and a unit is dropped only behind so many others that none of them is
left.
A slot with a designator alone is as little free as one with an identifier alone.
-/

namespace PostalAddress

namespace UnitFields

def fields (slot : UnitFields) : List Component := [slot.designator, slot.identifier]

theorem designator_mem_fields (slot : UnitFields) : slot.designator ∈ slot.fields := .head _

theorem identifier_mem_fields (slot : UnitFields) : slot.identifier ∈ slot.fields :=
  .tail _ (.head _)

theorem fields_apart : ∀ slot ∈ all, ∀ other ∈ all, other ≠ slot →
    ∀ component ∈ other.fields, component ∉ slot.fields := by
  decide

theorem designator_ne_identifier : ∀ slot ∈ all, slot.designator ≠ slot.identifier := by
  decide

end UnitFields

namespace Bag

def freeSlots (bag : Bag) : List UnitFields := UnitFields.all.filter fun slot => slot.isFree bag

theorem is_free_eq (bag : Bag) (slot : UnitFields) :
    slot.isFree bag = (!bag.has slot.designator && !bag.has slot.identifier) := rfl

/-- The slot has the unit's designator, and its identifier unless that is empty. -/
structure HoldsUnit (later earlier : Bag) (slot : UnitFields) (unit : UnitText) : Prop where
  designator : later.get slot.designator = some unit.designator
  identifier : later.get slot.identifier =
    if unit.identifier = [] then earlier.get slot.identifier else some unit.identifier

/-- Units stored in order: each in the free slot at its place, or nowhere if every slot is occupied,
be it from the beginning or by a unit before it. -/
structure StoresUnits (later earlier : Bag) (units : List UnitText) : Prop where
  stored : ∀ (place : Nat) slot unit, earlier.freeSlots[place]? = some slot →
    units[place]? = some unit → later.HoldsUnit earlier slot unit
  dropped : ∀ place : Nat, place < units.length → earlier.freeSlots[place]? = none →
    ∀ slot ∈ UnitFields.all, slot.isFree earlier = false ∨
      ∃ before < place, earlier.freeSlots[before]? = some slot
  others : ∀ component, (∀ place < units.length, ∀ slot,
    earlier.freeSlots[place]? = some slot → component ∉ slot.fields) →
      later.get component = earlier.get component

theorem first_free_slot (bag : Bag) (slot : UnitFields) (rest : List UnitFields)
    (slots : bag.freeSlots = slot :: rest) :
    UnitFields.free? bag = some slot ∧ slot ∈ UnitFields.all ∧ slot ∉ rest := by
  have first : bag.freeSlots.head? = UnitFields.free? bag := List.head?_filter
  have listed : slot ∈ bag.freeSlots := by simp [slots]
  have distinct : bag.freeSlots.Nodup := List.Nodup.sublist List.filter_sublist (by decide)
  rw [slots] at first distinct
  exact ⟨first.symm, List.mem_of_mem_filter listed, (List.nodup_cons.1 distinct).1⟩

theorem no_free_slot (bag : Bag) (slots : bag.freeSlots = []) : UnitFields.free? bag = none := by
  have first : bag.freeSlots.head? = UnitFields.free? bag := List.head?_filter
  rw [slots] at first
  exact first.symm

theorem occupied_before (bag : Bag) (place : Nat) (beyond : bag.freeSlots[place]? = none)
    (slot : UnitFields) (listed : slot ∈ UnitFields.all) :
    slot.isFree bag = false ∨ ∃ before < place, bag.freeSlots[before]? = some slot := by
  cases free : slot.isFree bag with
  | false => exact .inl rfl
  | true =>
      have member : slot ∈ bag.freeSlots := List.mem_filter.2 ⟨listed, free⟩
      obtain ⟨before, found⟩ := List.mem_iff_getElem?.1 member
      refine .inr ⟨before, ?_, found⟩
      obtain ⟨inside, _⟩ := List.getElem?_eq_some_iff.1 found
      have outside := List.getElem?_eq_none_iff.1 beyond
      omega

section

variable (bag : Bag) (designator identifier : Text)

theorem store_unit_of_none (none : UnitFields.free? bag = none) :
    storeUnit bag designator identifier = bag := by
  rw [storeUnit, none]

/-- A unit in the first free slot: the fields of the slot, and those of no other. -/
theorem store_unit_of_some (slot : UnitFields) (listed : slot ∈ UnitFields.all)
    (free : UnitFields.free? bag = some slot) :
    (storeUnit bag designator identifier).HoldsUnit bag slot ⟨designator, identifier⟩ ∧
      ∀ component, component ∉ slot.fields →
        (storeUnit bag designator identifier).get component = bag.get component := by
  have apart := slot.designator_ne_identifier listed
  have stored : storeUnit bag designator identifier =
      if identifier.isEmpty then bag.set slot.designator designator
      else (bag.set slot.designator designator).set slot.identifier identifier := by
    rw [storeUnit, free]
    rfl
  have outside (component : Component) (absent : component ∉ slot.fields) :
      component ≠ slot.designator ∧ component ≠ slot.identifier := by
    constructor
    · intro same
      exact absent (same ▸ slot.designator_mem_fields)
    · intro same
      exact absent (same ▸ slot.identifier_mem_fields)
  by_cases empty : identifier = []
  · subst empty
    rw [stored, if_pos List.isEmpty_nil]
    refine ⟨⟨get_set_self _ _ _, ?_⟩, fun component absent => ?_⟩
    · exact get_set_other _ _ _ _ apart.symm
    · exact get_set_other _ _ _ _ (outside component absent).1
  · rw [stored, if_neg (by simpa using empty)]
    refine ⟨⟨?_, ?_⟩, fun component absent => ?_⟩
    · rw [get_set_other _ _ _ _ apart, get_set_self]
    · rw [if_neg empty, get_set_self]
    · obtain ⟨noDesignator, noIdentifier⟩ := outside component absent
      rw [get_set_other _ _ _ _ noIdentifier, get_set_other _ _ _ _ noDesignator]

/-- Storing a unit takes the first free slot and leaves the others free. -/
theorem free_slots_store_unit (slot : UnitFields) (rest : List UnitFields)
    (slots : bag.freeSlots = slot :: rest) (given : designator ≠ []) :
    (storeUnit bag designator identifier).freeSlots = rest := by
  obtain ⟨free, listed, fresh⟩ := bag.first_free_slot slot rest slots
  obtain ⟨holds, others⟩ := store_unit_of_some bag designator identifier slot listed free
  have occupied : slot.isFree (storeUnit bag designator identifier) = false := by
    have held : (storeUnit bag designator identifier).has slot.designator = true := by
      rw [has, value, holds.designator]
      simpa using given
    rw [is_free_eq, held]
    rfl
  have kept : ∀ other ∈ UnitFields.all,
      other.isFree (storeUnit bag designator identifier) = (other ≠ slot && other.isFree bag) := by
    intro other member
    by_cases same : other = slot
    · simp [same, occupied]
    · have apart := UnitFields.fields_apart slot listed other member same
      have unchanged : ∀ component ∈ other.fields,
          (storeUnit bag designator identifier).has component = bag.has component := by
        intro component field
        rw [has, has, value, value, others component (apart component field)]
      rw [is_free_eq, is_free_eq, unchanged _ other.designator_mem_fields,
        unchanged _ other.identifier_mem_fields]
      simp [same]
  have remaining : (storeUnit bag designator identifier).freeSlots =
      bag.freeSlots.filter fun other => other ≠ slot := by
    rw [freeSlots, List.filter_congr kept, ← List.filter_filter, freeSlots]
  rw [remaining, slots, List.filter_cons_of_neg (by simp)]
  apply List.filter_eq_self.2
  intro other member
  have different : other ≠ slot := fun same => fresh (same ▸ member)
  simpa using different

end

namespace StoresUnits

variable {last bag : Bag} {unit : UnitText} {rest : List UnitText}

theorem drop (slots : bag.freeSlots = []) (stores : last.StoresUnits bag rest) :
    last.StoresUnits bag (unit :: rest) where
  stored place slot _ found _ := by
    rw [slots] at found
    cases found
  dropped place _ beyond := bag.occupied_before place beyond
  others component _ := by
    apply stores.others
    intro place _ slot found
    rw [slots] at found
    cases found

theorem store {slot : UnitFields} {remaining : List UnitFields}
    (slots : bag.freeSlots = slot :: remaining) (given : unit.designator ≠ [])
    (stores : last.StoresUnits (storeUnit bag unit.designator unit.identifier) rest) :
    last.StoresUnits bag (unit :: rest) := by
  obtain ⟨free, listed, fresh⟩ := bag.first_free_slot slot remaining slots
  obtain ⟨holds, frame⟩ :=
    store_unit_of_some bag unit.designator unit.identifier slot listed free
  have left := free_slots_store_unit bag unit.designator unit.identifier slot remaining slots given
  have apart (place : Nat) (other : UnitFields) (found : remaining[place]? = some other) :
      other ∈ UnitFields.all ∧ other ≠ slot := by
    have member : other ∈ remaining := List.mem_of_getElem? found
    have ofFree : other ∈ bag.freeSlots := by simp [slots, member]
    exact ⟨List.mem_of_mem_filter ofFree, fun same => fresh (same ▸ member)⟩
  -- Later units go to other slots, so the fields of this one stay as they are stored.
  have untouched : ∀ component ∈ slot.fields,
      last.get component =
        (storeUnit bag unit.designator unit.identifier).get component := by
    intro component field
    apply stores.others
    intro place _ other found
    rw [left] at found
    obtain ⟨otherListed, different⟩ := apart place other found
    exact UnitFields.fields_apart other otherListed slot listed different.symm component field
  constructor
  case stored =>
    intro place other found slotFound unitFound
    rw [slots] at slotFound
    cases place with
    | zero =>
        cases slotFound
        cases unitFound
        constructor
        · rw [untouched _ slot.designator_mem_fields, holds.designator]
        · rw [untouched _ slot.identifier_mem_fields, holds.identifier]
    | succ place =>
        rw [List.getElem?_cons_succ] at slotFound unitFound
        obtain ⟨otherListed, different⟩ := apart place other slotFound
        have held := stores.stored place other found (left ▸ slotFound) unitFound
        have same := frame other.identifier
          (UnitFields.fields_apart slot listed other otherListed different _
            other.identifier_mem_fields)
        exact ⟨held.designator, same ▸ held.identifier⟩
  case dropped => exact fun place _ beyond => bag.occupied_before place beyond
  case others =>
    intro component absent
    have first := absent 0 (by simp) slot (by simp [slots])
    rw [← frame component first]
    apply stores.others
    intro place inside other found
    rw [left] at found
    exact absent (place + 1) (by simpa using inside) other (by simpa [slots] using found)

end StoresUnits

def storeAll (bag : Bag) (units : List UnitText) : Bag :=
  units.foldl (fun store unit => storeUnit store unit.designator unit.identifier) bag

theorem store_all_stores (bag : Bag) (units : List UnitText)
    (named : ∀ unit ∈ units, unit.designator ≠ []) :
    (bag.storeAll units).StoresUnits bag units := by
  induction units generalizing bag with
  | nil =>
      constructor
      case stored =>
        intro place slot unit _ impossible
        cases impossible
      case dropped => exact fun place _ beyond => bag.occupied_before place beyond
      case others =>
        intro component _
        rfl
  | cons unit rest induction =>
      have later := induction (storeUnit bag unit.designator unit.identifier)
        fun other member => named other (.tail _ member)
      cases slots : bag.freeSlots with
      | nil =>
          have same := store_unit_of_none bag unit.designator unit.identifier
            (bag.no_free_slot slots)
          rw [same] at later
          rw [storeAll, List.foldl_cons, same]
          exact later.drop slots
      | cons slot remaining => exact later.store slots (named unit (.head _))

end Bag

end PostalAddress
