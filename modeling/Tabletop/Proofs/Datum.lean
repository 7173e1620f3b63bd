import Tabletop.Datum
import Tabletop.Proofs.Pool

/-!
# Values that can be shown

A value of unknown shape is shown whatever it is made of, unless it is or holds a number beyond
the digit limit.  Then showing it fails as writing that number does.
-/

namespace Tabletop

/-! ## Within the digit limit -/

/-- A computation succeeds if something is within the digit limit, and fails for the limit
otherwise. -/
structure Fault.LimitedBy (within : Prop) (outcome : Except Fault α) : Prop where
  ok : within → ∃ value, outcome = .ok value
  error : ¬ within → outcome = .error .numberTooLong

namespace Fault.LimitedBy

theorem of_ok (value : α) : LimitedBy True (.ok value) where
  ok := fun _ => ⟨value, rfl⟩
  error := fun beyond => absurd trivial beyond

theorem write (number : Int) : LimitedBy (Numeral.Writable number) (Numeral.write number) where
  ok := fun writable => ⟨_, Numeral.write_eq_ok_iff.mpr ⟨writable, rfl⟩⟩
  error := Numeral.write_of_not_writable

/-- Two steps succeed if what each of them needs is within the limit. -/
theorem bind
    {first second : Prop}
    {step : Except Fault α}
    {next : α → Except Fault β}
    (limited : LimitedBy first step)
    (limitedNext : ∀ value, LimitedBy second (next value)) :
    LimitedBy (first ∧ second) (step >>= next) where
  ok := by
    rintro ⟨firstWithin, secondWithin⟩
    obtain ⟨value, rfl⟩ := limited.ok firstWithin
    exact (limitedNext value).ok secondWithin
  error := by
    intro beyond
    by_cases firstWithin : first
    · obtain ⟨value, rfl⟩ := limited.ok firstWithin
      exact (limitedNext value).error fun secondWithin => beyond ⟨firstWithin, secondWithin⟩
    · rw [limited.error firstWithin]
      rfl

/-- What is made of a value afterwards needs nothing more. -/
theorem map
    {within : Prop}
    {step : Except Fault α}
    (limited : LimitedBy within step)
    (make : α → β) :
    LimitedBy within (step >>= fun value => pure (make value)) where
  ok := by
    intro inside
    obtain ⟨value, rfl⟩ := limited.ok inside
    exact ⟨make value, rfl⟩
  error := by
    intro beyond
    rw [limited.error beyond]
    rfl

theorem congr
    {within other : Prop}
    {outcome : Except Fault α}
    (limited : LimitedBy within outcome)
    (same : within ↔ other) :
    LimitedBy other outcome := by
  rwa [← same]

end Fault.LimitedBy

/-! ## Showing -/

namespace Datum

mutual

/-- The numbers that a value is made of. -/
def numbers : Datum → List Int
  | integer value => [value]
  | sequence items => numbersOfItems items
  | mapping entries => numbersOfEntries entries
  | _ => []

/-- The numbers that the items of a sequence are made of. -/
def numbersOfItems : List Datum → List Int
  | [] => []
  | item :: items => numbers item ++ numbersOfItems items

/-- The numbers that the values of a mapping are made of. -/
def numbersOfEntries : List (String × Datum) → List Int
  | [] => []
  | (_, value) :: entries => numbers value ++ numbersOfEntries entries

end

/-- A value can be put into words: all its numbers can be written. -/
def Worded (value : Datum) : Prop :=
  ∀ number ∈ value.numbers, Numeral.Writable number

theorem worded_integer_iff (number : Int) :
    (integer number).Worded ↔ Numeral.Writable number := by
  unfold Worded numbers
  rw [List.forall_mem_singleton]

mutual

/-- A value is shown exactly if its numbers can be written. -/
theorem limitedBy_shown (value : Datum) : Fault.LimitedBy value.Worded value.shown := by
  cases value with
  | integer number =>
      unfold shown
      exact (Fault.LimitedBy.write number).congr (worded_integer_iff number).symm
  | sequence items =>
      unfold shown Worded numbers
      exact (limitedBy_shownItems items).map _
  | mapping entries =>
      unfold shown Worded numbers
      exact (limitedBy_shownEntries entries).map _
  | truth value =>
      cases value <;>
        exact (Fault.LimitedBy.of_ok _).congr (by simp [Worded, numbers])
  | _ =>
      exact (Fault.LimitedBy.of_ok _).congr (by simp [Worded, numbers])

theorem limitedBy_shownItems (items : List Datum) :
    Fault.LimitedBy (∀ number ∈ numbersOfItems items, Numeral.Writable number)
      (shownItems items) := by
  cases items with
  | nil =>
      exact (Fault.LimitedBy.of_ok _).congr (by simp [numbersOfItems])
  | cons item items =>
      unfold shownItems numbersOfItems
      rw [List.forall_mem_append]
      exact (limitedBy_shown item).bind fun first => (limitedBy_shownItems items).map (first :: ·)

theorem limitedBy_shownEntries (entries : List (String × Datum)) :
    Fault.LimitedBy (∀ number ∈ numbersOfEntries entries, Numeral.Writable number)
      (shownEntries entries) := by
  cases entries with
  | nil =>
      exact (Fault.LimitedBy.of_ok _).congr (by simp [numbersOfEntries])
  | cons entry entries =>
      obtain ⟨name, value⟩ := entry
      unfold shownEntries numbersOfEntries
      rw [List.forall_mem_append]
      exact (limitedBy_shown value).bind fun first => (limitedBy_shownEntries entries).map _

end

end Datum
end Tabletop
